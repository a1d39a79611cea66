import Mathlib.Data.BitVec

namespace EmbeddedPortfolio.Numeric

/-! Machine words as rows of bytes, least significant byte first. -/

def byteAt {width : Nat} (index : Nat) (word : BitVec width) : BitVec 8 :=
  (word >>> (8 * index)).setWidth 8

/-- What the sign of a byte leaves in the bytes above it. -/
def signFill (byte : BitVec 8) : BitVec 8 :=
  if byte.msb then BitVec.allOnes 8 else 0#8

/-- A byte widened with its sign and shifted into place. -/
def signedLane (width place : Nat) (byte : BitVec 8) : BitVec width :=
  byte.signExtend width <<< (8 * place)

theorem byteAt_getLsbD {width : Nat} (index : Nat) (word : BitVec width)
    {bit : Nat} (hbit : bit < 8) :
    (byteAt index word).getLsbD bit = word.getLsbD (8 * index + bit) := by
  rw [byteAt, BitVec.getLsbD_setWidth, BitVec.getLsbD_ushiftRight]
  simp [hbit]

theorem byteAt_or {width : Nat} (index : Nat) (first second : BitVec width) :
    byteAt index (first ||| second) =
      byteAt index first ||| byteAt index second := by
  apply BitVec.eq_of_getLsbD_eq
  intro bit hbit
  simp only [byteAt_getLsbD index _ hbit, BitVec.getLsbD_or]

theorem signFill_getLsbD (byte : BitVec 8) {bit : Nat} (hbit : bit < 8) :
    (signFill byte).getLsbD bit = byte.msb := by
  cases hsign : byte.msb with
  | true =>
      rw [signFill, if_pos hsign, BitVec.getLsbD_allOnes, decide_eq_true hbit]
  | false => simp [signFill, hsign]

theorem byteAt_signedLane {width : Nat} (index place : Nat)
    (inside : 8 * index + 8 ≤ width) (byte : BitVec 8) :
    byteAt index (signedLane width place byte) =
      if index < place then 0#8
      else if index = place then byte
      else signFill byte := by
  apply BitVec.eq_of_getLsbD_eq
  intro bit hbit
  have hwidth : 8 * index + bit < width := by omega
  rw [byteAt_getLsbD index _ hbit, signedLane, BitVec.getLsbD_shiftLeft,
    BitVec.getLsbD_signExtend]
  rcases Nat.lt_trichotomy index place with hbelow | heq | habove
  · have hshift : 8 * index + bit < 8 * place := by omega
    simp [hbelow, hshift]
  · subst heq
    have hposition : 8 * index + bit - 8 * index = bit := by omega
    have hsmall : bit < width := by omega
    simp [hwidth, hposition, hsmall, hbit]
  · have hshift : ¬ 8 * index + bit < 8 * place := by omega
    have hsign : ¬ 8 * index + bit - 8 * place < 8 := by omega
    have hsmall : 8 * index + bit - 8 * place < width := by omega
    rw [if_neg hsign, if_neg (by omega : ¬ index < place),
      if_neg (by omega : ¬ index = place), signFill_getLsbD byte hbit]
    simp [hwidth, hshift, hsmall]

theorem eq_of_byteAt (count : Nat) {first second : BitVec (8 * count)}
    (hbytes : ∀ index < count, byteAt index first = byteAt index second) :
    first = second := by
  apply BitVec.eq_of_getLsbD_eq
  intro position hposition
  have hindex : position / 8 < count := by omega
  have hbit : position % 8 < 8 := Nat.mod_lt position (by decide)
  have hsplit : 8 * (position / 8) + position % 8 = position :=
    Nat.div_add_mod position 8
  have hbyte := congrArg (fun byte => byte.getLsbD (position % 8))
    (hbytes (position / 8) hindex)
  simpa only [byteAt_getLsbD _ _ hbit, hsplit] using hbyte

theorem signFill_or_eq_iff (below byte : BitVec 8) :
    signFill below ||| byte = byte ↔
      (below.msb = true → byte = BitVec.allOnes 8) := by
  cases hsign : below.msb with
  | true =>
      rw [signFill, if_pos hsign, BitVec.allOnes_or]
      simp [eq_comm]
  | false => simp [signFill, hsign]

theorem or_or_eq_iff {width : Nat} (first second word : BitVec width) :
    first ||| second ||| word = word ↔
      first ||| word = word ∧ second ||| word = word := by
  constructor
  · intro hboth
    have hfirst : first ||| word = word := by
      calc
        first ||| word = first ||| (first ||| second ||| word) := by rw [hboth]
        _ = first ||| second ||| word := by
          rw [← BitVec.or_assoc, ← BitVec.or_assoc, BitVec.or_self]
        _ = word := hboth
    refine ⟨hfirst, ?_⟩
    calc
      second ||| word = second ||| (first ||| word) := by rw [hfirst]
      _ = first ||| second ||| word := by
        rw [← BitVec.or_assoc, BitVec.or_comm second]
      _ = word := hboth
  · intro heach
    rw [BitVec.or_assoc, heach.2, heach.1]

theorem msb_eq_true_iff (byte : BitVec 8) :
    byte.msb = true ↔ 128 ≤ byte.toNat := by
  rw [BitVec.msb_eq_decide]
  simp

theorem eq_allOnes_iff (byte : BitVec 8) :
    byte = BitVec.allOnes 8 ↔ byte.toNat = 255 := by
  rw [← BitVec.toNat_inj]
  rfl

end EmbeddedPortfolio.Numeric
