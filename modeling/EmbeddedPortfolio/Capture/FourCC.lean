import EmbeddedPortfolio.Numeric.ByteLanes
import Mathlib.Data.List.OfFn
import Mathlib.Data.List.Chain
import Mathlib.Logic.Function.Basic

namespace EmbeddedPortfolio.Capture

open EmbeddedPortfolio.Numeric

/-! Pixel format codes and their four-character names.  A `char` is a signed
byte, so widening one copies its sign into the upper bytes. -/

def space : Int8 := 32

def widened (c : Int8) : UInt32 := c.toInt32.toUInt32

def narrowed (f : UInt32) : Int8 := f.toUInt8.toInt8

def v4l2Fourcc (a b c d : Int8) : UInt32 :=
  widened a ||| (widened b <<< 8) ||| (widened c <<< 16) |||
    (widened d <<< 24)

/-- The copying loop from index `i` on, with the characters not yet read. -/
def copyChars (i : Nat) (c : Fin 4 → Int8) : List Int8 → Fin 4 → Int8
  | [] => c
  | x :: rest =>
      if room : i < 4 then
        copyChars (i + 1) (Function.update c ⟨i, room⟩ x) rest
      else c

def fourccFromString (s : List Int8) : UInt32 :=
  let c := copyChars 0 (fun _ => space) s
  v4l2Fourcc (c 0) (c 1) (c 2) (c 3)

def fourccToString (f : UInt32) : List Int8 :=
  [narrowed (f &&& 0xff), narrowed ((f >>> 8) &&& 0xff),
    narrowed ((f >>> 16) &&& 0xff), narrowed ((f >>> 24) &&& 0xff)]

/-! A name is cut to four characters, or filled up with spaces. -/

def padded (s : List Int8) : List Int8 :=
  s.take 4 ++ List.replicate (4 - s.length) space

theorem copyChars_apply (i : Nat) (c : Fin 4 → Int8) (s : List Int8)
    (k : Fin 4) :
    copyChars i c s k = if i ≤ k then s.getD (k - i) (c k) else c k := by
  induction s generalizing i c with
  | nil => simp [copyChars]
  | cons x rest induction =>
      by_cases hroom : i < 4
      · rw [copyChars, dif_pos hroom, induction]
        rcases Nat.lt_trichotomy i k with hlt | heq | hgt
        · have hne : k ≠ ⟨i, hroom⟩ := by
            intro hsame
            rw [hsame] at hlt
            exact Nat.lt_irrefl i hlt
          obtain ⟨gap, hgap⟩ := Nat.exists_eq_add_of_lt hlt
          have hnext : (k : Nat) - i = gap + 1 := by omega
          have hrest : (k : Nat) - (i + 1) = gap := by omega
          rw [if_pos (Nat.succ_le_of_lt hlt), if_pos hlt.le, Function.update_of_ne hne, hnext,
            hrest, List.getD_cons_succ]
        · subst heq
          simp
        · have hne : k ≠ ⟨i, hroom⟩ := by
            intro hsame
            rw [hsame] at hgt
            exact Nat.lt_irrefl i hgt
          rw [if_neg (by omega), if_neg (by omega), Function.update_of_ne hne]
      · have hpast : ¬ i ≤ k := by omega
        rw [copyChars, dif_neg hroom, if_neg hpast]

theorem copyChars_eq_padded (s : List Int8) :
    List.ofFn (copyChars 0 (fun _ => space) s) = padded s := by
  apply List.ext_getElem
  · simp [padded]
    omega
  · intro k hleft hright
    rw [List.getElem_ofFn, copyChars_apply]
    have hk : k < 4 := by simpa using hleft
    by_cases hread : k < s.length
    · simp [padded, hk, hread]
    · simp [padded, hread, List.getElem_append]

/-! Reading a code back byte by byte. -/

theorem narrowed_mask (f : UInt32) :
    (narrowed (f &&& 0xff)).toBitVec = f.toBitVec.setWidth 8 := by
  have hmask : (narrowed (f &&& 0xff)).toBitVec =
      (f.toBitVec &&& 0xff#32).setWidth 8 := rfl
  have hones : (0xff#32).setWidth 8 = BitVec.allOnes 8 := rfl
  rw [hmask, BitVec.setWidth_and, hones, BitVec.and_allOnes]

theorem fourccToString_toBitVec (f : UInt32) :
    (fourccToString f).map Int8.toBitVec =
      (List.range 4).map fun index => byteAt index f.toBitVec := by
  simp only [fourccToString, List.map_cons, List.map_nil, narrowed_mask]
  rfl

theorem v4l2Fourcc_toBitVec (a b c d : Int8) :
    (v4l2Fourcc a b c d).toBitVec =
      signedLane 32 0 a.toBitVec ||| signedLane 32 1 b.toBitVec |||
        signedLane 32 2 c.toBitVec ||| signedLane 32 3 d.toBitVec := by
  have hfirst : signedLane 32 0 a.toBitVec = (widened a).toBitVec :=
    BitVec.shiftLeft_zero _
  rw [hfirst]
  rfl

theorem fourccToString_injective : Function.Injective fourccToString := by
  intro first second hnames
  have hbytes := congrArg (List.map Int8.toBitVec) hnames
  rw [fourccToString_toBitVec, fourccToString_toBitVec, List.map_inj_left]
    at hbytes
  apply UInt32.toBitVec_inj.mp
  apply eq_of_byteAt 4
  intro index hindex
  exact hbytes index (List.mem_range.mpr hindex)

theorem fourccToString_v4l2Fourcc (a b c d : Int8) :
    (fourccToString (v4l2Fourcc a b c d)).map Int8.toBitVec =
      [a.toBitVec, signFill a.toBitVec ||| b.toBitVec,
        signFill a.toBitVec ||| signFill b.toBitVec ||| c.toBitVec,
        signFill a.toBitVec ||| signFill b.toBitVec |||
          signFill c.toBitVec ||| d.toBitVec] := by
  rw [fourccToString_toBitVec, v4l2Fourcc_toBitVec]
  have hindices : List.range 4 = [0, 1, 2, 3] := rfl
  simp [hindices, byteAt_or, byteAt_signedLane]

/-! A byte above 127 survives only under bytes that are 255. -/

def SignFilled (bytes : List Nat) : Prop :=
  bytes.IsChain fun below above => 128 ≤ below → above = 255

def codeBytes (f : UInt32) : List Nat :=
  (List.range 4).map fun index => f.toNat / 256 ^ index % 256

def nameBytes (s : List Int8) : List Nat :=
  (padded s).map fun x => x.toUInt8.toNat

theorem v4l2Fourcc_round_trip_iff (a b c d : Int8) :
    fourccToString (v4l2Fourcc a b c d) = [a, b, c, d] ↔
      SignFilled ([a, b, c, d].map fun x => x.toUInt8.toNat) := by
  have hinjective : Function.Injective Int8.toBitVec :=
    fun _ _ hsame => Int8.toBitVec_inj.mp hsame
  have hbytes : ∀ x : Int8, x.toUInt8.toNat = x.toBitVec.toNat := fun _ => rfl
  rw [← (List.map_injective_iff.mpr hinjective).eq_iff,
    fourccToString_v4l2Fourcc]
  simp only [List.map_cons, List.map_nil, List.cons.injEq, and_true, true_and,
    SignFilled, List.isChain_cons_cons, List.isChain_singleton, hbytes,
    or_or_eq_iff, signFill_or_eq_iff, msb_eq_true_iff, eq_allOnes_iff]
  omega

theorem fourccToString_fourccFromString_iff (s : List Int8) :
    fourccToString (fourccFromString s) = padded s ↔
      SignFilled (nameBytes s) := by
  rw [nameBytes, ← copyChars_eq_padded]
  exact v4l2Fourcc_round_trip_iff _ _ _ _

theorem padded_fourccToString (f : UInt32) :
    padded (fourccToString f) = fourccToString f := rfl

theorem nameBytes_fourccToString (f : UInt32) :
    nameBytes (fourccToString f) = codeBytes f := by
  have hbytes : ∀ index : Nat, (byteAt index f.toBitVec).toNat =
      f.toNat / 256 ^ index % 256 := by
    intro index
    rw [byteAt, BitVec.toNat_setWidth, BitVec.toNat_ushiftRight,
      Nat.shiftRight_eq_div_pow, Nat.pow_mul]
    rfl
  calc
    nameBytes (fourccToString f) =
        ((fourccToString f).map Int8.toBitVec).map BitVec.toNat := rfl
    _ = codeBytes f := by
      rw [fourccToString_toBitVec, List.map_map, codeBytes]
      exact List.map_congr_left fun index _ => hbytes index

theorem fourccFromString_fourccToString_iff (f : UInt32) :
    fourccFromString (fourccToString f) = f ↔ SignFilled (codeBytes f) := by
  rw [← fourccToString_injective.eq_iff, ← nameBytes_fourccToString,
    ← fourccToString_fourccFromString_iff, padded_fourccToString]

theorem fourcc_conversions_iff (f : UInt32) (s : List Int8) :
    (fourccFromString (fourccToString f) = f ↔ SignFilled (codeBytes f)) ∧
      (fourccToString (fourccFromString s) = padded s ↔
        SignFilled (nameBytes s)) :=
  ⟨fourccFromString_fourccToString_iff f, fourccToString_fourccFromString_iff s⟩

theorem fourcc_sign_spreads :
    fourccFromString (fourccToString 0x80) = 0xffffff80 ∧
      fourccFromString (fourccToString 0x80) ≠ 0x80 ∧
      fourccToString (fourccFromString [-23]) = [-23, -1, -1, -1] ∧
      fourccToString (fourccFromString [-23]) ≠ padded [-23] := by
  decide +kernel

end EmbeddedPortfolio.Capture
