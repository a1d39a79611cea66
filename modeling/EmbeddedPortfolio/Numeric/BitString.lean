import Mathlib.Data.List.Induction
import Mathlib.Data.Nat.Bits
import Mathlib.Tactic.Ring

namespace EmbeddedPortfolio.Numeric

/-! Bit strings, most significant bit first. -/

def ofBits (bits : List Bool) : Nat :=
  bits.foldl (fun value bit => 2 * value + bit.toNat) 0

def bitsOf (width value : Nat) : List Bool :=
  (List.range width).map fun index => value.testBit (width - 1 - index)

def window (stream : Nat → Bool) (start length : Nat) : List Bool :=
  (List.range length).map fun index => stream (start + index)

@[simp] theorem ofBits_nil : ofBits [] = 0 := rfl

@[simp] theorem ofBits_append_singleton (bits : List Bool) (bit : Bool) :
    ofBits (bits ++ [bit]) = 2 * ofBits bits + bit.toNat := by
  simp [ofBits]

theorem ofBits_append (first second : List Bool) :
    ofBits (first ++ second) =
      ofBits first * 2 ^ second.length + ofBits second := by
  induction second using List.reverseRecOn with
  | nil => simp
  | append_singleton second bit induction =>
      rw [← List.append_assoc, ofBits_append_singleton, induction,
        ofBits_append_singleton, List.length_append, List.length_singleton,
        Nat.pow_succ]
      ring

/-- A value determines the bit string of a given length that denotes it. -/
theorem ofBits_injective {first second : List Bool}
    (hlength : first.length = second.length)
    (hvalue : ofBits first = ofBits second) : first = second := by
  induction first using List.reverseRecOn generalizing second with
  | nil => exact (List.eq_nil_of_length_eq_zero hlength.symm).symm
  | append_singleton first bit induction =>
      rcases List.eq_nil_or_concat second with rfl | ⟨rest, other, rfl⟩
      · simp at hlength
      · rw [List.concat_eq_append] at hlength hvalue ⊢
        rw [ofBits_append_singleton, ofBits_append_singleton] at hvalue
        have hbit : bit = other := by
          cases bit <;> cases other <;> simp at hvalue ⊢ <;> omega
        have hrest : first = rest := by
          apply induction
          · simpa using hlength
          · rw [hbit] at hvalue
            omega
        rw [hrest, hbit]

@[simp] theorem window_length (stream : Nat → Bool) (start length : Nat) :
    (window stream start length).length = length := by
  simp [window]

theorem window_add (stream : Nat → Bool) (start first second : Nat) :
    window stream start (first + second) =
      window stream start first ++ window stream (start + first) second := by
  simp [window, List.range_add, Function.comp_def, Nat.add_assoc]

theorem window_eq_iff {stream : Nat → Bool} {first second length : Nat} :
    window stream first length = window stream second length ↔
      ∀ index < length, stream (first + index) = stream (second + index) := by
  simp [window, List.map_inj_left]

theorem ofBits_window_eq_iff {stream : Nat → Bool}
    {first second length : Nat} :
    ofBits (window stream first length) =
        ofBits (window stream second length) ↔
      ∀ index < length, stream (first + index) = stream (second + index) := by
  rw [← window_eq_iff]
  refine ⟨ofBits_injective (by simp), ?_⟩
  intro hequal
  rw [hequal]

theorem bitsOf_succ (width value : Nat) :
    bitsOf (width + 1) value =
      bitsOf width (value / 2) ++ [value.testBit 0] := by
  rw [bitsOf, List.range_succ, List.map_append, bitsOf]
  congr 1
  · apply List.map_congr_left
    intro index hindex
    rw [List.mem_range] at hindex
    have hposition : width + 1 - 1 - index = (width - 1 - index) + 1 := by
      omega
    rw [hposition, Nat.testBit_succ]
  · simp

theorem ofBits_bitsOf {width value : Nat} (hvalue : value < 2 ^ width) :
    ofBits (bitsOf width value) = value := by
  induction width generalizing value with
  | zero =>
      have hzero : value = 0 := by simpa using hvalue
      simp [bitsOf, hzero]
  | succ width induction =>
      rw [Nat.pow_succ] at hvalue
      rw [bitsOf_succ, ofBits_append_singleton, induction (by omega),
        Nat.testBit_zero]
      rcases Nat.mod_two_eq_zero_or_one value with heven | hodd
      · simp only [heven, decide_false, zero_ne_one, Bool.toNat_false]
        omega
      · simp only [hodd, decide_true, Bool.toNat_true]
        omega

end EmbeddedPortfolio.Numeric
