import Mathlib.Data.Int.ModEq
import EmbeddedPortfolio.Numeric.MachineInt

namespace EmbeddedPortfolio.Numeric

universe u

open Shifts MachineWord

/-! Steps that may wrap on the way: sums, differences and products are right
modulo 2^32 whatever happened before them, and so the word is right wherever
the integer fits. -/

namespace Shadow

section General

variable {A : Type u} [MachineWord A]

/-- The word is the integer, whatever the steps before it did. -/
def Holds (shadow : Shadow A) : Prop :=
  value shadow.word = shadow.exact

/-- The word is the integer, but for what wraps around. -/
def Congruent (shadow : Shadow A) : Prop :=
  value shadow.word ≡ shadow.exact [ZMOD 2 ^ 32]

theorem Holds.congruent {shadow : Shadow A} (holds : shadow.Holds) :
    shadow.Congruent :=
  congrArg (· % 2 ^ 32) holds

theorem holds_ofWord (word : A) : (ofWord word).Holds :=
  rfl

end General

theorem modEq_of_bmod {word exact : Int}
    (wrapped : word = exact.bmod (2 ^ 32)) : word ≡ exact [ZMOD 2 ^ 32] := by
  rw [wrapped]
  exact Int.bmod_emod

theorem modEq_of_emod {word exact : Int} (wrapped : word = exact % 2 ^ 32) :
    word ≡ exact [ZMOD 2 ^ 32] := by
  rw [wrapped]
  exact Int.emod_emod ..

section Signed

variable {left right : Shadow Int32}

theorem Congruent.holds_signed (congruent : left.Congruent)
    (fits : Fits Int32 left.exact) : left.Holds := by
  have hword := fits_int32_toInt left.word
  rw [fits_int32] at fits hword
  have hequal : left.word.toInt % 2 ^ 32 = left.exact % 2 ^ 32 := congruent
  show left.word.toInt = left.exact
  omega

theorem congruent_s32 (value : Int) :
    (SignedArithmetic.s32 value : Shadow Int32).Congruent :=
  modEq_of_bmod Int32.toInt_ofInt

theorem holds_s32 {value : Int} (fits : Fits Int32 value) :
    (SignedArithmetic.s32 value : Shadow Int32).Holds :=
  (congruent_s32 value).holds_signed fits

theorem Congruent.add (hleft : left.Congruent) (hright : right.Congruent) :
    (left + right).Congruent := by
  refine Int.ModEq.trans ?_ (Int.ModEq.add hleft hright)
  exact modEq_of_bmod (Int32.toInt_add ..)

theorem Congruent.sub (hleft : left.Congruent) (hright : right.Congruent) :
    (left - right).Congruent := by
  refine Int.ModEq.trans ?_ (Int.ModEq.sub hleft hright)
  exact modEq_of_bmod (Int32.toInt_sub ..)

theorem Congruent.mul (hleft : left.Congruent) (hright : right.Congruent) :
    (left * right).Congruent := by
  refine Int.ModEq.trans ?_ (Int.ModEq.mul hleft hright)
  exact modEq_of_bmod (Int32.toInt_mul ..)

theorem Congruent.shiftLeft (hleft : left.Congruent) {count : Nat}
    (small : count < 31) : (shl left count).Congruent := by
  refine Int.ModEq.trans ?_ (Int.ModEq.mul_right _ hleft)
  exact modEq_of_bmod (int32_shiftLeft _ small)

/-- A shift to the right keeps what the bits before it lost. -/
theorem Holds.shiftRight (hleft : left.Holds) (count : Nat) :
    (shr left count).Holds :=
  (int32_shiftRight left.word count).trans (congrArg (· / 2 ^ count) hleft)

/-- Zero times a word that has wrapped. -/
theorem Holds.zero_mul (hleft : left.Holds) (zero : left.exact = 0) :
    (left * right).Holds := by
  have hword : left.word.toInt = 0 := hleft.trans zero
  show (left.word * right.word).toInt = left.exact * right.exact
  rw [Int32.toInt_mul, hword, zero, Int.zero_mul, Int.zero_mul]
  rfl

theorem Holds.mul_zero (hright : right.Holds) (zero : right.exact = 0) :
    (left * right).Holds := by
  have hword : right.word.toInt = 0 := hright.trans zero
  show (left.word * right.word).toInt = left.exact * right.exact
  rw [Int32.toInt_mul, hword, zero, Int.mul_zero, Int.mul_zero]
  rfl

end Signed

section Unsigned

variable {left right less other : Shadow UInt32}

theorem Congruent.holds_unsigned (congruent : left.Congruent)
    (fits : Fits UInt32 left.exact) : left.Holds := by
  have hword := fits_uint32_toNat left.word
  rw [fits_uint32] at fits hword
  have hequal : (left.word.toNat : Int) % 2 ^ 32 = left.exact % 2 ^ 32 :=
    congruent
  show (left.word.toNat : Int) = left.exact
  omega

theorem Holds.fits_unsigned (hleft : left.Holds) :
    Fits UInt32 left.exact := by
  have hvalue : value left.word = left.exact := hleft
  rw [← hvalue]
  exact fits_uint32_toNat left.word

theorem congruent_u32 (value : Nat) :
    (UnsignedArithmetic.u32 value : Shadow UInt32).Congruent := by
  have hword : ((UInt32.ofNat value).toNat : Int) = (value : Int) % 2 ^ 32 := by
    rw [UInt32.toNat_ofNat']
    push_cast
    rfl
  exact modEq_of_emod hword

theorem Congruent.mul_unsigned (hleft : left.Congruent)
    (hright : right.Congruent) : (left * right).Congruent := by
  have hword : ((left.word * right.word).toNat : Int) =
      (left.word.toNat * right.word.toNat : Int) % 2 ^ 32 := by
    rw [UInt32.toNat_mul]
    push_cast
    rfl
  refine Int.ModEq.trans ?_ (Int.ModEq.mul hleft hright)
  exact modEq_of_emod hword

theorem Congruent.shiftLeft_unsigned (hleft : left.Congruent) (count : Nat) :
    (shl left count).Congruent := by
  refine Int.ModEq.trans ?_ (Int.ModEq.mul_right _ hleft)
  exact modEq_of_emod (uint32_shiftLeft ..)

theorem Holds.shiftRight_unsigned (hleft : left.Holds) (count : Nat) :
    (shr left count).Holds :=
  (uint32_shiftRight left.word count).trans
    (congrArg (· / 2 ^ count) hleft)

theorem Holds.div (hleft : left.Holds) (hright : right.Holds) :
    (left / right).Holds := by
  have hword : ((left.word / right.word).toNat : Int) =
      left.word.toNat / right.word.toNat := by
    rw [UInt32.toNat_div]
    push_cast
    rfl
  exact hword.trans (congrArg₂ (· / ·) hleft hright)

/-- Only the branch that the exact test takes has to hold. -/
theorem holds_ifLess (hleft : left.Holds) (hright : right.Holds)
    (hless : left.exact < right.exact → less.Holds)
    (hother : right.exact ≤ left.exact → other.Holds) :
    (UnsignedArithmetic.ifLess left right less other).Holds := by
  have htest : left.word < right.word ↔ left.exact < right.exact := by
    have hvalues : (left.word.toNat : Int) < right.word.toNat ↔
        left.exact < right.exact :=
      iff_of_eq (congrArg₂ (· < ·) hleft hright)
    rw [UInt32.lt_iff_toNat_lt, ← Int.ofNat_lt]
    exact hvalues
  show value (if left.word < right.word then less.word else other.word) =
    if left.exact < right.exact then less.exact else other.exact
  by_cases below : left.exact < right.exact
  · rw [if_pos (htest.mpr below), if_pos below]
    exact hless below
  · rw [if_neg (mt htest.mp below), if_neg below]
    exact hother (not_lt.mp below)

end Unsigned

section Mixed

variable {unsigned : Shadow UInt32} {signed : Shadow Int32}

theorem Congruent.sub_signed (hunsigned : unsigned.Congruent)
    (hsigned : signed.Congruent) : (unsigned - signed).Congruent := by
  refine Int.ModEq.trans ?_ (Int.ModEq.sub hunsigned hsigned)
  exact modEq_of_emod (uint32_sub_signed ..)

theorem Congruent.toUnsigned (hsigned : signed.Congruent) :
    (MixedArithmetic.toUnsigned signed : Shadow UInt32).Congruent :=
  (modEq_of_emod (int32_toUInt32 _)).trans hsigned

theorem Congruent.toSigned (hunsigned : unsigned.Congruent) :
    (MixedArithmetic.toSigned unsigned : Shadow Int32).Congruent :=
  (modEq_of_bmod (uint32_toInt32 _)).trans hunsigned

theorem holds_ifZero {zero other : Shadow UInt32} (hsigned : signed.Holds)
    (hzero : signed.exact = 0 → zero.Holds)
    (hother : signed.exact ≠ 0 → other.Holds) :
    (MixedArithmetic.ifZero signed zero other).Holds := by
  have htest : signed.word = 0 ↔ signed.exact = 0 := by
    have hvalue : signed.word.toInt = signed.exact := hsigned
    rw [← hvalue, ← Int32.toInt_inj]
    rfl
  show value (if signed.word = 0 then zero.word else other.word) =
    if signed.exact = 0 then zero.exact else other.exact
  by_cases vanishes : signed.exact = 0
  · rw [if_pos (htest.mpr vanishes), if_pos vanishes]
    exact hzero vanishes
  · rw [if_neg (mt htest.mp vanishes), if_neg vanishes]
    exact hother vanishes

end Mixed

end Shadow

end EmbeddedPortfolio.Numeric
