import Mathlib.Algebra.Order.Round
import Mathlib.Tactic.Linarith

namespace EmbeddedPortfolio.Numeric

universe u

/-! Conversions of the C language from exact reals to machine integers. -/

section Rounding

variable {K : Type u} [Field K] [LinearOrder K] [FloorRing K]

/-- Conversion to an integer type drops the fraction. -/
def truncate (value : K) : Int :=
  if value < 0 then ⌈value⌉ else ⌊value⌋

/-- To the nearest integer, halves away from zero. -/
def lround (value : K) : Int :=
  if value < 0 then -round (-value) else round value

theorem truncate_of_nonneg {value : K} (nonneg : 0 ≤ value) :
    truncate value = ⌊value⌋ :=
  if_neg (not_lt.mpr nonneg)

theorem truncate_nonneg {value : K} (nonneg : 0 ≤ value) :
    0 ≤ truncate value := by
  rw [truncate_of_nonneg nonneg]
  exact Int.floor_nonneg.mpr nonneg

theorem truncate_nonneg_of_lt {value : K} [IsStrictOrderedRing K]
    (lower : -1 < value) : 0 ≤ truncate value := by
  unfold truncate
  split
  · apply Int.le_of_sub_one_lt
    rw [Int.lt_ceil]
    push_cast
    linarith
  · rename_i hvalue
    exact Int.floor_nonneg.mpr (not_lt.mp hvalue)

theorem truncate_lt {value : K} [IsStrictOrderedRing K] {bound : Int}
    (positive : 0 < bound) (upper : value < bound) :
    truncate value < bound := by
  unfold truncate
  split
  · rename_i hvalue
    exact Int.lt_of_le_of_lt (Int.ceil_le.mpr (by exact_mod_cast hvalue.le))
      positive
  · exact Int.floor_lt.mpr upper

variable [IsStrictOrderedRing K]

@[simp] theorem truncate_intCast (value : Int) :
    truncate (value : K) = value := by
  unfold truncate
  split
  · exact Int.ceil_intCast value
  · exact Int.floor_intCast value

theorem truncate_le {value : K} {bound : Int} (nonneg : 0 ≤ value)
    (upper : value ≤ bound) : truncate value ≤ bound := by
  rw [truncate_of_nonneg nonneg, ← Int.floor_intCast (R := K) bound]
  exact Int.floor_le_floor upper

theorem abs_truncate_sub_lt (value : K) :
    |(truncate value : K) - value| < 1 := by
  rw [abs_lt]
  unfold truncate
  split
  · have hceil := Int.ceil_lt_add_one value
    have hle := Int.le_ceil value
    constructor
    · linarith
    · linarith
  · have hfloor := Int.lt_floor_add_one value
    have hle := Int.floor_le value
    constructor
    · linarith
    · linarith

theorem abs_sub_lround (value : K) : |value - lround value| ≤ 1 / 2 := by
  unfold lround
  split
  · have hnear := abs_sub_round (-value)
    rw [← abs_neg] at hnear
    simpa [add_comm] using hnear
  · exact abs_sub_round value

/-- A multiple of the scale stands for every value at most half a step away. -/
theorem abs_sub_lround_mul {scale : K} (hscale : 0 < scale) (value : K) :
    |value - lround (value / scale) * scale| ≤ scale / 2 := by
  have hnear := abs_sub_lround (value / scale)
  have hscaled : value - lround (value / scale) * scale =
      (value / scale - lround (value / scale)) * scale := by
    rw [sub_mul, div_mul_cancel₀ value hscale.ne']
  rw [hscaled, abs_mul, abs_of_pos hscale]
  linarith [mul_le_mul_of_nonneg_right hnear hscale.le]

theorem le_lround {value : K} {bound : Int} (lower : bound ≤ value) :
    bound ≤ lround value := by
  have hnear := (abs_le.mp (abs_sub_lround value)).2
  have hbound : (bound : K) < (lround value + 1 : Int) := by
    push_cast
    linarith
  exact Int.lt_add_one_iff.mp (Int.cast_lt.mp hbound)

theorem lround_le {value : K} {bound : Int} (upper : value ≤ bound) :
    lround value ≤ bound := by
  have hnear := (abs_le.mp (abs_sub_lround value)).1
  have hbound : (lround value : K) < (bound + 1 : Int) := by
    push_cast
    linarith
  exact Int.lt_add_one_iff.mp (Int.cast_lt.mp hbound)

/-- The code of a value between two multiples of the scale. -/
theorem lround_div_mem {scale value : K} {low high : Int} (hscale : 0 < scale)
    (lower : low * scale ≤ value) (upper : value ≤ high * scale) :
    low ≤ lround (value / scale) ∧ lround (value / scale) ≤ high := by
  constructor
  · exact le_lround ((le_div_iff₀ hscale).mpr lower)
  · exact lround_le ((div_le_iff₀ hscale).mpr upper)

end Rounding

/-! Unsigned types keep a value modulo their range. -/

def toUInt8 (value : Int) : UInt8 :=
  .ofBitVec (.ofInt 8 value)

def toUInt16 (value : Int) : UInt16 :=
  .ofBitVec (.ofInt 16 value)

def toUInt32 (value : Int) : UInt32 :=
  .ofBitVec (.ofInt 32 value)

theorem toUInt8_toNat {value : Int} (nonneg : 0 ≤ value)
    (fits : value < 256) : ((toUInt8 value).toNat : Int) = value := by
  simp only [toUInt8, UInt8.toNat_ofBitVec, BitVec.toNat_ofInt]
  omega

theorem toUInt16_toNat {value : Int} (nonneg : 0 ≤ value)
    (fits : value < 65536) : ((toUInt16 value).toNat : Int) = value := by
  simp only [toUInt16, UInt16.toNat_ofBitVec, BitVec.toNat_ofInt]
  omega

theorem toUInt32_toNat {value : Int} (nonneg : 0 ≤ value)
    (fits : value < 4294967296) : ((toUInt32 value).toNat : Int) = value := by
  simp only [toUInt32, UInt32.toNat_ofBitVec, BitVec.toNat_ofInt]
  omega

end EmbeddedPortfolio.Numeric
