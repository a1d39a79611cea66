import EmbeddedPortfolio.Sensor.Pressure
import Mathlib.Tactic.Ring

namespace EmbeddedPortfolio.Sensor

open EmbeddedPortfolio.Numeric
open Shifts SignedArithmetic MixedArithmetic

/-! The division of the pressure path: the guard before it, and its two
branches. -/

section Guard

variable (c : Bmp280Calib)

theorem pressureSlope_mem (var1 : Int32) :
    -8192 ≤ (pressureSlope c var1).toInt ∧
      (pressureSlope c var1).toInt ≤ 8191 :=
  int32_shiftRight_mem _ 18

/-- The product by which the divisor is made, before it wraps. -/
theorem slopeProduct_mem {slope : Int} (range : -8192 ≤ slope ∧ slope ≤ 8191)
    (digP1 : UInt16) :
    0 ≤ (32768 + slope) * (digP1.toNat : Int) ∧
      (32768 + slope) * (digP1.toNat : Int) ≤ 2684248065 := by
  have hword := digP1.toNat_lt
  constructor
  · exact mul_nonneg (by omega) (by omega)
  · calc
      (32768 + slope) * (digP1.toNat : Int) ≤ 40959 * 65535 :=
        mul_le_mul (by omega) (by omega) (by omega) (by decide)
      _ = 2684248065 := by decide

/-- A product that wraps is negative, and far from zero. -/
theorem wrapped_eq_zero_iff {product : Int} (nonneg : 0 ≤ product)
    (bound : product ≤ 2684248065) :
    product.bmod (2 ^ 32) / 2 ^ 15 = 0 ↔ product < 32768 := by
  rw [Int.bmod_def]
  split
  · omega
  · omega

theorem slopeProduct_lt_iff {slope : Int}
    (range : -8192 ≤ slope ∧ slope ≤ 8191) (digP1 : UInt16) :
    (32768 + slope) * (digP1.toNat : Int) < 32768 ↔
      digP1 = 0 ∨ digP1 = 1 ∧ slope < 0 := by
  rw [← UInt16.toNat_inj, ← UInt16.toNat_inj]
  show _ ↔ digP1.toNat = 0 ∨ digP1.toNat = 1 ∧ slope < 0
  rcases Nat.lt_or_ge digP1.toNat 2 with few | many
  · have hcases : digP1.toNat = 0 ∨ digP1.toNat = 1 := by omega
    rcases hcases with hzero | hone
    · simp [hzero]
    · simp [hone]
  · have hproduct : 24576 * 2 ≤ (32768 + slope) * (digP1.toNat : Int) :=
      mul_le_mul (by omega) (by omega) (by decide) (by omega)
    omega

theorem pressureDivisor_toInt {slope : Int32}
    (range : -8192 ≤ slope.toInt ∧ slope.toInt ≤ 8191) :
    (pressureDivisor c slope).toInt =
      ((32768 + slope.toInt) * (c.digP1.toNat : Int)).bmod (2 ^ 32) /
        2 ^ 15 := by
  have hword := c.digP1.toNat_lt
  have hbase : (s32 32768 : Int32).toInt = 32768 :=
    int32_ofInt_of_fits (by decide)
  have hdigP1 : (s32 c.digP1.toNat : Int32).toInt = c.digP1.toNat :=
    int32_ofInt_of_fits (by rw [fits_int32]; omega)
  have hsum : (s32 32768 + slope).toInt = 32768 + slope.toInt := by
    have hfits : Fits Int32 ((s32 32768 : Int32).toInt + slope.toInt) := by
      rw [hbase, fits_int32]
      omega
    rw [int32_add_of_fits hfits, hbase]
  unfold pressureDivisor
  rw [int32_shiftRight, Int32.toInt_mul, hsum, hdigP1]

theorem guardedDivisor_eq_zero_iff (tFine : Int32) :
    guardedDivisor c tFine = 0 ↔ c.digP1 = 0 ∨
      c.digP1 = 1 ∧ (pressureSlope c (pressureTemp tFine)).toInt < 0 := by
  have hslope := pressureSlope_mem c (pressureTemp tFine)
  obtain ⟨hnonneg, hbound⟩ := slopeProduct_mem hslope c.digP1
  rw [← slopeProduct_lt_iff hslope, ← wrapped_eq_zero_iff hnonneg hbound,
    ← pressureDivisor_toInt c hslope, ← Int32.toInt_inj]
  rfl

/-- When the guard is taken, and what is done on either side of it. -/
structure GuardExact (c : Bmp280Calib) (adcP tFine : Int32) : Prop where
  taken : guardedDivisor c tFine = 0 ↔ c.digP1 = 0 ∨
    c.digP1 = 1 ∧ (pressureSlope c (pressureTemp tFine)).toInt < 0
  early : guardedDivisor c tFine = 0 →
    bmp280CompensatePress c adcP tFine = (0 : UInt32)
  divides : guardedDivisor c tFine ≠ 0 →
    (toUnsigned (guardedDivisor c tFine) : UInt32) ≠ 0 ∧
      (bmp280CompensatePress c adcP tFine : UInt32) =
        pressureCorrected (S := Int32) c
          (scaledQuotient (firstP c adcP tFine)
            (toUnsigned (guardedDivisor c tFine)))
  calibrated : 2 ≤ c.digP1 → guardedDivisor c tFine ≠ 0

theorem guard_exact (adcP tFine : Int32) : GuardExact c adcP tFine where
  taken := guardedDivisor_eq_zero_iff c tFine
  early := fun hzero => if_pos hzero
  divides := by
    intro hne
    refine ⟨fun hcast => hne ?_, if_neg hne⟩
    exact Int32.toInt32_toUInt32 (guardedDivisor c tFine) ▸
      congrArg UInt32.toInt32 hcast
  calibrated := by
    intro hcalibrated hzero
    rw [UInt16.le_iff_toNat_le] at hcalibrated
    rcases (guardedDivisor_eq_zero_iff c tFine).mp hzero with hnone | ⟨hone, _⟩
    · rw [hnone] at hcalibrated
      exact absurd hcalibrated (by decide)
    · rw [hone] at hcalibrated
      exact absurd hcalibrated (by decide)

end Guard

section Scaling

/-- Doubling the quotient loses what the remainder would have given. -/
theorem double_div_mem {p divisor : Nat} (positive : 0 < divisor) :
    p / divisor * 2 ≤ 2 * p / divisor ∧
      2 * p / divisor ≤ p / divisor * 2 + 1 := by
  have hdivided := Nat.div_add_mod p divisor
  have hremainder := Nat.mod_lt p positive
  constructor
  · rw [Nat.le_div_iff_mul_le positive]
    calc
      p / divisor * 2 * divisor = 2 * (divisor * (p / divisor)) := by ring
      _ ≤ 2 * p := by omega
  · rw [← Nat.lt_succ_iff, Nat.div_lt_iff_lt_mul positive]
    calc
      2 * p < 2 * (divisor * (p / divisor)) + 2 * divisor := by omega
      _ = (p / divisor * 2 + 1).succ * divisor := by
        rw [Nat.succ_eq_add_one]
        ring

variable {p divisor : UInt32}

theorem scaledQuotient_nowrap (positive : 0 < divisor.toNat)
    (fits : 2 * p.toNat / divisor.toNat < 2 ^ 32) :
    (scaledQuotient (Shadow.ofWord p) (Shadow.ofWord divisor)).Faithful := by
  rw [scaledQuotient_faithful (Shadow.faithful_ofWord p)
    (Shadow.faithful_ofWord divisor)]
  intro _
  have hdouble := (double_div_mem (p := p.toNat) positive).1
  show Fits UInt32 ((p.toNat : Int) / divisor.toNat * 2)
  rw [fits_uint32]
  omega

theorem scaledQuotient_exact (p divisor : Shadow UInt32) :
    (scaledQuotient p divisor).exact =
      if p.exact < 2147483648 then 2 * p.exact / divisor.exact
      else p.exact / divisor.exact * 2 := by
  rw [Int.mul_comm 2]
  exact Shadow.exact_ifLess ..

/-- What the branch taken computes, when nothing wraps. -/
theorem scaledQuotient_toNat
    (faithful :
      (scaledQuotient (Shadow.ofWord p) (Shadow.ofWord divisor)).Faithful) :
    (scaledQuotient p divisor).toNat =
      if p.toNat < 2 ^ 31 then 2 * p.toNat / divisor.toNat
      else p.toNat / divisor.toNat * 2 := by
  have hexact := faithful.value_eq
  rw [scaledQuotient_word, scaledQuotient_exact] at hexact
  change ((scaledQuotient p divisor).toNat : Int) =
    if (p.toNat : Int) < 2147483648 then 2 * (p.toNat : Int) / divisor.toNat
    else (p.toNat : Int) / divisor.toNat * 2 at hexact
  split at hexact
  · rw [if_pos (by omega)]
    exact_mod_cast hexact
  · rw [if_neg (by omega)]
    exact_mod_cast hexact

theorem scaledQuotient_near (nonzero : divisor ≠ 0)
    (fits : 2 * p.toNat / divisor.toNat < 2 ^ 32) :
    (scaledQuotient (Shadow.ofWord p) (Shadow.ofWord divisor)).Faithful ∧
      (scaledQuotient p divisor).toNat ≤ 2 * p.toNat / divisor.toNat ∧
      2 * p.toNat / divisor.toNat ≤ (scaledQuotient p divisor).toNat + 1 ∧
      (p.toNat < 2 ^ 31 → (scaledQuotient p divisor).toNat =
        2 * p.toNat / divisor.toNat) := by
  have hpositive : 0 < divisor.toNat :=
    Nat.pos_of_ne_zero fun hzero => nonzero (UInt32.toNat_inj.mp hzero)
  have faithful := scaledQuotient_nowrap hpositive fits
  obtain ⟨hbelow, habove⟩ := double_div_mem (p := p.toNat) hpositive
  refine ⟨faithful, ?_⟩
  rw [scaledQuotient_toNat faithful]
  split
  · exact ⟨le_rfl, Nat.le_succ _, fun _ => rfl⟩
  · rename_i hlarge
    exact ⟨hbelow, habove, fun hsmall => absurd hsmall hlarge⟩

/-- Just past the switch, where the exact quotient is odd and one is lost. -/
theorem scaledQuotient_near_switch :
    (scaledQuotient (Shadow.ofWord 2147483649)
        (Shadow.ofWord (2 : UInt32))).Faithful ∧
      (scaledQuotient 2147483649 (2 : UInt32)).toNat ≤
        2 * (2147483649 : UInt32).toNat / (2 : UInt32).toNat ∧
      2 * (2147483649 : UInt32).toNat / (2 : UInt32).toNat ≤
        (scaledQuotient 2147483649 (2 : UInt32)).toNat + 1 ∧
      ((2147483649 : UInt32).toNat < 2 ^ 31 →
        (scaledQuotient 2147483649 (2 : UInt32)).toNat =
          2 * (2147483649 : UInt32).toNat / (2 : UInt32).toNat) :=
  scaledQuotient_near (by decide) (by decide)

end Scaling

end EmbeddedPortfolio.Sensor
