import EmbeddedPortfolio.Sensor.Pressure

namespace EmbeddedPortfolio.Sensor

open EmbeddedPortfolio.Numeric
open Shifts SignedArithmetic

/-! The `temperature` attribute, and the stages of its path that come after the
products. -/

/-- What is written to the attribute's buffer. -/
def temperatureShow (c : Bmp280Calib) (read : BlockRead 6) :
    Except Int String := do
  let (tC100, _) ← bmp280Measure c read
  pure (toString (tC100 * s32 10).toInt ++ "\n")

/-- What the shifts leave of `var1` and `var2`, whatever the products gave. -/
theorem tFine_mem (c : Bmp280Calib) (adcT : Int32) :
    -1179648 ≤ (bmp280CompensateTemp c adcT).1.toInt ∧
      (bmp280CompensateTemp c adcT).1.toInt ≤ 1179646 := by
  unfold bmp280CompensateTemp
  dsimp only
  generalize (shr adcT 3 - shl (s32 c.digT1.toNat) 1) * s32 c.digT2.toInt =
    product
  generalize shr ((shr adcT 4 - s32 c.digT1.toNat) *
    (shr adcT 4 - s32 c.digT1.toNat)) 12 * s32 c.digT3.toInt = other
  have hvar1 := int32_shiftRight_mem product 11
  have hvar2 := int32_shiftRight_mem other 14
  norm_num at hvar1 hvar2
  have hsum : Fits Int32 ((shr product 11).toInt + (shr other 14).toInt) := by
    rw [fits_int32]
    omega
  rw [int32_add_of_fits hsum]
  omega

/-- The steps from `t_fine` on: none of them wraps. -/
structure LastStagesFit (tFine temp : Int32) : Prop where
  tFine_mem : -1179648 ≤ tFine.toInt ∧ tFine.toInt ≤ 1179646
  scaled : (tFine * s32 5).toInt = tFine.toInt * 5
  rounded : (tFine * s32 5 + s32 128).toInt = tFine.toInt * 5 + 128
  temp_eq : temp.toInt = (tFine.toInt * 5 + 128) / 256
  pressureTemp_eq : (pressureTemp tFine).toInt = tFine.toInt / 2 - 64000
  shown : (temp * s32 10).toInt = 10 * temp.toInt
  magnitude : |10 * temp.toInt| ≤ 230400

section Stages

variable {tFine : Int32}

theorem scaled_eq (range : -1179648 ≤ tFine.toInt ∧ tFine.toInt ≤ 1179646) :
    (tFine * s32 5).toInt = tFine.toInt * 5 := by
  have hfive : (s32 5 : Int32).toInt = 5 := int32_ofInt_of_fits (by decide)
  have hfits : Fits Int32 (tFine.toInt * (s32 5 : Int32).toInt) := by
    rw [hfive, fits_int32]
    omega
  rw [int32_mul_of_fits hfits, hfive]

theorem rounded_eq (range : -1179648 ≤ tFine.toInt ∧ tFine.toInt ≤ 1179646) :
    (tFine * s32 5 + s32 128).toInt = tFine.toInt * 5 + 128 := by
  have hhalf : (s32 128 : Int32).toInt = 128 :=
    int32_ofInt_of_fits (by decide)
  have hfits : Fits Int32 ((tFine * s32 5).toInt + (s32 128 : Int32).toInt) := by
    rw [scaled_eq range, hhalf, fits_int32]
    omega
  rw [int32_add_of_fits hfits, scaled_eq range, hhalf]

theorem pressureTemp_eq (tFine : Int32) :
    (pressureTemp tFine).toInt = tFine.toInt / 2 - 64000 :=
  (pressureTemp_faithful tFine).value_eq

theorem shown_eq {temp : Int32}
    (range : -23040 ≤ temp.toInt ∧ temp.toInt ≤ 23040) :
    (temp * s32 10).toInt = 10 * temp.toInt := by
  have hten : (s32 10 : Int32).toInt = 10 := int32_ofInt_of_fits (by decide)
  have hfits : Fits Int32 (temp.toInt * (s32 10 : Int32).toInt) := by
    rw [hten, fits_int32]
    omega
  rw [int32_mul_of_fits hfits, hten, Int.mul_comm]

end Stages

theorem lastStages_fit (c : Bmp280Calib) (adcT : Int32) :
    LastStagesFit (bmp280CompensateTemp c adcT).1
      (bmp280CompensateTemp c adcT).2 := by
  have hrange := tFine_mem c adcT
  have htemp : (bmp280CompensateTemp c adcT).2.toInt =
      ((bmp280CompensateTemp c adcT).1.toInt * 5 + 128) / 256 :=
    (int32_shiftRight _ 8).trans
      (congrArg (· / 256) (rounded_eq hrange))
  have hsmall : -23040 ≤ (bmp280CompensateTemp c adcT).2.toInt ∧
      (bmp280CompensateTemp c adcT).2.toInt ≤ 23040 := by
    omega
  refine ⟨hrange, scaled_eq hrange, rounded_eq hrange, htemp,
    pressureTemp_eq _, shown_eq hsmall, ?_⟩
  rw [abs_le]
  omega

/-- Every accepted burst is shown as ten times its compensated temperature. -/
theorem temperatureShow_exact (c : Bmp280Calib) {read : BlockRead 6}
    {raw : RawSample} (decoded : bmp280ReadRaw read = .ok raw) :
    LastStagesFit (bmp280CompensateTemp c raw.adcT).1
        (bmp280CompensateTemp c raw.adcT).2 ∧
      temperatureShow c read =
        .ok (toString (10 * (bmp280CompensateTemp c raw.adcT).2.toInt) ++
          "\n") := by
  have hfits := lastStages_fit c raw.adcT
  refine ⟨hfits, ?_⟩
  rw [← hfits.shown, temperatureShow, bmp280Measure, decoded]
  rfl

theorem temperatureShow_exact_sheet :
    LastStagesFit (bmp280CompensateTemp sheetCalib (519888 : Int32)).1
        (bmp280CompensateTemp sheetCalib (519888 : Int32)).2 ∧
      temperatureShow sheetCalib sheetRead =
        .ok (toString (10 *
          (bmp280CompensateTemp sheetCalib (519888 : Int32)).2.toInt) ++
            "\n") := by
  have hshown := temperatureShow_exact sheetCalib sheetRead_decoded
  exact hshown

end EmbeddedPortfolio.Sensor
