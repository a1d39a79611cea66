import EmbeddedPortfolio.Sensor.Bmp280

namespace EmbeddedPortfolio.Sensor

open EmbeddedPortfolio.Numeric

/-! Which temperatures the driver computes without a step that wraps. -/

/-- The formula's steps, machine word and integer side by side. -/
def tempSteps (c : Bmp280Calib) (adcT : Int32) :
    Shadow Int32 × Shadow Int32 :=
  bmp280CompensateTemp c (Shadow.ofWord adcT)

/-- Every intermediate is the exact integer, and so are the two results. -/
structure TempExact (c : Bmp280Calib) (adcT : Int32) : Prop where
  steps : ∀ step ∈ (tempSteps c adcT).2.steps, step.1 = step.2
  tFine : (bmp280CompensateTemp c adcT).1.toInt =
    (bmp280CompensateTemp c adcT.toInt).1
  temp : (bmp280CompensateTemp c adcT).2.toInt =
    (bmp280CompensateTemp c adcT.toInt).2

/-- The three products fit. -/
def TempFits (c : Bmp280Calib) (adcT : Int) : Prop :=
  let coarse := adcT / 8 - 2 * c.digT1.toNat
  let fine := adcT / 16 - c.digT1.toNat
  Fits Int32 (coarse * c.digT2.toInt) ∧
    -46340 ≤ fine ∧ fine ≤ 46340 ∧
    Fits Int32 (fine * fine / 4096 * c.digT3.toInt)

instance (c : Bmp280Calib) (adcT : Int) : Decidable (TempFits c adcT) :=
  inferInstanceAs (Decidable (_ ∧ _ ∧ _ ∧ _))

theorem tempSteps_faithful_iff (c : Bmp280Calib) {adcT : Int32}
    (range : SampleRange adcT.toInt) :
    (tempSteps c adcT).2.Faithful ↔ TempFits c adcT.toInt := by
  have hexact : (Shadow.ofWord adcT).exact = adcT.toInt := rfl
  have hT1 := c.digT1.toNat_lt
  have hT2 := And.intro c.digT2.le_toInt c.digT2.toInt_lt
  have hT3 := And.intro c.digT3.le_toInt c.digT3.toInt_lt
  have hdouble : (c.digT1.toNat : Int) * 2 = 2 * c.digT1.toNat :=
    Int.mul_comm ..
  obtain ⟨hlow, hhigh⟩ := range
  unfold tempSteps bmp280CompensateTemp TempFits
  simp only [Shadow.faithful_s32, Shadow.faithful_add, Shadow.faithful_sub,
    Shadow.faithful_mul, Shadow.faithful_shiftLeft _ (show 1 < 31 by decide),
    Shadow.faithful_shiftRight, Shadow.faithful_ofWord, Shadow.exact_s32,
    Shadow.exact_add, Shadow.exact_sub, Shadow.exact_mul,
    Shadow.exact_shiftLeft, Shadow.exact_shiftRight, hexact, hdouble,
    fits_square_iff, Int.reducePow]
  -- Once the three products fit, what is made of them does.
  generalize (adcT.toInt / 8 - 2 * c.digT1.toNat) * c.digT2.toInt = product
  generalize (adcT.toInt / 16 - c.digT1.toNat) *
    (adcT.toInt / 16 - c.digT1.toNat) / 4096 * c.digT3.toInt = other
  simp only [fits_int32, true_and]
  constructor
  · intro fits
    omega
  · intro fits
    repeat' apply And.intro
    all_goals omega

theorem tempExact_iff_faithful (c : Bmp280Calib) (adcT : Int32) :
    TempExact c adcT ↔ (tempSteps c adcT).2.Faithful := by
  constructor
  · intro exactly
    exact exactly.steps
  · intro faithful
    have hsteps := faithful
    unfold tempSteps bmp280CompensateTemp at hsteps
    rw [Shadow.faithful_shiftRight, Shadow.faithful_add,
      Shadow.faithful_mul] at hsteps
    exact ⟨faithful, hsteps.1.1.value_eq, faithful.value_eq⟩

/-- What the temperature path computes from a sample is exact unless one of
three products leaves the range of its type. -/
theorem tempExact_iff (c : Bmp280Calib) {read : BlockRead 6}
    {raw : RawSample} (decoded : bmp280ReadRaw read = .ok raw) :
    TempExact c raw.adcT ↔ TempFits c raw.adcT.toInt := by
  rw [tempExact_iff_faithful]
  exact tempSteps_faithful_iff c (bmp280ReadRaw_range decoded).1

section Samples

/-- The sample of the data sheet's worked example. -/
def sheetRead : BlockRead 6 where
  ret := 6
  buf := #v[0x65, 0x5A, 0xC0, 0x7E, 0xED, 0x00]

def sheetCalib : Bmp280Calib where
  digT1 := 27504
  digT2 := 26435
  digT3 := -1000
  digP1 := 36477
  digP2 := -10685
  digP3 := 3024
  digP4 := 2855
  digP5 := 140
  digP6 := -7
  digP7 := 15500
  digP8 := -14600
  digP9 := 6000

theorem sheetRead_decoded :
    bmp280ReadRaw sheetRead = .ok ⟨519888, 415148⟩ := rfl

theorem sheet_tempExact :
    bmp280CompensateTemp sheetCalib (519888 : Int32) = (128422, 2508) ∧
      TempExact sheetCalib 519888 :=
  ⟨by decide +kernel,
    (tempExact_iff sheetCalib sheetRead_decoded).mpr (by decide +kernel)⟩

/-- Its calibration block but for `dig_t2`, which is the greatest there is. -/
def steepBlock : BlockRead 24 where
  ret := 24
  buf := #v[0x70, 0x6B, 0xFF, 0x7F, 0x18, 0xFC, 0x7D, 0x8E, 0x43, 0xD6, 0xD0,
    0x0B, 0x27, 0x0B, 0x8C, 0x00, 0xF9, 0xFF, 0x8C, 0x3C, 0xF8, 0xC6, 0x70,
    0x17]

def steepCalib : Bmp280Calib :=
  { sheetCalib with digT2 := 32767 }

def topRead : BlockRead 6 where
  ret := 6
  buf := #v[0x65, 0x5A, 0xC0, 0xFF, 0xFF, 0xF0]

theorem steep_temp_wraps :
    bmp280ReadCalib steepBlock = .ok steepCalib ∧
      bmp280ReadRaw topRead = .ok ⟨1048575, 415148⟩ ∧
      bmp280CompensateTemp steepCalib (1048575 : Int32) =
        (-901735, -17612) ∧
      bmp280CompensateTemp steepCalib (1048575 : Int) = (1195417, 23348) ∧
      ¬ TempExact steepCalib 1048575 := by
  refine ⟨rfl, rfl, by decide +kernel, by decide +kernel, ?_⟩
  intro exactly
  have htemp := exactly.temp
  revert htemp
  decide +kernel

end Samples

end EmbeddedPortfolio.Sensor
