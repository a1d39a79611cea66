import EmbeddedPortfolio.Numeric.Wrapping
import EmbeddedPortfolio.Sensor.Pressure

namespace EmbeddedPortfolio.Sensor

open EmbeddedPortfolio.Numeric Shifts MixedArithmetic Shadow

/-! Which pressures the driver computes although steps on the way wrap. -/

section Stages

variable (c : Bmp280Calib)

theorem pressureOffset_holds {var1 : Shadow Int32} (hvar1 : var1.Holds)
    (offset : OffsetHolds c var1.exact) : (pressureOffset c var1).Holds := by
  obtain ⟨hsquare, hsum, hresult⟩ := offset
  have hroot := (hvar1.shiftRight 2).congruent
  have hquadratic : (shr (shr var1 2 * shr var1 2) 11 *
      SignedArithmetic.s32 c.digP6.toInt).Congruent := by
    rcases hsquare with hzero | hfits
    · exact ((holds_s32 (fits_int16_toInt _)).mul_zero hzero).congruent
    · have hholds := (hroot.mul hroot).holds_signed hfits
      exact (hholds.shiftRight 11).congruent.mul (congruent_s32 _)
  have hlinear := (hvar1.congruent.mul
    (congruent_s32 c.digP5.toInt)).shiftLeft (show 1 < 31 by decide)
  have hvar2 := (hquadratic.add hlinear).holds_signed hsum
  have hlast := (congruent_s32 c.digP4.toInt).shiftLeft
    (show 16 < 31 by decide)
  exact ((hvar2.shiftRight 2).congruent.add hlast).holds_signed hresult

theorem pressureSlope_holds {var1 : Shadow Int32} (hvar1 : var1.Holds)
    (slope : SlopeHolds c var1.exact) : (pressureSlope c var1).Holds := by
  obtain ⟨hsquare, hquadratic, hlinear⟩ := slope
  have hroot := (hvar1.shiftRight 2).congruent
  have hleft : (SignedArithmetic.s32 c.digP3.toInt *
      shr (shr var1 2 * shr var1 2) 13).Holds := by
    rcases hsquare with hzero | hfits
    · exact (holds_s32 (fits_int16_toInt _)).zero_mul hzero
    · have hholds := (hroot.mul hroot).holds_signed hfits
      exact ((congruent_s32 _).mul
        (hholds.shiftRight 13).congruent).holds_signed hquadratic
  have hright := ((congruent_s32 c.digP2.toInt).mul
    hvar1.congruent).holds_signed hlinear
  refine (((hleft.shiftRight 3).congruent.add
    (hright.shiftRight 1).congruent).holds_signed ?_).shiftRight 18
  simp only [exact_add, exact_mul, exact_shiftRight, exact_s32, fits_int32,
    Int.reducePow] at hquadratic hlinear ⊢
  omega

theorem pressureDivisor_holds {slope : Shadow Int32} (hslope : slope.Holds)
    (divisor : DivisorFits c slope.exact) :
    (pressureDivisor c slope).Holds :=
  ((((congruent_s32 _).add hslope.congruent).mul
    (congruent_s32 _)).holds_signed divisor).shiftRight 15

theorem pressureNumerator_holds {adcP var2 : Shadow Int32}
    (hadcP : adcP.Holds) (hvar2 : var2.Holds)
    (numerator : NumeratorFits adcP.exact var2.exact) :
    (pressureNumerator adcP var2 : Shadow UInt32).Holds := by
  have hdifference :=
    ((congruent_s32 1048576).sub hadcP.congruent).toUnsigned
  refine ((hdifference.sub_signed (hvar2.shiftRight 12).congruent).mul_unsigned
    (congruent_u32 3125)).holds_unsigned ?_
  exact ⟨mul_nonneg numerator.1 (by decide), numerator.2⟩

theorem scaledQuotient_holds {p divisor : Shadow UInt32} (hp : p.Holds)
    (hdivisor : divisor.Holds)
    (fits : (scaledQuotient p divisor).exact ≤ 4294967295) :
    (scaledQuotient p divisor).Holds := by
  have hfits := hp.fits_unsigned
  have hdivides := hdivisor.fits_unsigned
  rw [fits_uint32] at hfits hdivides
  refine holds_ifLess hp ((congruent_u32 _).holds_unsigned (by decide))
    ?_ ?_
  · intro hless
    have hdoubled := hp.congruent.shiftLeft_unsigned 1
    refine (hdoubled.holds_unsigned ?_).div hdivisor
    simp only [exact_u32, exact_shiftLeft_unsigned, fits_uint32,
      Int.reducePow] at hless ⊢
    omega
  · intro hlarge
    refine ((hp.div hdivisor).congruent.mul_unsigned
      (congruent_u32 2)).holds_unsigned ?_
    have hbranch : (scaledQuotient p divisor).exact =
        p.exact / divisor.exact * 2 :=
      if_neg (not_lt.mpr hlarge)
    rw [hbranch] at fits
    exact ⟨mul_nonneg (Int.ediv_nonneg hfits.1 hdivides.1) (by decide), fits⟩

theorem pressureCorrected_holds {p : Shadow UInt32} (hp : p.Holds)
    (correction : CorrectionHolds c p.exact) :
    (pressureCorrected (S := Shadow Int32) c p).Holds := by
  obtain ⟨-, hsmall, hquadratic, hlinear, hresult⟩ := correction
  have hroot := hp.shiftRight_unsigned 3
  have hvar1 : (SignedArithmetic.s32 c.digP9.toInt *
      (toSigned (shr (shr p 3 * shr p 3) 13) : Shadow Int32)).Holds := by
    rcases hsmall with hzero | hle
    · exact (holds_s32 (fits_int16_toInt _)).zero_mul hzero
    · have hfits : Fits UInt32 (shr p 3 * shr p 3).exact := by
        refine (fits_square_unsigned_iff hroot.fits_unsigned.1).mpr ?_
        show p.exact / 8 ≤ 65535
        omega
      have hsquare :=
        (hroot.congruent.mul_unsigned hroot.congruent).holds_unsigned hfits
      exact ((congruent_s32 _).mul
        (hsquare.shiftRight_unsigned 13).congruent.toSigned).holds_signed
          hquadratic
  have hvar2 := ((hp.shiftRight_unsigned 2).congruent.toSigned.mul
    (congruent_s32 c.digP8.toInt)).holds_signed hlinear
  have hsum := (((hvar1.shiftRight 12).congruent.add
    (hvar2.shiftRight 13).congruent).add
      (congruent_s32 c.digP7.toInt)).holds_signed (by
        have hP7 := And.intro c.digP7.le_toInt c.digP7.toInt_lt
        simp only [exact_add, exact_mul, exact_shiftRight, exact_s32,
          exact_toSigned, exact_shiftRight_unsigned, exact_mul_unsigned,
          fits_int32, Int.reducePow] at hquadratic hlinear ⊢
        omega)
  exact (hp.congruent.toSigned.add
    (hsum.shiftRight 4).congruent).toUnsigned.holds_unsigned hresult

end Stages

section Whole

variable {c : Bmp280Calib} {adcP tFine : Int32}

theorem guardedDivisor_eq_zero (hzero : c.digP1.toNat = 0) (tFine : Int) :
    guardedDivisor c tFine = 0 := by
  show (32768 + pressureSlope c (pressureTemp tFine)) *
    (c.digP1.toNat : Int) / 2 ^ 15 = 0
  rw [hzero, Nat.cast_zero, mul_zero]
  rfl

/-- Up to the guard. -/
theorem guardedDivisor_holds
    (holds : PressHolds c adcP.toInt tFine.toInt) :
    (guardedDivisor c (Shadow.ofWord tFine)).Holds ∧
      0 ≤ guardedDivisor c tFine.toInt ∧
      guardedDivisor c tFine.toInt ≤ 65535 := by
  rcases holds with hzero | ⟨slope, divisor, -⟩
  · have hP1 : (c.digP1.toNat : Int) = 0 := by
      exact_mod_cast hzero
    have hfits : Fits Int32 (c.digP1.toNat : Int) := by
      rw [hP1]
      decide
    refine ⟨((holds_s32 hfits).mul_zero hP1).shiftRight 15, ?_⟩
    rw [guardedDivisor_eq_zero hzero]
    decide
  · have htemp := (pressureTemp_faithful tFine).value_eq
    have hslope := pressureSlope_holds c htemp slope
    exact ⟨pressureDivisor_holds c hslope divisor,
      guardedDivisor_nonneg slope divisor⟩

/-- Past the guard. -/
theorem corrected_holds (holds : PressHolds c adcP.toInt tFine.toInt)
    (past : guardedDivisor c tFine.toInt ≠ 0) :
    (firstP c (Shadow.ofWord adcP) (Shadow.ofWord tFine) :
        Shadow UInt32).Holds ∧
      (pressureCorrected (S := Shadow Int32) c (scaledQuotient
        (firstP c (Shadow.ofWord adcP) (Shadow.ofWord tFine))
        (toUnsigned (guardedDivisor c (Shadow.ofWord tFine))) :
          Shadow UInt32)).Holds := by
  obtain ⟨hguarded, hnonneg, hsmall⟩ := guardedDivisor_holds holds
  rcases holds with hzero | ⟨-, -, rest⟩
  · exact absurd (guardedDivisor_eq_zero hzero _) past
  · obtain ⟨offset, numerator, correction⟩ := rest past
    have hoffset := pressureOffset_holds c
      (pressureTemp_faithful tFine).value_eq offset
    have hfirst : (firstP c (Shadow.ofWord adcP) (Shadow.ofWord tFine) :
        Shadow UInt32).Holds :=
      pressureNumerator_holds (holds_ofWord adcP) hoffset numerator
    have hcast : (toUnsigned (guardedDivisor c (Shadow.ofWord tFine)) :
        Shadow UInt32).Holds :=
      hguarded.congruent.toUnsigned.holds_unsigned
        ⟨hnonneg, hsmall.trans (by decide)⟩
    exact ⟨hfirst, pressureCorrected_holds c
      (scaledQuotient_holds hfirst hcast correction.1) correction⟩

theorem pressExact_of_holds (holds : PressHolds c adcP.toInt tFine.toInt) :
    PressExact c adcP tFine := by
  obtain ⟨hguarded, hnonneg, hsmall⟩ := guardedDivisor_holds holds
  have hvalue : (guardedDivisor c tFine).toInt =
      guardedDivisor c tFine.toInt :=
    hguarded
  have hzero : guardedDivisor c tFine = 0 ↔
      guardedDivisor c tFine.toInt = 0 := by
    rw [← hvalue, ← Int32.toInt_inj]
    rfl
  refine ⟨?_, hzero, ?_, ?_⟩
  · rw [← pressSteps_word, ← pressSteps_exact]
    refine holds_ifZero hguarded (fun _ => ?_) fun past => ?_
    · exact (congruent_u32 0).holds_unsigned (by decide)
    · exact (corrected_holds holds past).2
  · intro past
    have hcast := hguarded.congruent.toUnsigned.holds_unsigned
      ⟨hnonneg, hsmall.trans (by decide)⟩
    exact ⟨lt_of_le_of_ne hnonneg (Ne.symm (mt hzero.mpr past)), hcast⟩
  · intro past
    have hfirst := (corrected_holds holds (mt hzero.mpr past)).1
    exact ⟨hfirst.fits_unsigned.1, hfirst.fits_unsigned.2, hfirst⟩

theorem OffsetFits.holds {var1 : Int} (fits : OffsetFits c var1) :
    OffsetHolds c var1 :=
  ⟨.inr fits.1, fits.2.2.2⟩

theorem CorrectionFits.holds {p : Int} (fits : CorrectionFits c p) :
    CorrectionHolds c p := by
  obtain ⟨hsmall, hquadratic, hlinear, hresult⟩ := fits
  have hP7 := And.intro c.digP7.le_toInt c.digP7.toInt_lt
  refine ⟨by omega, .inr hsmall, hquadratic, hlinear, ?_⟩
  rw [fits_int32] at hquadratic hlinear
  rw [fits_uint32]
  omega

theorem PressFits.holds {adcP tFine : Int} (fits : PressFits c adcP tFine) :
    PressHolds c adcP tFine := by
  obtain ⟨slope, divisor, rest⟩ := fits
  refine .inr ⟨slope.holds c, divisor, fun past => ?_⟩
  obtain ⟨offset, numerator, correction⟩ := rest past
  exact ⟨offset.holds, numerator, correction.holds⟩

/-- Two summands that wrap, and a sum that fits. -/
example :
    let c := { sheetCalib with digP5 := -25000, digP6 := 20000 }
    ¬ PressFits c 415148 297988 ∧ PressHolds c 415148 297988 := by
  decide +kernel

/-- No step of the pressure path wraps exactly when no operand leaves its
range; and the driver computes the formula already when every stage is
right. -/
theorem pressExact_fits_iff (c : Bmp280Calib) {read : BlockRead 6}
    {raw : RawSample} (decoded : bmp280ReadRaw read = .ok raw)
    (tFine : Int32) :
    ((∀ step ∈ (pressSteps c raw.adcP tFine).steps, step.1 = step.2) ↔
      PressFits c raw.adcP.toInt tFine.toInt) ∧
    (PressFits c raw.adcP.toInt tFine.toInt →
      PressHolds c raw.adcP.toInt tFine.toInt) ∧
    (PressHolds c raw.adcP.toInt tFine.toInt →
      PressExact c raw.adcP tFine) :=
  ⟨pressSteps_faithful_iff c (bmp280ReadRaw_range decoded).2 tFine,
    PressFits.holds, pressExact_of_holds⟩

section Samples

theorem sheet_pressExact :
    bmp280CompensatePress sheetCalib (415148 : Int32) (128422 : Int32) =
        (100656 : UInt32) ∧
      PressExact sheetCalib 415148 128422 :=
  ⟨by decide +kernel,
    (pressExact_fits_iff sheetCalib sheetRead_decoded 128422).2.2
      (by decide +kernel)⟩

/-- The data sheet's calibration but for a steeper `dig_p2`. -/
def slopedCalib : Bmp280Calib :=
  { sheetCalib with digP2 := -30000 }

def slopedBlock : BlockRead 24 where
  ret := 24
  buf := #v[0x70, 0x6B, 0x43, 0x67, 0x18, 0xFC, 0x7D, 0x8E, 0xD0, 0x8A, 0xD0,
    0x0B, 0x27, 0x0B, 0x8C, 0x00, 0xF9, 0xFF, 0x8C, 0x3C, 0xF8, 0xC6, 0x70,
    0x17]

/-- 58 degrees. -/
def warmRead : BlockRead 6 where
  ret := 6
  buf := #v[0x65, 0x5A, 0xC0, 0x98, 0xD5, 0x00]

theorem sloped_press_wraps :
    bmp280ReadCalib slopedBlock = .ok slopedCalib ∧
      bmp280ReadRaw warmRead = .ok ⟨626000, 415148⟩ ∧
      bmp280CompensateTemp slopedCalib (626000 : Int32) = (297988, 5820) ∧
      bmp280CompensatePress slopedCalib (415148 : Int32) (297988 : Int32) =
        (90889 : UInt32) ∧
      bmp280CompensatePress slopedCalib (415148 : Int) (297988 : Int) =
        (117759 : Int) ∧
      ¬ PressExact slopedCalib 415148 297988 := by
  refine ⟨rfl, rfl, by decide +kernel, by decide +kernel, by decide +kernel, ?_⟩
  intro exactly
  have hresult := exactly.result
  revert hresult
  decide +kernel

end Samples

end Whole

end EmbeddedPortfolio.Sensor
