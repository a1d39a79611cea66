import EmbeddedPortfolio.Sensor.Temperature

namespace EmbeddedPortfolio.Sensor

open EmbeddedPortfolio.Numeric Shifts MixedArithmetic

/-! Which pressures the driver computes without a step that wraps: for each
stage of the formula, the operands that may leave their range.  A stage whose
result is right may still have wrapped on the way. -/

section Conditions

variable (c : Bmp280Calib)

def OffsetFits (var1 : Int) : Prop :=
  let square := var1 / 4 * (var1 / 4)
  let var2 := square / 2048 * c.digP6.toInt + var1 * c.digP5.toInt * 2
  Fits Int32 square ∧
    Fits Int32 (square / 2048 * c.digP6.toInt) ∧
    Fits Int32 (var1 * c.digP5.toInt * 2) ∧
    Fits Int32 var2 ∧
    Fits Int32 (var2 / 4 + c.digP4.toInt * 65536)

def SlopeFits (var1 : Int) : Prop :=
  let square := var1 / 4 * (var1 / 4)
  Fits Int32 square ∧
    Fits Int32 (c.digP3.toInt * (square / 8192)) ∧
    Fits Int32 (c.digP2.toInt * var1)

def DivisorFits (slope : Int) : Prop :=
  Fits Int32 ((32768 + slope) * c.digP1.toNat)

def NumeratorFits (adcP var2 : Int) : Prop :=
  0 ≤ 1048576 - adcP - var2 / 4096 ∧
    (1048576 - adcP - var2 / 4096) * 3125 ≤ 4294967295

def CorrectionFits (p : Int) : Prop :=
  p ≤ 524287 ∧
    Fits Int32 (c.digP9.toInt * (p / 8 * (p / 8) / 8192)) ∧
    Fits Int32 (p / 4 * c.digP8.toInt) ∧
    0 ≤ p + (c.digP9.toInt * (p / 8 * (p / 8) / 8192) / 4096 +
      p / 4 * c.digP8.toInt / 8192 + c.digP7.toInt) / 16

/-- Of the two summands, only the sum has to fit. -/
def OffsetHolds (var1 : Int) : Prop :=
  let square := var1 / 4 * (var1 / 4)
  let var2 := square / 2048 * c.digP6.toInt + var1 * c.digP5.toInt * 2
  (c.digP6.toInt = 0 ∨ Fits Int32 square) ∧
    Fits Int32 var2 ∧
    Fits Int32 (var2 / 4 + c.digP4.toInt * 65536)

/-- Each summand is shifted, and has to fit. -/
def SlopeHolds (var1 : Int) : Prop :=
  let square := var1 / 4 * (var1 / 4)
  (c.digP3.toInt = 0 ∨ Fits Int32 square) ∧
    Fits Int32 (c.digP3.toInt * (square / 8192)) ∧
    Fits Int32 (c.digP2.toInt * var1)

def CorrectionHolds (p : Int) : Prop :=
  p ≤ 4294967295 ∧
    (c.digP9.toInt = 0 ∨ p ≤ 524287) ∧
    Fits Int32 (c.digP9.toInt * (p / 8 * (p / 8) / 8192)) ∧
    Fits Int32 (p / 4 * c.digP8.toInt) ∧
    Fits UInt32 (p + (c.digP9.toInt * (p / 8 * (p / 8) / 8192) / 4096 +
      p / 4 * c.digP8.toInt / 8192 + c.digP7.toInt) / 16)

instance (var1 : Int) : Decidable (OffsetFits c var1) :=
  inferInstanceAs (Decidable (_ ∧ _ ∧ _ ∧ _ ∧ _))

instance (var1 : Int) : Decidable (SlopeFits c var1) :=
  inferInstanceAs (Decidable (_ ∧ _ ∧ _))

instance (slope : Int) : Decidable (DivisorFits c slope) :=
  inferInstanceAs (Decidable (Fits ..))

instance (adcP var2 : Int) : Decidable (NumeratorFits adcP var2) :=
  inferInstanceAs (Decidable (_ ∧ _))

instance (p : Int) : Decidable (CorrectionFits c p) :=
  inferInstanceAs (Decidable (_ ∧ _ ∧ _ ∧ _))

instance (var1 : Int) : Decidable (OffsetHolds c var1) :=
  inferInstanceAs (Decidable (_ ∧ _ ∧ _))

instance (var1 : Int) : Decidable (SlopeHolds c var1) :=
  inferInstanceAs (Decidable (_ ∧ _ ∧ _))

instance (p : Int) : Decidable (CorrectionHolds c p) :=
  inferInstanceAs (Decidable (_ ∧ _ ∧ _ ∧ _ ∧ _))

end Conditions

section Stages

variable (c : Bmp280Calib)

theorem pressureTemp_faithful (tFine : Int32) :
    (pressureTemp (Shadow.ofWord tFine)).Faithful := by
  have hexact : (Shadow.ofWord tFine).exact = tFine.toInt := rfl
  have hfits := fits_int32_toInt tFine
  unfold pressureTemp
  simp only [Shadow.faithful_s32, Shadow.faithful_sub,
    Shadow.faithful_shiftRight, Shadow.faithful_ofWord, Shadow.exact_s32,
    Shadow.exact_shiftRight, hexact, fits_int32, true_and] at hfits ⊢
  omega

theorem pressureOffset_faithful (var1 : Shadow Int32) :
    (pressureOffset c var1).Faithful ↔
      var1.Faithful ∧ OffsetFits c var1.exact := by
  have hP4 := And.intro c.digP4.le_toInt c.digP4.toInt_lt
  have hP5 := And.intro c.digP5.le_toInt c.digP5.toInt_lt
  have hP6 := And.intro c.digP6.le_toInt c.digP6.toInt_lt
  unfold pressureOffset OffsetFits
  simp only [Shadow.faithful_s32, Shadow.faithful_add, Shadow.faithful_mul,
    Shadow.faithful_shiftLeft _ (show 1 < 31 by decide),
    Shadow.faithful_shiftLeft _ (show 16 < 31 by decide),
    Shadow.faithful_shiftRight, Shadow.exact_s32, Shadow.exact_add,
    Shadow.exact_mul, Shadow.exact_shiftLeft, Shadow.exact_shiftRight,
    Int.reducePow]
  generalize var1.exact / 4 * (var1.exact / 4) = square
  generalize square / 2048 * c.digP6.toInt = quadratic
  generalize var1.exact * c.digP5.toInt = linear
  simp only [fits_int32]
  constructor
  · intro fits
    refine ⟨fits.1.1.1.1, ?_⟩
    omega
  · intro fits
    have faithful := fits.1
    repeat' apply And.intro
    all_goals first | exact faithful | omega

theorem pressureSlope_faithful (var1 : Shadow Int32) :
    (pressureSlope c var1).Faithful ↔
      var1.Faithful ∧ SlopeFits c var1.exact := by
  have hP2 := And.intro c.digP2.le_toInt c.digP2.toInt_lt
  have hP3 := And.intro c.digP3.le_toInt c.digP3.toInt_lt
  unfold pressureSlope SlopeFits
  simp only [Shadow.faithful_s32, Shadow.faithful_add, Shadow.faithful_mul,
    Shadow.faithful_shiftRight, Shadow.exact_s32, Shadow.exact_mul,
    Shadow.exact_shiftRight, Int.reducePow]
  generalize var1.exact / 4 * (var1.exact / 4) = square
  generalize c.digP3.toInt * (square / 8192) = quadratic
  generalize c.digP2.toInt * var1.exact = linear
  simp only [fits_int32]
  constructor
  · intro fits
    refine ⟨fits.1.2.1.1, ?_⟩
    omega
  · intro fits
    have faithful := fits.1
    repeat' apply And.intro
    all_goals first | exact faithful | omega

theorem SlopeFits.holds {var1 : Int} (fits : SlopeFits c var1) :
    SlopeHolds c var1 :=
  ⟨.inr fits.1, fits.2⟩

/-- A slope that is right leaves the divisor its sign. -/
theorem SlopeHolds.bound {var1 : Int} (holds : SlopeHolds c var1) :
    -8192 ≤ pressureSlope c var1 ∧ pressureSlope c var1 ≤ 8191 := by
  unfold SlopeHolds at holds
  show -8192 ≤ (c.digP3.toInt * (var1 / 2 ^ 2 * (var1 / 2 ^ 2) / 2 ^ 13) /
      2 ^ 3 + c.digP2.toInt * var1 / 2 ^ 1) / 2 ^ 18 ∧
    (c.digP3.toInt * (var1 / 2 ^ 2 * (var1 / 2 ^ 2) / 2 ^ 13) / 2 ^ 3 +
      c.digP2.toInt * var1 / 2 ^ 1) / 2 ^ 18 ≤ 8191
  simp only [fits_int32, Int.reducePow] at holds ⊢
  omega

theorem pressureDivisor_faithful (slope : Shadow Int32)
    (bound : -8192 ≤ slope.exact ∧ slope.exact ≤ 8191) :
    (pressureDivisor c slope).Faithful ↔
      slope.Faithful ∧ DivisorFits c slope.exact := by
  have hP1 := c.digP1.toNat_lt
  unfold pressureDivisor DivisorFits
  simp only [Shadow.faithful_s32, Shadow.faithful_add, Shadow.faithful_mul,
    Shadow.faithful_shiftRight, Shadow.exact_s32, Shadow.exact_add]
  generalize (32768 + slope.exact) * c.digP1.toNat = product
  simp only [fits_int32]
  constructor
  · intro fits
    exact ⟨fits.1.2.1, fits.2.2⟩
  · intro fits
    have faithful := fits.1
    repeat' apply And.intro
    all_goals first | exact faithful | omega

theorem pressureNumerator_faithful (adcP var2 : Shadow Int32)
    (range : SampleRange adcP.exact) :
    (pressureNumerator adcP var2 : Shadow UInt32).Faithful ↔
      adcP.Faithful ∧ var2.Faithful ∧
        NumeratorFits adcP.exact var2.exact := by
  unfold SampleRange at range
  unfold pressureNumerator NumeratorFits
  simp only [Shadow.faithful_s32, Shadow.faithful_sub,
    Shadow.faithful_sub_signed, Shadow.faithful_mul_unsigned,
    Shadow.faithful_toUnsigned, Shadow.faithful_u32,
    Shadow.faithful_shiftRight, Shadow.exact_s32, Shadow.exact_sub,
    Shadow.exact_sub_signed, Shadow.exact_toUnsigned, Shadow.exact_u32,
    Shadow.exact_shiftRight, fits_int32, fits_uint32, Int.reducePow,
    Nat.cast_ofNat]
  constructor
  · intro fits
    refine ⟨fits.1.1.1.2.1, fits.1.2.1, ?_⟩
    omega
  · intro fits
    have faithful := fits.1
    have other := fits.2.1
    repeat' apply And.intro
    all_goals first | exact faithful | exact other | omega

theorem scaledQuotient_faithful {p divisor : Shadow UInt32}
    (hp : p.Faithful) (hdivisor : divisor.Faithful) :
    (scaledQuotient p divisor).Faithful ↔
      (2147483648 ≤ p.exact →
        Fits UInt32 (p.exact / divisor.exact * 2)) := by
  have hfits := hp.fits_unsigned
  unfold scaledQuotient
  simp only [Shadow.faithful_ifLess, Shadow.faithful_u32, Shadow.exact_u32,
    Shadow.faithful_div, Shadow.faithful_mul_unsigned,
    Shadow.faithful_shiftLeft_unsigned, Shadow.exact_div, hp, hdivisor,
    true_and, and_true, Nat.cast_ofNat, fits_uint32] at hfits ⊢
  split
  · omega
  · omega

theorem pressureCorrected_faithful (p : Shadow UInt32) :
    (pressureCorrected (S := Shadow Int32) c p).Faithful ↔
      p.Faithful ∧ CorrectionFits c p.exact := by
  have hP7 := And.intro c.digP7.le_toInt c.digP7.toInt_lt
  have hP8 := And.intro c.digP8.le_toInt c.digP8.toInt_lt
  have hP9 := And.intro c.digP9.le_toInt c.digP9.toInt_lt
  unfold pressureCorrected CorrectionFits
  simp only [Shadow.faithful_s32, Shadow.faithful_add, Shadow.faithful_mul,
    Shadow.faithful_shiftRight, Shadow.faithful_toSigned,
    Shadow.faithful_toUnsigned, Shadow.faithful_mul_unsigned,
    Shadow.faithful_shiftRight_unsigned, Shadow.exact_s32, Shadow.exact_add,
    Shadow.exact_mul, Shadow.exact_shiftRight, Shadow.exact_toSigned,
    Shadow.exact_mul_unsigned, Shadow.exact_shiftRight_unsigned,
    Int.reducePow]
  by_cases faithful : p.Faithful
  · have hfits := faithful.fits_unsigned
    have hroot : 0 ≤ p.exact / 8 := by
      rw [fits_uint32] at hfits
      omega
    have hsquare : 0 ≤ p.exact / 8 * (p.exact / 8) := mul_nonneg hroot hroot
    have hbound : p.exact / 8 ≤ 65535 →
        p.exact / 8 * (p.exact / 8) ≤ 65535 * 65535 :=
      fun hle => mul_le_mul hle hle hroot (by decide)
    simp only [faithful, true_and, fits_square_unsigned_iff hroot]
    generalize p.exact / 8 * (p.exact / 8) = square at hsquare hbound ⊢
    generalize c.digP9.toInt * (square / 8192) = quadratic
    generalize p.exact / 4 * c.digP8.toInt = linear
    simp only [fits_int32, fits_uint32] at hfits ⊢
    constructor
    · intro fits
      omega
    · intro fits
      have hroots : p.exact / 8 ≤ 65535 := by
        omega
      have hsquares := hbound hroots
      repeat' apply And.intro
      all_goals omega
  · simp only [faithful, false_and, and_false]

end Stages

section Whole

universe u v

variable {S : Type u} {U : Type v}

/-- What `var1` holds at the guard. -/
def guardedDivisor [SignedArithmetic S] (c : Bmp280Calib) (tFine : S) : S :=
  pressureDivisor c (pressureSlope c (pressureTemp tFine))

/-- What `p` is first set to. -/
def firstP [SignedArithmetic S] [UnsignedArithmetic U] [MixedArithmetic S U]
    (c : Bmp280Calib) (adcP tFine : S) : U :=
  pressureNumerator adcP (pressureOffset c (pressureTemp tFine))

theorem bmp280CompensatePress_eq [SignedArithmetic S]
    [UnsignedArithmetic U] [MixedArithmetic S U] (c : Bmp280Calib)
    (adcP tFine : S) :
    (bmp280CompensatePress c adcP tFine : U) =
      ifZero (guardedDivisor c tFine) (UnsignedArithmetic.u32 0)
        (pressureCorrected (S := S) c
          (scaledQuotient (firstP c adcP tFine)
            (toUnsigned (guardedDivisor c tFine)))) :=
  rfl

/-- No operand leaves its range. -/
def PressFits (c : Bmp280Calib) (adcP tFine : Int) : Prop :=
  SlopeFits c (pressureTemp tFine) ∧
    DivisorFits c (pressureSlope c (pressureTemp tFine)) ∧
    (guardedDivisor c tFine ≠ 0 →
      OffsetFits c (pressureTemp tFine) ∧
        NumeratorFits adcP (pressureOffset c (pressureTemp tFine)) ∧
        CorrectionFits c
          (scaledQuotient (firstP c adcP tFine) (guardedDivisor c tFine)))

/-- Every stage is right, whatever wraps inside it. -/
def PressHolds (c : Bmp280Calib) (adcP tFine : Int) : Prop :=
  c.digP1.toNat = 0 ∨ SlopeHolds c (pressureTemp tFine) ∧
    DivisorFits c (pressureSlope c (pressureTemp tFine)) ∧
    (guardedDivisor c tFine ≠ 0 →
      OffsetHolds c (pressureTemp tFine) ∧
        NumeratorFits adcP (pressureOffset c (pressureTemp tFine)) ∧
        CorrectionHolds c
          (scaledQuotient (firstP c adcP tFine) (guardedDivisor c tFine)))

instance (c : Bmp280Calib) (adcP tFine : Int) :
    Decidable (PressFits c adcP tFine) :=
  inferInstanceAs (Decidable (_ ∧ _ ∧ (_ → _ ∧ _ ∧ _)))

instance (c : Bmp280Calib) (adcP tFine : Int) :
    Decidable (PressHolds c adcP tFine) :=
  inferInstanceAs (Decidable (_ ∨ _ ∧ _ ∧ (_ → _ ∧ _ ∧ _)))

/-- The formula's steps, machine word and integer side by side. -/
def pressSteps (c : Bmp280Calib) (adcP tFine : Int32) : Shadow UInt32 :=
  bmp280CompensatePress c (Shadow.ofWord adcP) (Shadow.ofWord tFine)

/-- The driver returns what the formula gives over the integers, by way of the
same guard, the same divisor and the same numerator. -/
structure PressExact (c : Bmp280Calib) (adcP tFine : Int32) : Prop where
  result : ((bmp280CompensatePress c adcP tFine : UInt32).toNat : Int) =
    bmp280CompensatePress c adcP.toInt tFine.toInt
  guard : guardedDivisor c tFine = 0 ↔ guardedDivisor c tFine.toInt = 0
  divisor : guardedDivisor c tFine ≠ 0 →
    0 < guardedDivisor c tFine.toInt ∧
      ((toUnsigned (guardedDivisor c tFine) : UInt32).toNat : Int) =
        guardedDivisor c tFine.toInt
  numerator : guardedDivisor c tFine ≠ 0 →
    0 ≤ (firstP c adcP.toInt tFine.toInt : Int) ∧
      (firstP c adcP.toInt tFine.toInt : Int) ≤ 4294967295 ∧
      ((firstP c adcP tFine : UInt32).toNat : Int) =
        firstP c adcP.toInt tFine.toInt

theorem guardedDivisor_nonneg {c : Bmp280Calib} {tFine : Int}
    (slope : SlopeHolds c (pressureTemp tFine))
    (divisor : DivisorFits c (pressureSlope c (pressureTemp tFine))) :
    0 ≤ guardedDivisor c tFine ∧ guardedDivisor c tFine ≤ 65535 := by
  have hslope := slope.bound
  show 0 ≤ (32768 + pressureSlope c (pressureTemp tFine)) *
      (c.digP1.toNat : Int) / 2 ^ 15 ∧
    (32768 + pressureSlope c (pressureTemp tFine)) *
      (c.digP1.toNat : Int) / 2 ^ 15 ≤ 65535
  have hproduct : 0 ≤ (32768 + pressureSlope c (pressureTemp tFine)) *
      (c.digP1.toNat : Int) :=
    mul_nonneg (by omega) (by omega)
  rw [DivisorFits, fits_int32] at divisor
  omega

/-- Up to the guard. -/
theorem guardedDivisor_faithful (c : Bmp280Calib) (tFine : Int32) :
    (guardedDivisor c (Shadow.ofWord tFine)).Faithful ↔
      SlopeFits c (pressureTemp tFine.toInt) ∧
        DivisorFits c (pressureSlope c (pressureTemp tFine.toInt)) := by
  have htemp := pressureTemp_faithful tFine
  have hslope := pressureSlope_faithful c (pressureTemp (Shadow.ofWord tFine))
  constructor
  · intro hdivisor
    unfold guardedDivisor pressureDivisor at hdivisor
    rw [Shadow.faithful_shiftRight, Shadow.faithful_mul,
      Shadow.faithful_add] at hdivisor
    exact ⟨(hslope.mp hdivisor.1.2.1).2, hdivisor.2.2⟩
  · intro ⟨slope, divisor⟩
    exact (pressureDivisor_faithful c _ (slope.holds.bound c)).mpr
      ⟨hslope.mpr ⟨htemp, slope⟩, divisor⟩

/-- Past the guard. -/
theorem corrected_faithful_iff (c : Bmp280Calib) {adcP tFine : Int32}
    (range : SampleRange adcP.toInt)
    (hdivisor : (guardedDivisor c (Shadow.ofWord tFine)).Faithful)
    (bound : 0 ≤ guardedDivisor c tFine.toInt ∧
      guardedDivisor c tFine.toInt ≤ 65535) :
    (pressureCorrected (S := Shadow Int32) c
      (scaledQuotient (firstP c (Shadow.ofWord adcP) (Shadow.ofWord tFine))
        (toUnsigned (guardedDivisor c (Shadow.ofWord tFine))) :
          Shadow UInt32)).Faithful ↔
      OffsetFits c (pressureTemp tFine.toInt) ∧
        NumeratorFits adcP.toInt (pressureOffset c (pressureTemp tFine.toInt)) ∧
        CorrectionFits c (scaledQuotient (firstP c adcP.toInt tFine.toInt)
          (guardedDivisor c tFine.toInt)) := by
  have hcast : (toUnsigned (guardedDivisor c (Shadow.ofWord tFine)) :
      Shadow UInt32).Faithful :=
    (Shadow.faithful_toUnsigned _).mpr
      ⟨hdivisor, bound.1, Int.le_trans bound.2 (by decide)⟩
  have hp : (firstP c (Shadow.ofWord adcP) (Shadow.ofWord tFine) :
      Shadow UInt32).Faithful ↔ OffsetFits c (pressureTemp tFine.toInt) ∧
        NumeratorFits adcP.toInt
          (pressureOffset c (pressureTemp tFine.toInt)) := by
    refine (pressureNumerator_faithful _ _ range).trans ?_
    rw [and_iff_right (Shadow.faithful_ofWord adcP), pressureOffset_faithful,
      and_iff_right (pressureTemp_faithful tFine)]
    rfl
  rw [pressureCorrected_faithful]
  constructor
  · intro ⟨hquotient, correction⟩
    obtain ⟨offset, numerator⟩ :=
      hp.mp ((Shadow.faithful_ifLess ..).mp hquotient).1
    exact ⟨offset, numerator, correction⟩
  · intro ⟨offset, numerator, correction⟩
    have hfirst := hp.mpr ⟨offset, numerator⟩
    refine ⟨(scaledQuotient_faithful hfirst hcast).mpr ?_, correction⟩
    intro hlarge
    have hdoubled : scaledQuotient (firstP c adcP.toInt tFine.toInt)
        (guardedDivisor c tFine.toInt) =
          firstP c adcP.toInt tFine.toInt / guardedDivisor c tFine.toInt * 2 :=
      if_neg (not_lt.mpr hlarge)
    have hle := correction.1
    rw [hdoubled] at hle
    have hquotient : 0 ≤ (firstP c adcP.toInt tFine.toInt : Int) /
        guardedDivisor c tFine.toInt :=
      Int.ediv_nonneg hfirst.fits_unsigned.1 bound.1
    exact ⟨mul_nonneg hquotient (by decide), Int.le_trans hle (by decide)⟩

theorem pressSteps_faithful_iff (c : Bmp280Calib) {adcP : Int32}
    (range : SampleRange adcP.toInt) (tFine : Int32) :
    (pressSteps c adcP tFine).Faithful ↔
      PressFits c adcP.toInt tFine.toInt := by
  refine (Shadow.faithful_ifZero ..).trans ?_
  refine (and_congr_left' (guardedDivisor_faithful c tFine)).trans ?_
  rw [and_assoc]
  refine and_congr_right fun slope => and_congr_right fun divisor => ?_
  have hdivisor := (guardedDivisor_faithful c tFine).mpr ⟨slope, divisor⟩
  have bound := guardedDivisor_nonneg (slope.holds c) divisor
  have hcorrected := corrected_faithful_iff c range hdivisor bound
  show (if guardedDivisor c tFine.toInt = 0 then _ else _) ↔ _
  split
  · rename_i hzero
    exact iff_of_true (by simp [fits_uint32]) fun hne => absurd hzero hne
  · rename_i hne
    rw [← hcorrected]
    exact (imp_iff_right hne).symm

section Word

variable (c : Bmp280Calib)

theorem guardedDivisor_word (tFine : Shadow Int32) :
    (guardedDivisor c tFine).word = guardedDivisor c tFine.word :=
  rfl

theorem firstP_word (adcP tFine : Shadow Int32) :
    (firstP c adcP tFine : Shadow UInt32).word =
      firstP c adcP.word tFine.word :=
  rfl

theorem scaledQuotient_word (p divisor : Shadow UInt32) :
    (scaledQuotient p divisor).word = scaledQuotient p.word divisor.word :=
  rfl

theorem pressureCorrected_word (p : Shadow UInt32) :
    (pressureCorrected (S := Shadow Int32) c p).word =
      pressureCorrected (S := Int32) c p.word :=
  rfl

theorem pressSteps_word (adcP tFine : Int32) :
    (pressSteps c adcP tFine).word = bmp280CompensatePress c adcP tFine := by
  rw [pressSteps, bmp280CompensatePress_eq, bmp280CompensatePress_eq,
    Shadow.word_ifZero, guardedDivisor_word, pressureCorrected_word,
    scaledQuotient_word, firstP_word, Shadow.word_toUnsigned,
    guardedDivisor_word, Shadow.word_u32, Shadow.ofWord, Shadow.ofWord]

end Word

theorem pressSteps_exact (c : Bmp280Calib) (adcP tFine : Int32) :
    (pressSteps c adcP tFine).exact =
      bmp280CompensatePress c adcP.toInt tFine.toInt :=
  rfl

end Whole

end EmbeddedPortfolio.Sensor
