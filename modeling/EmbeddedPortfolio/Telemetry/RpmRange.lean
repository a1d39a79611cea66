import EmbeddedPortfolio.Telemetry.Redline

namespace EmbeddedPortfolio.Telemetry

universe u

/-! Engine speeds of the documented range, `0..16383 rpm`, across the wire. -/

section Range

variable {K : Type u} [Field K] [LinearOrder K]

/-- What is encoded of a cycle's values. -/
def DriveCycle.clamped (cycle : DriveCycle K) : DriveCycle K :=
  { cycle with rpm := clampRpm cycle.rpm }

/-- The frame carries an engine speed to one step, and so does its alarm. -/
structure CarriesRpm (rpm : K) (frame : CanFrame) : Prop where
  near : |((decodeEngine frame.data).rpm : K) - rpm| ≤ (rpmScale : K)
  alarm : (alertRpmRedline : K) + (rpmScale : K) < rpm →
    .rpm ∈ (receive frame).alerts
  silence : rpm ≤ (alertRpmRedline : K) - (rpmScale : K) →
    .rpm ∉ (receive frame).alerts

theorem clampRpm_eq {rpm : K} (lower : 0 ≤ rpm)
    (upper : rpm ≤ 16383 * (rpmScale : K)) : clampRpm rpm = rpm := by
  unfold clampRpm
  dsimp only
  rw [if_neg (not_lt.mpr lower), if_neg (not_lt.mpr upper)]

theorem clampRpm_top {rpm : K} (lower : 0 ≤ rpm)
    (upper : 16383 * (rpmScale : K) < rpm) :
    clampRpm rpm = 16383 * (rpmScale : K) := by
  unfold clampRpm
  dsimp only
  rw [if_neg (not_lt.mpr lower), if_pos upper]

variable [FloorRing K]

theorem rpm_mem_alerts (cycle : DriveCycle K) :
    .rpm ∈ (receive (engineFrame cycle)).alerts ↔
      alertRpmRedline < (decodeEngine (engineFrame cycle).data).rpm := by
  simp [receive_engineFrame, Reception.alerts]

variable [IsStrictOrderedRing K]

theorem clamped_rpm_received (cycle : DriveCycle K) :
    (decodeEngine (engineFrame cycle.clamped).data).rpm =
      ⌊clampRpm cycle.rpm / (rpmScale : K)⌋ * rpmScale :=
  decodeEngine_rpm (clampRpm_mem cycle.rpm).1 (clampRpm_mem cycle.rpm).2

/-- The alarms follow from the value. -/
theorem carriesRpm_of_near {cycle : DriveCycle K} {rpm : K}
    (near : |((decodeEngine (engineFrame cycle).data).rpm : K) - rpm| ≤
      (rpmScale : K)) : CarriesRpm rpm (engineFrame cycle) := by
  obtain ⟨hlow, hhigh⟩ := abs_le.mp near
  refine ⟨near, ?_, ?_⟩
  · intro habove
    rw [rpm_mem_alerts, ← Rat.cast_lt (K := K)]
    linarith
  · intro hbelow
    rw [rpm_mem_alerts, not_lt, ← Rat.cast_le (K := K)]
    linarith

/-- The code is the clamped value's, rounded down. -/
theorem clamped_rpm_mem (cycle : DriveCycle K) :
    clampRpm cycle.rpm - (rpmScale : K) <
        ((decodeEngine (engineFrame cycle.clamped).data).rpm : K) ∧
      ((decodeEngine (engineFrame cycle.clamped).data).rpm : K) ≤
        clampRpm cycle.rpm := by
  have hscale : (0 : K) < rpmScale := by
    norm_num [rpmScale]
  have hlow := Int.sub_floor_div_mul_lt (clampRpm cycle.rpm) hscale
  have hhigh := Int.sub_floor_div_mul_nonneg (clampRpm cycle.rpm) hscale
  rw [clamped_rpm_received]
  push_cast
  constructor <;> linarith

/-- Above the clamp the highest code that it lets through is sent. -/
theorem clamped_rpm_top {cycle : DriveCycle K} (lower : 0 ≤ cycle.rpm)
    (above : 16383 * (rpmScale : K) < cycle.rpm) :
    (decodeEngine (engineFrame cycle.clamped).data).rpm =
      16383 * rpmScale := by
  have hscale : (0 : K) < rpmScale := by
    norm_num [rpmScale]
  have hcode : ⌊16383 * (rpmScale : K) / (rpmScale : K)⌋ = 16383 := by
    rw [mul_div_cancel_right₀ _ hscale.ne']
    exact Int.floor_ofNat 16383
  rw [clamped_rpm_received, clampRpm_top lower above, hcode]
  push_cast
  rfl

theorem clamped_rpm_near {cycle : DriveCycle K} (lower : 0 ≤ cycle.rpm)
    (upper : cycle.rpm ≤ 4096) :
    |((decodeEngine (engineFrame cycle.clamped).data).rpm : K) - cycle.rpm| ≤
      (rpmScale : K) := by
  rcases le_or_gt cycle.rpm (16383 * (rpmScale : K)) with hcoded | habove
  · obtain ⟨hlow, hhigh⟩ := clamped_rpm_mem cycle
    rw [clampRpm_eq lower hcoded] at hlow hhigh
    rw [abs_le]
    constructor <;> linarith
  · have hquarter : (rpmScale : K) = 1 / 4 := rpmScale_cast
    rw [clamped_rpm_top lower habove, abs_le]
    push_cast
    constructor <;> linarith

theorem carriesRpm_iff (cycle : DriveCycle K) (lower : 0 ≤ cycle.rpm) :
    CarriesRpm cycle.rpm (engineFrame cycle.clamped) ↔ cycle.rpm ≤ 4096 := by
  constructor
  · intro carries
    have hnear := (abs_le.mp carries.near).1
    have hreceived := (clamped_rpm_mem cycle).2
    have hclamp := (clampRpm_mem cycle.rpm).2
    have hquarter : (rpmScale : K) = 1 / 4 := rpmScale_cast
    linarith
  · intro upper
    exact carriesRpm_of_near (clamped_rpm_near lower upper)

end Range

section Samples

/-- The first tick of `can_tx --redline`, 4600 rpm, is received as 4095.75. -/
theorem redline_rpm_not_carried :
    (driveCycle firstPhase).forceRedline.rpm = 4600 ∧
      ¬ CarriesRpm (4600 : ℚ)
        (engineFrame (driveCycle firstPhase).forceRedline.clamped) := by
  have hrpm : (driveCycle firstPhase).forceRedline.rpm = 4600 := by
    decide +kernel
  refine ⟨hrpm, ?_⟩
  intro carries
  have hfar : ¬ |(decodeEngine (engineFrame
      (driveCycle firstPhase).forceRedline.clamped).data).rpm - 4600| ≤
        rpmScale := by
    decide +kernel
  apply hfar
  simpa only [Rat.cast_id] using carries.near

theorem carriesRpm_firstPhase :
    CarriesRpm (driveCycle firstPhase).rpm
        (engineFrame (driveCycle firstPhase).clamped) ↔
      (driveCycle firstPhase).rpm ≤ 4096 :=
  carriesRpm_iff _ (by decide +kernel)

end Samples

end EmbeddedPortfolio.Telemetry
