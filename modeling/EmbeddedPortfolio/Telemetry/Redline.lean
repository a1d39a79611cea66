import Mathlib.Data.Rat.Floor
import EmbeddedPortfolio.Telemetry.Transmitter

namespace EmbeddedPortfolio.Telemetry

open EmbeddedPortfolio.Numeric

universe u

/-! `--redline` against the receiver's thresholds.  The clamp to the highest
code of the RPM field lies below the RPM threshold. -/

section Thresholds

variable {K : Type u} [Field K] [LinearOrder K] [FloorRing K]
variable [IsStrictOrderedRing K]

/-- No code that the clamp lets through stands for more than 4095.75 rpm. -/
theorem decodeEngine_rpm_le {cycle : DriveCycle K} (lower : 0 ≤ cycle.rpm)
    (upper : cycle.rpm ≤ 16383 * (rpmScale : K)) :
    (decodeEngine (engineFrame cycle).data).rpm ≤ 16383 * rpmScale := by
  have hscale : (0 : K) < rpmScale := by
    norm_num [rpmScale]
  have hcode : ⌊cycle.rpm / (rpmScale : K)⌋ ≤ 16383 := by
    apply Int.le_of_lt_add_one
    rw [Int.floor_lt, div_lt_iff₀ hscale]
    push_cast
    linarith
  have hcode : (⌊cycle.rpm / (rpmScale : K)⌋ : ℚ) ≤ 16383 := by
    exact_mod_cast hcode
  rw [decodeEngine_rpm lower upper]
  exact mul_le_mul_of_nonneg_right hcode (by norm_num [rpmScale])

theorem rpm_alert_absent (redline : Bool) (phase : Phase K) :
    ¬ alertRpmRedline <
      (decodeEngine (engineFrame (signals redline phase)).data).rpm := by
  have hrange := signals_rpm_mem redline phase
  have hdecoded := decodeEngine_rpm_le hrange.1 hrange.2
  have hthreshold : 16383 * rpmScale ≤ alertRpmRedline := by
    norm_num [rpmScale, alertRpmRedline]
  exact not_lt.mpr (hdecoded.trans hthreshold)

theorem coolant_alert_present (phase : Phase K) :
    alertEctMaxC <
      (decodeEngine (engineFrame (signals true phase)).data).ectC := by
  have hrange := signals_redline_ect_mem phase
  have hlower : (117 : Int) ≤ lround (signals true phase).ect :=
    le_lround (by exact_mod_cast hrange.1)
  have hupper : lround (signals true phase).ect ≤ (138 : Int) :=
    lround_le (by exact_mod_cast hrange.2)
  rw [decodeEngine_ectC (by omega) (by omega)]
  have hcast : (117 : ℚ) ≤ lround (signals true phase).ect := by
    exact_mod_cast hlower
  exact lt_of_lt_of_le (by norm_num [alertEctMaxC]) hcast

theorem tick_alerts (hz : K) (odoM : UInt32) (phase : Phase K) :
    (receive (tick hz true odoM phase).engine).alerts = [.coolant] := by
  simp only [tick, receive_engineFrame, Reception.alerts]
  rw [if_neg (rpm_alert_absent true phase),
    if_pos (coolant_alert_present phase), List.nil_append]

/-- Both alarms of the frame trip. -/
def TripsBoth (frame : CanFrame) : Prop :=
  .rpm ∈ (receive frame).alerts ∧ .coolant ∈ (receive frame).alerts

/-- Every tick of every run with `--redline` trips the coolant alarm alone. -/
theorem redline_never_trips_both (hz : K) (odoM : UInt32)
    (phases : List (Phase K)) (broadcast : Broadcast)
    (sent : broadcast ∈ canTx hz true odoM phases) :
    ¬ TripsBoth broadcast.engine ∧
      (receive broadcast.engine).alerts = [.coolant] := by
  have halerts : (receive broadcast.engine).alerts = [.coolant] := by
    induction phases generalizing odoM with
    | nil => cases sent
    | cons phase phases induction =>
        cases sent with
        | head => exact tick_alerts hz odoM phase
        | tail _ later => exact induction _ later
  refine ⟨?_, halerts⟩
  intro trips
  have hrpm := trips.1
  rw [halerts] at hrpm
  simp at hrpm

end Thresholds

/-- The first tick of a run: `t = 0.0`. -/
def firstPhase : Phase ℚ where
  sinThrottle := 0
  sinRpm := 0
  sinEct := 0
  expEct := 1
  sinThrottle_mem := by norm_num
  sinRpm_mem := by norm_num
  sinEct_mem := by norm_num
  expEct_mem := by norm_num

theorem redline_never_trips_both_firstPhase :
    ¬ TripsBoth (tick (10 : ℚ) true 0 firstPhase).engine ∧
      (receive (tick (10 : ℚ) true 0 firstPhase).engine).alerts = [.coolant] :=
  redline_never_trips_both 10 0 [firstPhase] _ List.mem_cons_self

/-- At the first tick, 4600 rpm before the clamp, the RPM alarm stays silent. -/
theorem redline_misses_rpm_alarm :
    ¬ ∀ (hz : ℚ) (phases : List (Phase ℚ)),
      ∀ broadcast ∈ canTx hz true 0 phases, TripsBoth broadcast.engine := by
  intro claim
  have htrips := claim 10 [firstPhase] (tick 10 true 0 firstPhase)
    List.mem_cons_self
  have hsilent : ¬ .rpm ∈
      (receive (tick (10 : ℚ) true 0 firstPhase).engine).alerts := by
    decide +kernel
  exact hsilent htrips.1

end EmbeddedPortfolio.Telemetry
