import Mathlib.Data.Rat.Cast.CharZero
import Mathlib.Tactic.NormNum.OfScientific
import EmbeddedPortfolio.Numeric.Rounding
import EmbeddedPortfolio.Telemetry.Receiver

namespace EmbeddedPortfolio.Telemetry

open EmbeddedPortfolio.Numeric

universe u

/-! The simulator.  Its arithmetic is exact, and `sin` and `exp` of the time are
any values of their ranges. -/

section Code

variable {K : Type u} [Field K] [LinearOrder K]

/-- What the functions of the time return at one tick: `sin(t * 0.15)`,
`sin(t * 0.9)`, `sin(t * 0.05)` and `exp(-t / 40.0)`. -/
structure Phase (K : Type u) [Field K] [LinearOrder K] where
  sinThrottle : K
  sinRpm : K
  sinEct : K
  expEct : K
  sinThrottle_mem : -1 ≤ sinThrottle ∧ sinThrottle ≤ 1
  sinRpm_mem : -1 ≤ sinRpm ∧ sinRpm ≤ 1
  sinEct_mem : -1 ≤ sinEct ∧ sinEct ≤ 1
  expEct_mem : 0 < expEct ∧ expEct ≤ 1

structure DriveCycle (K : Type u) where
  throttle : K
  rpm : K
  speed : K
  ect : K
  mil : Bool

def driveCycle (phase : Phase K) : DriveCycle K :=
  let throttle := 40 + 40 * phase.sinThrottle
  let rpm := 900 + 30 * throttle + 400 * phase.sinRpm
  { throttle
    rpm
    speed := max 0 (0.02 * rpm - 20)
    ect := 80 + 15 * (1 - phase.expEct) + 3 * phase.sinEct
    mil := false }

def DriveCycle.forceRedline (cycle : DriveCycle K) : DriveCycle K :=
  { cycle with rpm := cycle.rpm + 2500, ect := cycle.ect + 40, mil := true }

def clampRpm (rpm : K) : K :=
  let rpm := if rpm < 0 then 0 else rpm
  if 16383 * (rpmScale : K) < rpm then 16383 * (rpmScale : K) else rpm

/-- The values one tick encodes. -/
def signals (redline : Bool) (phase : Phase K) : DriveCycle K :=
  let cycle := driveCycle phase
  let cycle := if redline then cycle.forceRedline else cycle
  { cycle with rpm := clampRpm cycle.rpm }

def rate (hz : K) : K :=
  if 0 < hz then hz else 10

variable [FloorRing K]

-- The language leaves conversions of a `double` that does not fit undefined.
def odometerTick (hz speed : K) : UInt32 :=
  toUInt32 (truncate (speed / 3.6 / rate hz))

def engineFrame (cycle : DriveCycle K) : CanFrame where
  canId := canIdEngineData
  canDlc := 8
  data :=
    let rpm := be16Put (toUInt16 (truncate (cycle.rpm / (rpmScale : K))))
    #v[rpm.1, rpm.2,
      toUInt8 (lround cycle.ect - ectOffset),
      toUInt8 (lround (cycle.throttle / (throttleScale : K))),
      if cycle.mil then 0x01 else 0x00, 0, 0, 0]

def vehicleFrame (speed : K) (odoM : UInt32) : CanFrame where
  canId := canIdVehicleData
  canDlc := 8
  data :=
    let speed := be16Put (toUInt16 (lround (speed / (speedScale : K))))
    let odo := be24Put odoM
    #v[speed.1, speed.2, odo.1, odo.2.1, odo.2.2, 0, 0, 0]

structure Broadcast where
  engine : CanFrame
  vehicle : CanFrame
  odoM : UInt32
deriving DecidableEq, Repr

/-- One iteration of the loop. -/
def tick (hz : K) (redline : Bool) (odoM : UInt32) (phase : Phase K) :
    Broadcast :=
  let cycle := signals redline phase
  let odoM := odoM + odometerTick hz cycle.speed
  { engine := engineFrame cycle
    vehicle := vehicleFrame cycle.speed odoM
    odoM }

def canTx (hz : K) (redline : Bool) (odoM : UInt32) :
    List (Phase K) → List Broadcast
  | [] => []
  | phase :: phases =>
      let broadcast := tick hz redline odoM phase
      broadcast :: canTx hz redline broadcast.odoM phases

end Code

/-! The ranges of the signals. -/

section Ranges

variable {K : Type u} [Field K] [LinearOrder K] [IsStrictOrderedRing K]

theorem driveCycle_rpm_mem (phase : Phase K) :
    500 ≤ (driveCycle phase).rpm ∧ (driveCycle phase).rpm ≤ 3700 := by
  have hthrottle := phase.sinThrottle_mem
  have hrpm := phase.sinRpm_mem
  constructor
  · simp only [driveCycle]
    linarith
  · simp only [driveCycle]
    linarith

theorem driveCycle_ect_mem (phase : Phase K) :
    77 ≤ (driveCycle phase).ect ∧ (driveCycle phase).ect ≤ 98 := by
  have hect := phase.sinEct_mem
  have hexp := phase.expEct_mem
  constructor
  · simp only [driveCycle]
    linarith
  · simp only [driveCycle]
    linarith

theorem rpmScale_cast : (rpmScale : K) = 1 / 4 := by
  norm_num [rpmScale]

theorem clampRpm_mem (rpm : K) :
    0 ≤ clampRpm rpm ∧ clampRpm rpm ≤ 16383 * (rpmScale : K) := by
  simp only [clampRpm, rpmScale_cast]
  split_ifs <;> constructor <;> linarith

theorem signals_rpm_mem (redline : Bool) (phase : Phase K) :
    0 ≤ (signals redline phase).rpm ∧
      (signals redline phase).rpm ≤ 16383 * (rpmScale : K) :=
  clampRpm_mem _

theorem signals_speed_mem (redline : Bool) (phase : Phase K) :
    0 ≤ (signals redline phase).speed ∧
      (signals redline phase).speed ≤ 54 := by
  have hspeed : (signals redline phase).speed =
      max 0 (0.02 * (driveCycle phase).rpm - 20) := by
    cases redline with
    | true => rfl
    | false => rfl
  have hrpm := driveCycle_rpm_mem phase
  rw [hspeed]
  refine ⟨le_max_left _ _, max_le (by norm_num) ?_⟩
  norm_num
  linarith

theorem signals_redline_ect_mem (phase : Phase K) :
    117 ≤ (signals true phase).ect ∧ (signals true phase).ect ≤ 138 := by
  have hect := driveCycle_ect_mem phase
  constructor
  · simp only [signals, if_true, DriveCycle.forceRedline]
    linarith
  · simp only [signals, if_true, DriveCycle.forceRedline]
    linarith

end Ranges

/-! What the receiver makes of an `ENGINE_DATA` frame. -/

section Received

variable {K : Type u} [Field K] [LinearOrder K] [FloorRing K]

theorem receive_engineFrame (cycle : DriveCycle K) :
    receive (engineFrame cycle) =
      .engine (decodeEngine (engineFrame cycle).data) := by
  have hlength : (5 : UInt8) ≤ 8 := by decide
  simp [receive, engineFrame, hlength]

theorem decodeEngine_ectC {cycle : DriveCycle K}
    (lower : -40 ≤ lround cycle.ect) (upper : lround cycle.ect ≤ 215) :
    (decodeEngine (engineFrame cycle).data).ectC = lround cycle.ect := by
  have hbyte : ((toUInt8 (lround cycle.ect + 40)).toNat : Int) =
      lround cycle.ect + 40 :=
    toUInt8_toNat (by omega) (by omega)
  simp only [decodeEngine, engineFrame, ectOffset, sub_neg_eq_add]
  simp [hbyte]

variable [IsStrictOrderedRing K]

theorem decodeEngine_rpm {cycle : DriveCycle K} (lower : 0 ≤ cycle.rpm)
    (upper : cycle.rpm ≤ 16383 * (rpmScale : K)) :
    (decodeEngine (engineFrame cycle).data).rpm =
      ⌊cycle.rpm / (rpmScale : K)⌋ * rpmScale := by
  have hscale : (0 : K) < rpmScale := by
    norm_num [rpmScale]
  have hnonneg := div_nonneg lower hscale.le
  have hupper : cycle.rpm / (rpmScale : K) ≤ (16383 : Int) := by
    rw [div_le_iff₀ hscale]
    exact_mod_cast upper
  have hfits := truncate_le hnonneg hupper
  have hword := toUInt16_toNat (truncate_nonneg hnonneg) (by omega)
  rw [← truncate_of_nonneg hnonneg, ← hword]
  simp [decodeEngine, engineFrame, be16Get_be16Put]

end Received

end EmbeddedPortfolio.Telemetry
