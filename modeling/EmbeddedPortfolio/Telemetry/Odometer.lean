import Mathlib.Algebra.Order.BigOperators.Group.List
import Mathlib.Data.Rat.Floor
import EmbeddedPortfolio.Telemetry.Redline

namespace EmbeddedPortfolio.Telemetry

open EmbeddedPortfolio.Numeric

universe u

/-! The simulator's odometer against the distance travelled. -/

section Code

variable {K : Type u} [Field K] [LinearOrder K] [FloorRing K]

/-- The odometer after a tick at each of the speeds. -/
def odometerAfter (hz : K) : UInt32 → List K → UInt32
  | odoM, [] => odoM
  | odoM, speed :: speeds =>
      odometerAfter hz (odoM + odometerTick hz speed) speeds

theorem canTx_odometer (hz : K) (redline : Bool) (odoM : UInt32)
    (phases : List (Phase K)) :
    ((canTx hz redline odoM phases).map Broadcast.odoM).getLastD odoM =
      odometerAfter hz odoM
        (phases.map fun phase => (signals redline phase).speed) := by
  induction phases generalizing odoM with
  | nil => rfl
  | cons phase phases induction =>
      rw [canTx, List.map_cons, List.getLastD_cons, List.map_cons,
        odometerAfter]
      exact induction _

/-- What one tick at a speed in km/h covers, in metres. -/
def covered (hz speed : K) : K :=
  speed / (3.6 * hz)

def travelled (hz : K) (speeds : List K) : K :=
  speeds.sum / (3.6 * hz)

/-- The fractions of a metre that the ticks cover. -/
def fractions (hz : K) (speeds : List K) : K :=
  (speeds.map fun speed => Int.fract (covered hz speed)).sum

end Code

section Accumulated

variable {K : Type u} [Field K] [LinearOrder K] [FloorRing K]
variable {hz : K}

omit [LinearOrder K] [FloorRing K] in
theorem travelled_cons (hz speed : K) (speeds : List K) :
    travelled hz (speed :: speeds) =
      covered hz speed + travelled hz speeds := by
  unfold travelled covered
  rw [List.sum_cons, add_div]

theorem fractions_cons (hz speed : K) (speeds : List K) :
    fractions hz (speed :: speeds) =
      Int.fract (covered hz speed) + fractions hz speeds := by
  unfold fractions
  rw [List.map_cons, List.sum_cons]

variable [IsStrictOrderedRing K]

theorem covered_nonneg (positive : 0 < hz) {speed : K} (nonneg : 0 ≤ speed) :
    0 ≤ covered hz speed := by
  have hfactor : (0 : K) < 3.6 * hz := by
    positivity
  exact div_nonneg nonneg hfactor.le

theorem travelled_nonneg (positive : 0 < hz) {speeds : List K}
    (nonneg : ∀ speed ∈ speeds, 0 ≤ speed) : 0 ≤ travelled hz speeds := by
  have hfactor : (0 : K) < 3.6 * hz := by
    positivity
  exact div_nonneg (List.sum_nonneg nonneg) hfactor.le

theorem fractions_nonneg (hz : K) (speeds : List K) :
    0 ≤ fractions hz speeds := by
  apply List.sum_nonneg
  intro fraction hfraction
  obtain ⟨speed, _, rfl⟩ := List.mem_map.mp hfraction
  exact Int.fract_nonneg _

theorem odometerTick_toNat (positive : 0 < hz) {speed : K}
    (nonneg : 0 ≤ speed) (fits : covered hz speed < 2 ^ 32) :
    ((odometerTick hz speed).toNat : Int) = ⌊covered hz speed⌋ := by
  have hcovered : speed / 3.6 / rate hz = covered hz speed := by
    rw [rate, if_pos positive, div_div, covered]
  have hlow := covered_nonneg positive nonneg
  have hhigh : ⌊covered hz speed⌋ < 4294967296 := by
    rw [Int.floor_lt]
    push_cast
    linarith
  rw [odometerTick, hcovered, truncate_of_nonneg hlow,
    toUInt32_toNat (Int.floor_nonneg.mpr hlow) hhigh]

/-- One tick adds the whole metres that it covers. -/
theorem odometer_step (positive : 0 < hz) {speed : K} (nonneg : 0 ≤ speed)
    (odoM : UInt32) (fits : (odoM.toNat : K) + covered hz speed < 2 ^ 32) :
    ((odoM + odometerTick hz speed).toNat : K) =
      odoM.toNat + ⌊covered hz speed⌋ := by
  have htick := odometerTick_toNat positive nonneg
    ((le_add_of_nonneg_left (Nat.cast_nonneg _)).trans_lt fits)
  have hcast : ((odometerTick hz speed).toNat : K) = ⌊covered hz speed⌋ := by
    exact_mod_cast htick
  have hsum : odoM.toNat + (odometerTick hz speed).toNat < 2 ^ 32 := by
    have hfloor := Int.floor_le (covered hz speed)
    have hreal : ((odoM.toNat + (odometerTick hz speed).toNat : Nat) : K) <
        ((2 ^ 32 : Nat) : K) := by
      push_cast
      linarith
    exact Nat.cast_lt.mp hreal
  rw [UInt32.toNat_add, Nat.mod_eq_of_lt hsum, Nat.cast_add, hcast]

/-- What is lacking after a run is what the ticks have dropped. -/
theorem odometer_add_fractions (positive : 0 < hz) {speeds : List K}
    (nonneg : ∀ speed ∈ speeds, 0 ≤ speed) {odoM : UInt32}
    (fits : (odoM.toNat : K) + travelled hz speeds < 2 ^ 32) :
    ((odometerAfter hz odoM speeds).toNat : K) + fractions hz speeds =
      odoM.toNat + travelled hz speeds := by
  induction speeds generalizing odoM with
  | nil => simp [odometerAfter, fractions, travelled]
  | cons speed speeds induction =>
      have hlater : ∀ later ∈ speeds, 0 ≤ later := fun later hlater =>
        nonneg later (List.mem_cons_of_mem _ hlater)
      have hrest := travelled_nonneg positive hlater
      have hfloor := Int.floor_add_fract (covered hz speed)
      have hfract := Int.fract_nonneg (covered hz speed)
      rw [travelled_cons] at fits ⊢
      have hstep := odometer_step positive (nonneg speed List.mem_cons_self)
        odoM (by linarith)
      have hfits : ((odoM + odometerTick hz speed).toNat : K) +
          travelled hz speeds < 2 ^ 32 := by
        rw [hstep]
        linarith
      rw [odometerAfter, fractions_cons]
      linarith [induction hlater hfits]

/-- The odometer is as far behind as the ticks have dropped. -/
theorem odometer_tracks_iff (positive : 0 < hz) {speeds : List K}
    (nonneg : ∀ speed ∈ speeds, 0 ≤ speed)
    (fits : travelled hz speeds < 2 ^ 32) (bound : K) :
    |((odometerAfter hz 0 speeds).toNat : K) - travelled hz speeds| < bound ↔
      fractions hz speeds < bound := by
  have hzero : ((0 : UInt32).toNat : K) = 0 := Nat.cast_zero
  rw [← zero_add (travelled hz speeds), ← hzero] at fits
  have hrun := odometer_add_fractions positive nonneg fits
  rw [hzero, zero_add] at hrun
  have herror : ((odometerAfter hz 0 speeds).toNat : K) - travelled hz speeds =
      -fractions hz speeds := by
    linarith
  rw [herror, abs_neg, abs_of_nonneg (fractions_nonneg hz speeds)]

/-! Ticks that cover less than a metre. -/

omit [IsStrictOrderedRing K] in
theorem odometer_still {speeds : List K}
    (still : ∀ speed ∈ speeds, odometerTick hz speed = 0) (odoM : UInt32) :
    odometerAfter hz odoM speeds = odoM := by
  induction speeds generalizing odoM with
  | nil => rfl
  | cons speed speeds induction =>
      rw [odometerAfter, still speed List.mem_cons_self, UInt32.add_zero]
      exact induction
        (fun later hlater => still later (List.mem_cons_of_mem _ hlater)) odoM

theorem odometerTick_eq_zero (positive : 0 < hz) {speed : K}
    (nonneg : 0 ≤ speed) (short : covered hz speed < 1) :
    odometerTick hz speed = 0 := by
  have hfloor : ⌊covered hz speed⌋ = 0 :=
    Int.floor_eq_zero_iff.mpr ⟨covered_nonneg positive nonneg, short⟩
  have htick := odometerTick_toNat positive nonneg
    (short.trans_le (by norm_num))
  rw [hfloor] at htick
  exact UInt32.toNat_inj.mp (by exact_mod_cast htick)

/-- At more than 15 Hz the simulator never counts a metre. -/
theorem simulator_odometer_still (fast : 15 < hz) (redline : Bool)
    (odoM : UInt32) (phases : List (Phase K)) :
    ((canTx hz redline odoM phases).map Broadcast.odoM).getLastD odoM =
      odoM := by
  have positive : 0 < hz := by
    linarith
  rw [canTx_odometer]
  apply odometer_still
  intro speed hspeed
  obtain ⟨phase, _, rfl⟩ := List.mem_map.mp hspeed
  obtain ⟨hlow, hhigh⟩ := signals_speed_mem redline phase
  apply odometerTick_eq_zero positive hlow
  unfold covered
  rw [div_lt_one (by positivity)]
  norm_num
  linarith

end Accumulated

section Samples

/-- The rate of the test script, from the first tick on. -/
theorem simulator_odometer_still_20Hz :
    ((canTx (20 : ℚ) false 0 [firstPhase, firstPhase]).map
      Broadcast.odoM).getLastD 0 = 0 :=
  simulator_odometer_still (by norm_num) false 0 [firstPhase, firstPhase]

/-- At 20 Hz, as in the test script, a steady 50 km/h is never counted. -/
theorem odometer_steady (ticks : Nat) :
    odometerAfter 20 0 (List.replicate ticks (50 : ℚ)) = 0 := by
  apply odometer_still
  intro speed hspeed
  rw [List.eq_of_mem_replicate hspeed]
  decide +kernel

theorem travelled_steady (ticks : Nat) :
    travelled 20 (List.replicate ticks (50 : ℚ)) = ticks * 25 / 36 := by
  rw [travelled, List.sum_replicate, nsmul_eq_mul]
  norm_num
  ring

/-- No constant below the counter's range bounds the error. -/
theorem steady_speed_unbounded :
    ¬ ∃ bound : ℚ, bound ≤ 2 ^ 32 - 1 ∧ ∀ (hz : ℚ) (speeds : List ℚ),
      0 < hz → (∀ speed ∈ speeds, 0 ≤ speed) →
      travelled hz speeds < 2 ^ 32 →
        |((odometerAfter hz 0 speeds).toNat : ℚ) - travelled hz speeds| <
          bound := by
  intro ⟨bound, hlimit, tracks⟩
  have hpositive : 0 < bound := by
    have hstart := tracks 20 [] (by norm_num) (by simp)
      (by norm_num [travelled])
    exact (abs_nonneg _).trans_lt hstart
  have hlow := Nat.le_ceil (bound * 36 / 25)
  have hhigh := Nat.ceil_lt_add_one
    (show 0 ≤ bound * 36 / 25 by positivity)
  generalize ⌈bound * 36 / 25⌉₊ = ticks at hlow hhigh
  have herror := tracks 20 (List.replicate ticks 50) (by norm_num)
    (fun speed hspeed => by
      rw [List.eq_of_mem_replicate hspeed]
      norm_num)
    (by
      rw [travelled_steady]
      linarith)
  rw [odometer_steady, travelled_steady, UInt32.toNat_zero, Nat.cast_zero,
    zero_sub, abs_neg, abs_of_nonneg (by positivity)] at herror
  linarith

theorem odometer_tracks_short :
    |((odometerAfter (10 : ℚ) 0 [50, 20]).toNat : ℚ) -
        travelled 10 [50, 20]| < 1 ↔
      fractions (10 : ℚ) [50, 20] < 1 :=
  odometer_tracks_iff (by norm_num) (by simp) (by norm_num [travelled]) 1

end Samples

end EmbeddedPortfolio.Telemetry
