import EmbeddedPortfolio.Telemetry.Redline

namespace EmbeddedPortfolio.Telemetry

open EmbeddedPortfolio.Numeric

universe u

/-! What of the simulated signals reaches the receiver. -/

/-- A cast to an unsigned type, with the integer it is applied to. -/
structure Narrowing where
  operand : Int
  bits : Nat
deriving DecidableEq, Repr

def Narrowing.Fits (cast : Narrowing) : Prop :=
  0 ≤ cast.operand ∧ cast.operand < 2 ^ cast.bits

instance (cast : Narrowing) : Decidable cast.Fits :=
  inferInstanceAs (Decidable (_ ∧ _))

def be16PutCasts (value : UInt16) : List Narrowing :=
  [⟨(value >>> 8).toNat, 8⟩, ⟨(value &&& 0xFF).toNat, 8⟩]

/-- The casts of `be24_put` that select a byte. -/
def be24PutHighCasts (value : UInt32) : List Narrowing :=
  [⟨(value >>> 16).toNat, 8⟩, ⟨(value >>> 8).toNat, 8⟩]

def be24PutCasts (value : UInt32) : List Narrowing :=
  be24PutHighCasts value ++ [⟨(value &&& 0xFF).toNat, 8⟩]

section Casts

variable {K : Type u} [Field K] [LinearOrder K] [FloorRing K]

def engineCasts (cycle : DriveCycle K) : List Narrowing :=
  let rpm := truncate (cycle.rpm / (rpmScale : K))
  ⟨rpm, 16⟩ :: be16PutCasts (toUInt16 rpm) ++
    [⟨lround cycle.ect - ectOffset, 8⟩,
      ⟨lround (cycle.throttle / (throttleScale : K)), 8⟩]

def vehicleCasts (speed : K) (odoM : UInt32) : List Narrowing :=
  let speed := lround (speed / (speedScale : K))
  ⟨speed, 16⟩ :: be16PutCasts (toUInt16 speed) ++ be24PutCasts odoM

end Casts

theorem be16PutCasts_fit (value : UInt16) :
    ∀ cast ∈ be16PutCasts value, cast.Fits := by
  have hvalue := value.toNat_lt
  have hmask : value.toNat &&& 255 = value.toNat % 256 :=
    Nat.and_two_pow_sub_one_eq_mod value.toNat 8
  intro cast hcast
  simp only [be16PutCasts, List.mem_cons, List.not_mem_nil, or_false] at hcast
  rcases hcast with rfl | rfl
  · simp [Narrowing.Fits, Nat.shiftRight_eq_div_pow]
    omega
  · simp [Narrowing.Fits, hmask]
    omega

/-- One is the byte below the others, which no value overflows. -/
theorem be24PutCasts_fit (value : UInt32) :
    ∀ cast ∈ be24PutCasts value, cast.Fits ∨ cast ∈ be24PutHighCasts value := by
  have hmask : value.toNat &&& 255 = value.toNat % 256 :=
    Nat.and_two_pow_sub_one_eq_mod value.toNat 8
  intro cast hcast
  rcases List.mem_append.mp hcast with hhigh | hlow
  · exact .inr hhigh
  · rw [List.mem_singleton.mp hlow]
    left
    simp [Narrowing.Fits, hmask]
    omega

section Ranges

variable {K : Type u} [Field K] [LinearOrder K] [IsStrictOrderedRing K]

theorem signals_throttle_mem (redline : Bool) (phase : Phase K) :
    0 ≤ (signals redline phase).throttle ∧
      (signals redline phase).throttle ≤ 80 := by
  have hthrottle : (signals redline phase).throttle =
      40 + 40 * phase.sinThrottle := by
    cases redline with
    | true => rfl
    | false => rfl
  have hsin := phase.sinThrottle_mem
  rw [hthrottle]
  constructor <;> linarith

theorem signals_ect_mem (redline : Bool) (phase : Phase K) :
    77 ≤ (signals redline phase).ect ∧
      (signals redline phase).ect ≤ 138 := by
  cases redline with
  | true =>
      have hect := signals_redline_ect_mem phase
      exact ⟨by linarith, hect.2⟩
  | false =>
      have hect := driveCycle_ect_mem phase
      refine ⟨hect.1, hect.2.trans ?_⟩
      norm_num

end Ranges

section Fields

variable {K : Type u} [Field K] [LinearOrder K] [IsStrictOrderedRing K]
variable [FloorRing K]

theorem throttle_code (redline : Bool) (phase : Phase K) :
    0 ≤ lround ((signals redline phase).throttle / (throttleScale : K)) ∧
      lround ((signals redline phase).throttle / (throttleScale : K)) ≤
        200 := by
  have hscale : (throttleScale : K) = 2 / 5 := by
    norm_num [throttleScale]
  have hrange := signals_throttle_mem redline phase
  apply lround_div_mem
  · norm_num [hscale]
  · push_cast
    linarith
  · rw [hscale]
    push_cast
    linarith

theorem speed_code (redline : Bool) (phase : Phase K) :
    0 ≤ lround ((signals redline phase).speed / (speedScale : K)) ∧
      lround ((signals redline phase).speed / (speedScale : K)) ≤ 5400 := by
  have hscale : (speedScale : K) = 1 / 100 := by
    norm_num [speedScale]
  have hrange := signals_speed_mem redline phase
  apply lround_div_mem
  · norm_num [hscale]
  · push_cast
    linarith
  · rw [hscale]
    push_cast
    linarith

theorem ect_code (redline : Bool) (phase : Phase K) :
    77 ≤ lround (signals redline phase).ect ∧
      lround (signals redline phase).ect ≤ 138 := by
  have hrange := signals_ect_mem redline phase
  exact ⟨le_lround (by exact_mod_cast hrange.1),
    lround_le (by exact_mod_cast hrange.2)⟩

theorem rpm_code (redline : Bool) (phase : Phase K) :
    0 ≤ truncate ((signals redline phase).rpm / (rpmScale : K)) ∧
      truncate ((signals redline phase).rpm / (rpmScale : K)) ≤ 16383 := by
  have hrange := signals_rpm_mem redline phase
  have hscale : (0 : K) < rpmScale := by
    norm_num [rpmScale]
  have hnonneg := div_nonneg hrange.1 hscale.le
  refine ⟨truncate_nonneg hnonneg, truncate_le hnonneg ?_⟩
  rw [div_le_iff₀ hscale]
  exact_mod_cast hrange.2

theorem engineCasts_fit (redline : Bool) (phase : Phase K) :
    ∀ cast ∈ engineCasts (signals redline phase), cast.Fits := by
  have hrpm := rpm_code redline phase
  have hect := ect_code redline phase
  have hthrottle := throttle_code redline phase
  intro cast hcast
  simp only [engineCasts, List.cons_append, List.mem_cons, List.mem_append,
    List.not_mem_nil, or_false] at hcast
  unfold Narrowing.Fits
  rcases hcast with rfl | hbyte | rfl | rfl
  · constructor <;> dsimp only <;> omega
  · exact be16PutCasts_fit _ cast hbyte
  · constructor <;> dsimp only [ectOffset] <;> omega
  · constructor <;> dsimp only <;> omega

theorem vehicleCasts_fit (redline : Bool) (phase : Phase K) (odoM : UInt32) :
    ∀ cast ∈ vehicleCasts (signals redline phase).speed odoM,
      cast.Fits ∨ cast ∈ be24PutHighCasts odoM := by
  have hspeed := speed_code redline phase
  intro cast hcast
  simp only [vehicleCasts, List.cons_append, List.mem_cons,
    List.mem_append] at hcast
  rcases hcast with rfl | hbyte | hodo
  · left
    unfold Narrowing.Fits
    constructor <;> dsimp only <;> omega
  · exact .inl (be16PutCasts_fit _ cast hbyte)
  · exact be24PutCasts_fit odoM cast hodo

end Fields

/-! Decoding the two frames of a tick. -/

section Decoding

variable {K : Type u} [Field K] [LinearOrder K] [FloorRing K]

theorem receive_vehicleFrame (speed : K) (odoM : UInt32) :
    receive (vehicleFrame speed odoM) =
      .vehicle (decodeVehicle (vehicleFrame speed odoM).data) := by
  have hlength : (5 : UInt8) ≤ 8 := by decide
  have hid : canIdVehicleData ≠ canIdEngineData := by decide
  simp [receive, vehicleFrame, hlength, hid]

theorem decodeEngine_mil (cycle : DriveCycle K) :
    (decodeEngine (engineFrame cycle).data).mil =
      if cycle.mil then 1 else 0 := by
  cases hmil : cycle.mil with
  | true => simp [decodeEngine, engineFrame, hmil]
  | false => simp [decodeEngine, engineFrame, hmil]

theorem decodeEngine_throttle {cycle : DriveCycle K}
    (lower : 0 ≤ lround (cycle.throttle / (throttleScale : K)))
    (upper : lround (cycle.throttle / (throttleScale : K)) < 256) :
    (decodeEngine (engineFrame cycle).data).throttle =
      lround (cycle.throttle / (throttleScale : K)) * throttleScale := by
  have hbyte := toUInt8_toNat lower upper
  have hcast : ((toUInt8 (lround (cycle.throttle /
      (throttleScale : K)))).toNat : ℚ) =
        lround (cycle.throttle / (throttleScale : K)) := by
    exact_mod_cast congrArg (Int.cast (R := ℚ)) hbyte
  simp [decodeEngine, engineFrame, hcast]

theorem decodeVehicle_speed {speed : K} (odoM : UInt32)
    (lower : 0 ≤ lround (speed / (speedScale : K)))
    (upper : lround (speed / (speedScale : K)) < 65536) :
    (decodeVehicle (vehicleFrame speed odoM).data).speed =
      lround (speed / (speedScale : K)) * speedScale := by
  have hword := toUInt16_toNat lower upper
  have hcast : ((toUInt16 (lround (speed / (speedScale : K)))).toNat : ℚ) =
      lround (speed / (speedScale : K)) := by
    exact_mod_cast congrArg (Int.cast (R := ℚ)) hword
  simp [decodeVehicle, vehicleFrame, be16Get_be16Put, hcast]

theorem decodeVehicle_odo (speed : K) (odoM : UInt32) :
    (decodeVehicle (vehicleFrame speed odoM).data).odo.toNat =
      odoM.toNat % 2 ^ 24 :=
  be24Get_be24Put odoM

end Decoding

section Ticks

variable {K : Type u} [Field K] [LinearOrder K] [FloorRing K]

/-- What the receiver decodes, against the values that were encoded. -/
structure SurvivesWire (cycle : DriveCycle K) (odoM : UInt32)
    (engine : EngineData) (vehicle : VehicleData) : Prop where
  throttle : |cycle.throttle - (engine.throttle : K)| ≤ 0.2
  coolant : |cycle.ect - engine.ectC| ≤ 0.5
  speed : |cycle.speed - (vehicle.speed : K)| ≤ 0.005
  rpm : 0 ≤ cycle.rpm - (engine.rpm : K) ∧
    cycle.rpm - (engine.rpm : K) < 0.25
  mil : engine.mil = if cycle.mil then 1 else 0
  odometer : vehicle.odo.toNat = odoM.toNat % 2 ^ 24

variable [IsStrictOrderedRing K]

theorem survivesWire_signals (redline : Bool) (phase : Phase K)
    (odoM : UInt32) :
    SurvivesWire (signals redline phase) odoM
      (decodeEngine (engineFrame (signals redline phase)).data)
      (decodeVehicle (vehicleFrame (signals redline phase).speed odoM).data)
    where
  throttle := by
    have hcode := throttle_code redline phase
    have hscale : (0 : K) < throttleScale := by
      norm_num [throttleScale]
    have hnear := abs_sub_lround_mul hscale (signals redline phase).throttle
    rw [decodeEngine_throttle hcode.1 (by omega)]
    push_cast
    refine hnear.trans ?_
    norm_num [throttleScale]
  coolant := by
    have hcode := ect_code redline phase
    have hnear := abs_sub_lround (signals redline phase).ect
    rw [decodeEngine_ectC (by omega) (by omega)]
    refine hnear.trans ?_
    norm_num
  speed := by
    have hcode := speed_code redline phase
    have hscale : (0 : K) < speedScale := by
      norm_num [speedScale]
    have hnear := abs_sub_lround_mul hscale (signals redline phase).speed
    rw [decodeVehicle_speed odoM hcode.1 (by omega)]
    push_cast
    refine hnear.trans ?_
    norm_num [speedScale]
  rpm := by
    have hrange := signals_rpm_mem redline phase
    have hscale : (0 : K) < rpmScale := by
      norm_num [rpmScale]
    rw [decodeEngine_rpm hrange.1 hrange.2]
    push_cast
    refine ⟨Int.sub_floor_div_mul_nonneg _ hscale, ?_⟩
    refine (Int.sub_floor_div_mul_lt _ hscale).trans_eq ?_
    norm_num [rpmScale]
  mil := decodeEngine_mil _
  odometer := decodeVehicle_odo _ _

/-- Every tick, in either mode: no cast of the encoders but the two that pick
the odometer's higher bytes loses anything, and the receiver gets the values
back to within the resolution of their fields. -/
theorem tick_survives_wire (hz : K) (redline : Bool) (odoM : UInt32)
    (phase : Phase K) :
    let cycle := signals redline phase
    let sent := tick hz redline odoM phase
    (∀ cast ∈ engineCasts cycle, cast.Fits) ∧
      (∀ cast ∈ vehicleCasts cycle.speed sent.odoM,
        cast.Fits ∨ cast ∈ be24PutHighCasts sent.odoM) ∧
      ∃ engine vehicle, receive sent.engine = .engine engine ∧
        receive sent.vehicle = .vehicle vehicle ∧
        SurvivesWire cycle sent.odoM engine vehicle :=
  ⟨engineCasts_fit redline phase, vehicleCasts_fit redline phase _,
    _, _, receive_engineFrame _, receive_vehicleFrame _ _,
    survivesWire_signals redline phase _⟩

end Ticks

theorem tick_survives_wire_firstPhase :
    ∃ engine vehicle,
      receive (tick (10 : ℚ) true 65536 firstPhase).engine = .engine engine ∧
      receive (tick (10 : ℚ) true 65536 firstPhase).vehicle =
        .vehicle vehicle ∧
      SurvivesWire (signals true firstPhase)
        (tick (10 : ℚ) true 65536 firstPhase).odoM engine vehicle :=
  (tick_survives_wire (10 : ℚ) true 65536 firstPhase).2.2

/-- From 65536 m on, a byte of the odometer is picked by a cast that drops the
higher ones. -/
theorem odometer_cast_drops_bits :
    (tick (10 : ℚ) false 65536 firstPhase).odoM = 65536 ∧
      ¬ ∀ cast ∈ vehicleCasts (signals false firstPhase).speed
        (tick (10 : ℚ) false 65536 firstPhase).odoM, cast.Fits := by
  have hodo : (tick (10 : ℚ) false 65536 firstPhase).odoM = 65536 := by
    decide +kernel
  refine ⟨hodo, ?_⟩
  intro fits
  rw [hodo] at fits
  have hbyte : (⟨256, 8⟩ : Narrowing).Fits := by
    apply fits
    simp [vehicleCasts, be24PutCasts, be24PutHighCasts]
  revert hbyte
  decide

end EmbeddedPortfolio.Telemetry
