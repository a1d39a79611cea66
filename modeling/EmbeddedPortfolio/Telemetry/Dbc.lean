import EmbeddedPortfolio.Numeric.BitString
import EmbeddedPortfolio.Telemetry.Receiver

namespace EmbeddedPortfolio.Telemetry

open EmbeddedPortfolio.Numeric

/-! The signals of `telemetry.dbc`.  All are big-endian (`@0`) and unsigned. -/

structure Signal where
  start : Nat
  length : Nat
  scale : ℚ
  offset : ℚ

def engineRPM : Signal := ⟨7, 16, 1 / 4, 0⟩

def coolantTemp : Signal := ⟨16, 8, 1, -40⟩

def throttlePos : Signal := ⟨24, 8, 2 / 5, 0⟩

def mil : Signal := ⟨32, 1, 1, 0⟩

def vehicleSpeed : Signal := ⟨7, 16, 1 / 100, 0⟩

def odometer : Signal := ⟨16, 24, 1, 0⟩

/-- Bit `position % 8` of byte `position / 8`, bit 0 the least significant. -/
def dbcBit (data : Payload) (position : Nat) : Bool :=
  (data[position / 8]?.getD 0).toNat.testBit (position % 8)

/-- After bit 0 of a byte a signal continues at bit 7 of the next. -/
def nextBit (position : Nat) : Nat :=
  if position % 8 = 0 then position + 15 else position - 1

def signalBits (data : Payload) : (start length : Nat) → List Bool
  | _, 0 => []
  | start, length + 1 =>
      dbcBit data start :: signalBits data (nextBit start) length

def Signal.value (signal : Signal) (data : Payload) : ℚ :=
  ofBits (signalBits data signal.start signal.length) * signal.scale +
    signal.offset

/-! Both descriptions read windows of one bit stream. -/

/-- Bit `index` of the payload, counted in the order of transmission. -/
def payloadBit (data : Payload) (index : Nat) : Bool :=
  (data[index / 8]?.getD 0).toNat.testBit (7 - index % 8)

def streamIndex (position : Nat) : Nat :=
  8 * (position / 8) + (7 - position % 8)

theorem dbcBit_eq_payloadBit (data : Payload) (position : Nat) :
    dbcBit data position = payloadBit data (streamIndex position) := by
  have hbyte : streamIndex position / 8 = position / 8 := by
    unfold streamIndex
    omega
  have hbit : 7 - streamIndex position % 8 = position % 8 := by
    unfold streamIndex
    omega
  rw [dbcBit, payloadBit, hbyte, hbit]

theorem streamIndex_nextBit (position : Nat) :
    streamIndex (nextBit position) = streamIndex position + 1 := by
  unfold streamIndex nextBit
  split <;> omega

theorem signalBits_eq_window (data : Payload) (start length : Nat) :
    signalBits data start length =
      window (payloadBit data) (streamIndex start) length := by
  induction length generalizing start with
  | zero => rfl
  | succ length induction =>
      rw [signalBits, induction, streamIndex_nextBit, dbcBit_eq_payloadBit,
        Nat.add_comm length 1, window_add]
      simp [window]

theorem byte_eq_window (data : Payload) (index : Nat) (hindex : index < 8) :
    data[index].toNat = ofBits (window (payloadBit data) (8 * index) 8) := by
  have hbits : window (payloadBit data) (8 * index) 8 =
      bitsOf 8 data[index].toNat := by
    apply List.map_congr_left
    intro bit hbit
    rw [List.mem_range] at hbit
    have hbyte : (8 * index + bit) / 8 = index := by omega
    have hposition : 7 - (8 * index + bit) % 8 = 8 - 1 - bit := by omega
    rw [payloadBit, hbyte, hposition]
    simp [hindex]
  rw [hbits, ofBits_bitsOf data[index].toNat_lt]

theorem be16_eq_window (data : Payload) (index : Nat) (hindex : index + 1 < 8) :
    (be16Get data[index] data[index + 1]).toNat =
      ofBits (window (payloadBit data) (8 * index) 16) := by
  rw [be16Get_toNat, byte_eq_window data _ (by omega), byte_eq_window data _ hindex,
    show 16 = 8 + 8 from rfl, window_add, ofBits_append, window_length]
  rfl

theorem be24_eq_window (data : Payload) (index : Nat) (hindex : index + 2 < 8) :
    (be24Get data[index] data[index + 1] data[index + 2]).toNat =
      ofBits (window (payloadBit data) (8 * index) 24) := by
  rw [be24Get_toNat, byte_eq_window data _ (by omega),
    byte_eq_window data _ (by omega), byte_eq_window data _ hindex,
    show 24 = 8 + 8 + 8 from rfl, window_add, window_add, ofBits_append,
    ofBits_append, window_length, window_length]
  rfl

theorem Signal.value_eq_window (signal : Signal) (data : Payload) :
    signal.value data =
      ofBits (window (payloadBit data) (streamIndex signal.start)
        signal.length) * signal.scale + signal.offset := by
  rw [Signal.value, signalBits_eq_window]

theorem flag_eq_window (data : Payload) (index : Nat) (hindex : index < 8) :
    (data[index] &&& 0x01).toNat =
      ofBits (window (payloadBit data) (8 * index + 7) 1) := by
  have hbit : payloadBit data (8 * index + 7) =
      data[index].toNat.testBit 0 := by
    have hbyte : (8 * index + 7) / 8 = index := by omega
    have hposition : 7 - (8 * index + 7) % 8 = 0 := by omega
    rw [payloadBit, hbyte, hposition]
    simp [hindex]
  have hlow : (data[index] &&& 0x01).toNat = data[index].toNat % 2 := by
    rw [UInt8.toNat_and]
    exact Nat.and_one_is_mod _
  rw [hlow, window, List.range_one, List.map_singleton, Nat.add_zero, hbit,
    Nat.testBit_zero]
  rcases Nat.mod_two_eq_zero_or_one data[index].toNat with heven | hodd
  · simp [heven, ofBits]
  · simp [hodd, ofBits]

/-! The receiver against the signals. -/

def FollowsDbc (data : Payload) : Reception → Prop
  | .engine values =>
      values.rpm = engineRPM.value data ∧
        (values.ectC : ℚ) = coolantTemp.value data ∧
        values.throttle = throttlePos.value data ∧
        (values.mil : ℚ) = mil.value data
  | .vehicle values =>
      values.speed = vehicleSpeed.value data ∧
        (values.odo.toNat : ℚ) = odometer.value data
  | .ignored => False

/-- From byte 2 on, the first `length` bits recur seven places later. -/
def RecursAfterSeven (data : Payload) (length : Nat) : Prop :=
  ∀ index < length, payloadBit data (16 + index) = payloadBit data (23 + index)

theorem recursAfterSeven_split (data : Payload) :
    ((∀ index < 8, payloadBit data (16 + index) =
          payloadBit data (23 + index)) ∧
        ∀ index < 8, payloadBit data (24 + index) =
          payloadBit data (31 + index)) ↔
      RecursAfterSeven data 16 := by
  refine ⟨?_, ?_⟩
  · rintro ⟨hfirst, hsecond⟩ index hindex
    by_cases hlow : index < 8
    · exact hfirst index hlow
    · have hhigh := hsecond (index - 8) (by omega)
      rwa [show 24 + (index - 8) = 16 + index by omega,
        show 31 + (index - 8) = 23 + index by omega] at hhigh
  · intro recurs
    refine ⟨fun index hindex => recurs index (by omega), ?_⟩
    intro index hindex
    have hhigh := recurs (8 + index) (by omega)
    rwa [← Nat.add_assoc, ← Nat.add_assoc] at hhigh

theorem engine_followsDbc_iff (data : Payload) :
    FollowsDbc data (.engine (decodeEngine data)) ↔
      RecursAfterSeven data 16 := by
  have hrpm : (decodeEngine data).rpm = engineRPM.value data := by
    rw [Signal.value_eq_window]
    simp only [decodeEngine, engineRPM, rpmScale, add_zero]
    rw [be16_eq_window data 0 (by decide)]
    rfl
  have hcoolant : ((decodeEngine data).ectC : ℚ) = coolantTemp.value data ↔
      ∀ index < 8, payloadBit data (16 + index) =
        payloadBit data (23 + index) := by
    rw [Signal.value_eq_window]
    simp only [decodeEngine, coolantTemp, ectOffset, mul_one]
    push_cast
    rw [add_left_inj, Nat.cast_inj, byte_eq_window data 2 (by decide)]
    exact ofBits_window_eq_iff
  have hthrottle : (decodeEngine data).throttle = throttlePos.value data ↔
      ∀ index < 8, payloadBit data (24 + index) =
        payloadBit data (31 + index) := by
    rw [Signal.value_eq_window]
    simp only [decodeEngine, throttlePos, throttleScale, add_zero]
    rw [mul_left_inj' (by norm_num), Nat.cast_inj,
      byte_eq_window data 3 (by decide)]
    exact ofBits_window_eq_iff
  have hmil : ((decodeEngine data).mil : ℚ) = mil.value data := by
    rw [Signal.value_eq_window]
    simp only [decodeEngine, mil, add_zero, mul_one]
    rw [flag_eq_window data 4 (by decide), Int.cast_natCast]
    rfl
  simp only [FollowsDbc, hrpm, hcoolant, hthrottle, hmil, true_and, and_true]
  exact recursAfterSeven_split data

theorem vehicle_followsDbc_iff (data : Payload) :
    FollowsDbc data (.vehicle (decodeVehicle data)) ↔
      RecursAfterSeven data 24 := by
  have hspeed : (decodeVehicle data).speed = vehicleSpeed.value data := by
    rw [Signal.value_eq_window]
    simp only [decodeVehicle, vehicleSpeed, speedScale, add_zero]
    rw [be16_eq_window data 0 (by decide)]
    rfl
  have hodo : ((decodeVehicle data).odo.toNat : ℚ) = odometer.value data ↔
      RecursAfterSeven data 24 := by
    rw [Signal.value_eq_window]
    simp only [decodeVehicle, odometer, add_zero, mul_one, Nat.cast_inj]
    rw [be24_eq_window data 2 (by decide)]
    exact ofBits_window_eq_iff
  simp only [FollowsDbc, hspeed, hodo, true_and]

theorem followsDbc_iff (data : Payload) :
    (FollowsDbc data (receive ⟨canIdEngineData, 8, data⟩) ↔
        RecursAfterSeven data 16) ∧
      (FollowsDbc data (receive ⟨canIdVehicleData, 8, data⟩) ↔
        RecursAfterSeven data 24) :=
  ⟨engine_followsDbc_iff data, vehicle_followsDbc_iff data⟩

/-- The frame that `test.sh` injects: 130 degrees for the receiver, 35 for a
reader of the database. -/
theorem followsDbc_fails_redline :
    ¬ FollowsDbc #v[0x7D, 0x00, 0xAA, 0x96, 0x01, 0x00, 0x00, 0x00]
      (receive ⟨canIdEngineData, 8,
        #v[0x7D, 0x00, 0xAA, 0x96, 0x01, 0x00, 0x00, 0x00]⟩) := by
  intro follows
  have hcoolant := follows.2.1
  revert hcoolant
  decide +kernel

end EmbeddedPortfolio.Telemetry
