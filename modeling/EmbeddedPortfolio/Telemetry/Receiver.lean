import EmbeddedPortfolio.Telemetry.Frame

namespace EmbeddedPortfolio.Telemetry

/-! The receiver's decoding of a frame and its alerts, its `double` arithmetic
exact. -/

def alertRpmRedline : ℚ := 6500

def alertEctMaxC : ℚ := 110

def alertSpeedMaxKmh : ℚ := 180

structure EngineData where
  rpm : ℚ
  ectC : Int
  throttle : ℚ
  mil : Int
deriving DecidableEq, Repr

structure VehicleData where
  speed : ℚ
  odo : UInt32
deriving DecidableEq, Repr

inductive Reception where
  | engine (values : EngineData)
  | vehicle (values : VehicleData)
  | ignored
deriving DecidableEq, Repr

def decodeEngine (data : Payload) : EngineData where
  rpm := (be16Get data[0] data[1]).toNat * rpmScale
  ectC := data[2].toNat + ectOffset
  throttle := data[3].toNat * throttleScale
  mil := (data[4] &&& 0x01).toNat

def decodeVehicle (data : Payload) : VehicleData where
  speed := (be16Get data[0] data[1]).toNat * speedScale
  odo := be24Get data[2] data[3] data[4]

def receive (frame : CanFrame) : Reception :=
  if frame.canId = canIdEngineData ∧ 5 ≤ frame.canDlc then
    .engine (decodeEngine frame.data)
  else if frame.canId = canIdVehicleData ∧ 5 ≤ frame.canDlc then
    .vehicle (decodeVehicle frame.data)
  else
    .ignored

inductive Alert where
  | rpm
  | coolant
  | speed
deriving DecidableEq, Repr

def Reception.alerts : Reception → List Alert
  | .engine values =>
      (if alertRpmRedline < values.rpm then [.rpm] else []) ++
        if alertEctMaxC < values.ectC then [.coolant] else []
  | .vehicle values =>
      if alertSpeedMaxKmh < values.speed then [.speed] else []
  | .ignored => []

end EmbeddedPortfolio.Telemetry
