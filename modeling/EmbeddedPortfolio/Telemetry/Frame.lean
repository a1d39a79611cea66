import Mathlib.Algebra.Order.Field.Rat

namespace EmbeddedPortfolio.Telemetry

/-! Frames of the telemetry bus and the helpers both ends share. -/

abbrev Payload := Vector UInt8 8

structure CanFrame where
  canId : UInt32
  canDlc : UInt8
  data : Payload
deriving DecidableEq, Repr

def canIdEngineData : UInt32 := 0x0C0

def canIdVehicleData : UInt32 := 0x0D0

def be16Get (high low : UInt8) : UInt16 :=
  high.toUInt16 <<< 8 ||| low.toUInt16

def be24Get (high middle low : UInt8) : UInt32 :=
  high.toUInt32 <<< 16 ||| middle.toUInt32 <<< 8 ||| low.toUInt32

def be16Put (value : UInt16) : UInt8 × UInt8 :=
  ((value >>> 8).toUInt8, (value &&& 0xFF).toUInt8)

def be24Put (value : UInt32) : UInt8 × UInt8 × UInt8 :=
  ((value >>> 16).toUInt8, (value >>> 8).toUInt8, (value &&& 0xFF).toUInt8)

def rpmScale : ℚ := 1 / 4

def ectOffset : Int := -40

def throttleScale : ℚ := 2 / 5

def speedScale : ℚ := 1 / 100

theorem be16Get_toNat (high low : UInt8) :
    (be16Get high low).toNat = high.toNat * 2 ^ 8 + low.toNat := by
  have hhigh := high.toNat_lt
  have hlow := low.toNat_lt
  have hshift : high.toNat <<< 8 % 65536 = high.toNat <<< 8 := by
    rw [Nat.shiftLeft_eq]
    omega
  calc
    (be16Get high low).toNat = high.toNat <<< 8 % 65536 ||| low.toNat := by
      simp [be16Get, UInt16.toNat_or, UInt16.toNat_shiftLeft]
    _ = high.toNat * 2 ^ 8 + low.toNat := by
      rw [hshift, ← Nat.shiftLeft_add_eq_or_of_lt hlow, Nat.shiftLeft_eq]

theorem be24Get_toNat (high middle low : UInt8) :
    (be24Get high middle low).toNat =
      (high.toNat * 2 ^ 8 + middle.toNat) * 2 ^ 8 + low.toNat := by
  have hhigh := high.toNat_lt
  have hmiddle := middle.toNat_lt
  have hlow := low.toNat_lt
  have hhighShift : high.toNat <<< 16 % 4294967296 =
      high.toNat <<< 8 <<< 8 := by
    rw [Nat.shiftLeft_eq, Nat.shiftLeft_eq, Nat.shiftLeft_eq]
    omega
  have hmiddleShift : middle.toNat <<< 8 % 4294967296 = middle.toNat <<< 8 := by
    rw [Nat.shiftLeft_eq]
    omega
  calc
    (be24Get high middle low).toNat =
        high.toNat <<< 16 % 4294967296 ||| middle.toNat <<< 8 % 4294967296 |||
          low.toNat := by
      simp [be24Get, UInt32.toNat_or, UInt32.toNat_shiftLeft]
    _ = (high.toNat * 2 ^ 8 + middle.toNat) * 2 ^ 8 + low.toNat := by
      rw [hhighShift, hmiddleShift, ← Nat.shiftLeft_or_distrib,
        ← Nat.shiftLeft_add_eq_or_of_lt hlow,
        ← Nat.shiftLeft_add_eq_or_of_lt hmiddle, Nat.shiftLeft_eq,
        Nat.shiftLeft_eq]

theorem be16Get_be16Put (value : UInt16) :
    be16Get (be16Put value).1 (be16Put value).2 = value := by
  have hvalue := value.toNat_lt
  have hmask (byte : Nat) : byte &&& 255 = byte % 256 :=
    Nat.and_two_pow_sub_one_eq_mod byte 8
  apply UInt16.toNat_inj.mp
  rw [be16Get_toNat]
  simp [be16Put, Nat.shiftRight_eq_div_pow, hmask]
  omega

theorem be24Get_be24Put (value : UInt32) :
    (be24Get (be24Put value).1 (be24Put value).2.1
      (be24Put value).2.2).toNat = value.toNat % 2 ^ 24 := by
  have hvalue := value.toNat_lt
  have hmask (byte : Nat) : byte &&& 255 = byte % 256 :=
    Nat.and_two_pow_sub_one_eq_mod byte 8
  rw [be24Get_toNat]
  simp [be24Put, Nat.shiftRight_eq_div_pow, hmask]
  omega

end EmbeddedPortfolio.Telemetry
