import EmbeddedPortfolio.Numeric.MachineInt

namespace EmbeddedPortfolio.Sensor

open EmbeddedPortfolio.Numeric
open Shifts SignedArithmetic UnsignedArithmetic MixedArithmetic

universe u v

/-! The measurement path of the BMP280 driver: what is read over I2C, and the
compensation formulas, written over any reading of 32-bit arithmetic. -/

structure Bmp280Calib where
  digT1 : UInt16
  digT2 : Int16
  digT3 : Int16
  digP1 : UInt16
  digP2 : Int16
  digP3 : Int16
  digP4 : Int16
  digP5 : Int16
  digP6 : Int16
  digP7 : Int16
  digP8 : Int16
  digP9 : Int16
deriving DecidableEq, Repr

/-- What `i2c_smbus_read_i2c_block_data` returns, and leaves in the buffer. -/
structure BlockRead (length : Nat) where
  ret : Int
  buf : Vector UInt8 length

def eio : Int := 5

def le16ToCpup (low high : UInt8) : UInt16 :=
  high.toUInt16 <<< 8 ||| low.toUInt16

def bmp280ReadCalib (read : BlockRead 24) : Except Int Bmp280Calib :=
  let buf := read.buf
  if read.ret < 0 then .error read.ret
  else if read.ret ≠ 24 then .error (-eio)
  else .ok {
    digT1 := le16ToCpup buf[0] buf[1]
    digT2 := (le16ToCpup buf[2] buf[3]).toInt16
    digT3 := (le16ToCpup buf[4] buf[5]).toInt16
    digP1 := le16ToCpup buf[6] buf[7]
    digP2 := (le16ToCpup buf[8] buf[9]).toInt16
    digP3 := (le16ToCpup buf[10] buf[11]).toInt16
    digP4 := (le16ToCpup buf[12] buf[13]).toInt16
    digP5 := (le16ToCpup buf[14] buf[15]).toInt16
    digP6 := (le16ToCpup buf[16] buf[17]).toInt16
    digP7 := (le16ToCpup buf[18] buf[19]).toInt16
    digP8 := (le16ToCpup buf[20] buf[21]).toInt16
    digP9 := (le16ToCpup buf[22] buf[23]).toInt16 }

/-- A 20-bit sample from its three bytes. -/
def adcWord (msb lsb xlsb : UInt8) : Int32 :=
  shl (Int32.ofNat msb.toNat) 12 ||| shl (Int32.ofNat lsb.toNat) 4 |||
    Int32.ofNat (xlsb >>> 4).toNat

structure RawSample where
  adcT : Int32
  adcP : Int32
deriving DecidableEq, Repr

def bmp280ReadRaw (read : BlockRead 6) : Except Int RawSample :=
  let buf := read.buf
  if read.ret < 0 then .error read.ret
  else if read.ret ≠ 6 then .error (-eio)
  else .ok {
    adcP := adcWord buf[0] buf[1] buf[2]
    adcT := adcWord buf[3] buf[4] buf[5] }

section Compensation

variable {S : Type u} {U : Type v}
variable [SignedArithmetic S] [UnsignedArithmetic U] [MixedArithmetic S U]
variable (c : Bmp280Calib)

/-- `t_fine` and the temperature in hundredths of a degree. -/
def bmp280CompensateTemp (adcT : S) : S × S :=
  let var1 := shr ((shr adcT 3 - shl (s32 c.digT1.toNat) 1) *
    s32 c.digT2.toInt) 11
  let var2 := shr (shr ((shr adcT 4 - s32 c.digT1.toNat) *
    (shr adcT 4 - s32 c.digT1.toNat)) 12 * s32 c.digT3.toInt) 14
  let tFine := var1 + var2
  (tFine, shr (tFine * s32 5 + s32 128) 8)

/-- The first `var1`. -/
def pressureTemp (tFine : S) : S :=
  shr tFine 1 - s32 64000

/-- The first three assignments to `var2`. -/
def pressureOffset (var1 : S) : S :=
  let var2 := shr (shr var1 2 * shr var1 2) 11 * s32 c.digP6.toInt
  let var2 := var2 + shl (var1 * s32 c.digP5.toInt) 1
  shr var2 2 + shl (s32 c.digP4.toInt) 16

/-- The second `var1`. -/
def pressureSlope (var1 : S) : S :=
  shr (shr (s32 c.digP3.toInt * shr (shr var1 2 * shr var1 2) 13) 3 +
    shr (s32 c.digP2.toInt * var1) 1) 18

/-- The third `var1`, by which is divided. -/
def pressureDivisor (var1 : S) : S :=
  shr ((s32 32768 + var1) * s32 c.digP1.toNat) 15

/-- The first `p`. -/
def pressureNumerator (adcP var2 : S) : U :=
  ((toUnsigned (s32 1048576 - adcP) : U) - shr var2 12) * u32 3125

def scaledQuotient (p divisor : U) : U :=
  ifLess p (u32 0x80000000) (shl p 1 / divisor) (p / divisor * u32 2)

/-- The last two assignments to `var1` and `var2`, and what is returned. -/
def pressureCorrected (p : U) : U :=
  let var1 := shr (s32 c.digP9.toInt *
    (toSigned (shr (shr p 3 * shr p 3) 13) : S)) 12
  let var2 := shr ((toSigned (shr p 2) : S) * s32 c.digP8.toInt) 13
  toUnsigned ((toSigned p : S) + shr (var1 + var2 + s32 c.digP7.toInt) 4)

/-- The pressure in pascals. -/
def bmp280CompensatePress (adcP tFine : S) : U :=
  let var1 := pressureTemp tFine
  let var2 := pressureOffset c var1
  let var1 := pressureDivisor c (pressureSlope c var1)
  ifZero var1 (u32 0)
    (pressureCorrected (S := S) c
      (scaledQuotient (pressureNumerator adcP var2) (toUnsigned var1)))

end Compensation

/-- The temperature and the pressure, with the mutex held throughout. -/
def bmp280Measure (c : Bmp280Calib) (read : BlockRead 6) :
    Except Int (Int32 × UInt32) := do
  let raw ← bmp280ReadRaw read
  let (tFine, temp) := bmp280CompensateTemp c raw.adcT
  pure (temp, bmp280CompensatePress c raw.adcP tFine)

section Decoding

theorem shifted_or {high low width : Nat} (hlow : low < 2 ^ width) :
    high * 2 ^ width ||| low = high * 2 ^ width + low := by
  rw [← Nat.shiftLeft_eq, Nat.shiftLeft_add_eq_or_of_lt hlow]

theorem adcWord_toNat (msb lsb xlsb : UInt8) :
    (adcWord msb lsb xlsb).toBitVec.toNat =
      msb.toNat * 2 ^ 12 + (lsb.toNat * 2 ^ 4 + xlsb.toNat / 2 ^ 4) := by
  have hmsb := msb.toNat_lt
  have hlsb := lsb.toNat_lt
  have hxlsb := xlsb.toNat_lt
  have hlow : lsb.toNat * 2 ^ 4 ||| xlsb.toNat / 2 ^ 4 =
      lsb.toNat * 2 ^ 4 + xlsb.toNat / 2 ^ 4 :=
    shifted_or (by omega)
  calc
    (adcWord msb lsb xlsb).toBitVec.toNat =
        msb.toNat * 2 ^ 12 % 2 ^ 32 ||| lsb.toNat * 2 ^ 4 % 2 ^ 32 |||
          xlsb.toNat / 2 ^ 4 % 2 ^ 32 := by
      simp [adcWord, shl, BitVec.toNat_shiftLeft, Nat.shiftLeft_eq,
        Nat.shiftRight_eq_div_pow]
    _ = msb.toNat * 2 ^ 12 ||| (lsb.toNat * 2 ^ 4 ||| xlsb.toNat / 2 ^ 4) := by
      rw [Nat.or_assoc, Nat.mod_eq_of_lt (by omega),
        Nat.mod_eq_of_lt (by omega), Nat.mod_eq_of_lt (by omega)]
    _ = msb.toNat * 2 ^ 12 + (lsb.toNat * 2 ^ 4 + xlsb.toNat / 2 ^ 4) := by
      rw [hlow, shifted_or (by omega)]

/-- A sample has twenty bits. -/
def SampleRange (adc : Int) : Prop :=
  0 ≤ adc ∧ adc < 2 ^ 20

theorem adcWord_range (msb lsb xlsb : UInt8) :
    SampleRange (adcWord msb lsb xlsb).toInt := by
  have hmsb := msb.toNat_lt
  have hlsb := lsb.toNat_lt
  have hxlsb := xlsb.toNat_lt
  have hvalue : (adcWord msb lsb xlsb).toInt =
      Int.bmod (adcWord msb lsb xlsb).toBitVec.toNat (2 ^ 32) :=
    BitVec.toInt_eq_toNat_bmod _
  rw [hvalue, adcWord_toNat, Int.bmod_eq_of_le (by omega) (by omega),
    SampleRange]
  omega

theorem bmp280ReadRaw_range {read : BlockRead 6} {raw : RawSample}
    (decoded : bmp280ReadRaw read = .ok raw) :
    SampleRange raw.adcT.toInt ∧ SampleRange raw.adcP.toInt := by
  unfold bmp280ReadRaw at decoded
  split at decoded
  · cases decoded
  · split at decoded
    · cases decoded
    · rw [← Except.ok.inj decoded]
      exact ⟨adcWord_range .., adcWord_range ..⟩

end Decoding

end EmbeddedPortfolio.Sensor
