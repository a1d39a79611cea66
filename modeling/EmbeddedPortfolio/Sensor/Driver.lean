import EmbeddedPortfolio.Program.Exceptional
import EmbeddedPortfolio.Sensor.Attributes

namespace EmbeddedPortfolio.Sensor

open EmbeddedPortfolio.Numeric
open EmbeddedPortfolio.Program
open SignedArithmetic

/-! The life of the BMP280 driver over an I2C bus on which every transfer may
fail. -/

def regId : UInt8 := 0xD0

def regReset : UInt8 := 0xE0

def regCtrlMeas : UInt8 := 0xF4

def regConfig : UInt8 := 0xF5

def regPressMsb : UInt8 := 0xF7

def regCalibStart : UInt8 := 0x88

def chipId : Int := 0x58

def resetMagic : UInt8 := 0xB6

def ctrlMeasVal : UInt8 := 0x27

def configVal : UInt8 := 0x68

def enomem : Int := 12

def enodev : Int := 19

def eopnotsupp : Int := 95

/-- The registers that the driver uses. -/
structure Chip where
  id : UInt8
  calibration : Vector UInt8 24
  config : UInt8
  ctrlMeas : UInt8
deriving DecidableEq, Repr

def Chip.asleep (chip : Chip) : Prop :=
  chip.ctrlMeas &&& 0x03 = 0

instance (chip : Chip) : Decidable chip.asleep :=
  inferInstanceAs (Decidable (_ = _))

/-- A chip that measures may ignore a write to `config`. -/
def Chip.write (register value : UInt8) (ignores : Bool) (chip : Chip) : Chip :=
  if register = regReset then
    if value = resetMagic then { chip with config := 0, ctrlMeas := 0 }
    else chip
  else if register = regConfig then
    if ignores ∧ ¬ chip.asleep then chip else { chip with config := value }
  else if register = regCtrlMeas then { chip with ctrlMeas := value }
  else chip

inductive Transaction where
  | readByte (register : UInt8)
  | readBlock (register : UInt8) (length : Nat)
  | writeByte (register value : UInt8)
  | sleep (shortest longest : Nat)
deriving DecidableEq, Repr

/-- What the bus does in one transfer.  A write that fails may still have
reached the chip. -/
structure BusReply where
  failure : Option { code : Int // code < 0 } := none
  landed : Bool := true
  ignores : Bool := false
  count : Nat := 0
  burst : Vector UInt8 6 := Vector.replicate 6 0
deriving DecidableEq, Repr

structure Bus where
  chip : Chip
  blockRead : Bool
  allocates : Bool
  script : List BusReply
  log : List Transaction
deriving DecidableEq, Repr

abbrev DriverM (Value : Type) : Type := Exceptional Bus Int Value

/-- Behind the script every transfer fails. -/
def deadReply : BusReply :=
  { failure := some ⟨-eio, by decide⟩, landed := false }

def Bus.reply (bus : Bus) : BusReply :=
  bus.script.headD deadReply

def Bus.transact (transaction : Transaction) (bus : Bus) : Bus :=
  { bus with
    script := bus.script.tail
    log := bus.log ++ [transaction] }

def BusReply.ret (reply : BusReply) (value : Int) : Int :=
  match reply.failure with
  | some code => code
  | none => value

/-- Only the ID is read as a single byte. -/
def smbusReadByteData (register : UInt8) : DriverM Int :=
  Exceptional.call fun bus =>
    (bus.reply.ret bus.chip.id.toNat, bus.transact (.readByte register))

def smbusReadBlockData (register : UInt8) (length : Nat)
    (buf : Bus → Vector UInt8 length) : DriverM (BlockRead length) :=
  Exceptional.call fun bus =>
    (⟨bus.reply.ret (min bus.reply.count length : Nat), buf bus⟩,
      bus.transact (.readBlock register length))

def Bus.written (register value : UInt8) (bus : Bus) : Chip :=
  if bus.reply.failure.isNone ∨ bus.reply.landed then
    bus.chip.write register value bus.reply.ignores
  else bus.chip

def smbusWriteByteData (register value : UInt8) : DriverM Int :=
  Exceptional.call fun bus =>
    (bus.reply.ret 0,
      { bus.transact (.writeByte register value) with
        chip := bus.written register value })

def usleepRange (shortest longest : Nat) : DriverM Unit :=
  Exceptional.update fun bus =>
    { bus with log := bus.log ++ [.sleep shortest longest] }

/-- A write, and `return ret` when that is not zero. -/
def writeChecked (register value : UInt8) : DriverM Unit := do
  let ret ← smbusWriteByteData register value
  if ret = 0 then pure () else Exceptional.fail ret

def readCalib : DriverM Bmp280Calib := do
  let read ← smbusReadBlockData regCalibStart 24 fun bus =>
    bus.chip.calibration
  match bmp280ReadCalib read with
  | .ok calib => pure calib
  | .error ret => Exceptional.fail ret

/-- Before anything is written to the chip. -/
def bmp280Identify : DriverM Unit := do
  let capable ← Exceptional.observe Bus.blockRead
  if ¬ capable then Exceptional.fail (-eopnotsupp)
  else do
    let id ← smbusReadByteData regId
    if id < 0 then Exceptional.fail id
    else if id ≠ chipId then Exceptional.fail (-enodev)
    else do
      let allocated ← Exceptional.observe Bus.allocates
      if ¬ allocated then Exceptional.fail (-enomem) else pure ()

/-- The transfers behind the identification. -/
def bmp280Configure : DriverM Bmp280Calib := do
  writeChecked regReset resetMagic
  usleepRange 3000 4000
  let calib ← readCalib
  writeChecked regConfig configVal
  writeChecked regCtrlMeas ctrlMeasVal
  pure calib

def bmp280Probe : DriverM Bmp280Calib := do
  bmp280Identify
  bmp280Configure

/-- What the write returns is not looked at. -/
def bmp280Remove : DriverM Unit := do
  let _ ← smbusWriteByteData regCtrlMeas (ctrlMeasVal &&& ~~~0x03)
  pure ()

def readBurst : DriverM (BlockRead 6) :=
  smbusReadBlockData regPressMsb 6 fun bus => bus.reply.burst

inductive Attr where
  | temperature
  | pressure
deriving DecidableEq, Repr

def pressureShow (c : Bmp280Calib) (read : BlockRead 6) :
    Except Int String := do
  let (_, pPa) ← bmp280Measure c read
  pure (toString pPa.toNat ++ "\n")

def Attr.shown (attr : Attr) (c : Bmp280Calib) (read : BlockRead 6) :
    Except Int String :=
  match attr with
  | .temperature => temperatureShow c read
  | .pressure => pressureShow c read

/-- The call of `sysfs_emit` in an attribute. -/
def Attr.emit (attr : Attr) (measured : Int32 × UInt32) : String :=
  match attr with
  | .temperature => toString (measured.1 * s32 10).toInt ++ "\n"
  | .pressure => toString measured.2.toNat ++ "\n"

theorem shown_eq_emit (attr : Attr) (c : Bmp280Calib) (read : BlockRead 6) :
    attr.shown c read = (bmp280Measure c read).map attr.emit := by
  unfold Attr.shown
  cases attr with
  | temperature =>
      unfold temperatureShow
      cases bmp280Measure c read <;> rfl
  | pressure =>
      unfold pressureShow
      cases bmp280Measure c read <;> rfl

/-! What probing does to the bus. -/

def writes (transaction : Transaction) : Bool :=
  match transaction with
  | .writeByte _ _ => true
  | _ => false

/-- All that a probe sends, in its order. -/
def probeTransactions : List Transaction :=
  [.readByte regId, .writeByte regReset resetMagic, .sleep 3000 4000,
    .readBlock regCalibStart 24, .writeByte regConfig configVal,
    .writeByte regCtrlMeas ctrlMeasVal]

/-- The chip as a probe leaves it. -/
def Chip.started (chip : Chip) : Chip :=
  { chip with config := configVal, ctrlMeas := ctrlMeasVal }

/-- The bus after the first transactions of a probe. -/
structure Probing (before : Bus) (sent : List Transaction) (chip : Chip)
    (bus : Bus) : Prop where
  log : bus.log = before.log ++ sent
  chip : bus.chip = chip

structure ProbeFailed (before : Bus) (code : Int) (bus : Bus) : Prop where
  negative : code < 0
  sent : ∃ sent, sent <+: probeTransactions ∧ bus.log = before.log ++ sent ∧
    (before.chip.id.toNat ≠ chipId → ∀ transaction ∈ sent,
      writes transaction = false)
  chip : bus.chip = before.chip ∨ bus.chip.asleep ∨
    (bus.log = before.log ++ probeTransactions ∧
      bus.chip = before.chip.started)

theorem ret_cases (reply : BusReply) (value : Int) :
    (reply.failure.isNone ∧ reply.ret value = value) ∨
      reply.ret value < 0 := by
  unfold BusReply.ret
  cases reply.failure with
  | some code => exact Or.inr code.property
  | none => exact Or.inl ⟨rfl, rfl⟩

section Probe

variable {before : Bus} {sent : List Transaction} {chip : Chip}

/-- A checked write reaches the chip, or throws after it may have reached it. -/
theorem writeChecked_triple {register value : UInt8} {target : Chip}
    (reaches : ∀ ignores, chip.write register value ignores = target) :
    Exceptional.Triple (Probing before sent chip)
      (writeChecked register value)
      (fun _ => Probing before (sent ++ [.writeByte register value]) target)
      (fun code bus => code < 0 ∧
        (Probing before (sent ++ [.writeByte register value]) chip bus ∨
          Probing before (sent ++ [.writeByte register value]) target bus)) := by
  apply Exceptional.Triple.bind fun ret bus =>
    (ret = 0 ∧
        Probing before (sent ++ [.writeByte register value]) target bus) ∨
      (ret < 0 ∧
        (Probing before (sent ++ [.writeByte register value]) chip bus ∨
          Probing before (sent ++ [.writeByte register value]) target bus))
  · apply Exceptional.Triple.call
    rintro bus ⟨hlog, rfl⟩
    have hsent : bus.log ++ [.writeByte register value] =
        before.log ++ (sent ++ [.writeByte register value]) := by
      rw [hlog, List.append_assoc]
    by_cases hlands : bus.reply.failure.isNone ∨ bus.reply.landed
    · have hwritten : bus.written register value = target :=
        (if_pos hlands).trans (reaches _)
      rcases ret_cases bus.reply 0 with ⟨_, hret⟩ | hret
      · exact Or.inl ⟨hret, hsent, hwritten⟩
      · exact Or.inr ⟨hret, Or.inr ⟨hsent, hwritten⟩⟩
    · have hwritten : bus.written register value = bus.chip := if_neg hlands
      rcases ret_cases bus.reply 0 with ⟨hnone, _⟩ | hret
      · exact absurd (Or.inl hnone) hlands
      · exact Or.inr ⟨hret, Or.inl ⟨hsent, hwritten⟩⟩
  intro ret
  apply Exceptional.Triple.ite
  · rintro rfl
    apply Exceptional.Triple.pure
    rintro bus (⟨_, probing⟩ | ⟨impossible, _⟩)
    · exact probing
    · exact absurd impossible (lt_irrefl 0)
  · intro failed
    apply Exceptional.Triple.fail
    rintro bus (⟨hzero, _⟩ | thrown)
    · exact absurd hzero failed
    · exact thrown

theorem bmp280ReadCalib_negative {read : BlockRead 24} {code : Int}
    (refused : bmp280ReadCalib read = .error code) : code < 0 := by
  unfold bmp280ReadCalib at refused
  split at refused
  · next hnegative =>
      cases refused
      exact hnegative
  · split at refused
    · cases refused
      decide
    · cases refused

theorem bmp280ReadCalib_whole {read : BlockRead 24} {calib : Bmp280Calib}
    (decoded : bmp280ReadCalib read = .ok calib) : read.ret = 24 := by
  unfold bmp280ReadCalib at decoded
  split at decoded
  · cases decoded
  · split at decoded
    · cases decoded
    · next hwhole => exact not_not.mp hwhole

theorem readCalib_triple :
    Exceptional.Triple (Probing before sent chip) readCalib
      (fun calib bus => bmp280ReadCalib ⟨24, chip.calibration⟩ = .ok calib ∧
        Probing before (sent ++ [.readBlock regCalibStart 24]) chip bus)
      (fun code bus => code < 0 ∧
        Probing before (sent ++ [.readBlock regCalibStart 24]) chip bus) := by
  apply Exceptional.Triple.bind fun read bus =>
    read.buf = chip.calibration ∧
      Probing before (sent ++ [.readBlock regCalibStart 24]) chip bus
  · apply Exceptional.Triple.call
    rintro bus ⟨hlog, rfl⟩
    refine ⟨rfl, ?_, rfl⟩
    exact (congrArg (· ++ _) hlog).trans (List.append_assoc _ _ _)
  rintro ⟨ret, buf⟩ bus ⟨rfl, probing⟩
  cases hread : bmp280ReadCalib ⟨ret, chip.calibration⟩ with
  | ok calib =>
      have hwhole : ret = 24 := bmp280ReadCalib_whole hread
      rw [hwhole] at hread
      simp only [hread]
      exact ⟨rfl, probing⟩
  | error code =>
      exact ⟨bmp280ReadCalib_negative hread, probing⟩

theorem bmp280Identify_triple (before : Bus) :
    Exceptional.Triple (fun bus => bus = before) bmp280Identify
      (fun _ bus => before.chip.id.toNat = chipId ∧
        Probing before [.readByte regId] before.chip bus)
      (ProbeFailed before) := by
  have hquiet : ∀ {code : Int} {sent : List Transaction} {bus : Bus},
      code < 0 → sent <+: [.readByte regId] →
      Probing before sent before.chip bus → ProbeFailed before code bus := by
    intro code sent bus hcode hsent probing
    refine ⟨hcode, ⟨sent, ?_, probing.log, ?_⟩, Or.inl probing.chip⟩
    · exact hsent.trans (List.prefix_append _ _)
    · intro _ transaction member
      have hread := hsent.subset member
      rw [List.mem_singleton] at hread
      rw [hread]
      rfl
  apply Exceptional.Triple.bind fun _ bus => bus = before
  · exact Exceptional.Triple.observe fun _ same => same
  intro capable
  apply Exceptional.Triple.ite
  · intro _
    apply Exceptional.Triple.fail
    rintro bus rfl
    exact hquiet (by decide) (List.nil_prefix) ⟨by simp, rfl⟩
  intro _
  apply Exceptional.Triple.bind fun (id : Int) bus =>
    (id < 0 ∨ id = before.chip.id.toNat) ∧
      Probing before [.readByte regId] before.chip bus
  · apply Exceptional.Triple.call
    rintro bus rfl
    refine ⟨?_, rfl, rfl⟩
    rcases ret_cases bus.reply bus.chip.id.toNat with ⟨_, hret⟩ | hret
    · exact Or.inr hret
    · exact Or.inl hret
  intro id
  apply Exceptional.Triple.ite
  · intro negative
    apply Exceptional.Triple.fail
    rintro bus ⟨_, probing⟩
    exact hquiet negative (List.prefix_refl _) probing
  intro natural
  apply Exceptional.Triple.ite
  · intro _
    apply Exceptional.Triple.fail
    rintro bus ⟨_, probing⟩
    exact hquiet (by decide) (List.prefix_refl _) probing
  intro matching
  have hid : id = chipId := not_not.mp matching
  apply Exceptional.Triple.bind fun _ bus =>
    before.chip.id.toNat = chipId ∧
      Probing before [.readByte regId] before.chip bus
  · apply Exceptional.Triple.observe
    rintro bus ⟨hread, probing⟩
    rcases hread with hnegative | hread
    · exact absurd hnegative natural
    · exact ⟨hread.symm.trans hid, probing⟩
  intro allocated
  apply Exceptional.Triple.ite
  · intro _
    apply Exceptional.Triple.fail
    rintro bus ⟨_, probing⟩
    exact hquiet (by decide) (List.prefix_refl _) probing
  · intro _
    exact Exceptional.Triple.pure fun _ identified => identified

end Probe

/-! The chip on its way through a probe. -/

def Chip.reset (chip : Chip) : Chip :=
  { chip with config := 0, ctrlMeas := 0 }

def Chip.configured (chip : Chip) : Chip :=
  { chip with config := configVal, ctrlMeas := 0 }

theorem asleep_of_zero {chip : Chip} (stopped : chip.ctrlMeas = 0) :
    chip.asleep := by
  unfold Chip.asleep
  rw [stopped]
  rfl

theorem write_reset (chip : Chip) (ignores : Bool) :
    chip.write regReset resetMagic ignores = chip.reset := rfl

theorem write_config (chip : Chip) (ignores : Bool) :
    chip.reset.write regConfig configVal ignores = chip.configured := by
  have hasleep : chip.reset.asleep := asleep_of_zero rfl
  have hobeys : ¬ (ignores = true ∧ ¬ chip.reset.asleep) :=
    fun refused => refused.2 hasleep
  have hother : ¬ regConfig = regReset := by decide
  rw [Chip.write, if_neg hother, if_pos rfl, if_neg hobeys]
  rfl

theorem write_ctrlMeas (chip : Chip) (ignores : Bool) :
    chip.configured.write regCtrlMeas ctrlMeasVal ignores = chip.started := rfl

theorem ProbeFailed.of_probing {before : Bus} {sent : List Transaction}
    {chip : Chip} {code : Int} {bus : Bus}
    (identified : (before.chip.id.toNat : Int) = chipId) (negative : code < 0)
    (first : sent <+: probeTransactions)
    (left : chip = before.chip ∨ chip.asleep ∨
      (sent = probeTransactions ∧ chip = before.chip.started))
    (probing : Probing before sent chip bus) :
    ProbeFailed before code bus := by
  refine ⟨negative, ⟨sent, first, probing.log, ?_⟩, ?_⟩
  · intro other
    exact absurd identified other
  · rw [probing.chip, probing.log]
    rcases left with hsame | hasleep | ⟨rfl, hstarted⟩
    · exact Or.inl hsame
    · exact Or.inr (Or.inl hasleep)
    · exact Or.inr (Or.inr ⟨rfl, hstarted⟩)

theorem bmp280Probe_triple (before : Bus) :
    Exceptional.Triple (fun bus => bus = before) bmp280Probe
      (fun calib bus => (before.chip.id.toNat : Int) = chipId ∧
        bmp280ReadCalib ⟨24, before.chip.calibration⟩ = .ok calib ∧
        Probing before probeTransactions before.chip.started bus)
      (ProbeFailed before) := by
  apply Exceptional.Triple.bind _ (bmp280Identify_triple before)
  intro _
  apply Exceptional.Triple.assume
  intro identified
  have hreset : before.chip.reset.asleep := asleep_of_zero rfl
  have hconfigured : before.chip.configured.asleep := asleep_of_zero rfl
  apply Exceptional.Triple.bind
  · apply (writeChecked_triple (write_reset before.chip)).weaken
    · exact fun _ probing => probing
    · exact fun _ _ probing => probing
    · rintro code bus ⟨negative, probing | probing⟩
      · exact .of_probing identified negative (by decide) (Or.inl rfl) probing
      · exact .of_probing identified negative (by decide)
          (Or.inr (Or.inl hreset)) probing
  intro _
  apply Exceptional.Triple.bind fun _ => Probing before
    (probeTransactions.take 3) before.chip.reset
  · apply Exceptional.Triple.update
    rintro bus ⟨hlog, hchip⟩
    exact ⟨(congrArg (· ++ _) hlog).trans (List.append_assoc _ _ _), hchip⟩
  intro _
  apply Exceptional.Triple.bind
  · apply readCalib_triple.weaken
    · exact fun _ probing => probing
    · exact fun _ _ decoded => decoded
    · rintro code bus ⟨negative, probing⟩
      exact .of_probing identified negative (by decide)
        (Or.inr (Or.inl hreset)) probing
  intro calib
  apply Exceptional.Triple.assume
  intro decoded
  apply Exceptional.Triple.bind
  · apply (writeChecked_triple (write_config before.chip)).weaken
    · exact fun _ probing => probing
    · exact fun _ _ probing => probing
    · rintro code bus ⟨negative, probing | probing⟩
      · exact .of_probing identified negative (by decide)
          (Or.inr (Or.inl hreset)) probing
      · exact .of_probing identified negative (by decide)
          (Or.inr (Or.inl hconfigured)) probing
  intro _
  apply Exceptional.Triple.bind
  · apply (writeChecked_triple (write_ctrlMeas before.chip)).weaken
    · exact fun _ probing => probing
    · exact fun _ _ probing => probing
    · rintro code bus ⟨negative, probing | probing⟩
      · exact .of_probing identified negative (by decide)
          (Or.inr (Or.inl hconfigured)) probing
      · exact .of_probing identified negative (by decide)
          (Or.inr (Or.inr ⟨rfl, rfl⟩)) probing
  intro _
  apply Exceptional.Triple.pure
  intro bus probing
  exact ⟨identified, decoded, probing⟩

/-! When probing succeeds. -/

/-- The program returns exactly where `works` holds of the replies to come, and
takes `count` of them. -/
def Takes {Value : Type} (program : DriverM Value)
    (works : List BusReply → Prop) (count : Nat) : Prop :=
  ∀ bus,
    (works bus.script → ∃ value final, program bus = (.ok value, final) ∧
      final.script = bus.script.drop count) ∧
    (¬ works bus.script → ∃ code final, program bus = (.error code, final))

theorem Takes.bind {Value Next : Type} {program : DriverM Value}
    {next : Value → DriverM Next} {first second : List BusReply → Prop}
    {count more : Nat} (takes : Takes program first count)
    (takesNext : ∀ value, Takes (next value) second more) :
    Takes (program >>= next)
      (fun script => first script ∧ second (script.drop count))
      (count + more) := by
  intro bus
  by_cases hfirst : first bus.script
  · obtain ⟨value, middle, hreturns, hscript⟩ := (takes bus).1 hfirst
    have hbind : (program >>= next) bus = next value middle :=
      Exceptional.bind_of_ok hreturns
    obtain ⟨hworks, hfails⟩ := takesNext value middle
    rw [hscript] at hworks hfails
    refine ⟨?_, ?_⟩
    · rintro ⟨_, hsecond⟩
      obtain ⟨result, final, hfinal, hrest⟩ := hworks hsecond
      exact ⟨result, final, hbind.trans hfinal,
        hrest.trans (List.drop_drop ..)⟩
    · intro hnot
      obtain ⟨code, final, hfinal⟩ := hfails fun hsecond =>
        hnot ⟨hfirst, hsecond⟩
      exact ⟨code, final, hbind.trans hfinal⟩
  · obtain ⟨code, final, hthrows⟩ := (takes bus).2 hfirst
    refine ⟨fun holds => absurd holds.1 hfirst, ?_⟩
    intro _
    exact ⟨code, final, Exceptional.bind_of_error hthrows⟩

theorem Takes.pure {Value : Type} (value : Value) :
    Takes (Pure.pure value : DriverM Value) (fun _ => True) 0 :=
  fun bus => ⟨fun _ => ⟨value, bus, rfl, rfl⟩,
    fun impossible => absurd True.intro impossible⟩

/-- The transfer that the next reply answers does not fail. -/
def Answers (script : List BusReply) : Prop :=
  (script.headD deadReply).failure = none

theorem ret_eq_zero {reply : BusReply} :
    reply.ret 0 = 0 ↔ reply.failure = none := by
  unfold BusReply.ret
  cases reply.failure with
  | some code =>
      constructor
      · intro hzero
        exact absurd hzero (ne_of_lt code.property)
      · intro impossible
        cases impossible
  | none => simp

theorem writeChecked_takes (register value : UInt8) :
    Takes (writeChecked register value) Answers 1 := by
  intro bus
  have hchecked : writeChecked register value bus =
      (if bus.reply.ret 0 = 0 then Pure.pure ()
        else Exceptional.fail (bus.reply.ret 0) : DriverM Unit)
        { bus.transact (.writeByte register value) with
          chip := bus.written register value } :=
    Exceptional.bind_of_ok rfl
  refine ⟨?_, ?_⟩
  · intro works
    have hzero : bus.reply.ret 0 = 0 := ret_eq_zero.mpr works
    rw [if_pos hzero] at hchecked
    exact ⟨(), _, hchecked, List.drop_one.symm⟩
  · intro fails
    have hthrows : ¬ bus.reply.ret 0 = 0 :=
      fun hzero => fails (ret_eq_zero.mp hzero)
    rw [if_neg hthrows] at hchecked
    exact ⟨_, _, hchecked⟩

theorem usleepRange_takes (shortest longest : Nat) :
    Takes (usleepRange shortest longest) (fun _ => True) 0 :=
  fun _ => ⟨fun _ => ⟨(), _, rfl, rfl⟩,
    fun impossible => absurd True.intro impossible⟩

/-- The whole calibration block is read. -/
def AnswersWhole (script : List BusReply) : Prop :=
  Answers script ∧ 24 ≤ (script.headD deadReply).count

theorem bmp280ReadCalib_of_whole {read : BlockRead 24}
    (whole : read.ret = 24) : ∃ calib, bmp280ReadCalib read = .ok calib := by
  unfold bmp280ReadCalib
  simp [whole]

theorem readCalib_takes : Takes readCalib AnswersWhole 1 := by
  intro bus
  have hret : bus.reply.ret (min bus.reply.count 24 : Nat) = 24 ↔
      AnswersWhole bus.script := by
    unfold AnswersWhole Answers
    change _ ↔ bus.reply.failure = none ∧ 24 ≤ bus.reply.count
    unfold BusReply.ret
    cases bus.reply.failure with
    | some code =>
        have hcode := code.property
        simp only [reduceCtorEq, false_and, iff_false]
        omega
    | none =>
        simp only [true_and]
        omega
  have hcalib : readCalib bus =
      (match bmp280ReadCalib ⟨bus.reply.ret (min bus.reply.count 24 : Nat),
          bus.chip.calibration⟩ with
        | .ok calib => Pure.pure calib
        | .error ret => Exceptional.fail ret : DriverM Bmp280Calib)
        (bus.transact (.readBlock regCalibStart 24)) :=
    Exceptional.bind_of_ok rfl
  cases hdecoded : bmp280ReadCalib ⟨bus.reply.ret
      (min bus.reply.count 24 : Nat), bus.chip.calibration⟩ with
  | ok calib =>
      rw [hdecoded] at hcalib
      refine ⟨fun _ => ⟨calib, _, hcalib, List.drop_one.symm⟩, ?_⟩
      intro fails
      exact absurd (hret.mp (bmp280ReadCalib_whole hdecoded)) fails
  | error code =>
      rw [hdecoded] at hcalib
      refine ⟨?_, fun _ => ⟨code, _, hcalib⟩⟩
      intro works
      have hwhole : (⟨bus.reply.ret (min bus.reply.count 24 : Nat),
          bus.chip.calibration⟩ : BlockRead 24).ret = 24 := hret.mpr works
      obtain ⟨calib, hcalibrated⟩ := bmp280ReadCalib_of_whole hwhole
      rw [hdecoded] at hcalibrated
      cases hcalibrated

theorem bmp280Configure_takes :
    Takes bmp280Configure (fun script => Answers script ∧ True ∧
      AnswersWhole (script.drop 1) ∧ Answers (script.drop 2) ∧
      Answers (script.drop 3) ∧ True) 4 := by
  have hlast := fun calib : Bmp280Calib =>
    (writeChecked_takes regCtrlMeas ctrlMeasVal).bind fun _ =>
      Takes.pure calib
  have hconfig := fun calib =>
    (writeChecked_takes regConfig configVal).bind fun _ => hlast calib
  have hcalib := readCalib_takes.bind hconfig
  have hsleep := (usleepRange_takes 3000 4000).bind fun _ => hcalib
  have hreset := (writeChecked_takes regReset resetMagic).bind fun _ => hsleep
  simp only [List.drop_drop] at hreset
  exact hreset

/-- What `bmp280_probe` checks before its first write. -/
structure Identified (bus : Bus) : Prop where
  blockRead : bus.blockRead = true
  answers : Answers bus.script
  chip : (bus.chip.id.toNat : Int) = chipId
  allocates : bus.allocates = true

theorem bmp280Identify_ok {bus : Bus} (identified : Identified bus) :
    bmp280Identify bus = (.ok (), bus.transact (.readByte regId)) := by
  have hret : bus.reply.ret bus.chip.id.toNat = chipId := by
    have hnone : bus.reply.failure = none := identified.answers
    simp only [BusReply.ret, hnone]
    exact identified.chip
  have hread : smbusReadByteData regId bus =
      (.ok chipId, bus.transact (.readByte regId)) :=
    Prod.ext (congrArg Except.ok hret) rfl
  calc
    bmp280Identify bus
    _ = (do
          let id ← smbusReadByteData regId
          if id < 0 then Exceptional.fail id
          else if id ≠ chipId then Exceptional.fail (-enodev)
          else do
            let allocated ← Exceptional.observe Bus.allocates
            if ¬ allocated then Exceptional.fail (-enomem) else pure () :
          DriverM Unit) bus := by
      refine (Exceptional.bind_of_ok rfl).trans ?_
      rw [if_neg (not_not.mpr identified.blockRead)]
    _ = (do
          let allocated ← Exceptional.observe Bus.allocates
          if ¬ allocated then Exceptional.fail (-enomem) else pure () :
          DriverM Unit) (bus.transact (.readByte regId)) := by
      refine (Exceptional.bind_of_ok hread).trans ?_
      rw [if_neg (by decide), if_neg (by decide)]
    _ = (.ok (), bus.transact (.readByte regId)) := by
      have hallocates : (bus.transact (.readByte regId)).allocates = true :=
        identified.allocates
      refine (Exceptional.bind_of_ok rfl).trans ?_
      rw [if_neg (not_not.mpr hallocates)]
      rfl

theorem identified_of_ok {bus final : Bus}
    (returned : bmp280Identify bus = (.ok (), final)) : Identified bus := by
  obtain ⟨_, _, hcapable, hread⟩ := Exceptional.bind_ok returned
  cases hcapable
  by_cases hblock : bus.blockRead = true
  · rw [if_neg (not_not.mpr hblock)] at hread
    have hcall : smbusReadByteData regId bus =
        (.ok (bus.reply.ret bus.chip.id.toNat),
          bus.transact (.readByte regId)) := rfl
    rw [Exceptional.bind_of_ok hcall] at hread
    rcases ret_cases bus.reply bus.chip.id.toNat with ⟨hanswers, hret⟩ | hneg
    · have hnatural : ¬ bus.reply.ret bus.chip.id.toNat < 0 := by
        rw [hret]
        omega
      rw [if_neg hnatural, hret] at hread
      by_cases hchip : (bus.chip.id.toNat : Int) = chipId
      · rw [if_neg (not_not.mpr hchip)] at hread
        obtain ⟨_, _, hallocated, hlast⟩ := Exceptional.bind_ok hread
        cases hallocated
        refine ⟨hblock, Option.isNone_iff_eq_none.mp hanswers, hchip, ?_⟩
        by_contra hfull
        have hrefused : ¬ (bus.transact (.readByte regId)).allocates = true :=
          hfull
        rw [if_pos hrefused] at hlast
        cases hlast
      · rw [if_pos hchip] at hread
        cases hread
    · rw [if_pos hneg] at hread
      cases hread
  · rw [if_pos hblock] at hread
    cases hread

/-- The replies to the transfers behind the identification. -/
structure Configured (script : List BusReply) : Prop where
  reset : Answers script
  calibrated : AnswersWhole (script.drop 1)
  configured : Answers (script.drop 2)
  started : Answers (script.drop 3)

theorem configured_iff {script : List BusReply} :
    Configured script ↔ Answers script ∧ True ∧
      AnswersWhole (script.drop 1) ∧ Answers (script.drop 2) ∧
      Answers (script.drop 3) ∧ True := by
  constructor
  · rintro ⟨reset, calibrated, configured, started⟩
    exact ⟨reset, True.intro, calibrated, configured, started, True.intro⟩
  · rintro ⟨reset, _, calibrated, configured, started, _⟩
    exact ⟨reset, calibrated, configured, started⟩

/-- Probing succeeds exactly on a chip of the right kind whose every transfer
succeeds. -/
theorem bmp280Probe_succeeds (bus : Bus) :
    (∃ calib final, bmp280Probe bus = (.ok calib, final)) ↔
      Identified bus ∧ Configured bus.script.tail := by
  constructor
  · rintro ⟨calib, final, returned⟩
    obtain ⟨_, middle, hidentify, hconfigure⟩ := Exceptional.bind_ok returned
    have identified := identified_of_ok hidentify
    rw [bmp280Identify_ok identified] at hidentify
    cases hidentify
    refine ⟨identified, ?_⟩
    by_contra hrefused
    obtain ⟨code, left, hthrown⟩ :=
      (bmp280Configure_takes (bus.transact (.readByte regId))).2 fun works =>
        hrefused (configured_iff.mpr works)
    rw [hthrown] at hconfigure
    cases hconfigure
  · rintro ⟨identified, configured⟩
    obtain ⟨calib, final, hreturned, _⟩ :=
      (bmp280Configure_takes (bus.transact (.readByte regId))).1
        (configured_iff.mp configured)
    have hidentified := bmp280Identify_ok identified
    exact ⟨calib, final, (Exceptional.bind_of_ok hidentified).trans hreturned⟩

/-- What a probe does to the bus, whether it succeeds or not. -/
theorem bmp280Probe_protocol (before : Bus) :
    ((∃ calib final, bmp280Probe before = (.ok calib, final)) ↔
        Identified before ∧ Configured before.script.tail) ∧
      match bmp280Probe before with
      | (.ok calib, bus) =>
          bmp280ReadCalib ⟨24, before.chip.calibration⟩ = .ok calib ∧
            Probing before probeTransactions before.chip.started bus
      | (.error code, bus) => ProbeFailed before code bus := by
  refine ⟨bmp280Probe_succeeds before, ?_⟩
  have hprobe := bmp280Probe_triple before before rfl
  rcases houtcome : bmp280Probe before with ⟨code | calib, bus⟩
  · rw [houtcome] at hprobe
    exact hprobe
  · rw [houtcome] at hprobe
    exact hprobe.2

end EmbeddedPortfolio.Sensor
