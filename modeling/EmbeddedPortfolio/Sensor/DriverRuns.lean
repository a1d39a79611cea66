import EmbeddedPortfolio.Sensor.Driver
import EmbeddedPortfolio.Transition.Mutex
import Mathlib.Logic.Function.Basic

namespace EmbeddedPortfolio.Sensor

open EmbeddedPortfolio.Program
open EmbeddedPortfolio.Transition

/-! The driver bound and unbound, with any number of readers of its attributes
at once. -/

/-- Where a reader is in an attribute. -/
inductive Reader where
  | outside
  | waiting (attr : Attr)
  | locked (attr : Attr)
  | measured (attr : Attr) (outcome : Except Int (Int32 × UInt32))
  | leaving (attr : Attr) (outcome : Except Int (Int32 × UInt32))

/-- `bound` is the calibration that probing left in the driver data. -/
structure Driver where
  bus : Bus
  bound : Option Bmp280Calib
  holder : Option Nat
  readers : Nat → Reader

inductive DriverEvent where
  | bind (result : Except Int Bmp280Calib)
  | unbind
  | enter (reader : Nat) (attr : Attr)
  | lock (reader : Nat)
  | transfer (reader : Nat) (read : BlockRead 6)
  | unlock (reader : Nat)
  | leave (reader : Nat) (result : Except Int String)

def Driver.place (driver : Driver) (reader : Nat) (phase : Reader) : Driver :=
  { driver with readers := Function.update driver.readers reader phase }

theorem place_readers (driver : Driver) (reader other : Nat)
    (phase : Reader) :
    (driver.place reader phase).readers other =
      if other = reader then phase else driver.readers other :=
  Function.update_apply driver.readers reader phase other

/-- Nobody is in an attribute; the attributes are removed before the driver is
unbound, and that waits for the readers inside. -/
def Driver.Quiet (driver : Driver) : Prop :=
  ∀ reader, driver.readers reader = .outside

def driverStep (driver : Driver) : DriverEvent → Driver → Prop
  | .bind result, next =>
      driver.bound = none ∧ driver.Quiet ∧
        result = (bmp280Probe driver.bus).1 ∧
        next = { driver with
          bus := (bmp280Probe driver.bus).2
          bound := result.toOption
          holder := none }
  | .unbind, next =>
      driver.bound ≠ none ∧ driver.Quiet ∧
        next = { driver with
          bus := (bmp280Remove driver.bus).2
          bound := none }
  | .enter reader attr, next =>
      driver.bound ≠ none ∧ driver.readers reader = .outside ∧
        next = driver.place reader (.waiting attr)
  | .lock reader, next =>
      ∃ attr, driver.readers reader = .waiting attr ∧
        driver.holder = none ∧
        next = { driver.place reader (.locked attr) with
          holder := some reader }
  | .transfer reader read, next =>
      ∃ attr calib, driver.readers reader = .locked attr ∧
        driver.bound = some calib ∧
        (readBurst driver.bus).1 = .ok read ∧
        next = { driver.place reader
            (.measured attr (bmp280Measure calib read)) with
          bus := (readBurst driver.bus).2 }
  | .unlock reader, next =>
      ∃ attr outcome, driver.readers reader = .measured attr outcome ∧
        next = { driver.place reader (.leaving attr outcome) with
          holder := none }
  | .leave reader result, next =>
      ∃ attr outcome, driver.readers reader = .leaving attr outcome ∧
        result = outcome.map attr.emit ∧
        next = driver.place reader .outside

def driverSystem : System Driver DriverEvent where
  initial driver :=
    driver.bound = none ∧ driver.holder = none ∧ driver.Quiet
  step := driverStep

/-! What holds of the driver in every state. -/

/-- The readers that hold the lock. -/
def Reader.inside : Reader → Bool
  | .locked _ => true
  | .measured _ _ => true
  | _ => false

structure Consistent (driver : Driver) : Prop where
  started : ∀ calib, driver.bound = some calib →
    (driver.bus.chip.id.toNat : Int) = chipId ∧
      driver.bus.chip = driver.bus.chip.started ∧
      bmp280ReadCalib ⟨24, driver.bus.chip.calibration⟩ = .ok calib
  held : ∀ reader, (driver.readers reader).inside = true ↔
    driver.holder = some reader

theorem Consistent.start {driver : Driver}
    (initial : driverSystem.initial driver) : Consistent driver := by
  obtain ⟨hbound, hholder, hquiet⟩ := initial
  constructor
  · intro calib hcalib
    rw [hbound] at hcalib
    cases hcalib
  · intro reader
    rw [hquiet reader, hholder]
    simp [Reader.inside]

theorem Consistent.bind {driver next : Driver}
    {result : Except Int Bmp280Calib}
    (step : driverStep driver (.bind result) next) : Consistent next := by
  obtain ⟨_, hquiet, hresult, rfl⟩ := step
  constructor
  · intro calib hcalib
    have hprobe := bmp280Probe_triple driver.bus driver.bus rfl
    rcases houtcome : bmp280Probe driver.bus with ⟨code | found, bus⟩
    · simp [hresult, houtcome, Except.toOption] at hcalib
    · rw [houtcome] at hprobe
      obtain ⟨hid, hdecoded, hprobing⟩ := hprobe
      have hfound : found = calib := by
        simpa [hresult, houtcome, Except.toOption] using hcalib
      rw [← hfound]
      simp only [hprobing.chip]
      exact ⟨hid, rfl, hdecoded⟩
  · intro reader
    have houtside : driver.readers reader = .outside := hquiet reader
    simp [houtside, Reader.inside]

theorem Consistent.unbind {driver next : Driver}
    (consistent : Consistent driver)
    (step : driverStep driver .unbind next) : Consistent next := by
  obtain ⟨_, _, rfl⟩ := step
  constructor
  · intro calib impossible
    cases impossible
  · exact consistent.held

/-- A reader that goes on without taking or giving the lock. -/
theorem Consistent.move {driver : Driver} (consistent : Consistent driver)
    {reader : Nat} {phase : Reader}
    (same : phase.inside = (driver.readers reader).inside) {bus : Bus}
    (chip : bus.chip = driver.bus.chip) :
    Consistent { driver.place reader phase with bus := bus } := by
  constructor
  · intro calib hcalib
    simp only [chip]
    exact consistent.started calib hcalib
  · intro other
    change ((driver.place reader phase).readers other).inside = true ↔ _
    rw [place_readers]
    split
    · next hother =>
        rw [same, ← hother]
        exact consistent.held other
    · exact consistent.held other

theorem Consistent.lock {driver next : Driver} {reader : Nat}
    (consistent : Consistent driver)
    (step : driverStep driver (.lock reader) next) : Consistent next := by
  obtain ⟨attr, _, hfree, rfl⟩ := step
  constructor
  · exact consistent.started
  · intro other
    change ((driver.place reader (.locked attr)).readers other).inside = true ↔
      some reader = some other
    rw [place_readers]
    split
    · next hother => simp [Reader.inside, hother]
    · next hother =>
        rw [consistent.held other, hfree]
        simp [Ne.symm hother]

theorem Consistent.unlock {driver next : Driver} {reader : Nat}
    (consistent : Consistent driver)
    (step : driverStep driver (.unlock reader) next) : Consistent next := by
  obtain ⟨attr, outcome, hmeasured, rfl⟩ := step
  have hholder : driver.holder = some reader := by
    apply (consistent.held reader).mp
    rw [hmeasured]
    rfl
  constructor
  · exact consistent.started
  · intro other
    change ((driver.place reader (.leaving attr outcome)).readers other).inside
      = true ↔ none = some other
    rw [place_readers]
    split
    · simp [Reader.inside]
    · next hother =>
        rw [consistent.held other, hholder]
        simp [Ne.symm hother]

theorem Consistent.step {driver next : Driver} {event : DriverEvent}
    (consistent : Consistent driver)
    (step : driverStep driver event next) : Consistent next := by
  cases event with
  | bind result => exact Consistent.bind step
  | unbind => exact consistent.unbind step
  | enter reader attr =>
      obtain ⟨_, houtside, rfl⟩ := step
      exact consistent.move (by rw [houtside]; rfl) rfl
  | lock reader => exact consistent.lock step
  | transfer reader read =>
      obtain ⟨attr, calib, hlocked, _, _, rfl⟩ := step
      exact consistent.move (by rw [hlocked]; rfl) rfl
  | unlock reader => exact consistent.unlock step
  | leave reader result =>
      obtain ⟨attr, outcome, hleaving, _, rfl⟩ := step
      exact consistent.move (by rw [hleaving]; rfl) rfl

theorem run_consistent {events : List DriverEvent} {driver : Driver}
    (run : driverSystem.Run events driver) : Consistent driver :=
  System.Run.invariant (motive := fun _ driver => Consistent driver)
    (fun _ initial => Consistent.start initial)
    (fun _ _ _ _ consistent step => consistent.step step) run

/-- With nobody in an attribute the lock is free. -/
theorem Consistent.free {driver : Driver} (consistent : Consistent driver)
    (quiet : driver.Quiet) : driver.holder = none := by
  cases hholder : driver.holder with
  | none => rfl
  | some reader =>
      have hinside := (consistent.held reader).mpr hholder
      rw [quiet reader] at hinside
      cases hinside

/-! What one reader did. -/

def DriverEvent.reader : DriverEvent → Option Nat
  | .bind _ => none
  | .unbind => none
  | .enter reader _ => some reader
  | .lock reader => some reader
  | .transfer reader _ => some reader
  | .unlock reader => some reader
  | .leave reader _ => some reader

def own (reader : Nat) (events : List DriverEvent) : List DriverEvent :=
  events.filter fun event => event.reader = some reader

theorem own_append_same {reader : Nat} {event : DriverEvent}
    (events : List DriverEvent) (same : event.reader = some reader) :
    own reader (events ++ [event]) = own reader events ++ [event] := by
  simp [own, same]

theorem own_append_other {reader : Nat} {event : DriverEvent}
    (events : List DriverEvent) (other : event.reader ≠ some reader) :
    own reader (events ++ [event]) = own reader events := by
  simp [own, other]

/-- What a reader has done since it entered the attribute it is in, and what it
has measured. -/
def Followed (bound : Option Bmp280Calib) (reader : Nat)
    (past : List DriverEvent) : Reader → Prop
  | .outside => True
  | .waiting attr => [.enter reader attr] <:+ past
  | .locked attr => [.enter reader attr, .lock reader] <:+ past
  | .measured attr outcome => ∃ read calib,
      [.enter reader attr, .lock reader, .transfer reader read] <:+ past ∧
        bound = some calib ∧ outcome = bmp280Measure calib read
  | .leaving attr outcome => ∃ read calib,
      [.enter reader attr, .lock reader, .transfer reader read,
        .unlock reader] <:+ past ∧
        bound = some calib ∧ outcome = bmp280Measure calib read

theorem suffix_append {past recent : List DriverEvent} (event : DriverEvent)
    (suffix : recent <:+ past) : recent ++ [event] <:+ past ++ [event] := by
  obtain ⟨earlier, rfl⟩ := suffix
  exact ⟨earlier, by simp⟩

/-- A reader's own step, from what it has done before. -/
theorem Followed.own_step {driver next : Driver} {event : DriverEvent}
    {reader : Nat} {past : List DriverEvent}
    (followed : Followed driver.bound reader past (driver.readers reader))
    (mine : event.reader = some reader)
    (step : driverStep driver event next) :
    Followed next.bound reader (past ++ [event]) (next.readers reader) := by
  cases event with
  | bind result => cases mine
  | unbind => cases mine
  | enter actor attr =>
      cases mine
      obtain ⟨_, _, rfl⟩ := step
      rw [place_readers, if_pos rfl]
      exact List.suffix_append past _
  | lock actor =>
      cases mine
      obtain ⟨attr, hwaiting, _, rfl⟩ := step
      rw [hwaiting] at followed
      change Followed driver.bound reader _
        ((driver.place reader (.locked attr)).readers reader)
      rw [place_readers, if_pos rfl]
      exact suffix_append _ followed
  | transfer actor read =>
      cases mine
      obtain ⟨attr, calib, hlocked, hbound, _, rfl⟩ := step
      rw [hlocked] at followed
      change Followed driver.bound reader _ ((driver.place reader
        (.measured attr (bmp280Measure calib read))).readers reader)
      rw [place_readers, if_pos rfl]
      exact ⟨read, calib, suffix_append _ followed, hbound, rfl⟩
  | unlock actor =>
      cases mine
      obtain ⟨attr, outcome, hmeasured, rfl⟩ := step
      rw [hmeasured] at followed
      obtain ⟨read, calib, hsuffix, hbound, houtcome⟩ := followed
      change Followed driver.bound reader _
        ((driver.place reader (.leaving attr outcome)).readers reader)
      rw [place_readers, if_pos rfl]
      exact ⟨read, calib, suffix_append _ hsuffix, hbound, houtcome⟩
  | leave actor result =>
      cases mine
      obtain ⟨attr, outcome, _, _, rfl⟩ := step
      rw [place_readers, if_pos rfl]
      exact True.intro

/-- Nobody moves another reader, and the driver is not unbound under one. -/
theorem step_frame {driver next : Driver} {event : DriverEvent} {reader : Nat}
    (other : event.reader ≠ some reader)
    (step : driverStep driver event next) :
    next.readers reader = driver.readers reader ∧
      (next.bound = driver.bound ∨ driver.readers reader = .outside) := by
  have hplace : ∀ {actor : Nat} {phase : Reader}, actor ≠ reader →
      (driver.place actor phase).readers reader = driver.readers reader := by
    intro actor phase hactor
    rw [place_readers, if_neg (Ne.symm hactor)]
  cases event with
  | bind result =>
      obtain ⟨_, hquiet, _, rfl⟩ := step
      exact ⟨rfl, Or.inr (hquiet reader)⟩
  | unbind =>
      obtain ⟨_, hquiet, rfl⟩ := step
      exact ⟨rfl, Or.inr (hquiet reader)⟩
  | enter actor attr =>
      obtain ⟨_, _, rfl⟩ := step
      exact ⟨hplace fun same => other (congrArg some same), Or.inl rfl⟩
  | lock actor =>
      obtain ⟨_, _, _, rfl⟩ := step
      exact ⟨hplace fun same => other (congrArg some same), Or.inl rfl⟩
  | transfer actor read =>
      obtain ⟨_, _, _, _, _, rfl⟩ := step
      exact ⟨hplace fun same => other (congrArg some same), Or.inl rfl⟩
  | unlock actor =>
      obtain ⟨_, _, _, rfl⟩ := step
      exact ⟨hplace fun same => other (congrArg some same), Or.inl rfl⟩
  | leave actor result =>
      obtain ⟨_, _, _, _, rfl⟩ := step
      exact ⟨hplace fun same => other (congrArg some same), Or.inl rfl⟩

theorem run_followed {events : List DriverEvent} {driver : Driver}
    (run : driverSystem.Run events driver) (reader : Nat) :
    Followed driver.bound reader (own reader events)
      (driver.readers reader) := by
  induction run with
  | start initial =>
      rw [initial.2.2 reader]
      exact True.intro
  | @extend events driver next event _ step induction =>
      by_cases mine : event.reader = some reader
      · rw [own_append_same events mine]
        exact induction.own_step mine step
      · rw [own_append_other events mine]
        obtain ⟨hreaders, hbound | houtside⟩ := step_frame mine step
        · rw [hreaders, hbound]
          exact induction
        · rw [hreaders, houtside]
          exact True.intro

/-! A driver with one reader. -/

section OneReader

variable (bus : Bus) (calib : Bmp280Calib) (attr : Attr)

def Bus.sampled (bus : Bus) : BlockRead 6 :=
  ⟨bus.reply.ret (min bus.reply.count 6 : Nat), bus.reply.burst⟩

def Driver.unbound (bus : Bus) : Driver :=
  ⟨bus, none, none, fun _ => .outside⟩

def Driver.probed (bus : Bus) (calib : Bmp280Calib) : Driver :=
  { Driver.unbound bus with
    bus := (bmp280Probe bus).2
    bound := some calib }

def Driver.entered : Driver :=
  (Driver.probed bus calib).place 0 (.waiting attr)

def Driver.locking : Driver :=
  { (Driver.entered bus calib attr).place 0 (.locked attr) with
    holder := some 0 }

def Driver.sampling : Driver :=
  { (Driver.locking bus calib attr).place 0
      (.measured attr (bmp280Measure calib (bmp280Probe bus).2.sampled)) with
    bus := (readBurst (bmp280Probe bus).2).2 }

def Driver.unlocking : Driver :=
  { (Driver.sampling bus calib attr).place 0
      (.leaving attr (bmp280Measure calib (bmp280Probe bus).2.sampled)) with
    holder := none }

variable {bus calib}

theorem entered_run (probes : (bmp280Probe bus).1 = .ok calib) :
    driverSystem.Run [.bind (.ok calib), .enter 0 attr]
      (Driver.entered bus calib attr) := by
  have hinitial : driverSystem.initial (Driver.unbound bus) :=
    ⟨rfl, rfl, fun _ => rfl⟩
  have hbind : driverSystem.step (Driver.unbound bus) (.bind (.ok calib))
      (Driver.probed bus calib) :=
    ⟨rfl, fun _ => rfl, probes.symm, rfl⟩
  have henter : driverSystem.step (Driver.probed bus calib) (.enter 0 attr)
      (Driver.entered bus calib attr) :=
    ⟨Option.some_ne_none calib, rfl, rfl⟩
  exact .extend (.extend (.start hinitial) hbind) henter

theorem sampling_run (probes : (bmp280Probe bus).1 = .ok calib) :
    driverSystem.Run [.bind (.ok calib), .enter 0 attr, .lock 0,
        .transfer 0 (bmp280Probe bus).2.sampled]
      (Driver.sampling bus calib attr) := by
  have hlock : driverSystem.step (Driver.entered bus calib attr) (.lock 0)
      (Driver.locking bus calib attr) :=
    ⟨attr, rfl, rfl, rfl⟩
  have htransfer : driverSystem.step (Driver.locking bus calib attr)
      (.transfer 0 (bmp280Probe bus).2.sampled)
      (Driver.sampling bus calib attr) :=
    ⟨attr, calib, rfl, rfl, rfl, rfl⟩
  exact .extend (.extend (entered_run attr probes) hlock) htransfer

theorem leaving_run (probes : (bmp280Probe bus).1 = .ok calib) :
    driverSystem.Run [.bind (.ok calib), .enter 0 attr, .lock 0,
        .transfer 0 (bmp280Probe bus).2.sampled, .unlock 0,
        .leave 0 (attr.shown calib (bmp280Probe bus).2.sampled)]
      ((Driver.unlocking bus calib attr).place 0 .outside) := by
  have hunlock : driverSystem.step (Driver.sampling bus calib attr)
      (.unlock 0) (Driver.unlocking bus calib attr) :=
    ⟨attr, _, rfl, rfl⟩
  have hleave : driverSystem.step (Driver.unlocking bus calib attr)
      (.leave 0 (attr.shown calib (bmp280Probe bus).2.sampled))
      ((Driver.unlocking bus calib attr).place 0 .outside) :=
    ⟨attr, _, rfl, shown_eq_emit attr calib _, rfl⟩
  exact .extend (.extend (sampling_run attr probes) hunlock) hleave

end OneReader

def sheetBlock : Vector UInt8 24 :=
  #v[0x70, 0x6B, 0x43, 0x67, 0x18, 0xFC, 0x7D, 0x8E, 0x43, 0xD6, 0xD0, 0x0B,
    0x27, 0x0B, 0x8C, 0x00, 0xF9, 0xFF, 0x8C, 0x3C, 0xF8, 0xC6, 0x70, 0x17]

/-- The data sheet's example on a bus that works. -/
def sheetBus : Bus where
  chip := ⟨0x58, sheetBlock, 0, 0⟩
  blockRead := true
  allocates := true
  script := [{}, {}, { count := 24 }, {}, {},
    { count := 6, burst := sheetRead.buf }]
  log := []

theorem sheetBus_probes : (bmp280Probe sheetBus).1 = .ok sheetCalib := by
  decide +kernel

/-- What an attribute shows is computed from one burst, read while its reader
held the lock, and from the calibration words of the chip itself. -/
theorem shown_from_one_burst {events : List DriverEvent} {driver : Driver}
    {reader : Nat} {result : Except Int String}
    (run : driverSystem.Run (events ++ [.leave reader result]) driver) :
    ∃ attr read calib,
      [.enter reader attr, .lock reader, .transfer reader read,
          .unlock reader, .leave reader result] <:+
        own reader (events ++ [.leave reader result]) ∧
      bmp280ReadCalib ⟨24, driver.bus.chip.calibration⟩ = .ok calib ∧
      driver.bus.chip = driver.bus.chip.started ∧
      result = attr.shown calib read := by
  obtain ⟨before, earlier, step⟩ := run.last
  have hfollowed := run_followed earlier reader
  have hconsistent := run_consistent earlier
  obtain ⟨attr, outcome, hleaving, rfl, rfl⟩ := step
  rw [hleaving] at hfollowed
  obtain ⟨read, calib, hsuffix, hbound, rfl⟩ := hfollowed
  obtain ⟨_, hstarted, hdecoded⟩ := hconsistent.started calib hbound
  refine ⟨attr, read, calib, ?_, hdecoded, hstarted, ?_⟩
  · rw [own_append_same events rfl]
    exact suffix_append _ hsuffix
  · exact (shown_eq_emit attr calib read).symm

theorem shown_from_one_burst_sheet :
    let burst := (bmp280Probe sheetBus).2.sampled
    let result := Attr.shown .pressure sheetCalib burst
    let driver :=
      (Driver.unlocking sheetBus sheetCalib .pressure).place 0 .outside
    ∃ attr read calib,
      [.enter 0 attr, .lock 0, .transfer 0 read, .unlock 0,
          .leave 0 result] <:+
        own 0 ([.bind (.ok sheetCalib), .enter 0 .pressure, .lock 0,
          .transfer 0 burst, .unlock 0] ++ [.leave 0 result]) ∧
      bmp280ReadCalib ⟨24, driver.bus.chip.calibration⟩ = .ok calib ∧
      driver.bus.chip = driver.bus.chip.started ∧
      result = attr.shown calib read := by
  intro burst result driver
  exact shown_from_one_burst (leaving_run .pressure sheetBus_probes)

/-! The lock. -/

def driverMutex : Mutex driverSystem Nat where
  holder := Driver.holder
  takes event :=
    match event with
    | .lock reader => some reader
    | _ => none
  gives event :=
    match event with
    | .unlock reader => some reader
    | _ => none
  inside event :=
    match event with
    | .transfer reader _ => some reader
    | _ => none
  taken := by
    intro driver event next actor step takes
    cases event with
    | lock reader =>
        cases takes
        obtain ⟨_, _, hfree, rfl⟩ := step
        exact ⟨hfree, rfl⟩
    | _ => cases takes
  given := by
    intro events driver event next actor run step gives
    cases event with
    | unlock reader =>
        cases gives
        obtain ⟨_, _, hmeasured, rfl⟩ := step
        refine ⟨((run_consistent run).held actor).mp ?_, rfl⟩
        rw [hmeasured]
        rfl
    | _ => cases gives
  kept := by
    intro events driver event next run step takes gives
    cases event with
    | bind result =>
        obtain ⟨_, hquiet, _, rfl⟩ := step
        exact ((run_consistent run).free hquiet).symm
    | unbind =>
        obtain ⟨_, _, rfl⟩ := step
        rfl
    | enter reader attr =>
        obtain ⟨_, _, rfl⟩ := step
        rfl
    | lock reader => cases takes
    | transfer reader read =>
        obtain ⟨_, _, _, _, _, rfl⟩ := step
        rfl
    | unlock reader => cases gives
    | leave reader result =>
        obtain ⟨_, _, _, _, rfl⟩ := step
        rfl
  guarded := by
    intro events driver event next actor run step inside
    cases event with
    | transfer reader read =>
        cases inside
        obtain ⟨_, _, hlocked, _, _, rfl⟩ := step
        apply ((run_consistent run).held actor).mp
        rw [hlocked]
        rfl
    | _ => cases inside

/-- From a reader's `mutex_lock` to its `mutex_unlock` nobody else locks or
reads a burst. -/
theorem burst_exclusive {first middle : List DriverEvent} {reader : Nat}
    {driver : Driver}
    (run : driverSystem.Run (first ++ .lock reader :: middle) driver)
    (locked : .unlock reader ∉ middle) {event : DriverEvent}
    (member : event ∈ middle) :
    (∀ other, event ≠ .lock other) ∧
      ∀ other read, event = .transfer other read → other = reader := by
  have hkeeps : ∀ event ∈ middle, driverMutex.gives event ≠ some reader := by
    intro event hevent
    cases event with
    | unlock other =>
        intro hgives
        cases hgives
        exact locked hevent
    | _ => simp [driverMutex]
  refine ⟨?_, ?_⟩
  · rintro other rfl
    have htakes :=
      (@Mutex.exclusive _ _ _ _ driverMutex _ _ _ _ reader _ rfl hkeeps run _
        member).1
    cases htakes
  · rintro other read rfl
    exact (driverMutex.exclusive rfl hkeeps run member).2 rfl

theorem burst_exclusive_sheet :
    let burst := (bmp280Probe sheetBus).2.sampled
    ∀ other read, (DriverEvent.transfer 0 burst) = .transfer other read →
      other = 0 := by
  intro burst
  have hrun : driverSystem.Run
      ([.bind (.ok sheetCalib), .enter 0 .pressure] ++
        .lock 0 :: [.transfer 0 burst])
      (Driver.sampling sheetBus sheetCalib .pressure) :=
    sampling_run .pressure sheetBus_probes
  exact (burst_exclusive hrun (by simp) List.mem_cons_self).2

/-! Readers get out again. -/

/-- The steps that are left until the reader has left. -/
def Reader.remaining : Reader → Nat
  | .outside => 0
  | .waiting _ => 4
  | .locked _ => 3
  | .measured _ _ => 2
  | .leaving _ _ => 1

/-- The driver stays bound while a reader is inside. -/
theorem run_bound {events : List DriverEvent} {driver : Driver}
    (run : driverSystem.Run events driver) {reader : Nat}
    (entered : driver.readers reader ≠ .outside) : driver.bound ≠ none := by
  induction run with
  | start initial => exact absurd (initial.2.2 reader) entered
  | @extend events driver next event _ step induction =>
      by_cases mine : event.reader = some reader
      · cases event with
        | bind result => cases mine
        | unbind => cases mine
        | enter actor attr =>
            obtain ⟨hbound, _, rfl⟩ := step
            exact hbound
        | lock actor =>
            cases mine
            obtain ⟨_, hwaiting, _, rfl⟩ := step
            exact induction (by simp [hwaiting])
        | transfer actor read =>
            obtain ⟨_, _, _, hbound, _, rfl⟩ := step
            change driver.bound ≠ none
            simp [hbound]
        | unlock actor =>
            cases mine
            obtain ⟨_, _, hmeasured, rfl⟩ := step
            exact induction (by simp [hmeasured])
        | leave actor result =>
            cases mine
            obtain ⟨_, _, _, _, rfl⟩ := step
            rw [place_readers, if_pos rfl] at entered
            exact absurd rfl entered
      · obtain ⟨hreaders, hbound | houtside⟩ := step_frame mine step
        · rw [hreaders] at entered
          rw [hbound]
          exact induction entered
        · rw [hreaders, houtside] at entered
          exact absurd rfl entered

/-- A step of a reader that brings it nearer to leaving. -/
def Advances (driver : Driver) (reader : Nat) : Prop :=
  ∃ event next, event.reader = some reader ∧
    driverSystem.step driver event next ∧
    (next.readers reader).remaining + 1 = (driver.readers reader).remaining

theorem inside_advances {driver : Driver} {reader : Nat}
    (bound : driver.bound ≠ none)
    (inside : (driver.readers reader).inside = true) :
    Advances driver reader := by
  cases hphase : driver.readers reader with
  | locked attr =>
      obtain ⟨calib, hcalib⟩ := Option.ne_none_iff_exists'.mp bound
      refine ⟨.transfer reader _, _, rfl,
        ⟨attr, calib, hphase, hcalib, rfl, rfl⟩, ?_⟩
      rw [hphase]
      simp [Driver.place, Reader.remaining]
  | measured attr outcome =>
      refine ⟨.unlock reader, _, rfl, ⟨attr, outcome, hphase, rfl⟩, ?_⟩
      rw [hphase]
      simp [Driver.place, Reader.remaining]
  | outside =>
      rw [hphase] at inside
      cases inside
  | waiting attr =>
      rw [hphase] at inside
      cases inside
  | leaving attr outcome =>
      rw [hphase] at inside
      cases inside

/-- While a reader is in an attribute, it or the holder of the lock can go
on. -/
theorem reader_advances {events : List DriverEvent} {driver : Driver}
    (run : driverSystem.Run events driver) {reader : Nat}
    (entered : driver.readers reader ≠ .outside) :
    Advances driver reader ∨
      ∃ holder, driver.holder = some holder ∧ Advances driver holder := by
  have hbound := run_bound run entered
  cases hphase : driver.readers reader with
  | outside => exact absurd hphase entered
  | waiting attr =>
      cases hholder : driver.holder with
      | none =>
          refine Or.inl ⟨.lock reader, _, rfl,
            ⟨attr, hphase, hholder, rfl⟩, ?_⟩
          rw [hphase]
          simp [Driver.place, Reader.remaining]
      | some holder =>
          have hinside := ((run_consistent run).held holder).mpr hholder
          exact Or.inr ⟨holder, rfl, inside_advances hbound hinside⟩
  | locked attr =>
      exact Or.inl (inside_advances hbound (by rw [hphase]; rfl))
  | measured attr outcome =>
      exact Or.inl (inside_advances hbound (by rw [hphase]; rfl))
  | leaving attr outcome =>
      refine Or.inl ⟨.leave reader _, _, rfl,
        ⟨attr, outcome, hphase, rfl, rfl⟩, ?_⟩
      rw [hphase]
      simp [Driver.place, Reader.remaining]

theorem reader_advances_sheet :
    let driver := Driver.entered sheetBus sheetCalib .pressure
    Advances driver 0 ∨
      ∃ holder, driver.holder = some holder ∧ Advances driver holder := by
  intro driver
  have hentered : driver.readers 0 ≠ .outside := by
    simp [driver, Driver.entered, Driver.place]
  exact reader_advances (entered_run .pressure sheetBus_probes) hentered

end EmbeddedPortfolio.Sensor
