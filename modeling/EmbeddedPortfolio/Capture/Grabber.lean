import EmbeddedPortfolio.Capture.Resources
import EmbeddedPortfolio.Program.Loops

namespace EmbeddedPortfolio.Capture

open EmbeddedPortfolio.Program

/-! The `zcv4l2` program: one capture object, the loop that takes frames from
it, and the file they may be copied to. -/

structure Settings where
  cfg : Config
  framesToGrab : Int
  rawOut : Option String
deriving DecidableEq, Repr

/-- A `write` of a frame, with the count that it returned. -/
structure RawWrite where
  data : Nat
  bytes : UInt32
  count : Int
deriving DecidableEq, Repr

/-- The descriptor of the file has a ledger of its own. -/
structure Process where
  world : World
  outFd : Int
  outLedger : Ledger Int
  openReply : Except Errno Nat
  writeReplies : List Int
  written : List RawWrite
  grabbed : Int

abbrev ProcessM (Value : Type) : Type :=
  Exceptional Process SystemError Value

def cap : Exceptional.Part Process World where
  get := Process.world
  put world process := { process with world }

def openRaw (rawOut : Option String) : ProcessM Bool :=
  match rawOut with
  | none => pure true
  | some _ => Exceptional.call fun process =>
      match process.openReply with
      | .ok fd =>
          (true, { process with
            outFd := fd, outLedger := process.outLedger.acquire (fd : Int) })
      | .error _ => (false, { process with outFd := -1 })

def closeRaw : ProcessM Unit :=
  Exceptional.update fun process =>
    if process.outFd = -1 then process
    else { process with outLedger := process.outLedger.release process.outFd }

/-- A short `write` is reported and nothing else. -/
def Process.write (frame : Frame) (process : Process) : Process :=
  if ¬ frame.hadError ∧ process.outFd ≠ -1 then
    { process with
      written := process.written ++
        [⟨frame.data, frame.bytes, process.writeReplies.headD (-1)⟩]
      writeReplies := process.writeReplies.tail }
  else process

def writeRaw (frame : Frame) : ProcessM Unit :=
  Exceptional.update (Process.write frame)

/-- One turn of the loop; a timeout ends it without a frame. -/
def grabTurn : ProcessM Unit := do
  let frame ← Exceptional.within cap next
  match frame with
  | none => pure ()
  | some frame => do
      writeRaw frame
      Exceptional.within cap (release frame)
      Exceptional.update fun process =>
        { process with grabbed := process.grabbed + 1 }

/-- The loop is left on a signal, or with as many frames as were asked for. -/
def leaves (framesToGrab : Int) (stopped : Bool) (process : Process) : Bool :=
  stopped ∨ ¬ (framesToGrab ≤ 0 ∨ process.grabbed < framesToGrab)

def grabLoop (framesToGrab : Int) (signals : List Bool) : ProcessM Unit :=
  Exceptional.whilePolling (leaves framesToGrab) grabTurn signals

def nowMs : ProcessM ℚ :=
  Exceptional.within cap (service Kernel.clock)

def prepare : ProcessM Unit := do
  Exceptional.within cap openDevice
  Exceptional.within cap start
  let _ ← nowMs
  pure ()

/-- The body of the `try`. -/
def session (framesToGrab : Int) (signals : List Bool) : ProcessM Unit := do
  prepare
  grabLoop framesToGrab signals
  let _ ← nowMs
  Exceptional.within cap stop

/-- `main` after its arguments, and the exit status.  A throw destroys the
capture object before the handler runs. -/
def main (settings : Settings) (signals : List Bool) : ProcessM Nat := do
  let opened ← openRaw settings.rawOut
  if ¬ opened then pure 1
  else do
    let outcome ← Exceptional.attempt (session settings.framesToGrab signals)
    match outcome with
    | .ok () => do
        closeRaw
        Exceptional.within cap destruct
        pure 0
    | .error _ => do
        Exceptional.within cap destruct
        closeRaw
        pure 1

def launch (cfg : Config) (script : List Reply) (openReply : Except Errno Nat)
    (writeReplies : List Int) : Process where
  world := construct cfg script
  outFd := -1
  outLedger := Ledger.empty
  openReply := openReply
  writeReplies := writeReplies
  written := []
  grabbed := 0

/-! The descriptor of the file. -/

def Process.outOwned (process : Process) : List Int :=
  if process.outFd = -1 then [] else [process.outFd]

/-- The process owes exactly what its capture object and its file hold. -/
def Covered (process : Process) : Prop :=
  Accounted process.world ∧ process.outLedger.Owes process.outOwned

theorem within_covered {Value : Type} {program : CaptureM Value}
    (preserves : Exceptional.Preserves Accounted program) :
    Exceptional.Preserves Covered (Exceptional.within cap program) := by
  apply Exceptional.Triple.within
  intro process covered
  apply preserves.weaken
  · rintro world rfl
    exact covered.1
  · intro _ world accounted
    exact ⟨accounted, covered.2⟩
  · intro _ world accounted
    exact ⟨accounted, covered.2⟩

theorem writeRaw_covered (frame : Frame) :
    Exceptional.Preserves Covered (writeRaw frame) := by
  apply Exceptional.Triple.update
  intro process covered
  unfold Process.write
  split
  · exact ⟨covered.1, covered.2⟩
  · exact covered

theorem release_accounted (frame : Frame) :
    Exceptional.Preserves Accounted (release frame) :=
  accounted_preserves (queueBuffer_sameResources frame.index)

theorem grabTurn_covered : Exceptional.Preserves Covered grabTurn := by
  apply Exceptional.Preserves.bind
    (within_covered (accounted_preserves next_sameResources))
  intro frame
  cases frame with
  | none => exact Exceptional.Preserves.pure ()
  | some frame =>
      apply Exceptional.Preserves.bind (writeRaw_covered frame)
      intro _
      apply Exceptional.Preserves.bind
        (within_covered (release_accounted frame))
      intro _
      apply Exceptional.Triple.update
      intro process covered
      exact ⟨covered.1, covered.2⟩

theorem grabLoop_covered (framesToGrab : Int) (signals : List Bool) :
    Exceptional.Preserves Covered (grabLoop framesToGrab signals) := by
  apply Exceptional.Triple.whilePolling
  intro stopped
  apply grabTurn_covered.weaken
  · exact fun _ holds => holds.1
  · exact fun _ _ covered => covered
  · exact fun _ _ covered => covered

theorem nowMs_covered : Exceptional.Preserves Covered nowMs :=
  within_covered
    (accounted_preserves (service_sameResources Kernel.clock_ledger))

/-- The process before the device is opened. -/
structure Launched (process : Process) : Prop where
  covered : Covered process
  closed : Closed process.world

theorem openDevice_covered :
    Exceptional.Triple Launched (Exceptional.within cap openDevice)
      (fun _ => Covered) (fun _ => Covered) := by
  apply Exceptional.Triple.within
  intro process launched
  apply openDevice_triple.weaken
  · rintro world rfl
    exact ⟨launched.covered.1, launched.closed⟩
  · intro _ world accounted
    exact ⟨accounted, launched.covered.2⟩
  · intro _ world accounted
    exact ⟨accounted, launched.covered.2⟩

theorem prepare_covered :
    Exceptional.Triple Launched prepare (fun _ => Covered)
      (fun _ => Covered) := by
  apply Exceptional.Triple.bind _ openDevice_covered
  intro _
  apply Exceptional.Preserves.bind
    (within_covered (accounted_preserves start_sameResources))
  intro _
  apply Exceptional.Preserves.bind nowMs_covered
  intro _
  exact Exceptional.Preserves.pure ()

theorem session_covered (framesToGrab : Int) (signals : List Bool) :
    Exceptional.Triple Launched (session framesToGrab signals)
      (fun _ => Covered) (fun _ => Covered) := by
  apply Exceptional.Triple.bind _ prepare_covered
  intro _
  apply Exceptional.Preserves.bind (grabLoop_covered framesToGrab signals)
  intro _
  apply Exceptional.Preserves.bind nowMs_covered
  intro _
  exact within_covered (accounted_preserves stop_sameResources)

/-! Both ways out of the `try` settle both ledgers. -/

def FileClosed (process : Process) : Prop :=
  process.outLedger.Owes []

theorem closeRaw_closes {world : World → Prop}
    {thrown : SystemError → Process → Prop} :
    Exceptional.Triple
      (fun process => world process.world ∧
        process.outLedger.Owes process.outOwned)
      closeRaw (fun _ process => world process.world ∧ FileClosed process)
      thrown := by
  apply Exceptional.Triple.update
  rintro process ⟨hworld, owes⟩
  unfold Process.outOwned at owes
  split
  · next hclosed =>
      rw [if_pos hclosed] at owes
      exact ⟨hworld, owes⟩
  · next hopen =>
      rw [if_neg hopen] at owes
      exact ⟨hworld, owes.release_head⟩

theorem destruct_returns (world : World) :
    ∃ value, (destruct world).1 = .ok value :=
  ⟨(), rfl⟩

theorem within_destruct {file : Process → Prop}
    {thrown : SystemError → Process → Prop}
    (stable : ∀ world process, file process → file (cap.put world process)) :
    Exceptional.Triple
      (fun process => Accounted process.world ∧ file process)
      (Exceptional.within cap destruct)
      (fun _ process => Settled process.world ∧ file process) thrown := by
  apply Exceptional.Triple.within
  rintro process ⟨accounted, hfile⟩
  apply (destruct_settles.never_throws destruct_returns).weaken
  · rintro world rfl
    exact accounted
  · intro _ world settled
    exact ⟨settled, stable world process hfile⟩
  · intro _ _ impossible
    exact impossible

def Released (process : Process) : Prop :=
  Settled process.world ∧ FileClosed process

theorem Launched.released {process : Process} (launched : Launched process)
    (unopened : process.outFd = -1) : Released process := by
  obtain ⟨hfd, hslots⟩ := launched.closed
  have hworld := launched.covered.1
  have hfile := launched.covered.2
  simp only [Accounted, V4L2Capture.owned, hfd, hslots] at hworld
  simp only [Process.outOwned, unopened] at hfile
  exact ⟨⟨launched.closed, hworld⟩, hfile⟩

theorem openRaw_launched (rawOut : Option String) :
    Exceptional.Triple
      (fun process => Launched process ∧ process.outFd = -1)
      (openRaw rawOut)
      (fun opened process => Launched process ∧
        (opened = false → process.outFd = -1))
      (fun _ => Released) := by
  cases rawOut with
  | none =>
      apply Exceptional.Triple.pure
      rintro process ⟨launched, _⟩
      exact ⟨launched, fun impossible => Bool.noConfusion impossible⟩
  | some path =>
      apply Exceptional.Triple.call
      rintro process ⟨launched, unopened⟩
      have howes := launched.covered.2
      unfold Process.outOwned at howes
      rw [if_pos unopened] at howes
      cases process.openReply with
      | ok fd =>
          have hfresh : (fd : Int) ∉ process.outLedger.live := by
            rw [howes.mem_live]
            exact List.not_mem_nil
          refine ⟨⟨⟨launched.covered.1, ?_⟩, launched.closed⟩,
            fun impossible => Bool.noConfusion impossible⟩
          unfold Process.outOwned
          rw [if_neg (by simp)]
          exact howes.acquire hfresh
      | error code =>
          exact ⟨⟨⟨launched.covered.1, howes⟩, launched.closed⟩,
            fun _ => rfl⟩

theorem main_released (settings : Settings) (signals : List Bool) :
    Exceptional.Triple
      (fun process => Launched process ∧ process.outFd = -1)
      (main settings signals) (fun _ => Released) (fun _ => Released) := by
  apply Exceptional.Triple.bind _ (openRaw_launched settings.rawOut)
  intro opened
  apply Exceptional.Triple.ite
  · intro hopened
    apply Exceptional.Triple.pure
    rintro process ⟨launched, unopened⟩
    exact launched.released (unopened (Bool.not_eq_true _ ▸ hopened))
  · intro _
    apply Exceptional.Triple.bind fun _ => Covered
    · apply ((session_covered settings.framesToGrab signals).attempt).weaken
      · exact fun _ holds => holds.1
      · intro outcome process covered
        cases outcome with
        | ok _ => exact covered
        | error _ => exact covered
      · intro _ _ impossible
        exact impossible.elim
    intro outcome
    cases outcome with
    | ok _ =>
        apply Exceptional.Triple.bind _ (@closeRaw_closes Accounted _)
        intro _
        apply Exceptional.Triple.bind _
          (@within_destruct FileClosed _ fun _ _ closed => closed)
        intro _
        exact Exceptional.Triple.pure fun _ released => released
    | error _ =>
        apply Exceptional.Triple.bind _ (@within_destruct
          (fun process => process.outLedger.Owes process.outOwned) _
          fun _ _ owes => owes)
        intro _
        apply Exceptional.Triple.bind _ (@closeRaw_closes Settled _)
        intro _
        exact Exceptional.Triple.pure fun _ released => released

theorem launch_launched (cfg : Config) (script : List Reply)
    (openReply : Except Errno Nat) (writeReplies : List Int) :
    Launched (launch cfg script openReply writeReplies) where
  covered := ⟨Ledger.owes_empty, Ledger.owes_empty⟩
  closed := ⟨rfl, rfl⟩

/-- Whatever fails, and whenever the signal comes, the program has released
each descriptor and each mapping once when it exits. -/
theorem main_settles (settings : Settings) (signals : List Bool)
    (script : List Reply) (openReply : Except Errno Nat)
    (writeReplies : List Int) :
    let final := (main settings signals
      (launch settings.cfg script openReply writeReplies)).2
    (∀ acquisition ∈ final.world.kernel.ledger.acquisitions,
        acquisition.releases = 1) ∧
      final.world.kernel.ledger.strays = 0 ∧
      (∀ acquisition ∈ final.outLedger.acquisitions,
        acquisition.releases = 1) ∧
      final.outLedger.strays = 0 := by
  intro final
  have hlaunched :=
    launch_launched settings.cfg script openReply writeReplies
  obtain ⟨⟨_, hworld⟩, hfile⟩ : Released final :=
    (main_released settings signals).final ⟨hlaunched, rfl⟩
  refine ⟨?_, hworld.noStrays, ?_, hfile.noStrays⟩
  · intro acquisition member
    exact hworld.settled member
  · intro acquisition member
    exact hfile.settled member

end EmbeddedPortfolio.Capture
