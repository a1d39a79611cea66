import EmbeddedPortfolio.Capture.Grabber
import EmbeddedPortfolio.Capture.Restart

namespace EmbeddedPortfolio.Capture

open EmbeddedPortfolio.Program
open EmbeddedPortfolio.Transition

/-! What the loop of `zcv4l2` leaves in its file and its statistics, and where
the buffers are, over every run of its turns. -/

/-- The capture object after a frame. -/
def V4L2Capture.taking (buf : DriverBuffer) (nowMs : ℚ)
    (capture : V4L2Capture) : V4L2Capture :=
  noteFrame buf nowMs
    (noteGap buf { capture with stats := noteError buf capture.stats })

structure Tallied (before : V4L2Capture) (frame : Frame)
    (after : V4L2Capture) : Prop where
  captured : after.stats.framesCaptured = before.stats.framesCaptured + 1
  errored : after.stats.framesErrored =
    before.stats.framesErrored + if frame.hadError then 1 else 0
  bytes : after.stats.bytesCaptured =
    before.stats.bytesCaptured + frame.bytes.toUInt64
  latency : after.latencyAccumMs =
    before.latencyAccumMs + after.stats.lastLatencyMs
  average : after.stats.avgLatencyMs =
    after.latencyAccumMs / after.stats.framesCaptured.toNat
  bufferCount : after.cfg.bufferCount = before.cfg.bufferCount

theorem taking_tallied (buf : DriverBuffer) (nowMs : ℚ)
    (capture : V4L2Capture) :
    Tallied capture (frameOf buf (capture.taking buf nowMs))
      (capture.taking buf nowMs) := by
  by_cases herror : buf.flags &&& bufFlagError ≠ 0
  · constructor <;>
      simp [V4L2Capture.taking, noteFrame, noteGap, noteError, frameOf, herror]
  · constructor <;>
      simp [V4L2Capture.taking, noteFrame, noteGap, noteError, frameOf, herror]

/-! Facts about the capture object that a call leaves alone. -/

section Facts

variable {fact : V4L2Capture → Prop}

theorem xioctl_fact {Value : Type} (request : Kernel.Request Value)
    (what : String) :
    Exceptional.Preserves (fun world => fact world.capture)
      (xioctl request what) := by
  apply Triple.xioctl
  · intro world _ _ _ _ holds _ _ _
    exact holds
  · intro world _ _ holds _ _ _
    exact holds

theorem service_fact {Value : Type} (run : Kernel → Value × Kernel) :
    Exceptional.Preserves (fun world => fact world.capture) (service run) :=
  Exceptional.Triple.call fun _ holds => holds

theorem onCapture_fact {change : V4L2Capture → V4L2Capture}
    (stable : ∀ capture, fact capture → fact (change capture)) :
    Exceptional.Preserves (fun world => fact world.capture)
      (onCapture change) :=
  Exceptional.Triple.update fun world holds => stable world.capture holds

theorem queueAll_fact :
    Exceptional.Preserves (fun world => fact world.capture) queueAll := by
  apply Exceptional.Preserves.bind (observe_preserves _ _)
  intro indices
  exact Exceptional.Preserves.forEach (fun _ => xioctl_fact _ _) indices

theorem mapBuffers_fact
    (stable : ∀ capture slots, fact capture → fact { capture with slots }) :
    Exceptional.Preserves (fun world => fact world.capture) mapBuffers := by
  apply Exceptional.Preserves.bind (observe_preserves _ _)
  intro indices
  apply Exceptional.Preserves.forEach
  intro index
  apply Exceptional.Preserves.bind (xioctl_fact _ _)
  intro length
  apply Exceptional.Preserves.bind
  · apply Exceptional.Preserves.bind (observe_preserves _ _)
    intro fd
    apply Exceptional.Preserves.bind (service_fact _)
    intro answer
    apply Exceptional.Preserves.bind (orThrow_preserves _ _ answer)
    intro start
    exact onCapture_fact fun capture holds => stable capture _ holds
  intro _
  apply Exceptional.Preserves.bind (observe_preserves _ _)
  intro exportDmabuf
  apply Exceptional.Triple.ite
  · intro _
    apply Exceptional.Preserves.bind (xioctl_fact _ _)
    intro fd
    exact onCapture_fact fun capture holds => stable capture _ holds
  · intro _
    exact Exceptional.Preserves.pure ()

end Facts

/-- Nothing has been captured yet. -/
def Fresh (capture : V4L2Capture) : Prop :=
  capture.stats = {} ∧ capture.latencyAccumMs = 0

theorem statDevice_fresh :
    Exceptional.Preserves (fun world => Fresh world.capture) statDevice := by
  apply Exceptional.Preserves.bind (observe_preserves _ _)
  intro device
  apply Exceptional.Preserves.bind (service_fact _)
  intro answer
  apply Exceptional.Preserves.bind (orThrow_preserves _ _ answer)
  intro isCharDevice
  apply Exceptional.Triple.ite
  · intro _
    exact Exceptional.Preserves.pure ()
  · intro _
    exact Exceptional.Preserves.fail _

theorem openFile_fresh :
    Exceptional.Preserves (fun world => Fresh world.capture) openFile := by
  apply Exceptional.Preserves.bind (observe_preserves _ _)
  intro device
  apply Exceptional.Preserves.bind (service_fact _)
  intro answer
  apply Exceptional.Preserves.bind
  · exact onCapture_fact fun _ holds => holds
  intro _
  apply Exceptional.Preserves.bind (orThrow_preserves _ _ answer)
  intro _
  exact Exceptional.Preserves.pure ()

theorem queryCaps_fresh :
    Exceptional.Preserves (fun world => Fresh world.capture) queryCaps := by
  apply Exceptional.Preserves.bind (xioctl_fact _ _)
  intro capabilities
  apply Exceptional.Triple.ite
  · intro _
    exact Exceptional.Preserves.fail _
  · intro _
    apply Exceptional.Triple.ite
    · intro _
      exact Exceptional.Preserves.fail _
    · intro _
      exact Exceptional.Preserves.pure ()

theorem setFormat_fresh :
    Exceptional.Preserves (fun world => Fresh world.capture) setFormat :=
  Exceptional.Preserves.bind (xioctl_fact _ _) fun _ =>
    onCapture_fact fun _ holds => holds

theorem requestBuffers_granted :
    Exceptional.Triple (fun world => Fresh world.capture) requestBuffers
      (fun _ world => Fresh world.capture ∧
        2 ≤ world.capture.cfg.bufferCount)
      (fun _ _ => True) := by
  apply Exceptional.Triple.bind fun _ world => Fresh world.capture
  · exact Exceptional.Triple.observe fun _ fresh => fresh
  intro io
  apply Exceptional.Triple.bind fun _ world => Fresh world.capture
  · exact (xioctl_fact _ _).triple
  intro count
  apply Exceptional.Triple.ite
  · intro _
    exact Exceptional.Triple.fail fun _ _ => True.intro
  · intro enough
    apply Exceptional.Triple.update
    intro world fresh
    exact ⟨fresh, UInt32.not_lt.mp enough⟩

/-- The object after `open`: nothing captured, and more than one buffer. -/
def Opened (capture : V4L2Capture) : Prop :=
  Fresh capture ∧ 2 ≤ capture.cfg.bufferCount

theorem openDevice_opened :
    Exceptional.Triple (fun world => Fresh world.capture) openDevice
      (fun _ world => Opened world.capture) (fun _ _ => True) := by
  apply Exceptional.Triple.bind _ statDevice_fresh.triple
  intro _
  apply Exceptional.Triple.bind _ openFile_fresh.triple
  intro _
  apply Exceptional.Triple.bind _ queryCaps_fresh.triple
  intro _
  apply Exceptional.Triple.bind _ setFormat_fresh.triple
  intro _
  apply Exceptional.Triple.bind _ requestBuffers_granted
  intro _
  apply Exceptional.Triple.bind fun _ world => Opened world.capture
  · exact (@mapBuffers_fact Opened fun _ _ holds => holds).triple
  intro _
  exact queueAll_fact.triple

/-! One turn of the loop. -/

theorem deliver_tallied (capture : V4L2Capture) (buf : DriverBuffer) :
    Exceptional.Triple (fun world => world.capture = capture) (deliver buf)
      (fun result world => ∃ frame, result = some frame ∧
        Tallied capture frame world.capture)
      (fun _ _ => False) := by
  rintro world rfl
  exact ⟨_, rfl, taking_tallied buf (Kernel.clock world.kernel).1 _⟩

theorem dequeue_tallied (capture : V4L2Capture) :
    Exceptional.Triple (fun world => world.capture = capture) dequeue
      (fun result world => match result with
        | none => world.capture = capture
        | some frame => Tallied capture frame world.capture)
      (fun _ _ => True) := by
  apply Exceptional.Triple.bind fun _ world => world.capture = capture
  · exact (observe_preserves _ _).triple
  intro fd
  apply Exceptional.Triple.bind fun _ world => world.capture = capture
  · exact (@service_fact (· = capture) _ _).triple
  intro answer
  split
  · exact Exceptional.Triple.pure fun _ holds => holds
  · exact Exceptional.Triple.fail fun _ _ => True.intro
  · apply (deliver_tallied capture _).weaken
    · exact fun _ holds => holds
    · rintro _ world ⟨frame, rfl, tallied⟩
      exact tallied
    · exact fun _ _ impossible => impossible.elim

theorem next_tallied (capture : V4L2Capture) :
    Exceptional.Triple (fun world => world.capture = capture) next
      (fun result world => match result with
        | none => world.capture = capture
        | some frame => Tallied capture frame world.capture)
      (fun _ _ => True) := by
  apply Exceptional.Triple.bind fun _ world => world.capture = capture
  · exact (@service_fact (· = capture) _ _).triple
  intro answer
  apply Exceptional.Triple.bind fun _ world => world.capture = capture
  · exact (orThrow_preserves _ _ answer).triple
  intro polled
  apply Exceptional.Triple.ite
  · intro _
    exact Exceptional.Triple.pure fun _ holds => holds
  · intro _
    apply Exceptional.Triple.ite
    · intro _
      exact Exceptional.Triple.fail fun _ _ => True.intro
    · intro _
      exact dequeue_tallied capture

/-- The frame that the turn starting here takes. -/
def Process.takes (process : Process) : Option Frame :=
  match (next process.world).1 with
  | .ok frame => frame
  | .error _ => none

theorem within_cap_ok {Value : Type} {program : CaptureM Value}
    {process final : Process} {value : Value}
    (returned : Exceptional.within cap program process = (.ok value, final)) :
    ∃ world, program process.world = (.ok value, world) ∧
      final = { process with world } := by
  obtain ⟨hvalue, hfinal⟩ := Prod.ext_iff.mp returned
  exact ⟨(program process.world).2, Prod.ext hvalue rfl, hfinal.symm⟩

theorem write_put (frame : Frame) (world : World) (process : Process) :
    ({ process with world }).write frame =
      { process.write frame with world } := by
  unfold Process.write
  split <;> rfl

/-- A turn that returns either took no frame, or took one, copied it and gave
it back. -/
theorem grabTurn_cases {process later : Process}
    (returned : grabTurn process = (.ok (), later)) :
    (∃ world, next process.world = (.ok none, world) ∧
        later = { process with world }) ∨
      ∃ frame taken given,
        next process.world = (.ok (some frame), taken) ∧
        release frame taken = (.ok (), given) ∧
        later = { process.write frame with
          world := given
          grabbed := (process.write frame).grabbed + 1 } := by
  obtain ⟨frame, _, hnext, hrest⟩ := Exceptional.bind_ok returned
  obtain ⟨taken, htaken, rfl⟩ := within_cap_ok hnext
  cases frame with
  | none =>
      cases hrest
      exact Or.inl ⟨taken, htaken, rfl⟩
  | some frame =>
      obtain ⟨_, _, hwrite, hrest⟩ := Exceptional.bind_ok hrest
      obtain ⟨_, _, hrelease, hrest⟩ := Exceptional.bind_ok hrest
      obtain ⟨given, hgiven, rfl⟩ := within_cap_ok hrelease
      cases hwrite
      cases hrest
      rw [write_put] at hgiven ⊢
      exact Or.inr ⟨frame, taken, given, htaken, hgiven, rfl⟩

/-! Runs of the loop. -/

def grabSystem (ready : Process) (framesToGrab : Int) :
    System Process Process :=
  Exceptional.turns (fun process => process = ready) (leaves framesToGrab)
    grabTurn

def taken (turns : List Process) : List Frame :=
  turns.filterMap Process.takes

/-- The latency that a turn with a frame adds. -/
def Process.latencyMs (process : Process) : Option ℚ :=
  process.takes.map fun _ =>
    (next process.world).2.capture.stats.lastLatencyMs

/-- The frames that are copied to the file. -/
def copied (process : Process) (frames : List Frame) : List (Nat × UInt32) :=
  if process.outFd = -1 then []
  else (frames.filter fun frame => !frame.hadError).map fun frame =>
    (frame.data, frame.bytes)

def RawWrite.source (write : RawWrite) : Nat × UInt32 :=
  (write.data, write.bytes)

theorem copied_append (process : Process) (first second : List Frame) :
    copied process (first ++ second) =
      copied process first ++ copied process second := by
  unfold copied
  split
  · rfl
  · rw [List.filter_append, List.map_append]

/-- What a turn adds to the file. -/
theorem write_copied (process : Process) (frame : Frame) :
    (process.write frame).written.map RawWrite.source =
      process.written.map RawWrite.source ++ copied process [frame] := by
  by_cases hclosed : process.outFd = -1
  · simp [Process.write, copied, hclosed]
  · cases herror : frame.hadError with
    | true => simp [Process.write, copied, herror]
    | false => simp [Process.write, copied, herror, hclosed, RawWrite.source]

theorem write_outFd (process : Process) (frame : Frame) :
    (process.write frame).outFd = process.outFd := by
  unfold Process.write
  split <;> rfl

theorem write_grabbed (process : Process) (frame : Frame) :
    (process.write frame).grabbed = process.grabbed := by
  unfold Process.write
  split <;> rfl

structure Account (turns : List Process) (process : Process) : Prop where
  grabbed : process.grabbed = (taken turns).length
  written : process.written.map RawWrite.source =
    copied process (taken turns)
  captured : process.world.capture.stats.framesCaptured =
    UInt64.ofNat (taken turns).length
  errored : process.world.capture.stats.framesErrored =
    UInt64.ofNat ((taken turns).countP Frame.hadError)
  bytes : process.world.capture.stats.bytesCaptured =
    UInt64.ofNat (((taken turns).map fun frame => frame.bytes.toNat).sum)
  latency : process.world.capture.latencyAccumMs =
    (turns.filterMap Process.latencyMs).sum
  average : process.world.capture.stats.avgLatencyMs =
    process.world.capture.latencyAccumMs /
      process.world.capture.stats.framesCaptured.toNat

theorem Account.idle {turns : List Process} {process : Process}
    (account : Account turns process) {world : World}
    (timedOut : next process.world = (.ok none, world)) :
    Account (turns ++ [process]) { process with world } := by
  have hcapture : world.capture = process.world.capture := by
    have htallied := next_tallied process.world.capture process.world rfl
    rwa [timedOut] at htallied
  have htakes : process.takes = none := by
    rw [Process.takes, timedOut]
  have htaken : taken (turns ++ [process]) = taken turns := by
    simp [taken, htakes]
  have hlatency : (turns ++ [process]).filterMap Process.latencyMs =
      turns.filterMap Process.latencyMs := by
    simp [Process.latencyMs, htakes]
  constructor
  · rw [htaken]
    exact account.grabbed
  · rw [htaken]
    exact account.written
  · rw [htaken, hcapture]
    exact account.captured
  · rw [htaken, hcapture]
    exact account.errored
  · rw [htaken, hcapture]
    exact account.bytes
  · rw [hlatency, hcapture]
    exact account.latency
  · rw [hcapture]
    exact account.average

theorem Account.grab {turns : List Process} {process : Process}
    (account : Account turns process) {frame : Frame} {world given : World}
    (took : next process.world = (.ok (some frame), world))
    (released : given.capture = world.capture) :
    Account (turns ++ [process]) { process.write frame with
      world := given
      grabbed := (process.write frame).grabbed + 1 } := by
  have htallied : Tallied process.world.capture frame world.capture := by
    have hnext := next_tallied process.world.capture process.world rfl
    rwa [took] at hnext
  rw [← released] at htallied
  have htakes : process.takes = some frame := by
    rw [Process.takes, took]
  have htaken : taken (turns ++ [process]) = taken turns ++ [frame] := by
    simp [taken, htakes]
  have hlatency : (turns ++ [process]).filterMap Process.latencyMs =
      turns.filterMap Process.latencyMs ++
        [given.capture.stats.lastLatencyMs] := by
    simp [Process.latencyMs, htakes, took, released]
  constructor
  · simp [htaken, write_grabbed, account.grabbed]
  · have hcopied : copied process (taken turns ++ [frame]) =
        process.written.map RawWrite.source ++ copied process [frame] := by
      rw [copied_append, account.written]
    simp only [htaken, write_copied, ← hcopied]
    unfold copied
    rw [write_outFd]
  · simp [htaken, htallied.captured, account.captured]
  · cases herror : frame.hadError with
    | true => simp [htaken, htallied.errored, account.errored, herror]
    | false => simp [htaken, htallied.errored, account.errored, herror]
  · simp [htaken, htallied.bytes, account.bytes]
  · simp [hlatency, htallied.latency, account.latency]
  · exact htallied.average

/-! Where the buffers are. -/

/-- The state at the head of the loop: every buffer is with the driver, and
there are at least two. -/
structure AtHead (framesToGrab : Int) (process : Process) : Prop where
  queued : ∀ index < process.world.capture.cfg.bufferCount.toNat,
    index ∈ process.world.kernel.driver.queued
  buffers : 2 ≤ process.world.capture.cfg.bufferCount
  limited : 0 < framesToGrab → process.grabbed ≤ framesToGrab

theorem next_handed {world later : World} {result : Option Frame}
    (returned : next world = (.ok result, later)) :
    Handed world.capture.cfg.bufferCount world.kernel.driver.queued
      world.kernel.failedIoctls result later := by
  have hhanded := @next_buffers world.capture.cfg.bufferCount
    world.kernel.driver.queued world.kernel.failedIoctls world ⟨rfl, rfl, rfl⟩
  rwa [returned] at hhanded

theorem release_fact {fact : V4L2Capture → Prop} (frame : Frame) :
    Exceptional.Preserves (fun world => fact world.capture) (release frame) :=
  xioctl_fact _ _

theorem release_capture {frame : Frame} {world later : World}
    (returned : release frame world = (.ok (), later)) :
    later.capture = world.capture := by
  have hsame := @release_fact (· = world.capture) frame world rfl
  rwa [returned] at hsame

theorem release_queued {frame : Frame} {world later : World}
    (returned : release frame world = (.ok (), later)) :
    later.kernel.driver.queued =
      world.kernel.driver.queued ++ [frame.index] := by
  have hperform : perform (.release frame) world = (.ok none, later) := by
    simp [perform, bind, returned, pure]
  have hbuffers := @release_buffers world.capture.cfg.bufferCount
    world.kernel.driver.queued world.kernel.failedIoctls frame world
    ⟨rfl, rfl, rfl⟩
  rw [hperform] at hbuffers
  exact hbuffers.queued

theorem AtHead.idle {framesToGrab : Int} {process : Process}
    (head : AtHead framesToGrab process) {world : World}
    (timedOut : next process.world = (.ok none, world)) :
    AtHead framesToGrab { process with world } := by
  obtain ⟨failures, buffers⟩ := next_handed timedOut
  constructor
  · intro index hindex
    simp only [buffers.count] at hindex
    rw [buffers.queued]
    exact head.queued index hindex
  · simp only [buffers.count]
    exact head.buffers
  · exact head.limited

theorem AtHead.grab {framesToGrab : Int} {stopped : Bool} {process : Process}
    (head : AtHead framesToGrab process)
    (stays : leaves framesToGrab stopped process = false) {frame : Frame}
    {world given : World}
    (took : next process.world = (.ok (some frame), world))
    (released : release frame world = (.ok (), given)) :
    AtHead framesToGrab { process.write frame with
      world := given
      grabbed := (process.write frame).grabbed + 1 } := by
  obtain ⟨_, buffers⟩ := next_handed took
  have hcapture := release_capture released
  constructor
  · intro index hindex
    simp only [hcapture, buffers.count] at hindex
    rw [release_queued released, buffers.queued]
    by_cases hsame : index = frame.index
    · simp [hsame]
    · apply List.mem_append_left
      exact (List.mem_erase_of_ne hsame).mpr (head.queued index hindex)
  · simp only [hcapture, buffers.count]
    exact head.buffers
  · intro hlimit
    have hless : framesToGrab ≤ 0 ∨ process.grabbed < framesToGrab := by
      simp only [leaves, decide_eq_false_iff_not] at stays
      exact not_not.mp fun outside => stays (Or.inr outside)
    change (process.write frame).grabbed + 1 ≤ framesToGrab
    rw [write_grabbed]
    omega

/-! The loop over a prepared device. -/

structure Ready (process : Process) : Prop where
  opened : Opened process.world.capture
  queued : Queues [] process.world
  written : process.written = []
  grabbed : process.grabbed = 0

/-- What `prepare` leaves after some launch of the program. -/
def Prepared (settings : Settings) (process : Process) : Prop :=
  ∃ script openReply writeReplies opened,
    openRaw settings.rawOut
        (launch settings.cfg script openReply writeReplies) =
      (.ok true, opened) ∧
    prepare opened = (.ok (), process)

theorem openDevice_ready {world later : World} (fresh : Fresh world.capture)
    (returned : openDevice world = (.ok (), later)) :
    Opened later.capture ∧ Queues [] later := by
  have hperform : perform .openDevice world = (.ok none, later) := by
    simp [perform, bind, returned, pure]
  have hopened := openDevice_opened world fresh
  have hqueues := openDevice_queues world True.intro
  rw [returned] at hopened
  rw [hperform] at hqueues
  exact ⟨hopened, hqueues⟩

theorem start_ready {world later : World}
    (ready : Opened world.capture ∧ Queues [] world)
    (returned : start world = (.ok (), later)) :
    Opened later.capture ∧ Queues [] later := by
  have hperform : perform .start world = (.ok none, later) := by
    simp [perform, bind, returned, pure]
  have hkeeps : Exceptional.Preserves (fun world => Opened world.capture)
      start := by
    apply Exceptional.Preserves.bind (xioctl_fact _ _)
    intro _
    exact onCapture_fact fun _ holds => holds
  have hopened := hkeeps world ready.1
  have hbuffers := @start_buffers world.capture.cfg.bufferCount
    world.kernel.driver.queued world.kernel.failedIoctls world ⟨rfl, rfl, rfl⟩
  rw [returned] at hopened
  rw [hperform] at hbuffers
  refine ⟨hopened, ?_⟩
  intro index hindex
  rw [hbuffers.count] at hindex
  rw [hbuffers.queued]
  exact ready.2 index hindex

theorem clock_ready {world later : World} {time : ℚ}
    (ready : Opened world.capture ∧ Queues [] world)
    (returned : service Kernel.clock world = (.ok time, later)) :
    Opened later.capture ∧ Queues [] later := by
  have hsame := Kernel.reply_same world.kernel
  cases returned
  refine ⟨ready.1, ?_⟩
  intro index hindex
  change index ∈ world.kernel.reply.2.driver.queued ∨ index ∈ []
  rw [hsame.driver]
  exact ready.2 index hindex

theorem prepare_ready {process later : Process}
    (fresh : Fresh process.world.capture)
    (returned : prepare process = (.ok (), later)) :
    (Opened later.world.capture ∧ Queues [] later.world) ∧
      later.written = process.written ∧ later.grabbed = process.grabbed := by
  obtain ⟨_, _, hopen, hstarting⟩ := Exceptional.bind_ok returned
  obtain ⟨opened, hopened, rfl⟩ := within_cap_ok hopen
  obtain ⟨_, _, hstart, htiming⟩ := Exceptional.bind_ok hstarting
  obtain ⟨started, hstarted, rfl⟩ := within_cap_ok hstart
  obtain ⟨_, _, htime, hdone⟩ := Exceptional.bind_ok htiming
  obtain ⟨timed, htimed, rfl⟩ := within_cap_ok htime
  cases hdone
  have hready := start_ready (openDevice_ready fresh hopened) hstarted
  exact ⟨clock_ready hready htimed, rfl, rfl⟩

theorem openRaw_launch {rawOut : Option String} {process opened : Process}
    (returned : openRaw rawOut process = (.ok true, opened)) :
    opened.world = process.world ∧ opened.written = process.written ∧
      opened.grabbed = process.grabbed := by
  cases rawOut with
  | none =>
      cases returned
      exact ⟨rfl, rfl, rfl⟩
  | some path =>
      unfold openRaw Exceptional.call at returned
      cases hreply : process.openReply with
      | error code => simp [hreply] at returned
      | ok fd =>
          simp only [hreply] at returned
          cases returned
          exact ⟨rfl, rfl, rfl⟩

theorem Prepared.ready {settings : Settings} {process : Process}
    (prepared : Prepared settings process) : Ready process := by
  obtain ⟨script, openReply, writeReplies, opened, hopen, hprepare⟩ := prepared
  obtain ⟨hworld, hwritten, hgrabbed⟩ := openRaw_launch hopen
  have hfresh : Fresh opened.world.capture := by
    rw [hworld]
    exact ⟨rfl, rfl⟩
  obtain ⟨⟨hopened, hqueued⟩, hwrites, hgrabs⟩ := prepare_ready hfresh hprepare
  exact ⟨hopened, hqueued, hwrites.trans hwritten, hgrabs.trans hgrabbed⟩

theorem Ready.account {process : Process} (ready : Ready process) :
    Account [] process := by
  obtain ⟨⟨⟨hstats, hlatency⟩, _⟩, _, hwritten, hgrabbed⟩ := ready
  constructor
  · exact hgrabbed
  · rw [hwritten]
    unfold copied taken
    split <;> rfl
  · rw [hstats]
    rfl
  · rw [hstats]
    rfl
  · rw [hstats]
    rfl
  · exact hlatency
  · rw [hstats, hlatency]
    exact (zero_div _).symm

theorem Ready.atHead {process : Process} (ready : Ready process)
    (framesToGrab : Int) : AtHead framesToGrab process where
  queued index hindex :=
    (ready.queued index hindex).resolve_right List.not_mem_nil
  buffers := ready.opened.2
  limited := by
    intro hlimit
    rw [ready.grabbed]
    exact hlimit.le

/-- Over every run of turns the account balances and the driver has its
buffers back. -/
theorem grab_run {ready process : Process} {framesToGrab : Int}
    {turns : List Process} (start : Ready ready)
    (run : (grabSystem ready framesToGrab).Run turns process) :
    Account turns process ∧ AtHead framesToGrab process := by
  induction run with
  | start initial =>
      cases initial
      exact ⟨start.account, start.atHead framesToGrab⟩
  | @extend turns process later event _ step induction =>
      obtain ⟨rfl, ⟨stopped, hstays⟩, hturn⟩ := step
      obtain ⟨account, head⟩ := induction
      rcases grabTurn_cases hturn with
        ⟨world, htimedOut, rfl⟩ | ⟨frame, world, given, htook, hreleased, rfl⟩
      · exact ⟨account.idle htimedOut, head.idle htimedOut⟩
      · exact ⟨account.grab htook (release_capture hreleased),
          head.grab hstays htook hreleased⟩

def twoBufferSettings : Settings :=
  ⟨⟨"/dev/video0", 1280, 720, 0x56595559, 2, .mmap, false⟩, 300,
    some "capture.raw"⟩

/-- The program with its file open, over a device that grants two buffers. -/
def twoBufferProcess (script : List Reply) : Process :=
  { launch twoBufferSettings.cfg (twoBufferDevice script).kernel.script (.ok 9)
      [4096] with
    outFd := 9
    outLedger := Ledger.empty.acquire 9 }

def twoBufferReady (script : List Reply) : Process :=
  (prepare (twoBufferProcess script)).2

theorem twoBufferReady_prepared {script : List Reply}
    (starts : (prepare (twoBufferProcess script)).1 = .ok ()) :
    Prepared twoBufferSettings (twoBufferReady script) := by
  refine ⟨(twoBufferDevice script).kernel.script, .ok 9, [4096],
    twoBufferProcess script, ?_, ?_⟩
  · unfold twoBufferProcess
    rfl
  · unfold twoBufferReady
    exact Exceptional.eq_of_returned starts

def oneFrame : List Reply :=
  [{}, {}, {}, { buffer := ⟨0, 4096, 0, 5, ⟨10, 0⟩⟩ }, { nowMs := 10004 }, {}]

theorem oneFrame_prepared :
    Prepared twoBufferSettings (twoBufferReady oneFrame) :=
  twoBufferReady_prepared (by decide +kernel)

/-- While the program copies a frame, every other buffer is with the driver,
and there is at least one. -/
theorem grabLoop_leaves_buffer {settings : Settings} {ready process : Process}
    (prepared : Prepared settings ready) {turns : List Process}
    (run : (grabSystem ready settings.framesToGrab).Run turns process)
    {frame : Frame} {world : World}
    (took : next process.world = (.ok (some frame), world)) :
    (∀ index < world.capture.cfg.bufferCount.toNat, index ≠ frame.index →
        index ∈ world.kernel.driver.queued) ∧
      ∃ index < world.capture.cfg.bufferCount.toNat, index ≠ frame.index := by
  obtain ⟨_, head⟩ := grab_run prepared.ready run
  obtain ⟨_, buffers⟩ := next_handed took
  have hcount : 2 ≤ world.capture.cfg.bufferCount.toNat := by
    rw [buffers.count]
    exact UInt32.le_iff_toNat_le.mp head.buffers
  refine ⟨?_, ?_⟩
  · intro index hindex hother
    rw [buffers.count] at hindex
    rw [buffers.queued]
    exact (List.mem_erase_of_ne hother).mpr (head.queued index hindex)
  · by_cases hfirst : frame.index = 0
    · exact ⟨1, hcount, by simp [hfirst]⟩
    · exact ⟨0, by omega, Ne.symm hfirst⟩

theorem grabLoop_leaves_buffer_oneFrame :
    let world := (next (twoBufferReady oneFrame).world).2
    (∀ index < world.capture.cfg.bufferCount.toNat, index ≠ 0 →
        index ∈ world.kernel.driver.queued) ∧
      ∃ index < world.capture.cfg.bufferCount.toNat, index ≠ 0 := by
  have hframe : (next (twoBufferReady oneFrame).world).1 =
      .ok (some ⟨65536, 4096, 0, 5, ⟨10, 0⟩, -1, false⟩) := by
    decide +kernel
  have leaves := grabLoop_leaves_buffer oneFrame_prepared (.start rfl)
    (Exceptional.eq_of_returned hframe)
  exact leaves

end EmbeddedPortfolio.Capture
