import EmbeddedPortfolio.Pipeline.Backpressure

namespace EmbeddedPortfolio.Pipeline

open EmbeddedPortfolio.Transition RtspServer

/-! What reaches the appsrc after it has signalled that it has enough.  With
`block=false` it queues every buffer pushed. -/

namespace RtspEvent

/-- The events that open the gate. -/
def opensGate : RtspEvent → Bool
  | .needData => true
  | .feed _ => true
  | _ => false

def popped : RtspEvent → Option EncodedFrame
  | .pop item => some item
  | _ => none

end RtspEvent

/-- From `enough-data` on, before the next `need-data` or media-configure. -/
def Stalled (events : List RtspEvent) : Prop :=
  ∀ event ∈ events, event.opensGate = false

def poppedFrames (events : List RtspEvent) : List EncodedFrame :=
  events.filterMap RtspEvent.popped

def pushCount (events : List RtspEvent) : Nat :=
  events.countP RtspEvent.isPush

def keyframeCount (frames : List EncodedFrame) : Nat :=
  frames.countP EncodedFrame.keyframe

@[simp] theorem poppedFrames_append (first second : List RtspEvent) :
    poppedFrames (first ++ second) =
      poppedFrames first ++ poppedFrames second :=
  List.filterMap_append ..

@[simp] theorem pushCount_append (first second : List RtspEvent) :
    pushCount (first ++ second) = pushCount first + pushCount second :=
  List.countP_append ..

@[simp] theorem keyframeCount_append (first second : List EncodedFrame) :
    keyframeCount (first ++ second) =
      keyframeCount first + keyframeCount second :=
  List.countP_append ..

theorem keyframeCount_singleton (item : EncodedFrame) :
    keyframeCount [item] = if item.keyframe then 1 else 0 := by
  simp [keyframeCount, List.countP_singleton]

/-! No stall lets through more than its keyframes and the frame that was on its
way when it began. -/

section UpperBound

/-- A frame that the closed gate does not keep from the appsrc. -/
def underway : FeederLocation → Nat
  | .gating item => if item.keyframe then 1 else 0
  | .fetching _ => 1
  | .emitting _ _ => 1
  | _ => 0

theorem underway_le_one (feeder : FeederLocation) : underway feeder ≤ 1 := by
  cases feeder with
  | gating item =>
      simp only [underway]
      split <;> omega
  | _ => simp [underway]

structure StallInvariant (stall : List RtspEvent) (server : RtspServer) :
    Prop where
  gate : server.feeding = false
  account : pushCount stall + underway server.feeder ≤
    keyframeCount (poppedFrames stall) + 1

theorem StallInvariant.step {cfg : RtspConfig} {stall : List RtspEvent}
    {event : RtspEvent} {server next : RtspServer}
    (inv : StallInvariant stall server) (step : RtspStep cfg server event next)
    (closed : event.opensGate = false) :
    StallInvariant (stall ++ [event]) next := by
  obtain ⟨gate, account⟩ := inv
  -- Most steps neither pop nor push, and take nothing new to the appsrc.
  have silent (hpop : event.popped = none) (hpush : event.isPush = false)
      (hgate : next.feeding = false)
      (hfeeder : underway next.feeder ≤ underway server.feeder) :
      StallInvariant (stall ++ [event]) next := by
    refine ⟨hgate, ?_⟩
    simp only [pushCount_append, poppedFrames_append, keyframeCount_append]
    simp only [pushCount, poppedFrames, hpush, hpop, List.countP_singleton,
      List.filterMap_cons_none, List.filterMap_nil] at account ⊢
    simp only [Bool.false_eq_true, if_false]
    omega
  cases step with
  | @pop item hfeeder =>
      refine ⟨gate, ?_⟩
      rw [hfeeder] at account
      simp only [pushCount_append, poppedFrames_append, keyframeCount_append]
      have hpush : pushCount [.pop item] = 0 := rfl
      have hpop : poppedFrames [.pop item] = [item] := rfl
      rw [hpush, hpop, keyframeCount_singleton]
      simp only [underway] at account ⊢
      omega
  | @push item src elapsed flow hfeeder =>
      refine ⟨gate, ?_⟩
      rw [hfeeder] at account
      simp only [pushCount_append, poppedFrames_append, keyframeCount_append]
      have hpush : pushCount
          [.push item src (makeBuffer cfg server.basePts elapsed item)] = 1 :=
        rfl
      have hpop : poppedFrames
          [.push item src (makeBuffer cfg server.basePts elapsed item)] = [] :=
        rfl
      rw [hpush, hpop]
      simp only [underway] at account ⊢
      omega
  | @letThrough item hfeeder hpasses =>
      apply silent rfl rfl gate
      rw [passesGate, gate, Bool.false_or] at hpasses
      simp [hfeeder, underway, hpasses]
  | enter hfeeder | leave hfeeder | drained hfeeder | skip hfeeder
  | fetchNone hfeeder | fetchSome hfeeder | release hfeeder =>
      apply silent rfl rfl gate
      simp [hfeeder, underway]
  | needData => cases closed
  | feed _ => cases closed
  | enoughData => exact silent rfl rfl rfl le_rfl
  | _ => exact silent rfl rfl gate le_rfl

theorem run_stallInvariant {cfg : RtspConfig} {first stall : List RtspEvent}
    {server : RtspServer}
    (run : (rtspSystem cfg).Run (first ++ .enoughData :: stall) server)
    (stalled : Stalled stall) : StallInvariant stall server := by
  induction stall using List.reverseRecOn generalizing server with
  | nil =>
      obtain ⟨before, _, step⟩ := run.last
      cases step with
      | enoughData =>
          have hunderway := underway_le_one before.feeder
          exact ⟨rfl, by simpa [pushCount, poppedFrames, keyframeCount]⟩
  | append_singleton stall event induction =>
      rw [← List.cons_append, ← List.append_assoc] at run
      obtain ⟨before, earlier, step⟩ := run.last
      have inv := induction earlier fun other hother =>
        stalled other (List.mem_append_left _ hother)
      exact inv.step step (stalled event (by simp))

end UpperBound

/-! Every sequence of frames can be popped in one stall, and then each of its
keyframes is pushed. -/

section LowerBound

def opening : List RtspEvent :=
  [.locate 0, .install 0, .feed 0, .finish 0]

/-- The feeder is about to look at the queue, with a client configured. -/
structure Serving (server : RtspServer) : Prop where
  feeder : server.feeder = .top
  running : server.running = true
  gate : server.feeding = false
  appsrc : server.appsrc = some 0

theorem opening_run (cfg : RtspConfig) :
    ∃ server, (rtspSystem cfg).Run (opening ++ .enoughData :: []) server ∧
      Serving server := by
  have configured := configured_run (.start rfl :
    (rtspSystem cfg).Run [] RtspServer.attached) 0 rfl
  exact ⟨_, configured.extend .enoughData, rfl, rfl, rfl, rfl⟩

/-- What the feeder does with one frame while the gate is closed. -/
def turn (cfg : RtspConfig) (basePts : UInt64) (item : EncodedFrame) :
    List RtspEvent :=
  if item.keyframe then
    [.enter, .pop item, .letThrough item, .fetch item (some 0),
      .push item 0 (makeBuffer cfg basePts 0 item), .release 0 .ok]
  else [.enter, .pop item, .skip item (some 0)]

theorem turn_stalled (cfg : RtspConfig) (basePts : UInt64)
    (item : EncodedFrame) : Stalled (turn cfg basePts item) := by
  intro event hevent
  cases hkey : item.keyframe with
  | true =>
      simp only [turn, hkey, if_true, List.mem_cons, List.not_mem_nil,
        or_false] at hevent
      rcases hevent with rfl | rfl | rfl | rfl | rfl | rfl <;> rfl
  | false =>
      simp only [turn, hkey, Bool.false_eq_true, if_false, List.mem_cons,
        List.not_mem_nil, or_false] at hevent
      rcases hevent with rfl | rfl | rfl <;> rfl

theorem turn_counts (cfg : RtspConfig) (basePts : UInt64)
    (item : EncodedFrame) :
    poppedFrames (turn cfg basePts item) = [item] ∧
      pushCount (turn cfg basePts item) = keyframeCount [item] := by
  unfold turn
  cases hkey : item.keyframe with
  | true =>
      rw [keyframeCount_singleton, hkey]
      exact ⟨rfl, rfl⟩
  | false =>
      rw [keyframeCount_singleton, hkey]
      exact ⟨rfl, rfl⟩

theorem turn_run {cfg : RtspConfig} {events : List RtspEvent}
    {server : RtspServer} (run : (rtspSystem cfg).Run events server)
    (serving : Serving server) (item : EncodedFrame) :
    ∃ next, (rtspSystem cfg).Run
      (events ++ turn cfg server.basePts item) next ∧ Serving next := by
  obtain ⟨feeder, running, gate, appsrc⟩ := serving
  have popped := (run.extend (RtspStep.enter feeder running)).extend
    (@RtspStep.pop _ _ item rfl)
  cases hkey : item.keyframe with
  | true =>
      have pushed := (((popped.extend (RtspStep.letThrough rfl
        (by simp [passesGate, hkey]))).extend
        (RtspStep.fetchSome rfl appsrc)).extend
        (@RtspStep.push _ _ _ _ 0 .ok rfl)).extend (RtspStep.release rfl)
      simp only [turn, hkey, if_true]
      simp only [List.append_assoc, List.cons_append, List.nil_append] at pushed
      exact ⟨_, pushed, rfl, running, gate, appsrc⟩
  | false =>
      have skipped := popped.extend (RtspStep.skip rfl
        (by simp [passesGate, hkey, gate]))
      simp only [turn, hkey, Bool.false_eq_true, if_false]
      simp only [appsrc, List.append_assoc, List.cons_append,
        List.nil_append] at skipped
      exact ⟨_, skipped, rfl, running, gate, rfl⟩

theorem stall_run (cfg : RtspConfig) (frames : List EncodedFrame) :
    ∃ stall server,
      (rtspSystem cfg).Run (opening ++ .enoughData :: stall) server ∧
      Serving server ∧ Stalled stall ∧ poppedFrames stall = frames ∧
      pushCount stall = keyframeCount frames := by
  induction frames using List.reverseRecOn with
  | nil =>
      obtain ⟨server, run, serving⟩ := opening_run cfg
      exact ⟨[], server, run, serving, by simp [Stalled], rfl, rfl⟩
  | append_singleton frames item induction =>
      obtain ⟨stall, server, run, serving, stalled, hpopped, hpushed⟩ :=
        induction
      obtain ⟨next, hrun, hserving⟩ := turn_run run serving item
      obtain ⟨hturnPopped, hturnPushed⟩ := turn_counts cfg server.basePts item
      refine ⟨stall ++ turn cfg server.basePts item, next, ?_, hserving, ?_,
        ?_, ?_⟩
      · rwa [List.append_assoc, List.cons_append] at hrun
      · intro event hevent
        rcases List.mem_append.mp hevent with hevent | hevent
        · exact stalled event hevent
        · exact turn_stalled cfg server.basePts item event hevent
      · rw [poppedFrames_append, hpopped, hturnPopped]
      · rw [pushCount_append, keyframeCount_append, hpushed, hturnPushed]

end LowerBound

/-- Some constant bounds what is pushed in a stall whose frames are admitted. -/
def StallsBounded (cfg : RtspConfig) (admits : List EncodedFrame → Prop) :
    Prop :=
  ∃ bound, ∀ first stall server,
    (rtspSystem cfg).Run (first ++ .enoughData :: stall) server →
    Stalled stall → admits (poppedFrames stall) → pushCount stall ≤ bound

/-- No constant serves every sequence of frames: the gate lets each keyframe
through. -/
theorem stall_keyframes_unbounded :
    ¬ StallsBounded demoConfig fun _ => True := by
  intro ⟨bound, hbound⟩
  obtain ⟨stall, server, run, _, stalled, _, hpushed⟩ :=
    stall_run demoConfig (List.replicate (bound + 1) idrFrame)
  have hkeys : keyframeCount (List.replicate (bound + 1) idrFrame) =
      bound + 1 := by
    simp [keyframeCount, idrFrame, List.countP_replicate]
  have hle := hbound opening stall server run stalled trivial
  omega

/-- A stall pushes at most one buffer more than it pops keyframes, and a
constant bounds it exactly when one bounds the keyframes. -/
theorem stallsBounded_iff (cfg : RtspConfig)
    (admits : List EncodedFrame → Prop) :
    (∀ first stall server,
      (rtspSystem cfg).Run (first ++ .enoughData :: stall) server →
      Stalled stall →
        pushCount stall ≤ keyframeCount (poppedFrames stall) + 1) ∧
    (StallsBounded cfg admits ↔
      ∃ bound, ∀ frames, admits frames → keyframeCount frames ≤ bound) := by
  have hupper : ∀ first stall server,
      (rtspSystem cfg).Run (first ++ .enoughData :: stall) server →
      Stalled stall →
        pushCount stall ≤ keyframeCount (poppedFrames stall) + 1 := by
    intro first stall server run stalled
    have inv := run_stallInvariant run stalled
    exact Nat.le_of_add_right_le inv.account
  refine ⟨hupper, ?_⟩
  constructor
  · intro ⟨bound, hbound⟩
    refine ⟨bound, ?_⟩
    intro frames hadmits
    obtain ⟨stall, server, run, _, stalled, hpopped, hpushed⟩ :=
      stall_run cfg frames
    rw [← hpushed]
    exact hbound opening stall server run stalled (hpopped ▸ hadmits)
  · intro ⟨bound, hbound⟩
    refine ⟨bound + 1, ?_⟩
    intro first stall server run stalled hadmits
    have hpushed := hupper first stall server run stalled
    have hkeys := hbound _ hadmits
    omega

end EmbeddedPortfolio.Pipeline
