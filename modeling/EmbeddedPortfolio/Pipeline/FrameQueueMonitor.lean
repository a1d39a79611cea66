import EmbeddedPortfolio.Transition.Locations
import EmbeddedPortfolio.Pipeline.FrameQueueHistory

namespace EmbeddedPortfolio.Pipeline

open EmbeddedPortfolio.Transition

universe u v

/-! The queue together with its condition variable.  A mutex-protected body is
one step; `push` and `close` notify in a later step, after they have unlocked. -/

/-- Where a thread stands.  A `woken` thread has left the wait set and has not
re-checked its predicate yet. -/
inductive Location
  | outside
  | waiting
  | woken
  | notifyOne
  | notifyAll
  deriving Repr, DecidableEq

structure Monitor (Thread : Type v) (T : Type u) where
  queue : FrameQueue T
  location : Thread → Location

inductive MonitorEvent (Thread : Type v) (T : Type u)
  | body (event : QueueEvent Thread T)
  | wait (thread : Thread)
  | spurious (thread : Thread)
  | notifyOne (thread : Thread) (chosen : Option Thread)
  | notifyAll (thread : Thread)
  deriving Repr, DecidableEq

def wakeAll {Thread : Type v} (location : Thread → Location) :
    Thread → Location :=
  fun thread =>
    if location thread = .waiting then .woken else location thread

/-- A `push` refused because the queue is closed returns without notifying. -/
def afterPush {T : Type u} : PushOutcome T → Location
  | .refused => .outside
  | _ => .notifyOne

/-- A consumer in `pop` checks its predicate when it enters and each time it has
been woken. -/
def checksPredicate (location : Location) : Prop :=
  location = .outside ∨ location = .woken

open Locations in
inductive MonitorStep {Thread : Type v} {T : Type u} [DecidableEq Thread] :
    Monitor Thread T → MonitorEvent Thread T → Monitor Thread T → Prop
  | push {monitor : Monitor Thread T} {next : FrameQueue T}
      {thread : Thread} {value : T} {outcome : PushOutcome T} :
      monitor.location thread = .outside →
      monitor.queue.push value = some (outcome, next) →
        MonitorStep monitor (.body (.push thread value outcome))
          ⟨next, move monitor.location thread (afterPush outcome)⟩
  | pop {monitor : Monitor Thread T} {next : FrameQueue T}
      {thread : Thread} {result : Option T} :
      checksPredicate (monitor.location thread) →
      monitor.queue.pop = some (result, next) →
        MonitorStep monitor (.body (.pop thread result))
          ⟨next, move monitor.location thread .outside⟩
  | wait {monitor : Monitor Thread T} {thread : Thread} :
      checksPredicate (monitor.location thread) →
      monitor.queue.pop = none →
        MonitorStep monitor (.wait thread)
          ⟨monitor.queue, move monitor.location thread .waiting⟩
  | tryPop {monitor : Monitor Thread T} {next : FrameQueue T}
      {thread : Thread} {result : Option T} :
      monitor.location thread = .outside →
      monitor.queue.tryPop = (result, next) →
        MonitorStep monitor (.body (.tryPop thread result))
          ⟨next, monitor.location⟩
  | close {monitor : Monitor Thread T} {thread : Thread} :
      monitor.location thread = .outside →
        MonitorStep monitor (.body (.close thread))
          ⟨monitor.queue.close, move monitor.location thread .notifyAll⟩
  | spurious {monitor : Monitor Thread T} {thread : Thread} :
      monitor.location thread = .waiting →
        MonitorStep monitor (.spurious thread)
          ⟨monitor.queue, move monitor.location thread .woken⟩
  | notifyOne {monitor : Monitor Thread T} {thread chosen : Thread} :
      monitor.location thread = .notifyOne →
      monitor.location chosen = .waiting →
        MonitorStep monitor (.notifyOne thread (some chosen))
          ⟨monitor.queue,
            move (move monitor.location thread .outside) chosen .woken⟩
  | notifyNobody {monitor : Monitor Thread T} {thread : Thread} :
      monitor.location thread = .notifyOne →
      (∀ other, monitor.location other ≠ .waiting) →
        MonitorStep monitor (.notifyOne thread none)
          ⟨monitor.queue, move monitor.location thread .outside⟩
  | notifyAll {monitor : Monitor Thread T} {thread : Thread} :
      monitor.location thread = .notifyAll →
        MonitorStep monitor (.notifyAll thread)
          ⟨monitor.queue,
            wakeAll (move monitor.location thread .outside)⟩

def monitorSystem (Thread : Type v) (T : Type u) [DecidableEq Thread]
    (capacity : Nat) :
    System (Monitor Thread T) (MonitorEvent Thread T) where
  initial monitor :=
    monitor = ⟨FrameQueue.new capacity, fun _ => .outside⟩
  step := MonitorStep

/-- Forgetting the condition variable leaves a run of the atomic queue, so what
is proved about the queue's histories holds under the monitor too. -/
def monitorRefinement (Thread : Type v) (T : Type u) [DecidableEq Thread]
    (capacity : Nat) :
    Refinement (monitorSystem Thread T capacity)
      (queueSystem Thread T capacity) where
  abstraction := Monitor.queue
  observe
    | .body event => some event
    | _ => none
  initial := by
    intro monitor hinitial
    rw [hinitial]
    rfl
  stutter := by
    intro monitor event next step hobserve
    cases step <;> first | rfl | cases hobserve
  simulate := by
    intro monitor event next observed step hobserve
    cases step with
    | push _ h => cases hobserve; exact QueueStep.push h
    | pop _ h => cases hobserve; exact QueueStep.pop h
    | tryPop _ h => cases hobserve; exact QueueStep.tryPop h
    | close _ => cases hobserve; exact QueueStep.close
    | wait _ _ => cases hobserve
    | spurious _ => cases hobserve
    | notifyOne _ _ => cases hobserve
    | notifyNobody _ _ => cases hobserve
    | notifyAll _ => cases hobserve

section Wakeup

variable {Thread : Type v} {T : Type u}
variable [Fintype Thread] [DecidableEq Thread]

open Locations

/-- The counting invariant.  While somebody waits on an open queue, every frame
in it is matched by a notification still to be sent or by a woken thread; while
somebody waits on a closed queue, a `notify_all` is still to be sent. -/
structure WakeInvariant (monitor : Monitor Thread T) : Prop where
  supplied : monitor.queue.closed = false →
    0 < count monitor.location .waiting →
      monitor.queue.q.length ≤
        count monitor.location .notifyOne + count monitor.location .woken
  closing : monitor.queue.closed = true →
    0 < count monitor.location .waiting →
      0 < count monitor.location .notifyAll

omit [DecidableEq Thread] in
theorem wakeInvariant_initial (capacity : Nat) :
    WakeInvariant
      (⟨FrameQueue.new capacity, fun _ => .outside⟩ : Monitor Thread T) := by
  constructor
  · intro _ _
    exact Nat.zero_le _
  · intro hclosed
    cases hclosed

omit [DecidableEq Thread] in
theorem count_waiting_wakeAll (location : Thread → Location) :
    count (wakeAll location) .waiting = 0 := by
  rw [count_eq_zero_iff]
  intro thread
  unfold wakeAll
  split
  · simp
  · assumption

theorem WakeInvariant.push {monitor : Monitor Thread T}
    {next : FrameQueue T} {thread : Thread} {value : T}
    {outcome : PushOutcome T} (inv : WakeInvariant monitor)
    (hthread : monitor.location thread = .outside)
    (h : monitor.queue.push value = some (outcome, next)) :
    WakeInvariant
      ⟨next, move monitor.location thread (afterPush outcome)⟩ := by
  have moved := count_leave hthread (afterPush outcome)
  have hwaiting := moved .waiting
  have hwoken := moved .woken
  have hone := moved .notifyOne
  have hall := moved .notifyAll
  rcases FrameQueue.push_cases h with ⟨rfl, _, rfl⟩ |
    ⟨oldest, rest, rfl, hopen, _, hq, rfl⟩ | ⟨rfl, hopen, _, rfl⟩
  · simp only [afterPush, reduceCtorEq, if_false, Nat.add_zero] at *
    constructor
    · simpa [hwaiting, hwoken, hone] using inv.supplied
    · simpa [hwaiting, hall] using inv.closing
  · simp only [afterPush, reduceCtorEq, if_true, if_false, Nat.add_zero] at *
    constructor
    · intro _ hsome
      have bound := inv.supplied hopen (by simpa [hwaiting] using hsome)
      simp only [hq, List.length_append, List.length_cons,
        List.length_nil] at bound ⊢
      omega
    · intro hclosed
      simp [hopen] at hclosed
  · simp only [afterPush, reduceCtorEq, if_true, if_false, Nat.add_zero] at *
    constructor
    · intro _ hsome
      have bound := inv.supplied hopen (by simpa [hwaiting] using hsome)
      simp only [List.length_append, List.length_cons, List.length_nil]
      omega
    · intro hclosed
      simp [hopen] at hclosed

/-- Taking a frame out keeps the invariant, also when the consumer uses up its
own wake-up on the way. -/
theorem WakeInvariant.take {monitor : Monitor Thread T}
    {next : FrameQueue T} {thread : Thread} {result : Option T}
    (inv : WakeInvariant monitor)
    (hthread : checksPredicate (monitor.location thread))
    (hready : monitor.queue.ready = true)
    (h : monitor.queue.takeFront = (result, next)) :
    WakeInvariant ⟨next, move monitor.location thread .outside⟩ := by
  have counts :
      count (move monitor.location thread .outside) .waiting =
        count monitor.location .waiting ∧
      count monitor.location .woken ≤
        count (move monitor.location thread .outside) .woken + 1 ∧
      count (move monitor.location thread .outside) .notifyOne =
        count monitor.location .notifyOne ∧
      count (move monitor.location thread .outside) .notifyAll =
        count monitor.location .notifyAll := by
    rcases hthread with hthread | hthread <;>
    · have moved := count_leave hthread .outside
      have hwaiting := moved .waiting
      have hwoken := moved .woken
      have hone := moved .notifyOne
      have hall := moved .notifyAll
      simp only [reduceCtorEq, if_true, if_false, Nat.add_zero] at *
      omega
  obtain ⟨hwaiting, hwoken, hone, hall⟩ := counts
  rcases FrameQueue.takeFront_cases h with
    ⟨_, hq, rfl⟩ | ⟨front, rest, _, hq, rfl⟩
  · have hclosed : monitor.queue.closed = true := by
      simpa [FrameQueue.ready, hq] using hready
    constructor
    · intro hopen
      simp [hclosed] at hopen
    · simpa [hwaiting, hall] using inv.closing
  · constructor
    · intro hopen hsome
      have bound := inv.supplied hopen (by simpa [hwaiting] using hsome)
      simp only [hq, List.length_cons, hone] at bound ⊢
      omega
    · simpa [hwaiting, hall] using inv.closing

theorem WakeInvariant.wait {monitor : Monitor Thread T} {thread : Thread}
    (h : monitor.queue.pop = none) :
    WakeInvariant ⟨monitor.queue, move monitor.location thread .waiting⟩ := by
  have hready : monitor.queue.ready = false := by
    simpa [FrameQueue.pop] using h
  obtain ⟨hq, hopen⟩ := FrameQueue.ready_eq_false_iff.mp hready
  constructor
  · intro _ _
    simp [hq]
  · intro hclosed
    simp [hopen] at hclosed

omit [DecidableEq Thread] in
theorem WakeInvariant.tryPop {monitor : Monitor Thread T}
    {next : FrameQueue T} {result : Option T} (inv : WakeInvariant monitor)
    (h : monitor.queue.tryPop = (result, next)) :
    WakeInvariant ⟨next, monitor.location⟩ := by
  rcases FrameQueue.takeFront_cases h with
    ⟨_, _, rfl⟩ | ⟨front, rest, _, hq, rfl⟩
  · exact inv
  · constructor
    · intro hopen hsome
      have bound := inv.supplied hopen hsome
      simp only [hq, List.length_cons] at bound ⊢
      omega
    · exact inv.closing

theorem WakeInvariant.close {monitor : Monitor Thread T} {thread : Thread} :
    WakeInvariant
      ⟨monitor.queue.close, move monitor.location thread .notifyAll⟩ := by
  constructor
  · intro hopen
    simp at hopen
  · intro _ _
    exact count_pos_iff.mpr ⟨thread, move_self ..⟩

omit [DecidableEq Thread] in
/-- Nobody new waits, and no wake-up that is on its way is lost. -/
theorem WakeInvariant.relocate {monitor : Monitor Thread T}
    {location : Thread → Location} (inv : WakeInvariant monitor)
    (waiting : count location .waiting ≤ count monitor.location .waiting)
    (awake : count monitor.location .notifyOne +
        count monitor.location .woken ≤
      count location .notifyOne + count location .woken)
    (notifying : count monitor.location .notifyAll ≤
      count location .notifyAll) :
    WakeInvariant ⟨monitor.queue, location⟩ := by
  constructor
  · intro hopen hsome
    exact (inv.supplied hopen (hsome.trans_le waiting)).trans awake
  · intro hclosed hsome
    exact (inv.closing hclosed (hsome.trans_le waiting)).trans_le notifying

theorem WakeInvariant.spurious {monitor : Monitor Thread T}
    {thread : Thread} (inv : WakeInvariant monitor)
    (hthread : monitor.location thread = .waiting) :
    WakeInvariant ⟨monitor.queue, move monitor.location thread .woken⟩ := by
  have moved := count_leave hthread .woken
  have hwaiting := moved .waiting
  have hwoken := moved .woken
  have hone := moved .notifyOne
  have hall := moved .notifyAll
  simp only [reduceCtorEq, if_true, if_false, Nat.add_zero] at *
  apply inv.relocate
  · omega
  · omega
  · omega

theorem WakeInvariant.notifyOne {monitor : Monitor Thread T}
    {thread chosen : Thread} (inv : WakeInvariant monitor)
    (hthread : monitor.location thread = .notifyOne)
    (hchosen : monitor.location chosen = .waiting) :
    WakeInvariant ⟨monitor.queue,
      move (move monitor.location thread .outside) chosen .woken⟩ := by
  have hne : chosen ≠ thread := by
    intro heq
    rw [heq, hthread] at hchosen
    cases hchosen
  have hmiddle : move monitor.location thread .outside chosen = .waiting := by
    rw [move_other _ _ hne, hchosen]
  have left := count_leave hthread .outside
  have moved := count_leave hmiddle .woken
  have hwaiting := moved .waiting
  have hwoken := moved .woken
  have hone := moved .notifyOne
  have hall := moved .notifyAll
  have hwaiting' := left .waiting
  have hwoken' := left .woken
  have hone' := left .notifyOne
  have hall' := left .notifyAll
  simp only [reduceCtorEq, if_true, if_false, Nat.add_zero] at *
  apply inv.relocate
  · omega
  · omega
  · omega

theorem WakeInvariant.notifyNobody {monitor : Monitor Thread T}
    {thread : Thread}
    (hthread : monitor.location thread = .notifyOne)
    (hnobody : ∀ other, monitor.location other ≠ .waiting) :
    WakeInvariant ⟨monitor.queue, move monitor.location thread .outside⟩ := by
  have hwaiting := count_leave hthread .outside .waiting
  have hnone := count_eq_zero_iff.mpr hnobody
  simp only [reduceCtorEq, if_false, Nat.add_zero] at hwaiting
  constructor <;>
  · intro _ hsome
    simp only at hsome
    omega

theorem WakeInvariant.notifyAll {monitor : Monitor Thread T}
    {thread : Thread} :
    WakeInvariant ⟨monitor.queue,
      wakeAll (move monitor.location thread .outside)⟩ := by
  constructor <;>
  · intro _ hsome
    simp [count_waiting_wakeAll] at hsome

theorem WakeInvariant.step {monitor next : Monitor Thread T}
    {event : MonitorEvent Thread T} (inv : WakeInvariant monitor)
    (step : MonitorStep monitor event next) : WakeInvariant next := by
  cases step with
  | push hthread h => exact inv.push hthread h
  | pop hthread h =>
      obtain ⟨hready, htake⟩ := FrameQueue.pop_cases h
      exact inv.take hthread hready htake
  | wait _ h => exact .wait h
  | tryPop _ h => exact inv.tryPop h
  | close _ => exact .close
  | spurious hthread => exact inv.spurious hthread
  | notifyOne hthread hchosen => exact inv.notifyOne hthread hchosen
  | notifyNobody hthread hnobody => exact .notifyNobody hthread hnobody
  | notifyAll _ => exact .notifyAll

theorem run_wakeInvariant {capacity : Nat}
    {events : List (MonitorEvent Thread T)} {monitor : Monitor Thread T}
    (run : (monitorSystem Thread T capacity).Run events monitor) :
    WakeInvariant monitor := by
  apply run.invariant (motive := fun _ monitor => WakeInvariant monitor)
  · intro monitor hinitial
    rw [hinitial]
    exact wakeInvariant_initial capacity
  · intro events monitor event next inv step
    exact inv.step step

/-- No notification is under way: none is still to be sent, and no woken thread
has yet to look at the queue. -/
def Quiet (monitor : Monitor Thread T) : Prop :=
  ∀ thread, monitor.location thread ≠ .notifyOne ∧
    monitor.location thread ≠ .notifyAll ∧
    monitor.location thread ≠ .woken

instance (monitor : Monitor Thread T) : Decidable (Quiet monitor) :=
  inferInstanceAs (Decidable (∀ _, _ ∧ _))

theorem no_lost_wakeup {capacity : Nat}
    {events : List (MonitorEvent Thread T)} {monitor : Monitor Thread T}
    (run : (monitorSystem Thread T capacity).Run events monitor)
    (quiet : Quiet monitor) :
    ¬ ∃ thread, monitor.location thread = .waiting ∧
      (monitor.queue.q ≠ [] ∨ monitor.queue.closed = true) := by
  intro ⟨thread, hwaiting, hstuck⟩
  have inv := run_wakeInvariant run
  have hsome := count_pos_iff.mpr ⟨thread, hwaiting⟩
  have hone := count_eq_zero_iff.mpr fun other => (quiet other).1
  have hall := count_eq_zero_iff.mpr fun other => (quiet other).2.1
  have hwoken := count_eq_zero_iff.mpr fun other => (quiet other).2.2
  cases hclosed : monitor.queue.closed with
  | true =>
      have pending := inv.closing hclosed hsome
      omega
  | false =>
      have bound := inv.supplied hclosed hsome
      have hempty : monitor.queue.q = [] :=
        List.length_eq_zero_iff.mp (by omega)
      rcases hstuck with hstuck | hstuck
      · exact hstuck hempty
      · simp [hclosed] at hstuck

theorem no_lost_wakeup_handover :
    ∃ monitor : Monitor (Fin 2) Nat, Quiet monitor ∧
      ¬ ∃ thread, monitor.location thread = .waiting ∧
        (monitor.queue.q ≠ [] ∨ monitor.queue.closed = true) := by
  have waits := (System.Run.start rfl :
    (monitorSystem (Fin 2) Nat 1).Run [] _).extend
    (@MonitorStep.wait _ _ _ _ 1 (.inl rfl) rfl)
  have pushes := waits.extend
    (@MonitorStep.push _ _ _ _ ⟨[7], 1, false, 1, 0, 0⟩ 0 7 .stored rfl rfl)
  have notifies := pushes.extend (@MonitorStep.notifyOne _ _ _ _ 0 1 rfl rfl)
  have leaves := notifies.extend (@MonitorStep.pop _ _ _ _
    ⟨[], 1, false, 1, 1, 0⟩ 1 (some 7) (.inr rfl) rfl)
  refine ⟨_, ?_, no_lost_wakeup leaves ?_⟩ <;> decide

end Wakeup

end EmbeddedPortfolio.Pipeline
