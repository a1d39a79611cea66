import EmbeddedPortfolio.Pipeline.FrameQueueMonitor

namespace EmbeddedPortfolio.Pipeline

open EmbeddedPortfolio.Transition

universe u v

/-! The queue from `close` on: what is in it is handed out, nothing enters and
nobody waits. -/

namespace QueueEvent

variable {Thread : Type v} {T : Type u}

def thread : QueueEvent Thread T → Thread
  | .push thread _ _ => thread
  | .pop thread _ => thread
  | .tryPop thread _ => thread
  | .close thread => thread

/-- What a completed `pop` or `try_pop` returned. -/
def taken : QueueEvent Thread T → Option (Option T)
  | .pop _ result => some result
  | .tryPop _ result => some result
  | _ => none

end QueueEvent

section Results

variable {Thread : Type v} {T : Type u}

abbrev takes (events : List (QueueEvent Thread T)) : List (Option T) :=
  yielded QueueEvent.taken events

def takesBy [DecidableEq Thread] (thread : Thread)
    (events : List (QueueEvent Thread T)) : List (Option T) :=
  takes (events.filter fun event => event.thread = thread)

theorem takesBy_sublist [DecidableEq Thread] (thread : Thread)
    (events : List (QueueEvent Thread T)) :
    (takesBy thread events).Sublist (takes events) :=
  List.filter_sublist.filterMap _

/-- `feeder_loop` and the raw consumer leave their loop on the first
`nullopt`. -/
def StopsOnNullopt [DecidableEq Thread] (thread : Thread)
    (events : List (QueueEvent Thread T)) : Prop :=
  ∀ result ∈ (takesBy thread events).dropLast, result.isSome = true

/-- Reading a list position after position, past its end too. -/
def lookups (content : List T) (count : Nat) : List (Option T) :=
  (List.range count).map fun position => content[position]?

theorem lookups_succ (content : List T) (count : Nat) :
    lookups content (count + 1) = lookups content count ++ [content[count]?] := by
  simp [lookups, List.range_succ]

theorem lookups_getElem? {content : List T} {count position : Nat}
    {result : Option T}
    (found : (lookups content count)[position]? = some result) :
    result = content[position]? := by
  simp only [lookups, List.getElem?_map, Option.map_eq_some_iff] at found
  obtain ⟨index, hindex, rfl⟩ := found
  obtain ⟨_, hposition⟩ := List.getElem?_eq_some_iff.mp hindex
  rw [List.getElem_range] at hposition
  rw [hposition]

theorem lookups_countP (content : List T) (count : Nat) :
    (lookups content count).countP Option.isSome ≤ content.length := by
  have hfound : (lookups content count).countP Option.isSome =
      min count content.length := by
    induction count with
    | zero => simp [lookups]
    | succ count induction =>
        rw [lookups_succ, List.countP_append, induction]
        rcases Nat.lt_or_ge count content.length with hinside | hbeyond
        · rw [List.getElem?_eq_getElem hinside, List.countP_singleton]
          simp only [Option.isSome_some, if_true]
          omega
        · rw [List.getElem?_eq_none hbeyond, List.countP_singleton]
          simp only [Option.isSome_none, Bool.false_eq_true, if_false]
          omega
  omega

end Results

section Queue

variable {Thread : Type v} {T : Type u}

/-- What any step can do to a queue that is closed. -/
structure ClosedStep (queue : FrameQueue T) (event : QueueEvent Thread T)
    (next : FrameQueue T) : Prop where
  closed : next.closed = true
  pushed : next.pushed = queue.pushed
  dropped : next.dropped = queue.dropped
  content : event.taken = none ∧ next.q = queue.q ∨
    event.taken = some queue.q.head? ∧ next.q = queue.q.tail

theorem takeFront_closed {queue next : FrameQueue T} {result : Option T}
    {event : QueueEvent Thread T} (closed : queue.closed = true)
    (h : queue.takeFront = (result, next))
    (taken : event.taken = some result) : ClosedStep queue event next := by
  rcases FrameQueue.takeFront_cases h with
    ⟨rfl, hq, rfl⟩ | ⟨front, rest, rfl, hq, rfl⟩
  · exact ⟨closed, rfl, rfl, .inr ⟨by rw [taken, hq]; rfl, by rw [hq]; rfl⟩⟩
  · exact ⟨closed, rfl, rfl, .inr ⟨by rw [taken, hq]; rfl, by rw [hq]; rfl⟩⟩

theorem push_closed {queue : FrameQueue T} (closed : queue.closed = true)
    (value : T) : queue.push value = some (.refused, queue) := by
  simp [FrameQueue.push, closed]

theorem QueueStep.ofClosed {queue next : FrameQueue T}
    {event : QueueEvent Thread T} (step : QueueStep queue event next)
    (closed : queue.closed = true) : ClosedStep queue event next := by
  cases step with
  | push h =>
      rw [push_closed closed] at h
      cases h
      exact ⟨closed, rfl, rfl, .inl ⟨rfl, rfl⟩⟩
  | pop h => exact takeFront_closed closed (FrameQueue.pop_cases h).2 rfl
  | tryPop h => exact takeFront_closed closed h rfl
  | close => exact ⟨rfl, rfl, rfl, .inl ⟨rfl, rfl⟩⟩

/-- The queue after `events`, having been closed with `atClose` in it. -/
structure Draining (atClose : FrameQueue T)
    (events : List (QueueEvent Thread T)) (queue : FrameQueue T) : Prop where
  closed : queue.closed = true
  pushed : queue.pushed = atClose.pushed
  dropped : queue.dropped = atClose.dropped
  content : queue.q = atClose.q.drop (takes events).length
  results : takes events = lookups atClose.q (takes events).length

theorem Draining.step {atClose queue next : FrameQueue T}
    {events : List (QueueEvent Thread T)} {event : QueueEvent Thread T}
    (draining : Draining atClose events queue)
    (step : QueueStep queue event next) :
    Draining atClose (events ++ [event]) next := by
  have effect := step.ofClosed draining.closed
  refine ⟨effect.closed, effect.pushed.trans draining.pushed,
    effect.dropped.trans draining.dropped, ?_, ?_⟩
  · rcases effect.content with ⟨htaken, hq⟩ | ⟨htaken, hq⟩
    · rw [hq, draining.content]
      simp [htaken]
    · rw [hq, draining.content]
      simp [htaken]
  · rcases effect.content with ⟨htaken, _⟩ | ⟨htaken, _⟩
    · simpa [htaken] using draining.results
    · rw [draining.content, List.head?_drop] at htaken
      simp only [yielded_append, yielded_singleton, htaken,
        Option.toList_some, List.length_append, List.length_singleton,
        lookups_succ]
      rw [← draining.results]

theorem run_draining {capacity : Nat} {atClose queue : FrameQueue T}
    {events : List (QueueEvent Thread T)}
    (run : ((queueSystem Thread T capacity).resume atClose.close).Run events
      queue) : Draining atClose events queue := by
  apply run.invariant
  · intro queue hinitial
    rw [hinitial]
    exact ⟨rfl, rfl, rfl, rfl, rfl⟩
  · intro events queue event next draining step
    exact draining.step step

end Queue

section Monitors

variable {Thread : Type v} {T : Type u} [DecidableEq Thread]

abbrev bodies (capacity : Nat) (events : List (MonitorEvent Thread T)) :
    List (QueueEvent Thread T) :=
  events.filterMap (monitorRefinement Thread T capacity).observe

/-- Whoever waits is about to be woken by a `close` that has not returned. -/
def Awaited (location : Thread → Location) : Prop :=
  ∀ thread, location thread = .waiting →
    ∃ closer, location closer = .notifyAll

open Locations

theorem Awaited.move {location : Thread → Location} (awaited : Awaited location)
    {thread : Thread} (hthread : location thread ≠ .notifyAll)
    {target : Location} (htarget : target ≠ .waiting) :
    Awaited (move location thread target) := by
  intro other hother
  have hne : other ≠ thread := by
    rintro rfl
    rw [move_self] at hother
    exact htarget hother
  rw [move_other _ _ hne] at hother
  obtain ⟨closer, hcloser⟩ := awaited other hother
  have hstays : closer ≠ thread := by
    rintro rfl
    exact hthread hcloser
  exact ⟨closer, by rw [move_other _ _ hstays, hcloser]⟩

theorem checksPredicate_ne {location : Location}
    (checks : checksPredicate location) : location ≠ .notifyAll := by
  rcases checks with hlocation | hlocation <;> simp [hlocation]

omit [DecidableEq Thread] in
theorem awaited_wakeAll (location : Thread → Location) :
    Awaited (wakeAll location) := by
  intro thread hwaiting
  unfold wakeAll at hwaiting
  split at hwaiting
  · cases hwaiting
  · contradiction

/-- Once the queue is closed no predicate check fails. -/
structure Waking (events : List (MonitorEvent Thread T))
    (monitor : Monitor Thread T) : Prop where
  closed : monitor.queue.closed = true
  noWait : ∀ thread, .wait thread ∉ events
  awaited : Awaited monitor.location

theorem pop_closed {queue : FrameQueue T} (closed : queue.closed = true) :
    queue.pop = some queue.takeFront := by
  simp [FrameQueue.pop, FrameQueue.ready, closed]

theorem Waking.step {events : List (MonitorEvent Thread T)}
    {event : MonitorEvent Thread T} {monitor next : Monitor Thread T}
    (waking : Waking events monitor) (step : MonitorStep monitor event next) :
    Waking (events ++ [event]) next := by
  obtain ⟨closed, noWait, awaited⟩ := waking
  have extended (silent : ∀ thread, .wait thread ≠ event) :
      ∀ thread, .wait thread ∉ events ++ [event] := by
    intro thread
    simp [noWait thread, silent thread]
  cases step with
  | @push next thread value outcome hthread h =>
      have effect := (@QueueStep.push _ _ _ _ thread _ _ h).ofClosed closed
      rw [push_closed closed] at h
      cases h
      exact ⟨effect.closed, extended (by simp),
        awaited.move (by simp [hthread]) (by simp [afterPush])⟩
  | @pop next thread result hthread h =>
      have effect := (@QueueStep.pop _ _ _ _ thread _ h).ofClosed closed
      exact ⟨effect.closed, extended (by simp),
        awaited.move (checksPredicate_ne hthread) (by simp)⟩
  | wait _ h =>
      rw [pop_closed closed] at h
      cases h
  | @tryPop next thread result _ h =>
      have effect := (@QueueStep.tryPop _ _ _ _ thread _ h).ofClosed closed
      exact ⟨effect.closed, extended (by simp), awaited⟩
  | close hthread =>
      exact ⟨rfl, extended (by simp), fun _ _ => ⟨_, move_self ..⟩⟩
  | spurious hthread =>
      exact ⟨closed, extended (by simp),
        awaited.move (by simp [hthread]) (by simp)⟩
  | notifyOne hthread hchosen =>
      refine ⟨closed, extended (by simp), ?_⟩
      apply (awaited.move (by simp [hthread]) (by simp)).move _ (by simp)
      intro hnotify
      unfold move at hnotify
      rw [Function.update_apply] at hnotify
      split at hnotify
      · cases hnotify
      · simp [hchosen] at hnotify
  | notifyNobody hthread _ =>
      exact ⟨closed, extended (by simp),
        awaited.move (by simp [hthread]) (by simp)⟩
  | notifyAll _ =>
      exact ⟨closed, extended (by simp), awaited_wakeAll _⟩

/-- What holds of a queue, closed with `atClose` in it, after any further
events of any threads. -/
structure Drained (capacity : Nat) (atClose : FrameQueue T)
    (events : List (MonitorEvent Thread T)) (final : Monitor Thread T) :
    Prop where
  push : ∀ value, final.queue.push value = some (.refused, final.queue)
  counters : final.queue.pushed = atClose.pushed ∧
    final.queue.dropped = atClose.dropped
  content : final.queue.q =
    atClose.q.drop (takes (bodies capacity events)).length
  results : ∀ (position : Nat) (result : Option T),
    (takes (bodies capacity events))[position]? = some result →
      result = atClose.q[position]?
  pop : final.queue.pop.isSome
  noWait : ∀ thread, .wait thread ∉ events
  awaited : Awaited final.location
  consumers : ∀ thread, StopsOnNullopt thread (bodies capacity events) →
    (takesBy thread (bodies capacity events)).length ≤ atClose.q.length + 1

theorem consumer_bound {atClose queue : FrameQueue T}
    {events : List (QueueEvent Thread T)}
    (draining : Draining atClose events queue) {thread : Thread}
    (stops : StopsOnNullopt thread events) :
    (takesBy thread events).length ≤ atClose.q.length + 1 := by
  have hsublist := ((takesBy thread events).dropLast_sublist.trans
    (takesBy_sublist thread events)).countP_le (p := Option.isSome)
  rw [List.countP_eq_length.mpr stops, List.length_dropLast,
    draining.results] at hsublist
  have hfound := lookups_countP atClose.q (takes events).length
  omega

theorem close_drains (capacity : Nat) (closer : Thread)
    {monitor closed final : Monitor Thread T}
    {events : List (MonitorEvent Thread T)}
    (closing : MonitorStep monitor (.body (.close closer)) closed)
    (run : ((monitorSystem Thread T capacity).resume closed).Run events
      final) :
    Drained capacity monitor.queue events final := by
  cases closing with
  | close hcloser =>
      have draining : Draining monitor.queue (bodies capacity events)
          final.queue :=
        run_draining (((monitorRefinement Thread T capacity).resume _).run run)
      have waking : Waking events final := by
        apply run.invariant
        · intro start hinitial
          rw [hinitial]
          exact ⟨rfl, by simp, fun _ _ => ⟨closer, move_self ..⟩⟩
        · intro events state event next waking step
          exact waking.step step
      refine ⟨push_closed waking.closed,
        ⟨draining.pushed, draining.dropped⟩, draining.content, ?_, ?_,
        waking.noWait, waking.awaited, fun _ => consumer_bound draining⟩
      · intro position result hresult
        rw [draining.results] at hresult
        exact lookups_getElem? hresult
      · rw [pop_closed waking.closed]
        rfl

end Monitors

theorem close_drains_two :
    ∃ final : Monitor (Fin 2) Nat,
      Drained 2 ⟨[7, 8], 2, false, 2, 0, 0⟩
        ([] ++ [.notifyAll 0] ++ [.body (.push 0 9 .refused)] ++
          [.body (.tryPop 1 (some 7))] ++ [.body (.pop 1 (some 8))] ++
          [.body (.pop 1 none)]) final := by
  let system := (monitorSystem (Fin 2) Nat 2).resume
    ⟨FrameQueue.close ⟨[7, 8], 2, false, 2, 0, 0⟩,
      Locations.move (fun _ => .outside) 0 .notifyAll⟩
  have notified := (System.Run.start rfl : system.Run [] _).extend
    (@MonitorStep.notifyAll _ _ _ _ 0 rfl)
  have refused := notified.extend
    (@MonitorStep.push _ _ _ _ ⟨[7, 8], 2, true, 2, 0, 0⟩ 0 9 .refused rfl rfl)
  have first := refused.extend
    (@MonitorStep.tryPop _ _ _ _ ⟨[8], 2, true, 2, 1, 0⟩ 1 (some 7) rfl rfl)
  have second := first.extend (@MonitorStep.pop _ _ _ _
    ⟨[], 2, true, 2, 2, 0⟩ 1 (some 8) (.inl rfl) rfl)
  have last := second.extend (@MonitorStep.pop _ _ _ _
    ⟨[], 2, true, 2, 2, 0⟩ 1 none (.inl rfl) rfl)
  have closing : MonitorStep
      (⟨⟨[7, 8], 2, false, 2, 0, 0⟩, fun _ => .outside⟩ :
        Monitor (Fin 2) Nat) (.body (.close 0)) _ := .close rfl
  exact ⟨_, close_drains 2 0 closing last⟩

end EmbeddedPortfolio.Pipeline
