import EmbeddedPortfolio.Pipeline.FrameQueue
import Mathlib.Algebra.Group.Nat.Defs

namespace EmbeddedPortfolio.Pipeline

open EmbeddedPortfolio.Transition

universe u v

variable {Thread : Type v} {T : Type u}

/-! What a run of the queue accepts, removes and counts. -/

namespace QueueEffect

theorem conserve {queue next : FrameQueue T}
    {accepted returned discarded : Option T}
    (effect : QueueEffect queue accepted returned discarded next) :
    queue.q ++ accepted.toList =
      (returned.or discarded).toList ++ next.q := by
  cases effect with
  | idle => simp
  | close => simp
  | take content => simp [content]
  | displace isOpen full content => simp [content]
  | store isOpen room => simp

theorem capacity {queue next : FrameQueue T}
    {accepted returned discarded : Option T}
    (effect : QueueEffect queue accepted returned discarded next) :
    next.capacity = queue.capacity := by
  cases effect <;> rfl

theorem pushed {queue next : FrameQueue T}
    {accepted returned discarded : Option T}
    (effect : QueueEffect queue accepted returned discarded next) :
    next.pushed = queue.pushed + UInt64.ofNat accepted.toList.length := by
  cases effect <;> simp [FrameQueue.close]

theorem popped {queue next : FrameQueue T}
    {accepted returned discarded : Option T}
    (effect : QueueEffect queue accepted returned discarded next) :
    next.popped = queue.popped + UInt64.ofNat returned.toList.length := by
  cases effect <;> simp [FrameQueue.close]

theorem dropped {queue next : FrameQueue T}
    {accepted returned discarded : Option T}
    (effect : QueueEffect queue accepted returned discarded next) :
    next.dropped = queue.dropped + UInt64.ofNat discarded.toList.length := by
  cases effect <;> simp [FrameQueue.close]

/-- A `push` onto a full deque first makes room, so the bound survives as long
as there is room for one frame. -/
theorem bounded {queue next : FrameQueue T}
    {accepted returned discarded : Option T}
    (effect : QueueEffect queue accepted returned discarded next)
    (bound : queue.q.length ≤ queue.capacity) :
    next.q.length ≤ next.capacity := by
  cases effect with
  | idle => exact bound
  | close => exact bound
  | take content =>
      simp only [content, List.length_cons] at bound ⊢
      omega
  | displace isOpen full content =>
      simpa [content] using bound
  | store isOpen room =>
      simpa using Nat.succ_le_of_lt room

end QueueEffect

def queueFifo (Thread : Type v) (T : Type u) (capacity : Nat) :
    Fifo (queueSystem Thread T capacity) T where
  contents := FrameQueue.q
  takesIn := QueueEvent.accepted
  givesUp := QueueEvent.removed
  empty := by
    intro queue hinitial
    rw [hinitial]
    rfl
  conserve := by
    intro queue event next step
    exact (QueueStep.effect step).conserve

abbrev acceptedItems (events : List (QueueEvent Thread T)) : List T :=
  yielded QueueEvent.accepted events

abbrev removedItems (events : List (QueueEvent Thread T)) : List T :=
  yielded QueueEvent.removed events

abbrev returnedItems (events : List (QueueEvent Thread T)) : List T :=
  yielded QueueEvent.returned events

abbrev discardedItems (events : List (QueueEvent Thread T)) : List T :=
  yielded QueueEvent.discarded events

structure Accounted (capacity : Nat) (events : List (QueueEvent Thread T))
    (queue : FrameQueue T) : Prop where
  order : acceptedItems events = removedItems events ++ queue.q
  fate : ∀ rank item, (removedItems events)[rank]? = some item →
    ∃! index, YieldsAt QueueEvent.removed events rank index ∧
      ∃ event, events[index]? = some event ∧
        (event.returned = some item ∧ event.discarded = none ∨
          event.returned = none ∧ event.discarded = some item)
  bounded : queue.q.length ≤ capacity
  pushed : queue.pushed.toNat = (acceptedItems events).length % 2 ^ 64
  popped : queue.popped.toNat = (returnedItems events).length % 2 ^ 64
  dropped : queue.dropped.toNat = (discardedItems events).length % 2 ^ 64
  balance : queue.pushed =
    queue.popped + queue.dropped + UInt64.ofNat queue.size
  defined : ∀ value, (queue.push value).isSome

structure Counted (events : List (QueueEvent Thread T))
    (queue : FrameQueue T) : Prop where
  pushed : queue.pushed = UInt64.ofNat (acceptedItems events).length
  popped : queue.popped = UInt64.ofNat (returnedItems events).length
  dropped : queue.dropped = UInt64.ofNat (discardedItems events).length
  bounded : queue.q.length ≤ queue.capacity

theorem run_capacity {capacity : Nat}
    {events : List (QueueEvent Thread T)} {queue : FrameQueue T}
    (run : (queueSystem Thread T capacity).Run events queue) :
    queue.capacity = capacity := by
  apply run.invariant (motive := fun _ queue => queue.capacity = capacity)
  · intro queue hinitial
    rw [hinitial]
    rfl
  · intro events queue event next hqueue step
    rw [(QueueStep.effect step).capacity, hqueue]

theorem run_counted {capacity : Nat}
    {events : List (QueueEvent Thread T)} {queue : FrameQueue T}
    (run : (queueSystem Thread T capacity).Run events queue) :
    Counted events queue := by
  apply run.invariant
  · intro queue hinitial
    rw [hinitial]
    exact ⟨rfl, rfl, rfl, Nat.zero_le _⟩
  · intro events queue event next counted step
    have effect := QueueStep.effect step
    refine ⟨?_, ?_, ?_, effect.bounded counted.bounded⟩
    · rw [effect.pushed, counted.pushed]
      simp [acceptedItems, UInt64.ofNat_add]
    · rw [effect.popped, counted.popped]
      simp [returnedItems, UInt64.ofNat_add]
    · rw [effect.dropped, counted.dropped]
      simp [discardedItems, UInt64.ofNat_add]

/-- No step both returns an item and discards one, so the removals are counted
by the two kinds together. -/
theorem removed_count (events : List (QueueEvent Thread T)) :
    (removedItems events).length =
      (returnedItems events).length + (discardedItems events).length := by
  induction events with
  | nil => rfl
  | cons event rest induction =>
      have head : event.removed.toList.length =
          event.returned.toList.length + event.discarded.toList.length := by
        cases hremoved : event.removed with
        | none =>
            obtain ⟨hreturned, hdiscarded⟩ := Option.or_eq_none_iff.mp hremoved
            simp [hreturned, hdiscarded]
        | some item =>
            rcases QueueEvent.returned_or_discarded hremoved with
              ⟨hreturned, hdiscarded⟩ | ⟨hreturned, hdiscarded⟩ <;>
            simp [hreturned, hdiscarded]
      have hcons : event :: rest = [event] ++ rest := rfl
      simp only [removedItems, returnedItems, discardedItems] at induction ⊢
      rw [hcons]
      simp only [yielded_append, yielded_singleton, List.length_append]
      omega

/-- Every removal has exactly one cause: the `pop` or `try_pop` that returned
the item, or the `push` that discarded it. -/
theorem removal_fate (events : List (QueueEvent Thread T)) {rank : Nat}
    {item : T} (hitem : (removedItems events)[rank]? = some item) :
    ∃! index, YieldsAt QueueEvent.removed events rank index ∧
      ∃ event, events[index]? = some event ∧
        (event.returned = some item ∧ event.discarded = none ∨
          event.returned = none ∧ event.discarded = some item) := by
  obtain ⟨hrank, _⟩ := List.getElem?_eq_some_iff.mp hitem
  obtain ⟨index, hindex, hunique⟩ :=
    existsUnique_yieldsAt QueueEvent.removed events hrank
  have hvalue := hindex.value
  rw [hitem, Option.bind_eq_some_iff] at hvalue
  obtain ⟨event, hevent, hremoved⟩ := hvalue
  refine ⟨index, ⟨hindex, event, hevent,
    QueueEvent.returned_or_discarded hremoved⟩, ?_⟩
  intro other hother
  exact hunique other hother.1

theorem history_accounted (capacity : Nat) (hcapacity : 1 ≤ capacity)
    {events : List (QueueEvent Thread T)} {queue : FrameQueue T}
    (run : (queueSystem Thread T capacity).Run events queue) :
    Accounted capacity events queue := by
  have counted := run_counted run
  have order := (queueFifo Thread T capacity).history run
  refine ⟨order, fun rank item => removal_fate events, ?_, ?_, ?_, ?_, ?_, ?_⟩
  · rw [← run_capacity run]
    exact counted.bounded
  · rw [counted.pushed, UInt64.toNat_ofNat']
  · rw [counted.popped, UInt64.toNat_ofNat']
  · rw [counted.dropped, UInt64.toNat_ofNat']
  · have hlength := congrArg List.length order
    rw [List.length_append] at hlength
    rw [counted.pushed, counted.popped, counted.dropped,
      ← UInt64.ofNat_add, ← UInt64.ofNat_add]
    apply congrArg
    rw [← removed_count]
    exact hlength
  · intro value
    apply FrameQueue.push_defined
    rw [run_capacity run]
    exact hcapacity

/-- The second push discards the first item and a consumer takes the other. -/
def displacingEvents : List (QueueEvent Nat Nat) :=
  [.push 0 7 .stored, .push 0 8 (.displaced 7), .tryPop 1 (some 8)]

theorem history_accounted_overflow :
    ∃ queue : FrameQueue Nat,
      (queueSystem Nat Nat 1).Run displacingEvents queue ∧
        Accounted 1 displacingEvents queue := by
  have stored : (queueSystem Nat Nat 1).Run ([] ++ [.push 0 7 .stored]) _ :=
    .extend (.start rfl) (QueueStep.push rfl)
  have displaced : (queueSystem Nat Nat 1).Run
      ([] ++ [.push 0 7 .stored] ++ [.push 0 8 (.displaced 7)]) _ :=
    stored.extend (QueueStep.push rfl)
  have taken : (queueSystem Nat Nat 1).Run
      ([] ++ [.push 0 7 .stored] ++ [.push 0 8 (.displaced 7)] ++
        [.tryPop 1 (some 8)]) _ :=
    displaced.extend (QueueStep.tryPop rfl)
  exact ⟨_, taken, history_accounted 1 (by decide) taken⟩

end EmbeddedPortfolio.Pipeline
