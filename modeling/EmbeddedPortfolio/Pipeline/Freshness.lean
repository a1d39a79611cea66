import EmbeddedPortfolio.Pipeline.FrameQueueHistory
import EmbeddedPortfolio.Transition.Overflow

namespace EmbeddedPortfolio.Pipeline

open EmbeddedPortfolio.Transition

universe u v

variable {Thread : Type v} {T : Type u}

/-! How old a frame can be when it leaves the queue, and which frames are
dropped. -/

theorem QueueEvent.accepted_of_returned {event : QueueEvent Thread T}
    (returned : event.returned.isSome) : event.accepted = none := by
  cases event with
  | push thread value outcome => simp [QueueEvent.returned] at returned
  | pop thread result => rfl
  | tryPop thread result => rfl
  | close thread => rfl

theorem QueueEffect.full_of_discarded {queue next : FrameQueue T}
    {accepted returned discarded : Option T}
    (effect : QueueEffect queue accepted returned discarded next)
    (dropped : discarded.isSome) :
    accepted.isSome ∧ queue.capacity ≤ queue.q.length := by
  cases effect with
  | idle => cases dropped
  | close => cases dropped
  | take content => cases dropped
  | displace isOpen full content => exact ⟨rfl, full⟩
  | store isOpen room => cases dropped

theorem QueueEffect.discarded_of_full {queue next : FrameQueue T}
    {accepted returned discarded : Option T}
    (effect : QueueEffect queue accepted returned discarded next)
    (stored : accepted.isSome) (full : queue.capacity ≤ queue.q.length) :
    discarded.isSome := by
  cases effect with
  | idle => cases stored
  | close => cases stored
  | take content => cases stored
  | displace isOpen full content => rfl
  | store isOpen room => omega

def queueDisplacing (Thread : Type v) (T : Type u) (capacity : Nat)
    (positive : 1 ≤ capacity) :
    Displacing (queueSystem Thread T capacity) T where
  toFifo := queueFifo Thread T capacity
  capacity := capacity
  positive := positive
  returns := QueueEvent.returned
  discards := QueueEvent.discarded
  leaves := fun _ => rfl
  returnsOnly := fun _ returned => QueueEvent.accepted_of_returned returned
  bounded := by
    intro events queue run
    have hbounded := (run_counted run).bounded
    rwa [run_capacity run] at hbounded
  forced := by
    intro events queue event next run step dropped
    have hfull := (QueueStep.effect step).full_of_discarded dropped
    rwa [run_capacity run] at hfull
  makesRoom := by
    intro events queue event next run step stored full
    apply (QueueStep.effect step).discarded_of_full stored
    rw [run_capacity run]
    exact full

/-- The item accepted as number `rank` leaves with the event at `index`, by a
`pop` or a `try_pop`. -/
def ReturnedAt (events : List (QueueEvent Thread T)) (rank index : Nat) :
    Prop :=
  YieldsAt QueueEvent.removed events rank index ∧
    (events[index]?.bind QueueEvent.returned).isSome

def DiscardedAt (events : List (QueueEvent Thread T)) (rank index : Nat) :
    Prop :=
  YieldsAt QueueEvent.removed events rank index ∧
    (events[index]?.bind QueueEvent.discarded).isSome

abbrev AcceptedAt (events : List (QueueEvent Thread T)) (rank index : Nat) :
    Prop :=
  YieldsAt QueueEvent.accepted events rank index

/-- The items accepted strictly between two events. -/
abbrev acceptedBetween (events : List (QueueEvent Thread T))
    (earlier later : Nat) : Nat :=
  yieldedBetween QueueEvent.accepted events earlier later

structure FreshUnlessForced (capacity : Nat)
    (events : List (QueueEvent Thread T)) : Prop where
  same : ∀ rank accepted index, AcceptedAt events rank accepted →
    YieldsAt QueueEvent.removed events rank index →
      events[index]?.bind QueueEvent.removed =
        events[accepted]?.bind QueueEvent.accepted
  fresh : ∀ index item,
    events[index]?.bind QueueEvent.returned = some item →
    ∃ rank accepted, AcceptedAt events rank accepted ∧
      ReturnedAt events rank index ∧ accepted < index ∧
      events[accepted]?.bind QueueEvent.accepted = some item ∧
      acceptedBetween events accepted index ≤ capacity - 1
  forced : ∀ rank accepted, AcceptedAt events rank accepted → ∀ index,
    DiscardedAt events rank index ↔
      accepted < index ∧ (events[index]?.bind QueueEvent.accepted).isSome ∧
        acceptedBetween events accepted index + 1 = capacity ∧
        ∀ earlier < index, ¬ ReturnedAt events rank earlier

theorem fresh_unless_forced (capacity : Nat) (hcapacity : 1 ≤ capacity)
    {events : List (QueueEvent Thread T)} {queue : FrameQueue T}
    (run : (queueSystem Thread T capacity).Run events queue) :
    FreshUnlessForced capacity events where
  same := by
    intro rank accepted index hentered hleft
    exact (queueFifo Thread T capacity).same_value run hentered hleft
  fresh := by
    intro index item hreturned
    obtain ⟨rank, accepted, hentered, hleft, hlater, hsame, hbound⟩ :=
      (queueDisplacing Thread T capacity hcapacity).returned_fresh run hreturned
    exact ⟨rank, accepted, hentered, hleft, hlater, hsame,
      Nat.le_sub_one_of_lt hbound⟩
  forced := by
    intro rank accepted hentered index
    exact (queueDisplacing Thread T capacity hcapacity).discarded_iff run
      hentered index

/-- The first of three frames has to make room, the second is popped. -/
def overflowEvents : List (QueueEvent Nat Nat) :=
  [] ++ [.push 0 7 .stored] ++ [.push 0 8 .stored] ++
    [.push 0 9 (.displaced 7)] ++ [.tryPop 1 (some 8)]

def queueHolding (q : List Nat) (pushed popped dropped : UInt64) :
    FrameQueue Nat :=
  { q, capacity := 2, closed := false, pushed, popped, dropped }

theorem overflowEvents_run :
    (queueSystem Nat Nat 2).Run overflowEvents (queueHolding [9] 3 1 1) := by
  have first : (queueSystem Nat Nat 2).Run ([] ++ [.push 0 7 .stored])
      (queueHolding [7] 1 0 0) :=
    .extend (.start rfl) (QueueStep.push rfl)
  have second : (queueSystem Nat Nat 2).Run
      ([] ++ [.push 0 7 .stored] ++ [.push 0 8 .stored])
      (queueHolding [7, 8] 2 0 0) :=
    first.extend (QueueStep.push rfl)
  have third : (queueSystem Nat Nat 2).Run
      ([] ++ [.push 0 7 .stored] ++ [.push 0 8 .stored] ++
        [.push 0 9 (.displaced 7)]) (queueHolding [8, 9] 3 0 1) :=
    second.extend (QueueStep.push rfl)
  exact third.extend (QueueStep.tryPop rfl)

theorem fresh_unless_forced_overflow :
    (1 : Nat) ≤ 2 ∧
      (queueSystem Nat Nat 2).Run overflowEvents (queueHolding [9] 3 1 1) ∧
      FreshUnlessForced 2 overflowEvents :=
  ⟨by decide, overflowEvents_run,
    fresh_unless_forced 2 (by decide) overflowEvents_run⟩

end EmbeddedPortfolio.Pipeline
