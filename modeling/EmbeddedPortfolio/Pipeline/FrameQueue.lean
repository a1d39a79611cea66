import EmbeddedPortfolio.Transition.Fifo

namespace EmbeddedPortfolio.Pipeline

open EmbeddedPortfolio.Transition

universe u v

/-! The bounded frame queue, one function for each mutex-protected body. -/

/-- `std::deque::pop_front`; undefined behaviour on an empty deque. -/
def popFront {T : Type u} : List T → Option (T × List T)
  | [] => none
  | front :: rest => some (front, rest)

/-- `q` is the deque, front first; the counters are atomic 64-bit words. -/
structure FrameQueue (T : Type u) where
  q : List T
  capacity : Nat
  closed : Bool
  pushed : UInt64
  popped : UInt64
  dropped : UInt64
  deriving Repr, DecidableEq

inductive PushOutcome (T : Type u)
  | refused
  | stored
  | displaced (oldest : T)
  deriving Repr, DecidableEq

def PushOutcome.result {T : Type u} : PushOutcome T → Bool
  | .refused => false
  | .stored => true
  | .displaced _ => false

namespace FrameQueue

variable {T : Type u}

def new (capacity : Nat) : FrameQueue T where
  q := []
  capacity := capacity
  closed := false
  pushed := 0
  popped := 0
  dropped := 0

def size (queue : FrameQueue T) : Nat := queue.q.length

def push (queue : FrameQueue T) (value : T) :
    Option (PushOutcome T × FrameQueue T) :=
  if queue.closed then
    some (.refused, queue)
  else if queue.capacity ≤ queue.size then do
    let (oldest, rest) ← popFront queue.q
    some (.displaced oldest, { queue with
      q := rest ++ [value]
      dropped := queue.dropped + 1
      pushed := queue.pushed + 1 })
  else
    some (.stored, { queue with
      q := queue.q ++ [value]
      pushed := queue.pushed + 1 })

def ready (queue : FrameQueue T) : Bool := !queue.q.isEmpty || queue.closed

/-- What `pop`, once its predicate holds, and `try_pop` do under the mutex. -/
def takeFront (queue : FrameQueue T) : Option T × FrameQueue T :=
  match queue.q with
  | [] => (none, queue)
  | front :: rest =>
      (some front, { queue with q := rest, popped := queue.popped + 1 })

/-- `none` while the predicate is false and the caller has to wait. -/
def pop (queue : FrameQueue T) : Option (Option T × FrameQueue T) :=
  if queue.ready then some queue.takeFront else none

def tryPop (queue : FrameQueue T) : Option T × FrameQueue T :=
  queue.takeFront

def close (queue : FrameQueue T) : FrameQueue T :=
  { queue with closed := true }

@[simp] theorem close_q (queue : FrameQueue T) :
    queue.close.q = queue.q := rfl

@[simp] theorem close_closed (queue : FrameQueue T) :
    queue.close.closed = true := rfl

theorem ready_eq_false_iff {queue : FrameQueue T} :
    queue.ready = false ↔ queue.q = [] ∧ queue.closed = false := by
  simp [ready]

theorem push_cases {queue next : FrameQueue T} {value : T}
    {outcome : PushOutcome T} (h : queue.push value = some (outcome, next)) :
    (outcome = .refused ∧ queue.closed = true ∧ next = queue) ∨
    (∃ oldest rest, outcome = .displaced oldest ∧ queue.closed = false ∧
      queue.capacity ≤ queue.q.length ∧ queue.q = oldest :: rest ∧
      next = { queue with
        q := rest ++ [value]
        dropped := queue.dropped + 1
        pushed := queue.pushed + 1 }) ∨
    (outcome = .stored ∧ queue.closed = false ∧
      queue.q.length < queue.capacity ∧
      next = { queue with
        q := queue.q ++ [value]
        pushed := queue.pushed + 1 }) := by
  unfold push at h
  split at h
  · rename_i hclosed
    cases h
    exact .inl ⟨rfl, hclosed, rfl⟩
  · rename_i hclosed
    have hopen : queue.closed = false := by simpa using hclosed
    split at h
    · rename_i hfull
      cases hq : queue.q with
      | nil => simp [hq, popFront] at h
      | cons oldest rest =>
          simp only [hq, popFront, Option.bind_eq_bind, Option.bind_some,
            Option.some.injEq, Prod.mk.injEq] at h
          obtain ⟨rfl, rfl⟩ := h
          exact .inr (.inl ⟨oldest, rest, rfl, hopen, by simpa [size, hq]
            using hfull, rfl, rfl⟩)
    · rename_i hroom
      cases h
      exact .inr (.inr ⟨rfl, hopen, by simpa [size] using hroom, rfl⟩)

/-- With room for one frame `push` never pops an empty deque. -/
theorem push_defined (queue : FrameQueue T) (value : T)
    (hcapacity : 0 < queue.capacity) : (queue.push value).isSome := by
  unfold push
  split
  · rfl
  · split
    · rename_i hfull
      cases hq : queue.q with
      | nil => simp [size, hq] at hfull; omega
      | cons oldest rest => rfl
    · rfl

theorem takeFront_cases {queue next : FrameQueue T} {result : Option T}
    (h : queue.takeFront = (result, next)) :
    (result = none ∧ queue.q = [] ∧ next = queue) ∨
    (∃ front rest, result = some front ∧ queue.q = front :: rest ∧
      next = { queue with q := rest, popped := queue.popped + 1 }) := by
  unfold takeFront at h
  cases hq : queue.q with
  | nil =>
      rw [hq] at h
      cases h
      exact .inl ⟨rfl, rfl, rfl⟩
  | cons front rest =>
      rw [hq] at h
      cases h
      exact .inr ⟨front, rest, rfl, rfl, rfl⟩

theorem pop_cases {queue next : FrameQueue T} {result : Option T}
    (h : queue.pop = some (result, next)) :
    queue.ready = true ∧ queue.takeFront = (result, next) := by
  unfold pop at h
  split at h
  · rename_i hready
    exact ⟨hready, Option.some.inj h⟩
  · cases h

theorem push_room {queue : FrameQueue T}
    (isOpen : queue.closed = false) (room : queue.q.length < queue.capacity)
    (value : T) :
    ∃ next, queue.push value = some (.stored, next) ∧
      next.q = queue.q ++ [value] ∧ next.closed = false ∧
      next.capacity = queue.capacity := by
  refine ⟨{ queue with
    q := queue.q ++ [value]
    pushed := queue.pushed + 1 }, ?_, rfl, isOpen, rfl⟩
  unfold push size
  simp [isOpen, Nat.not_le.mpr room]

theorem push_sublist {queue next : FrameQueue T} {value : T}
    {outcome : PushOutcome T}
    (h : queue.push value = some (outcome, next)) :
    next.q.Sublist (queue.q ++ [value]) := by
  rcases push_cases h with
    ⟨_, _, rfl⟩ | ⟨oldest, rest, _, _, _, hq, rfl⟩ | ⟨_, _, _, rfl⟩
  · exact List.sublist_append_left ..
  · rw [hq]
    exact List.sublist_cons_self ..
  · exact List.Sublist.refl _

theorem pop_item {queue next : FrameQueue T} {item : T}
    (h : queue.pop = some (some item, next)) :
    queue.q = item :: next.q := by
  obtain ⟨_, htake⟩ := pop_cases h
  rcases takeFront_cases htake with
    ⟨hnone, _, _⟩ | ⟨front, rest, hfront, hq, rfl⟩
  · cases hnone
  · cases hfront
    exact hq

theorem pop_none {queue next : FrameQueue T}
    (h : queue.pop = some (none, next)) : next = queue := by
  obtain ⟨_, htake⟩ := pop_cases h
  rcases takeFront_cases htake with
    ⟨_, _, hnext⟩ | ⟨front, rest, hfront, _, _⟩
  · exact hnext
  · cases hfront

end FrameQueue

/-- One completed call, with the thread that made it and what it got back. -/
inductive QueueEvent (Thread : Type v) (T : Type u)
  | push (thread : Thread) (value : T) (outcome : PushOutcome T)
  | pop (thread : Thread) (result : Option T)
  | tryPop (thread : Thread) (result : Option T)
  | close (thread : Thread)
  deriving Repr, DecidableEq

namespace QueueEvent

variable {Thread : Type v} {T : Type u}

def accepted : QueueEvent Thread T → Option T
  | .push _ _ .refused => none
  | .push _ value _ => some value
  | _ => none

def returned : QueueEvent Thread T → Option T
  | .pop _ result => result
  | .tryPop _ result => result
  | _ => none

def discarded : QueueEvent Thread T → Option T
  | .push _ _ (.displaced oldest) => some oldest
  | _ => none

def removed (event : QueueEvent Thread T) : Option T :=
  event.returned.or event.discarded

theorem returned_or_discarded {event : QueueEvent Thread T} {item : T}
    (h : event.removed = some item) :
    event.returned = some item ∧ event.discarded = none ∨
      event.returned = none ∧ event.discarded = some item := by
  cases event with
  | push _ _ outcome => exact .inr ⟨rfl, by simpa [removed, returned] using h⟩
  | pop _ result => exact .inl ⟨by simpa [removed, discarded] using h, rfl⟩
  | tryPop _ result => exact .inl ⟨by simpa [removed, discarded] using h, rfl⟩
  | close _ => simp [removed, returned, discarded] at h

end QueueEvent

/-- One atomic step of the queue under any number of threads. -/
inductive QueueStep {Thread : Type v} {T : Type u} :
    FrameQueue T → QueueEvent Thread T → FrameQueue T → Prop
  | push {queue next : FrameQueue T} {thread : Thread} {value : T}
      {outcome : PushOutcome T} :
      queue.push value = some (outcome, next) →
        QueueStep queue (.push thread value outcome) next
  | pop {queue next : FrameQueue T} {thread : Thread} {result : Option T} :
      queue.pop = some (result, next) →
        QueueStep queue (.pop thread result) next
  | tryPop {queue next : FrameQueue T} {thread : Thread}
      {result : Option T} :
      queue.tryPop = (result, next) →
        QueueStep queue (.tryPop thread result) next
  | close {queue : FrameQueue T} {thread : Thread} :
      QueueStep queue (.close thread) queue.close

/-- Everything one step can do to the queue, by the item it accepts, the one it
returns and the one it discards. -/
inductive QueueEffect {T : Type u} (queue : FrameQueue T) :
    Option T → Option T → Option T → FrameQueue T → Prop
  | idle : QueueEffect queue none none none queue
  | close : QueueEffect queue none none none queue.close
  | take {front : T} {rest : List T} (content : queue.q = front :: rest) :
      QueueEffect queue none (some front) none
        { queue with q := rest, popped := queue.popped + 1 }
  | displace {value oldest : T} {rest : List T}
      (isOpen : queue.closed = false)
      (full : queue.capacity ≤ queue.q.length)
      (content : queue.q = oldest :: rest) :
      QueueEffect queue (some value) none (some oldest)
        { queue with
          q := rest ++ [value]
          dropped := queue.dropped + 1
          pushed := queue.pushed + 1 }
  | store {value : T} (isOpen : queue.closed = false)
      (room : queue.q.length < queue.capacity) :
      QueueEffect queue (some value) none none
        { queue with
          q := queue.q ++ [value]
          pushed := queue.pushed + 1 }

theorem QueueEffect.of_takeFront {T : Type u} {queue next : FrameQueue T}
    {result : Option T} (h : queue.takeFront = (result, next)) :
    QueueEffect queue none result none next := by
  rcases FrameQueue.takeFront_cases h with
    ⟨rfl, _, rfl⟩ | ⟨front, rest, rfl, hq, rfl⟩
  · exact .idle
  · exact .take hq

theorem QueueStep.effect {Thread : Type v} {T : Type u}
    {queue next : FrameQueue T} {event : QueueEvent Thread T}
    (step : QueueStep queue event next) :
    QueueEffect queue event.accepted event.returned event.discarded next := by
  cases step with
  | push h =>
      rcases FrameQueue.push_cases h with ⟨rfl, _, rfl⟩ |
        ⟨oldest, rest, rfl, hopen, hfull, hq, rfl⟩ | ⟨rfl, hopen, hroom, rfl⟩
      · exact .idle
      · exact .displace hopen hfull hq
      · exact .store hopen hroom
  | pop h => exact .of_takeFront (FrameQueue.pop_cases h).2
  | tryPop h => exact .of_takeFront h
  | close => exact .close

def queueSystem (Thread : Type v) (T : Type u) (capacity : Nat) :
    System (FrameQueue T) (QueueEvent Thread T) where
  initial queue := queue = FrameQueue.new capacity
  step := QueueStep

end EmbeddedPortfolio.Pipeline
