import EmbeddedPortfolio.Transition.Fifo
import Mathlib.Order.Basic

namespace EmbeddedPortfolio.Transition

universe u v w

variable {State : Type u} {Event : Type v} {Value : Type w}

/-! Bounded queues that make room for a new value by discarding the oldest.  A
value is known by its rank among those taken in. -/

theorem System.Run.step_at {system : System State Event}
    {events : List Event} {state : State} (run : system.Run events state)
    {index : Nat} {event : Event} (hevent : events[index]? = some event) :
    ∃ before next, system.Run (events.take index) before ∧
      system.step before event next := by
  obtain ⟨hindex, rfl⟩ := List.getElem?_eq_some_iff.mp hevent
  have hsplit : events =
      events.take index ++ events[index] :: events.drop (index + 1) := by
    rw [← List.drop_eq_getElem_cons hindex, List.take_append_drop]
  rw [hsplit] at run
  exact run.step_between

/-- What is known of an event that yields a value, and of its step. -/
theorem System.Run.step_yielding {system : System State Event}
    {events : List Event} {state : State} (run : system.Run events state)
    {yields : Event → Option Value} {index : Nat}
    (yielding : (events[index]?.bind yields).isSome) :
    ∃ event before next, events[index]? = some event ∧
      (yields event).isSome ∧ system.Run (events.take index) before ∧
      system.step before event next := by
  obtain ⟨value, hvalue⟩ := Option.isSome_iff_exists.mp yielding
  obtain ⟨event, hevent, hyields⟩ := Option.bind_eq_some_iff.mp hvalue
  obtain ⟨before, next, hbefore, hstep⟩ := run.step_at hevent
  exact ⟨event, before, next, hevent, by rw [hyields]; rfl, hbefore, hstep⟩

section Ranks

variable {yields : Event → Option Value} {events : List Event}
variable {rank index later : Nat}

theorem yieldsAt_take_iff (hindex : index < later) :
    YieldsAt yields (events.take later) rank index ↔
      YieldsAt yields events rank index := by
  rw [YieldsAt, YieldsAt, List.getElem?_take_of_lt hindex, List.take_take,
    Nat.min_eq_left (Nat.le_of_lt hindex)]

theorem YieldsAt.unique (first : YieldsAt yields events rank index)
    (second : YieldsAt yields events rank later) : index = later := by
  have hrank : rank < (yielded yields events).length := by
    have hsome := first.1
    rw [first.value] at hsome
    simpa using hsome
  exact (existsUnique_yieldsAt yields events hrank).unique first second

/-- A rank is given out before `later` as soon as enough values are. -/
theorem exists_yieldsAt_lt
    (enough : rank < (yielded yields (events.take later)).length) :
    ∃ index < later, YieldsAt yields events rank index := by
  obtain ⟨index, hindex, _⟩ := existsUnique_yieldsAt yields _ enough
  have hlt : index < later :=
    Nat.lt_of_lt_of_le (yieldsAt_lt hindex) (List.length_take_le _ _)
  exact ⟨index, hlt, (yieldsAt_take_iff hlt).mp hindex⟩

/-- How many values are yielded strictly between two events. -/
def yieldedBetween (yields : Event → Option Value) (events : List Event)
    (earlier later : Nat) : Nat :=
  (yielded yields ((events.take later).drop (earlier + 1))).length

theorem YieldsAt.count_later (found : YieldsAt yields events rank index)
    (hlater : index < later) :
    (yielded yields (events.take later)).length =
      rank + 1 + yieldedBetween yields events index later := by
  have hindex := yieldsAt_lt found
  obtain ⟨hsome, hrank⟩ := found
  have htaken : index < (events.take later).length := by
    rw [List.length_take]
    omega
  have hevent : (events.take later)[index] = events[index] :=
    List.getElem_take
  have hstart : (events.take later).take index = events.take index := by
    rw [List.take_take, Nat.min_eq_left (Nat.le_of_lt hlater)]
  have hsplit : events.take later = events.take index ++ ([events[index]] ++
      (events.take later).drop (index + 1)) := by
    rw [List.singleton_append, ← hevent, ← List.drop_eq_getElem_cons htaken,
      ← hstart, List.take_append_drop]
  obtain ⟨value, hvalue⟩ := Option.isSome_iff_exists.mp hsome
  have hyields : yields events[index] = some value := by
    simpa [List.getElem?_eq_getElem hindex] using hvalue
  rw [hsplit, yielded_append, yielded_append, yielded_singleton, hyields,
    List.length_append, List.length_append, hrank, yieldedBetween]
  simp
  omega

theorem Fifo.history_length {system : System State Event}
    (fifo : Fifo system Value) {state : State}
    (run : system.Run events state) :
    (yielded fifo.takesIn events).length =
      (yielded fifo.givesUp events).length + (fifo.contents state).length := by
  rw [fifo.history run, List.length_append]

/-- What is given up under a rank is what was taken in under it. -/
theorem Fifo.same_value {system : System State Event}
    (fifo : Fifo system Value) {state : State}
    (run : system.Run events state)
    (entered : YieldsAt fifo.takesIn events rank index)
    (left : YieldsAt fifo.givesUp events rank later) :
    events[later]?.bind fifo.givesUp = events[index]?.bind fifo.takesIn := by
  have hrank : rank < (yielded fifo.givesUp events).length := by
    have hsome := left.1
    rw [left.value] at hsome
    simpa using hsome
  rw [left.value, entered.value, fifo.history run,
    List.getElem?_append_left hrank]

end Ranks

/-- A step that takes a value in discards one exactly if the queue is full. -/
structure Displacing (system : System State Event) (Value : Type w) extends
    Fifo system Value where
  capacity : Nat
  positive : 0 < capacity
  returns : Event → Option Value
  discards : Event → Option Value
  leaves : ∀ event, givesUp event = (returns event).or (discards event)
  returnsOnly : ∀ event, (returns event).isSome → takesIn event = none
  bounded : ∀ events state, system.Run events state →
    (contents state).length ≤ capacity
  forced : ∀ events state event next, system.Run events state →
    system.step state event next → (discards event).isSome →
      (takesIn event).isSome ∧ capacity ≤ (contents state).length
  makesRoom : ∀ events state event next, system.Run events state →
    system.step state event next → (takesIn event).isSome →
      capacity ≤ (contents state).length → (discards event).isSome

namespace Displacing

variable {system : System State Event} (queue : Displacing system Value)

def ReturnedAt (events : List Event) (rank index : Nat) : Prop :=
  YieldsAt queue.givesUp events rank index ∧
    (events[index]?.bind queue.returns).isSome

def DiscardedAt (events : List Event) (rank index : Nat) : Prop :=
  YieldsAt queue.givesUp events rank index ∧
    (events[index]?.bind queue.discards).isSome

variable {events : List Event} {state : State}

theorem returned_or_discarded {rank index : Nat}
    (gone : YieldsAt queue.givesUp events rank index) :
    queue.ReturnedAt events rank index ∨
      queue.DiscardedAt events rank index := by
  obtain ⟨value, hvalue⟩ := Option.isSome_iff_exists.mp gone.1
  obtain ⟨event, hevent, hgiven⟩ := Option.bind_eq_some_iff.mp hvalue
  rw [queue.leaves] at hgiven
  cases hreturned : queue.returns event with
  | some item =>
      left
      exact ⟨gone, by simp [hevent, hreturned]⟩
  | none =>
      right
      rw [hreturned, Option.none_or] at hgiven
      exact ⟨gone, by simp [hevent, hgiven]⟩

/-- What a returning event finds: its value was taken in earlier, and fewer
than `capacity` values after it. -/
theorem returned_fresh (run : system.Run events state) {index : Nat}
    {item : Value}
    (returned : events[index]?.bind queue.returns = some item) :
    ∃ rank accepted, YieldsAt queue.takesIn events rank accepted ∧
      queue.ReturnedAt events rank index ∧ accepted < index ∧
      events[accepted]?.bind queue.takesIn = some item ∧
      yieldedBetween queue.takesIn events accepted index + 1 ≤
        queue.capacity := by
  obtain ⟨event, hevent, hreturns⟩ := Option.bind_eq_some_iff.mp returned
  obtain ⟨before, next, hbefore, hstep⟩ := run.step_at hevent
  have hgiven : queue.givesUp event = some item := by
    rw [queue.leaves, hreturns, Option.some_or]
  have htakes : queue.takesIn event = none :=
    queue.returnsOnly event (by rw [hreturns]; rfl)
  have hcontents : queue.contents before = item :: queue.contents next := by
    have hconserve := queue.conserve _ _ _ hstep
    rw [hgiven, htakes] at hconserve
    simpa using hconserve
  have hbound := queue.bounded _ _ hbefore
  have hgone : YieldsAt queue.givesUp events
      (yielded queue.givesUp (events.take index)).length index :=
    ⟨by simp [hevent, hgiven], rfl⟩
  have hlength := queue.history_length hbefore
  rw [hcontents, List.length_cons] at hlength hbound
  have henough : (yielded queue.givesUp (events.take index)).length <
      (yielded queue.takesIn (events.take index)).length := by omega
  obtain ⟨accepted, haccepted, hrank⟩ := exists_yieldsAt_lt henough
  refine ⟨_, accepted, hrank, ⟨hgone, ?_⟩, haccepted, ?_, ?_⟩
  · rw [returned]
    rfl
  · have hvalue := ((yieldsAt_take_iff haccepted).mpr hrank).value
    rw [List.getElem?_take_of_lt haccepted, queue.history hbefore,
      hcontents] at hvalue
    simpa using hvalue
  · have hcount := hrank.count_later haccepted
    omega

theorem discarded_count (run : system.Run events state) {rank index : Nat}
    (discarded : queue.DiscardedAt events rank index) :
    (events[index]?.bind queue.takesIn).isSome ∧
      (yielded queue.takesIn (events.take index)).length =
        rank + queue.capacity := by
  obtain ⟨hgone, hdiscarded⟩ := discarded
  obtain ⟨event, before, next, hevent, hdiscards, hbefore, hstep⟩ :=
    run.step_yielding hdiscarded
  obtain ⟨htakes, hfull⟩ := queue.forced _ _ _ _ hbefore hstep hdiscards
  refine ⟨by simpa [hevent] using htakes, ?_⟩
  have hbound := queue.bounded _ _ hbefore
  have hlength := queue.history_length hbefore
  rw [hgone.2] at hlength
  omega

/-- Taking a value into a full queue discards the oldest. -/
theorem discarded_of_full (run : system.Run events state) {rank index : Nat}
    (takes : (events[index]?.bind queue.takesIn).isSome)
    (oldest : (yielded queue.givesUp (events.take index)).length = rank)
    (full : (yielded queue.takesIn (events.take index)).length =
      rank + queue.capacity) :
    queue.DiscardedAt events rank index := by
  obtain ⟨event, before, next, hevent, htakes, hbefore, hstep⟩ :=
    run.step_yielding takes
  have hlength := queue.history_length hbefore
  have hdiscards := queue.makesRoom _ _ _ _ hbefore hstep htakes (by omega)
  obtain ⟨value, hvalue⟩ := Option.isSome_iff_exists.mp hdiscards
  refine ⟨⟨?_, oldest⟩, by simp [hevent, hvalue]⟩
  cases hreturns : queue.returns event with
  | none => simp [hevent, queue.leaves, hreturns, hvalue]
  | some item => simp [hevent, queue.leaves, hreturns]

/-- A value that nothing returns stays until `capacity` more are taken in:
another way out would have been a discard, with a value of its own. -/
theorem kept_while_few (run : system.Run events state)
    {rank accepted index : Nat}
    (entered : YieldsAt queue.takesIn events rank accepted)
    (later : accepted < index)
    (few : yieldedBetween queue.takesIn events accepted index + 1 ≤
      queue.capacity)
    (unreturned : ∀ earlier < index, ¬ queue.ReturnedAt events rank earlier) :
    (yielded queue.givesUp (events.take index)).length ≤ rank := by
  by_contra hgone
  obtain ⟨earlier, hearlier, hremoved⟩ :=
    exists_yieldsAt_lt (Nat.lt_of_not_le hgone)
  rcases queue.returned_or_discarded hremoved with hreturned | hdiscarded
  · exact unreturned earlier hearlier hreturned
  · obtain ⟨hpushed, hfull⟩ := queue.discarded_count run hdiscarded
    have hfirst : YieldsAt queue.takesIn events
        (yielded queue.takesIn (events.take earlier)).length earlier :=
      ⟨hpushed, rfl⟩
    have hmore := hfirst.count_later hearlier
    have hcount := entered.count_later later
    omega

/-- A value is discarded by exactly the step that takes in the `capacity`-th
value after it, and only if nothing returned it before. -/
theorem discarded_iff (run : system.Run events state) {rank accepted : Nat}
    (entered : YieldsAt queue.takesIn events rank accepted) (index : Nat) :
    queue.DiscardedAt events rank index ↔
      accepted < index ∧ (events[index]?.bind queue.takesIn).isSome ∧
        yieldedBetween queue.takesIn events accepted index + 1 =
          queue.capacity ∧
        ∀ earlier < index, ¬ queue.ReturnedAt events rank earlier := by
  constructor
  · intro hdiscarded
    obtain ⟨htakes, hcount⟩ := queue.discarded_count run hdiscarded
    have hpositive := queue.positive
    have henough : rank <
        (yielded queue.takesIn (events.take index)).length := by omega
    obtain ⟨found, hfound, hentered⟩ := exists_yieldsAt_lt henough
    rw [hentered.unique entered] at hfound
    have hlater := entered.count_later hfound
    refine ⟨hfound, htakes, by omega, ?_⟩
    intro earlier hearlier hreturned
    have hsame := hreturned.1.unique hdiscarded.1
    omega
  · rintro ⟨hlater, htakes, hbetween, hunreturned⟩
    have hkept := queue.kept_while_few run entered hlater
      (Nat.le_of_eq hbetween) hunreturned
    have hcount := entered.count_later hlater
    obtain ⟨_, before, _, _, _, hbefore, _⟩ := run.step_yielding htakes
    have hbound := queue.bounded _ _ hbefore
    have hlength := queue.history_length hbefore
    exact queue.discarded_of_full run htakes (by omega) (by omega)

end Displacing

end EmbeddedPortfolio.Transition
