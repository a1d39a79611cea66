import Mathlib.Data.List.Induction

namespace EmbeddedPortfolio.Transition

universe u v w x

/-! Labelled transition systems.  A run is kept as the list of its events, so
that a history can be read off it. -/

structure System (State : Type u) (Event : Type v) where
  initial : State → Prop
  step : State → Event → State → Prop

namespace System

variable {State : Type u} {Event : Type v}

/-- A finite run from an initial state: its events in order, and the state it
ends in. -/
inductive Run (system : System State Event) : List Event → State → Prop
  | start {state : State} : system.initial state → Run system [] state
  | extend {events : List Event} {state next : State} {event : Event} :
      Run system events state → system.step state event next →
        Run system (events ++ [event]) next

namespace Run

variable {system : System State Event}

/-- The invariant rule: what holds initially and is preserved by every step of a
run holds, with the history so far, at the end of the run. -/
theorem invariant {motive : List Event → State → Prop}
    (start : ∀ state, system.initial state → motive [] state)
    (step : ∀ events state event next, motive events state →
      system.step state event next → motive (events ++ [event]) next)
    {events : List Event} {state : State} (run : system.Run events state) :
    motive events state := by
  induction run with
  | start initial => exact start _ initial
  | extend _ taken induction => exact step _ _ _ _ induction taken

theorem last {events : List Event} {event : Event} {state : State}
    (run : system.Run (events ++ [event]) state) :
    ∃ before, system.Run events before ∧ system.step before event state := by
  generalize hall : events ++ [event] = all at run
  cases run with
  | start _ => simp at hall
  | extend earlier taken =>
      obtain ⟨rfl, hevent⟩ := List.append_inj' hall rfl
      cases hevent
      exact ⟨_, earlier, taken⟩

theorem prefix_run {first second : List Event} {state : State}
    (run : system.Run (first ++ second) state) :
    ∃ middle, system.Run first middle := by
  induction second using List.reverseRecOn generalizing state with
  | nil => exact ⟨state, by simpa using run⟩
  | append_singleton second event induction =>
      rw [← List.append_assoc] at run
      obtain ⟨before, earlier, _⟩ := run.last
      exact induction earlier

/-- The step that an event in the middle of a run stands for. -/
theorem step_between {earlier later : List Event} {event : Event}
    {state : State} (run : system.Run (earlier ++ event :: later) state) :
    ∃ before next, system.Run earlier before ∧
      system.step before event next := by
  have hsplit : earlier ++ event :: later = (earlier ++ [event]) ++ later := by
    rw [List.append_assoc, List.singleton_append]
  rw [hsplit] at run
  obtain ⟨next, upToEvent⟩ := run.prefix_run
  obtain ⟨before, hbefore, taken⟩ := upToEvent.last
  exact ⟨before, next, hbefore, taken⟩

theorem empty {state : State} (run : system.Run [] state) :
    system.initial state := by
  generalize hall : ([] : List Event) = all at run
  cases run with
  | start initial => exact initial
  | extend _ _ => simp at hall

/-- The invariant rule for a fact that a first event establishes. -/
theorem established {motive : State → Prop} {first : Event}
    (start : ∀ state next, system.initial state →
      system.step state first next → motive next)
    (step : ∀ state event next, motive state →
      system.step state event next → motive next)
    {rest : List Event} {state : State}
    (run : system.Run (first :: rest) state) : motive state := by
  induction rest using List.reverseRecOn generalizing state with
  | nil =>
      obtain ⟨before, earlier, taken⟩ := @last _ _ system [] first state run
      exact start _ _ earlier.empty taken
  | append_singleton rest event induction =>
      rw [← List.cons_append] at run
      obtain ⟨before, earlier, taken⟩ := run.last
      exact step _ _ _ (induction earlier) taken

end Run

/-- The runs that go on from a given state. -/
def resume (system : System State Event) (state : State) :
    System State Event where
  initial start := start = state
  step := system.step

theorem Run.append {system : System State Event}
    {first second : List Event} {middle state : State}
    (run : system.Run first middle)
    (more : (system.resume middle).Run second state) :
    system.Run (first ++ second) state := by
  induction more with
  | start initial =>
      cases initial
      rw [List.append_nil]
      exact run
  | extend _ taken induction =>
      rw [← List.append_assoc]
      exact induction.extend taken

end System

/-- A step-by-step simulation.  A concrete step either is an abstract step or
leaves the abstract state as it was. -/
structure Refinement {State : Type u} {Event : Type v}
    {Abstract : Type w} {AbstractEvent : Type x}
    (concrete : System State Event)
    (abstract : System Abstract AbstractEvent) where
  abstraction : State → Abstract
  observe : Event → Option AbstractEvent
  initial : ∀ state, concrete.initial state →
    abstract.initial (abstraction state)
  stutter : ∀ state event next, concrete.step state event next →
    observe event = none → abstraction next = abstraction state
  simulate : ∀ state event next observed, concrete.step state event next →
    observe event = some observed →
      abstract.step (abstraction state) observed (abstraction next)

/-- What a concrete run shows of itself is an abstract run. -/
theorem Refinement.run {State : Type u} {Event : Type v}
    {Abstract : Type w} {AbstractEvent : Type x}
    {concrete : System State Event} {abstract : System Abstract AbstractEvent}
    (refinement : Refinement concrete abstract)
    {events : List Event} {state : State} (run : concrete.Run events state) :
    abstract.Run (events.filterMap refinement.observe)
      (refinement.abstraction state) := by
  induction run with
  | start initial => exact .start (refinement.initial _ initial)
  | @extend events state next event _ taken induction =>
      cases hobserve : refinement.observe event with
      | none =>
          rw [refinement.stutter _ _ _ taken hobserve]
          simpa [hobserve] using induction
      | some observed =>
          have simulated := refinement.simulate _ _ _ _ taken hobserve
          simpa [hobserve] using System.Run.extend induction simulated

def Refinement.resume {State : Type u} {Event : Type v}
    {Abstract : Type w} {AbstractEvent : Type x}
    {concrete : System State Event} {abstract : System Abstract AbstractEvent}
    (refinement : Refinement concrete abstract) (state : State) :
    Refinement (concrete.resume state)
      (abstract.resume (refinement.abstraction state)) where
  abstraction := refinement.abstraction
  observe := refinement.observe
  initial := by
    intro start hstart
    exact congrArg refinement.abstraction hstart
  stutter := refinement.stutter
  simulate := refinement.simulate

end EmbeddedPortfolio.Transition
