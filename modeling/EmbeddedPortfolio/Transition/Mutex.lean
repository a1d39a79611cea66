import EmbeddedPortfolio.Transition.System

namespace EmbeddedPortfolio.Transition

universe u v w

/-! One lock over the runs of a system. -/

/-- Which events take and give back the lock, and which of the others only its
holder does. -/
structure Mutex {State : Type u} {Event : Type v}
    (system : System State Event) (Actor : Type w) where
  holder : State → Option Actor
  takes : Event → Option Actor
  gives : Event → Option Actor
  inside : Event → Option Actor
  taken : ∀ state event next actor, system.step state event next →
    takes event = some actor → holder state = none ∧ holder next = some actor
  given : ∀ events state event next actor, system.Run events state →
    system.step state event next → gives event = some actor →
      holder state = some actor ∧ holder next = none
  kept : ∀ events state event next, system.Run events state →
    system.step state event next → takes event = none → gives event = none →
      holder next = holder state
  guarded : ∀ events state event next actor, system.Run events state →
    system.step state event next → inside event = some actor →
      holder state = some actor

namespace Mutex

variable {State : Type u} {Event : Type v} {Actor : Type w}
variable {system : System State Event} (mutex : Mutex system Actor)

/-- The lock stays with its holder until the holder gives it back. -/
theorem holds {first middle : List Event} {taking : Event} {actor : Actor}
    {state : State} (takes : mutex.takes taking = some actor)
    (keeps : ∀ event ∈ middle, mutex.gives event ≠ some actor)
    (run : system.Run (first ++ taking :: middle) state) :
    mutex.holder state = some actor := by
  induction middle using List.reverseRecOn generalizing state with
  | nil =>
      obtain ⟨before, _, step⟩ := run.last
      exact (mutex.taken _ _ _ _ step takes).2
  | append_singleton middle event induction =>
      rw [← List.cons_append, ← List.append_assoc] at run
      obtain ⟨before, earlier, step⟩ := run.last
      have hholds := induction (fun other member =>
        keeps other (List.mem_append_left _ member)) earlier
      have htakes : mutex.takes event = none := by
        cases htake : mutex.takes event with
        | none => rfl
        | some other =>
            have hfree := (mutex.taken _ _ _ _ step htake).1
            rw [hholds] at hfree
            cases hfree
      have hgives : mutex.gives event = none := by
        cases hgive : mutex.gives event with
        | none => rfl
        | some other =>
            have hother := (mutex.given _ _ _ _ _ earlier step hgive).1
            rw [hholds] at hother
            cases hother
            exact absurd hgive (keeps event (by simp))
      exact (mutex.kept _ _ _ _ earlier step htakes hgives).trans hholds

/-- Until then nobody else does what only the holder does, nor takes the
lock. -/
theorem exclusive {first middle : List Event} {taking : Event}
    {actor other : Actor} {state : State}
    (takes : mutex.takes taking = some actor)
    (keeps : ∀ event ∈ middle, mutex.gives event ≠ some actor)
    (run : system.Run (first ++ taking :: middle) state) {event : Event}
    (member : event ∈ middle) :
    mutex.takes event = none ∧
      (mutex.inside event = some other → other = actor) := by
  obtain ⟨before, after, rfl⟩ := List.append_of_mem member
  have hsplit : first ++ taking :: (before ++ event :: after) =
      (first ++ taking :: before) ++ event :: after := by
    simp
  rw [hsplit] at run
  obtain ⟨now, next, earlier, step⟩ := run.step_between
  have hholds := mutex.holds takes
    (fun other hother => keeps other (List.mem_append_left _ hother)) earlier
  refine ⟨?_, ?_⟩
  · cases htake : mutex.takes event with
    | none => rfl
    | some taker =>
        have hfree := (mutex.taken _ _ _ _ step htake).1
        rw [hholds] at hfree
        cases hfree
  · intro hinside
    have hother := mutex.guarded _ _ _ _ _ earlier step hinside
    rw [hholds] at hother
    exact (Option.some.inj hother).symm

end Mutex

end EmbeddedPortfolio.Transition
