import EmbeddedPortfolio.Transition.System

namespace EmbeddedPortfolio.Transition

universe u v

/-! Systems that come to an end: counted steps lower a rank. -/

structure Descent {State : Type u} {Event : Type v}
    (system : System State Event) where
  invariant : State → Prop
  counted : Event → Bool
  rank : State → Nat
  kept : ∀ state event next, invariant state →
    system.step state event next → invariant next
  lowered : ∀ state event next, invariant state →
    system.step state event next → counted event = true →
      rank next < rank state

namespace Descent

variable {State : Type u} {Event : Type v} {system : System State Event}
variable (descent : Descent system)

theorem holds {start final : State} (begins : descent.invariant start)
    {events : List Event} (run : (system.resume start).Run events final) :
    descent.invariant final := by
  induction run with
  | start initial => exact initial ▸ begins
  | extend _ step induction => exact descent.kept _ _ _ induction step

/-- Where the other steps do not raise the rank, a run has no more counted
steps than the rank it starts from. -/
theorem bound
    (unraised : ∀ state event next, descent.invariant state →
      system.step state event next → descent.counted event = false →
        descent.rank next ≤ descent.rank state)
    {start final : State} (begins : descent.invariant start)
    {events : List Event} (run : (system.resume start).Run events final) :
    (events.filter descent.counted).length + descent.rank final ≤
      descent.rank start := by
  induction run with
  | start initial =>
      cases initial
      simp
  | @extend events state next event earlier step induction =>
      have hholds := descent.holds begins earlier
      rw [List.filter_append, List.length_append]
      cases hcounted : descent.counted event with
      | true =>
          have hlower := descent.lowered _ _ _ hholds step hcounted
          simp only [List.filter_cons, hcounted, if_true, List.filter_nil,
            List.length_singleton]
          omega
      | false =>
          have hstays := unraised _ _ _ hholds step hcounted
          simp only [List.filter_cons, hcounted, Bool.false_eq_true, if_false,
            List.filter_nil, List.length_nil]
          omega

/-- Where only a finished state is without a counted step, counted steps alone
lead to one. -/
theorem reaches {finished : State → Prop}
    (progress : ∀ state, descent.invariant state → ¬ finished state →
      ∃ event next, descent.counted event = true ∧
        system.step state event next)
    {start : State} (begins : descent.invariant start) :
    ∃ events final, (system.resume start).Run events final ∧
      finished final := by
  suffices hfrom : ∀ rank state events,
      descent.rank state ≤ rank → descent.invariant state →
      (system.resume start).Run events state →
      ∃ more final, (system.resume start).Run more final ∧ finished final from
    hfrom (descent.rank start) start [] (Nat.le_refl _) begins (.start rfl)
  intro rank
  induction rank with
  | zero =>
      intro state events hrank hholds run
      refine ⟨events, state, run, ?_⟩
      by_contra hunfinished
      obtain ⟨event, next, hcounted, step⟩ :=
        progress state hholds hunfinished
      have hlower := descent.lowered _ _ _ hholds step hcounted
      omega
  | succ rank induction =>
      intro state events hrank hholds run
      by_cases hfinished : finished state
      · exact ⟨events, state, run, hfinished⟩
      · obtain ⟨event, next, hcounted, step⟩ := progress state hholds hfinished
        have hlower := descent.lowered _ _ _ hholds step hcounted
        exact induction next (events ++ [event]) (by omega)
          (descent.kept _ _ _ hholds step) (run.extend step)

end Descent

end EmbeddedPortfolio.Transition
