import EmbeddedPortfolio.Transition.Fifo

namespace EmbeddedPortfolio.Transition

universe u v

variable {Event : Type u} {Value : Type v}

/-! Two histories merged into one, each in its own order. -/

inductive Interleaved : List Value → List Value → List Value → Prop
  | nil : Interleaved [] [] []
  | left {first second whole : List Value} (value : Value) :
      Interleaved first second whole →
        Interleaved (first ++ [value]) second (whole ++ [value])
  | right {first second whole : List Value} (value : Value) :
      Interleaved first second whole →
        Interleaved first (second ++ [value]) (whole ++ [value])

namespace Interleaved

variable {first second whole : List Value}

theorem sublist (interleaved : Interleaved first second whole) :
    first.Sublist whole := by
  induction interleaved with
  | nil => exact List.Sublist.refl _
  | left value _ induction => exact induction.append_right _
  | right value _ induction =>
      exact induction.trans (List.sublist_append_left _ _)

theorem length (interleaved : Interleaved first second whole) :
    whole.length = first.length + second.length := by
  induction interleaved with
  | nil => rfl
  | left value _ induction =>
      rw [List.length_append, List.length_append, induction]
      simp only [List.length_singleton]
      omega
  | right value _ induction =>
      rw [List.length_append, List.length_append, induction]
      simp only [List.length_singleton]
      omega

end Interleaved

/-- Events of which none yields a value to both. -/
theorem yielded_interleaved {first second : Event → Option Value}
    (apart : ∀ event, first event = none ∨ second event = none)
    (events : List Event) :
    Interleaved (yielded first events) (yielded second events)
      (yielded (fun event => (first event).or (second event)) events) := by
  induction events using List.reverseRecOn with
  | nil => exact .nil
  | append_singleton events event induction =>
      rw [yielded_append, yielded_append, yielded_append, yielded_singleton,
        yielded_singleton, yielded_singleton]
      cases hfirst : first event with
      | none =>
          cases hsecond : second event with
          | none => simpa using induction
          | some value => simpa using induction.right value
      | some value =>
          have hsecond := (apart event).resolve_left (by simp [hfirst])
          rw [hsecond]
          simpa using induction.left value

end EmbeddedPortfolio.Transition
