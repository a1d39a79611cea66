import Mathlib.Data.List.Induction

namespace EmbeddedPortfolio.Transition

universe u

variable {Event : Type u}

/-! The past-time operator "since": something was raised in the history and has
not been cleared after that. -/

def pending (raises clears : Event → Bool) (events : List Event) : Bool :=
  events.foldl
    (fun raised event =>
      if raises event then true
      else if clears event then false
      else raised)
    false

@[simp] theorem pending_nil (raises clears : Event → Bool) :
    pending raises clears [] = false := rfl

@[simp] theorem pending_append_singleton (raises clears : Event → Bool)
    (events : List Event) (event : Event) :
    pending raises clears (events ++ [event]) =
      if raises event then true
      else if clears event then false
      else pending raises clears events := by
  simp [pending]

theorem pending_of_raised {raises clears : Event → Bool}
    {first middle : List Event} {event : Event}
    (hraise : raises event = true)
    (hclear : ∀ later ∈ middle, clears later = false) :
    pending raises clears (first ++ event :: middle) = true := by
  induction middle using List.reverseRecOn with
  | nil => simp [hraise]
  | append_singleton middle last induction =>
      have earlier := induction fun later hlater =>
        hclear later (List.mem_append_left _ hlater)
      have hlast := hclear last (by simp)
      rw [← List.cons_append, ← List.append_assoc,
        pending_append_singleton, earlier, hlast]
      simp

theorem exists_raised_of_pending {raises clears : Event → Bool}
    {events : List Event} (h : pending raises clears events = true) :
    ∃ first event middle, events = first ++ event :: middle ∧
      raises event = true ∧ ∀ later ∈ middle, clears later = false := by
  induction events using List.reverseRecOn with
  | nil => simp at h
  | append_singleton events last induction =>
      rw [pending_append_singleton] at h
      split at h
      · rename_i hraise
        exact ⟨events, last, [], rfl, hraise, by simp⟩
      · split at h
        · cases h
        · rename_i hclear
          obtain ⟨first, event, middle, rfl, hraise, hmiddle⟩ := induction h
          refine ⟨first, event, middle ++ [last], by simp, hraise, ?_⟩
          intro later hlater
          rcases List.mem_append.mp hlater with hlater | hlater
          · exact hmiddle later hlater
          · rw [List.mem_singleton.mp hlater]
            simpa using hclear

theorem exists_raised_after {raises clears : Event → Bool}
    {first middle : List Event} {event : Event}
    (hraise : raises event = false) (hclear : clears event = true)
    (h : pending raises clears (first ++ event :: middle) = true) :
    ∃ later ∈ middle, raises later = true := by
  induction middle using List.reverseRecOn with
  | nil => simp [hraise, hclear] at h
  | append_singleton middle last induction =>
      rw [← List.cons_append, ← List.append_assoc,
        pending_append_singleton] at h
      cases hlast : raises last with
      | true => exact ⟨last, by simp, hlast⟩
      | false =>
          have earlier :
              pending raises clears (first ++ event :: middle) = true := by
            by_contra hnone
            simp [hlast, hnone] at h
          obtain ⟨later, hlater, hraised⟩ := induction earlier
          exact ⟨later, List.mem_append_left _ hlater, hraised⟩

/-- What was raised and is no longer pending was cleared; the split is at the
first event that clears it. -/
theorem exists_first_cleared {raises clears : Event → Bool}
    {first middle : List Event} {event : Event}
    (hraise : raises event = true)
    (h : pending raises clears (first ++ event :: middle) = false) :
    ∃ before clearing after, middle = before ++ clearing :: after ∧
      clears clearing = true ∧ ∀ later ∈ before, clears later = false := by
  cases hfind : middle.find? clears with
  | none =>
      have hpending : pending raises clears (first ++ event :: middle) = true :=
        pending_of_raised hraise fun later hlater => by
          simpa using List.find?_eq_none.mp hfind later hlater
      rw [h] at hpending
      cases hpending
  | some clearing =>
      obtain ⟨hclearing, before, after, hsplit, hbefore⟩ :=
        List.find?_eq_some_iff_append.mp hfind
      refine ⟨before, clearing, after, hsplit, hclearing, ?_⟩
      intro later hlater
      simpa using hbefore later hlater

end EmbeddedPortfolio.Transition
