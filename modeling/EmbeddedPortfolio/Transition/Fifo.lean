import EmbeddedPortfolio.Transition.System

namespace EmbeddedPortfolio.Transition

universe u v w

variable {State : Type u} {Event : Type v} {Value : Type w}

/-! First-in first-out components.  Each event takes in at most one value at the
back and gives up at most one at the front; what the component holds is
whatever has been taken in and not yet given up. -/

def yielded (yields : Event → Option Value) (events : List Event) :
    List Value :=
  events.filterMap yields

@[simp] theorem yielded_nil (yields : Event → Option Value) :
    yielded yields [] = [] := rfl

@[simp] theorem yielded_append (yields : Event → Option Value)
    (first second : List Event) :
    yielded yields (first ++ second) =
      yielded yields first ++ yielded yields second :=
  List.filterMap_append ..

@[simp] theorem yielded_singleton (yields : Event → Option Value)
    (event : Event) :
    yielded yields [event] = (yields event).toList := by
  cases hyield : yields event <;> simp [yielded, hyield]

theorem yielded_sublist {first second : Event → Option Value}
    (yields : ∀ event value, first event = some value →
      second event = some value) (events : List Event) :
    (yielded first events).Sublist (yielded second events) := by
  induction events with
  | nil => exact List.Sublist.refl _
  | cons event rest induction =>
      cases hfirst : first event with
      | none =>
          have hrest : yielded first (event :: rest) = yielded first rest :=
            List.filterMap_cons_none hfirst
          rw [hrest]
          exact induction.trans ((List.sublist_cons_self ..).filterMap _)
      | some value =>
          have hleft := List.filterMap_cons_some (l := rest) hfirst
          have hright := List.filterMap_cons_some (l := rest)
            (yields _ _ hfirst)
          unfold yielded at *
          rw [hleft, hright]
          exact induction.cons_cons value

/-- Event number `index` yields a value, and `rank` values were yielded before
it. -/
def YieldsAt (yields : Event → Option Value) (events : List Event)
    (rank index : Nat) : Prop :=
  (events[index]?.bind yields).isSome ∧
    (yielded yields (events.take index)).length = rank

theorem yieldsAt_lt {yields : Event → Option Value} {events : List Event}
    {rank index : Nat} (found : YieldsAt yields events rank index) :
    index < events.length := by
  by_contra beyond
  have hnone : events[index]? = none :=
    List.getElem?_eq_none (Nat.le_of_not_lt beyond)
  simp [YieldsAt, hnone] at found

/-- The event that yields the value of some rank yields exactly the value found
at that rank of the whole history. -/
theorem YieldsAt.value {yields : Event → Option Value} {events : List Event}
    {rank index : Nat} (found : YieldsAt yields events rank index) :
    events[index]?.bind yields = (yielded yields events)[rank]? := by
  have hindex := yieldsAt_lt found
  obtain ⟨hsome, hrank⟩ := found
  have hsplit : events = events.take index ++ events[index] ::
      events.drop (index + 1) := by
    rw [← List.drop_eq_getElem_cons hindex, List.take_append_drop]
  obtain ⟨value, hvalue⟩ := Option.isSome_iff_exists.mp hsome
  have hevent : yields events[index] = some value := by
    simpa [List.getElem?_eq_getElem hindex] using hvalue
  have hyielded : yielded yields events =
      yielded yields (events.take index) ++
        value :: yielded yields (events.drop (index + 1)) := by
    calc
      yielded yields events = yielded yields (events.take index ++
          events[index] :: events.drop (index + 1)) :=
        congrArg (yielded yields) hsplit
      _ = _ := by
        rw [yielded_append]
        exact congrArg _ (List.filterMap_cons_some hevent)
  rw [hvalue, hyielded, ← hrank]
  simp

theorem existsUnique_yieldsAt (yields : Event → Option Value)
    (events : List Event) {rank : Nat}
    (hrank : rank < (yielded yields events).length) :
    ∃! index, YieldsAt yields events rank index := by
  induction events generalizing rank with
  | nil => simp at hrank
  | cons event rest induction =>
      cases hyield : yields event with
      | none =>
          have hrest : rank < (yielded yields rest).length := by
            simpa [yielded, hyield] using hrank
          obtain ⟨index, hindex, hunique⟩ := induction hrest
          refine ⟨index + 1, ?_, ?_⟩
          · simpa [YieldsAt, yielded, hyield] using hindex
          · rintro (_ | other) hother
            · simp [YieldsAt, hyield] at hother
            · exact congrArg Nat.succ (hunique other
                (by simpa [YieldsAt, yielded, hyield] using hother))
      | some value =>
          cases rank with
          | zero =>
              refine ⟨0, by simp [YieldsAt, hyield], ?_⟩
              rintro (_ | other) hother
              · rfl
              · simp [YieldsAt, yielded, hyield] at hother
          | succ rank =>
              have hrest : rank < (yielded yields rest).length := by
                simpa [yielded, hyield] using hrank
              obtain ⟨index, hindex, hunique⟩ := induction hrest
              refine ⟨index + 1, ?_, ?_⟩
              · simpa [YieldsAt, yielded, hyield] using hindex
              · rintro (_ | other) hother
                · simp [YieldsAt] at hother
                · exact congrArg Nat.succ (hunique other
                    (by simpa [YieldsAt, yielded, hyield] using hother))

/-- What makes a transition system a queue: `contents` starts empty, and a step
appends what it takes in after removing what it gives up. -/
structure Fifo (system : System State Event) (Value : Type w) where
  contents : State → List Value
  takesIn : Event → Option Value
  givesUp : Event → Option Value
  empty : ∀ state, system.initial state → contents state = []
  conserve : ∀ state event next, system.step state event next →
    contents state ++ (takesIn event).toList =
      (givesUp event).toList ++ contents next

/-- Nothing is lost, duplicated or reordered: the values taken in are those
given up followed by those still held. -/
theorem Fifo.history {system : System State Event} (fifo : Fifo system Value)
    {events : List Event} {state : State} (run : system.Run events state) :
    yielded fifo.takesIn events =
      yielded fifo.givesUp events ++ fifo.contents state := by
  induction run with
  | start initial => simp [fifo.empty _ initial]
  | extend _ taken induction =>
      rw [yielded_append, yielded_append, induction, yielded_singleton,
        yielded_singleton, List.append_assoc, List.append_assoc,
        fifo.conserve _ _ _ taken]

end EmbeddedPortfolio.Transition
