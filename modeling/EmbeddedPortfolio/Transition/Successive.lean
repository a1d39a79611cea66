import Mathlib.Algebra.BigOperators.Group.List.Basic
import Mathlib.Algebra.Order.BigOperators.Group.List
import Mathlib.Algebra.Order.Ring.Nat
import Mathlib.Data.List.Induction

namespace EmbeddedPortfolio.Transition

universe u

variable {Value : Type u}

/-! Neighbours in a sequence of values. -/

def successive : List Value → List (Value × Value)
  | first :: second :: rest => (first, second) :: successive (second :: rest)
  | _ => []

@[simp] theorem successive_nil : successive ([] : List Value) = [] := rfl

@[simp] theorem successive_singleton (value : Value) :
    successive [value] = [] := rfl

theorem successive_append {values : List Value} {last : Value}
    (hlast : values.getLast? = some last) (value : Value) :
    successive (values ++ [value]) = successive values ++ [(last, value)] := by
  induction values with
  | nil => simp at hlast
  | cons first rest induction =>
      cases rest with
      | nil =>
          have hfirst : first = last := by simpa using hlast
          simp [successive, hfirst]
      | cons second rest =>
          rw [List.getLast?_cons_cons] at hlast
          have htail := induction hlast
          rw [List.cons_append] at htail
          simp [successive, htail]

theorem successive_length (values : List Value) :
    (successive values).length = values.length - 1 := by
  induction values with
  | nil => rfl
  | cons first rest induction =>
      cases rest with
      | nil => rfl
      | cons second rest => simp [successive, induction]

theorem sum_map_eq_iff {items : List Value} {lower upper : Value → Nat}
    (bounded : ∀ item ∈ items, lower item ≤ upper item) :
    (items.map lower).sum = (items.map upper).sum ↔
      ∀ item ∈ items, lower item = upper item := by
  induction items with
  | nil => simp
  | cons item rest induction =>
      have hrest : ∀ other ∈ rest, lower other ≤ upper other :=
        fun other member => bounded other (List.mem_cons_of_mem item member)
      have hsum := List.sum_le_sum hrest
      have hitem := bounded item List.mem_cons_self
      rw [List.map_cons, List.map_cons, List.sum_cons, List.sum_cons,
        List.forall_mem_cons, ← induction hrest]
      omega

theorem sum_map_pred {items : List Value} {weight : Value → Nat}
    (positive : ∀ item ∈ items, 1 ≤ weight item) :
    (items.map weight).sum =
      items.length + (items.map fun item => weight item - 1).sum := by
  induction items with
  | nil => rfl
  | cons item rest induction =>
      obtain ⟨hitem, hrest⟩ := List.forall_mem_cons.mp positive
      rw [List.map_cons, List.sum_cons, List.map_cons, List.sum_cons,
        List.length_cons, induction hrest]
      omega

end EmbeddedPortfolio.Transition
