import Mathlib.Data.List.Basic
import Mathlib.Data.List.Count

namespace EmbeddedPortfolio.Selection

universe u

variable {Item : Type u} (suppresses : Item → Item → Prop)
variable [DecidableRel suppresses]

/-! Greedy selection.  The items are taken up from the front; each one that no
earlier choice has marked is chosen, and marks the later ones it suppresses. -/

def unmarked (items : List Item) : List (Item × Bool) :=
  items.map fun item => (item, false)

def candidates (items : List (Item × Bool)) : List Item :=
  (items.filter fun entry => !entry.2).map Prod.fst

def mark (chosen : Item) (items : List (Item × Bool)) :
    List (Item × Bool) :=
  items.map fun entry => (entry.1, entry.2 || decide (suppresses chosen entry.1))

def sweep : List (Item × Bool) → List Item
  | [] => []
  | (_, true) :: rest => sweep rest
  | (item, false) :: rest => item :: sweep (mark suppresses item rest)
termination_by items => items.length
decreasing_by all_goals simp [mark]

@[simp] theorem sweep_nil : sweep suppresses [] = [] := by
  rw [sweep]

@[simp] theorem sweep_marked (item : Item) (rest : List (Item × Bool)) :
    sweep suppresses ((item, true) :: rest) = sweep suppresses rest := by
  rw [sweep]

@[simp] theorem sweep_chosen (item : Item) (rest : List (Item × Bool)) :
    sweep suppresses ((item, false) :: rest) =
      item :: sweep suppresses (mark suppresses item rest) := by
  rw [sweep]

omit [DecidableRel suppresses] in
@[simp] theorem candidates_unmarked (items : List Item) :
    candidates (unmarked items) = items := by
  simp [candidates, unmarked, List.filter_map, Function.comp_def]

omit [DecidableRel suppresses] in
@[simp] theorem candidates_marked (item : Item) (rest : List (Item × Bool)) :
    candidates ((item, true) :: rest) = candidates rest := rfl

omit [DecidableRel suppresses] in
@[simp] theorem candidates_unmarked_cons (item : Item)
    (rest : List (Item × Bool)) :
    candidates ((item, false) :: rest) = item :: candidates rest := rfl

theorem candidates_mark (chosen : Item) (items : List (Item × Bool)) :
    candidates (mark suppresses chosen items) =
      (candidates items).filter fun item => !decide (suppresses chosen item) := by
  induction items with
  | nil => rfl
  | cons entry rest induction =>
      obtain ⟨item, _ | _⟩ := entry
      · by_cases hsuppressed : suppresses chosen item
        · simpa [mark, candidates, hsuppressed] using induction
        · simpa [mark, candidates, hsuppressed] using induction
      · simpa [mark, candidates] using induction

theorem sweep_sublist (items : List (Item × Bool)) :
    (sweep suppresses items).Sublist (candidates items) := by
  induction items using sweep.induct suppresses with
  | case1 => simp
  | case2 item rest induction => simpa using induction
  | case3 item rest induction =>
      rw [sweep_chosen, candidates_unmarked_cons]
      rw [candidates_mark] at induction
      exact (induction.trans List.filter_sublist).cons_cons item

theorem sweep_pairwise (items : List (Item × Bool)) :
    (sweep suppresses items).Pairwise
      fun earlier later => ¬ suppresses earlier later := by
  induction items using sweep.induct suppresses with
  | case1 => simp
  | case2 item rest induction => simpa using induction
  | case3 item rest induction =>
      rw [sweep_chosen, List.pairwise_cons]
      refine ⟨?_, induction⟩
      intro later hlater
      have hcandidate := (sweep_sublist suppresses _).subset hlater
      rw [candidates_mark] at hcandidate
      simpa using (List.mem_filter.mp hcandidate).2

/-- A candidate of which not every copy is chosen is suppressed by a choice
that stands before it. -/
theorem sweep_maximal [DecidableEq Item] {before : Item → Item → Prop}
    {items : List (Item × Bool)} (ordered : (candidates items).Pairwise before)
    {item : Item}
    (absent : (sweep suppresses items).count item <
      (candidates items).count item) :
    ∃ chosen ∈ sweep suppresses items,
      suppresses chosen item ∧ before chosen item := by
  induction items using sweep.induct suppresses with
  | case1 => simp [candidates] at absent
  | case2 marked rest induction =>
      rw [sweep_marked] at absent ⊢
      exact induction ordered absent
  | case3 first rest induction =>
      rw [sweep_chosen] at absent ⊢
      rw [candidates_unmarked_cons] at absent ordered
      obtain ⟨hfirst, hrest⟩ := List.pairwise_cons.mp ordered
      have hless : (sweep suppresses (mark suppresses first rest)).count item <
          (candidates rest).count item := by
        rw [List.count_cons, List.count_cons] at absent
        omega
      by_cases hsuppressed : suppresses first item
      · have hmember : item ∈ candidates rest :=
          List.count_pos_iff.mp (Nat.zero_lt_of_lt hless)
        exact ⟨first, List.mem_cons_self, hsuppressed, hfirst item hmember⟩
      · have hmarked : (candidates (mark suppresses first rest)).count item =
            (candidates rest).count item := by
          rw [candidates_mark]
          exact List.count_filter (by simpa using hsuppressed)
        obtain ⟨chosen, hchosen, hresult⟩ := induction
          (by
            rw [candidates_mark]
            exact hrest.filter _)
          (by rwa [hmarked])
        exact ⟨chosen, List.mem_cons_of_mem first hchosen, hresult⟩

/-! Where items suppress only items of their own group, a group can be swept
by itself. -/

theorem mark_foreign {chosen : Item} {items : List (Item × Bool)}
    (foreign : ∀ entry ∈ items, ¬ suppresses chosen entry.1) :
    mark suppresses chosen items = items := by
  rw [mark]
  conv_rhs => rw [← List.map_id items]
  apply List.map_congr_left
  intro entry hentry
  simp [foreign entry hentry]

theorem mark_filter (chosen : Item) (belongs : Item → Bool)
    (items : List (Item × Bool)) :
    (mark suppresses chosen items).filter (fun entry => belongs entry.1) =
      mark suppresses chosen (items.filter fun entry => belongs entry.1) := by
  rw [mark, mark, List.filter_map]
  rfl

theorem sweep_filter {belongs : Item → Bool}
    (within : ∀ chosen item, suppresses chosen item →
      belongs item = belongs chosen)
    (items : List (Item × Bool)) :
    (sweep suppresses items).filter belongs =
      sweep suppresses (items.filter fun entry => belongs entry.1) := by
  induction items using sweep.induct suppresses with
  | case1 => simp
  | case2 item rest induction =>
      cases hgroup : belongs item with
      | true => simpa [hgroup] using induction
      | false => simpa [hgroup] using induction
  | case3 item rest induction =>
      rw [mark_filter] at induction
      cases hgroup : belongs item with
      | true => simp [hgroup, induction]
      | false =>
          have hforeign : mark suppresses item
              (rest.filter fun entry => belongs entry.1) =
                rest.filter fun entry => belongs entry.1 := by
            apply mark_foreign
            intro entry hentry hsuppressed
            have hsame := within item entry.1 hsuppressed
            have hbelongs := (List.mem_filter.mp hentry).2
            simp [hsame, hgroup] at hbelongs
          simp [hgroup, induction, hforeign]

omit [DecidableRel suppresses] in
theorem unmarked_filter (belongs : Item → Bool) (items : List Item) :
    (unmarked items).filter (fun entry => belongs entry.1) =
      unmarked (items.filter belongs) := by
  rw [unmarked, unmarked, List.filter_map]
  rfl

end EmbeddedPortfolio.Selection
