import Mathlib.Data.List.Perm.Subperm
import Mathlib.Data.List.Perm.Basic

namespace EmbeddedPortfolio.Selection

universe u v

variable {Source : Type u} {Item : Type v} {derive : Source → Option Item}

/-! Where selected items come from, when each source yields one item or none. -/

/-- `sources` lists, item by item, what each of `items` is derived from. -/
def DerivedFrom (derive : Source → Option Item) (sources : List Source)
    (items : List Item) : Prop :=
  List.Forall₂ (fun source item => derive source = some item) sources items

theorem sources_of_sublist {sources : List Source} {items : List Item}
    (selected : items.Sublist (sources.filterMap derive)) :
    ∃ chosen, chosen.Sublist sources ∧ DerivedFrom derive chosen items := by
  induction sources generalizing items with
  | nil =>
      cases selected
      exact ⟨[], .slnil, .nil⟩
  | cons source sources induction =>
      cases hderived : derive source with
      | none =>
          rw [List.filterMap_cons_none hderived] at selected
          obtain ⟨chosen, hchosen, hitems⟩ := induction selected
          exact ⟨chosen, hchosen.cons source, hitems⟩
      | some item =>
          rw [List.filterMap_cons_some hderived] at selected
          cases selected with
          | cons _ selected =>
              obtain ⟨chosen, hchosen, hitems⟩ := induction selected
              exact ⟨chosen, hchosen.cons source, hitems⟩
          | cons_cons _ selected =>
              obtain ⟨chosen, hchosen, hitems⟩ := induction selected
              exact ⟨source :: chosen, hchosen.cons_cons source,
                .cons hderived hitems⟩

/-- Distinct sources can be found for what is selected in any order. -/
theorem sources_of_subperm {sources : List Source} {items : List Item}
    (distinct : sources.Nodup)
    (selected : items.Subperm (sources.filterMap derive)) :
    ∃ chosen : List Source, chosen.Nodup ∧ (∀ source ∈ chosen, source ∈ sources) ∧
      DerivedFrom derive chosen items := by
  obtain ⟨ordered, hperm, hsublist⟩ := selected
  obtain ⟨sorted, hsorted, hderived⟩ := sources_of_sublist hsublist
  obtain ⟨chosen, hitems, hchosen⟩ :=
    List.perm_comp_forall₂ hperm.symm (List.Forall₂.flip hderived)
  refine ⟨chosen, hchosen.nodup_iff.mpr (distinct.sublist hsorted), ?_,
    List.Forall₂.flip hitems⟩
  intro source hsource
  exact hsorted.subset (hchosen.mem_iff.mp hsource)

end EmbeddedPortfolio.Selection
