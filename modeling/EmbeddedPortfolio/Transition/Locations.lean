import Mathlib.Algebra.BigOperators.Group.Finset.Piecewise
import Mathlib.Data.Fintype.Basic

namespace EmbeddedPortfolio.Transition

universe u v

/-! Counting the threads that stand at one program location. -/

namespace Locations

variable {Thread : Type u} {Location : Type v}
variable [Fintype Thread] [DecidableEq Thread] [DecidableEq Location]

def count (location : Thread → Location) (target : Location) : Nat :=
  (Finset.univ.filter fun thread => location thread = target).card

def move (location : Thread → Location) (thread : Thread)
    (target : Location) : Thread → Location :=
  Function.update location thread target

omit [Fintype Thread] [DecidableEq Location] in
@[simp] theorem move_self (location : Thread → Location) (thread : Thread)
    (target : Location) : move location thread target thread = target := by
  simp [move]

omit [Fintype Thread] [DecidableEq Location] in
theorem move_other (location : Thread → Location) {thread other : Thread}
    (target : Location) (hne : other ≠ thread) :
    move location thread target other = location other := by
  simp [move, hne]

omit [DecidableEq Thread] in
theorem count_eq_sum (location : Thread → Location) (target : Location) :
    count location target =
      ∑ thread, if location thread = target then 1 else 0 :=
  Finset.card_filter ..

omit [DecidableEq Thread] in
theorem count_pos_iff {location : Thread → Location} {target : Location} :
    0 < count location target ↔ ∃ thread, location thread = target := by
  simp [count, Finset.card_pos, Finset.filter_nonempty_iff]

omit [DecidableEq Thread] in
theorem count_eq_zero_iff {location : Thread → Location} {target : Location} :
    count location target = 0 ↔ ∀ thread, location thread ≠ target := by
  simp [count, Finset.filter_eq_empty_iff]

/-- Moving one thread takes it from the count of the place it leaves and adds
it to the count of the place it enters. -/
theorem count_move (location : Thread → Location) (thread : Thread)
    (target place : Location) :
    count (move location thread target) place +
        (if location thread = place then 1 else 0) =
      count location place + (if target = place then 1 else 0) := by
  have hrest : ∑ other ∈ Finset.univ.erase thread,
        (if move location thread target other = place then 1 else 0) =
      ∑ other ∈ Finset.univ.erase thread,
        (if location other = place then 1 else 0) := by
    apply Finset.sum_congr rfl
    intro other hother
    rw [move_other location target (Finset.ne_of_mem_erase hother)]
  have hmember := Finset.mem_univ thread
  rw [count_eq_sum, count_eq_sum, ← Finset.add_sum_erase _ _ hmember,
    ← Finset.add_sum_erase _ _ hmember, hrest, move_self]
  omega

theorem count_leave {location : Thread → Location} {thread : Thread}
    {source : Location} (hsource : location thread = source)
    (target place : Location) :
    count (move location thread target) place +
        (if source = place then 1 else 0) =
      count location place + (if target = place then 1 else 0) := by
  subst hsource
  exact count_move location thread target place

end Locations

end EmbeddedPortfolio.Transition
