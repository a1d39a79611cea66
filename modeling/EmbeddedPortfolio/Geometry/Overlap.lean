import Mathlib.Algebra.Order.Field.Basic
import Mathlib.Order.CompletePartialOrder
import Mathlib.Order.Interval.Set.Disjoint
import Mathlib.Tactic.Linarith

namespace EmbeddedPortfolio.Geometry

universe u

variable {K : Type u} [Field K] [LinearOrder K]

/-! Intervals given by a start and a length, and how much of them is shared. -/

section Overlap

def overlap (start length start' length' : K) : K :=
  max 0 (min (start + length) (start' + length') - max start start')

theorem overlap_comm (start length start' length' : K) :
    overlap start length start' length' =
      overlap start' length' start length := by
  unfold overlap
  rw [min_comm, max_comm start]

theorem overlap_nonneg (start length start' length' : K) :
    0 ≤ overlap start length start' length' :=
  le_max_left _ _

theorem overlap_self {length : K} (nonneg : 0 ≤ length) (start : K) :
    overlap start length start length = length := by
  unfold overlap
  rw [min_self, max_self, add_sub_cancel_left, max_eq_right nonneg]

variable [IsStrictOrderedRing K]

theorem overlap_le_left {length : K} (nonneg : 0 ≤ length)
    (start start' length' : K) :
    overlap start length start' length' ≤ length := by
  apply max_le nonneg
  have hend := min_le_left (start + length) (start' + length')
  have hstart := le_max_left start start'
  linarith

theorem overlap_le_right {length' : K} (nonneg : 0 ≤ length')
    (start length start' : K) :
    overlap start length start' length' ≤ length' := by
  rw [overlap_comm]
  exact overlap_le_left nonneg ..

/-- An interval that is shared as a whole lies in the other one. -/
theorem within_of_overlap_eq {start length start' length' : K}
    (positive : 0 < length)
    (whole : overlap start length start' length' = length) :
    start' ≤ start ∧ start + length ≤ start' + length' := by
  unfold overlap at whole
  have hdifference : min (start + length) (start' + length') -
      max start start' = length := by
    rcases max_choice (0 : K) (min (start + length) (start' + length') -
      max start start') with hzero | hlength
    · rw [hzero] at whole
      exact absurd whole positive.ne
    · rwa [hlength] at whole
  have hend := min_le_left (start + length) (start' + length')
  have hend' := min_le_right (start + length) (start' + length')
  have hstart := le_max_left start start'
  have hstart' := le_max_right start start'
  constructor
  · linarith
  · linarith

theorem eq_of_overlap_eq {start length start' length' : K}
    (positive : 0 < length) (positive' : 0 < length')
    (whole : overlap start length start' length' = length)
    (whole' : overlap start length start' length' = length') :
    start = start' ∧ length = length' := by
  obtain ⟨hstart, _⟩ := within_of_overlap_eq positive whole
  rw [overlap_comm] at whole'
  obtain ⟨hstart', _⟩ := within_of_overlap_eq positive' whole'
  rw [overlap_comm] at whole'
  exact ⟨le_antisymm hstart' hstart, whole.symm.trans whole'⟩

theorem overlap_eq_zero_iff (start length start' length' : K) :
    overlap start length start' length' = 0 ↔
      Disjoint (Set.Ioo start (start + length))
        (Set.Ioo start' (start' + length')) := by
  rw [Set.Ioo_disjoint_Ioo]
  unfold overlap
  rw [max_eq_left_iff, sub_nonpos]

end Overlap

/-! What two measured sets share, relative to their union. -/

section Jaccard

def jaccard (first second shared : K) : K :=
  let union := first + second - shared
  if 0 < union then shared / union else 0

/-- What is shared is part of both. -/
structure Shares (first second shared : K) : Prop where
  nonneg : 0 ≤ shared
  le_first : shared ≤ first
  le_second : shared ≤ second

variable [IsStrictOrderedRing K] {first second shared : K}

namespace Shares

theorem max_le_union (shares : Shares first second shared) :
    max first second ≤ first + second - shared := by
  have hfirst := shares.le_first
  have hsecond := shares.le_second
  apply max_le
  · linarith
  · linarith

theorem shared_le_union (shares : Shares first second shared) :
    shared ≤ first + second - shared :=
  (shares.le_first.trans (le_max_left _ _)).trans shares.max_le_union

theorem jaccard_mem (shares : Shares first second shared) :
    0 ≤ jaccard first second shared ∧ jaccard first second shared ≤ 1 := by
  unfold jaccard
  dsimp only
  split
  · rename_i positive
    exact ⟨div_nonneg shares.nonneg positive.le,
      (div_le_one positive).mpr shares.shared_le_union⟩
  · exact ⟨le_rfl, zero_le_one⟩

theorem union_pos (shares : Shares first second shared)
    (positive : 0 < first) : 0 < first + second - shared :=
  positive.trans_le ((le_max_left _ _).trans shares.max_le_union)

theorem jaccard_eq_zero_iff (shares : Shares first second shared)
    (positive : 0 < first) :
    jaccard first second shared = 0 ↔ shared = 0 := by
  have hunion := shares.union_pos positive
  unfold jaccard
  dsimp only
  rw [if_pos hunion, div_eq_zero_iff, or_iff_left hunion.ne']

theorem jaccard_eq_one_iff (shares : Shares first second shared)
    (positive : 0 < first) :
    jaccard first second shared = 1 ↔ shared = first ∧ shared = second := by
  have hunion := shares.union_pos positive
  have hfirst := shares.le_first
  have hsecond := shares.le_second
  unfold jaccard
  dsimp only
  rw [if_pos hunion, div_eq_one_iff_eq hunion.ne']
  constructor
  · intro hequal
    constructor
    · linarith
    · linarith
  · intro ⟨hequal, hequal'⟩
    linarith

end Shares

end Jaccard

end EmbeddedPortfolio.Geometry
