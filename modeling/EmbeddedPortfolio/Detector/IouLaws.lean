import EmbeddedPortfolio.Detector.Detection
import EmbeddedPortfolio.Geometry.Overlap

namespace EmbeddedPortfolio.Detector

open EmbeddedPortfolio.Geometry

/-! `iou` as a similarity of boxes, in exact arithmetic. -/

def Detection.area (box : Detection ℚ) : ℚ :=
  box.w * box.h

/-- The points strictly inside the box. -/
def Detection.interior (box : Detection ℚ) : Set (ℚ × ℚ) :=
  Set.Ioo box.x (box.x + box.w) ×ˢ Set.Ioo box.y (box.y + box.h)

theorem intersection_eq (a b : Detection ℚ) :
    intersection a b =
      overlap a.x a.w b.x b.w * overlap a.y a.h b.y b.h := by
  simp only [intersection, overlap, stdMax_eq_max, stdMin_eq_min]

theorem iou_eq (a b : Detection ℚ) :
    iou a b = jaccard a.area b.area (intersection a b) := rfl

section Boxes

variable {a b : Detection ℚ}

theorem intersection_shares (ha : 0 ≤ a.w ∧ 0 ≤ a.h)
    (hb : 0 ≤ b.w ∧ 0 ≤ b.h) :
    Shares a.area b.area (intersection a b) := by
  rw [intersection_eq]
  have hwidth := overlap_nonneg a.x a.w b.x b.w
  have hheight := overlap_nonneg a.y a.h b.y b.h
  refine ⟨mul_nonneg hwidth hheight, ?_, ?_⟩
  · exact mul_le_mul (overlap_le_left ha.1 ..) (overlap_le_left ha.2 ..)
      hheight ha.1
  · exact mul_le_mul (overlap_le_right hb.1 ..) (overlap_le_right hb.2 ..)
      hheight hb.1

theorem intersection_eq_zero_iff (a b : Detection ℚ) :
    intersection a b = 0 ↔ Disjoint a.interior b.interior := by
  rw [intersection_eq, mul_eq_zero, overlap_eq_zero_iff, overlap_eq_zero_iff]
  exact Set.disjoint_prod.symm

theorem sides_pos (ha : 0 ≤ a.w ∧ 0 ≤ a.h) (positive : 0 < a.area) :
    0 < a.w ∧ 0 < a.h :=
  ⟨pos_of_mul_pos_left positive ha.2, pos_of_mul_pos_right positive ha.1⟩

/-- A box that is shared as a whole is shared in both directions. -/
theorem overlaps_of_intersection_eq (ha : 0 ≤ a.w ∧ 0 ≤ a.h)
    (positive : 0 < a.area) (whole : intersection a b = a.area) :
    overlap a.x a.w b.x b.w = a.w ∧ overlap a.y a.h b.y b.h = a.h := by
  have hheight := (sides_pos ha positive).2
  rw [intersection_eq] at whole
  have hproduct : 0 < overlap a.x a.w b.x b.w * overlap a.y a.h b.y b.h :=
    whole ▸ positive
  have hwidth : 0 < overlap a.x a.w b.x b.w :=
    pos_of_mul_pos_left hproduct (overlap_nonneg ..)
  exact (mul_eq_mul_iff_eq_and_eq_of_pos (overlap_le_left ha.1 ..)
    (overlap_le_left ha.2 ..) hwidth hheight).mp whole

theorem intersection_whole_iff (ha : 0 ≤ a.w ∧ 0 ≤ a.h)
    (hb : 0 ≤ b.w ∧ 0 ≤ b.h) (positiveA : 0 < a.area)
    (positiveB : 0 < b.area) :
    intersection a b = a.area ∧ intersection a b = b.area ↔
      a.x = b.x ∧ a.y = b.y ∧ a.w = b.w ∧ a.h = b.h := by
  obtain ⟨hwA, hhA⟩ := sides_pos ha positiveA
  obtain ⟨hwB, hhB⟩ := sides_pos hb positiveB
  constructor
  · intro ⟨wholeA, wholeB⟩
    obtain ⟨hwidthA, hheightA⟩ :=
      overlaps_of_intersection_eq ha positiveA wholeA
    rw [intersection_comm] at wholeB
    obtain ⟨hwidthB, hheightB⟩ :=
      overlaps_of_intersection_eq hb positiveB wholeB
    rw [overlap_comm] at hwidthB hheightB
    obtain ⟨hx, hw⟩ := eq_of_overlap_eq hwA hwB hwidthA hwidthB
    obtain ⟨hy, hh⟩ := eq_of_overlap_eq hhA hhB hheightA hheightB
    exact ⟨hx, hy, hw, hh⟩
  · intro ⟨hx, hy, hw, hh⟩
    have hsame : intersection a b = a.area := by
      rw [intersection_eq, ← hx, ← hy, ← hw, ← hh, overlap_self ha.1,
        overlap_self ha.2, Detection.area]
    refine ⟨hsame, hsame.trans ?_⟩
    rw [Detection.area, Detection.area, hw, hh]

end Boxes

/-- What makes `iou` a measure of similarity. -/
structure IouSimilarity (a b : Detection ℚ) : Prop where
  symmetric : iou a b = iou b a
  nonneg : 0 ≤ iou a b
  le_one : iou a b ≤ 1
  union : max (a.w * a.h) (b.w * b.h) ≤
    a.w * a.h + b.w * b.h - intersection a b
  same_iff : 0 < a.w * a.h → 0 < b.w * b.h →
    (iou a b = 1 ↔ a.x = b.x ∧ a.y = b.y ∧ a.w = b.w ∧ a.h = b.h)
  disjoint_iff : 0 < a.w * a.h → 0 < b.w * b.h →
    (iou a b = 0 ↔ Disjoint a.interior b.interior)

theorem iou_similarity {a b : Detection ℚ} (ha : 0 ≤ a.w ∧ 0 ≤ a.h)
    (hb : 0 ≤ b.w ∧ 0 ≤ b.h) : IouSimilarity a b := by
  have shares := intersection_shares ha hb
  refine ⟨iou_comm a b, shares.jaccard_mem.1, shares.jaccard_mem.2,
    shares.max_le_union, ?_, ?_⟩
  · intro positiveA positiveB
    rw [iou_eq, shares.jaccard_eq_one_iff positiveA]
    exact intersection_whole_iff ha hb positiveA positiveB
  · intro positiveA _
    rw [iou_eq, shares.jaccard_eq_zero_iff positiveA]
    exact intersection_eq_zero_iff a b

/-- Two boxes of which half of each is shared. -/
theorem iou_similarity_half :
    IouSimilarity ⟨0, 0, 2, 1, 0, 0⟩ ⟨1, 0, 2, 1, 0, 0⟩ :=
  iou_similarity (by norm_num) (by norm_num)

end EmbeddedPortfolio.Detector
