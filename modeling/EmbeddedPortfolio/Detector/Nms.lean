import EmbeddedPortfolio.Detector.Detection
import EmbeddedPortfolio.Selection.Greedy
import Mathlib.Data.List.Perm.Subperm
import Mathlib.Data.List.Sort

namespace EmbeddedPortfolio.Detector

open EmbeddedPortfolio.Selection

universe u

/-! Greedy suppression of overlapping detections. -/

/-- `std::sort` by falling score: some permutation in which no later element
compares as greater. -/
structure ScoreSort (Real : Type u) [LT Real] where
  sort : List (Detection Real) → List (Detection Real)
  permutes : ∀ dets, (sort dets).Perm dets
  sorted : ∀ dets, (sort dets).Pairwise
    fun earlier later => ¬ earlier.score < later.score

section Code

variable {Real : Type u}
variable [Add Real] [Sub Real] [Mul Real] [Div Real] [Zero Real]
variable [LT Real] [DecidableLT Real]

/-- The inner loop over `j`: each entry is a detection with its `removed` flag. -/
def removeOverlaps (iouThreshold : Real) (kept : Detection Real)
    (rest : List (Detection Real × Bool)) : List (Detection Real × Bool) :=
  rest.map fun entry =>
    if entry.2 then entry
    else if entry.1.classId = kept.classId ∧ iouThreshold < iou kept entry.1 then
      (entry.1, true)
    else entry

theorem removeOverlaps_length (iouThreshold : Real) (kept : Detection Real)
    (rest : List (Detection Real × Bool)) :
    (removeOverlaps iouThreshold kept rest).length = rest.length :=
  List.length_map ..

/-- The outer loop over `i`, on the detections from `i` on. -/
def nmsLoop (iouThreshold : Real) (maxOut : Int)
    (keep : List (Detection Real)) :
    List (Detection Real × Bool) → List (Detection Real)
  | [] => keep
  | (_, true) :: rest => nmsLoop iouThreshold maxOut keep rest
  | (det, false) :: rest =>
      if maxOut ≤ (keep ++ [det]).length then keep ++ [det]
      else
        nmsLoop iouThreshold maxOut (keep ++ [det])
          (removeOverlaps iouThreshold det rest)
termination_by rest => rest.length
decreasing_by all_goals simp [removeOverlaps_length]

def nms (sort : List (Detection Real) → List (Detection Real))
    (dets : List (Detection Real)) (iouThreshold : Real) (maxOut : Int) :
    List (Detection Real) :=
  nmsLoop iouThreshold maxOut []
    ((sort dets).map fun det => (det, false))

/-! The loop is the greedy sweep, cut off at `max_out`. -/

def Overlaps (iouThreshold : Real) (kept other : Detection Real) : Prop :=
  other.classId = kept.classId ∧ iouThreshold < iou kept other

instance (iouThreshold : Real) : DecidableRel (Overlaps iouThreshold) :=
  fun kept other => inferInstanceAs
    (Decidable (other.classId = kept.classId ∧ iouThreshold < iou kept other))

theorem removeOverlaps_eq_mark (iouThreshold : Real) (kept : Detection Real)
    (rest : List (Detection Real × Bool)) :
    removeOverlaps iouThreshold kept rest =
      mark (Overlaps iouThreshold) kept rest := by
  apply List.map_congr_left
  intro entry _
  obtain ⟨det, _ | _⟩ := entry
  · by_cases hoverlaps : Overlaps iouThreshold kept det
    · have hremoved := hoverlaps
      rw [Overlaps] at hremoved
      simp [hoverlaps, hremoved]
    · have hspared := hoverlaps
      rw [Overlaps] at hspared
      simp [hoverlaps, hspared]
  · simp

theorem nmsLoop_eq_sweep (iouThreshold : Real) (maxOut : Int)
    (keep : List (Detection Real)) (rest : List (Detection Real × Bool)) :
    nmsLoop iouThreshold maxOut keep rest =
      keep ++ (sweep (Overlaps iouThreshold) rest).take
        (max 1 (maxOut - keep.length)).toNat := by
  induction keep, rest using nmsLoop.induct iouThreshold maxOut with
  | case1 keep => simp [nmsLoop]
  | case2 keep det rest induction => simpa [nmsLoop] using induction
  | case3 keep det rest full =>
      have hone : (max 1 (maxOut - keep.length)).toNat = 1 := by
        simp only [List.length_append, List.length_singleton] at full
        omega
      rw [nmsLoop, if_pos full, sweep_chosen, hone]
      simp
  | case4 keep det rest room induction =>
      have hsucc : (max 1 (maxOut - keep.length)).toNat =
          (max 1 (maxOut - (keep ++ [det]).length)).toNat + 1 := by
        simp only [List.length_append, List.length_singleton] at room ⊢
        omega
      rw [nmsLoop, if_neg room, induction, sweep_chosen, hsucc,
        removeOverlaps_eq_mark]
      simp

theorem nms_eq_sweep (sort : List (Detection Real) → List (Detection Real))
    (dets : List (Detection Real)) (iouThreshold : Real) (maxOut : Int) :
    nms sort dets iouThreshold maxOut =
      (sweep (Overlaps iouThreshold) (unmarked (sort dets))).take
        (max 1 maxOut).toNat := by
  simp [nms, nmsLoop_eq_sweep, unmarked]

end Code

section Exact

variable (scoreSort : ScoreSort ℚ)

theorem ScoreSort.falling (dets : List (Detection ℚ)) :
    (scoreSort.sort dets).Pairwise
      fun earlier later => later.score ≤ earlier.score :=
  (scoreSort.sorted dets).imp fun hscore => le_of_not_gt hscore

theorem nms_sublist (dets : List (Detection ℚ)) (iouThreshold : ℚ)
    (maxOut : Int) :
    (nms scoreSort.sort dets iouThreshold maxOut).Sublist
      (scoreSort.sort dets) := by
  rw [nms_eq_sweep]
  have hsweep := sweep_sublist (Overlaps iouThreshold)
    (unmarked (scoreSort.sort dets))
  rw [candidates_unmarked] at hsweep
  exact (List.take_sublist _ _).trans hsweep

theorem nms_length (dets : List (Detection ℚ)) (iouThreshold : ℚ)
    {maxOut : Int} (positive : 1 ≤ maxOut) :
    ((nms scoreSort.sort dets iouThreshold maxOut).length : Int) ≤ maxOut := by
  rw [nms_eq_sweep, List.length_take]
  omega

theorem nms_pairwise (dets : List (Detection ℚ)) (iouThreshold : ℚ)
    (maxOut : Int) :
    (nms scoreSort.sort dets iouThreshold maxOut).Pairwise
      fun earlier later => earlier.classId = later.classId →
        iou earlier later ≤ iouThreshold := by
  rw [nms_eq_sweep]
  apply List.Pairwise.take
  apply (sweep_pairwise (Overlaps iouThreshold) _).imp
  intro earlier later hkept hclass
  exact le_of_not_gt fun hoverlap => hkept ⟨hclass.symm, hoverlap⟩

theorem nms_complete {dets : List (Detection ℚ)} {iouThreshold : ℚ}
    {maxOut : Int}
    (below : ((nms scoreSort.sort dets iouThreshold maxOut).length : Int) <
      maxOut) :
    nms scoreSort.sort dets iouThreshold maxOut =
      sweep (Overlaps iouThreshold) (unmarked (scoreSort.sort dets)) := by
  rw [nms_eq_sweep, List.length_take] at below
  rw [nms_eq_sweep]
  apply List.take_of_length_le
  omega

structure GreedySuppression (dets : List (Detection ℚ)) (iouThreshold : ℚ)
    (maxOut : Int) (result : List (Detection ℚ)) : Prop where
  submultiset : result.Subperm dets
  falling : result.Pairwise fun earlier later => later.score ≤ earlier.score
  bounded : (result.length : Int) ≤ maxOut
  apart : ∀ first second (hfirst : first < result.length)
    (hsecond : second < result.length), first ≠ second →
      result[first].classId = result[second].classId →
        iou result[first] result[second] ≤ iouThreshold
  maximal : (result.length : Int) < maxOut →
    ∀ det, result.count det < dets.count det →
      ∃ kept ∈ result, kept.classId = det.classId ∧
        det.score ≤ kept.score ∧ iouThreshold < iou kept det

def insertionSort : ScoreSort ℚ where
  sort dets := dets.insertionSort fun first second =>
    second.score ≤ first.score
  permutes dets := List.perm_insertionSort _ dets
  sorted dets := by
    have htotal : Std.Total (α := Detection ℚ)
        fun first second => second.score ≤ first.score :=
      ⟨fun first second => le_total second.score first.score⟩
    have htrans : IsTrans (Detection ℚ)
        fun first second => second.score ≤ first.score :=
      ⟨fun _ _ _ hfirst hsecond => le_trans hsecond hfirst⟩
    exact (List.pairwise_insertionSort _ dets).imp fun hscore =>
      not_lt_of_ge hscore

theorem nms_greedySuppression (dets : List (Detection ℚ)) (iouThreshold : ℚ)
    (maxOut : Int) (positive : 1 ≤ maxOut) :
    GreedySuppression dets iouThreshold maxOut
      (nms scoreSort.sort dets iouThreshold maxOut) where
  submultiset :=
    (nms_sublist scoreSort dets iouThreshold maxOut).subperm.trans
      (scoreSort.permutes dets).subperm
  falling :=
    (scoreSort.falling dets).sublist
      (nms_sublist scoreSort dets iouThreshold maxOut)
  bounded := nms_length scoreSort dets iouThreshold positive
  apart := by
    intro first second hfirst hsecond hne hclass
    have hpairwise := List.pairwise_iff_getElem.mp
      (nms_pairwise scoreSort dets iouThreshold maxOut)
    rcases Nat.lt_or_gt_of_ne hne with hlt | hgt
    · exact hpairwise first second hfirst hsecond hlt hclass
    · rw [iou_comm]
      exact hpairwise second first hsecond hfirst hgt hclass.symm
  maximal := by
    intro below det absent
    have hcomplete := nms_complete scoreSort below
    rw [hcomplete, ← (scoreSort.permutes dets).count_eq] at absent
    rw [hcomplete]
    have hfalling : (candidates (unmarked (scoreSort.sort dets))).Pairwise
        fun earlier later => later.score ≤ earlier.score := by
      rw [candidates_unmarked]
      exact scoreSort.falling dets
    obtain ⟨kept, hkept, ⟨hclass, hoverlap⟩, hscore⟩ :=
      sweep_maximal (Overlaps iouThreshold) hfalling
        (by rwa [candidates_unmarked])
    exact ⟨kept, hkept, hclass.symm, hscore, hoverlap⟩

theorem nms_greedySuppression_overlapping :
    (1 : Int) ≤ 3 ∧
      GreedySuppression
        [⟨0, 0, 10, 10, 1 / 2, 7⟩, ⟨1, 0, 10, 10, 3 / 4, 7⟩,
          ⟨1, 0, 10, 10, 2 / 3, 2⟩] (1 / 2) 3
        (nms insertionSort.sort
          [⟨0, 0, 10, 10, 1 / 2, 7⟩, ⟨1, 0, 10, 10, 3 / 4, 7⟩,
            ⟨1, 0, 10, 10, 2 / 3, 2⟩] (1 / 2) 3) :=
  ⟨by decide, nms_greedySuppression insertionSort _ _ _ (by decide)⟩

end Exact

end EmbeddedPortfolio.Detector
