import EmbeddedPortfolio.Detector.Nms

namespace EmbeddedPortfolio.Detector

open EmbeddedPortfolio.Selection

/-! Laws of the suppression as a function of its candidates.  With distinct
scores the sort has one possible result. -/

def DistinctScores (dets : List (Detection ℚ)) : Prop :=
  dets.Pairwise fun first second => first.score ≠ second.score

instance (dets : List (Detection ℚ)) : Decidable (DistinctScores dets) :=
  inferInstanceAs (Decidable (dets.Pairwise _))

theorem DistinctScores.nodup_scores {dets : List (Detection ℚ)}
    (distinct : DistinctScores dets) :
    (dets.map Detection.score).Nodup :=
  List.pairwise_map.mpr distinct

theorem DistinctScores.eq_of_score {dets : List (Detection ℚ)}
    (distinct : DistinctScores dets) {first second : Detection ℚ}
    (hfirst : first ∈ dets) (hsecond : second ∈ dets)
    (hscore : first.score = second.score) : first = second :=
  List.inj_on_of_nodup_map distinct.nodup_scores hfirst hsecond hscore

/-- Two falling arrangements of the same distinct scores are the same list. -/
theorem DistinctScores.falling_unique {dets first second : List (Detection ℚ)}
    (distinct : DistinctScores dets)
    (hfirst : first.Perm dets) (hsecond : second.Perm dets)
    (fallingFirst : first.Pairwise
      fun earlier later => later.score ≤ earlier.score)
    (fallingSecond : second.Pairwise
      fun earlier later => later.score ≤ earlier.score) :
    first = second := by
  refine List.Perm.eq_of_pairwise ?_ fallingFirst fallingSecond
    (hfirst.trans hsecond.symm)
  intro left right hleft hright hle hge
  exact distinct.eq_of_score (hfirst.mem_iff.mp hleft)
    (hsecond.mem_iff.mp hright) (le_antisymm hge hle)

theorem ScoreSort.sort_eq_of_perm (first second : ScoreSort ℚ)
    {dets others : List (Detection ℚ)} (distinct : DistinctScores dets)
    (hperm : dets.Perm others) :
    first.sort dets = second.sort others :=
  distinct.falling_unique (first.permutes dets)
    ((second.permutes others).trans hperm.symm)
    (first.falling dets) (second.falling others)

theorem ScoreSort.sort_filter (first second : ScoreSort ℚ)
    {dets : List (Detection ℚ)} (distinct : DistinctScores dets)
    (belongs : Detection ℚ → Bool) :
    (first.sort dets).filter belongs = second.sort (dets.filter belongs) := by
  have hdistinct : DistinctScores (dets.filter belongs) := distinct.filter _
  exact hdistinct.falling_unique ((first.permutes dets).filter belongs)
    (second.permutes _) ((first.falling dets).filter belongs)
    (second.falling _)

theorem sweep_length_le (scoreSort : ScoreSort ℚ) (dets : List (Detection ℚ))
    (iouThreshold : ℚ) :
    (sweep (Overlaps iouThreshold) (unmarked (scoreSort.sort dets))).length ≤
      dets.length := by
  have hsublist := sweep_sublist (Overlaps iouThreshold)
    (unmarked (scoreSort.sort dets))
  rw [candidates_unmarked] at hsublist
  exact hsublist.length_le.trans_eq (scoreSort.permutes dets).length_eq

theorem nms_unlimited (scoreSort : ScoreSort ℚ) {dets : List (Detection ℚ)}
    (iouThreshold : ℚ) {maxOut : Int} (large : (dets.length : Int) ≤ maxOut) :
    nms scoreSort.sort dets iouThreshold maxOut =
      sweep (Overlaps iouThreshold) (unmarked (scoreSort.sort dets)) := by
  have hlength := sweep_length_le scoreSort dets iouThreshold
  rw [nms_eq_sweep]
  apply List.take_of_length_le
  omega

/-! Detections of one class are suppressed as if they were alone. -/

def ofClass (classId : Int) (dets : List (Detection ℚ)) : List (Detection ℚ) :=
  dets.filter fun det => det.classId = classId

theorem nms_ofClass (first second : ScoreSort ℚ) (dets : List (Detection ℚ))
    (distinct : DistinctScores dets) (iouThreshold : ℚ) (classId maxOut : Int)
    (large : (dets.length : Int) ≤ maxOut) :
    ofClass classId (nms first.sort dets iouThreshold maxOut) =
      nms second.sort (ofClass classId dets) iouThreshold maxOut := by
  have hwithin : ∀ chosen item : Detection ℚ,
      Overlaps iouThreshold chosen item →
        decide (item.classId = classId) = decide (chosen.classId = classId) := by
    intro chosen item hoverlaps
    rw [hoverlaps.1]
  have hclass : ((ofClass classId dets).length : Int) ≤ maxOut := by
    have hfilter : (ofClass classId dets).length ≤ dets.length :=
      List.length_filter_le _ _
    omega
  rw [nms_unlimited first iouThreshold large,
    nms_unlimited second iouThreshold hclass, ofClass,
    sweep_filter (Overlaps iouThreshold) hwithin,
    unmarked_filter fun det : Detection ℚ => decide (det.classId = classId),
    first.sort_filter second distinct, ofClass]

theorem nms_ofClass_interleaved :
    DistinctScores
        [⟨0, 0, 10, 10, 1 / 2, 7⟩, ⟨1, 0, 10, 10, 3 / 4, 2⟩,
          ⟨1, 0, 10, 10, 2 / 3, 7⟩] ∧
      (3 : Int) ≤ 3 ∧
      ofClass 7
          (nms insertionSort.sort
            [⟨0, 0, 10, 10, 1 / 2, 7⟩, ⟨1, 0, 10, 10, 3 / 4, 2⟩,
              ⟨1, 0, 10, 10, 2 / 3, 7⟩] (1 / 2) 3) =
        nms insertionSort.sort
          (ofClass 7
            [⟨0, 0, 10, 10, 1 / 2, 7⟩, ⟨1, 0, 10, 10, 3 / 4, 2⟩,
              ⟨1, 0, 10, 10, 2 / 3, 7⟩]) (1 / 2) 3 :=
  ⟨by decide +kernel, by decide,
    nms_ofClass insertionSort insertionSort _ (by decide +kernel) _ 7 3
      (by decide)⟩

/-! The order of the candidates does not matter. -/

theorem nms_perm (first second : ScoreSort ℚ) (dets others : List (Detection ℚ))
    (permuted : dets.Perm others) (distinct : DistinctScores dets)
    (iouThreshold : ℚ) (maxOut : Int) :
    nms first.sort dets iouThreshold maxOut =
      nms second.sort others iouThreshold maxOut := by
  rw [nms, nms, first.sort_eq_of_perm second distinct permuted]

theorem nms_perm_swapped :
    List.Perm
        [(⟨0, 0, 10, 10, 1 / 2, 7⟩ : Detection ℚ), ⟨1, 0, 10, 10, 3 / 4, 7⟩]
        [⟨1, 0, 10, 10, 3 / 4, 7⟩, ⟨0, 0, 10, 10, 1 / 2, 7⟩] ∧
      DistinctScores [⟨0, 0, 10, 10, 1 / 2, 7⟩, ⟨1, 0, 10, 10, 3 / 4, 7⟩] ∧
      nms insertionSort.sort
          [⟨0, 0, 10, 10, 1 / 2, 7⟩, ⟨1, 0, 10, 10, 3 / 4, 7⟩] (1 / 2) 1 =
        nms insertionSort.sort
          [⟨1, 0, 10, 10, 3 / 4, 7⟩, ⟨0, 0, 10, 10, 1 / 2, 7⟩] (1 / 2) 1 :=
  ⟨List.Perm.swap _ _ [], by decide +kernel,
    nms_perm insertionSort insertionSort _ _ (List.Perm.swap _ _ [])
      (by decide +kernel) _ 1⟩

/-! The limit cuts the list off, down to a limit of one. -/

theorem nms_nil (scoreSort : ScoreSort ℚ) (iouThreshold : ℚ) (maxOut : Int) :
    nms scoreSort.sort [] iouThreshold maxOut = [] := by
  have hsorted : scoreSort.sort [] = [] := (scoreSort.permutes []).eq_nil
  rw [nms, hsorted, List.map_nil, nmsLoop]

-- The first detection is kept before the limit is looked at.
theorem nms_ne_nil (scoreSort : ScoreSort ℚ) {dets : List (Detection ℚ)}
    (nonempty : dets ≠ []) (iouThreshold : ℚ) (maxOut : Int) :
    nms scoreSort.sort dets iouThreshold maxOut ≠ [] := by
  cases hsorted : scoreSort.sort dets with
  | nil =>
      have hperm := scoreSort.permutes dets
      rw [hsorted] at hperm
      exact absurd hperm.nil_eq.symm nonempty
  | cons det rest =>
      have hone : 0 < (max 1 maxOut).toNat := by omega
      obtain ⟨limit, hlimit⟩ := Nat.exists_eq_succ_of_ne_zero hone.ne'
      rw [nms_eq_sweep, hsorted, unmarked, List.map_cons, sweep_chosen, hlimit]
      simp

theorem nms_take_iff (scoreSort : ScoreSort ℚ) (dets : List (Detection ℚ))
    (iouThreshold : ℚ) (maxOut : Int) (nonneg : 0 ≤ maxOut) :
    nms scoreSort.sort dets iouThreshold maxOut =
        (nms scoreSort.sort dets iouThreshold dets.length).take
          maxOut.toNat ↔
      1 ≤ maxOut ∨ dets = [] := by
  constructor
  · intro hcut
    by_contra hneither
    obtain ⟨hzero, hnonempty⟩ := not_or.mp hneither
    have hmaxOut : maxOut = 0 := by omega
    subst hmaxOut
    exact nms_ne_nil scoreSort hnonempty iouThreshold 0 (by simpa using hcut)
  · intro hcases
    rcases hcases with hpositive | hempty
    · have hlimit : (max 1 maxOut).toNat = maxOut.toNat := by omega
      rw [nms_unlimited scoreSort iouThreshold le_rfl, nms_eq_sweep, hlimit]
    · subst hempty
      simp [nms_nil]

theorem nms_take_iff_overlapping :
    (0 : Int) ≤ 1 ∧
      (nms insertionSort.sort
          [⟨0, 0, 10, 10, 1 / 2, 7⟩, ⟨20, 0, 10, 10, 3 / 4, 7⟩] (1 / 2) 1 =
        (nms insertionSort.sort
          [⟨0, 0, 10, 10, 1 / 2, 7⟩, ⟨20, 0, 10, 10, 3 / 4, 7⟩] (1 / 2)
          (2 : Nat)).take (1 : Int).toNat ↔
        (1 : Int) ≤ 1 ∨
          [(⟨0, 0, 10, 10, 1 / 2, 7⟩ : Detection ℚ),
            ⟨20, 0, 10, 10, 3 / 4, 7⟩] = []) :=
  ⟨by decide, nms_take_iff insertionSort _ _ 1 (by decide)⟩

theorem nms_zero_keeps_one :
    ¬ ∀ (scoreSort : ScoreSort ℚ) (dets : List (Detection ℚ))
        (iouThreshold : ℚ) (maxOut : Int), 0 ≤ maxOut →
      nms scoreSort.sort dets iouThreshold maxOut =
        (nms scoreSort.sort dets iouThreshold dets.length).take
          maxOut.toNat := by
  intro hclaim
  have hempty := hclaim insertionSort [⟨0, 0, 10, 10, 1 / 2, 7⟩] (1 / 2) 0
    (by decide)
  exact nms_ne_nil insertionSort (List.cons_ne_nil _ _) (1 / 2) 0 hempty

end EmbeddedPortfolio.Detector
