import EmbeddedPortfolio.Detector.OutputContract
import EmbeddedPortfolio.Selection.Argmax

namespace EmbeddedPortfolio.Detector

open EmbeddedPortfolio.Program
open EmbeddedPortfolio.Selection

/-! Which candidates `decode_yolo` hands to the suppression, and the early
objectness reject. -/

section Tensor

variable (rows cols : Int) (lb : LetterboxInfo ℚ) (cfg : PostProcessConfig ℚ)
variable (memory : Int → ℚ)

def cellAt (box : Nat) (attr : Int) : ℚ :=
  memory (cellIndex cfg.transposed cols box attr)

def classScore (box c : Nat) : ℚ :=
  cellAt cols cfg memory box
    (classOffset (hasObjectness rows cols cfg) + c)

def boxObjectness (box : Nat) : ℚ :=
  if hasObjectness rows cols cfg then cellAt cols cfg memory box 4 else 1

/-- Scores as a sigmoid leaves them. -/
structure SigmoidScores : Prop where
  classes : ∀ box : Nat, (box : Int) < numBoxes rows cols cfg.transposed →
    ∀ c : Nat, (c : Int) < cfg.numClasses →
      classScore rows cols cfg memory box c ≤ 1
  objectness : hasObjectness rows cols cfg →
    ∀ box : Nat, (box : Int) < numBoxes rows cols cfg.transposed →
      0 ≤ cellAt cols cfg memory box 4 ∧
        cellAt cols cfg memory box 4 ≤ 1

/-- `c` is the label of a candidate that is to be kept. -/
structure Qualifies (box c : Nat) : Prop where
  label : FirstMaximum (classScore rows cols cfg memory box)
    cfg.numClasses.toNat c
  positive : 0 < classScore rows cols cfg memory box c
  confident : cfg.confThreshold ≤
    classScore rows cols cfg memory box c *
      boxObjectness rows cols cfg memory box

def labelled (box c : Nat) : Detection ℚ :=
  { unletterbox (cellAt cols cfg memory box 0)
      (cellAt cols cfg memory box 1) (cellAt cols cfg memory box 2)
      (cellAt cols cfg memory box 3) lb with
    score := classScore rows cols cfg memory box c *
      boxObjectness rows cols cfg memory box
    classId := c }

/-- The kept candidates in order, once each, with their labels. -/
def SelectsExactly (raw : List (Detection ℚ)) : Prop :=
  ∃ chosen : List (Nat × Nat),
    raw = chosen.map (fun entry =>
      labelled rows cols lb cfg memory entry.1 entry.2) ∧
    chosen.Pairwise (fun earlier later => earlier.1 < later.1) ∧
    ∀ box c : Nat, (box, c) ∈ chosen ↔
      (box : Int) < numBoxes rows cols cfg.transposed ∧
        Qualifies rows cols cfg memory box c

end Tensor

section Selection

variable {rows cols : Int} {lb : LetterboxInfo ℚ} {cfg : PostProcessConfig ℚ}
variable {memory : Int → ℚ}

theorem bestClass_eq_scan (box : Nat) :
    (bestClass
      (fun attr => Reading.read (cellIndex cfg.transposed cols box attr))
      (classOffset (hasObjectness rows cols cfg)) cfg.numClasses).value
        memory =
      scan (classScore rows cols cfg memory box) 0 cfg.numClasses.toNat := by
  rw [bestClass_value]
  rfl

theorem objectness_eq (box : Nat) :
    (objectness
      (fun attr => Reading.read (cellIndex cfg.transposed cols box attr))
      (hasObjectness rows cols cfg)).value memory =
      boxObjectness rows cols cfg memory box := by
  rw [objectness, boxObjectness]
  split
  · rfl
  · rfl

theorem candidate_eq (box : Nat) :
    candidate rows cols lb cfg memory box =
      let obj := boxObjectness rows cols cfg memory box
      let best := scan (classScore rows cols cfg memory box) 0
        cfg.numClasses.toNat
      if obj < cfg.confThreshold * 0.5 ∧ hasObjectness rows cols cfg then none
      else if best.2 < 0 ∨ best.1 * obj < cfg.confThreshold then none
      else some { unletterbox (cellAt cols cfg memory box 0)
          (cellAt cols cfg memory box 1) (cellAt cols cfg memory box 2)
          (cellAt cols cfg memory box 3) lb with
        score := best.1 * obj
        classId := best.2 } := by
  simp only [candidate, decodeCandidate, Reading.value_bind, Reading.value_ite,
    Reading.value_pure, objectness_eq, bestClass_eq_scan]
  rfl

/-- A candidate rejected early has no score that reaches the threshold. -/
theorem early_reject_sound {obj conf score : ℚ} (nonneg : 0 ≤ conf)
    (present : 0 ≤ obj) (sigmoid : score ≤ 1)
    (rejected : obj < conf * 0.5) : score * obj < conf := by
  have hscore : score * obj ≤ obj := mul_le_of_le_one_left present sigmoid
  have hhalf : conf * 0.5 ≤ conf :=
    mul_le_of_le_one_right nonneg (by norm_num)
  linarith

theorem candidate_rejected_early {box : Nat}
    (rejected : boxObjectness rows cols cfg memory box <
      cfg.confThreshold * 0.5 ∧ hasObjectness rows cols cfg) :
    candidate rows cols lb cfg memory box = none := by
  rw [candidate_eq]
  exact if_pos rejected

theorem candidate_unlabelled {box : Nat}
    (unlabelled : ∀ c < cfg.numClasses.toNat,
      classScore rows cols cfg memory box c ≤ 0) :
    candidate rows cols lb cfg memory box = none := by
  rw [candidate_eq]
  rcases scan_cases (classScore rows cols cfg memory box) 0
    cfg.numClasses.toNat with ⟨hnone, _⟩ | ⟨c, hmaximum, habove, _⟩
  · simp [hnone]
  · exact absurd habove (not_lt_of_ge (unlabelled c hmaximum.inside))

theorem candidate_labelled {box c : Nat}
    (passes : ¬ (boxObjectness rows cols cfg memory box <
      cfg.confThreshold * 0.5 ∧ hasObjectness rows cols cfg))
    (label : FirstMaximum (classScore rows cols cfg memory box)
      cfg.numClasses.toNat c)
    (positive : 0 < classScore rows cols cfg memory box c) :
    candidate rows cols lb cfg memory box =
      if classScore rows cols cfg memory box c *
          boxObjectness rows cols cfg memory box < cfg.confThreshold then none
      else some (labelled rows cols lb cfg memory box c) := by
  have hfound := scan_eq_of_firstMaximum label positive
  have hclass : ¬ (c : Int) < 0 := by omega
  rw [candidate_eq]
  simp only [if_neg passes, hfound, hclass, false_or]
  rfl

/-- A qualifying candidate is never rejected early. -/
theorem Qualifies.not_rejected {box c : Nat}
    (qualifies : Qualifies rows cols cfg memory box c)
    (nonneg : 0 ≤ cfg.confThreshold)
    (sigmoid : SigmoidScores rows cols cfg memory)
    (inside : (box : Int) < numBoxes rows cols cfg.transposed) :
    ¬ (boxObjectness rows cols cfg memory box < cfg.confThreshold * 0.5 ∧
      hasObjectness rows cols cfg) := by
  intro hrejected
  have hpresent : 0 ≤ boxObjectness rows cols cfg memory box := by
    rw [boxObjectness, if_pos hrejected.2]
    exact (sigmoid.objectness hrejected.2 box inside).1
  have hclass : (c : Int) < cfg.numClasses :=
    Int.lt_toNat.mp qualifies.label.inside
  exact absurd qualifies.confident
    (not_le_of_gt (early_reject_sound nonneg hpresent
      (sigmoid.classes box inside c hclass) hrejected.1))

theorem candidate_eq_some_iff (nonneg : 0 ≤ cfg.confThreshold)
    (sigmoid : SigmoidScores rows cols cfg memory) {box : Nat}
    (inside : (box : Int) < numBoxes rows cols cfg.transposed)
    (det : Detection ℚ) :
    candidate rows cols lb cfg memory box = some det ↔
      ∃ c, Qualifies rows cols cfg memory box c ∧
        labelled rows cols lb cfg memory box c = det := by
  constructor
  · intro hdecoded
    by_cases hrejected : boxObjectness rows cols cfg memory box <
        cfg.confThreshold * 0.5 ∧ hasObjectness rows cols cfg
    · rw [candidate_rejected_early hrejected] at hdecoded
      cases hdecoded
    · rcases scan_cases (classScore rows cols cfg memory box) 0
        cfg.numClasses.toNat with ⟨_, hbelow⟩ | ⟨c, hmaximum, habove, _⟩
      · rw [candidate_unlabelled hbelow] at hdecoded
        cases hdecoded
      · rw [candidate_labelled hrejected hmaximum habove] at hdecoded
        split at hdecoded
        · cases hdecoded
        · rename_i hconfident
          exact ⟨c, ⟨hmaximum, habove, le_of_not_gt hconfident⟩,
            Option.some.inj hdecoded⟩
  · rintro ⟨c, hqualifies, rfl⟩
    have hpasses := hqualifies.not_rejected nonneg sigmoid inside
    rw [candidate_labelled hpasses hqualifies.label hqualifies.positive,
      if_neg (not_lt_of_ge hqualifies.confident)]

end Selection

/-! Reading the labels back off the decoded list. -/

def labelOf (decode : Nat → Option (Detection ℚ)) (box : Nat) :
    Option (Nat × Nat) :=
  (decode box).map fun det => (box, det.classId.toNat)

section Labels

variable {rows cols : Int} {lb : LetterboxInfo ℚ} {cfg : PostProcessConfig ℚ}
variable {memory : Int → ℚ} {decode : Nat → Option (Detection ℚ)} {box : Nat}
variable (decodes : ∀ det, decode box = some det ↔
  ∃ c, Qualifies rows cols cfg memory box c ∧
    labelled rows cols lb cfg memory box c = det)

include decodes

theorem labelOf_eq_some_iff (entry : Nat × Nat) :
    labelOf decode box = some entry ↔
      entry.1 = box ∧ Qualifies rows cols cfg memory box entry.2 := by
  obtain ⟨named, c⟩ := entry
  constructor
  · intro hlabel
    obtain ⟨det, hdecoded, hentry⟩ := Option.map_eq_some_iff.mp hlabel
    obtain ⟨label, hqualifies, rfl⟩ := (decodes det).mp hdecoded
    cases hentry
    exact ⟨rfl, hqualifies⟩
  · rintro ⟨rfl, hqualifies⟩
    rw [labelOf, (decodes _).mpr ⟨c, hqualifies, rfl⟩]
    rfl

theorem decode_eq_labelled :
    decode box = (labelOf decode box).map fun entry =>
      labelled rows cols lb cfg memory entry.1 entry.2 := by
  cases hdecoded : decode box with
  | none => simp [labelOf, hdecoded]
  | some det =>
      obtain ⟨c, _, rfl⟩ := (decodes det).mp hdecoded
      rw [labelOf, hdecoded]
      rfl

end Labels

end EmbeddedPortfolio.Detector
