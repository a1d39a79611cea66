import Mathlib.Tactic.Linarith
import EmbeddedPortfolio.Detector.Decode
import EmbeddedPortfolio.Selection.Sources

namespace EmbeddedPortfolio.Detector

open EmbeddedPortfolio.Program
open EmbeddedPortfolio.Selection

/-! What a caller may rely on in the detections `decode_yolo` returns. -/

structure LetterboxInfo.Valid (lb : LetterboxInfo ℚ) : Prop where
  scale : 0 < lb.scale
  srcW : 1 ≤ lb.srcW
  srcH : 1 ≤ lb.srcH

structure Detection.InFrame (lb : LetterboxInfo ℚ) (det : Detection ℚ) :
    Prop where
  x : 0 ≤ det.x
  y : 0 ≤ det.y
  w : 0 ≤ det.w
  h : 0 ≤ det.h
  right : det.x + det.w ≤ lb.srcW
  bottom : det.y + det.h ≤ lb.srcH

theorem stdClamp_mem {low high : ℚ} (value : ℚ) (ordered : low ≤ high) :
    low ≤ stdClamp value low high ∧ stdClamp value low high ≤ high := by
  unfold stdClamp
  split_ifs with hlow hhigh
  · exact ⟨le_rfl, ordered⟩
  · exact ⟨ordered, le_rfl⟩
  · exact ⟨le_of_not_gt hlow, le_of_not_gt hhigh⟩

/-- The upper limit of the second clamp leaves the far edge inside. -/
theorem clamp_span {extent : Int} (positive : 1 ≤ extent) (start span : ℚ) :
    let start := stdClamp start 0 ((extent - 1 : Int) : ℚ)
    let span := stdClamp span 0 ((extent : ℚ) - start)
    0 ≤ start ∧ 0 ≤ span ∧ start + span ≤ extent := by
  intro start' span'
  have hextent : (1 : ℚ) ≤ extent := by
    exact_mod_cast positive
  have hstart : 0 ≤ start' ∧ start' ≤ ((extent - 1 : Int) : ℚ) := by
    apply stdClamp_mem
    push_cast
    linarith
  have hlimit : start' ≤ extent - 1 := by
    exact_mod_cast hstart.2
  have hspan : 0 ≤ span' ∧ span' ≤ (extent : ℚ) - start' := by
    apply stdClamp_mem
    linarith
  exact ⟨hstart.1, hspan.1, by linarith [hspan.2]⟩

theorem unletterbox_inFrame {lb : LetterboxInfo ℚ} (valid : lb.Valid)
    (cx cy bw bh : ℚ) : (unletterbox cx cy bw bh lb).InFrame lb := by
  obtain ⟨hx, hw, hright⟩ := clamp_span valid.srcW
    ((cx - bw * 0.5 - lb.padX) / lb.scale) (bw / lb.scale)
  obtain ⟨hy, hh, hbottom⟩ := clamp_span valid.srcH
    ((cy - bh * 0.5 - lb.padY) / lb.scale) (bh / lb.scale)
  exact ⟨hx, hy, hw, hh, hright, hbottom⟩

/-- Only indices of the scanned classes are ever recorded. -/
theorem scan_index_lt (score : Nat → ℚ) {limit : Int} {classes : List Nat}
    (scanned : ∀ c ∈ classes, (c : Int) < limit) (best : ℚ × Int)
    (start : best.2 < limit) :
    (classes.foldl (fun best (c : Nat) =>
      if best.1 < score c then (score c, (c : Int)) else best) best).2 <
        limit := by
  induction classes generalizing best with
  | nil => exact start
  | cons c classes induction =>
      have hc := scanned c (.head classes)
      apply induction (fun later hlater => scanned later (.tail c hlater))
      dsimp only
      split
      · exact hc
      · exact start

theorem bestClass_index_lt (readAttr : Int → Reading ℚ ℚ)
    (clsOff numClasses : Int) (memory : Int → ℚ)
    (found : 0 ≤ ((bestClass readAttr clsOff numClasses).value memory).2) :
    ((bestClass readAttr clsOff numClasses).value memory).2 < numClasses := by
  rw [bestClass_value] at found ⊢
  have hscanned : ∀ c ∈ List.range numClasses.toNat,
      (c : Int) < max 0 numClasses := by
    intro c hc
    rw [List.mem_range] at hc
    omega
  have hbound := scan_index_lt
    (fun c => (readAttr (clsOff + c)).value memory) hscanned (0, -1) (by omega)
  dsimp only at found hbound ⊢
  omega

/-- What a candidate that is let through looks like. -/
theorem decodeCandidate_some {readAttr : Int → Reading ℚ ℚ} {hasObj : Bool}
    {clsOff : Int} {lb : LetterboxInfo ℚ} {cfg : PostProcessConfig ℚ}
    {memory : Int → ℚ} {det : Detection ℚ} (valid : lb.Valid)
    (decoded : (decodeCandidate readAttr hasObj clsOff lb cfg).value memory =
      some det) :
    det.InFrame lb ∧ cfg.confThreshold ≤ det.score ∧
      0 ≤ det.classId ∧ det.classId < cfg.numClasses := by
  simp only [decodeCandidate, Reading.value_bind, Reading.value_ite,
    Reading.value_pure] at decoded
  split at decoded
  · cases decoded
  · split at decoded
    · cases decoded
    · rename_i accepted
      rw [not_or, not_lt, not_lt] at accepted
      cases decoded
      obtain ⟨hx, hy, hw, hh, hright, hbottom⟩ := unletterbox_inFrame valid
        ((readAttr 0).value memory) ((readAttr 1).value memory)
        ((readAttr 2).value memory) ((readAttr 3).value memory)
      exact ⟨⟨hx, hy, hw, hh, hright, hbottom⟩, accepted.2, accepted.1,
        bestClass_index_lt readAttr clsOff cfg.numClasses memory accepted.1⟩

/-- What `decode_yolo` makes of candidate `box`. -/
def candidate (rows cols : Int) (lb : LetterboxInfo ℚ)
    (cfg : PostProcessConfig ℚ) (memory : Int → ℚ) (box : Nat) :
    Option (Detection ℚ) :=
  (decodeCandidate
    (fun attr => Reading.read (cellIndex cfg.transposed cols box attr))
    (hasObjectness rows cols cfg) (classOffset (hasObjectness rows cols cfg))
    lb cfg).value memory

theorem decodeRaw_value (rows cols : Int) (lb : LetterboxInfo ℚ)
    (cfg : PostProcessConfig ℚ) (memory : Int → ℚ) :
    (decodeRaw rows cols lb cfg).value memory =
      (List.range (numBoxes rows cols cfg.transposed).toNat).filterMap
        (candidate rows cols lb cfg memory) := by
  simp only [decodeRaw, Reading.value_collect]
  rfl

structure OutputContract (rows cols : Int) (lb : LetterboxInfo ℚ)
    (cfg : PostProcessConfig ℚ) (memory : Int → ℚ)
    (result : List (Detection ℚ)) : Prop where
  inFrame : ∀ det ∈ result, det.InFrame lb
  confident : ∀ det ∈ result, cfg.confThreshold ≤ det.score
  labelled : ∀ det ∈ result, 0 ≤ det.classId ∧ det.classId < cfg.numClasses
  falling : result.Pairwise fun earlier later => later.score ≤ earlier.score
  bounded : (result.length : Int) ≤ cfg.maxDetections
  ownBoxes : ∃ boxes : List Nat, boxes.Nodup ∧
    (∀ box ∈ boxes, (box : Int) < numBoxes rows cols cfg.transposed) ∧
    DerivedFrom (candidate rows cols lb cfg memory) boxes result

/-- The tensor may have any shape and hold any values. -/
theorem decodeYolo_outputContract (scoreSort : ScoreSort ℚ) (rows cols : Int)
    (lb : LetterboxInfo ℚ) (cfg : PostProcessConfig ℚ) (memory : Int → ℚ)
    (valid : lb.Valid) (positive : 1 ≤ cfg.maxDetections) :
    OutputContract rows cols lb cfg memory
      ((decodeYolo scoreSort.sort rows cols lb cfg).value memory) := by
  simp only [decodeYolo, Reading.value_bind, Reading.value_pure,
    decodeRaw_value]
  generalize hraw : (List.range
    (numBoxes rows cols cfg.transposed).toNat).filterMap
      (candidate rows cols lb cfg memory) = raw
  have hsublist := nms_sublist scoreSort raw cfg.iouThreshold cfg.maxDetections
  have hsubperm := hsublist.subperm.trans (scoreSort.permutes raw).subperm
  have hdecoded : ∀ det ∈ nms scoreSort.sort raw cfg.iouThreshold
      cfg.maxDetections, det.InFrame lb ∧ cfg.confThreshold ≤ det.score ∧
        0 ≤ det.classId ∧ det.classId < cfg.numClasses := by
    intro det hdet
    have hmember := hsubperm.subset hdet
    rw [← hraw] at hmember
    obtain ⟨box, _, hbox⟩ := List.mem_filterMap.mp hmember
    exact decodeCandidate_some valid hbox
  refine ⟨fun det hdet => (hdecoded det hdet).1,
    fun det hdet => (hdecoded det hdet).2.1,
    fun det hdet => (hdecoded det hdet).2.2,
    (scoreSort.falling raw).sublist hsublist,
    nms_length scoreSort raw cfg.iouThreshold positive, ?_⟩
  rw [← hraw] at hsubperm ⊢
  obtain ⟨boxes, hnodup, hboxes, hderived⟩ :=
    sources_of_subperm List.nodup_range hsubperm
  refine ⟨boxes, hnodup, ?_, hderived⟩
  intro box hbox
  have hrange := List.mem_range.mp (hboxes box hbox)
  omega

/-- A row of the `4 + C` layout whose box reaches far out of the frame. -/
theorem decodeYolo_outputContract_outOfFrame :
    (⟨1 / 2, 0, 8, 64, 48⟩ : LetterboxInfo ℚ).Valid ∧ (1 : Int) ≤ 300 ∧
      OutputContract 1 6 ⟨1 / 2, 0, 8, 64, 48⟩ ⟨2, 1 / 4, 9 / 20, 300, false⟩
        (fun index => (900 - 100 * index : ℚ))
        ((decodeYolo insertionSort.sort 1 6 ⟨1 / 2, 0, 8, 64, 48⟩
          ⟨2, 1 / 4, 9 / 20, 300, false⟩).value
            (fun index => (900 - 100 * index : ℚ))) :=
  ⟨⟨by norm_num, by decide, by decide⟩, by decide,
    decodeYolo_outputContract insertionSort _ _ _ _ _
      ⟨by norm_num, by decide, by decide⟩ (by decide)⟩

end EmbeddedPortfolio.Detector
