import Mathlib.Algebra.Order.Group.MinMax
import Mathlib.Data.Int.Cast.Lemmas
import EmbeddedPortfolio.Detector.OutputContract

namespace EmbeddedPortfolio.Detector

/-! Boxes by their edges, and the box that `unletterbox` makes of a
prediction. -/

structure Box (Real : Type) where
  left : Real
  top : Real
  right : Real
  bottom : Real
deriving DecidableEq, Repr

namespace Box

variable {Real : Type} [LinearOrder Real]

def inter (first second : Box Real) : Box Real where
  left := max first.left second.left
  top := max first.top second.top
  right := min first.right second.right
  bottom := min first.bottom second.bottom

/-- The boxes have a positive area in common. -/
def Overlaps (first second : Box Real) : Prop :=
  (first.inter second).left < (first.inter second).right ∧
    (first.inter second).top < (first.inter second).bottom

instance (first second : Box Real) : Decidable (first.Overlaps second) :=
  inferInstanceAs (Decidable (_ ∧ _))

end Box

def Detection.box (det : Detection ℚ) : Box ℚ where
  left := det.x
  top := det.y
  right := det.x + det.w
  bottom := det.y + det.h

def LetterboxInfo.frame (lb : LetterboxInfo ℚ) : Box ℚ where
  left := 0
  top := 0
  right := lb.srcW
  bottom := lb.srcH

/-- A predicted box in source pixels. -/
def LetterboxInfo.mapBack (lb : LetterboxInfo ℚ) (cx cy bw bh : ℚ) :
    Box ℚ where
  left := (cx - bw / 2 - lb.padX) / lb.scale
  top := (cy - bh / 2 - lb.padY) / lb.scale
  right := (cx + bw / 2 - lb.padX) / lb.scale
  bottom := (cy + bh / 2 - lb.padY) / lb.scale

/-! One direction. -/

theorem stdClamp_eq {low high : ℚ} (ordered : low ≤ high) (value : ℚ) :
    stdClamp value low high = max low (min value high) := by
  unfold stdClamp
  split_ifs with hlow hhigh
  · rw [max_eq_left (min_le_of_left_le hlow.le)]
  · rw [min_eq_right hhigh.le, max_eq_right ordered]
  · rw [min_eq_left (not_lt.mp hhigh), max_eq_right (not_lt.mp hlow)]

/-- The near edge is in the frame's pixels, or the frame is covered. -/
def Unshifted (extent : Int) (near far : ℚ) : Prop :=
  (0 ≤ near ∧ near ≤ extent - 1) ∨ (near < 0 ∧ extent ≤ far)

instance (extent : Int) (near far : ℚ) :
    Decidable (Unshifted extent near far) :=
  inferInstanceAs (Decidable (_ ∨ _))

variable {extent : Int} {near far : ℚ}

/-- A box that starts before the frame keeps its full length. -/
theorem clampSpan_before (hnear : near < 0) (hfar : 0 < far)
    (positive : (1 : ℚ) ≤ extent) :
    let start := stdClamp near 0 ((extent - 1 : Int) : ℚ)
    start = 0 ∧ start + stdClamp (far - near) 0 (extent - start) =
      min (far - near) extent := by
  dsimp only
  have hstart : stdClamp near 0 ((extent - 1 : Int) : ℚ) = 0 := by
    unfold stdClamp
    exact if_pos hnear
  have hspan : 0 ≤ min (far - near) extent :=
    le_min (by linarith) (by linarith)
  rw [hstart, sub_zero, stdClamp_eq (by linarith), max_eq_right hspan,
    zero_add]
  exact ⟨rfl, rfl⟩

theorem clampSpan_inside (hnear : 0 ≤ near) (hlast : near ≤ extent - 1)
    (hle : near ≤ far) :
    let start := stdClamp near 0 ((extent - 1 : Int) : ℚ)
    start = near ∧ start + stdClamp (far - near) 0 (extent - start) =
      min far extent := by
  dsimp only
  have hstart : stdClamp near 0 ((extent - 1 : Int) : ℚ) = near := by
    push_cast
    rw [stdClamp_eq (by linarith), min_eq_left hlast, max_eq_right hnear]
  have hspan : 0 ≤ min (far - near) (extent - near) :=
    le_min (by linarith) (by linarith)
  rw [hstart, stdClamp_eq (by linarith), max_eq_right hspan,
    min_sub_sub_right, add_sub_cancel]
  exact ⟨rfl, rfl⟩

/-- A box that starts after the last pixel's near edge is moved to it. -/
theorem clampSpan_after (hnear : (extent : ℚ) - 1 < near)
    (positive : (1 : ℚ) ≤ extent) :
    stdClamp near 0 ((extent - 1 : Int) : ℚ) = extent - 1 := by
  push_cast
  rw [stdClamp_eq (by linarith), min_eq_right hnear.le,
    max_eq_right (by linarith)]

theorem clampSpan_eq_iff (positive : 1 ≤ extent) (hle : near ≤ far)
    (overlap : max near 0 < min far extent) :
    let start := stdClamp near 0 ((extent - 1 : Int) : ℚ)
    (start = max near 0 ∧
        start + stdClamp (far - near) 0 (extent - start) = min far extent) ↔
      Unshifted extent near far := by
  have hextent : (1 : ℚ) ≤ extent := by
    exact_mod_cast positive
  dsimp only
  unfold Unshifted
  rcases lt_or_ge near 0 with hbefore | hnear
  · have hfar : 0 < far := (le_max_right near 0).trans_lt
      (overlap.trans_le (min_le_left far _))
    obtain ⟨hstart, hspan⟩ := clampSpan_before hbefore hfar hextent
    rw [hspan, hstart, max_eq_right hbefore.le]
    constructor
    · intro ⟨_, hequal⟩
      refine .inr ⟨hbefore, ?_⟩
      by_contra hshort
      rw [min_eq_left (not_le.mp hshort).le] at hequal
      have hlong : far < min (far - near) extent :=
        lt_min (by linarith) (not_le.mp hshort)
      exact hlong.ne' hequal
    · intro hcovered
      rcases hcovered with hinside | hcovered
      · linarith [hinside.1]
      · refine ⟨rfl, ?_⟩
        rw [min_eq_right hcovered.2, min_eq_right (by linarith [hcovered.2])]
  · rcases le_or_gt near (extent - 1) with hlast | hafter
    · obtain ⟨hstart, hspan⟩ := clampSpan_inside hnear hlast hle
      rw [hspan, hstart, max_eq_left hnear]
      exact iff_of_true ⟨rfl, rfl⟩ (.inl ⟨hnear, hlast⟩)
    · rw [clampSpan_after hafter hextent, max_eq_left hnear]
      refine iff_of_false ?_ ?_
      · intro ⟨hmoved, _⟩
        exact hafter.ne hmoved
      · intro hunshifted
        rcases hunshifted with hinside | hcovered
        · exact hafter.not_ge hinside.2
        · exact hcovered.1.not_ge hnear

/-! Both directions. -/

theorem LetterboxInfo.mapBack_le {lb : LetterboxInfo ℚ} (valid : lb.Valid)
    (cx cy : ℚ) {bw bh : ℚ} (hbw : 0 ≤ bw) (hbh : 0 ≤ bh) :
    (lb.mapBack cx cy bw bh).left ≤ (lb.mapBack cx cy bw bh).right ∧
      (lb.mapBack cx cy bw bh).top ≤ (lb.mapBack cx cy bw bh).bottom := by
  constructor
  · apply div_le_div_of_nonneg_right _ valid.scale.le
    linarith
  · apply div_le_div_of_nonneg_right _ valid.scale.le
    linarith

/-- The clamps, on the edges of the mapped box. -/
theorem unletterbox_box {lb : LetterboxInfo ℚ} (cx cy bw bh : ℚ) :
    let mapped := lb.mapBack cx cy bw bh
    let x := stdClamp mapped.left 0 ((lb.srcW - 1 : Int) : ℚ)
    let y := stdClamp mapped.top 0 ((lb.srcH - 1 : Int) : ℚ)
    (unletterbox cx cy bw bh lb).box =
      { left := x
        top := y
        right := x + stdClamp (mapped.right - mapped.left) 0 (lb.srcW - x)
        bottom :=
          y + stdClamp (mapped.bottom - mapped.top) 0 (lb.srcH - y) } := by
  have hwidth : (lb.mapBack cx cy bw bh).right -
      (lb.mapBack cx cy bw bh).left = bw / lb.scale := by
    simp only [LetterboxInfo.mapBack]
    ring
  have hheight : (lb.mapBack cx cy bw bh).bottom -
      (lb.mapBack cx cy bw bh).top = bh / lb.scale := by
    simp only [LetterboxInfo.mapBack]
    ring
  have hhalf (side : ℚ) : side / 2 = side * 0.5 := by
    norm_num
    ring
  dsimp only
  rw [hwidth, hheight]
  simp only [Detection.box, unletterbox, LetterboxInfo.mapBack, hhalf]

theorem unletterbox_clips_iff {lb : LetterboxInfo ℚ} (valid : lb.Valid)
    {cx cy bw bh : ℚ} (hbw : 0 ≤ bw) (hbh : 0 ≤ bh)
    (overlaps : (lb.mapBack cx cy bw bh).Overlaps lb.frame) :
    (unletterbox cx cy bw bh lb).box =
        (lb.mapBack cx cy bw bh).inter lb.frame ↔
      Unshifted lb.srcW (lb.mapBack cx cy bw bh).left
          (lb.mapBack cx cy bw bh).right ∧
        Unshifted lb.srcH (lb.mapBack cx cy bw bh).top
          (lb.mapBack cx cy bw bh).bottom := by
  obtain ⟨hwidth, hheight⟩ := lb.mapBack_le valid cx cy hbw hbh
  have hx := clampSpan_eq_iff valid.srcW hwidth overlaps.1
  have hy := clampSpan_eq_iff valid.srcH hheight overlaps.2
  dsimp only at hx hy
  rw [← hx, ← hy, unletterbox_box]
  simp only [Box.inter, LetterboxInfo.frame, Box.mk.injEq]
  tauto

section Samples

def sampleLetterbox : LetterboxInfo ℚ where
  scale := 1
  padX := 0
  padY := 0
  srcW := 640
  srcH := 480

theorem sampleLetterbox_valid : sampleLetterbox.Valid :=
  ⟨by decide +kernel, by decide, by decide⟩

/-- Half of the box is outside, and the clamped box is as wide as all of it. -/
theorem left_edge_shifted :
    sampleLetterbox.Valid ∧
      (sampleLetterbox.mapBack 0 100 40 40).Overlaps sampleLetterbox.frame ∧
      (unletterbox 0 100 40 40 sampleLetterbox).box = ⟨0, 80, 40, 120⟩ ∧
      (sampleLetterbox.mapBack 0 100 40 40).inter sampleLetterbox.frame =
        ⟨0, 80, 20, 120⟩ ∧
      (unletterbox 0 100 40 40 sampleLetterbox).box ≠
        (sampleLetterbox.mapBack 0 100 40 40).inter sampleLetterbox.frame := by
  refine ⟨sampleLetterbox_valid, ?_⟩
  decide +kernel

theorem right_edge_clipped :
    (unletterbox 630 100 40 40 sampleLetterbox).box =
      (sampleLetterbox.mapBack 630 100 40 40).inter sampleLetterbox.frame :=
  (unletterbox_clips_iff sampleLetterbox_valid (by decide +kernel)
    (by decide +kernel) (by decide +kernel)).mpr (by decide +kernel)

end Samples

end EmbeddedPortfolio.Detector
