import EmbeddedPortfolio.Detector.Clipping
import EmbeddedPortfolio.Detector.Letterbox

namespace EmbeddedPortfolio.Detector

open EmbeddedPortfolio.Numeric EmbeddedPortfolio.Program

/-! The pre-processing samples forwards, the decoder maps back: the two against
each other at the cells of the placed image. -/

/-- The affine part of `unletterbox`, on a point. -/
def LetterboxInfo.sourcePoint (lb : LetterboxInfo ℚ) (X Y : ℚ) : ℚ × ℚ :=
  ((X - lb.padX) / lb.scale, (Y - lb.padY) / lb.scale)

theorem unletterbox_point (lb : LetterboxInfo ℚ) (X Y : ℚ) :
    (unletterbox X Y 0 0 lb).x =
        stdClamp (lb.sourcePoint X Y).1 0 ((lb.srcW - 1 : Int) : ℚ) ∧
      (unletterbox X Y 0 0 lb).y =
        stdClamp (lb.sourcePoint X Y).2 0 ((lb.srcH - 1 : Int) : ℚ) := by
  simp [unletterbox, LetterboxInfo.sourcePoint]

/-- The centre of a cell, along one axis. -/
def centre (position : Int) : ℚ := position + 1 / 2

theorem centre_shifted (position pad : Int) :
    centre (position + pad) - pad = centre position := by
  unfold centre
  push_cast
  ring

theorem samplePosition_eq (scale : ℚ) (position : Int) :
    samplePosition scale position =
      truncate (centre position / scale - 1 / 2) := by
  have hhalf : (0.5 : ℚ) = 1 / 2 := by norm_num
  rw [samplePosition, hhalf]
  rfl

/-- The sampled pixel's centre is less than a pixel off. -/
theorem abs_centre_samplePosition_lt (scale : ℚ) (position : Int) :
    |centre (samplePosition scale position) - centre position / scale| < 1 := by
  have hnear := abs_truncate_sub_lt (centre position / scale - 1 / 2)
  have hshift : centre (samplePosition scale position) -
      centre position / scale =
        (truncate (centre position / scale - 1 / 2) : ℚ) -
          (centre position / scale - 1 / 2) := by
    rw [samplePosition_eq, centre]
    ring
  rwa [hshift]

/-- The rounding of the placed size takes no centre out of the frame. -/
theorem centre_div_mem {src position : Int} {scale : ℚ} (hscale : 0 < scale)
    (hlow : 0 ≤ position) (hhigh : position < lround ((src : ℚ) * scale)) :
    0 ≤ centre position / scale ∧ centre position / scale ≤ src := by
  have hround := (abs_le.mp (abs_sub_lround ((src : ℚ) * scale))).1
  have hfirst : (0 : ℚ) ≤ position := by
    exact_mod_cast hlow
  have hlast : (position : ℚ) + 1 ≤ lround ((src : ℚ) * scale) := by
    exact_mod_cast hhigh
  constructor
  · apply div_nonneg _ hscale.le
    unfold centre
    linarith
  · rw [div_le_iff₀ hscale]
    unfold centre
    linarith

/-- What the two directions agree on at one cell of the placed image. -/
structure SamplingAgrees (stride dstW dstH : Int) (bgr : Int → UInt8)
    (run : Letterboxed ℚ) (y x : Int) : Prop where
  mapped : (unletterbox (centre (x + run.info.padX))
      (centre (y + run.info.padY)) 0 0 run.info).x =
        stdClamp (run.info.sourcePoint (centre (x + run.info.padX))
          (centre (y + run.info.padY))).1 0 ((run.info.srcW - 1 : Int) : ℚ) ∧
    (unletterbox (centre (x + run.info.padX))
      (centre (y + run.info.padY)) 0 0 run.info).y =
        stdClamp (run.info.sourcePoint (centre (x + run.info.padX))
          (centre (y + run.info.padY))).2 0 ((run.info.srcH - 1 : Int) : ℚ)
  copied : ∀ plane, 0 ≤ plane ∧ plane < 3 →
    run.out (planarIndex dstW dstH plane (y + run.info.padY)
      (x + run.info.padX)) =
      normalised (bgr (sampleIndex run.info.scale run.info.srcH y * stride +
        sampleIndex run.info.scale run.info.srcW x * 3 + (2 - plane)))
  nearX : |centre (sampleIndex run.info.scale run.info.srcW x) -
    (run.info.sourcePoint (centre (x + run.info.padX))
      (centre (y + run.info.padY))).1| < 1
  nearY : |centre (sampleIndex run.info.scale run.info.srcH y) -
    (run.info.sourcePoint (centre (x + run.info.padX))
      (centre (y + run.info.padY))).2| < 1
  insideX : 0 ≤ (run.info.sourcePoint (centre (x + run.info.padX))
      (centre (y + run.info.padY))).1 ∧
    (run.info.sourcePoint (centre (x + run.info.padX))
      (centre (y + run.info.padY))).1 ≤ run.info.srcW
  insideY : 0 ≤ (run.info.sourcePoint (centre (x + run.info.padX))
      (centre (y + run.info.padY))).2 ∧
    (run.info.sourcePoint (centre (x + run.info.padX))
      (centre (y + run.info.padY))).2 ≤ run.info.srcH

theorem sampling_agrees {srcW srcH dstW dstH : Int}
    (sizes : Sizes srcW srcH dstW dstH) (stride : Int) (bgr : Int → UInt8)
    (y x : Int)
    (holds : (placement srcW srcH dstW dstH : Placement ℚ).Holds y x) :
    SamplingAgrees stride dstW dstH bgr
      ((letterboxBgrToNchw srcW srcH stride dstW dstH).value bgr) y x := by
  have hinfo : ((letterboxBgrToNchw srcW srcH stride dstW dstH :
      Reading UInt8 (Letterboxed ℚ)).value bgr).info =
        (placement srcW srcH dstW dstH : Placement ℚ).toLetterboxInfo := rfl
  obtain ⟨hclampY, hclampX⟩ := sizes.clamps holds
  obtain ⟨hrow, hcol⟩ := sizes.placed_mem holds
  obtain ⟨⟨hy, hnewH⟩, hx, hnewW⟩ := id holds
  rw [placement_newH] at hnewH
  rw [placement_newW] at hnewW
  have hpoint : (placement srcW srcH dstW dstH :
      Placement ℚ).toLetterboxInfo.sourcePoint
        (centre (x + (placement srcW srcH dstW dstH : Placement ℚ).padX))
        (centre (y + (placement srcW srcH dstW dstH : Placement ℚ).padY)) =
      (centre x / (placement srcW srcH dstW dstH : Placement ℚ).scale,
        centre y / (placement srcW srcH dstW dstH : Placement ℚ).scale) := by
    rw [LetterboxInfo.sourcePoint, centre_shifted, centre_shifted]
  constructor
  · exact unletterbox_point _ _ _
  · intro plane hplane
    rw [hinfo]
    refine (sizes.letterbox_cell bgr hplane hrow hcol).trans ?_
    dsimp only
    rw [Int.add_sub_cancel, Int.add_sub_cancel, if_pos holds]
    rfl
  · rw [hinfo, hpoint]
    exact hclampX ▸ abs_centre_samplePosition_lt _ x
  · rw [hinfo, hpoint]
    exact hclampY ▸ abs_centre_samplePosition_lt _ y
  · rw [hinfo, hpoint]
    exact centre_div_mem sizes.scale_pos hx hnewW
  · rw [hinfo, hpoint]
    exact centre_div_mem sizes.scale_pos hy hnewH

theorem sampling_agrees_last_cell :
    Sizes 4 2 3 3 ∧ (placement 4 2 3 3 : Placement ℚ).Holds 1 2 ∧
      SamplingAgrees 12 3 3 ramp
        ((letterboxBgrToNchw 4 2 12 3 3).value ramp) 1 2 := by
  have hsizes : Sizes 4 2 3 3 :=
    ⟨by decide, by decide, by decide, by decide⟩
  have hholds : (placement 4 2 3 3 : Placement ℚ).Holds 1 2 := by
    decide +kernel
  exact ⟨hsizes, hholds, sampling_agrees hsizes 12 ramp 1 2 hholds⟩

end EmbeddedPortfolio.Detector
