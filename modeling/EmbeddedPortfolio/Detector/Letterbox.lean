import Mathlib.Data.Rat.Floor
import EmbeddedPortfolio.Detector.Detection
import EmbeddedPortfolio.Numeric.Rounding
import EmbeddedPortfolio.Program.Reading
import EmbeddedPortfolio.Program.Stores

namespace EmbeddedPortfolio.Detector

open EmbeddedPortfolio.Numeric EmbeddedPortfolio.Program

universe u

/-! The runtime's pre-processing: a BGR frame is scaled into the network's
input, a planar RGB blob with grey margins. -/

/-- `std::round` and the conversion to `int`. -/
class FloatConversions (Real : Type u) where
  round : Real → Real
  toInt : Real → Int

instance : FloatConversions ℚ where
  round value := lround value
  toInt := truncate

open FloatConversions

structure Placement (Real : Type u) extends LetterboxInfo Real where
  newW : Int
  newH : Int

structure Letterboxed (Real : Type) where
  info : LetterboxInfo Real
  size : Int
  stores : List (Store Real)

section Code

variable {Real : Type}
variable [Add Real] [Sub Real] [Mul Real] [Div Real]
variable [LT Real] [DecidableLT Real] [IntCast Real] [OfScientific Real]

/-- A byte of an image, normalised. -/
def normalised (byte : UInt8) : Real :=
  ((byte.toNat : Int) : Real) / ((255 : Int) : Real)

variable [FloatConversions Real]

def placement (srcW srcH dstW dstH : Int) : Placement Real :=
  let scale : Real := stdMin ((dstW : Real) / (srcW : Real))
    ((dstH : Real) / (srcH : Real))
  let newW := toInt (round ((srcW : Real) * scale))
  let newH := toInt (round ((srcH : Real) * scale))
  { scale
    padX := (dstW - newW).tdiv 2
    padY := (dstH - newH).tdiv 2
    srcW
    srcH
    newW
    newH }

/-- The source column or row that a column or row of the placed image shows,
before the clamp. -/
def samplePosition (scale : Real) (position : Int) : Int :=
  toInt (((position : Real) + 0.5) / scale - 0.5)

def sampleIndex (scale : Real) (src position : Int) : Int :=
  min (src - 1) (max 0 (samplePosition scale position))

/-- `out` starts out grey, and is written only; `bgr` is the memory read. -/
def letterboxBgrToNchw (srcW srcH stride dstW dstH : Int) :
    Reading UInt8 (Letterboxed Real) := do
  let lb : Placement Real := placement srcW srcH dstW dstH
  let plane := dstW * dstH
  let stores ← Reading.gather (fun y : Nat =>
    let iy := sampleIndex lb.scale srcH y
    let row := iy * stride
    let orow := (y + lb.padY) * dstW + lb.padX
    Reading.gather (fun x : Nat => do
      let ix := sampleIndex lb.scale srcW x
      let px := row + ix * 3
      let b ← Reading.read px
      let g ← Reading.read (px + 1)
      let r ← Reading.read (px + 2)
      pure [⟨orow + x, normalised r⟩,
        ⟨orow + x + plane, normalised g⟩,
        ⟨orow + x + 2 * plane, normalised b⟩])
      (List.range lb.newW.toNat)) (List.range lb.newH.toNat)
  pure { info := lb.toLetterboxInfo, size := 3 * dstW * dstH, stores }

/-- The blob that is left in `out`. -/
def Letterboxed.out (result : Letterboxed Real) : Int → Real :=
  applyStores result.stores fun _ => 0.5

end Code

/-! Sizes and sampling positions, in exact arithmetic. -/

section Geometry

/-- The sizes of a frame and of the network's input. -/
structure Sizes (srcW srcH dstW dstH : Int) : Prop where
  srcW : 1 ≤ srcW
  srcH : 1 ≤ srcH
  dstW : 1 ≤ dstW
  dstH : 1 ≤ dstH

variable {srcW srcH dstW dstH : Int}

theorem placement_scale (srcW srcH dstW dstH : Int) :
    (placement srcW srcH dstW dstH : Placement ℚ).scale =
      min ((dstW : ℚ) / srcW) ((dstH : ℚ) / srcH) :=
  stdMin_eq_min _ _

theorem placement_newW (srcW srcH dstW dstH : Int) :
    (placement srcW srcH dstW dstH : Placement ℚ).newW =
      lround ((srcW : ℚ) *
        (placement srcW srcH dstW dstH : Placement ℚ).scale) :=
  truncate_intCast _

theorem placement_newH (srcW srcH dstW dstH : Int) :
    (placement srcW srcH dstW dstH : Placement ℚ).newH =
      lround ((srcH : ℚ) *
        (placement srcW srcH dstW dstH : Placement ℚ).scale) :=
  truncate_intCast _

theorem Sizes.scale_pos (sizes : Sizes srcW srcH dstW dstH) :
    0 < (placement srcW srcH dstW dstH : Placement ℚ).scale := by
  obtain ⟨hsrcW, hsrcH, hdstW, hdstH⟩ := sizes
  rw [placement_scale]
  apply lt_min
  · exact div_pos (by exact_mod_cast hdstW) (by exact_mod_cast hsrcW)
  · exact div_pos (by exact_mod_cast hdstH) (by exact_mod_cast hsrcH)

/-- One side of a scaled frame against the room it has. -/
theorem scaled_mem {src dst : Int} {scale : ℚ} (hsrc : 1 ≤ src)
    (hscale : 0 < scale) (hle : scale ≤ (dst : ℚ) / src) :
    0 ≤ lround ((src : ℚ) * scale) ∧ lround ((src : ℚ) * scale) ≤ dst := by
  have hpos : (0 : ℚ) < src := by
    exact_mod_cast hsrc
  constructor
  · apply le_lround
    push_cast
    exact (mul_pos hpos hscale).le
  · apply lround_le
    rw [mul_comm]
    exact (le_div_iff₀ hpos).mp hle

theorem scaled_eq {src dst : Int} (hsrc : 1 ≤ src) :
    lround ((src : ℚ) * ((dst : ℚ) / src)) = dst := by
  have hpos : (0 : ℚ) < src := by
    exact_mod_cast hsrc
  rw [mul_div_cancel₀ _ hpos.ne']
  exact le_antisymm (lround_le le_rfl) (le_lround le_rfl)

theorem Sizes.newW_mem (sizes : Sizes srcW srcH dstW dstH) :
    0 ≤ (placement srcW srcH dstW dstH : Placement ℚ).newW ∧
      (placement srcW srcH dstW dstH : Placement ℚ).newW ≤ dstW := by
  rw [placement_newW]
  apply scaled_mem sizes.srcW sizes.scale_pos
  rw [placement_scale]
  exact min_le_left _ _

theorem Sizes.newH_mem (sizes : Sizes srcW srcH dstW dstH) :
    0 ≤ (placement srcW srcH dstW dstH : Placement ℚ).newH ∧
      (placement srcW srcH dstW dstH : Placement ℚ).newH ≤ dstH := by
  rw [placement_newH]
  apply scaled_mem sizes.srcH sizes.scale_pos
  rw [placement_scale]
  exact min_le_right _ _

/-- The frame fills the input in one direction. -/
theorem Sizes.fills (sizes : Sizes srcW srcH dstW dstH) :
    (placement srcW srcH dstW dstH : Placement ℚ).newW = dstW ∨
      (placement srcW srcH dstW dstH : Placement ℚ).newH = dstH := by
  rw [placement_newW, placement_newH, placement_scale]
  rcases min_choice ((dstW : ℚ) / srcW) ((dstH : ℚ) / srcH) with
    hwidth | hheight
  · left
    rw [hwidth]
    exact scaled_eq sizes.srcW
  · right
    rw [hheight]
    exact scaled_eq sizes.srcH

/-- Half of what is left over goes before the image. -/
theorem margin_mem {placed room : Int} (hplaced : placed ≤ room) :
    0 ≤ (room - placed).tdiv 2 ∧
      (room - placed).tdiv 2 ≤ room - placed - (room - placed).tdiv 2 ∧
      room - placed - (room - placed).tdiv 2 ≤
        (room - placed).tdiv 2 + 1 := by
  rw [Int.tdiv_eq_ediv_of_nonneg (by omega)]
  omega

/-- The position a placed column or row is sampled from lies in the source. -/
theorem samplePosition_mem {src position : Int} {scale : ℚ}
    (hsrc : 1 ≤ src) (hscale : 0 < scale) (hlow : 0 ≤ position)
    (hhigh : position < lround ((src : ℚ) * scale)) :
    0 ≤ samplePosition scale position ∧
      samplePosition scale position < src := by
  have hround := (abs_le.mp (abs_sub_lround ((src : ℚ) * scale))).1
  have hfirst : (0 : ℚ) ≤ position := by
    exact_mod_cast hlow
  have hlast : (position : ℚ) + 1 ≤ lround ((src : ℚ) * scale) := by
    exact_mod_cast hhigh
  constructor
  · apply truncate_nonneg_of_lt
    have hcentre : 0 ≤ ((position : ℚ) + 0.5) / scale :=
      div_nonneg (by norm_num; linarith) hscale.le
    norm_num at hcentre ⊢
    linarith
  · apply truncate_lt (by omega)
    have hcentre : ((position : ℚ) + 0.5) / scale ≤ src := by
      rw [div_le_iff₀ hscale]
      norm_num
      linarith
    norm_num at hcentre ⊢
    linarith

/-- The clamp changes nothing. -/
theorem sampleIndex_eq {src position : Int} {scale : ℚ}
    (hsrc : 1 ≤ src) (hscale : 0 < scale) (hlow : 0 ≤ position)
    (hhigh : position < lround ((src : ℚ) * scale)) :
    sampleIndex scale src position = samplePosition scale position := by
  have hmem := samplePosition_mem hsrc hscale hlow hhigh
  unfold sampleIndex
  omega

end Geometry

/-! What is read and what is stored. -/

/-- The row and the column lie in the placed image. -/
def Placement.Holds {Real : Type u} (lb : Placement Real) (y x : Int) : Prop :=
  (0 ≤ y ∧ y < lb.newH) ∧ 0 ≤ x ∧ x < lb.newW

instance {Real : Type u} (lb : Placement Real) (y x : Int) :
    Decidable (lb.Holds y x) :=
  inferInstanceAs (Decidable ((_ ∧ _) ∧ _ ∧ _))

theorem Placement.holds_sub_iff {Real : Type u} (lb : Placement Real)
    (row col : Int) :
    lb.Holds (row - lb.padY) (col - lb.padX) ↔
      (lb.padY ≤ row ∧ row < lb.padY + lb.newH) ∧
        lb.padX ≤ col ∧ col < lb.padX + lb.newW := by
  unfold Placement.Holds
  omega

/-- One store for each plane of each pixel of the placed image. -/
theorem mem_placedStores {Real : Type} (lb : Placement Real)
    (write : Int → Int → Int → Store Real) {store : Store Real} :
    store ∈ (List.range lb.newH.toNat).flatMap (fun y : Nat =>
        (List.range lb.newW.toNat).flatMap fun x : Nat =>
          [0, 1, 2].map (write y x)) ↔
      ∃ y x plane, lb.Holds y x ∧ (0 ≤ plane ∧ plane < 3) ∧
        store = write y x plane := by
  simp only [List.mem_flatMap, List.mem_range, List.mem_map]
  constructor
  · intro ⟨y, hy, x, hx, plane, hplane, hstore⟩
    refine ⟨y, x, plane, ?_, ?_, hstore.symm⟩
    · unfold Placement.Holds
      omega
    · simp at hplane
      omega
  · intro ⟨y, x, plane, ⟨⟨hy, hnewH⟩, hx, hnewW⟩, hplane, hstore⟩
    refine ⟨y.toNat, by omega, x.toNat, by omega, plane, ?_, ?_⟩
    · simp
      omega
    · rw [Int.toNat_of_nonneg hy, Int.toNat_of_nonneg hx]
      exact hstore.symm

section Cells

variable {Real : Type}
variable [Add Real] [Sub Real] [Mul Real] [Div Real]
variable [LT Real] [DecidableLT Real] [IntCast Real] [OfScientific Real]
variable [FloatConversions Real]

/-- Where the blue byte of the pixel shown at a placed row and column is. -/
def sampleOffset (lb : Placement Real) (stride y x : Int) : Int :=
  sampleIndex lb.scale lb.srcH y * stride + sampleIndex lb.scale lb.srcW x * 3

theorem mem_letterbox_reads {srcW srcH stride dstW dstH : Int}
    {bgr : Int → UInt8} {offset : Int} :
    offset ∈ (letterboxBgrToNchw srcW srcH stride dstW dstH :
        Reading UInt8 (Letterboxed Real)).reads bgr ↔
      ∃ y x channel,
        (placement srcW srcH dstW dstH : Placement Real).Holds y x ∧
        (0 ≤ channel ∧ channel < 3) ∧
        offset = sampleOffset (placement srcW srcH dstW dstH : Placement Real)
          stride y x + channel := by
  simp only [letterboxBgrToNchw, Reading.reads_bind, Reading.reads_gather,
    Reading.reads_read, Reading.reads_pure, List.append_nil,
    List.mem_flatMap, List.mem_append, List.mem_singleton, List.mem_range]
  constructor
  · intro ⟨y, hy, x, hx, hoffset⟩
    have hholds : (placement srcW srcH dstW dstH : Placement Real).Holds
        y x := by
      unfold Placement.Holds
      omega
    rcases hoffset with hblue | hgreen | hred
    · exact ⟨y, x, 0, hholds, by decide, by rw [Int.add_zero]; exact hblue⟩
    · exact ⟨y, x, 1, hholds, by decide, hgreen⟩
    · exact ⟨y, x, 2, hholds, by decide, hred⟩
  · intro ⟨y, x, channel, ⟨⟨hy, hnewH⟩, hx, hnewW⟩, hchannel, hoffset⟩
    refine ⟨y.toNat, by omega, x.toNat, by omega, ?_⟩
    rw [Int.toNat_of_nonneg hy, Int.toNat_of_nonneg hx]
    have hcases : channel = 0 ∨ channel = 1 ∨ channel = 2 := by
      omega
    rcases hcases with rfl | rfl | rfl
    · left
      rwa [Int.add_zero] at hoffset
    · exact .inr (.inl hoffset)
    · exact .inr (.inr hoffset)

/-- Plane 0 is red, which is the pixel's last byte. -/
def pixelStore (lb : Placement Real) (stride dstW dstH : Int)
    (bgr : Int → UInt8) (y x plane : Int) : Store Real where
  index := planarIndex dstW dstH plane (y + lb.padY) (x + lb.padX)
  value := normalised (bgr (sampleOffset lb stride y x + (2 - plane)))

omit [Mul Real] [LT Real] [DecidableLT Real] in
theorem pixelStore_eq (lb : Placement Real) (stride dstW dstH : Int)
    (bgr : Int → UInt8) (y x plane : Int) :
    pixelStore lb stride dstW dstH bgr y x plane =
      ⟨(y + lb.padY) * dstW + lb.padX + x + plane * (dstW * dstH),
        normalised (bgr (sampleOffset lb stride y x + (2 - plane)))⟩ := by
  have hindex : planarIndex dstW dstH plane (y + lb.padY) (x + lb.padX) =
      (y + lb.padY) * dstW + lb.padX + x + plane * (dstW * dstH) := by
    unfold planarIndex
    ring
  rw [pixelStore, hindex]

theorem letterbox_stores (srcW srcH stride dstW dstH : Int)
    (bgr : Int → UInt8) :
    ((letterboxBgrToNchw srcW srcH stride dstW dstH :
        Reading UInt8 (Letterboxed Real)).value bgr).stores =
      let lb : Placement Real := placement srcW srcH dstW dstH
      (List.range lb.newH.toNat).flatMap fun y : Nat =>
        (List.range lb.newW.toNat).flatMap fun x : Nat =>
          [0, 1, 2].map (pixelStore lb stride dstW dstH bgr y x) := by
  simp only [letterboxBgrToNchw, Reading.value_bind, Reading.value_gather,
    Reading.value_pure, Reading.value_read]
  congr 1
  funext y
  congr 1
  funext x
  simp [pixelStore_eq, sampleOffset, placement]

theorem mem_letterbox_stores {srcW srcH stride dstW dstH : Int}
    {bgr : Int → UInt8} {store : Store Real} :
    store ∈ ((letterboxBgrToNchw srcW srcH stride dstW dstH :
        Reading UInt8 (Letterboxed Real)).value bgr).stores ↔
      ∃ y x plane,
        (placement srcW srcH dstW dstH : Placement Real).Holds y x ∧
        (0 ≤ plane ∧ plane < 3) ∧
        store = pixelStore (placement srcW srcH dstW dstH : Placement Real)
          stride dstW dstH bgr y x plane := by
  rw [letterbox_stores]
  exact mem_placedStores _ (pixelStore _ stride dstW dstH bgr)

end Cells

section Exact

variable {srcW srcH stride dstW dstH : Int}

theorem Sizes.padX_mem (sizes : Sizes srcW srcH dstW dstH) :
    let lb : Placement ℚ := placement srcW srcH dstW dstH
    0 ≤ lb.padX ∧ lb.padX ≤ dstW - lb.newW - lb.padX ∧
      dstW - lb.newW - lb.padX ≤ lb.padX + 1 :=
  margin_mem sizes.newW_mem.2

theorem Sizes.padY_mem (sizes : Sizes srcW srcH dstW dstH) :
    let lb : Placement ℚ := placement srcW srcH dstW dstH
    0 ≤ lb.padY ∧ lb.padY ≤ dstH - lb.newH - lb.padY ∧
      dstH - lb.newH - lb.padY ≤ lb.padY + 1 :=
  margin_mem sizes.newH_mem.2

/-- The placed rectangle lies in the input. -/
theorem Sizes.placed_mem (sizes : Sizes srcW srcH dstW dstH) {y x : Int}
    (holds : (placement srcW srcH dstW dstH : Placement ℚ).Holds y x) :
    (0 ≤ y + (placement srcW srcH dstW dstH : Placement ℚ).padY ∧
        y + (placement srcW srcH dstW dstH : Placement ℚ).padY < dstH) ∧
      0 ≤ x + (placement srcW srcH dstW dstH : Placement ℚ).padX ∧
        x + (placement srcW srcH dstW dstH : Placement ℚ).padX < dstW := by
  have hpadX := sizes.padX_mem
  have hpadY := sizes.padY_mem
  obtain ⟨hy, hx⟩ := holds
  dsimp only at hpadX hpadY
  omega

theorem Sizes.pixelStore_mem (sizes : Sizes srcW srcH dstW dstH)
    (bgr : Int → UInt8) {y x plane : Int}
    (holds : (placement srcW srcH dstW dstH : Placement ℚ).Holds y x)
    (hplane : 0 ≤ plane ∧ plane < 3) :
    0 ≤ (pixelStore (placement srcW srcH dstW dstH : Placement ℚ) stride
        dstW dstH bgr y x plane).index ∧
      (pixelStore (placement srcW srcH dstW dstH : Placement ℚ) stride
        dstW dstH bgr y x plane).index < 3 * (dstW * dstH) := by
  obtain ⟨hrow, hcol⟩ := sizes.placed_mem holds
  exact planarIndex_mem hplane hrow hcol

/-- A cell of the blob: the pixel shown there, or grey. -/
theorem Sizes.letterbox_cell (sizes : Sizes srcW srcH dstW dstH)
    (bgr : Int → UInt8) {plane row col : Int}
    (hplane : 0 ≤ plane ∧ plane < 3) (hrow : 0 ≤ row ∧ row < dstH)
    (hcol : 0 ≤ col ∧ col < dstW) :
    ((letterboxBgrToNchw srcW srcH stride dstW dstH :
        Reading UInt8 (Letterboxed ℚ)).value bgr).out
        (planarIndex dstW dstH plane row col) =
      let lb : Placement ℚ := placement srcW srcH dstW dstH
      if lb.Holds (row - lb.padY) (col - lb.padX) then
        normalised (bgr (sampleOffset lb stride (row - lb.padY)
          (col - lb.padX) + (2 - plane)))
      else 0.5 := by
  unfold Letterboxed.out
  dsimp only
  split
  · rename_i holds
    apply applyStores_agreed
    · refine ⟨_, mem_letterbox_stores.mpr
        ⟨_, _, plane, holds, hplane, rfl⟩, ?_⟩
      simp only [pixelStore, sub_add_cancel]
    · intro store hstore hindex
      obtain ⟨y, x, channel, hplaced, hchannel, rfl⟩ :=
        mem_letterbox_stores.mp hstore
      obtain ⟨hrows, hcols⟩ := sizes.placed_mem hplaced
      obtain ⟨rfl, hy, hx⟩ := planarIndex_inj hrows hcols hrow hcol hindex
      rw [← hy, ← hx, add_sub_cancel_right, add_sub_cancel_right]
      rfl
  · rename_i outside
    apply applyStores_untouched
    intro store hstore hindex
    obtain ⟨y, x, channel, hplaced, hchannel, rfl⟩ :=
      mem_letterbox_stores.mp hstore
    obtain ⟨hrows, hcols⟩ := sizes.placed_mem hplaced
    obtain ⟨rfl, hy, hx⟩ := planarIndex_inj hrows hcols hrow hcol hindex
    rw [← hy, ← hx, add_sub_cancel_right, add_sub_cancel_right] at outside
    exact outside hplaced

/-- The clamps alone keep the sampled pixel in the frame. -/
theorem Sizes.sample_mem (sizes : Sizes srcW srcH dstW dstH) (scale : ℚ)
    (y x : Int) :
    (0 ≤ sampleIndex scale srcH y ∧ sampleIndex scale srcH y < srcH) ∧
      0 ≤ sampleIndex scale srcW x ∧ sampleIndex scale srcW x < srcW := by
  have hsrcW := sizes.srcW
  have hsrcH := sizes.srcH
  unfold sampleIndex
  omega

/-- A pixel of the frame lies in the frame's rows of `stride` bytes. -/
theorem frameOffset_mem {row col channel : Int}
    (hrow : 0 ≤ row ∧ row < srcH) (hcol : 0 ≤ col ∧ col < srcW)
    (hchannel : 0 ≤ channel ∧ channel < 3) (hstride : 3 * srcW ≤ stride) :
    0 ≤ row * stride + col * 3 + channel ∧
      row * stride + col * 3 + channel < srcH * stride := by
  have hstart : 0 ≤ row * stride := mul_nonneg hrow.1 (by omega)
  have hend : (row + 1) * stride ≤ srcH * stride :=
    mul_le_mul_of_nonneg_right (by omega) (by omega)
  rw [add_mul, one_mul] at hend
  omega

/-- What one call of the pre-processing guarantees. -/
structure LetterboxCorrect (srcW srcH stride dstW dstH : Int)
    (bgr : Int → UInt8) (lb : Placement ℚ) (run : Letterboxed ℚ)
    (reads : List Int) : Prop where
  info : run.info = lb.toLetterboxInfo
  reads : ∀ offset ∈ reads, 0 ≤ offset ∧ offset < srcH * stride
  writes : ∀ store ∈ run.stores,
    0 ≤ store.index ∧ store.index < 3 * dstW * dstH
  newSize : (0 ≤ lb.newW ∧ lb.newW ≤ dstW) ∧
    (0 ≤ lb.newH ∧ lb.newH ≤ dstH) ∧ (lb.newW = dstW ∨ lb.newH = dstH)
  margins : 0 ≤ lb.padX ∧ 0 ≤ lb.padY ∧
    |dstW - lb.newW - lb.padX - lb.padX| ≤ 1 ∧
    |dstH - lb.newH - lb.padY - lb.padY| ≤ 1
  cells : ∀ plane row col, (0 ≤ plane ∧ plane < 3) →
    (0 ≤ row ∧ row < dstH) → (0 ≤ col ∧ col < dstW) →
    run.out (plane * (dstW * dstH) + row * dstW + col) =
      if (lb.padY ≤ row ∧ row < lb.padY + lb.newH) ∧
          lb.padX ≤ col ∧ col < lb.padX + lb.newW then
        normalised (bgr (samplePosition lb.scale (row - lb.padY) * stride +
          samplePosition lb.scale (col - lb.padX) * 3 + (2 - plane)))
      else 0.5
  clamps : ∀ y x, lb.Holds y x →
    sampleIndex lb.scale srcH y = samplePosition lb.scale y ∧
      sampleIndex lb.scale srcW x = samplePosition lb.scale x

theorem Sizes.clamps (sizes : Sizes srcW srcH dstW dstH) {y x : Int}
    (holds : (placement srcW srcH dstW dstH : Placement ℚ).Holds y x) :
    let lb : Placement ℚ := placement srcW srcH dstW dstH
    sampleIndex lb.scale srcH y = samplePosition lb.scale y ∧
      sampleIndex lb.scale srcW x = samplePosition lb.scale x := by
  obtain ⟨⟨hy, hnewH⟩, hx, hnewW⟩ := holds
  rw [placement_newH] at hnewH
  rw [placement_newW] at hnewW
  exact ⟨sampleIndex_eq sizes.srcH sizes.scale_pos hy hnewH,
    sampleIndex_eq sizes.srcW sizes.scale_pos hx hnewW⟩

/-- Every byte of a frame tells its offset. -/
def ramp (offset : Int) : UInt8 := UInt8.ofNat offset.toNat

end Exact

end EmbeddedPortfolio.Detector
