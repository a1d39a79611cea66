import Mathlib.Data.List.Basic
import Mathlib.Tactic.IntervalCases
import EmbeddedPortfolio.Detector.Letterbox

namespace EmbeddedPortfolio.Detector

open EmbeddedPortfolio.Program FloatConversions

/-! The INT8 calibrator's batches, against the runtime's pre-processing. -/

/-- A BGR image, addressed by row, column and channel. -/
structure Mat where
  cols : Int
  rows : Int
  pixel : Int → Int → Int → UInt8

/-- What `imread` returns for a file it cannot read. -/
def Mat.Empty (img : Mat) : Prop :=
  img.cols ≤ 0 ∨ img.rows ≤ 0

instance (img : Mat) : Decidable img.Empty :=
  inferInstanceAs (Decidable (_ ∨ _))

/-- `pending` is `files_` from `cursor_` on. -/
structure Calibrator (File : Type) where
  w : Int
  h : Int
  batch : Int
  pending : List File

section Code

variable {Real File : Type}
variable [Add Real] [Sub Real] [Mul Real] [Div Real]
variable [LT Real] [DecidableLT Real] [IntCast Real] [OfScientific Real]
variable [FloatConversions Real]

/-- What one image stores in the batch. -/
def calibrationStores (resize : Mat → Int → Int → Mat) (w h loaded : Int)
    (img : Mat) : List (Store Real) :=
  let plane := w * h
  let scale : Real := stdMin ((w : Real) / (img.cols : Real))
    ((h : Real) / (img.rows : Real))
  let nw := toInt (round ((img.cols : Real) * scale))
  let nh := toInt (round ((img.rows : Real) * scale))
  let resized := resize img nw nh
  let px := (w - nw).tdiv 2
  let py := (h - nh).tdiv 2
  let base := loaded * 3 * plane
  (List.range nh.toNat).flatMap fun y : Nat =>
    let orow := base + (y + py) * w + px
    (List.range nw.toNat).flatMap fun x : Nat =>
      [⟨orow + x, normalised (resized.pixel y x 2)⟩,
        ⟨orow + x + plane, normalised (resized.pixel y x 1)⟩,
        ⟨orow + x + 2 * plane, normalised (resized.pixel y x 0)⟩]

structure Loading (Real File : Type) where
  loaded : Int
  nchw : Int → Real
  pending : List File

def loadImages (imread : File → Mat) (resize : Mat → Int → Int → Mat)
    (w h batch : Int) :
    Int → (Int → Real) → List File → Loading Real File
  | loaded, nchw, [] => { loaded, nchw, pending := [] }
  | loaded, nchw, file :: rest =>
      if loaded < batch then
        let img := imread file
        if img.Empty then
          loadImages imread resize w h batch loaded nchw rest
        else
          loadImages imread resize w h batch (loaded + 1)
            (applyStores (calibrationStores resize w h loaded img) nchw) rest
      else { loaded, nchw, pending := file :: rest }

/-- What `load_next_batch` returns, the batch, and the calibrator after it. -/
def loadNextBatch (imread : File → Mat) (resize : Mat → Int → Int → Mat)
    (calibrator : Calibrator File) (nchw : Int → Real) :
    Bool × (Int → Real) × Calibrator File :=
  if calibrator.pending = [] then (false, nchw, calibrator)
  else
    let loading := loadImages imread resize calibrator.w calibrator.h
      calibrator.batch 0 (fun _ => 0.5) calibrator.pending
    (0 < loading.loaded, loading.nchw,
      { calibrator with pending := loading.pending })

/-- The readable images among some files, as many as there is room for. -/
def readableImages (imread : File → Mat) (room : Int) (files : List File) :
    List Mat :=
  ((files.map imread).filter (¬ ·.Empty)).take room.toNat

/-- The images that one call loads, in the order of their slots. -/
def batchImages (imread : File → Mat) (calibrator : Calibrator File) :
    List Mat :=
  readableImages imread calibrator.batch calibrator.pending

theorem readableImages_full (imread : File → Mat) {room : Int}
    (full : room ≤ 0) (files : List File) :
    readableImages imread room files = [] := by
  unfold readableImages
  rw [Int.toNat_of_nonpos full, List.take_zero]

theorem readableImages_unreadable {imread : File → Mat} {file : File}
    (empty : (imread file).Empty) (room : Int) (files : List File) :
    readableImages imread room (file :: files) =
      readableImages imread room files := by
  simp [readableImages, empty]

theorem readableImages_readable {imread : File → Mat} {file : File}
    (readable : ¬ (imread file).Empty) {room : Int} (hroom : 0 < room)
    (files : List File) :
    readableImages imread room (file :: files) =
      imread file :: readableImages imread (room - 1) files := by
  have hsucc : room.toNat = (room - 1).toNat + 1 := by
    omega
  unfold readableImages
  rw [List.map_cons, List.filter_cons_of_pos (by simpa using readable),
    hsucc, List.take_succ_cons]

omit [Add Real] [Sub Real] [OfScientific Real] in
/-- The images take the slots from the first free one on. -/
theorem loadImages_eq (imread : File → Mat) (resize : Mat → Int → Int → Mat)
    (w h batch loaded : Int) (nchw : Int → Real) (files : List File) :
    let images := readableImages imread (batch - loaded) files
    let loading := loadImages imread resize w h batch loaded nchw files
    loading.loaded = loaded + images.length ∧
      loading.nchw = applyStores
        (slotStores (calibrationStores resize w h) loaded images) nchw := by
  dsimp only
  induction files generalizing loaded nchw with
  | nil => simp [loadImages, readableImages, slotStores]
  | cons file files induction =>
      rw [loadImages]
      by_cases hroom : loaded < batch
      · rw [if_pos hroom]
        dsimp only
        by_cases empty : (imread file).Empty
        · rw [if_pos empty, readableImages_unreadable empty]
          exact induction loaded nchw
        · rw [if_neg empty, readableImages_readable empty (by omega),
            slotStores, applyStores_append, sub_sub, List.length_cons]
          obtain ⟨hloaded, hnchw⟩ := induction (loaded + 1) (applyStores
            (calibrationStores resize w h loaded (imread file)) nchw)
          refine ⟨?_, hnchw⟩
          rw [hloaded]
          omega
      · rw [if_neg hroom, readableImages_full imread (by omega)]
        simp [slotStores]

/-! One image's slot. -/

/-- The resized image shows the pixels that the runtime samples. -/
def ShowsSame (Real : Type) [Add Real] [Sub Real] [Mul Real] [Div Real]
    [LT Real] [DecidableLT Real] [IntCast Real] [OfScientific Real]
    [FloatConversions Real] (resize : Mat → Int → Int → Mat) (w h : Int)
    (img : Mat) (stride : Int) (bgr : Int → UInt8) : Prop :=
  let lb : Placement Real := placement img.cols img.rows w h
  ∀ y x channel, lb.Holds y x → (0 ≤ channel ∧ channel < 3) →
    (resize img lb.newW lb.newH).pixel y x channel =
      bgr (sampleOffset lb stride y x + channel)

omit [Add Real] [Sub Real] [OfScientific Real] in
/-- The calibrator's sizes and margins are the runtime's. -/
theorem calibrationStores_placement (resize : Mat → Int → Int → Mat)
    (w h loaded : Int) (img : Mat) :
    (calibrationStores resize w h loaded img : List (Store Real)) =
      let lb : Placement Real := placement img.cols img.rows w h
      (List.range lb.newH.toNat).flatMap fun y : Nat =>
        (List.range lb.newW.toNat).flatMap fun x : Nat =>
          [0, 1, 2].map fun plane : Int =>
            ⟨loaded * 3 * (w * h) + (y + lb.padY) * w + lb.padX + x +
                plane * (w * h),
              normalised ((resize img lb.newW lb.newH).pixel y x
                (2 - plane))⟩ := by
  simp [calibrationStores, placement]

omit [Add Real] [Sub Real] [OfScientific Real] in
theorem mem_calibrationStores {resize : Mat → Int → Int → Mat}
    {w h loaded : Int} {img : Mat} {store : Store Real} :
    store ∈ (calibrationStores resize w h loaded img : List (Store Real)) ↔
      let lb : Placement Real := placement img.cols img.rows w h
      ∃ y x plane, lb.Holds y x ∧ (0 ≤ plane ∧ plane < 3) ∧
        store = ⟨loaded * (3 * (w * h)) +
            planarIndex w h plane (y + lb.padY) (x + lb.padX),
          normalised ((resize img lb.newW lb.newH).pixel y x (2 - plane))⟩ := by
  have hindex : ∀ y x padY padX plane : Int,
      loaded * 3 * (w * h) + (y + padY) * w + padX + x + plane * (w * h) =
        loaded * (3 * (w * h)) +
          planarIndex w h plane (y + padY) (x + padX) := by
    intro y x padY padX plane
    unfold planarIndex
    ring
  rw [calibrationStores_placement]
  simp only [hindex]
  exact mem_placedStores _ fun y x plane =>
    ⟨loaded * (3 * (w * h)) + planarIndex w h plane (y + _) (x + _),
      normalised ((resize img _ _).pixel y x (2 - plane))⟩

theorem ShowsSame.calibrationStores_eq
    {resize : Mat → Int → Int → Mat} {w h stride : Int} {img : Mat}
    {bgr : Int → UInt8} (same : ShowsSame Real resize w h img stride bgr)
    (loaded : Int) :
    (calibrationStores resize w h loaded img : List (Store Real)) =
      ((letterboxBgrToNchw img.cols img.rows stride w h :
        Reading UInt8 (Letterboxed Real)).value bgr).stores.map
          (Store.shift (loaded * (3 * (w * h)))) := by
  rw [calibrationStores_placement, letterbox_stores, List.map_flatMap]
  apply List.flatMap_congr
  intro y hy
  rw [List.map_flatMap]
  apply List.flatMap_congr
  intro x hx
  rw [List.map_map]
  apply List.map_congr_left
  intro plane hplane
  have holds : (placement img.cols img.rows w h : Placement Real).Holds
      y x := by
    rw [List.mem_range] at hx hy
    unfold Placement.Holds
    omega
  have hchannel : 0 ≤ 2 - plane ∧ 2 - plane < 3 := by
    simp only [List.mem_cons, List.not_mem_nil, or_false] at hplane
    omega
  rw [same y x (2 - plane) holds hchannel, Function.comp_apply,
    pixelStore_eq, Store.shift]
  congr 1
  ring

end Code

/-! A batch, in exact arithmetic. -/

section Exact

variable {File : Type}

theorem Mat.sizes {img : Mat} (readable : ¬ img.Empty) {w h : Int}
    (hw : 1 ≤ w) (hh : 1 ≤ h) : Sizes img.cols img.rows w h := by
  unfold Mat.Empty at readable
  exact ⟨by omega, by omega, hw, hh⟩

theorem readable_of_mem {imread : File → Mat} {room : Int}
    {files : List File} {img : Mat}
    (himg : img ∈ readableImages imread room files) : ¬ img.Empty := by
  have hfilter := List.mem_of_mem_take himg
  simpa using (List.mem_filter.mp hfilter).2

theorem calibrationStores_inSlot (resize : Mat → Int → Int → Mat)
    {w h : Int} {img : Mat} (sizes : Sizes img.cols img.rows w h)
    (loaded : Int) {store : Store ℚ}
    (hstore : store ∈ calibrationStores resize w h loaded img) :
    InSlot (3 * (w * h)) loaded store.index := by
  obtain ⟨y, x, plane, holds, hplane, rfl⟩ := mem_calibrationStores.mp hstore
  obtain ⟨hrow, hcol⟩ := sizes.placed_mem holds
  obtain ⟨hlow, hhigh⟩ := planarIndex_mem hplane hrow hcol
  unfold InSlot
  rw [add_mul, one_mul]
  constructor
  · exact le_add_of_nonneg_right hlow
  · exact add_lt_add_right hhigh _

theorem ShowsSame.blob {resize : Mat → Int → Int → Mat} {w h stride : Int}
    {img : Mat} {bgr : Int → UInt8}
    (same : ShowsSame ℚ resize w h img stride bgr) (loaded cell : Int) :
    applyStores (calibrationStores resize w h loaded img) (fun _ => (0.5 : ℚ))
        (loaded * (3 * (w * h)) + cell) =
      ((letterboxBgrToNchw img.cols img.rows stride w h).value bgr).out
        cell := by
  rw [same.calibrationStores_eq, applyStores_shift]
  rfl

/-- One call's batch, against the runtime's blobs of its images. -/
structure BatchMatches (size batch : Int)
    (stores : Int → Mat → List (Store ℚ)) (runtime : Mat → Int → ℚ)
    (images : List Mat) (nchw : Int → ℚ) : Prop where
  room : images.length ≤ batch.toNat
  written : nchw = applyStores (slotStores stores 0 images) fun _ => 0.5
  ownSlot : ∀ loaded : Int, ∀ img ∈ images, ∀ store ∈ stores loaded img,
    InSlot size loaded store.index
  blob : ∀ (loaded : Nat) img, images[loaded]? = some img →
    ∀ cell, 0 ≤ cell → cell < size →
      nchw (loaded * size + cell) = runtime img cell
  unused : ∀ cell, images.length * size ≤ cell → nchw cell = 0.5

theorem calibration_matches_runtime (imread : File → Mat)
    (resize : Mat → Int → Int → Mat) (calibrator : Calibrator File)
    (hw : 1 ≤ calibrator.w) (hh : 1 ≤ calibrator.h)
    (stride : Mat → Int) (bgr : Mat → Int → UInt8)
    (same : ∀ img ∈ batchImages imread calibrator,
      ShowsSame ℚ resize calibrator.w calibrator.h img (stride img) (bgr img))
    (hpending : calibrator.pending ≠ []) (nchw : Int → ℚ) :
    BatchMatches (3 * (calibrator.w * calibrator.h)) calibrator.batch
      (calibrationStores resize calibrator.w calibrator.h)
      (fun img => ((letterboxBgrToNchw img.cols img.rows (stride img)
        calibrator.w calibrator.h).value (bgr img)).out)
      (batchImages imread calibrator)
      (loadNextBatch imread resize calibrator nchw).2.1 := by
  have hsize : 0 ≤ 3 * (calibrator.w * calibrator.h) := by
    positivity
  have hwritten : (loadNextBatch imread resize calibrator nchw).2.1 =
      applyStores (slotStores
        (calibrationStores resize calibrator.w calibrator.h) 0
        (batchImages imread calibrator)) fun _ => 0.5 := by
    unfold loadNextBatch batchImages
    rw [if_neg hpending]
    dsimp only
    rw [(loadImages_eq ..).2, Int.sub_zero]
  have keeps : KeepSlots (3 * (calibrator.w * calibrator.h))
      (calibrationStores resize calibrator.w calibrator.h :
        Int → Mat → List (Store ℚ)) (batchImages imread calibrator) := by
    intro loaded img himg store hstore
    exact calibrationStores_inSlot resize
      (Mat.sizes (readable_of_mem himg) hw hh) loaded hstore
  refine ⟨List.length_take_le .., hwritten, keeps, ?_, ?_⟩
  · intro loaded img himg cell hlow hhigh
    have hslot : InSlot (3 * (calibrator.w * calibrator.h)) (0 + loaded)
        (loaded * (3 * (calibrator.w * calibrator.h)) + cell) := by
      unfold InSlot
      rw [Int.zero_add, add_mul, one_mul]
      omega
    rw [hwritten, slotStores_at hsize keeps himg hslot, Int.zero_add]
    exact (same img (List.mem_of_getElem? himg)).blob loaded cell
  · intro cell hcell
    rw [hwritten]
    exact slotStores_after hsize keeps (by rwa [Int.zero_add]) _

/-- The nearest pixel's colour. -/
def resizeNearest (img : Mat) (cols rows : Int) : Mat where
  cols
  rows
  pixel y x channel :=
    img.pixel (y * img.rows / rows) (x * img.cols / cols) channel

/-- A frame without gaps between its rows. -/
def rampImage (cols rows : Int) : Mat where
  cols
  rows
  pixel y x channel := ramp (y * (cols * 3) + x * 3 + channel)

theorem rampImage_showsSame :
    ShowsSame ℚ resizeNearest 4 5 (rampImage 4 2) 12 ramp := by
  have hplaced : (placement 4 2 4 5 : Placement ℚ).newW = 4 ∧
      (placement 4 2 4 5 : Placement ℚ).newH = 2 := by
    decide +kernel
  intro y x channel ⟨⟨hy, hbelow⟩, hx, hright⟩ ⟨hchannel, hcolours⟩
  have hrow : y < 2 := hplaced.2 ▸ hbelow
  have hcol : x < 4 := hplaced.1 ▸ hright
  interval_cases y <;> interval_cases x <;> interval_cases channel <;>
    decide +kernel

/-- Two files, one of them unreadable, and room for three images. -/
theorem calibration_matches_runtime_small :
    BatchMatches (3 * (4 * 5)) 3 (calibrationStores resizeNearest 4 5)
      (fun img => ((letterboxBgrToNchw img.cols img.rows 12 4 5).value
        ramp).out)
      (batchImages (fun readable => rampImage (if readable then 4 else 0) 2)
        ⟨4, 5, 3, [true, false]⟩)
      (loadNextBatch
        (fun readable => rampImage (if readable then 4 else 0) 2)
        resizeNearest ⟨4, 5, 3, [true, false]⟩ fun _ => (0 : ℚ)).2.1 :=
  calibration_matches_runtime _ resizeNearest ⟨4, 5, 3, [true, false]⟩
    (by decide) (by decide) (fun _ => 12) (fun _ => ramp)
    (by
      intro img himg
      have hreadable := readable_of_mem himg
      have hmap := (List.mem_filter.mp (List.mem_of_mem_take himg)).1
      obtain ⟨readable, _, rfl⟩ := List.mem_map.mp hmap
      cases readable with
      | false => exact absurd (.inl le_rfl) hreadable
      | true => exact rampImage_showsSame)
    (by decide) _

end Exact

end EmbeddedPortfolio.Detector
