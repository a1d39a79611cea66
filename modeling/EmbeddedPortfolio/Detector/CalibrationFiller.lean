import EmbeddedPortfolio.Detector.CalibrationRuns

namespace EmbeddedPortfolio.Detector

open EmbeddedPortfolio.Numeric EmbeddedPortfolio.Program
open EmbeddedPortfolio.Transition

/-! The batches that TensorRT is calibrated on, in exact arithmetic. -/

structure BatchReply (Pointer File : Type) where
  returned : Bool
  bindings : List (String × Pointer)
  device : Int → ℚ
  calibrator : Calibrator File

variable {Pointer File : Type}

/-- `none` when an exception ends the process; `host` starts out empty. -/
def getBatch (imread : File → Mat)
    (cvResize : Mat → Int → Int → Option Mat) (inputTensor : String)
    (deviceInput : Pointer) (bindings : List (String × Pointer))
    (device : Int → ℚ) (calibrator : Calibrator File) :
    Option (BatchReply Pointer File) := do
  let (returned, host, calibrator) ←
    loadNextBatch? imread cvResize calibrator fun _ => 0
  if returned then
    some {
      returned := true
      bindings := bindings.map fun (name, pointer) =>
        if inputTensor.isEmpty || inputTensor == name then (name, deviceInput)
        else (name, pointer)
      device := host
      calibrator }
  else some { returned := false, bindings, device, calibrator }

/-- The calls of `getBatch` that return true, each with what it leaves in the
device buffer. -/
def batchSource (imread : File → Mat)
    (cvResize : Mat → Int → Int → Option Mat) (inputTensor : String)
    (deviceInput : Pointer) (calibrator : Calibrator File) :
    System (Calibrator File) (Int → ℚ) where
  initial start := start = calibrator
  step before out after := ∃ bindings device reply,
    getBatch imread cvResize inputTensor deviceInput bindings device before =
        some reply ∧
      reply.returned = true ∧ reply.device = out ∧ reply.calibrator = after

section Source

variable {imread : File → Mat}
variable {cvResize : Mat → Int → Int → Option Mat}

/-- The vector that a call is given does not matter when it returns true. -/
theorem loadNextBatch?_fresh {before after : Calibrator File}
    {nchw out : Int → ℚ}
    (called : loadNextBatch? imread cvResize before nchw =
      some (true, out, after)) (fresh : Int → ℚ) :
    loadNextBatch? imread cvResize before fresh = some (true, out, after) := by
  unfold loadNextBatch? at called ⊢
  by_cases hpending : before.pending = []
  · rw [if_pos hpending] at called
    cases called
  · rwa [if_neg hpending] at called ⊢

theorem batchSource_eq (inputTensor : String) (deviceInput : Pointer)
    (calibrator : Calibrator File) :
    batchSource imread cvResize inputTensor deviceInput calibrator =
      calibration ℚ imread cvResize calibrator := by
  unfold batchSource calibration
  congr 1
  funext before out after
  apply propext
  constructor
  · intro ⟨bindings, device, reply, called, hreturned, hout, hafter⟩
    refine ⟨fun _ => 0, ?_⟩
    unfold getBatch at called
    cases hload : loadNextBatch? imread cvResize before fun _ => (0 : ℚ) with
    | none =>
        rw [hload] at called
        cases called
    | some answer =>
        obtain ⟨returned, host, next⟩ := answer
        rw [hload] at called
        cases returned with
        | true =>
            cases called
            cases hout
            cases hafter
            rfl
        | false =>
            cases called
            cases hreturned
  · intro ⟨nchw, called⟩
    refine ⟨[], fun _ => 0, ⟨true, [], out, after⟩, ?_, rfl, rfl, rfl⟩
    unfold getBatch
    rw [loadNextBatch?_fresh called fun _ => 0]
    rfl

end Source

/-! A slot of a batch. -/

section Slots

variable {resize : Mat → Int → Int → Mat} {w h : Int} {img : Mat}

/-- An image alone in a slot of its own. -/
def letterboxed (resize : Mat → Int → Int → Mat) (w h : Int) (img : Mat) :
    Int → ℚ :=
  applyStores (calibrationStores resize w h 0 img) fun _ => 0.5

theorem calibrationStores_shift (resize : Mat → Int → Int → Mat)
    (w h loaded : Int) (img : Mat) :
    (calibrationStores resize w h loaded img : List (Store ℚ)) =
      (calibrationStores resize w h 0 img).map
        (Store.shift (loaded * (3 * (w * h)))) := by
  rw [calibrationStores_placement, calibrationStores_placement,
    List.map_flatMap]
  apply List.flatMap_congr
  intro y _
  rw [List.map_flatMap]
  apply List.flatMap_congr
  intro x _
  rw [List.map_map]
  apply List.map_congr_left
  intro plane _
  rw [Function.comp_apply, Store.shift]
  congr 1
  ring

theorem Resizable.sizes (readable : ¬ img.Empty)
    (resizable : Resizable ℚ w h img) : Sizes img.cols img.rows w h := by
  unfold Mat.Empty at readable
  have hcols : 1 ≤ img.cols := by
    omega
  have hrows : 1 ≤ img.rows := by
    omega
  obtain ⟨hnewW, hnewH⟩ := resizable
  rw [placement_newW, placement_scale] at hnewW
  rw [placement_newH, placement_scale] at hnewH
  have hwidth : lround ((img.cols : ℚ) * min ((w : ℚ) / img.cols)
      ((h : ℚ) / img.rows)) ≤ w := by
    apply lround_le
    rw [mul_comm, ← le_div_iff₀ (by exact_mod_cast hcols)]
    exact min_le_left _ _
  have hheight : lround ((img.rows : ℚ) * min ((w : ℚ) / img.cols)
      ((h : ℚ) / img.rows)) ≤ h := by
    apply lround_le
    rw [mul_comm, ← le_div_iff₀ (by exact_mod_cast hrows)]
    exact min_le_right _ _
  exact ⟨hcols, hrows, hnewW.trans hwidth, hnewH.trans hheight⟩

theorem normalised_ne_grey (byte : UInt8) : (normalised byte : ℚ) ≠ 0.5 := by
  unfold normalised
  intro hgrey
  have hdouble : ((byte.toNat * 2 : Nat) : ℚ) = (255 : Nat) := by
    push_cast at hgrey ⊢
    linarith
  have hnat := Nat.cast_injective hdouble
  omega

/-- No byte is normalised to the grey of the margins. -/
theorem letterboxed_ne_grey (resize : Mat → Int → Int → Mat)
    (sizes : Sizes img.cols img.rows w h)
    (resizable : Resizable ℚ w h img) :
    ∃ cell, 0 ≤ cell ∧ cell < 3 * (w * h) ∧
      letterboxed resize w h img cell ≠ 0.5 := by
  have hcorner : (placement img.cols img.rows w h : Placement ℚ).Holds 0 0 :=
    ⟨⟨le_rfl, resizable.2⟩, le_rfl, resizable.1⟩
  obtain ⟨first, hfirst⟩ : ∃ store : Store ℚ,
      store ∈ calibrationStores resize w h 0 img :=
    ⟨_, mem_calibrationStores.mpr ⟨0, 0, 0, hcorner, by decide, rfl⟩⟩
  obtain ⟨hlow, hhigh⟩ := calibrationStores_inSlot resize sizes 0 hfirst
  rw [zero_mul] at hlow
  rw [zero_add, one_mul] at hhigh
  refine ⟨_, hlow, hhigh, ?_⟩
  refine applyStores_stored (· ≠ 0.5) ⟨first, hfirst, rfl⟩ ?_ _
  intro store hmem
  obtain ⟨y, x, plane, _, _, rfl⟩ := mem_calibrationStores.mp hmem
  exact normalised_ne_grey _

variable {imread : File → Mat} {files : List File}

theorem filledBatch_keeps
    (sizes : ∀ file ∈ files, Sizes (imread file).cols (imread file).rows w h) :
    KeepSlots (3 * (w * h)) (calibrationStores resize w h :
      Int → Mat → List (Store ℚ)) (files.map imread) := by
  intro loaded img himg store hstore
  obtain ⟨file, hfile, rfl⟩ := List.mem_map.mp himg
  exact calibrationStores_inSlot resize (sizes file hfile) loaded hstore

theorem filledBatch_slot
    (sizes : ∀ file ∈ files, Sizes (imread file).cols (imread file).rows w h)
    {slot : Nat} {file : File} (hfile : files[slot]? = some file) {cell : Int}
    (hlow : 0 ≤ cell) (hhigh : cell < 3 * (w * h)) :
    filledBatch ℚ imread resize w h files (slot * (3 * (w * h)) + cell) =
      letterboxed resize w h (imread file) cell := by
  have himg : (files.map imread)[slot]? = some (imread file) := by
    rw [List.getElem?_map, hfile, Option.map_some]
  have hslot : InSlot (3 * (w * h)) (0 + slot)
      (slot * (3 * (w * h)) + cell) := by
    unfold InSlot
    rw [Int.zero_add, add_mul, one_mul]
    omega
  unfold filledBatch letterboxed
  rw [slotStores_at (by omega) (filledBatch_keeps sizes) himg hslot,
    Int.zero_add, calibrationStores_shift, applyStores_shift]

theorem filledBatch_unused
    (sizes : ∀ file ∈ files, Sizes (imread file).cols (imread file).rows w h)
    (hsize : 0 ≤ 3 * (w * h)) {cell : Int}
    (hcell : files.length * (3 * (w * h)) ≤ cell) :
    filledBatch ℚ imread resize w h files cell = 0.5 := by
  unfold filledBatch
  refine slotStores_after hsize (filledBatch_keeps sizes) ?_ _
  rwa [List.length_map, Int.zero_add]

end Slots

/-! All the batches. -/

section Batches

/-- Every slot holds some image of the files, and not only grey. -/
structure ImagesOnly (imread : File → Mat) (resize : Mat → Int → Int → Mat)
    (calibrator : Calibrator File) (device : Int → ℚ) : Prop where
  image : ∀ slot : Int, 0 ≤ slot → slot < calibrator.batch →
    ∃ file ∈ calibrator.pending, ¬ (imread file).Empty ∧
      ∀ cell, 0 ≤ cell → cell < 3 * (calibrator.w * calibrator.h) →
        device (slot * (3 * (calibrator.w * calibrator.h)) + cell) =
          letterboxed resize calibrator.w calibrator.h (imread file) cell
  notFiller : ∀ slot : Int, 0 ≤ slot → slot < calibrator.batch →
    ∃ cell, 0 ≤ cell ∧ cell < 3 * (calibrator.w * calibrator.h) ∧
      device (slot * (3 * (calibrator.w * calibrator.h)) + cell) ≠ 0.5

variable {imread : File → Mat}
variable {cvResize : Mat → Int → Int → Option Mat}
variable {calibrator state : Calibrator File} {outs : List (Int → ℚ)}
variable {chunks : List (List File)} {files : List File}

theorem Streamed.readable (positive : 1 ≤ calibrator.batch)
    (streamed : Streamed imread (resized cvResize) calibrator state chunks outs)
    (hfiles : files ∈ chunks) {file : File} (hfile : file ∈ files) :
    file ∈ calibrator.pending ∧ ¬ (imread file).Empty := by
  have chunked := streamed.chunked positive
  have hmem : file ∈ chunks.flatten := List.mem_flatten.mpr
    ⟨files, hfiles, hfile⟩
  have hqueue := List.mem_append_left
    (readableFiles imread state.pending) hmem
  rw [chunked.flatten] at hqueue
  exact mem_readableFiles.mp hqueue

theorem Streamed.sizes (positive : 1 ≤ calibrator.batch)
    (streamed : Streamed imread (resized cvResize) calibrator state chunks outs)
    (hfiles : files ∈ chunks) :
    ∀ file ∈ files, Sizes (imread file).cols (imread file).rows
      calibrator.w calibrator.h := by
  intro file hfile
  exact (streamed.resizable files hfiles file hfile).sizes
    (streamed.readable positive hfiles hfile).2

theorem Streamed.imagesOnly_iff (positive : 1 ≤ calibrator.batch)
    (streamed : Streamed imread (resized cvResize) calibrator state chunks outs)
    (hfiles : files ∈ chunks) :
    ImagesOnly imread (resized cvResize) calibrator (filledBatch ℚ imread
      (resized cvResize) calibrator.w calibrator.h files) ↔
        files.length = calibrator.batch.toNat := by
  have sizes := streamed.sizes positive hfiles
  obtain ⟨hnonempty, hroom⟩ :=
    (streamed.chunked positive).room files hfiles
  constructor
  · intro imagesOnly
    by_contra hshort
    obtain ⟨cell, hlow, hhigh, hcolour⟩ :=
      imagesOnly.notFiller files.length (by omega) (by omega)
    apply hcolour
    exact filledBatch_unused sizes (by omega) (by omega)
  · intro hfull
    have hslot : ∀ slot : Int, 0 ≤ slot → slot < calibrator.batch →
        ∃ file ∈ files, ∀ cell, 0 ≤ cell →
          cell < 3 * (calibrator.w * calibrator.h) →
            filledBatch ℚ imread (resized cvResize) calibrator.w calibrator.h
                files (slot * (3 * (calibrator.w * calibrator.h)) + cell) =
              letterboxed (resized cvResize) calibrator.w calibrator.h
                (imread file) cell := by
      intro slot hlow hhigh
      obtain ⟨slot, rfl⟩ := Int.eq_ofNat_of_zero_le hlow
      have hinside : slot < files.length := by
        omega
      exact ⟨files[slot], List.getElem_mem hinside, fun cell hcell hbelow =>
        filledBatch_slot sizes (List.getElem?_eq_getElem hinside) hcell
          hbelow⟩
    constructor
    · intro slot hlow hhigh
      obtain ⟨file, hfile, hcells⟩ := hslot slot hlow hhigh
      obtain ⟨hpending, hreadable⟩ := streamed.readable positive hfiles hfile
      exact ⟨file, hpending, hreadable, hcells⟩
    · intro slot hlow hhigh
      obtain ⟨file, hfile, hcells⟩ := hslot slot hlow hhigh
      obtain ⟨cell, hcell, hbelow, hcolour⟩ := letterboxed_ne_grey
        (resized cvResize) (sizes file hfile)
        (streamed.resizable files hfiles file hfile)
      refine ⟨cell, hcell, hbelow, ?_⟩
      rw [hcells cell hcell hbelow]
      exact hcolour

/-- The batches before one that throws are full. -/
theorem Streamed.full_of_unresizable (positive : 1 ≤ calibrator.batch)
    (streamed : Streamed imread (resized cvResize) calibrator state chunks outs)
    {file : File} (hpending : file ∈ calibrator.pending)
    (hreadable : ¬ (imread file).Empty)
    (hsliver : ¬ Resizable ℚ calibrator.w calibrator.h (imread file)) :
    ∀ files ∈ chunks, files.length = calibrator.batch.toNat := by
  have chunked := streamed.chunked positive
  have hqueue := mem_readableFiles.mpr ⟨hpending, hreadable⟩
  rw [← chunked.flatten] at hqueue
  apply chunked.pending
  rcases List.mem_append.mp hqueue with hserved | hleft
  · obtain ⟨files, hfiles, hfile⟩ := List.mem_flatten.mp hserved
    exact absurd (streamed.resizable files hfiles file hfile) hsliver
  · exact List.ne_nil_of_mem hleft

theorem Streamed.full_of_dvd (positive : 1 ≤ calibrator.batch)
    (streamed : Streamed imread (resized cvResize) calibrator state chunks outs)
    (hdvd : calibrator.batch.toNat ∣
      (readableFiles imread calibrator.pending).length) :
    ∀ files ∈ chunks, files.length = calibrator.batch.toNat := by
  have chunked := streamed.chunked positive
  by_cases hleft : readableFiles imread state.pending = []
  · rw [hleft] at chunked
    exact chunked.full_iff_dvd.mpr hdvd
  · exact chunked.pending hleft

theorem calibration_imagesOnly_iff (throws : ThrowsOnEmpty cvResize)
    (positive : 1 ≤ calibrator.batch) :
    (∀ devices final, (calibration ℚ imread cvResize calibrator).Run
        devices final →
      ∀ device ∈ devices,
        ImagesOnly imread (resized cvResize) calibrator device) ↔
      calibrator.batch.toNat ∣
          (readableFiles imread calibrator.pending).length ∨
        ∃ file ∈ calibrator.pending, ¬ (imread file).Empty ∧
          ¬ Resizable ℚ calibrator.w calibrator.h (imread file) := by
  constructor
  · intro imagesOnly
    by_contra hneither
    obtain ⟨hndvd, hall⟩ := not_or.mp hneither
    have resizable : ∀ file ∈ calibrator.pending, ¬ (imread file).Empty →
        Resizable ℚ calibrator.w calibrator.h (imread file) := by
      intro file hpending hreadable
      by_contra hsliver
      exact hall ⟨file, hpending, hreadable, hsliver⟩
    obtain ⟨devices, final, run, hnone⟩ := calibration_finishes throws positive
      (.start rfl : (calibration ℚ imread cvResize calibrator).Run [] _)
      (forall_mem_readableFiles.mpr resizable)
    obtain ⟨chunks, streamed⟩ := calibration_streamed throws positive run
    have chunked := streamed.chunked positive
    rw [hnone] at chunked
    apply hndvd
    rw [← chunked.full_iff_dvd]
    intro files hfiles
    rw [← streamed.imagesOnly_iff positive hfiles]
    apply imagesOnly devices final run
    rw [streamed.outs]
    exact List.mem_map_of_mem hfiles
  · intro hcondition devices final run device hdevice
    obtain ⟨chunks, streamed⟩ := calibration_streamed throws positive run
    rw [streamed.outs] at hdevice
    obtain ⟨files, hfiles, rfl⟩ := List.mem_map.mp hdevice
    rw [streamed.imagesOnly_iff positive hfiles]
    rcases hcondition with hdvd | ⟨file, hpending, hreadable, hsliver⟩
    · exact streamed.full_of_dvd positive hdvd files hfiles
    · exact streamed.full_of_unresizable positive hpending hreadable hsliver
        files hfiles

theorem batches_imagesOnly_iff (imread : File → Mat)
    {cvResize : Mat → Int → Int → Option Mat}
    (throws : ThrowsOnEmpty cvResize) (inputTensor : String)
    (deviceInput : Pointer) {calibrator : Calibrator File}
    (positive : 1 ≤ calibrator.batch) :
    (∀ devices final, (batchSource imread cvResize inputTensor deviceInput
        calibrator).Run devices final →
      ∀ device ∈ devices,
        ImagesOnly imread (resized cvResize) calibrator device) ↔
      calibrator.batch.toNat ∣
          (readableFiles imread calibrator.pending).length ∨
        ∃ file ∈ calibrator.pending, ¬ (imread file).Empty ∧
          ¬ Resizable ℚ calibrator.w calibrator.h (imread file) := by
  rw [batchSource_eq]
  exact calibration_imagesOnly_iff throws positive

/-- Four files by twos, of which the third cannot be read. -/
theorem batches_imagesOnly_iff_pairs :
    (∀ devices final, (batchSource
        (fun file => rampImage (if file = "c.png" then 0 else 4) 2)
        cvResizeNearest "images" 0
        ⟨4, 5, 2, ["a.png", "b.png", "c.png", "d.png"]⟩).Run devices final →
      ∀ device ∈ devices, ImagesOnly
        (fun file => rampImage (if file = "c.png" then 0 else 4) 2)
        (resized cvResizeNearest)
        ⟨4, 5, 2, ["a.png", "b.png", "c.png", "d.png"]⟩ device) ↔
      (2 : Int).toNat ∣ (readableFiles
          (fun file => rampImage (if file = "c.png" then 0 else 4) 2)
          ["a.png", "b.png", "c.png", "d.png"]).length ∨
        ∃ file ∈ ["a.png", "b.png", "c.png", "d.png"],
          ¬ (rampImage (if file = "c.png" then 0 else 4) 2).Empty ∧
          ¬ Resizable ℚ 4 5
            (rampImage (if file = "c.png" then 0 else 4) 2) :=
  batches_imagesOnly_iff _ cvResizeNearest_throws "images" 0 (by decide)

/-- One image in a batch of eight. -/
theorem batches_show_filler :
    ¬ ∀ (imread : String → Mat) (cvResize : Mat → Int → Int → Option Mat)
      (inputTensor : String) (deviceInput : Nat)
      (calibrator : Calibrator String),
        ThrowsOnEmpty cvResize → 1 ≤ calibrator.batch →
          ∀ devices final, (batchSource imread cvResize inputTensor
            deviceInput calibrator).Run devices final →
              ∀ device ∈ devices,
                ImagesOnly imread (resized cvResize) calibrator device := by
  intro always
  have imagesOnly := always (fun _ => rampImage 4 2) cvResizeNearest
    "images" 0 ⟨4, 5, 8, ["calib/street.jpg"]⟩ cvResizeNearest_throws
    (by decide)
  rw [batchSource_eq, calibration_imagesOnly_iff cvResizeNearest_throws
    (by decide)] at imagesOnly
  rcases imagesOnly with hdvd | ⟨file, _, _, hsliver⟩
  · exact absurd hdvd (by decide)
  · exact hsliver (by decide +kernel)

end Batches

end EmbeddedPortfolio.Detector
