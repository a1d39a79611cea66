import Mathlib.Data.String.Basic
import EmbeddedPortfolio.Detector.Calibrator
import EmbeddedPortfolio.Statistics.Quantile
import EmbeddedPortfolio.Transition.Chunks

namespace EmbeddedPortfolio.Detector

open EmbeddedPortfolio.Program EmbeddedPortfolio.Statistics
open EmbeddedPortfolio.Transition FloatConversions

/-! The calibration images, over all the calls that stream them. -/

section Files

structure DirectoryEntry where
  path : String
  regular : Bool

/-- `path::extension`: a leading dot starts none. -/
def extension (path : String) : String :=
  let name := (path.toList.reverse.takeWhile (· ≠ '/')).reverse
  let suffix := (name.reverse.takeWhile (· ≠ '.')).reverse
  if name = ['.', '.'] ∨ name.length ≤ suffix.length + 1 then ""
  else String.ofList ('.' :: suffix)

def isCalibrationImage (entry : DirectoryEntry) : Bool :=
  let ext := (extension entry.path).map Char.toLower
  entry.regular &&
    (ext == ".jpg" || ext == ".jpeg" || ext == ".png" || ext == ".bmp")

/-- With the directory's entries in any order. -/
def int8EntropyCalibrator (stdSort : StdSort String)
    (entries : List DirectoryEntry) (width height batch : Int) :
    Calibrator String where
  w := width
  h := height
  batch
  pending := stdSort.sort
    ((entries.filter isCalibrationImage).map DirectoryEntry.path)

end Files

section Code

variable {Real File : Type}
variable [Mul Real] [Div Real] [LT Real] [DecidableLT Real] [IntCast Real]
variable [OfScientific Real] [FloatConversions Real]

/-- What is documented of `cv::resize`: it throws when the size asked for is
empty, and else it returns an image. -/
def ThrowsOnEmpty (cvResize : Mat → Int → Int → Option Mat) : Prop :=
  ∀ img cols rows, ¬ img.Empty →
    ((cvResize img cols rows).isSome ↔ 1 ≤ cols ∧ 1 ≤ rows)

/-- The image that `cv::resize` leaves, where it returns. -/
def resized (cvResize : Mat → Int → Int → Option Mat) (img : Mat)
    (cols rows : Int) : Mat :=
  (cvResize img cols rows).getD img

def loadImages? (imread : File → Mat)
    (cvResize : Mat → Int → Int → Option Mat) (w h batch : Int) :
    Int → (Int → Real) → List File → Option (Loading Real File)
  | loaded, nchw, [] => some { loaded, nchw, pending := [] }
  | loaded, nchw, file :: rest =>
      if loaded < batch then
        let img := imread file
        if img.Empty then
          loadImages? imread cvResize w h batch loaded nchw rest
        else do
          let scale : Real := stdMin ((w : Real) / (img.cols : Real))
            ((h : Real) / (img.rows : Real))
          let nw := toInt (round ((img.cols : Real) * scale))
          let nh := toInt (round ((img.rows : Real) * scale))
          let resized ← cvResize img nw nh
          loadImages? imread cvResize w h batch (loaded + 1)
            (applyStores (calibrationStores (fun _ _ _ => resized) w h loaded
              img) nchw) rest
      else some { loaded, nchw, pending := file :: rest }

/-- `none` when the call ends in an exception. -/
def loadNextBatch? (imread : File → Mat)
    (cvResize : Mat → Int → Int → Option Mat) (calibrator : Calibrator File)
    (nchw : Int → Real) :
    Option (Bool × (Int → Real) × Calibrator File) :=
  if calibrator.pending = [] then some (false, nchw, calibrator)
  else do
    let loading ← loadImages? imread cvResize calibrator.w calibrator.h
      calibrator.batch 0 (fun _ => 0.5) calibrator.pending
    some (0 < loading.loaded, loading.nchw,
      { calibrator with pending := loading.pending })

variable (Real) in
/-- At least one column and one row are left of the image. -/
def Resizable (w h : Int) (img : Mat) : Prop :=
  let lb : Placement Real := placement img.cols img.rows w h
  1 ≤ lb.newW ∧ 1 ≤ lb.newH

instance (w h : Int) (img : Mat) : Decidable (Resizable Real w h img) :=
  inferInstanceAs (Decidable (_ ∧ _))

omit [OfScientific Real] in
variable (Real) in
theorem ThrowsOnEmpty.resize_eq {cvResize : Mat → Int → Int → Option Mat}
    (throws : ThrowsOnEmpty cvResize) (w h : Int) {img : Mat}
    (readable : ¬ img.Empty) :
    let lb : Placement Real := placement img.cols img.rows w h
    cvResize img lb.newW lb.newH =
      if Resizable Real w h img then
        some (resized cvResize img lb.newW lb.newH)
      else none := by
  intro lb
  have documented := throws img lb.newW lb.newH readable
  by_cases resizable : Resizable Real w h img
  · obtain ⟨shown, hshown⟩ :=
      Option.isSome_iff_exists.mp (documented.mpr resizable)
    rw [if_pos resizable, resized, hshown, Option.getD_some]
  · rw [if_neg resizable, ← Option.not_isSome_iff_eq_none]
    exact mt documented.mp resizable

omit [OfScientific Real] in
/-- Until an image cannot be resized, every resize returns. -/
theorem loadImages?_eq {cvResize : Mat → Int → Int → Option Mat}
    (throws : ThrowsOnEmpty cvResize) (imread : File → Mat)
    (w h batch loaded : Int) (nchw : Int → Real) (files : List File) :
    loadImages? imread cvResize w h batch loaded nchw files =
      if ∀ img ∈ readableImages imread (batch - loaded) files,
          Resizable Real w h img then
        some (loadImages imread (resized cvResize) w h batch loaded nchw
          files)
      else none := by
  induction files generalizing loaded nchw with
  | nil => simp [loadImages?, loadImages, readableImages]
  | cons file files induction =>
      rw [loadImages?, loadImages]
      by_cases hroom : loaded < batch
      · rw [if_pos hroom, if_pos hroom]
        dsimp only
        by_cases empty : (imread file).Empty
        · rw [if_pos empty, if_pos empty, readableImages_unreadable empty]
          exact induction loaded nchw
        · rw [if_neg empty, if_neg empty,
            readableImages_readable empty (by omega), sub_sub]
          simp only [List.forall_mem_cons]
          refine (congrArg (Option.bind · _)
            (throws.resize_eq Real w h empty)).trans ?_
          by_cases resizable : Resizable Real w h (imread file)
          · rw [if_pos resizable]
            simp only [resizable, true_and]
            exact induction (loaded + 1) _
          · rw [if_neg resizable, if_neg fun all => resizable all.1]
            rfl
      · rw [if_neg hroom, if_neg hroom,
          readableImages_full imread (by omega)]
        simp

/-! One call. -/

def readableFiles (imread : File → Mat) (files : List File) : List File :=
  files.filter fun file => ¬ (imread file).Empty

theorem readableImages_eq (imread : File → Mat) (room : Int)
    (files : List File) :
    readableImages imread room files =
      ((readableFiles imread files).take room.toNat).map imread := by
  unfold readableImages readableFiles
  rw [List.filter_map, List.map_take]
  rfl

omit [OfScientific Real] in
/-- No readable file is passed over, and none is left unless the batch is
full. -/
theorem loadImages_pending (imread : File → Mat)
    (resize : Mat → Int → Int → Mat) (w h batch loaded : Int)
    (nchw : Int → Real) (files : List File) :
    readableFiles imread
        (loadImages imread resize w h batch loaded nchw files).pending =
      (readableFiles imread files).drop (batch - loaded).toNat := by
  induction files generalizing loaded nchw with
  | nil => simp [loadImages, readableFiles]
  | cons file files induction =>
      rw [loadImages]
      by_cases hroom : loaded < batch
      · rw [if_pos hroom]
        dsimp only
        by_cases empty : (imread file).Empty
        · rw [if_pos empty, induction]
          simp [readableFiles, empty]
        · have hsucc : (batch - loaded).toNat =
              (batch - (loaded + 1)).toNat + 1 := by
            omega
          have hcons : readableFiles imread (file :: files) =
              file :: readableFiles imread files :=
            List.filter_cons_of_pos (by simpa using empty)
          rw [if_neg empty, induction, hcons, hsucc, List.drop_succ_cons]
      · have hfull : (batch - loaded).toNat = 0 := by
          omega
        rw [if_neg hroom, hfull, List.drop_zero]

variable (Real) in
/-- The batch that some readable files fill from slot 0 on. -/
def filledBatch (imread : File → Mat) (resize : Mat → Int → Int → Mat)
    (w h : Int) (files : List File) : Int → Real :=
  applyStores (slotStores (calibrationStores resize w h) 0
    (files.map imread)) fun _ => 0.5

/-- What a call does that returns. -/
structure Answers (imread : File → Mat)
    (resize : Mat → Int → Int → Mat) (before after : Calibrator File)
    (returned : Bool) (nchw : Int → Real) : Prop where
  resizable : ∀ file ∈ (readableFiles imread before.pending).take
    before.batch.toNat, Resizable Real before.w before.h (imread file)
  served : returned = true ↔ readableFiles imread before.pending ≠ []
  filled : returned = true → nchw =
    filledBatch Real imread resize before.w before.h
      ((readableFiles imread before.pending).take before.batch.toNat)
  pending : readableFiles imread after.pending =
    (readableFiles imread before.pending).drop before.batch.toNat
  settings : after = { before with pending := after.pending }

theorem loadNextBatch?_eq {cvResize : Mat → Int → Int → Option Mat}
    (throws : ThrowsOnEmpty cvResize) (imread : File → Mat)
    (calibrator : Calibrator File) (nchw : Int → Real) :
    loadNextBatch? imread cvResize calibrator nchw =
      if ∀ img ∈ batchImages imread calibrator,
          Resizable Real calibrator.w calibrator.h img then
        some (loadNextBatch imread (resized cvResize) calibrator nchw)
      else none := by
  unfold loadNextBatch? loadNextBatch batchImages
  by_cases hpending : calibrator.pending = []
  · simp [hpending, readableImages]
  · rw [if_neg hpending, if_neg hpending, loadImages?_eq throws,
      Int.sub_zero]
    split <;> rfl

theorem loadNextBatch_answers {imread : File → Mat}
    (resize : Mat → Int → Int → Mat) {calibrator : Calibrator File}
    (positive : 1 ≤ calibrator.batch)
    (resizable : ∀ img ∈ batchImages imread calibrator,
      Resizable Real calibrator.w calibrator.h img) (nchw : Int → Real) :
    Answers imread resize calibrator
      (loadNextBatch imread resize calibrator nchw).2.2
      (loadNextBatch imread resize calibrator nchw).1
      (loadNextBatch imread resize calibrator nchw).2.1 := by
  have hresizable : ∀ file ∈ (readableFiles imread calibrator.pending).take
      calibrator.batch.toNat,
      Resizable Real calibrator.w calibrator.h (imread file) := by
    intro file hfile
    apply resizable
    rw [batchImages, readableImages_eq]
    exact List.mem_map_of_mem hfile
  unfold loadNextBatch
  by_cases hpending : calibrator.pending = []
  · rw [if_pos hpending]
    refine ⟨hresizable, ?_, ?_, ?_, rfl⟩
    · simp [hpending, readableFiles]
    · simp
    · simp [hpending, readableFiles]
  · rw [if_neg hpending]
    obtain ⟨hloaded, hnchw⟩ := loadImages_eq imread resize calibrator.w
      calibrator.h calibrator.batch 0 (fun _ => (0.5 : Real))
      calibrator.pending
    rw [Int.sub_zero, readableImages_eq] at hloaded hnchw
    refine ⟨hresizable, ?_, fun _ => hnchw, ?_, rfl⟩
    · dsimp only
      rw [hloaded, decide_eq_true_iff, ← List.length_pos_iff]
      simp only [List.length_map, List.length_take]
      omega
    · dsimp only
      rw [loadImages_pending, Int.sub_zero]

theorem loadNextBatch?_answers {imread : File → Mat}
    {cvResize : Mat → Int → Int → Option Mat}
    (throws : ThrowsOnEmpty cvResize) {before after : Calibrator File}
    {nchw out : Int → Real} {returned : Bool}
    (called : loadNextBatch? imread cvResize before nchw =
      some (returned, out, after)) (positive : 1 ≤ before.batch) :
    Answers imread (resized cvResize) before after returned out := by
  rw [loadNextBatch?_eq throws] at called
  split at called
  · rename_i resizable
    have answers := loadNextBatch_answers (resized cvResize) positive
      resizable nchw
    rwa [Option.some.inj called] at answers
  · cases called

theorem loadNextBatch?_returns {cvResize : Mat → Int → Int → Option Mat}
    (throws : ThrowsOnEmpty cvResize) {imread : File → Mat}
    {calibrator : Calibrator File}
    (resizable : ∀ file ∈ readableFiles imread calibrator.pending,
      Resizable Real calibrator.w calibrator.h (imread file))
    (nchw : Int → Real) :
    ∃ returned out after, loadNextBatch? imread cvResize calibrator nchw =
      some (returned, out, after) := by
  refine ⟨_, _, _, (loadNextBatch?_eq throws ..).trans (if_pos ?_)⟩
  intro img himg
  rw [batchImages, readableImages_eq] at himg
  obtain ⟨file, hfile, rfl⟩ := List.mem_map.mp himg
  exact resizable file (List.mem_of_mem_take hfile)

/-! All the calls. -/

variable (Real) in
/-- The calls that return true, each with the batch it leaves. -/
def calibration (imread : File → Mat)
    (cvResize : Mat → Int → Int → Option Mat) (calibrator : Calibrator File) :
    System (Calibrator File) (Int → Real) where
  initial start := start = calibrator
  step before out after := ∃ nchw,
    loadNextBatch? imread cvResize before nchw = some (true, out, after)

/-- The batches are chunks of the readable files. -/
structure Streamed (imread : File → Mat) (resize : Mat → Int → Int → Mat)
    (calibrator state : Calibrator File) (chunks : List (List File))
    (outs : List (Int → Real)) : Prop where
  settings : state = { calibrator with pending := state.pending }
  run : (chunking calibrator.batch.toNat
    (readableFiles imread calibrator.pending)).Run chunks
      (readableFiles imread state.pending)
  outs : outs = chunks.map
    (filledBatch Real imread resize calibrator.w calibrator.h)
  resizable : ∀ chunk ∈ chunks, ∀ file ∈ chunk,
    Resizable Real calibrator.w calibrator.h (imread file)

variable {imread : File → Mat} {cvResize : Mat → Int → Int → Option Mat}
variable {calibrator state : Calibrator File} {outs : List (Int → Real)}

theorem calibration_streamed (throws : ThrowsOnEmpty cvResize)
    (positive : 1 ≤ calibrator.batch)
    (run : (calibration Real imread cvResize calibrator).Run outs state) :
    ∃ chunks,
      Streamed imread (resized cvResize) calibrator state chunks outs := by
  induction run with
  | start initial =>
      cases initial
      exact ⟨[], rfl, .start rfl, rfl, by simp⟩
  | @extend outs before after out _ taken induction =>
      obtain ⟨nchw, called⟩ := taken
      obtain ⟨chunks, streamed⟩ := induction
      have settings := streamed.settings
      generalize before.pending = pending at settings
      subst settings
      have answers := loadNextBatch?_answers throws called positive
      refine ⟨chunks ++ [_], answers.settings,
        streamed.run.extend ⟨answers.served.mp rfl, rfl, answers.pending⟩,
        ?_, ?_⟩
      · rw [streamed.outs, answers.filled rfl, List.map_append,
          List.map_singleton]
      · intro chunk hchunk
        rcases List.mem_append.mp hchunk with hearlier | hlast
        · exact streamed.resizable chunk hearlier
        · rw [List.mem_singleton.mp hlast]
          exact answers.resizable

theorem Streamed.chunked {resize : Mat → Int → Int → Mat}
    {chunks : List (List File)} (positive : 1 ≤ calibrator.batch)
    (streamed : Streamed imread resize calibrator state chunks outs) :
    Chunked calibrator.batch.toNat
      (readableFiles imread calibrator.pending) chunks
      (readableFiles imread state.pending) :=
  chunking_run (by omega) streamed.run

/-- Every call loads an image, and so there is a last one. -/
theorem calibration_finishes (throws : ThrowsOnEmpty cvResize)
    (positive : 1 ≤ calibrator.batch)
    (run : (calibration Real imread cvResize calibrator).Run outs state)
    (resizable : ∀ file ∈ readableFiles imread state.pending,
      Resizable Real calibrator.w calibrator.h (imread file)) :
    ∃ outs final, (calibration Real imread cvResize calibrator).Run outs final ∧
      readableFiles imread final.pending = [] := by
  induction hleft : (readableFiles imread state.pending).length
    using Nat.strong_induction_on generalizing outs state with
  | h left induction =>
      by_cases hnone : readableFiles imread state.pending = []
      · exact ⟨outs, state, run, hnone⟩
      · obtain ⟨chunks, streamed⟩ := calibration_streamed throws positive run
        have settings := streamed.settings
        generalize state.pending = pending at settings
        subst settings
        obtain ⟨returned, out, after, called⟩ := loadNextBatch?_returns
          throws resizable fun _ => 0.5
        have answers := loadNextBatch?_answers throws called positive
        rw [answers.served.mpr hnone] at called
        have hfewer : (readableFiles imread after.pending).length < left := by
          have hsome := List.length_pos_iff.mpr hnone
          rw [answers.pending, List.length_drop]
          dsimp only at hsome hleft ⊢
          omega
        refine induction _ hfewer (run.extend ⟨_, called⟩) ?_ rfl
        intro file hfile
        rw [answers.pending] at hfile
        exact resizable file (List.mem_of_mem_drop hfile)

variable (Real) in
/-- The files of each batch, up to the call that returns false. -/
structure Visits [LT File] (imread : File → Mat)
    (cvResize : Mat → Int → Int → Option Mat)
    (calibrator final : Calibrator File)
    (batches : List (List File)) : Prop where
  served : (calibration Real imread cvResize calibrator).Run (batches.map
    (filledBatch Real imread (resized cvResize) calibrator.w
      calibrator.h)) final
  finished : ∀ nchw : Int → Real, ∃ out after,
    loadNextBatch? imread cvResize final nchw = some (false, out, after)
  once : batches.flatten = readableFiles imread calibrator.pending
  sorted : batches.flatten.Pairwise fun earlier later => ¬ later < earlier
  room : ∀ files ∈ batches,
    0 < files.length ∧ (files.length : Int) ≤ calibrator.batch
  full : ∀ files ∈ batches.dropLast, (files.length : Int) = calibrator.batch
  exhausted : ∀ outs state (nchw out : Int → Real) after,
    (calibration Real imread cvResize calibrator).Run outs state →
      loadNextBatch? imread cvResize state nchw = some (false, out, after) →
        ∀ file ∈ state.pending, (imread file).Empty

theorem readableFiles_eq_nil {imread : File → Mat} {files : List File} :
    readableFiles imread files = [] ↔
      ∀ file ∈ files, (imread file).Empty := by
  simp [readableFiles]

theorem mem_readableFiles {imread : File → Mat} {files : List File}
    {file : File} :
    file ∈ readableFiles imread files ↔
      file ∈ files ∧ ¬ (imread file).Empty := by
  simp [readableFiles]

theorem forall_mem_readableFiles {imread : File → Mat} {files : List File}
    {property : File → Prop} :
    (∀ file ∈ readableFiles imread files, property file) ↔
      ∀ file ∈ files, ¬ (imread file).Empty → property file := by
  simp only [mem_readableFiles, and_imp]

theorem calibration_exhausted (throws : ThrowsOnEmpty cvResize)
    (positive : 1 ≤ calibrator.batch)
    (run : (calibration Real imread cvResize calibrator).Run outs state)
    {nchw out : Int → Real} {after : Calibrator File}
    (called : loadNextBatch? imread cvResize state nchw =
      some (false, out, after)) :
    readableFiles imread state.pending = [] := by
  obtain ⟨_, streamed⟩ := calibration_streamed throws positive run
  have hbatch : 1 ≤ state.batch := by
    rw [streamed.settings]
    exact positive
  by_contra hsome
  have answers := loadNextBatch?_answers throws called hbatch
  exact absurd (answers.served.mpr hsome) (by decide)

theorem visits_iff [LT File] (throws : ThrowsOnEmpty cvResize)
    (positive : 1 ≤ calibrator.batch)
    (sorted : calibrator.pending.Pairwise
      fun earlier later => ¬ later < earlier) :
    (∃ batches final, Visits Real imread cvResize calibrator final batches) ↔
      ∀ file ∈ calibrator.pending, ¬ (imread file).Empty →
        Resizable Real calibrator.w calibrator.h (imread file) := by
  constructor
  · intro ⟨batches, final, visits⟩ file hfile hreadable
    obtain ⟨out, after, called⟩ := visits.finished fun _ => 0.5
    have hnone := calibration_exhausted throws positive visits.served called
    obtain ⟨chunks, streamed⟩ :=
      calibration_streamed throws positive visits.served
    have chunked := streamed.chunked positive
    have hmem := mem_readableFiles.mpr ⟨hfile, hreadable⟩
    rw [← chunked.flatten, hnone, List.append_nil] at hmem
    obtain ⟨chunk, hchunk, hinside⟩ := List.mem_flatten.mp hmem
    exact streamed.resizable chunk hchunk file hinside
  · intro resizable
    obtain ⟨outs, final, run, hnone⟩ := calibration_finishes throws positive
      (.start rfl : (calibration Real imread cvResize calibrator).Run [] _)
      (forall_mem_readableFiles.mpr resizable)
    obtain ⟨batches, streamed⟩ := calibration_streamed throws positive run
    have chunked := streamed.chunked positive
    have honce : batches.flatten =
        readableFiles imread calibrator.pending := by
      rw [← chunked.flatten, hnone, List.append_nil]
    refine ⟨batches, final, streamed.outs ▸ run, ?_, honce, ?_, ?_, ?_, ?_⟩
    · intro nchw
      have hresizable : ∀ file ∈ readableFiles imread final.pending,
          Resizable Real final.w final.h (imread file) := by
        simp [hnone]
      obtain ⟨returned, out, after, called⟩ := loadNextBatch?_returns
        throws hresizable nchw
      have hbatch : 1 ≤ final.batch := by
        rw [streamed.settings]
        exact positive
      have answers := loadNextBatch?_answers throws called hbatch
      cases returned with
      | true => exact absurd hnone (answers.served.mp rfl)
      | false => exact ⟨out, after, called⟩
    · rw [honce]
      exact sorted.filter _
    · intro files hfiles
      have := chunked.room files hfiles
      omega
    · intro files hfiles
      have := chunked.full files hfiles
      omega
    · intro outs state nchw out after run called
      exact readableFiles_eq_nil.mp
        (calibration_exhausted throws positive run called)

theorem mem_int8EntropyCalibrator {stdSort : StdSort String}
    {entries : List DirectoryEntry} {width height batch : Int}
    {file : String} :
    file ∈ (int8EntropyCalibrator stdSort entries width height batch).pending ↔
      ∃ entry ∈ entries, isCalibrationImage entry ∧ entry.path = file := by
  simp [int8EntropyCalibrator, (stdSort.permutes _).mem_iff, and_assoc]

theorem calibration_visits_iff (stdSort : StdSort String)
    (imread : String → Mat) {cvResize : Mat → Int → Int → Option Mat}
    (throws : ThrowsOnEmpty cvResize) (entries : List DirectoryEntry)
    (width height : Int) {batch : Int} (positive : 1 ≤ batch) :
    (∃ batches final, Visits Real imread cvResize (int8EntropyCalibrator stdSort
      entries width height batch) final batches) ↔
      ∀ entry ∈ entries, isCalibrationImage entry →
        ¬ (imread entry.path).Empty →
          Resizable Real width height (imread entry.path) := by
  have hbatch : 1 ≤ (int8EntropyCalibrator stdSort entries width height
      batch).batch := positive
  rw [visits_iff throws hbatch (stdSort.sorted _)]
  constructor
  · intro resizable entry hentry himage
    exact resizable entry.path
      (mem_int8EntropyCalibrator.mpr ⟨entry, hentry, himage, rfl⟩)
  · intro resizable file hfile
    obtain ⟨entry, hentry, himage, rfl⟩ := mem_int8EntropyCalibrator.mp hfile
    exact resizable entry hentry himage

end Code

/-- The nearest pixel's colour, of a size that is not empty. -/
def cvResizeNearest (img : Mat) (cols rows : Int) : Option Mat :=
  if 1 ≤ cols ∧ 1 ≤ rows then some (resizeNearest img cols rows) else none

theorem cvResizeNearest_throws : ThrowsOnEmpty cvResizeNearest := by
  intro img cols rows _
  rw [cvResizeNearest, Option.isSome_ite]

/-- Two directory entries of three are images, and one can be read. -/
theorem calibration_visits_iff_folder :
    (∃ batches final, Visits ℚ
      (fun file => rampImage (if file = "a.JPG" then 4 else 0) 2)
      cvResizeNearest (int8EntropyCalibrator .insertion
        [⟨"notes.txt", true⟩, ⟨"b.png", true⟩, ⟨"a.JPG", true⟩] 4 5 2)
      final batches) ↔
      ∀ entry ∈ ([⟨"notes.txt", true⟩, ⟨"b.png", true⟩, ⟨"a.JPG", true⟩] :
          List DirectoryEntry),
        isCalibrationImage entry →
          ¬ (rampImage (if entry.path = "a.JPG" then 4 else 0) 2).Empty →
            Resizable ℚ 4 5
              (rampImage (if entry.path = "a.JPG" then 4 else 0) 2) :=
  calibration_visits_iff .insertion _ cvResizeNearest_throws _ 4 5 (by decide)

/-- A pole of one by two thousand pixels shrinks to no column at all. -/
theorem calibration_stops_at_pole :
    ¬ ∀ (stdSort : StdSort String) (imread : String → Mat)
      (cvResize : Mat → Int → Int → Option Mat)
      (entries : List DirectoryEntry) (width height batch : Int),
        ThrowsOnEmpty cvResize → 1 ≤ batch → ∃ batches final,
          Visits ℚ imread cvResize (int8EntropyCalibrator stdSort entries
            width height batch) final batches := by
  intro always
  have visits := always .insertion (fun _ => rampImage 1 2000)
    cvResizeNearest [⟨"calib/pole.jpg", true⟩] 640 640 8
    cvResizeNearest_throws (by decide)
  rw [visits_iff cvResizeNearest_throws (by decide)
    (StdSort.insertion.sorted _)] at visits
  have resizable := visits "calib/pole.jpg" (by decide +kernel) (by decide)
  exact absurd resizable (by decide +kernel)

end EmbeddedPortfolio.Detector
