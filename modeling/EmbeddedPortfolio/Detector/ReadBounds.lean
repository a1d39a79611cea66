import EmbeddedPortfolio.Detector.Decode
import EmbeddedPortfolio.Detector.TensorBinding
import Mathlib.Tactic.Linarith

namespace EmbeddedPortfolio.Detector

open EmbeddedPortfolio.Program

/-! Which cells of the host buffer the decoder reads. -/

section Argmax

variable {Real : Type} [Zero Real] [LT Real] [DecidableLT Real]

theorem bestClass_reads (position : Int → Int) (clsOff numClasses : Int)
    (memory : Int → Real) :
    (bestClass (fun attr => Reading.read (position attr)) clsOff
        numClasses).reads memory =
      (List.range numClasses.toNat).map
        fun c : Nat => position (clsOff + c) := by
  rw [bestClass, Reading.reads_foldlM fun c : Nat => [position (clsOff + c)]]
  · exact List.flatMap_pure_eq_map ..
  · intro best c
    rfl

end Argmax

section Footprint

variable {Real : Type}
variable [Sub Real] [Mul Real] [Div Real] [Zero Real] [One Real]
variable [LT Real] [DecidableLT Real] [IntCast Real] [OfScientific Real]

def lastAttr (hasObj : Bool) (numClasses : Int) : Int :=
  classOffset hasObj - 1 + max 0 numClasses

theorem decodeCandidate_reads (position : Int → Int) (hasObj : Bool)
    (clsOff : Int) (lb : LetterboxInfo Real) (cfg : PostProcessConfig Real)
    (memory : Int → Real) :
    (decodeCandidate (fun attr => Reading.read (position attr)) hasObj
        clsOff lb cfg).reads memory =
      [position 0, position 1, position 2, position 3] ++
        (if hasObj then [position 4] else []) ++
        (if memory (position 4) < cfg.confThreshold * 0.5 ∧ hasObj then []
          else (List.range cfg.numClasses.toNat).map
            fun c : Nat => position (clsOff + c)) := by
  simp only [decodeCandidate, Reading.reads_bind, Reading.reads_read,
    Reading.reads_ite, Reading.reads_pure, Reading.value_read, ite_self,
    List.append_nil, bestClass_reads]
  cases hasObj with
  | false => simp [objectness]
  | true => simp [objectness]

theorem decodeCandidate_reads_bound {position : Int → Int} {hasObj : Bool}
    {lb : LetterboxInfo Real} {cfg : PostProcessConfig Real}
    {memory : Int → Real} {index : Int}
    (isRead : index ∈
      (decodeCandidate (fun attr => Reading.read (position attr)) hasObj
        (classOffset hasObj) lb cfg).reads memory) :
    ∃ attr, 0 ≤ attr ∧ attr ≤ lastAttr hasObj cfg.numClasses ∧
      index = position attr := by
  have hoffset : 4 ≤ classOffset hasObj ∧ (hasObj → classOffset hasObj = 5) := by
    cases hasObj <;> simp [classOffset]
  rw [decodeCandidate_reads, List.mem_append, List.mem_append] at isRead
  unfold lastAttr
  rcases isRead with (hbox | hobj) | hclass
  · simp only [List.mem_cons, List.not_mem_nil, or_false] at hbox
    rcases hbox with rfl | rfl | rfl | rfl
    · exact ⟨0, by omega, by omega, rfl⟩
    · exact ⟨1, by omega, by omega, rfl⟩
    · exact ⟨2, by omega, by omega, rfl⟩
    · exact ⟨3, by omega, by omega, rfl⟩
  · cases hasObj with
    | false => simp at hobj
    | true =>
        have hfive := hoffset.2 rfl
        exact ⟨4, by omega, by omega, by simpa using hobj⟩
  · split at hclass
    · simp at hclass
    · obtain ⟨c, hc, rfl⟩ := List.mem_map.mp hclass
      rw [List.mem_range] at hc
      exact ⟨classOffset hasObj + c, by omega, by omega, rfl⟩

/-- A candidate that the objectness test lets pass is read up to its last
attribute. -/
theorem decodeCandidate_reads_last {position : Int → Int} {hasObj : Bool}
    {lb : LetterboxInfo Real} {cfg : PostProcessConfig Real}
    {memory : Int → Real}
    (passes : ¬ memory (position 4) < cfg.confThreshold * 0.5) :
    position (lastAttr hasObj cfg.numClasses) ∈
      (decodeCandidate (fun attr => Reading.read (position attr)) hasObj
        (classOffset hasObj) lb cfg).reads memory := by
  have hpasses : ¬ (memory (position 4) < cfg.confThreshold * 0.5 ∧ hasObj) :=
    fun rejected => passes rejected.1
  rw [decodeCandidate_reads, if_neg hpasses, List.mem_append,
    List.mem_append]
  by_cases noClass : cfg.numClasses ≤ 0
  · left
    rw [lastAttr, max_eq_left noClass]
    cases hasObj with
    | false => exact Or.inl (by simp [classOffset])
    | true => exact Or.inr (by simp [classOffset])
  · right
    apply List.mem_map.mpr
    refine ⟨(cfg.numClasses - 1).toNat, List.mem_range.mpr (by omega), ?_⟩
    apply congrArg position
    rw [lastAttr]
    omega

theorem decodeCandidate_reads_first {position : Int → Int} {hasObj : Bool}
    {clsOff : Int} {lb : LetterboxInfo Real} {cfg : PostProcessConfig Real}
    {memory : Int → Real} :
    position 0 ∈
      (decodeCandidate (fun attr => Reading.read (position attr)) hasObj
        clsOff lb cfg).reads memory := by
  simp [decodeCandidate_reads]

variable [Add Real]

theorem mem_decodeYolo_reads
    {sort : List (Detection Real) → List (Detection Real)} {rows cols : Int}
    {lb : LetterboxInfo Real} {cfg : PostProcessConfig Real}
    {memory : Int → Real} {index : Int} :
    index ∈ (decodeYolo sort rows cols lb cfg).reads memory ↔
      ∃ box : Nat, (box : Int) < numBoxes rows cols cfg.transposed ∧
        index ∈ (decodeCandidate
          (fun attr =>
            Reading.read (cellIndex cfg.transposed cols box attr))
          (hasObjectness rows cols cfg)
          (classOffset (hasObjectness rows cols cfg)) lb cfg).reads memory := by
  simp [decodeYolo, decodeRaw, List.mem_flatMap, Int.lt_toNat]

end Footprint

/-! The decoder against the buffer of a binding. -/

def Readable (size : Nat) (index : Int) : Prop :=
  0 ≤ index ∧ index < size ∧ index < 2 ^ 31

section Binding

variable {Real : Type}
variable [Add Real] [Sub Real] [Mul Real] [Div Real] [Zero Real] [One Real]
variable [LT Real] [DecidableLT Real] [IntCast Real] [OfScientific Real]

/-- Whatever the network puts out, decoding stays in the host buffer. -/
def ReadsInside (sort : List (Detection Real) → List (Detection Real))
    (lb : LetterboxInfo Real) (cfg : PostProcessConfig Real)
    (binding : TensorBinding) : Prop :=
  ∀ memory, ∀ index ∈
    (decodeYolo sort binding.rows binding.cols lb cfg).reads memory,
      Readable binding.hostSize.toNat index

/-- The last attribute of the last candidate lies in the buffer. -/
def HoldsCandidates (cfg : PostProcessConfig Real)
    (binding : TensorBinding) : Prop :=
  let last := lastAttr (hasObjectness binding.rows binding.cols cfg)
    cfg.numClasses
  let room : Int := min (binding.hostSize.toNat : Int) (2 ^ 31)
  if cfg.transposed then
    binding.cols ≤ 0 ∨ (last + 1) * binding.cols ≤ room
  else
    binding.rows ≤ 0 ∨
      0 ≤ (binding.rows - 1) * binding.cols ∧
        (binding.rows - 1) * binding.cols + last < room

/-- In the row layout the rows are `cols` apart, in whichever direction. -/
theorem rowIndex_bounds {rows cols box attr last : Int} (hbox : 0 ≤ box)
    (hrows : box < rows) (hattr : 0 ≤ attr) (hlast : attr ≤ last)
    (forward : 0 ≤ (rows - 1) * cols) :
    0 ≤ box * cols + attr ∧
      box * cols + attr ≤ (rows - 1) * cols + last := by
  rcases le_or_gt 0 cols with hcols | hcols
  · have hstart : 0 ≤ box * cols := mul_nonneg hbox hcols
    have hend : box * cols ≤ (rows - 1) * cols :=
      mul_le_mul_of_nonneg_right (by omega) hcols
    omega
  · have hsingle : rows - 1 = 0 := by
      by_contra several
      have hneg : (rows - 1) * cols < 0 :=
        mul_neg_of_pos_of_neg (by omega) hcols
      omega
    have hfirst : box = 0 := by omega
    simp only [hsingle, hfirst, zero_mul, zero_add]
    exact ⟨hattr, hlast⟩

theorem columnIndex_bounds {cols box attr last : Int} (hbox : 0 ≤ box)
    (hcols : box < cols) (hattr : 0 ≤ attr) (hlast : attr ≤ last) :
    0 ≤ attr * cols + box ∧ attr * cols + box < (last + 1) * cols := by
  have hstart : 0 ≤ attr * cols := mul_nonneg hattr (by omega)
  have hend : attr * cols ≤ last * cols :=
    mul_le_mul_of_nonneg_right hlast (by omega)
  have hsplit : (last + 1) * cols = last * cols + cols := by ring
  omega

theorem readsInside_of_holdsCandidates
    (sort : List (Detection Real) → List (Detection Real))
    (lb : LetterboxInfo Real) {cfg : PostProcessConfig Real}
    {binding : TensorBinding} (holds : HoldsCandidates cfg binding) :
    ReadsInside sort lb cfg binding := by
  intro memory index isRead
  obtain ⟨box, hbox, hread⟩ := mem_decodeYolo_reads.mp isRead
  obtain ⟨attr, hattr, hlast, rfl⟩ := decodeCandidate_reads_bound hread
  cases htransposed : cfg.transposed with
  | false =>
      simp only [HoldsCandidates, htransposed, Bool.false_eq_true,
        if_false] at holds
      simp only [numBoxes, htransposed, Bool.false_eq_true, if_false] at hbox
      rcases holds with hnone | ⟨hforward, hroom⟩
      · omega
      · have hbounds := rowIndex_bounds (by omega) hbox hattr hlast hforward
        simp only [cellIndex, Bool.false_eq_true, if_false, Readable]
        omega
  | true =>
      simp only [HoldsCandidates, htransposed, if_true] at holds
      simp only [numBoxes, htransposed, if_true] at hbox
      rcases holds with hnone | hroom
      · omega
      · have hbounds := columnIndex_bounds (by omega) hbox hattr hlast
        simp only [cellIndex, if_true, Readable]
        omega

/-- The last candidate is read from its first to its last attribute when the
objectness test lets everything pass. -/
theorem ReadsInside.last_candidate
    (irreflexive : ∀ value : Real, ¬ value < value)
    {sort : List (Detection Real) → List (Detection Real)}
    {lb : LetterboxInfo Real} {cfg : PostProcessConfig Real}
    {binding : TensorBinding} (inside : ReadsInside sort lb cfg binding)
    (some : 0 < numBoxes binding.rows binding.cols cfg.transposed) :
    let box := numBoxes binding.rows binding.cols cfg.transposed - 1
    let hasObj := hasObjectness binding.rows binding.cols cfg
    Readable binding.hostSize.toNat
        (cellIndex cfg.transposed binding.cols box 0) ∧
      Readable binding.hostSize.toNat
        (cellIndex cfg.transposed binding.cols box
          (lastAttr hasObj cfg.numClasses)) := by
  intro box hasObj
  obtain ⟨last, hlast⟩ := Int.eq_ofNat_of_zero_le (Int.le_sub_one_of_lt some)
  let uniform : Int → Real := fun _ => cfg.confThreshold * 0.5
  have hread : ∀ index ∈ (decodeCandidate
      (fun attr => Reading.read (cellIndex cfg.transposed binding.cols box attr))
      hasObj (classOffset hasObj) lb cfg).reads uniform,
        Readable binding.hostSize.toNat index := by
    intro index hindex
    apply inside uniform
    apply mem_decodeYolo_reads.mpr
    refine ⟨last, by omega, ?_⟩
    rwa [← hlast]
  exact ⟨hread _ decodeCandidate_reads_first,
    hread _ (decodeCandidate_reads_last (irreflexive _))⟩

theorem readsInside_iff
    (irreflexive : ∀ value : Real, ¬ value < value)
    (sort : List (Detection Real) → List (Detection Real))
    (lb : LetterboxInfo Real) (cfg : PostProcessConfig Real)
    (binding : TensorBinding) :
    ReadsInside sort lb cfg binding ↔ HoldsCandidates cfg binding := by
  refine ⟨?_, readsInside_of_holdsCandidates sort lb⟩
  intro inside
  by_cases some : 0 < numBoxes binding.rows binding.cols cfg.transposed
  · obtain ⟨hfirst, hlast⟩ := inside.last_candidate irreflexive some
    cases htransposed : cfg.transposed with
    | false =>
        simp only [cellIndex, numBoxes, htransposed, Bool.false_eq_true,
          if_false, Readable] at hfirst hlast
        simp only [HoldsCandidates, htransposed, Bool.false_eq_true, if_false]
        omega
    | true =>
        simp only [cellIndex, numBoxes, htransposed, if_true,
          Readable] at hlast
        simp only [HoldsCandidates, htransposed, if_true, add_mul, one_mul]
        omega
  · cases htransposed : cfg.transposed with
    | false =>
        simp only [numBoxes, htransposed, Bool.false_eq_true, if_false] at some
        simp only [HoldsCandidates, htransposed, Bool.false_eq_true, if_false]
        omega
    | true =>
        simp only [numBoxes, htransposed, if_true] at some
        simp only [HoldsCandidates, htransposed, if_true]
        omega

end Binding

theorem readsInside_iff_float :
    (∀ value : ℚ, ¬ value < value) ∧
      (ReadsInside insertionSort.sort ⟨1, 0, 0, 640, 640⟩
          ⟨80, 1 / 4, 9 / 20, 300, false⟩
          (allocateBinding ⟨640, 640⟩
            ⟨"output0", false, .kFLOAT, [1, 25200, 85]⟩) ↔
        HoldsCandidates (⟨80, 1 / 4, 9 / 20, 300, false⟩ : PostProcessConfig ℚ)
          (allocateBinding ⟨640, 640⟩
            ⟨"output0", false, .kFLOAT, [1, 25200, 85]⟩)) :=
  ⟨fun value => lt_irrefl value,
    readsInside_iff (fun value => lt_irrefl value) _ _ _ _⟩

def halfOutput : TensorBinding :=
  allocateBinding ⟨640, 640⟩ ⟨"output0", false, .kHALF, [1, 25200, 85]⟩

theorem halfOutput_shape :
    halfOutput.rows = 25200 ∧ halfOutput.cols = 85 ∧
      halfOutput.hostSize.toNat = 1071001 := by
  decide +kernel

theorem readsInside_fails_half :
    ¬ ∀ memory : Int → ℚ, ∀ index ∈
      (decodeYolo insertionSort.sort halfOutput.rows halfOutput.cols
        ⟨1, 0, 0, 640, 640⟩ ⟨80, 1 / 4, 9 / 20, 300, false⟩).reads memory,
        index < halfOutput.hostSize.toNat := by
  intro inside
  obtain ⟨hrows, hcols, hsize⟩ := halfOutput_shape
  have hlast : cellIndex false halfOutput.cols 25199 0 <
      halfOutput.hostSize.toNat := by
    apply inside fun _ => 0
    exact mem_decodeYolo_reads.mpr
      ⟨25199, by simp [numBoxes, hrows], decodeCandidate_reads_first⟩
  rw [hcols, hsize] at hlast
  simp [cellIndex] at hlast

end EmbeddedPortfolio.Detector
