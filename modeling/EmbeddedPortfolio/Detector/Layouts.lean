import EmbeddedPortfolio.Detector.Decode

namespace EmbeddedPortfolio.Detector

open EmbeddedPortfolio.Program

/-! The YOLOv5 layout, a candidate a row, and the YOLOv8 layout, a candidate a
column, decode alike. -/

/-- The memory holds the matrix row after row; elsewhere it is arbitrary. -/
def RowMajor {Real : Type} (rows cols : Nat) (matrix : Nat → Nat → Real)
    (memory : Int → Real) : Prop :=
  ∀ row < rows, ∀ col < cols,
    memory ((row : Int) * cols + col) = matrix row col

theorem rowMajor_layout {Real : Type} (rows cols : Nat)
    (matrix : Nat → Nat → Real) :
    RowMajor rows cols matrix fun index =>
      matrix (index / cols).toNat (index % cols).toNat := by
  intro row _ col hcol
  have hpositive : (0 : Int) < cols := by omega
  have hquotient : ((row : Int) * cols + col) / cols = row := by
    rw [Int.add_comm, Int.add_mul_ediv_right _ _ hpositive.ne',
      Int.ediv_eq_zero_of_lt (by omega) (by omega), Int.zero_add]
  have hremainder : ((row : Int) * cols + col) % cols = col := by
    rw [Int.add_comm, Int.add_mul_emod_self_right]
    exact Int.emod_eq_of_lt (by omega) (by omega)
  simp only [hquotient, hremainder, Int.toNat_natCast]

section Code

variable {Real : Type}
variable [Sub Real] [Mul Real] [Div Real] [Zero Real] [One Real]
variable [LT Real] [DecidableLT Real] [IntCast Real] [OfScientific Real]

theorem decodeCandidate_noClass (readAttr : Int → Reading Real Real)
    (hasObj : Bool) (clsOff : Int) (lb : LetterboxInfo Real)
    {cfg : PostProcessConfig Real} (noClass : cfg.numClasses ≤ 0)
    (memory : Int → Real) :
    (decodeCandidate readAttr hasObj clsOff lb cfg).value memory = none := by
  simp [decodeCandidate, bestClass_noClass _ _ noClass]

theorem decodeCandidate_congr {first second : Int → Reading Real Real}
    {firstMemory secondMemory : Int → Real} {attrs : Int} {hasObj : Bool}
    {cfg : PostProcessConfig Real}
    (agree : ∀ attr, 0 ≤ attr → attr < attrs →
      (first attr).value firstMemory = (second attr).value secondMemory)
    (fits : attrs = cfg.numClasses + classOffset hasObj)
    (someClass : 0 < cfg.numClasses) (lb : LetterboxInfo Real)
    (transposed : Bool) :
    (decodeCandidate first hasObj (classOffset hasObj) lb cfg).value
        firstMemory =
      (decodeCandidate second hasObj (classOffset hasObj) lb
        { cfg with transposed := transposed }).value secondMemory := by
  have hoffset : 4 ≤ classOffset hasObj := by
    cases hasObj <;> simp [classOffset]
  have hbest : (bestClass first (classOffset hasObj) cfg.numClasses).value
        firstMemory =
      (bestClass second (classOffset hasObj) cfg.numClasses).value
        secondMemory := by
    rw [bestClass_value, bestClass_value]
    apply List.foldl_ext
    intro best c hc
    rw [List.mem_range] at hc
    rw [agree _ (by omega) (by omega)]
  have hobj : (objectness first hasObj).value firstMemory =
      (objectness second hasObj).value secondMemory := by
    cases hasObj with
    | false => rfl
    | true =>
        simp only [classOffset, if_true] at fits
        exact agree 4 (by omega) (by omega)
  simp only [decodeCandidate, Reading.value_bind, Reading.value_ite,
    Reading.value_pure, hbest, hobj, agree 0 (by omega) (by omega),
    agree 1 (by omega) (by omega), agree 2 (by omega) (by omega),
    agree 3 (by omega) (by omega)]

theorem decodeRaw_layouts {candidates attributes : Nat}
    {matrix : Nat → Nat → Real} {rowMemory columnMemory : Int → Real}
    (byRow : RowMajor candidates attributes matrix rowMemory)
    (byColumn : RowMajor attributes candidates
      (fun attr candidate => matrix candidate attr) columnMemory)
    {cfg : PostProcessConfig Real}
    (fits : attributes = cfg.numClasses + 4 ∨
      attributes = cfg.numClasses + 5)
    (lb : LetterboxInfo Real) :
    (decodeRaw candidates attributes lb
        { cfg with transposed := false }).value rowMemory =
      (decodeRaw attributes candidates lb
        { cfg with transposed := true }).value columnMemory := by
  rw [decodeRaw, decodeRaw, Reading.value_collect, Reading.value_collect]
  apply List.filterMap_congr
  intro box hbox
  have hcandidate : box < candidates := by
    simpa [numBoxes] using hbox
  by_cases noClass : cfg.numClasses ≤ 0
  · have hnoClass : ∀ transposed,
        { cfg with transposed := transposed }.numClasses ≤ 0 :=
      fun _ => noClass
    rw [decodeCandidate_noClass _ _ _ _ (hnoClass false),
      decodeCandidate_noClass _ _ _ _ (hnoClass true)]
  · apply decodeCandidate_congr
    · intro attr hnonneg hattr
      lift attr to Nat using hnonneg
      exact (byRow box hcandidate attr (Int.ofNat_lt.mp hattr)).trans
        (byColumn attr (Int.ofNat_lt.mp hattr) box hcandidate).symm
    · rcases fits with hplain | hobject
      · simp [hasObjectness, attrCount, classOffset, hplain]
      · simp [hasObjectness, attrCount, classOffset, hobject]
    · exact Int.not_le.mp noClass

variable [Add Real]

theorem decodeYolo_layouts
    (sort : List (Detection Real) → List (Detection Real))
    {candidates attributes : Nat} {matrix : Nat → Nat → Real}
    {rowMemory columnMemory : Int → Real}
    (byRow : RowMajor candidates attributes matrix rowMemory)
    (byColumn : RowMajor attributes candidates
      (fun attr candidate => matrix candidate attr) columnMemory)
    {cfg : PostProcessConfig Real}
    (fits : attributes = cfg.numClasses + 4 ∨
      attributes = cfg.numClasses + 5)
    (lb : LetterboxInfo Real) :
    (decodeYolo sort candidates attributes lb
        { cfg with transposed := false }).value rowMemory =
      (decodeYolo sort attributes candidates lb
        { cfg with transposed := true }).value columnMemory := by
  simp only [decodeYolo, Reading.value_bind, Reading.value_pure,
    decodeRaw_layouts byRow byColumn fits lb]

end Code

theorem decodeYolo_layouts_objectness :
    RowMajor 2 6 (fun candidate attr => (candidate + attr : ℚ))
        (fun index => ((index / 6).toNat + (index % 6).toNat : ℚ)) ∧
      (decodeYolo insertionSort.sort 2 6 ⟨1, 0, 0, 64, 48⟩
          ⟨1, 1 / 4, 9 / 20, 300, false⟩).value
          (fun index => ((index / 6).toNat + (index % 6).toNat : ℚ)) =
        (decodeYolo insertionSort.sort 6 2 ⟨1, 0, 0, 64, 48⟩
          ⟨1, 1 / 4, 9 / 20, 300, true⟩).value
          (fun index => ((index % 2).toNat + (index / 2).toNat : ℚ)) :=
  ⟨rowMajor_layout 2 6 _,
    @decodeYolo_layouts ℚ _ _ _ _ _ _ _ _ _ _ insertionSort.sort 2 6
      (fun candidate attr => (candidate + attr : ℚ)) _ _
      (rowMajor_layout 2 6 _) (rowMajor_layout 6 2 _)
      ⟨1, 1 / 4, 9 / 20, 300, false⟩ (Or.inr (by decide)) ⟨1, 0, 0, 64, 48⟩⟩

end EmbeddedPortfolio.Detector
