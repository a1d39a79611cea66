import EmbeddedPortfolio.Boot.CmdDiag

namespace EmbeddedPortfolio.Boot

open EmbeddedPortfolio.Memory

universe u

/-! Which faulty memories the walk reports. -/

section Reports

variable {State : Type u} {width : Nat}
variable (bus : Bus State (Fin words) (BitVec width))

theorem le_compareRestore_errors (indices : List (Fin words))
    (before : Walk State width) :
    before.errors ≤ (indices.foldl (compareRestore bus) before).errors := by
  induction indices generalizing before with
  | nil => exact Nat.le_refl _
  | cons i indices induction =>
      refine Nat.le_trans ?_ (induction _)
      show _ ≤ if _ then _ else _
      split
      · exact Nat.le_succ _
      · exact Nat.le_refl _

/-- A word that reads wrong when its turn comes is counted for good. -/
theorem wrong_counted {earlier later : List (Fin words)} {i : Fin words}
    {filled : Walk State width}
    (wrong : bus.load (earlier.foldl (compareRestore bus) filled).memory i ≠
      pattern width i) :
    ((earlier ++ i :: later).foldl (compareRestore bus) filled).errors ≠ 0 := by
  rw [List.foldl_append, List.foldl_cons]
  apply Nat.ne_of_gt
  refine Nat.lt_of_lt_of_le ?_ (le_compareRestore_errors bus later _)
  show 0 < if _ then _ else _
  rw [if_pos wrong]
  exact Nat.succ_pos _

theorem failure_iff (saved : Fin words → BitVec width) (memory : State) :
    (doDiagMem bus saved memory).ret = .failure ↔
      ¬ (doDiagMem bus saved memory).ret = .success := by
  cases (doDiagMem bus saved memory).ret with
  | success => exact iff_of_false nofun fun hne => hne rfl
  | failure => exact iff_of_true rfl nofun

end Reports

section Aliases

variable {Cell : Type u} [DecidableEq Cell] {width : Nat}
variable {cellOf : Fin words → Cell}

/-- Neither loop writes a cell that none of its addresses is mapped to. -/
theorem walk_frame
    (turn : Walk (Cell → BitVec width) width → Fin words →
      Walk (Cell → BitVec width) width)
    (own : ∀ walk i, ∃ word,
      (turn walk i).memory = Function.update walk.memory (cellOf i) word)
    {indices : List (Fin words)} {cell : Cell}
    (outside : ∀ i ∈ indices, cellOf i ≠ cell)
    (before : Walk (Cell → BitVec width) width) :
    (indices.foldl turn before).memory cell = before.memory cell := by
  induction indices using List.reverseRecOn with
  | nil => rfl
  | append_singleton indices last induction =>
      obtain ⟨word, hword⟩ := own (indices.foldl turn before) last
      have hlast : cell ≠ cellOf last := (outside last (by simp)).symm
      rw [List.foldl_append, List.foldl_cons, List.foldl_nil, hword,
        Function.update_of_ne hlast]
      exact induction fun i hi => outside i (List.mem_append_left _ hi)

/-- A cell that was written holds the pattern of one of its addresses. -/
theorem savePattern_written {indices : List (Fin words)} {cell : Cell}
    (written : ∃ i ∈ indices, cellOf i = cell)
    (before : Walk (Cell → BitVec width) width) :
    ∃ i ∈ indices,
      (indices.foldl (savePattern (.aliased cellOf)) before).memory cell =
        pattern width i := by
  induction indices using List.reverseRecOn with
  | nil =>
      obtain ⟨i, hi, _⟩ := written
      cases hi
  | append_singleton indices last induction =>
      rw [List.foldl_append]
      by_cases hlast : cellOf last = cell
      · refine ⟨last, by simp, ?_⟩
        rw [← hlast]
        exact Function.update_self ..
      · obtain ⟨i, hi, hcell⟩ := written
        have hearlier : i ∈ indices := by
          rcases List.mem_append.mp hi with hearlier | hsame
          · exact hearlier
          · rw [List.mem_singleton.mp hsame] at hcell
            exact absurd hcell hlast
        obtain ⟨j, hj, hmemory⟩ := induction ⟨i, hearlier, hcell⟩
        refine ⟨j, List.mem_append_left _ hj, ?_⟩
        exact (Function.update_of_ne (Ne.symm hlast) ..).trans hmemory

/-- The first address of a cell, and another one behind it. -/
theorem first_alias {cell : Cell} {first second : Fin words}
    (different : first ≠ second) (hfirst : cellOf first = cell)
    (hsecond : cellOf second = cell) :
    ∃ earlier i later, List.finRange words = earlier ++ i :: later ∧
      cellOf i = cell ∧ (∀ j ∈ earlier, cellOf j ≠ cell) ∧
      ∃ j ∈ later, cellOf j = cell := by
  obtain ⟨i, earlier, later, hearlier, hi, hsplit, _⟩ :=
    List.exists_of_eraseP (p := fun i => decide (cellOf i = cell))
      (List.mem_finRange first) (by simpa using hfirst)
  have hnone : ∀ j ∈ earlier, cellOf j ≠ cell := by
    simpa using hearlier
  have hplace : ∀ j, cellOf j = cell → j = i ∨ j ∈ later := by
    intro j hj
    have hmem := List.mem_finRange j
    rw [hsplit, List.mem_append, List.mem_cons] at hmem
    exact hmem.resolve_left fun hbefore => hnone j hbefore hj
  refine ⟨earlier, i, later, hsplit, by simpa using hi, hnone, ?_⟩
  rcases hplace first hfirst with rfl | hlater
  · exact ⟨second, (hplace second hsecond).resolve_left different.symm,
      hsecond⟩
  · exact ⟨first, hlater, hfirst⟩

/-- The first address of a shared cell reads another one's pattern. -/
theorem aliases_reported (wide : 32 ≤ width)
    (shared : ¬ Function.Injective cellOf)
    (saved : Fin words → BitVec width) (content : Cell → BitVec width) :
    (doDiagMem (.aliased cellOf) saved content).ret ≠ .success := by
  have hshared : ∃ first second, cellOf first = cellOf second ∧
      first ≠ second := by
    simpa [Function.Injective] using shared
  obtain ⟨first, second, hcells, different⟩ := hshared
  obtain ⟨earlier, i, later, hsplit, hi, hearlier, halias⟩ :=
    first_alias different hcells rfl
  have hdistinct : i ∉ later := by
    have hnodup := List.nodup_finRange words
    rw [hsplit] at hnodup
    exact (List.nodup_cons.mp hnodup.of_append_right).1
  rw [Ne, doDiagMem_success_iff, hsplit]
  apply wrong_counted
  show (earlier.foldl (compareRestore (.aliased cellOf))
    _).memory (cellOf i) ≠ _
  rw [walk_frame (compareRestore (.aliased cellOf)) (fun _ _ => ⟨_, rfl⟩)
    (hi ▸ hearlier), List.foldl_append, List.foldl_cons, hi]
  obtain ⟨j, hj, hpattern⟩ := savePattern_written halias _
  rw [hpattern]
  intro hsame
  rw [pattern_injective wide hsame] at hj
  exact hdistinct hj

/-- Without aliases, every cell is as it was. -/
theorem doDiagMem_restores (injective : Function.Injective cellOf)
    (saved : Fin words → BitVec width) (content : Cell → BitVec width) :
    (doDiagMem (.aliased cellOf) saved content).memory = content := by
  funext cell
  by_cases inside : ∃ i, cellOf i = cell
  · obtain ⟨i, rfl⟩ := inside
    exact (doDiagMem_separate (Bus.aliased_separate injective) saved
      content).2 i
  · have houtside : ∀ i ∈ List.finRange words, cellOf i ≠ cell :=
      fun i _ hi => inside ⟨i, hi⟩
    unfold doDiagMem
    dsimp only
    rw [walk_frame (compareRestore (.aliased cellOf)) (fun _ _ => ⟨_, rfl⟩)
        houtside,
      walk_frame (savePattern (.aliased cellOf)) (fun _ _ => ⟨_, rfl⟩)
        houtside]

/-- The walk reports aliases and nothing else, and leaves the content of a
window without aliases as it was. -/
theorem memWalk_finds_aliases (wide : 32 ≤ width) (cellOf : Fin words → Cell)
    (saved : Fin words → BitVec width) (content : Cell → BitVec width) :
    ((doDiagMem (.aliased cellOf) saved content).ret = .success ↔
        Function.Injective cellOf) ∧
      (Function.Injective cellOf →
        (doDiagMem (.aliased cellOf) saved content).memory = content) := by
  refine ⟨⟨?_, ?_⟩, fun injective => doDiagMem_restores injective saved content⟩
  · intro hsuccess
    by_contra shared
    exact aliases_reported wide shared saved content hsuccess
  · intro injective
    exact (doDiagMem_separate (Bus.aliased_separate injective) saved
      content).1.mpr fun _ => rfl

/-- An address line that is not connected: neighbours share a cell. -/
theorem memWalk_finds_aliases_line :
    32 ≤ 64 ∧
      ((doDiagMem (.aliased fun i : Fin words => i.val / 2)
          (fun _ => 0#64) fun _ => 0xA5A50000#64).ret = .success ↔
        Function.Injective fun i : Fin words => i.val / 2) ∧
      ((Function.Injective fun i : Fin words => i.val / 2) →
        (doDiagMem (.aliased fun i : Fin words => i.val / 2)
          (fun _ => 0#64) fun _ => 0xA5A50000#64).memory =
            fun _ => 0xA5A50000#64) :=
  ⟨by decide, memWalk_finds_aliases (by decide) _ _ _⟩

end Aliases

section StuckBits

variable {width : Nat}

/-- A stuck bit is reported when its word's pattern has the other value. -/
theorem memWalk_finds_stuckBits (stuck : Fin words → StuckBits width)
    (saved content : Fin words → BitVec width) :
    (doDiagMem (.stuckAt stuck) saved content).ret = .failure ↔
      ∃ i bit value, (stuck i).Sticks bit value ∧
        (pattern width i).getLsbD bit ≠ value := by
  have hsuccess := (doDiagMem_separate (Bus.stuckAt_separate stuck) saved
    content).1
  simp only [StuckBits.readBack_eq_iff, Fin.getElem_fin,
    ← BitVec.getLsbD_eq_getElem] at hsuccess
  rw [failure_iff, hsuccess]
  simp only [not_forall, exists_prop, ne_eq]

/-- Every set of stuck bits is reported. -/
def ReportsStuckBits (width : Nat) : Prop :=
  ∀ (stuck : Fin words → StuckBits width) (saved content),
    (∃ i bit value, (stuck i).Sticks bit value) →
      (doDiagMem (.stuckAt stuck) saved content).ret = .failure

/-- The lowest bit of the first word always reads as zero. -/
def lowestStuck (width : Nat) (i : Fin words) : StuckBits width where
  mask := if i = 0 then 1 else 0
  value := 0

theorem lowestStuck_iff (i : Fin words) (bit : Fin width) (value : Bool) :
    (lowestStuck width i).Sticks bit value ↔
      (i = 0 ∧ bit.val = 0) ∧ value = false := by
  unfold StuckBits.Sticks lowestStuck
  by_cases hi : i = 0
  · simp [hi, eq_comm]
  · simp [hi]

/-- The pattern of the first word has a zero there as well. -/
theorem lowestStuck_unseen (i : Fin words) :
    (lowestStuck width i).readBack (pattern width i) = pattern width i := by
  rw [StuckBits.readBack_eq_iff]
  intro bit value sticks
  obtain ⟨⟨rfl, hbit⟩, rfl⟩ := (lowestStuck_iff i bit value).mp sticks
  simp [pattern, hbit, BitVec.getElem_eq_testBit_toNat]

theorem not_reportsStuckBits (positive : 0 < width) :
    ¬ ReportsStuckBits width := by
  intro reports
  have hsuccess := (doDiagMem_separate
    (Bus.stuckAt_separate (lowestStuck width)) (fun _ => 0)
    fun _ => 0).1.mpr lowestStuck_unseen
  rw [reports _ _ _ ⟨0, ⟨0, positive⟩, false,
    (lowestStuck_iff ..).mpr ⟨⟨rfl, rfl⟩, rfl⟩⟩] at hsuccess
  cases hsuccess

theorem lowestStuck_unreported :
    ¬ ReportsStuckBits 32 ∧ ¬ ReportsStuckBits 64 :=
  ⟨not_reportsStuckBits (by decide), not_reportsStuckBits (by decide)⟩

end StuckBits

end EmbeddedPortfolio.Boot
