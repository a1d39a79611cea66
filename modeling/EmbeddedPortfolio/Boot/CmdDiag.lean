import EmbeddedPortfolio.Memory.Bus
import Mathlib.Data.List.FinRange
import Mathlib.Data.List.Induction

namespace EmbeddedPortfolio.Boot

open EmbeddedPortfolio.Memory

universe u

/-! The `diag mem` command: a walk over the first words of DRAM, whatever memory
answers there. -/

inductive CommandReturn
  | success
  | failure
deriving DecidableEq, Repr

abbrev words : Nat := 256

/-- `0xA5A50000UL | i`, in words of the width of `unsigned long`. -/
def pattern (width : Nat) (i : Fin words) : BitVec width :=
  BitVec.ofNat width 0xA5A50000 ||| BitVec.ofNat width i

/-- The window's memory and the locals of `do_diag_mem`. -/
structure Walk (State : Type u) (width : Nat) where
  memory : State
  saved : Fin words → BitVec width
  errors : Nat

section Code

variable {State : Type u} {width : Nat}
variable (bus : Bus State (Fin words) (BitVec width))

/-- One turn of the first loop. -/
def savePattern (walk : Walk State width) (i : Fin words) :
    Walk State width :=
  { walk with
    saved := Function.update walk.saved i (bus.load walk.memory i)
    memory := bus.store walk.memory i (pattern width i) }

/-- One turn of the second loop. -/
def compareRestore (walk : Walk State width) (i : Fin words) :
    Walk State width :=
  { walk with
    errors := if bus.load walk.memory i ≠ pattern width i then
      walk.errors + 1 else walk.errors
    memory := bus.store walk.memory i (walk.saved i) }

structure DiagMem (State : Type u) where
  ret : CommandReturn
  report : String
  memory : State

/-- `saved` is what the array holds before it is written. -/
def doDiagMem (saved : Fin words → BitVec width) (memory : State) :
    DiagMem State :=
  let filled := (List.finRange words).foldl (savePattern bus)
    { memory, saved, errors := 0 }
  let checked := (List.finRange words).foldl (compareRestore bus) filled
  { ret := if checked.errors ≠ 0 then .failure else .success
    report := "diag: mem walk " ++
      (if checked.errors ≠ 0 then "FAILED" else "ok") ++
      " (" ++ toString checked.errors ++ " errors)\n"
    memory := checked.memory }

end Code

section Pattern

variable {width : Nat}

theorem pattern_toNat (wide : 32 ≤ width) (i : Fin words) :
    (pattern width i).toNat = 0xA5A50000 + i := by
  have hindex : (i : Nat) < 2 ^ 16 := Nat.lt_trans i.isLt (by decide)
  have hwide : 2 ^ 32 ≤ 2 ^ width := Nat.pow_le_pow_right (by decide) wide
  unfold pattern
  rw [BitVec.toNat_or, BitVec.toNat_ofNat, BitVec.toNat_ofNat,
    Nat.mod_eq_of_lt (by omega), Nat.mod_eq_of_lt (by omega)]
  have hbase : 0xA5A50000 = 0xA5A5 <<< 16 := by decide
  rw [hbase, Nat.shiftLeft_add_eq_or_of_lt hindex]

theorem pattern_injective (wide : 32 ≤ width) :
    Function.Injective (pattern width) := by
  intro first second hequal
  have hvalue := congrArg BitVec.toNat hequal
  rw [pattern_toNat wide, pattern_toNat wide] at hvalue
  exact Fin.ext (by omega)

end Pattern

section Code

variable {State : Type u} {width : Nat}
variable (bus : Bus State (Fin words) (BitVec width))

theorem doDiagMem_success_iff (saved : Fin words → BitVec width)
    (memory : State) :
    (doDiagMem bus saved memory).ret = .success ↔
      ((List.finRange words).foldl (compareRestore bus)
        ((List.finRange words).foldl (savePattern bus)
          ⟨memory, saved, 0⟩)).errors = 0 := by
  unfold doDiagMem
  dsimp only
  split
  · rename_i hwrong
    exact iff_of_false nofun hwrong
  · rename_i hright
    exact iff_of_true rfl (not_not.mp hright)

end Code

/-! Memories in which no two addresses share a cell. -/

section Separate

variable {State : Type u} {width : Nat}
variable {bus : Bus State (Fin words) (BitVec width)}
variable {seen : Fin words → BitVec width → BitVec width}

/-- The first loop, up to some point. -/
structure Filled (bus : Bus State (Fin words) (BitVec width))
    (seen : Fin words → BitVec width → BitVec width)
    (indices : List (Fin words)) (before after : Walk State width) :
    Prop where
  load : ∀ i, bus.load after.memory i =
    if i ∈ indices then seen i (pattern width i) else bus.load before.memory i
  saved : ∀ i ∈ indices, after.saved i = bus.load before.memory i
  errors : after.errors = before.errors

theorem savePattern_filled (separate : bus.Separate seen)
    (before : Walk State width) {indices : List (Fin words)}
    (distinct : indices.Nodup) :
    Filled bus seen indices before
      (indices.foldl (savePattern bus) before) := by
  induction indices using List.reverseRecOn with
  | nil => exact ⟨fun i => by simp, nofun, rfl⟩
  | append_singleton indices last induction =>
      obtain ⟨hindices, _, hfresh⟩ := List.nodup_append'.mp distinct
      have hlast : last ∉ indices := by
        simpa using hfresh
      obtain ⟨load, saved, errors⟩ := induction hindices
      rw [List.foldl_append]
      refine ⟨?_, ?_, errors⟩
      · intro i
        show bus.load (bus.store _ last _) i = _
        rw [separate.load_store, load]
        by_cases hi : i = last
        · simp [hi]
        · simp [hi]
      · intro i hi
        show Function.update _ last _ i = _
        rw [Function.update_apply]
        split
        · rename_i hsame
          rw [load, hsame, if_neg hlast]
        · rename_i hother
          exact saved i (by simpa [hother] using hi)

/-- The second loop, up to some point. -/
structure Checked (bus : Bus State (Fin words) (BitVec width))
    (seen : Fin words → BitVec width → BitVec width)
    (indices : List (Fin words)) (before after : Walk State width) :
    Prop where
  load : ∀ i, bus.load after.memory i =
    if i ∈ indices then seen i (before.saved i) else bus.load before.memory i
  saved : after.saved = before.saved
  errors : after.errors = before.errors +
    indices.countP fun i => bus.load before.memory i ≠ pattern width i

theorem compareRestore_checked (separate : bus.Separate seen)
    (before : Walk State width) {indices : List (Fin words)}
    (distinct : indices.Nodup) :
    Checked bus seen indices before
      (indices.foldl (compareRestore bus) before) := by
  induction indices using List.reverseRecOn with
  | nil => exact ⟨fun i => by simp, rfl, rfl⟩
  | append_singleton indices last induction =>
      obtain ⟨hindices, _, hfresh⟩ := List.nodup_append'.mp distinct
      have hlast : last ∉ indices := by
        simpa using hfresh
      obtain ⟨load, saved, errors⟩ := induction hindices
      rw [List.foldl_append]
      refine ⟨?_, saved, ?_⟩
      · intro i
        show bus.load (bus.store _ last _) i = _
        rw [separate.load_store, load, saved]
        by_cases hi : i = last
        · simp [hi]
        · simp [hi]
      · show (if bus.load _ last ≠ _ then _ else _) = _
        rw [load, if_neg hlast, errors, List.countP_append]
        by_cases hwrong : bus.load before.memory last ≠ pattern width last
        · simp [hwrong, Nat.add_assoc]
        · simp [hwrong]

/-- The whole walk: which words it finds wrong, and what it leaves. -/
theorem doDiagMem_separate (separate : bus.Separate seen)
    (saved : Fin words → BitVec width) (memory : State) :
    ((doDiagMem bus saved memory).ret = .success ↔
        ∀ i, seen i (pattern width i) = pattern width i) ∧
      ∀ i, bus.load (doDiagMem bus saved memory).memory i =
        seen i (bus.load memory i) := by
  have filled := savePattern_filled separate ⟨memory, saved, 0⟩
    (List.nodup_finRange words)
  have checked := compareRestore_checked separate
    ((List.finRange words).foldl (savePattern bus) ⟨memory, saved, 0⟩)
    (List.nodup_finRange words)
  constructor
  · rw [doDiagMem_success_iff, checked.errors, filled.errors, Nat.zero_add,
      List.countP_eq_zero]
    simp [filled.load]
  · intro i
    refine (checked.load i).trans ?_
    rw [if_pos (List.mem_finRange i),
      filled.saved i (List.mem_finRange i)]

end Separate

end EmbeddedPortfolio.Boot
