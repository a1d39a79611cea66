import Mathlib.Logic.Function.Basic

namespace EmbeddedPortfolio.Memory

universe u v w x

/-! Memories as a program sees them: what a load at an address gives after
stores, whatever lies behind the addresses. -/

structure Bus (State : Type u) (Address : Type v) (Word : Type w) where
  load : State → Address → Word
  store : State → Address → Word → State

namespace Bus

variable {State : Type u} {Address : Type v} {Word : Type w} {Cell : Type x}

/-- Faithful cells, which several addresses may share. -/
def aliased [DecidableEq Cell] (cellOf : Address → Cell) :
    Bus (Cell → Word) Address Word where
  load content address := content (cellOf address)
  store content address word :=
    Function.update content (cellOf address) word

/-- Each address has a cell of its own, which shows a stored word as `seen`. -/
structure Separate [DecidableEq Address] (bus : Bus State Address Word)
    (seen : Address → Word → Word) : Prop where
  load_store : ∀ state address word other,
    bus.load (bus.store state address word) other =
      if other = address then seen address word else bus.load state other

theorem aliased_separate [DecidableEq Address] [DecidableEq Cell]
    {cellOf : Address → Cell} (injective : Function.Injective cellOf) :
    (aliased cellOf : Bus (Cell → Word) Address Word).Separate
      fun _ word => word where
  load_store := by
    intro content address word other
    simp only [aliased, Function.update_apply, injective.eq_iff]

end Bus

/-! Words of which some bits are stuck. -/

section Stuck

variable {Address : Type v} {width : Nat}

/-- The bits in `mask` read as they are in `value`, whatever is stored. -/
structure StuckBits (width : Nat) where
  mask : BitVec width
  value : BitVec width

namespace StuckBits

def Sticks (stuck : StuckBits width) (bit : Fin width) (value : Bool) : Prop :=
  stuck.mask[bit] = true ∧ stuck.value[bit] = value

def readBack (stuck : StuckBits width) (word : BitVec width) : BitVec width :=
  (word &&& ~~~stuck.mask) ||| (stuck.value &&& stuck.mask)

theorem readBack_getElem (stuck : StuckBits width) (word : BitVec width)
    {index : Nat} (inside : index < width) :
    (stuck.readBack word)[index] =
      if stuck.mask[index] then stuck.value[index] else word[index] := by
  unfold readBack
  rw [BitVec.getElem_or, BitVec.getElem_and, BitVec.getElem_and,
    BitVec.getElem_not]
  cases stuck.mask[index] with
  | false => simp
  | true => simp

theorem readBack_eq_iff (stuck : StuckBits width) (word : BitVec width) :
    stuck.readBack word = word ↔
      ∀ bit value, stuck.Sticks bit value → word[bit] = value := by
  constructor
  · rintro hequal bit _ ⟨hmask, rfl⟩
    have hbit := stuck.readBack_getElem word bit.isLt
    rw [hequal] at hbit
    exact hbit.trans (if_pos hmask)
  · intro agrees
    apply BitVec.eq_of_getElem_eq
    intro index hindex
    rw [readBack_getElem]
    split
    · rename_i hmask
      exact (agrees ⟨index, hindex⟩ _ ⟨hmask, rfl⟩).symm
    · rfl

end StuckBits

namespace Bus

variable [DecidableEq Address]

def stuckAt (stuck : Address → StuckBits width) :
    Bus (Address → BitVec width) Address (BitVec width) where
  load content address := (stuck address).readBack (content address)
  store content address word := Function.update content address word

theorem stuckAt_separate (stuck : Address → StuckBits width) :
    (stuckAt stuck).Separate fun address => (stuck address).readBack where
  load_store := by
    intro content address word other
    simp only [stuckAt, Function.update_apply]
    split
    · rename_i hsame
      rw [hsame]
    · rfl

end Bus

end Stuck

end EmbeddedPortfolio.Memory
