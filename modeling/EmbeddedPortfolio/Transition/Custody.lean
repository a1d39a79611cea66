import EmbeddedPortfolio.Transition.System
import Mathlib.Data.Multiset.AddSub
import Mathlib.Data.Set.Basic

namespace EmbeddedPortfolio.Transition

universe u

/-! Items that pass between a keeper and a taker.  Emptying the keeper loses
what the taker does not hold at that time, and nothing else loses anything. -/

structure Custody (Item : Type u) where
  items : Set Item
  keeper : Multiset Item
  taker : Multiset Item

inductive Transfer (Item : Type u) where
  | take (item : Item)
  | give (item : Item)
  | empty (abandoned : Set Item)

namespace Custody

variable {Item : Type u}

def lost (custody : Custody Item) : Set Item :=
  { item ∈ custody.items | item ∉ custody.keeper ∧ item ∉ custody.taker }

def untaken (custody : Custody Item) : Set Item :=
  { item ∈ custody.items | item ∉ custody.taker }

def abandoned : Transfer Item → Set Item
  | .take _ => ∅
  | .give _ => ∅
  | .empty abandoned => abandoned

variable [DecidableEq Item]

def system : System (Custody Item) (Transfer Item) where
  initial custody := custody.lost = ∅
  step custody transfer next :=
    match transfer with
    | .take item => item ∈ custody.keeper ∧
        next = { custody with
          keeper := custody.keeper.erase item
          taker := item ::ₘ custody.taker }
    | .give item => item ∈ custody.taker ∧
        next = { custody with
          keeper := item ::ₘ custody.keeper
          taker := custody.taker.erase item }
    | .empty abandoned => abandoned = custody.untaken ∧
        next = { custody with keeper := 0 }

/-- Whichever side an item is moved from, the other one has it. -/
theorem moved_iff {first second : Multiset Item} {moved item : Item}
    (member : moved ∈ first) :
    (item ∉ first.erase moved ∧ item ∉ moved ::ₘ second) ↔
      item ∉ first ∧ item ∉ second := by
  by_cases hsame : item = moved
  · subst hsame
    simp [member]
  · simp [hsame, Multiset.mem_erase_of_ne hsame]

theorem lost_step {custody next : Custody Item} {transfer : Transfer Item}
    (taken : system.step custody transfer next) :
    next.lost = custody.lost ∪ abandoned transfer := by
  cases transfer with
  | take moved =>
      obtain ⟨member, rfl⟩ := taken
      rw [abandoned, Set.union_empty]
      ext item
      exact and_congr_right fun _ => moved_iff member
  | give moved =>
      obtain ⟨member, rfl⟩ := taken
      rw [abandoned, Set.union_empty]
      ext item
      exact and_congr_right fun _ =>
        and_comm.trans ((moved_iff member).trans and_comm)
  | empty abandoned =>
      obtain ⟨rfl, rfl⟩ := taken
      have hlost : custody.lost ⊆ custody.untaken :=
        fun _ member => ⟨member.1, member.2.2⟩
      rw [Custody.abandoned, Set.union_eq_self_of_subset_left hlost]
      ext item
      exact and_congr_right fun _ => and_iff_right (Multiset.notMem_zero item)

theorem mem_lost_iff {transfers : List (Transfer Item)} {custody : Custody Item}
    (run : system.Run transfers custody) (item : Item) :
    item ∈ custody.lost ↔
      ∃ transfer ∈ transfers, item ∈ abandoned transfer := by
  induction run with
  | start initial =>
      have hinitial := Set.ext_iff.mp initial item
      simpa using hinitial
  | extend _ taken induction =>
      rw [lost_step taken, Set.mem_union, induction]
      simp [or_and_right, exists_or]

end Custody

end EmbeddedPortfolio.Transition
