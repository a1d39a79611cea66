import Mathlib.Data.List.Basic
import Mathlib.Data.List.Perm.Basic

namespace EmbeddedPortfolio.Program

universe u

/-! What has been acquired from an environment that hands out a resource again
once it is free, and how often each acquisition has been released. -/

structure Acquisition (Resource : Type u) where
  resource : Resource
  releases : Nat
deriving DecidableEq, Repr

/-- The acquisitions, newest first, and the releases that matched none. -/
structure Ledger (Resource : Type u) where
  acquisitions : List (Acquisition Resource)
  strays : Nat
deriving DecidableEq, Repr

namespace Ledger

variable {Resource : Type u}

def empty : Ledger Resource := ⟨[], 0⟩

def outstanding (acquisitions : List (Acquisition Resource)) : List Resource :=
  (acquisitions.filter fun acquisition => acquisition.releases = 0).map
    Acquisition.resource

def live (ledger : Ledger Resource) : List Resource :=
  outstanding ledger.acquisitions

def acquire (resource : Resource) (ledger : Ledger Resource) :
    Ledger Resource :=
  { ledger with acquisitions := ⟨resource, 0⟩ :: ledger.acquisitions }

variable [DecidableEq Resource]

def credit (resource : Resource) :
    List (Acquisition Resource) → Option (List (Acquisition Resource))
  | [] => none
  | newest :: older =>
      if newest.resource = resource then
        some ({ newest with releases := newest.releases + 1 } :: older)
      else
        (credit resource older).map (newest :: ·)

def release (resource : Resource) (ledger : Ledger Resource) :
    Ledger Resource :=
  match credit resource ledger.acquisitions with
  | some acquisitions => { ledger with acquisitions }
  | none => { ledger with strays := ledger.strays + 1 }

/-- Nothing was released twice, and an acquisition that a newer one of the same
resource follows has been released. -/
structure Orderly (acquisitions : List (Acquisition Resource)) : Prop where
  once : ∀ acquisition ∈ acquisitions, acquisition.releases ≤ 1
  renewed : acquisitions.Pairwise fun newer older =>
    newer.resource = older.resource → older.releases = 1

/-- The ledger of a program that owes exactly the resources in `owned`. -/
structure Owes (ledger : Ledger Resource) (owned : List Resource) : Prop where
  orderly : Orderly ledger.acquisitions
  noStrays : ledger.strays = 0
  held : ledger.live.Perm owned
  distinct : owned.Nodup

variable {acquisitions credited : List (Acquisition Resource)}
variable {ledger : Ledger Resource} {owned : List Resource}
variable {resource : Resource}

omit [DecidableEq Resource] in
theorem mem_outstanding :
    resource ∈ outstanding acquisitions ↔
      ∃ acquisition ∈ acquisitions,
        acquisition.releases = 0 ∧ acquisition.resource = resource := by
  simp [outstanding, and_assoc]

omit [DecidableEq Resource] in
theorem outstanding_cons (newest : Acquisition Resource)
    (older : List (Acquisition Resource)) :
    outstanding (newest :: older) =
      if newest.releases = 0 then newest.resource :: outstanding older
      else outstanding older := by
  by_cases hlive : newest.releases = 0
  · simp [outstanding, hlive]
  · simp [outstanding, hlive]

omit [DecidableEq Resource] in
theorem live_acquire (ledger : Ledger Resource) (resource : Resource) :
    (ledger.acquire resource).live = resource :: ledger.live := by
  unfold live acquire
  rw [outstanding_cons, if_pos rfl]

theorem credit_mem (found : credit resource acquisitions = some credited)
    {acquisition : Acquisition Resource} (member : acquisition ∈ credited) :
    acquisition ∈ acquisitions ∨ acquisition.resource = resource := by
  induction acquisitions generalizing credited with
  | nil => simp [credit] at found
  | cons newest older induction =>
      rw [credit] at found
      split at found
      · next hsame =>
          cases found
          rcases List.mem_cons.mp member with rfl | holder
          · exact Or.inr hsame
          · exact Or.inl (List.mem_cons_of_mem _ holder)
      · obtain ⟨rest, hrest, rfl⟩ := Option.map_eq_some_iff.mp found
        rcases List.mem_cons.mp member with rfl | holder
        · exact Or.inl List.mem_cons_self
        · exact (induction hrest holder).imp_left (List.mem_cons_of_mem _)

omit [DecidableEq Resource] in
theorem Orderly.tail {newest : Acquisition Resource}
    (orderly : Orderly (newest :: acquisitions)) : Orderly acquisitions where
  once acquisition member :=
    orderly.once acquisition (List.mem_cons_of_mem _ member)
  renewed := (List.pairwise_cons.mp orderly.renewed).2

theorem Orderly.credit (orderly : Orderly acquisitions)
    (held : resource ∈ outstanding acquisitions) :
    ∃ credited, Ledger.credit resource acquisitions = some credited ∧
      Orderly credited ∧
      (outstanding credited).Perm
        ((outstanding acquisitions).erase resource) := by
  induction acquisitions with
  | nil => simp [outstanding] at held
  | cons newest older induction =>
      obtain ⟨hrenewed, _⟩ := List.pairwise_cons.mp orderly.renewed
      by_cases hsame : newest.resource = resource
      · have hlive : newest.releases = 0 := by
          obtain ⟨holder, member, hzero, hresource⟩ := mem_outstanding.mp held
          rcases List.mem_cons.mp member with rfl | hmember
          · exact hzero
          · have hone := hrenewed holder hmember (hsame.trans hresource.symm)
            omega
        refine ⟨{ newest with releases := newest.releases + 1 } :: older,
          by rw [Ledger.credit, if_pos hsame], ⟨?_, ?_⟩, ?_⟩
        · intro acquisition member
          rcases List.mem_cons.mp member with rfl | hmember
          · simp [hlive]
          · exact orderly.tail.once acquisition hmember
        · exact List.pairwise_cons.mpr ⟨hrenewed, orderly.tail.renewed⟩
        · rw [outstanding_cons, outstanding_cons, if_pos hlive, hsame,
            List.erase_cons_head]
          simp
      · have hrest : resource ∈ outstanding older := by
          rw [outstanding_cons] at held
          split at held
          · exact (List.mem_cons.mp held).resolve_left (Ne.symm hsame)
          · exact held
        obtain ⟨credited, hcredit, hordered, hperm⟩ :=
          induction orderly.tail hrest
        refine ⟨newest :: credited,
          by rw [Ledger.credit, if_neg hsame, hcredit]; rfl, ⟨?_, ?_⟩, ?_⟩
        · intro acquisition member
          rcases List.mem_cons.mp member with rfl | hmember
          · exact orderly.once _ List.mem_cons_self
          · exact hordered.once acquisition hmember
        · refine List.pairwise_cons.mpr ⟨?_, hordered.renewed⟩
          intro acquisition member hresource
          rcases credit_mem hcredit member with hmember | hcredited
          · exact hrenewed acquisition hmember hresource
          · exact absurd (hresource.trans hcredited) hsame
        · rw [outstanding_cons, outstanding_cons]
          split
          · rw [List.erase_cons_tail (by simpa using hsame)]
            exact hperm.cons _
          · exact hperm

omit [DecidableEq Resource] in
theorem owes_empty : Owes (empty : Ledger Resource) [] where
  orderly := ⟨by simp [empty], by simp [empty]⟩
  noStrays := rfl
  held := List.Perm.refl []
  distinct := List.nodup_nil

omit [DecidableEq Resource] in
theorem Owes.perm {other : List Resource} (owes : Owes ledger owned)
    (same : owned.Perm other) : Owes ledger other where
  orderly := owes.orderly
  noStrays := owes.noStrays
  held := owes.held.trans same
  distinct := same.nodup_iff.mp owes.distinct

omit [DecidableEq Resource] in
theorem Owes.mem_live (owes : Owes ledger owned) :
    resource ∈ ledger.live ↔ resource ∈ owned :=
  owes.held.mem_iff

omit [DecidableEq Resource] in
theorem Owes.acquire (owes : Owes ledger owned)
    (fresh : resource ∉ ledger.live) :
    Owes (ledger.acquire resource) (resource :: owned) where
  orderly := by
    refine ⟨?_, List.pairwise_cons.mpr ⟨?_, owes.orderly.renewed⟩⟩
    · intro acquisition member
      rcases List.mem_cons.mp member with rfl | hmember
      · exact Nat.zero_le 1
      · exact owes.orderly.once acquisition hmember
    · intro older member hresource
      have honce := owes.orderly.once older member
      have hnonzero : older.releases ≠ 0 := by
        intro hzero
        exact fresh (mem_outstanding.mpr ⟨older, member, hzero, hresource.symm⟩)
      omega
  noStrays := owes.noStrays
  held := owes.held.cons resource
  distinct :=
    List.nodup_cons.mpr ⟨fun member => fresh (owes.mem_live.mpr member),
      owes.distinct⟩

theorem Owes.release (owes : Owes ledger owned) (held : resource ∈ owned) :
    Owes (ledger.release resource) (owned.erase resource) := by
  obtain ⟨credited, hcredit, hordered, hperm⟩ :=
    owes.orderly.credit (owes.mem_live.mpr held)
  have hrelease : ledger.release resource =
      { ledger with acquisitions := credited } := by
    rw [Ledger.release, hcredit]
  rw [hrelease]
  exact
    { orderly := hordered
      noStrays := owes.noStrays
      held := hperm.trans (owes.held.erase resource)
      distinct := owes.distinct.erase resource }

theorem Owes.release_head (owes : Owes ledger (resource :: owned)) :
    Owes (ledger.release resource) owned := by
  have hreleased := owes.release List.mem_cons_self
  rwa [List.erase_cons_head] at hreleased

omit [DecidableEq Resource] in
/-- A program that owes nothing has released each acquisition once. -/
theorem Owes.settled (owes : Owes ledger [])
    {acquisition : Acquisition Resource}
    (member : acquisition ∈ ledger.acquisitions) :
    acquisition.releases = 1 := by
  have honce := owes.orderly.once acquisition member
  have hnonzero : acquisition.releases ≠ 0 := by
    intro hzero
    exact List.not_mem_nil (owes.mem_live.mp
      (mem_outstanding.mpr ⟨acquisition, member, hzero, rfl⟩))
  omega

end Ledger

end EmbeddedPortfolio.Program
