import EmbeddedPortfolio.Program.Ledger

namespace EmbeddedPortfolio.Program

universe u

/-! Resources of which some are made from others.  To use one that is not held
is a misuse, and so is to free one before what was made from it. -/

structure Handles (Resource : Type u) where
  ledger : Ledger Resource
  misuses : Nat
deriving DecidableEq, Repr

namespace Handles

variable {Resource : Type u}

def empty : Handles Resource := ⟨.empty, 0⟩

def acquire (resource : Resource) (handles : Handles Resource) :
    Handles Resource :=
  { handles with ledger := handles.ledger.acquire resource }

variable [DecidableEq Resource]

def use (resources : List Resource) (handles : Handles Resource) :
    Handles Resource :=
  { handles with
    misuses := handles.misuses +
      resources.countP fun resource => resource ∉ handles.ledger.live }

def free (madeFrom : Resource → Resource → Bool) (resource : Resource)
    (handles : Handles Resource) : Handles Resource where
  ledger := handles.ledger.release resource
  misuses := handles.misuses +
    handles.ledger.live.countP fun other => madeFrom other resource

omit [DecidableEq Resource] in
/-- Exactly the resources in `owned` are held, and nothing has been misused. -/
structure Sound (handles : Handles Resource) (owned : List Resource) :
    Prop where
  owes : handles.ledger.Owes owned
  proper : handles.misuses = 0

variable {handles : Handles Resource} {owned : List Resource}
variable {madeFrom : Resource → Resource → Bool} {resource : Resource}

omit [DecidableEq Resource] in
theorem sound_empty : (empty : Handles Resource).Sound [] :=
  ⟨Ledger.owes_empty, rfl⟩

omit [DecidableEq Resource] in
theorem Sound.perm {other : List Resource} (sound : handles.Sound owned)
    (same : owned.Perm other) : handles.Sound other :=
  ⟨sound.owes.perm same, sound.proper⟩

omit [DecidableEq Resource] in
theorem Sound.acquire (sound : handles.Sound owned)
    (fresh : resource ∉ owned) :
    (handles.acquire resource).Sound (resource :: owned) where
  owes := sound.owes.acquire fun live => fresh (sound.owes.mem_live.mp live)
  proper := sound.proper

theorem Sound.use (sound : handles.Sound owned) {resources : List Resource}
    (held : ∀ resource ∈ resources, resource ∈ owned) :
    (handles.use resources).Sound owned where
  owes := sound.owes
  proper := by
    have hcount : (resources.countP fun resource =>
        resource ∉ handles.ledger.live) = 0 := by
      rw [List.countP_eq_zero]
      intro resource member
      simpa using sound.owes.mem_live.mpr (held resource member)
    change handles.misuses + _ = 0
    rw [sound.proper, hcount]

theorem Sound.free (sound : handles.Sound (resource :: owned))
    (last : ∀ other ∈ owned, madeFrom other resource = false)
    (irreflexive : madeFrom resource resource = false) :
    (handles.free madeFrom resource).Sound owned where
  owes := sound.owes.release_head
  proper := by
    have hcount : (handles.ledger.live.countP fun other =>
        madeFrom other resource) = 0 := by
      rw [List.countP_eq_zero]
      intro other member
      rcases List.mem_cons.mp (sound.owes.mem_live.mp member) with
        rfl | hother
      · simp [irreflexive]
      · simp [last other hother]
    change handles.misuses + _ = 0
    rw [sound.proper, hcount]

end Handles

end EmbeddedPortfolio.Program
