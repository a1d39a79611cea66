import EmbeddedPortfolio.Transition.System
import Mathlib.Logic.Function.Basic

namespace EmbeddedPortfolio.Transition

universe u v

/-! Linear ownership.  Slots hold tokens; a token enters once, moves from slot to
slot, and is discarded when its slot is cleared or overwritten. -/

structure Slots (Slot : Type u) (Token : Type v) where
  content : Slot → Option Token
  acquired : List Token

/-- The second argument of `move` and `clear` is what the slot held. -/
inductive SlotEvent (Slot : Type u) (Token : Type v)
  | acquire (slot : Slot) (token : Token)
  | move (target : Slot) (discarded : Option Token) (source : Slot)
  | clear (slot : Slot) (discarded : Option Token)

namespace SlotEvent

variable {Slot : Type u} {Token : Type v}

def acquires : SlotEvent Slot Token → Option Token
  | .acquire _ token => some token
  | _ => none

def discards : SlotEvent Slot Token → Option Token
  | .move _ discarded _ => discarded
  | .clear _ discarded => discarded
  | _ => none

end SlotEvent

inductive SlotStep {Slot : Type u} {Token : Type v} [DecidableEq Slot] :
    Slots Slot Token → SlotEvent Slot Token → Slots Slot Token → Prop
  | acquire {slots : Slots Slot Token} {slot : Slot} {token : Token} :
      slots.content slot = none → token ∉ slots.acquired →
        SlotStep slots (.acquire slot token)
          ⟨Function.update slots.content slot (some token),
            slots.acquired ++ [token]⟩
  | move {slots : Slots Slot Token} {target source : Slot} :
      target ≠ source →
        SlotStep slots (.move target (slots.content target) source)
          ⟨Function.update
              (Function.update slots.content source none)
              target (slots.content source),
            slots.acquired⟩
  | clear {slots : Slots Slot Token} {slot : Slot} :
      SlotStep slots (.clear slot (slots.content slot))
        ⟨Function.update slots.content slot none, slots.acquired⟩

def slotSystem (Slot : Type u) (Token : Type v) [DecidableEq Slot] :
    System (Slots Slot Token) (SlotEvent Slot Token) where
  initial slots := slots = ⟨fun _ => none, []⟩
  step := SlotStep

inductive Deed
  | acquired
  | discarded
  deriving Repr, DecidableEq

section Lives

variable {Slot : Type u} {Token : Type v} [DecidableEq Token]

def deeds (token : Token) (event : SlotEvent Slot Token) : List Deed :=
  (if event.acquires = some token then [.acquired] else []) ++
    if event.discards = some token then [.discarded] else []

def deedsOf (token : Token) (events : List (SlotEvent Slot Token)) :
    List Deed :=
  events.flatMap (deeds token)

theorem deedsOf_append (token : Token) (events : List (SlotEvent Slot Token))
    (event : SlotEvent Slot Token) :
    deedsOf token (events ++ [event]) =
      deedsOf token events ++ deeds token event := by
  simp [deedsOf]

/-- The stages of a token's life, each with all that has been done to it. -/
inductive Life (events : List (SlotEvent Slot Token))
    (slots : Slots Slot Token) (token : Token) : Prop
  | ahead (fresh : token ∉ slots.acquired)
      (nowhere : ∀ slot, slots.content slot ≠ some token)
      (deeds : deedsOf token events = [])
  | held (known : token ∈ slots.acquired)
      (owner : ∃! slot, slots.content slot = some token)
      (deeds : deedsOf token events = [.acquired])
  | ended (known : token ∈ slots.acquired)
      (nowhere : ∀ slot, slots.content slot ≠ some token)
      (deeds : deedsOf token events = [.acquired, .discarded])

variable {events : List (SlotEvent Slot Token)}
variable {slots next : Slots Slot Token} {token : Token}

/-- A step that does not concern the token keeps it where it is, though perhaps
under another slot. -/
theorem Life.carry (life : Life events slots token)
    {event : SlotEvent Slot Token} (idle : deeds token event = [])
    (known : token ∈ next.acquired ↔ token ∈ slots.acquired)
    (owner : (∃! slot, slots.content slot = some token) →
      ∃! slot, next.content slot = some token)
    (nowhere : (∀ slot, slots.content slot ≠ some token) →
      ∀ slot, next.content slot ≠ some token) :
    Life (events ++ [event]) next token := by
  have hdeeds : deedsOf token (events ++ [event]) = deedsOf token events := by
    rw [deedsOf_append, idle, List.append_nil]
  cases life with
  | ahead fresh hnowhere deeds =>
      exact .ahead (fun h => fresh (known.mp h)) (nowhere hnowhere)
        (hdeeds.trans deeds)
  | held hknown howner deeds =>
      exact .held (known.mpr hknown) (owner howner) (hdeeds.trans deeds)
  | ended hknown hnowhere deeds =>
      exact .ended (known.mpr hknown) (nowhere hnowhere) (hdeeds.trans deeds)

/-- A token found in a slot is in that slot only. -/
theorem Life.owned (life : Life events slots token) {slot : Slot}
    (found : slots.content slot = some token) :
    token ∈ slots.acquired ∧ deedsOf token events = [.acquired] ∧
      ∀ other, slots.content other = some token → other = slot := by
  cases life with
  | ahead _ nowhere _ => exact absurd found (nowhere slot)
  | held known owner deeds =>
      exact ⟨known, deeds, fun other hother => owner.unique hother found⟩
  | ended _ nowhere _ => exact absurd found (nowhere slot)

/-- The token of a slot that is emptied comes to its end. -/
theorem Life.discard (life : Life events slots token)
    {event : SlotEvent Slot Token} {slot : Slot}
    (found : slots.content slot = some token)
    (last : deeds token event = [.discarded])
    (acquired : next.acquired = slots.acquired)
    (left : ∀ other, next.content other = some token →
      ∃ before, before ≠ slot ∧ slots.content before = some token) :
    Life (events ++ [event]) next token := by
  obtain ⟨known, deeds, unique⟩ := life.owned found
  refine .ended (acquired ▸ known) ?_ ?_
  · intro other hother
    obtain ⟨before, hne, hbefore⟩ := left other hother
    exact hne (unique before hbefore)
  · rw [deedsOf_append, deeds, last]
    rfl

variable [DecidableEq Slot]

theorem Life.acquire (life : Life events slots token) {slot : Slot}
    {entering : Token} (empty : slots.content slot = none)
    (fresh : entering ∉ slots.acquired) :
    Life (events ++ [.acquire slot entering])
      ⟨Function.update slots.content slot (some entering),
        slots.acquired ++ [entering]⟩ token := by
  cases decEq entering token with
  | isTrue heq =>
      subst heq
      have hlife : (∀ other, slots.content other ≠ some entering) ∧
          deedsOf entering events = [] := by
        cases life with
        | ahead _ nowhere deeds => exact ⟨nowhere, deeds⟩
        | held known _ _ => exact absurd known fresh
        | ended known _ _ => exact absurd known fresh
      refine .held (by simp) ⟨slot, by simp, ?_⟩ ?_
      · intro other hother
        by_contra hne
        simp only [Function.update_of_ne hne] at hother
        exact hlife.1 other hother
      · rw [deedsOf_append, hlife.2]
        simp [deeds, SlotEvent.acquires, SlotEvent.discards]
  | isFalse hne =>
      have hcontent : ∀ other, Function.update slots.content slot
          (some entering) other = some token ↔
            slots.content other = some token := by
        intro other
        rw [Function.update_apply]
        split
        · rename_i heq
          rw [heq, empty]
          simp [hne]
        · rfl
      refine life.carry ?_ ?_ ?_ ?_
      · simp [deeds, SlotEvent.acquires, SlotEvent.discards, hne]
      · simp [Ne.symm hne]
      · intro owner
        simpa only [hcontent] using owner
      · intro nowhere other hother
        exact nowhere other ((hcontent other).mp hother)

theorem Life.move (life : Life events slots token) {target source : Slot}
    (distinct : target ≠ source) :
    Life (events ++ [.move target (slots.content target) source])
      ⟨Function.update (Function.update slots.content source none) target
          (slots.content source), slots.acquired⟩ token := by
  have hcontent : ∀ other, Function.update
      (Function.update slots.content source none) target
        (slots.content source) other =
      if other = target then slots.content source
      else if other = source then none else slots.content other := by
    intro other
    rw [Function.update_apply, Function.update_apply]
  cases decEq (slots.content target) (some token) with
  | isTrue found =>
      refine life.discard found ?_ rfl ?_
      · simp [deeds, SlotEvent.acquires, SlotEvent.discards, found]
      · intro other hother
        simp only [hcontent] at hother
        split at hother
        · exact ⟨source, distinct.symm, hother⟩
        · rename_i hne
          split at hother
          · cases hother
          · exact ⟨other, hne, hother⟩
  | isFalse absent =>
      refine life.carry ?_ Iff.rfl ?_ ?_
      · simp [deeds, SlotEvent.acquires, SlotEvent.discards, absent]
      · -- The owner stays where it is, unless it is the slot moved from.
        intro ⟨owner, howner, hunique⟩
        have hother : owner ≠ target := by
          rintro rfl
          exact absent howner
        cases decEq owner source with
        | isTrue heq =>
            subst heq
            refine ⟨target, by simpa [hcontent] using howner, ?_⟩
            intro other hfound
            simp only [hcontent] at hfound
            split at hfound
            · assumption
            · split at hfound
              · cases hfound
              · rename_i hne
                exact absurd (hunique other hfound) hne
        | isFalse hne =>
            refine ⟨owner, by simpa [hcontent, hother, hne] using howner, ?_⟩
            intro other hfound
            simp only [hcontent] at hfound
            split at hfound
            · exact absurd (hunique source hfound).symm hne
            · split at hfound
              · cases hfound
              · exact hunique other hfound
      · intro nowhere other hfound
        simp only [hcontent] at hfound
        split at hfound
        · exact nowhere source hfound
        · split at hfound
          · cases hfound
          · exact nowhere other hfound

theorem Life.clear (life : Life events slots token) (slot : Slot) :
    Life (events ++ [.clear slot (slots.content slot)])
      ⟨Function.update slots.content slot none, slots.acquired⟩ token := by
  have hcontent : ∀ other, Function.update slots.content slot none other =
      some token ↔ other ≠ slot ∧ slots.content other = some token := by
    intro other
    rw [Function.update_apply]
    split
    · rename_i heq
      simp [heq]
    · rename_i hne
      simp [hne]
  cases decEq (slots.content slot) (some token) with
  | isTrue found =>
      refine life.discard found ?_ rfl ?_
      · simp [deeds, SlotEvent.acquires, SlotEvent.discards, found]
      · intro other hother
        exact ⟨other, (hcontent other).mp hother⟩
  | isFalse absent =>
      have hsame : ∀ other, Function.update slots.content slot none other =
          some token ↔ slots.content other = some token := by
        intro other
        rw [hcontent]
        constructor
        · exact And.right
        · intro hother
          refine ⟨?_, hother⟩
          rintro rfl
          exact absent hother
      refine life.carry ?_ Iff.rfl ?_ ?_
      · simp [deeds, SlotEvent.acquires, SlotEvent.discards, absent]
      · intro owner
        simpa only [hsame] using owner
      · intro nowhere other hother
        exact nowhere other ((hsame other).mp hother)

/-- At every moment of every run each token is in one stage of its life. -/
theorem run_life (run : (slotSystem Slot Token).Run events slots)
    (token : Token) : Life events slots token := by
  apply run.invariant (motive := fun events slots => Life events slots token)
  · intro slots hinitial
    rw [hinitial]
    exact .ahead (by simp) (by simp) rfl
  · intro events slots event next life step
    cases step with
    | acquire empty fresh => exact life.acquire empty fresh
    | move distinct => exact life.move distinct
    | clear => exact life.clear _

end Lives

end EmbeddedPortfolio.Transition
