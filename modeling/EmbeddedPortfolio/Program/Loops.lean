import EmbeddedPortfolio.Program.Exceptional
import EmbeddedPortfolio.Transition.System

namespace EmbeddedPortfolio.Program

open EmbeddedPortfolio.Transition

namespace Exceptional

variable {State Inner Error Value Poll : Type}

/-! A program that works on a part of the state. -/

structure Part (State Inner : Type) where
  get : State → Inner
  put : Inner → State → State

def within (part : Part State Inner)
    (program : Exceptional Inner Error Value) :
    Exceptional State Error Value :=
  fun state =>
    ((program (part.get state)).1,
      part.put (program (part.get state)).2 state)

theorem Triple.within {part : Part State Inner}
    {program : Exceptional Inner Error Value}
    {before : State → Prop} {after : Value → State → Prop}
    {thrown : Error → State → Prop}
    (triple : ∀ state, before state →
      Triple (fun inner => inner = part.get state) program
        (fun value inner => after value (part.put inner state))
        (fun error inner => thrown error (part.put inner state))) :
    Triple before (within part program) after thrown := by
  intro state holds
  have hresult := triple state holds (part.get state) rfl
  unfold Exceptional.within
  rcases houtcome : program (part.get state) with ⟨error | value, final⟩
  · rw [houtcome] at hresult
    exact hresult
  · rw [houtcome] at hresult
    exact hresult

/-! A loop that looks at a flag before every turn.  The polls are those of one
run: it is over when they are. -/

def whilePolling (leave : Poll → State → Bool)
    (body : Exceptional State Error Unit) :
    List Poll → Exceptional State Error Unit
  | [] => pure ()
  | poll :: polls => do
      let leaves ← observe (leave poll)
      if leaves then pure ()
      else do
        body
        whilePolling leave body polls

variable {leave : Poll → State → Bool}
variable {body : Exceptional State Error Unit}

theorem Triple.whilePolling {invariant : State → Prop}
    {thrown : Error → State → Prop}
    (turn : ∀ poll, Triple
      (fun state => invariant state ∧ leave poll state = false) body
      (fun _ => invariant) thrown) (polls : List Poll) :
    Triple invariant (whilePolling leave body polls) (fun _ => invariant)
      thrown := by
  induction polls with
  | nil => exact Triple.pure fun _ holds => holds
  | cons poll polls induction =>
      apply Triple.bind fun leaves state =>
        invariant state ∧ leave poll state = leaves
      · exact Triple.observe fun _ holds => ⟨holds, rfl⟩
      intro leaves
      apply Triple.ite
      · intro _
        exact Triple.pure fun _ holds => holds.1
      · intro stays
        apply Triple.bind fun _ => invariant
        · apply (turn poll).weaken
          · rintro state ⟨holds, hleaves⟩
            exact ⟨holds, hleaves.trans (Bool.not_eq_true _ ▸ stays)⟩
          · exact fun _ _ holds => holds
          · exact fun _ _ holds => holds
        · intro _
          exact induction

/-- The turns that return, each named after the state it starts in. -/
def turns (initial : State → Prop) (leave : Poll → State → Bool)
    (body : Exceptional State Error Unit) : System State State where
  initial := initial
  step state event next :=
    event = state ∧ (∃ poll, leave poll state = false) ∧
      body state = (.ok (), next)

/-- A loop is a run of turns that return, with at most one turn behind it that
throws. -/
theorem whilePolling_turns {initial : State → Prop} {state : State}
    {earlier : List State}
    (run : (turns initial leave body).Run earlier state) (polls : List Poll) :
    ∃ later final, (turns initial leave body).Run (earlier ++ later) final ∧
      (whilePolling leave body polls state = (.ok (), final) ∨
        ∃ error left, (∃ poll, leave poll final = false) ∧
          body final = (.error error, left) ∧
          whilePolling leave body polls state = (.error error, left)) := by
  induction polls generalizing earlier state with
  | nil => exact ⟨[], state, by simpa using run, Or.inl rfl⟩
  | cons poll polls induction =>
      cases hleave : leave poll state with
      | true =>
          refine ⟨[], state, by simpa using run, Or.inl ?_⟩
          simp [whilePolling, bind, Exceptional.observe, hleave, pure]
      | false =>
          rcases hbody : body state with ⟨error | ⟨⟩, middle⟩
          · refine ⟨[], state, by simpa using run, Or.inr ?_⟩
            refine ⟨error, middle, ⟨poll, hleave⟩, hbody, ?_⟩
            simp [whilePolling, bind, Exceptional.observe, hleave, hbody]
          · have hloop : whilePolling leave body (poll :: polls) state =
                whilePolling leave body polls middle := by
              simp [whilePolling, bind, Exceptional.observe, hleave, hbody]
            have taken : (turns initial leave body).step state state middle :=
              ⟨rfl, ⟨poll, hleave⟩, hbody⟩
            obtain ⟨later, final, hrun, hfinal⟩ :=
              induction (run.extend taken)
            refine ⟨state :: later, final, by simpa using hrun, ?_⟩
            rwa [hloop]

end Exceptional

end EmbeddedPortfolio.Program
