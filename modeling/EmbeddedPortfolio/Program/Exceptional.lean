namespace EmbeddedPortfolio.Program

/-! Programs that change a state and may throw, with their pre- and
postconditions.  What was changed before a throw stays changed. -/

def Exceptional (State Error Value : Type) : Type :=
  State → Except Error Value × State

namespace Exceptional

variable {State Error Value Next Item : Type}

instance : Monad (Exceptional State Error) where
  pure value := fun state => (.ok value, state)
  bind program next := fun state =>
    match program state with
    | (.ok value, middle) => next value middle
    | (.error error, middle) => (.error error, middle)

def fail (error : Error) : Exceptional State Error Value :=
  fun state => (.error error, state)

def observe (view : State → Value) : Exceptional State Error Value :=
  fun state => (.ok (view state), state)

def update (change : State → State) : Exceptional State Error Unit :=
  fun state => (.ok (), change state)

/-- A call that answers and changes the state, but never throws. -/
def call (service : State → Value × State) : Exceptional State Error Value :=
  fun state => (.ok (service state).1, (service state).2)

def attempt (program : Exceptional State Error Value) :
    Exceptional State Error (Except Error Value) :=
  fun state => (.ok (program state).1, (program state).2)

/-- The cleanup follows the program, whether it returns or throws. -/
def ensuring (program : Exceptional State Error Value)
    (cleanup : Exceptional State Error Unit) :
    Exceptional State Error Value := do
  let outcome ← attempt program
  cleanup
  match outcome with
  | .ok value => pure value
  | .error error => fail error

def forEach (body : Item → Exceptional State Error Unit) :
    List Item → Exceptional State Error Unit
  | [] => pure ()
  | item :: rest => do
      body item
      forEach body rest

theorem bind_ok {program : Exceptional State Error Value}
    {next : Value → Exceptional State Error Next} {state final : State}
    {result : Next} (returned : (program >>= next) state = (.ok result, final)) :
    ∃ value middle, program state = (.ok value, middle) ∧
      next value middle = (.ok result, final) := by
  simp only [bind] at returned
  rcases houtcome : program state with ⟨error | value, middle⟩
  · rw [houtcome] at returned
    cases returned
  · rw [houtcome] at returned
    exact ⟨value, middle, rfl, returned⟩

theorem bind_of_ok {program : Exceptional State Error Value}
    {next : Value → Exceptional State Error Next} {state middle : State}
    {value : Value} (returned : program state = (.ok value, middle)) :
    (program >>= next) state = next value middle := by
  simp only [bind]
  rw [returned]

theorem bind_of_error {program : Exceptional State Error Value}
    {next : Value → Exceptional State Error Next} {state final : State}
    {error : Error} (thrown : program state = (.error error, final)) :
    (program >>= next) state = (.error error, final) := by
  simp only [bind]
  rw [thrown]

theorem eq_of_returned {program : Exceptional State Error Value}
    {state : State} {value : Value}
    (returned : (program state).1 = .ok value) :
    program state = (.ok value, (program state).2) :=
  Prod.ext returned rfl

/-- Started where `before` holds, the program ends where `after` holds of its
value, or throws where `thrown` holds of the error. -/
def Triple (before : State → Prop) (program : Exceptional State Error Value)
    (after : Value → State → Prop) (thrown : Error → State → Prop) : Prop :=
  ∀ state, before state →
    match program state with
    | (.ok value, final) => after value final
    | (.error error, final) => thrown error final

variable {before middle : State → Prop} {thrown : Error → State → Prop}

theorem Triple.weaken {stronger : State → Prop}
    {program : Exceptional State Error Value}
    {after weaker : Value → State → Prop} {thrownWeaker : Error → State → Prop}
    (triple : Triple before program after thrown)
    (pre : ∀ state, stronger state → before state)
    (post : ∀ value state, after value state → weaker value state)
    (throws : ∀ error state, thrown error state → thrownWeaker error state) :
    Triple stronger program weaker thrownWeaker := by
  intro state holds
  have hresult := triple state (pre state holds)
  rcases houtcome : program state with ⟨error | value, final⟩
  · rw [houtcome] at hresult
    exact throws error final hresult
  · rw [houtcome] at hresult
    exact post value final hresult

theorem Triple.final {program : Exceptional State Error Value}
    {left : State → Prop}
    (triple : Triple before program (fun _ => left) (fun _ => left))
    {state : State} (holds : before state) : left (program state).2 := by
  have hresult := triple state holds
  rcases houtcome : program state with ⟨error | value, final⟩
  · rw [houtcome] at hresult
    exact hresult
  · rw [houtcome] at hresult
    exact hresult

theorem Triple.outcome {program : Exceptional State Error Value}
    {after : Value → State → Prop} (triple : Triple before program after thrown)
    {state : State} (holds : before state) :
    match (program state).1 with
    | .ok value => after value (program state).2
    | .error error => thrown error (program state).2 := by
  have hresult := triple state holds
  rcases houtcome : program state with ⟨error | value, final⟩
  · rw [houtcome] at hresult
    exact hresult
  · rw [houtcome] at hresult
    exact hresult

/-- A program that leaves no state behind which a throw could leave returns. -/
theorem Triple.returns {program : Exceptional State Error Value}
    {after : Value → State → Prop} (triple : Triple before program after thrown)
    {state : State} (holds : before state)
    (quiet : ∀ error, ¬ thrown error (program state).2) :
    ∃ value, (program state).1 = .ok value ∧ after value (program state).2 := by
  have houtcome := triple.outcome holds
  cases hresult : (program state).1 with
  | ok value =>
      rw [hresult] at houtcome
      exact ⟨value, rfl, houtcome⟩
  | error error =>
      rw [hresult] at houtcome
      exact absurd houtcome (quiet error)

/-- A program that always returns needs no condition for a throw. -/
theorem Triple.never_throws {program : Exceptional State Error Value}
    {after : Value → State → Prop} {other : Error → State → Prop}
    (returns : ∀ state, ∃ value, (program state).1 = .ok value)
    (triple : Triple before program after thrown) :
    Triple before program after other := by
  intro state holds
  have hresult := triple state holds
  obtain ⟨value, hvalue⟩ := returns state
  rcases houtcome : program state with ⟨error | value, final⟩
  · rw [houtcome] at hvalue
    cases hvalue
  · rw [houtcome] at hresult
    exact hresult

theorem Triple.trivial (program : Exceptional State Error Value) :
    Triple before program (fun _ _ => True) (fun _ _ => True) := by
  intro state _
  rcases program state with ⟨error | value, final⟩ <;> trivial

theorem Triple.pure {after : Value → State → Prop} {value : Value}
    (post : ∀ state, before state → after value state) :
    Triple before (Pure.pure value : Exceptional State Error Value) after
      thrown :=
  post

theorem Triple.bind {program : Exceptional State Error Value}
    {next : Value → Exceptional State Error Next}
    {after : Next → State → Prop} (between : Value → State → Prop)
    (first : Triple before program between thrown)
    (second : ∀ value, Triple (between value) (next value) after thrown) :
    Triple before (program >>= next) after thrown := by
  intro state holds
  have hfirst := first state holds
  change match (match program state with
    | (.ok value, middle) => next value middle
    | (.error error, middle) => (.error error, middle)) with
    | (.ok value, final) => after value final
    | (.error error, final) => thrown error final
  rcases houtcome : program state with ⟨error | value, final⟩
  · rw [houtcome] at hfirst
    exact hfirst
  · rw [houtcome] at hfirst
    exact second value final hfirst

theorem Triple.fail {after : Value → State → Prop} {error : Error}
    (throws : ∀ state, before state → thrown error state) :
    Triple before (Exceptional.fail error : Exceptional State Error Value)
      after thrown :=
  throws

theorem Triple.observe {after : Value → State → Prop} {view : State → Value}
    (post : ∀ state, before state → after (view state) state) :
    Triple before (Exceptional.observe view) after thrown :=
  post

theorem Triple.update {after : Unit → State → Prop} {change : State → State}
    (post : ∀ state, before state → after () (change state)) :
    Triple before (Exceptional.update change) after thrown :=
  post

theorem Triple.call {after : Value → State → Prop}
    {service : State → Value × State}
    (post : ∀ state, before state →
      after (service state).1 (service state).2) :
    Triple before (Exceptional.call service) after thrown :=
  post

theorem Triple.attempt {program : Exceptional State Error Value}
    {after : Value → State → Prop}
    (triple : Triple before program after thrown) :
    Triple before (Exceptional.attempt program)
      (fun outcome state => match outcome with
        | .ok value => after value state
        | .error error => thrown error state)
      (fun (_ : Error) _ => False) := by
  intro state holds
  exact triple.outcome holds

theorem Triple.ensuring {program : Exceptional State Error Value}
    {cleanup : Exceptional State Error Unit}
    {between after : Value → State → Prop} {threw : Error → State → Prop}
    (body : Triple before program between threw)
    (onReturn : ∀ value,
      Triple (between value) cleanup (fun _ => after value) thrown)
    (onThrow : ∀ error,
      Triple (threw error) cleanup (fun _ => thrown error) thrown) :
    Triple before (Exceptional.ensuring program cleanup) after thrown := by
  apply Triple.bind
  · apply body.attempt.weaken (fun _ holds => holds)
    · intro outcome state holds
      exact holds
    · intro _ _ impossible
      exact impossible.elim
  intro outcome
  cases outcome with
  | ok value =>
      exact Triple.bind _ (onReturn value) fun _ =>
        Triple.pure fun _ holds => holds
  | error error =>
      exact Triple.bind _ (onThrow error) fun _ =>
        Triple.fail fun _ holds => holds

/-- A fact about no state in the precondition. -/
theorem Triple.assume {fact : Prop} {program : Exceptional State Error Value}
    {after : Value → State → Prop}
    (triple : fact → Triple before program after thrown) :
    Triple (fun state => fact ∧ before state) program after thrown :=
  fun state holds => triple holds.1 state holds.2

theorem Triple.anySuch {Witness : Type} {such : Witness → State → Prop}
    {program : Exceptional State Error Value} {after : Value → State → Prop}
    (triple : ∀ witness, Triple (such witness) program after thrown) :
    Triple (fun state => ∃ witness, such witness state) program after
      thrown := by
  rintro state ⟨witness, holds⟩
  exact triple witness state holds

theorem Triple.ite {condition : Prop} [Decidable condition]
    {first second : Exceptional State Error Value}
    {after : Value → State → Prop}
    (whenTrue : condition → Triple before first after thrown)
    (whenFalse : ¬ condition → Triple before second after thrown) :
    Triple before (if condition then first else second) after thrown := by
  by_cases hcondition : condition
  · rw [if_pos hcondition]
    exact whenTrue hcondition
  · rw [if_neg hcondition]
    exact whenFalse hcondition

theorem Triple.forEach {invariant : List Item → State → Prop}
    {body : Item → Exceptional State Error Unit}
    (step : ∀ item rest, Triple (invariant (item :: rest)) (body item)
      (fun _ => invariant rest) thrown) (items : List Item) :
    Triple (invariant items) (Exceptional.forEach body items)
      (fun _ => invariant []) thrown := by
  induction items with
  | nil => exact Triple.pure fun _ holds => holds
  | cons item rest induction =>
      exact Triple.bind _ (step item rest) fun _ => induction

/-- The same with an invariant about the items that are done. -/
theorem Triple.forEach_done (invariant : List Item → State → Prop)
    {body : Item → Exceptional State Error Unit}
    (step : ∀ done item, Triple (invariant done) (body item)
      (fun _ => invariant (done ++ [item])) thrown) (items : List Item) :
    Triple (invariant []) (Exceptional.forEach body items)
      (fun _ => invariant items) thrown := by
  suffices general : ∀ done, Triple (invariant done)
      (Exceptional.forEach body items) (fun _ => invariant (done ++ items))
      thrown from general []
  induction items with
  | nil =>
      intro done
      rw [List.append_nil]
      exact Triple.pure fun _ holds => holds
  | cons item rest induction =>
      intro done
      apply Triple.bind _ (step done item)
      intro _
      have hrest := induction (done ++ [item])
      rwa [List.append_assoc, List.singleton_append] at hrest

/-- The program keeps the invariant, whether it returns or throws. -/
def Preserves (invariant : State → Prop)
    (program : Exceptional State Error Value) : Prop :=
  Triple invariant program (fun _ => invariant) (fun _ => invariant)

theorem Preserves.triple {invariant : State → Prop}
    {program : Exceptional State Error Value}
    (preserves : Preserves invariant program) :
    Triple invariant program (fun _ => invariant) (fun _ _ => True) :=
  preserves.weaken (fun _ holds => holds) (fun _ _ holds => holds)
    fun _ _ _ => True.intro

theorem Preserves.pure {invariant : State → Prop} (value : Value) :
    Preserves invariant (Pure.pure value : Exceptional State Error Value) :=
  Triple.pure fun _ holds => holds

theorem Preserves.bind {invariant : State → Prop}
    {program : Exceptional State Error Value}
    {next : Value → Exceptional State Error Next}
    (first : Preserves invariant program)
    (second : ∀ value, Preserves invariant (next value)) :
    Preserves invariant (program >>= next) :=
  Triple.bind _ first second

theorem Preserves.fail {invariant : State → Prop} (error : Error) :
    Preserves invariant
      (Exceptional.fail error : Exceptional State Error Value) :=
  Triple.fail fun _ holds => holds

theorem Preserves.attempt {invariant : State → Prop}
    {program : Exceptional State Error Value}
    (preserves : Preserves invariant program) :
    Triple invariant (Exceptional.attempt program) (fun _ => invariant)
      thrown := by
  apply (Triple.attempt preserves).weaken (fun _ holds => holds)
  · intro outcome state holds
    cases outcome with
    | ok value => exact holds
    | error error => exact holds
  · intro _ _ impossible
    exact impossible.elim

/-- What depends only on a relation to the state before. -/
theorem Preserves.of_related {relation : State → State → Prop}
    {program : Exceptional State Error Value} {invariant : State → Prop}
    (refl : ∀ state, relation state state)
    (related : ∀ before, Preserves (relation before) program)
    (stable : ∀ before final, relation before final →
      invariant before → invariant final) :
    Preserves invariant program := by
  intro state holds
  have hrelated := related state state (refl state)
  rcases houtcome : program state with ⟨error | value, final⟩
  · rw [houtcome] at hrelated
    exact stable state final hrelated holds
  · rw [houtcome] at hrelated
    exact stable state final hrelated holds

theorem Preserves.forEach {invariant : State → Prop}
    {body : Item → Exceptional State Error Unit}
    (step : ∀ item, Preserves invariant (body item)) (items : List Item) :
    Preserves invariant (Exceptional.forEach body items) :=
  @Triple.forEach _ _ _ _ (fun _ => invariant) body
    (fun item _ => step item) items

end Exceptional

end EmbeddedPortfolio.Program
