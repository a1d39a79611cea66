import EmbeddedPortfolio.Detector.Worker
import Mathlib.Data.List.Nodup

namespace EmbeddedPortfolio.Detector

open EmbeddedPortfolio.Program

/-! What the worker holds at each of its calls, and what it leaves behind. -/

def Worker.owned (worker : Worker) : List Held :=
  worker.members.map .member ++ worker.devices

/-- The worker between two calls: `locals` are the resources that no member
holds, the members in neither list may be null or not, and on a `quiet` run no
call fails. -/
structure Stage (quiet : Prop) (locals : List Held)
    (present absent : List Member) (fact : Bound → Prop) (worker : Worker) :
    Prop where
  answered : quiet → ∀ reply ∈ worker.script, reply.ok
  sound : worker.handles.Sound (locals ++ worker.owned)
  numbered : ∀ n, .device n ∈ locals ++ worker.owned →
    n < worker.bound.allocated.length
  has : ∀ member ∈ present, member ∈ worker.members
  lacks : ∀ member ∈ absent, member ∉ worker.members
  bound : fact worker.bound

section Calls

variable {quiet : Prop} {locals : List Held} {present absent : List Member}
variable {fact : Bound → Prop} {worker : Worker}
variable {thrown : Failure → Worker → Prop}

theorem Worker.mem_owned {resource : Held} :
    resource ∈ worker.owned ↔
      (∃ member ∈ worker.members, .member member = resource) ∨
        ∃ binding ∈ worker.bound.bindings,
          .device binding.device = resource := by
  simp [Worker.owned, Worker.devices]

theorem Stage.weaken {present' absent' : List Member}
    (stage : Stage quiet locals present absent fact worker)
    (has : present' ⊆ present) (lacks : absent' ⊆ absent) :
    Stage quiet locals present' absent' fact worker where
  answered := stage.answered
  sound := stage.sound
  numbered := stage.numbered
  has member hmember := stage.has member (has hmember)
  lacks member hmember := stage.lacks member (lacks hmember)
  bound := stage.bound

/-- What a call may be given. -/
def Usable (locals : List Held) (present : List Member)
    (fact : Bound → Prop) (uses : List Held) : Prop :=
  ∀ resource ∈ uses, resource ∈ locals ∨
    (∃ member ∈ present, .member member = resource) ∨
    ∀ bound, fact bound → ∃ binding ∈ bound.bindings,
      .device binding.device = resource

theorem usable_nil : Usable locals present fact [] :=
  fun _ member => absurd member List.not_mem_nil

theorem usable_members (members : List Member) (known : members ⊆ present) :
    Usable locals present fact (members.map .member) := by
  intro resource hresource
  obtain ⟨member, hmember, rfl⟩ := List.mem_map.mp hresource
  exact Or.inr (Or.inl ⟨member, known hmember, rfl⟩)

theorem Usable.owned {uses : List Held}
    (usable : Usable locals present fact uses)
    (stage : Stage quiet locals present absent fact worker) :
    ∀ resource ∈ uses, resource ∈ locals ++ worker.owned := by
  intro resource hresource
  rcases usable resource hresource with
    hlocal | ⟨member, hmember, hsame⟩ | hbound
  · exact List.mem_append_left _ hlocal
  · exact List.mem_append_right _
      (Worker.mem_owned.mpr (Or.inl ⟨member, stage.has member hmember, hsame⟩))
  · exact List.mem_append_right _
      (Worker.mem_owned.mpr (Or.inr (hbound _ stage.bound)))

theorem Stage.use (stage : Stage quiet locals present absent fact worker)
    {uses : List Held} (usable : Usable locals present fact uses) :
    Stage quiet locals present absent fact (worker.use uses) where
  answered := stage.answered
  sound := stage.sound.use (usable.owned stage)
  numbered := stage.numbered
  has := stage.has
  lacks := stage.lacks
  bound := stage.bound

theorem use_stage {uses : List Held}
    (usable : Usable locals present fact uses) :
    Exceptional.Triple (Stage quiet locals present absent fact)
      (Exceptional.update (Worker.use uses))
      (fun _ => Stage quiet locals present absent fact) thrown :=
  Exceptional.Triple.update fun _ stage => stage.use usable

theorem invoke_answered {uses : List Held}
    (usable : Usable locals present fact uses) :
    Exceptional.Triple (Stage quiet locals present absent fact) (invoke uses)
      (fun reply worker => (quiet → reply.ok = true) ∧
        Stage quiet locals present absent fact worker) thrown := by
  apply Exceptional.Triple.call
  intro worker stage
  refine ⟨?_, ?_⟩
  · intro hquiet
    cases hscript : worker.script with
    | nil => rfl
    | cons reply script =>
        apply stage.answered hquiet
        rw [hscript]
        exact List.mem_cons_self
  · exact
      { answered := fun hquiet reply member =>
          stage.answered hquiet reply (List.mem_of_mem_tail member)
        sound := (stage.use usable).sound
        numbered := stage.numbered
        has := stage.has
        lacks := stage.lacks
        bound := stage.bound }

theorem invoke_stage {uses : List Held}
    (usable : Usable locals present fact uses) :
    Exceptional.Triple (Stage quiet locals present absent fact) (invoke uses)
      (fun _ => Stage quiet locals present absent fact) thrown :=
  (invoke_answered usable).weaken (fun _ stage => stage)
    (fun _ _ holds => holds.2) fun _ _ holds => holds

theorem check_stage {uses : List Held} {failure : Reply → Failure}
    (usable : Usable locals present fact uses)
    (throws : ∀ reply worker, ¬ quiet →
      Stage quiet locals present absent fact worker →
      thrown (failure reply) worker) :
    Exceptional.Triple (Stage quiet locals present absent fact)
      (check uses failure) (fun _ => Stage quiet locals present absent fact)
      thrown := by
  apply Exceptional.Triple.bind _ (invoke_answered usable)
  intro reply
  apply Exceptional.Triple.assume
  intro answered
  apply Exceptional.Triple.ite
  · intro _
    exact Exceptional.Triple.pure fun _ stage => stage
  · intro hfailed
    exact Exceptional.Triple.fail fun worker stage =>
      throws reply worker (fun hquiet => hfailed (answered hquiet)) stage

theorem Stage.acquire {resource : Held}
    (stage : Stage quiet locals present absent fact worker)
    (fresh : resource ∉ locals ++ worker.owned)
    (unnumbered : ∀ n, resource ≠ .device n) :
    Stage quiet (resource :: locals) present absent fact
      (worker.acquire resource) where
  answered := stage.answered
  sound := stage.sound.acquire fresh
  numbered := by
    intro n hn
    rcases List.mem_cons.mp hn with hsame | hn
    · exact absurd hsame.symm (unnumbered n)
    · exact stage.numbered n hn
  has := stage.has
  lacks := stage.lacks
  bound := stage.bound

theorem Stage.free {resource : Held}
    (stage : Stage quiet (resource :: locals) present absent fact worker)
    (last : ∀ other ∈ locals ++ worker.owned, madeFrom other resource = false)
    (irreflexive : madeFrom resource resource = false) :
    Stage quiet locals present absent fact (worker.free resource) where
  answered := stage.answered
  sound := stage.sound.free last irreflexive
  numbered n hn := stage.numbered n (List.mem_cons_of_mem _ hn)
  has := stage.has
  lacks := stage.lacks
  bound := stage.bound

theorem Stage.set {member : Member}
    (stage : Stage quiet locals present (member :: absent) fact worker)
    (unheld : .member member ∉ locals) (later : member ∉ absent) :
    Stage quiet locals (member :: present) absent fact (worker.set member) := by
  have hnull : member ∉ worker.members :=
    stage.lacks member List.mem_cons_self
  have hfresh : .member member ∉ locals ++ worker.owned := by
    rw [List.mem_append, Worker.mem_owned]
    rintro (hlocal | ⟨other, hother, hsame⟩ | ⟨binding, _, hsame⟩)
    · exact unheld hlocal
    · cases hsame
      exact hnull hother
    · cases hsame
  constructor
  · exact stage.answered
  · exact (stage.sound.acquire hfresh).perm List.perm_middle.symm
  · intro n hn
    apply stage.numbered n
    rcases List.mem_append.mp hn with hlocal | howned
    · exact List.mem_append_left _ hlocal
    · apply List.mem_append_right
      rcases Worker.mem_owned.mp howned with ⟨other, _, hsame⟩ | hbinding
      · cases hsame
      · exact Worker.mem_owned.mpr (Or.inr hbinding)
  · intro other hother
    rcases List.mem_cons.mp hother with rfl | hother
    · exact List.mem_cons_self
    · exact List.mem_cons_of_mem _ (stage.has other hother)
  · intro other hother hheld
    rcases List.mem_cons.mp hheld with rfl | hheld
    · exact later hother
    · exact stage.lacks other (List.mem_cons_of_mem _ hother) hheld
  · exact stage.bound

theorem set_stage {member : Member} (unheld : .member member ∉ locals)
    (later : member ∉ absent) :
    Exceptional.Triple (Stage quiet locals present (member :: absent) fact)
      (Exceptional.update (Worker.set member))
      (fun _ => Stage quiet locals (member :: present) absent fact) thrown :=
  Exceptional.Triple.update fun _ stage => stage.set unheld later

theorem make_stage {uses : List Held} {member : Member}
    {failure : Reply → Failure}
    (usable : Usable locals present fact uses)
    (unheld : .member member ∉ locals) (later : member ∉ absent)
    (throws : ∀ reply worker, ¬ quiet →
      Stage quiet locals present (member :: absent) fact worker →
      thrown (failure reply) worker) :
    Exceptional.Triple (Stage quiet locals present (member :: absent) fact)
      (make uses member failure)
      (fun _ => Stage quiet locals (member :: present) absent fact) thrown := by
  apply Exceptional.Triple.bind _ (check_stage usable throws)
  intro _
  exact set_stage unheld later

theorem Stage.reset {member : Member} {present' : List Member}
    (stage : Stage quiet locals present absent fact worker)
    (known : present' ⊆ present) (gone : member ∉ present')
    (last : ∀ other, madeFrom other (.member member) = true →
      other ∉ locals ∧ ∃ child ∈ absent, other = .member child) :
    Stage quiet locals present' (member :: absent) fact
      (worker.reset member) := by
  unfold Worker.reset
  split
  · next hheld =>
      have hsplit : worker.owned.Perm (.member member ::
          ((worker.members.erase member).map .member ++ worker.devices)) :=
        ((List.perm_cons_erase hheld).map Held.member).append_right _
      have hsound : worker.handles.Sound (.member member ::
          (locals ++ ((worker.members.erase member).map .member ++
            worker.devices))) :=
        stage.sound.perm ((hsplit.append_left _).trans List.perm_middle)
      have hdistinct : worker.members.Nodup := by
        have howned := (List.nodup_append.mp stage.sound.owes.distinct).2.1
        exact List.Nodup.of_map _ (List.nodup_append.mp howned).1
      have hsubset : ∀ resource,
          resource ∈ locals ++ ((worker.members.erase member).map .member ++
            worker.devices) → resource ∈ locals ++ worker.owned := by
        intro resource hresource
        have hmem := ((hsplit.append_left locals).trans
          List.perm_middle).mem_iff.mpr (List.mem_cons_of_mem _ hresource)
        exact hmem
      constructor
      · exact stage.answered
      · apply hsound.free
        · intro other hother
          rw [← Bool.not_eq_true]
          intro hmade
          obtain ⟨hlocal, child, hchild, rfl⟩ := last other hmade
          rcases List.mem_append.mp (hsubset _ hother) with hmem | hmem
          · exact hlocal hmem
          · rcases Worker.mem_owned.mp hmem with
              ⟨held, hmember, hsame⟩ | ⟨_, _, hsame⟩
            · cases hsame
              exact stage.lacks _ hchild hmember
            · cases hsame
        · cases member <;> rfl
      · intro n hn
        exact stage.numbered n (hsubset _ hn)
      · intro other hother
        have hne : other ≠ member := fun hsame => gone (hsame ▸ hother)
        exact (List.mem_erase_of_ne hne).mpr (stage.has other (known hother))
      · intro other hother hmem
        rcases List.mem_cons.mp hother with rfl | hother
        · exact hdistinct.not_mem_erase hmem
        · exact stage.lacks other hother (List.mem_of_mem_erase hmem)
      · exact stage.bound
  · next hnull =>
      exact
        { answered := stage.answered
          sound := stage.sound
          numbered := stage.numbered
          has := fun other hother => stage.has other (known hother)
          lacks := by
            intro other hother
            rcases List.mem_cons.mp hother with rfl | hother
            · exact hnull
            · exact stage.lacks other hother
          bound := stage.bound }

theorem reset_stage {member : Member} {present' : List Member}
    (known : present' ⊆ present) (gone : member ∉ present')
    (last : ∀ other, madeFrom other (.member member) = true →
      other ∉ locals ∧ ∃ child ∈ absent, other = .member child) :
    Exceptional.Triple (Stage quiet locals present absent fact) (reset member)
      (fun _ => Stage quiet locals present' (member :: absent) fact) thrown :=
  Exceptional.Triple.update fun _ stage => stage.reset known gone last

/-- Nothing but the script and the vectors of the engine has changed. -/
theorem Stage.rebound {bound : Bound} {next : Bound → Prop}
    (stage : Stage quiet locals present absent fact worker)
    (bindings : bound.bindings = worker.bound.bindings)
    (allocated : bound.allocated = worker.bound.allocated)
    (holds : next bound) :
    Stage quiet locals present absent next { worker with bound } := by
  have howned : Worker.owned { worker with bound } = worker.owned := by
    unfold Worker.owned Worker.devices
    simp only [bindings]
  constructor
  · exact stage.answered
  · rw [howned]
    exact stage.sound
  · rw [howned]
    simp only [allocated]
    exact stage.numbered
  · exact stage.has
  · exact stage.lacks
  · exact holds

end Calls

/-! What an exception leaves behind that no object holds any more. -/

def Failure.strands : Failure → Bool
  | .setTensorAddress _ => true
  | .staging => true
  | _ => false

/-- The last device buffer to be allocated, or nothing. -/
def Lost (failure : Option Failure) (allocated : List UInt64)
    (lost : List Held) : Prop :=
  if failure.any Failure.strands then
    ∃ n, lost = [.device n] ∧ allocated.length = n + 1
  else lost = []

def Thrown (failure : Failure) (worker : Worker) : Prop :=
  ∃ lost, Stage False lost [] []
    (fun bound => Lost (some failure) bound.allocated lost) worker

theorem Stage.loud {quiet : Prop} {locals : List Held}
    {present absent : List Member} {fact weaker : Bound → Prop}
    {worker : Worker} (stage : Stage quiet locals present absent fact worker)
    (bound : weaker worker.bound) :
    Stage False locals [] [] weaker worker where
  answered := False.elim
  sound := stage.sound
  numbered := stage.numbered
  has _ member := absurd member List.not_mem_nil
  lacks _ member := absurd member List.not_mem_nil
  bound := bound

theorem Stage.thrown {quiet : Prop} {present absent : List Member}
    {fact : Bound → Prop} {worker : Worker} {failure : Failure}
    (stage : Stage quiet [] present absent fact worker)
    (plain : failure.strands = false) : Thrown failure worker :=
  ⟨[], stage.loud (by simp [Lost, plain])⟩

/-! `load`. -/

def TrtEngine.bound (engine : TrtEngine) : Bound :=
  ⟨engine.bindings, engine.outputs, some engine.inputIdx, engine.allocated⟩

/-- What is to be in the vectors. -/
def Loads (cfg : EngineConfig) (bound : Bound) : Prop :=
  ∃ engine, allocateBindings cfg.toInferConfig cfg.inputName cfg.tensors =
    .ok engine ∧ bound = engine.bound

/-- On a quiet run only an engine without an input makes `load` throw. -/
def LoadThrown (quiet : Prop) (cfg : EngineConfig) (failure : Failure)
    (worker : Worker) : Prop :=
  (quiet → ∀ bound, ¬ Loads cfg bound) ∧ Thrown failure worker

def engineMembers : List Member :=
  [.evStop, .evStart, .stream, .context, .engine, .runtime]

def otherMembers : List Member :=
  [.can, .pipeline, .appsink]

section Load

variable {quiet : Prop} {cfg : EngineConfig} {worker : Worker}
variable {present absent : List Member} {fact : Bound → Prop}

theorem load_throws {failure : Reply → Failure}
    (plain : ∀ reply, (failure reply).strands = false) :
    ∀ reply worker, ¬ quiet → Stage quiet [] present absent fact worker →
      LoadThrown quiet cfg (failure reply) worker :=
  fun reply _ loud stage =>
    ⟨fun hquiet => absurd hquiet loud, stage.thrown (plain reply)⟩

def boundTensors (cfg : InferConfig) (tensors : List IoTensor) :
    List BoundTensor :=
  tensors.mapIdx fun i tensor => ⟨allocateBinding cfg tensor, i⟩

/-- The vectors with the tensors in `done` bound, and `pending` more
allocations. -/
structure Binding (cfg : InferConfig) (done : List IoTensor)
    (pending : List UInt64) (bound : Bound) : Prop where
  bindings : bound.bindings = boundTensors cfg done
  outputs : bound.outputs = []
  inputIdx : bound.inputIdx = none
  allocated : bound.allocated =
    (boundTensors cfg done).map (fun binding => binding.bytes) ++ pending

theorem boundTensors_append (cfg : InferConfig) (done : List IoTensor)
    (tensor : IoTensor) :
    boundTensors cfg (done ++ [tensor]) =
      boundTensors cfg done ++ [⟨allocateBinding cfg tensor, done.length⟩] :=
  List.mapIdx_concat

theorem malloc_stage {done : List IoTensor} (bytes : UInt64)
    (stage : Stage quiet [] present absent
      (Binding cfg.toInferConfig done []) worker) :
    (worker.malloc bytes).1 = done.length ∧
      Stage quiet [.device done.length] present absent
        (Binding cfg.toInferConfig done [bytes]) (worker.malloc bytes).2 := by
  have hlength : worker.bound.allocated.length = done.length := by
    simp [stage.bound.allocated, boundTensors]
  have hfresh : .device done.length ∉ [] ++ worker.owned := by
    intro member
    have hlower := stage.numbered _ member
    omega
  refine ⟨hlength, ?_⟩
  unfold Worker.malloc
  rw [hlength]
  constructor
  · exact stage.answered
  · exact stage.sound.acquire hfresh
  · intro n hn
    simp only [List.length_append, List.length_singleton, hlength]
    rcases List.mem_cons.mp hn with hsame | hn
    · cases hsame
      omega
    · have hlower := stage.numbered n hn
      omega
  · exact stage.has
  · exact stage.lacks
  · exact
      { bindings := stage.bound.bindings
        outputs := stage.bound.outputs
        inputIdx := stage.bound.inputIdx
        allocated := by simp [stage.bound.allocated] }

theorem push_stage {done : List IoTensor} {tensor : IoTensor}
    (stage : Stage quiet [.device done.length] present absent
      (Binding cfg.toInferConfig done
        [(allocateBinding cfg.toInferConfig tensor).bytes]) worker) :
    Stage quiet [] present absent
      (Binding cfg.toInferConfig (done ++ [tensor]) [])
      { worker with bound := { worker.bound with
        bindings := worker.bound.bindings ++
          [⟨allocateBinding cfg.toInferConfig tensor, done.length⟩] } } := by
  have howned : Worker.owned { worker with bound := { worker.bound with
      bindings := worker.bound.bindings ++
        [⟨allocateBinding cfg.toInferConfig tensor, done.length⟩] } } =
      worker.owned ++ [.device done.length] := by
    simp [Worker.owned, Worker.devices]
  constructor
  · exact stage.answered
  · rw [howned]
    exact stage.sound.perm List.perm_append_comm
  · intro n hn
    rw [howned] at hn
    apply stage.numbered n
    simpa [or_comm] using hn
  · exact stage.has
  · exact stage.lacks
  · exact
      { bindings := by
          rw [boundTensors_append, stage.bound.bindings]
        outputs := stage.bound.outputs
        inputIdx := stage.bound.inputIdx
        allocated := by
          rw [boundTensors_append, stage.bound.allocated]
          simp }

/-- The buffer of the tensor at hand is held by nothing yet. -/
theorem binding_thrown {done : List IoTensor} {bytes : UInt64}
    {failure : Failure} (strands : failure.strands = true) (loud : ¬ quiet)
    (stage : Stage quiet [.device done.length] present absent
      (Binding cfg.toInferConfig done [bytes]) worker) :
    LoadThrown quiet cfg failure worker := by
  refine ⟨fun hquiet => absurd hquiet loud, [.device done.length], ?_⟩
  apply stage.loud
  simp [Lost, strands, stage.bound.allocated, boundTensors]

theorem bindTensor_stage {done : List IoTensor} (tensor : IoTensor)
    (context : .context ∈ present) :
    Exceptional.Triple
      (Stage quiet [] present absent (Binding cfg.toInferConfig done []))
      (TrtEngine.bindTensor cfg.toInferConfig tensor)
      (fun _ => Stage quiet [] present absent
        (Binding cfg.toInferConfig (done ++ [tensor]) []))
      (LoadThrown quiet cfg) := by
  have hcontext : ([.context] : List Member) ⊆ present := by
    simpa using context
  unfold TrtEngine.bindTensor
  apply Exceptional.Triple.bind fun _ =>
    Stage quiet [] present absent (Binding cfg.toInferConfig done [])
  · apply Exceptional.Triple.ite
    · intro _
      exact check_stage (usable_members _ hcontext) (load_throws fun _ => rfl)
    · intro _
      exact Exceptional.Triple.pure fun _ stage => stage
  intro _
  apply Exceptional.Triple.bind _
    (check_stage usable_nil (load_throws fun _ => rfl))
  intro _
  apply Exceptional.Triple.bind fun device worker =>
    device = done.length ∧ Stage quiet [.device done.length] present absent
      (Binding cfg.toInferConfig done
        [(allocateBinding cfg.toInferConfig tensor).bytes]) worker
  · exact Exceptional.Triple.call fun worker stage => malloc_stage _ stage
  intro device
  apply Exceptional.Triple.assume
  rintro rfl
  apply Exceptional.Triple.bind fun _ =>
    Stage quiet [.device done.length] present absent
      (Binding cfg.toInferConfig done
        [(allocateBinding cfg.toInferConfig tensor).bytes])
  · apply check_stage
    · intro resource hresource
      rcases List.mem_cons.mp hresource with rfl | hdevice
      · exact Or.inr (Or.inl ⟨.context, context, rfl⟩)
      · exact Or.inl hdevice
    · exact fun _ _ loud stage => binding_thrown rfl loud stage
  intro _
  apply Exceptional.Triple.bind _ (check_stage usable_nil
    fun _ _ loud stage => binding_thrown rfl loud stage)
  intro _
  exact Exceptional.Triple.update fun _ stage => push_stage stage

/-- The vectors with the entries in `seen` indexed. -/
structure Indexing (cfg : EngineConfig) (seen : List (BoundTensor × Nat))
    (bound : Bound) : Prop where
  bindings : bound.bindings = boundTensors cfg.toInferConfig cfg.tensors
  outputs : bound.outputs =
    (seen.map Prod.fst).filter fun binding => !binding.isInput
  inputIdx : bound.inputIdx = (seen.find? fun entry => entry.1.isInput &&
    (cfg.inputName.isEmpty || cfg.inputName == entry.1.name)).map Prod.snd
  allocated : bound.allocated = bound.bindings.map fun binding => binding.bytes

theorem indexBinding_stage {seen : List (BoundTensor × Nat)}
    (entry : BoundTensor × Nat) :
    Exceptional.Triple (Stage quiet [] present absent (Indexing cfg seen))
      (TrtEngine.indexBinding cfg.inputName entry)
      (fun _ => Stage quiet [] present absent
        (Indexing cfg (seen ++ [entry]))) (LoadThrown quiet cfg) := by
  apply Exceptional.Triple.ite
  · intro hinput
    apply Exceptional.Triple.update
    intro worker stage
    have houtputs : worker.bound.outputs =
        ((seen ++ [entry]).map Prod.fst).filter
          fun binding => !binding.isInput := by
      simp [stage.bound.outputs, hinput]
    have hfound := stage.bound.inputIdx
    split
    · next hfirst =>
        rw [Bool.and_eq_true] at hfirst
        have hnone : worker.bound.inputIdx = none := by simpa using hfirst.2
        refine stage.rebound ?_ ?_
          ⟨stage.bound.bindings, houtputs, ?_, stage.bound.allocated⟩
        · rfl
        · rfl
        rw [hnone, eq_comm, Option.map_eq_none_iff] at hfound
        simp [List.find?_append, hfound, hinput, hfirst.1]
    · next hlater =>
        refine stage.rebound rfl rfl
          ⟨stage.bound.bindings, houtputs, ?_, stage.bound.allocated⟩
        rw [hfound, List.find?_append]
        cases hseen : seen.find? fun entry => entry.1.isInput &&
            (cfg.inputName.isEmpty || cfg.inputName == entry.1.name) with
        | some first => rfl
        | none =>
            have hother : (cfg.inputName.isEmpty ||
                cfg.inputName == entry.1.name) = false := by
              simpa [hfound, hseen] using hlater
            simp [hother]
  · intro houtput
    apply Exceptional.Triple.bind _
      (check_stage usable_nil (load_throws fun _ => rfl))
    intro _
    apply Exceptional.Triple.update
    intro worker stage
    refine stage.rebound ?_ ?_
      ⟨stage.bound.bindings, ?_, ?_, stage.bound.allocated⟩
    · rfl
    · rfl
    · rw [stage.bound.outputs, List.map_append, List.filter_append,
        List.map_singleton, List.filter_cons_of_pos (by simpa using houtput),
        List.filter_nil]
    · simp [stage.bound.inputIdx, List.find?_append, houtput]

theorem Binding.indexing {bound : Bound}
    (binding : Binding cfg.toInferConfig cfg.tensors [] bound) :
    Indexing cfg [] bound where
  bindings := binding.bindings
  outputs := binding.outputs
  inputIdx := binding.inputIdx
  allocated := by
    rw [binding.allocated, binding.bindings, List.append_nil]

theorem Indexing.allocateBindings_eq {bound : Bound}
    (indexing : Indexing cfg bound.bindings.zipIdx bound) :
    allocateBindings cfg.toInferConfig cfg.inputName cfg.tensors =
      match bound.inputIdx with
      | none => .error "engine has no input tensor"
      | some inputIdx => .ok
          ⟨bound.bindings, bound.outputs, inputIdx, bound.allocated⟩ := by
  have hinputIdx : bound.inputIdx = bound.bindings.findIdx? fun binding =>
      binding.isInput &&
        (cfg.inputName.isEmpty || cfg.inputName == binding.name) := by
    rw [indexing.inputIdx, List.findIdx?_eq_fst_find?_zipIdx]
  have houtputs : bound.outputs =
      bound.bindings.filter fun binding => !binding.isInput := by
    rw [indexing.outputs, List.zipIdx_map_fst]
  unfold allocateBindings
  rw [hinputIdx, houtputs, indexing.allocated, indexing.bindings]
  rfl

theorem allocateBindings_stage (context : .context ∈ present)
    (engine : .engine ∈ present) :
    Exceptional.Triple
      (Stage quiet [] present absent (Binding cfg.toInferConfig [] []))
      (TrtEngine.allocateBindings cfg)
      (fun _ => Stage quiet [] present absent (Loads cfg))
      (LoadThrown quiet cfg) := by
  have hengine : ([.engine] : List Member) ⊆ present := by
    simpa using engine
  apply Exceptional.Triple.bind _ (invoke_stage (usable_members _ hengine))
  intro _
  apply Exceptional.Triple.bind _
    (check_stage usable_nil (load_throws fun _ => rfl))
  intro _
  apply Exceptional.Triple.bind fun _ =>
    Stage quiet [] present absent (Binding cfg.toInferConfig cfg.tensors [])
  · exact Exceptional.Triple.forEach_done
      (fun done => Stage quiet [] present absent
        (Binding cfg.toInferConfig done []))
      (fun done tensor => bindTensor_stage tensor context) cfg.tensors
  intro _
  apply Exceptional.Triple.bind fun bindings worker =>
    bindings = boundTensors cfg.toInferConfig cfg.tensors ∧
      Stage quiet [] present absent (Indexing cfg []) worker
  · apply Exceptional.Triple.observe
    intro worker stage
    exact ⟨stage.bound.bindings,
      stage.rebound rfl rfl stage.bound.indexing⟩
  intro bindings
  apply Exceptional.Triple.assume
  rintro rfl
  apply Exceptional.Triple.bind fun _ => Stage quiet [] present absent
    (Indexing cfg (boundTensors cfg.toInferConfig cfg.tensors).zipIdx)
  · exact Exceptional.Triple.forEach_done
      (fun seen => Stage quiet [] present absent (Indexing cfg seen))
      (fun seen entry => indexBinding_stage entry) _
  intro _
  apply Exceptional.Triple.bind fun inputIdx worker =>
    Stage quiet [] present absent (Indexing cfg worker.bound.bindings.zipIdx)
      worker ∧ worker.bound.inputIdx = inputIdx
  · apply Exceptional.Triple.observe
    intro worker stage
    rw [stage.bound.bindings]
    exact ⟨stage, rfl⟩
  intro inputIdx
  cases inputIdx with
  | none =>
      apply Exceptional.Triple.fail
      rintro worker ⟨stage, hnone⟩
      refine ⟨?_, stage.thrown rfl⟩
      rintro _ _ ⟨engine, hallocated, _⟩
      have heq := stage.bound.allocateBindings_eq
      rw [hnone, hallocated] at heq
      cases heq
  | some inputIdx =>
      apply Exceptional.Triple.pure
      rintro worker ⟨stage, hsome⟩
      have heq := stage.bound.allocateBindings_eq
      rw [hsome] at heq
      refine stage.rebound rfl rfl ⟨_, heq, ?_⟩
      unfold TrtEngine.bound
      rw [← hsome]

theorem load_stage :
    Exceptional.Triple
      (Stage quiet [] [] (engineMembers.reverse ++ otherMembers)
        (Binding cfg.toInferConfig [] []))
      (TrtEngine.load cfg)
      (fun _ => Stage quiet [] engineMembers otherMembers (Loads cfg))
      (LoadThrown quiet cfg) := by
  apply Exceptional.Triple.bind _
    (check_stage usable_nil (load_throws fun _ => rfl))
  intro _
  apply Exceptional.Triple.bind _
    (check_stage usable_nil (load_throws fun _ => rfl))
  intro _
  apply Exceptional.Triple.bind _
    (check_stage usable_nil (load_throws fun _ => rfl))
  intro _
  apply Exceptional.Triple.bind _
    (check_stage usable_nil (load_throws fun _ => rfl))
  intro _
  apply Exceptional.Triple.bind _ (make_stage usable_nil List.not_mem_nil
    (by decide) (load_throws fun _ => rfl))
  intro _
  apply Exceptional.Triple.bind _ (make_stage
    (usable_members [.runtime] (by decide)) List.not_mem_nil
    (by decide) (load_throws fun _ => rfl))
  intro _
  apply Exceptional.Triple.bind _ (make_stage
    (usable_members [.engine] (by decide)) List.not_mem_nil
    (by decide) (load_throws fun _ => rfl))
  intro _
  apply Exceptional.Triple.bind _ (make_stage usable_nil List.not_mem_nil
    (by decide) (load_throws fun _ => rfl))
  intro _
  apply Exceptional.Triple.bind _ (make_stage usable_nil List.not_mem_nil
    (by decide) (load_throws fun _ => rfl))
  intro _
  apply Exceptional.Triple.bind _ (make_stage usable_nil List.not_mem_nil
    (by decide) (load_throws fun _ => rfl))
  intro _
  exact allocateBindings_stage (by decide) (by decide)

theorem launch_stage (script : List Reply)
    (answered : quiet → ∀ reply ∈ script, reply.ok) :
    Stage quiet [] [] (engineMembers.reverse ++ otherMembers)
      (Binding cfg.toInferConfig [] []) (Worker.launch script) where
  answered := answered
  sound := Handles.sound_empty
  numbered _ member := absurd member List.not_mem_nil
  has _ member := absurd member List.not_mem_nil
  lacks _ _ := List.not_mem_nil
  bound := ⟨rfl, rfl, rfl, rfl⟩

/-- The engine that `load` leaves is the one that `allocateBindings` computes
from its tensors.  With all calls succeeding `load` throws exactly when none of
them is an input of the configured name. -/
theorem load_allocates (cfg : EngineConfig) (script : List Reply) :
    let outcome := TrtEngine.load cfg (Worker.launch script)
    (outcome.1 = .ok () → Loads cfg outcome.2.bound) ∧
      ((∀ reply ∈ script, reply.ok) →
        (outcome.1 = .ok () ↔ ∃ tensor ∈ cfg.tensors,
          tensor.isInput = true ∧
            (cfg.inputName = "" ∨ cfg.inputName = tensor.name))) := by
  intro outcome
  have loads : outcome.1 = .ok () → Loads cfg outcome.2.bound := by
    intro returned
    have houtcome := load_stage.outcome
      (@launch_stage False cfg script False.elim)
    change (TrtEngine.load cfg (Worker.launch script)).1 = _ at returned
    rw [returned] at houtcome
    exact houtcome.bound
  refine ⟨loads, ?_⟩
  intro answered
  rw [← allocateBindings_ok_iff cfg.toInferConfig]
  constructor
  · intro returned
    obtain ⟨engine, hallocated, _⟩ := loads returned
    exact ⟨engine, hallocated⟩
  · rintro ⟨engine, hallocated⟩
    have houtcome := load_stage.outcome
      (@launch_stage (∀ reply ∈ script, reply.ok) cfg script id)
    change (TrtEngine.load cfg (Worker.launch script)).1 = _
    cases hreturned : (TrtEngine.load cfg (Worker.launch script)).1 with
    | ok _ => rfl
    | error failure =>
        rw [hreturned] at houtcome
        exact absurd ⟨engine, hallocated, rfl⟩ (houtcome.1 answered _)

end Load

/-! The destructors. -/

section Destructors

variable {quiet : Prop} {locals : List Held}
variable {present absent : List Member} {worker : Worker}
variable {thrown : Failure → Worker → Prop}

theorem madeFrom_device (other : Held) (n : Nat) :
    madeFrom other (.device n) = false := by
  cases other with
  | member member => cases member <;> rfl
  | _ => rfl

def Worker.withBindings (bindings : List BoundTensor) (worker : Worker) :
    Worker :=
  { worker with bound := { worker.bound with bindings } }

theorem Stage.freeDevice {sizes : List UInt64 → Prop} {binding : BoundTensor}
    {rest : List BoundTensor}
    (stage : Stage quiet locals present absent
      (fun bound => sizes bound.allocated)
      (worker.withBindings (binding :: rest))) :
    Stage quiet locals present absent (fun bound => sizes bound.allocated)
      ((worker.free (.device binding.device)).withBindings rest) := by
  have hsplit : (locals ++ (worker.withBindings (binding :: rest)).owned).Perm
      (.device binding.device ::
        (locals ++ (worker.withBindings rest).owned)) :=
    (List.perm_middle.append_left locals).trans List.perm_middle
  constructor
  · exact stage.answered
  · exact (stage.sound.perm hsplit).free
      (fun other _ => madeFrom_device other _) (madeFrom_device _ _)
  · intro n hn
    exact stage.numbered n
      (hsplit.mem_iff.mpr (List.mem_cons_of_mem _ hn))
  · exact stage.has
  · exact stage.lacks
  · exact stage.bound

theorem freeDevices_stage {sizes : List UInt64 → Prop} :
    Exceptional.Triple
      (Stage quiet locals present absent fun bound => sizes bound.allocated)
      TrtEngine.freeDevices
      (fun _ => Stage quiet locals present absent fun bound =>
        bound.bindings = [] ∧ sizes bound.allocated) thrown := by
  apply Exceptional.Triple.bind fun bindings (worker : Worker) =>
    Stage quiet locals present absent (fun bound => sizes bound.allocated)
      (worker.withBindings bindings)
  · exact Exceptional.Triple.observe fun _ stage => stage
  intro bindings
  apply Exceptional.Triple.bind fun _ (worker : Worker) =>
    Stage quiet locals present absent (fun bound => sizes bound.allocated)
      (worker.withBindings [])
  · exact @Exceptional.Triple.forEach _ _ _ _
      (fun rest (worker : Worker) => Stage quiet locals present absent
        (fun bound => sizes bound.allocated) (worker.withBindings rest)) _
      (fun _ _ => Exceptional.Triple.update fun _ stage => stage.freeDevice)
      bindings
  intro _
  apply Exceptional.Triple.update
  intro worker stage
  exact
    { answered := stage.answered
      sound := stage.sound
      numbered := stage.numbered
      has := stage.has
      lacks := stage.lacks
      bound := ⟨rfl, stage.bound⟩ }

theorem made_cases {other : Held} {member : Member}
    (made : madeFrom other (.member member) = true) :
    (member = .runtime ∧ other = .member .engine) ∨
      (member = .engine ∧ other = .member .context) := by
  unfold madeFrom at made
  split at made
  · next hsame =>
      cases hsame
      exact Or.inl ⟨rfl, rfl⟩
  · next hsame =>
      cases hsame
      exact Or.inr ⟨rfl, rfl⟩
  · next hsame => cases hsame
  · cases made

theorem reset_leaf {fact : Bound → Prop} (member : Member)
    (notRuntime : member ≠ .runtime) (notEngine : member ≠ .engine) :
    Exceptional.Triple (Stage quiet locals [] absent fact) (reset member)
      (fun _ => Stage quiet locals [] (member :: absent) fact) thrown := by
  apply reset_stage (List.Subset.refl _) List.not_mem_nil
  intro other made
  rcases made_cases made with ⟨hsame, _⟩ | ⟨hsame, _⟩
  · exact absurd hsame notRuntime
  · exact absurd hsame notEngine

theorem reset_engine {fact : Bound → Prop}
    (unheld : .member .context ∉ locals) :
    Exceptional.Triple (Stage quiet locals [] (.context :: absent) fact)
      (reset .engine)
      (fun _ => Stage quiet locals [] (.engine :: .context :: absent) fact)
      thrown := by
  apply reset_stage (List.Subset.refl _) List.not_mem_nil
  intro other made
  rcases made_cases made with ⟨hsame, _⟩ | ⟨_, rfl⟩
  · cases hsame
  · exact ⟨unheld, .context, List.mem_cons_self, rfl⟩

theorem reset_runtime {fact : Bound → Prop}
    (unheld : .member .engine ∉ locals) :
    Exceptional.Triple (Stage quiet locals [] (.engine :: absent) fact)
      (reset .runtime)
      (fun _ => Stage quiet locals [] (.runtime :: .engine :: absent) fact)
      thrown := by
  apply reset_stage (List.Subset.refl _) List.not_mem_nil
  intro other made
  rcases made_cases made with ⟨_, rfl⟩ | ⟨hsame, _⟩
  · exact ⟨unheld, .engine, List.mem_cons_self, rfl⟩
  · cases hsame

theorem destruct_stage {sizes : List UInt64 → Prop}
    (memberless : ∀ member, .member member ∉ locals) :
    Exceptional.Triple
      (Stage quiet locals [] absent fun bound => sizes bound.allocated)
      TrtEngine.destruct
      (fun _ => Stage quiet locals []
        ([.runtime, .engine, .context, .stream, .evStop, .evStart] ++ absent)
        fun bound => bound.bindings = [] ∧ sizes bound.allocated)
      thrown := by
  apply Exceptional.Triple.bind _ freeDevices_stage
  intro _
  apply Exceptional.Triple.bind _ (reset_leaf .evStart (by decide) (by decide))
  intro _
  apply Exceptional.Triple.bind _ (reset_leaf .evStop (by decide) (by decide))
  intro _
  apply Exceptional.Triple.bind _ (reset_leaf .stream (by decide) (by decide))
  intro _
  apply Exceptional.Triple.bind _ (reset_leaf .context (by decide) (by decide))
  intro _
  apply Exceptional.Triple.bind _ (reset_engine (memberless _))
  intro _
  exact reset_runtime (memberless _)

theorem stop_stage {fact : Bound → Prop} :
    Exceptional.Triple (Stage quiet locals [] absent fact) GstSource.stop
      (fun _ => Stage quiet locals [] (.pipeline :: .appsink :: absent) fact)
      thrown := by
  apply Exceptional.Triple.bind _ (reset_leaf .appsink (by decide) (by decide))
  intro _
  apply Exceptional.Triple.bind fun _ =>
    Stage quiet locals [] (.appsink :: absent) fact
  · apply Exceptional.Triple.update
    intro worker stage
    split
    · next hplaying =>
        have hpresent : Stage quiet locals [.pipeline] (.appsink :: absent)
            fact worker :=
          { answered := stage.answered
            sound := stage.sound
            numbered := stage.numbered
            has := by simpa using hplaying
            lacks := stage.lacks
            bound := stage.bound }
        exact (hpresent.use (usable_members [.pipeline] (by decide))).weaken
          (List.nil_subset _) (List.Subset.refl _)
    · exact stage
  intro _
  exact reset_leaf .pipeline (by decide) (by decide)

/-- What the scope leaves behind it. -/
theorem leaveScope_settles {sizes : List UInt64 → Prop}
    (memberless : ∀ member, .member member ∉ locals) :
    Exceptional.Triple
      (Stage quiet locals [] [] fun bound => sizes bound.allocated) leaveScope
      (fun _ worker => worker.handles.Sound locals ∧
        sizes worker.bound.allocated) thrown := by
  apply Exceptional.Triple.bind _ (reset_leaf .can (by decide) (by decide))
  intro _
  apply Exceptional.Triple.bind _ (destruct_stage memberless)
  intro _
  apply stop_stage.weaken (fun _ stage => stage)
  · intro _ worker stage
    have hmembers : worker.members = [] := by
      apply List.eq_nil_iff_forall_not_mem.mpr
      intro member
      apply stage.lacks
      cases member <;> decide
    have howned : worker.owned = [] := by
      simp [Worker.owned, Worker.devices, hmembers, stage.bound.1]
    have hsound := stage.sound
    rw [howned, List.append_nil] at hsound
    exact ⟨hsound, stage.bound.2⟩
  · exact fun _ _ holds => holds

end Destructors

/-! Between `load` and the destructors. -/

section Body

variable {quiet : Prop} {locals : List Held}
variable {present absent : List Member} {fact : Bound → Prop}
variable {thrown : Failure → Worker → Prop} {worker : Worker}

theorem openCan_stage :
    Exceptional.Triple (Stage quiet [] engineMembers otherMembers fact) openCan
      (fun _ => Stage quiet [] engineMembers [.pipeline, .appsink] fact)
      thrown := by
  have hreset : Exceptional.Triple
      (Stage quiet [] (.can :: engineMembers) [.pipeline, .appsink] fact)
      (reset .can)
      (fun _ => Stage quiet [] engineMembers [.pipeline, .appsink] fact)
      thrown := by
    apply (@reset_stage quiet [] (.can :: engineMembers)
      [.pipeline, .appsink] fact thrown .can engineMembers
      (by decide) (by decide) ?_).weaken (fun _ stage => stage)
    · exact fun _ _ stage => stage.weaken (List.Subset.refl _) (by decide)
    · exact fun _ _ holds => holds
    · intro other made
      rcases made_cases made with ⟨hsame, _⟩ | ⟨hsame, _⟩
      · cases hsame
      · cases hsame
  apply Exceptional.Triple.bind _ (invoke_stage usable_nil)
  intro _
  apply Exceptional.Triple.ite
  · intro _
    apply Exceptional.Triple.bind _ (set_stage List.not_mem_nil (by decide))
    intro _
    apply Exceptional.Triple.bind _
      (invoke_stage (usable_members [.can] (by decide)))
    intro _
    apply Exceptional.Triple.ite
    · intro _
      apply Exceptional.Triple.bind _
        (invoke_stage (usable_members [.can] (by decide)))
      intro _
      apply Exceptional.Triple.ite
      · intro _
        exact Exceptional.Triple.pure fun _ stage =>
          stage.weaken (by decide) (List.Subset.refl _)
      · exact fun _ => hreset
    · exact fun _ => hreset
  · intro _
    exact Exceptional.Triple.pure fun _ stage =>
      stage.weaken (List.Subset.refl _) (by decide)

theorem connect_stage (settings : Settings) :
    Exceptional.Triple (Stage quiet [] engineMembers otherMembers fact)
      (connect settings)
      (fun _ => Stage quiet [] engineMembers [.pipeline, .appsink] fact)
      thrown := by
  apply Exceptional.Triple.ite
  · intro _
    exact openCan_stage
  · intro _
    exact Exceptional.Triple.pure fun _ stage =>
      stage.weaken (List.Subset.refl _) (by decide)

/-- The error that a call to `gst_parse_launch` leaves to its caller. -/
def gerrorOf (reply : Reply) : List Held :=
  if reply.err then [.gerror] else []

theorem gerror_fresh : .gerror ∉ [] ++ worker.owned := by
  rw [List.nil_append, Worker.mem_owned]
  rintro (⟨_, _, hsame⟩ | ⟨_, _, hsame⟩)
  · cases hsame
  · cases hsame

theorem madeFrom_gerror (other : Held) : madeFrom other .gerror = false := by
  cases other with
  | member member => cases member <;> rfl
  | _ => rfl

theorem parseLaunch_stage :
    Exceptional.Triple
      (Stage quiet [] present [.pipeline, .appsink] fact)
      GstSource.parseLaunch
      (fun reply => Stage quiet (gerrorOf reply)
        (if reply.ok then .pipeline :: present else present) [.appsink] fact)
      thrown := by
  apply Exceptional.Triple.bind _ (invoke_stage usable_nil)
  intro reply
  apply Exceptional.Triple.bind fun _ => Stage quiet []
    (if reply.ok then .pipeline :: present else present) [.appsink] fact
  · apply Exceptional.Triple.update
    intro worker stage
    cases reply.ok with
    | true => exact stage.set List.not_mem_nil (by decide)
    | false => exact stage.weaken (List.Subset.refl _) (by decide)
  intro _
  apply Exceptional.Triple.bind fun _ => Stage quiet (gerrorOf reply)
    (if reply.ok then .pipeline :: present else present) [.appsink] fact
  · apply Exceptional.Triple.update
    intro worker stage
    unfold gerrorOf
    cases reply.err with
    | true => exact stage.acquire gerror_fresh (by simp)
    | false => exact stage
  intro _
  exact Exceptional.Triple.pure fun _ stage => stage

theorem start_stage :
    Exceptional.Triple
      (Stage quiet [] present [.pipeline, .appsink] fact) GstSource.start
      (fun _ => Stage quiet [] (.appsink :: .pipeline :: present) [] fact)
      Thrown := by
  apply Exceptional.Triple.bind _ parseLaunch_stage
  intro reply
  apply Exceptional.Triple.ite
  · rintro ⟨hok, herr⟩
    unfold gerrorOf
    rw [if_neg herr, if_pos hok]
    apply Exceptional.Triple.bind _ (make_stage
      (usable_members [.pipeline] (by simp)) List.not_mem_nil
      List.not_mem_nil fun _ _ _ stage => stage.thrown rfl)
    intro _
    apply Exceptional.Triple.bind _
      (use_stage (usable_members [.appsink] (by simp)))
    intro _
    exact check_stage (usable_members [.pipeline] (by simp))
      fun _ _ _ stage => stage.thrown rfl
  · intro _
    apply Exceptional.Triple.bind fun _ => Stage quiet [] [] [] fact
    · apply Exceptional.Triple.update
      intro worker stage
      unfold gerrorOf at stage
      have hplain := stage.weaken (List.nil_subset _) (List.nil_subset _)
      split
      · next herr =>
          rw [if_pos herr] at hplain
          exact hplain.free (fun other _ => madeFrom_gerror other)
            (madeFrom_gerror _)
      · next herr =>
          rw [if_neg herr] at hplain
          exact hplain
    intro _
    exact Exceptional.Triple.fail fun _ stage => stage.thrown rfl

/-! A frame and its turn. -/

def Frame.held (frame : Frame) : List Held :=
  frame.sample.elim [] fun sample =>
    (if sample.maps then [.mapping sample] else []) ++ [.sample sample]

theorem sample_fresh (sample : GstSample) :
    .sample sample ∉ [] ++ worker.owned := by
  rw [List.nil_append, Worker.mem_owned]
  rintro (⟨_, _, hsame⟩ | ⟨_, _, hsame⟩)
  · cases hsame
  · cases hsame

theorem mapping_fresh (sample other : GstSample) :
    .mapping sample ∉ [.sample other] ++ worker.owned := by
  rw [List.mem_append, Worker.mem_owned]
  rintro (hsame | ⟨_, _, hsame⟩ | ⟨_, _, hsame⟩)
  · cases List.mem_singleton.mp hsame
  · cases hsame
  · cases hsame

theorem Stage.opened {nowMonoNs : UInt64} {sample : GstSample}
    (stage : Stage quiet [] present absent fact worker) :
    Stage quiet (Frame.ofSample nowMonoNs sample).1.held present absent fact
      ((Frame.ofSample nowMonoNs sample).2.foldl Worker.gst
        (worker.acquire (.sample sample))) := by
  obtain ⟨hsample, _, hcalls⟩ := Frame.ofSample_spec nowMonoNs sample
  have hheld := stage.acquire (sample_fresh sample) (by simp)
  rw [hcalls]
  unfold Frame.held GstSample.opening
  rw [hsample]
  cases hmaps : sample.maps with
  | true =>
      simpa [hmaps, Worker.gst] using
        hheld.acquire (mapping_fresh sample sample) (by simp)
  | false => simpa [hmaps] using hheld

theorem madeFrom_sample {other : Held} {sample : GstSample}
    (unmapped : other ≠ .mapping sample) :
    madeFrom other (.sample sample) = false := by
  cases other with
  | mapping mapped =>
      have hother : mapped ≠ sample := fun hsame => unmapped (hsame ▸ rfl)
      simpa [madeFrom] using hother
  | member member => cases member <;> rfl
  | _ => rfl

theorem madeFrom_mapping (other : Held) (sample : GstSample) :
    madeFrom other (.mapping sample) = false := by
  cases other with
  | member member => cases member <;> rfl
  | _ => rfl

theorem Stage.unref {sample : GstSample}
    (stage : Stage quiet [.sample sample] present absent fact worker) :
    Stage quiet [] present absent fact (worker.free (.sample sample)) := by
  apply stage.free
  · intro other hother
    apply madeFrom_sample
    rintro rfl
    exact mapping_fresh sample sample (List.mem_append_right _ hother)
  · rfl

theorem Stage.closed {frame : Frame} (sound : frame.Sound)
    (stage : Stage quiet frame.held present absent fact worker) :
    Stage quiet [] present absent fact
      (frame.release.2.foldl Worker.gst worker) := by
  rw [Frame.release_calls sound]
  unfold Frame.held at stage
  cases hsample : frame.sample with
  | none =>
      rw [hsample] at stage
      exact stage
  | some sample =>
      rw [hsample] at stage
      change Stage quiet ((if sample.maps then [.mapping sample] else []) ++
        [.sample sample]) present absent fact worker at stage
      change Stage quiet [] present absent fact
        (sample.closing.foldl Worker.gst worker)
      unfold GstSample.closing
      cases hmaps : sample.maps with
      | true =>
          rw [if_pos hmaps] at stage
          have hunmapped := stage.free
            (fun other _ => madeFrom_mapping other sample)
            (madeFrom_mapping _ sample)
          exact hunmapped.unref
      | false =>
          rw [if_neg (by simp [hmaps])] at stage
          exact stage.unref

theorem next_stage (appsink : .appsink ∈ present) :
    Exceptional.Triple (Stage quiet [] present absent fact) GstSource.next
      (fun frame worker => frame.Sound ∧
        Stage quiet frame.held present absent fact worker) thrown := by
  have happsink : ([.appsink] : List Member) ⊆ present := by
    simpa using appsink
  apply Exceptional.Triple.bind fun _ =>
    Stage quiet [] present absent fact
  · exact Exceptional.Triple.observe fun _ stage => stage
  intro members
  apply Exceptional.Triple.ite
  · intro _
    apply Exceptional.Triple.bind _ (invoke_stage (usable_members _ happsink))
    intro reply
    cases reply.sample with
    | none =>
        exact Exceptional.Triple.pure fun _ stage => ⟨Frame.empty_sound, stage⟩
    | some sample =>
        apply Exceptional.Triple.bind fun _ => Stage quiet
          (Frame.ofSample reply.nowMonoNs sample).1.held present absent fact
        · exact Exceptional.Triple.update fun _ stage => stage.opened
        intro _
        exact Exceptional.Triple.pure fun _ stage =>
          ⟨(Frame.ofSample_spec _ sample).2.1, stage⟩
  · intro _
    exact Exceptional.Triple.pure fun _ stage => ⟨Frame.empty_sound, stage⟩

/-- An exception of a turn, while it holds its frame. -/
def Plain (quiet : Prop) (locals : List Held) (present absent : List Member)
    (fact : Bound → Prop) (failure : Failure) (worker : Worker) : Prop :=
  failure.strands = false ∧ Stage quiet locals present absent fact worker

section Engine

variable {engine : TrtEngine} {input : BoundTensor}

theorem usable_device {binding : BoundTensor}
    (bound : binding ∈ engine.bindings) :
    Usable locals present (· = engine.bound) [.device binding.device] := by
  intro resource hresource
  rw [List.mem_singleton] at hresource
  right
  right
  rintro _ rfl
  exact ⟨binding, bound, hresource.symm⟩

theorem Usable.append {first second : List Held}
    (left : Usable locals present fact first)
    (right : Usable locals present fact second) :
    Usable locals present fact (first ++ second) := by
  intro resource hresource
  rcases List.mem_append.mp hresource with hfirst | hsecond
  · exact left resource hfirst
  · exact right resource hsecond

theorem usable_devices :
    Usable locals present (· = engine.bound)
      (engine.bindings.map fun binding => .device binding.device) := by
  intro resource hresource
  obtain ⟨binding, hbinding, rfl⟩ := List.mem_map.mp hresource
  exact usable_device hbinding _ List.mem_cons_self

theorem cudaCheck_plain {uses : List Held} {call : String}
    (usable : Usable locals present fact uses) :
    Exceptional.Triple (Stage quiet locals present absent fact)
      (cudaCheck uses call) (fun _ => Stage quiet locals present absent fact)
      (Plain quiet locals present absent fact) :=
  check_stage usable fun _ _ _ stage => ⟨rfl, stage⟩

theorem Loaded.copied (loaded : Loaded engine input) :
    ∀ copy ∈ engine.outputs.mapIdx fun k output =>
      (⟨k, output.device, output.bytes⟩ : OutputCopy),
      ∃ binding ∈ engine.bindings, binding.device = copy.device := by
  intro copy hcopy
  obtain ⟨k, hk, rfl⟩ := List.mem_mapIdx.mp hcopy
  have hsubset : ∀ output ∈ engine.outputs, output ∈ engine.bindings := by
    rw [loaded.outputs]
    intro output houtput
    exact (List.mem_filter.mp houtput).1
  exact ⟨engine.outputs[k], hsubset _ (List.getElem_mem hk), rfl⟩

theorem copyBack_stage {copies : List OutputCopy}
    (stream : Usable locals present (· = engine.bound) [.member .stream])
    (bound : ∀ copy ∈ copies,
      ∃ binding ∈ engine.bindings, binding.device = copy.device) :
    Exceptional.Triple
      (Stage quiet locals present absent (· = engine.bound))
      (Exceptional.forEach (fun copy : OutputCopy =>
        cudaCheck [.device copy.device, .member .stream] "D2H output") copies)
      (fun _ => Stage quiet locals present absent (· = engine.bound))
      (Plain quiet locals present absent (· = engine.bound)) := by
  induction copies with
  | nil => exact Exceptional.Triple.pure fun _ stage => stage
  | cons copy rest induction =>
      obtain ⟨binding, hbinding, hdevice⟩ := bound copy List.mem_cons_self
      have hcopy := (@usable_device locals present _ _ hbinding).append stream
      rw [hdevice] at hcopy
      apply Exceptional.Triple.bind _ (cudaCheck_plain hcopy)
      intro _
      exact induction fun other hother =>
        bound other (List.mem_cons_of_mem _ hother)

theorem infer_stage (loaded : Loaded engine input)
    (equipped : engineMembers ⊆ present) (inputElems : UInt64) :
    Exceptional.Triple
      (Stage quiet locals present absent (· = engine.bound))
      (TrtEngine.infer inputElems)
      (fun _ => Stage quiet locals present absent (· = engine.bound))
      (Plain quiet locals present absent (· = engine.bound)) := by
  have husable (members : List Member) (known : members ⊆ engineMembers) :
      Usable locals present (· = engine.bound) (members.map .member) :=
    usable_members members fun _ member => equipped (known member)
  apply Exceptional.Triple.bind fun outcome worker =>
    outcome = Detector.infer engine inputElems ∧
      Stage quiet locals present absent (· = engine.bound) worker
  · apply Exceptional.Triple.observe
    intro worker stage
    rw [stage.bound]
    exact ⟨rfl, stage⟩
  intro outcome
  apply Exceptional.Triple.assume
  rintro rfl
  rw [loaded.infer_eq]
  by_cases hsmall : inputElems < input.bytes / 4
  · rw [if_pos hsmall]
    exact Exceptional.Triple.fail fun _ stage => ⟨rfl, stage⟩
  · rw [if_neg hsmall]
    apply Exceptional.Triple.bind _ (cudaCheck_plain
      ((usable_device (List.mem_of_getElem? loaded.input)).append
        (husable [.stream] (by decide))))
    intro _
    apply Exceptional.Triple.bind _
      (cudaCheck_plain (husable [.evStart, .stream] (by decide)))
    intro _
    apply Exceptional.Triple.bind fun devices worker =>
      devices = engine.bindings.map (fun binding => .device binding.device) ∧
        Stage quiet locals present absent (· = engine.bound) worker
    · apply Exceptional.Triple.observe
      intro worker stage
      refine ⟨?_, stage⟩
      unfold Worker.devices
      rw [stage.bound]
      rfl
    intro devices
    apply Exceptional.Triple.assume
    rintro rfl
    apply Exceptional.Triple.bind _ (check_stage
      ((husable [.context, .stream] (by decide)).append usable_devices)
      fun _ _ _ stage => ⟨rfl, stage⟩)
    intro _
    apply Exceptional.Triple.bind _
      (cudaCheck_plain (husable [.evStop, .stream] (by decide)))
    intro _
    apply Exceptional.Triple.bind _
      (copyBack_stage (husable [.stream] (by decide)) loaded.copied)
    intro _
    apply Exceptional.Triple.bind _
      (cudaCheck_plain (husable [.stream] (by decide)))
    intro _
    exact cudaCheck_plain (husable [.evStart, .evStop] (by decide))

theorem sendFrames_stage (can : .can ∈ present) (total : Nat) :
    Exceptional.Triple (Stage quiet locals present absent fact)
      (sendFrames total) (fun _ => Stage quiet locals present absent fact)
      thrown := by
  have hcan : ([.can] : List Member) ⊆ present := by
    simpa using can
  induction total with
  | zero => exact Exceptional.Triple.pure fun _ stage => stage
  | succ total induction =>
      apply Exceptional.Triple.bind _ (invoke_stage (usable_members _ hcan))
      intro _
      apply Exceptional.Triple.ite
      · exact fun _ => induction
      · exact fun _ => Exceptional.Triple.pure fun _ stage => stage

theorem canPublish_stage (dets : Nat) (frameW frameH : Int) :
    Exceptional.Triple (Stage quiet locals present absent fact)
      (canPublish dets frameW frameH)
      (fun _ => Stage quiet locals present absent fact) thrown := by
  apply Exceptional.Triple.bind fun members worker =>
    members = worker.members ∧ Stage quiet locals present absent fact worker
  · exact Exceptional.Triple.observe fun _ stage => ⟨rfl, stage⟩
  intro members
  apply Exceptional.Triple.ite
  · rintro ⟨hopen, _, _⟩
    apply (@sendFrames_stage quiet locals (.can :: present) absent fact thrown
      List.mem_cons_self (min dets 255)).weaken
    · rintro worker ⟨rfl, stage⟩
      exact
        { answered := stage.answered
          sound := stage.sound
          numbered := stage.numbered
          has := by
            intro member hmember
            rcases List.mem_cons.mp hmember with rfl | hmember
            · exact hopen
            · exact stage.has member hmember
          lacks := stage.lacks
          bound := stage.bound }
    · exact fun _ _ stage =>
        stage.weaken (List.subset_cons_self _ _) (List.Subset.refl _)
    · exact fun _ _ holds => holds
  · exact fun _ => Exceptional.Triple.pure fun _ holds => holds.2

theorem check_plain {uses : List Held} {failure : Reply → Failure}
    (usable : Usable locals present fact uses)
    (plain : ∀ reply, (failure reply).strands = false) :
    Exceptional.Triple (Stage quiet locals present absent fact)
      (check uses failure) (fun _ => Stage quiet locals present absent fact)
      (Plain quiet locals present absent fact) :=
  check_stage usable fun reply _ _ stage => ⟨plain reply, stage⟩

/-- A valid frame is mapped. -/
theorem usable_mapping {frame : Frame} (sound : frame.Sound)
    (valid : frame.valid) :
    Usable frame.held present fact (frame.sample.toList.map .mapping) := by
  intro resource hresource
  left
  obtain ⟨sample, hsample, rfl⟩ := List.mem_map.mp hresource
  rw [Option.mem_toList] at hsample
  have hdata : frame.data.isSome = true := by
    unfold Frame.valid at valid
    exact (Bool.and_eq_true _ _ ▸ valid).2
  have hmaps : sample.maps = true := by
    rw [Frame.Sound, hsample] at sound
    exact sound.symm.trans hdata
  simp [Frame.held, hsample, hmaps]

theorem perceive_stage (settings : Settings) (loaded : Loaded engine input)
    (equipped : engineMembers ⊆ present) {frame : Frame} (sound : frame.Sound)
    (valid : frame.valid) :
    Exceptional.Triple
      (Stage quiet frame.held present absent (· = engine.bound))
      (perceive settings frame)
      (fun _ => Stage quiet frame.held present absent (· = engine.bound))
      (Plain quiet frame.held present absent (· = engine.bound)) := by
  apply Exceptional.Triple.bind _ (check_plain usable_nil fun _ => rfl)
  intro _
  apply Exceptional.Triple.bind _ (use_stage (usable_mapping sound valid))
  intro _
  apply Exceptional.Triple.bind _ (infer_stage loaded equipped _)
  intro _
  apply Exceptional.Triple.bind _ (invoke_stage usable_nil)
  intro reply
  apply Exceptional.Triple.bind _ (check_plain usable_nil fun _ => rfl)
  intro _
  apply Exceptional.Triple.bind _ (canPublish_stage _ _ _)
  intro _
  exact check_plain usable_nil fun _ => rfl

theorem turn_stage (settings : Settings) (loaded : Loaded engine input)
    (equipped : engineMembers ⊆ present) (appsink : .appsink ∈ present) :
    Exceptional.Triple (Stage quiet [] present absent (· = engine.bound))
      (turn settings)
      (fun _ => Stage quiet [] present absent (· = engine.bound)) Thrown := by
  apply Exceptional.Triple.bind _ (next_stage appsink)
  intro frame
  apply Exceptional.Triple.assume
  intro sound
  apply Exceptional.Triple.ensuring
  · apply Exceptional.Triple.ite
    · exact perceive_stage settings loaded equipped sound
    · exact fun _ => Exceptional.Triple.pure fun _ stage => stage
  · exact fun _ => Exceptional.Triple.update fun _ stage => stage.closed sound
  · exact fun failure => Exceptional.Triple.update fun _ holds =>
      (holds.2.closed sound).thrown holds.1

end Engine

theorem body_stage (settings : Settings) (polls : List Poll) :
    Exceptional.Triple
      (Stage quiet [] [] (engineMembers.reverse ++ otherMembers)
        (Binding settings.icfg.toInferConfig [] []))
      (body settings polls)
      (fun _ => Stage False [] [] [] fun bound =>
        Lost none bound.allocated []) Thrown := by
  apply Exceptional.Triple.bind _ (load_stage.weaken (fun _ stage => stage)
    (fun _ _ stage => stage) fun _ _ thrown => thrown.2)
  intro _
  cases hengine : allocateBindings settings.icfg.toInferConfig
      settings.icfg.inputName settings.icfg.tensors with
  | error what =>
      intro worker stage
      obtain ⟨engine, hallocated, _⟩ := stage.bound
      rw [hengine] at hallocated
      cases hallocated
  | ok engine =>
      obtain ⟨input, loaded⟩ := allocateBindings_loaded hengine
      apply Exceptional.Triple.bind _ (connect_stage settings)
      intro _
      apply Exceptional.Triple.bind fun _ => Stage quiet []
        (.appsink :: .pipeline :: engineMembers) [] (· = engine.bound)
      · apply start_stage.weaken (fun _ stage => stage)
        · intro _ worker stage
          obtain ⟨other, hallocated, hbound⟩ := stage.bound
          rw [hengine] at hallocated
          cases hallocated
          exact stage.rebound rfl rfl hbound
        · exact fun _ _ thrown => thrown
      intro _
      apply Exceptional.Triple.bind fun _ => Stage quiet []
        (.appsink :: .pipeline :: engineMembers) [] (· = engine.bound)
      · apply Exceptional.Triple.whilePolling
        intro poll
        have hequipped : engineMembers ⊆
            .appsink :: .pipeline :: engineMembers := by decide
        apply (turn_stage settings loaded hequipped
          List.mem_cons_self).weaken
        · exact fun _ holds => holds.1
        · exact fun _ _ stage => stage
        · exact fun _ _ thrown => thrown
      intro _
      apply stop_stage.weaken
      · exact fun _ stage =>
          stage.weaken (List.nil_subset _) (List.nil_subset _)
      · exact fun _ _ stage => stage.loud rfl
      · exact fun _ _ thrown => thrown

theorem Lost.memberless {failure : Option Failure} {allocated : List UInt64}
    {lost : List Held} (isLost : Lost failure allocated lost)
    (member : Member) : .member member ∉ lost := by
  unfold Lost at isLost
  split at isLost
  · obtain ⟨n, rfl, _⟩ := isLost
    simp
  · rw [isLost]
    exact List.not_mem_nil

/-- What the worker leaves once its scope is left. -/
def Settles (failure : Option Failure) (worker : Worker) : Prop :=
  ∃ lost, worker.handles.Sound lost ∧
    Lost failure worker.bound.allocated lost

theorem leaveScope_stage {failure : Option Failure} {lost : List Held}
    (memberless : ∀ member, .member member ∉ lost) :
    Exceptional.Triple
      (Stage False lost [] [] fun bound => Lost failure bound.allocated lost)
      leaveScope (fun _ => Settles failure) thrown := by
  apply (@leaveScope_settles False lost thrown
    (fun allocated => Lost failure allocated lost) memberless).weaken
  · exact fun _ stage => stage
  · exact fun _ _ settled => ⟨lost, settled⟩
  · exact fun _ _ holds => holds

theorem run_settled (settings : Settings) (polls : List Poll) :
    Exceptional.Triple
      (Stage False [] [] (engineMembers.reverse ++ otherMembers)
        (Binding settings.icfg.toInferConfig [] []))
      (run settings polls) (fun logged => Settles logged)
      (fun _ _ => False) := by
  have hscope : Exceptional.Triple
      (Stage False [] [] (engineMembers.reverse ++ otherMembers)
        (Binding settings.icfg.toInferConfig [] []))
      (Exceptional.ensuring (body settings polls) leaveScope)
      (fun _ => Settles none) (fun failure => Settles (some failure)) := by
    apply Exceptional.Triple.ensuring (body_stage settings polls)
    · exact fun _ => leaveScope_stage fun _ => List.not_mem_nil
    · intro failure worker thrown
      obtain ⟨lost, stage⟩ := thrown
      exact leaveScope_stage stage.bound.memberless worker stage
  apply Exceptional.Triple.bind _ hscope.attempt
  intro outcome
  cases outcome with
  | ok _ => exact Exceptional.Triple.pure fun _ settled => settled
  | error _ => exact Exceptional.Triple.pure fun _ settled => settled

/-- Whichever calls fail, and whenever the loop is left, the worker uses no
resource that it does not hold, frees none before what was made from it, and
has freed each once when it ends.  Only an exception between the `cudaMalloc`
of a tensor and its place in `bindings_` leaves a buffer behind. -/
theorem run_settles (settings : Settings) (polls : List Poll)
    (script : List Reply) :
    let outcome := run settings polls (Worker.launch script)
    ∃ logged lost, outcome.1 = .ok logged ∧
      Lost logged outcome.2.bound.allocated lost ∧
      outcome.2.handles.Sound lost := by
  intro outcome
  obtain ⟨logged, hlogged, lost, hsound, hlost⟩ :=
    (run_settled settings polls).returns
      (@launch_stage False settings.icfg script False.elim)
      (fun _ impossible => impossible)
  exact ⟨logged, lost, hlogged, hlost, hsound⟩

/-- The first tensor is refused its address. -/
example :
    let settings : Settings := ⟨"model.engine", 4, 4, false,
      [⟨"images", true, .kFLOAT, [1, 3, -1, -1]⟩]⟩
    let script := List.replicate 14 ({} : Reply) ++ [{ ok := false }]
    let worker := (run settings [] (Worker.launch script)).2
    worker.handles.ledger.live = [.device 0] ∧
      worker.bound.allocated = [192] := by
  decide +kernel

end Body

end EmbeddedPortfolio.Detector
