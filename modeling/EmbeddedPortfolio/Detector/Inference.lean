import EmbeddedPortfolio.Detector.TensorBinding
import Mathlib.Data.List.Basic

namespace EmbeddedPortfolio.Detector

/-! The copies to and from the device that one inference makes. -/

/-- A tensor with its device buffer, which is known by the number of the
`cudaMalloc` that returned it. -/
structure BoundTensor extends TensorBinding where
  device : Nat

structure TrtEngine where
  bindings : List BoundTensor
  outputs : List BoundTensor
  inputIdx : Nat
  allocated : List UInt64

/-- With all calls to TensorRT and CUDA succeeding.  The staging buffers of
`outputs` are assigned the size they already have. -/
def allocateBindings (cfg : InferConfig) (inputName : String)
    (tensors : List IoTensor) : Except String TrtEngine :=
  let bindings : List BoundTensor := tensors.mapIdx fun i tensor =>
    { toTensorBinding := allocateBinding cfg tensor, device := i }
  match bindings.findIdx? fun binding =>
      binding.isInput && (inputName.isEmpty || inputName == binding.name) with
  | none => .error "engine has no input tensor"
  | some inputIdx => .ok {
      bindings
      outputs := bindings.filter fun binding => !binding.isInput
      inputIdx
      allocated := bindings.map fun binding => binding.bytes }

/-- From the caller's blob to the device. -/
structure InputCopy where
  device : Nat
  bytes : UInt64
deriving DecidableEq, Repr

/-- From the device to the staging buffer of an output. -/
structure OutputCopy where
  output : Nat
  device : Nat
  bytes : UInt64
deriving DecidableEq, Repr

structure Copies where
  input : InputCopy
  outputs : List OutputCopy
deriving DecidableEq, Repr

inductive Fault
  | exception (what : String)
  | undefined
deriving DecidableEq, Repr

/-- `none` when `outputs_` is indexed past its end. -/
def copyOutputs (outputs : List BoundTensor) :
    Nat → List BoundTensor → Option (List OutputCopy)
  | _, [] => some []
  | oi, binding :: bindings =>
      if binding.isInput then copyOutputs outputs oi bindings
      else do
        let _dst ← outputs[oi]?
        let later ← copyOutputs outputs (oi + 1) bindings
        some (⟨oi, binding.device, binding.bytes⟩ :: later)

def infer (engine : TrtEngine) (inputElems : UInt64) : Except Fault Copies :=
  match engine.bindings[engine.inputIdx]? with
  | none => .error .undefined
  | some input =>
      let need := input.bytes / 4
      if inputElems < need then
        .error (.exception "infer(): input blob smaller than engine input")
      else match copyOutputs engine.outputs 0 engine.bindings with
        | none => .error .undefined
        | some outputs =>
            .ok { input := ⟨input.device, input.bytes⟩, outputs }

section Loaded

/-- What `allocate_bindings` leaves behind. -/
structure Loaded (engine : TrtEngine) (input : BoundTensor) : Prop where
  input : engine.bindings[engine.inputIdx]? = some input
  outputs : engine.outputs =
    engine.bindings.filter fun binding => !binding.isInput
  placed : ∀ (i : Nat) (binding : BoundTensor),
    engine.bindings[i]? = some binding →
      binding.device = i ∧ engine.allocated[i]? = some binding.bytes

theorem allocateBindings_loaded {cfg : InferConfig} {inputName : String}
    {tensors : List IoTensor} {engine : TrtEngine}
    (allocated : allocateBindings cfg inputName tensors = .ok engine) :
    ∃ input, Loaded engine input := by
  unfold allocateBindings at allocated
  dsimp only at allocated
  have hdevice : ∀ (i : Nat) (binding : BoundTensor),
      (tensors.mapIdx fun i tensor => BoundTensor.mk
        (allocateBinding cfg tensor) i)[i]? = some binding →
      binding.device = i := by
    intro i binding hbinding
    rw [List.getElem?_mapIdx, Option.map_eq_some_iff] at hbinding
    obtain ⟨tensor, _, rfl⟩ := hbinding
    rfl
  generalize (tensors.mapIdx fun i tensor => BoundTensor.mk
    (allocateBinding cfg tensor) i) = bindings at allocated hdevice
  cases hfound : bindings.findIdx? fun binding =>
      binding.isInput && (inputName.isEmpty || inputName == binding.name) with
  | none =>
      rw [hfound] at allocated
      cases allocated
  | some inputIdx =>
      rw [hfound] at allocated
      cases allocated
      obtain ⟨hinside, _⟩ := List.findIdx?_eq_some_iff_getElem.mp hfound
      refine ⟨_, List.getElem?_eq_getElem hinside, rfl, ?_⟩
      intro i binding hbinding
      exact ⟨hdevice i binding hbinding,
        by rw [List.getElem?_map, hbinding, Option.map_some]⟩

theorem allocateBindings_ok_iff (cfg : InferConfig) (inputName : String)
    (tensors : List IoTensor) :
    (∃ engine, allocateBindings cfg inputName tensors = .ok engine) ↔
      ∃ tensor ∈ tensors, tensor.isInput = true ∧
        (inputName = "" ∨ inputName = tensor.name) := by
  unfold allocateBindings
  dsimp only
  split
  · next hnone =>
      rw [List.findIdx?_eq_none_iff] at hnone
      constructor
      · rintro ⟨engine, impossible⟩
        cases impossible
      · rintro ⟨tensor, htensor, hinput, hname⟩
        obtain ⟨i, hi⟩ := List.mem_iff_getElem?.mp htensor
        have hmember : BoundTensor.mk (allocateBinding cfg tensor) i ∈
            tensors.mapIdx fun i tensor =>
              BoundTensor.mk (allocateBinding cfg tensor) i := by
          apply List.mem_of_getElem? (i := i)
          rw [List.getElem?_mapIdx, hi, Option.map_some]
        have hrejected := hnone _ hmember
        simp [allocateBinding, hinput] at hrejected
        rcases hname with hempty | hsame
        · exact absurd hempty hrejected.1
        · exact absurd hsame hrejected.2
  · next inputIdx hfound =>
      refine ⟨fun _ => ?_, fun _ => ⟨_, rfl⟩⟩
      obtain ⟨hinside, hchosen, _⟩ :=
        List.findIdx?_eq_some_iff_getElem.mp hfound
      rw [List.getElem_mapIdx] at hchosen
      have hlength : inputIdx < tensors.length := by simpa using hinside
      refine ⟨tensors[inputIdx], List.getElem_mem hlength, ?_⟩
      simpa [allocateBinding] using hchosen

/-- The two vectors are walked in step. -/
theorem copyOutputs_eq {outputs : List BoundTensor} {oi : Nat}
    {bindings : List BoundTensor}
    (inStep : outputs.drop oi =
      bindings.filter fun binding => !binding.isInput) :
    copyOutputs outputs oi bindings = some
      ((bindings.filter fun binding => !binding.isInput).mapIdx
        fun k binding => ⟨oi + k, binding.device, binding.bytes⟩) := by
  induction bindings generalizing oi with
  | nil => rfl
  | cons binding bindings induction =>
      rw [copyOutputs]
      cases hinput : binding.isInput with
      | true =>
          rw [List.filter_cons_of_neg (by simp [hinput])] at inStep ⊢
          exact induction inStep
      | false =>
          rw [List.filter_cons_of_pos (by simp [hinput])] at inStep ⊢
          have hdst : outputs[oi]? = some binding := by
            rw [← List.head?_drop, inStep, List.head?_cons]
          have hrest : outputs.drop (oi + 1) =
              bindings.filter fun binding => !binding.isInput := by
            rw [← List.drop_drop, inStep, List.drop_succ_cons, List.drop_zero]
          simp [hdst, induction hrest, List.mapIdx_cons, Nat.add_assoc,
            Nat.add_comm 1]

variable {engine : TrtEngine} {input : BoundTensor}

theorem Loaded.infer_eq (loaded : Loaded engine input)
    (inputElems : UInt64) :
    infer engine inputElems =
      if inputElems < input.bytes / 4 then
        .error (.exception "infer(): input blob smaller than engine input")
      else .ok {
        input := ⟨input.device, input.bytes⟩
        outputs := engine.outputs.mapIdx fun k output =>
          ⟨k, output.device, output.bytes⟩ } := by
  have inStep : engine.outputs.drop 0 =
      engine.bindings.filter fun binding => !binding.isInput :=
    loaded.outputs
  have hcopies := copyOutputs_eq inStep
  simp only [Nat.zero_add] at hcopies
  rw [infer, loaded.input]
  dsimp only
  rw [hcopies, loaded.outputs]

end Loaded

/-- The copies stay in bounds, and each output receives its own tensor. -/
structure InBounds (engine : TrtEngine) (inputElems : UInt64)
    (copies : Copies) : Prop where
  reads : copies.input.bytes.toNat ≤ inputElems.toNat * 4
  writes : ∃ size, engine.allocated[copies.input.device]? = some size ∧
    copies.input.bytes ≤ size
  once : copies.outputs.map OutputCopy.output =
    List.range engine.outputs.length
  host : ∀ copy ∈ copies.outputs, ∃ dst,
    engine.outputs[copy.output]? = some dst ∧
      copy.bytes.toNat ≤ dst.hostSize.toNat * 4
  source : ∀ copy ∈ copies.outputs, ∃ dst binding,
    engine.outputs[copy.output]? = some dst ∧
      engine.bindings[copy.device]? = some binding ∧
      binding.isInput = false ∧ binding.name = dst.name ∧
      engine.allocated[copy.device]? = some copy.bytes

section Bounds

variable {engine : TrtEngine} {input : BoundTensor}

theorem bytes_le_host (binding : TensorBinding) :
    binding.bytes.toNat ≤ binding.hostSize.toNat * 4 := by
  have hbytes := binding.bytes.toNat_lt
  rw [binding.hostSize_eq, UInt64.toNat_add, UInt64.toNat_div]
  show _ ≤ (binding.bytes.toNat / 4 + 1) % 2 ^ 64 * 4
  omega

theorem Loaded.output_placed (loaded : Loaded engine input) {k : Nat}
    {output : BoundTensor} (houtput : engine.outputs[k]? = some output) :
    engine.bindings[output.device]? = some output ∧
      output.isInput = false ∧
      engine.allocated[output.device]? = some output.bytes := by
  have hmem := List.mem_of_getElem? houtput
  rw [loaded.outputs, List.mem_filter] at hmem
  obtain ⟨i, hi⟩ := List.mem_iff_getElem?.mp hmem.1
  obtain ⟨hdevice, hallocated⟩ := loaded.placed i output hi
  rw [hdevice]
  exact ⟨hi, by simpa using hmem.2, hallocated⟩

/-- All but the read of the caller's blob. -/
theorem Loaded.inBounds (loaded : Loaded engine input) {inputElems : UInt64}
    (reads : input.bytes.toNat ≤ inputElems.toNat * 4) :
    InBounds engine inputElems {
      input := ⟨input.device, input.bytes⟩
      outputs := engine.outputs.mapIdx fun k output =>
        ⟨k, output.device, output.bytes⟩ } where
  reads := reads
  writes := by
    obtain ⟨hdevice, hsize⟩ := loaded.placed engine.inputIdx input loaded.input
    refine ⟨input.bytes, ?_, UInt64.le_refl _⟩
    dsimp only
    rwa [hdevice]
  once := by
    apply List.ext_getElem?
    intro k
    rw [List.getElem?_map, List.getElem?_mapIdx, Option.map_map]
    by_cases hk : k < engine.outputs.length
    · rw [List.getElem?_range hk, List.getElem?_eq_getElem hk]
      rfl
    · rw [List.getElem?_eq_none (by omega),
        List.getElem?_eq_none (by rw [List.length_range]; omega)]
      rfl
  host := by
    intro copy hcopy
    obtain ⟨k, hk, rfl⟩ := List.mem_mapIdx.mp hcopy
    exact ⟨engine.outputs[k], List.getElem?_eq_getElem hk, bytes_le_host _⟩
  source := by
    intro copy hcopy
    obtain ⟨k, hk, rfl⟩ := List.mem_mapIdx.mp hcopy
    have houtput := List.getElem?_eq_getElem hk
    obtain ⟨hbinding, hisOutput, hsize⟩ := loaded.output_placed houtput
    exact ⟨_, _, houtput, hbinding, hisOutput, rfl, hsize⟩

theorem infer_inBounds_iff {cfg : InferConfig} {inputName : String}
    {tensors : List IoTensor} {inputElems : UInt64} {copies : Copies}
    (allocated : allocateBindings cfg inputName tensors = .ok engine)
    (accepted : infer engine inputElems = .ok copies) :
    ∃ input, engine.bindings[engine.inputIdx]? = some input ∧
      (InBounds engine inputElems copies ↔
        input.bytes.toNat % 4 = 0 ∨
          input.bytes.toNat / 4 < inputElems.toNat) := by
  obtain ⟨input, loaded⟩ := allocateBindings_loaded allocated
  refine ⟨input, loaded.input, ?_⟩
  rw [loaded.infer_eq] at accepted
  split at accepted
  · cases accepted
  · rename_i enough
    cases accepted
    rw [UInt64.not_lt, UInt64.le_iff_toNat_le, UInt64.toNat_div] at enough
    change input.bytes.toNat / 4 ≤ inputElems.toNat at enough
    constructor
    · intro inBounds
      have hreads := inBounds.reads
      dsimp only at hreads
      omega
    · intro hcondition
      exact loaded.inBounds (by omega)

/-- Seventy-five elements of two bytes, between two outputs. -/
def halfTensors : List IoTensor :=
  [⟨"boxes", false, .kFLOAT, [1, 2]⟩, ⟨"images", true, .kHALF, [1, 3, 5, 5]⟩,
    ⟨"masks", false, .kBOOL, [1, 3]⟩]

theorem infer_inBounds_iff_half :
    ∃ engine copies, allocateBindings ⟨640, 640⟩ "" halfTensors = .ok engine ∧
      infer engine 38 = .ok copies ∧
      ∃ input, engine.bindings[engine.inputIdx]? = some input ∧
        (InBounds engine 38 copies ↔
          input.bytes.toNat % 4 = 0 ∨
            input.bytes.toNat / 4 < (38 : UInt64).toNat) := by
  have allocated : allocateBindings ⟨640, 640⟩ "" halfTensors = .ok _ := rfl
  exact ⟨_, _, allocated, rfl, infer_inBounds_iff allocated rfl⟩

/-- The blob holds 148 bytes, of which the copy reads 150. -/
theorem infer_reads_past_blob :
    ¬ ∀ cfg inputName tensors engine inputElems copies,
      allocateBindings cfg inputName tensors = .ok engine →
        infer engine inputElems = .ok copies →
          InBounds engine inputElems copies := by
  intro always
  have inBounds := always ⟨640, 640⟩ "" halfTensors _ 37 _ rfl rfl
  exact absurd inBounds.reads (by decide)

end Bounds

end EmbeddedPortfolio.Detector
