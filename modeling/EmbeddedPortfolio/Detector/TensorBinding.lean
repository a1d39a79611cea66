namespace EmbeddedPortfolio.Detector

/-! How the engine sizes the buffers of its tensors. -/

inductive DataType where
  | kFLOAT
  | kHALF
  | kINT32
  | kINT8
  | kBOOL
  | other
deriving DecidableEq, Repr

structure IoTensor where
  name : String
  isInput : Bool
  dtype : DataType
  shape : List Int64

structure InferConfig where
  inputW : Int32
  inputH : Int32

def dtypeSize : DataType → UInt64
  | .kFLOAT => 4
  | .kHALF => 2
  | .kINT32 => 4
  | .kINT8 => 1
  | .kBOOL => 1
  | .other => 4

def volume (dims : List Int64) : UInt64 :=
  dims.foldl (fun v d => v * (if d < 0 then 1 else d).toUInt64) 1

/-- A bound tensor; of its staging buffer only the number of floats. -/
structure TensorBinding where
  name : String
  isInput : Bool
  dims : List Int64
  dtype : DataType
  bytes : UInt64
  hostSize : UInt64
  bytes_eq : bytes = volume dims * dtypeSize dtype
  hostSize_eq : hostSize = bytes / 4 + 1

/-- The dynamic dimensions of an input, set to the letterbox size. -/
def resolveInputDims (cfg : InferConfig) : List Int64 → List Int64
  | [batch, channels, height, width] =>
      [if batch < 0 then 1 else batch, channels,
        if height < 0 then cfg.inputH.toInt64 else height,
        if width < 0 then cfg.inputW.toInt64 else width]
  | dims => dims

/-- One turn of the loop in `allocate_bindings`, all calls succeeding. -/
def allocateBinding (cfg : InferConfig) (tensor : IoTensor) : TensorBinding :=
  let dims :=
    if tensor.isInput then resolveInputDims cfg tensor.shape else tensor.shape
  let bytes := volume dims * dtypeSize tensor.dtype
  { name := tensor.name
    isInput := tensor.isInput
    dims := dims
    dtype := tensor.dtype
    bytes := bytes
    hostSize := bytes / 4 + 1
    bytes_eq := rfl
    hostSize_eq := rfl }

/-- `rows` as `DetectorNode::run` derives it: the last dimension but one. -/
def TensorBinding.rows (binding : TensorBinding) : Int :=
  match binding.dims.reverse with
  | _ :: rows :: _ => rows.toInt32.toInt
  | _ => 0

def TensorBinding.cols (binding : TensorBinding) : Int :=
  match binding.dims.reverse with
  | cols :: _ => cols.toInt32.toInt
  | [] => 0

end EmbeddedPortfolio.Detector
