import EmbeddedPortfolio.Detector.GstFrame
import EmbeddedPortfolio.Detector.Inference
import EmbeddedPortfolio.Program.Handles
import EmbeddedPortfolio.Program.Loops

namespace EmbeddedPortfolio.Detector

open EmbeddedPortfolio.Program

/-! The worker thread of the node: what it holds of GStreamer, TensorRT, CUDA
and SocketCAN from its start to its end. -/

/-- The pointers of its objects, and the descriptor of its socket. -/
inductive Member
  | runtime
  | engine
  | context
  | stream
  | evStart
  | evStop
  | can
  | pipeline
  | appsink
deriving DecidableEq, Repr

inductive Held
  | member (member : Member)
  | gerror
  | device (n : Nat)
  | sample (sample : GstSample)
  | mapping (sample : GstSample)
deriving DecidableEq, Repr

def madeFrom : Held → Held → Bool
  | .member .engine, .member .runtime => true
  | .member .context, .member .engine => true
  | .mapping sample, .sample other => sample = other
  | _, _ => false

/-- The exceptions.  The two that leave `allocate_bindings` between the
`cudaMalloc` of a tensor and its place in `bindings_` are told apart. -/
inductive Failure
  | cuda (call error : String)
  | exception (what : String)
  | setTensorAddress (name : String)
  | staging
deriving DecidableEq, Repr

def Failure.what : Failure → String
  | .cuda call error => call ++ ": " ++ error
  | .exception what => what
  | .setTensorAddress name => "setTensorAddress failed for " ++ name
  | .staging => "std::bad_alloc"

/-- The answer to one call: whether it succeeds and the text of its error, the
`GError` it sets, the sample it pulls, the clock it reads, or how many
detections it decodes. -/
structure Reply where
  ok : Bool := true
  text : String := ""
  err : Bool := false
  sample : Option GstSample := none
  nowMonoNs : UInt64 := 0
  dets : Nat := 0

/-- The vectors of the engine, and the size of every `cudaMalloc` so far. -/
structure Bound where
  bindings : List BoundTensor
  outputs : List BoundTensor
  inputIdx : Option Nat
  allocated : List UInt64

/-- Of the pointers only which are not null. -/
structure Worker where
  script : List Reply
  handles : Handles Held
  members : List Member
  bound : Bound

/-- What `load` reads, with the tensors of the engine in the file. -/
structure EngineConfig extends InferConfig where
  enginePath : String
  inputName : String
  tensors : List IoTensor

structure Settings where
  enginePath : String
  inputW : Int32
  inputH : Int32
  publishCan : Bool
  tensors : List IoTensor

abbrev WorkerM (Value : Type) : Type :=
  Exceptional Worker Failure Value

namespace Worker

def launch (script : List Reply) : Worker where
  script := script
  handles := .empty
  members := []
  bound := ⟨[], [], none, []⟩

def use (resources : List Held) (worker : Worker) : Worker :=
  { worker with handles := worker.handles.use resources }

def acquire (resource : Held) (worker : Worker) : Worker :=
  { worker with handles := worker.handles.acquire resource }

def free (resource : Held) (worker : Worker) : Worker :=
  { worker with handles := worker.handles.free madeFrom resource }

def set (member : Member) (worker : Worker) : Worker :=
  { worker.acquire (.member member) with members := member :: worker.members }

/-- A pointer that is null stays as it is. -/
def reset (member : Member) (worker : Worker) : Worker :=
  if member ∈ worker.members then
    { worker.free (.member member) with
      members := worker.members.erase member }
  else worker

def malloc (bytes : UInt64) (worker : Worker) : Nat × Worker :=
  (worker.bound.allocated.length,
    { worker.acquire (.device worker.bound.allocated.length) with
      bound := { worker.bound with
        allocated := worker.bound.allocated ++ [bytes] } })

def gst (worker : Worker) : GstCall → Worker
  | .map sample => worker.acquire (.mapping sample)
  | .unmap sample => worker.free (.mapping sample)
  | .unref sample => worker.free (.sample sample)

def devices (worker : Worker) : List Held :=
  worker.bound.bindings.map fun binding => .device binding.device

end Worker

def invoke (uses : List Held) : WorkerM Reply :=
  Exceptional.call fun worker =>
    (worker.script.headD {},
      { worker.use uses with script := worker.script.tail })

/-- A call of which only the success matters. -/
def check (uses : List Held) (failure : Reply → Failure) : WorkerM Unit := do
  let reply ← invoke uses
  if reply.ok then pure () else Exceptional.fail (failure reply)

def cudaCheck (uses : List Held) (call : String) : WorkerM Unit :=
  check uses fun reply => .cuda call reply.text

def make (uses : List Held) (member : Member) (failure : Reply → Failure) :
    WorkerM Unit := do
  check uses failure
  Exceptional.update (Worker.set member)

def reset (member : Member) : WorkerM Unit :=
  Exceptional.update (Worker.reset member)

/-! The engine. -/

namespace TrtEngine

def setInputShape (tensor : IoTensor) : WorkerM Unit :=
  if tensor.isInput then
    check [.member .context] fun _ =>
      .exception ("setInputShape failed for " ++ tensor.name)
  else pure ()

/-- One turn of the first loop of `allocate_bindings`. -/
def bindTensor (cfg : InferConfig) (tensor : IoTensor) : WorkerM Unit := do
  let binding := allocateBinding cfg tensor
  setInputShape tensor
  cudaCheck [] "cudaMalloc binding"
  let device ← Exceptional.call (Worker.malloc binding.bytes)
  check [.member .context, .device device] fun _ =>
    .setTensorAddress tensor.name
  check [] fun _ => .staging
  Exceptional.update fun worker =>
    { worker with bound := { worker.bound with
      bindings := worker.bound.bindings ++ [⟨binding, device⟩] } }

/-- One turn of its second loop. -/
def indexBinding (inputName : String) (entry : BoundTensor × Nat) :
    WorkerM Unit :=
  if entry.1.isInput then
    Exceptional.update fun worker =>
      if (inputName.isEmpty || inputName == entry.1.name) &&
          worker.bound.inputIdx.isNone then
        { worker with bound := { worker.bound with
          inputIdx := some entry.2 } }
      else worker
  else do
    check [] fun _ => .exception "std::bad_alloc"
    Exceptional.update fun worker =>
      { worker with bound := { worker.bound with
        outputs := worker.bound.outputs ++ [entry.1] } }

def allocateBindings (cfg : EngineConfig) : WorkerM Unit := do
  let _ ← invoke [.member .engine]
  check [] fun _ => .exception "std::bad_alloc"
  Exceptional.forEach (bindTensor cfg.toInferConfig) cfg.tensors
  let bindings ← Exceptional.observe fun worker => worker.bound.bindings
  Exceptional.forEach (indexBinding cfg.inputName) bindings.zipIdx
  let inputIdx ← Exceptional.observe fun worker => worker.bound.inputIdx
  if inputIdx.isNone then
    Exceptional.fail (.exception "engine has no input tensor")
  else pure ()

/-- `blob` is taken as a vector of the file's size, the `std::bad_alloc` below.
As shipped, `std::vector<char> blob(std::size_t(n))` declares a function, and
the read into `blob.data()` does not compile. -/
def load (cfg : EngineConfig) : WorkerM Unit := do
  cudaCheck [] "cudaSetDevice"
  check [] fun _ => .exception ("cannot open engine: " ++ cfg.enginePath)
  check [] fun _ => .exception "std::bad_alloc"
  check [] fun _ => .exception "short read on engine file"
  make [] .runtime fun _ => .exception "createInferRuntime failed"
  make [.member .runtime] .engine fun _ => .exception
    "deserializeCudaEngine failed (version / arch mismatch?)"
  make [.member .engine] .context fun _ => .exception
    "createExecutionContext failed"
  make [] .stream fun reply => .cuda "cudaStreamCreate" reply.text
  make [] .evStart fun reply => .cuda "cudaEventCreate" reply.text
  make [] .evStop fun reply => .cuda "cudaEventCreate" reply.text
  allocateBindings cfg

def freeDevices : WorkerM Unit := do
  let bindings ← Exceptional.observe fun worker => worker.bound.bindings
  Exceptional.forEach
    (fun binding => Exceptional.update (Worker.free (.device binding.device)))
    bindings
  Exceptional.update fun worker =>
    { worker with bound := { worker.bound with bindings := [] } }

/-- The body of the destructor, and the destructors of the members. -/
def destruct : WorkerM Unit := do
  freeDevices
  reset .evStart
  reset .evStop
  reset .stream
  reset .context
  reset .engine
  reset .runtime

/-- The copies of an inference, as the engine stands. -/
def copies (bound : Bound) (inputElems : UInt64) : Except Fault Copies :=
  match bound.inputIdx with
  | none => .error .undefined
  | some inputIdx => Detector.infer
      { bindings := bound.bindings
        outputs := bound.outputs
        inputIdx
        allocated := bound.allocated } inputElems

def infer (inputElems : UInt64) : WorkerM Unit := do
  let outcome ← Exceptional.observe fun worker =>
    copies worker.bound inputElems
  match outcome with
  | .error .undefined =>
      Exceptional.update fun worker =>
        { worker with handles := { worker.handles with
          misuses := worker.handles.misuses + 1 } }
  | .error (.exception what) => Exceptional.fail (.exception what)
  | .ok copies => do
      cudaCheck [.device copies.input.device, .member .stream] "H2D input"
      cudaCheck [.member .evStart, .member .stream] "event start"
      let devices ← Exceptional.observe Worker.devices
      check (.member .context :: .member .stream :: devices) fun _ =>
        .exception "enqueueV3 failed"
      cudaCheck [.member .evStop, .member .stream] "event stop"
      Exceptional.forEach
        (fun copy => cudaCheck [.device copy.device, .member .stream]
          "D2H output")
        copies.outputs
      cudaCheck [.member .stream] "stream sync"
      cudaCheck [.member .evStart, .member .evStop] "event elapsed"

end TrtEngine

/-! The camera. -/

namespace GstSource

def parseLaunch : WorkerM Reply := do
  let reply ← invoke []
  Exceptional.update fun worker =>
    if reply.ok then worker.set .pipeline else worker
  Exceptional.update fun worker =>
    if reply.err then worker.acquire .gerror else worker
  pure reply

def start : WorkerM Unit := do
  let reply ← parseLaunch
  if reply.ok ∧ ¬ reply.err then do
    make [.member .pipeline] .appsink fun _ =>
      .exception "appsink 'sink' not found"
    Exceptional.update (Worker.use [.member .appsink])
    check [.member .pipeline] fun _ =>
      .exception "capture pipeline failed to reach PLAYING"
  else do
    Exceptional.update fun worker =>
      if reply.err then worker.free .gerror else worker
    Exceptional.fail (.exception ("gst_parse_launch failed: " ++
      if reply.err then reply.text else "unknown"))

def stop : WorkerM Unit := do
  reset .appsink
  Exceptional.update fun worker =>
    if .pipeline ∈ worker.members then worker.use [.member .pipeline]
    else worker
  reset .pipeline

/-- A timeout and the end of the stream both give the empty frame. -/
def next : WorkerM Frame := do
  let members ← Exceptional.observe Worker.members
  if .appsink ∈ members then do
    let reply ← invoke [.member .appsink]
    match reply.sample with
    | none => pure .empty
    | some sample => do
        let opened := Frame.ofSample reply.nowMonoNs sample
        Exceptional.update fun worker =>
          opened.2.foldl Worker.gst (worker.acquire (.sample sample))
        pure opened.1
  else pure .empty

end GstSource

def Frame.destruct (frame : Frame) : WorkerM Unit :=
  Exceptional.update fun worker => frame.release.2.foldl Worker.gst worker

/-! The socket. -/

/-- `open` and, where it fails, `can.reset()`. -/
def openCan : WorkerM Unit := do
  let reply ← invoke []
  if reply.ok then do
    Exceptional.update (Worker.set .can)
    let found ← invoke [.member .can]
    if found.ok then do
      let bound ← invoke [.member .can]
      if bound.ok then pure () else reset .can
    else reset .can
  else pure ()

/-- The frames of one call to `publish`, up to the first that fails. -/
def sendFrames : Nat → WorkerM Unit
  | 0 => pure ()
  | total + 1 => do
      let reply ← invoke [.member .can]
      if reply.ok then sendFrames total else pure ()

def canPublish (dets : Nat) (frameW frameH : Int) : WorkerM Unit := do
  let members ← Exceptional.observe Worker.members
  if .can ∈ members ∧ 0 < frameW ∧ 0 < frameH then sendFrames (min dets 255)
  else pure ()

/-! The loop. -/

def Settings.icfg (settings : Settings) : EngineConfig where
  inputW := settings.inputW
  inputH := settings.inputH
  enginePath := settings.enginePath
  inputName := ""
  tensors := settings.tensors

def connect (settings : Settings) : WorkerM Unit :=
  if settings.publishCan then openCan else pure ()

/-- The size of the blob that the letterbox assigns. -/
def Settings.blobSize (settings : Settings) : UInt64 :=
  3 * settings.inputW.toInt64.toUInt64 * settings.inputH.toInt64.toUInt64

/-- A valid frame: the letterbox, the inference, the decoding, and the two
ways to publish.  The vectors they fill and the ROS message may throw. -/
def perceive (settings : Settings) (frame : Frame) : WorkerM Unit := do
  check [] fun reply => .exception reply.text
  Exceptional.update (Worker.use (frame.sample.toList.map .mapping))
  TrtEngine.infer settings.blobSize
  let reply ← invoke []
  check [] fun reply => .exception reply.text
  canPublish reply.dets frame.width frame.height
  check [] fun reply => .exception reply.text

def turn (settings : Settings) : WorkerM Unit := do
  let frame ← GstSource.next
  Exceptional.ensuring
    (if frame.valid then perceive settings frame else pure ())
    frame.destruct

/-- What the loop condition sees before a turn. -/
structure Poll where
  stop : Bool
  rosOk : Bool

def Poll.leaves (poll : Poll) (_ : Worker) : Bool :=
  poll.stop || !poll.rosOk

def body (settings : Settings) (polls : List Poll) : WorkerM Unit := do
  TrtEngine.load settings.icfg
  connect settings
  GstSource.start
  Exceptional.whilePolling Poll.leaves (turn settings) polls
  GstSource.stop

/-- The destructors of `can`, `engine` and `source`. -/
def leaveScope : WorkerM Unit := do
  reset .can
  TrtEngine.destruct
  GstSource.stop

/-- The thread, and the exception that it logs.  The handler is reached behind
the destructors. -/
def run (settings : Settings) (polls : List Poll) :
    WorkerM (Option Failure) := do
  let outcome ← Exceptional.attempt
    (Exceptional.ensuring (body settings polls) leaveScope)
  match outcome with
  | .ok () => pure none
  | .error failure => pure (some failure)

end EmbeddedPortfolio.Detector
