import EmbeddedPortfolio.Capture.Kernel
import EmbeddedPortfolio.Program.Exceptional
import EmbeddedPortfolio.Transition.System

namespace EmbeddedPortfolio.Capture

open EmbeddedPortfolio.Program
open EmbeddedPortfolio.Transition

/-! The capture engine over the kernel. -/

inductive IoMethod where
  | mmap
  | userPtr
deriving DecidableEq, Repr

structure Config where
  device : String
  width : UInt32
  height : UInt32
  pixelformat : UInt32
  bufferCount : UInt32
  io : IoMethod
  exportDmabuf : Bool
deriving DecidableEq, Repr

structure Frame where
  data : Nat
  bytes : UInt32
  index : Nat
  sequence : UInt32
  timestamp : Timeval
  dmabufFd : Int
  hadError : Bool
deriving DecidableEq, Repr

structure Stats where
  framesCaptured : UInt64 := 0
  framesDropped : UInt64 := 0
  framesErrored : UInt64 := 0
  bytesCaptured : UInt64 := 0
  lastLatencyMs : ℚ := 0
  avgLatencyMs : ℚ := 0
deriving DecidableEq, Repr

/-- `start = 0` is the null pointer. -/
structure BufferSlot where
  start : Nat := 0
  length : Nat := 0
  dmabufFd : Int := -1
deriving DecidableEq, Repr

structure V4L2Capture where
  cfg : Config
  fd : Int := -1
  fmt : PixFormat := ⟨0, 0, 0, 0, 0⟩
  slots : List BufferSlot := []
  stats : Stats := {}
  lastSequence : UInt32 := 0
  haveLastSequence : Bool := false
  latencyAccumMs : ℚ := 0
  streaming : Bool := false
deriving DecidableEq, Repr

structure SystemError where
  what : String
  code : Errno
deriving DecidableEq, Repr

structure World where
  capture : V4L2Capture
  kernel : Kernel
deriving DecidableEq, Repr

abbrev CaptureM (Value : Type) : Type := Exceptional World SystemError Value

def onCapture (change : V4L2Capture → V4L2Capture) : CaptureM Unit :=
  Exceptional.update fun world =>
    { world with capture := change world.capture }

def service {Value : Type} (run : Kernel → Value × Kernel) : CaptureM Value :=
  Exceptional.call fun world =>
    ((run world.kernel).1, { world with kernel := (run world.kernel).2 })

def orThrow {Value : Type} (what : String) :
    Except Errno Value → CaptureM Value
  | .ok value => pure value
  | .error code => Exceptional.fail ⟨what, code⟩

def xioctl {Value : Type} (request : Kernel.Request Value) (what : String) :
    CaptureM Value := do
  let fd ← Exceptional.observe fun world => world.capture.fd
  let answer ← service (Kernel.ioctl request fd)
  orThrow what answer

theorem xioctl_served {Value : Type} {request : Kernel.Request Value}
    {what : String} {world : World} {value : Value} {final : Kernel}
    (served : Kernel.ioctl request world.capture.fd world.kernel =
      (.ok value, final)) :
    xioctl request what world = (.ok value, { world with kernel := final }) := by
  simp [xioctl, bind, Exceptional.observe, service, Exceptional.call, served,
    orThrow, pure]

theorem xioctl_refused {Value : Type} {request : Kernel.Request Value}
    {what : String} {world : World} {code : Errno} {final : Kernel}
    (refused : Kernel.ioctl request world.capture.fd world.kernel =
      (.error code, final)) :
    xioctl request what world =
      (.error ⟨what, code⟩, { world with kernel := final }) := by
  simp [xioctl, bind, Exceptional.observe, service, Exceptional.call, refused,
    orThrow, Exceptional.fail]

theorem Triple.xioctl {Value : Type} {request : Kernel.Request Value}
    {what : String} {before : World → Prop} {after : Value → World → Prop}
    {thrown : SystemError → World → Prop}
    (served : ∀ world reply middle value final, before world →
      world.kernel.SameState middle → middle.isOpen world.capture.fd →
        request reply middle = (.ok value, final) →
          after value { world with kernel := final })
    (refused : ∀ world code final, before world →
      final.ledger = world.kernel.ledger →
        final.driver = world.kernel.driver →
          final.failedIoctls = world.kernel.failedIoctls + 1 →
            thrown ⟨what, code⟩ { world with kernel := final }) :
    Exceptional.Triple before (xioctl request what) after thrown := by
  intro world holds
  rcases Kernel.ioctl_cases request world.capture.fd world.kernel with
    ⟨code, final, hrefused, hledger, hdriver, hfailed⟩ |
    ⟨value, reply, middle, final, hserved, hsame, hopen, hrequest⟩
  · rw [xioctl_refused hrefused]
    exact refused world code final holds hledger hdriver hfailed
  · rw [xioctl_served hserved]
    exact served world reply middle value final holds hsame hopen hrequest

theorem Triple.orThrow {Value : Type} {what : String}
    {answer : Except Errno Value} {before : World → Prop}
    {after : Value → World → Prop} {thrown : SystemError → World → Prop}
    (ok : ∀ value world, answer = .ok value → before world →
      after value world)
    (error : ∀ code world, answer = .error code → before world →
      thrown ⟨what, code⟩ world) :
    Exceptional.Triple before (orThrow what answer) after thrown := by
  intro world holds
  cases answer with
  | ok value => exact ok value world rfl holds
  | error code => exact error code world rfl holds

def capVideoCapture : UInt32 := 0x00000001

def capStreaming : UInt32 := 0x04000000

def bufFlagError : UInt32 := 0x00000040

def queryCaps : CaptureM Unit := do
  let capabilities ← xioctl Kernel.querycap "VIDIOC_QUERYCAP"
  if capabilities &&& capVideoCapture = 0 then
    Exceptional.fail ⟨"device has no V4L2_CAP_VIDEO_CAPTURE", .enodev⟩
  else if capabilities &&& capStreaming = 0 then
    Exceptional.fail
      ⟨"device has no V4L2_CAP_STREAMING (mmap/dmabuf unsupported)", .enodev⟩
  else
    pure ()

def setFormat : CaptureM Unit := do
  let format ← xioctl Kernel.setFormat "VIDIOC_S_FMT"
  onCapture fun capture =>
    { capture with
      fmt := format
      cfg := { capture.cfg with
        pixelformat := format.pixelformat
        width := format.width
        height := format.height } }

/-- The only call that `io` has a say in; the others ask for mapped buffers. -/
def requestBuffers : CaptureM Unit := do
  let io ← Exceptional.observe fun world => world.capture.cfg.io
  let memory := if io = .mmap then Memory.mmap else .userPtr
  let count ← xioctl (Kernel.reqbufs memory) "VIDIOC_REQBUFS"
  if count < 2 then
    Exceptional.fail ⟨"driver granted < 2 buffers, cannot stream", .enomem⟩
  else
    onCapture fun capture =>
      { capture with
        cfg := { capture.cfg with bufferCount := count }
        slots := capture.slots.takeD count.toNat {} }

def onSlot (index : Nat) (change : BufferSlot → BufferSlot) : CaptureM Unit :=
  onCapture fun capture =>
    { capture with slots := capture.slots.modify index change }

def mmapBuffer (index length : Nat) : CaptureM Unit := do
  let fd ← Exceptional.observe fun world => world.capture.fd
  let answer ← service (Kernel.mmap fd length)
  let start ← orThrow ("mmap buffer " ++ toString index) answer
  onSlot index fun slot => { slot with start, length }

def exportBuffer (index : Nat) : CaptureM Unit := do
  let fd ← xioctl (Kernel.expbuf index) "VIDIOC_EXPBUF"
  onSlot index fun slot => { slot with dmabufFd := fd }

/-- One turn of the loop in `map_buffers`. -/
def mapBuffer (index : Nat) : CaptureM Unit := do
  let length ← xioctl (Kernel.querybuf index) "VIDIOC_QUERYBUF"
  mmapBuffer index length.toNat
  let exportDmabuf ← Exceptional.observe fun world =>
    world.capture.cfg.exportDmabuf
  if exportDmabuf then exportBuffer index else pure ()

def bufferIndices (capture : V4L2Capture) : List Nat :=
  List.range capture.cfg.bufferCount.toNat

def mapBuffers : CaptureM Unit := do
  let indices ← Exceptional.observe fun world => bufferIndices world.capture
  Exceptional.forEach mapBuffer indices

def queueBuffer (index : Nat) : CaptureM Unit :=
  xioctl (Kernel.qbuf .mmap index) "VIDIOC_QBUF"

def queueAll : CaptureM Unit := do
  let indices ← Exceptional.observe fun world => bufferIndices world.capture
  Exceptional.forEach queueBuffer indices

def statDevice : CaptureM Unit := do
  let device ← Exceptional.observe fun world => world.capture.cfg.device
  let answer ← service Kernel.stat
  let isCharDevice ← orThrow ("stat(" ++ device ++ ")") answer
  if isCharDevice then pure ()
  else Exceptional.fail ⟨device ++ " is not a character device", .enodev⟩

def openFile : CaptureM Unit := do
  let device ← Exceptional.observe fun world => world.capture.cfg.device
  let answer ← service Kernel.openFile
  onCapture fun capture => { capture with fd := answer.toOption.getD (-1) }
  let _ ← orThrow ("open(" ++ device ++ ")") answer
  pure ()

def openDevice : CaptureM Unit := do
  statDevice
  openFile
  queryCaps
  setFormat
  requestBuffers
  mapBuffers
  queueAll

def start : CaptureM Unit := do
  xioctl Kernel.streamon "VIDIOC_STREAMON"
  onCapture fun capture =>
    { capture with streaming := true, haveLastSequence := false }

def timevalToMs (time : Timeval) : ℚ :=
  time.sec * 1000 + time.usec / 1000

def noteError (buf : DriverBuffer) (stats : Stats) : Stats :=
  if buf.flags &&& bufFlagError ≠ 0 then
    { stats with framesErrored := stats.framesErrored + 1 }
  else stats

/-- The frames that a gap after `last` is taken to have lost. -/
def missedFrames (last sequence : UInt32) : UInt32 :=
  let expected := last + 1
  if expected < sequence then sequence - expected else 0

def noteGap (buf : DriverBuffer) (capture : V4L2Capture) : V4L2Capture :=
  let missed :=
    if capture.haveLastSequence then
      missedFrames capture.lastSequence buf.sequence
    else 0
  { capture with
    stats := { capture.stats with
      framesDropped := capture.stats.framesDropped + missed.toUInt64 }
    lastSequence := buf.sequence
    haveLastSequence := true }

def noteFrame (buf : DriverBuffer) (nowMs : ℚ) (capture : V4L2Capture) :
    V4L2Capture :=
  let latency := nowMs - timevalToMs buf.timestamp
  let accum := capture.latencyAccumMs + latency
  let captured := capture.stats.framesCaptured + 1
  { capture with
    latencyAccumMs := accum
    stats := { capture.stats with
      framesCaptured := captured
      bytesCaptured := capture.stats.bytesCaptured + buf.bytesused.toUInt64
      lastLatencyMs := latency
      avgLatencyMs := accum / captured.toNat } }

/-- The frame handed out.  The driver gives back one of the buffers that were
mapped, so its slot exists. -/
def frameOf (buf : DriverBuffer) (capture : V4L2Capture) : Frame :=
  let slot := capture.slots.getD buf.index {}
  { data := slot.start
    bytes := buf.bytesused
    index := buf.index
    sequence := buf.sequence
    timestamp := buf.timestamp
    dmabufFd := slot.dmabufFd
    hadError := buf.flags &&& bufFlagError ≠ 0 }

def deliver (buf : DriverBuffer) : CaptureM (Option Frame) := do
  onCapture fun capture => { capture with stats := noteError buf capture.stats }
  onCapture (noteGap buf)
  let nowMs ← service Kernel.clock
  onCapture (noteFrame buf nowMs)
  Exceptional.observe fun world => some (frameOf buf world.capture)

def dequeue : CaptureM (Option Frame) := do
  let fd ← Exceptional.observe fun world => world.capture.fd
  let answer ← service (Kernel.ioctl Kernel.dqbuf fd)
  match answer with
  | .error .eagain => pure none
  | .error code => Exceptional.fail ⟨"VIDIOC_DQBUF", code⟩
  | .ok buf => deliver buf

/-- `next`; without a frame the source returns `false`. -/
def next : CaptureM (Option Frame) := do
  let answer ← service Kernel.poll
  let polled ← orThrow "poll" answer
  if ¬ polled.ready then pure none
  else if polled.broken then
    Exceptional.fail ⟨"poll reported POLLERR/POLLHUP", .eio⟩
  else dequeue

def release (frame : Frame) : CaptureM Unit :=
  queueBuffer frame.index

def stop : CaptureM Unit := do
  let capture ← Exceptional.observe fun world => world.capture
  if ¬ capture.streaming ∨ capture.fd = -1 then pure ()
  else do
    let _ ← Exceptional.attempt (xioctl Kernel.streamoff "VIDIOC_STREAMOFF")
    onCapture fun capture => { capture with streaming := false }

/-- One turn of the loop in `unmap_buffers`. -/
def BufferSlot.unmap (slot : BufferSlot) (kernel : Kernel) : Kernel :=
  let kernel :=
    if 0 ≤ slot.dmabufFd then kernel.close slot.dmabufFd else kernel
  if slot.start ≠ 0 ∧ slot.length ≠ 0 then
    kernel.munmap slot.start slot.length
  else kernel

def unmapBuffers : CaptureM Unit :=
  Exceptional.update fun world =>
    { capture := { world.capture with slots := [] }
      kernel := world.capture.slots.foldl (fun kernel slot => slot.unmap kernel)
        world.kernel }

def closeFile : CaptureM Unit :=
  Exceptional.update fun world =>
    if world.capture.fd = -1 then world
    else
      { capture := { world.capture with fd := -1 }
        kernel := world.kernel.close world.capture.fd }

def close : CaptureM Unit := do
  unmapBuffers
  closeFile

def destruct : CaptureM Unit := do
  let _ ← Exceptional.attempt stop
  close

/-! The public calls, in any order. -/

inductive Call where
  | openDevice
  | start
  | next
  | release (frame : Frame)
  | stop
  | close
  | destruct
deriving DecidableEq, Repr

def perform : Call → CaptureM (Option Frame)
  | .openDevice => do openDevice; pure none
  | .start => do start; pure none
  | .next => next
  | .release frame => do release frame; pure none
  | .stop => do stop; pure none
  | .close => do close; pure none
  | .destruct => do destruct; pure none

structure CallEvent where
  call : Call
  result : Except SystemError (Option Frame)

def construct (cfg : Config) (script : List Reply) : World :=
  { capture := { cfg }, kernel := Kernel.boot script }

def callSystem : System World CallEvent where
  initial world := ∃ cfg script, world = construct cfg script
  step world event next := perform event.call world = (event.result, next)

/-- A device that grants two buffers and then answers from `script`. -/
def twoBufferDevice (script : List Reply) : World :=
  let opening : List Reply :=
    [{}, { fd := 3 }, { capabilities := 0x04000001 }, {}, { count := 2 },
      { length := 4096 }, { address := 65536 },
      { length := 4096 }, { address := 131072 }, {}, {}]
  construct ⟨"/dev/video0", 1280, 720, 0x56595559, 2, .mmap, false⟩
    (opening ++ script)

def twoBuffers (script : List Reply) : World :=
  (perform .openDevice (twoBufferDevice script)).2

theorem callSystem_perform (call : Call) (world : World) :
    callSystem.step world ⟨call, (perform call world).1⟩
      (perform call world).2 := rfl

end EmbeddedPortfolio.Capture
