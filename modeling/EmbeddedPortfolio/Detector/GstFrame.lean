import EmbeddedPortfolio.Transition.Slots
import Mathlib.Data.Int.Notation

namespace EmbeddedPortfolio.Detector

open EmbeddedPortfolio.Transition

/-! `Frame`, the owner of one GStreamer sample.  A null pointer is `none`. -/

/-- What a successful `gst_buffer_map` fills in.  Its pointer is null only for a
buffer without memory, which is left out here. -/
structure MapInfo where
  data : Nat
  size : Nat
  deriving Repr, DecidableEq

/-- `pts` is missing when it is not valid, `mapping` when mapping fails. -/
structure SampleBuffer where
  pts : Option UInt64
  mapping : Option MapInfo
  deriving Repr, DecidableEq

structure SampleCaps where
  width : Option Int
  height : Option Int
  deriving Repr, DecidableEq

/-- One reference to a sample, as the appsink hands it over. -/
structure GstSample where
  name : Nat
  buffer : Option SampleBuffer
  caps : Option SampleCaps
  deriving Repr, DecidableEq

inductive GstCall
  | map (sample : GstSample)
  | unmap (sample : GstSample)
  | unref (sample : GstSample)
  deriving Repr, DecidableEq

namespace GstCall

def sample : GstCall → GstSample
  | .map sample => sample
  | .unmap sample => sample
  | .unref sample => sample

def unreffed : GstCall → Option GstSample
  | .unref sample => some sample
  | _ => none

end GstCall

structure Frame where
  sample : Option GstSample
  map : Option MapInfo
  data : Option Nat
  size : Nat
  width : Int
  height : Int
  stride : Int
  ptsNs : UInt64
  captureMonoNs : UInt64
  deriving Repr, DecidableEq

/-- Both operands of a move assignment afterwards. -/
structure Assigned where
  target : Frame
  source : Frame
  calls : List GstCall
  deriving Repr, DecidableEq

namespace Frame

def empty : Frame where
  sample := none
  map := none
  data := none
  size := 0
  width := 0
  height := 0
  stride := 0
  ptsNs := 0
  captureMonoNs := 0

def valid (frame : Frame) : Bool :=
  frame.sample.isSome && frame.data.isSome

def ofSample (nowMonoNs : UInt64) (sample : GstSample) :
    Frame × List GstCall :=
  let frame := { empty with
    sample := some sample
    captureMonoNs := nowMonoNs }
  match sample.buffer, sample.caps with
  | some buf, some caps =>
      let frame := { frame with
        width := caps.width.getD 0
        height := caps.height.getD 0
        ptsNs := buf.pts.getD 0 }
      match buf.mapping with
      | some map =>
          ({ frame with
            map := some map
            data := some map.data
            size := map.size
            stride := if 0 < frame.height then map.size / frame.height
              else 0 }, [.map sample])
      | none => (frame, [])
  | _, _ => (frame, [])

def release (frame : Frame) : Frame × List GstCall :=
  match frame.sample with
  | none => (frame, [])
  | some sample =>
      ({ frame with sample := none, data := none },
        (if frame.data.isSome ∧ sample.buffer.isSome then [.unmap sample]
          else []) ++ [.unref sample])

/-- `operator=` for two different objects. -/
def assign (frame o : Frame) : Assigned :=
  let (released, calls) := frame.release
  { target := { released with
      sample := o.sample
      map := o.map
      data := o.data
      size := o.size
      width := o.width
      height := o.height
      stride := o.stride
      ptsNs := o.ptsNs
      captureMonoNs := o.captureMonoNs }
    source := { o with sample := none, data := none }
    calls }

theorem release_sample (frame : Frame) : frame.release.1.sample = none := by
  cases hsample : frame.sample <;> simp [release, hsample]

theorem assign_target (frame o : Frame) : (frame.assign o).target = o := rfl

theorem assign_calls (frame o : Frame) :
    (frame.assign o).calls = frame.release.2 := rfl

end Frame

/-! The calls a sample sees at the two ends of its life. -/

namespace GstSample

def maps (sample : GstSample) : Bool :=
  sample.caps.isSome && (sample.buffer.bind SampleBuffer.mapping).isSome

def opening (sample : GstSample) : List GstCall :=
  if sample.maps then [.map sample] else []

def closing (sample : GstSample) : List GstCall :=
  (if sample.maps then [.unmap sample] else []) ++ [.unref sample]

end GstSample

/-- A frame keeps its sample mapped exactly when the constructor mapped it. -/
def Frame.Sound (frame : Frame) : Prop :=
  frame.data.isSome = frame.sample.any GstSample.maps

namespace Frame

theorem empty_sound : empty.Sound := rfl

theorem ofSample_spec (nowMonoNs : UInt64) (sample : GstSample) :
    (ofSample nowMonoNs sample).1.sample = some sample ∧
      (ofSample nowMonoNs sample).1.Sound ∧
      (ofSample nowMonoNs sample).2 = sample.opening := by
  unfold Sound GstSample.opening GstSample.maps ofSample
  cases hbuffer : sample.buffer with
  | none => simp [hbuffer, empty]
  | some buf =>
      cases hcaps : sample.caps with
      | none => simp [hcaps, empty]
      | some caps =>
          cases hmapping : buf.mapping with
          | none => simp [hbuffer, hcaps, hmapping, empty]
          | some map => simp [hbuffer, hcaps, hmapping]

theorem release_sound {frame : Frame} (sound : frame.Sound) :
    frame.release.1.Sound := by
  cases hsample : frame.sample with
  | none => simpa [release, hsample] using sound
  | some sample => simp [release, hsample, Sound]

theorem release_calls {frame : Frame} (sound : frame.Sound) :
    frame.release.2 = frame.sample.elim [] GstSample.closing := by
  cases hsample : frame.sample with
  | none => simp [release, hsample]
  | some sample =>
      have hdata : frame.data.isSome = sample.maps := by
        simpa [Sound, hsample] using sound
      have hbuffer : sample.maps = true → sample.buffer.isSome = true := by
        intro hmaps
        cases hbuffer : sample.buffer with
        | none => simp [GstSample.maps, hbuffer] at hmaps
        | some buf => rfl
      cases hmaps : sample.maps with
      | false =>
          simp [release, hsample, GstSample.closing, hdata, hmaps]
      | true =>
          simp [release, hsample, GstSample.closing, hdata, hmaps,
            hbuffer hmaps]

end Frame

/-! Programs that construct, move and destroy frames. -/

abbrev Object := Nat

inductive FrameOp
  | default (object : Object)
  | construct (object : Object) (sample : GstSample)
  | moveConstruct (object source : Object)
  | moveAssign (target source : Object)
  | release (object : Object)
  | destroy (object : Object)
  deriving Repr, DecidableEq

structure FrameEvent where
  op : FrameOp
  calls : List GstCall
  deriving Repr, DecidableEq

/-- The objects that exist, and the samples the appsink has handed over. -/
structure Frames where
  alive : Object → Option Frame
  pulled : List GstSample

open Function in
inductive FrameStep : Frames → FrameEvent → Frames → Prop
  | default {frames : Frames} {object : Object} :
      frames.alive object = none →
        FrameStep frames ⟨.default object, []⟩
          { frames with alive := update frames.alive object (some .empty) }
  | construct {frames : Frames} {object : Object} {sample : GstSample}
      {nowMonoNs : UInt64} :
      frames.alive object = none → sample ∉ frames.pulled →
        FrameStep frames
          ⟨.construct object sample, (Frame.ofSample nowMonoNs sample).2⟩
          { alive := update frames.alive object
              (some (Frame.ofSample nowMonoNs sample).1)
            pulled := frames.pulled ++ [sample] }
  | moveConstruct {frames : Frames} {object source : Object} {o : Frame} :
      frames.alive object = none → frames.alive source = some o →
        FrameStep frames
          ⟨.moveConstruct object source, (Frame.empty.assign o).calls⟩
          { frames with
            alive := update
              (update frames.alive source (some (Frame.empty.assign o).source))
              object (some (Frame.empty.assign o).target) }
  | moveAssign {frames : Frames} {target source : Object} {frame o : Frame} :
      target ≠ source →
      frames.alive target = some frame → frames.alive source = some o →
        FrameStep frames ⟨.moveAssign target source, (frame.assign o).calls⟩
          { frames with
            alive := update
              (update frames.alive source (some (frame.assign o).source))
              target (some (frame.assign o).target) }
  | moveAssignSelf {frames : Frames} {object : Object} {frame : Frame} :
      frames.alive object = some frame →
        FrameStep frames ⟨.moveAssign object object, []⟩ frames
  | release {frames : Frames} {object : Object} {frame : Frame} :
      frames.alive object = some frame →
        FrameStep frames ⟨.release object, frame.release.2⟩
          { frames with
            alive := update frames.alive object (some frame.release.1) }
  | destroy {frames : Frames} {object : Object} {frame : Frame} :
      frames.alive object = some frame →
        FrameStep frames ⟨.destroy object, frame.release.2⟩
          { frames with alive := update frames.alive object none }

def frameSystem : System Frames FrameEvent where
  initial frames := frames = ⟨fun _ => none, []⟩
  step := FrameStep

end EmbeddedPortfolio.Detector
