import EmbeddedPortfolio.Instrumentation.Trackers
import EmbeddedPortfolio.Pipeline.FrameQueue
import EmbeddedPortfolio.Pipeline.RtspServer

namespace EmbeddedPortfolio.Pipeline

open EmbeddedPortfolio.Instrumentation

/-! The appsink callback of the encoder branch, which one streaming thread
runs. -/

structure PipelineConfig where
  fps : Int
  encQueueCapacity : Nat
  deriving Repr, DecidableEq

/-- `mappable` says whether `gst_buffer_map` succeeds on the buffer. -/
structure SampleBuffer where
  data : List UInt8
  pts : UInt64
  deltaUnit : Bool
  mappable : Bool
  deriving Repr, DecidableEq

/-- `GST_BUFFER_PTS_IS_VALID`. -/
def SampleBuffer.ptsIsValid (buffer : SampleBuffer) : Bool :=
  buffer.pts != clockTimeNone

structure PipelineClock where
  baseTime : UInt64
  time : UInt64
  deriving Repr, DecidableEq

/-- What one call pulls, a null sample and a sample without a buffer included,
and what it reads from the clocks. -/
structure AppsinkCall where
  sample : Option (Option SampleBuffer)
  monoNs : UInt64
  clock : Option PipelineClock
  deriving Repr, DecidableEq

def AppsinkCall.mapped (call : AppsinkCall) : Option SampleBuffer :=
  match call.sample with
  | some (some buffer) => if buffer.mappable then some buffer else none
  | _ => none

structure EncodedBranch where
  ptsCounter : UInt64
  encQ : FrameQueue EncodedFrame
  appsinkLatency : LatencyTracker

/-- `GST_SECOND / std::max(1, fps)`. -/
def framePeriod (fps : Int) : Nat := gstSecond / (max 1 fps).toNat

def AppsinkCall.encodedFrame (call : AppsinkCall) (counter : UInt64)
    (buffer : SampleBuffer) : EncodedFrame where
  data := buffer.data
  ptsNs := if buffer.ptsIsValid then buffer.pts else counter
  captureMonoNs := call.monoNs
  keyframe := !buffer.deltaUnit

/-- The running time of the buffer against the pipeline's clock. -/
def appsinkLatencyMs (clock : PipelineClock) (buffer : SampleBuffer) :
    Option ℚ :=
  if clock.baseTime < clock.time then
    let ms : ℚ :=
      ((clock.time - clock.baseTime).toNat - buffer.pts.toNat) / 1000000
    if 0 < ms ∧ ms < 5000 then some ms else none
  else
    none

def AppsinkCall.latencyMs (call : AppsinkCall) (buffer : SampleBuffer) :
    Option ℚ :=
  match call.clock with
  | none => none
  | some clock =>
      if buffer.ptsIsValid then appsinkLatencyMs clock buffer else none

def recordLatency (tracker : LatencyTracker) : Option ℚ → Option LatencyTracker
  | none => some tracker
  | some ms => tracker.add ms

namespace EncodedBranch

def new (cfg : PipelineConfig) : EncodedBranch where
  ptsCounter := 0
  encQ := .new cfg.encQueueCapacity
  appsinkLatency := .new 512

def onNewEncodedSample (cfg : PipelineConfig) (branch : EncodedBranch)
    (call : AppsinkCall) : Option EncodedBranch :=
  match call.mapped with
  | none => some branch
  | some buffer => do
      let appsinkLatency ←
        recordLatency branch.appsinkLatency (call.latencyMs buffer)
      let (_, encQ) ←
        branch.encQ.push (call.encodedFrame branch.ptsCounter buffer)
      some {
        ptsCounter := branch.ptsCounter + UInt64.ofNat (framePeriod cfg.fps)
        encQ
        appsinkLatency }

theorem onNewEncodedSample_cases {cfg : PipelineConfig}
    {branch next : EncodedBranch} {call : AppsinkCall}
    (h : branch.onNewEncodedSample cfg call = some next) :
    (call.mapped = none ∧ next = branch) ∨
    (∃ buffer outcome, call.mapped = some buffer ∧
      branch.encQ.push (call.encodedFrame branch.ptsCounter buffer) =
        some (outcome, next.encQ) ∧
      next.ptsCounter =
        branch.ptsCounter + UInt64.ofNat (framePeriod cfg.fps)) := by
  unfold onNewEncodedSample at h
  cases hmapped : call.mapped with
  | none =>
      rw [hmapped] at h
      exact .inl ⟨rfl, (Option.some.inj h).symm⟩
  | some buffer =>
      rw [hmapped] at h
      simp only [Option.bind_eq_bind, Option.bind_eq_some_iff] at h
      obtain ⟨tracker, _, ⟨outcome, encQ⟩, hpush, hnext⟩ := h
      cases hnext
      exact .inr ⟨buffer, outcome, rfl, hpush, rfl⟩

end EncodedBranch

/-! The presentation time each mapped buffer is given: its own, or a whole
number of frame periods. -/

def samplePts (fps : Int) (index : Nat) (buffer : SampleBuffer) : UInt64 :=
  if buffer.ptsIsValid then buffer.pts
  else UInt64.ofNat (index * framePeriod fps)

def presentationTimesFrom (fps : Int) (start : Nat) (calls : List AppsinkCall) :
    List UInt64 :=
  (calls.filterMap AppsinkCall.mapped).mapIdx fun index buffer =>
    samplePts fps (start + index) buffer

def presentationTimes (fps : Int) (calls : List AppsinkCall) : List UInt64 :=
  presentationTimesFrom fps 0 calls

def mappedCount (calls : List AppsinkCall) : Nat :=
  (calls.filterMap AppsinkCall.mapped).length

theorem presentationTimesFrom_cons_none {fps : Int} {start : Nat}
    {call : AppsinkCall} {calls : List AppsinkCall}
    (hmapped : call.mapped = none) :
    presentationTimesFrom fps start (call :: calls) =
      presentationTimesFrom fps start calls := by
  simp [presentationTimesFrom, hmapped]

theorem presentationTimesFrom_cons_some {fps : Int} {start : Nat}
    {call : AppsinkCall} {calls : List AppsinkCall} {buffer : SampleBuffer}
    (hmapped : call.mapped = some buffer) :
    presentationTimesFrom fps start (call :: calls) =
      samplePts fps start buffer ::
        presentationTimesFrom fps (start + 1) calls := by
  simp only [presentationTimesFrom, List.filterMap_cons_some hmapped,
    List.mapIdx_cons, Nat.add_zero, List.cons.injEq, true_and]
  congr 1
  funext index buffer
  rw [Nat.add_assoc, Nat.add_comm 1 index]

theorem presentationTimes_concat_none {fps : Int} {call : AppsinkCall}
    {calls : List AppsinkCall} (hmapped : call.mapped = none) :
    presentationTimes fps (calls ++ [call]) = presentationTimes fps calls := by
  simp [presentationTimes, presentationTimesFrom, hmapped]

theorem presentationTimes_concat_some {fps : Int} {call : AppsinkCall}
    {calls : List AppsinkCall} {buffer : SampleBuffer}
    (hmapped : call.mapped = some buffer) :
    presentationTimes fps (calls ++ [call]) =
      presentationTimes fps calls ++
        [samplePts fps (mappedCount calls) buffer] := by
  simp [presentationTimes, presentationTimesFrom, hmapped, List.mapIdx_append,
    mappedCount]

theorem mappedCount_concat_none {call : AppsinkCall} {calls : List AppsinkCall}
    (hmapped : call.mapped = none) :
    mappedCount (calls ++ [call]) = mappedCount calls := by
  simp [mappedCount, hmapped]

theorem mappedCount_concat_some {call : AppsinkCall} {calls : List AppsinkCall}
    {buffer : SampleBuffer} (hmapped : call.mapped = some buffer) :
    mappedCount (calls ++ [call]) = mappedCount calls + 1 := by
  simp [mappedCount, hmapped]

/-- The counter is a whole number of frame periods, modulo its width. -/
def CounterAt (fps : Int) (index : Nat) (counter : UInt64) : Prop :=
  counter = UInt64.ofNat (index * framePeriod fps)

theorem CounterAt.zero {fps : Int} : CounterAt fps 0 0 := by
  rw [CounterAt, Nat.zero_mul]
  rfl

theorem CounterAt.advance {fps : Int} {index : Nat} {counter : UInt64}
    (at_index : CounterAt fps index counter) :
    CounterAt fps (index + 1) (counter + UInt64.ofNat (framePeriod fps)) := by
  unfold CounterAt at at_index ⊢
  rw [at_index, ← UInt64.ofNat_add, Nat.succ_mul]

theorem CounterAt.encodedFrame {fps : Int} {index : Nat} {counter : UInt64}
    (at_index : CounterAt fps index counter) (call : AppsinkCall)
    (buffer : SampleBuffer) :
    (call.encodedFrame counter buffer).ptsNs = samplePts fps index buffer := by
  unfold CounterAt at at_index
  rw [AppsinkCall.encodedFrame, samplePts, at_index]

end EmbeddedPortfolio.Pipeline
