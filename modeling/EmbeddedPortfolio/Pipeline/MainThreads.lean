import EmbeddedPortfolio.Pipeline.QueueShutdown
import EmbeddedPortfolio.Pipeline.Teardown

namespace EmbeddedPortfolio.Pipeline

open EmbeddedPortfolio.Transition RtspServer

/-! The threads of `gstpipe`: the main loop and the teardown behind it, the
streaming threads, the RTSP feeder, the raw consumer and the reporter. -/

structure RawFrame where
  data : List UInt8
  width : Int
  height : Int
  format : String
  ptsNs : UInt64
  deriving Repr, DecidableEq

/-- The threads that meet at a queue.  Each queue has a streaming thread of its
own. -/
inductive PipeThread
  | streaming
  | feeder
  | rawConsumer
  | main
  deriving Repr, DecidableEq

inductive ConsumerPlace
  | checking
  | popping
  | folding (frame : RawFrame)
  | exited
  deriving Repr, DecidableEq

structure RawConsumer where
  place : ConsumerPlace
  frames : UInt64
  bytes : UInt64
  deriving Repr, DecidableEq

inductive ReporterPlace
  | checking
  | sleeping
  | exited
  deriving Repr, DecidableEq

/-- Where `main` stands from `g_main_loop_run` on.  In a `closing` place it has
closed the queue and not yet called `notify_all`. -/
inductive MainPlace
  | looping
  | quitted
  | lowered
  | silenced
  | closingEncoded
  | closedEncoded
  | closingRaw
  | closedRaw
  | stopping
  | closingSource
  | joiningFeeder
  | releasing
  | shutDown
  | joiningReporter
  | returned
  deriving Repr, DecidableEq

structure GstPipe where
  encoded : Monitor PipeThread EncodedFrame
  raw : Monitor PipeThread RawFrame
  server : RtspServer
  run : Bool
  playing : Bool
  consumer : RawConsumer
  reporter : ReporterPlace
  main : MainPlace

/-- What a thread does to a queue by itself: the streaming thread pushes and
notifies, and a waiting thread may wake up. -/
def ofStreaming {T : Type} : MonitorEvent PipeThread T → Bool
  | .body (.push .streaming _ _) => true
  | .notifyOne .streaming _ => true
  | .spurious _ => true
  | _ => false

def pushes {T : Type} : MonitorEvent PipeThread T → Bool
  | .body (.push _ _ _) => true
  | _ => false

namespace RtspEvent

/-- The feeder's `pop` has returned. -/
def ofPop : RtspEvent → Bool
  | .pop _ => true
  | .drained => true
  | _ => false

end RtspEvent

inductive PipeEvent
  | encoded (event : MonitorEvent PipeThread EncodedFrame)
  | raw (event : MonitorEvent PipeThread RawFrame)
  | feederPop (item : EncodedFrame)
  | feederDrained
  | feederWait
  | server (event : RtspEvent)
  | consumerCheck
  | consumerPop (frame : RawFrame)
  | consumerDrained
  | consumerWait
  | consumerFold
  | reporterCheck
  | reporterWake
  | unixSignal
  | pipelineError
  | main
  deriving DecidableEq

/-- One step of `main` behind `g_main_loop_run`: `run.store(false)`,
`pipeline.stop()`, `rtsp.shutdown()` and the two joins. -/
inductive TeardownStep (cfg : RtspConfig) : GstPipe → GstPipe → Prop
  | lower {pipe : GstPipe} :
      pipe.main = .quitted →
        TeardownStep cfg pipe { pipe with run := false, main := .lowered }
  | silence {pipe : GstPipe} :
      pipe.main = .lowered →
      pipe.encoded.location .streaming = .outside →
      pipe.raw.location .streaming = .outside →
        TeardownStep cfg pipe { pipe with playing := false, main := .silenced }
  | closeEncoded {pipe : GstPipe} {encoded : Monitor PipeThread EncodedFrame} :
      pipe.main = .silenced →
      MonitorStep pipe.encoded (.body (.close .main)) encoded →
        TeardownStep cfg pipe
          { pipe with encoded := encoded, main := .closingEncoded }
  | notifyEncoded {pipe : GstPipe}
      {encoded : Monitor PipeThread EncodedFrame} :
      pipe.main = .closingEncoded →
      MonitorStep pipe.encoded (.notifyAll .main) encoded →
        TeardownStep cfg pipe
          { pipe with encoded := encoded, main := .closedEncoded }
  | closeRaw {pipe : GstPipe} {raw : Monitor PipeThread RawFrame} :
      pipe.main = .closedEncoded →
      MonitorStep pipe.raw (.body (.close .main)) raw →
        TeardownStep cfg pipe { pipe with raw := raw, main := .closingRaw }
  | notifyRaw {pipe : GstPipe} {raw : Monitor PipeThread RawFrame} :
      pipe.main = .closingRaw →
      MonitorStep pipe.raw (.notifyAll .main) raw →
        TeardownStep cfg pipe { pipe with raw := raw, main := .closedRaw }
  | skipShutdown {pipe : GstPipe} :
      pipe.main = .closedRaw →
      pipe.server.running = false →
        TeardownStep cfg pipe { pipe with main := .shutDown }
  | stopServer {pipe : GstPipe} {server : RtspServer} :
      pipe.main = .closedRaw →
      RtspStep cfg pipe.server .shutdownStop server →
        TeardownStep cfg pipe { pipe with server := server, main := .stopping }
  | closeSource {pipe : GstPipe} {encoded : Monitor PipeThread EncodedFrame} :
      pipe.main = .stopping →
      MonitorStep pipe.encoded (.body (.close .main)) encoded →
        TeardownStep cfg pipe
          { pipe with encoded := encoded, main := .closingSource }
  | notifySource {pipe : GstPipe}
      {encoded : Monitor PipeThread EncodedFrame} :
      pipe.main = .closingSource →
      MonitorStep pipe.encoded (.notifyAll .main) encoded →
        TeardownStep cfg pipe
          { pipe with encoded := encoded, main := .joiningFeeder }
  | joinFeeder {pipe : GstPipe} {server : RtspServer} :
      pipe.main = .joiningFeeder →
      RtspStep cfg pipe.server .shutdownJoin server →
        TeardownStep cfg pipe
          { pipe with server := server, main := .releasing }
  | releaseServer {pipe : GstPipe} {server : RtspServer} :
      pipe.main = .releasing →
      RtspStep cfg pipe.server .shutdownRelease server →
        TeardownStep cfg pipe
          { pipe with server := server, main := .shutDown }
  | joinConsumer {pipe : GstPipe} :
      pipe.main = .shutDown →
      pipe.consumer.place = .exited →
        TeardownStep cfg pipe { pipe with main := .joiningReporter }
  | joinReporter {pipe : GstPipe} :
      pipe.main = .joiningReporter →
      pipe.reporter = .exited →
        TeardownStep cfg pipe { pipe with main := .returned }

/-- The loop `while (run.load())` of the raw consumer. -/
def RawConsumer.check (consumer : RawConsumer) (run : Bool) : RawConsumer :=
  { consumer with place := if run then .popping else .exited }

def RawConsumer.fold (consumer : RawConsumer) (frame : RawFrame) :
    RawConsumer where
  place := .checking
  frames := consumer.frames + 1
  bytes := consumer.bytes + UInt64.ofNat frame.data.length

inductive PipeStep (cfg : RtspConfig) : GstPipe → PipeEvent → GstPipe → Prop
  | encoded {pipe : GstPipe} {event : MonitorEvent PipeThread EncodedFrame}
      {encoded : Monitor PipeThread EncodedFrame} :
      MonitorStep pipe.encoded event encoded →
      ofStreaming event = true →
      (pushes event = true → pipe.playing = true) →
        PipeStep cfg pipe (.encoded event) { pipe with encoded := encoded }
  | raw {pipe : GstPipe} {event : MonitorEvent PipeThread RawFrame}
      {raw : Monitor PipeThread RawFrame} :
      MonitorStep pipe.raw event raw →
      ofStreaming event = true →
      (pushes event = true → pipe.playing = true) →
        PipeStep cfg pipe (.raw event) { pipe with raw := raw }
  | feederPop {pipe : GstPipe} {item : EncodedFrame} {server : RtspServer}
      {encoded : Monitor PipeThread EncodedFrame} :
      RtspStep cfg pipe.server (.pop item) server →
      MonitorStep pipe.encoded (.body (.pop .feeder (some item))) encoded →
        PipeStep cfg pipe (.feederPop item)
          { pipe with encoded := encoded, server := server }
  | feederDrained {pipe : GstPipe} {server : RtspServer}
      {encoded : Monitor PipeThread EncodedFrame} :
      RtspStep cfg pipe.server .drained server →
      MonitorStep pipe.encoded (.body (.pop .feeder none)) encoded →
        PipeStep cfg pipe .feederDrained
          { pipe with encoded := encoded, server := server }
  | feederWait {pipe : GstPipe}
      {encoded : Monitor PipeThread EncodedFrame} :
      pipe.server.feeder = .popping →
      MonitorStep pipe.encoded (.wait .feeder) encoded →
        PipeStep cfg pipe .feederWait { pipe with encoded := encoded }
  | server {pipe : GstPipe} {event : RtspEvent} {server : RtspServer} :
      RtspStep cfg pipe.server event server →
      event.ofPop = false →
      event.ofShutdown = false →
        PipeStep cfg pipe (.server event) { pipe with server := server }
  | consumerCheck {pipe : GstPipe} :
      pipe.consumer.place = .checking →
        PipeStep cfg pipe .consumerCheck
          { pipe with consumer := pipe.consumer.check pipe.run }
  | consumerPop {pipe : GstPipe} {frame : RawFrame}
      {raw : Monitor PipeThread RawFrame} :
      pipe.consumer.place = .popping →
      MonitorStep pipe.raw (.body (.pop .rawConsumer (some frame))) raw →
        PipeStep cfg pipe (.consumerPop frame)
          { pipe with
            raw := raw
            consumer := { pipe.consumer with place := .folding frame } }
  | consumerDrained {pipe : GstPipe} {raw : Monitor PipeThread RawFrame} :
      pipe.consumer.place = .popping →
      MonitorStep pipe.raw (.body (.pop .rawConsumer none)) raw →
        PipeStep cfg pipe .consumerDrained
          { pipe with
            raw := raw
            consumer := { pipe.consumer with place := .exited } }
  | consumerWait {pipe : GstPipe} {raw : Monitor PipeThread RawFrame} :
      pipe.consumer.place = .popping →
      MonitorStep pipe.raw (.wait .rawConsumer) raw →
        PipeStep cfg pipe .consumerWait { pipe with raw := raw }
  | consumerFold {pipe : GstPipe} {frame : RawFrame} :
      pipe.consumer.place = .folding frame →
        PipeStep cfg pipe .consumerFold
          { pipe with consumer := pipe.consumer.fold frame }
  | reporterCheck {pipe : GstPipe} :
      pipe.reporter = .checking →
        PipeStep cfg pipe .reporterCheck
          { pipe with
            reporter := if pipe.run then .sleeping else .exited }
  | reporterWake {pipe : GstPipe} :
      pipe.reporter = .sleeping →
        PipeStep cfg pipe .reporterWake { pipe with reporter := .checking }
  | unixSignal {pipe : GstPipe} :
      pipe.main = .looping →
        PipeStep cfg pipe .unixSignal { pipe with main := .quitted }
  | pipelineError {pipe : GstPipe} :
      pipe.main = .looping →
        PipeStep cfg pipe .pipelineError
          { pipe with run := false, main := .quitted }
  | main {pipe next : GstPipe} :
      TeardownStep cfg pipe next → PipeStep cfg pipe .main next

/-- `attach` may have failed, and then there is no feeder. -/
def GstPipe.launched (encoded raw : Nat) (server : RtspServer) : GstPipe where
  encoded := ⟨FrameQueue.new encoded, fun _ => .outside⟩
  raw := ⟨FrameQueue.new raw, fun _ => .outside⟩
  server := server
  run := true
  playing := true
  consumer := ⟨.checking, 0, 0⟩
  reporter := .checking
  main := .looping

def pipeSystem (cfg : RtspConfig) (encoded raw : Nat) :
    System GstPipe PipeEvent where
  initial pipe := ∃ server : RtspServer,
    (server = RtspServer.attached ∨ server = RtspServer.dormant) ∧
      pipe = GstPipe.launched encoded raw server
  step := PipeStep cfg

end EmbeddedPortfolio.Pipeline
