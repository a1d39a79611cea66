import EmbeddedPortfolio.Pipeline.Appsink
import EmbeddedPortfolio.Pipeline.Backpressure

namespace EmbeddedPortfolio.Pipeline

open EmbeddedPortfolio.Transition RtspServer

/-! From the encoder to the clients: the appsink callback, the encoded queue and
the feeder thread, with the feeder's steady clock. -/

inductive StreamEvent
  | sample (call : AppsinkCall)
  | close
  | tick (elapsed : UInt64)
  | server (event : RtspEvent)
  deriving Repr, DecidableEq

/-- `elapsed` is what the steady clock shows since the feeder's `t0`. -/
structure Stream where
  branch : EncodedBranch
  server : RtspServer
  elapsed : UInt64

namespace RtspEvent

def usesQueue : RtspEvent → Bool
  | .pop _ => true
  | .drained => true
  | _ => false

/-- A buffer is stamped by the clock as it stands. -/
def StampedAt (cfg : RtspConfig) (basePts elapsed : UInt64) :
    RtspEvent → Prop
  | .push item _ buffer => buffer = makeBuffer cfg basePts elapsed item
  | _ => True

end RtspEvent

/-- `close` is `Pipeline::stop`, or `RtspServer::shutdown`, closing the queue. -/
inductive StreamStep (pipeline : PipelineConfig) (cfg : RtspConfig) :
    Stream → StreamEvent → Stream → Prop
  | sample {stream : Stream} {call : AppsinkCall} {branch : EncodedBranch} :
      stream.branch.onNewEncodedSample pipeline call = some branch →
        StreamStep pipeline cfg stream (.sample call)
          { stream with branch := branch }
  | close {stream : Stream} :
      StreamStep pipeline cfg stream .close
        { stream with
          branch := { stream.branch with encQ := stream.branch.encQ.close } }
  | tick {stream : Stream} {elapsed : UInt64} :
      stream.elapsed ≤ elapsed →
        StreamStep pipeline cfg stream (.tick elapsed)
          { stream with elapsed := elapsed }
  | pop {stream : Stream} {item : EncodedFrame}
      {encQ : FrameQueue EncodedFrame} {server : RtspServer} :
      stream.branch.encQ.pop = some (some item, encQ) →
      RtspStep cfg stream.server (.pop item) server →
        StreamStep pipeline cfg stream (.server (.pop item))
          { stream with
            branch := { stream.branch with encQ := encQ }
            server := server }
  | drained {stream : Stream} {encQ : FrameQueue EncodedFrame}
      {server : RtspServer} :
      stream.branch.encQ.pop = some (none, encQ) →
      RtspStep cfg stream.server .drained server →
        StreamStep pipeline cfg stream (.server .drained)
          { stream with
            branch := { stream.branch with encQ := encQ }
            server := server }
  | server {stream : Stream} {event : RtspEvent} {server : RtspServer} :
      RtspStep cfg stream.server event server →
      event.usesQueue = false →
      event.StampedAt cfg stream.server.basePts stream.elapsed →
        StreamStep pipeline cfg stream (.server event)
          { stream with server := server }

def Stream.new (pipeline : PipelineConfig) : Stream where
  branch := .new pipeline
  server := RtspServer.attached
  elapsed := 0

def streamSystem (pipeline : PipelineConfig) (cfg : RtspConfig) :
    System Stream StreamEvent where
  initial stream := stream = .new pipeline
  step := StreamStep pipeline cfg

namespace StreamEvent

def call : StreamEvent → Option AppsinkCall
  | .sample call => some call
  | _ => none

def rtsp : StreamEvent → Option RtspEvent
  | .server event => some event
  | _ => none

end StreamEvent

def appsinkCalls (events : List StreamEvent) : List AppsinkCall :=
  events.filterMap StreamEvent.call

def rtspEvents (events : List StreamEvent) : List RtspEvent :=
  events.filterMap StreamEvent.rtsp

@[simp] theorem appsinkCalls_append (first second : List StreamEvent) :
    appsinkCalls (first ++ second) =
      appsinkCalls first ++ appsinkCalls second :=
  List.filterMap_append ..

@[simp] theorem rtspEvents_append (first second : List StreamEvent) :
    rtspEvents (first ++ second) = rtspEvents first ++ rtspEvents second :=
  List.filterMap_append ..

/-! The frames pushed to a client are among those the appsink delivered, in
their order. -/

section Delivery

/-- The frame the feeder has in hand. -/
def FeederLocation.inHand : FeederLocation → List EncodedFrame
  | .gating item => [item]
  | .fetching item => [item]
  | .emitting item _ => [item]
  | _ => []

namespace RtspEvent

def pushedFrame : RtspEvent → Option EncodedFrame
  | .push item _ _ => some item
  | _ => none

end RtspEvent

def pushedFrames (events : List RtspEvent) : List EncodedFrame :=
  events.filterMap RtspEvent.pushedFrame

@[simp] theorem pushedFrames_append (first second : List RtspEvent) :
    pushedFrames (first ++ second) =
      pushedFrames first ++ pushedFrames second :=
  List.filterMap_append ..

/-- What the feeder has in hand it pushes, keeps or passes over. -/
theorem RtspStep.inHand {cfg : RtspConfig} {server next : RtspServer}
    {event : RtspEvent} (step : RtspStep cfg server event next)
    (own : event.usesQueue = false) :
    (pushedFrames [event] ++ next.feeder.inHand).Sublist
      server.feeder.inHand := by
  have still (hpushed : event.pushedFrame = none)
      (hfeeder : next.feeder.inHand.Sublist server.feeder.inHand) :
      (pushedFrames [event] ++ next.feeder.inHand).Sublist
        server.feeder.inHand := by
    simpa [pushedFrames, hpushed] using hfeeder
  cases step with
  | pop _ => cases own
  | drained _ => cases own
  | enter hfeeder | leave hfeeder | letThrough hfeeder
  | fetchSome hfeeder | release hfeeder =>
      apply still rfl
      simp [hfeeder, FeederLocation.inHand]
  | skip hfeeder | fetchNone hfeeder =>
      apply still rfl
      simp [hfeeder, FeederLocation.inHand]
  | push hfeeder =>
      rw [hfeeder]
      exact List.Sublist.refl _
  | _ => exact still rfl (List.Sublist.refl _)

def Stream.enRoute (stream : Stream) : List EncodedFrame :=
  stream.server.feeder.inHand ++ stream.branch.encQ.q

structure Delivery (pipeline : PipelineConfig) (calls : List AppsinkCall)
    (events : List RtspEvent) (stream : Stream) : Prop where
  counter : CounterAt pipeline.fps (mappedCount calls) stream.branch.ptsCounter
  order : ((pushedFrames events ++ stream.enRoute).map
    EncodedFrame.ptsNs).Sublist (presentationTimes pipeline.fps calls)

theorem Delivery.sample {pipeline : PipelineConfig} {calls : List AppsinkCall}
    {events : List RtspEvent} {stream : Stream} {call : AppsinkCall}
    {branch : EncodedBranch}
    (delivery : Delivery pipeline calls events stream)
    (h : stream.branch.onNewEncodedSample pipeline call = some branch) :
    Delivery pipeline (calls ++ [call]) events
      { stream with branch := branch } := by
  obtain ⟨counter, order⟩ := delivery
  rcases EncodedBranch.onNewEncodedSample_cases h with
    ⟨hmapped, rfl⟩ | ⟨buffer, outcome, hmapped, hpush, hcounter⟩
  · refine ⟨?_, ?_⟩
    · rw [mappedCount_concat_none hmapped]
      exact counter
    · rw [presentationTimes_concat_none hmapped]
      exact order
  · refine ⟨?_, ?_⟩
    · rw [mappedCount_concat_some hmapped, hcounter]
      exact counter.advance
    · have hqueue : branch.encQ.q.Sublist (stream.branch.encQ.q ++
          [call.encodedFrame stream.branch.ptsCounter buffer]) :=
        FrameQueue.push_sublist hpush
      have hframes : (pushedFrames events ++
          (stream.server.feeder.inHand ++ branch.encQ.q)).Sublist
          ((pushedFrames events ++ stream.enRoute) ++
            [call.encodedFrame stream.branch.ptsCounter buffer]) := by
        rw [Stream.enRoute, List.append_assoc, List.append_assoc]
        exact (hqueue.append_left _).append_left _
      rw [presentationTimes_concat_some hmapped,
        ← counter.encodedFrame call buffer]
      refine (hframes.map EncodedFrame.ptsNs).trans ?_
      rw [List.map_append]
      exact order.append_right _

theorem Delivery.step {pipeline : PipelineConfig} {cfg : RtspConfig}
    {calls : List AppsinkCall} {events : List RtspEvent}
    {stream next : Stream} {event : StreamEvent}
    (delivery : Delivery pipeline calls events stream)
    (step : StreamStep pipeline cfg stream event next) :
    Delivery pipeline (calls ++ appsinkCalls [event])
      (events ++ rtspEvents [event]) next := by
  have moved (counter : next.branch.ptsCounter = stream.branch.ptsCounter)
      (hcalls : appsinkCalls [event] = [])
      (hframes : (pushedFrames (rtspEvents [event]) ++ next.enRoute).Sublist
        stream.enRoute) :
      Delivery pipeline (calls ++ appsinkCalls [event])
        (events ++ rtspEvents [event]) next := by
    rw [hcalls, List.append_nil]
    refine ⟨?_, ?_⟩
    · rw [counter]
      exact delivery.counter
    · rw [pushedFrames_append, List.append_assoc]
      exact ((hframes.append_left _).map _).trans delivery.order
  cases step with
  | @sample call branch h =>
      have hevents : events ++ rtspEvents [.sample call] = events :=
        List.append_nil events
      rw [hevents]
      exact delivery.sample h
  | close => exact moved rfl rfl (List.Sublist.refl _)
  | tick _ => exact moved rfl rfl (List.Sublist.refl _)
  | pop hpop step =>
      apply moved rfl rfl
      have hq := FrameQueue.pop_item hpop
      cases step with
      | pop hfeeder =>
          simp only [Stream.enRoute, hfeeder, hq]
          exact List.Sublist.refl _
  | drained hpop step =>
      apply moved rfl rfl
      have hq := FrameQueue.pop_none hpop
      cases step with
      | drained hfeeder =>
          simp only [Stream.enRoute, hfeeder, hq]
          exact List.Sublist.refl _
  | @server event server step own _ =>
      apply moved rfl rfl
      rw [Stream.enRoute, ← List.append_assoc]
      exact (step.inHand own).append_right _

theorem run_delivery {pipeline : PipelineConfig} {cfg : RtspConfig}
    {events : List StreamEvent} {stream : Stream}
    (run : (streamSystem pipeline cfg).Run events stream) :
    Delivery pipeline (appsinkCalls events) (rtspEvents events) stream := by
  induction run with
  | start hinitial =>
      rw [hinitial]
      exact ⟨CounterAt.zero, List.nil_sublist _⟩
  | extend _ step induction =>
      rw [appsinkCalls_append, rtspEvents_append]
      exact induction.step step

/-- What is pushed, to whichever client, keeps the order of the samples. -/
theorem pushed_sublist {pipeline : PipelineConfig} {cfg : RtspConfig}
    {events : List StreamEvent} {stream : Stream}
    (run : (streamSystem pipeline cfg).Run events stream) :
    ((pushedFrames (rtspEvents events)).map EncodedFrame.ptsNs).Sublist
      (presentationTimes pipeline.fps (appsinkCalls events)) := by
  have order := (run_delivery run).order
  rw [List.map_append] at order
  exact (List.sublist_append_left ..).trans order

end Delivery

end EmbeddedPortfolio.Pipeline
