import EmbeddedPortfolio.Pipeline.MainUnderway
import EmbeddedPortfolio.Pipeline.Stream
import EmbeddedPortfolio.Transition.Interleaving

namespace EmbeddedPortfolio.Pipeline

open EmbeddedPortfolio.Transition RtspServer

universe u v

/-! Where the frames of `gstpipe` go, from the appsinks to the raw consumer and
to the clients. -/

section Views

variable {State : Type u} {Event : Type v} {T : Type}

/-- A queue inside a system, and what each event does to it. -/
structure QueueView (system : System State Event) (T : Type) where
  queue : State → FrameQueue T
  accepted : Event → Option T
  returned : Event → Option T
  discarded : Event → Option T
  apart : ∀ event, returned event = none ∨ discarded event = none
  initial : ∀ state, system.initial state →
    ∃ capacity, queue state = FrameQueue.new capacity
  effect : ∀ state event next, system.step state event next →
    QueueEffect (queue state) (accepted event) (returned event)
      (discarded event) (queue next)

structure Tally (accepted returned discarded : List T)
    (queue : FrameQueue T) : Prop where
  bounded : queue.q.length ≤ queue.capacity
  pushed : queue.pushed = UInt64.ofNat accepted.length
  popped : queue.popped = UInt64.ofNat returned.length
  dropped : queue.dropped = UInt64.ofNat discarded.length

/-- What has been accepted was given out, dropped as the oldest, or is still
there, in this order; and the counters count it. -/
structure Passage (accepted returned discarded : List T)
    (queue : FrameQueue T) : Prop where
  tally : Tally accepted returned discarded queue
  order : ∃ removed, Interleaved returned discarded removed ∧
    accepted = removed ++ queue.q

theorem Passage.sublist {accepted returned discarded : List T}
    {queue : FrameQueue T}
    (passage : Passage accepted returned discarded queue) :
    returned.Sublist accepted := by
  obtain ⟨removed, hinterleaved, rfl⟩ := passage.order
  exact hinterleaved.sublist.trans (List.sublist_append_left _ _)

theorem Passage.balance {accepted returned discarded : List T}
    {queue : FrameQueue T}
    (passage : Passage accepted returned discarded queue) :
    accepted.length =
      returned.length + discarded.length + queue.q.length := by
  obtain ⟨removed, hinterleaved, rfl⟩ := passage.order
  rw [List.length_append, hinterleaved.length]

namespace QueueView

variable {system : System State Event} (view : QueueView system T)

def fifo : Fifo system T where
  contents state := (view.queue state).q
  takesIn := view.accepted
  givesUp event := (view.returned event).or (view.discarded event)
  empty state initial := by
    obtain ⟨capacity, hqueue⟩ := view.initial state initial
    rw [hqueue]
    rfl
  conserve state event next step := (view.effect state event next step).conserve

theorem tally {events : List Event} {state : State}
    (run : system.Run events state) :
    Tally (yielded view.accepted events) (yielded view.returned events)
      (yielded view.discarded events) (view.queue state) := by
  apply run.invariant (motive := fun events state =>
    Tally (yielded view.accepted events) (yielded view.returned events)
      (yielded view.discarded events) (view.queue state))
  · intro state initial
    obtain ⟨capacity, hqueue⟩ := view.initial state initial
    rw [hqueue]
    exact ⟨Nat.zero_le _, rfl, rfl, rfl⟩
  · intro events state event next tally step
    have effect := view.effect state event next step
    refine ⟨effect.bounded tally.bounded, ?_, ?_, ?_⟩
    · rw [effect.pushed, tally.pushed]
      simp [UInt64.ofNat_add]
    · rw [effect.popped, tally.popped]
      simp [UInt64.ofNat_add]
    · rw [effect.dropped, tally.dropped]
      simp [UInt64.ofNat_add]

theorem passage {events : List Event} {state : State}
    (run : system.Run events state) :
    Passage (yielded view.accepted events) (yielded view.returned events)
      (yielded view.discarded events) (view.queue state) where
  tally := view.tally run
  order := ⟨_, yielded_interleaved view.apart events, view.fifo.history run⟩

end QueueView

end Views

/-! The two queues of the program. -/

section Queues

variable {T : Type}

namespace MonitorEvent

variable {Thread : Type v}

def accepted : MonitorEvent Thread T → Option T
  | .body event => event.accepted
  | _ => none

def returned : MonitorEvent Thread T → Option T
  | .body event => event.returned
  | _ => none

def discarded : MonitorEvent Thread T → Option T
  | .body event => event.discarded
  | _ => none

theorem apart (event : MonitorEvent Thread T) :
    event.returned = none ∨ event.discarded = none := by
  cases event with
  | body event =>
      cases event with
      | push _ _ _ => exact Or.inl rfl
      | pop _ _ | tryPop _ _ | close _ => exact Or.inr rfl
  | _ => exact Or.inl rfl

end MonitorEvent

theorem MonitorStep.effect {Thread : Type v} [DecidableEq Thread]
    {monitor next : Monitor Thread T} {event : MonitorEvent Thread T}
    (step : MonitorStep monitor event next) :
    QueueEffect monitor.queue event.accepted event.returned event.discarded
      next.queue := by
  cases step with
  | @push _ thread _ _ _ h =>
      exact (@QueueStep.push _ _ _ _ thread _ _ h).effect
  | @pop _ thread _ _ h => exact (@QueueStep.pop _ _ _ _ thread _ h).effect
  | @tryPop _ thread _ _ h =>
      exact (@QueueStep.tryPop _ _ _ _ thread _ h).effect
  | close _ => exact .close
  | _ => exact .idle

theorem returned_of_streaming {event : MonitorEvent PipeThread T}
    (own : ofStreaming event = true) : event.returned = none := by
  cases event with
  | body event =>
      cases event with
      | push _ _ _ => rfl
      | pop _ _ | tryPop _ _ | close _ => cases own
  | _ => rfl

namespace PipeEvent

def encodedAccepted : PipeEvent → Option EncodedFrame
  | .encoded event => event.accepted
  | _ => none

def encodedReturned : PipeEvent → Option EncodedFrame
  | .encoded event => event.returned
  | .feederPop item => some item
  | _ => none

def encodedDiscarded : PipeEvent → Option EncodedFrame
  | .encoded event => event.discarded
  | _ => none

def rawAccepted : PipeEvent → Option RawFrame
  | .raw event => event.accepted
  | _ => none

def rawReturned : PipeEvent → Option RawFrame
  | .raw event => event.returned
  | .consumerPop frame => some frame
  | _ => none

def rawDiscarded : PipeEvent → Option RawFrame
  | .raw event => event.discarded
  | _ => none

end PipeEvent

theorem TeardownStep.effects {cfg : RtspConfig} {pipe next : GstPipe}
    (step : TeardownStep cfg pipe next) :
    QueueEffect pipe.encoded.queue none none none next.encoded.queue ∧
      QueueEffect pipe.raw.queue none none none next.raw.queue := by
  cases step with
  | closeEncoded _ step | notifyEncoded _ step | closeSource _ step
  | notifySource _ step => exact ⟨step.effect, .idle⟩
  | closeRaw _ step | notifyRaw _ step => exact ⟨.idle, step.effect⟩
  | _ => exact ⟨.idle, .idle⟩

theorem PipeStep.effects {cfg : RtspConfig} {pipe next : GstPipe}
    {event : PipeEvent} (step : PipeStep cfg pipe event next) :
    QueueEffect pipe.encoded.queue event.encodedAccepted event.encodedReturned
        event.encodedDiscarded next.encoded.queue ∧
      QueueEffect pipe.raw.queue event.rawAccepted event.rawReturned
        event.rawDiscarded next.raw.queue := by
  cases step with
  | encoded step _ _ => exact ⟨step.effect, .idle⟩
  | raw step _ _ => exact ⟨.idle, step.effect⟩
  | feederPop _ step | feederDrained _ step | feederWait _ step =>
      exact ⟨step.effect, .idle⟩
  | consumerPop _ step | consumerDrained _ step | consumerWait _ step =>
      exact ⟨.idle, step.effect⟩
  | main step => exact step.effects
  | _ => exact ⟨.idle, .idle⟩

def encodedView (cfg : RtspConfig) (encoded raw : Nat) :
    QueueView (pipeSystem cfg encoded raw) EncodedFrame where
  queue pipe := pipe.encoded.queue
  accepted := PipeEvent.encodedAccepted
  returned := PipeEvent.encodedReturned
  discarded := PipeEvent.encodedDiscarded
  apart event := by
    cases event with
    | encoded event => exact event.apart
    | _ => exact Or.inr rfl
  initial := by
    rintro pipe ⟨server, _, rfl⟩
    exact ⟨encoded, rfl⟩
  effect _ _ _ step := (PipeStep.effects step).1

def rawView (cfg : RtspConfig) (encoded raw : Nat) :
    QueueView (pipeSystem cfg encoded raw) RawFrame where
  queue pipe := pipe.raw.queue
  accepted := PipeEvent.rawAccepted
  returned := PipeEvent.rawReturned
  discarded := PipeEvent.rawDiscarded
  apart event := by
    cases event with
    | raw event => exact event.apart
    | _ => exact Or.inr rfl
  initial := by
    rintro pipe ⟨server, _, rfl⟩
    exact ⟨raw, rfl⟩
  effect _ _ _ step := (PipeStep.effects step).2

end Queues

/-! What the two threads behind the queues make of the frames. -/

section Consumers

def ConsumerPlace.inHand : ConsumerPlace → List RawFrame
  | .folding frame => [frame]
  | _ => []

def dataBytes (frames : List RawFrame) : Nat :=
  (frames.map fun frame => frame.data.length).sum

/-- The consumer has counted each frame that it took, but for the one that it
is folding. -/
structure Folded (taken : List RawFrame) (consumer : RawConsumer) : Prop where
  account : ∃ folded, taken = folded ++ consumer.place.inHand ∧
    consumer.frames = UInt64.ofNat folded.length ∧
    consumer.bytes = UInt64.ofNat (dataBytes folded)

theorem Folded.unhanded {taken : List RawFrame} {consumer : RawConsumer}
    (folded : Folded taken consumer) {place : ConsumerPlace}
    (before : consumer.place.inHand = []) (after : place.inHand = []) :
    Folded taken { consumer with place } := by
  obtain ⟨frames, htaken, hframes, hbytes⟩ := folded.account
  refine ⟨frames, ?_, hframes, hbytes⟩
  rw [htaken, before]
  exact congrArg _ after.symm

theorem PipeStep.folded {cfg : RtspConfig} {pipe next : GstPipe}
    {event : PipeEvent} (step : PipeStep cfg pipe event next)
    {taken : List RawFrame} (folded : Folded taken pipe.consumer) :
    Folded (taken ++ event.rawReturned.toList) next.consumer := by
  have still (hreturned : event.rawReturned = none)
      (hconsumer : Folded taken next.consumer) :
      Folded (taken ++ event.rawReturned.toList) next.consumer := by
    rw [hreturned]
    simpa using hconsumer
  cases step with
  | raw _ own _ => exact still (returned_of_streaming own) folded
  | consumerCheck checking =>
      apply still rfl
      apply folded.unhanded (by rw [checking]; rfl)
      cases pipe.run <;> rfl
  | @consumerPop frame _ popping _ =>
      obtain ⟨frames, htaken, hframes, hbytes⟩ := folded.account
      refine ⟨frames, ?_, hframes, hbytes⟩
      rw [popping] at htaken
      rw [htaken]
      simp [ConsumerPlace.inHand, PipeEvent.rawReturned]
  | consumerDrained popping _ =>
      exact still rfl (folded.unhanded (by rw [popping]; rfl) rfl)
  | @consumerFold frame folding =>
      apply still rfl
      obtain ⟨frames, htaken, hframes, hbytes⟩ := folded.account
      rw [folding] at htaken
      refine ⟨frames ++ [frame], ?_, ?_, ?_⟩
      · rw [htaken]
        exact (List.append_nil _).symm
      · change pipe.consumer.frames + 1 = _
        rw [hframes]
        simp [UInt64.ofNat_add]
      · change pipe.consumer.bytes + UInt64.ofNat frame.data.length = _
        rw [hbytes]
        simp [dataBytes, UInt64.ofNat_add]
  | main step => cases step <;> exact still rfl folded
  | _ => exact still rfl folded

namespace PipeEvent

/-- What an event is to the server, but for the steps of its `shutdown`. -/
def rtsp : PipeEvent → Option RtspEvent
  | .server event => some event
  | .feederPop item => some (.pop item)
  | .feederDrained => some .drained
  | _ => none

end PipeEvent

def sentFrames (events : List PipeEvent) : List EncodedFrame :=
  pushedFrames (events.filterMap PipeEvent.rtsp)

/-- The feeder sends what it popped, or passes it over; `served` counts some of
what it sent. -/
structure Sent (popped sent : List EncodedFrame) (server : RtspServer) :
    Prop where
  order : (sent ++ server.feeder.inHand).Sublist popped
  served : ∃ accepted, server.served = UInt64.ofNat accepted ∧
    accepted + server.feeder.buffers ≤ sent.length

theorem RtspStep.served {cfg : RtspConfig} {server next : RtspServer}
    {event : RtspEvent} (step : RtspStep cfg server event next)
    {sent : List EncodedFrame}
    (served : ∃ accepted, server.served = UInt64.ofNat accepted ∧
      accepted + server.feeder.buffers ≤ sent.length) :
    ∃ accepted, next.served = UInt64.ofNat accepted ∧
      accepted + next.feeder.buffers ≤
        (sent ++ pushedFrames [event]).length := by
  obtain ⟨accepted, hserved, hsent⟩ := served
  have still (hnext : next.served = server.served)
      (hbuffers : next.feeder.buffers ≤ server.feeder.buffers) :
      ∃ accepted, next.served = UInt64.ofNat accepted ∧
        accepted + next.feeder.buffers ≤
          (sent ++ pushedFrames [event]).length := by
    refine ⟨accepted, hnext.trans hserved, ?_⟩
    rw [List.length_append]
    omega
  cases step with
  | push hfeeder =>
      rw [hfeeder] at hsent
      refine ⟨accepted, hserved, ?_⟩
      simpa [FeederLocation.buffers, pushedFrames, RtspEvent.pushedFrame]
        using hsent
  | @release src flow hfeeder =>
      rw [hfeeder] at hsent
      change accepted + 1 ≤ sent.length at hsent
      by_cases hok : flow = .ok
      · refine ⟨accepted + 1, ?_, ?_⟩
        · simp [hok, hserved, UInt64.ofNat_add]
        · rw [List.length_append]
          simp only [FeederLocation.buffers]
          omega
      · refine ⟨accepted, by simp [hok, hserved], ?_⟩
        rw [List.length_append]
        simp only [FeederLocation.buffers]
        omega
  | enter hfeeder | leave hfeeder | pop hfeeder | drained hfeeder
  | skip hfeeder | letThrough hfeeder | fetchNone hfeeder
  | fetchSome hfeeder => exact still rfl (by rw [hfeeder]; exact Nat.le_refl _)
  | _ => exact still rfl (Nat.le_refl _)

theorem Sent.same {popped sent : List EncodedFrame}
    {server next : RtspServer} (isSent : Sent popped sent server)
    (feeder : next.feeder = server.feeder)
    (served : next.served = server.served) : Sent popped sent next := by
  refine ⟨?_, ?_⟩
  · rw [feeder]
    exact isSent.order
  · rw [feeder, served]
    exact isSent.served

theorem TeardownStep.sent {cfg : RtspConfig} {pipe next : GstPipe}
    (step : TeardownStep cfg pipe next) {popped sent : List EncodedFrame}
    (isSent : Sent popped sent pipe.server) : Sent popped sent next.server := by
  cases step with
  | stopServer _ step | joinFeeder _ step | releaseServer _ step =>
      cases step
      exact isSent.same rfl rfl
  | _ => exact isSent

theorem PipeStep.sent {cfg : RtspConfig} {pipe next : GstPipe}
    {event : PipeEvent} (step : PipeStep cfg pipe event next)
    {popped sent : List EncodedFrame} (isSent : Sent popped sent pipe.server) :
    Sent (popped ++ event.encodedReturned.toList)
      (sent ++ pushedFrames event.rtsp.toList) next.server := by
  have still (hpopped : event.encodedReturned = none)
      (hsent : pushedFrames event.rtsp.toList = [])
      (hserver : Sent popped sent next.server) :
      Sent (popped ++ event.encodedReturned.toList)
        (sent ++ pushedFrames event.rtsp.toList) next.server := by
    rw [hpopped, hsent]
    simpa using hserver
  cases step with
  | encoded _ own _ => exact still (returned_of_streaming own) rfl isSent
  | @feederPop item _ _ step _ =>
      refine ⟨?_, step.served isSent.served⟩
      have horder := isSent.order
      cases step with
      | pop hfeeder =>
          rw [hfeeder] at horder
          change ((sent ++ []) ++ [item]).Sublist (popped ++ [item])
          rw [List.append_nil]
          exact ((List.sublist_append_left _ _).trans horder).append_right _
  | feederDrained step _ =>
      refine ⟨?_, step.served isSent.served⟩
      have horder := isSent.order
      cases step with
      | drained hfeeder =>
          rw [hfeeder] at horder
          change ((sent ++ []) ++ []).Sublist (popped ++ [])
          rw [List.append_nil, List.append_nil, List.append_nil]
          exact (List.sublist_append_left _ _).trans horder
  | @server event _ step inside _ =>
      refine ⟨?_, step.served isSent.served⟩
      have hown : event.usesQueue = false := by
        rw [← inside]
        cases event <;> rfl
      change ((sent ++ pushedFrames [event]) ++ _).Sublist (popped ++ [])
      rw [List.append_assoc, List.append_nil]
      exact ((step.inHand hown).append_left sent).trans isSent.order
  | main step => exact still rfl rfl (step.sent isSent)
  | _ => exact still rfl rfl isSent

end Consumers

/-- The frames of a run, on both sides. -/
structure FramesAccounted (events : List PipeEvent) (pipe : GstPipe) :
    Prop where
  encoded : Passage (yielded PipeEvent.encodedAccepted events)
    (yielded PipeEvent.encodedReturned events)
    (yielded PipeEvent.encodedDiscarded events) pipe.encoded.queue
  sent : Sent (yielded PipeEvent.encodedReturned events) (sentFrames events)
    pipe.server
  delivered : (sentFrames events).Sublist
    (yielded PipeEvent.encodedAccepted events)
  raw : Passage (yielded PipeEvent.rawAccepted events)
    (yielded PipeEvent.rawReturned events)
    (yielded PipeEvent.rawDiscarded events) pipe.raw.queue
  folded : Folded (yielded PipeEvent.rawReturned events) pipe.consumer
  left : (yielded PipeEvent.rawAccepted events).length =
    (yielded PipeEvent.rawReturned events).length +
      (yielded PipeEvent.rawDiscarded events).length +
        pipe.raw.queue.q.length
  finished : pipe.main = .returned →
    pipe.consumer.frames =
        UInt64.ofNat (yielded PipeEvent.rawReturned events).length ∧
      pipe.consumer.bytes =
        UInt64.ofNat (dataBytes (yielded PipeEvent.rawReturned events))

theorem run_folded {cfg : RtspConfig} {encoded raw : Nat}
    {events : List PipeEvent} {pipe : GstPipe}
    (run : (pipeSystem cfg encoded raw).Run events pipe) :
    Folded (yielded PipeEvent.rawReturned events) pipe.consumer := by
  apply run.invariant (motive := fun events pipe =>
    Folded (yielded PipeEvent.rawReturned events) pipe.consumer)
  · rintro pipe ⟨server, _, rfl⟩
    exact ⟨[], rfl, rfl, rfl⟩
  · intro events pipe event next folded step
    rw [yielded_append, yielded_singleton]
    exact PipeStep.folded step folded

theorem run_sent {cfg : RtspConfig} {encoded raw : Nat}
    {events : List PipeEvent} {pipe : GstPipe}
    (run : (pipeSystem cfg encoded raw).Run events pipe) :
    Sent (yielded PipeEvent.encodedReturned events) (sentFrames events)
      pipe.server := by
  apply run.invariant (motive := fun events pipe =>
    Sent (yielded PipeEvent.encodedReturned events) (sentFrames events)
      pipe.server)
  · rintro pipe ⟨server, hserver, rfl⟩
    rcases hserver with rfl | rfl
    · exact ⟨List.Sublist.refl _, 0, rfl, Nat.le_refl _⟩
    · exact ⟨List.Sublist.refl _, 0, rfl, Nat.le_refl _⟩
  · intro events pipe event next isSent step
    have hsent : sentFrames (events ++ [event]) =
        sentFrames events ++ pushedFrames event.rtsp.toList := by
      unfold sentFrames
      rw [List.filterMap_append, pushedFrames_append]
      cases hrtsp : event.rtsp <;> simp [hrtsp]
    rw [yielded_append, yielded_singleton, hsent]
    exact PipeStep.sent step isSent

/-- In every interleaving, the shutdown included. -/
theorem frames_accounted {cfg : RtspConfig} {encoded raw : Nat}
    {events : List PipeEvent} {pipe : GstPipe}
    (run : (pipeSystem cfg encoded raw).Run events pipe) :
    FramesAccounted events pipe := by
  have folded := run_folded run
  have isSent := run_sent run
  have hencoded := (encodedView cfg encoded raw).passage run
  have hraw := (rawView cfg encoded raw).passage run
  have hdelivered := (List.sublist_append_left _ _).trans isSent.order
  refine ⟨hencoded, isSent, hdelivered.trans hencoded.sublist, hraw, folded,
    hraw.balance, ?_⟩
  intro returned
  have hexited : pipe.consumer.place = .exited := by
    have underway := run_underway run
    rw [returned] at underway
    exact underway.consumer (by decide)
  obtain ⟨frames, htaken, hframes, hbytes⟩ := folded.account
  rw [hexited] at htaken
  rw [htaken.trans (List.append_nil frames)]
  exact ⟨hframes, hbytes⟩

def rawFrame (byte : UInt8) : RawFrame := ⟨[byte], 1, 1, "NV12", 0⟩

/-- The second raw frame displaces the first, and the consumer takes it. -/
theorem frames_accounted_displaced :
    ∃ (events : List PipeEvent) (pipe : GstPipe),
      yielded PipeEvent.rawDiscarded events = [rawFrame 1] ∧
        FramesAccounted events pipe := by
  have launched : (pipeSystem demoConfig 1 1).Run []
      (GstPipe.launched 1 1 RtspServer.attached) :=
    .start ⟨_, Or.inl rfl, rfl⟩
  have stored := (launched.extend (.raw (@MonitorStep.push _ _ _ _ _ .streaming
    (rawFrame 1) .stored rfl rfl) rfl fun _ => rfl)).extend
      (.raw (@MonitorStep.notifyNobody _ _ _ _ .streaming rfl (by
        intro other
        cases other <;> (intro waiting; cases waiting))) rfl nofun)
  have displaced := stored.extend (.raw (@MonitorStep.push _ _ _ _ _ .streaming
    (rawFrame 2) (.displaced (rawFrame 1)) rfl rfl) rfl fun _ => rfl)
  have taken := (displaced.extend (.consumerCheck rfl)).extend
    (.consumerPop rfl (.pop (Or.inl rfl) rfl))
  exact ⟨_, _, rfl, frames_accounted taken⟩

end EmbeddedPortfolio.Pipeline
