import EmbeddedPortfolio.Pipeline.Stall
import EmbeddedPortfolio.Pipeline.TimestampRuns

namespace EmbeddedPortfolio.Pipeline

open EmbeddedPortfolio.Transition RtspServer

/-! Where the presentation times of one appsrc start.  The feeder's time base
is latched by the first buffer of all, and outlives the appsrc it went to. -/

namespace RtspEvent

def pushTo (src : AppSrc) : RtspEvent → Option (EncodedFrame × GstBuffer)
  | .push item target buffer =>
      if target = src then some (item, buffer) else none
  | _ => none

end RtspEvent

def pushesTo (src : AppSrc) (events : List RtspEvent) :
    List (EncodedFrame × GstBuffer) :=
  events.filterMap (RtspEvent.pushTo src)

@[simp] theorem pushesTo_append (src : AppSrc)
    (first second : List RtspEvent) :
    pushesTo src (first ++ second) =
      pushesTo src first ++ pushesTo src second :=
  List.filterMap_append ..

/-- The frames taken from the queue come in presentation order. -/
def InOrder (frames : List EncodedFrame) : Prop :=
  (frames.map EncodedFrame.ptsNs).Pairwise (· ≤ ·)

instance (frames : List EncodedFrame) : Decidable (InOrder frames) :=
  inferInstanceAs
    (Decidable ((frames.map EncodedFrame.ptsNs).Pairwise (· ≤ ·)))

/-- Each appsrc's first buffer is stamped zero, and each later one with the
distance of its frame from that first buffer's. -/
def StartsAtZero (events : List RtspEvent) : Prop :=
  ∀ src first rest, pushesTo src events = first :: rest →
    first.2.pts = 0 ∧
      ∀ push ∈ rest, push.2.pts = push.1.ptsNs - first.1.ptsNs

/-- The time of the earliest frame. -/
def baseOf : List EncodedFrame → UInt64
  | [] => clockTimeNone
  | earliest :: _ => earliest.ptsNs

/-- The first frame each appsrc is given is as old as the first frame that any
appsrc was given. -/
def OneTimeBase (events : List RtspEvent) : Prop :=
  ∀ src first rest, pushesTo src events = first :: rest →
    first.1.ptsNs = baseOf (pushedFrames events)

section Order

theorem InOrder.sublist {frames fewer : List EncodedFrame}
    (inOrder : InOrder frames) (hfewer : fewer.Sublist frames) :
    InOrder fewer :=
  List.Pairwise.sublist (hfewer.map EncodedFrame.ptsNs) inOrder

theorem InOrder.earliest_le {earliest : EncodedFrame}
    {frames : List EncodedFrame} (inOrder : InOrder (earliest :: frames))
    (item : EncodedFrame) (hitem : item ∈ frames) :
    earliest.ptsNs ≤ item.ptsNs := by
  unfold InOrder at inOrder
  rw [List.map_cons, List.pairwise_cons] at inOrder
  exact inOrder.1 _ (List.mem_map_of_mem hitem)

theorem InOrder.baseOf_le {frames : List EncodedFrame}
    (inOrder : InOrder frames) (item : EncodedFrame) (hitem : item ∈ frames) :
    baseOf frames ≤ item.ptsNs := by
  cases frames with
  | nil => cases hitem
  | cons earliest frames =>
      rcases List.mem_cons.mp hitem with hfirst | hlater
      · rw [hfirst]
        exact UInt64.le_rfl
      · exact inOrder.earliest_le item hlater

theorem baseOf_append {frames : List EncodedFrame} (hframes : frames ≠ [])
    (more : List EncodedFrame) : baseOf (frames ++ more) = baseOf frames := by
  cases frames with
  | nil => exact absurd rfl hframes
  | cons earliest frames => rfl

/-- A frame whose time is the none value leaves the base unlatched, and then
all later frames have that time too. -/
theorem latchBase_baseOf {frames : List EncodedFrame} {item : EncodedFrame}
    (inOrder : InOrder (frames ++ [item])) :
    latchBase (baseOf frames) item = baseOf (frames ++ [item]) := by
  cases frames with
  | nil => rfl
  | cons earliest frames =>
      have hle : earliest.ptsNs ≤ item.ptsNs :=
        inOrder.earliest_le item (by simp)
      show latchBase earliest.ptsNs item = earliest.ptsNs
      unfold latchBase
      split
      · rename_i hnone
        rw [hnone] at hle ⊢
        exact UInt64.le_antisymm (by unfold clockTimeNone; grind) hle
      · rfl

end Order

section TimeBase

structure TimeBase (events : List RtspEvent) (server : RtspServer) : Prop where
  order : (pushedFrames events ++ server.feeder.inHand).Sublist
    (poppedFrames events)
  base : server.basePts = baseOf (pushedFrames events)
  pushed : ∀ src, ∀ push ∈ pushesTo src events, push.1 ∈ pushedFrames events
  stamped : ∀ src, ∀ push ∈ pushesTo src events,
    push.2.pts = push.1.ptsNs - baseOf (pushedFrames events)

theorem pushesTo_singleton_of_silent (src : AppSrc) {event : RtspEvent}
    (hevent : event.isPush = false) :
    pushesTo src [event] = [] ∧ pushedFrames [event] = [] := by
  cases event with
  | push _ _ _ => cases hevent
  | _ => exact ⟨rfl, rfl⟩

theorem eq_of_mem_pushesTo_push {src target : AppSrc} {item : EncodedFrame}
    {buffer : GstBuffer} {push : EncodedFrame × GstBuffer}
    (hpush : push ∈ pushesTo src [.push item target buffer]) :
    push = (item, buffer) := by
  rcases List.mem_filterMap.mp hpush with ⟨event, hevent, hvalue⟩
  rw [List.mem_singleton] at hevent
  rw [hevent, RtspEvent.pushTo] at hvalue
  split at hvalue
  · exact (Option.some.inj hvalue).symm
  · cases hvalue

theorem TimeBase.silent {cfg : RtspConfig} {events : List RtspEvent}
    {server next : RtspServer} {event : RtspEvent}
    (timeBase : TimeBase events server)
    (step : RtspStep cfg server event next)
    (hevent : event.isPush = false)
    (order : next.feeder.inHand.Sublist
      (server.feeder.inHand ++ poppedFrames [event])) :
    TimeBase (events ++ [event]) next := by
  obtain ⟨earlier, base, pushed, stamped⟩ := timeBase
  have hframes : pushedFrames (events ++ [event]) = pushedFrames events := by
    rw [pushedFrames_append, (pushesTo_singleton_of_silent 0 hevent).2,
      List.append_nil]
  have hpushes (src : AppSrc) :
      pushesTo src (events ++ [event]) = pushesTo src events := by
    rw [pushesTo_append, (pushesTo_singleton_of_silent src hevent).1,
      List.append_nil]
  refine ⟨?_, ?_, ?_, ?_⟩
  · rw [hframes, poppedFrames_append]
    refine (order.append_left (pushedFrames events)).trans ?_
    rw [← List.append_assoc]
    exact earlier.append_right _
  · rw [hframes, step.basePts hevent]
    exact base
  · intro src
    rw [hframes, hpushes]
    exact pushed src
  · intro src
    rw [hframes, hpushes]
    exact stamped src

theorem TimeBase.push {cfg : RtspConfig} {events : List RtspEvent}
    {server : RtspServer} {item : EncodedFrame} {target : AppSrc}
    (timeBase : TimeBase events server) (elapsed : UInt64) (flow : FlowReturn)
    (hfeeder : server.feeder = .emitting item target)
    (inOrder : InOrder (poppedFrames events)) :
    TimeBase
      (events ++
        [.push item target (makeBuffer cfg server.basePts elapsed item)])
      { server with
        feeder := .releasing target flow
        basePts := latchBase server.basePts item
        buffers := server.buffers + 1 } := by
  obtain ⟨order, base, pushed, stamped⟩ := timeBase
  rw [hfeeder] at order
  have hframes : pushedFrames (events ++
      [.push item target (makeBuffer cfg server.basePts elapsed item)]) =
        pushedFrames events ++ [item] := pushedFrames_append ..
  have hpopped : poppedFrames (events ++
      [.push item target (makeBuffer cfg server.basePts elapsed item)]) =
        poppedFrames events := by
    rw [poppedFrames_append]
    exact List.append_nil _
  have hsorted : InOrder (pushedFrames events ++ [item]) :=
    inOrder.sublist order
  have hlatched : latchBase server.basePts item =
      baseOf (pushedFrames events ++ [item]) := by
    rw [base]
    exact latchBase_baseOf hsorted
  have hle : baseOf (pushedFrames events ++ [item]) ≤ item.ptsNs :=
    hsorted.baseOf_le item (by simp)
  refine ⟨?_, ?_, ?_, ?_⟩
  · rw [hframes, hpopped]
    simpa [FeederLocation.inHand] using order
  · rw [hframes]
    exact hlatched
  · intro src push hpush
    rw [hframes]
    rw [pushesTo_append, List.mem_append] at hpush
    rcases hpush with hearlier | hlast
    · exact List.mem_append_left _ (pushed src push hearlier)
    · rw [eq_of_mem_pushesTo_push hlast]
      exact List.mem_append_right _ (List.mem_singleton_self _)
  · intro src push hpush
    rw [hframes]
    rw [pushesTo_append, List.mem_append] at hpush
    rcases hpush with hearlier | hlast
    · have hmember := pushed src push hearlier
      rw [baseOf_append (List.ne_nil_of_mem hmember)]
      exact stamped src push hearlier
    · rw [eq_of_mem_pushesTo_push hlast]
      show rebasePts (latchBase server.basePts item) elapsed item = _
      rw [hlatched, rebasePts, if_pos hle]

theorem TimeBase.step {cfg : RtspConfig} {events : List RtspEvent}
    {server next : RtspServer} {event : RtspEvent}
    (timeBase : TimeBase events server)
    (step : RtspStep cfg server event next)
    (inOrder : InOrder (poppedFrames events)) :
    TimeBase (events ++ [event]) next := by
  cases hpush : event.isPush with
  | true =>
      cases step with
      | @push item src elapsed flow hfeeder =>
          exact timeBase.push elapsed flow hfeeder inOrder
      | _ => cases hpush
  | false =>
      apply timeBase.silent step hpush
      cases hqueue : event.usesQueue with
      | true =>
          cases step with
          | @pop item hfeeder =>
              exact List.sublist_append_right ..
          | drained hfeeder => exact List.nil_sublist _
          | _ => cases hqueue
      | false =>
          have hhand := step.inHand hqueue
          rw [(pushesTo_singleton_of_silent 0 hpush).2, List.nil_append]
            at hhand
          exact hhand.trans (List.sublist_append_left ..)

theorem run_timeBase {cfg : RtspConfig} {events : List RtspEvent}
    {server : RtspServer} (run : (rtspSystem cfg).Run events server)
    (inOrder : InOrder (poppedFrames events)) : TimeBase events server := by
  induction run with
  | start hinitial =>
      rw [hinitial]
      exact ⟨List.nil_sublist _, rfl, nofun, nofun⟩
  | @extend events server next event run step induction =>
      have earlier : InOrder (poppedFrames events) := by
        rw [poppedFrames_append] at inOrder
        exact inOrder.sublist (List.sublist_append_left ..)
      exact (induction earlier).step step earlier

end TimeBase

/-- One client that stays has one time base. -/
theorem oneTimeBase_of_one_appsrc {events : List RtspEvent} (src : AppSrc)
    (only : ∀ item target buffer, .push item target buffer ∈ events →
      target = src) : OneTimeBase events := by
  have hframes : pushedFrames events = (pushesTo src events).map Prod.fst := by
    induction events with
    | nil => rfl
    | cons event events induction =>
        have later := induction fun item target buffer hevent =>
          only item target buffer (List.mem_cons_of_mem _ hevent)
        cases event with
        | push item target buffer =>
            have htarget := only item target buffer List.mem_cons_self
            subst htarget
            simpa [pushedFrames, pushesTo, RtspEvent.pushTo,
              RtspEvent.pushedFrame] using later
        | _ => exact later
  intro target first rest hpushes
  have hmember : first ∈ pushesTo target events := by
    rw [hpushes]
    exact List.mem_cons_self
  rcases List.mem_filterMap.mp hmember with ⟨event, hevent, hvalue⟩
  cases event with
  | push item other buffer =>
      have hother := only item other buffer hevent
      rw [RtspEvent.pushTo] at hvalue
      split at hvalue
      · rename_i htarget
        rw [← htarget, hother] at hpushes
        rw [hframes, hpushes]
        rfl
      · cases hvalue
  | _ => cases hvalue

/-- The presentation times start anew for an appsrc exactly when its first
frame happens to have the time the base was latched at. -/
theorem startsAtZero_iff {cfg : RtspConfig} {events : List RtspEvent}
    {server : RtspServer} (run : (rtspSystem cfg).Run events server)
    (inOrder : InOrder (poppedFrames events)) :
    StartsAtZero events ↔ OneTimeBase events := by
  have timeBase := run_timeBase run inOrder
  have hpushed : InOrder (pushedFrames events) :=
    inOrder.sublist ((List.sublist_append_left ..).trans timeBase.order)
  constructor
  · intro startsAtZero src first rest hpushes
    have hmember : first ∈ pushesTo src events := by
      rw [hpushes]
      exact List.mem_cons_self
    have hstamp := timeBase.stamped src first hmember
    rw [(startsAtZero src first rest hpushes).1] at hstamp
    have hle := hpushed.baseOf_le first.1
      (timeBase.pushed src first hmember)
    grind
  · intro oneTimeBase src first rest hpushes
    have hbase := oneTimeBase src first rest hpushes
    refine ⟨?_, ?_⟩
    · rw [timeBase.stamped src first (by rw [hpushes]; simp), hbase,
        UInt64.sub_self]
    · intro push hpush
      rw [hbase]
      exact timeBase.stamped src push
        (by rw [hpushes]; exact List.mem_cons_of_mem _ hpush)

section Clients

/-- The feeder takes one frame to a client. -/
def delivery (item : EncodedFrame) (src : AppSrc) (basePts : UInt64) :
    List RtspEvent :=
  [.enter, .pop item, .letThrough item, .fetch item (some src),
    .push item src (demoBuffer item basePts), .release src .ok]

theorem delivery_run {events : List RtspEvent} {server : RtspServer}
    (run : (rtspSystem demoConfig).Run events server) (item : EncodedFrame)
    {src : AppSrc} (hfeeder : server.feeder = .top)
    (hrunning : server.running = true)
    (hgate : passesGate server.feeding item = true)
    (happsrc : server.appsrc = some src) :
    (rtspSystem demoConfig).Run (events ++ delivery item src server.basePts)
      { server with
        feeder := .top
        basePts := latchBase server.basePts item
        served := server.served + 1
        refs := unref (ref server.refs src) src
        buffers := server.buffers + 1 - 1 } := by
  have fetched := (((run.extend (RtspStep.enter hfeeder hrunning)).extend
    (@RtspStep.pop _ _ item rfl)).extend
    (RtspStep.letThrough rfl hgate)).extend (RtspStep.fetchSome rfl happsrc)
  have released := (fetched.extend
    (@RtspStep.push _ _ _ _ 0 .ok rfl)).extend (RtspStep.release rfl)
  simp only [List.append_assoc, List.cons_append, List.nil_append] at released
  exact released

def connected (src : AppSrc) : List RtspEvent :=
  [.locate src, .install src, .feed src, .finish src]

/-- A client who sees two frames, three seconds into the stream. -/
def oneClientEvents : List RtspEvent :=
  connected 0 ++ delivery (timedFrame 3000000000) 0 clockTimeNone ++
    delivery (timedFrame 3033333333) 0 3000000000

theorem oneClient_run :
    ∃ server, (rtspSystem demoConfig).Run oneClientEvents server := by
  have configured := configured_run (.start rfl :
    (rtspSystem demoConfig).Run [] RtspServer.attached) 0 rfl
  have first := delivery_run configured (timedFrame 3000000000) rfl rfl rfl rfl
  exact ⟨_, delivery_run first (timedFrame 3033333333) rfl rfl rfl rfl⟩

theorem oneClient_startsAtZero : StartsAtZero oneClientEvents := by
  obtain ⟨server, run⟩ := oneClient_run
  refine (startsAtZero_iff run (by decide +kernel)).mpr ?_
  apply oneTimeBase_of_one_appsrc 0
  intro item target buffer hevent
  simp [oneClientEvents, connected, delivery] at hevent
  grind

/-- After ten seconds the client is replaced by another. -/
def reconnectingEvents : List RtspEvent :=
  connected 0 ++ delivery (timedFrame 0) 0 clockTimeNone ++ connected 1 ++
    delivery (timedFrame 10000000000) 1 0

theorem reconnecting_not_startsAtZero :
    (∃ server, (rtspSystem demoConfig).Run reconnectingEvents server) ∧
      InOrder (poppedFrames reconnectingEvents) ∧
      pushesTo 1 reconnectingEvents = [(timedFrame 10000000000,
        demoBuffer (timedFrame 10000000000) 0)] ∧
      (demoBuffer (timedFrame 10000000000) 0).pts = 10000000000 ∧
      ¬ StartsAtZero reconnectingEvents := by
  have hpushes : pushesTo 1 reconnectingEvents = [(timedFrame 10000000000,
      demoBuffer (timedFrame 10000000000) 0)] := by
    decide +kernel
  have configured := configured_run (.start rfl :
    (rtspSystem demoConfig).Run [] RtspServer.attached) 0 rfl
  have first := delivery_run configured (timedFrame 0) rfl rfl rfl rfl
  have replaced := configured_run first 1 rfl
  have second :=
    delivery_run replaced (timedFrame 10000000000) rfl rfl rfl rfl
  refine ⟨⟨_, second⟩, by decide +kernel, hpushes, rfl, ?_⟩
  intro startsAtZero
  have hzero := (startsAtZero 1 _ _ hpushes).1
  revert hzero
  decide +kernel

end Clients

end EmbeddedPortfolio.Pipeline
