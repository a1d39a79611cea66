import EmbeddedPortfolio.Pipeline.Timestamps

namespace EmbeddedPortfolio.Pipeline

open EmbeddedPortfolio.Instrumentation EmbeddedPortfolio.Transition RtspServer

/-! Every sequence of samples can reach the feeder, with a client configured
just before any one of them. -/

/-- The branch after `index` mapped samples, `frames` being in the queue. -/
structure BranchHolds (pipeline : PipelineConfig) (index : Nat)
    (frames : List EncodedFrame) (branch : EncodedBranch) : Prop where
  content : branch.encQ.q = frames
  isOpen : branch.encQ.closed = false
  room : 0 < branch.encQ.capacity
  counter : CounterAt pipeline.fps index branch.ptsCounter
  latency : ∃ history, LatencyTracker.Tracks 512 history branch.appsinkLatency

theorem recordLatency_tracks {tracker : LatencyTracker} {history : List ℚ}
    (tracks : LatencyTracker.Tracks 512 history tracker) (ms : Option ℚ) :
    ∃ next, recordLatency tracker ms = some next ∧
      ∃ history, LatencyTracker.Tracks 512 history next := by
  cases ms with
  | none => exact ⟨tracker, rfl, history, tracks⟩
  | some ms =>
      obtain ⟨next, hadd, hnext⟩ :=
        LatencyTracker.tracks_add (by decide) ms tracks
      exact ⟨next, hadd, _, hnext⟩

theorem BranchHolds.sample {pipeline : PipelineConfig} {index : Nat}
    {branch : EncodedBranch} {call : AppsinkCall} {buffer : SampleBuffer}
    (holds : BranchHolds pipeline index [] branch)
    (hmapped : call.mapped = some buffer) :
    ∃ next item, branch.onNewEncodedSample pipeline call = some next ∧
      item.ptsNs = samplePts pipeline.fps index buffer ∧
      BranchHolds pipeline (index + 1) [item] next := by
  obtain ⟨content, isOpen, room, counter, history, tracks⟩ := holds
  obtain ⟨tracker, hrecord, later⟩ :=
    recordLatency_tracks tracks (call.latencyMs buffer)
  obtain ⟨encQ, hpush, hcontent, hopen, hcapacity⟩ :=
    FrameQueue.push_room isOpen (by rw [content]; exact room)
      (call.encodedFrame branch.ptsCounter buffer)
  rw [content, List.nil_append] at hcontent
  refine ⟨{
    ptsCounter := branch.ptsCounter + UInt64.ofNat (framePeriod pipeline.fps)
    encQ := encQ
    appsinkLatency := tracker }, call.encodedFrame branch.ptsCounter buffer,
    ?_, counter.encodedFrame call buffer, hcontent, hopen, ?_,
    counter.advance, later⟩
  · simp only [EncodedBranch.onNewEncodedSample, hmapped, hrecord, hpush,
      Option.bind_eq_bind, Option.bind_some]
  · rw [hcapacity]
    exact room

theorem BranchHolds.pop {pipeline : PipelineConfig} {index : Nat}
    {branch : EncodedBranch} {item : EncodedFrame}
    (holds : BranchHolds pipeline index [item] branch) :
    ∃ encQ, branch.encQ.pop = some (some item, encQ) ∧
      BranchHolds pipeline index [] { branch with encQ := encQ } := by
  obtain ⟨content, isOpen, room, counter, latency⟩ := holds
  refine ⟨{ branch.encQ with q := [], popped := branch.encQ.popped + 1 }, ?_,
    rfl, isOpen, room, counter, latency⟩
  simp [FrameQueue.pop, FrameQueue.ready, FrameQueue.takeFront, content]

/-- The feeder is about to look at an empty queue, with the gate open. -/
structure StreamReady (pipeline : PipelineConfig) (index : Nat)
    (client : Option AppSrc) (stream : Stream) : Prop where
  branch : BranchHolds pipeline index [] stream.branch
  feeder : stream.server.feeder = .top
  running : stream.server.running = true
  gate : stream.server.feeding = true
  appsrc : stream.server.appsrc = client
  fresh : client = none → stream.server.stage 0 = .unborn

/-- Some schedule takes in the calls and stamps the buffers of client 0 as
given. -/
def Serves (pipeline : PipelineConfig) (cfg : RtspConfig) (stream : Stream)
    (calls : List AppsinkCall) (stamped : List UInt64) (next : Stream) : Prop :=
  ∃ events, ((streamSystem pipeline cfg).resume stream).Run events next ∧
    appsinkCalls events = calls ∧ stampsFor 0 (rtspEvents events) = stamped

section Serving

variable {pipeline : PipelineConfig} {cfg : RtspConfig}

theorem Serves.refl (stream : Stream) :
    Serves pipeline cfg stream [] [] stream :=
  ⟨[], .start rfl, rfl, rfl⟩

theorem Serves.trans {stream middle next : Stream}
    {calls more : List AppsinkCall} {stamped later : List UInt64}
    (first : Serves pipeline cfg stream calls stamped middle)
    (second : Serves pipeline cfg middle more later next) :
    Serves pipeline cfg stream (calls ++ more) (stamped ++ later) next := by
  obtain ⟨events, run, rfl, rfl⟩ := first
  obtain ⟨others, further, rfl, rfl⟩ := second
  refine ⟨events ++ others, run.append further, ?_, ?_⟩
  · rw [appsinkCalls_append]
  · rw [rtspEvents_append, stampsFor_append]

theorem serve_unmapped (stream : Stream) {call : AppsinkCall}
    (hmapped : call.mapped = none) :
    Serves pipeline cfg stream [call] [] stream := by
  have hcall : stream.branch.onNewEncodedSample pipeline call =
      some stream.branch := by
    simp only [EncodedBranch.onNewEncodedSample, hmapped]
  exact ⟨[.sample call], System.Run.extend (.start rfl) (.sample hcall),
    rfl, rfl⟩

theorem StreamReady.fetching {index : Nat} {client : Option AppSrc}
    {stream : Stream} {call : AppsinkCall} {buffer : SampleBuffer}
    (ready : StreamReady pipeline index client stream)
    (hmapped : call.mapped = some buffer) :
    ∃ next item, Serves pipeline cfg stream [call] [] next ∧
      item.ptsNs = samplePts pipeline.fps index buffer ∧
      BranchHolds pipeline (index + 1) [] next.branch ∧
      next.server = { stream.server with feeder := .fetching item } ∧
      next.elapsed = stream.elapsed := by
  obtain ⟨branch, feeder, running, gate, _, _⟩ := ready
  obtain ⟨filled, item, hsample, hpts, hfilled⟩ := branch.sample hmapped
  obtain ⟨encQ, hpop, hempty⟩ := hfilled.pop
  have hgate : passesGate stream.server.feeding item = true := by
    rw [passesGate, gate]
    rfl
  have run := ((((System.Run.start rfl :
    ((streamSystem pipeline cfg).resume stream).Run [] stream).extend
    (.sample hsample)).extend
    (.server (.enter feeder running) rfl trivial)).extend
    (.pop hpop (.pop rfl))).extend
    (.server (.letThrough rfl hgate) rfl trivial)
  exact ⟨_, item, ⟨_, run, rfl, rfl⟩, hpts, hempty, rfl, rfl⟩

/-- A frame nobody receives. -/
theorem StreamReady.unserved {index : Nat} {stream : Stream}
    {call : AppsinkCall} {buffer : SampleBuffer}
    (ready : StreamReady pipeline index none stream)
    (hmapped : call.mapped = some buffer) :
    ∃ next, Serves pipeline cfg stream [call] [] next ∧
      StreamReady pipeline (index + 1) none next ∧
      next.server.basePts = stream.server.basePts ∧
      next.elapsed = stream.elapsed := by
  obtain ⟨⟨branch, server, elapsed⟩, item, serves, _, hbranch, hserver,
    helapsed⟩ := ready.fetching hmapped
  cases hserver
  cases helapsed
  have start : ((streamSystem pipeline cfg).resume ⟨branch,
      { stream.server with feeder := .fetching item }, stream.elapsed⟩).Run
      [] _ := .start rfl
  have run := start.extend
    (.server (@RtspStep.fetchNone cfg _ item rfl ready.appsrc) rfl trivial)
  exact ⟨_, serves.trans ⟨_, run, rfl, rfl⟩,
    ⟨hbranch, rfl, ready.running, ready.gate, ready.appsrc, ready.fresh⟩,
    rfl, rfl⟩

/-- What a buffer of time `time` is stamped with once the base is latched. -/
def stampOf (basePts elapsed time : UInt64) : UInt64 :=
  if basePts ≤ time then time - basePts else elapsed

theorem StreamReady.served {index : Nat} {stream : Stream}
    {call : AppsinkCall} {buffer : SampleBuffer}
    (ready : StreamReady pipeline index (some 0) stream)
    (hmapped : call.mapped = some buffer) :
    ∃ next item, item.ptsNs = samplePts pipeline.fps index buffer ∧
      Serves pipeline cfg stream [call] [stampOf
        (latchBase stream.server.basePts item) stream.elapsed item.ptsNs] next ∧
      StreamReady pipeline (index + 1) (some 0) next ∧
      next.server.basePts = latchBase stream.server.basePts item ∧
      next.elapsed = stream.elapsed := by
  obtain ⟨⟨branch, server, elapsed⟩, item, serves, hpts, hbranch, hserver,
    helapsed⟩ := ready.fetching hmapped
  cases hserver
  cases helapsed
  have start : ((streamSystem pipeline cfg).resume ⟨branch,
      { stream.server with feeder := .fetching item }, stream.elapsed⟩).Run
      [] _ := .start rfl
  have run := ((start.extend
    (.server (@RtspStep.fetchSome cfg _ item 0 rfl ready.appsrc) rfl
      trivial)).extend
    (.server (@RtspStep.push _ _ _ _ stream.elapsed .ok rfl) rfl rfl)).extend
    (.server (.release rfl) rfl trivial)
  exact ⟨_, item, hpts, serves.trans ⟨_, run, rfl, rfl⟩,
    ⟨hbranch, rfl, ready.running, ready.gate, ready.appsrc, nofun⟩, rfl, rfl⟩

theorem StreamReady.configured {index : Nat} {stream : Stream}
    (ready : StreamReady pipeline index none stream) :
    ∃ next, Serves pipeline cfg stream [] [] next ∧
      StreamReady pipeline index (some 0) next ∧
      next.server.basePts = stream.server.basePts ∧
      next.elapsed = stream.elapsed := by
  have run := ((((System.Run.start rfl :
    ((streamSystem pipeline cfg).resume stream).Run [] stream).extend
    (.server (@RtspStep.locate _ _ 0 (ready.fresh rfl)) rfl trivial)).extend
    (.server (@RtspStep.install _ _ 0 rfl) rfl trivial)).extend
    (.server (@RtspStep.feed _ _ 0 rfl) rfl trivial)).extend
    (.server (@RtspStep.finish _ _ 0 rfl) rfl trivial)
  exact ⟨_, ⟨_, run, rfl, rfl⟩,
    ⟨ready.branch, ready.feeder, ready.running, rfl, rfl, nofun⟩, rfl, rfl⟩

/-- Every frame goes to the client, against a base that stays. -/
theorem StreamReady.serveAll {index : Nat} {stream : Stream}
    (ready : StreamReady pipeline index (some 0) stream)
    (hbase : stream.server.basePts ≠ clockTimeNone)
    (calls : List AppsinkCall) :
    ∃ next, Serves pipeline cfg stream calls
      ((presentationTimesFrom pipeline.fps index calls).map
        (stampOf stream.server.basePts stream.elapsed)) next := by
  induction calls generalizing index stream with
  | nil => exact ⟨stream, Serves.refl stream⟩
  | cons call calls induction =>
      cases hmapped : call.mapped with
      | none =>
          obtain ⟨next, serves⟩ := induction ready hbase
          rw [presentationTimesFrom_cons_none hmapped]
          exact ⟨next, (serve_unmapped stream hmapped).trans serves⟩
      | some buffer =>
          obtain ⟨middle, item, hpts, first, hready, hlatched, helapsed⟩ :=
            ready.served hmapped
          rw [latchBase_of_ne hbase] at first hlatched
          obtain ⟨next, serves⟩ := induction hready (by rwa [hlatched])
          rw [hlatched, helapsed] at serves
          rw [presentationTimesFrom_cons_some hmapped, List.map_cons, ← hpts]
          exact ⟨next, first.trans serves⟩

/-- The client comes just before the frame that is to give the base. -/
theorem StreamReady.serveFrom {index : Nat} {stream : Stream}
    (ready : StreamReady pipeline index none stream)
    (hbase : stream.server.basePts = clockTimeNone)
    {calls : List AppsinkCall} {first second third : UInt64}
    (hfirst : first ≠ clockTimeNone)
    (hthree : [first, second, third].Sublist
      (presentationTimesFrom pipeline.fps index calls)) :
    ∃ next stamped, Serves pipeline cfg stream calls stamped next ∧
      [stampOf first stream.elapsed second,
        stampOf first stream.elapsed third].Sublist stamped := by
  induction calls generalizing index stream with
  | nil => cases hthree
  | cons call calls induction =>
      cases hmapped : call.mapped with
      | none =>
          rw [presentationTimesFrom_cons_none hmapped] at hthree
          obtain ⟨next, stamped, serves, htwo⟩ := induction ready hbase hthree
          exact ⟨next, stamped,
            (serve_unmapped stream hmapped).trans serves, htwo⟩
      | some buffer =>
          rw [presentationTimesFrom_cons_some hmapped,
            List.sublist_cons_iff] at hthree
          rcases hthree with hlater | ⟨rest, hhere, hrest⟩
          · obtain ⟨middle, unserved, hready, hsame, helapsed⟩ :=
              ready.unserved hmapped
            obtain ⟨next, stamped, serves, htwo⟩ :=
              induction hready (hsame.trans hbase) hlater
            rw [helapsed] at htwo
            exact ⟨next, stamped, unserved.trans serves, htwo⟩
          · obtain ⟨rfl, rfl⟩ := List.cons.inj hhere
            obtain ⟨joined, configured, hjoined, hsame, helapsed⟩ :=
              ready.configured
            obtain ⟨middle, item, hpts, served, hready, hlatched, hclock⟩ :=
              hjoined.served hmapped
            rw [hsame, hbase, latchBase, if_pos rfl, hpts] at hlatched
            obtain ⟨next, serves⟩ :=
              hready.serveAll (by rwa [hlatched]) calls
            rw [hlatched, hclock, helapsed] at serves
            refine ⟨next, _, configured.trans (served.trans serves), ?_⟩
            exact (hrest.map _).trans (List.sublist_append_right ..)

end Serving

/-- The stamps of two frames after the base, with the clock at either end of
its range. -/
theorem RunsBack.stampOf_lt {first second third : UInt64}
    (runsBack : RunsBack first second third) :
    ∃ elapsed, stampOf first elapsed third < stampOf first elapsed second := by
  rcases runsBack with ⟨hsecond, hthird⟩ | ⟨hsecond, hthird⟩
  · refine ⟨0, ?_⟩
    unfold stampOf
    split <;> split <;> grind
  · refine ⟨clockTimeNone, ?_⟩
    unfold stampOf clockTimeNone
    split <;> split <;> grind

theorem opened_run (fps : Int) (cfg : RtspConfig) (elapsed : UInt64) :
    ∃ stream, (streamSystem ⟨fps, 1⟩ cfg).Run
        [.tick elapsed, .server .needData] stream ∧
      StreamReady ⟨fps, 1⟩ 0 none stream ∧
      stream.server.basePts = clockTimeNone ∧ stream.elapsed = elapsed := by
  have run := ((System.Run.start rfl :
    (streamSystem ⟨fps, 1⟩ cfg).Run [] (.new ⟨fps, 1⟩)).extend
    (@StreamStep.tick _ _ _ elapsed UInt64.zero_le)).extend
    (.server .needData rfl trivial)
  refine ⟨_, run, ⟨⟨rfl, rfl, Nat.zero_lt_one, CounterAt.zero, [], ?_⟩, rfl,
    rfl, rfl, rfl, fun _ => rfl⟩, rfl, rfl⟩
  exact ⟨rfl, Statistics.Layout.empty 512, rfl, rfl⟩

/-- Whatever the queue's capacity, the schedule and the clock, the stamps keep
their order exactly when no three presentation times run back. -/
theorem stamps_monotone_iff (fps : Int) (calls : List AppsinkCall) :
    (∀ capacity cfg events stream,
      (streamSystem ⟨fps, capacity⟩ cfg).Run events stream →
      appsinkCalls events = calls → StampsMonotone (rtspEvents events)) ↔
    Orderly (presentationTimes fps calls) := by
  constructor
  · intro monotone first second third hthree hfirst runsBack
    obtain ⟨elapsed, hlt⟩ := runsBack.stampOf_lt
    obtain ⟨opened, run, ready, hbase, helapsed⟩ :=
      opened_run fps demoConfig elapsed
    obtain ⟨stream, stamped, ⟨events, served, hcalls, hstamped⟩, htwo⟩ :=
      ready.serveFrom hbase hfirst hthree
    have hmonotone := monotone 1 demoConfig _ stream (run.append served)
      (by rw [appsinkCalls_append, hcalls]; rfl) 0
    rw [rtspEvents_append, stampsFor_append, hstamped] at hmonotone
    have hpair := hmonotone.sublist
      (htwo.trans (List.sublist_append_right ..))
    rw [helapsed] at hpair
    have hle := List.rel_of_pairwise_cons hpair (List.mem_singleton_self _)
    exact absurd hlt (UInt64.not_lt.mpr hle)
  · intro orderly capacity cfg events stream run hcalls
    rw [← hcalls] at orderly
    exact stamps_monotone_of_orderly run orderly

def sampleCall (pts : UInt64) : AppsinkCall where
  sample := some (some
    { data := [0x65], pts := pts, deltaUnit := false, mappable := true })
  monoNs := 0
  clock := none

/-- At 30 frames a second: a frame of the encoder's, one that comes without a
PTS and one of the encoder's again. -/
def mixedCalls : List AppsinkCall :=
  [sampleCall 10000000000, sampleCall clockTimeNone, sampleCall 10066666666]

def validTimes (calls : List AppsinkCall) : List UInt64 :=
  ((calls.filterMap AppsinkCall.mapped).filter SampleBuffer.ptsIsValid).map
    SampleBuffer.pts

def timedFrame (ptsNs : UInt64) : EncodedFrame :=
  { idrFrame with ptsNs := ptsNs }

/-- The feeder takes one frame to the client. -/
def feederTurn (item : EncodedFrame) (basePts elapsed : UInt64) :
    List StreamEvent :=
  [.server .enter, .server (.pop item), .server (.letThrough item),
    .server (.fetch item (some 0)),
    .server (.push item 0 (makeBuffer demoConfig basePts elapsed item)),
    .server (.release 0 .ok)]

theorem feederTurn_run {pipeline : PipelineConfig}
    {events : List StreamEvent} {stream : Stream} {branch : EncodedBranch}
    {encQ : FrameQueue EncodedFrame} (call : AppsinkCall) (item : EncodedFrame)
    (run : (streamSystem pipeline demoConfig).Run events stream)
    (hsample : stream.branch.onNewEncodedSample pipeline call = some branch)
    (hpop : branch.encQ.pop = some (some item, encQ))
    (hfeeder : stream.server.feeder = .top)
    (hrunning : stream.server.running = true)
    (hgate : passesGate stream.server.feeding item = true)
    (happsrc : stream.server.appsrc = some 0) :
    (streamSystem pipeline demoConfig).Run
      (events ++ .sample call ::
        feederTurn item stream.server.basePts stream.elapsed)
      { stream with
        branch := { branch with encQ := encQ }
        server := { stream.server with
          feeder := .top
          basePts := latchBase stream.server.basePts item
          served := stream.server.served + 1
          refs := unref (ref stream.server.refs 0) 0
          buffers := stream.server.buffers + 1 - 1 } } := by
  have fetching := (((run.extend (.sample hsample)).extend
    (.server (.enter hfeeder hrunning) rfl trivial)).extend
    (.pop hpop (.pop rfl))).extend
    (.server (.letThrough rfl hgate) rfl trivial)
  have released := ((fetching.extend
    (.server (.fetchSome rfl happsrc) rfl trivial)).extend
    (.server (@RtspStep.push _ _ _ _ stream.elapsed .ok rfl) rfl rfl)).extend
    (.server (.release rfl) rfl trivial)
  simp only [List.append_assoc, List.cons_append, List.nil_append] at released
  exact released

/-- The second frame is below the base, and is stamped with the twelve seconds
the feeder has been running. -/
def mixedEvents : List StreamEvent :=
  [.server (.locate 0), .server (.install 0), .server (.feed 0),
    .server (.finish 0), .tick 12000000000] ++
  .sample (sampleCall 10000000000) ::
    feederTurn (timedFrame 10000000000) clockTimeNone 12000000000 ++
  .sample (sampleCall clockTimeNone) ::
    feederTurn (timedFrame 33333333) 10000000000 12000000000 ++
  .sample (sampleCall 10066666666) ::
    feederTurn (timedFrame 10066666666) 10000000000 12000000000

theorem stamps_run_backwards :
    (validTimes mixedCalls).Pairwise (· ≤ ·) ∧
      appsinkCalls mixedEvents = mixedCalls ∧
      (∃ stream, (streamSystem ⟨30, 60⟩ demoConfig).Run mixedEvents stream) ∧
      stampsFor 0 (rtspEvents mixedEvents) = [0, 12000000000, 66666666] ∧
      ¬ StampsMonotone (rtspEvents mixedEvents) := by
  have hstamps :
      stampsFor 0 (rtspEvents mixedEvents) = [0, 12000000000, 66666666] := by
    decide +kernel
  have configured := (((((System.Run.start rfl :
    (streamSystem ⟨30, 60⟩ demoConfig).Run [] (.new ⟨30, 60⟩)).extend
    (.server (@RtspStep.locate _ _ 0 rfl) rfl trivial)).extend
    (.server (@RtspStep.install _ _ 0 rfl) rfl trivial)).extend
    (.server (@RtspStep.feed _ _ 0 rfl) rfl trivial)).extend
    (.server (@RtspStep.finish _ _ 0 rfl) rfl trivial)).extend
    (@StreamStep.tick _ _ _ 12000000000 UInt64.zero_le)
  have first := feederTurn_run (sampleCall 10000000000)
    (timedFrame 10000000000) configured rfl rfl rfl rfl rfl rfl
  have second := feederTurn_run (sampleCall clockTimeNone)
    (timedFrame 33333333) first rfl rfl rfl rfl rfl rfl
  have third := feederTurn_run (sampleCall 10066666666)
    (timedFrame 10066666666) second rfl rfl rfl rfl rfl rfl
  refine ⟨by decide +kernel, rfl, ⟨_, third⟩, hstamps, ?_⟩
  intro monotone
  have hpair := monotone 0
  rw [hstamps] at hpair
  revert hpair
  decide +kernel

end EmbeddedPortfolio.Pipeline
