import EmbeddedPortfolio.Pipeline.QueueSide

namespace EmbeddedPortfolio.Pipeline

open EmbeddedPortfolio.Transition RtspServer

/-! How far each thread of `gstpipe` has got when `main` is at a given place
of its teardown. -/

namespace MainPlace

/-- How many steps `main` is away from its `return`. -/
def remaining : MainPlace → Nat
  | .looping => 14
  | .quitted => 13
  | .lowered => 12
  | .silenced => 11
  | .closingEncoded => 10
  | .closedEncoded => 9
  | .closingRaw => 8
  | .closedRaw => 7
  | .stopping => 6
  | .closingSource => 5
  | .joiningFeeder => 4
  | .releasing => 3
  | .shutDown => 2
  | .joiningReporter => 1
  | .returned => 0

def past (place mark : MainPlace) : Prop :=
  place.remaining ≤ mark.remaining

instance (place mark : MainPlace) : Decidable (place.past mark) :=
  inferInstanceAs (Decidable (_ ≤ _))

/-- Inside `shutdown`, between `running_.exchange(false)` and `join`. -/
def joins : MainPlace → Bool
  | .stopping => true
  | .closingSource => true
  | .joiningFeeder => true
  | _ => false

end MainPlace

structure ServerShut (place : MainPlace) (server : RtspServer) : Prop where
  running : server.running = true → ¬ place.past .stopping
  exited : server.running = false → place.joins = false →
    server.feeder = .exited
  joining : place.joins = true → server.shutdown = .joining
  joined : place = .releasing → server.shutdown = .joined

theorem RtspStep.staysExited {cfg : RtspConfig} {server next : RtspServer}
    {event : RtspEvent} (step : RtspStep cfg server event next)
    (exited : server.feeder = .exited) : next.feeder = .exited := by
  cases step with
  | enter h _ | leave h _ | pop h | drained h | skip h _ | letThrough h _
  | fetchNone h _ | fetchSome h _ | push h | release h =>
      cases exited.symm.trans h
  | _ => exact exited

theorem RtspStep.staysPopping {cfg : RtspConfig} {server next : RtspServer}
    {event : RtspEvent} (step : RtspStep cfg server event next)
    (inside : event.ofPop = false) (popping : server.feeder = .popping) :
    next.feeder = .popping := by
  cases step with
  | pop _ | drained _ => cases inside
  | enter h _ | leave h _ | skip h _ | letThrough h _ | fetchNone h _
  | fetchSome h _ | push h | release h =>
      cases popping.symm.trans h
  | _ => exact popping

theorem ServerShut.step {place : MainPlace} {cfg : RtspConfig}
    {server next : RtspServer} {event : RtspEvent}
    (shut : ServerShut place server) (step : RtspStep cfg server event next)
    (outside : event.ofShutdown = false) : ServerShut place next := by
  obtain ⟨hrunning, hshutdown⟩ := step.outsideShutdown outside
  refine ⟨?_, ?_, ?_, ?_⟩
  · rw [hrunning]
    exact shut.running
  · rw [hrunning]
    intro hstopped hjoins
    exact step.staysExited (shut.exited hstopped hjoins)
  · rw [hshutdown]
    exact shut.joining
  · rw [hshutdown]
    exact shut.joined

/-- How far the threads have got when `main` is at `place`. -/
structure Underway (place : MainPlace) (pipe : GstPipe) : Prop where
  run : place.past .lowered → pipe.run = false
  playing : pipe.playing = true → ¬ place.past .silenced
  encoded : QueueSide .feeder (pipe.server.feeder = .popping)
    (pipe.playing = true)
    (place = .closingEncoded ∨ place = .closingSource)
    (place.past .closingEncoded) pipe.encoded
  raw : QueueSide .rawConsumer (pipe.consumer.place = .popping)
    (pipe.playing = true) (place = .closingRaw) (place.past .closingRaw)
    pipe.raw
  server : ServerShut place pipe.server
  consumer : place.past .joiningReporter → pipe.consumer.place = .exited
  reporter : place.past .returned → pipe.reporter = .exited

theorem ServerShut.advance {place target : MainPlace} {server : RtspServer}
    (shut : ServerShut place server)
    (running : target.past .stopping → place.past .stopping)
    (joins : target.joins = place.joins) (joined : target ≠ .releasing) :
    ServerShut target server := by
  refine ⟨fun h past => shut.running h (running past), ?_, ?_, ?_⟩
  · rw [joins]
    exact shut.exited
  · rw [joins]
    exact shut.joining
  · intro h
    exact absurd h joined

theorem underway_launched (encoded raw : Nat) {server : RtspServer}
    (hserver : server = RtspServer.attached ∨ server = RtspServer.dormant) :
    Underway .looping (GstPipe.launched encoded raw server) where
  run := fun h => absurd h (by decide)
  playing := fun _ => by decide
  encoded := ⟨seated_outside.mono id id (by decide), nofun,
    fun h => absurd h (by decide)⟩
  raw := ⟨seated_outside.mono id id (by decide), nofun,
    fun h => absurd h (by decide)⟩
  server := by
    refine ⟨fun _ => by decide, ?_, nofun,
      nofun⟩
    intro hstopped _
    rcases hserver with rfl | rfl
    · cases hstopped
    · rfl
  consumer := fun h => absurd h (by decide)
  reporter := fun h => absurd h (by decide)

/-! The steps of the teardown. -/

namespace Underway

variable {place target : MainPlace} {cfg : RtspConfig} {pipe next : GstPipe}
variable {encoded : Monitor PipeThread EncodedFrame}
variable {raw : Monitor PipeThread RawFrame} {server : RtspServer}

/-- Behind `silence`, and before the consumer is joined. -/
theorem before (underway : Underway place pipe)
    (silenced : place.past .silenced)
    (early : ¬ target.past .joiningReporter)
    (run : next.run = pipe.run) (playing : next.playing = pipe.playing)
    (encoded : QueueSide .feeder (next.server.feeder = .popping)
      (next.playing = true)
      (target = .closingEncoded ∨ target = .closingSource)
      (target.past .closingEncoded) next.encoded)
    (raw : QueueSide .rawConsumer (next.consumer.place = .popping)
      (next.playing = true) (target = .closingRaw) (target.past .closingRaw)
      next.raw)
    (server : ServerShut target next.server) : Underway target next where
  run _ := run.trans (underway.run (le_trans silenced (by decide)))
  playing h := absurd silenced (underway.playing (playing.symm.trans h))
  encoded := encoded
  raw := raw
  server := server
  consumer h := absurd h early
  reporter h := absurd (le_trans h (by decide)) early

theorem lower (underway : Underway .quitted pipe) :
    Underway .lowered { pipe with run := false, main := .lowered } where
  run _ := rfl
  playing _ := by decide
  encoded := underway.encoded.mono id id (by decide) (by decide)
  raw := underway.raw.mono id id (by decide) (by decide)
  server := underway.server.advance (by decide) rfl (by decide)
  consumer h := absurd h (by decide)
  reporter h := absurd h (by decide)

theorem silence (underway : Underway .lowered pipe)
    (hencoded : pipe.encoded.location .streaming = .outside)
    (hraw : pipe.raw.location .streaming = .outside) :
    Underway .silenced { pipe with playing := false, main := .silenced } where
  run _ := underway.run (by decide)
  playing := nofun
  encoded := (underway.encoded.silence hencoded).mono id nofun (by decide)
    (by decide)
  raw := (underway.raw.silence hraw).mono id nofun (by decide) (by decide)
  server := underway.server.advance (by decide) rfl (by decide)
  consumer h := absurd h (by decide)
  reporter h := absurd h (by decide)

theorem closeEncoded (underway : Underway .silenced pipe)
    (step : MonitorStep pipe.encoded (.body (.close .main)) encoded) :
    Underway .closingEncoded
      { pipe with encoded := encoded, main := .closingEncoded } :=
  underway.before (by decide) (by decide) rfl rfl
    ((underway.encoded.close step).mono id id (by decide) (by decide))
    (underway.raw.mono id id (by decide) (by decide))
    (underway.server.advance (by decide) rfl (by decide))

theorem notifyEncoded (underway : Underway .closingEncoded pipe)
    (step : MonitorStep pipe.encoded (.notifyAll .main) encoded) :
    Underway .closedEncoded
      { pipe with encoded := encoded, main := .closedEncoded } :=
  underway.before (by decide) (by decide) rfl rfl
    ((underway.encoded.notifyAll step).mono id id (by decide) (by decide))
    (underway.raw.mono id id (by decide) (by decide))
    (underway.server.advance (by decide) rfl (by decide))

theorem closeRaw (underway : Underway .closedEncoded pipe)
    (step : MonitorStep pipe.raw (.body (.close .main)) raw) :
    Underway .closingRaw { pipe with raw := raw, main := .closingRaw } :=
  underway.before (by decide) (by decide) rfl rfl
    (underway.encoded.mono id id (by decide) (by decide))
    ((underway.raw.close step).mono id id (by decide) (by decide))
    (underway.server.advance (by decide) rfl (by decide))

theorem notifyRaw (underway : Underway .closingRaw pipe)
    (step : MonitorStep pipe.raw (.notifyAll .main) raw) :
    Underway .closedRaw { pipe with raw := raw, main := .closedRaw } :=
  underway.before (by decide) (by decide) rfl rfl
    (underway.encoded.mono id id (by decide) (by decide))
    ((underway.raw.notifyAll step).mono id id (by decide) (by decide))
    (underway.server.advance (by decide) rfl (by decide))

/-- `attach` has failed. -/
theorem skipShutdown (underway : Underway .closedRaw pipe)
    (stopped : pipe.server.running = false) :
    Underway .shutDown { pipe with main := .shutDown } := by
  have hserver : ServerShut .shutDown pipe.server :=
    ⟨fun h => (nomatch stopped.symm.trans h),
      fun _ _ => underway.server.exited stopped rfl, nofun, nofun⟩
  exact underway.before (by decide) (by decide) rfl rfl
    (underway.encoded.mono id id (by decide) (by decide))
    (underway.raw.mono id id (by decide) (by decide)) hserver

theorem stopServer (underway : Underway .closedRaw pipe)
    (step : RtspStep cfg pipe.server .shutdownStop server) :
    Underway .stopping { pipe with server := server, main := .stopping } := by
  cases step with
  | shutdownStop _ =>
      exact underway.before (by decide) (by decide) rfl rfl
        (underway.encoded.mono id id (by decide) (by decide))
        (underway.raw.mono id id (by decide) (by decide))
        ⟨nofun, nofun, fun _ => rfl, nofun⟩

theorem closeSource (underway : Underway .stopping pipe)
    (step : MonitorStep pipe.encoded (.body (.close .main)) encoded) :
    Underway .closingSource
      { pipe with encoded := encoded, main := .closingSource } :=
  underway.before (by decide) (by decide) rfl rfl
    ((underway.encoded.close step).mono id id (by decide) (by decide))
    (underway.raw.mono id id (by decide) (by decide))
    (underway.server.advance (by decide) rfl (by decide))

theorem notifySource (underway : Underway .closingSource pipe)
    (step : MonitorStep pipe.encoded (.notifyAll .main) encoded) :
    Underway .joiningFeeder
      { pipe with encoded := encoded, main := .joiningFeeder } :=
  underway.before (by decide) (by decide) rfl rfl
    ((underway.encoded.notifyAll step).mono id id (by decide) (by decide))
    (underway.raw.mono id id (by decide) (by decide))
    (underway.server.advance (by decide) rfl (by decide))

theorem joinFeeder (underway : Underway .joiningFeeder pipe)
    (step : RtspStep cfg pipe.server .shutdownJoin server) :
    Underway .releasing
      { pipe with server := server, main := .releasing } := by
  cases step with
  | shutdownJoin _ hexited =>
      have hserver : ServerShut .releasing
          { pipe.server with shutdown := .joined } :=
        ⟨fun h => absurd (by decide) (underway.server.running h),
          fun _ _ => hexited, nofun, fun _ => rfl⟩
      exact underway.before (by decide) (by decide) rfl rfl
        (underway.encoded.mono id id (by decide) (by decide))
        (underway.raw.mono id id (by decide) (by decide)) hserver

theorem releaseServer (underway : Underway .releasing pipe)
    (step : RtspStep cfg pipe.server .shutdownRelease server) :
    Underway .shutDown { pipe with server := server, main := .shutDown } := by
  cases step with
  | shutdownRelease _ =>
      have hserver : ServerShut .shutDown
          { pipe.server with
            appsrc := none
            shutdown := .finished
            refs := unrefOption pipe.server.refs pipe.server.appsrc } :=
        ⟨fun h => absurd (by decide) (underway.server.running h),
          fun h _ => underway.server.exited h rfl, nofun, nofun⟩
      exact underway.before (by decide) (by decide) rfl rfl
        (underway.encoded.mono id id (by decide) (by decide))
        (underway.raw.mono id id (by decide) (by decide)) hserver

theorem joinConsumer (underway : Underway .shutDown pipe)
    (hexited : pipe.consumer.place = .exited) :
    Underway .joiningReporter { pipe with main := .joiningReporter } where
  run _ := underway.run (by decide)
  playing h := absurd (by decide) (underway.playing h)
  encoded := underway.encoded.mono id id (by decide) (by decide)
  raw := underway.raw.mono id id (by decide) (by decide)
  server := underway.server.advance (by decide) rfl (by decide)
  consumer _ := hexited
  reporter h := absurd h (by decide)

theorem joinReporter (underway : Underway .joiningReporter pipe)
    (hexited : pipe.reporter = .exited) :
    Underway .returned { pipe with main := .returned } where
  run _ := underway.run (by decide)
  playing h := absurd (by decide) (underway.playing h)
  encoded := underway.encoded.mono id id (by decide) (by decide)
  raw := underway.raw.mono id id (by decide) (by decide)
  server := underway.server.advance (by decide) rfl (by decide)
  consumer _ := underway.consumer (by decide)
  reporter _ := hexited

/-- The main loop is left, with `run` as it was or lowered. -/
theorem quit (underway : Underway .looping pipe) (run : Bool) :
    Underway .quitted { pipe with run := run, main := .quitted } where
  run h := absurd h (by decide)
  playing _ := by decide
  encoded := underway.encoded.mono id id (by decide) (by decide)
  raw := underway.raw.mono id id (by decide) (by decide)
  server := underway.server.advance (by decide) rfl (by decide)
  consumer h := absurd h (by decide)
  reporter h := absurd h (by decide)

theorem teardown (underway : Underway pipe.main pipe)
    (step : TeardownStep cfg pipe next) : Underway next.main next := by
  cases step with
  | lower hmain =>
      rw [hmain] at underway
      exact underway.lower
  | silence hmain hencoded hraw =>
      rw [hmain] at underway
      exact underway.silence hencoded hraw
  | closeEncoded hmain step =>
      rw [hmain] at underway
      exact underway.closeEncoded step
  | notifyEncoded hmain step =>
      rw [hmain] at underway
      exact underway.notifyEncoded step
  | closeRaw hmain step =>
      rw [hmain] at underway
      exact underway.closeRaw step
  | notifyRaw hmain step =>
      rw [hmain] at underway
      exact underway.notifyRaw step
  | skipShutdown hmain hstopped =>
      rw [hmain] at underway
      exact underway.skipShutdown hstopped
  | stopServer hmain step =>
      rw [hmain] at underway
      exact underway.stopServer step
  | closeSource hmain step =>
      rw [hmain] at underway
      exact underway.closeSource step
  | notifySource hmain step =>
      rw [hmain] at underway
      exact underway.notifySource step
  | joinFeeder hmain step =>
      rw [hmain] at underway
      exact underway.joinFeeder step
  | releaseServer hmain step =>
      rw [hmain] at underway
      exact underway.releaseServer step
  | joinConsumer hmain hexited =>
      rw [hmain] at underway
      exact underway.joinConsumer hexited
  | joinReporter hmain hexited =>
      rw [hmain] at underway
      exact underway.joinReporter hexited

end Underway

theorem Underway.step {cfg : RtspConfig} {pipe next : GstPipe}
    {event : PipeEvent} (underway : Underway pipe.main pipe)
    (step : PipeStep cfg pipe event next) : Underway next.main next := by
  have hfeeder : PipeThread.feeder ≠ .main := by decide
  have hconsumer : PipeThread.rawConsumer ≠ .main := by decide
  obtain ⟨run, playing, encoded, raw, server, consumer, reporter⟩ :=
    id underway
  cases step with
  | encoded step own pushing =>
      exact ⟨run, playing, encoded.streaming step own pushing, raw, server,
        consumer, reporter⟩
  | raw step own pushing =>
      exact ⟨run, playing, encoded, raw.streaming step own pushing, server,
        consumer, reporter⟩
  | feederPop popped step =>
      exact ⟨run, playing, encoded.pop hfeeder step _, raw,
        server.step popped rfl, consumer, reporter⟩
  | feederDrained drained step =>
      exact ⟨run, playing, encoded.pop hfeeder step _, raw,
        server.step drained rfl, consumer, reporter⟩
  | feederWait popping step =>
      exact ⟨run, playing, encoded.wait step popping, raw, server, consumer,
        reporter⟩
  | server step inside outside =>
      exact ⟨run, playing,
        encoded.mono (step.staysPopping inside) id Iff.rfl id, raw,
        server.step step outside, consumer, reporter⟩
  | consumerCheck checking =>
      refine ⟨run, playing, encoded, raw.mono ?_ id Iff.rfl id, server, ?_,
        reporter⟩
      · intro popping
        cases checking.symm.trans popping
      · intro past
        cases checking.symm.trans (consumer past)
  | consumerPop popping step =>
      refine ⟨run, playing, encoded, raw.pop hconsumer step _, server, ?_,
        reporter⟩
      intro past
      cases popping.symm.trans (consumer past)
  | consumerDrained _ step =>
      exact ⟨run, playing, encoded, raw.pop hconsumer step _, server,
        fun _ => rfl, reporter⟩
  | consumerWait popping step =>
      exact ⟨run, playing, encoded, raw.wait step popping, server, consumer,
        reporter⟩
  | consumerFold folding =>
      refine ⟨run, playing, encoded, raw.mono ?_ id Iff.rfl id, server, ?_,
        reporter⟩
      · intro popping
        cases folding.symm.trans popping
      · intro past
        cases folding.symm.trans (consumer past)
  | reporterCheck checking =>
      refine ⟨run, playing, encoded, raw, server, consumer, ?_⟩
      intro past
      cases checking.symm.trans (reporter past)
  | reporterWake sleeping =>
      refine ⟨run, playing, encoded, raw, server, consumer, ?_⟩
      intro past
      cases sleeping.symm.trans (reporter past)
  | unixSignal hmain =>
      rw [hmain] at underway
      exact underway.quit pipe.run
  | pipelineError hmain =>
      rw [hmain] at underway
      exact underway.quit false
  | main step => exact underway.teardown step

theorem run_underway {cfg : RtspConfig} {encoded raw : Nat}
    {events : List PipeEvent} {pipe : GstPipe}
    (run : (pipeSystem cfg encoded raw).Run events pipe) :
    Underway pipe.main pipe := by
  apply run.invariant (motive := fun _ pipe => Underway pipe.main pipe)
  · rintro pipe ⟨server, hserver, rfl⟩
    exact underway_launched encoded raw hserver
  · intro _ pipe event next underway step
    exact underway.step step

end EmbeddedPortfolio.Pipeline
