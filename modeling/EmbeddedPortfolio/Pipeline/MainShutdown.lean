import EmbeddedPortfolio.Pipeline.MainUnderway
import EmbeddedPortfolio.Transition.Descent

namespace EmbeddedPortfolio.Pipeline

open EmbeddedPortfolio.Transition RtspServer

/-! The end of `gstpipe`: closing the queues frees both consumers, and `main`
returns after every thread it joins. -/

/-! What is left to do once `stop` has closed both queues. -/

def FeederLocation.remaining (frames waiting : Nat) : FeederLocation → Nat
  | .top => 6 * frames + 2
  | .popping => 6 * frames + 1 + waiting
  | .gating _ => 6 * frames + 6
  | .fetching _ => 6 * frames + 5
  | .emitting _ _ => 6 * frames + 4
  | .releasing _ _ => 6 * frames + 3
  | .exited => 0

def ConsumerPlace.remaining (frames waiting : Nat) : ConsumerPlace → Nat
  | .checking => 3 * frames + 2
  | .popping => 3 * frames + 1 + waiting
  | .folding _ => 3 * frames + 3
  | .exited => 0

def ReporterPlace.remaining : ReporterPlace → Nat
  | .checking => 1
  | .sleeping => 2
  | .exited => 0

def waits {T : Type} (monitor : Monitor PipeThread T) (thread : PipeThread) :
    Nat :=
  if monitor.location thread = .waiting then 1 else 0

namespace GstPipe

def feederLeft (pipe : GstPipe) : Nat :=
  pipe.server.feeder.remaining pipe.encoded.queue.q.length
    (waits pipe.encoded .feeder)

def consumerLeft (pipe : GstPipe) : Nat :=
  pipe.consumer.place.remaining pipe.raw.queue.q.length
    (waits pipe.raw .rawConsumer)

def left (pipe : GstPipe) : Nat :=
  pipe.main.remaining + pipe.feederLeft + pipe.consumerLeft +
    pipe.reporter.remaining

end GstPipe

/-- The events of the threads that `main` waits for; a client may connect, and
its appsrc ask for data or refuse it, at any time. -/
def PipeEvent.ofThreads : PipeEvent → Bool
  | .server .needData => false
  | .server .enoughData => false
  | .server event => !event.ofCallback
  | _ => true

/-- `stop` has closed both queues. -/
structure Ending (pipe : GstPipe) : Prop where
  underway : Underway pipe.main pipe
  past : pipe.main.past .closingRaw

namespace Ending

variable {pipe : GstPipe}

theorem encodedClosed (ending : Ending pipe) :
    pipe.encoded.queue.closed = true :=
  ending.underway.encoded.closed (le_trans ending.past (by decide))

theorem rawClosed (ending : Ending pipe) : pipe.raw.queue.closed = true :=
  ending.underway.raw.closed ending.past

theorem stopped (ending : Ending pipe) : pipe.run = false :=
  ending.underway.run (le_trans ending.past (by decide))

theorem silent (ending : Ending pipe) : pipe.playing = false := by
  by_contra hplaying
  exact ending.underway.playing (by simpa using hplaying)
    (le_trans ending.past (by decide))

end Ending

/-- A silent streaming thread leaves only wake-ups, and those wake the
worker. -/
theorem Seated.wakes {T : Type} {worker : PipeThread}
    {popping playing notifying : Prop} {monitor next : Monitor PipeThread T}
    {event : MonitorEvent PipeThread T}
    (seated : Seated worker popping playing notifying monitor.location)
    (silent : ¬ playing) (step : MonitorStep monitor event next)
    (own : ofStreaming event = true) (quiet : pushes event = false) :
    popping ∧ next.queue = monitor.queue ∧
      waits next worker + 1 = waits monitor worker := by
  cases step with
  | push _ _ => cases quiet
  | @spurious thread hthread =>
      have hentitled := seated thread
      rw [hthread] at hentitled
      obtain ⟨rfl, hpopping⟩ := hentitled
      exact ⟨hpopping, rfl, by simp [waits, hthread]⟩
  | @notifyOne thread chosen hthread hchosen =>
      have hentitled := seated thread
      rw [hthread] at hentitled
      exact absurd hentitled.2 silent
  | @notifyNobody thread hthread _ =>
      have hentitled := seated thread
      rw [hthread] at hentitled
      exact absurd hentitled.2 silent
  | _ => cases own

theorem MonitorStep.popSome {T : Type} {thread : PipeThread} {item : T}
    {monitor next : Monitor PipeThread T}
    (step : MonitorStep monitor (.body (.pop thread (some item))) next) :
    monitor.queue.q.length = next.queue.q.length + 1 := by
  cases step with
  | pop _ h => rw [FrameQueue.pop_item h, List.length_cons]

theorem MonitorStep.notWaiting {T : Type} {thread : PipeThread}
    {monitor next : Monitor PipeThread T}
    (closed : monitor.queue.closed = true)
    (step : MonitorStep monitor (.wait thread) next) : False := by
  cases step with
  | wait _ h =>
      rw [pop_closed closed] at h
      cases h

theorem waits_close {T : Type} {worker : PipeThread}
    {monitor next : Monitor PipeThread T} (hworker : worker ≠ .main)
    (step : MonitorStep monitor (.body (.close .main)) next) :
    next.queue.q = monitor.queue.q ∧
      waits next worker = waits monitor worker := by
  cases step
  exact ⟨rfl, by simp [waits, Locations.move_other _ _ hworker]⟩

theorem waits_notifyAll {T : Type} (worker : PipeThread)
    {monitor next : Monitor PipeThread T}
    (step : MonitorStep monitor (.notifyAll .main) next) :
    next.queue.q = monitor.queue.q ∧
      waits next worker ≤ waits monitor worker := by
  cases step
  refine ⟨rfl, ?_⟩
  have hawake : wakeAll (Locations.move monitor.location .main .outside) worker
      ≠ .waiting := by
    unfold wakeAll
    split
    · intro impossible
      cases impossible
    · assumption
  simp [waits, hawake]

theorem FeederLocation.remaining_mono (feeder : FeederLocation)
    (frames : Nat) {waiting waiting' : Nat} (hwaiting : waiting' ≤ waiting) :
    feeder.remaining frames waiting' ≤ feeder.remaining frames waiting := by
  cases feeder with
  | popping =>
      simp only [remaining]
      omega
  | _ => exact le_refl _

theorem ConsumerPlace.remaining_mono (place : ConsumerPlace)
    (frames : Nat) {waiting waiting' : Nat} (hwaiting : waiting' ≤ waiting) :
    place.remaining frames waiting' ≤ place.remaining frames waiting := by
  cases place with
  | popping =>
      simp only [remaining]
      omega
  | _ => exact le_refl _

/-- `main` gets nearer to its `return`, and nobody else gets further from
it. -/
theorem TeardownStep.lowers {cfg : RtspConfig} {pipe next : GstPipe}
    (step : TeardownStep cfg pipe next) (past : pipe.main.past .closingRaw) :
    next.left < pipe.left := by
  have hfeeder : PipeThread.feeder ≠ .main := by decide
  cases step with
  | lower hmain | silence hmain _ _ | closeEncoded hmain _
  | notifyEncoded hmain _ | closeRaw hmain _ =>
      rw [hmain] at past
      exact absurd past (by decide)
  | notifyRaw hmain step =>
      obtain ⟨hq, hwaits⟩ := waits_notifyAll .rawConsumer step
      have hconsumer := pipe.consumer.place.remaining_mono
        pipe.raw.queue.q.length hwaits
      simp only [GstPipe.left, GstPipe.feederLeft, GstPipe.consumerLeft, hq,
        hmain, MainPlace.remaining]
      omega
  | closeSource hmain step =>
      obtain ⟨hq, hwaits⟩ := waits_close hfeeder step
      simp only [GstPipe.left, GstPipe.feederLeft, GstPipe.consumerLeft, hq,
        hwaits, hmain, MainPlace.remaining]
      omega
  | notifySource hmain step =>
      obtain ⟨hq, hwaits⟩ := waits_notifyAll .feeder step
      have hfeeder := pipe.server.feeder.remaining_mono
        pipe.encoded.queue.q.length hwaits
      simp only [GstPipe.left, GstPipe.feederLeft, GstPipe.consumerLeft, hq,
        hmain, MainPlace.remaining]
      omega
  | stopServer hmain step | joinFeeder hmain step | releaseServer hmain step =>
      cases step
      simp only [GstPipe.left, GstPipe.feederLeft, GstPipe.consumerLeft,
        hmain, MainPlace.remaining]
      omega
  | skipShutdown hmain _ | joinConsumer hmain _ | joinReporter hmain _ =>
      simp only [GstPipe.left, GstPipe.feederLeft, GstPipe.consumerLeft,
        hmain, MainPlace.remaining]
      omega

/-- A step of the feeder between two `pop`s. -/
theorem RtspStep.lowers {cfg : RtspConfig} {server next : RtspServer}
    {event : RtspEvent} (step : RtspStep cfg server event next)
    (inside : event.ofPop = false) (outside : event.ofShutdown = false)
    (frames : Nat) {waiting : Nat}
    (awake : server.feeder ≠ .popping → waiting = 0) :
    next.feeder.remaining frames waiting +
        (PipeEvent.server event).ofThreads.toNat ≤
      server.feeder.remaining frames waiting := by
  cases step with
  | pop _ | drained _ => cases inside
  | shutdownStop _ | shutdownJoin _ _ | shutdownRelease _ => cases outside
  | vsrcNotFound | locate _ | install _ | feed _ | finish _ | needData
  | enoughData => exact le_refl _
  | enter h _ =>
      rw [awake (by simp [h]), h]
      exact le_refl _
  | leave h _ | skip h _ | letThrough h _ | fetchNone h _ | fetchSome h _
  | push h | release h =>
      rw [h]
      simp only [FeederLocation.remaining, PipeEvent.ofThreads,
        RtspEvent.ofCallback, Bool.not_false, Bool.toNat_true]
      omega

theorem Seated.awake {T : Type} {worker : PipeThread}
    {popping playing notifying : Prop} {monitor : Monitor PipeThread T}
    (seated : Seated worker popping playing notifying monitor.location)
    (outside : ¬ popping) : waits monitor worker = 0 := by
  unfold waits
  split
  · rename_i hwaiting
    have hentitled := seated worker
    rw [hwaiting] at hentitled
    exact absurd hentitled.2 outside
  · rfl

/-! A step of one thread brings that thread nearer to its end. -/

section Threads

variable {cfg : RtspConfig} {pipe next : GstPipe} {item : EncodedFrame}
variable {frame : RawFrame} {server : RtspServer}
variable {encoded : Monitor PipeThread EncodedFrame}
variable {raw : Monitor PipeThread RawFrame}

theorem Ending.encoded_lowers
    {event : MonitorEvent PipeThread EncodedFrame} (ending : Ending pipe)
    (step : MonitorStep pipe.encoded event encoded)
    (own : ofStreaming event = true) (quiet : pushes event = false) :
    ({ pipe with encoded := encoded } : GstPipe).feederLeft <
      pipe.feederLeft := by
  have hsilent : ¬ pipe.playing = true := by simp [ending.silent]
  obtain ⟨hpopping, hqueue, hwaits⟩ :=
    ending.underway.encoded.seated.wakes hsilent step own quiet
  simp only [GstPipe.feederLeft, hpopping, hqueue, FeederLocation.remaining]
  omega

theorem Ending.raw_lowers {event : MonitorEvent PipeThread RawFrame}
    (ending : Ending pipe) (step : MonitorStep pipe.raw event raw)
    (own : ofStreaming event = true) (quiet : pushes event = false) :
    ({ pipe with raw := raw } : GstPipe).consumerLeft <
      pipe.consumerLeft := by
  have hsilent : ¬ pipe.playing = true := by simp [ending.silent]
  obtain ⟨hpopping, hqueue, hwaits⟩ :=
    ending.underway.raw.seated.wakes hsilent step own quiet
  simp only [GstPipe.consumerLeft, hpopping, hqueue, ConsumerPlace.remaining]
  omega

theorem feederPop_lowers (popped : RtspStep cfg pipe.server (.pop item) server)
    (step : MonitorStep pipe.encoded (.body (.pop .feeder (some item)))
      encoded) :
    ({ pipe with encoded := encoded, server := server } :
      GstPipe).feederLeft < pipe.feederLeft := by
  have hlength := step.popSome
  cases popped with
  | pop hpopping =>
      simp only [GstPipe.feederLeft, hpopping, hlength,
        FeederLocation.remaining]
      omega

theorem feederDrained_lowers
    (drained : RtspStep cfg pipe.server .drained server) :
    ({ pipe with encoded := encoded, server := server } :
      GstPipe).feederLeft < pipe.feederLeft := by
  cases drained with
  | drained hpopping =>
      simp only [GstPipe.feederLeft, hpopping, FeederLocation.remaining]
      omega

theorem Ending.consumerCheck_lowers (ending : Ending pipe)
    (checking : pipe.consumer.place = .checking) :
    ({ pipe with consumer := pipe.consumer.check pipe.run } :
      GstPipe).consumerLeft < pipe.consumerLeft := by
  simp only [GstPipe.consumerLeft, checking, RawConsumer.check,
    ending.stopped, ConsumerPlace.remaining, Bool.false_eq_true, if_false]
  omega

theorem consumerPop_lowers (popping : pipe.consumer.place = .popping)
    (step : MonitorStep pipe.raw (.body (.pop .rawConsumer (some frame)))
      raw) :
    ({ pipe with
        raw := raw
        consumer := { pipe.consumer with place := .folding frame } } :
      GstPipe).consumerLeft < pipe.consumerLeft := by
  have hlength := step.popSome
  simp only [GstPipe.consumerLeft, popping, hlength, ConsumerPlace.remaining]
  omega

theorem consumerDrained_lowers (popping : pipe.consumer.place = .popping) :
    ({ pipe with
        raw := raw
        consumer := { pipe.consumer with place := .exited } } :
      GstPipe).consumerLeft < pipe.consumerLeft := by
  simp only [GstPipe.consumerLeft, popping, ConsumerPlace.remaining]
  omega

theorem consumerFold_lowers (folding : pipe.consumer.place = .folding frame) :
    ({ pipe with consumer := pipe.consumer.fold frame } :
      GstPipe).consumerLeft < pipe.consumerLeft := by
  simp only [GstPipe.consumerLeft, folding, RawConsumer.fold,
    ConsumerPlace.remaining]
  omega

theorem Ending.reporterCheck_lowers (ending : Ending pipe)
    (checking : pipe.reporter = .checking) :
    (if pipe.run then ReporterPlace.sleeping else .exited).remaining <
      pipe.reporter.remaining := by
  rw [checking, ending.stopped]
  decide

theorem reporterWake_lowers (sleeping : pipe.reporter = .sleeping) :
    ReporterPlace.checking.remaining < pipe.reporter.remaining := by
  rw [sleeping]
  decide

theorem left_of_feeder {taken : Nat}
    (lowers : next.feederLeft + taken ≤ pipe.feederLeft)
    (main : next.main = pipe.main)
    (consumer : next.consumerLeft = pipe.consumerLeft)
    (reporter : next.reporter = pipe.reporter) :
    next.left + taken ≤ pipe.left := by
  unfold GstPipe.left
  rw [main, consumer, reporter]
  omega

theorem left_of_consumer (lowers : next.consumerLeft < pipe.consumerLeft)
    (main : next.main = pipe.main)
    (feeder : next.feederLeft = pipe.feederLeft)
    (reporter : next.reporter = pipe.reporter) :
    next.left < pipe.left := by
  unfold GstPipe.left
  rw [main, feeder, reporter]
  omega

theorem left_of_reporter
    (lowers : next.reporter.remaining < pipe.reporter.remaining)
    (main : next.main = pipe.main)
    (feeder : next.feederLeft = pipe.feederLeft)
    (consumer : next.consumerLeft = pipe.consumerLeft) :
    next.left < pipe.left := by
  unfold GstPipe.left
  rw [main, feeder, consumer]
  omega

theorem Ending.notLooping (ending : Ending pipe) : pipe.main ≠ .looping := by
  intro hmain
  have hpast := ending.past
  rw [hmain] at hpast
  exact absurd hpast (by decide)

theorem Ending.lowers {event : PipeEvent} (ending : Ending pipe)
    (step : PipeStep cfg pipe event next) :
    next.left + event.ofThreads.toNat ≤ pipe.left := by
  have hsilent : ¬ pipe.playing = true := by simp [ending.silent]
  cases step with
  | encoded step own pushing =>
      have hquiet := Bool.eq_false_iff.mpr fun h => hsilent (pushing h)
      exact left_of_feeder (ending.encoded_lowers step own hquiet) rfl rfl rfl
  | raw step own pushing =>
      have hquiet := Bool.eq_false_iff.mpr fun h => hsilent (pushing h)
      exact left_of_consumer (ending.raw_lowers step own hquiet) rfl rfl rfl
  | feederPop popped step =>
      exact left_of_feeder (feederPop_lowers popped step) rfl rfl rfl
  | feederDrained drained step =>
      exact left_of_feeder (feederDrained_lowers drained) rfl rfl rfl
  | feederWait popping step =>
      exact (step.notWaiting ending.encodedClosed).elim
  | server step inside outside =>
      have hfeeder := step.lowers inside outside
        pipe.encoded.queue.q.length ending.underway.encoded.seated.awake
      exact left_of_feeder hfeeder rfl rfl rfl
  | consumerCheck checking =>
      exact left_of_consumer (ending.consumerCheck_lowers checking) rfl rfl rfl
  | consumerPop popping step =>
      exact left_of_consumer (consumerPop_lowers popping step) rfl rfl rfl
  | consumerDrained popping step =>
      exact left_of_consumer (consumerDrained_lowers popping) rfl rfl rfl
  | consumerWait popping step =>
      exact (step.notWaiting ending.rawClosed).elim
  | consumerFold folding =>
      exact left_of_consumer (consumerFold_lowers folding) rfl rfl rfl
  | reporterCheck checking =>
      exact left_of_reporter (ending.reporterCheck_lowers checking) rfl rfl rfl
  | reporterWake sleeping =>
      exact left_of_reporter (reporterWake_lowers sleeping) rfl rfl rfl
  | unixSignal hmain => exact absurd hmain ending.notLooping
  | pipelineError hmain => exact absurd hmain ending.notLooping
  | main step => exact step.lowers ending.past

end Threads

/-! While `main` has not returned, a thread can go on. -/

/-- Nobody waits at a closed queue whose `notify_all` has been sent. -/
theorem QueueSide.popReady {T : Type} {worker : PipeThread}
    {popping playing notifying shut : Prop} {monitor : Monitor PipeThread T}
    (side : QueueSide worker popping playing notifying shut monitor)
    (hmain : worker ≠ .main) (hstreaming : worker ≠ .streaming)
    (notified : ¬ notifying) (closed : monitor.queue.closed = true) :
    ∃ result next, MonitorStep monitor (.body (.pop worker result)) next := by
  have hchecks : checksPredicate (monitor.location worker) := by
    have hentitled := side.seated worker
    cases hplace : monitor.location worker with
    | outside => exact Or.inl rfl
    | woken => exact Or.inr rfl
    | waiting =>
        obtain ⟨closer, hcloser⟩ := side.awaited closed worker hplace
        have hcloses := side.seated closer
        rw [hcloser] at hcloses
        exact absurd hcloses.2 notified
    | notifyOne =>
        rw [hplace] at hentitled
        exact absurd hentitled.1 hstreaming
    | notifyAll =>
        rw [hplace] at hentitled
        exact absurd hentitled.1 hmain
  exact ⟨_, _, .pop hchecks (pop_closed closed)⟩

def Moves (cfg : RtspConfig) (pipe : GstPipe) : Prop :=
  ∃ event next, event.ofThreads = true ∧ PipeStep cfg pipe event next

theorem Ending.feeder_moves {pipe : GstPipe} (ending : Ending pipe)
    (cfg : RtspConfig)
    (notified : ¬ (pipe.main = .closingEncoded ∨ pipe.main = .closingSource))
    (running : pipe.server.feeder ≠ .exited) : Moves cfg pipe := by
  cases hfeeder : pipe.server.feeder with
  | top =>
      cases hrunning : pipe.server.running with
      | true =>
          exact ⟨.server .enter, _, rfl,
            .server (.enter hfeeder hrunning) rfl rfl⟩
      | false =>
          exact ⟨.server .leave, _, rfl,
            .server (.leave hfeeder hrunning) rfl rfl⟩
  | popping =>
      obtain ⟨result, next, step⟩ := ending.underway.encoded.popReady
        (by decide) (by decide) notified ending.encodedClosed
      cases result with
      | none =>
          exact ⟨.feederDrained, _, rfl, .feederDrained (.drained hfeeder) step⟩
      | some item =>
          exact ⟨.feederPop item, _, rfl, .feederPop (.pop hfeeder) step⟩
  | gating item =>
      cases hgate : passesGate pipe.server.feeding item with
      | true =>
          exact ⟨.server (.letThrough item), _, rfl,
            .server (.letThrough hfeeder hgate) rfl rfl⟩
      | false =>
          exact ⟨.server (.skip item pipe.server.appsrc), _, rfl,
            .server (.skip hfeeder hgate) rfl rfl⟩
  | fetching item =>
      cases happsrc : pipe.server.appsrc with
      | none =>
          exact ⟨.server (.fetch item none), _, rfl,
            .server (.fetchNone hfeeder happsrc) rfl rfl⟩
      | some src =>
          exact ⟨.server (.fetch item (some src)), _, rfl,
            .server (.fetchSome hfeeder happsrc) rfl rfl⟩
  | emitting item src =>
      have hpush := @RtspStep.push cfg pipe.server item src 0 .ok hfeeder
      exact ⟨.server (.push item src _), _, rfl, .server hpush rfl rfl⟩
  | releasing src flow =>
      exact ⟨.server (.release src flow), _, rfl,
        .server (.release hfeeder) rfl rfl⟩
  | exited => exact absurd hfeeder running

theorem Ending.consumer_moves {pipe : GstPipe} (ending : Ending pipe)
    (cfg : RtspConfig) (notified : pipe.main ≠ .closingRaw)
    (running : pipe.consumer.place ≠ .exited) : Moves cfg pipe := by
  cases hplace : pipe.consumer.place with
  | checking => exact ⟨.consumerCheck, _, rfl, .consumerCheck hplace⟩
  | popping =>
      obtain ⟨result, next, step⟩ := ending.underway.raw.popReady
        (by decide) (by decide) notified ending.rawClosed
      cases result with
      | none =>
          exact ⟨.consumerDrained, _, rfl, .consumerDrained hplace step⟩
      | some frame =>
          exact ⟨.consumerPop frame, _, rfl, .consumerPop hplace step⟩
  | folding frame => exact ⟨.consumerFold, _, rfl, .consumerFold hplace⟩
  | exited => exact absurd hplace running

theorem reporter_moves (cfg : RtspConfig) {pipe : GstPipe}
    (running : pipe.reporter ≠ .exited) : Moves cfg pipe := by
  cases hreporter : pipe.reporter with
  | checking => exact ⟨.reporterCheck, _, rfl, .reporterCheck hreporter⟩
  | sleeping => exact ⟨.reporterWake, _, rfl, .reporterWake hreporter⟩
  | exited => exact absurd hreporter running

theorem TeardownStep.moves {cfg : RtspConfig} {pipe next : GstPipe}
    (step : TeardownStep cfg pipe next) : Moves cfg pipe :=
  ⟨.main, next, rfl, .main step⟩

/-- `main` itself is held up only by a thread it joins. -/
theorem Ending.moves {pipe : GstPipe} (ending : Ending pipe)
    (cfg : RtspConfig) (unfinished : pipe.main ≠ .returned) :
    Moves cfg pipe := by
  have hunderway := ending.underway
  have hpast := ending.past
  cases hmain : pipe.main with
  | looping | quitted | lowered | silenced | closingEncoded | closedEncoded =>
      rw [hmain] at hpast
      exact absurd hpast (by decide)
  | closingRaw =>
      rcases hunderway.raw.seated.main_place (by decide) with
        ⟨hplace, _⟩ | ⟨_, hquiet⟩
      · exact TeardownStep.moves (.notifyRaw hmain (.notifyAll hplace))
      · exact absurd hmain hquiet
  | closedRaw =>
      cases hrunning : pipe.server.running with
      | true =>
          exact TeardownStep.moves
            (.stopServer hmain (.shutdownStop hrunning))
      | false =>
          exact TeardownStep.moves (.skipShutdown hmain hrunning)
  | stopping =>
      rcases hunderway.encoded.seated.main_place (by decide) with
        ⟨_, hnotifying⟩ | ⟨hplace, _⟩
      · rw [hmain] at hnotifying
        exact absurd hnotifying (by decide)
      · exact TeardownStep.moves (.closeSource hmain (.close hplace))
  | closingSource =>
      rcases hunderway.encoded.seated.main_place (by decide) with
        ⟨hplace, _⟩ | ⟨_, hquiet⟩
      · exact TeardownStep.moves (.notifySource hmain (.notifyAll hplace))
      · exact absurd (Or.inr hmain) hquiet
  | joiningFeeder =>
      have hjoining := hunderway.server.joining (by rw [hmain]; rfl)
      by_cases hexited : pipe.server.feeder = .exited
      · exact TeardownStep.moves
          (.joinFeeder hmain (.shutdownJoin hjoining hexited))
      · exact ending.feeder_moves cfg (by rw [hmain]; decide) hexited
  | releasing =>
      have hjoined := hunderway.server.joined hmain
      exact TeardownStep.moves (.releaseServer hmain (.shutdownRelease hjoined))
  | shutDown =>
      by_cases hexited : pipe.consumer.place = .exited
      · exact TeardownStep.moves (.joinConsumer hmain hexited)
      · exact ending.consumer_moves cfg (by rw [hmain]; decide) hexited
  | joiningReporter =>
      by_cases hexited : pipe.reporter = .exited
      · exact TeardownStep.moves (.joinReporter hmain hexited)
      · exact reporter_moves cfg hexited
  | returned => exact absurd hmain unfinished

theorem TeardownStep.advances {cfg : RtspConfig} {pipe next : GstPipe}
    (step : TeardownStep cfg pipe next) :
    next.main.remaining < pipe.main.remaining := by
  cases step with
  | lower hmain | silence hmain _ _ | closeEncoded hmain _
  | notifyEncoded hmain _ | closeRaw hmain _ | notifyRaw hmain _
  | skipShutdown hmain _ | stopServer hmain _ | closeSource hmain _
  | notifySource hmain _ | joinFeeder hmain _ | releaseServer hmain _
  | joinConsumer hmain _ | joinReporter hmain _ =>
      simp [hmain, MainPlace.remaining]

theorem PipeStep.unraised {cfg : RtspConfig} {pipe next : GstPipe}
    {event : PipeEvent} (step : PipeStep cfg pipe event next) :
    next.main.remaining ≤ pipe.main.remaining := by
  cases step with
  | unixSignal hmain | pipelineError hmain =>
      simp [hmain, MainPlace.remaining]
  | main step => exact le_of_lt step.advances
  | _ => exact le_refl _

def endingDescent (cfg : RtspConfig) (encoded raw : Nat) :
    Descent (pipeSystem cfg encoded raw) where
  invariant := Ending
  counted := PipeEvent.ofThreads
  rank := GstPipe.left
  kept := by
    intro pipe event next ending step
    exact ⟨ending.underway.step step, le_trans step.unraised ending.past⟩
  lowered := by
    intro pipe event next ending step counted
    have hlowers := ending.lowers step
    rw [counted, Bool.toNat_true] at hlowers
    omega

/-! Before that, `main` waits for the streaming threads only. -/

def notifies {T : Type} (monitor : Monitor PipeThread T) : Nat :=
  if monitor.location .streaming = .notifyOne then 1 else 0

theorem notifies_le {T : Type} (monitor : Monitor PipeThread T) :
    notifies monitor ≤ 1 := by
  unfold notifies
  split <;> decide

def PipeEvent.ofStop : PipeEvent → Bool
  | .main => true
  | .unixSignal => true
  | .encoded (.notifyOne _ _) => true
  | .raw (.notifyOne _ _) => true
  | _ => false

theorem MonitorStep.notified {T : Type} {thread : PipeThread}
    {chosen : Option PipeThread} {monitor next : Monitor PipeThread T}
    (step : MonitorStep monitor (.notifyOne thread chosen) next)
    (own : ofStreaming (.notifyOne thread chosen : MonitorEvent PipeThread T) =
      true) : notifies next + 1 = notifies monitor := by
  cases thread with
  | streaming =>
      cases step with
      | @notifyOne _ chosen hthread hchosen =>
          have hother : PipeThread.streaming ≠ chosen := by
            rintro rfl
            cases hthread.symm.trans hchosen
          simp [notifies, hthread, Locations.move_other _ _ hother]
      | notifyNobody hthread _ => simp [notifies, hthread]
  | _ => cases own

def stopDescent (cfg : RtspConfig) (encoded raw : Nat) :
    Descent (pipeSystem cfg encoded raw) where
  invariant pipe := Underway pipe.main pipe
  counted := PipeEvent.ofStop
  rank pipe :=
    3 * pipe.main.remaining + notifies pipe.encoded + notifies pipe.raw
  kept := fun _ _ _ underway step => underway.step step
  lowered := by
    intro pipe event next _ step counted
    cases step with
    | main step =>
        have hadvances := step.advances
        have hencoded := notifies_le next.encoded
        have hraw := notifies_le next.raw
        omega
    | unixSignal hmain =>
        simp only [hmain, MainPlace.remaining]
        omega
    | @encoded event _ step own _ =>
        cases event with
        | notifyOne thread chosen =>
            have hnotified := step.notified own
            simp only
            omega
        | _ => cases counted
    | @raw event _ step own _ =>
        cases event with
        | notifyOne thread chosen =>
            have hnotified := step.notified own
            simp only
            omega
        | _ => cases counted
    | _ => cases counted

theorem streaming_place {T : Type} {worker : PipeThread}
    {popping playing notifying : Prop} {monitor : Monitor PipeThread T}
    (seated : Seated worker popping playing notifying monitor.location)
    (hworker : worker ≠ .streaming) :
    monitor.location .streaming = .outside ∨
      ∃ chosen next,
        MonitorStep monitor (.notifyOne .streaming chosen) next := by
  have hentitled := seated .streaming
  cases hplace : monitor.location .streaming with
  | outside => exact Or.inl rfl
  | waiting =>
      rw [hplace] at hentitled
      exact absurd hentitled.1.symm hworker
  | woken =>
      rw [hplace] at hentitled
      exact absurd hentitled.1.symm hworker
  | notifyOne =>
      refine Or.inr ?_
      by_cases hwaiting : ∃ chosen, monitor.location chosen = .waiting
      · obtain ⟨chosen, hchosen⟩ := hwaiting
        exact ⟨_, _, .notifyOne hplace hchosen⟩
      · exact ⟨none, _, .notifyNobody hplace (not_exists.mp hwaiting)⟩
  | notifyAll =>
      rw [hplace] at hentitled
      cases hentitled.1

theorem Underway.stops {cfg : RtspConfig} {pipe : GstPipe}
    (underway : Underway pipe.main pipe)
    (early : ¬ pipe.main.past .closingRaw) :
    ∃ event next, event.ofStop = true ∧ PipeStep cfg pipe event next := by
  cases hmain : pipe.main with
  | looping => exact ⟨.unixSignal, _, rfl, .unixSignal hmain⟩
  | quitted => exact ⟨.main, _, rfl, .main (.lower hmain)⟩
  | lowered =>
      rcases streaming_place underway.encoded.seated (by decide) with
        hencoded | ⟨chosen, next, step⟩
      · rcases streaming_place underway.raw.seated (by decide) with
          hraw | ⟨chosen, next, step⟩
        · exact ⟨.main, _, rfl, .main (.silence hmain hencoded hraw)⟩
        · exact ⟨.raw (.notifyOne .streaming chosen), _, rfl,
            .raw step rfl nofun⟩
      · exact ⟨.encoded (.notifyOne .streaming chosen), _, rfl,
          .encoded step rfl nofun⟩
  | silenced =>
      rcases underway.encoded.seated.main_place (by decide) with
        ⟨_, hnotifying⟩ | ⟨hplace, _⟩
      · rw [hmain] at hnotifying
        exact absurd hnotifying (by decide)
      · exact ⟨.main, _, rfl, .main (.closeEncoded hmain (.close hplace))⟩
  | closingEncoded =>
      rcases underway.encoded.seated.main_place (by decide) with
        ⟨hplace, _⟩ | ⟨_, hquiet⟩
      · exact ⟨.main, _, rfl, .main (.notifyEncoded hmain (.notifyAll hplace))⟩
      · exact absurd (Or.inl hmain) hquiet
  | closedEncoded =>
      rcases underway.raw.seated.main_place (by decide) with
        ⟨_, hnotifying⟩ | ⟨hplace, _⟩
      · rw [hmain] at hnotifying
        exact absurd hnotifying (by decide)
      · exact ⟨.main, _, rfl, .main (.closeRaw hmain (.close hplace))⟩
  | _ =>
      rw [hmain] at early
      exact absurd (by decide) early

/-- `main` has returned and nothing of what it started is left running. -/
structure CleanExit (pipe : GstPipe) : Prop where
  returned : pipe.main = .returned
  stopped : pipe.server.running = false
  feeder : pipe.server.feeder = .exited
  consumer : pipe.consumer.place = .exited
  reporter : pipe.reporter = .exited

theorem Underway.cleanExit {pipe : GstPipe}
    (underway : Underway pipe.main pipe) (returned : pipe.main = .returned) :
    CleanExit pipe := by
  rw [returned] at underway
  have hstopped : pipe.server.running = false := by
    by_contra hrunning
    exact underway.server.running (by simpa using hrunning) (by decide)
  exact ⟨returned, hstopped, underway.server.exited hstopped rfl,
    underway.consumer (by decide), underway.reporter (by decide)⟩

theorem waits_le {T : Type} (monitor : Monitor PipeThread T)
    (thread : PipeThread) : waits monitor thread ≤ 1 := by
  unfold waits
  split <;> decide

theorem FeederLocation.remaining_le (feeder : FeederLocation) (frames : Nat)
    {waiting : Nat} (hwaiting : waiting ≤ 1) :
    feeder.remaining frames waiting ≤ 6 * frames + 6 := by
  cases feeder <;> simp only [remaining] <;> omega

theorem ConsumerPlace.remaining_le (place : ConsumerPlace) (frames : Nat)
    {waiting : Nat} (hwaiting : waiting ≤ 1) :
    place.remaining frames waiting ≤ 3 * frames + 3 := by
  cases place <;> simp only [remaining] <;> omega

theorem ReporterPlace.remaining_le (place : ReporterPlace) :
    place.remaining ≤ 2 := by
  cases place <;> decide

theorem GstPipe.left_le {pipe : GstPipe} (past : pipe.main.past .closingRaw) :
    pipe.left ≤ 6 * pipe.encoded.queue.q.length +
      3 * pipe.raw.queue.q.length + 19 := by
  have hmain : pipe.main.remaining ≤ 8 := past
  have hfeeder := pipe.server.feeder.remaining_le
    pipe.encoded.queue.q.length (waits_le pipe.encoded .feeder)
  have hconsumer := pipe.consumer.place.remaining_le
    pipe.raw.queue.q.length (waits_le pipe.raw .rawConsumer)
  have hreporter := pipe.reporter.remaining_le
  unfold GstPipe.left GstPipe.feederLeft GstPipe.consumerLeft
  omega

/-- Once `stop` has closed both queues the threads take only so many more
steps, and the only state they stop in is a clean exit. -/
theorem stop_ends {cfg : RtspConfig} {encoded raw : Nat}
    {events more : List PipeEvent} {pipe final : GstPipe}
    (run : (pipeSystem cfg encoded raw).Run events pipe)
    (stopped : pipe.main.past .closingRaw)
    (on : ((pipeSystem cfg encoded raw).resume pipe).Run more final) :
    (more.filter PipeEvent.ofThreads).length ≤
        6 * pipe.encoded.queue.q.length + 3 * pipe.raw.queue.q.length + 19 ∧
      (CleanExit final ∨ Moves cfg final) := by
  let descent := endingDescent cfg encoded raw
  have hbegins : descent.invariant pipe := ⟨run_underway run, stopped⟩
  have hunraised : ∀ state event next, descent.invariant state →
      (pipeSystem cfg encoded raw).step state event next →
        descent.counted event = false →
          descent.rank next ≤ descent.rank state := by
    intro state event next ending step _
    exact le_trans (Nat.le_add_right ..) (ending.lowers step)
  have hbound := descent.bound hunraised hbegins on
  have hending : Ending final := descent.holds hbegins on
  refine ⟨?_, ?_⟩
  · exact le_trans (Nat.le_of_add_right_le hbound) (GstPipe.left_le stopped)
  · by_cases hreturned : final.main = .returned
    · exact Or.inl (hending.underway.cleanExit hreturned)
    · exact Or.inr (hending.moves cfg hreturned)

theorem stop_ends_woken :
    ∃ pipe final : GstPipe,
      (([] ++ [.raw (.spurious .rawConsumer)] ++ [.consumerDrained] :
          List PipeEvent).filter PipeEvent.ofThreads).length ≤
        6 * pipe.encoded.queue.q.length + 3 * pipe.raw.queue.q.length + 19 ∧
      (CleanExit final ∨ Moves demoConfig final) := by
  have resumed {events : List PipeEvent} {pipe : GstPipe}
      (_ : (pipeSystem demoConfig 2 2).Run events pipe) :
      ((pipeSystem demoConfig 2 2).resume pipe).Run [] pipe := .start rfl
  have launched : (pipeSystem demoConfig 2 2).Run []
      (GstPipe.launched 2 2 RtspServer.attached) :=
    .start ⟨_, Or.inl rfl, rfl⟩
  have waiting := (launched.extend (.consumerCheck rfl)).extend
    (.consumerWait rfl (.wait (Or.inl rfl) rfl))
  have silenced := ((waiting.extend (.unixSignal rfl)).extend
    (.main (.lower rfl))).extend (.main (.silence rfl rfl rfl))
  have closing := (silenced.extend
    (.main (.closeEncoded rfl (.close rfl)))).extend
    (.main (.notifyEncoded rfl (.notifyAll rfl)))
  have closed := closing.extend (.main (.closeRaw rfl (.close rfl)))
  have woken := (resumed closed).extend
    (.raw (@MonitorStep.spurious _ _ _ _ .rawConsumer rfl) rfl nofun)
  have drained := woken.extend
    (.consumerDrained rfl (.pop (Or.inr rfl) rfl))
  exact ⟨_, _, stop_ends closed (by decide) drained⟩

/-- Whatever has happened so far, `gstpipe` can still end cleanly. -/
theorem exit_reachable {cfg : RtspConfig} {encoded raw : Nat}
    {events : List PipeEvent} {pipe : GstPipe}
    (run : (pipeSystem cfg encoded raw).Run events pipe) :
    ∃ more final, ((pipeSystem cfg encoded raw).resume pipe).Run more final ∧
      CleanExit final := by
  have hunderway := run_underway run
  obtain ⟨first, stopped, hfirst, hpast⟩ :=
    (stopDescent cfg encoded raw).reaches
      (fun _ underway early => underway.stops early) hunderway
  have hstopped : Underway stopped.main stopped :=
    (stopDescent cfg encoded raw).holds hunderway hfirst
  obtain ⟨second, final, hsecond, hreturned⟩ :=
    (endingDescent cfg encoded raw).reaches
      (fun _ ending unfinished => ending.moves cfg unfinished)
      (⟨hstopped, hpast⟩ : Ending stopped)
  have hending : Ending final :=
    (endingDescent cfg encoded raw).holds ⟨hstopped, hpast⟩ hsecond
  exact ⟨first ++ second, final, hfirst.append hsecond,
    hending.underway.cleanExit hreturned⟩

theorem exit_reachable_signalled :
    ∃ pipe : GstPipe, pipe.main = .quitted ∧
      ∃ more final,
        ((pipeSystem demoConfig 2 2).resume pipe).Run more final ∧
          CleanExit final := by
  have launched : (pipeSystem demoConfig 2 2).Run []
      (GstPipe.launched 2 2 RtspServer.attached) :=
    .start ⟨_, Or.inl rfl, rfl⟩
  exact ⟨_, rfl, exit_reachable (launched.extend (.unixSignal rfl))⟩

end EmbeddedPortfolio.Pipeline
