import EmbeddedPortfolio.Pipeline.Backpressure

namespace EmbeddedPortfolio.Pipeline

open EmbeddedPortfolio.Transition Locations RtspServer

/-! The references the server holds on its appsrc objects, by who holds them. -/

def heldByServer (appsrc : Option AppSrc) (src : AppSrc) : Int :=
  if appsrc = some src then 1 else 0

/-- The `src` of a `feeder_loop` iteration. -/
def FeederLocation.localSrc : FeederLocation → Option AppSrc
  | .emitting _ src => some src
  | .releasing src _ => some src
  | _ => none

def heldByFeeder (feeder : FeederLocation) (src : AppSrc) : Int :=
  if feeder.localSrc = some src then 1 else 0

/-- Whether the `on_media_configure` of a media holds its `src`: it has found
it and not returned. -/
def heldByCallback : ConfigureStage → Int
  | .unborn => 0
  | .located => 1
  | .installed => 1
  | .fed => 1
  | .finished => 0

@[simp] theorem heldByCallback_unborn : heldByCallback .unborn = 0 := rfl

@[simp] theorem heldByCallback_located : heldByCallback .located = 1 := rfl

@[simp] theorem heldByCallback_installed : heldByCallback .installed = 1 := rfl

@[simp] theorem heldByCallback_fed : heldByCallback .fed = 1 := rfl

@[simp] theorem heldByCallback_finished : heldByCallback .finished = 0 := rfl

theorem heldByCallback_nonneg (stage : ConfigureStage) :
    0 ≤ heldByCallback stage := by
  cases stage <;> simp

/-- A buffer that is allocated and not yet unreffed. -/
def FeederLocation.buffers : FeederLocation → Nat
  | .releasing _ _ => 1
  | _ => 0

section Counting

variable (refs : AppSrc → Int) (src other : AppSrc)

theorem ref_apply :
    ref refs src other = refs other + if src = other then 1 else 0 := by
  unfold ref
  rw [Function.update_apply]
  split
  · rename_i heq
    rw [if_pos heq.symm, heq]
  · rename_i hne
    rw [if_neg (Ne.symm hne), Int.add_zero]

theorem unref_apply :
    unref refs src other = refs other - if src = other then 1 else 0 := by
  unfold unref
  rw [Function.update_apply]
  split
  · rename_i heq
    rw [if_pos heq.symm, heq]
  · rename_i hne
    rw [if_neg (Ne.symm hne), Int.sub_zero]

theorem unrefOption_apply (appsrc : Option AppSrc) :
    unrefOption refs appsrc other = refs other - heldByServer appsrc other := by
  cases appsrc with
  | none => simp [unrefOption, heldByServer]
  | some current =>
      rw [unrefOption, unref_apply]
      simp [heldByServer]

theorem heldByCallback_move (stage : AppSrc → ConfigureStage)
    (target : ConfigureStage) :
    heldByCallback (move stage src target other) =
      heldByCallback (stage other) +
        if src = other then
          heldByCallback target - heldByCallback (stage src)
        else 0 := by
  unfold move
  rw [Function.update_apply]
  split
  · rename_i heq
    rw [if_pos heq.symm, heq]
    omega
  · rename_i hne
    rw [if_neg (Ne.symm hne), Int.add_zero]

end Counting

def holders (server : RtspServer) (src : AppSrc) : Int :=
  heldByServer server.appsrc src + heldByFeeder server.feeder src +
    heldByCallback (server.stage src)

theorem holders_nonneg (server : RtspServer) (src : AppSrc) :
    0 ≤ holders server src := by
  have hcallback := heldByCallback_nonneg (server.stage src)
  unfold holders heldByServer heldByFeeder
  split_ifs <;> omega

/-! Every step changes the count as it changes the holders. -/

theorem RtspStep.holders {cfg : RtspConfig} {server next : RtspServer}
    {event : RtspEvent} (step : RtspStep cfg server event next) (src : AppSrc) :
    next.refs src - server.refs src =
      Pipeline.holders next src - Pipeline.holders server src := by
  have still (hrefs : next.refs = server.refs)
      (happsrc : next.appsrc = server.appsrc)
      (hfeeder : next.feeder.localSrc = server.feeder.localSrc)
      (hstage : next.stage = server.stage) :
      next.refs src - server.refs src =
        Pipeline.holders next src - Pipeline.holders server src := by
    simp only [Pipeline.holders, heldByFeeder, hrefs, happsrc, hfeeder, hstage]
    omega
  cases step with
  | enter hfeeder | leave hfeeder | pop hfeeder | drained hfeeder
  | skip hfeeder | letThrough hfeeder | fetchNone hfeeder | push hfeeder =>
      exact still rfl rfl (by rw [hfeeder]; rfl) rfl
  | fetchSome hfeeder hsrc =>
      simp only [Pipeline.holders, heldByFeeder, hfeeder, ref_apply,
        FeederLocation.localSrc, Option.some.injEq, reduceCtorEq, if_false]
      omega
  | release hfeeder =>
      simp only [Pipeline.holders, heldByFeeder, hfeeder, unref_apply,
        FeederLocation.localSrc, Option.some.injEq, reduceCtorEq, if_false]
      omega
  | locate hstage =>
      simp only [Pipeline.holders, ref_apply, heldByCallback_move, hstage,
        heldByCallback_unborn, heldByCallback_located]
      split_ifs <;> omega
  | install hstage =>
      simp only [Pipeline.holders, ref_apply, unrefOption_apply,
        heldByCallback_move, hstage, heldByServer, Option.some.injEq,
        heldByCallback_located, heldByCallback_installed]
      omega
  | feed hstage =>
      simp only [Pipeline.holders, heldByCallback_move, hstage,
        heldByCallback_installed, heldByCallback_fed]
      omega
  | finish hstage =>
      simp only [Pipeline.holders, unref_apply, heldByCallback_move, hstage,
        heldByCallback_fed, heldByCallback_finished]
      split_ifs <;> omega
  | shutdownRelease _ =>
      simp only [Pipeline.holders, unrefOption_apply, heldByServer,
        reduceCtorEq, if_false]
      omega
  | vsrcNotFound | needData | enoughData | shutdownStop _
  | shutdownJoin _ _ => exact still rfl rfl rfl rfl

theorem RtspStep.current {cfg : RtspConfig} {server next : RtspServer}
    {event : RtspEvent} (step : RtspStep cfg server event next)
    (current : ∀ src, server.appsrc = some src → Configured (server.stage src))
    (src : AppSrc) (hsrc : next.appsrc = some src) :
    Configured (next.stage src) := by
  cases step with
  | @locate located hstage =>
      exact configured_move (by simp [hstage, Configured]) (current src hsrc)
  | @install installed _ =>
      cases hsrc
      simp [Configured]
  | feed _ | finish _ =>
      exact configured_move (fun _ => trivial) (current src hsrc)
  | shutdownRelease _ => cases hsrc
  | _ => exact current src hsrc

/-- Once `shutdown` has joined the feeder it stays where it ended. -/
def Joined (server : RtspServer) : Prop :=
  server.shutdown = .joined ∨ server.shutdown = .finished →
    server.feeder = .exited

theorem RtspStep.joined {cfg : RtspConfig} {server next : RtspServer}
    {event : RtspEvent} (step : RtspStep cfg server event next)
    (joined : Joined server) : Joined next := by
  have moving {place : FeederLocation} (hplace : server.feeder = place)
      (hne : place ≠ .exited) (hshutdown : next.shutdown = server.shutdown) :
      Joined next := by
    intro hstage
    rw [hshutdown] at hstage
    exact absurd (hplace.symm.trans (joined hstage)) hne
  cases step with
  | enter hfeeder | pop hfeeder | skip hfeeder | letThrough hfeeder
  | fetchNone hfeeder | fetchSome hfeeder | push hfeeder | release hfeeder =>
      exact moving hfeeder (by simp) rfl
  | leave | drained => exact fun _ => rfl
  | shutdownStop _ => exact fun hstage => by simp at hstage
  | shutdownJoin _ hfeeder => exact fun _ => hfeeder
  | shutdownRelease hjoined => exact fun _ => joined (.inl hjoined)
  | _ => exact joined

namespace RtspEvent

def isRelease : RtspEvent → Bool
  | .release _ _ => true
  | _ => false

end RtspEvent

/-- Buffers allocated so far are those unreffed so far and the one in hand. -/
structure BuffersBalanced (events : List RtspEvent) (server : RtspServer) :
    Prop where
  inHand : server.buffers = server.feeder.buffers
  account : events.countP RtspEvent.isPush =
    events.countP RtspEvent.isRelease + server.feeder.buffers

theorem BuffersBalanced.step {cfg : RtspConfig} {events : List RtspEvent}
    {event : RtspEvent} {server next : RtspServer}
    (balanced : BuffersBalanced events server)
    (step : RtspStep cfg server event next) :
    BuffersBalanced (events ++ [event]) next := by
  obtain ⟨inHand, account⟩ := balanced
  have still (hpush : event.isPush = false) (hrelease : event.isRelease = false)
      (hbuffers : next.buffers = server.buffers)
      (hfeeder : next.feeder.buffers = server.feeder.buffers) :
      BuffersBalanced (events ++ [event]) next := by
    refine ⟨by rw [hbuffers, hfeeder, inHand], ?_⟩
    rw [List.countP_append, List.countP_append, List.countP_singleton,
      List.countP_singleton, hpush, hrelease, hfeeder, account]
    simp
  cases step with
  | enter hfeeder | leave hfeeder | pop hfeeder | drained hfeeder
  | skip hfeeder | letThrough hfeeder | fetchNone hfeeder
  | fetchSome hfeeder =>
      exact still rfl rfl rfl (by rw [hfeeder]; rfl)
  | push hfeeder =>
      rw [hfeeder] at inHand account
      refine ⟨by rw [inHand]; rfl, ?_⟩
      rw [List.countP_append, List.countP_append, account]
      rfl
  | release hfeeder =>
      rw [hfeeder] at inHand account
      refine ⟨by rw [inHand]; rfl, ?_⟩
      rw [List.countP_append, List.countP_append, account]
      rfl
  | _ => exact still rfl rfl rfl rfl

/-! The references of `appsrc_` after `shutdown` has dropped the one it found
there. -/

namespace RtspEvent

def isInstall : RtspEvent → Bool
  | .install _ => true
  | _ => false

end RtspEvent

def installsAfterRelease : List RtspEvent → Bool
  | [] => false
  | .shutdownRelease :: later => later.any RtspEvent.isInstall
  | _ :: later => installsAfterRelease later

theorem installsAfterRelease_unreleased {events : List RtspEvent}
    (unreleased : RtspEvent.shutdownRelease ∉ events) :
    installsAfterRelease events = false := by
  induction events with
  | nil => rfl
  | cons first rest induction =>
      have hrest := induction fun hmem =>
        unreleased (List.mem_cons_of_mem first hmem)
      cases first with
      | shutdownRelease => exact absurd List.mem_cons_self unreleased
      | _ => exact hrest

theorem installsAfterRelease_append (events : List RtspEvent)
    (event : RtspEvent) :
    installsAfterRelease (events ++ [event]) =
      (installsAfterRelease events ||
        decide (RtspEvent.shutdownRelease ∈ events) && event.isInstall) := by
  induction events with
  | nil => cases event <;> rfl
  | cons first rest induction =>
      cases first with
      | shutdownRelease => simp [installsAfterRelease]
      | _ => simpa [installsAfterRelease] using induction

/-- A callback that is late fills `appsrc_` again. -/
structure Released (events : List RtspEvent) (server : RtspServer) :
    Prop where
  running : server.running = true ↔ server.shutdown = .notCalled
  released : server.shutdown = .finished ↔ .shutdownRelease ∈ events
  refilled : server.shutdown = .finished →
    (server.appsrc.isSome = installsAfterRelease events)

theorem Released.step {cfg : RtspConfig} {events : List RtspEvent}
    {event : RtspEvent} {server next : RtspServer}
    (before : Released events server)
    (step : RtspStep cfg server event next) :
    Released (events ++ [event]) next := by
  obtain ⟨running, released, refilled⟩ := before
  have still (hrelease : RtspEvent.shutdownRelease ≠ event)
      (hinstall : event.isInstall = false)
      (hrunning : next.running = server.running)
      (hshutdown : next.shutdown = server.shutdown)
      (happsrc : next.appsrc = server.appsrc) :
      Released (events ++ [event]) next := by
    refine ⟨?_, ?_, ?_⟩
    · rw [hrunning, hshutdown]
      exact running
    · simpa [hshutdown, hrelease] using released
    · rw [hshutdown, happsrc, installsAfterRelease_append, hinstall]
      simpa using refilled
  have unfinished (hstage : server.shutdown ≠ .finished) :
      RtspEvent.shutdownRelease ∉ events := fun hmem =>
    hstage (released.mpr hmem)
  cases step with
  | install _ =>
      refine ⟨running, by simpa using released, ?_⟩
      intro hfinished
      rw [installsAfterRelease_append]
      simp [released.mp hfinished, RtspEvent.isInstall]
  | shutdownStop hrunning =>
      have hnot := unfinished (by simp [running.mp hrunning])
      exact ⟨by simp, by simpa using hnot, nofun⟩
  | shutdownJoin hjoining _ =>
      have hnot := unfinished (by simp [hjoining])
      refine ⟨?_, by simpa using hnot, nofun⟩
      simpa [hjoining] using running
  | shutdownRelease hjoined =>
      have hnot := unfinished (by simp [hjoined])
      refine ⟨by simpa [hjoined] using running, by simp, ?_⟩
      intro _
      rw [installsAfterRelease_append, installsAfterRelease_unreleased hnot]
      simp [hnot]
  | _ => exact still (by simp) rfl rfl rfl rfl

structure References (events : List RtspEvent) (server : RtspServer) :
    Prop where
  held : ∀ src, server.refs src = holders server src
  current : ∀ src, server.appsrc = some src → Configured (server.stage src)
  joined : Joined server
  buffers : BuffersBalanced events server
  released : Released events server

theorem run_references {cfg : RtspConfig} {events : List RtspEvent}
    {server : RtspServer} (run : (rtspSystem cfg).Run events server) :
    References events server := by
  apply run.invariant
  · intro server hinitial
    rw [hinitial]
    refine ⟨fun _ => rfl, ?_, ?_, ⟨rfl, rfl⟩, ?_⟩
    · intro src hsrc
      cases hsrc
    · rintro (hstage | hstage) <;> cases hstage
    · exact ⟨by simp [RtspServer.attached], by simp [RtspServer.attached],
        nofun⟩
  · intro events server event next references step
    obtain ⟨held, current, joined, buffers, released⟩ := references
    refine ⟨?_, step.current current, step.joined joined, buffers.step step,
      released.step step⟩
    intro src
    have hstep := step.holders src
    have hheld := held src
    omega

/-- One step takes at most one reference from an object. -/
theorem RtspStep.refs_le {cfg : RtspConfig} {server next : RtspServer}
    {event : RtspEvent} (step : RtspStep cfg server event next)
    (src : AppSrc) : server.refs src ≤ next.refs src + 1 := by
  cases step with
  | fetchSome _ _ | locate _ =>
      simp only [ref_apply]
      split <;> omega
  | release _ | finish _ =>
      simp only [unref_apply]
      split <;> omega
  | install _ =>
      simp only [ref_apply, unrefOption_apply, heldByServer]
      split_ifs <;> omega
  | shutdownRelease _ =>
      simp only [unrefOption_apply, heldByServer]
      split <;> omega
  | _ => exact Int.le_add_one le_rfl

/-- From the moment `shutdown` has dropped its reference on, only a callback
that has not returned holds one. -/
structure ReferencesBalance (cfg : RtspConfig) (events : List RtspEvent)
    (server : RtspServer) : Prop where
  held : ∀ src, server.refs src =
    heldByServer server.appsrc src + heldByFeeder server.feeder src +
      heldByCallback (server.stage src)
  dropped : ∀ event next src, RtspStep cfg server event next →
    next.refs src < server.refs src →
      1 ≤ server.refs src ∧ next.refs src = server.refs src - 1
  replaced : ∀ src next old, RtspStep cfg server (.install src) next →
    server.appsrc = some old → next.refs old = server.refs old - 1
  buffers : events.countP RtspEvent.isPush =
    events.countP RtspEvent.isRelease + server.feeder.buffers
  shutDown : .shutdownRelease ∈ events →
    server.appsrc = none ∧ server.feeder = .exited ∧
      (∀ src, server.refs src = heldByCallback (server.stage src)) ∧
      events.countP RtspEvent.isPush = events.countP RtspEvent.isRelease
  released : .shutdownRelease ∈ events →
    (∀ src, server.stage src = .unborn ∨ server.stage src = .finished) →
      ∀ src, server.refs src = 0

theorem References.shutDown {events : List RtspEvent} {server : RtspServer}
    (references : References events server)
    (hreleased : .shutdownRelease ∈ events)
    (timely : installsAfterRelease events = false) :
    server.appsrc = none ∧ server.feeder = .exited ∧
      (∀ src, server.refs src = heldByCallback (server.stage src)) ∧
      events.countP RtspEvent.isPush = events.countP RtspEvent.isRelease := by
  have hfinished := references.released.released.mpr hreleased
  have hfeeder := references.joined (.inr hfinished)
  have happsrc : server.appsrc = none := by
    have hrefilled := references.released.refilled hfinished
    rw [timely] at hrefilled
    simpa using hrefilled
  refine ⟨happsrc, hfeeder, ?_, ?_⟩
  · intro src
    rw [references.held src]
    simp [holders, heldByServer, heldByFeeder, happsrc, hfeeder,
      FeederLocation.localSrc]
  · rw [references.buffers.account]
    simp [hfeeder, FeederLocation.buffers]

theorem references_balance_iff {cfg : RtspConfig} {events : List RtspEvent}
    {server : RtspServer} (run : (rtspSystem cfg).Run events server) :
    ReferencesBalance cfg events server ↔
      installsAfterRelease events = false := by
  have references := run_references run
  constructor
  · intro balance
    by_contra hlate
    rw [Bool.not_eq_false] at hlate
    have hreleased : .shutdownRelease ∈ events := by
      by_contra hnot
      rw [installsAfterRelease_unreleased hnot] at hlate
      cases hlate
    have hrefilled := references.released.refilled
      (references.released.released.mpr hreleased)
    rw [hlate, (balance.shutDown hreleased).1] at hrefilled
    cases hrefilled
  · intro timely
    refine ⟨references.held, ?_, ?_, references.buffers.account,
      fun hreleased => references.shutDown hreleased timely, ?_⟩
    · intro event next src step hless
      have hnext := (run_references (run.extend step)).held src
      have hnonneg := holders_nonneg next src
      have hstep := step.refs_le src
      omega
    · intro src next old step hold
      cases step with
      | install hstage =>
          have hne : src ≠ old := by
            rintro rfl
            have hconfigured := references.current src hold
            rw [hstage] at hconfigured
            exact hconfigured
          simp [ref_apply, unrefOption_apply, hne, hold, heldByServer]
    · intro hreleased idle src
      obtain ⟨_, _, hrefs, _⟩ := references.shutDown hreleased timely
      rw [hrefs src]
      rcases idle src with hstage | hstage <;> rw [hstage] <;> rfl

/-- A second media is configured while the feeder pushes to the first one, and
the server is shut down after that. -/
def reconnectEvents : List RtspEvent :=
  [.locate 0, .install 0, .feed 0, .finish 0, .vsrcNotFound,
    .enter, .pop idrFrame, .letThrough idrFrame, .fetch idrFrame (some 0),
    .locate 1, .install 1,
    .push idrFrame 0 (demoBuffer idrFrame clockTimeNone),
    .release 0 .flushing, .feed 1, .finish 1,
    .shutdownStop, .leave, .shutdownJoin, .shutdownRelease]

theorem references_balance_reconnect :
    ∃ server, (rtspSystem demoConfig).Run reconnectEvents server ∧
      ReferencesBalance demoConfig reconnectEvents server := by
  have configured := configured_run (.start rfl :
    (rtspSystem demoConfig).Run [] RtspServer.attached) 0 rfl
  have fetched := ((((configured.extend .vsrcNotFound).extend
    (RtspStep.enter rfl rfl)).extend (@RtspStep.pop _ _ idrFrame rfl)).extend
    (RtspStep.letThrough rfl rfl)).extend (RtspStep.fetchSome rfl rfl)
  have replaced := (((((fetched.extend (@RtspStep.locate _ _ 1 rfl)).extend
    (@RtspStep.install _ _ 1 rfl)).extend
    (@RtspStep.push _ _ _ _ 0 .flushing rfl)).extend
    (RtspStep.release rfl)).extend (@RtspStep.feed _ _ 1 rfl)).extend
    (@RtspStep.finish _ _ 1 rfl)
  have shutDown := (((replaced.extend (RtspStep.shutdownStop rfl)).extend
    (RtspStep.leave rfl rfl)).extend (RtspStep.shutdownJoin rfl rfl)).extend
    (RtspStep.shutdownRelease rfl)
  exact ⟨_, shutDown, (references_balance_iff shutDown).mpr rfl⟩

/-- A callback that had found its appsrc before `shutdown` was called. -/
def lateInstallEvents : List RtspEvent :=
  [.locate 0, .shutdownStop, .leave, .shutdownJoin, .shutdownRelease,
    .install 0, .feed 0, .finish 0]

/-- Nobody drops the reference that it leaves in `appsrc_`, for `running_` is
down. -/
theorem references_outlive_shutdown :
    ∃ server, (rtspSystem demoConfig).Run lateInstallEvents server ∧
      RtspEvent.shutdownRelease ∈ lateInstallEvents ∧
      (∀ src, server.stage src = .unborn ∨ server.stage src = .finished) ∧
      server.appsrc = some 0 ∧ server.refs 0 = 1 ∧ server.running = false ∧
      ¬ ReferencesBalance demoConfig lateInstallEvents server := by
  have joined := ((((.start rfl :
    (rtspSystem demoConfig).Run [] RtspServer.attached).extend
    (@RtspStep.locate _ _ 0 rfl)).extend (RtspStep.shutdownStop rfl)).extend
    (RtspStep.leave rfl rfl)).extend (RtspStep.shutdownJoin rfl rfl)
  have late := (((joined.extend (RtspStep.shutdownRelease rfl)).extend
    (@RtspStep.install _ _ 0 rfl)).extend (@RtspStep.feed _ _ 0 rfl)).extend
    (@RtspStep.finish _ _ 0 rfl)
  refine ⟨_, late, by decide, ?_, rfl, rfl, rfl, ?_⟩
  · intro src
    cases src with
    | zero => exact Or.inr rfl
    | succ src => exact Or.inl rfl
  · intro balance
    cases (balance.shutDown (by decide)).1

end EmbeddedPortfolio.Pipeline
