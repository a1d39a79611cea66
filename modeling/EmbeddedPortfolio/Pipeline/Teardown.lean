import EmbeddedPortfolio.Pipeline.References

namespace EmbeddedPortfolio.Pipeline

open EmbeddedPortfolio.Transition RtspServer

/-! The life of an `RtspServer` object: `attach`, the media-configure callbacks
that follow it, and `shutdown`, which the destructor calls as well. -/

/-- A `GMainContext`; a null pointer stands for the default one. -/
abbrev MainContext := Nat

def defaultContext : MainContext := 0

inductive SourceName
  | listener
  | other (name : Nat)
  deriving Repr, DecidableEq

/-- The sources attached to each context by their ids, which every context
numbers for itself. -/
abbrev Sources := MainContext → Nat → Option SourceName

def Sources.set (sources : Sources) (ctx : MainContext) (id : Nat)
    (name : Option SourceName) : Sources :=
  Function.update sources ctx (Function.update (sources ctx) id name)

inductive FeederThread
  | notStarted
  | started
  | joined
  deriving Repr, DecidableEq

/-- Where the thread that calls `attach` and `shutdown` stands; from `joining`
to `unreffing` it is inside `shutdown`. -/
inductive MainThread
  | constructed
  | looping
  | joining
  | destroying
  | releasing
  | unreffing
  | returned
  deriving Repr, DecidableEq

structure Lifecycle where
  core : RtspServer
  server : Bool
  serverDrops : Nat
  sourceId : Nat
  sources : Sources
  thread : FeederThread
  main : MainThread

namespace RtspServer

/-- The members before `attach` has set `running_` and started the feeder. -/
def dormant : RtspServer :=
  { attached with running := false, feeder := .exited }

def Idle (server : RtspServer) : Prop :=
  ∀ src, heldByCallback (server.stage src) = 0

end RtspServer

namespace RtspEvent

def ofShutdown : RtspEvent → Bool
  | .shutdownStop => true
  | .shutdownJoin => true
  | .shutdownRelease => true
  | _ => false

def ofCallback : RtspEvent → Bool
  | .vsrcNotFound => true
  | .locate _ => true
  | .install _ => true
  | .feed _ => true
  | .finish _ => true
  | _ => false

end RtspEvent

inductive LifecycleEvent
  | attach (ctx : Option MainContext) (sourceId : Nat)
  | inner (event : RtspEvent)
  | shutdownIgnored
  | shutdownStop
  | shutdownJoin
  | destroySource
  | shutdownRelease
  | unrefServer
  deriving Repr, DecidableEq

/-- `g_main_context_find_source_by_id(nullptr, …)` and `g_source_destroy`. -/
def destroyById (sources : Sources) (id : Nat) : Sources :=
  if id = 0 then sources else sources.set defaultContext id none

inductive LifecycleStep (cfg : RtspConfig) :
    Lifecycle → LifecycleEvent → Lifecycle → Prop
  | attachFailed {life : Lifecycle} {ctx : Option MainContext} :
      life.main = .constructed →
        LifecycleStep cfg life (.attach ctx 0)
          { life with server := true, sourceId := 0, main := .looping }
  | attached {life : Lifecycle} {ctx : Option MainContext} {id : Nat} :
      life.main = .constructed →
      id ≠ 0 →
      life.sources (ctx.getD defaultContext) id = none →
        LifecycleStep cfg life (.attach ctx id)
          { life with
            core := RtspServer.attached
            server := true
            sourceId := id
            sources := life.sources.set (ctx.getD defaultContext) id
              (some .listener)
            thread := .started
            main := .looping }
  | inner {life : Lifecycle} {event : RtspEvent} {core : RtspServer} :
      RtspStep cfg life.core event core →
      event.ofShutdown = false →
      (event.ofCallback = true → life.main = .looping) →
        LifecycleStep cfg life (.inner event) { life with core := core }
  | shutdownIgnored {life : Lifecycle} :
      life.main = .looping ∨ life.main = .returned →
      life.core.Idle →
      life.core.running = false →
        LifecycleStep cfg life .shutdownIgnored { life with main := .returned }
  | shutdownStop {life : Lifecycle} {core : RtspServer} :
      life.main = .looping ∨ life.main = .returned →
      life.core.Idle →
      RtspStep cfg life.core .shutdownStop core →
        LifecycleStep cfg life .shutdownStop
          { life with core := core, main := .joining }
  | shutdownJoin {life : Lifecycle} {core : RtspServer} :
      life.main = .joining →
      RtspStep cfg life.core .shutdownJoin core →
        LifecycleStep cfg life .shutdownJoin
          { life with core := core, thread := .joined, main := .destroying }
  | destroySource {life : Lifecycle} :
      life.main = .destroying →
        LifecycleStep cfg life .destroySource
          { life with
            sources := destroyById life.sources life.sourceId
            sourceId := 0
            main := .releasing }
  | shutdownRelease {life : Lifecycle} {core : RtspServer} :
      life.main = .releasing →
      RtspStep cfg life.core .shutdownRelease core →
        LifecycleStep cfg life .shutdownRelease
          { life with core := core, main := .unreffing }
  | unrefServer {life : Lifecycle} :
      life.main = .unreffing →
        LifecycleStep cfg life .unrefServer
          { life with
            server := false
            serverDrops := if life.server then life.serverDrops + 1
              else life.serverDrops
            main := .returned }

def Lifecycle.new (sources : Sources) : Lifecycle where
  core := RtspServer.dormant
  server := false
  serverDrops := 0
  sourceId := 0
  sources := sources
  thread := .notStarted
  main := .constructed

/-- Other sources may be attached to any context. -/
def lifecycleSystem (cfg : RtspConfig) : System Lifecycle LifecycleEvent where
  initial life := ∃ sources : Sources,
    (∀ ctx id, sources ctx id ≠ some .listener) ∧ life = .new sources
  step := LifecycleStep cfg

/-! What the steps that are not part of `shutdown` leave alone. -/

theorem RtspStep.outsideShutdown {cfg : RtspConfig} {server next : RtspServer}
    {event : RtspEvent} (step : RtspStep cfg server event next)
    (outside : event.ofShutdown = false) :
    next.running = server.running ∧ next.shutdown = server.shutdown := by
  cases step with
  | shutdownStop _ | shutdownJoin _ _ | shutdownRelease _ => cases outside
  | _ => exact ⟨rfl, rfl⟩

theorem RtspStep.outsideCallback {cfg : RtspConfig} {server next : RtspServer}
    {event : RtspEvent} (step : RtspStep cfg server event next)
    (outside : event.ofShutdown = false)
    (quiet : event.ofCallback = false) :
    next.appsrc = server.appsrc ∧ next.stage = server.stage := by
  cases step with
  | shutdownRelease _ => cases outside
  | locate _ | install _ | feed _ | finish _ => cases quiet
  | _ => exact ⟨rfl, rfl⟩

theorem Sources.set_apply (sources : Sources) (ctx other : MainContext)
    (id key : Nat) (name : Option SourceName) :
    sources.set ctx id name other key =
      if other = ctx ∧ key = id then name else sources other key := by
  unfold Sources.set
  rw [Function.update_apply]
  split
  · rename_i hctx
    rw [Function.update_apply]
    simp [hctx]
  · rename_i hctx
    simp [hctx]

namespace LifecycleEvent

def ofShutdown : LifecycleEvent → Bool
  | .attach _ _ => false
  | .inner _ => false
  | _ => true

end LifecycleEvent

structure TornDown (cfg : RtspConfig) (life : Lifecycle) : Prop where
  server : life.server = false ∧ life.serverDrops = 1
  appsrc : life.core.appsrc = none
  dropped : ∀ src, life.core.refs src = 0
  listener : ∀ ctx id, life.sources ctx id ≠ some .listener
  thread : life.thread ≠ .started
  again : LifecycleStep cfg life .shutdownIgnored life
  unchanged : ∀ event next, event.ofShutdown = true →
    LifecycleStep cfg life event next → next = life

/-- The lookup finds the listening source in the default context only. -/
theorem destroyById_listener {sources : Sources} {ctx : MainContext} {id : Nat}
    (hid : id ≠ 0)
    (listening : ∀ other key,
      sources other key = some .listener ↔ other = ctx ∧ key = id)
    (other : MainContext) (key : Nat) :
    destroyById sources id other key = some .listener ↔
      other = ctx ∧ key = id ∧ ctx ≠ defaultContext := by
  rw [destroyById, if_neg hid, Sources.set_apply]
  split
  · rename_i found
    obtain ⟨rfl, rfl⟩ := found
    simp only [reduceCtorEq, false_iff]
    rintro ⟨rfl, _, hother⟩
    exact hother rfl
  · rename_i missed
    rw [listening]
    constructor
    · rintro ⟨rfl, rfl⟩
      refine ⟨rfl, rfl, ?_⟩
      rintro rfl
      exact missed ⟨rfl, rfl⟩
    · rintro ⟨rfl, rfl, _⟩
      exact ⟨rfl, rfl⟩

/-! What an object that `attach` has brought to listen on `ctx` holds, by where
the thread stands. -/

namespace MainThread

def feederThread : MainThread → FeederThread
  | .constructed => .notStarted
  | .looping => .started
  | .joining => .started
  | _ => .joined

def holdsServer : MainThread → Bool
  | .constructed => false
  | .returned => false
  | _ => true

def drops : MainThread → Nat
  | .returned => 1
  | _ => 0

/-- Whether `shutdown` has looked for the listening source. -/
def searched : MainThread → Bool
  | .releasing => true
  | .unreffing => true
  | .returned => true
  | _ => false

def cleared : MainThread → Bool
  | .unreffing => true
  | .returned => true
  | _ => false

end MainThread

structure AfterAttach (cfg : RtspConfig) (ctx : MainContext) (id : Nat)
    (life : Lifecycle) : Prop where
  history : ∃ events, (rtspSystem cfg).Run events life.core
  begun : life.main ≠ .constructed
  running : life.core.running = true ↔ life.main = .looping
  idle : life.main ≠ .looping → life.core.Idle
  thread : life.thread = life.main.feederThread
  server : life.server = life.main.holdsServer
  drops : life.serverDrops = life.main.drops
  appsrc : life.main.cleared = true → life.core.appsrc = none
  joined : life.main.cleared = true → life.core.shutdown = .finished
  sourceId : life.main.searched = false → life.sourceId = id
  sources : ∀ other key, life.sources other key = some .listener ↔
    other = ctx ∧ key = id ∧ (life.main.searched = true → ctx ≠ defaultContext)

namespace AfterAttach

variable {cfg : RtspConfig} {ctx : MainContext} {id : Nat}
variable {life next : Lifecycle} {core : RtspServer}

/-- The feeder, a callback or a client, which comes only before `shutdown`. -/
theorem inner {event : RtspEvent} (after : AfterAttach cfg ctx id life)
    (inside : RtspStep cfg life.core event core)
    (outside : event.ofShutdown = false)
    (callback : event.ofCallback = true → life.main = .looping) :
    AfterAttach cfg ctx id { life with core := core } := by
  obtain ⟨hrunning, hshutdown⟩ := inside.outsideShutdown outside
  obtain ⟨events, history⟩ := after.history
  have quiet (hmain : life.main ≠ .looping) :
      core.appsrc = life.core.appsrc ∧ core.stage = life.core.stage := by
    apply inside.outsideCallback outside
    cases hcallback : event.ofCallback with
    | false => rfl
    | true => exact absurd (callback hcallback) hmain
  have parked (hcleared : life.main.cleared = true) :
      life.main ≠ .looping := by
    intro hmain
    rw [hmain] at hcleared
    cases hcleared
  exact
    { after with
      history := ⟨_, history.extend inside⟩
      running := by
        rw [hrunning]
        exact after.running
      idle := by
        intro hmain src
        rw [(quiet hmain).2]
        exact after.idle hmain src
      appsrc := by
        intro hcleared
        rw [(quiet (parked hcleared)).1]
        exact after.appsrc hcleared
      joined := by
        intro hcleared
        rw [hshutdown]
        exact after.joined hcleared }

theorem ignored (after : AfterAttach cfg ctx id life)
    (hmain : life.main = .looping ∨ life.main = .returned)
    (stopped : life.core.running = false) :
    AfterAttach cfg ctx id { life with main := .returned } := by
  rcases hmain with hmain | hmain
  · rw [after.running.mpr hmain] at stopped
    cases stopped
  · rw [← hmain]
    exact after

theorem stop (after : AfterAttach cfg ctx id life) (idle : life.core.Idle)
    (step : RtspStep cfg life.core .shutdownStop core) :
    AfterAttach cfg ctx id { life with core := core, main := .joining } := by
  obtain ⟨⟨events, history⟩, _, running, _, thread, server, drops, _, _,
    sourceId, sources⟩ := after
  have history := history.extend step
  cases step with
  | shutdownStop hrunning =>
      rw [running.mp hrunning] at thread server drops sourceId sources
      exact ⟨⟨_, history⟩, by simp, by simp, fun _ => idle, thread, server,
        drops, nofun, nofun, sourceId, sources⟩

theorem join (after : AfterAttach cfg ctx id life)
    (hmain : life.main = .joining)
    (step : RtspStep cfg life.core .shutdownJoin core) :
    AfterAttach cfg ctx id
      { life with core := core, thread := .joined, main := .destroying } := by
  obtain ⟨⟨events, history⟩, _, running, idle, _, server, drops, _, _,
    sourceId, sources⟩ := after
  rw [hmain] at running idle server drops sourceId sources
  have history := history.extend step
  cases step with
  | shutdownJoin _ _ =>
      exact ⟨⟨_, history⟩, by simp, by simpa using running,
        fun _ => idle (by simp), rfl, server, drops, nofun, nofun, sourceId,
        sources⟩

theorem destroy (hid : id ≠ 0) (after : AfterAttach cfg ctx id life)
    (hmain : life.main = .destroying) :
    AfterAttach cfg ctx id
      { life with
        sources := destroyById life.sources life.sourceId
        sourceId := 0
        main := .releasing } := by
  obtain ⟨history, _, running, idle, thread, server, drops, _, _, sourceId,
    sources⟩ := after
  rw [hmain] at running idle thread server drops sourceId sources
  have listening : ∀ other key, life.sources other key = some .listener ↔
      other = ctx ∧ key = id := by
    intro other key
    simpa [MainThread.searched] using sources other key
  refine ⟨history, by simp, by simpa using running, fun _ => idle (by simp),
    thread, server, drops, nofun, nofun, nofun, ?_⟩
  intro other key
  rw [sourceId rfl]
  simpa [MainThread.searched] using
    destroyById_listener hid listening other key

theorem release (after : AfterAttach cfg ctx id life)
    (hmain : life.main = .releasing)
    (step : RtspStep cfg life.core .shutdownRelease core) :
    AfterAttach cfg ctx id
      { life with core := core, main := .unreffing } := by
  obtain ⟨⟨events, history⟩, _, running, idle, thread, server, drops, _, _, _,
    sources⟩ := after
  rw [hmain] at running idle thread server drops sources
  have history := history.extend step
  cases step with
  | shutdownRelease _ =>
      exact ⟨⟨_, history⟩, by simp, by simpa using running,
        fun _ => idle (by simp), thread, server, drops, fun _ => rfl,
        fun _ => rfl, nofun, sources⟩

theorem unref (after : AfterAttach cfg ctx id life)
    (hmain : life.main = .unreffing) :
    AfterAttach cfg ctx id
      { life with
        server := false
        serverDrops := if life.server then life.serverDrops + 1
          else life.serverDrops
        main := .returned } := by
  obtain ⟨history, _, running, idle, thread, server, drops, appsrc, joined, _,
    sources⟩ := after
  rw [hmain] at running idle thread server drops appsrc joined sources
  refine ⟨history, by simp, by simpa using running, fun _ => idle (by simp),
    thread, rfl, ?_, appsrc, joined, nofun, sources⟩
  simp [server, drops, MainThread.holdsServer, MainThread.drops]

theorem step {event : LifecycleEvent} (hid : id ≠ 0)
    (after : AfterAttach cfg ctx id life)
    (step : LifecycleStep cfg life event next) :
    AfterAttach cfg ctx id next := by
  cases step with
  | attachFailed hmain => exact absurd hmain after.begun
  | attached hmain _ _ => exact absurd hmain after.begun
  | inner inside outside callback => exact after.inner inside outside callback
  | shutdownIgnored hmain _ stopped => exact after.ignored hmain stopped
  | shutdownStop _ idle stop => exact after.stop idle stop
  | shutdownJoin hmain join => exact after.join hmain join
  | destroySource hmain => exact after.destroy hid hmain
  | shutdownRelease hmain release => exact after.release hmain release
  | unrefServer hmain => exact after.unref hmain

end AfterAttach

theorem run_afterAttach {cfg : RtspConfig} {ctx : Option MainContext} {id : Nat}
    {rest : List LifecycleEvent} {life : Lifecycle} (hid : id ≠ 0)
    (run : (lifecycleSystem cfg).Run (.attach ctx id :: rest) life) :
    AfterAttach cfg (ctx.getD defaultContext) id life := by
  apply run.established
  · rintro fresh next ⟨sources, unlistened, rfl⟩ step
    cases step with
    | attachFailed _ => exact absurd rfl hid
    | attached _ _ _ =>
        refine ⟨⟨[], .start rfl⟩, by simp, by simp [RtspServer.attached], nofun,
          rfl, rfl, rfl, nofun, nofun, fun _ => rfl, ?_⟩
        intro other key
        simp only [Sources.set_apply, Lifecycle.new]
        split
        · rename_i placed
          simp [placed, MainThread.searched]
        · rename_i elsewhere
          simp only [unlistened, false_iff]
          rintro ⟨rfl, rfl, _⟩
          exact elsewhere ⟨rfl, rfl⟩
  · intro state event next after step
    exact after.step hid step

/-- What `attach` leaves behind when `gst_rtsp_server_attach` returns 0. -/
structure NeverAttached (life : Lifecycle) : Prop where
  main : life.main = .looping ∨ life.main = .returned
  running : life.core.running = false
  server : life.server = true

theorem run_neverAttached {cfg : RtspConfig} {ctx : Option MainContext}
    {rest : List LifecycleEvent} {life : Lifecycle}
    (run : (lifecycleSystem cfg).Run (.attach ctx 0 :: rest) life) :
    NeverAttached life := by
  apply run.established
  · rintro fresh next ⟨sources, unlistened, rfl⟩ step
    cases step with
    | attachFailed _ => exact ⟨.inl rfl, rfl, rfl⟩
    | attached _ hid _ => exact absurd rfl hid
  · rintro life event next ⟨main, running, server⟩ step
    have notInside {place : MainThread} (hmain : life.main = place)
        (hlooping : place ≠ .looping) (hreturned : place ≠ .returned) :
        NeverAttached next := by
      rw [hmain] at main
      rcases main with rfl | rfl
      · exact absurd rfl hlooping
      · exact absurd rfl hreturned
    cases step with
    | inner inside outside _ =>
        exact ⟨main, (inside.outsideShutdown outside).1.trans running, server⟩
    | shutdownIgnored _ _ _ => exact ⟨.inr rfl, running, server⟩
    | shutdownStop _ _ stop =>
        cases stop with
        | shutdownStop hrunning => exact absurd hrunning (by simp [running])
    | attachFailed hmain => exact notInside hmain (by simp) (by simp)
    | attached hmain _ _ => exact notInside hmain (by simp) (by simp)
    | shutdownJoin hmain _ => exact notInside hmain (by simp) (by simp)
    | destroySource hmain => exact notInside hmain (by simp) (by simp)
    | shutdownRelease hmain _ => exact notInside hmain (by simp) (by simp)
    | unrefServer hmain => exact notInside hmain (by simp) (by simp)

/-! What is left once `shutdown` has returned. -/

theorem AfterAttach.refs {cfg : RtspConfig} {ctx : MainContext} {id : Nat}
    {life : Lifecycle} (after : AfterAttach cfg ctx id life)
    (returned : life.main = .returned) (src : AppSrc) :
    life.core.refs src = 0 := by
  obtain ⟨events, history⟩ := after.history
  have references := run_references history
  have hcleared : life.main.cleared = true := by rw [returned]; rfl
  have hfeeder : life.core.feeder = .exited :=
    references.joined (.inr (after.joined hcleared))
  have hidle : life.core.Idle := after.idle (by simp [returned])
  rw [references.held src, holders, after.appsrc hcleared, hfeeder, hidle src]
  simp [heldByServer, heldByFeeder, FeederLocation.localSrc]

/-- The flag is down for good, so a further call returns at once. -/
theorem LifecycleStep.again {cfg : RtspConfig} {life next : Lifecycle}
    {event : LifecycleEvent} (step : LifecycleStep cfg life event next)
    (hshutdown : event.ofShutdown = true) (returned : life.main = .returned)
    (stopped : life.core.running = false) : next = life := by
  have notInside {place : MainThread} (hmain : life.main = place)
      (hplace : place ≠ .returned) : next = life :=
    absurd (hmain.symm.trans returned) hplace
  cases step with
  | shutdownIgnored _ _ _ =>
      rw [← returned]
  | shutdownStop _ _ stop =>
      cases stop with
      | shutdownStop hrunning =>
          rw [stopped] at hrunning
          cases hrunning
  | attachFailed _ | attached _ _ _ | inner _ _ _ => cases hshutdown
  | shutdownJoin hmain _ => exact notInside hmain (by simp)
  | destroySource hmain => exact notInside hmain (by simp)
  | shutdownRelease hmain _ => exact notInside hmain (by simp)
  | unrefServer hmain => exact notInside hmain (by simp)

theorem AfterAttach.tornDown_iff {cfg : RtspConfig} {ctx : MainContext}
    {id : Nat} {life : Lifecycle} (after : AfterAttach cfg ctx id life)
    (returned : life.main = .returned) :
    TornDown cfg life ↔ ctx = defaultContext := by
  have hsources := after.sources
  have hstopped : life.core.running = false := by
    rw [← Bool.not_eq_true, after.running, returned]
    simp
  have hidle : life.core.Idle := after.idle (by simp [returned])
  constructor
  · intro tornDown
    by_contra hother
    exact tornDown.listener ctx id
      ((hsources ctx id).mpr ⟨rfl, rfl, fun _ => hother⟩)
  · rintro rfl
    refine ⟨⟨?_, ?_⟩, ?_, after.refs returned, ?_, ?_, ?_, ?_⟩
    · rw [after.server, returned]
      rfl
    · rw [after.drops, returned]
      rfl
    · exact after.appsrc (by rw [returned]; rfl)
    · intro other key hlistener
      obtain ⟨_, _, hother⟩ := (hsources other key).mp hlistener
      rw [returned] at hother
      exact hother rfl rfl
    · rw [after.thread, returned]
      simp [MainThread.feederThread]
    · have again := @LifecycleStep.shutdownIgnored cfg life (.inr returned)
        hidle hstopped
      rwa [← returned] at again
    · intro event next hshutdown step
      exact step.again hshutdown returned hstopped

theorem teardown_complete_iff {cfg : RtspConfig} {ctx : Option MainContext}
    {id : Nat} {rest : List LifecycleEvent} {life : Lifecycle}
    (run : (lifecycleSystem cfg).Run (.attach ctx id :: rest) life)
    (returned : life.main = .returned) :
    TornDown cfg life ↔ id ≠ 0 ∧ ctx.getD defaultContext = defaultContext := by
  by_cases hid : id = 0
  · subst hid
    constructor
    · intro tornDown
      have hserver := tornDown.server.1
      rw [(run_neverAttached run).server] at hserver
      cases hserver
    · rintro ⟨hid, _⟩
      exact absurd rfl hid
  · have after := run_afterAttach hid run
    rw [after.tornDown_iff returned]
    exact ⟨fun hctx => ⟨hid, hctx⟩, And.right⟩

/-- One client on the default context, and a server that is shut down while the
feeder waits for a frame. -/
def servedEvents : List LifecycleEvent :=
  [.attach none 1, .inner .enter, .inner (.locate 0), .inner (.install 0),
    .inner (.feed 0), .inner (.finish 0), .shutdownStop, .inner .drained,
    .shutdownJoin, .destroySource, .shutdownRelease, .unrefServer]

theorem teardown_complete_served :
    ∃ life, (lifecycleSystem demoConfig).Run servedEvents life ∧
      TornDown demoConfig life := by
  have attached := (System.Run.start ⟨fun _ _ => none, by simp, rfl⟩ :
    (lifecycleSystem demoConfig).Run [] (.new fun _ _ => none)).extend
    (@LifecycleStep.attached _ _ none 1 rfl (by decide) rfl)
  have configured := ((((attached.extend
    (.inner (.enter rfl rfl) rfl nofun)).extend
    (.inner (@RtspStep.locate _ _ 0 rfl) rfl fun _ => rfl)).extend
    (.inner (@RtspStep.install _ _ 0 rfl) rfl fun _ => rfl)).extend
    (.inner (@RtspStep.feed _ _ 0 rfl) rfl fun _ => rfl)).extend
    (.inner (@RtspStep.finish _ _ 0 rfl) rfl fun _ => rfl)
  have joined := ((configured.extend
    (.shutdownStop (.inl rfl) (by rintro ⟨⟩ <;> rfl) (.shutdownStop rfl))).extend
    (.inner (.drained rfl) rfl nofun)).extend
    (.shutdownJoin rfl (.shutdownJoin rfl rfl))
  have returned := ((joined.extend (.destroySource rfl)).extend
    (.shutdownRelease rfl (.shutdownRelease rfl))).extend (.unrefServer rfl)
  exact ⟨_, returned,
    (teardown_complete_iff returned rfl).mpr ⟨by decide, rfl⟩⟩

/-- A failed `attach` leaves the server object to nobody. -/
def refusedEvents : List LifecycleEvent :=
  [.attach none 0, .shutdownIgnored]

/-- The server listens on a context of its own. -/
def elsewhereEvents : List LifecycleEvent :=
  [.attach (some 1) 1, .shutdownStop, .inner .leave, .shutdownJoin,
    .destroySource, .shutdownRelease, .unrefServer]

theorem teardown_incomplete :
    (∃ life, (lifecycleSystem demoConfig).Run refusedEvents life ∧
      life.main = .returned ∧ life.server = true ∧
      ¬ TornDown demoConfig life) ∧
    ∃ life, (lifecycleSystem demoConfig).Run elsewhereEvents life ∧
      life.main = .returned ∧ life.sources 1 1 = some .listener ∧
      ¬ TornDown demoConfig life := by
  have created := (System.Run.start ⟨fun _ _ => none, by simp, rfl⟩ :
    (lifecycleSystem demoConfig).Run [] (.new fun _ _ => none))
  constructor
  · have ignored := (created.extend
      (@LifecycleStep.attachFailed _ _ none rfl)).extend
      (.shutdownIgnored (.inl rfl) (fun _ => rfl) rfl)
    refine ⟨_, ignored, rfl, rfl, ?_⟩
    intro tornDown
    cases tornDown.server.1
  · have joined := (((created.extend
      (@LifecycleStep.attached _ _ (some 1) 1 rfl (by decide) rfl)).extend
      (.shutdownStop (.inl rfl) (fun _ => rfl) (.shutdownStop rfl))).extend
      (.inner (.leave rfl rfl) rfl nofun)).extend
      (.shutdownJoin rfl (.shutdownJoin rfl rfl))
    have returned := ((joined.extend (.destroySource rfl)).extend
      (.shutdownRelease rfl (.shutdownRelease rfl))).extend (.unrefServer rfl)
    refine ⟨_, returned, rfl, rfl, ?_⟩
    intro tornDown
    exact tornDown.listener 1 1 rfl

end EmbeddedPortfolio.Pipeline
