import EmbeddedPortfolio.Transition.Since
import EmbeddedPortfolio.Pipeline.RtspServer

namespace EmbeddedPortfolio.Pipeline

open EmbeddedPortfolio.Transition RtspServer

/-! Skipping frames under back-pressure, and what it does to the H.264 stream
an appsrc receives. -/

/-- Once a frame has been withheld from an appsrc, no delta frame is pushed to
it before a keyframe has been. -/
def KeyframeFirst (events : List RtspEvent) : Prop :=
  ∀ first middle last skipped shown src buffer,
    events = first ++ .skip skipped (some src) :: middle ++
      .push shown src buffer :: last →
    shown.keyframe = false →
    ∃ key keyBuffer, RtspEvent.push key src keyBuffer ∈ middle ∧
      key.keyframe = true

/-- The gate reopens at a group of pictures.  When the feeder takes up a delta
frame for an appsrc from which it has skipped a frame, a keyframe has been
popped in between. -/
def ReopensAtKeyframe (events : List RtspEvent) : Prop :=
  ∀ first middle last skipped shown src,
    events = first ++ .skip skipped (some src) :: middle ++
      .fetch shown (some src) :: last →
    shown.keyframe = false →
    ∃ key, RtspEvent.pop key ∈ middle ∧ key.keyframe = true

namespace RtspEvent

def withholdsFrom (src : AppSrc) : RtspEvent → Bool
  | .skip _ configured => configured == some src
  | _ => false

def pushesKeyTo (src : AppSrc) : RtspEvent → Bool
  | .push item target _ => target == src && item.keyframe
  | _ => false

def popsKey : RtspEvent → Bool
  | .pop item => item.keyframe
  | _ => false

def neutral : RtspEvent → Bool
  | .skip _ _ => false
  | .push _ _ _ => false
  | .pop _ => false
  | _ => true

theorem eq_false_of_neutral {event : RtspEvent} (h : event.neutral = true)
    (src : AppSrc) :
    event.withholdsFrom src = false ∧ event.pushesKeyTo src = false ∧
      event.popsKey = false := by
  cases event with
  | skip _ _ => cases h
  | push _ _ _ => cases h
  | pop _ => cases h
  | _ => exact ⟨rfl, rfl, rfl⟩

end RtspEvent

/-- A frame was withheld from `src` after the last keyframe pushed to it. -/
def awaitsKey (src : AppSrc) (events : List RtspEvent) : Bool :=
  pending (RtspEvent.withholdsFrom src) (RtspEvent.pushesKeyTo src) events

/-- A frame of the current group of pictures was withheld from `src`. -/
def gopBroken (src : AppSrc) (events : List RtspEvent) : Bool :=
  pending (RtspEvent.withholdsFrom src) RtspEvent.popsKey events

def Configured : ConfigureStage → Prop
  | .unborn => False
  | .located => False
  | _ => True

/-- The feeder carries a keyframe that can still reach `src`. -/
def CarriesKey (feeder : FeederLocation) (src : AppSrc) : Prop :=
  ∃ key, key.keyframe = true ∧
    (feeder = .gating key ∨ feeder = .fetching key ∨
      feeder = .emitting key src)

structure Resynchronised (events : List RtspEvent) (server : RtspServer) :
    Prop where
  current : ∀ src, server.appsrc = some src → Configured (server.stage src)
  withheld : ∀ src, awaitsKey src events = true →
    Configured (server.stage src)
  broken : ∀ src, awaitsKey src events = true → server.appsrc = some src →
    gopBroken src events = true ∨ CarriesKey server.feeder src
  emitting : ∀ item src, server.feeder = .emitting item src →
    item.keyframe = false → awaitsKey src events = false

@[simp] theorem awaitsKey_append (src : AppSrc) (events : List RtspEvent)
    (event : RtspEvent) :
    awaitsKey src (events ++ [event]) =
      if event.withholdsFrom src then true
      else if event.pushesKeyTo src then false
      else awaitsKey src events :=
  pending_append_singleton ..

@[simp] theorem gopBroken_append (src : AppSrc) (events : List RtspEvent)
    (event : RtspEvent) :
    gopBroken src (events ++ [event]) =
      if event.withholdsFrom src then true
      else if event.popsKey then false
      else gopBroken src events :=
  pending_append_singleton ..

theorem configured_move {stage : AppSrc → ConfigureStage} {src other : AppSrc}
    {target : ConfigureStage}
    (htarget : Configured (stage src) → Configured target)
    (h : Configured (stage other)) :
    Configured (Locations.move stage src target other) := by
  by_cases heq : other = src
  · subst heq
    rw [Locations.move_self]
    exact htarget h
  · rw [Locations.move_other _ _ heq]
    exact h

namespace Resynchronised

variable {events : List RtspEvent} {server next : RtspServer}

theorem initial : Resynchronised [] RtspServer.attached where
  current := by
    intro src h
    cases h
  withheld := by
    intro src h
    cases h
  broken := by
    intro src h
    cases h
  emitting := by
    intro item src h
    cases h

/-- Steps that neither skip, pop nor push, and leave the appsrc in place. -/
theorem frame (inv : Resynchronised events server) {event : RtspEvent}
    (hneutral : event.neutral = true)
    (hstage : ∀ src, Configured (server.stage src) →
      Configured (next.stage src))
    (happsrc : next.appsrc = server.appsrc)
    (hcarries : ∀ src, next.appsrc = some src →
      CarriesKey server.feeder src → CarriesKey next.feeder src)
    (hemitting : ∀ item src, next.feeder = .emitting item src →
      server.feeder = .emitting item src) :
    Resynchronised (events ++ [event]) next := by
  have hawaits : ∀ src, awaitsKey src (events ++ [event]) =
      awaitsKey src events := by
    intro src
    obtain ⟨hskip, hpush, _⟩ := RtspEvent.eq_false_of_neutral hneutral src
    simp [hskip, hpush]
  have hbroken : ∀ src, gopBroken src (events ++ [event]) =
      gopBroken src events := by
    intro src
    obtain ⟨hskip, _, hpop⟩ := RtspEvent.eq_false_of_neutral hneutral src
    simp [hskip, hpop]
  refine ⟨?_, ?_, ?_, ?_⟩
  · intro src hsrc
    exact hstage src (inv.current src (happsrc ▸ hsrc))
  · intro src h
    exact hstage src (inv.withheld src (hawaits src ▸ h))
  · intro src h hsrc
    rw [hbroken]
    rcases inv.broken src (hawaits src ▸ h) (happsrc ▸ hsrc) with h | h
    · exact .inl h
    · exact .inr (hcarries src hsrc h)
  · intro item src hfeeder hitem
    rw [hawaits]
    exact inv.emitting item src (hemitting item src hfeeder) hitem

theorem skip (inv : Resynchronised events server) (item : EncodedFrame) :
    Resynchronised (events ++ [.skip item server.appsrc])
      { server with feeder := .top } := by
  refine ⟨inv.current, ?_, ?_, ?_⟩
  · intro src h
    by_cases hsrc : server.appsrc = some src
    · exact inv.current src hsrc
    · apply inv.withheld src
      simpa [RtspEvent.withholdsFrom, RtspEvent.pushesKeyTo, hsrc] using h
  · intro src _ hsrc
    have hsrc : server.appsrc = some src := hsrc
    left
    simp [RtspEvent.withholdsFrom, hsrc]
  · intro shown src h
    cases h

/-- A keyframe closes the broken group; from then on the feeder carries it. -/
theorem pop (inv : Resynchronised events server) {item : EncodedFrame}
    (hfeeder : server.feeder = .popping) :
    Resynchronised (events ++ [.pop item])
      { server with feeder := .gating item } := by
  have hawaits : ∀ src, awaitsKey src (events ++ [.pop item]) =
      awaitsKey src events := by
    intro src
    simp [RtspEvent.withholdsFrom, RtspEvent.pushesKeyTo]
  refine ⟨inv.current, ?_, ?_, ?_⟩
  · intro src h
    exact inv.withheld src (hawaits src ▸ h)
  · intro src h hsrc
    cases hkey : item.keyframe with
    | true => exact .inr ⟨item, hkey, .inl rfl⟩
    | false =>
        left
        rcases inv.broken src (hawaits src ▸ h) hsrc with h | h
        · simpa [RtspEvent.withholdsFrom, RtspEvent.popsKey, hkey] using h
        · obtain ⟨key, _, h | h | h⟩ := h <;> rw [hfeeder] at h <;> cases h
  · intro shown src h
    cases h

/-- The condition is used here: a delta frame is taken up only for an appsrc
that is not waiting for a keyframe. -/
theorem fetch (inv : Resynchronised events server) {item : EncodedFrame}
    {src : AppSrc} (hfeeder : server.feeder = .fetching item)
    (hsrc : server.appsrc = some src)
    (hreopen : item.keyframe = false → gopBroken src events = false)
    (refs : AppSrc → Int) :
    Resynchronised (events ++ [.fetch item (some src)])
      { server with feeder := .emitting item src, refs := refs } := by
  have hawaits : ∀ other,
      awaitsKey other (events ++ [.fetch item (some src)]) =
        awaitsKey other events := by
    intro other
    simp [RtspEvent.withholdsFrom, RtspEvent.pushesKeyTo]
  have hcarried : ∀ other, CarriesKey server.feeder other →
      item.keyframe = true := by
    intro other h
    obtain ⟨key, hkey, h | h | h⟩ := h <;> rw [hfeeder] at h <;> cases h
    exact hkey
  refine ⟨inv.current, ?_, ?_, ?_⟩
  · intro other h
    exact inv.withheld other (hawaits other ▸ h)
  · intro other h hother
    have hsame : other = src := by
      have hother : server.appsrc = some other := hother
      rw [hsrc] at hother
      exact (Option.some.inj hother).symm
    subst hsame
    rcases inv.broken other (hawaits other ▸ h) hsrc with h | h
    · left
      simpa [RtspEvent.withholdsFrom, RtspEvent.popsKey] using h
    · exact .inr ⟨item, hcarried other h, .inr (.inr rfl)⟩
  · intro shown other h hshown
    cases h
    rw [hawaits]
    by_contra hwaiting
    rcases inv.broken src (by simpa using hwaiting) hsrc with h | h
    · rw [hreopen hshown] at h
      cases h
    · rw [hcarried src h] at hshown
      cases hshown

/-- A pushed keyframe ends the waiting of the appsrc it goes to. -/
theorem push (inv : Resynchronised events server) {item : EncodedFrame}
    {src : AppSrc} {buffer : GstBuffer} {flow : FlowReturn}
    (hfeeder : server.feeder = .emitting item src)
    (basePts : UInt64) (buffers : Int) :
    Resynchronised (events ++ [.push item src buffer])
      { server with
        feeder := .releasing src flow
        basePts := basePts
        buffers := buffers } := by
  have hawaits : ∀ other,
      awaitsKey other (events ++ [.push item src buffer]) = true →
        awaitsKey other events = true ∧
          (src = other → item.keyframe = false) := by
    intro other h
    rw [awaitsKey_append, if_neg (by simp [RtspEvent.withholdsFrom])] at h
    by_cases hpush :
        RtspEvent.pushesKeyTo other (.push item src buffer) = true
    · rw [if_pos hpush] at h
      cases h
    · rw [if_neg hpush] at h
      refine ⟨h, ?_⟩
      intro hsame
      simpa [RtspEvent.pushesKeyTo, hsame] using hpush
  refine ⟨inv.current, ?_, ?_, ?_⟩
  · intro other h
    exact inv.withheld other (hawaits other h).1
  · intro other h hother
    left
    obtain ⟨hbefore, hdelta⟩ := hawaits other h
    rcases inv.broken other hbefore hother with hbroken | hkey
    · simpa [RtspEvent.withholdsFrom, RtspEvent.popsKey] using hbroken
    · obtain ⟨key, hkey, hat | hat | hat⟩ := hkey <;>
        rw [hfeeder] at hat <;> cases hat
      rw [hdelta rfl] at hkey
      cases hkey
  · intro shown other h
    cases h

/-- A new appsrc has never been withheld from; the old one is gone for good. -/
theorem install (inv : Resynchronised events server) {src : AppSrc}
    (hstage : server.stage src = .located) (refs : AppSrc → Int) :
    Resynchronised (events ++ [.install src])
      { server with
        appsrc := some src
        stage := Locations.move server.stage src .installed
        refs := refs } := by
  have hawaits : ∀ other, awaitsKey other (events ++ [.install src]) =
      awaitsKey other events := by
    intro other
    simp [RtspEvent.withholdsFrom, RtspEvent.pushesKeyTo]
  refine ⟨?_, ?_, ?_, ?_⟩
  · intro other h
    cases h
    change Configured (Locations.move server.stage src .installed src)
    rw [Locations.move_self]
    trivial
  · intro other h
    exact configured_move (fun _ => trivial)
      (inv.withheld other (hawaits other ▸ h))
  · intro other h hother
    cases hother
    have hconfigured := inv.withheld src (hawaits src ▸ h)
    rw [hstage] at hconfigured
    exact hconfigured.elim
  · intro item other h hitem
    rw [hawaits]
    exact inv.emitting item other h hitem

theorem shutdownRelease (inv : Resynchronised events server)
    (refs : AppSrc → Int) :
    Resynchronised (events ++ [.shutdownRelease])
      { server with
        appsrc := none
        shutdown := .finished
        refs := refs } := by
  have hawaits : ∀ src, awaitsKey src (events ++ [.shutdownRelease]) =
      awaitsKey src events := by
    intro src
    simp [RtspEvent.withholdsFrom, RtspEvent.pushesKeyTo]
  refine ⟨?_, ?_, ?_, ?_⟩
  · intro src h
    cases h
  · intro src h
    exact inv.withheld src (hawaits src ▸ h)
  · intro src _ h
    cases h
  · intro item src h hitem
    rw [hawaits]
    exact inv.emitting item src h hitem

theorem frame_idle (inv : Resynchronised events server) {event : RtspEvent}
    (hneutral : event.neutral = true)
    (hstage : next.stage = server.stage)
    (happsrc : next.appsrc = server.appsrc)
    (hidle : ∀ src, ¬ CarriesKey server.feeder src)
    (hemitting : ∀ item src, next.feeder ≠ .emitting item src) :
    Resynchronised (events ++ [event]) next := by
  refine inv.frame hneutral ?_ ?_ ?_ ?_
  · intro src h
    rw [hstage]
    exact h
  · exact happsrc
  · intro src _ h
    exact (hidle src h).elim
  · intro item src h
    exact (hemitting item src h).elim

theorem frame_other (inv : Resynchronised events server) {event : RtspEvent}
    (hneutral : event.neutral = true)
    (hstage : ∀ src, Configured (server.stage src) →
      Configured (next.stage src))
    (happsrc : next.appsrc = server.appsrc)
    (hfeeder : next.feeder = server.feeder) :
    Resynchronised (events ++ [event]) next := by
  refine inv.frame hneutral hstage happsrc ?_ ?_
  · intro src _ h
    rw [hfeeder]
    exact h
  · intro item src h
    rw [← hfeeder]
    exact h

end Resynchronised

theorem not_carriesKey {feeder : FeederLocation} {src : AppSrc}
    (h : ∀ item, feeder ≠ .gating item ∧ feeder ≠ .fetching item ∧
      feeder ≠ .emitting item src) : ¬ CarriesKey feeder src := by
  intro ⟨key, _, hat⟩
  obtain ⟨hgating, hfetching, hemitting⟩ := h key
  rcases hat with hat | hat | hat
  · exact hgating hat
  · exact hfetching hat
  · exact hemitting hat

theorem gopBroken_eq_false {src : AppSrc} {events : List RtspEvent}
    {item : EncodedFrame}
    (condition : ReopensAtKeyframe (events ++ [.fetch item (some src)]))
    (hdelta : item.keyframe = false) : gopBroken src events = false := by
  by_contra hbroken
  obtain ⟨first, event, middle, rfl, hraise, hclear⟩ :=
    exists_raised_of_pending (by simpa [gopBroken] using hbroken)
  cases event with
  | skip skipped configured =>
      have hconfigured : configured = some src := by
        simpa [RtspEvent.withholdsFrom] using hraise
      subst hconfigured
      obtain ⟨key, hpop, hkey⟩ :=
        condition first middle [] skipped item src rfl hdelta
      have hcleared := hclear _ hpop
      simp [RtspEvent.popsKey, hkey] at hcleared
  | _ => simp [RtspEvent.withholdsFrom] at hraise

theorem ReopensAtKeyframe.of_append {events : List RtspEvent}
    {event : RtspEvent} (condition : ReopensAtKeyframe (events ++ [event])) :
    ReopensAtKeyframe events := by
  intro first middle last skipped shown src hsplit hdelta
  apply condition first middle (last ++ [event]) skipped shown src ?_ hdelta
  rw [hsplit]
  simp

theorem Resynchronised.step {cfg : RtspConfig} {events : List RtspEvent}
    {server next : RtspServer} {event : RtspEvent}
    (inv : Resynchronised events server)
    (condition : ReopensAtKeyframe (events ++ [event]))
    (step : RtspStep cfg server event next) :
    Resynchronised (events ++ [event]) next := by
  have idle : ∀ {place : FeederLocation}, server.feeder = place →
      (∀ item src, place ≠ .gating item ∧ place ≠ .fetching item ∧
        place ≠ .emitting item src) →
      ∀ src, ¬ CarriesKey server.feeder src := by
    intro place hplace h src
    rw [hplace]
    exact not_carriesKey fun item => h item src
  cases step with
  | enter hfeeder _ =>
      exact inv.frame_idle rfl rfl rfl
        (idle hfeeder (by simp)) (by simp)
  | leave hfeeder _ =>
      exact inv.frame_idle rfl rfl rfl
        (idle hfeeder (by simp)) (by simp)
  | pop hfeeder => exact inv.pop hfeeder
  | drained hfeeder =>
      exact inv.frame_idle rfl rfl rfl
        (idle hfeeder (by simp)) (by simp)
  | skip _ _ => exact inv.skip _
  | letThrough hfeeder _ =>
      refine inv.frame rfl (fun _ h => h) rfl ?_ ?_
      · intro src _ h
        obtain ⟨key, hkey, hat⟩ := h
        rw [hfeeder] at hat
        rcases hat with hat | hat | hat <;> cases hat
        exact ⟨_, hkey, .inr (.inl rfl)⟩
      · simp
  | fetchNone _ hnone =>
      refine inv.frame rfl (fun _ h => h) rfl ?_ ?_
      · intro src hsome
        rw [show server.appsrc = some src from hsome] at hnone
        cases hnone
      · simp
  | fetchSome hfeeder hsrc =>
      exact inv.fetch hfeeder hsrc (gopBroken_eq_false condition) _
  | push hfeeder => exact inv.push hfeeder _ _
  | release hfeeder =>
      exact inv.frame_idle rfl rfl rfl
        (idle hfeeder (by simp)) (by simp)
  | vsrcNotFound =>
      exact inv.frame_other rfl (fun _ h => h) rfl rfl
  | locate hstage =>
      refine inv.frame_other rfl ?_ rfl rfl
      intro other h
      exact configured_move (by simp [hstage, Configured]) h
  | install hstage => exact inv.install hstage _
  | feed _ =>
      exact inv.frame_other rfl
        (fun _ h => configured_move (fun _ => trivial) h) rfl rfl
  | finish _ =>
      exact inv.frame_other rfl
        (fun _ h => configured_move (fun _ => trivial) h) rfl rfl
  | needData =>
      exact inv.frame_other rfl (fun _ h => h) rfl rfl
  | enoughData =>
      exact inv.frame_other rfl (fun _ h => h) rfl rfl
  | shutdownStop _ =>
      exact inv.frame_other rfl (fun _ h => h) rfl rfl
  | shutdownJoin _ _ =>
      exact inv.frame_other rfl (fun _ h => h) rfl rfl
  | shutdownRelease _ => exact inv.shutdownRelease _

theorem run_resynchronised {cfg : RtspConfig} {events : List RtspEvent}
    {server : RtspServer} (run : (rtspSystem cfg).Run events server)
    (condition : ReopensAtKeyframe events) :
    Resynchronised events server := by
  revert condition
  apply run.invariant (motive := fun events server =>
    ReopensAtKeyframe events → Resynchronised events server)
  · intro server hinitial _
    rw [hinitial]
    exact .initial
  · intro events server event next induction step condition
    exact (induction condition.of_append).step condition step

theorem keyframeFirst_of_reopensAtKeyframe {cfg : RtspConfig}
    {events : List RtspEvent} {server : RtspServer}
    (run : (rtspSystem cfg).Run events server)
    (condition : ReopensAtKeyframe events) : KeyframeFirst events := by
  intro first middle last skipped shown src buffer hsplit hdelta
  subst hsplit
  have hrun : (rtspSystem cfg).Run
      ((first ++ .skip skipped (some src) :: middle) ++
        .push shown src buffer :: last) server := by
    simpa using run
  obtain ⟨before, _, earlier, step⟩ := hrun.step_between
  have hcondition : ReopensAtKeyframe
      (first ++ .skip skipped (some src) :: middle) := by
    intro first' middle' last' skipped' shown' src' hsplit' hdelta'
    apply condition first' middle' (last' ++ .push shown src buffer :: last)
      skipped' shown' src' ?_ hdelta'
    rw [hsplit']
    simp
  have inv := run_resynchronised earlier hcondition
  have hfeeder : before.feeder = .emitting shown src := by
    cases step with
    | push hfeeder => exact hfeeder
  have hawaits := inv.emitting shown src hfeeder hdelta
  by_contra hnone
  have hpending : awaitsKey src
      (first ++ .skip skipped (some src) :: middle) = true := by
    apply pending_of_raised
    · simp [RtspEvent.withholdsFrom]
    · intro later hlater
      cases later with
      | push item target keyBuffer =>
          by_contra hclear
          have hkey : target = src ∧ item.keyframe = true := by
            simpa [RtspEvent.pushesKeyTo] using hclear
          exact hnone ⟨item, keyBuffer, hkey.1 ▸ hlater, hkey.2⟩
      | _ => rfl
  rw [hawaits] at hpending
  cases hpending

def Holds (feeder : FeederLocation) (item : EncodedFrame) : Prop :=
  feeder = .gating item ∨ feeder = .fetching item ∨
    ∃ src, feeder = .emitting item src

namespace RtspEvent

def pops (item : EncodedFrame) : RtspEvent → Bool
  | .pop popped => popped == item
  | _ => false

def isSkip : RtspEvent → Bool
  | .skip _ _ => true
  | _ => false

def fetches (item : EncodedFrame) (src : AppSrc) : RtspEvent → Bool
  | .fetch fetched target => fetched == item && target == some src
  | _ => false

def isPush : RtspEvent → Bool
  | .push _ _ _ => true
  | _ => false

end RtspEvent

/-- A skip leaves the feeder without a frame, so the frame it holds was popped
after the last skip. -/
theorem held_popped_since_skip {cfg : RtspConfig} {events : List RtspEvent}
    {server : RtspServer} (run : (rtspSystem cfg).Run events server) :
    ∀ item, Holds server.feeder item →
      pending (RtspEvent.pops item) RtspEvent.isSkip events = true := by
  apply run.invariant (motive := fun events server =>
    ∀ item, Holds server.feeder item →
      pending (RtspEvent.pops item) RtspEvent.isSkip events = true)
  · intro server hinitial item h
    rw [hinitial] at h
    rcases h with h | h | ⟨_, h⟩ <;> cases h
  · intro events server event next induction step item h
    rw [pending_append_singleton]
    cases step with
    | pop _ =>
        rcases h with h | h | ⟨_, h⟩ <;> cases h
        simp [RtspEvent.pops]
    | letThrough hfeeder _ =>
        rcases h with h | h | ⟨_, h⟩ <;> cases h
        simp [RtspEvent.pops, RtspEvent.isSkip, induction item (.inl hfeeder)]
    | fetchSome hfeeder _ =>
        rcases h with h | h | ⟨_, h⟩ <;> cases h
        simp [RtspEvent.pops, RtspEvent.isSkip,
          induction item (.inr (.inl hfeeder))]
    | enter | leave | drained | skip | fetchNone | push | release =>
        rcases h with h | h | ⟨_, h⟩ <;> cases h
    | _ => simp [RtspEvent.pops, RtspEvent.isSkip, induction item h]

/-- From the fetch of a frame to the next push the feeder is on its way to push
that frame. -/
theorem emitting_since_fetch {cfg : RtspConfig} {events : List RtspEvent}
    {server : RtspServer} (run : (rtspSystem cfg).Run events server)
    (item : EncodedFrame) (src : AppSrc) :
    pending (RtspEvent.fetches item src) RtspEvent.isPush events = true →
      server.feeder = .emitting item src := by
  apply run.invariant (motive := fun events server =>
    pending (RtspEvent.fetches item src) RtspEvent.isPush events = true →
      server.feeder = .emitting item src)
  · intro server _ h
    simp at h
  · intro events server event next induction step h
    have elsewhere : ∀ {place : FeederLocation}, server.feeder = place →
        place ≠ .emitting item src →
        pending (RtspEvent.fetches item src) RtspEvent.isPush events = true →
        False := by
      intro place hplace hne hpending
      exact hne (hplace.symm.trans (induction hpending))
    rw [pending_append_singleton] at h
    cases step with
    | @fetchSome fetched target hfeeder _ =>
        by_cases hfetch : RtspEvent.fetches item src
            (.fetch fetched (some target)) = true
        · simp only [RtspEvent.fetches, Bool.and_eq_true, beq_iff_eq,
            Option.some.injEq] at hfetch
          rw [hfetch.1, hfetch.2]
        · rw [if_neg hfetch, if_neg (by simp [RtspEvent.isPush])] at h
          exact (elsewhere hfeeder (by simp) h).elim
    | fetchNone hfeeder _ =>
        exact (elsewhere hfeeder (by simp) (by
          simpa [RtspEvent.fetches, RtspEvent.isPush] using h)).elim
    | push _ => simp [RtspEvent.fetches, RtspEvent.isPush] at h
    | enter hfeeder | leave hfeeder | pop hfeeder | drained hfeeder
    | skip hfeeder | letThrough hfeeder | release hfeeder =>
        exact (elsewhere hfeeder (by simp) h).elim
    | _ => exact induction h

/-- Whatever is pushed after a skip was popped after it. -/
theorem popped_of_pushed_after_skip {cfg : RtspConfig}
    {first middle last : List RtspEvent} {server : RtspServer}
    {skipped key : EncodedFrame} {configured : Option AppSrc} {src : AppSrc}
    {buffer : GstBuffer}
    (run : (rtspSystem cfg).Run
      (first ++ .skip skipped configured :: middle ++ last) server)
    (hpush : RtspEvent.push key src buffer ∈ middle) :
    RtspEvent.pop key ∈ middle := by
  obtain ⟨before, after, rfl⟩ := List.append_of_mem hpush
  have hrun : (rtspSystem cfg).Run
      ((first ++ .skip skipped configured :: before) ++
        .push key src buffer :: (after ++ last)) server := by
    simpa using run
  obtain ⟨server, _, earlier, step⟩ := hrun.step_between
  cases step with
  | push hfeeder =>
      have hpopped := held_popped_since_skip earlier key
        (.inr (.inr ⟨src, hfeeder⟩))
      obtain ⟨later, hlater, hpops⟩ :=
        exists_raised_after rfl rfl hpopped
      cases later with
      | pop popped =>
          have heq : popped = key := by
            simpa [RtspEvent.pops] using hpops
          rw [heq] at hlater
          exact List.mem_append_left _ hlater
      | _ => simp [RtspEvent.pops] at hpops

theorem reopensAtKeyframe_of_keyframeFirst {cfg : RtspConfig}
    {events : List RtspEvent} {server : RtspServer}
    (run : (rtspSystem cfg).Run events server)
    (settled : ∀ item src, server.feeder ≠ .emitting item src)
    (first_key : KeyframeFirst events) : ReopensAtKeyframe events := by
  intro first middle last skipped shown src hsplit hdelta
  subst hsplit
  have hpushed : pending (RtspEvent.fetches shown src) RtspEvent.isPush
      (first ++ .skip skipped (some src) :: middle ++
        .fetch shown (some src) :: last) = false := by
    by_contra h
    exact settled shown src
      (emitting_since_fetch run shown src (by simpa using h))
  obtain ⟨before, clearing, after, rfl, hpush, hbefore⟩ :=
    exists_first_cleared (by simp [RtspEvent.fetches]) hpushed
  have nopush : ∀ item target buffer,
      RtspEvent.push item target buffer ∉ before := by
    intro item target buffer h
    exact absurd (hbefore _ h) (by simp [RtspEvent.isPush])
  cases clearing with
  | push pushed target buffer =>
      have hrun : (rtspSystem cfg).Run
          ((first ++ .skip skipped (some src) :: middle ++
            .fetch shown (some src) :: before) ++
              .push pushed target buffer :: after) server := by
        simpa using run
      obtain ⟨state, _, earlier, step⟩ := hrun.step_between
      have hfeeder : state.feeder = .emitting shown src := by
        apply emitting_since_fetch earlier
        exact pending_of_raised (by simp [RtspEvent.fetches]) hbefore
      have hsame : pushed = shown ∧ target = src := by
        cases step with
        | push h =>
            rw [hfeeder] at h
            cases h
            exact ⟨rfl, rfl⟩
      obtain ⟨rfl, rfl⟩ := hsame
      obtain ⟨key, keyBuffer, hkey, hkeyframe⟩ := first_key first
        (middle ++ .fetch pushed (some target) :: before) after skipped
        pushed target buffer (by simp) hdelta
      have hmiddle : RtspEvent.push key target keyBuffer ∈ middle := by
        rcases List.mem_append.mp hkey with hkey | hkey
        · exact hkey
        · rcases List.mem_cons.mp hkey with hkey | hkey
          · cases hkey
          · exact (nopush _ _ _ hkey).elim
      exact ⟨key, popped_of_pushed_after_skip earlier hmiddle, hkeyframe⟩
  | _ => simp [RtspEvent.isPush] at hpush

/-- Under back-pressure the stream stays decodable exactly when the gate reopens
at a keyframe.  The converse needs the feeder to have finished its push. -/
theorem keyframeFirst_exactly {cfg : RtspConfig}
    {events : List RtspEvent} {server : RtspServer}
    (run : (rtspSystem cfg).Run events server) :
    (ReopensAtKeyframe events → KeyframeFirst events) ∧
      ((∀ item src, server.feeder ≠ .emitting item src) →
        KeyframeFirst events → ReopensAtKeyframe events) :=
  ⟨keyframeFirst_of_reopensAtKeyframe run,
    reopensAtKeyframe_of_keyframeFirst run⟩

open Locations in
/-- What a media-configure that nothing interrupts makes of the server. -/
def RtspServer.configured (server : RtspServer) (src : AppSrc) :
    RtspServer :=
  { server with
    feeding := true
    appsrc := some src
    stage := move (move (move (move server.stage src .located) src .installed)
      src .fed) src .finished
    refs := unref (ref (unrefOption (ref server.refs src) server.appsrc) src)
      src }

open Locations in
theorem configured_run {cfg : RtspConfig} {events : List RtspEvent}
    {server : RtspServer} (run : (rtspSystem cfg).Run events server)
    (src : AppSrc) (unborn : server.stage src = .unborn) :
    (rtspSystem cfg).Run
      (events ++ [.locate src, .install src, .feed src, .finish src])
      (server.configured src) := by
  have located := run.extend (RtspStep.locate unborn)
  have installed := located.extend
    (@RtspStep.install _ _ src (move_self ..))
  have fed := installed.extend (@RtspStep.feed _ _ src (move_self ..))
  have finished := fed.extend (@RtspStep.finish _ _ src (move_self ..))
  simp only [List.append_assoc, List.cons_append, List.nil_append] at finished
  exact finished

section MidGop

def demoConfig : RtspConfig where
  service := "8554"
  mount := "/live"
  fps := 30

def idrFrame : EncodedFrame where
  data := [0x65]
  ptsNs := 0
  captureMonoNs := 0
  keyframe := true

def deltaFrame (ptsNs : UInt64) : EncodedFrame where
  data := [0x41]
  ptsNs := ptsNs
  captureMonoNs := 0
  keyframe := false

def demoBuffer (item : EncodedFrame) (basePts : UInt64) : GstBuffer :=
  makeBuffer demoConfig basePts 0 item

/-- A keyframe is pushed; `enough-data` closes the gate for the next frame of
its group and `need-data` reopens it before the one after. -/
def midGopEvents : List RtspEvent :=
  [.locate 0, .install 0, .feed 0, .finish 0,
    .enter, .pop idrFrame, .letThrough idrFrame, .fetch idrFrame (some 0),
    .push idrFrame 0 (demoBuffer idrFrame clockTimeNone), .release 0 .ok,
    .enoughData, .enter, .pop (deltaFrame 1), .skip (deltaFrame 1) (some 0),
    .needData, .enter, .pop (deltaFrame 2), .letThrough (deltaFrame 2),
    .fetch (deltaFrame 2) (some 0),
    .push (deltaFrame 2) 0 (demoBuffer (deltaFrame 2) 0)]

theorem midGop_run :
    ∃ server, (rtspSystem demoConfig).Run midGopEvents server := by
  have configured := configured_run (.start rfl :
    (rtspSystem demoConfig).Run [] RtspServer.attached) 0 rfl
  have pushed := (((((configured.extend (RtspStep.enter rfl rfl)).extend
    (@RtspStep.pop _ _ idrFrame rfl)).extend
    (RtspStep.letThrough rfl rfl)).extend (RtspStep.fetchSome rfl rfl)).extend
    (@RtspStep.push _ _ _ _ 0 .ok rfl)).extend (RtspStep.release rfl)
  have skipped := (((pushed.extend RtspStep.enoughData).extend
    (RtspStep.enter rfl rfl)).extend
    (@RtspStep.pop _ _ (deltaFrame 1) rfl)).extend (RtspStep.skip rfl rfl)
  have resumed := (((((skipped.extend RtspStep.needData).extend
    (RtspStep.enter rfl rfl)).extend
    (@RtspStep.pop _ _ (deltaFrame 2) rfl)).extend
    (RtspStep.letThrough rfl rfl)).extend (RtspStep.fetchSome rfl rfl)).extend
    (@RtspStep.push _ _ _ _ 0 .ok rfl)
  exact ⟨_, resumed⟩

theorem keyframeFirst_fails_midGop :
    (∃ server, (rtspSystem demoConfig).Run midGopEvents server) ∧
      ¬ KeyframeFirst midGopEvents := by
  refine ⟨midGop_run, ?_⟩
  intro h
  obtain ⟨key, keyBuffer, hkey, _⟩ := h
    [.locate 0, .install 0, .feed 0, .finish 0, .enter, .pop idrFrame,
      .letThrough idrFrame, .fetch idrFrame (some 0),
      .push idrFrame 0 (demoBuffer idrFrame clockTimeNone), .release 0 .ok,
      .enoughData, .enter, .pop (deltaFrame 1)]
    [.needData, .enter, .pop (deltaFrame 2), .letThrough (deltaFrame 2),
      .fetch (deltaFrame 2) (some 0)]
    [] (deltaFrame 1) (deltaFrame 2) 0 _ rfl rfl
  simp at hkey

def withheldEvents : List RtspEvent :=
  [.locate 0, .install 0, .enter, .pop (deltaFrame 1)]

def reopenedEvents : List RtspEvent :=
  [.feed 0, .enter, .pop idrFrame, .letThrough idrFrame,
    .fetch idrFrame (some 0),
    .push idrFrame 0 (demoBuffer idrFrame clockTimeNone), .release 0 .ok,
    .enter, .pop (deltaFrame 2), .letThrough (deltaFrame 2)]

/-- A delta frame is withheld while the media is being configured.  The gate
lets a keyframe through, and the delta frame behind it. -/
def resumedEvents : List RtspEvent :=
  withheldEvents ++ .skip (deltaFrame 1) (some 0) ::
    (reopenedEvents ++ .fetch (deltaFrame 2) (some 0) ::
      [.push (deltaFrame 2) 0 (demoBuffer (deltaFrame 2) 0)])

theorem resumed_reopens : ReopensAtKeyframe resumedEvents := by
  intro first middle last skipped shown src hsplit hdelta
  rw [List.append_assoc, List.cons_append] at hsplit
  have hskip : RtspEvent.skip skipped (some src) ∈ resumedEvents := by
    simp [hsplit]
  obtain ⟨rfl, rfl⟩ : skipped = deltaFrame 1 ∧ src = 0 := by
    simpa [resumedEvents, withheldEvents, reopenedEvents] using hskip
  obtain ⟨_, _, hrest⟩ := (List.append_cons_inj_of_notMem
    (by simp [withheldEvents]) (by simp [reopenedEvents])).mp hsplit
  have hfetch : RtspEvent.fetch shown (some 0) ∈ reopenedEvents ++
      .fetch (deltaFrame 2) (some 0) ::
        [.push (deltaFrame 2) 0 (demoBuffer (deltaFrame 2) 0)] := by
    simp [hrest]
  have hshown : shown = deltaFrame 2 := by
    have heither : shown = idrFrame ∨ shown = deltaFrame 2 := by
      simpa [reopenedEvents] using hfetch
    rcases heither with rfl | hshown
    · cases hdelta
    · exact hshown
  subst hshown
  obtain ⟨rfl, _, _⟩ := (List.append_cons_inj_of_notMem
    (by simp [reopenedEvents, idrFrame, deltaFrame]) (by simp)).mp hrest
  exact ⟨idrFrame, by simp [reopenedEvents], rfl⟩

theorem keyframeFirst_exactly_reopened :
    RtspEvent.push (deltaFrame 2) 0 (demoBuffer (deltaFrame 2) 0) ∈
        resumedEvents ∧ KeyframeFirst resumedEvents := by
  have withheld := (((((System.Run.start rfl :
    (rtspSystem demoConfig).Run [] RtspServer.attached).extend
    (@RtspStep.locate _ _ 0 rfl)).extend (@RtspStep.install _ _ 0 rfl)).extend
    (RtspStep.enter rfl rfl)).extend
    (@RtspStep.pop _ _ (deltaFrame 1) rfl)).extend (RtspStep.skip rfl rfl)
  have keyed := ((((((withheld.extend (@RtspStep.feed _ _ 0 rfl)).extend
    (RtspStep.enter rfl rfl)).extend (@RtspStep.pop _ _ idrFrame rfl)).extend
    (RtspStep.letThrough rfl rfl)).extend (RtspStep.fetchSome rfl rfl)).extend
    (@RtspStep.push _ _ _ _ 0 .ok rfl)).extend (RtspStep.release rfl)
  have resumed := ((((keyed.extend (RtspStep.enter rfl rfl)).extend
    (@RtspStep.pop _ _ (deltaFrame 2) rfl)).extend
    (RtspStep.letThrough rfl rfl)).extend (RtspStep.fetchSome rfl rfl)).extend
    (@RtspStep.push _ _ _ _ 0 .ok rfl)
  exact ⟨by simp [resumedEvents],
    (keyframeFirst_exactly resumed).1 resumed_reopens⟩

end MidGop

end EmbeddedPortfolio.Pipeline
