import EmbeddedPortfolio.Detector.GstFrame

namespace EmbeddedPortfolio.Detector

open EmbeddedPortfolio.Transition

/-! Frames are slots for samples: moves, releases and destructions keep the
ownership of each sample linear. -/

def content (alive : Object → Option Frame) (object : Object) :
    Option GstSample :=
  (alive object).bind Frame.sample

theorem content_update (alive : Object → Option Frame) (object : Object)
    (frame : Option Frame) :
    content (Function.update alive object frame) =
      Function.update (content alive) object (frame.bind Frame.sample) := by
  funext other
  unfold content
  rw [Function.update_apply, Function.update_apply]
  split <;> rfl

def FrameEvent.unreffed (event : FrameEvent) : Option GstSample :=
  event.calls.findSome? GstCall.unreffed

theorem release_unreffed (frame : Frame) :
    frame.release.2.findSome? GstCall.unreffed = frame.sample := by
  cases hsample : frame.sample with
  | none => simp [Frame.release, hsample]
  | some sample =>
      simp only [Frame.release, hsample]
      split <;> rfl

def slotEvent (event : FrameEvent) : Option (SlotEvent Object GstSample) :=
  match event.op with
  | .default _ => none
  | .construct object sample => some (.acquire object sample)
  | .moveConstruct object source => some (.move object event.unreffed source)
  | .moveAssign target source =>
      if target = source then none
      else some (.move target event.unreffed source)
  | .release object => some (.clear object event.unreffed)
  | .destroy object => some (.clear object event.unreffed)

/-- Moving one frame onto another is moving the sample between their slots. -/
theorem assign_slotStep {frames : Frames} {target source : Object}
    (frame : Frame) {o : Frame} {discarded : Option GstSample}
    (distinct : target ≠ source)
    (htarget : content frames.alive target = frame.sample)
    (hsource : frames.alive source = some o)
    (hdiscarded : discarded = frame.sample) :
    SlotStep ⟨content frames.alive, frames.pulled⟩
      (.move target discarded source)
      ⟨content (Function.update
        (Function.update frames.alive source (some (frame.assign o).source))
        target (some (frame.assign o).target)), frames.pulled⟩ := by
  have ho : (some (frame.assign o).target).bind Frame.sample =
      content frames.alive source := by
    rw [Frame.assign_target, content, hsource]
  rw [hdiscarded, ← htarget, content_update, content_update, ho]
  exact .move distinct

theorem release_slotStep {frames : Frames} {object : Object} {frame : Frame}
    (hobject : frames.alive object = some frame) {left : Option Frame}
    (hleft : left.bind Frame.sample = none) :
    SlotStep ⟨content frames.alive, frames.pulled⟩
      (.clear object (frame.release.2.findSome? GstCall.unreffed))
      ⟨content (Function.update frames.alive object left), frames.pulled⟩ := by
  have hcontent : frame.sample = content frames.alive object := by
    rw [content, hobject]
    rfl
  rw [release_unreffed, hcontent, content_update, hleft]
  exact .clear

def frameRefinement :
    Refinement frameSystem (slotSystem Object GstSample) where
  abstraction frames := ⟨content frames.alive, frames.pulled⟩
  observe := slotEvent
  initial := by
    intro frames hinitial
    rw [hinitial]
    rfl
  stutter := by
    intro frames event next step hobserve
    cases step with
    | @default object hobject =>
        have hcontent : content frames.alive object = none := by
          rw [content, hobject]
          rfl
        simp only [content_update, Option.bind_some, Frame.empty]
        rw [← hcontent, Function.update_eq_self]
    | moveAssign distinct _ _ => simp [slotEvent, distinct] at hobserve
    | moveAssignSelf _ => rfl
    | _ => cases hobserve
  simulate := by
    intro frames event next observed step hobserve
    cases step with
    | default _ => cases hobserve
    | @construct object sample nowMonoNs hobject fresh =>
        cases hobserve
        obtain ⟨hsample, _, _⟩ := Frame.ofSample_spec nowMonoNs sample
        have hcontent : content frames.alive object = none := by
          rw [content, hobject]
          rfl
        simp only [content_update, Option.bind_some, hsample]
        exact .acquire hcontent fresh
    | @moveConstruct object source o hobject hsource =>
        cases hobserve
        have hne : object ≠ source := by
          rintro rfl
          rw [hobject] at hsource
          cases hsource
        apply assign_slotStep .empty hne ?_ hsource rfl
        rw [content, hobject]
        rfl
    | @moveAssign target source frame o distinct htarget hsource =>
        simp only [slotEvent, if_neg distinct, Option.some.injEq] at hobserve
        rw [← hobserve]
        apply assign_slotStep frame distinct ?_ hsource (release_unreffed frame)
        rw [content, htarget]
        rfl
    | moveAssignSelf _ => simp [slotEvent] at hobserve
    | @release object frame hobject =>
        cases hobserve
        exact release_slotStep hobject (Frame.release_sample frame)
    | @destroy object frame hobject =>
        cases hobserve
        exact release_slotStep hobject rfl

/-! The calls of a run, sample by sample. -/

def callsOn (sample : GstSample) (events : List FrameEvent) : List GstCall :=
  (events.flatMap FrameEvent.calls).filter fun call => call.sample = sample

def AllSound (frames : Frames) : Prop :=
  ∀ object frame, frames.alive object = some frame → frame.Sound

theorem sound_update {alive : Object → Option Frame}
    (sound : ∀ object frame, alive object = some frame → frame.Sound)
    {object : Object} {left : Option Frame}
    (hleft : ∀ frame, left = some frame → frame.Sound) (other : Object)
    (frame : Frame) (hother : Function.update alive object left other = some frame) :
    frame.Sound := by
  rw [Function.update_apply] at hother
  split at hother
  · exact hleft frame hother
  · exact sound other frame hother

theorem FrameStep.sound {frames next : Frames} {event : FrameEvent}
    (step : FrameStep frames event next) (sound : AllSound frames) :
    AllSound next := by
  cases step with
  | default _ =>
      exact sound_update sound fun _ h => Option.some.inj h ▸ Frame.empty_sound
  | construct _ _ =>
      exact sound_update sound fun _ h =>
        Option.some.inj h ▸ (Frame.ofSample_spec _ _).2.1
  | moveConstruct _ hsource =>
      apply sound_update
      · exact sound_update sound fun _ h => Option.some.inj h ▸ rfl
      · exact fun _ h => Option.some.inj h ▸ sound _ _ hsource
  | moveAssign _ _ hsource =>
      apply sound_update
      · exact sound_update sound fun _ h => Option.some.inj h ▸ rfl
      · exact fun _ h => Option.some.inj h ▸ sound _ _ hsource
  | moveAssignSelf _ => exact sound
  | release hobject =>
      exact sound_update sound fun _ h =>
        Option.some.inj h ▸ Frame.release_sound (sound _ _ hobject)
  | destroy _ => exact sound_update sound fun _ h => by cases h

/-- The calls that a move of slots stands for. -/
def spoken (event : SlotEvent Object GstSample) : List GstCall :=
  event.acquires.elim [] GstSample.opening ++
    event.discards.elim [] GstSample.closing

theorem FrameStep.calls {frames next : Frames} {event : FrameEvent}
    (step : FrameStep frames event next) (sound : AllSound frames) :
    event.calls = (slotEvent event).elim [] spoken := by
  cases step with
  | default _ | moveConstruct _ _ => rfl
  | construct _ _ =>
      rw [(Frame.ofSample_spec _ _).2.2]
      simp [slotEvent, spoken, SlotEvent.acquires, SlotEvent.discards]
  | @moveAssign target source frame o distinct htarget hsource =>
      simp only [slotEvent, if_neg distinct, FrameEvent.unreffed,
        Frame.assign_calls, release_unreffed, Option.elim_some, spoken,
        SlotEvent.acquires, SlotEvent.discards, Option.elim_none,
        List.nil_append]
      exact Frame.release_calls (sound target frame htarget)
  | moveAssignSelf _ => simp [slotEvent]
  | release hobject | destroy hobject =>
      simp only [slotEvent, FrameEvent.unreffed, release_unreffed,
        Option.elim_some, spoken, SlotEvent.acquires, SlotEvent.discards,
        Option.elim_none, List.nil_append]
      exact Frame.release_calls (sound _ _ hobject)

/-- All calls on one sample, by what is done to it. -/
def doing (sample : GstSample) : Deed → List GstCall
  | .acquired => sample.opening
  | .discarded => sample.closing

section OneSample

variable (sample other : GstSample)

theorem filter_opening :
    other.opening.filter (fun call => call.sample = sample) =
      if other = sample then sample.opening else [] := by
  unfold GstSample.opening
  cases decEq other sample with
  | isTrue heq =>
      subst heq
      split <;> simp [GstCall.sample]
  | isFalse hne => split <;> simp [GstCall.sample, hne]

theorem filter_closing :
    other.closing.filter (fun call => call.sample = sample) =
      if other = sample then sample.closing else [] := by
  unfold GstSample.closing
  cases decEq other sample with
  | isTrue heq =>
      subst heq
      split <;> simp [GstCall.sample]
  | isFalse hne => split <;> simp [GstCall.sample, hne]

theorem filter_spoken (event : SlotEvent Object GstSample) :
    (spoken event).filter (fun call => call.sample = sample) =
      (deeds sample event).flatMap (doing sample) := by
  cases event with
  | acquire slot token =>
      simp only [spoken, deeds, SlotEvent.acquires, SlotEvent.discards,
        Option.elim_some, Option.elim_none, List.append_nil, filter_opening,
        Option.some.injEq, reduceCtorEq, if_false]
      split <;> simp [doing]
  | move target discarded source =>
      cases discarded with
      | none => simp [spoken, deeds, SlotEvent.acquires, SlotEvent.discards]
      | some token =>
          simp only [spoken, deeds, SlotEvent.acquires, SlotEvent.discards,
            Option.elim_some, Option.elim_none, List.nil_append,
            filter_closing, Option.some.injEq, reduceCtorEq, if_false]
          split <;> simp [doing]
  | clear slot discarded =>
      cases discarded with
      | none => simp [spoken, deeds, SlotEvent.acquires, SlotEvent.discards]
      | some token =>
          simp only [spoken, deeds, SlotEvent.acquires, SlotEvent.discards,
            Option.elim_some, Option.elim_none, List.nil_append,
            filter_closing, Option.some.injEq, reduceCtorEq, if_false]
          split <;> simp [doing]

end OneSample

theorem run_calls {events : List FrameEvent} {frames : Frames}
    (run : frameSystem.Run events frames) :
    AllSound frames ∧ ∀ sample, callsOn sample events =
      (deedsOf sample (events.filterMap slotEvent)).flatMap (doing sample) := by
  apply run.invariant (motive := fun events frames =>
    AllSound frames ∧ ∀ sample, callsOn sample events =
      (deedsOf sample (events.filterMap slotEvent)).flatMap (doing sample))
  · intro frames hinitial
    rw [hinitial]
    exact ⟨fun _ _ h => (by cases h), fun _ => rfl⟩
  · intro events frames event next ⟨sound, induction⟩ step
    refine ⟨step.sound sound, ?_⟩
    intro sample
    have hcalls : callsOn sample (events ++ [event]) =
        callsOn sample events ++
          event.calls.filter fun call => call.sample = sample := by
      simp [callsOn]
    rw [hcalls, step.calls sound, induction]
    cases hevent : slotEvent event with
    | none => simp [hevent]
    | some observed =>
        rw [Option.elim_some, filter_spoken, ← List.flatMap_append,
          ← deedsOf_append, List.filterMap_append]
        simp [hevent]

def Holds (frames : Frames) (object : Object) (sample : GstSample) : Prop :=
  ∃ frame, frames.alive object = some frame ∧ frame.sample = some sample

theorem content_eq_some_iff {frames : Frames} {object : Object}
    {sample : GstSample} :
    content frames.alive object = some sample ↔ Holds frames object sample :=
  Option.bind_eq_some_iff

/-- The operations that end a frame's ownership of its sample. -/
def FrameOp.ends (object : Object) : FrameOp → Prop
  | .moveAssign target source => target = object ∧ source ≠ object
  | .release released => released = object
  | .destroy destroyed => destroyed = object
  | _ => False

theorem release_unref_iff (frame : Frame) (sample : GstSample) :
    .unref sample ∈ frame.release.2 ↔ frame.sample = some sample := by
  cases hsample : frame.sample with
  | none => simp [Frame.release, hsample]
  | some held =>
      simp only [Frame.release, hsample, Option.some.injEq]
      split <;> simp [eq_comm]

theorem holds_iff {frames : Frames} {object : Object} {frame : Frame}
    (hobject : frames.alive object = some frame) (sample : GstSample) :
    Holds frames object sample ↔ frame.sample = some sample := by
  simp [Holds, hobject]

theorem FrameStep.unref_iff {frames next : Frames} {event : FrameEvent}
    (step : FrameStep frames event next) (sample : GstSample) :
    .unref sample ∈ event.calls ↔
      ∃ object, Holds frames object sample ∧ event.op.ends object := by
  cases step with
  | default _ => simp [FrameOp.ends]
  | @construct object pulled nowMonoNs _ _ =>
      rw [(Frame.ofSample_spec nowMonoNs pulled).2.2, GstSample.opening]
      split <;> simp [FrameOp.ends]
  | moveConstruct _ _ =>
      simp [FrameOp.ends, Frame.assign_calls, Frame.release, Frame.empty]
  | moveAssign distinct htarget _ =>
      rw [Frame.assign_calls, release_unref_iff, ← holds_iff htarget]
      simp [FrameOp.ends, distinct.symm]
  | moveAssignSelf _ => simp [FrameOp.ends]
  | release hobject | destroy hobject =>
      rw [release_unref_iff, ← holds_iff hobject]
      simp [FrameOp.ends]

/-- What is true of the samples at any moment of a program's run.  The calls on
a sample are given in full, in their order. -/
structure OwnedLinearly (events : List FrameEvent) (frames : Frames) :
    Prop where
  life : ∀ sample ∈ frames.pulled,
    ((∃! object, Holds frames object sample) ∧
      callsOn sample events = sample.opening) ∨
    ((∀ object, ¬ Holds frames object sample) ∧
      callsOn sample events = sample.opening ++ sample.closing)
  pulled : ∀ object sample, Holds frames object sample →
    sample ∈ frames.pulled
  unref : ∀ event next, FrameStep frames event next → ∀ sample,
    .unref sample ∈ event.calls ↔
      ∃ object, Holds frames object sample ∧ event.op.ends object
  valid : ∀ object frame, frames.alive object = some frame →
    frame.valid = true →
      ∃ sample, frame.sample = some sample ∧
        callsOn sample events = [.map sample]

theorem frames_owned_linearly {events : List FrameEvent} {frames : Frames}
    (run : frameSystem.Run events frames) : OwnedLinearly events frames := by
  obtain ⟨sound, hcalls⟩ := run_calls run
  have lives := run_life (frameRefinement.run run)
  refine ⟨?_, ?_, fun _ _ step => step.unref_iff, ?_⟩
  · intro sample hpulled
    rw [hcalls sample]
    cases lives sample with
    | ahead fresh _ _ => exact absurd hpulled fresh
    | held _ owner hdeeds =>
        left
        refine ⟨(existsUnique_congr fun _ => content_eq_some_iff).mp owner, ?_⟩
        rw [show deedsOf sample (events.filterMap slotEvent) = _ from hdeeds]
        simp [doing]
    | ended _ nowhere hdeeds =>
        right
        refine ⟨fun object h => nowhere object (content_eq_some_iff.mpr h), ?_⟩
        rw [show deedsOf sample (events.filterMap slotEvent) = _ from hdeeds]
        simp [doing]
  · intro object sample hholds
    exact ((lives sample).owned (content_eq_some_iff.mpr hholds)).1
  · intro object frame hobject hvalid
    obtain ⟨hsome, hdata⟩ := Bool.and_eq_true_iff.mp hvalid
    obtain ⟨sample, hsample⟩ := Option.isSome_iff_exists.mp hsome
    have hmaps : sample.maps = true := by
      rw [sound object frame hobject, hsample] at hdata
      exact hdata
    have howned := (lives sample).owned
      (content_eq_some_iff.mpr ⟨frame, hobject, hsample⟩)
    refine ⟨sample, hsample, ?_⟩
    rw [hcalls sample,
      show deedsOf sample (events.filterMap slotEvent) = _ from howned.2.1]
    simp [doing, GstSample.opening, hmaps]

def mappedSample : GstSample :=
  ⟨0, some ⟨some 40, some ⟨4096, 12⟩⟩, some ⟨some 2, some 2⟩⟩

def unmappedSample : GstSample :=
  ⟨1, some ⟨none, none⟩, some ⟨none, none⟩⟩

/-- A mapped sample is moved onto a frame that owns another one. -/
theorem frames_owned_linearly_overwrite :
    ∃ frames, OwnedLinearly
      [⟨.construct 0 mappedSample, [.map mappedSample]⟩,
        ⟨.construct 1 unmappedSample, []⟩,
        ⟨.moveAssign 1 0, [.unref unmappedSample]⟩,
        ⟨.moveAssign 1 1, []⟩,
        ⟨.destroy 1, [.unmap mappedSample, .unref mappedSample]⟩,
        ⟨.release 0, []⟩] frames := by
  have constructed := ((System.Run.start rfl :
    frameSystem.Run [] ⟨fun _ => none, []⟩).extend
    (@FrameStep.construct _ 0 mappedSample 0 rfl (by decide))).extend
    (@FrameStep.construct _ 1 unmappedSample 0 rfl (by decide))
  have moved := (constructed.extend
    (@FrameStep.moveAssign _ 1 0 _ _ (by decide) rfl rfl)).extend
    (@FrameStep.moveAssignSelf _ 1 _ rfl)
  have ended := (moved.extend (@FrameStep.destroy _ 1 _ rfl)).extend
    (@FrameStep.release _ 0 _ rfl)
  exact ⟨_, frames_owned_linearly ended⟩

end EmbeddedPortfolio.Detector
