import EmbeddedPortfolio.Capture.V4L2Capture
import EmbeddedPortfolio.Transition.Successive

namespace EmbeddedPortfolio.Capture

open EmbeddedPortfolio.Program
open EmbeddedPortfolio.Transition

/-! The count of dropped frames over a capture session. -/

structure Counted (before : V4L2Capture) (sequence : UInt32)
    (after : V4L2Capture) : Prop where
  dropped : after.stats.framesDropped = before.stats.framesDropped +
    (if before.haveLastSequence then
      missedFrames before.lastSequence sequence
    else 0).toUInt64
  captured : after.stats.framesCaptured = before.stats.framesCaptured + 1
  last : after.haveLastSequence ∧ after.lastSequence = sequence

theorem deliver_counted (capture : V4L2Capture) (buf : DriverBuffer) :
    Exceptional.Triple (fun world => world.capture = capture) (deliver buf)
      (fun result world => ∃ frame, result = some frame ∧
        Counted capture frame.sequence world.capture)
      (fun _ _ => False) := by
  rintro world rfl
  refine ⟨_, rfl, ?_, ?_, rfl, rfl⟩
  · unfold noteError
    split <;> rfl
  · unfold noteError
    split <;> rfl

theorem xioctl_capture {Value : Type} (request : Kernel.Request Value)
    (what : String) (capture : V4L2Capture) :
    Exceptional.Preserves (fun world => world.capture = capture)
      (xioctl request what) := by
  apply Triple.xioctl
  · intro world _ _ _ _ hcapture _ _ _
    exact hcapture
  · intro world _ _ hcapture _ _ _
    exact hcapture

theorem dequeue_counted (capture : V4L2Capture) :
    Exceptional.Triple (fun world => world.capture = capture) dequeue
      (fun result world => match result with
        | none => world.capture = capture
        | some frame => Counted capture frame.sequence world.capture)
      (fun _ world => world.capture = capture) := by
  unfold dequeue
  apply Exceptional.Triple.bind fun _ world => world.capture = capture
  · exact Exceptional.Triple.observe fun _ holds => holds
  intro fd
  apply Exceptional.Triple.bind fun _ world => world.capture = capture
  · exact Exceptional.Triple.call fun _ holds => holds
  intro answer
  split
  · exact Exceptional.Triple.pure fun _ holds => holds
  · exact Exceptional.Triple.fail fun _ holds => holds
  · apply (deliver_counted capture _).weaken fun _ holds => holds
    · rintro _ world ⟨frame, rfl, counted⟩
      exact counted
    · intro _ _ impossible
      exact impossible.elim

theorem next_counted (capture : V4L2Capture) :
    Exceptional.Triple (fun world => world.capture = capture) next
      (fun result world => match result with
        | none => world.capture = capture
        | some frame => Counted capture frame.sequence world.capture)
      (fun _ world => world.capture = capture) := by
  unfold next
  apply Exceptional.Triple.bind fun _ world => world.capture = capture
  · exact Exceptional.Triple.call fun _ holds => holds
  intro answer
  apply Exceptional.Triple.bind fun _ world => world.capture = capture
  · exact Triple.orThrow (fun _ _ _ holds => holds) fun _ _ _ holds => holds
  intro polled
  apply Exceptional.Triple.ite
  · intro _
    exact Exceptional.Triple.pure fun _ holds => holds
  · intro _
    apply Exceptional.Triple.ite
    · intro _
      exact Exceptional.Triple.fail fun _ holds => holds
    · intro _
      exact dequeue_counted capture

/-! The arithmetic of one gap. -/

def advance (pair : UInt32 × UInt32) : Nat :=
  (pair.2 - pair.1).toNat

/-- The gap does not straddle the wrap of the counter. -/
def Unbroken (pair : UInt32 × UInt32) : Prop :=
  pair.1.toNat + advance pair < 2 ^ 32 ∨ pair.1.toNat = 2 ^ 32 - 1

theorem missedFrames_toNat (last sequence : UInt32) :
    (missedFrames last sequence).toNat =
      if (last.toNat + 1) % 2 ^ 32 < sequence.toNat then
        sequence.toNat - (last.toNat + 1) % 2 ^ 32
      else 0 := by
  have hexpected : (last + 1).toNat = (last.toNat + 1) % 2 ^ 32 := by
    simp [UInt32.toNat_add]
  unfold missedFrames
  simp only [UInt32.lt_iff_toNat_lt, hexpected]
  split
  · next hless =>
      rw [UInt32.toNat_sub_of_le, hexpected]
      rw [UInt32.le_iff_toNat_le, hexpected]
      exact Nat.le_of_lt hless
  · rfl

theorem missedFrames_le {pair : UInt32 × UInt32} (advances : 1 ≤ advance pair) :
    (missedFrames pair.1 pair.2).toNat ≤ advance pair - 1 ∧
      ((missedFrames pair.1 pair.2).toNat = advance pair - 1 ↔
        Unbroken pair) := by
  have hlast := pair.1.toNat_lt
  have hsequence := pair.2.toNat_lt
  rw [missedFrames_toNat]
  unfold Unbroken
  unfold advance at advances ⊢
  rw [UInt32.toNat_sub] at advances ⊢
  split <;> omega

/-! Sessions: what has been delivered since `start`, and what has been added to
the counters. -/

structure Session where
  world : World
  delivered : List UInt32
  captured : Nat
  dropped : Nat

def deliveredBy (event : CallEvent) : List UInt32 :=
  match event.result with
  | .ok (some frame) => [frame.sequence]
  | _ => []

/-- A session takes calls of `next`, in whatever way they end, and gives the
frames back. -/
def sessionSystem : System Session CallEvent where
  initial session :=
    (∃ before, perform .start before = (.ok none, session.world)) ∧
      session.delivered = [] ∧ session.captured = 0 ∧ session.dropped = 0
  step session event next :=
    (event.call = .next ∨ ∃ frame, event.call = .release frame) ∧
      perform event.call session.world = (event.result, next.world) ∧
      next.delivered = session.delivered ++ deliveredBy event ∧
      next.captured = session.captured +
        (next.world.capture.stats.framesCaptured -
          session.world.capture.stats.framesCaptured).toNat ∧
      next.dropped = session.dropped +
        (next.world.capture.stats.framesDropped -
          session.world.capture.stats.framesDropped).toNat

structure Tracked (session : Session) : Prop where
  last : session.delivered.getLast? =
    if session.world.capture.haveLastSequence then
      some session.world.capture.lastSequence
    else none
  captured : session.captured = session.delivered.length
  dropped : session.dropped = ((successive session.delivered).map fun pair =>
    (missedFrames pair.1 pair.2).toNat).sum

theorem start_forgets :
    Exceptional.Triple (fun _ => True) (perform .start)
      (fun _ world => world.capture.haveLastSequence = false)
      (fun _ _ => True) := by
  apply Exceptional.Triple.bind
    fun _ world => world.capture.haveLastSequence = false
  · apply Exceptional.Triple.bind _ (Exceptional.Triple.trivial _)
    intro _
    exact Exceptional.Triple.update fun _ _ => rfl
  · intro _
    exact Exceptional.Triple.pure fun _ holds => holds

theorem Tracked.unchanged {session next : Session}
    (tracked : Tracked session)
    (capture : next.world.capture = session.world.capture)
    (delivered : next.delivered = session.delivered)
    (captured : next.captured = session.captured +
      (next.world.capture.stats.framesCaptured -
        session.world.capture.stats.framesCaptured).toNat)
    (dropped : next.dropped = session.dropped +
      (next.world.capture.stats.framesDropped -
        session.world.capture.stats.framesDropped).toNat) :
    Tracked next := by
  have hcaptured : next.captured = session.captured := by
    simp [captured, capture]
  have hdropped : next.dropped = session.dropped := by
    simp [dropped, capture]
  refine ⟨?_, ?_, ?_⟩
  · rw [delivered, capture]
    exact tracked.last
  · rw [delivered, hcaptured]
    exact tracked.captured
  · rw [delivered, hdropped]
    exact tracked.dropped

theorem Tracked.count {session next : Session} {sequence : UInt32}
    (tracked : Tracked session)
    (counted : Counted session.world.capture sequence next.world.capture)
    (delivered : next.delivered = session.delivered ++ [sequence])
    (captured : next.captured = session.captured +
      (next.world.capture.stats.framesCaptured -
        session.world.capture.stats.framesCaptured).toNat)
    (dropped : next.dropped = session.dropped +
      (next.world.capture.stats.framesDropped -
        session.world.capture.stats.framesDropped).toNat) :
    Tracked next := by
  obtain ⟨hhave, hlast⟩ := counted.last
  refine ⟨?_, ?_, ?_⟩
  · rw [delivered, hhave, hlast]
    simp
  · rw [captured, counted.captured, UInt64.add_comm, UInt64.add_sub_cancel,
      delivered, tracked.captured, List.length_append]
    rfl
  · rw [dropped, counted.dropped, UInt64.add_comm, UInt64.add_sub_cancel,
      delivered, tracked.dropped]
    have htracked := tracked.last
    cases hfirst : session.world.capture.haveLastSequence with
    | false =>
        rw [hfirst] at htracked
        have hnone : session.delivered = [] := by simpa using htracked
        simp [hnone]
    | true =>
        rw [hfirst, if_pos rfl] at htracked
        rw [successive_append htracked, List.map_append, List.sum_append]
        simp

theorem release_counted (frame : Frame) (capture : V4L2Capture) :
    Exceptional.Triple (fun world => world.capture = capture)
      (perform (.release frame))
      (fun result world => result = none ∧ world.capture = capture)
      (fun _ world => world.capture = capture) :=
  Exceptional.Triple.bind _ (xioctl_capture _ _ capture) fun _ =>
    Exceptional.Triple.pure fun _ holds => ⟨rfl, holds⟩

theorem Tracked.step {session later : Session} {event : CallEvent}
    (tracked : Tracked session)
    (taken : sessionSystem.step session event later) : Tracked later := by
  obtain ⟨hcall, hperform, hdelivered, hcaptured, hdropped⟩ := taken
  unfold deliveredBy at hdelivered
  cases hcall with
  | inl hnext =>
      have hcounted := next_counted session.world.capture session.world rfl
      rw [hnext] at hperform
      change next session.world = _ at hperform
      rw [hperform] at hcounted
      cases hresult : event.result with
      | error error =>
          rw [hresult] at hcounted hdelivered
          exact tracked.unchanged hcounted (by simpa using hdelivered) hcaptured
            hdropped
      | ok result =>
          rw [hresult] at hcounted hdelivered
          cases result with
          | none =>
              exact tracked.unchanged hcounted (by simpa using hdelivered)
                hcaptured hdropped
          | some frame =>
              exact tracked.count hcounted hdelivered hcaptured hdropped
  | inr hrelease =>
      obtain ⟨given, hgiven⟩ := hrelease
      have hreleased := release_counted given session.world.capture
        session.world rfl
      rw [hgiven] at hperform
      rw [hperform] at hreleased
      cases hresult : event.result with
      | error error =>
          rw [hresult] at hreleased hdelivered
          exact tracked.unchanged hreleased (by simpa using hdelivered)
            hcaptured hdropped
      | ok result =>
          rw [hresult] at hreleased hdelivered
          obtain ⟨rfl, hcapture⟩ := hreleased
          exact tracked.unchanged hcapture (by simpa using hdelivered) hcaptured
            hdropped

theorem run_tracked {events : List CallEvent} {session : Session}
    (run : sessionSystem.Run events session) : Tracked session := by
  induction run with
  | start initial =>
      obtain ⟨⟨before, hstart⟩, hdelivered, hcaptured, hdropped⟩ := initial
      have hforgets := start_forgets before trivial
      rw [hstart] at hforgets
      refine ⟨?_, ?_, ?_⟩
      · rw [hdelivered, hforgets]
        rfl
      · rw [hdelivered, hcaptured]
        rfl
      · rw [hdelivered, hdropped]
        rfl
  | extend _ taken induction => exact induction.step taken

/-! The total over a session. -/

/-- The frames between the delivered ones. -/
def missing (delivered : List UInt32) : Nat :=
  ((successive delivered).map fun pair => advance pair - 1).sum

/-- The sequence numbers from the first delivered frame to the last. -/
def spanned (delivered : List UInt32) : Nat :=
  match delivered with
  | [] => 0
  | _ :: _ => 1 + ((successive delivered).map advance).sum

def Advances (delivered : List UInt32) : Prop :=
  ∀ pair ∈ successive delivered, 1 ≤ advance pair ∧ advance pair < 2 ^ 31

theorem spanned_eq {delivered : List UInt32} (advances : Advances delivered) :
    spanned delivered = delivered.length + missing delivered := by
  have hsum := sum_map_pred fun pair member => (advances pair member).1
  rw [successive_length] at hsum
  cases delivered with
  | nil => rfl
  | cons first rest =>
      rw [List.length_cons, Nat.add_sub_cancel] at hsum
      simp only [spanned, missing, hsum, List.length_cons]
      omega

theorem dropped_exactly {events : List CallEvent} {session : Session}
    (run : sessionSystem.Run events session)
    (advances : Advances session.delivered) :
    (session.dropped = missing session.delivered ↔
        ∀ pair ∈ successive session.delivered, Unbroken pair) ∧
      (session.captured + session.dropped = spanned session.delivered ↔
        ∀ pair ∈ successive session.delivered, Unbroken pair) := by
  have htracked := run_tracked run
  have hdropped : session.dropped = missing session.delivered ↔
      ∀ pair ∈ successive session.delivered, Unbroken pair := by
    rw [htracked.dropped]
    unfold missing
    rw [sum_map_eq_iff fun pair member =>
      (missedFrames_le (advances pair member).1).1]
    constructor
    · intro hequal pair member
      exact (missedFrames_le (advances pair member).1).2.mp (hequal pair member)
    · intro hunbroken pair member
      exact (missedFrames_le (advances pair member).1).2.mpr
        (hunbroken pair member)
  refine ⟨hdropped, ?_⟩
  rw [← hdropped, spanned_eq advances, htracked.captured]
  omega

/-! Two frames of one session, with any sequence numbers. -/

def Session.take (session : Session) : Session :=
  let taken := perform .next session.world
  { world := taken.2
    delivered := session.delivered ++ deliveredBy ⟨.next, taken.1⟩
    captured := session.captured +
      (taken.2.capture.stats.framesCaptured -
        session.world.capture.stats.framesCaptured).toNat
    dropped := session.dropped +
      (taken.2.capture.stats.framesDropped -
        session.world.capture.stats.framesDropped).toNat }

theorem Session.take_step (session : Session) :
    sessionSystem.step session ⟨.next, (perform .next session.world).1⟩
      session.take :=
  ⟨Or.inl rfl, rfl, rfl, rfl, rfl⟩

theorem Session.take_twice_run {session : Session}
    (initial : sessionSystem.initial session) :
    ∃ events, sessionSystem.Run events session.take.take :=
  ⟨_, .extend (.extend (.start initial) session.take_step)
    session.take.take_step⟩

def Session.started (world : World) : Session :=
  ⟨(perform .start world).2, [], 0, 0⟩

theorem Session.started_initial {world : World}
    (starts : (perform .start world).1 = .ok none) :
    sessionSystem.initial (Session.started world) :=
  ⟨⟨world, Prod.ext starts rfl⟩, rfl, rfl, rfl⟩

def twoReplies (first second : UInt32) : List Reply :=
  [{}, {}, { buffer := ⟨0, 4096, 0, first, ⟨10, 0⟩⟩ }, { nowMs := 10004 },
    {}, { buffer := ⟨1, 4096, 0, second, ⟨11, 0⟩⟩ }, { nowMs := 11004 }]

def twoFrames (first second : UInt32) : Session :=
  (Session.started (twoBuffers (twoReplies first second))).take.take

theorem twoFrames_run {first second : UInt32}
    (starts : (perform .start (twoBuffers (twoReplies first second))).1 =
      .ok none) :
    ∃ events, sessionSystem.Run events (twoFrames first second) :=
  Session.take_twice_run (Session.started_initial starts)

theorem dropped_exactly_gap :
    (twoFrames 5 8).dropped = missing [5, 8] ∧
      (twoFrames 5 8).captured + (twoFrames 5 8).dropped = spanned [5, 8] := by
  have hstarts :
      (perform .start (twoBuffers (twoReplies 5 8))).1 = .ok none := by
    decide +kernel
  obtain ⟨events, run⟩ := twoFrames_run hstarts
  have hdelivered : (twoFrames 5 8).delivered = [5, 8] := by decide +kernel
  have advances : Advances (twoFrames 5 8).delivered := by
    rw [hdelivered]
    simp [Advances, successive, advance]
  have unbroken : ∀ pair ∈ successive (twoFrames 5 8).delivered,
      Unbroken pair := by
    rw [hdelivered]
    simp [successive, Unbroken, advance]
  obtain ⟨hdropped, hspanned⟩ := dropped_exactly run advances
  rw [← hdelivered]
  exact ⟨hdropped.mpr unbroken, hspanned.mpr unbroken⟩

theorem dropped_wrong_wrap :
    (∃ events, sessionSystem.Run events (twoFrames 0xFFFFFFFE 1)) ∧
      Advances (twoFrames 0xFFFFFFFE 1).delivered ∧
      missing (twoFrames 0xFFFFFFFE 1).delivered = 2 ∧
      (twoFrames 0xFFFFFFFE 1).dropped = 0 := by
  have hstarts :
      (perform .start (twoBuffers (twoReplies 0xFFFFFFFE 1))).1 = .ok none := by
    decide +kernel
  have hdelivered : (twoFrames 0xFFFFFFFE 1).delivered = [0xFFFFFFFE, 1] := by
    decide +kernel
  refine ⟨twoFrames_run hstarts, ?_, ?_, ?_⟩
  · rw [hdelivered]
    simp [Advances, successive, advance]
  · rw [hdelivered]
    rfl
  · decide +kernel

end EmbeddedPortfolio.Capture
