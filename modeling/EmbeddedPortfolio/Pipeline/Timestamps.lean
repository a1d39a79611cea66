import EmbeddedPortfolio.Pipeline.Stream

namespace EmbeddedPortfolio.Pipeline

open EmbeddedPortfolio.Transition RtspServer

/-! The presentation times `feeder_loop` stamps on what it pushes. -/

namespace RtspEvent

def stamp : RtspEvent → Option UInt64
  | .push _ _ buffer => some buffer.pts
  | _ => none

def stampFor (src : AppSrc) : RtspEvent → Option UInt64
  | .push _ target buffer => if target = src then some buffer.pts else none
  | _ => none

end RtspEvent

def stamps (events : List RtspEvent) : List UInt64 :=
  events.filterMap RtspEvent.stamp

def stampsFor (src : AppSrc) (events : List RtspEvent) : List UInt64 :=
  events.filterMap (RtspEvent.stampFor src)

def StampsMonotone (events : List RtspEvent) : Prop :=
  ∀ src, (stampsFor src events).Pairwise (· ≤ ·)

def pushedTimes (events : List RtspEvent) : List UInt64 :=
  (pushedFrames events).map EncodedFrame.ptsNs

@[simp] theorem stamps_append (first second : List RtspEvent) :
    stamps (first ++ second) = stamps first ++ stamps second :=
  List.filterMap_append ..

@[simp] theorem stampsFor_append (src : AppSrc)
    (first second : List RtspEvent) :
    stampsFor src (first ++ second) =
      stampsFor src first ++ stampsFor src second :=
  List.filterMap_append ..

@[simp] theorem pushedTimes_append (first second : List RtspEvent) :
    pushedTimes (first ++ second) =
      pushedTimes first ++ pushedTimes second := by
  simp [pushedTimes]

theorem stampsFor_sublist (src : AppSrc) (events : List RtspEvent) :
    (stampsFor src events).Sublist (stamps events) := by
  induction events with
  | nil => exact List.Sublist.refl _
  | cons event events induction =>
      unfold stampsFor stamps at induction ⊢
      cases event with
      | push item target buffer =>
          rw [List.filterMap_cons_some
            (show RtspEvent.stamp (.push item target buffer) =
              some buffer.pts from rfl)]
          by_cases htarget : target = src
          · rw [List.filterMap_cons_some
              (show RtspEvent.stampFor src (.push item target buffer) =
                some buffer.pts from if_pos htarget)]
            exact induction.cons_cons _
          · rw [List.filterMap_cons_none
              (show RtspEvent.stampFor src (.push item target buffer) =
                none from if_neg htarget)]
            exact induction.cons _
      | _ => exact induction

/-! Three presentation times of which the first becomes the base. -/

/-- Against the base `first`, a buffer of time `third` pushed after one of time
`second` may be stamped earlier. -/
def RunsBack (first second third : UInt64) : Prop :=
  (first < second ∧ third < second) ∨ (second < first ∧ first ≤ third)

def Orderly (times : List UInt64) : Prop :=
  ∀ first second third, [first, second, third].Sublist times →
    first ≠ clockTimeNone → ¬ RunsBack first second third

theorem Orderly.sublist {times fewer : List UInt64} (orderly : Orderly times)
    (hfewer : fewer.Sublist times) : Orderly fewer := by
  intro first second third hthree
  exact orderly first second third (hthree.trans hfewer)

section Stamping

/-- Why a pushed buffer carries the stamp it does. -/
def Explained (times : List UInt64) (basePts elapsed stamp : UInt64) : Prop :=
  stamp = 0 ∨ ∃ time, basePts ≠ clockTimeNone ∧ [basePts, time].Sublist times ∧
    (basePts ≤ time ∧ stamp = time - basePts ∨
      time < basePts ∧ stamp ≤ elapsed)

theorem Explained.later {times more : List UInt64}
    {basePts elapsed now stamp : UInt64}
    (explained : Explained times basePts elapsed stamp)
    (hmore : times.Sublist more) (hnow : elapsed ≤ now) :
    Explained more basePts now stamp := by
  rcases explained with hzero | ⟨time, hbase, htimes, horigin⟩
  · exact .inl hzero
  · refine .inr ⟨time, hbase, htimes.trans hmore, ?_⟩
    rcases horigin with hrebased | ⟨hbefore, hclock⟩
    · exact .inl hrebased
    · exact .inr ⟨hbefore, UInt64.le_trans hclock hnow⟩

structure Stamping (events : List RtspEvent) (basePts elapsed : UInt64) :
    Prop where
  base : basePts ≠ clockTimeNone → basePts ∈ pushedTimes events
  explained : ∀ stamp ∈ stamps events,
    Explained (pushedTimes events) basePts elapsed stamp
  monotone : (stamps events).Pairwise (· ≤ ·)

/-- The frame that is latched as the base is stamped with zero. -/
theorem rebasePts_latched (elapsed : UInt64) (item : EncodedFrame) :
    rebasePts (latchBase clockTimeNone item) elapsed item = 0 := by
  simp [latchBase, rebasePts]

theorem latchBase_of_ne {basePts : UInt64} (hbase : basePts ≠ clockTimeNone)
    (item : EncodedFrame) : latchBase basePts item = basePts :=
  if_neg hbase

theorem le_rebasePts {basePts time elapsed stamp : UInt64}
    {item : EncodedFrame} (onward : ¬ RunsBack basePts time item.ptsNs)
    (horigin : basePts ≤ time ∧ stamp = time - basePts ∨
      time < basePts ∧ stamp ≤ elapsed) :
    stamp ≤ rebasePts basePts elapsed item := by
  unfold RunsBack at onward
  unfold rebasePts
  rcases horigin with ⟨hafter, rfl⟩ | ⟨hbefore, hclock⟩
  · split <;> grind
  · split <;> grind

theorem explained_rebasePts {times : List UInt64} {basePts : UInt64}
    (hbase : basePts ≠ clockTimeNone) (member : basePts ∈ times)
    (elapsed : UInt64) (item : EncodedFrame) :
    Explained (times ++ [item.ptsNs]) basePts elapsed
      (rebasePts basePts elapsed item) := by
  refine .inr ⟨item.ptsNs, hbase,
    (List.singleton_sublist.mpr member).append (List.Sublist.refl _), ?_⟩
  unfold rebasePts
  split
  · rename_i hafter
    exact .inl ⟨hafter, rfl⟩
  · rename_i hbefore
    exact .inr ⟨UInt64.not_le.mp hbefore, UInt64.le_rfl⟩

/-- Without a base every stamp so far is zero. -/
theorem Stamping.zeros {events : List RtspEvent} {elapsed : UInt64}
    (stamping : Stamping events clockTimeNone elapsed) :
    ∀ stamp ∈ stamps events, stamp = 0 := by
  intro stamp hstamp
  rcases stamping.explained stamp hstamp with hzero | ⟨_, hne, _⟩
  · exact hzero
  · exact absurd rfl hne

theorem Stamping.le_rebased {events : List RtspEvent}
    {basePts elapsed : UInt64} (stamping : Stamping events basePts elapsed)
    (hbase : basePts ≠ clockTimeNone) {item : EncodedFrame}
    (orderly : Orderly (pushedTimes events ++ [item.ptsNs])) :
    ∀ stamp ∈ stamps events, stamp ≤ rebasePts basePts elapsed item := by
  intro stamp hstamp
  rcases stamping.explained stamp hstamp with rfl | ⟨time, _, hpair, horigin⟩
  · exact UInt64.zero_le
  · have hthree : [basePts, time, item.ptsNs].Sublist
        (pushedTimes events ++ [item.ptsNs]) :=
      hpair.append (List.Sublist.refl [item.ptsNs])
    exact le_rebasePts (orderly _ _ _ hthree hbase) horigin

theorem Stamping.push {events : List RtspEvent} {basePts elapsed : UInt64}
    (stamping : Stamping events basePts elapsed) (cfg : RtspConfig)
    (item : EncodedFrame) (src : AppSrc)
    (orderly : Orderly (pushedTimes events ++ [item.ptsNs])) :
    Stamping (events ++ [.push item src (makeBuffer cfg basePts elapsed item)])
      (latchBase basePts item) elapsed := by
  have htimes : pushedTimes
      (events ++ [.push item src (makeBuffer cfg basePts elapsed item)]) =
        pushedTimes events ++ [item.ptsNs] := pushedTimes_append ..
  have hstamps : stamps
      (events ++ [.push item src (makeBuffer cfg basePts elapsed item)]) =
        stamps events ++ [rebasePts (latchBase basePts item) elapsed item] :=
    stamps_append ..
  have hmonotone : ∀ last, (∀ stamp ∈ stamps events, stamp ≤ last) →
      (stamps events ++ [last]).Pairwise (· ≤ ·) := by
    intro last hlast
    refine List.pairwise_append.mpr
      ⟨stamping.monotone, List.pairwise_singleton _ _, ?_⟩
    intro stamp hstamp other hother
    rw [List.mem_singleton.mp hother]
    exact hlast stamp hstamp
  by_cases hbase : basePts = clockTimeNone
  · subst hbase
    rw [rebasePts_latched] at hstamps
    refine ⟨?_, ?_, ?_⟩
    · intro _
      rw [htimes]
      exact List.mem_append_right _ (List.mem_singleton_self _)
    · intro stamp hstamp
      rw [hstamps, List.mem_append, List.mem_singleton] at hstamp
      exact .inl (hstamp.elim (stamping.zeros stamp) id)
    · rw [hstamps]
      apply hmonotone
      intro stamp hstamp
      rw [stamping.zeros stamp hstamp]
      exact UInt64.zero_le
  · rw [latchBase_of_ne hbase] at hstamps ⊢
    have hmember := stamping.base hbase
    refine ⟨?_, ?_, ?_⟩
    · intro _
      rw [htimes]
      exact List.mem_append_left _ hmember
    · intro stamp hstamp
      rw [hstamps, List.mem_append, List.mem_singleton] at hstamp
      rw [htimes]
      rcases hstamp with hearlier | rfl
      · exact (stamping.explained stamp hearlier).later
          (List.sublist_append_left ..) UInt64.le_rfl
      · exact explained_rebasePts hbase hmember elapsed item
    · rw [hstamps]
      exact hmonotone _ (stamping.le_rebased hbase orderly)

theorem Stamping.silent {events : List RtspEvent} {event : RtspEvent}
    {basePts elapsed : UInt64} (stamping : Stamping events basePts elapsed)
    (hevent : event.isPush = false) :
    Stamping (events ++ [event]) basePts elapsed := by
  obtain ⟨base, explained, monotone⟩ := stamping
  have hsame : pushedTimes (events ++ [event]) = pushedTimes events ∧
      stamps (events ++ [event]) = stamps events := by
    rw [pushedTimes_append, stamps_append]
    cases event with
    | push _ _ _ => cases hevent
    | _ => exact ⟨List.append_nil _, List.append_nil _⟩
  refine ⟨?_, ?_, ?_⟩
  · rw [hsame.1]
    exact base
  · rw [hsame.1, hsame.2]
    exact explained
  · rw [hsame.2]
    exact monotone

theorem RtspStep.basePts {cfg : RtspConfig} {server next : RtspServer}
    {event : RtspEvent} (step : RtspStep cfg server event next)
    (hevent : event.isPush = false) : next.basePts = server.basePts := by
  cases step with
  | push _ => cases hevent
  | _ => rfl

theorem Stamping.step {pipeline : PipelineConfig} {cfg : RtspConfig}
    {events : List RtspEvent} {stream next : Stream} {event : StreamEvent}
    (stamping : Stamping events stream.server.basePts stream.elapsed)
    (step : StreamStep pipeline cfg stream event next)
    (orderly : Orderly (pushedTimes (events ++ rtspEvents [event]))) :
    Stamping (events ++ rtspEvents [event]) next.server.basePts
      next.elapsed := by
  have quiet (hevent : event.rtsp = none) :
      events ++ rtspEvents [event] = events := by
    simp [rtspEvents, hevent]
  cases step with
  | sample _ | close =>
      rw [quiet rfl]
      exact stamping
  | tick hlater =>
      rw [quiet rfl]
      obtain ⟨base, explained, monotone⟩ := stamping
      refine ⟨base, ?_, monotone⟩
      intro stamp hstamp
      exact (explained stamp hstamp).later (List.Sublist.refl _) hlater
  | pop _ step =>
      rw [step.basePts rfl]
      exact stamping.silent rfl
  | drained _ step =>
      rw [step.basePts rfl]
      exact stamping.silent rfl
  | @server event server step _ stamped =>
      cases hpush : event.isPush with
      | false =>
          rw [step.basePts hpush]
          exact stamping.silent hpush
      | true =>
          cases step with
          | @push item src elapsed flow hfeeder =>
              rw [show makeBuffer cfg stream.server.basePts elapsed item =
                makeBuffer cfg stream.server.basePts stream.elapsed item
                from stamped]
              apply stamping.push
              rw [pushedTimes_append] at orderly
              exact orderly
          | _ => cases hpush

theorem run_stamping {pipeline : PipelineConfig} {cfg : RtspConfig}
    {events : List StreamEvent} {stream : Stream}
    (run : (streamSystem pipeline cfg).Run events stream)
    (orderly : Orderly (pushedTimes (rtspEvents events))) :
    Stamping (rtspEvents events) stream.server.basePts stream.elapsed := by
  induction run with
  | start hinitial =>
      rw [hinitial]
      exact ⟨fun hbase => absurd rfl hbase, nofun, List.Pairwise.nil⟩
  | @extend events stream next event run step induction =>
      rw [rtspEvents_append] at orderly ⊢
      apply Stamping.step _ step orderly
      apply induction
      rw [pushedTimes_append] at orderly
      exact orderly.sublist (List.sublist_append_left ..)

theorem stamps_monotone_of_orderly {pipeline : PipelineConfig}
    {cfg : RtspConfig} {events : List StreamEvent} {stream : Stream}
    (run : (streamSystem pipeline cfg).Run events stream)
    (orderly : Orderly
      (presentationTimes pipeline.fps (appsinkCalls events))) :
    StampsMonotone (rtspEvents events) := by
  have stamping := run_stamping run (orderly.sublist (pushed_sublist run))
  intro src
  exact stamping.monotone.sublist (stampsFor_sublist src _)

end Stamping

end EmbeddedPortfolio.Pipeline
