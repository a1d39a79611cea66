import EmbeddedPortfolio.Instrumentation.Percentiles
import EmbeddedPortfolio.Pipeline.FrameQueueHistory

namespace EmbeddedPortfolio.Instrumentation

open EmbeddedPortfolio.Statistics EmbeddedPortfolio.Pipeline

universe u v

/-! For which capacities and windows the containers are safe to use.  No
constructor checks its argument. -/

section Queue

variable {Thread : Type v} {T : Type u}

/-- Whatever was called before, no `push` pops an empty deque, and the deque is
within its capacity. -/
def QueueBehaves (Thread : Type v) (T : Type u) (capacity : Nat) : Prop :=
  ∀ events (queue : FrameQueue T),
    (queueSystem Thread T capacity).Run events queue →
      (∀ value, (queue.push value).isSome) ∧ queue.size ≤ capacity

theorem push_full_undefined (value : T) :
    (FrameQueue.new 0).push value = none := rfl

theorem queueBehaves_iff [Inhabited T] (capacity : Nat) :
    QueueBehaves Thread T capacity ↔ 1 ≤ capacity := by
  constructor
  · intro behaves
    by_contra hzero
    obtain rfl : capacity = 0 := by omega
    have hdefined := (behaves [] (.new 0) (.start rfl)).1 default
    rw [push_full_undefined] at hdefined
    cases hdefined
  · intro positive events queue run
    have hcapacity := run_capacity run
    constructor
    · intro value
      apply FrameQueue.push_defined
      rw [hcapacity]
      exact positive
    · have hbounded := (run_counted run).bounded
      rwa [hcapacity] at hbounded

end Queue

inductive TrackerCall
  | add (value : ℚ)
  | snapshot

section Trackers

variable (stdSort : StdSort ℚ)

/-- `none` where the call's behaviour is undefined. -/
def LatencyTracker.call (tracker : LatencyTracker) :
    TrackerCall → Option LatencyTracker
  | .add ms => tracker.add ms
  | .snapshot => (tracker.snapshot stdSort).map fun _ => tracker

def LatencyTracker.Behaves (window : Nat) : Prop :=
  ∀ calls : List TrackerCall, ∃ tracker,
    calls.foldlM (call stdSort) (new window) = some tracker ∧
      tracker.samples.length ≤ window

def RollingStats.call (stats : RollingStats) :
    TrackerCall → Option RollingStats
  | .add v => stats.add v
  | .snapshot => (stats.snap stdSort).map fun _ => stats

def RollingStats.Behaves (window : Nat) : Prop :=
  ∀ calls : List TrackerCall, ∃ stats,
    calls.foldlM (call stdSort) (new window) = some stats ∧
      stats.buf.length ≤ window

/-- A tracker that keeps an invariant from some window size on, and whose first
`add` is undefined below it. -/
theorem calls_behave_iff {Tracker : Type}
    {call : Tracker → TrackerCall → Option Tracker} {start : Tracker}
    {size : Tracker → Nat} {window : Nat} {reached : Tracker → Prop}
    (undefined : window = 0 → call start (.add 0) = none)
    (reached_start : reached start)
    (defined : 1 ≤ window → ∀ tracker made, reached tracker →
      ∃ next, call tracker made = some next ∧ reached next)
    (bounded : ∀ tracker, reached tracker → size tracker ≤ window) :
    (∀ calls : List TrackerCall, ∃ tracker,
      calls.foldlM call start = some tracker ∧ size tracker ≤ window) ↔
      1 ≤ window := by
  constructor
  · intro behaves
    by_contra hzero
    obtain ⟨tracker, hrun, _⟩ := behaves [.add 0]
    rw [List.foldlM_cons, undefined (by omega)] at hrun
    cases hrun
  · intro positive calls
    obtain ⟨tracker, hrun, hreached⟩ :=
      foldlM_invariant (defined positive) reached_start calls
    exact ⟨tracker, hrun, bounded tracker hreached⟩

theorem layout_length_le {window : Nat} {history samples : List ℚ}
    {cursor : Nat} (layout : Layout window history samples cursor) :
    samples.length ≤ window := by
  rw [layout.length]
  exact Nat.min_le_right ..

namespace LatencyTracker

def Reached (window : Nat) (tracker : LatencyTracker) : Prop :=
  ∃ history, Tracks window history tracker

theorem new_reached (window : Nat) : Reached window (new window) :=
  ⟨[], rfl, Layout.empty window, rfl, List.sum_nil.symm⟩

theorem snapshot_defined (tracker : LatencyTracker) :
    ∃ snapshot, tracker.snapshot stdSort = some snapshot := by
  unfold snapshot
  cases hsamples : tracker.samples with
  | nil => exact ⟨_, rfl⟩
  | cons sample rest =>
      have nonempty : sample :: rest ≠ [] := nofun
      have hpositive := sort_length_pos stdSort nonempty
      obtain ⟨minMs, hmin, _⟩ := sort_head stdSort (.refl _) nonempty
      obtain ⟨maxMs, hmax, _⟩ := sort_getLast stdSort (.refl _) nonempty
      simp [hmin, hmax,
        List.getElem?_eq_getElem (quantileIndex_lt hpositive 0.95)]

theorem call_reached {window : Nat} (positive : 1 ≤ window)
    {tracker : LatencyTracker} (reached : Reached window tracker)
    (made : TrackerCall) :
    ∃ next, tracker.call stdSort made = some next ∧ Reached window next := by
  obtain ⟨history, tracks⟩ := reached
  cases made with
  | add ms =>
      obtain ⟨next, hadd, hnext⟩ := tracks_add positive ms tracks
      exact ⟨next, hadd, history ++ [ms], hnext⟩
  | snapshot =>
      obtain ⟨snapshot, hsnapshot⟩ := tracker.snapshot_defined stdSort
      exact ⟨tracker, by rw [call, hsnapshot, Option.map_some], history, tracks⟩

theorem behaves_iff (window : Nat) : Behaves stdSort window ↔ 1 ≤ window := by
  apply calls_behave_iff _ (new_reached window)
  · intro positive tracker made reached
    exact call_reached stdSort positive reached made
  · intro tracker ⟨_, tracks⟩
    exact layout_length_le tracks.layout
  · -- The vector is empty and already full.
    rintro rfl
    rfl

end LatencyTracker

namespace RollingStats

def Reached (window : Nat) (stats : RollingStats) : Prop :=
  ∃ history, Tracks window history stats

theorem new_reached (window : Nat) : Reached window (new window) :=
  ⟨[], rfl, Layout.empty window, rfl, List.sum_nil.symm⟩

theorem snap_defined (stats : RollingStats) :
    ∃ snapshot, stats.snap stdSort = some snapshot := by
  unfold snap
  cases hbuf : stats.buf with
  | nil => exact ⟨_, rfl⟩
  | cons sample rest =>
      have nonempty : sample :: rest ≠ [] := nofun
      have hpositive := sort_length_pos stdSort nonempty
      obtain ⟨max, hmax, _⟩ := sort_getLast stdSort (.refl _) nonempty
      simp [hmax, List.getElem?_eq_getElem (quantileIndex_lt hpositive _)]

theorem call_reached {window : Nat} (positive : 1 ≤ window)
    {stats : RollingStats} (reached : Reached window stats)
    (made : TrackerCall) :
    ∃ next, stats.call stdSort made = some next ∧ Reached window next := by
  obtain ⟨history, tracks⟩ := reached
  cases made with
  | add v =>
      obtain ⟨next, hadd, hnext⟩ := tracks_add positive v tracks
      exact ⟨next, hadd, history ++ [v], hnext⟩
  | snapshot =>
      obtain ⟨snapshot, hsnapshot⟩ := stats.snap_defined stdSort
      exact ⟨stats, by rw [call, hsnapshot, Option.map_some], history, tracks⟩

theorem behaves_iff (window : Nat) : Behaves stdSort window ↔ 1 ≤ window := by
  apply calls_behave_iff _ (new_reached window)
  · intro positive stats made reached
    exact call_reached stdSort positive reached made
  · intro stats ⟨_, tracks⟩
    exact layout_length_le tracks.layout
  · -- The vector is empty and already full.
    rintro rfl
    rfl

end RollingStats

end Trackers

/-- Each container behaves exactly when its size is not zero. -/
theorem containers_behave_iff {Thread : Type v} {T : Type u} [Inhabited T]
    (stdSort : StdSort ℚ) (capacity latencyWindow statsWindow : Nat) :
    (QueueBehaves Thread T capacity ↔ 1 ≤ capacity) ∧
      (LatencyTracker.Behaves stdSort latencyWindow ↔ 1 ≤ latencyWindow) ∧
      (RollingStats.Behaves stdSort statsWindow ↔ 1 ≤ statsWindow) :=
  ⟨queueBehaves_iff capacity, LatencyTracker.behaves_iff stdSort latencyWindow,
    RollingStats.behaves_iff stdSort statsWindow⟩

theorem containers_misbehave_zero :
    (FrameQueue.new 0 : FrameQueue Nat).push 7 = none ∧
      (LatencyTracker.new 0).add 1 = none ∧
      (RollingStats.new 0).add 1 = none ∧
      ¬ ∀ capacity window, QueueBehaves Nat Nat capacity ∧
        LatencyTracker.Behaves .insertion window ∧
        RollingStats.Behaves .insertion window := by
  refine ⟨rfl, rfl, rfl, ?_⟩
  intro behave
  have hcapacity := (queueBehaves_iff 0).mp (behave 0 0).1
  exact absurd hcapacity (by decide)

end EmbeddedPortfolio.Instrumentation
