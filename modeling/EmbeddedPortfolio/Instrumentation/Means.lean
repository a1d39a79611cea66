import EmbeddedPortfolio.Instrumentation.Percentiles
import EmbeddedPortfolio.Statistics.Mean

namespace EmbeddedPortfolio.Instrumentation

open EmbeddedPortfolio.Statistics

/-! The reported mean against the window of the other statistics.  The running
sum and count keep the samples that the window has lost, and the count wraps. -/

def departed (window : Nat) (history : List ℚ) : List ℚ :=
  history.take (history.length - window)

theorem departed_append_rtake (window : Nat) (history : List ℚ) :
    departed window history ++ history.rtake window = history :=
  List.take_append_drop _ history

theorem rtake_ne_nil {window : Nat} {history : List ℚ} (positive : 1 ≤ window)
    (nonempty : 1 ≤ history.length) : history.rtake window ≠ [] := by
  rw [← List.length_pos_iff, List.rtake, List.length_drop]
  omega

theorem departed_eq_nil_iff {window : Nat} {history : List ℚ}
    (positive : 1 ≤ window) :
    departed window history = [] ↔ history.length ≤ window := by
  rw [← List.length_eq_zero_iff, departed, List.length_take]
  omega

structure MeansOfWindow (window : Nat) (history : List ℚ)
    (snapshot : LatencySnapshot) (snap : Snap) : Prop where
  mean : snapshot.meanMs = some (mean (history.rtake window))
  between : ∃ mean, snapshot.meanMs = some mean ∧
    snapshot.minMs ≤ mean ∧ mean ≤ snapshot.maxMs
  below : ∃ mean, snap.mean = some mean ∧ mean ≤ snap.max

/-- The samples of the past have the mean of the last ones; from 2^64 samples on
their sum has to make up for the count that has wrapped. -/
def MeanKept (window : Nat) (history : List ℚ) : Prop :=
  if history.length < 2 ^ 64 then
    history.length ≤ window ∨
      Statistics.mean (departed window history) =
        Statistics.mean (history.rtake window)
  else
    0 < history.length % 2 ^ 64 ∧
      history.sum = (history.length % 2 ^ 64 : Nat) *
        Statistics.mean (history.rtake window)

theorem meanKept_iff {window : Nat} {history : List ℚ} (positive : 1 ≤ window)
    (nonempty : 1 ≤ history.length) :
    MeanKept window history ↔
      quotient history.sum (UInt64.ofNat history.length) =
        some (Statistics.mean (history.rtake window)) := by
  rw [quotient_eq_some_iff, MeanKept]
  split
  · next counted =>
      have hpositive : 0 < history.length := nonempty
      have hlength : (0 : ℚ) < history.length := by
        exact_mod_cast hpositive
      have hwhole : Statistics.mean history = Statistics.mean
          (departed window history ++ history.rtake window) := by
        rw [departed_append_rtake]
      rw [Nat.mod_eq_of_lt counted, and_iff_right hpositive,
        ← departed_eq_nil_iff positive,
        ← mean_append_eq_iff (rtake_ne_nil positive nonempty), ← hwhole,
        Statistics.mean, div_eq_iff hlength.ne', mul_comm]
  · rfl

theorem means_of_window (stdSort : StdSort ℚ) (window : Nat)
    (history : List ℚ) (positive : 1 ≤ window)
    (nonempty : 1 ≤ history.length) :
    ∃ tracker snapshot stats snap,
      history.foldlM LatencyTracker.add (.new window) = some tracker ∧
      tracker.snapshot stdSort = some snapshot ∧
      history.foldlM RollingStats.add (.new window) = some stats ∧
      stats.snap stdSort = some snap ∧
      (MeansOfWindow window history snapshot snap ↔
        MeanKept window history) := by
  have hhistory : history ≠ [] := List.length_pos_iff.mp nonempty
  have hrecent := rtake_ne_nil positive nonempty
  obtain ⟨tracker, hrun, htracks⟩ := LatencyTracker.tracks_run positive history
  obtain ⟨snapshot, hsnapshot, hmeanMs, hreports⟩ :=
    htracks.reports stdSort positive hhistory
  obtain ⟨stats, hstatsRun, hstats⟩ := RollingStats.tracks_run positive history
  obtain ⟨snap, hsnap, hmean, hsnapReports⟩ :=
    hstats.reports stdSort positive hhistory
  refine ⟨tracker, snapshot, stats, snap, hrun, hsnapshot, hstatsRun, hsnap, ?_⟩
  rw [meanKept_iff positive nonempty]
  constructor
  · intro means
    rw [← hmeanMs, means.mean]
  · intro same
    rw [same] at hmeanMs hmean
    have hleast := le_mean hrecent hreports.least
    have hgreatest := mean_le hrecent hreports.greatest
    have hbelow := mean_le hrecent hsnapReports.greatest
    exact ⟨hmeanMs, ⟨_, hmeanMs, hleast, hgreatest⟩, _, hmean, hbelow⟩

theorem means_of_window_steady :
    1 ≤ 2 ∧ 1 ≤ [4, 4, 3, 5].length ∧
      ∃ tracker snapshot stats snap,
        [4, 4, 3, 5].foldlM LatencyTracker.add (.new 2) = some tracker ∧
        tracker.snapshot .insertion = some snapshot ∧
        [4, 4, 3, 5].foldlM RollingStats.add (.new 2) = some stats ∧
        stats.snap .insertion = some snap ∧
        (MeansOfWindow 2 [4, 4, 3, 5] snapshot snap ↔
          MeanKept 2 [4, 4, 3, 5]) :=
  ⟨by decide, by decide,
    means_of_window .insertion 2 [4, 4, 3, 5] (by decide) (by decide)⟩

/-- A window of one sample reports 5.5 as the mean of 1. -/
theorem mean_outlives_window :
    ¬ ∀ (stdSort : StdSort ℚ) (window : Nat) (history : List ℚ),
      1 ≤ window → 1 ≤ history.length →
      ∀ tracker snapshot stats snap,
        history.foldlM LatencyTracker.add (.new window) = some tracker →
        tracker.snapshot stdSort = some snapshot →
        history.foldlM RollingStats.add (.new window) = some stats →
        stats.snap stdSort = some snap →
        MeansOfWindow window history snapshot snap := by
  intro claim
  have means := claim .insertion 1 [10, 1] (by decide) (by decide)
    ⟨[1], 1, 0, 2, 11⟩ ⟨2, 1, 1, some (11 / 2), 1⟩ ⟨1, 0, 2, 11, [1]⟩
    ⟨2, some (11 / 2), 1, 1, 1, 1⟩ (by decide +kernel) (by decide +kernel)
    (by decide +kernel) (by decide +kernel)
  obtain ⟨mean, hmean, hmax⟩ := means.below
  cases hmean
  norm_num at hmax

end EmbeddedPortfolio.Instrumentation
