import EmbeddedPortfolio.Instrumentation.Trackers

namespace EmbeddedPortfolio.Instrumentation

open EmbeddedPortfolio.Statistics

/-! Order statistics of a snapshot against the last samples of the history. -/

section SortedCopy

variable (stdSort : StdSort ℚ) {samples recent : List ℚ}

theorem sort_length_pos (nonempty : samples ≠ []) :
    0 < (stdSort.sort samples).length := by
  rw [(stdSort.permutes samples).length_eq]
  exact List.length_pos_iff.mpr nonempty

variable (perm : samples.Perm recent) (nonempty : samples ≠ [])

include perm

theorem mem_sort_iff (value : ℚ) :
    value ∈ stdSort.sort samples ↔ value ∈ recent :=
  ((stdSort.permutes samples).trans perm).mem_iff

include nonempty

theorem sort_head : ∃ least, (stdSort.sort samples).head? = some least ∧
    IsLeast {value | value ∈ recent} least := by
  have hpositive := sort_length_pos stdSort nonempty
  refine ⟨(stdSort.sort samples)[0], ?_, ?_⟩
  · rw [List.head?_eq_getElem?, List.getElem?_eq_getElem hpositive]
  · simpa only [mem_sort_iff stdSort perm] using
      (stdSort.rising samples).head_isLeast hpositive

theorem sort_getLast :
    ∃ greatest, (stdSort.sort samples).getLast? = some greatest ∧
      IsGreatest {value | value ∈ recent} greatest := by
  have hpositive := sort_length_pos stdSort nonempty
  refine ⟨(stdSort.sort samples)[(stdSort.sort samples).length - 1], ?_, ?_⟩
  · rw [List.getLast?_eq_getElem?, List.getElem?_eq_getElem]
  · simpa only [mem_sort_iff stdSort perm] using
      (stdSort.rising samples).last_isGreatest hpositive

theorem sort_quantile {q : ℚ} (nonneg : 0 ≤ q) (below : q < 1) :
    ∃ quantile,
      (stdSort.sort samples)[quantileIndex (stdSort.sort samples).length q]? =
        some quantile ∧
      IsQuantile q recent quantile := by
  have hindex := quantileIndex_lt (sort_length_pos stdSort nonempty) q
  exact ⟨_, List.getElem?_eq_getElem hindex,
    ((stdSort.rising samples).isQuantile nonneg below hindex).perm
      ((stdSort.permutes samples).trans perm)⟩

end SortedCopy

theorem samples_nonempty {window : Nat} {history samples : List ℚ}
    {cursor : Nat} (layout : Layout window history samples cursor)
    (positive : 1 ≤ window) (nonempty : history ≠ []) : samples ≠ [] := by
  have hlength := layout.length
  have hhistory := List.length_pos_iff.mpr nonempty
  rw [← List.length_pos_iff]
  omega

structure LatencyTracker.Reports (window : Nat) (history : List ℚ)
    (tracker : LatencyTracker) (snapshot : LatencySnapshot) : Prop where
  stored : tracker.samples.Perm (history.rtake window)
  cursor : tracker.cursor = history.length % window
  least : IsLeast {ms | ms ∈ history.rtake window} snapshot.minMs
  greatest : IsGreatest {ms | ms ∈ history.rtake window} snapshot.maxMs
  p95 : IsQuantile 0.95 (history.rtake window) snapshot.p95Ms
  ordered : snapshot.minMs ≤ snapshot.p95Ms ∧ snapshot.p95Ms ≤ snapshot.maxMs

theorem LatencyTracker.Tracks.reports (stdSort : StdSort ℚ) {window : Nat}
    {history : List ℚ} {tracker : LatencyTracker}
    (tracks : Tracks window history tracker) (positive : 1 ≤ window)
    (nonempty : history ≠ []) :
    ∃ snapshot, tracker.snapshot stdSort = some snapshot ∧
      snapshot.meanMs =
        quotient history.sum (UInt64.ofNat history.length) ∧
      Reports window history tracker snapshot := by
  have hsamples := samples_nonempty tracks.layout positive nonempty
  have hperm := tracks.layout.perm
  obtain ⟨minMs, hmin, least⟩ := sort_head stdSort hperm hsamples
  obtain ⟨maxMs, hmax, greatest⟩ := sort_getLast stdSort hperm hsamples
  obtain ⟨p95Ms, hp95, p95⟩ := sort_quantile stdSort hperm hsamples
    (q := 0.95) (by norm_num) (by norm_num)
  exact ⟨⟨tracker.total, minMs, maxMs, quotient tracker.sum tracker.total,
      p95Ms⟩,
    by simp [snapshot, hsamples, hmin, hmax, hp95],
    by rw [tracks.total_eq, tracks.sum_eq],
    hperm, tracks.layout.cursor_eq, least, greatest, p95,
    least.2 p95.mem, greatest.2 p95.mem⟩

structure RollingStats.Reports (window : Nat) (history : List ℚ)
    (stats : RollingStats) (snap : Snap) : Prop where
  stored : stats.buf.Perm (history.rtake window)
  cursor : stats.cursor = history.length % window
  greatest : IsGreatest {v | v ∈ history.rtake window} snap.max
  p50 : IsQuantile 0.50 (history.rtake window) snap.p50
  p90 : IsQuantile 0.90 (history.rtake window) snap.p90
  p99 : IsQuantile 0.99 (history.rtake window) snap.p99
  ordered : snap.p50 ≤ snap.p90 ∧ snap.p90 ≤ snap.p99 ∧ snap.p99 ≤ snap.max

theorem RollingStats.Tracks.reports (stdSort : StdSort ℚ) {window : Nat}
    {history : List ℚ} {stats : RollingStats}
    (tracks : Tracks window history stats) (positive : 1 ≤ window)
    (nonempty : history ≠ []) :
    ∃ snap, stats.snap stdSort = some snap ∧
      snap.mean = quotient history.sum (UInt64.ofNat history.length) ∧
      Reports window history stats snap := by
  have hbuf := samples_nonempty tracks.layout positive nonempty
  have hperm := tracks.layout.perm
  obtain ⟨p50, hp50, isP50⟩ := sort_quantile stdSort hperm hbuf
    (q := 0.50) (by norm_num) (by norm_num)
  obtain ⟨p90, hp90, isP90⟩ := sort_quantile stdSort hperm hbuf
    (q := 0.90) (by norm_num) (by norm_num)
  obtain ⟨p99, hp99, isP99⟩ := sort_quantile stdSort hperm hbuf
    (q := 0.99) (by norm_num) (by norm_num)
  obtain ⟨max, hmax, greatest⟩ := sort_getLast stdSort hperm hbuf
  have hsorted := stdSort.rising stats.buf
  exact ⟨⟨stats.n, quotient stats.sum stats.n, p50, p90, p99, max⟩,
    by simp [snap, hbuf, hp50, hp90, hp99, hmax],
    by rw [tracks.n_eq, tracks.sum_eq],
    hperm, tracks.layout.cursor_eq, greatest, isP50, isP90, isP99,
    hsorted.quantile_le (by norm_num) (by norm_num) hp50 hp90,
    hsorted.quantile_le (by norm_num) (by norm_num) hp90 hp99,
    greatest.2 isP99.mem⟩

theorem rolling_percentiles (stdSort : StdSort ℚ) (window : Nat)
    (history : List ℚ) (positive : 1 ≤ window)
    (nonempty : 1 ≤ history.length) :
    (∃ tracker snapshot,
      history.foldlM LatencyTracker.add (.new window) = some tracker ∧
      tracker.snapshot stdSort = some snapshot ∧
      LatencyTracker.Reports window history tracker snapshot) ∧
    ∃ stats snap,
      history.foldlM RollingStats.add (.new window) = some stats ∧
      stats.snap stdSort = some snap ∧
      RollingStats.Reports window history stats snap := by
  have hhistory : history ≠ [] := List.length_pos_iff.mp nonempty
  constructor
  · obtain ⟨tracker, hrun, htracks⟩ := LatencyTracker.tracks_run positive history
    obtain ⟨snapshot, hsnapshot, _, hreports⟩ :=
      htracks.reports stdSort positive hhistory
    exact ⟨tracker, snapshot, hrun, hsnapshot, hreports⟩
  · obtain ⟨stats, hrun, htracks⟩ := RollingStats.tracks_run positive history
    obtain ⟨snap, hsnap, _, hreports⟩ :=
      htracks.reports stdSort positive hhistory
    exact ⟨stats, snap, hrun, hsnap, hreports⟩

theorem rolling_percentiles_wrapped :
    1 ≤ 2 ∧ 1 ≤ [3, 1, 2].length ∧
      (∃ tracker snapshot,
        [3, 1, 2].foldlM LatencyTracker.add (.new 2) = some tracker ∧
        tracker.snapshot .insertion = some snapshot ∧
        LatencyTracker.Reports 2 [3, 1, 2] tracker snapshot) ∧
      ∃ stats snap,
        [3, 1, 2].foldlM RollingStats.add (.new 2) = some stats ∧
        stats.snap .insertion = some snap ∧
        RollingStats.Reports 2 [3, 1, 2] stats snap :=
  ⟨by decide, by decide,
    rolling_percentiles .insertion 2 [3, 1, 2] (by decide) (by decide)⟩

end EmbeddedPortfolio.Instrumentation
