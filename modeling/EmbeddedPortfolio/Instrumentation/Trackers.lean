import EmbeddedPortfolio.Statistics.Quantile
import EmbeddedPortfolio.Statistics.Ring

namespace EmbeddedPortfolio.Instrumentation

open EmbeddedPortfolio.Statistics

/-! The two rolling trackers, their `double` arithmetic exact.  An access
outside the vector or a remainder by zero gives `none`. -/

/-- A sum divided by a counter, which is no number once the counter has wrapped
around to zero. -/
def quotient (sum : ℚ) (count : UInt64) : Option ℚ :=
  if count = 0 then none else some (sum / count.toNat)

theorem quotient_eq_some_iff {sum value : ℚ} {count : Nat} :
    quotient sum (UInt64.ofNat count) = some value ↔
      0 < count % 2 ^ 64 ∧ sum = (count % 2 ^ 64 : Nat) * value := by
  have hzero : UInt64.ofNat count = 0 ↔ count % 2 ^ 64 = 0 := by
    rw [← UInt64.toNat_inj, UInt64.toNat_ofNat']
    rfl
  unfold quotient
  rw [UInt64.toNat_ofNat']
  by_cases wrapped : count % 2 ^ 64 = 0
  · rw [if_pos (hzero.mpr wrapped), wrapped]
    simp
  · have hpos : 0 < count % 2 ^ 64 := Nat.pos_of_ne_zero wrapped
    have hcast : (0 : ℚ) < (count % 2 ^ 64 : Nat) := by
      exact_mod_cast hpos
    rw [if_neg (mt hzero.mp wrapped), Option.some_inj,
      div_eq_iff hcast.ne', mul_comm]
    exact (and_iff_right hpos).symm

structure LatencySnapshot where
  count : UInt64
  minMs : ℚ
  maxMs : ℚ
  meanMs : Option ℚ
  p95Ms : ℚ
deriving DecidableEq, Repr

structure LatencyTracker where
  samples : List ℚ
  window : Nat
  cursor : Nat
  total : UInt64
  sum : ℚ
deriving DecidableEq, Repr

namespace LatencyTracker

def new (window : Nat) : LatencyTracker where
  samples := []
  window := window
  cursor := 0
  total := 0
  sum := 0

def add (tracker : LatencyTracker) (ms : ℚ) : Option LatencyTracker := do
  let (samples, cursor) ←
    record? tracker.window tracker.samples tracker.cursor ms
  some { tracker with
    samples
    cursor
    total := tracker.total + 1
    sum := tracker.sum + ms }

def snapshot (stdSort : StdSort ℚ) (tracker : LatencyTracker) :
    Option LatencySnapshot :=
  if tracker.samples.isEmpty then
    some { count := tracker.total, minMs := 0, maxMs := 0
           meanMs := some 0, p95Ms := 0 }
  else do
    let sorted := stdSort.sort tracker.samples
    let minMs ← sorted.head?
    let maxMs ← sorted.getLast?
    let p95Ms ← sorted[quantileIndex sorted.length 0.95]?
    some { count := tracker.total
           minMs
           maxMs
           meanMs := quotient tracker.sum tracker.total
           p95Ms }

/-- The tracker after `add` was called on each of `history`. -/
structure Tracks (window : Nat) (history : List ℚ) (tracker : LatencyTracker) :
    Prop where
  window_eq : tracker.window = window
  layout : Layout window history tracker.samples tracker.cursor
  total_eq : tracker.total = UInt64.ofNat history.length
  sum_eq : tracker.sum = history.sum

theorem tracks_add {window : Nat} (positive : 0 < window) {history : List ℚ}
    {tracker : LatencyTracker} (ms : ℚ) (tracks : Tracks window history tracker) :
    ∃ next, tracker.add ms = some next ∧
      Tracks window (history ++ [ms]) next := by
  obtain ⟨samples, cursor, hrecord, hlayout⟩ :=
    tracks.layout.record? positive ms
  rw [← tracks.window_eq] at hrecord
  exact ⟨{ tracker with
      samples, cursor, total := tracker.total + 1, sum := tracker.sum + ms },
    by simp [add, hrecord], tracks.window_eq, hlayout,
    by simp [tracks.total_eq, UInt64.ofNat_add], by simp [tracks.sum_eq]⟩

theorem tracks_run {window : Nat} (positive : 0 < window)
    (history : List ℚ) :
    ∃ tracker, history.foldlM add (new window) = some tracker ∧
      Tracks window history tracker :=
  foldlM_history (fun _ _ ms => tracks_add positive ms)
    ⟨rfl, Layout.empty window, rfl, rfl⟩ history

end LatencyTracker

structure Snap where
  n : UInt64
  mean : Option ℚ
  p50 : ℚ
  p90 : ℚ
  p99 : ℚ
  max : ℚ
deriving DecidableEq, Repr

structure RollingStats where
  window : Nat
  cursor : Nat
  n : UInt64
  sum : ℚ
  buf : List ℚ
deriving DecidableEq, Repr

namespace RollingStats

def new (window : Nat) : RollingStats where
  window := window
  cursor := 0
  n := 0
  sum := 0
  buf := []

def add (stats : RollingStats) (v : ℚ) : Option RollingStats := do
  let (buf, cursor) ← record? stats.window stats.buf stats.cursor v
  some { stats with buf, cursor, n := stats.n + 1, sum := stats.sum + v }

def snap (stdSort : StdSort ℚ) (stats : RollingStats) : Option Snap :=
  if stats.buf.isEmpty then
    some { n := stats.n, mean := some 0, p50 := 0, p90 := 0, p99 := 0, max := 0 }
  else do
    let v := stdSort.sort stats.buf
    let q := fun p => v[quantileIndex v.length p]?
    let p50 ← q 0.50
    let p90 ← q 0.90
    let p99 ← q 0.99
    let max ← v.getLast?
    some { n := stats.n, mean := quotient stats.sum stats.n
           p50, p90, p99, max }

structure Tracks (window : Nat) (history : List ℚ) (stats : RollingStats) :
    Prop where
  window_eq : stats.window = window
  layout : Layout window history stats.buf stats.cursor
  n_eq : stats.n = UInt64.ofNat history.length
  sum_eq : stats.sum = history.sum

theorem tracks_add {window : Nat} (positive : 0 < window) {history : List ℚ}
    {stats : RollingStats} (v : ℚ) (tracks : Tracks window history stats) :
    ∃ next, stats.add v = some next ∧ Tracks window (history ++ [v]) next := by
  obtain ⟨buf, cursor, hrecord, hlayout⟩ := tracks.layout.record? positive v
  rw [← tracks.window_eq] at hrecord
  exact ⟨{ stats with buf, cursor, n := stats.n + 1, sum := stats.sum + v },
    by simp [add, hrecord], tracks.window_eq, hlayout,
    by simp [tracks.n_eq, UInt64.ofNat_add], by simp [tracks.sum_eq]⟩

theorem tracks_run {window : Nat} (positive : 0 < window)
    (history : List ℚ) :
    ∃ stats, history.foldlM add (new window) = some stats ∧
      Tracks window history stats :=
  foldlM_history (fun _ _ v => tracks_add positive v)
    ⟨rfl, Layout.empty window, rfl, rfl⟩ history

end RollingStats

end EmbeddedPortfolio.Instrumentation
