import EmbeddedPortfolio.Instrumentation.Percentiles
import EmbeddedPortfolio.Statistics.Mean

namespace EmbeddedPortfolio.Instrumentation

open EmbeddedPortfolio.Statistics

/-! The benchmark trace of the worker's turns: its rolling columns, its CSV file
and the summary line that the timer prints. -/

structure FrameMetrics where
  frameId : UInt64
  captureLatencyMs : ℚ
  preprocessMs : ℚ
  inferenceMs : ℚ
  postprocessMs : ℚ
  publishMs : ℚ
  endToEndMs : ℚ
  rssMib : ℚ
  detections : Int
deriving DecidableEq, Repr

/-- The stream.  One that no file was opened for is good until it is written
to. -/
structure CsvStream where
  isOpen : Bool
  good : Bool
  rows : List FrameMetrics
deriving DecidableEq, Repr

/-- `written` says whether the stream is still good after the row. -/
def CsvStream.insert (m : FrameMetrics) (written : Bool) (csv : CsvStream) :
    CsvStream :=
  if csv.good then
    if csv.isOpen && written then { csv with rows := csv.rows ++ [m] }
    else { csv with good := false }
  else csv

structure BenchmarkTrace where
  cap : RollingStats
  pre : RollingStats
  inf : RollingStats
  post : RollingStats
  e2e : RollingStats
  lastRss : ℚ
  csv : CsvStream
deriving DecidableEq, Repr

/-- The values of the summary line. -/
structure Summary where
  n : UInt64
  capMean : Option ℚ
  capP90 : ℚ
  preMean : Option ℚ
  preP90 : ℚ
  infMean : Option ℚ
  infP90 : ℚ
  infP99 : ℚ
  postMean : Option ℚ
  postP90 : ℚ
  e2eMean : Option ℚ
  e2eP90 : ℚ
  e2eP99 : ℚ
  rss : ℚ
  fps : ℚ
deriving DecidableEq, Repr

/-- A mean that is no number is not positive, or its inverse is zero. -/
def framesPerSecond : Option ℚ → ℚ
  | some mean => if 0 < mean then 1000 / mean else 0
  | none => 0

namespace BenchmarkTrace

def window : Nat := 300

/-- `opened` says whether the file could be opened, if there is to be one. -/
def new (opened : Option Bool) : BenchmarkTrace where
  cap := .new window
  pre := .new window
  inf := .new window
  post := .new window
  e2e := .new window
  lastRss := 0
  csv :=
    { isOpen := opened == some true
      good := opened != some false
      rows := [] }

def record (trace : BenchmarkTrace) (m : FrameMetrics) (written : Bool) :
    Option BenchmarkTrace := do
  let cap ← trace.cap.add m.captureLatencyMs
  let pre ← trace.pre.add m.preprocessMs
  let inf ← trace.inf.add m.inferenceMs
  let post ← trace.post.add m.postprocessMs
  let e2e ← trace.e2e.add m.endToEndMs
  some { cap, pre, inf, post, e2e
         lastRss := m.rssMib
         csv := trace.csv.insert m written }

def summary (stdSort : StdSort ℚ) (trace : BenchmarkTrace) :
    Option Summary := do
  let c ← trace.cap.snap stdSort
  let p ← trace.pre.snap stdSort
  let i ← trace.inf.snap stdSort
  let q ← trace.post.snap stdSort
  let e ← trace.e2e.snap stdSort
  some { n := e.n
         capMean := c.mean, capP90 := c.p90
         preMean := p.mean, preP90 := p.p90
         infMean := i.mean, infP90 := i.p90, infP99 := i.p99
         postMean := q.mean, postP90 := q.p90
         e2eMean := e.mean, e2eP90 := e.p90, e2eP99 := e.p99
         rss := trace.lastRss
         fps := framesPerSecond e.mean }

end BenchmarkTrace

/-- A turn of the worker: no frame in time, or the measurements of one. -/
inductive Turn
  | timeout
  | frame (m : FrameMetrics) (written : Bool)
deriving DecidableEq, Repr

structure Benchmark where
  fid : UInt64
  bench : BenchmarkTrace
deriving DecidableEq, Repr

namespace Benchmark

def start (opened : Option Bool) : Benchmark where
  fid := 0
  bench := .new opened

/-- A turn without a frame uses up an id as well. -/
def turn (benchmark : Benchmark) : Turn → Option Benchmark
  | .timeout => some { benchmark with fid := benchmark.fid + 1 }
  | .frame m written => do
      let bench ← benchmark.bench.record
        { m with frameId := benchmark.fid } written
      some { fid := benchmark.fid + 1, bench }

end Benchmark

/-! The same from the turns alone. -/

def Turn.row (index : Nat) : Turn → Option (FrameMetrics × Bool)
  | .timeout => none
  | .frame m written =>
      some ({ m with frameId := UInt64.ofNat index }, written)

def recorded (turns : List Turn) : List (FrameMetrics × Bool) :=
  turns.zipIdx.filterMap fun (turn, index) => turn.row index

def rowsOf (turns : List Turn) : List FrameMetrics :=
  (recorded turns).map Prod.fst

/-- The rows before the first that the stream fails at. -/
def fileRows (opened : Option Bool) (turns : List Turn) :
    List FrameMetrics :=
  if opened = some true then
    ((recorded turns).takeWhile Prod.snd).map Prod.fst
  else []

theorem recorded_append (turns : List Turn) (turn : Turn) :
    recorded (turns ++ [turn]) =
      recorded turns ++ (turn.row turns.length).toList := by
  unfold recorded
  rw [List.zipIdx_append, List.filterMap_append]
  congr 1
  cases hrow : turn.row turns.length <;> simp [hrow]

theorem recorded_timeout (turns : List Turn) :
    recorded (turns ++ [.timeout]) = recorded turns := by
  rw [recorded_append]
  exact List.append_nil _

theorem recorded_frame (turns : List Turn) (m : FrameMetrics)
    (written : Bool) :
    recorded (turns ++ [.frame m written]) = recorded turns ++
      [({ m with frameId := UInt64.ofNat turns.length }, written)] :=
  recorded_append turns (.frame m written)

/-! The file. -/

namespace CsvStream

def insertAll (rows : List (FrameMetrics × Bool)) (csv : CsvStream) :
    CsvStream :=
  rows.foldl (fun csv row => csv.insert row.1 row.2) csv

theorem insertAll_bad (rows : List (FrameMetrics × Bool)) {csv : CsvStream}
    (bad : csv.good = false) : csv.insertAll rows = csv := by
  induction rows with
  | nil => rfl
  | cons row rest induction =>
      have hrow : csv.insert row.1 row.2 = csv := by simp [insert, bad]
      exact (congrArg (insertAll rest) hrow).trans induction

theorem insertAll_unopened (rows : List (FrameMetrics × Bool))
    {csv : CsvStream} (unopened : csv.isOpen = false) :
    (csv.insertAll rows).rows = csv.rows := by
  cases rows with
  | nil => rfl
  | cons row rest =>
      have hbad : (csv.insert row.1 row.2).good = false := by
        unfold insert
        cases hgood : csv.good <;> simp [hgood, unopened]
      have hrows : (csv.insert row.1 row.2).rows = csv.rows := by
        unfold insert
        cases hgood : csv.good <;> simp [unopened]
      have hrest := insertAll_bad rest hbad
      exact (congrArg CsvStream.rows hrest).trans hrows

/-- The first row that the stream fails at is the last that is tried. -/
theorem insertAll_open (rows : List (FrameMetrics × Bool)) {csv : CsvStream}
    (isOpen : csv.isOpen = true) (good : csv.good = true) :
    (csv.insertAll rows).rows =
      csv.rows ++ (rows.takeWhile Prod.snd).map Prod.fst := by
  induction rows generalizing csv with
  | nil => exact (List.append_nil _).symm
  | cons row rest induction =>
      obtain ⟨m, written⟩ := row
      cases written with
      | false =>
          have hbad : (csv.insert m false).good = false := by
            simp [insert, good]
          have hrows : (csv.insert m false).rows = csv.rows := by
            simp [insert, good]
          have hrest := insertAll_bad rest hbad
          exact (congrArg CsvStream.rows hrest).trans
            (hrows.trans (List.append_nil _).symm)
      | true =>
          have hrow : csv.insert m true =
              { csv with rows := csv.rows ++ [m] } := by
            simp [insert, good, isOpen]
          have hrest := @induction { csv with rows := csv.rows ++ [m] }
            isOpen good
          rw [insertAll, List.foldl_cons, hrow]
          exact hrest.trans (by simp)

theorem insertAll_fileRows (opened : Option Bool) (turns : List Turn) :
    ((BenchmarkTrace.new opened).csv.insertAll (recorded turns)).rows =
      fileRows opened turns := by
  unfold fileRows
  split
  · next hopened =>
      subst hopened
      exact insertAll_open _ rfl rfl
  · next hclosed =>
      have unopened : (BenchmarkTrace.new opened).csv.isOpen = false :=
        beq_eq_false_iff_ne.mpr hclosed
      exact insertAll_unopened _ unopened

end CsvStream

/-! The run. -/

open BenchmarkTrace in
/-- After some turns every column tracks its values of the recorded rows. -/
structure Follows (opened : Option Bool) (turns : List Turn)
    (benchmark : Benchmark) : Prop where
  fid : benchmark.fid = UInt64.ofNat turns.length
  cap : benchmark.bench.cap.Tracks window
    ((rowsOf turns).map FrameMetrics.captureLatencyMs)
  pre : benchmark.bench.pre.Tracks window
    ((rowsOf turns).map FrameMetrics.preprocessMs)
  inf : benchmark.bench.inf.Tracks window
    ((rowsOf turns).map FrameMetrics.inferenceMs)
  post : benchmark.bench.post.Tracks window
    ((rowsOf turns).map FrameMetrics.postprocessMs)
  e2e : benchmark.bench.e2e.Tracks window
    ((rowsOf turns).map FrameMetrics.endToEndMs)
  lastRss : benchmark.bench.lastRss =
    ((rowsOf turns).map FrameMetrics.rssMib).getLastD 0
  csv : benchmark.bench.csv =
    (BenchmarkTrace.new opened).csv.insertAll (recorded turns)

open BenchmarkTrace in
theorem Follows.turn {opened : Option Bool} {turns : List Turn}
    {benchmark : Benchmark} (follows : Follows opened turns benchmark)
    (turn : Turn) :
    ∃ next, benchmark.turn turn = some next ∧
      Follows opened (turns ++ [turn]) next := by
  have hfid : benchmark.fid + 1 =
      UInt64.ofNat (turns ++ [turn]).length := by
    rw [follows.fid, List.length_append, UInt64.ofNat_add]
    rfl
  cases turn with
  | timeout =>
      have hrows : rowsOf (turns ++ [.timeout]) = rowsOf turns :=
        congrArg (List.map Prod.fst) (recorded_timeout turns)
      refine ⟨_, rfl, hfid, ?_, ?_, ?_, ?_, ?_, ?_, ?_⟩
      · exact hrows ▸ follows.cap
      · exact hrows ▸ follows.pre
      · exact hrows ▸ follows.inf
      · exact hrows ▸ follows.post
      · exact hrows ▸ follows.e2e
      · exact hrows ▸ follows.lastRss
      · exact recorded_timeout turns ▸ follows.csv
  | frame m written =>
      have hrows : rowsOf (turns ++ [.frame m written]) = rowsOf turns ++
          [{ m with frameId := UInt64.ofNat turns.length }] := by
        simp [rowsOf, recorded_frame]
      have positive : 0 < window := by decide
      obtain ⟨cap, hcap, capTracks⟩ := RollingStats.tracks_add positive
        m.captureLatencyMs follows.cap
      obtain ⟨pre, hpre, preTracks⟩ := RollingStats.tracks_add positive
        m.preprocessMs follows.pre
      obtain ⟨inf, hinf, infTracks⟩ := RollingStats.tracks_add positive
        m.inferenceMs follows.inf
      obtain ⟨post, hpost, postTracks⟩ := RollingStats.tracks_add positive
        m.postprocessMs follows.post
      obtain ⟨e2e, he2e, e2eTracks⟩ := RollingStats.tracks_add positive
        m.endToEndMs follows.e2e
      have hturn : benchmark.turn (.frame m written) =
          some
            { fid := benchmark.fid + 1
              bench :=
                { cap, pre, inf, post, e2e
                  lastRss := m.rssMib
                  csv := benchmark.bench.csv.insert
                    { m with frameId := benchmark.fid } written } } := by
        simp [Benchmark.turn, record, hcap, hpre, hinf, hpost, he2e]
      refine ⟨_, hturn, hfid, ?_, ?_, ?_, ?_, ?_, ?_, ?_⟩
      · simpa [hrows] using capTracks
      · simpa [hrows] using preTracks
      · simpa [hrows] using infTracks
      · simpa [hrows] using postTracks
      · simpa [hrows] using e2eTracks
      · simp [hrows]
      · simp [recorded_frame, CsvStream.insertAll, follows.csv, follows.fid]

theorem RollingStats.tracks_new (window : Nat) :
    Tracks window [] (new window) :=
  ⟨rfl, Layout.empty window, rfl, rfl⟩

theorem Follows.run (opened : Option Bool) (turns : List Turn) :
    ∃ benchmark, turns.foldlM Benchmark.turn (.start opened) =
        some benchmark ∧
      Follows opened turns benchmark :=
  foldlM_history (fun _ _ turn follows => follows.turn turn)
    ⟨rfl, RollingStats.tracks_new _, RollingStats.tracks_new _,
      RollingStats.tracks_new _, RollingStats.tracks_new _,
      RollingStats.tracks_new _, rfl, rfl⟩ turns

/-! The summary. -/

/-- What is reported as a percentile: zero before there is a value. -/
def Percentile (q : ℚ) (values : List ℚ) (reported : ℚ) : Prop :=
  if values = [] then reported = 0
  else IsQuantile q (values.rtake BenchmarkTrace.window) reported

/-- What is reported as the mean, as long as the values can be counted. -/
def Mean (values : List ℚ) (reported : Option ℚ) : Prop :=
  values.length < 2 ^ 64 → reported = some (mean values)

structure Column (values : List ℚ) (snap : Snap) : Prop where
  n : snap.n = UInt64.ofNat values.length
  mean : Mean values snap.mean
  p90 : Percentile 0.90 values snap.p90
  p99 : Percentile 0.99 values snap.p99

theorem RollingStats.snap_n {stdSort : StdSort ℚ} {stats : RollingStats}
    {snapshot : Snap} (taken : stats.snap stdSort = some snapshot) :
    snapshot.n = stats.n := by
  unfold snap at taken
  split at taken
  · rw [← Option.some.inj taken]
  · simp only [Option.bind_eq_bind, Option.bind_eq_some_iff] at taken
    obtain ⟨_, _, _, _, _, _, _, _, taken⟩ := taken
    rw [← Option.some.inj taken]

theorem RollingStats.Tracks.column (stdSort : StdSort ℚ) {values : List ℚ}
    {stats : RollingStats}
    (tracks : Tracks BenchmarkTrace.window values stats) :
    ∃ snap, stats.snap stdSort = some snap ∧ Column values snap := by
  by_cases hvalues : values = []
  · subst hvalues
    have hbuf : stats.buf = [] := by simpa using tracks.layout.perm
    have hsnap : stats.snap stdSort =
        some ⟨stats.n, some 0, 0, 0, 0, 0⟩ := by
      simp [snap, hbuf]
    exact ⟨_, hsnap, tracks.n_eq, by simp [Mean, mean],
      by simp [Percentile], by simp [Percentile]⟩
  · obtain ⟨snap, hsnap, hmean, hreports⟩ :=
      tracks.reports stdSort (by decide) hvalues
    refine ⟨snap, hsnap, (snap_n hsnap).trans tracks.n_eq, ?_, ?_, ?_⟩
    · intro counted
      have hpos := List.length_pos_iff.mpr hvalues
      have hcast := length_cast_pos hvalues
      rw [hmean, quotient_eq_some_iff, Nat.mod_eq_of_lt counted]
      exact ⟨hpos, (mul_div_cancel₀ values.sum hcast.ne').symm⟩
    · exact (if_neg hvalues).mpr hreports.p90
    · exact (if_neg hvalues).mpr hreports.p99

/-- The summary of some recorded rows. -/
structure Summarises (rows : List FrameMetrics) (summary : Summary) :
    Prop where
  n : summary.n = UInt64.ofNat rows.length
  capMean : Mean (rows.map (·.captureLatencyMs)) summary.capMean
  capP90 : Percentile 0.90 (rows.map (·.captureLatencyMs)) summary.capP90
  preMean : Mean (rows.map (·.preprocessMs)) summary.preMean
  preP90 : Percentile 0.90 (rows.map (·.preprocessMs)) summary.preP90
  infMean : Mean (rows.map (·.inferenceMs)) summary.infMean
  infP90 : Percentile 0.90 (rows.map (·.inferenceMs)) summary.infP90
  infP99 : Percentile 0.99 (rows.map (·.inferenceMs)) summary.infP99
  postMean : Mean (rows.map (·.postprocessMs)) summary.postMean
  postP90 : Percentile 0.90 (rows.map (·.postprocessMs)) summary.postP90
  e2eMean : Mean (rows.map (·.endToEndMs)) summary.e2eMean
  e2eP90 : Percentile 0.90 (rows.map (·.endToEndMs)) summary.e2eP90
  e2eP99 : Percentile 0.99 (rows.map (·.endToEndMs)) summary.e2eP99
  rss : summary.rss = (rows.map (·.rssMib)).getLastD 0
  fps : rows.length < 2 ^ 64 → 0 < mean (rows.map (·.endToEndMs)) →
    summary.fps * mean (rows.map (·.endToEndMs)) = 1000
  unpaced : rows.length < 2 ^ 64 → mean (rows.map (·.endToEndMs)) ≤ 0 →
    summary.fps = 0

theorem Follows.summary {opened : Option Bool} {turns : List Turn}
    {benchmark : Benchmark} (follows : Follows opened turns benchmark)
    (stdSort : StdSort ℚ) :
    ∃ summary, benchmark.bench.summary stdSort = some summary ∧
      Summarises (rowsOf turns) summary := by
  obtain ⟨c, hc, cap⟩ := follows.cap.column stdSort
  obtain ⟨p, hp, pre⟩ := follows.pre.column stdSort
  obtain ⟨i, hi, inf⟩ := follows.inf.column stdSort
  obtain ⟨q, hq, post⟩ := follows.post.column stdSort
  obtain ⟨e, he, e2e⟩ := follows.e2e.column stdSort
  refine ⟨_, by simp [BenchmarkTrace.summary, hc, hp, hi, hq, he]; rfl, ?_⟩
  exact
    { n := e2e.n.trans (congrArg _ (List.length_map _))
      capMean := cap.mean
      capP90 := cap.p90
      preMean := pre.mean
      preP90 := pre.p90
      infMean := inf.mean
      infP90 := inf.p90
      infP99 := inf.p99
      postMean := post.mean
      postP90 := post.p90
      e2eMean := e2e.mean
      e2eP90 := e2e.p90
      e2eP99 := e2e.p99
      rss := follows.lastRss
      fps := by
        intro counted positive
        rw [e2e.mean (by rwa [List.length_map]), framesPerSecond,
          if_pos positive]
        exact div_mul_cancel₀ 1000 positive.ne'
      unpaced := by
        intro counted hle
        rw [e2e.mean (by rwa [List.length_map]), framesPerSecond]
        exact if_neg (not_lt.mpr hle) }

/-- The timeout uses up an id, and the last frame is lost with the one before
it. -/
example (m : FrameMetrics) :
    (fileRows (some true)
      [.frame m true, .timeout, .frame m true, .frame m false,
        .frame m true]).map (·.frameId) = [0, 2] :=
  rfl

end EmbeddedPortfolio.Instrumentation
