import KDoctor.Lib.GoMap
import KDoctor.Utils.Stats

/-!
What the load generators of `loadRequest/loadHttp` and `loadRequest/loadDns`
count while a run goes on, and the metrics they build from it.

The requesting goroutines send one `result` for each request on a channel;
`runReporter` takes them off it in the order they arrive and counts them into
the `report`, and `AggregateMetric` turns the report into the metrics a task
detail carries. Durations are whole milliseconds, and a `float32` is read as
an exact rational. The part of the metrics that only times the run (start and
end time, TPS) is not modelled, and neither is whether some request could not
be sent, which the run loop sets: it is a field of the report the model
starts from.

The latency distribution is computed the same way by both generators
(`latencyDistribution`): with `EnableLatencyMetric` from the stored latencies
of the successful requests by `utils/stats`, whose errors give zero, and
without it as the sum of those latencies over the count of all requests.
-/

namespace KDoctor.LoadRequest

/-- `LatencyDistribution`. -/
structure LatencyDistribution where
  p50 : ℚ
  p90 : ℚ
  p95 : ℚ
  p99 : ℚ
  max : ℚ
  min : ℚ
  mean : ℚ
  deriving DecidableEq

/-- `t, _ := stats.F(...)`: the value, or zero with the error. -/
def valueOf : Except String ℚ → ℚ
  | .ok v => v
  | .error _ => 0

/-- The latency distribution of `AggregateMetric`, from the stored latencies
or from their sum and the count of requests. The percentiles run one after
the other on the slice the previous one sorted in place. -/
def latencyDistribution (enableLatencyMetric : Bool) (lats : List ℚ) (totalLatencies : ℚ)
    (totalCount : Nat) : LatencyDistribution :=
  if enableLatencyMetric then
    let mean := valueOf (Stats.mean lats)
    let max := valueOf (Stats.max lats)
    let min := valueOf (Stats.min lats)
    let p50 := valueOf (Stats.percentile lats 50)
    let lats := Stats.afterPercentile lats 50
    let p90 := valueOf (Stats.percentile lats 90)
    let lats := Stats.afterPercentile lats 90
    let p95 := valueOf (Stats.percentile lats 95)
    let lats := Stats.afterPercentile lats 95
    let p99 := valueOf (Stats.percentile lats 99)
    ⟨p50, p90, p95, p99, max, min, mean⟩
  else ⟨0, 0, 0, 0, 0, 0, totalLatencies / totalCount⟩

/-! ## The reported percentiles -/

/-- Every percent from 50 up gives a percentile of a list with values. -/
theorem percentile_ok_of_half {x : List ℚ} (hx : x ≠ []) {p : ℚ} (hp : 50 ≤ p) (hp' : p ≤ 100) :
    ∃ v, Stats.percentile x p = .ok v := by
  obtain ⟨hok, hbounds⟩ := Stats.percentile_ok_or_bounds hx (by linarith) hp'
  refine hok.resolve_right fun h => ?_
  obtain ⟨hn, hlt⟩ := hbounds.mp h
  have : (2 : ℚ) ≤ x.length := by exact_mod_cast hn
  nlinarith

/-- With `EnableLatencyMetric`, the distribution of a run with latencies
reads each percentile off the latencies as they came, although the calls
before it sorted them. -/
theorem latencyDistribution_true (lats : List ℚ) (t : ℚ) (n : Nat) :
    latencyDistribution true lats t n =
      ⟨valueOf (Stats.percentile lats 50), valueOf (Stats.percentile lats 90),
        valueOf (Stats.percentile lats 95), valueOf (Stats.percentile lats 99),
        valueOf (Stats.max lats), valueOf (Stats.min lats), valueOf (Stats.mean lats)⟩ := by
  simp only [latencyDistribution, if_true, Stats.percentile_afterPercentile]

/-- Percentiles of a list with values are defined, fail only with `BoundsErr`
and exactly for `len(x) ≥ 2` and `p * len(x) / 100 < 1`, lie between `Min`
and `Max`, and grow with the percent; so the distribution a run with
latencies reports is ordered. -/
theorem percentiles_ordered (x : List ℚ) (hx : x ≠ []) :
    (∀ p : ℚ, 0 < p → p ≤ 100 →
      ((∃ v, Stats.percentile x p = .ok v) ∨ Stats.percentile x p = .error Stats.boundsErr) ∧
      (Stats.percentile x p = .error Stats.boundsErr ↔ 2 ≤ x.length ∧ p * x.length / 100 < 1)) ∧
    (∀ p v : ℚ, 0 < p → p ≤ 100 → Stats.percentile x p = .ok v →
      ∃ lo hi, Stats.min x = .ok lo ∧ Stats.max x = .ok hi ∧ lo ≤ v ∧ v ≤ hi) ∧
    (∀ p q v w : ℚ, 0 < p → p ≤ q → q ≤ 100 → Stats.percentile x p = .ok v →
      Stats.percentile x q = .ok w → v ≤ w) ∧
    ∀ (t : ℚ) (n : Nat), let d := latencyDistribution true x t n
      d.min ≤ d.p50 ∧ d.p50 ≤ d.p90 ∧ d.p90 ≤ d.p95 ∧ d.p95 ≤ d.p99 ∧ d.p99 ≤ d.max := by
  refine ⟨fun p hp hp' => Stats.percentile_ok_or_bounds hx hp hp',
    fun p v hp hp' h => Stats.min_le_percentile_le_max hp hp' h,
    fun p q v w hp hpq hq hv hw => Stats.percentile_mono hp hpq hq hv hw, fun t n => ?_⟩
  obtain ⟨v50, h50⟩ := percentile_ok_of_half hx (by norm_num) (by norm_num : (50 : ℚ) ≤ 100)
  obtain ⟨v90, h90⟩ := percentile_ok_of_half hx (by norm_num) (by norm_num : (90 : ℚ) ≤ 100)
  obtain ⟨v95, h95⟩ := percentile_ok_of_half hx (by norm_num) (by norm_num : (95 : ℚ) ≤ 100)
  obtain ⟨v99, h99⟩ := percentile_ok_of_half hx (by norm_num) (by norm_num : (99 : ℚ) ≤ 100)
  obtain ⟨lo, hi, hlo, hhi, hlo50, -⟩ := Stats.min_le_percentile_le_max (by norm_num) (by norm_num) h50
  obtain ⟨lo', hi', -, hhi', -, h99hi⟩ := Stats.min_le_percentile_le_max (x := x) (by norm_num)
    (by norm_num) h99
  -- both calls read the same `Max`
  have hhi_eq : hi' = hi := by
    rw [hhi] at hhi'
    exact (Except.ok.inj hhi').symm
  subst hhi_eq
  rw [latencyDistribution_true, h50, h90, h95, h99, hlo, hhi]
  exact ⟨hlo50, Stats.percentile_mono (by norm_num) (by norm_num) (by norm_num) h50 h90,
    Stats.percentile_mono (by norm_num) (by norm_num) (by norm_num) h90 h95,
    Stats.percentile_mono (by norm_num) (by norm_num) (by norm_num) h95 h99, h99hi⟩

theorem percentiles_ordered_threeLatencies :
    let d := latencyDistribution true [30, 10, 20] 0 0
    d.min ≤ d.p50 ∧ d.p50 ≤ d.p90 ∧ d.p90 ≤ d.p95 ∧ d.p95 ≤ d.p99 ∧ d.p99 ≤ d.max :=
  (percentiles_ordered [30, 10, 20] (by simp)).2.2.2 0 0

/-! ## What a run tallies for the latency distribution

Both reporters count every result and keep the latency of each one that did
not fail: stored one by one with `EnableLatencyMetric`, added up without it.
`LatencyTally` is that part of either report, and `LatencyTally.run` is what
`runReporter` does to it. -/

/-- The fields of a report that `AggregateMetric` computes the latency
distribution from. -/
structure LatencyTally where
  enableLatencyMetric : Bool
  lats : List ℚ
  totalLatencies : ℚ
  totalCount : Nat

/-- The latencies of the results that did not fail, in the order they came. -/
def okLatencies {α : Type} (err : α → Option String) (durationMs : α → Int) (results : List α) :
    List ℚ :=
  results.filterMap fun res => if (err res).isNone then some (durationMs res : ℚ) else none

namespace LatencyTally

/-- What a reporter does with one result, given its error and its duration. -/
def record (s : LatencyTally) (err : Option String) (durationMs : Int) : LatencyTally :=
  match err with
  | some _ => { s with totalCount := s.totalCount + 1 }
  | none =>
    if s.enableLatencyMetric then
      { s with totalCount := s.totalCount + 1, lats := s.lats ++ [(durationMs : ℚ)] }
    else { s with totalCount := s.totalCount + 1, totalLatencies := s.totalLatencies + durationMs }

/-- The results of a run, in the order they came. -/
def run {α : Type} (err : α → Option String) (durationMs : α → Int) (s : LatencyTally)
    (results : List α) : LatencyTally :=
  results.foldl (fun s res => s.record (err res) (durationMs res)) s

/-- The tally of a new report. -/
def start (enableLatencyMetric : Bool) : LatencyTally := ⟨enableLatencyMetric, [], 0, 0⟩

section Run

variable {α : Type} (err : α → Option String) (durationMs : α → Int)

theorem okLatencies_cons (res : α) (rest : List α) :
    okLatencies err durationMs (res :: rest) =
      okLatencies err durationMs [res] ++ okLatencies err durationMs rest := by
  unfold okLatencies
  rw [← List.filterMap_append]
  rfl

/-- One result: the count grows by one, and a latency that did not fail is
stored or added up according to the flag. -/
theorem record_eq (s : LatencyTally) (res : α) :
    s.record (err res) (durationMs res) =
      { s with
        totalCount := s.totalCount + 1
        lats := if s.enableLatencyMetric then s.lats ++ okLatencies err durationMs [res] else s.lats
        totalLatencies := if s.enableLatencyMetric then s.totalLatencies
          else (okLatencies err durationMs [res]).foldl (· + ·) s.totalLatencies } := by
  cases h : err res <;> cases hen : s.enableLatencyMetric <;>
    simp [record, okLatencies, h, hen]

theorem run_cons (s : LatencyTally) (res : α) (rest : List α) :
    run err durationMs s (res :: rest) = run err durationMs (s.record (err res) (durationMs res)) rest :=
  rfl

/-- A run in closed form: by induction on the results, each step given by
`record_eq`. -/
theorem run_eq (s : LatencyTally) (results : List α) :
    run err durationMs s results =
      { s with
        totalCount := s.totalCount + results.length
        lats := if s.enableLatencyMetric then s.lats ++ okLatencies err durationMs results else s.lats
        totalLatencies := if s.enableLatencyMetric then s.totalLatencies
          else (okLatencies err durationMs results).foldl (· + ·) s.totalLatencies } := by
  induction results generalizing s with
  | nil => cases s; simp [run, okLatencies]
  | cons res rest ih =>
    rw [run_cons, ih, record_eq, okLatencies_cons err durationMs res rest]
    cases s.enableLatencyMetric <;> simp [List.foldl_append, Nat.add_assoc, Nat.add_comm 1]

/-- The mean latency a run reports: with `EnableLatencyMetric` the mean of
the latencies that did not fail, without it their sum over the count of all
requests. -/
theorem mean_run (enableLatencyMetric : Bool) (results : List α) :
    (latencyDistribution enableLatencyMetric
        (run err durationMs (start enableLatencyMetric) results).lats
        (run err durationMs (start enableLatencyMetric) results).totalLatencies
        (run err durationMs (start enableLatencyMetric) results).totalCount).mean =
      if enableLatencyMetric then valueOf (Stats.mean (okLatencies err durationMs results))
      else (okLatencies err durationMs results).foldl (· + ·) 0 / results.length := by
  cases enableLatencyMetric <;> simp [run_eq, start, latencyDistribution]

/-- No latency is left out exactly when no result failed. -/
theorem length_okLatencies_eq_iff (results : List α) :
    (okLatencies err durationMs results).length = results.length ↔ ∀ res ∈ results, err res = none := by
  unfold okLatencies
  rw [List.filterMap_length_eq_length]
  refine forall₂_congr fun res _ => ?_
  cases err res <;> simp

/-- A reporter whose turn does to its tally what `record` does folds its
results into the tally's `run`. -/
theorem run_of_record {R : Type} (tally : R → LatencyTally) (record : R → α → R)
    (h : ∀ r res, tally (record r res) = (tally r).record (err res) (durationMs res))
    (r : R) (results : List α) :
    tally (results.foldl record r) = run err durationMs (tally r) results := by
  induction results generalizing r with
  | nil => rfl
  | cons res rest ih =>
    rw [List.foldl_cons, ih, h]
    rfl

end Run

end LatencyTally

/-- Dividing the sum of the latencies that did not fail by the count `n` of
all requests gives their mean exactly when none failed or the sum is zero. -/
theorem sum_div_count_eq_mean_iff (lats : List ℚ) {n : Nat} (hn : 0 < n) :
    lats.foldl (· + ·) 0 / n = valueOf (Stats.mean lats) ↔
      lats.length = n ∨ lats.foldl (· + ·) 0 = 0 := by
  rcases eq_or_ne lats [] with rfl | h
  · simp [Stats.mean, valueOf]
  · have hk : (lats.length : ℚ) ≠ 0 := by simpa using h
    have hn' : (n : ℚ) ≠ 0 := by exact_mod_cast hn.ne'
    rw [Stats.mean_eq h, valueOf, div_eq_div_iff hn' hk, mul_eq_mul_left_iff, Nat.cast_inj]

/-- The two means of a run with results agree exactly when no result failed
or the latencies that did not fail add up to zero. -/
theorem LatencyTally.mean_run_agree_iff {α : Type} (err : α → Option String)
    (durationMs : α → Int) {results : List α} (h : results ≠ []) :
    (latencyDistribution false (LatencyTally.run err durationMs (.start false) results).lats
        (LatencyTally.run err durationMs (.start false) results).totalLatencies
        (LatencyTally.run err durationMs (.start false) results).totalCount).mean =
      (latencyDistribution true (LatencyTally.run err durationMs (.start true) results).lats
        (LatencyTally.run err durationMs (.start true) results).totalLatencies
        (LatencyTally.run err durationMs (.start true) results).totalCount).mean ↔
      (∀ res ∈ results, err res = none) ∨ (okLatencies err durationMs results).foldl (· + ·) 0 = 0 := by
  rw [LatencyTally.mean_run, LatencyTally.mean_run, if_neg Bool.false_ne_true, if_pos rfl,
    sum_div_count_eq_mean_iff _ (List.length_pos_iff.mpr h), LatencyTally.length_okLatencies_eq_iff]

namespace LoadHttp

/-- `result`: one request's error, duration in milliseconds, status code and
content length. -/
structure Result where
  err : Option String
  durationMs : Int
  statusCode : Int
  contentLength : Int

/-- `report`, without the channels and the timing of the run. -/
structure Report where
  enableLatencyMetric : Bool
  statusCodes : GoMap Int Nat
  errorDist : GoMap String Nat
  latencies : List ℚ
  totalLatencies : ℚ
  sizeTotal : Int
  totalCount : Nat
  existsNotSendRequests : Bool

/-- `newReport`, with what the run loop learnt about unsent requests. -/
def newReport (enableLatencyMetric existsNotSendRequests : Bool) : Report :=
  ⟨enableLatencyMetric, .empty, .empty, [], 0, 0, 0, existsNotSendRequests⟩

/-- One turn of the loop of `runReporter`. -/
def Report.record (r : Report) (res : Result) : Report :=
  let r := { r with totalCount := r.totalCount + 1, statusCodes := r.statusCodes.increment res.statusCode }
  match res.err with
  | some err => { r with errorDist := r.errorDist.increment err }
  | none =>
    let r := if r.enableLatencyMetric then { r with latencies := r.latencies ++ [(res.durationMs : ℚ)] }
      else { r with totalLatencies := r.totalLatencies + res.durationMs }
    if res.contentLength > 0 then { r with sizeTotal := r.sizeTotal + res.contentLength } else r

/-- `runReporter`: the results in the order they come off the channel. -/
def runReporter (r : Report) (results : List Result) : Report := results.foldl Report.record r

/-- The latency tally of a report. -/
def Report.tally (r : Report) : LatencyTally :=
  ⟨r.enableLatencyMetric, r.latencies, r.totalLatencies, r.totalCount⟩

theorem record_tally (r : Report) (res : Result) :
    (r.record res).tally = r.tally.record res.err res.durationMs := by
  rcases res with ⟨_ | err, d, code, len⟩
  · -- the content length only moves `sizeTotal`, which the tally leaves out
    cases hen : r.enableLatencyMetric <;> simp only [Report.record, hen] <;> split <;>
      simp [Report.tally, LatencyTally.record, hen]
  · rfl

theorem runReporter_tally (r : Report) (results : List Result) :
    (runReporter r results).tally = LatencyTally.run Result.err Result.durationMs r.tally results :=
  LatencyTally.run_of_record _ _ _ _ record_tally r results

theorem newReport_tally (enableLatencyMetric existsNotSendRequests : Bool) :
    (newReport enableLatencyMetric existsNotSendRequests).tally = .start enableLatencyMetric := rfl

/-- `HttpMetrics`, without the timing of the run. -/
structure HttpMetrics where
  requestCounts : Nat
  successCounts : Int
  errors : GoMap String Nat
  latencies : LatencyDistribution
  totalDataSize : Int
  statusCodes : GoMap Int Nat
  existsNotSendRequests : Bool

/-- `AggregateMetric`. -/
def aggregateMetric (enableLatencyMetric : Bool) (r : Report) : HttpMetrics :=
  let errNum := r.errorDist.total
  { requestCounts := r.totalCount
    successCounts := (r.totalCount : Int) - errNum
    errors := r.errorDist
    latencies := latencyDistribution enableLatencyMetric r.latencies r.totalLatencies r.totalCount
    totalDataSize := r.sizeTotal
    statusCodes := r.statusCodes
    existsNotSendRequests := r.existsNotSendRequests }

/-- The mean latency `AggregateMetric` reports for a run of a new report,
in closed form. -/
theorem mean_aggregateMetric (enableLatencyMetric existsNotSendRequests : Bool)
    (results : List Result) :
    (aggregateMetric enableLatencyMetric
        (runReporter (newReport enableLatencyMetric existsNotSendRequests) results)).latencies.mean =
      if enableLatencyMetric then valueOf (Stats.mean (okLatencies Result.err Result.durationMs results))
      else (okLatencies Result.err Result.durationMs results).foldl (· + ·) 0 / results.length := by
  have h := LatencyTally.mean_run Result.err Result.durationMs enableLatencyMetric results
  rw [← newReport_tally enableLatencyMetric existsNotSendRequests, ← runReporter_tally] at h
  exact h

end LoadHttp

namespace LoadDns

/-- `result`: one request's error, duration in milliseconds and the name of
the reply's code (`dns.RcodeToString[res.msg.Rcode]`). -/
structure Result where
  err : Option String
  durationMs : Int
  rcode : String

/-- `report`, without the channels and the timing of the run. -/
structure Report where
  enableLatencyMetric : Bool
  avgTotal : ℚ
  errorDist : GoMap String Nat
  lats : List ℚ
  totalLatencies : ℚ
  totalCount : Nat
  successCount : Nat
  failedCount : Nat
  replyCode : GoMap String Nat
  existsNotSendRequests : Bool

/-- `newReport`, with what the run loop learnt about unsent requests. -/
def newReport (enableLatencyMetric existsNotSendRequests : Bool) : Report :=
  ⟨enableLatencyMetric, 0, .empty, [], 0, 0, 0, 0, .empty, existsNotSendRequests⟩

/-- One turn of the loop of `runReporter`. -/
def Report.record (r : Report) (res : Result) : Report :=
  let r := { r with totalCount := r.totalCount + 1 }
  match res.err with
  | some err => { r with errorDist := r.errorDist.increment err, failedCount := r.failedCount + 1 }
  | none =>
    -- `res.duration.Seconds()` of a whole number of milliseconds
    let r := { r with avgTotal := r.avgTotal + (res.durationMs : ℚ) / 1000 }
    let r := if r.enableLatencyMetric then { r with lats := r.lats ++ [(res.durationMs : ℚ)] }
      else { r with totalLatencies := r.totalLatencies + res.durationMs }
    { r with replyCode := r.replyCode.increment res.rcode, successCount := r.successCount + 1 }

/-- `runReporter`: the results in the order they come off the channel. -/
def runReporter (r : Report) (results : List Result) : Report := results.foldl Report.record r

/-- The latency tally of a report. -/
def Report.tally (r : Report) : LatencyTally :=
  ⟨r.enableLatencyMetric, r.lats, r.totalLatencies, r.totalCount⟩

theorem record_tally (r : Report) (res : Result) :
    (r.record res).tally = r.tally.record res.err res.durationMs := by
  rcases res with ⟨_ | err, d, rcode⟩ <;> cases hen : r.enableLatencyMetric <;>
    simp [Report.record, Report.tally, LatencyTally.record, hen]

theorem runReporter_tally (r : Report) (results : List Result) :
    (runReporter r results).tally = LatencyTally.run Result.err Result.durationMs r.tally results :=
  LatencyTally.run_of_record _ _ _ _ record_tally r results

theorem newReport_tally (enableLatencyMetric existsNotSendRequests : Bool) :
    (newReport enableLatencyMetric existsNotSendRequests).tally = .start enableLatencyMetric := rfl

/-- `DNSMetrics`, without the timing of the run and the request it made. -/
structure DNSMetrics where
  requestCounts : Nat
  successCounts : Nat
  errors : GoMap String Nat
  latencies : LatencyDistribution
  failedCounts : Nat
  replyCode : GoMap String Nat
  existsNotSendRequests : Bool

/-- `AggregateMetric`. -/
def aggregateMetric (enableLatencyMetric : Bool) (r : Report) : DNSMetrics where
  requestCounts := r.totalCount
  successCounts := r.successCount
  errors := r.errorDist
  latencies := latencyDistribution enableLatencyMetric r.lats r.totalLatencies r.totalCount
  failedCounts := r.failedCount
  replyCode := r.replyCode
  existsNotSendRequests := r.existsNotSendRequests

/-- The mean latency `AggregateMetric` reports for a run of a new report,
in closed form. -/
theorem mean_aggregateMetric (enableLatencyMetric existsNotSendRequests : Bool)
    (results : List Result) :
    (aggregateMetric enableLatencyMetric
        (runReporter (newReport enableLatencyMetric existsNotSendRequests) results)).latencies.mean =
      if enableLatencyMetric then valueOf (Stats.mean (okLatencies Result.err Result.durationMs results))
      else (okLatencies Result.err Result.durationMs results).foldl (· + ·) 0 / results.length := by
  have h := LatencyTally.mean_run Result.err Result.durationMs enableLatencyMetric results
  rw [← newReport_tally enableLatencyMetric existsNotSendRequests, ← runReporter_tally] at h
  exact h

end LoadDns

/-- For a run with requests, the mean latency is the same with and without
`EnableLatencyMetric` exactly when no request failed or the latencies of
those that did not fail add up to zero; in both generators. -/
theorem latencyMean_agrees_iff (existsNotSendRequests : Bool) {rsHttp : List LoadHttp.Result}
    {rsDns : List LoadDns.Result} (hHttp : rsHttp ≠ []) (hDns : rsDns ≠ []) :
    ((LoadHttp.aggregateMetric false
          (LoadHttp.runReporter (LoadHttp.newReport false existsNotSendRequests) rsHttp)).latencies.mean =
        (LoadHttp.aggregateMetric true
          (LoadHttp.runReporter (LoadHttp.newReport true existsNotSendRequests) rsHttp)).latencies.mean ↔
      (∀ res ∈ rsHttp, res.err = none) ∨
        (okLatencies LoadHttp.Result.err LoadHttp.Result.durationMs rsHttp).foldl (· + ·) 0 = 0) ∧
    ((LoadDns.aggregateMetric false
          (LoadDns.runReporter (LoadDns.newReport false existsNotSendRequests) rsDns)).latencies.mean =
        (LoadDns.aggregateMetric true
          (LoadDns.runReporter (LoadDns.newReport true existsNotSendRequests) rsDns)).latencies.mean ↔
      (∀ res ∈ rsDns, res.err = none) ∨
        (okLatencies LoadDns.Result.err LoadDns.Result.durationMs rsDns).foldl (· + ·) 0 = 0) := by
  constructor
  · have h := LatencyTally.mean_run_agree_iff LoadHttp.Result.err LoadHttp.Result.durationMs hHttp
    rw [← LoadHttp.newReport_tally false existsNotSendRequests,
      ← LoadHttp.newReport_tally true existsNotSendRequests,
      ← LoadHttp.runReporter_tally, ← LoadHttp.runReporter_tally] at h
    exact h
  · have h := LatencyTally.mean_run_agree_iff LoadDns.Result.err LoadDns.Result.durationMs hDns
    rw [← LoadDns.newReport_tally false existsNotSendRequests,
      ← LoadDns.newReport_tally true existsNotSendRequests,
      ← LoadDns.runReporter_tally, ← LoadDns.runReporter_tally] at h
    exact h

theorem latencyMean_agrees_errorFree :
    (LoadHttp.aggregateMetric false
        (LoadHttp.runReporter (LoadHttp.newReport false false) [⟨none, 10, 200, 0⟩])).latencies.mean =
      (LoadHttp.aggregateMetric true
        (LoadHttp.runReporter (LoadHttp.newReport true false) [⟨none, 10, 200, 0⟩])).latencies.mean ∧
    (LoadDns.aggregateMetric false
        (LoadDns.runReporter (LoadDns.newReport false false) [⟨none, 10, "NOERROR"⟩])).latencies.mean =
      (LoadDns.aggregateMetric true
        (LoadDns.runReporter (LoadDns.newReport true false) [⟨none, 10, "NOERROR"⟩])).latencies.mean :=
  have h := @latencyMean_agrees_iff false [⟨none, 10, 200, 0⟩] [⟨none, 10, "NOERROR"⟩]
    (by simp) (by simp)
  ⟨h.1.mpr (Or.inl (by simp)), h.2.mpr (Or.inl (by simp))⟩

end KDoctor.LoadRequest
