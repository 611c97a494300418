import KDoctor.LoadRequest.Report
import KDoctor.Lib.Transition

/-!
The counters of a load test against the results its reporter consumed
(`runReporter` and the counts of `AggregateMetric`, in `loadHttp` and in
`loadDns`). `LoadHttp.Counts` and `LoadDns.Counts` say what every counter of
a report holds after a list of results; one turn of the reporter keeps them
(`counts_record`), so a whole run does (`counts_runReporter`).

The counters are `int` and `int64` in Go; they are numbers here, since no run
reaches `2^63` results.
-/

namespace KDoctor.LoadRequest

namespace LoadHttp

/-! ## What one turn of the reporter changes -/

section Record

variable (r : Report)

theorem record_of_err {res : Result} {err : String} (h : res.err = some err) :
    r.record res =
      { r with
        totalCount := r.totalCount + 1
        statusCodes := r.statusCodes.increment res.statusCode
        errorDist := r.errorDist.increment err } := by
  rcases res with ⟨_ | err', d, code, len⟩
  · cases h
  · cases h
    rfl

/-- A result that did not fail: the content length moves only `sizeTotal`. -/
theorem record_of_ok {res : Result} (h : res.err = none) :
    (r.record res).totalCount = r.totalCount + 1 ∧
      (r.record res).statusCodes = r.statusCodes.increment res.statusCode ∧
      (r.record res).errorDist = r.errorDist ∧
      (r.record res).enableLatencyMetric = r.enableLatencyMetric ∧
      (r.record res).latencies =
        if r.enableLatencyMetric then r.latencies ++ [(res.durationMs : ℚ)] else r.latencies := by
  rcases res with ⟨_ | err, d, code, len⟩
  · cases hen : r.enableLatencyMetric <;> simp only [Report.record, hen] <;> split_ifs <;>
      exact ⟨rfl, rfl, rfl, rfl, rfl⟩
  · cases h

end Record

/-! ## The counters of a run -/

/-- What the counters of an HTTP report hold after the results `rs`: one
count for each in `totalCount` and in the status-code histogram, one count in
the error histogram for each that failed, and with `EnableLatencyMetric` one
latency for each that did not. -/
structure Counts (rs : List Result) (r : Report) : Prop where
  totalCount : r.totalCount = rs.length
  statusCodes : r.statusCodes.total = rs.length
  errorDist : r.errorDist.total = (rs.filter fun res => res.err.isSome).length
  latencies : r.latencies.length =
    if r.enableLatencyMetric then (rs.filter fun res => res.err.isNone).length else 0

theorem counts_newReport (enableLatencyMetric existsNotSendRequests : Bool) :
    Counts [] (newReport enableLatencyMetric existsNotSendRequests) where
  totalCount := rfl
  statusCodes := rfl
  errorDist := rfl
  latencies := by cases enableLatencyMetric <;> rfl

/-- One turn of `runReporter` keeps the counts: a failure moves the error
histogram, a success the latencies when they are kept. -/
theorem counts_record {rs : List Result} {r : Report} (h : Counts rs r) (res : Result) :
    Counts (rs ++ [res]) (r.record res) := by
  rcases hres : res.err with _ | err
  · obtain ⟨ht, hs, he, hen, hl⟩ := record_of_ok r hres
    refine ⟨by simp [ht, h.totalCount], by simp [hs, h.statusCodes], ?_, ?_⟩
    · simp [he, h.errorDist, hres]
    · rw [hl, hen]
      cases hflag : r.enableLatencyMetric <;> simp [hflag, h.latencies, hres]
  · rw [record_of_err r hres]
    refine ⟨by simp [h.totalCount], by simp [h.statusCodes], ?_, ?_⟩
    · simp [h.errorDist, hres]
    · simp [h.latencies, hres]

/-- A run of the reporter keeps the counts: the loop's invariant rule with
`counts_record` as its step. -/
theorem counts_runReporter {rs : List Result} {r : Report} (h : Counts rs r) (rs' : List Result) :
    Counts (rs ++ rs') (runReporter r rs') :=
  Transition.foldl_invariant (I := Counts) (fun _ _ res hc => counts_record hc res) h rs'

/-- A run keeps the flag its report was made with. -/
theorem runReporter_enableLatencyMetric (r : Report) (rs : List Result) :
    (runReporter r rs).enableLatencyMetric = r.enableLatencyMetric := by
  have h := congrArg LatencyTally.enableLatencyMetric (runReporter_tally r rs)
  rw [LatencyTally.run_eq] at h
  exact h

end LoadHttp

namespace LoadDns

/-! ## What one turn of the reporter changes -/

section Record

variable (r : Report)

theorem record_of_err {res : Result} {err : String} (h : res.err = some err) :
    r.record res =
      { r with
        totalCount := r.totalCount + 1
        errorDist := r.errorDist.increment err
        failedCount := r.failedCount + 1 } := by
  rcases res with ⟨_ | err', d, rcode⟩
  · cases h
  · cases h
    rfl

/-- A result that did not fail: the reply code is counted, the latency kept
or added up. -/
theorem record_of_ok {res : Result} (h : res.err = none) :
    (r.record res).totalCount = r.totalCount + 1 ∧
      (r.record res).successCount = r.successCount + 1 ∧ (r.record res).failedCount = r.failedCount ∧
      (r.record res).errorDist = r.errorDist ∧
      (r.record res).replyCode = r.replyCode.increment res.rcode ∧
      (r.record res).enableLatencyMetric = r.enableLatencyMetric ∧
      (r.record res).lats = if r.enableLatencyMetric then r.lats ++ [(res.durationMs : ℚ)] else r.lats := by
  rcases res with ⟨_ | err, d, rcode⟩
  · cases hen : r.enableLatencyMetric <;> simp [Report.record, hen]
  · cases h

end Record

/-! ## The counters of a run -/

/-- What the counters of a DNS report hold after the results `rs`: one count
for each in `totalCount`, and in `successCount` or `failedCount` as it did
not fail or failed; one count in the error histogram for each failure and in
the reply-code histogram for each success, and with `EnableLatencyMetric` one
latency for each success. -/
structure Counts (rs : List Result) (r : Report) : Prop where
  totalCount : r.totalCount = rs.length
  successCount : r.successCount = (rs.filter fun res => res.err.isNone).length
  failedCount : r.failedCount = (rs.filter fun res => res.err.isSome).length
  errorDist : r.errorDist.total = r.failedCount
  replyCode : r.replyCode.total = r.successCount
  lats : r.lats.length = if r.enableLatencyMetric then r.successCount else 0

theorem counts_newReport (enableLatencyMetric existsNotSendRequests : Bool) :
    Counts [] (newReport enableLatencyMetric existsNotSendRequests) where
  totalCount := rfl
  successCount := rfl
  failedCount := rfl
  errorDist := rfl
  replyCode := rfl
  lats := by cases enableLatencyMetric <;> rfl

/-- One turn of `runReporter` keeps the counts: a failure moves the failure
counters, a success the success counters. -/
theorem counts_record {rs : List Result} {r : Report} (h : Counts rs r) (res : Result) :
    Counts (rs ++ [res]) (r.record res) := by
  rcases hres : res.err with _ | err
  · obtain ⟨ht, hs, hf, he, hr, hen, hl⟩ := record_of_ok r hres
    refine ⟨by simp [ht, h.totalCount], ?_, ?_, ?_, ?_, ?_⟩
    · simp [hs, h.successCount, hres]
    · simp [hf, h.failedCount, hres]
    · rw [he, hf, h.errorDist]
    · rw [hr, hs, GoMap.total_increment, h.replyCode]
    · rw [hl, hs, hen]
      cases hflag : r.enableLatencyMetric <;> simp [hflag, h.lats]
  · rw [record_of_err r hres]
    refine ⟨by simp [h.totalCount], ?_, ?_, ?_, h.replyCode, h.lats⟩
    · simp [h.successCount, hres]
    · simp [h.failedCount, hres]
    · rw [GoMap.total_increment, h.errorDist]

/-- A run of the reporter keeps the counts: the loop's invariant rule with
`counts_record` as its step. -/
theorem counts_runReporter {rs : List Result} {r : Report} (h : Counts rs r) (rs' : List Result) :
    Counts (rs ++ rs') (runReporter r rs') :=
  Transition.foldl_invariant (I := Counts) (fun _ _ res hc => counts_record hc res) h rs'

/-- A run keeps the flag its report was made with. -/
theorem runReporter_enableLatencyMetric (r : Report) (rs : List Result) :
    (runReporter r rs).enableLatencyMetric = r.enableLatencyMetric := by
  have h := congrArg LatencyTally.enableLatencyMetric (runReporter_tally r rs)
  rw [LatencyTally.run_eq] at h
  exact h

end LoadDns

/-! ## Conservation -/

/-- A load test conserves its requests. In `loadHttp`, every result is
counted once in `RequestCounts` and in the status-code histogram, every
failure once in the error histogram, `SuccessCounts`, the count less the
failures, is the number of results that did not fail, and with
`EnableLatencyMetric` the report keeps one latency for each of those. In
`loadDns`, the count is the successes and the failures, the error histogram
counts the failures and the reply-code histogram the successes, and with
`EnableLatencyMetric` the report keeps one latency for each success. -/
theorem loadTest_conserves_requests (enableHttp existsHttp : Bool) (rsHttp : List LoadHttp.Result)
    (enableDns existsDns : Bool) (rsDns : List LoadDns.Result) :
    let r := LoadHttp.runReporter (LoadHttp.newReport enableHttp existsHttp) rsHttp
    let m := LoadHttp.aggregateMetric enableHttp r
    let d := LoadDns.runReporter (LoadDns.newReport enableDns existsDns) rsDns
    (r.totalCount = rsHttp.length ∧ r.statusCodes.total = r.totalCount ∧
      r.errorDist.total = (rsHttp.filter fun res => res.err.isSome).length ∧
      m.successCounts = (r.totalCount : Int) - r.errorDist.total ∧
      m.successCounts = (rsHttp.filter fun res => res.err.isNone).length ∧
      0 ≤ m.successCounts ∧ m.successCounts ≤ m.requestCounts ∧
      (r.latencies.length : Int) = if enableHttp then m.successCounts else 0) ∧
    (d.totalCount = rsDns.length ∧ d.totalCount = d.successCount + d.failedCount ∧
      d.errorDist.total = d.failedCount ∧ d.replyCode.total = d.successCount ∧
      d.lats.length = if enableDns then d.successCount else 0) := by
  intro r m d
  have hr : LoadHttp.Counts rsHttp r := by
    simpa using LoadHttp.counts_runReporter (LoadHttp.counts_newReport enableHttp existsHttp) rsHttp
  have hd : LoadDns.Counts rsDns d := by
    simpa using LoadDns.counts_runReporter (LoadDns.counts_newReport enableDns existsDns) rsDns
  have hflag : r.enableLatencyMetric = enableHttp := LoadHttp.runReporter_enableLatencyMetric _ _
  have hflag' : d.enableLatencyMetric = enableDns := LoadDns.runReporter_enableLatencyMetric _ _
  -- every result failed or did not
  have hsplit := List.length_eq_length_filter_add (l := rsHttp) fun res : LoadHttp.Result => res.err.isSome
  have hsplit' := List.length_eq_length_filter_add (l := rsDns) fun res : LoadDns.Result => res.err.isSome
  simp only [Option.not_isSome] at hsplit hsplit'
  have hsucc : m.successCounts = (rsHttp.filter fun res => res.err.isNone).length := by
    show (r.totalCount : Int) - r.errorDist.total = _
    rw [hr.totalCount, hr.errorDist]
    omega
  have hreq : m.requestCounts = rsHttp.length := hr.totalCount
  refine ⟨⟨hr.totalCount, by rw [hr.statusCodes, hr.totalCount], hr.errorDist, rfl, hsucc, by omega,
    by omega, ?_⟩, ⟨hd.totalCount, ?_, hd.errorDist, hd.replyCode, hflag' ▸ hd.lats⟩⟩
  · rw [hr.latencies, hflag, hsucc]
    split <;> rfl
  · rw [hd.totalCount, hd.successCount, hd.failedCount]
    omega

end KDoctor.LoadRequest
