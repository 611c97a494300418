import KDoctor.LoadRequest.Report
import KDoctor.PluginManager.Webhook

/-!
The verdict an agent gives on the metrics of its requests to one target,
`ParseSuccessCondition` of `netreach`, `apphttphealthy` and `netdns`
(`agentExecuteTask.go`). The three make the same checks in the same order,
on `HttpMetrics` or on `DNSMetrics`: the success rate, then the mean delay cut
to whole milliseconds by `int64`, then whether some request could not be
sent. The first check that fails gives the failure reason; when none fails
the reason is empty and the target succeeded. Go's `%v` of a float is a
parameter, as in the webhooks.

A run without requests divides zero by zero: Go's NaN, which the model
reads as a rate no success rate is above, and, for the mean of
`latencyDistribution`, as the zero of rational division.
-/

namespace KDoctor.PluginManager

open LoadRequest

/-- Why the requests to a target failed, one constructor for each case of
the switch of `ParseSuccessCondition`. -/
inductive FailureReason where
  | lowSuccessRate (rate request : ℚ)
  | highMeanDelay (mean : ℚ) (request : Int)
  | unsentRequests
  deriving DecidableEq

/-- The text of the failure reason. -/
def FailureReason.text (formatFloat : ℚ → String) : FailureReason → String
  | .lowSuccessRate rate request =>
    "Success Rate " ++ formatFloat rate ++ " is lower than request " ++ formatFloat request
  | .highMeanDelay mean request =>
    "mean delay " ++ formatFloat mean ++ " ms is bigger than request " ++ toString request ++ " ms"
  | .unsentRequests => "There are unsent requests after the execution time has been reached"

/-- The switch of `ParseSuccessCondition`, on the four fields of the metrics
it reads; `none` is the empty failure reason. -/
def parseSuccessCondition (successCondition : NetSuccessCondition) (successCounts requestCounts : Int)
    (mean : ℚ) (existsNotSendRequests : Bool) : Option FailureReason :=
  let rate : ℚ := successCounts / requestCounts
  (successCondition.successRate.bind fun want =>
      -- with no request the rate is NaN, and `NaN < want` is false
      if requestCounts ≠ 0 ∧ rate < want then some (.lowSuccessRate rate want) else none).or
    ((successCondition.meanAccessDelayInMs.bind fun want =>
      if Stats.truncate mean > want then some (.highMeanDelay mean want) else none).or
    (if existsNotSendRequests then some .unsentRequests else none))

/-- `netreach.ParseSuccessCondition`. -/
def netReachParseSuccessCondition (successCondition : NetSuccessCondition)
    (metricResult : LoadHttp.HttpMetrics) : Option FailureReason :=
  parseSuccessCondition successCondition metricResult.successCounts metricResult.requestCounts
    metricResult.latencies.mean metricResult.existsNotSendRequests

/-- `apphttphealthy.ParseSuccessCondition`. -/
def appHttpHealthyParseSuccessCondition (successCondition : NetSuccessCondition)
    (metricResult : LoadHttp.HttpMetrics) : Option FailureReason :=
  parseSuccessCondition successCondition metricResult.successCounts metricResult.requestCounts
    metricResult.latencies.mean metricResult.existsNotSendRequests

/-- `netdns.ParseSuccessCondition`. -/
def netdnsParseSuccessCondition (successCondition : NetSuccessCondition)
    (metricResult : LoadDns.DNSMetrics) : Option FailureReason :=
  parseSuccessCondition successCondition metricResult.successCounts metricResult.requestCounts
    metricResult.latencies.mean metricResult.existsNotSendRequests

/-! ## The verdict -/

/-- Every failure reason has a text, so `len(failureReason) == 0` of
`SendRequestAndReport` holds exactly for `none`. -/
theorem text_ne_empty (formatFloat : ℚ → String) (reason : FailureReason) :
    reason.text formatFloat ≠ "" := by
  -- every text starts with a word of its own; `show` reads the text off the
  -- definition without building its equation lemmas, which are slow to make
  cases reason with
  | lowSuccessRate rate request =>
    show "Success Rate " ++ formatFloat rate ++ " is lower than request " ++ formatFloat request ≠ ""
    rw [ne_eq, String.append_eq_empty_iff, String.append_eq_empty_iff, String.append_eq_empty_iff]
    exact fun h => absurd h.1.1.1 (by decide)
  | highMeanDelay mean request =>
    show "mean delay " ++ formatFloat mean ++ " ms is bigger than request " ++ toString request ++
      " ms" ≠ ""
    rw [ne_eq, String.append_eq_empty_iff, String.append_eq_empty_iff, String.append_eq_empty_iff,
      String.append_eq_empty_iff]
    exact fun h => absurd h.1.1.1.1 (by decide)
  | unsentRequests =>
    show "There are unsent requests after the execution time has been reached" ≠ ""
    decide

/-- A target succeeds exactly when no check of the switch fails. -/
theorem parseSuccessCondition_eq_none_iff {successCondition : NetSuccessCondition}
    {successCounts requestCounts : Int} {mean : ℚ} {existsNotSendRequests : Bool} :
    parseSuccessCondition successCondition successCounts requestCounts mean existsNotSendRequests =
        none ↔
      (∀ want ∈ successCondition.successRate,
        requestCounts = 0 ∨ want ≤ (successCounts : ℚ) / requestCounts) ∧
      (∀ want ∈ successCondition.meanAccessDelayInMs, Stats.truncate mean ≤ want) ∧
      existsNotSendRequests = false := by
  rcases hrate : successCondition.successRate with _ | rate <;>
    rcases hdelay : successCondition.meanAccessDelayInMs with _ | delay <;>
    simp [parseSuccessCondition, hrate, hdelay, or_iff_not_imp_left]

/-- The mean check decides a verdict the success rate lets through: the
target then fails on its mean delay exactly when the mean, cut to whole
milliseconds, is above the one asked for. -/
theorem parseSuccessCondition_highMeanDelay {successCondition : NetSuccessCondition}
    {successCounts requestCounts : Int} {mean : ℚ} {existsNotSendRequests : Bool} {delay : Int}
    (hrate : ∀ want ∈ successCondition.successRate,
      requestCounts = 0 ∨ want ≤ (successCounts : ℚ) / requestCounts)
    (hdelay : successCondition.meanAccessDelayInMs = some delay) :
    parseSuccessCondition successCondition successCounts requestCounts mean existsNotSendRequests =
        some (.highMeanDelay mean delay) ↔ delay < Stats.truncate mean := by
  rcases hr : successCondition.successRate with _ | rate
  · by_cases hlt : delay < Stats.truncate mean <;>
      cases existsNotSendRequests <;> simp [parseSuccessCondition, hr, hdelay, hlt]
  · have hpass : ¬ (requestCounts ≠ 0 ∧ (successCounts : ℚ) / requestCounts < rate) := by
      rcases hrate rate hr with h | h
      · exact fun h' => h'.1 h
      · exact fun h' => absurd h'.2 (not_lt.mpr h)
    by_cases hlt : delay < Stats.truncate mean <;>
      cases existsNotSendRequests <;> simp [parseSuccessCondition, hr, hdelay, hlt, hpass]

/-! ## The mean delay depends on `EnableLatencyMetric` -/

theorem meanDelay_verdict_depends_on_flag (formatFloat : ℚ → String) :
    let cond : NetSuccessCondition := ⟨none, some 7⟩
    let rsHttp : List LoadHttp.Result :=
      [⟨some "context deadline exceeded", 30, 0, 0⟩, ⟨none, 10, 200, 0⟩]
    let rsDns : List LoadDns.Result := [⟨some "i/o timeout", 30, ""⟩, ⟨none, 10, "NOERROR"⟩]
    let httpOff := LoadHttp.aggregateMetric false
      (LoadHttp.runReporter (LoadHttp.newReport false false) rsHttp)
    let httpOn := LoadHttp.aggregateMetric true
      (LoadHttp.runReporter (LoadHttp.newReport true false) rsHttp)
    let dnsOff := LoadDns.aggregateMetric false
      (LoadDns.runReporter (LoadDns.newReport false false) rsDns)
    let dnsOn := LoadDns.aggregateMetric true
      (LoadDns.runReporter (LoadDns.newReport true false) rsDns)
    validateSuccessCondition formatFloat "NetReach" "demo" (some cond) = .ok () ∧
    httpOff.latencies.mean = 5 ∧ httpOn.latencies.mean = 10 ∧
    netReachParseSuccessCondition cond httpOff = none ∧
    netReachParseSuccessCondition cond httpOn = some (.highMeanDelay 10 7) ∧
    dnsOff.latencies.mean = 5 ∧ dnsOn.latencies.mean = 10 ∧
    netdnsParseSuccessCondition cond dnsOff = none ∧
    netdnsParseSuccessCondition cond dnsOn = some (.highMeanDelay 10 7) := by
  intro cond rsHttp rsDns httpOff httpOn dnsOff dnsOn
  -- the two means of each run, from the closed form of a run
  have hHttpOff : httpOff.latencies.mean = 5 := by
    rw [LoadHttp.mean_aggregateMetric]
    simp [rsHttp, okLatencies]
    norm_num
  have hHttpOn : httpOn.latencies.mean = 10 := by
    rw [LoadHttp.mean_aggregateMetric]
    simp [rsHttp, okLatencies, Stats.mean, Stats.sum, valueOf]
  have hDnsOff : dnsOff.latencies.mean = 5 := by
    rw [LoadDns.mean_aggregateMetric]
    simp [rsDns, okLatencies]
    norm_num
  have hDnsOn : dnsOn.latencies.mean = 10 := by
    rw [LoadDns.mean_aggregateMetric]
    simp [rsDns, okLatencies, Stats.mean, Stats.sum, valueOf]
  -- no success rate is asked for and every request was sent: the mean alone decides
  have hrate : ∀ want ∈ cond.successRate, ∀ s n : Int, n = 0 ∨ want ≤ (s : ℚ) / n := by
    simp [cond]
  have hpass : ∀ s n : Int, parseSuccessCondition cond s n 5 false = none := fun s n =>
    parseSuccessCondition_eq_none_iff.mpr
      ⟨fun want hw => hrate want hw s n, by norm_num [cond, Stats.truncate], rfl⟩
  have hfail : ∀ s n : Int, parseSuccessCondition cond s n 10 false = some (.highMeanDelay 10 7) :=
    fun s n => (parseSuccessCondition_highMeanDelay (fun want hw => hrate want hw s n) rfl).mpr
      (by norm_num [Stats.truncate])
  refine ⟨by simp [validateSuccessCondition, cond], hHttpOff, hHttpOn, ?_, ?_, hDnsOff, hDnsOn, ?_, ?_⟩
  · rw [netReachParseSuccessCondition, hHttpOff]
    exact hpass _ _
  · rw [netReachParseSuccessCondition, hHttpOn]
    exact hfail _ _
  · rw [netdnsParseSuccessCondition, hDnsOff]
    exact hpass _ _
  · rw [netdnsParseSuccessCondition, hDnsOn]
    exact hfail _ _

end KDoctor.PluginManager
