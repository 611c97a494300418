import KDoctor.Lib.Fanout
import KDoctor.PluginManager.SuccessCondition

/-!
What the three plugins' `AgentExecuteTask` (`agentExecuteTask.go`) share once
they have their targets: the load test of one target with its verdict,
`SendRequestAndReport`, and the goroutines that run it for every target and
merge the results into the round's task report.

Each goroutine takes the mutex, writes `test <name>: <reason>` to the round's
failure reason when its target failed, and appends its report to the report
list: a `Fanout.Merge` with `roundMerge`. After the wait group's wait, the task
report (`aggregate`) holds the report list, the number of targets, and the
failure reason, which fails the round when it is not empty.
`roundMerge_schedule` says what every schedule leaves: each target's report
once, a round failure reason that is empty exactly when the targets were all
found and all passed, and otherwise the reason of a failed target or of the
search for targets.

A load test is the network: `httpRequest` gives the metrics of a request.
Go's `float64` division of the counts, NaN for a test that made no request,
is rational division here, where it is zero. The resource figures and the
running load that `AgentExecuteTask` also puts in a task report are left out.
-/

namespace KDoctor.PluginManager

open LoadRequest Fanout Transition

/-! ## The verdict of one target -/

/-- The failure reason `ParseSuccessCondition` returns, `""` for none. -/
def reasonText (formatFloat : ℚ → String) (reason : Option FailureReason) : String :=
  (reason.map (·.text formatFloat)).getD ""

@[simp] theorem reasonText_eq_empty_iff {formatFloat : ℚ → String} {reason : Option FailureReason} :
    reasonText formatFloat reason = "" ↔ reason = none := by
  cases reason with
  | none => simp [reasonText]
  | some r => simpa [reasonText] using text_ne_empty formatFloat r

/-- What the goroutine of a target writes to the round's failure reason:
`test <name>: <reason>` when the target failed. -/
def failureWrite (name failureReason : String) : Option String :=
  if failureReason = "" then none else some ("test " ++ name ++ ": " ++ failureReason)

theorem failureWrite_eq_none_iff {name failureReason : String} :
    failureWrite name failureReason = none ↔ failureReason = "" := by
  unfold failureWrite
  split <;> simp_all

theorem ne_empty_of_failureWrite {name failureReason v : String}
    (h : failureWrite name failureReason = some v) : v ≠ "" := by
  unfold failureWrite at h
  split at h
  · cases h
  · cases h
    simp [String.append_eq_empty_iff]

/-! ## The goroutines of a round -/

/-- `NetReachTask`, `NetDNSTask` and `AppHttpHealthyTask`, with the details
of the kind's targets, without the resource figures. -/
structure TaskReport (δ : Type) where
  targetType : String
  targetNumber : Nat
  failureReason : Option String
  succeed : Bool
  detail : List δ

/-- The task report of a round, from its targets and what the goroutines
left. -/
def aggregate {δ : Type} (targetType : String) (targetNumber : Nat) (finalfailureReason : String)
    (reportList : List δ) : TaskReport δ where
  targetType := targetType
  targetNumber := targetNumber
  detail := reportList
  failureReason := if finalfailureReason.length > 0 then some finalfailureReason else none
  succeed := finalfailureReason.length = 0

@[simp] theorem aggregate_succeed {δ : Type} {targetType : String} {n : Nat} {reason : String}
    {reportList : List δ} :
    (aggregate targetType n reason reportList).succeed = true ↔ reason = "" := by
  simp [aggregate, String.length_eq_zero_iff]

/-- The merge of the goroutine of target `t`, which runs `send t` and gets a
failure reason and a report. -/
def roundMerge {α δ : Type} (name : α → String) (send : α → String × δ) :
    String × List δ → α → String × List δ :=
  logAndWrite fun t => (failureWrite (name t) (send t).1, (send t).2)

section Schedules

variable {α δ : Type} {name : α → String} {send : α → String × δ} {targets : List α}
  {r : String} {p : Pool α (String × List δ)}

/-- **What every schedule of a round's goroutines leaves.** The report list
holds the report of each target once, the failure reason is empty exactly
when it was empty before and no target failed, and otherwise it is the one
before or the reason of a failed target. -/
theorem roundMerge_schedule
    (hrun : Reachable (Merge (roundMerge name send)) ⟨targets, (r, [])⟩ p)
    (hdone : p.pending = []) :
    p.shared.2.Perm (targets.map fun t => (send t).2) ∧
    (p.shared.1 = "" ↔ r = "" ∧ ∀ t ∈ targets, (send t).1 = "") ∧
    (p.shared.1 = r ∨
      ∃ t ∈ targets, (send t).1 ≠ "" ∧ p.shared.1 = "test " ++ name t ++ ": " ++ (send t).1) := by
  obtain ⟨order, hperm, hshared⟩ := merge_done hrun hdone
  rw [roundMerge, foldl_logAndWrite, List.nil_append] at hshared
  rw [hshared]
  refine ⟨hperm.map _, ?_, ?_⟩
  · rw [findSome?_getD_eq_iff (fun _ _ h => ne_empty_of_failureWrite h)]
    simp only [failureWrite_eq_none_iff, hperm.mem_iff]
  · rcases findSome?_getD_cases (fun t => failureWrite (name t) (send t).1) order r with
      ⟨heq, -⟩ | ⟨t, ht, hw⟩
    · exact Or.inl heq
    · unfold failureWrite at hw
      split at hw
      · cases hw
      · exact Or.inr ⟨t, hperm.mem_iff.mp ht, ‹_›, (Option.some.inj hw).symm⟩

end Schedules

/-! ## HTTP load tests -/

/-- `loadHttp.HttpRequestData`. The body is the ConfigMap whose JSON it is,
the CA pool the PEM text it is built from, and the client certificate its
certificate and key; the two flags no plugin sets are left out. -/
structure HttpRequestData where
  method : String
  url : String
  qps : Int
  perRequestTimeoutMS : Int
  requestTimeSecond : Int
  header : GoMap String String
  body : Option (GoMap String String)
  clientCert : Option (String × String)
  caCertPool : Option String
  http2 : Bool
  expectStatusCode : Option Int
  enableLatencyMetric : Bool

/-- `NetReachTaskDetail` and `AppHttpHealthyTaskDetail`, which have the same
fields. -/
structure HttpTaskDetail where
  targetName : String
  targetUrl : String
  targetMethod : String
  succeed : Bool
  meanDelay : ℚ
  succeedRate : ℚ
  failureReason : Option String
  metrics : LoadHttp.HttpMetrics

/-- `SendRequestAndReport` of the plugins that load-test HTTP targets, with
the plugin's `ParseSuccessCondition`. -/
def httpSendRequestAndReport (parse : NetSuccessCondition → LoadHttp.HttpMetrics → Option FailureReason)
    (formatFloat : ℚ → String) (httpRequest : HttpRequestData → LoadHttp.HttpMetrics)
    (targetName : String) (req : HttpRequestData) (successCondition : NetSuccessCondition) :
    String × HttpTaskDetail :=
  let result := httpRequest req
  let failureReason := reasonText formatFloat (parse successCondition result)
  (failureReason,
    { targetName := targetName
      targetUrl := req.url
      targetMethod := req.method
      meanDelay := result.latencies.mean
      succeedRate := (result.successCounts : ℚ) / result.requestCounts
      metrics := result
      failureReason := if failureReason.length = 0 then none else some failureReason
      succeed := failureReason.length = 0 })

/-- `netreach.SendRequestAndReport`. -/
def netReachSendRequestAndReport (formatFloat : ℚ → String)
    (httpRequest : HttpRequestData → LoadHttp.HttpMetrics) (targetName : String)
    (req : HttpRequestData) (successCondition : NetSuccessCondition) : String × HttpTaskDetail :=
  httpSendRequestAndReport netReachParseSuccessCondition formatFloat httpRequest targetName req
    successCondition

/-- `apphttphealthy.SendRequestAndReport`. -/
def appHttpHealthySendRequestAndReport (formatFloat : ℚ → String)
    (httpRequest : HttpRequestData → LoadHttp.HttpMetrics) (targetName : String)
    (req : HttpRequestData) (successCondition : NetSuccessCondition) : String × HttpTaskDetail :=
  httpSendRequestAndReport appHttpHealthyParseSuccessCondition formatFloat httpRequest targetName
    req successCondition

section Http

variable {parse : NetSuccessCondition → LoadHttp.HttpMetrics → Option FailureReason}
  {formatFloat : ℚ → String} {httpRequest : HttpRequestData → LoadHttp.HttpMetrics}
  {targetName : String} {req : HttpRequestData} {successCondition : NetSuccessCondition}

/-- An HTTP target fails exactly when its metrics fail the success condition. -/
theorem httpSendRequestAndReport_fst_eq_empty_iff :
    (httpSendRequestAndReport parse formatFloat httpRequest targetName req successCondition).1 = "" ↔
      parse successCondition (httpRequest req) = none :=
  reasonText_eq_empty_iff

/-- The report of an HTTP target says it succeeded exactly when the target's
failure reason is empty, and then carries no reason. -/
theorem httpSendRequestAndReport_succeed :
    ((httpSendRequestAndReport parse formatFloat httpRequest targetName req successCondition).2.succeed =
        true ↔
      (httpSendRequestAndReport parse formatFloat httpRequest targetName req successCondition).1 = "") ∧
    ((httpSendRequestAndReport parse formatFloat httpRequest targetName req successCondition).2.failureReason =
        none ↔
      (httpSendRequestAndReport parse formatFloat httpRequest targetName req successCondition).1 = "") := by
  simp [httpSendRequestAndReport, String.length_eq_zero_iff]

end Http

end KDoctor.PluginManager
