import KDoctor.PluginManager.ExecuteTask

/-!
A round of an AppHttpHealthy task on an agent
(`apphttphealthy/agentExecuteTask.go`, `AgentExecuteTask`).

The agent load-tests the one host of the task, with the request the target
describes: its method, its TLS material from a secret, its body from a
ConfigMap, and its headers. A secret or a ConfigMap that cannot be read, or a
certificate that does not load, ends the round with an error. Each header is
`name:value`: the loop splits it at its colons and takes the first two
pieces, so a header without a colon makes the agent panic, and a value with a
colon in it is cut there (`parseHeaders_spec`).

What the agent reads from the cluster is a parameter
(`AppHttpHealthyCluster`), and so is the load test (`httpRequest`).
-/

namespace KDoctor.PluginManager

open Crd Go LoadRequest

/-! ## What the agent reads -/

/-- `AppHttpHealthyTarget` as the agent reads it, with the defaults of the CRD
schema. -/
structure AppHttpHealthyTargetSpec where
  host : String
  method : String
  http2 : Bool
  bodyConfigName : Option String
  bodyConfigNamespace : Option String
  tlsSecretName : Option String
  tlsSecretNamespace : Option String
  header : List String
  enableLatencyMetric : Bool
  deriving DecidableEq, Repr

/-- What the agent reads from the cluster: the data of a secret and of a
ConfigMap of a name and a namespace, and whether a certificate and its key
load (`tls.X509KeyPair`). -/
structure AppHttpHealthyCluster where
  getSecret : String → String → Except String (GoMap String String)
  getConfigMap : String → String → Except String (GoMap String String)
  x509KeyPair : String → String → Except String Unit

/-! ## Headers -/

/-- Go's run-time panic for index 1 of a slice of length 1. -/
def indexOutOfRangeOne : String := "runtime error: index out of range [1] with length 1"

/-- One turn of the loop over the target's headers: `strings.Split(v, ":")`,
with the first piece as the name and the second as the value. -/
def setHeader (header : GoMap String String) (v : String) : Except String (GoMap String String) :=
  match split v ':' with
  | k :: value :: _ => .ok (header.set k value)
  | _ => .error indexOutOfRangeOne

/-- The loop over the target's headers. -/
def parseHeaders (header : List String) : Except String (GoMap String String) :=
  header.foldlM setHeader .empty

/-- The name of a header: its text before the first colon. -/
def headerName (v : String) : String := String.ofList (v.toList.takeWhile (· != ':'))

/-- The value of a header: its text after the first colon, up to the next
one. -/
def headerValue (v : String) : String :=
  String.ofList (((v.toList.dropWhile (· != ':')).drop 1).takeWhile (· != ':'))

/-- A header with a colon splits into its name, its value and the rest. -/
theorem split_header {v : String} (h : ':' ∈ v.toList) :
    ∃ rest, split v ':' = headerName v :: headerValue v :: rest := by
  obtain ⟨a, b, hv, ha⟩ := exists_eq_append_sep_first h
  have hall : ∀ c ∈ a, (c != ':') = true := by
    intro c hc
    have hne : c ≠ ':' := fun hc' => ha (hc' ▸ hc)
    simpa using hne
  obtain ⟨piece, pieces, hb⟩ : ∃ piece pieces, splitChars ':' b = piece :: pieces := by
    rcases hs : splitChars ':' b with _ | ⟨piece, pieces⟩
    · exact absurd hs (splitChars_ne_nil ':' b)
    · exact ⟨piece, pieces, rfl⟩
  have hpiece : piece = b.takeWhile (· != ':') := by
    have := head?_splitChars ':' b
    rw [hb, List.head?_cons, Option.some.injEq] at this
    exact this
  refine ⟨pieces.map String.ofList, ?_⟩
  simp only [split, headerName, headerValue, hv, splitChars_sep ha, hb, hpiece,
    List.takeWhile_append_of_pos hall, List.dropWhile_append_of_pos hall, List.map_cons]
  simp

theorem setHeader_of_mem {m : GoMap String String} {v : String} (h : ':' ∈ v.toList) :
    setHeader m v = .ok (m.set (headerName v) (headerValue v)) := by
  obtain ⟨rest, hsplit⟩ := split_header h
  simp [setHeader, hsplit]

theorem setHeader_of_not_mem {m : GoMap String String} {v : String} (h : ':' ∉ v.toList) :
    setHeader m v = .error indexOutOfRangeOne := by
  simp [setHeader, split, splitChars_of_not_mem h]

section Headers

variable {hs : List String} {m : GoMap String String}

/-- The loop from any map: a name gets the value of the last header of that
name, and keeps its entry when no header has it. -/
theorem foldlM_setHeader_get {m₀ : GoMap String String} (h : hs.foldlM setHeader m₀ = .ok m)
    (k : String) :
    m.get k = ((hs.reverse.find? fun v => headerName v = k).map headerValue).or (m₀.get k) := by
  induction hs generalizing m₀ with
  | nil =>
    cases h
    simp
  | cons v hs ih =>
    rw [List.foldlM_cons] at h
    obtain ⟨m₁, h₁, h₂⟩ := Except.bind_eq_ok.mp h
    by_cases hv : ':' ∈ v.toList
    · rw [setHeader_of_mem hv] at h₁
      cases h₁
      rw [ih h₂, GoMap.get_set, List.reverse_cons, List.find?_append]
      by_cases hk : headerName v = k
      · cases hs.reverse.find? (fun v => headerName v = k) <;> simp [hk]
      · simp [hk, Ne.symm hk]
    · rw [setHeader_of_not_mem hv] at h₁
      cases h₁

/-- The loop from any map fails only with the panic of a header without a
colon, and panics exactly when some header has none. -/
theorem foldlM_setHeader_eq_error_iff (m₀ : GoMap String String) (e : String) :
    hs.foldlM setHeader m₀ = .error e ↔ e = indexOutOfRangeOne ∧ ∃ v ∈ hs, ':' ∉ v.toList := by
  induction hs generalizing m₀ with
  | nil => simp [pure, Except.pure]
  | cons v hs ih =>
    rw [List.foldlM_cons]
    by_cases hv : ':' ∈ v.toList
    · simp only [setHeader_of_mem hv, List.mem_cons, exists_eq_or_imp, hv, not_true_eq_false,
        false_or]
      exact ih _
    · simp [setHeader_of_not_mem hv, hv, bind, Except.bind, eq_comm]

/-- **The headers of an AppHttpHealthy request.** The loop over the
target's headers fails only by panicking, and does so exactly when some
header has no colon; otherwise every name gets the value of the last header
of that name, the text after its first colon up to the next one, so a value
with a colon is cut there. -/
theorem parseHeaders_spec (hs : List String) :
    (∀ e, parseHeaders hs = .error e ↔ e = indexOutOfRangeOne ∧ ∃ v ∈ hs, ':' ∉ v.toList) ∧
    ∀ m, parseHeaders hs = .ok m → ∀ k,
      m.get k = (hs.reverse.find? fun v => headerName v = k).map headerValue := by
  refine ⟨foldlM_setHeader_eq_error_iff _, fun m h k => ?_⟩
  simpa [GoMap.get_empty] using foldlM_setHeader_get h k

example : ((parseHeaders ["Host:a", "Referer:http://a", "Host:b"]).toOption.map
    fun m => (m.get "Host", m.get "Referer")) = some (some "b", some "http") := by decide

end Headers

/-! ## The round -/

/-- The task report before the load test: its kind and its one target. -/
def appHttpHealthyTask₀ : TaskReport HttpTaskDetail := ⟨"HttpAppHealthy", 1, none, false, []⟩

/-- The request of the load test before the lookups. -/
def appHttpHealthyRequestData (target : AppHttpHealthyTargetSpec) (request : Request)
    (statusCode : Option Int) : HttpRequestData where
  method := target.method
  url := target.host
  qps := request.qps
  perRequestTimeoutMS := request.perRequestTimeoutInMS
  requestTimeSecond := request.durationInSecond
  header := .empty
  body := none
  clientCert := none
  caCertPool := none
  http2 := target.http2
  expectStatusCode := statusCode
  enableLatencyMetric := target.enableLatencyMetric

/-- The TLS material of the request, from the target's secret: the CA pool
when the secret has `ca.crt`, and the client certificate when it has both
`tls.crt` and `tls.key` and they load. -/
def tlsMaterial (cluster : AppHttpHealthyCluster) (name ns : String) :
    Except String (Option String × Option (String × String)) :=
  match cluster.getSecret name ns with
  | .error err => .error ("failed get [" ++ ns ++ "/" ++ name ++ "] secret err : " ++ err)
  | .ok tlsData =>
    match tlsData.get "tls.crt", tlsData.get "tls.key" with
    | some crt, some key =>
      match cluster.x509KeyPair crt key with
      | .error err => .error ("failed to load certificate and key: " ++ err)
      | .ok () => .ok (tlsData.get "ca.crt", some (crt, key))
    | _, _ => .ok (tlsData.get "ca.crt", none)

/-- The block of the TLS secret. The outer error is a panic, the inner one an
error that ends the round. -/
def withTls (cluster : AppHttpHealthyCluster) (target : AppHttpHealthyTargetSpec)
    (d : HttpRequestData) : Except String (Except String HttpRequestData) :=
  match target.tlsSecretName, target.tlsSecretNamespace with
  | none, _ => .ok (.ok d)
  | some _, none => .error nilDereference
  | some name, some ns =>
    .ok ((tlsMaterial cluster name ns).map fun m => { d with caCertPool := m.1, clientCert := m.2 })

/-- The block of the body ConfigMap, with the errors of `withTls`. The JSON
encoding of the ConfigMap's data cannot fail, so its error branch is left out. -/
def withBody (cluster : AppHttpHealthyCluster) (target : AppHttpHealthyTargetSpec)
    (d : HttpRequestData) : Except String (Except String HttpRequestData) :=
  match target.bodyConfigName, target.bodyConfigNamespace with
  | none, _ => .ok (.ok d)
  | some _, none => .error nilDereference
  | some name, some ns =>
    match cluster.getConfigMap name ns with
    | .error err => .ok (.error ("failed get [" ++ ns ++ "/" ++ name ++ "] configmap err : " ++ err))
    | .ok data => .ok (.ok { d with body := some data })

/-- The block of the headers, which panics on a header without a colon. -/
def withHeaders (target : AppHttpHealthyTargetSpec) (d : HttpRequestData) :
    Except String HttpRequestData :=
  if target.header.length ≠ 0 then
    (parseHeaders target.header).map fun header => { d with header := header }
  else .ok d

/-- The load test of the one target and the round's task report. -/
def appHttpHealthyReport (formatFloat : ℚ → String)
    (httpRequest : HttpRequestData → LoadHttp.HttpMetrics) (successCondition : NetSuccessCondition)
    (d : HttpRequestData) : String × TaskReport HttpTaskDetail × Option String :=
  let result := appHttpHealthySendRequestAndReport formatFloat httpRequest "HttpAppHealthy target" d
    successCondition
  let finalfailureReason :=
    if result.1.length > 0 then "test HttpAppHealthy target: " ++ result.1 else ""
  (finalfailureReason, aggregate "HttpAppHealthy" 1 finalfailureReason [result.2], none)

/-- `AgentExecuteTask` of AppHttpHealthy: the round's failure reason, the
task report and the error, or a run-time panic. -/
def appHttpHealthyAgentExecuteTask (formatFloat : ℚ → String)
    (httpRequest : HttpRequestData → LoadHttp.HttpMetrics) (cluster : AppHttpHealthyCluster)
    (target : AppHttpHealthyTargetSpec) (request : Request) (successCondition : NetSuccessCondition)
    (statusCode : Option Int) : Except String (String × TaskReport HttpTaskDetail × Option String) :=
  -- a lookup that fails ends the round with its error and the task as it was
  match withTls cluster target (appHttpHealthyRequestData target request statusCode) with
  | .error panic => .error panic
  | .ok (.error err) => .ok ("", appHttpHealthyTask₀, some err)
  | .ok (.ok d) =>
    match withBody cluster target d with
    | .error panic => .error panic
    | .ok (.error err) => .ok ("", appHttpHealthyTask₀, some err)
    | .ok (.ok d) => (withHeaders target d).map (appHttpHealthyReport formatFloat httpRequest successCondition)

/-! ## What a round does -/

/-- The request the round builds for its load test: the target's and the
task's settings, the TLS material of the secret and the body of the ConfigMap
the target names, and the target's headers. -/
structure AppHttpHealthyRequest (cluster : AppHttpHealthyCluster) (target : AppHttpHealthyTargetSpec)
    (request : Request) (statusCode : Option Int) (d : HttpRequestData) : Prop where
  settings : { d with caCertPool := none, clientCert := none, body := none, header := .empty } =
    appHttpHealthyRequestData target request statusCode
  tls_none : target.tlsSecretName = none → d.caCertPool = none ∧ d.clientCert = none
  tls_some : ∀ name, target.tlsSecretName = some name → ∃ ns, target.tlsSecretNamespace = some ns ∧
    tlsMaterial cluster name ns = .ok (d.caCertPool, d.clientCert)
  body_none : target.bodyConfigName = none → d.body = none
  body_some : ∀ name, target.bodyConfigName = some name → ∃ ns data,
    target.bodyConfigNamespace = some ns ∧ cluster.getConfigMap name ns = .ok data ∧ d.body = some data
  header : ∀ k, d.header.get k = (target.header.reverse.find? fun v => headerName v = k).map headerValue

section Round

variable {formatFloat : ℚ → String} {httpRequest : HttpRequestData → LoadHttp.HttpMetrics}
  {cluster : AppHttpHealthyCluster} {target : AppHttpHealthyTargetSpec} {d d' : HttpRequestData}
  {successCondition : NetSuccessCondition}

/-- The TLS block sets the TLS material and nothing else. -/
theorem withTls_eq_ok (h : withTls cluster target d = .ok (.ok d')) :
    ∃ ca cert, d' = { d with caCertPool := ca, clientCert := cert } ∧
      (target.tlsSecretName = none → ca = d.caCertPool ∧ cert = d.clientCert) ∧
      ∀ name, target.tlsSecretName = some name → ∃ ns, target.tlsSecretNamespace = some ns ∧
        tlsMaterial cluster name ns = .ok (ca, cert) := by
  unfold withTls at h
  split at h
  · cases h
    exact ⟨d.caCertPool, d.clientCert, rfl, fun _ => ⟨rfl, rfl⟩, by simp_all⟩
  · cases h
  · rename_i name ns hname hns
    obtain ⟨⟨ca, cert⟩, hm, rfl⟩ := Except.map_eq_ok.mp (Except.ok.inj h)
    exact ⟨ca, cert, rfl, by simp [hname], by simp [hname, hns, hm]⟩

/-- The TLS block panics only on a secret named without its namespace. -/
theorem withTls_eq_error {p : String} (h : withTls cluster target d = .error p) :
    p = nilDereference ∧ ∃ name, target.tlsSecretName = some name ∧ target.tlsSecretNamespace = none := by
  unfold withTls at h
  split at h
  · cases h
  · rename_i name hname hns
    cases h
    exact ⟨rfl, name, hname, hns⟩
  · cases h

/-- The TLS block stops the round with the error of the secret's lookup or of
its certificate. -/
theorem withTls_eq_stop {err : String} (h : withTls cluster target d = .ok (.error err)) :
    ∃ name ns, target.tlsSecretName = some name ∧ target.tlsSecretNamespace = some ns ∧
      tlsMaterial cluster name ns = .error err := by
  unfold withTls at h
  split at h
  · cases h
  · cases h
  · rename_i name ns hname hns
    exact ⟨name, ns, hname, hns, Except.map_eq_error.mp (Except.ok.inj h)⟩

/-- The body block sets the body and nothing else. -/
theorem withBody_eq_ok (h : withBody cluster target d = .ok (.ok d')) :
    ∃ body, d' = { d with body := body } ∧ (target.bodyConfigName = none → body = d.body) ∧
      ∀ name, target.bodyConfigName = some name → ∃ ns data, target.bodyConfigNamespace = some ns ∧
        cluster.getConfigMap name ns = .ok data ∧ body = some data := by
  unfold withBody at h
  split at h
  · cases h
    exact ⟨d.body, rfl, fun _ => rfl, by simp_all⟩
  · cases h
  · rename_i name ns hname hns
    split at h
    · cases h
    · rename_i data hdata
      cases h
      exact ⟨some data, rfl, by simp [hname], by simp [hname, hns, hdata]⟩

/-- The body block panics only on a ConfigMap named without its namespace. -/
theorem withBody_eq_error {p : String} (h : withBody cluster target d = .error p) :
    p = nilDereference ∧ ∃ name, target.bodyConfigName = some name ∧ target.bodyConfigNamespace = none := by
  unfold withBody at h
  split at h
  · cases h
  · rename_i name hname hns
    cases h
    exact ⟨rfl, name, hname, hns⟩
  · split at h <;> cases h

/-- The body block stops the round with the error of the ConfigMap's lookup. -/
theorem withBody_eq_stop {err : String} (h : withBody cluster target d = .ok (.error err)) :
    ∃ name ns e, target.bodyConfigName = some name ∧ target.bodyConfigNamespace = some ns ∧
      cluster.getConfigMap name ns = .error e ∧
      err = "failed get [" ++ ns ++ "/" ++ name ++ "] configmap err : " ++ e := by
  unfold withBody at h
  split at h
  · cases h
  · cases h
  · rename_i name ns hname hns
    split at h
    · rename_i e he
      cases h
      exact ⟨name, ns, e, hname, hns, he, rfl⟩
    · cases h

/-- The header block sets the headers and nothing else: a new map with each
name at the value of its last header, when the target has headers. -/
theorem withHeaders_eq_ok (h : withHeaders target d = .ok d') :
    ∃ header : GoMap String String, d' = { d with header := header } ∧
      (target.header = [] → header = d.header) ∧
      (target.header ≠ [] → ∀ k,
        header.get k = (target.header.reverse.find? fun v => headerName v = k).map headerValue) := by
  unfold withHeaders at h
  split at h
  · rename_i hlen
    obtain ⟨header, hheader, rfl⟩ := Except.map_eq_ok.mp h
    refine ⟨header, rfl, fun hnil => absurd (by simp [hnil]) hlen, fun _ k => ?_⟩
    simpa [GoMap.get_empty] using foldlM_setHeader_get hheader k
  · rename_i hlen
    cases h
    exact ⟨d.header, rfl, fun _ => rfl, fun hne => absurd (List.eq_nil_of_length_eq_zero (not_not.mp hlen)) hne⟩

theorem withHeaders_eq_error {e : String} (h : withHeaders target d = .error e) :
    e = indexOutOfRangeOne ∧ ∃ v ∈ target.header, ':' ∉ v.toList := by
  unfold withHeaders at h
  split at h
  · exact (foldlM_setHeader_eq_error_iff _ e).mp (Except.map_eq_error.mp h)
  · cases h

/-- The report of the load test: one detail, the target's, and a verdict that
is the success condition's on the target's metrics. -/
theorem appHttpHealthyReport_spec {reason : String} {task : TaskReport HttpTaskDetail}
    {err : Option String}
    (h : appHttpHealthyReport formatFloat httpRequest successCondition d = (reason, task, err)) :
    err = none ∧ task.targetType = "HttpAppHealthy" ∧ task.targetNumber = 1 ∧
      task.detail =
        [(appHttpHealthySendRequestAndReport formatFloat httpRequest "HttpAppHealthy target" d
          successCondition).2] ∧
      (task.succeed = true ↔ reason = "") ∧
      (reason = "" ↔ appHttpHealthyParseSuccessCondition successCondition (httpRequest d) = none) := by
  simp only [appHttpHealthyReport, Prod.mk.injEq] at h
  obtain ⟨rfl, rfl, rfl⟩ := h
  have hfirst : (appHttpHealthySendRequestAndReport formatFloat httpRequest "HttpAppHealthy target" d
      successCondition).1 = "" ↔
      appHttpHealthyParseSuccessCondition successCondition (httpRequest d) = none :=
    httpSendRequestAndReport_fst_eq_empty_iff
  refine ⟨rfl, rfl, rfl, rfl, aggregate_succeed, ?_⟩
  rw [← hfirst]
  generalize (appHttpHealthySendRequestAndReport formatFloat httpRequest "HttpAppHealthy target" d
    successCondition).1 = r
  split_ifs with hlen
  · have hne : r ≠ "" := by
      rintro rfl
      simp at hlen
    simp [String.append_eq_empty_iff, hne]
  · simpa [String.length_eq_zero_iff] using hlen

/-- The ways an AppHttpHealthy round ends. -/
inductive AppHttpHealthyOutcome (formatFloat : ℚ → String)
    (httpRequest : HttpRequestData → LoadHttp.HttpMetrics) (cluster : AppHttpHealthyCluster)
    (target : AppHttpHealthyTargetSpec) (request : Request) (successCondition : NetSuccessCondition)
    (statusCode : Option Int) : Except String (String × TaskReport HttpTaskDetail × Option String) → Prop
  /-- A secret or a ConfigMap named without its namespace: a nil dereference. -/
  | nilNamespace
      (h : (∃ name, target.tlsSecretName = some name ∧ target.tlsSecretNamespace = none) ∨
        ∃ name, target.bodyConfigName = some name ∧ target.bodyConfigNamespace = none) :
      AppHttpHealthyOutcome formatFloat httpRequest cluster target request successCondition statusCode
        (.error nilDereference)
  /-- A header without a colon: an index out of range. -/
  | headerWithoutColon (h : ∃ v ∈ target.header, ':' ∉ v.toList) :
      AppHttpHealthyOutcome formatFloat httpRequest cluster target request successCondition statusCode
        (.error indexOutOfRangeOne)
  /-- A lookup that failed: the error, before any load test. -/
  | lookupFailed (err : String)
      (h : (∃ name ns, target.tlsSecretName = some name ∧ target.tlsSecretNamespace = some ns ∧
          tlsMaterial cluster name ns = .error err) ∨
        ∃ name ns e, target.bodyConfigName = some name ∧ target.bodyConfigNamespace = some ns ∧
          cluster.getConfigMap name ns = .error e ∧
          err = "failed get [" ++ ns ++ "/" ++ name ++ "] configmap err : " ++ e) :
      AppHttpHealthyOutcome formatFloat httpRequest cluster target request successCondition statusCode
        (.ok ("", appHttpHealthyTask₀, some err))
  /-- The load test of the request the target describes, and its verdict. -/
  | tested (d : HttpRequestData) (reason : String) (task : TaskReport HttpTaskDetail)
      (hd : AppHttpHealthyRequest cluster target request statusCode d)
      (hcount : task.targetType = "HttpAppHealthy" ∧ task.targetNumber = 1)
      (hdetail : task.detail =
        [(appHttpHealthySendRequestAndReport formatFloat httpRequest "HttpAppHealthy target" d
          successCondition).2])
      (hsucceed : task.succeed = true ↔ reason = "")
      (hreason : reason = "" ↔
        appHttpHealthyParseSuccessCondition successCondition (httpRequest d) = none) :
      AppHttpHealthyOutcome formatFloat httpRequest cluster target request successCondition statusCode
        (.ok (reason, task, none))

/-- The request after the three blocks is the one the target describes. -/
theorem appHttpHealthyRequest_of_blocks {request : Request} {statusCode : Option Int}
    {ca : Option String} {cert : Option (String × String)} {body : Option (GoMap String String)}
    {header : GoMap String String}
    (htls_none : target.tlsSecretName = none → ca = none ∧ cert = none)
    (htls_some : ∀ name, target.tlsSecretName = some name → ∃ ns, target.tlsSecretNamespace = some ns ∧
      tlsMaterial cluster name ns = .ok (ca, cert))
    (hbody_none : target.bodyConfigName = none → body = none)
    (hbody_some : ∀ name, target.bodyConfigName = some name → ∃ ns data,
      target.bodyConfigNamespace = some ns ∧ cluster.getConfigMap name ns = .ok data ∧ body = some data)
    (hheader_nil : target.header = [] → header = .empty)
    (hheader : target.header ≠ [] → ∀ k,
      header.get k = (target.header.reverse.find? fun v => headerName v = k).map headerValue) :
    AppHttpHealthyRequest cluster target request statusCode
      { appHttpHealthyRequestData target request statusCode with
        caCertPool := ca, clientCert := cert, body := body, header := header } where
  settings := rfl
  tls_none := htls_none
  tls_some := htls_some
  body_none := hbody_none
  body_some := hbody_some
  header k := by
    by_cases hnil : target.header = []
    · simp [hheader_nil hnil, hnil, GoMap.get_empty]
    · exact hheader hnil k

/-- A load test of the request the target describes ends the round with the
verdict of the test. -/
theorem tested_of_request {request : Request} {statusCode : Option Int}
    (hd : AppHttpHealthyRequest cluster target request statusCode d) :
    AppHttpHealthyOutcome formatFloat httpRequest cluster target request successCondition statusCode
      (.ok (appHttpHealthyReport formatFloat httpRequest successCondition d)) := by
  rcases hreport : appHttpHealthyReport formatFloat httpRequest successCondition d with
    ⟨reason, task, err⟩
  obtain ⟨rfl, htype, hnumber, hdetail, hsucceed, hreason⟩ := appHttpHealthyReport_spec hreport
  exact .tested d reason task hd ⟨htype, hnumber⟩ hdetail hsucceed hreason

/-- **An AppHttpHealthy round, every way it ends.** The agent panics only on
a secret or ConfigMap named without its namespace, or on a header without a
colon; a lookup that fails ends the round with its error before any load
test, with no detail and no verdict; otherwise the load test gets the request
the target describes (its TLS material, body and headers included), and the
round's verdict is the success condition's on the target's metrics. -/
theorem appHttpHealthy_round (formatFloat : ℚ → String)
    (httpRequest : HttpRequestData → LoadHttp.HttpMetrics) (cluster : AppHttpHealthyCluster)
    (target : AppHttpHealthyTargetSpec) (request : Request) (successCondition : NetSuccessCondition)
    (statusCode : Option Int) :
    AppHttpHealthyOutcome formatFloat httpRequest cluster target request successCondition statusCode
      (appHttpHealthyAgentExecuteTask formatFloat httpRequest cluster target request successCondition
        statusCode) := by
  unfold appHttpHealthyAgentExecuteTask
  split
  · rename_i p htls
    obtain ⟨rfl, hname⟩ := withTls_eq_error htls
    exact .nilNamespace (.inl hname)
  · rename_i err htls
    exact .lookupFailed err (.inl (withTls_eq_stop htls))
  · rename_i d₁ htls
    obtain ⟨ca, cert, rfl, htls_none, htls_some⟩ := withTls_eq_ok htls
    split
    · rename_i p hbody
      obtain ⟨rfl, hname⟩ := withBody_eq_error hbody
      exact .nilNamespace (.inr hname)
    · rename_i err hbody
      exact .lookupFailed err (.inr (withBody_eq_stop hbody))
    · rename_i d₂ hbody
      obtain ⟨body, rfl, hbody_none, hbody_some⟩ := withBody_eq_ok hbody
      cases hheaders : withHeaders target _ with
      | error p =>
        obtain ⟨rfl, hbad⟩ := withHeaders_eq_error hheaders
        exact .headerWithoutColon hbad
      | ok d₃ =>
        obtain ⟨header, rfl, hheader_nil, hheader⟩ := withHeaders_eq_ok hheaders
        -- each block set its field of the request and left the others as they were
        exact tested_of_request (appHttpHealthyRequest_of_blocks htls_none htls_some hbody_none
          hbody_some hheader_nil hheader)

end Round

end KDoctor.PluginManager
