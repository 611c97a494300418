import KDoctor.PluginManager.ExecuteTask

/-!
A round of a NetReach task on an agent (`netreach/agentExecuteTask.go`,
`AgentExecuteTask` with `getTargetPodIP`).

The agent load-tests the agents themselves: every address of every agent pod
(`Endpoint`), and the cluster IP, the node port on its own node and the load
balancer of the agents' IPv4 and IPv6 services, and the agents' ingress, each
for the families the target asks for. A case the target asks for whose
address is not found sets the round's failure reason to a message of its own,
which a later one overwrites. Then one goroutine for each target runs its
load test (`ExecuteTask`).

`netReachSearch_reason_eq_empty_iff` says when the search leaves no failure
reason, and `netReach_round` puts the search and the goroutines together:
under every schedule the report holds each target's result once, and the
round succeeds exactly when every case the target asks for found its address
and every target met the success condition.

What the agent reads from the cluster is a parameter (`NetReachCluster`); a
lookup that fails gives what the Go call returns then, `nil` or empty
strings. The map of pod addresses is visited in the order an `Iteration`
gives. The CRD schema gives every flag of `NetReachTarget` a default, so the
agent reads them as `Bool`s, and the mutating webhook gives every task a
request and a success condition.
-/

namespace KDoctor.PluginManager

open Crd Go LoadRequest Fanout Transition

/-! ## What the agent reads -/

/-- `NetReachTarget` as the agent reads it, with the defaults of the CRD
schema filled in. -/
structure NetReachTargetFlags where
  iPv4 : Bool
  iPv6 : Bool
  endpoint : Bool
  multusInterface : Bool
  clusterIP : Bool
  nodePort : Bool
  loadBalancer : Bool
  ingress : Bool
  enableLatencyMetric : Bool
  deriving DecidableEq, Repr

/-- `k8sObjManager.IPs`: the addresses of a pod on one interface. -/
structure IPs where
  interfaceName : String
  iPv4 : String
  iPv6 : String
  deriving DecidableEq, Repr

/-- `k8sObjManager.ServiceAccessUrl`. -/
structure ServiceAccessUrl where
  nodePort : Int
  clusterIPUrl : List String
  loadBalancerUrl : List String
  deriving DecidableEq, Repr

/-- The fields of an `Ingress` that the agent reads: the IPs of its load
balancer, whether it has TLS, and the paths of each rule's HTTP part (`none`
for a rule without one). -/
structure Ingress where
  loadBalancerIPs : List String
  tls : Bool
  rules : List (Option (List String))
  deriving DecidableEq, Repr

/-- What the agent reads from the cluster: the pod addresses of a runtime of
a kind and a name, with its multus interfaces or not; `GetServiceAccessUrl`
of a service, `nil` when it fails; `GetNodeIP` of a node, two empty strings
when it fails; and `GetIngress`, `nil` when it fails. -/
structure NetReachCluster where
  listPodIPs : String → String → Bool → Except String (GoMap String (List IPs))
  serviceAccessUrl : String → Option ServiceAccessUrl
  nodeIP : String → String × String
  ingress : String → Option Ingress

/-- The fields of `AgentConfig` that a NetReach round reads. -/
structure NetReachAgentConfig where
  appHttpPort : Int
  enableIPv4 : Bool
  enableIPv6 : Bool
  serviceV4Name : String
  serviceV6Name : String
  localNodeName : String
  defaultAgent : Bool
  agentIngressName : String
  deriving DecidableEq, Repr

/-- `TestTarget`. -/
structure TestTarget where
  name : String
  url : String
  method : String
  deriving DecidableEq, Repr

/-- `getTargetPodIP`: the pod addresses of the task's runtime. -/
def getTargetPodIP (listPodIPs : String → String → Bool → Except String (GoMap String (List IPs)))
    (runtimeName runtimeKind : String) (multus : Bool) : Except String (GoMap String (List IPs)) :=
  if runtimeKind = "DaemonSet" ∨ runtimeKind = "Deployment" then listPodIPs runtimeKind runtimeName multus
  else .error ("runtime kind " ++ runtimeKind ++ " not support ")

/-- The agents' service of a family, when the family is enabled. -/
def agentUrl (enabled : Bool) (serviceAccessUrl : String → Option ServiceAccessUrl)
    (serviceName : String) : Option ServiceAccessUrl :=
  if enabled then serviceAccessUrl serviceName else none

/-- The ingress the agent tests: the configured one for the default agent, and
else the one named after the task's IPv4 service. -/
def ingressName (cfg : NetReachAgentConfig) (serviceNameV4 : String) : String :=
  if cfg.defaultAgent then cfg.agentIngressName else serviceNameV4

/-! ## The search for targets -/

/-- The targets found so far and the round's failure reason. -/
structure Search where
  testTargetList : List TestTarget
  finalfailureReason : String
  deriving DecidableEq, Repr

/-- One case of the search: when the target asks for it, its test target if
its address was found, and else its message as the round's failure reason. -/
def Search.addCase (s : Search) (asked : Bool) (found : Option TestTarget) (msg : String) : Search :=
  if asked then
    match found with
    | some t => { s with testTargetList := s.testTargetList ++ [t] }
    | none => { s with finalfailureReason := msg }
  else s

/-- The targets of the agent pods' addresses, in the order of the loops. -/
def podTargets (appHttpPort : Int) (iPv4 iPv6 : Bool) (podIPs : List (String × List IPs)) :
    List TestTarget :=
  podIPs.flatMap fun e => e.2.flatMap fun podips =>
    (if podips.iPv4.length > 0 ∧ iPv4 then
      [⟨"AgentPodV4IP_" ++ e.1 ++ "_" ++ podips.iPv4,
        "http://" ++ podips.iPv4 ++ ":" ++ toString appHttpPort, "GET"⟩] else []) ++
    (if podips.iPv6.length > 0 ∧ iPv6 then
      [⟨"AgentPodV6IP_" ++ e.1 ++ "_" ++ podips.iPv6,
        "http://[" ++ podips.iPv6 ++ "]:" ++ toString appHttpPort, "GET"⟩] else [])

/-- The target of the first of a service's URLs, which hold the port: its
cluster IPs or its load balancer's. -/
def firstUrlTarget (namePrefix : String) (urls : Option (List String)) : Option TestTarget :=
  urls.bind fun us => us.head?.map fun u => ⟨namePrefix ++ u, "http://" ++ u, "GET"⟩

/-- The target of a service's node port on the agent's node, when both are
known; an IPv6 address goes between brackets. -/
def nodePortTarget (namePrefix : String) (bracket : Bool) (url : Option ServiceAccessUrl)
    (nodeIP : String) : Option TestTarget :=
  url.bind fun u =>
    if u.nodePort ≠ 0 ∧ nodeIP.length ≠ 0 then
      some ⟨namePrefix ++ nodeIP ++ "_" ++ toString u.nodePort,
        "http://" ++ (if bracket then "[" ++ nodeIP ++ "]" else nodeIP) ++ ":" ++ toString u.nodePort,
        "GET"⟩
    else none

/-- `Spec.Rules[0].HTTP.Paths[0].Path`, with Go's run-time panics. -/
def firstPath : List (Option (List String)) → Except String String
  | [] => .error indexOutOfRange
  | none :: _ => .error nilDereference
  | some [] :: _ => .error indexOutOfRange
  | some (path :: _) :: _ => .ok path

/-- The target of the ingress, when it has a load balancer. -/
def ingressTarget : Option Ingress → Except String (Option TestTarget)
  | some i =>
    match i.loadBalancerIPs with
    | ip :: _ => do
      let path ← firstPath i.rules
      let url := (if i.tls then "https" else "http") ++ "://" ++ ip ++ path
      pure (some ⟨"AgentIngress_v4_" ++ url, url, "GET"⟩)
    | [] => pure none
  | none => pure none

/-- The agent pods' addresses, when the target asks for them. -/
def endpointStep (cfg : NetReachAgentConfig) (cluster : NetReachCluster)
    (it : Iteration (String × List IPs)) (target : NetReachTargetFlags)
    (resource : Option TaskResource) (s : Search) : Except String Search :=
  if target.endpoint then
    match resource with
    | none => .error nilDereference
    | some res =>
      match getTargetPodIP cluster.listPodIPs res.runtimeName res.runtimeType target.multusInterface with
      | .error e => .ok { s with finalfailureReason := "failed to ListDaemonsetPodMultusIPs, error=" ++ e }
      | .ok podIPs =>
        .ok { s with
          testTargetList :=
            s.testTargetList ++ podTargets cfg.appHttpPort target.iPv4 target.iPv6 (it.order podIPs.entries) }
  else .ok s

/-- The cluster IPs, when the target asks for them. -/
def clusterIPStep (target : NetReachTargetFlags) (agentV4Url agentV6Url : Option ServiceAccessUrl)
    (s : Search) : Search :=
  if target.clusterIP then
    (s.addCase target.iPv4 (firstUrlTarget "AgentClusterV4IP_" (agentV4Url.map (·.clusterIPUrl)))
      "failed to get cluster IPv4 IP").addCase target.iPv6
      (firstUrlTarget "AgentClusterV6IP_" (agentV6Url.map (·.clusterIPUrl))) "failed to get cluster IPv6 IP"
  else s

/-- The node ports on the agent's node, when the target asks for them. -/
def nodePortStep (target : NetReachTargetFlags) (agentV4Url agentV6Url : Option ServiceAccessUrl)
    (localNodeIp : String × String) (s : Search) : Search :=
  if target.nodePort then
    (s.addCase target.iPv4 (nodePortTarget "AgentNodePortV4IP_" false agentV4Url localNodeIp.1)
      "failed to get nodePort IPv4 address").addCase target.iPv6
      (nodePortTarget "AgentNodePortV6IP_" true agentV6Url localNodeIp.2) "failed to get nodePort IPv6 address"
  else s

/-- The load balancers, when the target asks for them. -/
def loadBalancerStep (target : NetReachTargetFlags) (agentV4Url agentV6Url : Option ServiceAccessUrl)
    (s : Search) : Search :=
  if target.loadBalancer then
    (s.addCase target.iPv4 (firstUrlTarget "AgentLoadbalancerV4IP_" (agentV4Url.map (·.loadBalancerUrl)))
      "failed to get loadbalancer IPv4 address").addCase target.iPv6
      (firstUrlTarget "AgentLoadbalancerV6IP_" (agentV6Url.map (·.loadBalancerUrl)))
      "failed to get loadbalancer IPv6 address"
  else s

/-- The ingress, when the target asks for it and the task has an IPv4 service. -/
def ingressStep (cfg : NetReachAgentConfig) (cluster : NetReachCluster) (target : NetReachTargetFlags)
    (resource : Option TaskResource) (s : Search) : Except String Search :=
  if target.ingress then
    match resource with
    | none => .error nilDereference
    | some res =>
      match res.serviceNameV4 with
      | none => .ok s
      | some serviceNameV4 => do
        let found ← ingressTarget (cluster.ingress (ingressName cfg serviceNameV4))
        pure (s.addCase true found "failed to get agent v4 ingress address")
  else .ok s

/-- The part of `AgentExecuteTask` before the goroutines: the targets and the
round's failure reason so far, or a run-time panic. -/
def netReachSearch (cfg : NetReachAgentConfig) (cluster : NetReachCluster)
    (it : Iteration (String × List IPs)) (target : NetReachTargetFlags)
    (resource : Option TaskResource) : Except String Search := do
  let s ← endpointStep cfg cluster it target resource ⟨[], ""⟩
  let agentV4Url := agentUrl cfg.enableIPv4 cluster.serviceAccessUrl cfg.serviceV4Name
  let agentV6Url := agentUrl cfg.enableIPv6 cluster.serviceAccessUrl cfg.serviceV6Name
  let s := clusterIPStep target agentV4Url agentV6Url s
  let s := nodePortStep target agentV4Url agentV6Url (cluster.nodeIP cfg.localNodeName) s
  let s := loadBalancerStep target agentV4Url agentV6Url s
  ingressStep cfg cluster target resource s

/-! ## When the search leaves no failure reason -/

section Reason

variable {s s' : Search}

theorem Search.addCase_reason_eq_empty_iff {asked : Bool} {found : Option TestTarget} {msg : String}
    (hmsg : msg ≠ "") :
    (s.addCase asked found msg).finalfailureReason = "" ↔
      s.finalfailureReason = "" ∧ (asked = true → found.isSome) := by
  unfold Search.addCase
  cases asked <;> cases found <;> simp [hmsg]

theorem firstUrlTarget_isSome {namePrefix : String} {url : Option ServiceAccessUrl}
    {f : ServiceAccessUrl → List String} :
    (firstUrlTarget namePrefix (url.map f)).isSome ↔ ∃ u ∈ url, f u ≠ [] := by
  cases url with
  | none => simp [firstUrlTarget]
  | some u => cases h : f u <;> simp [firstUrlTarget, h]

theorem nodePortTarget_isSome {namePrefix : String} {bracket : Bool} {url : Option ServiceAccessUrl}
    {nodeIP : String} :
    (nodePortTarget namePrefix bracket url nodeIP).isSome ↔ ∃ u ∈ url, u.nodePort ≠ 0 ∧ nodeIP ≠ "" := by
  cases url with
  | none => simp [nodePortTarget]
  | some u =>
    by_cases h : u.nodePort ≠ 0 ∧ nodeIP ≠ ""
    · simp [nodePortTarget, h, String.length_eq_zero_iff]
    · simp only [not_and_or, not_not] at h
      rcases h with h | h <;> simp [nodePortTarget, h, String.length_eq_zero_iff]

variable {target : NetReachTargetFlags} {agentV4Url agentV6Url : Option ServiceAccessUrl}

theorem clusterIPStep_reason_eq_empty_iff :
    (clusterIPStep target agentV4Url agentV6Url s).finalfailureReason = "" ↔
      s.finalfailureReason = "" ∧
      (target.clusterIP = true → target.iPv4 = true → ∃ u ∈ agentV4Url, u.clusterIPUrl ≠ []) ∧
      (target.clusterIP = true → target.iPv6 = true → ∃ u ∈ agentV6Url, u.clusterIPUrl ≠ []) := by
  unfold clusterIPStep
  cases target.clusterIP
  · simp
  · simp only [if_true, Search.addCase_reason_eq_empty_iff (by decide : "failed to get cluster IPv6 IP" ≠ ""),
      Search.addCase_reason_eq_empty_iff (by decide : "failed to get cluster IPv4 IP" ≠ ""),
      firstUrlTarget_isSome, forall_const, and_assoc]

theorem nodePortStep_reason_eq_empty_iff {localNodeIp : String × String} :
    (nodePortStep target agentV4Url agentV6Url localNodeIp s).finalfailureReason = "" ↔
      s.finalfailureReason = "" ∧
      (target.nodePort = true → target.iPv4 = true →
        ∃ u ∈ agentV4Url, u.nodePort ≠ 0 ∧ localNodeIp.1 ≠ "") ∧
      (target.nodePort = true → target.iPv6 = true →
        ∃ u ∈ agentV6Url, u.nodePort ≠ 0 ∧ localNodeIp.2 ≠ "") := by
  unfold nodePortStep
  cases target.nodePort
  · simp
  · simp only [if_true,
      Search.addCase_reason_eq_empty_iff (by decide : "failed to get nodePort IPv6 address" ≠ ""),
      Search.addCase_reason_eq_empty_iff (by decide : "failed to get nodePort IPv4 address" ≠ ""),
      nodePortTarget_isSome, forall_const, and_assoc]

theorem loadBalancerStep_reason_eq_empty_iff :
    (loadBalancerStep target agentV4Url agentV6Url s).finalfailureReason = "" ↔
      s.finalfailureReason = "" ∧
      (target.loadBalancer = true → target.iPv4 = true → ∃ u ∈ agentV4Url, u.loadBalancerUrl ≠ []) ∧
      (target.loadBalancer = true → target.iPv6 = true → ∃ u ∈ agentV6Url, u.loadBalancerUrl ≠ []) := by
  unfold loadBalancerStep
  cases target.loadBalancer
  · simp
  · simp only [if_true,
      Search.addCase_reason_eq_empty_iff (by decide : "failed to get loadbalancer IPv6 address" ≠ ""),
      Search.addCase_reason_eq_empty_iff (by decide : "failed to get loadbalancer IPv4 address" ≠ ""),
      firstUrlTarget_isSome, forall_const, and_assoc]

variable {cfg : NetReachAgentConfig} {cluster : NetReachCluster} {it : Iteration (String × List IPs)}
  {resource : Option TaskResource}

theorem endpointStep_reason_eq_empty_iff (h : endpointStep cfg cluster it target resource s = .ok s') :
    s'.finalfailureReason = "" ↔
      s.finalfailureReason = "" ∧
      (target.endpoint = true → ∀ res ∈ resource, ∃ podIPs,
        getTargetPodIP cluster.listPodIPs res.runtimeName res.runtimeType target.multusInterface =
          .ok podIPs) := by
  unfold endpointStep at h
  cases hend : target.endpoint
  · rw [hend] at h
    cases h
    simp
  · rw [hend, if_pos rfl] at h
    rcases resource with _ | res
    · cases h
    · dsimp only at h
      cases hpods : getTargetPodIP cluster.listPodIPs res.runtimeName res.runtimeType
          target.multusInterface with
      | error e =>
        rw [hpods] at h
        cases h
        simp [String.append_eq_empty_iff, hpods]
      | ok podIPs =>
        rw [hpods] at h
        cases h
        simp [hpods]

theorem ingressTarget_isSome {ing : Option Ingress} {found : Option TestTarget}
    (h : ingressTarget ing = .ok found) :
    found.isSome ↔ ∃ i ∈ ing, i.loadBalancerIPs ≠ [] := by
  rcases ing with _ | ⟨_ | ⟨ip, ips⟩, tls, rules⟩
  · cases h
    simp
  · cases h
    simp
  · simp only [ingressTarget] at h
    cases hpath : firstPath rules with
    | error e =>
      rw [hpath] at h
      cases h
    | ok path =>
      rw [hpath] at h
      cases h
      simp

theorem ingressStep_reason_eq_empty_iff (h : ingressStep cfg cluster target resource s = .ok s') :
    s'.finalfailureReason = "" ↔
      s.finalfailureReason = "" ∧
      (target.ingress = true → ∀ res ∈ resource, ∀ serviceNameV4 ∈ res.serviceNameV4,
        ∃ i ∈ cluster.ingress (ingressName cfg serviceNameV4), i.loadBalancerIPs ≠ []) := by
  unfold ingressStep at h
  cases hing : target.ingress
  · rw [hing] at h
    cases h
    simp
  · rw [hing, if_pos rfl] at h
    rcases resource with _ | res
    · cases h
    · rcases hsvc : res.serviceNameV4 with _ | serviceNameV4
      · simp only [hsvc] at h
        cases h
        simp [hsvc]
      · simp only [hsvc] at h
        obtain ⟨found, hfound, hs'⟩ := Except.bind_eq_ok.mp h
        cases hs'
        rw [Search.addCase_reason_eq_empty_iff (by decide), ingressTarget_isSome hfound]
        simp [hsvc]

end Reason

/-- Every case the target asks for finds its address: the pods of the task's
runtime, and for each family the target asks for, the cluster IP, the node
port on the agent's node and the load balancer of the agents' service, and
the agents' ingress. -/
structure NetReachFound (cfg : NetReachAgentConfig) (cluster : NetReachCluster)
    (target : NetReachTargetFlags) (resource : Option TaskResource) : Prop where
  endpoint : target.endpoint = true → ∀ res ∈ resource, ∃ podIPs,
    getTargetPodIP cluster.listPodIPs res.runtimeName res.runtimeType target.multusInterface = .ok podIPs
  clusterIPv4 : target.clusterIP = true → target.iPv4 = true →
    ∃ u ∈ agentUrl cfg.enableIPv4 cluster.serviceAccessUrl cfg.serviceV4Name, u.clusterIPUrl ≠ []
  clusterIPv6 : target.clusterIP = true → target.iPv6 = true →
    ∃ u ∈ agentUrl cfg.enableIPv6 cluster.serviceAccessUrl cfg.serviceV6Name, u.clusterIPUrl ≠ []
  nodePortV4 : target.nodePort = true → target.iPv4 = true →
    ∃ u ∈ agentUrl cfg.enableIPv4 cluster.serviceAccessUrl cfg.serviceV4Name,
      u.nodePort ≠ 0 ∧ (cluster.nodeIP cfg.localNodeName).1 ≠ ""
  nodePortV6 : target.nodePort = true → target.iPv6 = true →
    ∃ u ∈ agentUrl cfg.enableIPv6 cluster.serviceAccessUrl cfg.serviceV6Name,
      u.nodePort ≠ 0 ∧ (cluster.nodeIP cfg.localNodeName).2 ≠ ""
  loadBalancerV4 : target.loadBalancer = true → target.iPv4 = true →
    ∃ u ∈ agentUrl cfg.enableIPv4 cluster.serviceAccessUrl cfg.serviceV4Name, u.loadBalancerUrl ≠ []
  loadBalancerV6 : target.loadBalancer = true → target.iPv6 = true →
    ∃ u ∈ agentUrl cfg.enableIPv6 cluster.serviceAccessUrl cfg.serviceV6Name, u.loadBalancerUrl ≠ []
  ingress : target.ingress = true → ∀ res ∈ resource, ∀ serviceNameV4 ∈ res.serviceNameV4,
    ∃ i ∈ cluster.ingress (ingressName cfg serviceNameV4), i.loadBalancerIPs ≠ []

/-- The search leaves no failure reason exactly when every case the target
asks for finds its address. -/
theorem netReachSearch_reason_eq_empty_iff {cfg : NetReachAgentConfig} {cluster : NetReachCluster}
    {it : Iteration (String × List IPs)} {target : NetReachTargetFlags}
    {resource : Option TaskResource} {s : Search}
    (h : netReachSearch cfg cluster it target resource = .ok s) :
    s.finalfailureReason = "" ↔ NetReachFound cfg cluster target resource := by
  obtain ⟨s₁, h₁, h₂⟩ := Except.bind_eq_ok.mp h
  rw [ingressStep_reason_eq_empty_iff h₂, loadBalancerStep_reason_eq_empty_iff,
    nodePortStep_reason_eq_empty_iff, clusterIPStep_reason_eq_empty_iff,
    endpointStep_reason_eq_empty_iff h₁]
  constructor
  · rintro ⟨⟨⟨⟨⟨-, hend⟩, hc4, hc6⟩, hn4, hn6⟩, hl4, hl6⟩, hing⟩
    exact ⟨hend, hc4, hc6, hn4, hn6, hl4, hl6, hing⟩
  · rintro ⟨hend, hc4, hc6, hn4, hn6, hl4, hl6, hing⟩
    exact ⟨⟨⟨⟨⟨rfl, hend⟩, hc4, hc6⟩, hn4, hn6⟩, hl4, hl6⟩, hing⟩

/-! ## The goroutines -/

/-- The request of the goroutine of a target. -/
def netReachRequestData (request : Request) (enableLatencyMetric : Bool) (t : TestTarget) :
    HttpRequestData where
  method := t.method
  url := t.url
  qps := request.qps
  perRequestTimeoutMS := request.perRequestTimeoutInMS
  requestTimeSecond := request.durationInSecond
  header := .empty
  body := none
  clientCert := none
  caCertPool := none
  http2 := false
  expectStatusCode := none
  enableLatencyMetric := enableLatencyMetric

/-- What the goroutine of a target runs. -/
def netReachSend (formatFloat : ℚ → String) (httpRequest : HttpRequestData → LoadHttp.HttpMetrics)
    (request : Request) (enableLatencyMetric : Bool) (successCondition : NetSuccessCondition)
    (t : TestTarget) : String × HttpTaskDetail :=
  netReachSendRequestAndReport formatFloat httpRequest t.name
    (netReachRequestData request enableLatencyMetric t) successCondition

/-- The task report of the round, once the wait group's wait returns. -/
def netReachTask (s : Search) (shared : String × List HttpTaskDetail) : TaskReport HttpTaskDetail :=
  aggregate "NetReach" s.testTargetList.length shared.1 shared.2

/-- **A NetReach round under every schedule.** Once the search has found its
targets and every goroutine has merged, in whatever order: the report holds
each target's result once and counts the targets; the round succeeds exactly
when every case the target asks for found its address and every target met
the success condition; and a failure reason comes from the search or names a
target that failed. -/
theorem netReach_round {formatFloat : ℚ → String}
    {httpRequest : HttpRequestData → LoadHttp.HttpMetrics} {request : Request}
    {successCondition : NetSuccessCondition} {cfg : NetReachAgentConfig} {cluster : NetReachCluster}
    {it : Iteration (String × List IPs)} {target : NetReachTargetFlags}
    {resource : Option TaskResource} {s : Search}
    (hsearch : netReachSearch cfg cluster it target resource = .ok s)
    {p : Pool TestTarget (String × List HttpTaskDetail)}
    (hrun : Reachable (Merge (roundMerge TestTarget.name
      (netReachSend formatFloat httpRequest request target.enableLatencyMetric successCondition)))
      ⟨s.testTargetList, (s.finalfailureReason, [])⟩ p)
    (hdone : p.pending = []) :
    (netReachTask s p.shared).detail.Perm (s.testTargetList.map fun t =>
      (netReachSend formatFloat httpRequest request target.enableLatencyMetric successCondition t).2) ∧
    (netReachTask s p.shared).targetNumber = (netReachTask s p.shared).detail.length ∧
    ((netReachTask s p.shared).succeed = true ↔
      NetReachFound cfg cluster target resource ∧
      ∀ t ∈ s.testTargetList, netReachParseSuccessCondition successCondition
        (httpRequest (netReachRequestData request target.enableLatencyMetric t)) = none) ∧
    (∀ reason ∈ (netReachTask s p.shared).failureReason, reason = s.finalfailureReason ∨
      ∃ t ∈ s.testTargetList, reason = "test " ++ t.name ++ ": " ++
        (netReachSend formatFloat httpRequest request target.enableLatencyMetric successCondition t).1) := by
  obtain ⟨hperm, hiff, hwho⟩ := roundMerge_schedule hrun hdone
  refine ⟨hperm, by simp [netReachTask, aggregate, hperm.length_eq], ?_, ?_⟩
  · rw [netReachTask, aggregate_succeed, hiff, netReachSearch_reason_eq_empty_iff hsearch]
    simp only [netReachSend, netReachSendRequestAndReport, httpSendRequestAndReport_fst_eq_empty_iff]
  · intro reason hreason
    have hshared : p.shared.1 = reason := by
      simp only [netReachTask, aggregate] at hreason
      split at hreason
      · exact Option.mem_some_iff.mp hreason
      · cases hreason
    rcases hwho with h | ⟨t, ht, -, h⟩
    · exact Or.inl (hshared ▸ h)
    · exact Or.inr ⟨t, ht, hshared ▸ h⟩

/-- An agent whose IPv4 service has a cluster IP and nothing else. -/
def clusterIPCluster : NetReachCluster :=
  ⟨fun _ _ _ => .error "", fun _ => some ⟨0, ["10.96.0.10:80"], []⟩, fun _ => ("", ""), fun _ => none⟩

/-- A target that asks for the IPv4 cluster IP only. -/
def clusterIPv4Target : NetReachTargetFlags :=
  ⟨true, false, false, false, true, false, false, false, false⟩

/-- The agent's configuration with IPv4 on. -/
def ipv4AgentConfig : NetReachAgentConfig :=
  ⟨80, true, false, "kdoctor-netreach-v4", "", "node1", true, ""⟩

/-- The one target of that search. -/
def clusterIPv4TestTarget : TestTarget :=
  ⟨"AgentClusterV4IP_10.96.0.10:80", "http://10.96.0.10:80", "GET"⟩

/-- The metrics of a load test whose one request succeeded. -/
def oneRequestMetrics : LoadHttp.HttpMetrics :=
  ⟨1, 1, .empty, ⟨1, 1, 1, 1, 1, 1, 1⟩, 0, .empty, false⟩

/-- The goroutine of a target whose load test made one successful request,
asked for a success rate of 1. -/
def oneRequestSend : TestTarget → String × HttpTaskDetail :=
  netReachSend (fun _ => "") (fun _ => oneRequestMetrics) ⟨1, 1, 1⟩ false ⟨some 1, none⟩

theorem netReach_round_clusterIPv4 :
    (netReachTask ⟨[clusterIPv4TestTarget], ""⟩
        (roundMerge TestTarget.name oneRequestSend ("", []) clusterIPv4TestTarget)).detail.Perm
      ([clusterIPv4TestTarget].map fun t => (oneRequestSend t).2) ∧
    (netReachTask ⟨[clusterIPv4TestTarget], ""⟩
        (roundMerge TestTarget.name oneRequestSend ("", []) clusterIPv4TestTarget)).targetNumber =
      (netReachTask ⟨[clusterIPv4TestTarget], ""⟩
        (roundMerge TestTarget.name oneRequestSend ("", []) clusterIPv4TestTarget)).detail.length ∧
    ((netReachTask ⟨[clusterIPv4TestTarget], ""⟩
        (roundMerge TestTarget.name oneRequestSend ("", []) clusterIPv4TestTarget)).succeed = true ↔
      NetReachFound ipv4AgentConfig clusterIPCluster clusterIPv4Target none ∧
      ∀ t ∈ [clusterIPv4TestTarget], netReachParseSuccessCondition ⟨some 1, none⟩
        ((fun _ => oneRequestMetrics : HttpRequestData → LoadHttp.HttpMetrics)
          (netReachRequestData ⟨1, 1, 1⟩ false t)) = none) ∧
    (∀ reason ∈ (netReachTask ⟨[clusterIPv4TestTarget], ""⟩
        (roundMerge TestTarget.name oneRequestSend ("", []) clusterIPv4TestTarget)).failureReason,
      reason = "" ∨
        ∃ t ∈ [clusterIPv4TestTarget], reason = "test " ++ t.name ++ ": " ++ (oneRequestSend t).1) :=
  @netReach_round (fun _ => "") (fun _ => oneRequestMetrics) ⟨1, 1, 1⟩ ⟨some 1, none⟩ ipv4AgentConfig
    clusterIPCluster (.inOrder _) clusterIPv4Target none ⟨[clusterIPv4TestTarget], ""⟩ rfl
    ⟨[], roundMerge TestTarget.name oneRequestSend ("", []) clusterIPv4TestTarget⟩
    (Reachable.refl.tail (Merge.pick [] [] clusterIPv4TestTarget ("", []))) rfl

end KDoctor.PluginManager
