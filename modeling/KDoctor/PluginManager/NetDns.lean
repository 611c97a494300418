import KDoctor.Lib.DnsName
import KDoctor.PluginManager.ExecuteTask

/-!
A round of a Netdns task on an agent (`netdns/agentExecuteTask.go`, with
`loadDns.DnsRequest`).

The agent asks DNS servers for the A or AAAA records of the task's domain:
the server the user names, or the cluster's DNS services (those that
`ListServicesDnsIP` finds, or the one the target names). A user's server is
asked for A records when it is an IPv4 address and for AAAA records
otherwise; a service's address only when the target tests its family. One
goroutine for each target then runs `SendRequestAndReport` (`ExecuteTask`).

netdns's `SendRequestAndReport` differs from the HTTP plugins' in one branch:
when `DnsRequest` refuses to run, which it does for a domain that
`IsDomainName` refuses, it returns the report with the error and an empty
failure reason, and the goroutine then leaves the round's failure reason as
it is. `netdns_round` says what every schedule leaves, and
`netdns_invalidDomain` what this means for a domain the DNS library refuses:
every target reports a failure without a single request, and the round still
succeeds.

What the agent reads from the cluster is a parameter (`NetDnsCluster`), and
so is the load test (`dnsRun`) and `net.ParseIP(s).To4() != nil` (`to4`).
The CRD schema gives the port, the protocol and the two family flags
defaults, so the agent reads them as values.
-/

namespace KDoctor.PluginManager

open Crd Go LoadRequest Fanout Transition DnsName

/-! ## What the agent reads -/

/-- `NetDnsTargetUserSpec`, with the default port. -/
structure NetDnsTargetUserSpec where
  server : Option String
  port : Int
  deriving DecidableEq, Repr

/-- `NetDnsTargetDnsSpec`, with the default family flags. -/
structure NetDnsTargetDnsSpec where
  serviceName : Option String
  serviceNamespace : Option String
  testIPv4 : Bool
  testIPv6 : Bool
  deriving DecidableEq, Repr

/-- `NetDnsTarget` as the agent reads it. -/
structure NetDnsTargetSpec where
  netDnsTargetUser : Option NetDnsTargetUserSpec
  netDnsTargetDns : Option NetDnsTargetDnsSpec
  enableLatencyMetric : Bool
  deriving DecidableEq, Repr

/-- `NetdnsRequest`, with the default protocol. -/
structure NetdnsRequest where
  durationInSecond : Int
  qps : Int
  perRequestTimeoutInMS : Int
  domain : String
  protocol : String
  deriving DecidableEq, Repr

/-- What the agent reads from the cluster: the addresses of the cluster's DNS
services (`ListServicesDnsIP`), and the cluster IPs of a service of a name
and a namespace (`GetService`). -/
structure NetDnsCluster where
  listServicesDnsIP : Except String (List String)
  getService : String → String → Except String (List String)

/-! ## The load test of one server -/

/-- `dns.TypeA`, `dns.TypeAAAA`. -/
inductive DnsType where
  | typeA
  | typeAAAA
  deriving DecidableEq, Repr

/-- `loadDns.DnsRequestData`. -/
structure DnsRequestData where
  protocol : String
  dnsType : DnsType
  targetDomain : String
  dnsServerAddr : String
  perRequestTimeoutInMs : Int
  qps : Int
  durationInSecond : Int
  enableLatencyMetric : Bool
  deriving DecidableEq, Repr

/-- `NetDNSTaskDetail`. -/
structure NetDNSTaskDetail where
  targetName : String
  targetServer : String
  targetProtocol : String
  succeed : Bool
  failureReason : Option String
  meanDelay : ℚ
  succeedRate : ℚ
  metrics : LoadDns.DNSMetrics

/-- The zero `DNSMetrics`. -/
def zeroDNSMetrics : LoadDns.DNSMetrics :=
  ⟨0, 0, .empty, ⟨0, 0, 0, 0, 0, 0, 0⟩, 0, .empty, false⟩

/-- `loadDns.DnsRequest`: the load test, once the domain passes
`IsDomainName` and has its final dot. -/
def dnsRequest (dnsRun : DnsRequestData → LoadDns.DNSMetrics) (reqData : DnsRequestData) :
    Except String LoadDns.DNSMetrics :=
  if !(isDomainName reqData.targetDomain).2 then
    .error ("invalid domain name: " ++ reqData.targetDomain)
  else
    let reqData :=
      if !isFqdn reqData.targetDomain then { reqData with targetDomain := fqdn reqData.targetDomain }
      else reqData
    .ok (dnsRun reqData)

/-- `netdns.SendRequestAndReport`. -/
def netdnsSendRequestAndReport (formatFloat : ℚ → String) (dnsRun : DnsRequestData → LoadDns.DNSMetrics)
    (targetName : String) (req : DnsRequestData) (successCondition : NetSuccessCondition) :
    String × NetDNSTaskDetail :=
  let report : NetDNSTaskDetail :=
    { targetName := targetName
      targetServer := req.dnsServerAddr
      targetProtocol := req.protocol
      succeed := false
      failureReason := none
      meanDelay := 0
      succeedRate := 0
      metrics := zeroDNSMetrics }
  match dnsRequest dnsRun req with
  -- the named result `failureReason` is still empty here
  | .error err => ("", { report with failureReason := some err })
  | .ok result =>
    let failureReason := reasonText formatFloat (netdnsParseSuccessCondition successCondition result)
    (failureReason,
      { report with
        meanDelay := result.latencies.mean
        succeedRate := (result.successCounts : ℚ) / result.requestCounts
        metrics := result
        failureReason := if failureReason.length = 0 then none else some failureReason
        succeed := failureReason.length = 0 })

/-! ## The search for targets -/

/-- `testTarget`. -/
structure DnsTestTarget where
  name : String
  request : DnsRequestData
  deriving DecidableEq, Repr

/-- The target that asks `server` for the records of a type. -/
def dnsTestTarget (request : NetdnsRequest) (enableLatencyMetric : Bool) (dnsType : DnsType)
    (server : String) : DnsTestTarget :=
  ⟨(match dnsType with
      | .typeA => "typeA_"
      | .typeAAAA => "typeAAAA_") ++ server ++ "_" ++ request.domain,
    ⟨request.protocol, dnsType, request.domain, server, request.perRequestTimeoutInMS, request.qps,
      request.durationInSecond, enableLatencyMetric⟩⟩

/-- The targets of the addresses of DNS services, each for the family it is
of when the target tests that family. -/
def serviceTargets (to4 : String → Bool) (request : NetdnsRequest) (enableLatencyMetric : Bool)
    (testIPv4 testIPv6 : Bool) (serviceIPs : List String) : List DnsTestTarget :=
  serviceIPs.flatMap fun serviceIP =>
    let server := joinHostPort serviceIP "53"
    if to4 serviceIP ∧ testIPv4 then [dnsTestTarget request enableLatencyMetric .typeA server]
    else if ¬to4 serviceIP ∧ testIPv6 then [dnsTestTarget request enableLatencyMetric .typeAAAA server]
    else []

/-- The targets found and the round's failure reason. -/
structure DnsSearch where
  testTargetList : List DnsTestTarget
  finalfailureReason : String
  deriving DecidableEq, Repr

/-- The user's server, if the target names one. -/
def userStep (to4 : String → Bool) (target : NetDnsTargetSpec) (request : NetdnsRequest) :
    Except String DnsSearch :=
  match target.netDnsTargetUser with
  | none => .ok ⟨[], ""⟩
  | some user =>
    match user.server with
    | none => .error nilDereference
    | some server =>
      let srv := joinHostPort server (toString user.port)
      .ok ⟨[dnsTestTarget request target.enableLatencyMetric (if to4 server then .typeA else .typeAAAA) srv],
        ""⟩

/-- The addresses of the DNS services the target asks for, and the round's
failure reason after reading them. A service that cannot be read leaves a nil
pointer, whose cluster IPs the loop then reads. -/
def dnsServiceIPs (cluster : NetDnsCluster) (dns : NetDnsTargetDnsSpec) (reason : String) :
    Except String (List String × String) :=
  match dns.serviceName with
  | none =>
    match cluster.listServicesDnsIP with
    | .error err => .ok ([], "ListServicesDnsIP err: " ++ err)
    | .ok ips => .ok (ips, reason)
  | some serviceName =>
    match dns.serviceNamespace with
    | none => .error nilDereference
    | some serviceNamespace =>
      match cluster.getService serviceName serviceNamespace with
      | .error _ => .error nilDereference
      | .ok ips => .ok (ips, reason)

/-- The cluster's DNS services, if the target asks for them. -/
def dnsServiceStep (to4 : String → Bool) (cluster : NetDnsCluster) (target : NetDnsTargetSpec)
    (request : NetdnsRequest) (s : DnsSearch) : Except String DnsSearch :=
  match target.netDnsTargetDns with
  | none => .ok s
  | some dns =>
    (dnsServiceIPs cluster dns s.finalfailureReason).map fun r =>
      ⟨s.testTargetList ++ serviceTargets to4 request target.enableLatencyMetric dns.testIPv4 dns.testIPv6 r.1,
        r.2⟩

/-- The part of `AgentExecuteTask` before the goroutines. -/
def netdnsSearch (to4 : String → Bool) (cluster : NetDnsCluster) (target : NetDnsTargetSpec)
    (request : NetdnsRequest) : Except String DnsSearch := do
  let s ← userStep to4 target request
  dnsServiceStep to4 cluster target request s

/-! ## The goroutines -/

/-- What the goroutine of a target runs. -/
def netdnsSend (formatFloat : ℚ → String) (dnsRun : DnsRequestData → LoadDns.DNSMetrics)
    (successCondition : NetSuccessCondition) (t : DnsTestTarget) : String × NetDNSTaskDetail :=
  netdnsSendRequestAndReport formatFloat dnsRun t.name t.request successCondition

/-- The task report of the round, once the wait group's wait returns. -/
def netdnsTask (s : DnsSearch) (shared : String × List NetDNSTaskDetail) : TaskReport NetDNSTaskDetail :=
  aggregate "kdoctor agent" s.testTargetList.length shared.1 shared.2

/-! ## What a round leaves -/

section SendRequestAndReport

variable {formatFloat : ℚ → String} {dnsRun : DnsRequestData → LoadDns.DNSMetrics}
  {targetName : String} {req : DnsRequestData} {successCondition : NetSuccessCondition}

/-- A DNS target gives no failure reason exactly when its load test, if it
runs, meets the success condition. -/
theorem netdnsSendRequestAndReport_fst_eq_empty_iff :
    (netdnsSendRequestAndReport formatFloat dnsRun targetName req successCondition).1 = "" ↔
      ∀ m, dnsRequest dnsRun req = .ok m → netdnsParseSuccessCondition successCondition m = none := by
  unfold netdnsSendRequestAndReport
  cases h : dnsRequest dnsRun req with
  | error err => simp
  | ok m => simp

/-- A domain that `IsDomainName` refuses: the target reports the error, as a
failure without metrics, and gives no failure reason. -/
theorem netdnsSendRequestAndReport_of_invalid (hdomain : (isDomainName req.targetDomain).2 = false) :
    (netdnsSendRequestAndReport formatFloat dnsRun targetName req successCondition).1 = "" ∧
    (netdnsSendRequestAndReport formatFloat dnsRun targetName req successCondition).2.succeed = false ∧
    (netdnsSendRequestAndReport formatFloat dnsRun targetName req successCondition).2.failureReason =
      some ("invalid domain name: " ++ req.targetDomain) ∧
    (netdnsSendRequestAndReport formatFloat dnsRun targetName req successCondition).2.metrics =
      zeroDNSMetrics := by
  have hreq : dnsRequest dnsRun req = .error ("invalid domain name: " ++ req.targetDomain) := by
    simp [dnsRequest, hdomain]
  simp [netdnsSendRequestAndReport, hreq]

end SendRequestAndReport

section Search

variable {to4 : String → Bool} {cluster : NetDnsCluster} {target : NetDnsTargetSpec}
  {request : NetdnsRequest} {s : DnsSearch}

theorem domain_dnsTestTarget {enableLatencyMetric : Bool} {dnsType : DnsType} {server : String} :
    (dnsTestTarget request enableLatencyMetric dnsType server).request.targetDomain = request.domain :=
  rfl

theorem domain_serviceTargets {enableLatencyMetric testIPv4 testIPv6 : Bool} {ips : List String}
    {t : DnsTestTarget} (ht : t ∈ serviceTargets to4 request enableLatencyMetric testIPv4 testIPv6 ips) :
    t.request.targetDomain = request.domain := by
  simp only [serviceTargets, List.mem_flatMap] at ht
  obtain ⟨ip, -, hip⟩ := ht
  split_ifs at hip <;> simp_all [domain_dnsTestTarget]

theorem userStep_eq_ok {s : DnsSearch} (h : userStep to4 target request = .ok s) :
    s.finalfailureReason = "" ∧ ∀ t ∈ s.testTargetList, t.request.targetDomain = request.domain := by
  unfold userStep at h
  split at h
  · cases h
    simp
  · split at h
    · cases h
    · cases h
      simp [domain_dnsTestTarget]

theorem dnsServiceStep_eq_ok {s s' : DnsSearch} (h : dnsServiceStep to4 cluster target request s = .ok s') :
    (s'.finalfailureReason = "" ↔ s.finalfailureReason = "" ∧
      ∀ dns ∈ target.netDnsTargetDns, dns.serviceName = none →
        ∃ ips, cluster.listServicesDnsIP = .ok ips) ∧
    ∀ t ∈ s'.testTargetList, t ∈ s.testTargetList ∨ t.request.targetDomain = request.domain := by
  unfold dnsServiceStep at h
  rcases hdns : target.netDnsTargetDns with _ | dns
  · rw [hdns] at h
    cases h
    exact ⟨by simp, fun t ht => Or.inl ht⟩
  · rw [hdns] at h
    dsimp only at h
    cases hips : dnsServiceIPs cluster dns s.finalfailureReason with
    | error e =>
      rw [hips] at h
      cases h
    | ok r =>
      obtain ⟨ips, reason⟩ := r
      rw [hips] at h
      simp only [Except.map, Except.ok.injEq] at h
      subst h
      refine ⟨?_, fun t ht => ?_⟩
      · unfold dnsServiceIPs at hips
        split at hips
        · rename_i hname
          split at hips
          · rename_i err hlist
            cases hips
            simp [String.append_eq_empty_iff, hname, hlist]
          · rename_i l hlist
            cases hips
            simp [hlist]
        · rename_i serviceName hname
          split at hips
          · cases hips
          · split at hips
            · cases hips
            · cases hips
              simp [hname]
      · rcases List.mem_append.mp ht with ht | ht
        · exact Or.inl ht
        · exact Or.inr (domain_serviceTargets ht)

/-- Every target asks for the task's domain. -/
theorem netdnsSearch_domain (h : netdnsSearch to4 cluster target request = .ok s) :
    ∀ t ∈ s.testTargetList, t.request.targetDomain = request.domain := by
  obtain ⟨s₁, h₁, h₂⟩ := Except.bind_eq_ok.mp h
  intro t ht
  rcases (dnsServiceStep_eq_ok h₂).2 t ht with ht | hdomain
  · exact (userStep_eq_ok h₁).2 t ht
  · exact hdomain

/-- The search leaves no failure reason exactly when it does not ask
`ListServicesDnsIP`, or gets the services' addresses from it. -/
theorem netdnsSearch_reason_eq_empty_iff (h : netdnsSearch to4 cluster target request = .ok s) :
    s.finalfailureReason = "" ↔
      ∀ dns ∈ target.netDnsTargetDns, dns.serviceName = none → ∃ ips, cluster.listServicesDnsIP = .ok ips := by
  obtain ⟨s₁, h₁, h₂⟩ := Except.bind_eq_ok.mp h
  rw [(dnsServiceStep_eq_ok h₂).1]
  simp [(userStep_eq_ok h₁).1]

end Search

/-- **A Netdns round under every schedule.** Once the search has found its
targets and every goroutine has merged, in whatever order: the report holds
each target's result once and counts the targets; and the round succeeds
exactly when the search read the DNS services it asked for, and every target
whose load test runs meets the success condition. -/
theorem netdns_round {formatFloat : ℚ → String} {dnsRun : DnsRequestData → LoadDns.DNSMetrics}
    {successCondition : NetSuccessCondition} {to4 : String → Bool} {cluster : NetDnsCluster}
    {target : NetDnsTargetSpec} {request : NetdnsRequest} {s : DnsSearch}
    (hsearch : netdnsSearch to4 cluster target request = .ok s)
    {p : Pool DnsTestTarget (String × List NetDNSTaskDetail)}
    (hrun : Reachable (Merge (roundMerge DnsTestTarget.name (netdnsSend formatFloat dnsRun successCondition)))
      ⟨s.testTargetList, (s.finalfailureReason, [])⟩ p)
    (hdone : p.pending = []) :
    (netdnsTask s p.shared).detail.Perm
      (s.testTargetList.map fun t => (netdnsSend formatFloat dnsRun successCondition t).2) ∧
    (netdnsTask s p.shared).targetNumber = (netdnsTask s p.shared).detail.length ∧
    ((netdnsTask s p.shared).succeed = true ↔
      (∀ dns ∈ target.netDnsTargetDns, dns.serviceName = none →
        ∃ ips, cluster.listServicesDnsIP = .ok ips) ∧
      ∀ t ∈ s.testTargetList, ∀ m, dnsRequest dnsRun t.request = .ok m →
        netdnsParseSuccessCondition successCondition m = none) := by
  obtain ⟨hperm, hiff, -⟩ := roundMerge_schedule hrun hdone
  refine ⟨hperm, by simp [netdnsTask, aggregate, hperm.length_eq], ?_⟩
  rw [netdnsTask, aggregate_succeed, hiff, netdnsSearch_reason_eq_empty_iff hsearch]
  simp only [netdnsSend, netdnsSendRequestAndReport_fst_eq_empty_iff]

/-- **A domain that the DNS library refuses passes.** When `IsDomainName`
refuses the task's domain, no load test runs: under every schedule every
target's report says it failed, with the library's error and no metrics, and
yet the round succeeds exactly when the search read the DNS services it
asked for, whatever the DNS servers would have answered. -/
theorem netdns_invalidDomain {formatFloat : ℚ → String} {dnsRun : DnsRequestData → LoadDns.DNSMetrics}
    {successCondition : NetSuccessCondition} {to4 : String → Bool} {cluster : NetDnsCluster}
    {target : NetDnsTargetSpec} {request : NetdnsRequest} {s : DnsSearch}
    (hdomain : (isDomainName request.domain).2 = false)
    (hsearch : netdnsSearch to4 cluster target request = .ok s)
    {p : Pool DnsTestTarget (String × List NetDNSTaskDetail)}
    (hrun : Reachable (Merge (roundMerge DnsTestTarget.name (netdnsSend formatFloat dnsRun successCondition)))
      ⟨s.testTargetList, (s.finalfailureReason, [])⟩ p)
    (hdone : p.pending = []) :
    (∀ d ∈ (netdnsTask s p.shared).detail, d.succeed = false ∧
      d.failureReason = some ("invalid domain name: " ++ request.domain) ∧ d.metrics = zeroDNSMetrics) ∧
    ((netdnsTask s p.shared).succeed = true ↔
      ∀ dns ∈ target.netDnsTargetDns, dns.serviceName = none →
        ∃ ips, cluster.listServicesDnsIP = .ok ips) := by
  obtain ⟨hperm, hiff, -⟩ := roundMerge_schedule hrun hdone
  -- every target asks for the refused domain
  have hinv (t : DnsTestTarget) (ht : t ∈ s.testTargetList) :
      (isDomainName t.request.targetDomain).2 = false := by
    rw [netdnsSearch_domain hsearch t ht]
    exact hdomain
  refine ⟨fun d hd => ?_, ?_⟩
  · obtain ⟨t, ht, rfl⟩ := List.mem_map.mp (hperm.subset hd)
    obtain ⟨-, hfail, hreason, hmetrics⟩ :=
      @netdnsSendRequestAndReport_of_invalid formatFloat dnsRun t.name t.request successCondition
        (hinv t ht)
    rw [netdnsSearch_domain hsearch t ht] at hreason
    exact ⟨hfail, hreason, hmetrics⟩
  · have hpass : ∀ t ∈ s.testTargetList, (netdnsSend formatFloat dnsRun successCondition t).1 = "" :=
      fun t ht =>
        (@netdnsSendRequestAndReport_of_invalid formatFloat dnsRun t.name t.request successCondition
          (hinv t ht)).1
    rw [netdnsTask, aggregate_succeed, hiff, netdnsSearch_reason_eq_empty_iff hsearch]
    exact ⟨fun h => h.1, fun h => ⟨h, hpass⟩⟩

/-- A task that names its DNS server and a domain with an empty label. -/
def emptyLabelRequest : NetdnsRequest := ⟨2, 5, 5, "kubernetes..default", "udp"⟩

/-- A target that names the DNS server at `10.96.0.10`. -/
def userServerTarget : NetDnsTargetSpec := ⟨some ⟨some "10.96.0.10", 53⟩, none, false⟩

/-- The one target of that search. -/
def userServerTestTarget : DnsTestTarget :=
  dnsTestTarget emptyLabelRequest false .typeA "10.96.0.10:53"

/-- No cluster services. -/
def noDnsServices : NetDnsCluster := ⟨.ok [], fun _ _ => .ok []⟩

theorem netdns_invalidDomain_emptyLabel :
    (∀ d ∈ (netdnsTask ⟨[userServerTestTarget], ""⟩
        (roundMerge DnsTestTarget.name (netdnsSend (fun _ => "") (fun _ => zeroDNSMetrics) ⟨some 1, none⟩)
          ("", []) userServerTestTarget)).detail,
      d.succeed = false ∧ d.failureReason = some ("invalid domain name: " ++ emptyLabelRequest.domain) ∧
        d.metrics = zeroDNSMetrics) ∧
    ((netdnsTask ⟨[userServerTestTarget], ""⟩
        (roundMerge DnsTestTarget.name (netdnsSend (fun _ => "") (fun _ => zeroDNSMetrics) ⟨some 1, none⟩)
          ("", []) userServerTestTarget)).succeed = true ↔
      ∀ dns ∈ userServerTarget.netDnsTargetDns, dns.serviceName = none →
        ∃ ips, noDnsServices.listServicesDnsIP = .ok ips) :=
  @netdns_invalidDomain (fun _ => "") (fun _ => zeroDNSMetrics) ⟨some 1, none⟩ (fun _ => true)
    noDnsServices userServerTarget emptyLabelRequest ⟨[userServerTestTarget], ""⟩ (by decide) rfl
    ⟨[], roundMerge DnsTestTarget.name (netdnsSend (fun _ => "") (fun _ => zeroDNSMetrics) ⟨some 1, none⟩)
      ("", []) userServerTestTarget⟩
    (Reachable.refl.tail (Merge.pick [] [] userServerTestTarget ("", []))) rfl

theorem netdns_round_userServer :
    (netdnsTask ⟨[userServerTestTarget], ""⟩
        (roundMerge DnsTestTarget.name (netdnsSend (fun _ => "") (fun _ => zeroDNSMetrics) ⟨some 1, none⟩)
          ("", []) userServerTestTarget)).detail.Perm
      ([userServerTestTarget].map fun t =>
        (netdnsSend (fun _ => "") (fun _ => zeroDNSMetrics) ⟨some 1, none⟩ t).2) ∧
    (netdnsTask ⟨[userServerTestTarget], ""⟩
        (roundMerge DnsTestTarget.name (netdnsSend (fun _ => "") (fun _ => zeroDNSMetrics) ⟨some 1, none⟩)
          ("", []) userServerTestTarget)).targetNumber =
      (netdnsTask ⟨[userServerTestTarget], ""⟩
        (roundMerge DnsTestTarget.name (netdnsSend (fun _ => "") (fun _ => zeroDNSMetrics) ⟨some 1, none⟩)
          ("", []) userServerTestTarget)).detail.length ∧
    ((netdnsTask ⟨[userServerTestTarget], ""⟩
        (roundMerge DnsTestTarget.name (netdnsSend (fun _ => "") (fun _ => zeroDNSMetrics) ⟨some 1, none⟩)
          ("", []) userServerTestTarget)).succeed = true ↔
      (∀ dns ∈ userServerTarget.netDnsTargetDns, dns.serviceName = none →
        ∃ ips, noDnsServices.listServicesDnsIP = .ok ips) ∧
      ∀ t ∈ [userServerTestTarget], ∀ m, dnsRequest (fun _ => zeroDNSMetrics) t.request = .ok m →
        netdnsParseSuccessCondition ⟨some 1, none⟩ m = none) :=
  @netdns_round (fun _ => "") (fun _ => zeroDNSMetrics) ⟨some 1, none⟩ (fun _ => true)
    noDnsServices userServerTarget emptyLabelRequest ⟨[userServerTestTarget], ""⟩ rfl
    ⟨[], roundMerge DnsTestTarget.name (netdnsSend (fun _ => "") (fun _ => zeroDNSMetrics) ⟨some 1, none⟩)
      ("", []) userServerTestTarget⟩
    (Reachable.refl.tail (Merge.pick [] [] userServerTestTarget ("", []))) rfl

end KDoctor.PluginManager
