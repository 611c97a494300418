import Mathlib.Algebra.Order.Ring.Rat
import KDoctor.Lib.Except
import KDoctor.Lib.GoMap
import KDoctor.PluginManager.Tools

/-!
The admission webhooks of the three task kinds (`netreach/webhook.go`,
`apphttphealthy/webhook.go`, `netdns/webhook.go`). The API server runs the
mutating webhook of a new task first, which fills in what the task leaves
out, and then its validating webhook, which checks it. A check that fails
returns the text of its `NewBadRequest`; a nil pointer that a webhook
dereferences panics, which the webhook server recovers into a refusal.

The three validating webhooks make the same checks of the schedule, the
request, the success condition and the agent's runtime kind, under the
kind's label and with the kind's maximum QPS; `validateCreate` makes them,
with the kind's own check of its target in the middle. What the webhooks read
from the cluster (the agent's ingress and services, a TLS secret), the host
check `ValidataAppHttpHealthyHost` and Go's `%v` of a `float64` are
parameters.
-/

namespace KDoctor.PluginManager

open Crd Go

/-! ## Task objects -/

/-- `NetHttpRequest` and `NetdnsRequest`: the three limits the webhooks read. -/
structure Request where
  durationInSecond : Int
  qps : Int
  perRequestTimeoutInMS : Int
  deriving DecidableEq, Repr

/-- `NetSuccessCondition`, without the `StatusCode` no webhook reads. -/
structure NetSuccessCondition where
  successRate : Option ℚ
  meanAccessDelayInMs : Option Int
  deriving DecidableEq

/-- `AgentSpec`: the runtime kind and the grace period, which the webhooks read. -/
structure AgentSpec where
  kind : String
  terminationGracePeriodMinutes : Option Int
  deriving DecidableEq, Repr

/-- `NetReachTarget`. -/
structure NetReachTarget where
  iPv4 : Option Bool
  iPv6 : Option Bool
  endpoint : Option Bool
  multusInterface : Option Bool
  clusterIP : Option Bool
  nodePort : Option Bool
  loadBalancer : Option Bool
  ingress : Option Bool
  deriving DecidableEq, Repr

/-- `NetDnsTarget`: whether each of its two targets is set. -/
structure NetDnsTarget where
  netDnsTargetUser : Bool
  netDnsTargetDns : Bool
  deriving DecidableEq, Repr

/-- `AppHttpHealthyTarget`: the host and the TLS secret. -/
structure AppHttpHealthyTarget where
  host : String
  tlsSecretName : Option String
  tlsSecretNamespace : Option String
  deriving DecidableEq, Repr

/-- The spec of a task whose target is a `τ`: `NetReachSpec`,
`AppHttpHealthySpec` and `NetdnsSpec` have these five fields. -/
structure TaskSpec (τ : Type) where
  agentSpec : Option AgentSpec
  schedule : Option SchedulePlan
  target : Option τ
  request : Option Request
  successCondition : Option NetSuccessCondition
  deriving DecidableEq

/-- A task object as its webhooks see it. -/
structure Task (τ : Type) where
  name : String
  deletionTimestamp : Option Int
  spec : TaskSpec τ
  deriving DecidableEq

/-- The fields of the controller's `Configmap` that the webhooks read. -/
structure Configmap where
  enableIPv4 : Bool
  enableIPv6 : Bool
  netHttpDefaultRequestQPS : Int
  netHttpDefaultRequestDurationInSecond : Int
  netHttpDefaultRequestPerRequestTimeoutInMS : Int
  netReachRequestMaxQPS : Int
  appHttpHealthyRequestMaxQPS : Int
  netDnsRequestMaxQPS : Int
  agentDefaultTerminationGracePeriodMinutes : Int
  deriving DecidableEq, Repr

/-! ## The mutating webhooks -/

/-- `GetDefaultNetSuccessCondition`. -/
def getDefaultNetSuccessCondition : NetSuccessCondition := ⟨some 1, none⟩

/-- The request a mutating webhook puts in a task that has none. -/
def defaultRequest (cfg : Configmap) : Request :=
  ⟨cfg.netHttpDefaultRequestDurationInSecond, cfg.netHttpDefaultRequestQPS,
    cfg.netHttpDefaultRequestPerRequestTimeoutInMS⟩

/-- The grace period a mutating webhook puts in an `AgentSpec` that has none. -/
def defaultAgentSpec (cfg : Configmap) : Option AgentSpec → Option AgentSpec
  | some a =>
    match a.terminationGracePeriodMinutes with
    | none => some { a with terminationGracePeriodMinutes := some cfg.agentDefaultTerminationGracePeriodMinutes }
    | some _ => some a
  | none => none

/-- What the mutating webhook of a NetReach reads from the cluster: how many
load-balancer ingresses the agent's ingress has, and the load-balancer URLs
of the agent's IPv4 and IPv6 services; `none` where the lookup fails. -/
structure AgentAccess where
  ingressLoadBalancers : Option Nat
  v4LoadBalancerUrl : Option (List String)
  v6LoadBalancerUrl : Option (List String)

/-- Whether the agent has a load-balancer URL for a family, if the family is
enabled; a failed lookup leaves a nil pointer. -/
def hasLoadBalancerUrl (enabled : Bool) (url : Option (List String)) : Except String Bool :=
  if enabled then
    match url with
    | some urls => .ok !urls.isEmpty
    | none => .error nilDereference
  else .ok false

/-- The target the mutating webhook of a NetReach puts in a task that has none. -/
def defaultNetReachTarget (cfg : Configmap) (access : AgentAccess) : Except String NetReachTarget := do
  let testIngress := match access.ingressLoadBalancers with
    | some n => decide (0 < n)
    | none => false
  let v4 ← hasLoadBalancerUrl cfg.enableIPv4 access.v4LoadBalancerUrl
  let v6 ← hasLoadBalancerUrl cfg.enableIPv6 access.v6LoadBalancerUrl
  pure ⟨some cfg.enableIPv4, some cfg.enableIPv6, some true, some false, some true, some true,
    some (v4 || v6), some testIngress⟩

/-- The defaults every mutating webhook but Netdns's puts in, for a task of
the given target. -/
def withDefaults {τ : Type} (cfg : Configmap) (spec : TaskSpec τ) (target : τ) : TaskSpec τ where
  agentSpec := defaultAgentSpec cfg spec.agentSpec
  schedule := spec.schedule.or (some getDefaultSchedule)
  target := some target
  request := spec.request.or (some (defaultRequest cfg))
  successCondition := spec.successCondition.or (some getDefaultNetSuccessCondition)

/-- `WebhookMutating` of NetReach. -/
def netReachWebhookMutating (cfg : Configmap) (access : AgentAccess) (req : Task NetReachTarget) :
    Except String (Task NetReachTarget) :=
  if req.deletionTimestamp.isSome then pure req
  else do
    let target ← match req.spec.target with
      | some target => pure target
      | none => defaultNetReachTarget cfg access
    pure { req with spec := withDefaults cfg req.spec target }

/-- `WebhookMutating` of AppHttpHealthy: a host with no `http` in it gets
`http://` in front. -/
def appHttpHealthyWebhookMutating (cfg : Configmap) (req : Task AppHttpHealthyTarget) :
    Except String (Task AppHttpHealthyTarget) :=
  if req.deletionTimestamp.isSome then pure req
  else
    match req.spec.target with
    | none => throw nilDereference
    | some target =>
      let protoclHttp := contains target.host "http"
      let protoclHttps := contains target.host "https"
      let host := if !protoclHttp && !protoclHttps then "http://" ++ target.host else target.host
      pure { req with spec := withDefaults cfg req.spec { target with host } }

/-- `WebhookMutating` of Netdns: it only fills in the grace period. -/
def netdnsWebhookMutating (cfg : Configmap) (r : Task NetDnsTarget) : Task NetDnsTarget :=
  { r with spec := { r.spec with agentSpec := defaultAgentSpec cfg r.spec.agentSpec } }

/-! ## The validating webhooks -/

/-- `ValidataCrdSchedule` on the task's plan, its error under the kind's label. -/
def validateSchedule (parseStandard : String → Except String (Int → Int)) (label name : String)
    (plan : Option SchedulePlan) : Except String Unit :=
  match validataCrdSchedule parseStandard plan with
  | .error err => .error (label ++ " " ++ name ++ " : " ++ err)
  | .ok () => .ok ()

/-- The checks of the request against the kind's maximum QPS and the round
timeout. -/
def validateRequest (label name : String) (maxQPS : Int) (request : Option Request)
    (schedule : Option SchedulePlan) : Except String Unit :=
  match request with
  | none => .error nilDereference
  | some r =>
    if r.qps ≥ maxQPS then
      .error (label ++ " " ++ name ++ " requires qps " ++ toString r.qps ++ " bigger than maximum " ++
        toString maxQPS)
    else
      match schedule with
      | none => .error nilDereference
      | some plan =>
        if r.perRequestTimeoutInMS > toInt64 (plan.roundTimeoutMinute * 60 * 1000) then
          .error (label ++ " " ++ name ++ " requires PerRequestTimeoutInMS " ++
            toString r.perRequestTimeoutInMS ++ " ms smaller than Schedule.RoundTimeoutMinute " ++
            toString plan.roundTimeoutMinute ++ "m ")
        else if r.durationInSecond > toInt64 (plan.roundTimeoutMinute * 60) then
          .error (label ++ " " ++ name ++ " requires request.DurationInSecond " ++
            toString r.durationInSecond ++ "s smaller than Schedule.RoundTimeoutMinute " ++
            toString plan.roundTimeoutMinute ++ "m ")
        else .ok ()

/-- The checks of the success condition. -/
def validateSuccessCondition (formatFloat : ℚ → String) (label name : String) :
    Option NetSuccessCondition → Except String Unit
  | none => .error nilDereference
  | some c =>
    if c.successRate.isNone ∧ c.meanAccessDelayInMs.isNone then
      .error (label ++ " " ++ name ++ ", no SuccessCondition specified in the spec")
    else
      match c.successRate with
      | some rate =>
        if rate > 1 then
          .error (label ++ " " ++ name ++ ", SuccessCondition.SuccessRate " ++ formatFloat rate ++
            " must not be bigger than 1")
        else if rate < 0 then
          .error (label ++ " " ++ name ++ ", SuccessCondition.SuccessRate " ++ formatFloat rate ++
            " must not be smaller than 0 ")
        else .ok ()
      | none => .ok ()

/-- `types.TaskRuntimes`. -/
def taskRuntimes : List String := ["Deployment", "DaemonSet"]

/-- The check of the agent's runtime kind. -/
def validateAgentSpec : Option AgentSpec → Except String Unit
  | some a =>
    if a.kind ∉ taskRuntimes then .error ("Invalid agent runtime kind " ++ a.kind) else .ok ()
  | none => .ok ()

/-- The checks of a validating webhook, in the order it makes them, with the
kind's own check of its target third. -/
def validateCreate {τ : Type} (parseStandard : String → Except String (Int → Int))
    (formatFloat : ℚ → String) (label : String) (maxQPS : Int)
    (validateTarget : String → Option τ → Except String Unit) (r : Task τ) : Except String Unit := do
  validateSchedule parseStandard label r.name r.spec.schedule
  validateRequest label r.name maxQPS r.spec.request r.spec.schedule
  validateTarget r.name r.spec.target
  validateSuccessCondition formatFloat label r.name r.spec.successCondition
  validateAgentSpec r.spec.agentSpec

/-- The target check of NetReach: a family it tests must be enabled. -/
def validateNetReachTarget (cfg : Configmap) (name : String) : Option NetReachTarget → Except String Unit
  | some t =>
    if t.iPv4 = some true ∧ !cfg.enableIPv4 then
      .error ("NetReach " ++ name ++ " TestIPv4, but kdoctor ipv4 feature is disabled")
    else if t.iPv6 = some true ∧ !cfg.enableIPv6 then
      .error ("NetReach " ++ name ++ " TestIPv6, but kdoctor ipv6 feature is disabled")
    else .ok ()
  | none => .ok ()

/-- The target check of Netdns: not both targets at once. -/
def validateNetdnsTarget (name : String) : Option NetDnsTarget → Except String Unit
  | some t =>
    if t.netDnsTargetDns ∧ t.netDnsTargetUser then
      .error ("netdns " ++ name ++ ", forbid to set TargetUser and TargetDns at same time")
    else .ok ()
  | none => .error nilDereference

/-- The error of one entry of a TLS secret, if any: the three known keys must
have a value, and no other key may be there. -/
def tlsEntryError (name secretNamespace secretName key value : String) : Option String :=
  let secret := "HttpAppHealthy " ++ name ++ " get tls secret " ++ secretNamespace ++ "/" ++ secretName
  if key = "ca.crt" then
    if value.isEmpty then some (secret ++ " ca.crt value is nil") else none
  else if key = "tls.crt" then
    if value.isEmpty then some (secret ++ " tls.crt value is nil") else none
  else if key = "tls.key" then
    if value.isEmpty then some (secret ++ " tls.key value is nil") else none
  else
    -- the message prints the value where it means the key
    some (secret ++ " key " ++ value ++ ",keys other than ca.crt, tls.crt, and tls.key cannot be used")

/-- The loop over the data of a TLS secret, which stops at the first entry
with an error in the order `range` visits them. -/
def checkTlsData (it : Iteration (String × String)) (name secretNamespace secretName : String)
    (data : GoMap String String) : Except String Unit :=
  match (it.order data.entries).findSome? (fun e => tlsEntryError name secretNamespace secretName e.1 e.2) with
  | some err => .error err
  | none => .ok ()

/-- The target check of AppHttpHealthy: a target must be given, its TLS
secret must be readable and well formed, and its host must pass
`ValidataAppHttpHealthyHost`. -/
def validateAppHttpHealthyTarget (getSecret : String → String → Except String (GoMap String String))
    (it : Iteration (String × String)) (validataAppHttpHealthyHost : String → String → Except String Unit)
    (name : String) : Option AppHttpHealthyTarget → Except String Unit
  | none => .error ("HttpAppHealthy " ++ name ++ ", no target specified in the spec")
  | some t => do
    match t.tlsSecretName with
    | none => pure ()
    | some secretName =>
      match t.tlsSecretNamespace with
      | none => throw nilDereference
      | some secretNamespace =>
        match getSecret secretName secretNamespace with
        | .error err =>
          throw ("HttpAppHealthy " ++ name ++ " failed get secret " ++ secretNamespace ++ "/" ++ secretName ++
            " err: " ++ err)
        | .ok data => checkTlsData it name secretNamespace secretName data
    validataAppHttpHealthyHost name t.host

/-- `WebhookValidateCreate` of NetReach. -/
def netReachWebhookValidateCreate (cfg : Configmap) (parseStandard : String → Except String (Int → Int))
    (formatFloat : ℚ → String) : Task NetReachTarget → Except String Unit :=
  validateCreate parseStandard formatFloat "NetReach" cfg.netReachRequestMaxQPS (validateNetReachTarget cfg)

/-- `WebhookValidateCreate` of AppHttpHealthy. -/
def appHttpHealthyWebhookValidateCreate (cfg : Configmap)
    (parseStandard : String → Except String (Int → Int)) (formatFloat : ℚ → String)
    (getSecret : String → String → Except String (GoMap String String))
    (it : Iteration (String × String))
    (validataAppHttpHealthyHost : String → String → Except String Unit) :
    Task AppHttpHealthyTarget → Except String Unit :=
  validateCreate parseStandard formatFloat "HttpAppHealthy" cfg.appHttpHealthyRequestMaxQPS
    (validateAppHttpHealthyTarget getSecret it validataAppHttpHealthyHost)

/-- `WebhookValidateCreate` of Netdns. -/
def netdnsWebhookValidateCreate (cfg : Configmap) (parseStandard : String → Except String (Int → Int))
    (formatFloat : ℚ → String) : Task NetDnsTarget → Except String Unit :=
  validateCreate parseStandard formatFloat "netdns" cfg.netDnsRequestMaxQPS validateNetdnsTarget

/-! ## The checks -/

section Checks

variable {τ : Type} {parseStandard : String → Except String (Int → Int)} {formatFloat : ℚ → String}
  {label : String} {maxQPS : Int} {validateTarget : String → Option τ → Except String Unit}

/-- A validating webhook refuses a task whose plan fails `ValidataCrdSchedule`
with that error, under the kind's label, before any other check. -/
theorem validateCreate_of_validataCrdSchedule {r : Task τ} {err : String}
    (h : validataCrdSchedule parseStandard r.spec.schedule = .error err) :
    validateCreate parseStandard formatFloat label maxQPS validateTarget r =
      .error (label ++ " " ++ r.name ++ " : " ++ err) := by
  unfold validateCreate validateSchedule
  rw [h]
  rfl

end Checks

/-- The default schedule fails `ValidataCrdSchedule`: its round timeout of
60 minutes is longer than its interval of one minute. -/
theorem validataCrdSchedule_getDefaultSchedule (parseStandard : String → Except String (Int → Int)) :
    validataCrdSchedule parseStandard (some getDefaultSchedule) =
      .error "Schedule.RoundTimeoutMinute 60 must not be bigger than Schedule.IntervalMinute 1 " := by
  have hsplit : split "0 1" ' ' = ["0", "1"] := by decide
  have hstart : atoi "0" = (0, true) := by decide
  have hinterval : atoi "1" = (1, true) := by decide
  simp only [validataCrdSchedule, getDefaultSchedule, hsplit, hstart, hinterval]
  decide

/-- An entry of a TLS secret passes exactly when it is one of the three known
keys and has a value. -/
theorem tlsEntryError_eq_none {name secretNamespace secretName key value : String} :
    tlsEntryError name secretNamespace secretName key value = none ↔
      key ∈ ["ca.crt", "tls.crt", "tls.key"] ∧ value ≠ "" := by
  unfold tlsEntryError
  split_ifs <;> simp_all [String.isEmpty_iff]

/-- The TLS check passes exactly when every entry of the secret does: whether
it passes does not depend on the order of the loop, only which error it
reports does. -/
theorem checkTlsData_eq_ok {it : Iteration (String × String)} {name secretNamespace secretName : String}
    {data : GoMap String String} :
    checkTlsData it name secretNamespace secretName data = .ok () ↔
      ∀ e ∈ data.entries, tlsEntryError name secretNamespace secretName e.1 e.2 = none := by
  unfold checkTlsData
  rw [← it.findSome?_eq_none_iff]
  split
  · next err herr => simp [herr]
  · next herr => simp [herr]

/-! ## Defaults -/

section Defaults

variable {cfg : Configmap}

theorem withDefaults_schedule_of_none {τ : Type} {spec : TaskSpec τ} (h : spec.schedule = none)
    (target : τ) : (withDefaults cfg spec target).schedule = some getDefaultSchedule := by
  simp [withDefaults, h]

/-- The mutating webhook of a NetReach that is not being deleted keeps its
target or puts in the default one, and fills in every other default. -/
theorem netReachWebhookMutating_eq_ok {access : AgentAccess} {r r' : Task NetReachTarget}
    (hdel : r.deletionTimestamp = none) (h : netReachWebhookMutating cfg access r = .ok r') :
    ∃ target, r' = { r with spec := withDefaults cfg r.spec target } ∧
      (r.spec.target = some target ∨
        r.spec.target = none ∧ defaultNetReachTarget cfg access = .ok target) := by
  obtain ⟨name, deletionTimestamp, spec⟩ := r
  subst hdel
  unfold netReachWebhookMutating at h
  cases ht : spec.target with
  | some target =>
    simp [ht, bind, Except.bind, pure, Except.pure] at h
    exact ⟨target, h.symm, Or.inl rfl⟩
  | none =>
    cases hd : defaultNetReachTarget cfg access with
    | error err => simp [ht, hd, bind, Except.bind] at h
    | ok target =>
      simp [ht, hd, bind, Except.bind, pure, Except.pure] at h
      exact ⟨target, h.symm, Or.inr ⟨rfl, rfl⟩⟩

/-- The host the mutating webhook of AppHttpHealthy leaves: `http://` in front
of a host with no `http` in it. Its test for `https` changes nothing, since a
host that contains `https` contains `http`. -/
theorem appHttpHealthyWebhookMutating_eq_ok {r r' : Task AppHttpHealthyTarget}
    (hdel : r.deletionTimestamp = none) (h : appHttpHealthyWebhookMutating cfg r = .ok r') :
    ∃ target, r.spec.target = some target ∧ r' = ⟨r.name, r.deletionTimestamp, withDefaults cfg r.spec
      { target with host := if contains target.host "http" then target.host else "http://" ++ target.host }⟩ := by
  obtain ⟨name, deletionTimestamp, spec⟩ := r
  subst hdel
  unfold appHttpHealthyWebhookMutating at h
  cases ht : spec.target with
  | none => simp [ht, throw, throwThe, MonadExceptOf.throw] at h
  | some target =>
    have hhttps : contains target.host "https" = true → contains target.host "http" = true :=
      fun hs => contains_of_infix hs (by decide)
    refine ⟨target, rfl, ?_⟩
    simp only [ht, Option.isSome_none, Bool.false_eq_true, if_false, pure, Except.pure,
      Except.ok.injEq] at h
    rw [← h]
    by_cases hhttp : contains target.host "http" = true
    · simp [hhttp]
    · have hno : contains target.host "https" = false := by
        cases hc : contains target.host "https"
        · rfl
        · exact absurd (hhttps hc) hhttp
      simp [hhttp, hno]

end Defaults

/-- No task created without a schedule is admitted: the mutating webhooks of
NetReach and AppHttpHealthy put in the default schedule, which their
validating webhooks refuse, and that of Netdns puts in none. -/
theorem scheduleless_task_refused (cfg : Configmap) (parseStandard : String → Except String (Int → Int))
    (formatFloat : ℚ → String) :
    (∀ (access : AgentAccess) (r r' : Task NetReachTarget), r.deletionTimestamp = none →
      r.spec.schedule = none → netReachWebhookMutating cfg access r = .ok r' →
      netReachWebhookValidateCreate cfg parseStandard formatFloat r' =
        .error ("NetReach" ++ " " ++ r.name ++ " : " ++
          "Schedule.RoundTimeoutMinute 60 must not be bigger than Schedule.IntervalMinute 1 ")) ∧
    (∀ getSecret it validataAppHttpHealthyHost (r r' : Task AppHttpHealthyTarget),
      r.deletionTimestamp = none → r.spec.schedule = none → appHttpHealthyWebhookMutating cfg r = .ok r' →
      appHttpHealthyWebhookValidateCreate cfg parseStandard formatFloat getSecret it
          validataAppHttpHealthyHost r' =
        .error ("HttpAppHealthy" ++ " " ++ r.name ++ " : " ++
          "Schedule.RoundTimeoutMinute 60 must not be bigger than Schedule.IntervalMinute 1 ")) ∧
    (∀ r : Task NetDnsTarget, r.spec.schedule = none →
      netdnsWebhookValidateCreate cfg parseStandard formatFloat (netdnsWebhookMutating cfg r) =
        .error ("netdns" ++ " " ++ r.name ++ " : " ++ "schedule is empty")) := by
  refine ⟨fun access r r' hdel hsched hmut => ?_, fun getSecret it host r r' hdel hsched hmut => ?_,
    fun r hsched => ?_⟩
  · obtain ⟨target, rfl, -⟩ := netReachWebhookMutating_eq_ok hdel hmut
    unfold netReachWebhookValidateCreate
    refine validateCreate_of_validataCrdSchedule ?_
    rw [withDefaults_schedule_of_none hsched]
    exact validataCrdSchedule_getDefaultSchedule parseStandard
  · obtain ⟨target, -, rfl⟩ := appHttpHealthyWebhookMutating_eq_ok hdel hmut
    unfold appHttpHealthyWebhookValidateCreate
    refine validateCreate_of_validataCrdSchedule ?_
    rw [withDefaults_schedule_of_none hsched]
    exact validataCrdSchedule_getDefaultSchedule parseStandard
  · -- Netdns's mutating webhook leaves the schedule nil
    unfold netdnsWebhookValidateCreate
    refine validateCreate_of_validataCrdSchedule ?_
    show validataCrdSchedule parseStandard r.spec.schedule = _
    rw [hsched]
    rfl

/-- The chart's configuration: both families, a default request of 10 QPS for
2 seconds with 500 ms timeouts, maximum QPS of 20, 100 and 100, and a grace
period of 60 minutes. -/
def chartConfigmap : Configmap := ⟨true, true, 10, 2, 500, 20, 100, 100, 60⟩

/-- A NetReach named `nr` that gives nothing but its name. -/
def bareNetReach : Task NetReachTarget := ⟨"nr", none, ⟨none, none, none, none, none⟩⟩

/-- A bare NetReach, with the agent's services and ingress in place, is
refused. -/
theorem scheduleless_task_refused_bareNetReach :
    ∃ r', netReachWebhookMutating chartConfigmap ⟨some 0, some [], some []⟩ bareNetReach = .ok r' ∧
      netReachWebhookValidateCreate chartConfigmap (fun _ => .error "") (fun _ => "") r' =
        .error ("NetReach" ++ " " ++ bareNetReach.name ++ " : " ++
          "Schedule.RoundTimeoutMinute 60 must not be bigger than Schedule.IntervalMinute 1 ") := by
  refine ⟨_, rfl, ?_⟩
  exact (scheduleless_task_refused chartConfigmap _ _).1 ⟨some 0, some [], some []⟩ bareNetReach _ rfl rfl rfl

end KDoctor.PluginManager
