import KDoctor.Scheduler.Generate
import KDoctor.Scheduler.Tracker
import KDoctor.PluginManager.Webhook

/-!
`CreateTaskRuntimeIfNotExist` of `scheduler/schedule.go`. The reconciler's
first handling of a task with an `AgentSpec` creates the task's runtime, a
Deployment or a DaemonSet named `TaskRuntimeName`, and a Service named
`TaskRuntimeServiceName` for each enabled IP family, each unless an object of
that name is already there, and returns the `TaskResource` that the tracker
then follows.

The controller's namespace is a map from kind and name to object. The calls
to the API server succeed here: a `Get` that fails otherwise than with
`NotFound`, or a `Create` that fails, returns its error, and is left out.
The agent's runtime kind `AgentSpec.Kind` is the parameter `agentKind`, and
the `Ingress` flag of a NetReach's target the parameter `ingress`.

`createTaskRuntimeIfNotExist_idem` shows that a second call creates nothing
and returns the same resource, and `createTaskRuntimeIfNotExist_refines` that
the resource is the one the tracker's `Controller` of the kind names, so that
the tracker's model of the reconciler is the scheduler's.

Last, the time at which the tracker deletes a finished task's runtime, which
both `TaskResourceReconcile` and `Reconcile` compute from the grace period
that the webhooks admit without a bound.
-/

namespace KDoctor.Scheduler

open Crd K8s

/-- The key of an object of the controller's namespace: its kind and name. -/
structure ObjectKey where
  kind : String
  name : List Char
  deriving DecidableEq, Repr

/-- An object the scheduler creates. -/
inductive Object
  | deployment (d : Deployment)
  | daemonSet (d : DaemonSet)
  | service (s : Service)
  /-- `generateIngress` of a Service's name -/
  | ingress (serviceName : List Char)

/-- The objects of the controller's namespace. -/
abbrev Cluster := GoMap ObjectKey Object

/-- `createService`. -/
def createService (s : Scheduler) (g : Globals) (cluster : Cluster) (taskRuntimeName : List Char)
    (agentSpec : AgentSpec) (ipFamily : IPFamily) : List Char × Cluster :=
  let svcName := taskRuntimeServiceName taskRuntimeName ipFamily
  -- `Get`, and on `NotFound` `Create`
  (svcName, cluster.setIfAbsent ⟨"Service", svcName⟩ (.service (generateService s g agentSpec ipFamily)))

/-- `createIngress`. -/
def createIngress (cluster : Cluster) (serviceName : List Char) : Cluster :=
  cluster.setIfAbsent ⟨"Ingress", serviceName⟩ (.ingress serviceName)

/-- `types.KindNameNetReach` -/
def kindNameNetReach : List Char := "NetReach".toList

/-- `CreateTaskRuntimeIfNotExist`. -/
def createTaskRuntimeIfNotExist (s : Scheduler) (g : Globals) (cluster : Cluster) (agentKind : String)
    (agentSpec : AgentSpec) (ingress : Bool) : Except String (TaskResource × Cluster) :=
  let taskRuntimeName := taskRuntimeName s.taskKind s.taskName
  if agentKind ≠ "Deployment" ∧ agentKind ≠ "DaemonSet" then
    .error ("unrecognized agent runtime kind '" ++ agentKind ++ "'")
  else
    let runtime : Object :=
      if agentKind = "Deployment" then .deployment (generateDeployment s g agentSpec)
      else .daemonSet (generateDaemonSet s g agentSpec)
    let cluster := cluster.setIfAbsent ⟨agentKind, taskRuntimeName⟩ runtime
    let (serviceNameV4, cluster) :=
      if g.enableIPv4 then
        let (svcName, cluster) := createService s g cluster taskRuntimeName agentSpec .iPv4
        (some svcName,
          if s.taskKind = kindNameNetReach ∧ ingress then createIngress cluster svcName else cluster)
      else (none, cluster)
    let (serviceNameV6, cluster) :=
      if g.enableIPv6 then
        let (svcName, cluster) := createService s g cluster taskRuntimeName agentSpec .iPv6
        (some svcName, cluster)
      else (none, cluster)
    .ok (⟨String.ofList taskRuntimeName, agentKind, serviceNameV4.map String.ofList,
      serviceNameV6.map String.ofList, .creating⟩, cluster)

/-! ## What a call creates and returns -/

/-- The objects `CreateTaskRuntimeIfNotExist` creates where their names are
free, in the order it creates them. -/
def runtimeObjects (s : Scheduler) (g : Globals) (agentKind : String) (agentSpec : AgentSpec)
    (ingress : Bool) : List (ObjectKey × Object) :=
  let taskRuntimeName := taskRuntimeName s.taskKind s.taskName
  let svcNameV4 := taskRuntimeServiceName taskRuntimeName .iPv4
  let svcNameV6 := taskRuntimeServiceName taskRuntimeName .iPv6
  [(⟨agentKind, taskRuntimeName⟩,
    if agentKind = "Deployment" then .deployment (generateDeployment s g agentSpec)
    else .daemonSet (generateDaemonSet s g agentSpec))] ++
  (if g.enableIPv4 then
    (⟨"Service", svcNameV4⟩, .service (generateService s g agentSpec .iPv4)) ::
      (if s.taskKind = kindNameNetReach ∧ ingress then [(⟨"Ingress", svcNameV4⟩, .ingress svcNameV4)]
      else [])
  else []) ++
  (if g.enableIPv6 then [(⟨"Service", svcNameV6⟩, .service (generateService s g agentSpec .iPv6))]
  else [])

/-- For a runtime kind it knows, `CreateTaskRuntimeIfNotExist` creates the
objects of `runtimeObjects` whose names are free and returns
`runtimeResource`; for another it fails and creates nothing. -/
theorem createTaskRuntimeIfNotExist_eq (s : Scheduler) (g : Globals) (cluster : Cluster)
    (agentKind : String) (agentSpec : AgentSpec) (ingress : Bool) :
    createTaskRuntimeIfNotExist s g cluster agentKind agentSpec ingress =
      if agentKind ≠ "Deployment" ∧ agentKind ≠ "DaemonSet" then
        .error ("unrecognized agent runtime kind '" ++ agentKind ++ "'")
      else
        .ok (runtimeResource g s.taskKind s.taskName agentKind,
          cluster.setAllIfAbsent (runtimeObjects s g agentKind agentSpec ingress)) := by
  unfold createTaskRuntimeIfNotExist runtimeObjects runtimeResource createService createIngress
  split
  · rfl
  · -- one case for each family enabled, and for the IPv4 Ingress
    cases g.enableIPv4 <;> cases g.enableIPv6 <;>
      by_cases hi : s.taskKind = kindNameNetReach ∧ ingress <;>
      simp [hi, GoMap.setAllIfAbsent]

/-- Called again on the namespace it leaves, `CreateTaskRuntimeIfNotExist`
finds every object it asks for and changes nothing. -/
theorem createTaskRuntimeIfNotExist_idem {s : Scheduler} {g : Globals} {cluster cluster' : Cluster}
    {agentKind : String} {agentSpec : AgentSpec} {ingress : Bool} {resource : TaskResource}
    (h : createTaskRuntimeIfNotExist s g cluster agentKind agentSpec ingress = .ok (resource, cluster')) :
    createTaskRuntimeIfNotExist s g cluster' agentKind agentSpec ingress = .ok (resource, cluster') := by
  rw [createTaskRuntimeIfNotExist_eq] at h ⊢
  split at h
  · cases h
  · rename_i hkind
    rw [if_neg hkind]
    obtain ⟨rfl, rfl⟩ := Prod.mk.inj (Except.ok.inj h)
    rw [GoMap.setAllIfAbsent_idem]

/-- A runtime kind the validating webhooks admit is one the scheduler knows. -/
theorem knownKind_of_validateAgentSpec {agentKind : String} {grace : Option Int}
    (h : PluginManager.validateAgentSpec (some ⟨agentKind, grace⟩) = .ok ()) :
    ¬(agentKind ≠ "Deployment" ∧ agentKind ≠ "DaemonSet") := by
  by_cases hmem : agentKind ∈ PluginManager.taskRuntimes
  · simp only [PluginManager.taskRuntimes, List.mem_cons, List.not_mem_nil, or_false] at hmem
    tauto
  · simp [PluginManager.validateAgentSpec, hmem] at h

/-- For a task whose runtime kind the validating webhooks admit, whatever the
namespace holds, `CreateTaskRuntimeIfNotExist` succeeds with the resource the
tracker's controller of the kind names; it leaves every object it found,
and the runtime is there afterwards; and called again, it changes nothing and
returns the same resource. -/
theorem createTaskRuntimeIfNotExist_refines (g : Globals) (kindName : String)
    (defaultResource : TaskResource) (taskName : String) (uniqueLabelKey : List Char)
    (cluster : Cluster) (agentKind : String) (grace : Option Int) (agentSpec : AgentSpec)
    (ingress : Bool) (hkind : PluginManager.validateAgentSpec (some ⟨agentKind, grace⟩) = .ok ()) :
    let s := newScheduler kindName.toList taskName.toList uniqueLabelKey
    let resource := (schedulerController g kindName defaultResource agentKind).createTaskRuntime taskName
    ∃ cluster', createTaskRuntimeIfNotExist s g cluster agentKind agentSpec ingress = .ok (resource, cluster') ∧
      (∀ k o, cluster.get k = some o → cluster'.get k = some o) ∧
      (cluster'.get ⟨agentKind, taskRuntimeName kindName.toList taskName.toList⟩).isSome ∧
      createTaskRuntimeIfNotExist s g cluster' agentKind agentSpec ingress = .ok (resource, cluster') := by
  intro s resource
  have hcall : createTaskRuntimeIfNotExist s g cluster agentKind agentSpec ingress =
      .ok (resource, cluster.setAllIfAbsent (runtimeObjects s g agentKind agentSpec ingress)) := by
    rw [createTaskRuntimeIfNotExist_eq, if_neg (knownKind_of_validateAgentSpec hkind)]
    rfl
  refine ⟨_, hcall, fun k o hk => GoMap.get_setAllIfAbsent_of_get hk _, ?_,
    createTaskRuntimeIfNotExist_idem hcall⟩
  -- the runtime is the first object the call asks for
  exact GoMap.isSome_setAllIfAbsent cluster
    (List.mem_map.mpr ⟨_, List.mem_append_left _ (List.mem_append_left _ (List.mem_singleton_self _)), rfl⟩)

/-- A NetReach named `demo` with Deployment agents, on an empty namespace. -/
theorem createTaskRuntimeIfNotExist_refines_demo :
    PluginManager.validateAgentSpec (some ⟨"Deployment", none⟩) = .ok () ∧
    ∃ cluster', createTaskRuntimeIfNotExist (newScheduler "NetReach".toList "demo".toList uniqueMatchLabelKey)
        chartGlobals .empty "Deployment" ⟨.empty, none, false⟩ false =
        .ok ((schedulerController chartGlobals "NetReach" netReachController.defaultResource
          "Deployment").createTaskRuntime "demo", cluster') ∧
      createTaskRuntimeIfNotExist (newScheduler "NetReach".toList "demo".toList uniqueMatchLabelKey)
        chartGlobals cluster' "Deployment" ⟨.empty, none, false⟩ false =
        .ok ((schedulerController chartGlobals "NetReach" netReachController.defaultResource
          "Deployment").createTaskRuntime "demo", cluster') := by
  have hkind : PluginManager.validateAgentSpec (some ⟨"Deployment", none⟩) = .ok () := by decide
  obtain ⟨cluster', hcall, -, -, hagain⟩ := createTaskRuntimeIfNotExist_refines chartGlobals "NetReach"
    netReachController.defaultResource "demo" uniqueMatchLabelKey .empty "Deployment" none
    ⟨.empty, none, false⟩ false hkind
  exact ⟨hkind, cluster', hcall, hagain⟩

/-! ## The runtime's deletion time -/

theorem deletionTime_before_finish :
    (∀ obj : TaskObject, ∀ finishTime, obj.status.finishTime = some finishTime →
      reconcileDeletionTime obj.status.finishTime obj.agentSpec = some (deletionTimeOf obj)) ∧
    (∀ obj : TaskObject, ∀ finishTime deletionTime, obj.status.finishTime = some finishTime →
      (∀ a ∈ obj.agentSpec, ∀ g ∈ a.terminationGracePeriodMinutes, 0 ≤ g ∧ g ≤ 153722867) →
      deletionTimeOf obj = some deletionTime → finishTime ≤ deletionTime) ∧
    PluginManager.validateAgentSpec (some ⟨"DaemonSet", some (-1)⟩) = .ok () ∧
    deletionTimeOf ⟨none, some ⟨some (-1)⟩,
      { finish := true, finishTime := some 1700000000000000000 }⟩ = some 1699999940000000000 ∧
    PluginManager.validateAgentSpec (some ⟨"DaemonSet", some 153722868⟩) = .ok () ∧
    deletionTimeOf ⟨none, some ⟨some 153722868⟩,
      { finish := true, finishTime := some 1700000000000000000 }⟩ = some (-7523371993709551616) := by
  -- a negative grace period, and one whose nanoseconds wrap past the `int64` maximum
  exact ⟨fun obj _ hf => reconcileDeletionTime_eq hf,
    fun obj _ _ hf hgrace hd => finish_le_deletionTimeOf hf hgrace hd, by decide, by decide,
    by decide, by decide⟩

end KDoctor.Scheduler
