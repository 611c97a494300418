import KDoctor.Scheduler.Names
import KDoctor.Lib.GoMap

/-!
The workloads and Services the scheduler builds for a task from the templates
of the controller's configmap (`scheduler/schedule.go`), and the pod selector
that the controller's `Reconcile` uses to find the agents of a task.

The key of the label that tells the agents of one task from the others is
configured (`KdoctorAgent.UniqueMatchLabelKey`; `app.kubernetes.io/name`
when empty). The selectors of the workloads and of the Services and the
controller's selector use the configured key, but `generatePodTemplateSpec`
labels the pods under the constant `UniqueMatchLabelKey`.
`runtimeSelectors_agree` shows that every selector matches the task's pods
under the default key, and that none does under another key, unless the pod
template already gives the task's value under it.

Only the parts of the Kubernetes objects that these functions write are
modelled, and a label selector is its `MatchLabels`.
-/

namespace KDoctor.Scheduler

open K8s

/-- Labels, annotations and label selectors: maps of text to text. -/
abbrev Labels := GoMap (List Char) (List Char)

/-- `UniqueMatchLabelKey` -/
def uniqueMatchLabelKey : List Char := "app.kubernetes.io/name".toList

def containerArgTaskKind : List Char := "--task-kind".toList

def containerArgTaskName : List Char := "--task-name".toList

def containerArgServiceV4 : List Char := "--service-ipv4-name".toList

def containerArgServiceV6 : List Char := "--service-ipv6-name".toList

/-- `corev1.DNSPolicy` -/
inductive DNSPolicy
  | clusterFirstWithHostNet
  | clusterFirst
  | default
  | none
  deriving DecidableEq, Repr

structure Container where
  args : List (List Char)
  deriving DecidableEq, Repr

/-- The parts of a pod that the scheduler sets: the pod template of the
configmap, and the `corev1.PodTemplateSpec` built from it. -/
structure PodTemplateSpec where
  labels : Labels
  annotations : Labels
  containers : List Container
  hostNetwork : Bool
  dnsPolicy : DNSPolicy

/-- `metav1.LabelSelector`, by its `MatchLabels`. -/
structure LabelSelector where
  matchLabels : Labels

structure Deployment where
  annotations : Labels
  selector : Option LabelSelector
  replicas : Option Int
  template : PodTemplateSpec

structure DaemonSet where
  annotations : Labels
  selector : Option LabelSelector
  template : PodTemplateSpec

structure Service where
  annotations : Labels
  selector : Labels
  ipFamilies : List IPFamily

/-- The fields of `v1beta1.AgentSpec` that the generators read. -/
structure AgentSpec where
  annotation : Labels
  deploymentReplicas : Option Int
  hostNetwork : Bool

/-- What the generators read from package `types`: the templates of the
configmap and whether each IP family is enabled. -/
structure Globals where
  deploymentTempl : Deployment
  daemonsetTempl : DaemonSet
  podTempl : PodTemplateSpec
  serviceTempl : Service
  enableIPv4 : Bool
  enableIPv6 : Bool

/-- The labels a selector asks for; a nil selector asks for none. -/
def selectorLabels : Option LabelSelector → Labels
  | some selector => selector.matchLabels
  | none => .empty

set_option linter.dupNamespace false in
/-- The fields of `Scheduler` that the generators read. -/
structure Scheduler where
  taskKind : List Char
  taskName : List Char
  uniqueLabelKey : List Char
  uniqueLabelValue : List Char

/-- `NewScheduler`. -/
def newScheduler (taskKind taskName uniqueLabelKey : List Char) : Scheduler :=
  ⟨taskKind, taskName, uniqueLabelKey, uniqueMatchLabelValue taskKind taskName⟩

/-- `AppendAnnotationOrLabel`. -/
def appendAnnotationOrLabel (origin addition : Labels) : Labels := origin.assign addition

/-- `origin` with the annotations of an `AgentSpec` added, when it has any. -/
def withAnnotation (origin : Labels) (agentSpec : AgentSpec) : Labels :=
  if agentSpec.annotation.entries.length ≠ 0 then appendAnnotationOrLabel origin agentSpec.annotation
  else origin

/-- The container arguments `generatePodTemplateSpec` appends. -/
def containerArgs (s : Scheduler) (g : Globals) : List (List Char) :=
  [containerArgTaskKind ++ '=' :: s.taskKind, containerArgTaskName ++ '=' :: s.taskName] ++
    (if g.enableIPv4 then
      [containerArgServiceV4 ++ '=' ::
        taskRuntimeServiceName (taskRuntimeName s.taskKind s.taskName) .iPv4]
    else []) ++
    (if g.enableIPv6 then
      [containerArgServiceV6 ++ '=' ::
        taskRuntimeServiceName (taskRuntimeName s.taskKind s.taskName) .iPv6]
    else [])

/-- `generatePodTemplateSpec`. -/
def generatePodTemplateSpec (s : Scheduler) (g : Globals) (uniqueLabelVal : List Char)
    (agentSpec : AgentSpec) : PodTemplateSpec :=
  let pod := g.podTempl
  let containers := pod.containers.map fun c => { c with args := c.args ++ containerArgs s g }
  -- the pods are labelled under the constant key, not `s.uniqueLabelKey`
  let labels := pod.labels.set uniqueMatchLabelKey uniqueLabelVal
  let (hostNetwork, dnsPolicy) :=
    if pod.hostNetwork ≠ agentSpec.hostNetwork then
      if agentSpec.hostNetwork then (true, DNSPolicy.clusterFirstWithHostNet)
      else (false, DNSPolicy.clusterFirst)
    else (pod.hostNetwork, pod.dnsPolicy)
  { labels, annotations := withAnnotation pod.annotations agentSpec, containers, hostNetwork,
    dnsPolicy }

/-- `generateDeployment`. -/
def generateDeployment (s : Scheduler) (g : Globals) (agentSpec : AgentSpec) : Deployment :=
  let deployment := g.deploymentTempl
  let selector : LabelSelector :=
    ⟨appendAnnotationOrLabel (selectorLabels deployment.selector)
      (.single s.uniqueLabelKey s.uniqueLabelValue)⟩
  { annotations := withAnnotation deployment.annotations agentSpec
    selector := some selector
    replicas :=
      match agentSpec.deploymentReplicas with
      | some replicas => some replicas
      | none => deployment.replicas
    template := generatePodTemplateSpec s g s.uniqueLabelValue agentSpec }

/-- `generateDaemonSet`. -/
def generateDaemonSet (s : Scheduler) (g : Globals) (agentSpec : AgentSpec) : DaemonSet :=
  let daemonSet := g.daemonsetTempl
  let selector : LabelSelector :=
    ⟨appendAnnotationOrLabel (selectorLabels daemonSet.selector)
      (.single s.uniqueLabelKey s.uniqueLabelValue)⟩
  { annotations := withAnnotation daemonSet.annotations agentSpec
    selector := some selector
    template := generatePodTemplateSpec s g s.uniqueLabelValue agentSpec }

/-- `generateService`. -/
def generateService (s : Scheduler) (g : Globals) (agentSpec : AgentSpec) (ipFamily : IPFamily) :
    Service :=
  let service := g.serviceTempl
  { annotations := withAnnotation service.annotations agentSpec
    selector := service.selector.set s.uniqueLabelKey s.uniqueLabelValue
    ipFamilies := [ipFamily] }


/-- The unique label key `RunControllerController` gives the reconcilers. -/
def runtimeUniqueMatchLabelKey (configured : List Char) : List Char :=
  if configured.length = 0 then uniqueMatchLabelKey else configured

/-- The pod selector `runtimePodMatchLabels` of `Reconcile` for a task. -/
def runtimePodMatchLabels (runtimeUniqueMatchLabelKey defaultAgentName kindName instanceName : List Char)
    (agentSpec : Option AgentSpec) : Labels :=
  match agentSpec with
  | none => .single uniqueMatchLabelKey defaultAgentName
  | some _ => .single runtimeUniqueMatchLabelKey (uniqueMatchLabelValue kindName instanceName)

/-- Whether each selector built for a task matches the labels of the task's
pods: the Deployment's and the DaemonSet's against their own pod templates,
the Services' of both families and the controller's against the pods. -/
def selectorChecks (g : Globals) (configuredKey defaultAgentName taskKind taskName : List Char)
    (agentSpec : AgentSpec) : List Bool :=
  let key := runtimeUniqueMatchLabelKey configuredKey
  let s := newScheduler taskKind taskName key
  let deployment := generateDeployment s g agentSpec
  let daemonSet := generateDaemonSet s g agentSpec
  [deployment.template.labels.covers (selectorLabels deployment.selector),
    daemonSet.template.labels.covers (selectorLabels daemonSet.selector),
    deployment.template.labels.covers (generateService s g agentSpec .iPv4).selector,
    deployment.template.labels.covers (generateService s g agentSpec .iPv6).selector,
    deployment.template.labels.covers
      (runtimePodMatchLabels key defaultAgentName taskKind taskName (some agentSpec))]

/-! ## Selectors against pod labels -/

theorem generatePodTemplateSpec_labels (s : Scheduler) (g : Globals)
    (uniqueLabelVal : List Char) (agentSpec : AgentSpec) :
    (generatePodTemplateSpec s g uniqueLabelVal agentSpec).labels =
      g.podTempl.labels.set uniqueMatchLabelKey uniqueLabelVal := rfl

/-- Each check compares the pods' labels, the pod template's with the task's
value set under the constant key, with a template's selector that has the
task's value set under the configured key. -/
theorem selectorChecks_eq (g : Globals) (configuredKey defaultAgentName taskKind taskName : List Char)
    (agentSpec : AgentSpec) :
    selectorChecks g configuredKey defaultAgentName taskKind taskName agentSpec =
      let key := runtimeUniqueMatchLabelKey configuredKey
      let value := uniqueMatchLabelValue taskKind taskName
      let pods := g.podTempl.labels.set uniqueMatchLabelKey value
      [pods.covers ((selectorLabels g.deploymentTempl.selector).set key value),
        pods.covers ((selectorLabels g.daemonsetTempl.selector).set key value),
        pods.covers (g.serviceTempl.selector.set key value),
        pods.covers (g.serviceTempl.selector.set key value),
        pods.covers (GoMap.empty.set key value)] := by
  have hassign (pods sel : Labels) (key value : List Char) :
      pods.covers (appendAnnotationOrLabel sel (.single key value)) = pods.covers (sel.set key value) :=
    GoMap.covers_congr (fun _ => rfl) (fun k => GoMap.get_assign_single sel key k value)
  simp only [selectorChecks, generateDeployment, generateDaemonSet,
    generateService, generatePodTemplateSpec_labels, selectorLabels,
    runtimePodMatchLabels, newScheduler, hassign]
  rfl

/-- **Runtime selectors.** For templates whose selectors the pod template's
labels match: under the default unique key every selector built for a task
matches the task's pods; under any other key that the pod template does not
already map to the task's value, none does. -/
theorem runtimeSelectors_agree (g : Globals)
    (configuredKey defaultAgentName taskKind taskName : List Char) (agentSpec : AgentSpec)
    (hdep : g.podTempl.labels.covers (selectorLabels g.deploymentTempl.selector) = true)
    (hds : g.podTempl.labels.covers (selectorLabels g.daemonsetTempl.selector) = true)
    (hsvc : g.podTempl.labels.covers g.serviceTempl.selector = true) :
    (runtimeUniqueMatchLabelKey configuredKey = uniqueMatchLabelKey →
      ∀ b ∈ selectorChecks g configuredKey defaultAgentName taskKind taskName agentSpec, b = true) ∧
    (runtimeUniqueMatchLabelKey configuredKey ≠ uniqueMatchLabelKey →
      g.podTempl.labels.get (runtimeUniqueMatchLabelKey configuredKey) ≠
        some (uniqueMatchLabelValue taskKind taskName) →
      ∀ b ∈ selectorChecks g configuredKey defaultAgentName taskKind taskName agentSpec,
        b = false) := by
  rw [selectorChecks_eq]
  simp only [List.forall_mem_cons, List.not_mem_nil, IsEmpty.forall_iff, implies_true, and_true]
  refine ⟨fun hkey => ?_, fun hkey hget => ?_⟩
  · rw [hkey]
    exact ⟨GoMap.covers_set hdep _ _, GoMap.covers_set hds _ _, GoMap.covers_set hsvc _ _,
      GoMap.covers_set hsvc _ _, GoMap.covers_set (GoMap.covers_empty _) _ _⟩
  · -- the selector asks for the task's value under the configured key, which
    -- the pods carry only under the constant one
    exact ⟨GoMap.covers_set_eq_false hkey hget, GoMap.covers_set_eq_false hkey hget,
      GoMap.covers_set_eq_false hkey hget, GoMap.covers_set_eq_false hkey hget,
      GoMap.covers_set_eq_false hkey hget⟩

/-- The selector labels of the chart's agent templates
(`project.kdoctorAgent.selectorLabels`, for a release named `kdoctor`). -/
def chartSelectorLabels : Labels :=
  ((GoMap.empty.set "app.kubernetes.io/name".toList "kdoctor-agent".toList).set
    "app.kubernetes.io/instance".toList "kdoctor".toList).set
    "app.kubernetes.io/component".toList "kdoctor-agent".toList

/-- The chart's agent templates, by their labels and selectors. -/
def chartGlobals : Globals where
  deploymentTempl := ⟨.empty, some ⟨chartSelectorLabels⟩, none,
    ⟨.empty, .empty, [], false, .clusterFirst⟩⟩
  daemonsetTempl := ⟨.empty, some ⟨chartSelectorLabels⟩, ⟨.empty, .empty, [], false, .clusterFirst⟩⟩
  podTempl := ⟨chartSelectorLabels, .empty, [], false, .clusterFirst⟩
  serviceTempl := ⟨.empty, chartSelectorLabels, []⟩
  enableIPv4 := true
  enableIPv6 := false

/-- The chart's templates with the unique key configured as `kdoctor.io/task`:
no selector built for a NetReach task matches its pods. -/
theorem runtimeSelectors_agree_configuredKey :
    chartGlobals.podTempl.labels.covers (selectorLabels chartGlobals.deploymentTempl.selector) =
      true ∧
    chartGlobals.podTempl.labels.covers (selectorLabels chartGlobals.daemonsetTempl.selector) =
      true ∧
    chartGlobals.podTempl.labels.covers chartGlobals.serviceTempl.selector = true ∧
    ∀ b ∈ selectorChecks chartGlobals "kdoctor.io/task".toList "kdoctor-agent".toList
      TaskKind.netReach.kindName "dns-check".toList ⟨.empty, none, false⟩, b = false := by
  have hdep : chartGlobals.podTempl.labels.covers
      (selectorLabels chartGlobals.deploymentTempl.selector) = true := by decide
  have hds : chartGlobals.podTempl.labels.covers
      (selectorLabels chartGlobals.daemonsetTempl.selector) = true := by decide
  have hsvc : chartGlobals.podTempl.labels.covers chartGlobals.serviceTempl.selector = true := by
    decide
  refine ⟨hdep, hds, hsvc, ?_⟩
  exact (runtimeSelectors_agree chartGlobals "kdoctor.io/task".toList "kdoctor-agent".toList
    TaskKind.netReach.kindName "dns-check".toList ⟨.empty, none, false⟩ hdep hds hsvc).2
    (by decide) (by decide)

end KDoctor.Scheduler
