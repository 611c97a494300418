import KDoctor.K8s.Validation

/-!
The names the scheduler gives to a task's runtime (`scheduler/utils.go`): the
Deployment or DaemonSet `TaskRuntimeName`, the Services and the Ingress
`TaskRuntimeServiceName`, and the label value `UniqueMatchLabelValue` that
the runtime's pods carry and its selectors ask for.

`TaskRuntimeName` writes `kdoctor-<kind>-<name>` and cuts it to 253
characters; `TaskRuntimeServiceName` cuts a runtime name to 248 characters
and appends `-ipv4` or `-ipv6`. The API server accepts as a task's name any
DNS-1123 subdomain. `runtimeObjectNames_valid` shows that the Service name is
a DNS-1035 label exactly when the task's name has no dot and is short enough
to keep the whole Service name within 63 characters, and that the label value
is valid exactly when `kdoctor-<kind>-<name>` fits in 63 characters; longer
names, which the API server accepts, give objects it rejects.
`taskRuntimeName_valid` shows the runtime names right and distinct for every
name that needs no cut.
-/

namespace KDoctor.Scheduler

open K8s

/-- `kdoctor` -/
def kdoctor : List Char := "kdoctor".toList

/-- `strings.ToLower` on ASCII text. -/
def toLower (s : List Char) : List Char := s.map Char.toLower

/-- `TaskRuntimeName`. -/
def taskRuntimeName (taskKind taskName : List Char) : List Char :=
  let taskRuntimeName := kdoctor ++ '-' :: toLower taskKind ++ '-' :: taskName
  if taskRuntimeName.length > dns1123SubdomainMaxLength then
    taskRuntimeName.take dns1123SubdomainMaxLength
  else taskRuntimeName

/-- `UniqueMatchLabelValue`, the same function as `TaskRuntimeName`. -/
def uniqueMatchLabelValue (taskKind taskName : List Char) : List Char :=
  taskRuntimeName taskKind taskName

/-- `corev1.IPFamily`. -/
inductive IPFamily
  | iPv4
  | iPv6
  deriving DecidableEq, Repr

/-- `IPv4Protocol` and `IPv6Protocol`. -/
def IPFamily.name : IPFamily → List Char
  | .iPv4 => "IPv4".toList
  | .iPv6 => "IPv6".toList

/-- `TaskRuntimeServiceName`. -/
def taskRuntimeServiceName (taskRuntimeName : List Char) (ipFamily : IPFamily) : List Char :=
  let prefixLen := dns1123SubdomainMaxLength - 5
  let taskRuntimeName :=
    if taskRuntimeName.length ≥ prefixLen then taskRuntimeName.take prefixLen else taskRuntimeName
  taskRuntimeName ++ '-' :: toLower ipFamily.name

/-- The kinds of task, one for each plugin. -/
inductive TaskKind
  | netReach
  | appHttpHealthy
  | netdns
  deriving DecidableEq, Repr

/-- `KindNameNetReach`, `KindNameAppHttpHealthy` and `KindNameNetdns`. -/
def TaskKind.kindName : TaskKind → List Char
  | .netReach => "NetReach".toList
  | .appHttpHealthy => "AppHttpHealthy".toList
  | .netdns => "Netdns".toList

/-- What `TaskRuntimeName` writes before the task's name. -/
def runtimePrefix (taskKind : List Char) : List Char := kdoctor ++ '-' :: toLower taskKind ++ ['-']

/-! ## Runtime names -/

theorem taskRuntimeName_eq_take (taskKind taskName : List Char) :
    taskRuntimeName taskKind taskName =
      (runtimePrefix taskKind ++ taskName).take dns1123SubdomainMaxLength := by
  have happ : kdoctor ++ '-' :: toLower taskKind ++ '-' :: taskName =
      runtimePrefix taskKind ++ taskName := by simp [runtimePrefix]
  unfold taskRuntimeName
  rw [happ]
  dsimp only
  split
  · rfl
  · rw [List.take_of_length_le (by omega)]

theorem taskRuntimeName_of_le {taskKind taskName : List Char}
    (h : (runtimePrefix taskKind ++ taskName).length ≤ dns1123SubdomainMaxLength) :
    taskRuntimeName taskKind taskName = runtimePrefix taskKind ++ taskName := by
  rw [taskRuntimeName_eq_take, List.take_of_length_le h]

theorem length_taskRuntimeName (taskKind taskName : List Char) :
    (taskRuntimeName taskKind taskName).length =
      min (runtimePrefix taskKind ++ taskName).length dns1123SubdomainMaxLength := by
  rw [taskRuntimeName_eq_take, List.length_take, Nat.min_comm]

/-- The prefix of every kind begins with a letter, has only label characters
and no dot, and is between 15 and 23 characters long. -/
theorem runtimePrefix_shape (k : TaskKind) :
    (runtimePrefix k.kindName).head? = some 'k' ∧
      (∀ c ∈ runtimePrefix k.kindName, isDnsChar c = true) ∧
      15 ≤ (runtimePrefix k.kindName).length ∧ (runtimePrefix k.kindName).length ≤ 23 := by
  have hchars : (runtimePrefix k.kindName).all isDnsChar = true := by cases k <;> decide
  refine ⟨by cases k <;> decide, List.all_eq_true.mp hchars, by cases k <;> decide,
    by cases k <;> decide⟩

/-- No kind's prefix begins another's. -/
theorem eq_of_runtimePrefix_begins {k k' : TaskKind}
    (h : runtimePrefix k.kindName <+: runtimePrefix k'.kindName) : k = k' := by
  have hb := List.isPrefixOf_iff_prefix.mpr h
  revert hb
  cases k <;> cases k' <;> decide

theorem runtimePrefix_ne_nil (k : TaskKind) : runtimePrefix k.kindName ≠ [] := by
  cases k <;> decide

/-- `-ipv4` and `-ipv6` are five label characters ending with a digit. -/
theorem serviceSuffix_shape (f : IPFamily) :
    (∀ c ∈ '-' :: toLower f.name, isDnsChar c = true) ∧
      (∃ z, ('-' :: toLower f.name).getLast? = some z ∧ isLowerAlnum z = true) ∧
      ('-' :: toLower f.name).length = 5 := by
  have hchars : ('-' :: toLower f.name).all isDnsChar = true := by cases f <;> decide
  cases f
  · exact ⟨List.all_eq_true.mp hchars, ⟨'4', rfl, rfl⟩, rfl⟩
  · exact ⟨List.all_eq_true.mp hchars, ⟨'6', rfl, rfl⟩, rfl⟩

theorem taskRuntimeServiceName_of_lt {taskRuntimeName : List Char}
    (h : taskRuntimeName.length < dns1123SubdomainMaxLength - 5) (f : IPFamily) :
    taskRuntimeServiceName taskRuntimeName f = taskRuntimeName ++ '-' :: toLower f.name := by
  unfold taskRuntimeServiceName
  dsimp only
  rw [if_neg (by omega)]

theorem length_taskRuntimeServiceName (taskRuntimeName : List Char) (f : IPFamily) :
    (taskRuntimeServiceName taskRuntimeName f).length =
      min taskRuntimeName.length (dns1123SubdomainMaxLength - 5) + 5 := by
  have h5 := (serviceSuffix_shape f).2.2
  unfold taskRuntimeServiceName
  dsimp only
  split
  · rw [List.length_append, h5, List.length_take]
    omega
  · rw [List.length_append, h5]
    omega

/-- Runtime names written in full tell the kind and the name apart. -/
theorem runtimePrefix_append_inj {k k' : TaskKind} {taskName taskName' : List Char}
    (h : runtimePrefix k.kindName ++ taskName = runtimePrefix k'.kindName ++ taskName') :
    k = k' ∧ taskName = taskName' := by
  have hk : k = k' := by
    rcases List.append_eq_append_iff.mp h with ⟨a, ha, -⟩ | ⟨c, hc, -⟩
    · exact eq_of_runtimePrefix_begins ⟨a, ha.symm⟩
    · exact (eq_of_runtimePrefix_begins ⟨c, hc.symm⟩).symm
  subst hk
  exact ⟨rfl, List.append_cancel_left h⟩

/-- Service names of runtime names written in full tell the runtime and the
family apart. -/
theorem taskRuntimeServiceName_inj {taskRuntimeName taskRuntimeName' : List Char}
    {f f' : IPFamily} (h : taskRuntimeName.length < dns1123SubdomainMaxLength - 5)
    (h' : taskRuntimeName'.length < dns1123SubdomainMaxLength - 5)
    (heq : taskRuntimeServiceName taskRuntimeName f = taskRuntimeServiceName taskRuntimeName' f') :
    taskRuntimeName = taskRuntimeName' ∧ f = f' := by
  rw [taskRuntimeServiceName_of_lt h, taskRuntimeServiceName_of_lt h'] at heq
  obtain ⟨hrt, hsuffix⟩ := List.append_inj' heq
    (by rw [(serviceSuffix_shape f).2.2, (serviceSuffix_shape f').2.2])
  refine ⟨hrt, ?_⟩
  revert hsuffix
  cases f <;> cases f' <;> decide

/-! ## Names the API server accepts -/

section Accepted

variable {k : TaskKind} {taskName : List Char}

/-- The Service name of a task is a DNS-1035 label exactly when the task's
name has no dot and the Service name fits in 63 characters uncut. -/
theorem isDNS1035Label_taskRuntimeServiceName (f : IPFamily)
    (hname : matchesDns1123Subdomain taskName = true) :
    isDNS1035Label (taskRuntimeServiceName (taskRuntimeName k.kindName taskName) f) = true ↔
      (runtimePrefix k.kindName ++ taskName).length + 5 ≤ dns1035LabelMaxLength ∧
        '.' ∉ taskName := by
  obtain ⟨hhead, hpre, -, -⟩ := runtimePrefix_shape k
  obtain ⟨hsuffix, ⟨z, hz, hzl⟩, -⟩ := serviceSuffix_shape f
  have hrt := length_taskRuntimeName k.kindName taskName
  have hsvc := length_taskRuntimeServiceName (taskRuntimeName k.kindName taskName) f
  unfold isDNS1035Label
  rw [Bool.and_eq_true, decide_eq_true_iff]
  simp only [dns1035LabelMaxLength, dns1123SubdomainMaxLength] at hrt hsvc ⊢
  constructor
  · rintro ⟨hlen, hmatch⟩
    -- a cut name is 253 characters long, so the name was not cut
    have hfit : (runtimePrefix k.kindName ++ taskName).length + 5 ≤ 63 := by omega
    refine ⟨hfit, fun hdot => ?_⟩
    rw [taskRuntimeName_of_le (by unfold dns1123SubdomainMaxLength; omega),
      taskRuntimeServiceName_of_lt (by unfold dns1123SubdomainMaxLength; omega)] at hmatch
    have := (wordMatches_iff.mp hmatch).2.2 '.' (by simp [hdot])
    simp [isDnsChar_dot] at this
  · rintro ⟨hfit, hdot⟩
    refine ⟨by omega, ?_⟩
    rw [taskRuntimeName_of_le (by unfold dns1123SubdomainMaxLength; omega),
      taskRuntimeServiceName_of_lt (by unfold dns1123SubdomainMaxLength; omega),
      matchesDns1035Label, List.append_assoc, wordMatches_append (runtimePrefix_ne_nil k) (by simp),
      List.getLast?_append_of_ne_nil _ (by simp)]
    refine ⟨⟨'k', hhead, rfl⟩, ⟨z, hz, hzl⟩, hpre, fun c hc => ?_⟩
    rcases List.mem_append.mp hc with hc | hc
    · rcases matchesDns1123Subdomain.chars hname hc with rfl | h
      · exact absurd hc hdot
      · exact h
    · exact hsuffix c hc

/-- The label value of a task is valid exactly when `kdoctor-<kind>-<name>`
fits in 63 characters. -/
theorem isValidLabelValue_uniqueMatchLabelValue (hname : matchesDns1123Subdomain taskName = true) :
    isValidLabelValue (uniqueMatchLabelValue k.kindName taskName) = true ↔
      (runtimePrefix k.kindName ++ taskName).length ≤ labelValueMaxLength := by
  obtain ⟨hhead, hpre, -, -⟩ := runtimePrefix_shape k
  have hrt := length_taskRuntimeName k.kindName taskName
  unfold isValidLabelValue uniqueMatchLabelValue
  rw [Bool.and_eq_true, decide_eq_true_iff]
  simp only [labelValueMaxLength, dns1123SubdomainMaxLength] at hrt ⊢
  constructor
  · rintro ⟨hlen, -⟩
    omega
  · intro hfit
    obtain ⟨z, hz, hzl⟩ := matchesDns1123Subdomain.last hname
    have hne : taskName ≠ [] := by
      rintro rfl
      simp at hz
    refine ⟨by omega, ?_⟩
    rw [taskRuntimeName_of_le (by unfold dns1123SubdomainMaxLength; omega), matchesLabelValue,
      Bool.or_eq_true, wordMatches_append (runtimePrefix_ne_nil k) hne]
    refine Or.inr ⟨⟨'k', hhead, rfl⟩, ⟨z, hz, isAlphanum_of_isLowerAlnum hzl⟩,
      fun c hc => isQnameExtChar_of_isDnsChar (hpre c hc), fun c hc => ?_⟩
    rcases matchesDns1123Subdomain.chars hname hc with rfl | h
    · rfl
    · exact isQnameExtChar_of_isDnsChar h

end Accepted

theorem matchesDns1123Subdomain_of_isDNS1123Subdomain {taskName : List Char}
    (hname : isDNS1123Subdomain taskName = true) : matchesDns1123Subdomain taskName = true := by
  unfold isDNS1123Subdomain at hname
  rw [Bool.and_eq_true] at hname
  exact hname.2

/-- **Runtime object names.** For every kind, every task name the API server
accepts and either family, the Service name is a DNS-1035 label exactly when
the task's name has no dot and the Service name fits in 63 characters uncut,
and the label value is valid exactly when `kdoctor-<kind>-<name>` fits in 63
characters. -/
theorem runtimeObjectNames_valid (k : TaskKind) (taskName : List Char) (f : IPFamily)
    (hname : isDNS1123Subdomain taskName = true) :
    (isDNS1035Label (taskRuntimeServiceName (taskRuntimeName k.kindName taskName) f) = true ↔
      (runtimePrefix k.kindName ++ taskName).length + 5 ≤ dns1035LabelMaxLength ∧
        '.' ∉ taskName) ∧
    (isValidLabelValue (uniqueMatchLabelValue k.kindName taskName) = true ↔
      (runtimePrefix k.kindName ++ taskName).length ≤ labelValueMaxLength) := by
  have hsub := matchesDns1123Subdomain_of_isDNS1123Subdomain hname
  exact ⟨isDNS1035Label_taskRuntimeServiceName f hsub, isValidLabelValue_uniqueMatchLabelValue hsub⟩

/-- A NetReach task whose name has 47 characters: its Service name and its
label value are rejected. -/
theorem runtimeObjectNames_valid_longName :
    isDNS1123Subdomain "netreach-probe-between-every-node-and-service-x".toList = true ∧
    isDNS1035Label (taskRuntimeServiceName (taskRuntimeName TaskKind.netReach.kindName
      "netreach-probe-between-every-node-and-service-x".toList) .iPv4) = false ∧
    isValidLabelValue (uniqueMatchLabelValue TaskKind.netReach.kindName
      "netreach-probe-between-every-node-and-service-x".toList) = false := by
  have hname : isDNS1123Subdomain "netreach-probe-between-every-node-and-service-x".toList = true := by
    decide
  have hlen : (runtimePrefix TaskKind.netReach.kindName ++
      "netreach-probe-between-every-node-and-service-x".toList).length = 64 := by decide
  have h := runtimeObjectNames_valid .netReach _ .iPv4 hname
  rw [hlen] at h
  refine ⟨hname, Bool.eq_false_iff.mpr fun hv => ?_, Bool.eq_false_iff.mpr fun hv => ?_⟩
  · have := (h.1.mp hv).1
    simp [dns1035LabelMaxLength] at this
  · have := h.2.mp hv
    simp [labelValueMaxLength] at this

/-- **Runtime names.** A task name the API server accepts and that needs no
cut gives a runtime name that is a DNS-1123 subdomain; two such kinds and
names with the same runtime name are the same, and so are two with the same
Service name while the runtime names stay under 248 characters. -/
theorem taskRuntimeName_valid {k k' : TaskKind} {taskName taskName' : List Char}
    (hname : isDNS1123Subdomain taskName = true)
    (hfit : (runtimePrefix k.kindName ++ taskName).length ≤ dns1123SubdomainMaxLength)
    (hfit' : (runtimePrefix k'.kindName ++ taskName').length ≤ dns1123SubdomainMaxLength) :
    isDNS1123Subdomain (taskRuntimeName k.kindName taskName) = true ∧
    (taskRuntimeName k.kindName taskName = taskRuntimeName k'.kindName taskName' →
      k = k' ∧ taskName = taskName') ∧
    (∀ f f' : IPFamily,
      (runtimePrefix k.kindName ++ taskName).length < dns1123SubdomainMaxLength - 5 →
      (runtimePrefix k'.kindName ++ taskName').length < dns1123SubdomainMaxLength - 5 →
      taskRuntimeServiceName (taskRuntimeName k.kindName taskName) f =
        taskRuntimeServiceName (taskRuntimeName k'.kindName taskName') f' →
      k = k' ∧ taskName = taskName' ∧ f = f') := by
  obtain ⟨hhead, hpre, -, -⟩ := runtimePrefix_shape k
  rw [taskRuntimeName_of_le hfit, taskRuntimeName_of_le hfit']
  refine ⟨?_, runtimePrefix_append_inj, fun f f' hlt hlt' heq => ?_⟩
  · unfold isDNS1123Subdomain
    rw [Bool.and_eq_true, decide_eq_true_iff]
    exact ⟨hfit, matchesDns1123Subdomain_append (runtimePrefix_ne_nil k) ⟨'k', hhead, rfl⟩ hpre
      (matchesDns1123Subdomain_of_isDNS1123Subdomain hname)⟩
  · obtain ⟨hrt, hf⟩ := taskRuntimeServiceName_inj hlt hlt' heq
    exact ⟨(runtimePrefix_append_inj hrt).1, (runtimePrefix_append_inj hrt).2, hf⟩

theorem taskRuntimeName_valid_netdns :
    isDNS1123Subdomain (taskRuntimeName TaskKind.netdns.kindName "dns.check".toList) = true ∧
    (taskRuntimeName TaskKind.netdns.kindName "dns.check".toList =
        taskRuntimeName TaskKind.netReach.kindName "check".toList →
      TaskKind.netdns = TaskKind.netReach ∧ "dns.check".toList = "check".toList) ∧
    (∀ f f' : IPFamily,
      (runtimePrefix TaskKind.netdns.kindName ++ "dns.check".toList).length <
        dns1123SubdomainMaxLength - 5 →
      (runtimePrefix TaskKind.netReach.kindName ++ "check".toList).length <
        dns1123SubdomainMaxLength - 5 →
      taskRuntimeServiceName (taskRuntimeName TaskKind.netdns.kindName "dns.check".toList) f =
        taskRuntimeServiceName (taskRuntimeName TaskKind.netReach.kindName "check".toList) f' →
      TaskKind.netdns = TaskKind.netReach ∧ "dns.check".toList = "check".toList ∧ f = f') :=
  taskRuntimeName_valid (by decide) (by decide) (by decide)

end KDoctor.Scheduler
