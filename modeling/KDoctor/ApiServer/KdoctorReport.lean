import KDoctor.FileManager.Manager
import KDoctor.PluginManager.RoundTimes
import KDoctor.Lib.Except

/-!
The `KdoctorReport` resource of the aggregated API server
(`apiserver/registry/kdoctor/kdoctorreport/etcd.go`): a read-only view that
joins a task custom resource with the reports of its latest round in the
controller's report directory. `GetList` lists, kind by kind, every task
with a done and an expected round; `Get` takes a report name, strips the
kind before the first `-` and looks the task name up in all three kinds.

The custom resources of a kind are a list with distinct names, in the order
`List` returns them; their lookups do not fail. The report directory is the
list of its files in the order `ReadDir` gives them, each with its content
as read and decoded, or the error of reading or decoding it. A report is of
any type with its round number. Specs and creation times, which the two paths
copy alike, are left out.
-/

namespace KDoctor.ApiServer

open Crd Go PluginManager

/-- The three task kinds. -/
inductive TaskType where
  | netdns
  | netReach
  | appHttpHealthy
  deriving DecidableEq, Repr

/-- `NetDNSTaskName`, `NetReachTaskName`, `AppHttpHealthyTaskName`. -/
def TaskType.taskName : TaskType → String
  | .netdns => "Netdns"
  | .netReach => "NetReach"
  | .appHttpHealthy => "AppHttpHealthy"

/-- A task custom resource, with what the report storage reads of it. -/
structure TaskCR where
  name : String
  status : TaskStatus
  deriving DecidableEq

/-- The task custom resources of the cluster, kind by kind, with names
distinct within a kind. -/
structure Cluster where
  tasks : TaskType → List TaskCR
  nodup : ∀ k, ((tasks k).map TaskCR.name).Nodup

/-- `clientSet...Get(name)`: the task of a kind with a name, if any. -/
def Cluster.get (cluster : Cluster) (k : TaskType) (name : String) : Option TaskCR :=
  (cluster.tasks k).find? fun cr => cr.name == name

/-- `v1beta1.Status` of a report. -/
structure ReportStatus where
  toTalRoundNumber : Int
  finishedRoundNumber : Int
  status : String
  roundNumber : Int
  deriving DecidableEq, Repr

/-- A `KdoctorReport`, with the reports of the latest round. -/
structure KdoctorReport (ρ : Type) where
  name : String
  taskName : String
  taskType : TaskType
  status : ReportStatus
  latestRoundReport : Option (List ρ)
  deriving DecidableEq

section Storage

variable {ρ : Type} (roundNumber : ρ → Int)

/-- The first loop of `getLatestRoundReports`: the reports of the files of
five `_` fields whose second field is the task name, in order; a file that
cannot be read or decoded ends the call with its error. -/
def collectReports (key : String) : List (String × Except String ρ) → Except String (List ρ)
  | [] => .ok []
  | (fileName, content) :: rest =>
    let split := Go.split fileName '_'
    if split.length ≠ 5 then collectReports key rest
    else if key = split.getD 1 "" then
      match content with
      | .error e => .error e
      | .ok report => (report :: ·) <$> collectReports key rest
    else collectReports key rest

/-- One step of the second loop of `getLatestRoundReports`: a report of a
later round replaces those kept, one of the same round joins them. -/
def latestStep (acc : Int × List ρ) (tmpReport : ρ) : Int × List ρ :=
  if roundNumber tmpReport > acc.1 then (roundNumber tmpReport, [tmpReport])
  else if roundNumber tmpReport = acc.1 then (acc.1, acc.2 ++ [tmpReport])
  else acc

/-- `getLatestRoundReports`: the reports of the latest round of the task,
`nil` when there are none, and that round. -/
def getLatestRoundReports (key : String) (fileNameList : List (String × Except String ρ)) :
    Except String (Option (List ρ) × Int) := do
  let reports ← collectReports key fileNameList
  let (latestRoundNumber, latestReports) := reports.foldl (latestStep roundNumber) (0, [])
  pure (if latestReports = [] then none else some latestReports, latestRoundNumber)

/-- The status strings of both paths. -/
def finishText (finish : Bool) : String := if finish then "Finished" else "NotFinished"

/-- `kdoctorReportStorage.Get` of the name `taskKindName`. -/
def get (cluster : Cluster) (readDir : List (String × Except String ρ)) (taskKindName : String) :
    Except String (KdoctorReport ρ) :=
  let name := afterIndex taskKindName '-'
  -- each kind found overrides the ones before it
  let found := [TaskType.netdns, .netReach, .appHttpHealthy].foldl
    (fun acc k => match cluster.get k name with
      | some cr => some (k, cr)
      | none => acc) none
  match found with
  | none => .error ("no crd instance " ++ name ++ " found")
  | some (taskType, cr) =>
    let taskStatus := cr.status
    let fileNameList := readDir.filter fun item =>
      contains item.1 name && !contains item.1 "summary"
    match getLatestRoundReports roundNumber name fileNameList with
    | .error e => .error ("failed to get latest round reports: " ++ e)
    | .ok (none, _) => .error ("no '" ++ name ++ "' reports found")
    | .ok (some getReports, latestRoundNumber) =>
      .ok { name := toLower taskType.taskName ++ "-" ++ name
            taskName := name
            taskType := taskType
            status := { toTalRoundNumber := taskStatus.expectedRound.getD 0
                        finishedRoundNumber := taskStatus.doneRound.getD 0
                        status := finishText taskStatus.finish
                        roundNumber := latestRoundNumber }
            latestRoundReport := some getReports }

/-- Which files of the directory `GetList` reads for a kind: NetDNS and
NetReach by prefix, AppHttpHealthy by substring, none of a summary. -/
def kindFile (k : TaskType) (fileName : String) : Bool :=
  let ofKind := match k with
    | .netdns => hasPrefix fileName TaskType.netdns.taskName
    | .netReach => hasPrefix fileName TaskType.netReach.taskName
    | .appHttpHealthy => contains fileName TaskType.appHttpHealthy.taskName
  ofKind && !contains fileName "summary"

/-- `getNetDNSKdoctorReports`, `getHttpAppHealthyReports` and
`getNetReachHealthyReports`, which differ only in the kind: the report of
every task of the kind with a done and an expected round. -/
def getKindReports (cluster : Cluster) (fileNameList : List (String × Except String ρ))
    (k : TaskType) : Except String (List (KdoctorReport ρ)) :=
  -- `sort.Strings`; the names of a directory are distinct, so any sort gives this list
  let kindFileNameList := (fileNameList.filter fun item => kindFile k item.1).insertionSort
    fun a b => a.1 ≤ b.1
  (cluster.tasks k).foldlM (fun resList cr =>
    match cr.status.doneRound, cr.status.expectedRound with
    | some _, some expectedRound =>
      match getLatestRoundReports roundNumber cr.name kindFileNameList with
      | .error e => .error e
      | .ok (result, latestRoundNumber) =>
        .ok (resList ++ [{ name := toLower k.taskName ++ "-" ++ cr.name
                           taskName := cr.name
                           taskType := k
                           status := { toTalRoundNumber := expectedRound
                                       finishedRoundNumber :=
                                         (cr.status.history.head?.map (·.roundNumber)).getD 0
                                       status := finishText cr.status.finish
                                       roundNumber := latestRoundNumber }
                           latestRoundReport := result }])
    | _, _ => .ok resList) []

/-- `kdoctorReportStorage.GetList`: the reports of NetDNS, AppHttpHealthy and
NetReach, in this order. -/
def getList (cluster : Cluster) (readDir : List (String × Except String ρ)) :
    Except String (List (KdoctorReport ρ)) := do
  let netDNSKdoctorReports ← getKindReports roundNumber cluster readDir .netdns
  let httpAppHealthyReports ← getKindReports roundNumber cluster readDir .appHttpHealthy
  let netReachHealthyReports ← getKindReports roundNumber cluster readDir .netReach
  pure (netDNSKdoctorReports ++ httpAppHealthyReports ++ netReachHealthyReports)

end Storage

/-! ## What each path reads -/

/-- A file of the task `key` for `getLatestRoundReports`: five `_` fields,
the second the task name. -/
def IsReportOf (key fileName : String) : Prop :=
  (split fileName '_').length = 5 ∧ key = (split fileName '_').getD 1 ""

/-- A report file of a task has the task name in its name. -/
theorem contains_of_isReportOf {key fileName : String} (h : IsReportOf key fileName) :
    contains fileName key = true := by
  obtain ⟨hlen, hkey⟩ := h
  have hmem : key ∈ split fileName '_' := by
    rw [hkey, List.getD_eq_getElem _ _ (by omega)]
    exact List.getElem_mem _
  obtain ⟨piece, hpiece, rfl⟩ := List.mem_map.mp hmem
  rw [contains, containsChars_iff, String.toList_ofList]
  exact (splitChars_pieces_within '_' fileName.toList).2 piece hpiece

theorem Cluster.get_of_mem {cluster : Cluster} {k : TaskType} {cr : TaskCR}
    (hcr : cr ∈ cluster.tasks k) : cluster.get k cr.name = some cr := by
  have hsome : ((cluster.tasks k).find? fun c => c.name == cr.name).isSome :=
    List.find?_isSome.mpr ⟨cr, hcr, by simp⟩
  obtain ⟨x, hx⟩ := Option.isSome_iff_exists.mp hsome
  have hxmem := List.mem_of_find?_eq_some hx
  have hxname : x.name = cr.name := by simpa using List.find?_some hx
  -- names are distinct within a kind
  rw [Cluster.get, hx, List.inj_on_of_nodup_map (cluster.nodup k) hxmem hcr hxname]

instance (key : String) : DecidablePred (IsReportOf key) := fun _ =>
  inferInstanceAs (Decidable (_ ∧ _))

section Reads

variable {ρ : Type} {roundNumber : ρ → Int}

theorem collectReports_cons_of_not {key : String} {file : String × Except String ρ}
    (h : ¬ IsReportOf key file.1) (rest : List (String × Except String ρ)) :
    collectReports key (file :: rest) = collectReports key rest := by
  obtain ⟨fileName, content⟩ := file
  unfold IsReportOf at h
  by_cases hlen : (split fileName '_').length = 5
  · have hkey : ¬ key = (split fileName '_').getD 1 "" := fun hk => h ⟨hlen, hk⟩
    simp only [collectReports, hlen, hkey, ne_eq, not_true_eq_false, if_false]
  · simp only [collectReports, hlen, ne_eq, not_false_eq_true, if_true]

theorem collectReports_cons_congr {key : String} (file : String × Except String ρ)
    {rest rest' : List (String × Except String ρ)}
    (h : collectReports key rest = collectReports key rest') :
    collectReports key (file :: rest) = collectReports key (file :: rest') := by
  simp only [collectReports, h]

/-- `getLatestRoundReports` reads only the report files of its task: two
filters that agree on them give the same reports. -/
theorem collectReports_filter_congr {key : String} {P Q : String × Except String ρ → Bool}
    {l : List (String × Except String ρ)} (h : ∀ f ∈ l, IsReportOf key f.1 → P f = Q f) :
    collectReports key (l.filter P) = collectReports key (l.filter Q) := by
  induction l with
  | nil => rfl
  | cons f l ih =>
    have ih' := ih fun g hg => h g (List.mem_cons_of_mem f hg)
    by_cases hf : IsReportOf key f.1
    · rw [List.filter_cons, List.filter_cons, h f List.mem_cons_self hf]
      split
      · exact collectReports_cons_congr f ih'
      · exact ih'
    · -- a file of another task is skipped whether or not the filter keeps it
      have hskip : ∀ R : String × Except String ρ → Bool,
          collectReports key ((f :: l).filter R) = collectReports key (l.filter R) := by
        intro R
        rw [List.filter_cons]
        split
        · exact collectReports_cons_of_not hf _
        · rfl
      rw [hskip P, hskip Q, ih']

theorem getLatestRoundReports_congr {key : String} {l l' : List (String × Except String ρ)}
    (h : collectReports key l = collectReports key l') :
    getLatestRoundReports roundNumber key l = getLatestRoundReports roundNumber key l' := by
  simp only [getLatestRoundReports, h]

/-- What `Get` answers for a name whose task is of one kind only. -/
theorem get_eq_ok_of_unique {cluster : Cluster} {readDir : List (String × Except String ρ)}
    {k : TaskType} {name : String} {cr : TaskCR} {Y : KdoctorReport ρ}
    (hk : cluster.get k name = some cr) (hother : ∀ k', k' ≠ k → cluster.get k' name = none)
    (h : get roundNumber cluster readDir (toLower k.taskName ++ "-" ++ name) = .ok Y) :
    ∃ rs latest, getLatestRoundReports roundNumber name
        (readDir.filter fun item => contains item.1 name && !contains item.1 "summary") =
          .ok (some rs, latest) ∧
      Y = { name := toLower k.taskName ++ "-" ++ name, taskName := name, taskType := k,
            status := { toTalRoundNumber := cr.status.expectedRound.getD 0
                        finishedRoundNumber := cr.status.doneRound.getD 0
                        status := finishText cr.status.finish
                        roundNumber := latest }
            latestRoundReport := some rs } := by
  have hname : afterIndex (toLower k.taskName ++ "-" ++ name) '-' = name := by
    apply afterIndex_eq (p := toLower k.taskName)
    · simp
    · cases k <;> decide
  -- the kind of the name is the last one found
  have hfound : ([TaskType.netdns, .netReach, .appHttpHealthy].foldl
      (fun acc k' => match cluster.get k' name with
        | some cr => some (k', cr)
        | none => acc) none) = some (k, cr) := by
    cases k <;> simp [hk, hother]
  unfold get at h
  simp only [hname, hfound] at h
  split at h
  · cases h
  · cases h
  · rename_i rs latest hlat
    exact ⟨rs, latest, hlat, (Except.ok.inj h).symm⟩


/-- A report `GetList` gives for a kind: a task of the kind with a done and
an expected round, with the latest round of its files of the kind. -/
theorem mem_getKindReports {cluster : Cluster} {readDir : List (String × Except String ρ)}
    {k : TaskType} {xs : List (KdoctorReport ρ)} {X : KdoctorReport ρ}
    (h : getKindReports roundNumber cluster readDir k = .ok xs) (hX : X ∈ xs) :
    ∃ cr ∈ cluster.tasks k, ∃ D E result latest, cr.status.doneRound = some D ∧
      cr.status.expectedRound = some E ∧
      getLatestRoundReports roundNumber cr.name
        ((readDir.filter fun item => kindFile k item.1).insertionSort fun a b => a.1 ≤ b.1) =
          .ok (result, latest) ∧
      X = { name := toLower k.taskName ++ "-" ++ cr.name, taskName := cr.name, taskType := k,
            status := { toTalRoundNumber := E
                        finishedRoundNumber := (cr.status.history.head?.map (·.roundNumber)).getD 0
                        status := finishText cr.status.finish
                        roundNumber := latest }
            latestRoundReport := result } := by
  refine (KDoctor.Except.foldlM_append_mem (P := fun cr x => ∃ D E result latest,
      cr.status.doneRound = some D ∧ cr.status.expectedRound = some E ∧
      getLatestRoundReports roundNumber cr.name
        ((readDir.filter fun item => kindFile k item.1).insertionSort fun a b => a.1 ≤ b.1) =
          .ok (result, latest) ∧
      x = { name := toLower k.taskName ++ "-" ++ cr.name, taskName := cr.name, taskType := k,
            status := { toTalRoundNumber := E
                        finishedRoundNumber := (cr.status.history.head?.map (·.roundNumber)).getD 0
                        status := finishText cr.status.finish
                        roundNumber := latest }
            latestRoundReport := result }) ?_ h X hX).resolve_left List.not_mem_nil
  -- one task of the loop adds its report or nothing
  intro acc cr out hstep
  split at hstep
  · rename_i D E hD hE
    split at hstep
    · cases hstep
    · rename_i result latest hlat
      exact ⟨_, (Except.ok.inj hstep).symm, fun x hx => by
        rw [List.mem_singleton] at hx
        exact ⟨D, E, result, latest, hD, hE, hlat, hx⟩⟩
  · exact ⟨[], by rw [List.append_nil]; exact (Except.ok.inj hstep).symm, by simp⟩

/-- A report of `GetList` is a report `GetList` gives for one of the kinds. -/
theorem mem_getList {cluster : Cluster} {readDir : List (String × Except String ρ)}
    {xs : List (KdoctorReport ρ)} {X : KdoctorReport ρ}
    (h : getList roundNumber cluster readDir = .ok xs) (hX : X ∈ xs) :
    ∃ k ys, getKindReports roundNumber cluster readDir k = .ok ys ∧ X ∈ ys := by
  simp only [getList, KDoctor.Except.bind_eq_ok] at h
  obtain ⟨as, has, bs, hbs, cs, hcs, hxs⟩ := h
  cases hxs
  rcases List.mem_append.mp hX with hab | hc
  · rcases List.mem_append.mp hab with ha | hb
    · exact ⟨.netdns, as, has, ha⟩
    · exact ⟨.appHttpHealthy, bs, hbs, hb⟩
  · exact ⟨.netReach, cs, hcs, hc⟩

/-- For a report `X` of `GetList` whose task name no task of another kind
has, in a directory sorted by name (as `ReadDir` gives it) whose report files
of that task name are all of the task's kind: when `Get` of `X`'s name
succeeds, it returns `X` but for `FinishedRoundNumber`, which it reads from
`DoneRound` where `GetList` reads the round of the latest record. For a task
status with the round-history shape, the two agree exactly when the task has
done all its rounds. -/
theorem get_agrees_with_getList {cluster : Cluster} {readDir : List (String × Except String ρ)}
    {xs : List (KdoctorReport ρ)} {X Y : KdoctorReport ρ}
    (hlist : getList roundNumber cluster readDir = .ok xs) (hX : X ∈ xs)
    (hshared : ∀ k, k ≠ X.taskType → cluster.get k X.taskName = none)
    (hkind : ∀ f ∈ readDir, IsReportOf X.taskName f.1 → contains f.1 "summary" = false →
      kindFile X.taskType f.1 = true)
    (hsorted : readDir.Pairwise fun a b => a.1 ≤ b.1)
    (hget : get roundNumber cluster readDir X.name = .ok Y) :
    ∃ cr ∈ cluster.tasks X.taskType, cr.name = X.taskName ∧
      Y = { X with status := { X.status with finishedRoundNumber := cr.status.doneRound.getD 0 } } ∧
      ∀ c E, RoundHistory c E cr.status →
        (Y.status.finishedRoundNumber = X.status.finishedRoundNumber ↔ cr.status.doneRound = some E) := by
  obtain ⟨k, ys, hys, hXys⟩ := mem_getList hlist hX
  obtain ⟨cr, hcr, D, E, result, latest, hD, hE, hlat, rfl⟩ := mem_getKindReports hys hXys
  obtain ⟨rs, latest', hlat', rfl⟩ :=
    get_eq_ok_of_unique (Cluster.get_of_mem hcr) hshared hget
  -- `Get` and `GetList` read the same report files of the task
  have hsame : collectReports cr.name
      (readDir.filter fun item => contains item.1 cr.name && !contains item.1 "summary") =
      collectReports cr.name
        ((readDir.filter fun item => kindFile k item.1).insertionSort fun a b => a.1 ≤ b.1) := by
    rw [List.Pairwise.insertionSort_eq (hsorted.filter _)]
    apply collectReports_filter_congr
    intro f hf hrep
    rw [contains_of_isReportOf hrep]
    cases hsum : contains f.1 "summary"
    · rw [hkind f hf hrep hsum]
      rfl
    · simp [kindFile, hsum]
  rw [getLatestRoundReports_congr hsame, hlat] at hlat'
  obtain ⟨rfl, rfl⟩ := Prod.mk.inj (Except.ok.inj hlat')
  refine ⟨cr, hcr, rfl, by simp [hE], ?_⟩
  -- the latest record is of round `D + 1` until the task is done, and of round `D` then
  rintro c E' ⟨hE', D', hD', hshape⟩
  rw [hE, Option.some.injEq] at hE'
  rw [hD, Option.some.injEq] at hD'
  subst hE' hD'
  obtain ⟨r, rest, hh⟩ := List.exists_cons_of_ne_nil hshape.nonempty
  have hround := hshape.head_round r (by simp [hh])
  simp only [hh, hD, List.head?_cons, Option.map_some, Option.getD_some, Option.some.injEq, hround]
  split_ifs with hDE <;> omega

/-- The NetReach task `demo` during its first round, with one report. -/
theorem get_agrees_with_getList_demo :
    let status : TaskStatus :=
      { doneRound := some 0, expectedRound := some 2, history := [newStatusHistoryRecord 0 1 ⟨some "0 60", 60, 2⟩] }
    let cluster : Cluster := ⟨fun k => if k = .netReach then [⟨"demo", status⟩] else [],
      by intro k; cases k <;> decide⟩
    let readDir : List (String × Except String Int) :=
      [("NetReach_demo_round1_node1_2024-01-01T00:00:00Z", .ok 1)]
    let X : KdoctorReport Int := ⟨"netreach-demo", "demo", .netReach, ⟨2, 1, "NotFinished", 1⟩, some [1]⟩
    let Y : KdoctorReport Int := ⟨"netreach-demo", "demo", .netReach, ⟨2, 0, "NotFinished", 1⟩, some [1]⟩
    getList id cluster readDir = .ok [X] ∧ X ∈ [X] ∧
    (∀ k, k ≠ X.taskType → cluster.get k X.taskName = none) ∧
    (∀ f ∈ readDir, IsReportOf X.taskName f.1 → contains f.1 "summary" = false →
      kindFile X.taskType f.1 = true) ∧
    readDir.Pairwise (fun a b => a.1 ≤ b.1) ∧ get id cluster readDir X.name = .ok Y ∧
    ∃ cr ∈ cluster.tasks X.taskType, cr.name = X.taskName ∧
      Y = { X with status := { X.status with finishedRoundNumber := cr.status.doneRound.getD 0 } } ∧
      ∀ c E, RoundHistory c E cr.status →
        (Y.status.finishedRoundNumber = X.status.finishedRoundNumber ↔ cr.status.doneRound = some E) := by
  intro status cluster readDir X Y
  have hlist : getList id cluster readDir = .ok [X] := by decide +kernel
  have hshared : ∀ k, k ≠ X.taskType → cluster.get k X.taskName = none := by
    intro k hk
    cases k <;> first | exact absurd rfl hk | rfl
  have hkind : ∀ f ∈ readDir, IsReportOf X.taskName f.1 → contains f.1 "summary" = false →
      kindFile X.taskType f.1 = true := by
    intro f hf _ _
    rw [List.mem_singleton] at hf
    subst hf
    decide
  have hsorted : readDir.Pairwise (fun a b => a.1 ≤ b.1) := List.pairwise_singleton _ _
  have hget : get id cluster readDir X.name = .ok Y := by decide +kernel
  exact ⟨hlist, List.mem_singleton_self X, hshared, hkind, hsorted, hget,
    get_agrees_with_getList hlist (List.mem_singleton_self X) hshared hkind hsorted hget⟩

end Reads

/-! ## The latest round -/

/-- A fold of `max` is at least its start and every number it folds. -/
theorem foldl_max_bounds (a : Int) (l : List Int) :
    a ≤ l.foldl max a ∧ ∀ y ∈ l, y ≤ l.foldl max a := by
  induction l generalizing a with
  | nil => simp
  | cons z l ih =>
    obtain ⟨ha, hl⟩ := ih (max a z)
    refine ⟨le_trans (le_max_left a z) ha, ?_⟩
    intro y hy
    rcases List.mem_cons.mp hy with rfl | hy
    · exact le_trans (le_max_right a y) ha
    · exact hl y hy

section Latest

variable {ρ : Type} (roundNumber : ρ → Int)

/-- The latest round of some reports, and 0 when none is later:
`max(0, ...)` of their rounds. -/
def latestRound (reports : List ρ) : Int := (reports.map roundNumber).foldl max 0

theorem latestRound_append_singleton (P : List ρ) (t : ρ) :
    latestRound roundNumber (P ++ [t]) = max (latestRound roundNumber P) (roundNumber t) := by
  simp [latestRound]

theorem le_latestRound {P : List ρ} {x : ρ} (hx : x ∈ P) : roundNumber x ≤ latestRound roundNumber P :=
  (foldl_max_bounds 0 _).2 _ (List.mem_map_of_mem hx)

/-- One report moves the accumulator of the second loop from the reports
before it to the reports up to it. -/
theorem latestStep_spec (P : List ρ) (t : ρ) :
    latestStep roundNumber
        (latestRound roundNumber P, P.filter fun x => roundNumber x = latestRound roundNumber P) t =
      (latestRound roundNumber (P ++ [t]),
        (P ++ [t]).filter fun x => roundNumber x = latestRound roundNumber (P ++ [t])) := by
  rw [latestRound_append_singleton, List.filter_append]
  unfold latestStep
  dsimp only
  split_ifs with hgt heq
  · -- a later round: every report before is of an earlier one
    have hnone : (P.filter fun x => roundNumber x = roundNumber t) = [] :=
      List.filter_eq_nil_iff.mpr fun x hx => by
        have := le_latestRound roundNumber hx
        simp only [decide_eq_true_eq]
        omega
    rw [max_eq_right hgt.le, hnone]
    simp
  · rw [heq, max_self]
    simp [heq]
  · rw [max_eq_left (by omega)]
    simp [heq]

/-- The second loop of `getLatestRoundReports`, from the accumulator of the
reports `P` already read: the loop's invariant rule, the accumulator being
that of the reports read, with `latestStep_spec` as its step. -/
theorem foldl_latestStep (P L : List ρ) :
    L.foldl (latestStep roundNumber)
        (latestRound roundNumber P, P.filter fun x => roundNumber x = latestRound roundNumber P) =
      (latestRound roundNumber (P ++ L),
        (P ++ L).filter fun x => roundNumber x = latestRound roundNumber (P ++ L)) :=
  Transition.foldl_invariant
    (I := fun P acc => acc = (latestRound roundNumber P,
      P.filter fun x => roundNumber x = latestRound roundNumber P))
    (fun P _ t h => h ▸ latestStep_spec roundNumber P t) rfl L

/-- Of files that all decode, the first loop keeps the reports of the task's
files, in order. -/
theorem collectReports_ok (key : String) (files : List (String × ρ)) :
    collectReports key (files.map fun f => (f.1, .ok f.2)) =
      .ok ((files.filter fun f => decide (IsReportOf key f.1)).map Prod.snd) := by
  induction files with
  | nil => rfl
  | cons f files ih =>
    obtain ⟨fileName, report⟩ := f
    by_cases h : IsReportOf key fileName
    · rw [List.map_cons, List.filter_cons_of_pos (by simpa using h), List.map_cons]
      obtain ⟨hlen, hkey⟩ := h
      simp only [collectReports, hlen, ne_eq, not_true_eq_false, if_false, ← hkey, if_true, ih]
      rfl
    · rw [List.map_cons, @collectReports_cons_of_not ρ key (fileName, .ok report) h, ih,
        List.filter_cons_of_neg (by simpa using h)]

/-- `getLatestRoundReports` of report files that all decode: the round it
returns is the latest round of the reports of the task's files (five `_`
fields, the second the task name), and 0 when none is later; the reports it
returns are those of that round, in the order of the files, and `nil` when
there are none. -/
theorem getLatestRoundReports_selects_latest (key : String) (files : List (String × ρ)) :
    getLatestRoundReports roundNumber key (files.map fun f => (f.1, .ok f.2)) =
      let reports := (files.filter fun f => decide (IsReportOf key f.1)).map Prod.snd
      let latest := (reports.map roundNumber).foldl max 0
      let selected := reports.filter fun x => roundNumber x = latest
      .ok (if selected = [] then none else some selected, latest) := by
  -- the second loop starts from the accumulator of no report
  have hloop := foldl_latestStep roundNumber []
    ((files.filter fun f => decide (IsReportOf key f.1)).map Prod.snd)
  simp only [List.nil_append] at hloop
  simp only [getLatestRoundReports, collectReports_ok]
  exact congrArg (fun acc : Int × List ρ => Except.ok (if acc.2 = [] then none else some acc.2, acc.1))
    hloop

end Latest

/-! ## `Get` and `GetList` disagree -/

/-- A NetReach task `demo` of two rounds, as the first reconcile of the
controller leaves it at clock zero, and the report of node `node1` for its
first round: `GetList` counts one finished round (the round of the latest
record), `Get` none (`DoneRound`). With a Netdns task of the same name and
its report, `Get` of the name `GetList` gives the Netdns task answers with
the NetReach task, under the name `netreach-demo`, and with the reports of
both tasks. -/
theorem kdoctorReport_get_disagrees_with_list (cfg : ControllerConfig)
    (parse : String → Option (Int → Int)) :
    let input : ControllerInput := ⟨0, .ok ["node1"], "", Iteration.inOrder String⟩
    let plan : SchedulePlan := ⟨some "0 60", 60, 2⟩
    let status : TaskStatus :=
      { doneRound := some 0, expectedRound := some 2, history := [newStatusHistoryRecord 0 1 plan] }
    let endTime : GoTime.Civil := ⟨2024, 1, 1, 0, 0, 0, 0, 0, by decide, by decide, by decide,
      by decide, by decide, by decide⟩
    let cluster : Cluster := ⟨fun k => if k = .netReach then [⟨"demo", status⟩] else [],
      by intro k; cases k <;> decide⟩
    let shared : Cluster := ⟨fun k => if k = .appHttpHealthy then [] else [⟨"demo", status⟩],
      by intro k; cases k <;> decide⟩
    let reachFile := FileManager.generateTaskFileName "NetReach" "demo" 1 "node1" endTime
    let dnsFile := FileManager.generateTaskFileName "Netdns" "demo" 1 "node1" endTime
    updateStatus cfg parse input TaskStatus.empty plan = .ok (some { requeue := true }, some status) ∧
    getList id cluster [(reachFile, .ok 1)] =
      .ok [⟨"netreach-demo", "demo", .netReach, ⟨2, 1, "NotFinished", 1⟩, some [1]⟩] ∧
    get id cluster [(reachFile, .ok 1)] "netreach-demo" =
      .ok ⟨"netreach-demo", "demo", .netReach, ⟨2, 0, "NotFinished", 1⟩, some [1]⟩ ∧
    getList id shared [(reachFile, .ok 1), (dnsFile, .ok 1)] =
      .ok [⟨"netdns-demo", "demo", .netdns, ⟨2, 1, "NotFinished", 1⟩, some [1]⟩,
           ⟨"netreach-demo", "demo", .netReach, ⟨2, 1, "NotFinished", 1⟩, some [1]⟩] ∧
    get id shared [(reachFile, .ok 1), (dnsFile, .ok 1)] "netdns-demo" =
      .ok ⟨"netreach-demo", "demo", .netReach, ⟨2, 0, "NotFinished", 1⟩, some [1, 1]⟩ := by
  intro input plan status endTime cluster shared reachFile dnsFile
  have hsplit : split "0 60" ' ' = ["0", "60"] := by decide
  have hfirst : newStatusHistoryRecord (input.now + minutes (atoi "0").1) 1 plan =
      newStatusHistoryRecord 0 1 plan := by
    rw [show atoi "0" = (0, true) by decide, show minutes 0 = 0 by decide, Int.add_zero]
  refine ⟨?_, by decide +kernel, by decide +kernel, by decide +kernel, by decide +kernel⟩
  rw [updateStatus_empty_twoFields rfl hsplit, hfirst]

end KDoctor.ApiServer
