import KDoctor.FileManager.Manager
import KDoctor.ReportManager.Worker
import KDoctor.K8s.Validation

/-!
The summary report of a closed round (`WriteSummaryReport` of
`controllerTools.go`) and the work-queue key it hands to the report sync.
The task name is the kind and the name of the task joined by `.`; the
controller cuts it at the first `.` to name the report file, and enqueues
the task name and the round joined by `.`, which the worker (`syncHandler`)
cuts into its first two `.` fields.

The report's content is not modelled, and writing it succeeds; `fm` says
whether the controller has a file manager. The end time is the start of the
round plus the report age, as the controller computes it.
-/

namespace KDoctor.PluginManager

open Go GoTime FileManager ReportManager

/-- The kind and the instance name `WriteSummaryReport` reads off a task
name: the first `.` field, and what follows it and its `.`. -/
def kindInstanceName (taskName : String) : String × String :=
  let kindName := (split taskName '.').headD ""
  (kindName, trimPrefix taskName (kindName ++ "."))

/-- `WriteSummaryReport`: the key it enqueues, if any, and the report
directory after it. -/
def writeSummaryReport (fm : Bool) (files : List String) (taskName : String) (roundNumber : Int)
    (endTime : Civil) : Option String × List String :=
  if !fm then (none, files)
  else
    let kindName := (kindInstanceName taskName).1
    let instanceName := (kindInstanceName taskName).2
    if !checkTaskFileExisted files kindName instanceName roundNumber then
      (some (taskName ++ "." ++ toString roundNumber),
        writeTaskFile files kindName instanceName roundNumber "summary" endTime)
    else (none, files)

/-! ## The names on both sides of the queue -/

/-- A kind name without `.` is read back with the whole name of the task. -/
theorem kindInstanceName_append {kindName : String} (hk : '.' ∉ kindName.toList) (name : String) :
    kindInstanceName (kindName ++ "." ++ name) = (kindName, name) := by
  have hsplit : split (kindName ++ "." ++ name) '.' = kindName :: split name '.' := by
    have hcs : (kindName ++ "." ++ name).toList = kindName.toList ++ '.' :: name.toList := by simp
    simp [split, hcs, splitChars_sep hk]
  simp only [kindInstanceName]
  rw [hsplit, List.headD_cons, trimPrefix_append]

/-- The key of a round is enqueued once, when no report of the round exists. -/
theorem writeSummaryReport_fst_eq_some {files : List String} {taskName : String} {roundNumber : Int}
    {endTime : Civil} {key : String} :
    (writeSummaryReport true files taskName roundNumber endTime).1 = some key ↔
      checkTaskFileExisted files (kindInstanceName taskName).1 (kindInstanceName taskName).2
        roundNumber = false ∧ taskName ++ "." ++ toString roundNumber = key := by
  unfold writeSummaryReport
  cases h : checkTaskFileExisted files (kindInstanceName taskName).1 (kindInstanceName taskName).2
    roundNumber <;> simp [h]

/-- The worker reads the kind of a key and the first `.` field of the task's
name. -/
theorem syncHandler_key {kindName : String} (hk : '.' ∉ kindName.toList) (name : String)
    (roundNumber : Int) :
    syncHandler (kindName ++ "." ++ name ++ "." ++ toString roundNumber) =
      .ok (kindName, String.ofList ((splitChars '.' name.toList).headD [])) := by
  obtain ⟨piece, pieces, hname⟩ := List.exists_cons_of_ne_nil (splitChars_ne_nil '.' name.toList)
  simp [syncHandler, split, splitChars_sep hk, splitChars_append_sep, hname]

/-- The key `WriteSummaryReport` enqueues for a task of a kind without `.`
names, for the worker, the kind and the instance the controller reads off
the task name exactly when that name has no `.`. -/
theorem syncHandler_writeSummaryReport_iff {kindName name : String} (hk : '.' ∉ kindName.toList)
    {files : List String} {roundNumber : Int} {endTime : Civil} {key : String}
    (hkey : (writeSummaryReport true files (kindName ++ "." ++ name) roundNumber endTime).1 = some key) :
    syncHandler key = .ok (kindInstanceName (kindName ++ "." ++ name)) ↔ '.' ∉ name.toList := by
  obtain ⟨-, rfl⟩ := writeSummaryReport_fst_eq_some.mp hkey
  rw [syncHandler_key hk, kindInstanceName_append hk, ← head?_splitChars_eq_iff]
  obtain ⟨piece, pieces, hname⟩ := List.exists_cons_of_ne_nil (splitChars_ne_nil '.' name.toList)
  rw [hname]
  -- the worker's name is the first piece; it is the task's name iff they have the same characters
  simp only [List.headD_cons, List.head?_cons, Option.some.injEq, Except.ok.injEq, Prod.mk.injEq,
    true_and]
  constructor
  · intro h
    rw [← h, String.toList_ofList]
  · intro h
    rw [h, String.ofList_toList]

/-- A round of task `demo` of the first day of 2024. -/
theorem syncHandler_writeSummaryReport_demo :
    let endTime : Civil := ⟨2024, 1, 1, 0, 0, 0, 0, 0, by decide, by decide, by decide, by decide,
      by decide, by decide⟩
    '.' ∉ "NetReach".toList ∧
    (writeSummaryReport true [] ("NetReach" ++ "." ++ "demo") 1 endTime).1 = some "NetReach.demo.1" ∧
    (syncHandler "NetReach.demo.1" = .ok (kindInstanceName ("NetReach" ++ "." ++ "demo")) ↔
      '.' ∉ "demo".toList) := by
  intro endTime
  exact ⟨by decide, by decide,
    @syncHandler_writeSummaryReport_iff "NetReach" "demo" (by decide) [] 1 endTime "NetReach.demo.1"
      (by decide)⟩

/-- The task `a.b` of kind `NetReach`, a name the API server admits: its
summary report is written for instance `a.b`, and the key of its first round
sends the worker to the task `a`. -/
theorem summaryReportKey_dotted_name :
    let endTime : Civil := ⟨2024, 1, 1, 0, 0, 0, 0, 0, by decide, by decide, by decide, by decide,
      by decide, by decide⟩
    K8s.isDNS1123Subdomain "a.b".toList = true ∧
    kindInstanceName "NetReach.a.b" = ("NetReach", "a.b") ∧
    writeSummaryReport true [] "NetReach.a.b" 1 endTime =
      (some "NetReach.a.b.1", [generateTaskFileName "NetReach" "a.b" 1 "summary" endTime]) ∧
    syncHandler "NetReach.a.b.1" = .ok ("NetReach", "a") := by
  decide

end KDoctor.PluginManager
