import KDoctor.Lib.Go
import KDoctor.Lib.GoTime

/-!
The controller's report sync (`reportManager/worker.go`). A work-queue key
names a task; the worker lists the controller's report directory once and,
for each agent pod, fetches the reports of the agent that the controller
lacks. A report is identified by its name without the last `_` field, the
time it may be removed after: the controller saves a fetched report under
that prefix and a time of its own.

A directory is the list of its file names; the gRPC listing of an agent's
directory is an input, its error included, and each copy the sync asks for
is the remote path and the local path. `getMissRemoteReport_eq_filter` reads
the loop of `GetMissRemoteReport` as a filter; `filePre_eq_beforeLastUnderscore`
says what its prefix is, for every name.
-/

namespace KDoctor.ReportManager

open Go GoTime

/-- The name of a report without its last `_` field and the `_` before it
(`remoteFilePre`, `localFilePre`). -/
def filePre (fileName : String) : String :=
  let v := split fileName '_'
  let timeSuffix := v.getLastD ""
  trimSuffix fileName ("_" ++ timeSuffix)

/-- `GetMissRemoteReport`: the remote reports with no local report of the
same prefix. The inner loop breaks at the first match, which `any` is. -/
def getMissRemoteReport (remoteFileList localFileList : List String) : List String :=
  remoteFileList.foldl (fun remoteMissFileList remotefileName =>
    let remoteFilePre := filePre remotefileName
    let bingo := localFileList.any fun localFileName => filePre localFileName == remoteFilePre
    if !bingo then remoteMissFileList ++ [remotefileName] else remoteMissFileList) []

/-- The local name a fetched report is saved under. -/
def syncLocalFileName (remoteFileName : String) (endTime : Civil) : String :=
  filePre remoteFileName ++ "_" ++ formatRFC3339 endTime

/-- `syncReportFromOneAgent`: the copies it asks the agent for, in order.
`endTime i` is the clock plus the report age when it handles the `i`-th
missing report; a failed listing asks for nothing. -/
def syncReportFromOneAgent (dirPathAgentReport dirPathControllerReport : String)
    (remoteFilesList : Except String (List String)) (localFileList : List String)
    (endTime : Nat → Civil) : List (String × String) :=
  match remoteFilesList with
  | .error _ => []
  | .ok remoteFilesList =>
    (getMissRemoteReport remoteFilesList localFileList).mapIdx fun i remoteFileName =>
      (pathJoin dirPathAgentReport remoteFileName,
        pathJoin dirPathControllerReport (syncLocalFileName remoteFileName (endTime i)))

/-- `syncHandler`: the kind and the name of the task a work-queue key
names, the first two `.` fields; a key of one field is out of range. -/
def syncHandler (trigger : String) : Except String (String × String) :=
  match split trigger '.' with
  | taskKind :: taskName :: _ => .ok (taskKind, taskName)
  | _ => .error "runtime error: index out of range [1] with length 1"

/-- What comes before the last `_` of a name, or the whole name when it has
none: the identity of a report, as the sync means it. -/
def beforeLastUnderscore (s : String) : String :=
  if '_' ∈ s.toList then String.ofList (s.toList.reverse.dropWhile (· != '_')).tail.reverse else s

/-! ## The prefix of a name -/

theorem toList_append_underscore (p ts : String) :
    (p ++ "_" ++ ts).toList = p.toList ++ '_' :: ts.toList := by
  simp

/-- The last field of a name is what follows its last `_`. -/
theorem split_append_underscore (p : String) {ts : String} (hts : '_' ∉ ts.toList) :
    split (p ++ "_" ++ ts) '_' = split p '_' ++ [ts] := by
  unfold split
  rw [toList_append_underscore, splitChars_append_sep, splitChars_of_not_mem hts]
  simp

theorem filePre_append (p : String) {ts : String} (hts : '_' ∉ ts.toList) :
    filePre (p ++ "_" ++ ts) = p := by
  simp only [filePre, split_append_underscore p hts, List.getLastD_eq_getLast?,
    List.getLast?_concat, Option.getD_some]
  rw [String.append_assoc, trimSuffix_append]

/-- A name without `_` is its own prefix: `"_" + name` is longer than it. -/
theorem filePre_of_not_mem {s : String} (h : '_' ∉ s.toList) : filePre s = s := by
  have hsplit : split s '_' = [s] := by
    simp [split, splitChars_of_not_mem h]
  simp only [filePre, hsplit, List.getLastD_eq_getLast?, List.getLast?_singleton, Option.getD_some]
  apply trimSuffix_of_length_lt
  simp

theorem beforeLastUnderscore_append (p : String) {ts : String} (hts : '_' ∉ ts.toList) :
    beforeLastUnderscore (p ++ "_" ++ ts) = p := by
  have hdrop : (ts.toList.reverse ++ '_' :: p.toList.reverse).dropWhile (· != '_') =
      '_' :: p.toList.reverse := by
    rw [List.dropWhile_append_of_pos (fun c hc => by
      have : c ≠ '_' := fun h => hts (h ▸ List.mem_reverse.mp hc)
      simpa using this)]
    simp
  simp [beforeLastUnderscore, hdrop]

/-- `strings.Split` and `TrimSuffix` compute the text before the last `_`,
for names of every shape: without `_`, ending in `_`, or with the last field
also earlier in the name. -/
theorem filePre_eq_beforeLastUnderscore (s : String) : filePre s = beforeLastUnderscore s := by
  by_cases h : '_' ∈ s.toList
  · obtain ⟨p, ts, hs, hts⟩ := exists_eq_append_sep h
    have hs' : s = String.ofList p ++ "_" ++ String.ofList ts := by
      rw [← String.toList_inj, toList_append_underscore]
      simpa using hs
    have hts' : '_' ∉ (String.ofList ts).toList := by simpa using hts
    rw [hs', filePre_append _ hts', beforeLastUnderscore_append _ hts']
  · rw [filePre_of_not_mem h, beforeLastUnderscore, if_neg h]

/-! ## The missing reports -/

theorem getMissRemoteReport_eq_filter (remoteFileList localFileList : List String) :
    getMissRemoteReport remoteFileList localFileList =
      remoteFileList.filter fun r => !(localFileList.any fun l => filePre l == filePre r) := by
  exact foldl_append_filter _ [] remoteFileList

theorem mem_getMissRemoteReport {remoteFileList localFileList : List String} {r : String} :
    r ∈ getMissRemoteReport remoteFileList localFileList ↔
      r ∈ remoteFileList ∧ ∀ l ∈ localFileList, filePre l ≠ filePre r := by
  simp [getMissRemoteReport_eq_filter]

/-- Nothing is missing when every remote report has a local report of its
prefix. -/
theorem getMissRemoteReport_eq_nil {remoteFileList localFileList : List String}
    (h : ∀ r ∈ remoteFileList, ∃ l ∈ localFileList, filePre l = filePre r) :
    getMissRemoteReport remoteFileList localFileList = [] := by
  rw [List.eq_nil_iff_forall_not_mem]
  intro r hr
  obtain ⟨hr, hnone⟩ := mem_getMissRemoteReport.mp hr
  obtain ⟨l, hl, heq⟩ := h r hr
  exact hnone l hl heq

/-- A saved report has the prefix of the report it was fetched from: the
time the controller appends has no `_`. -/
theorem filePre_syncLocalFileName (remoteFileName : String) (endTime : Civil) :
    filePre (syncLocalFileName remoteFileName endTime) = filePre remoteFileName :=
  filePre_append _ (underscore_not_mem_formatRFC3339 endTime)

/-- The sync asks for every missing report, to be saved under its local
name. -/
theorem mem_syncReportFromOneAgent {dirPathAgentReport dirPathControllerReport : String}
    {remoteFileList localFileList : List String} {endTime : Nat → Civil} {m : String}
    (hm : m ∈ getMissRemoteReport remoteFileList localFileList) :
    ∃ i, (pathJoin dirPathAgentReport m,
        pathJoin dirPathControllerReport (syncLocalFileName m (endTime i))) ∈
      syncReportFromOneAgent dirPathAgentReport dirPathControllerReport (.ok remoteFileList)
        localFileList endTime := by
  obtain ⟨i, hi, rfl⟩ := List.mem_iff_getElem.mp hm
  exact ⟨i, List.mem_mapIdx.mpr ⟨i, hi, rfl⟩⟩

/-- `GetMissRemoteReport` keeps, in order and with repeats, the remote
reports whose text before the last `_` is that of no local report; once the
controller's directory holds what it held and every report a sync saved, a
second sync finds nothing missing. -/
theorem getMissRemoteReport_exact_idempotent (remoteFileList localFileList : List String) :
    getMissRemoteReport remoteFileList localFileList =
      remoteFileList.filter (fun r =>
        localFileList.all fun l => beforeLastUnderscore l != beforeLastUnderscore r) ∧
    ∀ (dirPathAgentReport dirPathControllerReport : String) (endTime : Nat → Civil)
      (localFileList' : List String), (∀ l ∈ localFileList, l ∈ localFileList') →
      (∀ copy ∈ syncReportFromOneAgent dirPathAgentReport dirPathControllerReport
          (.ok remoteFileList) localFileList endTime,
        ∃ name ∈ localFileList', copy.2 = pathJoin dirPathControllerReport name) →
      getMissRemoteReport remoteFileList localFileList' = [] := by
  constructor
  · rw [getMissRemoteReport_eq_filter]
    apply List.filter_congr
    intro r _
    simp [filePre_eq_beforeLastUnderscore, List.all_eq_not_any_not, bne]
  · intro dirPathAgentReport dirPathControllerReport endTime localFileList' hkept hsaved
    apply getMissRemoteReport_eq_nil
    intro r hr
    by_cases hlocal : ∃ l ∈ localFileList, filePre l = filePre r
    · -- a report that was not missing keeps its local report
      obtain ⟨l, hl, heq⟩ := hlocal
      exact ⟨l, hkept l hl, heq⟩
    · -- a missing report was saved under a name of its prefix
      have hmiss : r ∈ getMissRemoteReport remoteFileList localFileList :=
        mem_getMissRemoteReport.mpr ⟨hr, fun l hl heq => hlocal ⟨l, hl, heq⟩⟩
      obtain ⟨i, hcopy⟩ :=
        @mem_syncReportFromOneAgent dirPathAgentReport dirPathControllerReport _ _ endTime r hmiss
      obtain ⟨name, hname, heq⟩ := hsaved _ hcopy
      have hname_eq : name = syncLocalFileName r (endTime i) :=
        ((String.append_right_inj _).mp heq).symm
      exact ⟨name, hname, hname_eq ▸ filePre_syncLocalFileName r (endTime i)⟩

end KDoctor.ReportManager
