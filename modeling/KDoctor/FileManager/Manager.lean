import KDoctor.Lib.Go
import KDoctor.Lib.GoTime
import Mathlib

/-!
The report files of `fileManager/manager.go`. A report of a round is written
under the name `kind_task_roundN_node_time`, with the time it may be removed
after written with `RFC3339`; the cleaner reads that time back from the last
`_` field, `WriteSummaryReport` asks whether some file of a round exists, and
the API server lists the files of a task.

A directory is the list of the names of its files, in the order `ReadDir`
gives them; a failure to read it is left out. `path.Join` of the report
directory and a name is `Go.pathJoin`.

The cleaner reads the time back from a name whose node name has no `/`
(`getTaskFileEndTime_generateTaskFileName`): exactly, up to the nanoseconds,
when the zone offset of the time is a whole number of minutes, and moved by
the seconds of the offset otherwise, as `RFC3339` shows no seconds of an
offset. A `/` in a name makes `path.Base` keep only what follows it, which
still ends with the round, the node and the time when the `/` is in the kind
or the task name, but leaves two fields when it is in the node name.
-/

namespace KDoctor.FileManager

open Go GoTime

/-- `GenerateTaskFileName`. -/
def generateTaskFileName (kindName taskName : String) (roundNumber : Int) (nodeName : String)
    (endTime : Civil) : String :=
  kindName ++ "_" ++ taskName ++ "_round" ++ toString roundNumber ++ "_" ++ nodeName ++ "_" ++
    formatRFC3339 endTime

/-- `getTaskFileEndTime`: the instant the last `_` field of a file name
shows. A text the fast path of `Parse` refuses gives an error whose detail
the model does not reproduce. -/
def getTaskFileEndTime (filePath : String) : Except String Instant :=
  let name := pathBase filePath
  if name.length = 0 then .error "failed to get file name"
  else
    let v := split name '_'
    if v.length < 3 then .error ("file name " ++ name ++ " is not agent format to get file name")
    else
      let value := v.getLastD ""
      match parseRFC3339 value with
      | some endTime => .ok endTime
      | none => .error ("parsing time \"" ++ value ++ "\" as \"2006-01-02T15:04:05Z07:00\"")

/-- `GetTaskAllFile`: the paths of the files of a task, in directory order. -/
def getTaskAllFile (reportDir : String) (files : List String) (kindName taskName : String) :
    List String :=
  (files.filter fun name => hasPrefix name (kindName ++ "_" ++ taskName ++ "_round")).map
    (pathJoin reportDir)

/-- `CheckTaskFileExisted`: whether some file is of the round of the task. -/
def checkTaskFileExisted (files : List String) (kindName taskName : String) (roundNumber : Int) :
    Bool :=
  files.any fun name => hasPrefix name (kindName ++ "_" ++ taskName ++ "_round" ++ toString roundNumber ++ "_")

/-- `WriteTaskFile`: the directory with the report's file, created or
overwritten. -/
def writeTaskFile (files : List String) (kindName taskName : String) (roundNumber : Int)
    (nodeName : String) (endTime : Civil) : List String :=
  let name := generateTaskFileName kindName taskName roundNumber nodeName endTime
  if name ∈ files then files else files ++ [name]

/-! ## The name, field by field -/

/-- The characters of `round%d`. -/
theorem toList_round (roundNumber : Int) :
    ("round" ++ toString roundNumber).toList = 'r' :: 'o' :: 'u' :: 'n' :: 'd' :: (toString roundNumber).toList := by
  simp

theorem toList_generateTaskFileName (kindName taskName : String) (roundNumber : Int)
    (nodeName : String) (endTime : Civil) :
    (generateTaskFileName kindName taskName roundNumber nodeName endTime).toList =
      kindName.toList ++ '_' :: (taskName.toList ++ '_' ::
        (("round" ++ toString roundNumber).toList ++ '_' :: (nodeName.toList ++ '_' ::
          (formatRFC3339 endTime).toList))) := by
  simp [generateTaskFileName]

/-- The characters of `round%d` are those of `round`, a sign and digits. -/
theorem mem_round {roundNumber : Int} {c : Char} (h : c ∈ ("round" ++ toString roundNumber).toList) :
    c ∈ "round".toList ∨ c = '-' ∨ c.isDigit = true := by
  rw [String.toList_append, List.mem_append] at h
  rcases h with h | h
  · exact .inl h
  · exact .inr (mem_toString_int h)

theorem underscore_not_mem_round (roundNumber : Int) : '_' ∉ ("round" ++ toString roundNumber).toList :=
  fun h => by rcases mem_round h with h | h | h <;> revert h <;> decide

theorem slash_not_mem_round (roundNumber : Int) : '/' ∉ ("round" ++ toString roundNumber).toList :=
  fun h => by rcases mem_round h with h | h | h <;> revert h <;> decide

section Names

variable {kindName taskName nodeName : String} (roundNumber : Int) (endTime : Civil)

/-- Names without `_` make a file name of five `_` fields. -/
theorem split_generateTaskFileName (hk : '_' ∉ kindName.toList) (ht : '_' ∉ taskName.toList)
    (hn : '_' ∉ nodeName.toList) :
    split (generateTaskFileName kindName taskName roundNumber nodeName endTime) '_' =
      [kindName, taskName, "round" ++ toString roundNumber, nodeName, formatRFC3339 endTime] := by
  unfold split
  rw [toList_generateTaskFileName, splitChars_sep hk, splitChars_sep ht,
    splitChars_sep (underscore_not_mem_round roundNumber), splitChars_sep hn,
    splitChars_of_not_mem (underscore_not_mem_formatRFC3339 endTime)]
  simp only [List.map_cons, List.map_nil, String.ofList_toList]

/-- When the node name has no `/`, the last path element of a file name ends
with its round, node and time fields, whatever the kind and task names hold:
a `/` in them only cuts the front of the name. -/
theorem toList_pathBase_generateTaskFileName (hn : '/' ∉ nodeName.toList) :
    ∃ front, (pathBase (generateTaskFileName kindName taskName roundNumber nodeName endTime)).toList =
      front ++ '_' :: (("round" ++ toString roundNumber).toList ++ '_' ::
        (nodeName.toList ++ '_' :: (formatRFC3339 endTime).toList)) := by
  have hname : generateTaskFileName kindName taskName roundNumber nodeName endTime =
      String.ofList ((kindName.toList ++ '_' :: taskName.toList) ++ '_' ::
        (("round" ++ toString roundNumber).toList ++ '_' ::
          (nodeName.toList ++ '_' :: (formatRFC3339 endTime).toList))) := by
    rw [← String.toList_inj, toList_generateTaskFileName, String.toList_ofList, List.append_assoc,
      List.cons_append]
  have hslash : '/' ∉ '_' :: (("round" ++ toString roundNumber).toList ++ '_' ::
      (nodeName.toList ++ '_' :: (formatRFC3339 endTime).toList)) := by
    simp only [List.mem_cons, List.mem_append, hn, slash_not_mem_round, slash_not_mem_formatRFC3339,
      false_or, or_false]
    decide
  exact ⟨_, by rw [hname, pathBase_append hslash (List.cons_ne_nil _ _)]⟩

/-- The cleaner reads the time a file was named with from its last field. -/
theorem getTaskFileEndTime_generateTaskFileName (hn : '/' ∉ nodeName.toList) {instant : Instant}
    (hparse : parseRFC3339 (formatRFC3339 endTime) = some instant) :
    getTaskFileEndTime (generateTaskFileName kindName taskName roundNumber nodeName endTime) =
      .ok instant := by
  obtain ⟨front, hbase⟩ := toList_pathBase_generateTaskFileName roundNumber endTime hn
  -- the fields are those of the front, the round, those of the node, and the time
  have hsplit : split (pathBase (generateTaskFileName kindName taskName roundNumber nodeName endTime)) '_' =
      (splitChars '_' front ++ (("round" ++ toString roundNumber).toList ::
        splitChars '_' nodeName.toList) ++ [(formatRFC3339 endTime).toList]).map String.ofList := by
    rw [split, hbase, splitChars_append_sep, splitChars_append_sep, splitChars_append_sep,
      splitChars_of_not_mem (underscore_not_mem_round roundNumber),
      splitChars_of_not_mem (underscore_not_mem_formatRFC3339 endTime)]
    simp
  have hlen : (pathBase (generateTaskFileName kindName taskName roundNumber nodeName endTime)).length ≠ 0 := by
    rw [← String.length_toList, hbase]
    simp
  have hfields : ¬ (split (pathBase (generateTaskFileName kindName taskName roundNumber nodeName endTime))
      '_').length < 3 := by
    -- the front and the node give a field each at least
    have := List.length_pos_iff.mpr (splitChars_ne_nil '_' front)
    have := List.length_pos_iff.mpr (splitChars_ne_nil '_' nodeName.toList)
    rw [hsplit, List.length_map, List.length_append, List.length_append, List.length_cons,
      List.length_singleton]
    omega
  simp only [getTaskFileEndTime, hlen, if_false, hfields]
  rw [hsplit, List.getLastD_eq_getLast?, List.getLast?_map, List.getLast?_append_of_ne_nil _ (by simp)]
  simp [hparse]

end Names

/-! ## The prefixes the readers match -/

theorem toList_roundPrefix (kindName taskName : String) (roundNumber : Int) :
    (kindName ++ "_" ++ taskName ++ "_round" ++ toString roundNumber ++ "_").toList =
      kindName.toList ++ '_' :: (taskName.toList ++ '_' ::
        (("round" ++ toString roundNumber).toList ++ '_' :: [])) := by
  simp

theorem toList_taskPrefix (kindName taskName : String) :
    (kindName ++ "_" ++ taskName ++ "_round").toList =
      kindName.toList ++ '_' :: (taskName.toList ++ '_' :: "round".toList) := by
  simp

theorem round_inj {roundNumber roundNumber' : Int} :
    ("round" ++ toString roundNumber').toList = ("round" ++ toString roundNumber).toList ↔
      roundNumber' = roundNumber := by
  constructor
  · intro h
    exact Int.repr_injective ((String.append_right_inj _).mp (String.toList_inj.mp h))
  · rintro rfl
    rfl

section Prefixes

variable {kindName taskName nodeName kindName' taskName' : String} (roundNumber : Int) (endTime : Civil)

/-- The prefix of `CheckTaskFileExisted` matches a file name of names without
`_` only for its own kind, task and round: the `_` after the round number
keeps `round1_` from matching `round10_`. -/
theorem hasPrefix_roundPrefix_iff (hk : '_' ∉ kindName.toList) (ht : '_' ∉ taskName.toList)
    (hk' : '_' ∉ kindName'.toList) (ht' : '_' ∉ taskName'.toList) (roundNumber' : Int) :
    hasPrefix (generateTaskFileName kindName taskName roundNumber nodeName endTime)
        (kindName' ++ "_" ++ taskName' ++ "_round" ++ toString roundNumber' ++ "_") = true ↔
      kindName' = kindName ∧ taskName' = taskName ∧ roundNumber' = roundNumber := by
  rw [hasPrefix_iff, toList_roundPrefix, toList_generateTaskFileName, sep_prefix_iff hk' hk,
    sep_prefix_iff ht' ht, sep_prefix_iff (underscore_not_mem_round _) (underscore_not_mem_round _),
    round_inj, String.toList_inj, String.toList_inj]
  simp

/-- The prefix of `GetTaskAllFile` matches a file name of names without `_`
only for its own kind and task. -/
theorem hasPrefix_taskPrefix_iff (hk : '_' ∉ kindName.toList) (ht : '_' ∉ taskName.toList)
    (hk' : '_' ∉ kindName'.toList) (ht' : '_' ∉ taskName'.toList) :
    hasPrefix (generateTaskFileName kindName taskName roundNumber nodeName endTime)
        (kindName' ++ "_" ++ taskName' ++ "_round") = true ↔
      kindName' = kindName ∧ taskName' = taskName := by
  rw [hasPrefix_iff, toList_taskPrefix, toList_generateTaskFileName, sep_prefix_iff hk' hk,
    sep_prefix_iff ht' ht, String.toList_inj, String.toList_inj, toList_round]
  simp

end Prefixes

/-! ## The directory -/

/-- `GetTaskAllFile` lists the path of a file exactly when the file is in the
directory under the prefix of the task. -/
theorem mem_getTaskAllFile_iff {reportDir name kindName taskName : String} {files : List String} :
    pathJoin reportDir name ∈ getTaskAllFile reportDir files kindName taskName ↔
      name ∈ files ∧ hasPrefix name (kindName ++ "_" ++ taskName ++ "_round") = true := by
  simp [getTaskAllFile, pathJoin]

theorem checkTaskFileExisted_singleton (name kindName taskName : String) (roundNumber : Int) :
    checkTaskFileExisted [name] kindName taskName roundNumber =
      hasPrefix name (kindName ++ "_" ++ taskName ++ "_round" ++ toString roundNumber ++ "_") := by
  simp [checkTaskFileExisted]

/-- Under names without `_`, a node name without `/`, and a time of a
four-digit year at an offset of whole minutes below a day, every reader of the report directory
agrees with the writer: the cleaner reads the end time back without its
nanoseconds, the name has five `_` fields, `CheckTaskFileExisted` finds the
file for its own round only, and `GetTaskAllFile` lists it for its own task
only. -/
theorem taskFileName_readers_agree {kindName taskName nodeName : String} (roundNumber : Int)
    (endTime : Civil) (hk : '_' ∉ kindName.toList) (ht : '_' ∉ taskName.toList)
    (hn : '_' ∉ nodeName.toList ∧ '/' ∉ nodeName.toList)
    (hyear : 0 ≤ endTime.year ∧ endTime.year ≤ 9999) (hoff : endTime.offset.natAbs < 86400)
    (hdvd : 60 ∣ endTime.offset) :
    let name := generateTaskFileName kindName taskName roundNumber nodeName endTime
    getTaskFileEndTime name = .ok endTime.instant.truncateSecond ∧
    split name '_' = [kindName, taskName, "round" ++ toString roundNumber, nodeName, formatRFC3339 endTime] ∧
    (∀ kindName' taskName' roundNumber', '_' ∉ kindName'.toList → '_' ∉ taskName'.toList →
      (checkTaskFileExisted [name] kindName' taskName' roundNumber' = true ↔
        kindName' = kindName ∧ taskName' = taskName ∧ roundNumber' = roundNumber)) ∧
    (∀ reportDir files kindName' taskName', name ∈ files → '_' ∉ kindName'.toList →
      '_' ∉ taskName'.toList →
      (pathJoin reportDir name ∈ getTaskAllFile reportDir files kindName' taskName' ↔
        kindName' = kindName ∧ taskName' = taskName)) := by
  intro name
  refine ⟨?_, split_generateTaskFileName roundNumber endTime hk ht hn.1, ?_, ?_⟩
  · exact getTaskFileEndTime_generateTaskFileName roundNumber endTime hn.2
      (parseRFC3339_formatRFC3339_of_dvd endTime hyear hoff hdvd)
  · intro kindName' taskName' roundNumber' hk' ht'
    rw [checkTaskFileExisted_singleton]
    exact hasPrefix_roundPrefix_iff roundNumber endTime hk ht hk' ht' roundNumber'
  · intro reportDir files kindName' taskName' hname hk' ht'
    rw [mem_getTaskAllFile_iff, hasPrefix_taskPrefix_iff roundNumber endTime hk ht hk' ht']
    simp [hname]

/-- A report of round 1 of task `demo` on node `node1`, ending at midnight
UTC on the first day of 2024. -/
theorem taskFileName_readers_agree_netReach :
    let endTime : Civil := ⟨2024, 1, 1, 0, 0, 0, 0, 0, by decide, by decide, by decide, by decide,
      by decide, by decide⟩
    ('_' ∉ "NetReach".toList ∧ '_' ∉ "demo".toList ∧ ('_' ∉ "node1".toList ∧ '/' ∉ "node1".toList) ∧
      (0 ≤ endTime.year ∧ endTime.year ≤ 9999) ∧ endTime.offset.natAbs < 86400 ∧
      60 ∣ endTime.offset) ∧
    getTaskFileEndTime (generateTaskFileName "NetReach" "demo" 1 "node1" endTime) =
      .ok endTime.instant.truncateSecond :=
  ⟨by decide, (taskFileName_readers_agree 1 _ (by decide) (by decide) (by decide) (by decide)
    (by decide) (by decide)).1⟩

/-- The cleaner needs an offset of whole minutes and a node name without
`/`: at Amsterdam's offset of 1900, `+00:19:32`, the name shows `+00:19` and
the cleaner reads an instant 32 seconds late; and the node name `a/b` makes
`path.Base` keep only `b_` and the time, too few fields for the cleaner. -/
theorem taskFileName_readers_agree_counterexample :
    let amsterdam1900 : Civil := ⟨1900, 1, 1, 0, 0, 0, 0, 1172, by decide, by decide, by decide,
      by decide, by decide, by decide⟩
    let utc2024 : Civil := ⟨2024, 1, 1, 0, 0, 0, 0, 0, by decide, by decide, by decide, by decide,
      by decide, by decide⟩
    getTaskFileEndTime (generateTaskFileName "NetReach" "demo" 1 "node1" amsterdam1900) =
      .ok ⟨amsterdam1900.instant.sec + 32, 0⟩ ∧
    getTaskFileEndTime (generateTaskFileName "NetReach" "demo" 1 "a/b" utc2024) =
      .error "file name b_2024-01-01T00:00:00Z is not agent format to get file name" := by
  intro amsterdam1900 utc2024
  constructor
  · rw [getTaskFileEndTime_generateTaskFileName 1 amsterdam1900 (by decide)
      (parseRFC3339_formatRFC3339 amsterdam1900 (by decide) (by decide))]
    decide
  · decide

end KDoctor.FileManager
