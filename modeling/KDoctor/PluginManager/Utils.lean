import KDoctor.Crd.Types
import Mathlib.Data.List.Dedup

/-!
The helpers of `pluginManager/utils.go` and `pluginManager/schedule.go`: the
record of a new round, the membership test an agent makes before it reports,
the de-duplication the controller applies to the nodes of the runtime pods,
and the schedule that places the rounds of a task in time.

A five-field schedule is a crontab parsed by the vendored robfig/cron; the
model takes that parser as the parameter `parseStandard`, which returns the
`Next` function of the parsed schedule, or `none` where `ParseStandard`
fails and the code keeps a nil schedule.
-/

namespace KDoctor.PluginManager

open Crd Go

/-- `NewStatusHistoryRecord`: a not-started record of round `roundNumber`, due
`RoundTimeoutMinute` minutes after `startTime`. -/
def newStatusHistoryRecord (startTime : Int) (roundNumber : Int)
    (schedulePlan : SchedulePlan) : StatusHistoryRecord where
  status := .notstarted
  failureReason := ""
  roundNumber := roundNumber
  startTimeStamp := startTime
  endTimeStamp := none
  duration := none
  deadLineTimeStamp := startTime + minutes schedulePlan.roundTimeoutMinute
  expectedActorNumber := none
  failedAgentNodeList := []
  succeedAgentNodeList := []
  notReportAgentNodeList := []

/-- `CheckItemInList`. -/
def checkItemInList (item : String) (checklist : List String) : Except String Bool :=
  if item = "" then .error "empty item"
  else if checklist = [] then .ok false
  else .ok (checklist.contains item)

/-- A node name that is not empty is looked up in the list. -/
theorem checkItemInList_eq_ok {item : String} (h : item ≠ "") (checklist : List String) :
    checkItemInList item checklist = .ok (decide (item ∈ checklist)) := by
  unfold checkItemInList
  cases checklist with
  | nil => simp [h]
  | cons x xs => simp [h]

/-- `RemoveDuplicates`: the keys of a map filled with `arr`, in the order the
map's `range` visits them. -/
def removeDuplicates {α : Type*} [DecidableEq α] (it : Iteration α) (arr : List α) : List α :=
  it.order arr.dedup

@[simp] theorem mem_removeDuplicates {α : Type*} [DecidableEq α] (it : Iteration α)
    (arr : List α) (x : α) : x ∈ removeDuplicates it arr ↔ x ∈ arr := by
  simp [removeDuplicates, (it.perm _).mem_iff]

theorem nodup_removeDuplicates {α : Type*} [DecidableEq α] (it : Iteration α) (arr : List α) :
    (removeDuplicates it arr).Nodup :=
  (it.perm _).nodup_iff.mpr (List.nodup_dedup arr)

/-! ## Schedule -/

/-- `schedule`: either a crontab, whose `Next` is `cronSchedule` (`none` for the
nil schedule of a crontab that did not parse), or a start delay and an
interval in minutes. -/
structure Schedule where
  isCron : Bool
  startAfterMinute : Int
  intervalMinute : Int
  cronSchedule : Option (Int → Int)

/-- `NewSchedule`: five space-separated fields are a crontab; two are the start
delay and the interval, read by `strconv.Atoi` whose errors are ignored. -/
def newSchedule (parseStandard : String → Option (Int → Int)) (s : String) : Schedule :=
  match split s ' ' with
  | [startAfter, interval] =>
    { isCron := false, startAfterMinute := (atoi startAfter).1,
      intervalMinute := (atoi interval).1, cronSchedule := none }
  | args =>
    if args.length = 5 then
      { isCron := true, startAfterMinute := 0, intervalMinute := 0,
        cronSchedule := parseStandard s }
    else { isCron := false, startAfterMinute := 0, intervalMinute := 0, cronSchedule := none }

/-- `schedule.Next`; `none` where the code calls `Next` on a nil crontab and panics. -/
def Schedule.next (s : Schedule) (t : Int) : Option Int :=
  if s.isCron then s.cronSchedule.map (· t) else some (t + minutes s.intervalMinute)

/-- `schedule.StartTime`; `none` where the code calls `Next` on a nil crontab. -/
def Schedule.startTime (s : Schedule) (t : Int) : Option Int :=
  if s.isCron then s.cronSchedule.map (· t) else some (t + minutes s.startAfterMinute)

end KDoctor.PluginManager
