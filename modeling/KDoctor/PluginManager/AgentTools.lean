import KDoctor.PluginManager.ControllerTools

/-!
The agent's side of a task round (`pluginManager/agentTools.go`) and the
round cache it keeps (`taskStatusManager/data.go`).

`handleAgentTaskRound` is what an agent reconcile runs on the status of its
task: it starts the work of the latest round once, polls the round cache while
the work runs, and then reports its node as succeeded or failed in the latest
record. The work (`CallPluginImplementRoundTask`) runs in a goroutine; the
model returns the round whose goroutine it starts. The call never returns an
error in Go; the model's errors are its panics.
-/

namespace KDoctor.TaskStatusManager

/-- `RoundStatus`: `started`, `succeed`, `fail`. -/
inductive RoundStatus
  | ongoing
  | succeeded
  | fail
  deriving DecidableEq, Repr

/-- `taskStatus`: the round cache, a map from round names to round statuses. -/
structure TaskStatus where
  taskStatus : String → Option RoundStatus

namespace TaskStatus

/-- `NewTaskStatus`. -/
def new : TaskStatus := ⟨fun _ => none⟩

/-- `SetTask`. -/
def setTask (s : TaskStatus) (taskName : String) (status : RoundStatus) : TaskStatus :=
  ⟨Function.update s.taskStatus taskName (some status)⟩

/-- `DeleteTask`. -/
def deleteTask (s : TaskStatus) (taskName : String) : TaskStatus :=
  ⟨Function.update s.taskStatus taskName none⟩

/-- `CheckTask`. -/
def checkTask (s : TaskStatus) (taskName : String) : Option RoundStatus := s.taskStatus taskName

@[simp] theorem checkTask_new (taskName : String) : new.checkTask taskName = none := rfl

@[simp] theorem checkTask_setTask (s : TaskStatus) (a b : String) (status : RoundStatus) :
    (s.setTask a status).checkTask b = if b = a then some status else s.checkTask b := by
  simp [setTask, checkTask, Function.update_apply]

@[simp] theorem checkTask_deleteTask (s : TaskStatus) (a b : String) :
    (s.deleteTask a).checkTask b = if b = a then none else s.checkTask b := by
  simp [deleteTask, checkTask, Function.update_apply]

end TaskStatus

end KDoctor.TaskStatusManager

namespace KDoctor.PluginManager

open Crd Go

/-- The name of a round in the round cache, `fmt.Sprintf("%s.round%d", ...)`. -/
def taskRoundName (taskName : String) (roundNumber : Int) : String :=
  taskName ++ ".round" ++ toString roundNumber

/-- What one agent reconcile of a task makes of it: the result it returns, the
status it writes, its round cache afterwards, and the round whose work it
starts. -/
structure AgentOutcome where
  result : Option Result
  status : Option TaskStatus
  taskRoundData : TaskStatusManager.TaskStatus
  started : Option Int

/-- The part of `HandleAgentTaskRound` after the agent found that it has not
reported for the ongoing latest round: start the round's work if the round
cache does not know the round, wait while it runs, and report its result. -/
def pollRound (taskPollIntervalInSecond : Int) (localNodeName : String)
    (taskRoundData : TaskStatusManager.TaskStatus) (newStatus : TaskStatus) (taskName : String)
    (latestRecord : StatusHistoryRecord) (rest : List StatusHistoryRecord) : AgentOutcome :=
  let name := taskRoundName taskName latestRecord.roundNumber
  let nextInterval := seconds taskPollIntervalInSecond
  match taskRoundData.checkTask name with
  | none =>
    ⟨some { requeueAfter := nextInterval }, some newStatus, taskRoundData.setTask name .ongoing,
      some latestRecord.roundNumber⟩
  | some .ongoing => ⟨some { requeueAfter := nextInterval }, some newStatus, taskRoundData, none⟩
  | some .succeeded =>
    ⟨some { requeue := true },
      some { newStatus with
        history := { latestRecord with
          succeedAgentNodeList := latestRecord.succeedAgentNodeList ++ [localNodeName] } :: rest },
      taskRoundData, none⟩
  | some .fail =>
    ⟨some { requeue := true },
      some { newStatus with
        history := { latestRecord with
          failedAgentNodeList := latestRecord.failedAgentNodeList ++ [localNodeName] } :: rest },
      taskRoundData, none⟩

section PollRound

variable {taskPollIntervalInSecond : Int} {localNodeName : String}
  {taskRoundData : TaskStatusManager.TaskStatus} {newStatus : TaskStatus} {taskName : String}
  {latestRecord : StatusHistoryRecord} {rest : List StatusHistoryRecord}

/-- The status written after a poll: unchanged, or the node appended to the list
that matches the result the round cache holds. -/
theorem pollRound_status :
    (pollRound taskPollIntervalInSecond localNodeName taskRoundData newStatus taskName
      latestRecord rest).status = some newStatus ∨
    (taskRoundData.checkTask (taskRoundName taskName latestRecord.roundNumber) =
        some .succeeded ∧
      (pollRound taskPollIntervalInSecond localNodeName taskRoundData newStatus taskName
        latestRecord rest).status = some { newStatus with
          history := { latestRecord with
            succeedAgentNodeList := latestRecord.succeedAgentNodeList ++ [localNodeName] } ::
              rest }) ∨
    (taskRoundData.checkTask (taskRoundName taskName latestRecord.roundNumber) = some .fail ∧
      (pollRound taskPollIntervalInSecond localNodeName taskRoundData newStatus taskName
        latestRecord rest).status = some { newStatus with
          history := { latestRecord with
            failedAgentNodeList := latestRecord.failedAgentNodeList ++ [localNodeName] } ::
              rest }) := by
  unfold pollRound
  dsimp only
  split <;> simp_all

end PollRound

/-- `HandleAgentTaskRound`. -/
def handleAgentTaskRound (taskPollIntervalInSecond : Int) (localNodeName : String)
    (taskRoundData : TaskStatusManager.TaskStatus) (oldStatus : TaskStatus) (taskName : String) :
    Except String AgentOutcome :=
  let newStatus := oldStatus
  let ignore : AgentOutcome := ⟨none, none, taskRoundData, none⟩
  if newStatus.expectedRound = none ∨ newStatus.history = [] then .ok ignore
  else
    match newStatus.doneRound, newStatus.expectedRound, newStatus.history with
    | some doneRound, some expectedRound, latestRecord :: rest =>
      if doneRound = expectedRound then .ok ignore
      else if latestRecord.status ≠ .ongoing then .ok ignore
      else if latestRecord.succeedAgentNodeList ≠ [] ∨ latestRecord.failedAgentNodeList ≠ [] then
        match checkItemInList localNodeName
            (latestRecord.succeedAgentNodeList ++ latestRecord.failedAgentNodeList) with
        | .error _ => .ok ignore
        | .ok true => .ok ignore
        | .ok false =>
          .ok (pollRound taskPollIntervalInSecond localNodeName taskRoundData newStatus taskName
            latestRecord rest)
      else
        .ok (pollRound taskPollIntervalInSecond localNodeName taskRoundData newStatus taskName
          latestRecord rest)
    | _, _, _ => .error nilDereference

/-- An agent reconcile ignores the task, or polls the ongoing latest record of a
task that is not done, for a node that record does not list yet. -/
theorem handleAgentTaskRound_cases {taskPollIntervalInSecond : Int} {localNodeName : String}
    {taskRoundData : TaskStatusManager.TaskStatus} {oldStatus : TaskStatus} {taskName : String}
    {out : AgentOutcome}
    (h : handleAgentTaskRound taskPollIntervalInSecond localNodeName taskRoundData oldStatus
      taskName = .ok out) :
    out = ⟨none, none, taskRoundData, none⟩ ∨
    ∃ d e r rest, oldStatus.doneRound = some d ∧ oldStatus.expectedRound = some e ∧ d ≠ e ∧
      oldStatus.history = r :: rest ∧ r.status = .ongoing ∧
      localNodeName ∉ r.succeedAgentNodeList ++ r.failedAgentNodeList ∧
      out = pollRound taskPollIntervalInSecond localNodeName taskRoundData oldStatus taskName r
        rest := by
  unfold handleAgentTaskRound at h
  dsimp only at h
  split at h
  · exact Or.inl (Except.ok.inj h).symm
  · split at h
    · rename_i d e r rest hd he hh
      split at h
      · exact Or.inl (Except.ok.inj h).symm
      · rename_i hde
        split at h
        · exact Or.inl (Except.ok.inj h).symm
        · rename_i hst
          split at h
          · rename_i hreported
            split at h
            · exact Or.inl (Except.ok.inj h).symm
            · exact Or.inl (Except.ok.inj h).symm
            · rename_i hcheck
              have hnode : localNodeName ≠ "" := by
                intro hempty
                simp [checkItemInList, hempty] at hcheck
              rw [checkItemInList_eq_ok hnode] at hcheck
              refine Or.inr ⟨d, e, r, rest, hd, he, hde, hh, not_not.mp hst, ?_,
                (Except.ok.inj h).symm⟩
              simpa using hcheck
          · rename_i hempty
            refine Or.inr ⟨d, e, r, rest, hd, he, hde, hh, not_not.mp hst, ?_,
              (Except.ok.inj h).symm⟩
            simp only [ne_eq, not_or, not_not] at hempty
            simp [hempty.1, hempty.2]
    · cases h

end KDoctor.PluginManager
