import KDoctor.Lib.Go

/-!
The task status types of `kdoctor.io/v1beta1` (`common_types.go`), as the
controller, the agents and the runtime tracker read and write them.

Instants are `Int` nanoseconds. Go's pointer fields are `Option`s and the
string enumerations that the CRD schema restricts are inductive types. The
`Duration` string of a record holds the duration before it is printed with
`Duration.String`.
-/

namespace KDoctor.Crd

/-- `SchedulePlan`. -/
structure SchedulePlan where
  schedule : Option String
  roundTimeoutMinute : Int
  roundNumber : Int
  deriving DecidableEq, Repr

/-- The status of a round record, `StatusHistoryRecordStatus*`. -/
inductive RecordStatus
  | succeed
  | fail
  | ongoing
  | notstarted
  deriving DecidableEq, Repr

/-- A record whose round is over. -/
def RecordStatus.Final (s : RecordStatus) : Prop := s = .succeed ∨ s = .fail

instance (s : RecordStatus) : Decidable s.Final := inferInstanceAs (Decidable (_ ∨ _))

@[simp] theorem RecordStatus.final_succeed : RecordStatus.succeed.Final := Or.inl rfl

@[simp] theorem RecordStatus.final_fail : RecordStatus.fail.Final := Or.inr rfl

@[simp] theorem RecordStatus.not_final_ongoing : ¬ RecordStatus.ongoing.Final := by
  simp [RecordStatus.Final]

@[simp] theorem RecordStatus.not_final_notstarted : ¬ RecordStatus.notstarted.Final := by
  simp [RecordStatus.Final]

/-- `StatusHistoryRecord`: one round of a task. -/
structure StatusHistoryRecord where
  status : RecordStatus
  failureReason : String
  roundNumber : Int
  startTimeStamp : Int
  endTimeStamp : Option Int
  duration : Option Int
  deadLineTimeStamp : Int
  expectedActorNumber : Option Int
  failedAgentNodeList : List String
  succeedAgentNodeList : List String
  notReportAgentNodeList : List String
  deriving DecidableEq, Repr

/-- `RuntimeCreating`, `RuntimeCreated`, `RuntimeDeleted`. -/
inductive RuntimeStatus
  | creating
  | created
  | deleted
  deriving DecidableEq, Repr

/-- `TaskResource`: the runtime (Deployment or DaemonSet) and services of a task. -/
structure TaskResource where
  runtimeName : String
  runtimeType : String
  serviceNameV4 : Option String
  serviceNameV6 : Option String
  runtimeStatus : RuntimeStatus
  deriving DecidableEq, Repr

/-- `TaskStatus`; its zero value is the status of a task nobody has handled yet. -/
structure TaskStatus where
  expectedRound : Option Int := none
  doneRound : Option Int := none
  finish : Bool := false
  finishTime : Option Int := none
  lastRoundStatus : Option RecordStatus := none
  history : List StatusHistoryRecord := []
  resource : Option TaskResource := none
  deriving DecidableEq, Repr

/-- The zero `TaskStatus`. -/
def TaskStatus.empty : TaskStatus := {}

end KDoctor.Crd
