import KDoctor.PluginManager.AgentTools
import KDoctor.Lib.Transition

/-!
The goroutines of one round of work on an agent
(`CallPluginImplementRoundTask`).

The worker goroutine runs the plugin's `AgentExecuteTask`. On an error it
sends `false` on the unbuffered channel `taskSucceed`; otherwise it selects on
the round's context: past the deadline it sends nothing, and before it sends
whether the plugin reported no failure. It then writes the round's report
with the result it chose (when a file manager is configured). The calling
goroutine selects between the context's deadline, where it records the round
as failed in the round cache, and a value received from `taskSucceed`, which
it records. A send on an unbuffered channel completes only together with a
receive.

`State` holds where the worker is, what the caller recorded (`none` while it
waits in its `select`) and whether the deadline has passed; `Step` is one
move of either goroutine or of the clock. `Worker.done` carries the result the
worker reports; `State.report` is the report file it writes.
-/

namespace KDoctor.PluginManager.RoundTask

open Transition Relation
open TaskStatusManager (RoundStatus)

/-- What `AgentExecuteTask` returns: an error, a failure reason, or neither. -/
inductive Outcome
  | error
  | failure
  | success
  deriving DecidableEq, Repr

/-- `RoundResult` of a report. -/
inductive RoundResult
  | succeed
  | fail
  deriving DecidableEq, Repr

/-- Where the worker goroutine is. -/
inductive Worker
  /-- in `AgentExecuteTask` -/
  | executing
  /-- at the `select` on `ctx.Done()` with a `default`, the plugin having
  reported no failure or not -/
  | checking (succeeded : Bool)
  /-- blocked on `taskSucceed <- value`, with the result it will report -/
  | sending (value : Bool) (result : RoundResult)
  /-- writing the report -/
  | reporting (result : RoundResult)
  | done (result : RoundResult)
  deriving DecidableEq, Repr

/-- The result the worker has chosen, once it has. -/
def Worker.result : Worker → Option RoundResult
  | .reporting result => some result
  | .done result => some result
  | _ => none

/-- The goroutines of a round and its context. -/
structure State where
  worker : Worker
  recorded : Option RoundStatus
  expired : Bool
  deriving DecidableEq, Repr

/-- The start of a round's work. -/
def init : State := ⟨.executing, none, false⟩

/-- The report file the worker has written: with a file manager, the result
it reported once it is done. -/
def State.report (fileManager : Bool) (s : State) : Option RoundResult :=
  match s.worker with
  | .done result => if fileManager then some result else none
  | _ => none

/-- The status the caller records for a value received from `taskSucceed`. -/
def recordedOf (value : Bool) : RoundStatus := if value then .succeeded else .fail

/-- The result the worker reports with the value it sends. -/
def resultOf (value : Bool) : RoundResult := if value then .succeed else .fail

/-- One move of the worker, of the caller or of the clock. -/
inductive Step : State → State → Prop
  | returns {s : State} (o : Outcome) : s.worker = .executing →
      Step s { s with worker :=
        match o with
        | .error => .sending false .fail
        | .failure => .checking false
        | .success => .checking true }
  | check {s : State} {b : Bool} : s.worker = .checking b →
      Step s { s with worker := if s.expired then .reporting .fail else .sending b (resultOf b) }
  | deliver {s : State} {b : Bool} {result : RoundResult} : s.worker = .sending b result →
      s.recorded = none →
      Step s { s with worker := .reporting result, recorded := some (recordedOf b) }
  | expire {s : State} : s.expired = false → Step s { s with expired := true }
  | timeout {s : State} : s.recorded = none → s.expired = true →
      Step s { s with recorded := some .fail }
  | report {s : State} {result : RoundResult} : s.worker = .reporting result →
      Step s { s with worker := .done result }

/-- A state no move leaves: the run has ended. -/
def Terminal (s : State) : Prop := ∀ s', ¬Step s s'

/-- A report agrees with a recorded status when it says `succeed` exactly for
`succeeded`. -/
def Agrees (result : RoundResult) (status : RoundStatus) : Prop :=
  result = .succeed ↔ status = .succeeded

/-! ## What every run keeps -/

/-- The invariant of a round's goroutines: a result chosen before anything is
recorded is a failure past the deadline, a result and a recorded status
agree, `succeeded` is recorded only with a chosen result, a pending send
carries the result that goes with it, and `ongoing` is never recorded. -/
structure Inv (s : State) : Prop where
  unrecorded : ∀ result ∈ s.worker.result, s.recorded = none →
    result = .fail ∧ s.expired = true
  agrees : ∀ result ∈ s.worker.result, ∀ status ∈ s.recorded, Agrees result status
  succeeded : s.recorded = some .succeeded → s.worker.result = some .succeed
  sending : ∀ b result, s.worker = .sending b result → result = resultOf b
  not_ongoing : s.recorded ≠ some .ongoing

theorem inv_init : Inv init where
  unrecorded := by simp [init, Worker.result]
  agrees := by simp [init, Worker.result]
  succeeded := by simp [init]
  sending := by simp [init]
  not_ongoing := by simp [init]

/-- A recorded status is `fail` while the worker has chosen no result. -/
theorem Inv.recorded_fail {s : State} (hs : Inv s) (hres : s.worker.result = none)
    {status : RoundStatus} (hrec : s.recorded = some status) : status = .fail := by
  cases status with
  | ongoing => exact absurd hrec hs.not_ongoing
  | succeeded => simp [hs.succeeded hrec] at hres
  | fail => rfl

/-- The invariant reads only the chosen result, the recorded status and the
clock, when the worker is not blocked on a send. -/
theorem Inv.of_result {s t : State} (hs : Inv s) (hres : t.worker.result = s.worker.result)
    (hrec : t.recorded = s.recorded) (hexp : t.expired = s.expired)
    (hsend : ∀ b result, t.worker ≠ .sending b result) : Inv t where
  unrecorded := by rw [hres, hrec, hexp]; exact hs.unrecorded
  agrees := by rw [hres, hrec]; exact hs.agrees
  succeeded := by rw [hres, hrec]; exact hs.succeeded
  sending b result h := absurd h (hsend b result)
  not_ongoing := by rw [hrec]; exact hs.not_ongoing

theorem agrees_recordedOf (b : Bool) : Agrees (resultOf b) (recordedOf b) := by
  cases b <;> simp [Agrees, resultOf, recordedOf]

theorem Inv.step {s s' : State} (hs : Inv s) (h : Step s s') : Inv s' := by
  cases h with
  | returns o hw =>
    have hres : s.worker.result = none := by rw [hw]; rfl
    refine ⟨?_, ?_, fun hrec => absurd (hs.succeeded hrec) (by simp [hres]), ?_,
      hs.not_ongoing⟩ <;> cases o <;> simp [Worker.result, resultOf]
  | @check b hw =>
    have hres : s.worker.result = none := by rw [hw]; rfl
    by_cases hexp : s.expired = true
    · -- past the deadline the worker reports a failure and sends nothing
      refine ⟨?_, fun result hr status hst => ?_, fun hrec => ?_, ?_, hs.not_ongoing⟩
      · simp_all [Worker.result]
      · simp only [hexp, if_true, Worker.result, Option.mem_def, Option.some.injEq] at hr
        subst hr
        simp [Agrees, hs.recorded_fail hres hst]
      · simp [hs.succeeded hrec] at hres
      · simp [hexp]
    · refine ⟨?_, ?_, fun hrec => ?_, ?_, hs.not_ongoing⟩
      · simp [hexp, Worker.result]
      · simp [hexp, Worker.result]
      · simp [hs.succeeded hrec] at hres
      · simp_all
  | @deliver b result hw hnone =>
    have hresult := hs.sending b result hw
    subst hresult
    refine ⟨?_, ?_, fun hrec => ?_, ?_, ?_⟩
    · simp
    · intro r hr st hst
      simp only [Worker.result, Option.mem_def, Option.some.injEq] at hr hst
      subst hr hst
      exact agrees_recordedOf b
    · cases b <;> simp_all [recordedOf, Worker.result, resultOf]
    · simp
    · cases b <;> simp [recordedOf]
  | expire hexp =>
    exact ⟨fun r hr hnone => ⟨(hs.unrecorded r hr hnone).1, rfl⟩, hs.agrees, hs.succeeded,
      hs.sending, hs.not_ongoing⟩
  | timeout hnone hexp =>
    refine ⟨?_, fun result hr status hst => ?_, ?_, hs.sending, by simp⟩
    · simp
    · simp only [Option.mem_def, Option.some.injEq] at hst
      subst hst
      simp [Agrees, (hs.unrecorded result hr hnone).1]
    · simp
  | @report result hw => exact hs.of_result (by rw [hw]; rfl) rfl rfl (by simp)

theorem inv_reachable {s : State} (h : Reachable Step init s) : Inv s :=
  Reachable.invariant Inv inv_init (fun _ _ _ hs hstep => hs.step hstep) h

/-! ## How a round ends -/

/-- **Round end.** In every state a round's goroutines reach, a report the
worker has written agrees with the status the caller recorded; and when no
move is left, the caller has recorded exactly one status and the worker is
either done or blocked for good on its send, the round recorded as failed. -/
theorem roundTask_end (fileManager : Bool) {s : State} (h : Reachable Step init s) :
    (∀ result ∈ s.report fileManager, ∀ status ∈ s.recorded, Agrees result status) ∧
    (Terminal s → ∃ status, s.recorded = some status ∧
      ((∃ result, s.worker = .done result) ∨
        (∃ b result, s.worker = .sending b result) ∧ status = .fail)) := by
  have hs := inv_reachable h
  refine ⟨fun result hr status hst => ?_, fun hterm => ?_⟩
  · have hres : result ∈ s.worker.result := by
      unfold State.report at hr
      split at hr
      · rename_i r hw
        cases fileManager <;> simp_all [Worker.result]
      · simp at hr
    exact hs.agrees result hres status hst
  · -- the caller waits only while the clock or the worker can still move
    obtain ⟨status, hrec⟩ : ∃ status, s.recorded = some status := by
      cases hrec : s.recorded with
      | some status => exact ⟨status, rfl⟩
      | none =>
        cases hexp : s.expired
        · exact absurd (Step.expire hexp) (hterm _)
        · exact absurd (Step.timeout hrec hexp) (hterm _)
    refine ⟨status, hrec, ?_⟩
    cases hw : s.worker with
    | executing => exact absurd (Step.returns .error hw) (hterm _)
    | checking b => exact absurd (Step.check hw) (hterm _)
    | sending b result =>
      exact Or.inr ⟨⟨b, result, rfl⟩, hs.recorded_fail (by rw [hw]; rfl) hrec⟩
    | reporting result => exact absurd (Step.report hw) (hterm _)
    | done result => exact Or.inl ⟨result, rfl⟩

/-- The deadline passes, the caller takes it, and then the plugin returns an
error. -/
theorem reachable_errorAfterTimeout :
    Reachable Step init ⟨.sending false .fail, some .fail, true⟩ := by
  have h1 : Step init ⟨.executing, none, true⟩ := Step.expire rfl
  have h2 : Step ⟨.executing, none, true⟩ ⟨.executing, some .fail, true⟩ := Step.timeout rfl rfl
  have h3 : Step ⟨.executing, some .fail, true⟩ ⟨.sending false .fail, some .fail, true⟩ :=
    Step.returns .error rfl
  exact ((Reachable.refl.tail h1).tail h2).tail h3

theorem roundTask_end_errorAfterTimeout :
    (∀ result ∈ State.report true ⟨.sending false .fail, some .fail, true⟩,
      ∀ status ∈ (⟨.sending false .fail, some .fail, true⟩ : State).recorded,
        Agrees result status) ∧
    (Terminal ⟨.sending false .fail, some .fail, true⟩ → ∃ status,
      (⟨.sending false .fail, some .fail, true⟩ : State).recorded = some status ∧
      ((∃ result, (⟨.sending false .fail, some .fail, true⟩ : State).worker = .done result) ∨
        (∃ b result, (⟨.sending false .fail, some .fail, true⟩ : State).worker =
          .sending b result) ∧ status = .fail)) :=
  roundTask_end true reachable_errorAfterTimeout

/-- The plugin returns an error after the deadline, which the caller took:
the worker blocks on its send for good and writes no report, also with a file
manager. -/
theorem roundTask_blocked :
    Reachable Step init ⟨.sending false .fail, some .fail, true⟩ ∧
    Terminal ⟨.sending false .fail, some .fail, true⟩ ∧
    State.report true ⟨.sending false .fail, some .fail, true⟩ = none := by
  refine ⟨reachable_errorAfterTimeout, fun s' h => ?_, rfl⟩
  -- no move is enabled: the clock has run out and the caller no longer receives
  cases h <;> simp_all

end KDoctor.PluginManager.RoundTask
