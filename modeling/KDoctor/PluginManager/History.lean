import KDoctor.PluginManager.AgentTools
import KDoctor.Lib.Transition
import Mathlib.Data.List.Chain

/-!
The status of one task under its reconciles, taken one at a time.

`TaskStep` is a controller reconcile (`updateStatus` and its status write) or
an agent reconcile (`handleAgentTaskRound` and its status write) of an agent
with any node name and any round cache, at any clock, with any listing of the
runtime pods, and with a status write that may fail and then leaves the status
as it was. The plan, the configuration and the crontab parser stay fixed.

`HistoryShape` is the round-history invariant: from the first status write on,
the history is non-empty and bounded by `CrdMaxHistory`, its round numbers
count down by one from the latest record, whose round is `D + 1` while the
task is not done and `D` once it is, and every record but an unfinished latest
one is final. `roundHistory_reachable` shows that every reachable status keeps
it for every plan of at least one round or of rounds without end (`-1`).
-/

namespace KDoctor.PluginManager

open Crd Transition

/-- One reconcile of a task, with the status write it makes. -/
inductive TaskStep (cfg : ControllerConfig) (parseStandard : String → Option (Int → Int))
    (schedulePlan : SchedulePlan) (taskName : String) : TaskStatus → TaskStatus → Prop
  | controller {old new : TaskStatus} (input : ControllerInput) (result : Option Result)
      (ok : Bool) :
      updateStatus cfg parseStandard input old schedulePlan = .ok (result, some new) →
      TaskStep cfg parseStandard schedulePlan taskName old (if ok then new else old)
  | agent {old new : TaskStatus} (taskPollIntervalInSecond : Int) (localNodeName : String)
      (taskRoundData : TaskStatusManager.TaskStatus) (out : AgentOutcome) (ok : Bool) :
      handleAgentTaskRound taskPollIntervalInSecond localNodeName taskRoundData old taskName =
        .ok out →
      out.status = some new →
      TaskStep cfg parseStandard schedulePlan taskName old (if ok then new else old)

/-- A property of statuses that controller and agent reconciles keep is kept by
every step: a failed write keeps the status it read. -/
theorem TaskStep.preserves {cfg : ControllerConfig} {parseStandard : String → Option (Int → Int)}
    {schedulePlan : SchedulePlan} {taskName : String} {P : TaskStatus → Prop}
    (hc : ∀ {old new : TaskStatus} (input : ControllerInput) (result : Option Result), P old →
      updateStatus cfg parseStandard input old schedulePlan = .ok (result, some new) → P new)
    (ha : ∀ {old new : TaskStatus} (taskPollIntervalInSecond : Int) (localNodeName : String)
      (taskRoundData : TaskStatusManager.TaskStatus) (out : AgentOutcome), P old →
      handleAgentTaskRound taskPollIntervalInSecond localNodeName taskRoundData old taskName =
        .ok out → out.status = some new → P new)
    {s s' : TaskStatus} (h : TaskStep cfg parseStandard schedulePlan taskName s s') (hs : P s) :
    P s' := by
  cases h with
  | controller input result ok hup =>
    cases ok
    · exact hs
    · exact hc input result hs hup
  | agent poll node data out ok hagent hout =>
    cases ok
    · exact hs
    · exact ha poll node data out hs hagent hout

/-- A latest record replaced by one of the same round keeps the round numbers
counting down by one. -/
theorem consecutive_setHead {r r' : StatusHistoryRecord} {rest : List StatusHistoryRecord}
    (h : (r :: rest).IsChain fun r r' => r'.roundNumber = r.roundNumber - 1)
    (hround : r'.roundNumber = r.roundNumber) :
    (r' :: rest).IsChain fun r r' => r'.roundNumber = r.roundNumber - 1 := by
  cases rest with
  | nil => exact .singleton _
  | cons r₂ rest =>
    rw [List.isChain_cons_cons] at h ⊢
    exact ⟨by rw [hround]; exact h.1, h.2⟩

/-- The history of a task at done round `D` of `E` expected rounds. -/
structure HistoryShape (crdMaxHistory E D : Int) (h : List StatusHistoryRecord) : Prop where
  nonempty : h ≠ []
  length_le : (h.length : Int) ≤ crdMaxHistory
  head_round : ∀ r ∈ h.head?, r.roundNumber = if D = E then D else D + 1
  consecutive : h.IsChain fun r r' => r'.roundNumber = r.roundNumber - 1
  tail_final : ∀ r ∈ h.tail, r.status.Final
  head_final : D = E → ∀ r ∈ h.head?, r.status.Final
  done_nonneg : 0 ≤ D
  done_le : E ≠ -1 → D ≤ E

/-- The round-history invariant of a task status. -/
def RoundHistory (crdMaxHistory E : Int) (st : TaskStatus) : Prop :=
  st.expectedRound = some E ∧
    ∃ D, st.doneRound = some D ∧ HistoryShape crdMaxHistory E D st.history

namespace HistoryShape

variable {crdMaxHistory E D : Int} {r : StatusHistoryRecord} {rest : List StatusHistoryRecord}

/-- The first record of a task. -/
theorem first (hE : 1 ≤ E ∨ E = -1) (hmax : 1 ≤ crdMaxHistory) (startTime : Int)
    (schedulePlan : SchedulePlan) :
    HistoryShape crdMaxHistory E 0 [newStatusHistoryRecord startTime 1 schedulePlan] where
  nonempty := List.cons_ne_nil _ _
  length_le := by simpa using hmax
  head_round := by
    have hE0 : (0 : Int) ≠ E := by omega
    simp [newStatusHistoryRecord, hE0]
  consecutive := .singleton _
  tail_final := by simp
  head_final := by omega
  done_nonneg := Int.le_refl 0
  done_le := by omega

/-- A latest record replaced by one of the same round, final if the task is done. -/
theorem setHead (hs : HistoryShape crdMaxHistory E D (r :: rest)) {r' : StatusHistoryRecord}
    (hround : r'.roundNumber = r.roundNumber) (hfinal : D = E → r'.status.Final) :
    HistoryShape crdMaxHistory E D (r' :: rest) where
  nonempty := List.cons_ne_nil _ _
  length_le := by simpa using hs.length_le
  head_round := by simpa [hround] using hs.head_round
  consecutive := consecutive_setHead hs.consecutive hround
  tail_final := hs.tail_final
  head_final := fun hDE => by simpa using hfinal hDE
  done_nonneg := hs.done_nonneg
  done_le := hs.done_le

/-- A closed latest round followed by the record of the next one, kept to at
most `CrdMaxHistory` records. -/
theorem advance (hs : HistoryShape crdMaxHistory E D (r :: rest)) (hDE : D ≠ E)
    (hmore : D + 1 < E ∨ E = -1) (hmax : 1 ≤ crdMaxHistory) {closed : StatusHistoryRecord}
    (hround : closed.roundNumber = r.roundNumber) (hfinal : closed.status.Final)
    (startTime : Int) (schedulePlan : SchedulePlan) :
    HistoryShape crdMaxHistory E (D + 1)
      ((newStatusHistoryRecord startTime (D + 1 + 1) schedulePlan :: closed :: rest).take
        crdMaxHistory.toNat) := by
  have hr : r.roundNumber = D + 1 := by simpa [hDE] using hs.head_round
  have hD0 := hs.done_nonneg
  have hnext : D + 1 ≠ E := by omega
  have hshape : HistoryShape crdMaxHistory E D (closed :: rest) :=
    hs.setHead hround (fun h => absurd h hDE)
  have hchain : (newStatusHistoryRecord startTime (D + 1 + 1) schedulePlan :: closed :: rest).IsChain
      fun r r' => r'.roundNumber = r.roundNumber - 1 := by
    rw [List.isChain_cons_cons]
    exact ⟨by simp [newStatusHistoryRecord, hround, hr], hshape.consecutive⟩
  obtain ⟨k, hk⟩ : ∃ k, crdMaxHistory.toNat = k + 1 := ⟨crdMaxHistory.toNat - 1, by omega⟩
  refine ⟨?_, ?_, ?_, hchain.take _, ?_, ?_, by omega, ?_⟩
  · simp [hk]
  · have hlen := List.length_take_le k (closed :: rest)
    simp only [hk, List.take_succ_cons, List.length_cons]
    omega
  · simp [hk, newStatusHistoryRecord, hnext]
  · intro x hx
    rw [hk, List.take_succ_cons, List.tail_cons] at hx
    have hx' : x ∈ closed :: rest := List.mem_of_mem_take hx
    rcases List.mem_cons.mp hx' with rfl | hrest
    · exact hfinal
    · exact hs.tail_final x hrest
  · intro h
    exact absurd h hnext
  · intro hE
    rcases hmore with h | h
    · omega
    · exact absurd h hE

/-- A closed last round: the task is done. -/
theorem finish (hs : HistoryShape crdMaxHistory E D (r :: rest)) (hDE : D ≠ E)
    (hadv : D < E ∨ E = -1) (hlast : ¬(D + 1 < E ∨ E = -1)) {closed : StatusHistoryRecord}
    (hround : closed.roundNumber = r.roundNumber) (hfinal : closed.status.Final) :
    HistoryShape crdMaxHistory E (D + 1) (closed :: rest) := by
  have hr : r.roundNumber = D + 1 := by simpa [hDE] using hs.head_round
  have hD0 := hs.done_nonneg
  have hdone : D + 1 = E := by omega
  have hshape : HistoryShape crdMaxHistory E D (closed :: rest) :=
    hs.setHead hround (fun h => absurd h hDE)
  refine ⟨List.cons_ne_nil _ _, hshape.length_le, ?_, hshape.consecutive, hshape.tail_final,
    fun _ => by simpa using hfinal, by omega, by omega⟩
  simp [hdone, hround, hr]

end HistoryShape

section Steps

variable {cfg : ControllerConfig} {parseStandard : String → Option (Int → Int)}
  {schedulePlan : SchedulePlan} {taskName : String}

/-- A controller reconcile keeps the round-history invariant. -/
theorem roundHistory_updateStatus (hmax : 1 ≤ cfg.crdMaxHistory) {old new : TaskStatus}
    (hinv : RoundHistory cfg.crdMaxHistory schedulePlan.roundNumber old)
    {input : ControllerInput} {result : Option Result}
    (h : updateStatus cfg parseStandard input old schedulePlan = .ok (result, some new)) :
    RoundHistory cfg.crdMaxHistory schedulePlan.roundNumber new := by
  obtain ⟨hE, D, hD, hs⟩ := hinv
  rcases updateStatus_cases h with rfl | ⟨hinit, -⟩ | ⟨d, e, r, rest, hd, he, hde, hh, hcase⟩
  · exact ⟨hE, D, hD, hs⟩
  · rcases hinit with hnone | hnil
    · simp [hE] at hnone
    · exact absurd hnil hs.nonempty
  · rw [hE, Option.some.injEq] at he
    rw [hD, Option.some.injEq] at hd
    subst he hd
    rw [hh] at hs
    rcases hcase with ⟨-, rfl⟩ | ⟨hr, deadline, closed, scheduler, eagerNext, hclose, hadd⟩
    · -- the latest round starts
      exact ⟨hE, D, hD, hs.setHead rfl (fun h => absurd h hde)⟩
    · -- the latest round is closed
      obtain ⟨-, u, -, -, rfl⟩ := updateRoundFinalStatus_ok_true hh hr hclose
      have hround := closeRecord_roundNumber input.now r u
      have hfinal := closeRecord_final input.now r u
      rcases addNewRoundRecord_cases hadd with ⟨hadv, -⟩ | ⟨-, hmore, -, startTime, -, rfl⟩ |
        ⟨hadv, hlast, rfl⟩
      · have := hs.done_le
        omega
      · exact ⟨hE, D + 1, rfl, hs.advance hde hmore hmax hround hfinal startTime schedulePlan⟩
      · exact ⟨hE, D + 1, rfl, hs.finish hde hadv hlast hround hfinal⟩

/-- An agent reconcile keeps the round-history invariant. -/
theorem roundHistory_handleAgentTaskRound {old new : TaskStatus} {E crdMaxHistory : Int}
    (hinv : RoundHistory crdMaxHistory E old) {taskPollIntervalInSecond : Int}
    {localNodeName : String} {taskRoundData : TaskStatusManager.TaskStatus} {out : AgentOutcome}
    (h : handleAgentTaskRound taskPollIntervalInSecond localNodeName taskRoundData old taskName =
      .ok out)
    (hout : out.status = some new) : RoundHistory crdMaxHistory E new := by
  obtain ⟨hE, D, hD, hs⟩ := hinv
  rcases handleAgentTaskRound_cases h with rfl | ⟨d, e, r, rest, hd, he, hde, hh, hr, -, rfl⟩
  · cases hout
  · rw [hE, Option.some.injEq] at he
    rw [hD, Option.some.injEq] at hd
    subst he hd
    rw [hh] at hs
    rcases pollRound_status with hsame | ⟨-, hnew⟩ | ⟨-, hnew⟩ <;>
      rw [hout, Option.some.injEq] at * <;> subst new
    · exact ⟨hE, D, hD, hh ▸ hs⟩
    · exact ⟨hE, D, hD, hs.setHead rfl (fun h => absurd h hde)⟩
    · exact ⟨hE, D, hD, hs.setHead rfl (fun h => absurd h hde)⟩

/-- From the empty status, a reconcile writes nothing or the first round. -/
theorem roundHistory_of_empty (hE : 1 ≤ schedulePlan.roundNumber ∨ schedulePlan.roundNumber = -1)
    (hmax : 1 ≤ cfg.crdMaxHistory) {new : TaskStatus}
    (h : TaskStep cfg parseStandard schedulePlan taskName TaskStatus.empty new) :
    new = TaskStatus.empty ∨ RoundHistory cfg.crdMaxHistory schedulePlan.roundNumber new := by
  cases h with
  | controller input result ok hup =>
    cases ok
    · exact Or.inl rfl
    · rcases updateStatus_cases hup with rfl | ⟨-, startTime, rfl⟩ | ⟨d, e, r, rest, -, -, -, hh, -⟩
      · exact Or.inl rfl
      · exact Or.inr ⟨rfl, 0, rfl, HistoryShape.first hE hmax startTime schedulePlan⟩
      · cases hh
  | agent poll node data out ok hagent hout =>
    rcases handleAgentTaskRound_cases hagent with rfl | ⟨d, e, r, rest, -, -, -, hh, -⟩
    · cases hout
    · cases hh

end Steps

/-- **Round-history invariant.** For a plan of at least one round or of rounds
without end and a history bound of at least one record, every status a run of
reconciles reaches from the empty status, once written, keeps the history
shape: non-empty and bounded, round numbers counting down by one from the
latest record, which is round `D + 1` until the task is done and round `D`
then, every other record final, and `0 ≤ D ≤ E` unless `E = -1`. -/
theorem roundHistory_reachable (cfg : ControllerConfig)
    (parseStandard : String → Option (Int → Int)) (schedulePlan : SchedulePlan)
    (taskName : String) (hE : 1 ≤ schedulePlan.roundNumber ∨ schedulePlan.roundNumber = -1)
    (hmax : 1 ≤ cfg.crdMaxHistory) {st : TaskStatus}
    (h : Reachable (TaskStep cfg parseStandard schedulePlan taskName) TaskStatus.empty st) :
    st = TaskStatus.empty ∨ RoundHistory cfg.crdMaxHistory schedulePlan.roundNumber st := by
  refine Reachable.invariant
    (fun st => st = TaskStatus.empty ∨ RoundHistory cfg.crdMaxHistory schedulePlan.roundNumber st)
    (Or.inl rfl) ?_ h
  intro s s' _ hinv hstep
  rcases hinv with rfl | hinv
  · exact roundHistory_of_empty hE hmax hstep
  · exact Or.inr (TaskStep.preserves (fun _ _ hs hup => roundHistory_updateStatus hmax hs hup)
      (fun _ _ _ _ hs hagent hout => roundHistory_handleAgentTaskRound hs hagent hout) hstep hinv)

/-- The first controller reconcile of a one-round task writes a status with the
round-history shape. -/
theorem roundHistory_reachable_firstRound :
    RoundHistory 10 1
      ({ doneRound := some 0
         expectedRound := some 1
         history := [newStatusHistoryRecord 0 1 ⟨some "0 60", 60, 1⟩] } : TaskStatus) := by
  have hup : updateStatus ⟨5, 10, "kdoctor"⟩ (fun _ => none)
      ⟨0, .ok ["node1"], "", Go.Iteration.inOrder String⟩ TaskStatus.empty
      ⟨some "0 60", 60, 1⟩ =
      .ok (some { requeue := true },
        some { doneRound := some 0
               expectedRound := some 1
               history := [newStatusHistoryRecord 0 1 ⟨some "0 60", 60, 1⟩] }) := by
    rfl
  have hstart : Reachable (TaskStep ⟨5, 10, "kdoctor"⟩ (fun _ => none) ⟨some "0 60", 60, 1⟩
      "NetReach.demo") TaskStatus.empty TaskStatus.empty := Reachable.refl
  rcases roundHistory_reachable ⟨5, 10, "kdoctor"⟩ (fun _ => none) ⟨some "0 60", 60, 1⟩
    "NetReach.demo" (by decide) (by decide) (hstart.tail (TaskStep.controller _ _ true hup))
    with h | h
  · simp [TaskStatus.empty] at h
  · simpa using h

end KDoctor.PluginManager
