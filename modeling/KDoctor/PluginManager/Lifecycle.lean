import KDoctor.PluginManager.Tools
import KDoctor.PluginManager.Rounds

/-!
What a controller reconcile leaves for the next one, and when a task is
finished.

controller-runtime forgets a request whose reconcile returns no error, no
`Requeue` and no positive `RequeueAfter`, and a status write brings the task
back through the watch. `Forgets` is a result of `updateStatus` after which
nothing does: no error, no status to write, no requeue.
`updateStatus_forgets` shows that a task that is not done gets one when the
clock is exactly at the start or at the deadline of the latest round (no case
of the `switch` matches), and when it is past the deadline of a round that is
not ongoing: `RequeueAfter` is then `time.Until` of a start in the past.

A plan of `RoundNumber` 0 is admitted by the CRD schema (minimum -1) and by
the webhooks. Its first reconcile makes the task done
(`DoneRound = ExpectedRound = 0`), and `finish_zeroRounds` shows that it is
never marked finished: the branch that would mark it (`DoneRound ==
ExpectedRound` after the deadline) sits behind the early return for done
tasks.
-/

namespace KDoctor.PluginManager

open Crd Go Transition

/-- A result of a controller reconcile after which controller-runtime forgets
the task: no error, nothing new to write, no requeue. -/
def Forgets (oldStatus : TaskStatus) : Except String (Option Result × Option TaskStatus) → Prop
  | .ok (result, newStatus) =>
    (newStatus = none ∨ newStatus = some oldStatus) ∧
      ∀ r ∈ result, r.requeue = false ∧ r.requeueAfter ≤ 0
  | .error _ => False

theorem sub_nonpos_of_le {t u : Int} (h : t ≤ u) : sub t u ≤ 0 := by
  have := (sub_pos_iff (t := t) (u := u)).not.mpr (by omega)
  omega

section Forgets

variable {cfg : ControllerConfig} {parseStandard : String → Option (Int → Int)}
  {input : ControllerInput} {st : TaskStatus} {schedulePlan : SchedulePlan}

/-- A task that is not done, at a clock that no case of the `switch` matches:
`updateStatus` returns a nil result and the status it read. -/
theorem updateStatus_between {d e : Int} {r : StatusHistoryRecord}
    {rest : List StatusHistoryRecord} {spec : String} (hsched : schedulePlan.schedule = some spec)
    (hd : st.doneRound = some d) (he : st.expectedRound = some e) (hde : d ≠ e)
    (hh : st.history = r :: rest)
    (hwindow : ¬(r.startTimeStamp < input.now ∧ input.now < r.deadLineTimeStamp))
    (hout : ¬(input.now < r.startTimeStamp ∨ r.deadLineTimeStamp < input.now)) :
    updateStatus cfg parseStandard input st schedulePlan = .ok (none, some st) := by
  unfold updateStatus
  simp only [hsched, hd, he, hh, hde, hwindow, hout, reduceCtorEq, or_self, if_false]

/-- A task that is not done, outside the window of a latest round that is not
ongoing: `updateStatus` asks to be requeued at the round's start. -/
theorem updateStatus_idle {d e : Int} {r : StatusHistoryRecord}
    {rest : List StatusHistoryRecord} {spec : String} (hsched : schedulePlan.schedule = some spec)
    (hd : st.doneRound = some d) (he : st.expectedRound = some e) (hde : d ≠ e)
    (hh : st.history = r :: rest)
    (hwindow : ¬(r.startTimeStamp < input.now ∧ input.now < r.deadLineTimeStamp))
    (hout : input.now < r.startTimeStamp ∨ r.deadLineTimeStamp < input.now)
    (hr : r.status ≠ .ongoing) :
    updateStatus cfg parseStandard input st schedulePlan =
      .ok (some { requeueAfter := sub r.startTimeStamp input.now }, some st) := by
  unfold updateStatus
  simp only [hsched, hd, he, hh, hde, hwindow, hout, hr, reduceCtorEq, or_self, if_false,
    if_true]

/-- **Forgotten tasks.** A task that is not done is forgotten when the clock is
at the start or at the deadline of its latest round, or past the deadline of
a latest round that is not ongoing. -/
theorem updateStatus_forgets {d e : Int} {r : StatusHistoryRecord}
    {rest : List StatusHistoryRecord} (hsched : schedulePlan.schedule ≠ none)
    (hd : st.doneRound = some d) (he : st.expectedRound = some e) (hde : d ≠ e)
    (hh : st.history = r :: rest) (hord : r.startTimeStamp ≤ r.deadLineTimeStamp)
    (hgap : input.now = r.startTimeStamp ∨ input.now = r.deadLineTimeStamp ∨
      r.deadLineTimeStamp < input.now ∧ r.status ≠ .ongoing) :
    Forgets st (updateStatus cfg parseStandard input st schedulePlan) := by
  obtain ⟨spec, hspec⟩ := Option.ne_none_iff_exists'.mp hsched
  have hwindow : ¬(r.startTimeStamp < input.now ∧ input.now < r.deadLineTimeStamp) := by omega
  rcases hgap with hstart | hdeadline | ⟨hlate, hr⟩
  · -- no case of the switch matches
    rw [updateStatus_between hspec hd he hde hh hwindow (by omega)]
    exact ⟨Or.inr rfl, by simp⟩
  · rw [updateStatus_between hspec hd he hde hh hwindow (by omega)]
    exact ⟨Or.inr rfl, by simp⟩
  · -- `time.Until` of a start that has passed
    rw [updateStatus_idle hspec hd he hde hh hwindow (Or.inr hlate) hr]
    refine ⟨Or.inr rfl, fun x hx => ?_⟩
    simp only [Option.mem_some_iff] at hx
    subst hx
    exact ⟨rfl, sub_nonpos_of_le (by omega)⟩

end Forgets

/-- The status of a new one-round task after its first reconcile, at clock 0,
with a plan the webhooks accept. -/
theorem updateStatus_forgets_lateRound :
    validataCrdSchedule (fun _ => .error "") (some ⟨some "0 60", 60, 1⟩) = .ok () ∧
    Reachable (TaskStep ⟨5, 10, "kdoctor"⟩ (fun _ => none) ⟨some "0 60", 60, 1⟩ "NetReach.demo")
      TaskStatus.empty
      { doneRound := some 0
        expectedRound := some 1
        history := [newStatusHistoryRecord 0 1 ⟨some "0 60", 60, 1⟩] } ∧
    Forgets
      { doneRound := some 0
        expectedRound := some 1
        history := [newStatusHistoryRecord 0 1 ⟨some "0 60", 60, 1⟩] }
      (updateStatus ⟨5, 10, "kdoctor"⟩ (fun _ => none)
        ⟨3660000000000, .ok ["node1"], "", Iteration.inOrder String⟩
        { doneRound := some 0
          expectedRound := some 1
          history := [newStatusHistoryRecord 0 1 ⟨some "0 60", 60, 1⟩] }
        ⟨some "0 60", 60, 1⟩) := by
  have hup : updateStatus ⟨5, 10, "kdoctor"⟩ (fun _ => none)
      ⟨0, .ok ["node1"], "", Iteration.inOrder String⟩ TaskStatus.empty
      ⟨some "0 60", 60, 1⟩ =
      .ok (some { requeue := true },
        some { doneRound := some 0
               expectedRound := some 1
               history := [newStatusHistoryRecord 0 1 ⟨some "0 60", 60, 1⟩] }) := by
    rfl
  refine ⟨by decide, Reachable.refl.tail (TaskStep.controller _ _ true hup), ?_⟩
  exact updateStatus_forgets (by simp) rfl rfl (by decide) rfl (by decide)
    (Or.inr (Or.inr ⟨by decide, by decide⟩))

/-! ## Plans of no round -/

/-- **Plans of no round never finish.** For a plan of `RoundNumber` 0, every
reachable status is the empty one or done at round 0, and none is finished. -/
theorem finish_zeroRounds (cfg : ControllerConfig) (parseStandard : String → Option (Int → Int))
    (schedulePlan : SchedulePlan) (taskName : String) (h0 : schedulePlan.roundNumber = 0)
    {st : TaskStatus}
    (h : Reachable (TaskStep cfg parseStandard schedulePlan taskName) TaskStatus.empty st) :
    st.finish = false ∧ st.finishTime = none ∧
      (st = TaskStatus.empty ∨ st.expectedRound = some 0 ∧ st.doneRound = some 0) := by
  -- a done task is left alone by both kinds of reconcile
  have hdone {old : TaskStatus} {d e : Int} (hold : old = TaskStatus.empty ∨
      old.expectedRound = some 0 ∧ old.doneRound = some 0)
      (hd : old.doneRound = some d) (he : old.expectedRound = some e) : d = e := by
    rcases hold with rfl | ⟨hE, hD⟩
    · cases hd
    · rw [hD, Option.some.injEq] at hd
      rw [hE, Option.some.injEq] at he
      omega
  refine Reachable.invariant (fun st => st.finish = false ∧ st.finishTime = none ∧
    (st = TaskStatus.empty ∨ st.expectedRound = some 0 ∧ st.doneRound = some 0))
    ⟨rfl, rfl, Or.inl rfl⟩ ?_ h
  intro s s' _ hs hstep
  refine TaskStep.preserves (P := fun st => st.finish = false ∧ st.finishTime = none ∧
    (st = TaskStatus.empty ∨ st.expectedRound = some 0 ∧ st.doneRound = some 0)) ?_ ?_ hstep hs
  · rintro old new input result ⟨hfin, htime, hold⟩ hup
    rcases updateStatus_cases hup with rfl | ⟨-, startTime, rfl⟩ |
      ⟨d, e, r, rest, hd, he, hde, -⟩
    · exact ⟨hfin, htime, hold⟩
    · exact ⟨hfin, htime, Or.inr ⟨by simp [h0], rfl⟩⟩
    · exact absurd (hdone hold hd he) hde
  · rintro old new poll node data out ⟨-, -, hold⟩ hagent hout
    rcases handleAgentTaskRound_cases hagent with rfl | ⟨d, e, r, rest, hd, he, hde, -⟩
    · cases hout
    · exact absurd (hdone hold hd he) hde

/-- A plan of no round that the webhooks accept: after the first reconcile
the task is done, at round 0 of 0, and not finished. -/
theorem finish_zeroRounds_firstReconcile :
    validataCrdSchedule (fun _ => .error "") (some ⟨some "0 60", 60, 0⟩) = .ok () ∧
    Reachable (TaskStep ⟨5, 10, "kdoctor"⟩ (fun _ => none) ⟨some "0 60", 60, 0⟩ "NetReach.demo")
      TaskStatus.empty
      { doneRound := some 0
        expectedRound := some 0
        history := [newStatusHistoryRecord 0 1 ⟨some "0 60", 60, 0⟩] } ∧
    ({ doneRound := some 0
       expectedRound := some 0
       history := [newStatusHistoryRecord 0 1 ⟨some "0 60", 60, 0⟩] } : TaskStatus).finish =
      false ∧
    ({ doneRound := some 0
       expectedRound := some 0
       history := [newStatusHistoryRecord 0 1 ⟨some "0 60", 60, 0⟩] } : TaskStatus).finishTime =
      none := by
  have hup : updateStatus ⟨5, 10, "kdoctor"⟩ (fun _ => none)
      ⟨0, .ok ["node1"], "", Iteration.inOrder String⟩ TaskStatus.empty
      ⟨some "0 60", 60, 0⟩ =
      .ok (some { requeue := true },
        some { doneRound := some 0
               expectedRound := some 0
               history := [newStatusHistoryRecord 0 1 ⟨some "0 60", 60, 0⟩] }) := by
    rfl
  have hreach : Reachable (TaskStep ⟨5, 10, "kdoctor"⟩ (fun _ => none) ⟨some "0 60", 60, 0⟩
      "NetReach.demo") TaskStatus.empty
      { doneRound := some 0
        expectedRound := some 0
        history := [newStatusHistoryRecord 0 1 ⟨some "0 60", 60, 0⟩] } :=
    Reachable.refl.tail (TaskStep.controller _ _ true hup)
  have hfin := finish_zeroRounds _ _ _ _ rfl hreach
  exact ⟨by decide, hreach, hfin.1, hfin.2.1⟩

end KDoctor.PluginManager
