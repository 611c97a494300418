import KDoctor.PluginManager.History
import KDoctor.PluginManager.Tools

/-!
The times of the rounds of a task (`NewSchedule`, `schedule.Next`,
`schedule.StartTime`, `NewStatusHistoryRecord`). The controller starts the
first round at the schedule's start time after the reconcile that first sees
the task, and every next round at the schedule's next time after the start of
the round before; a round is due `RoundTimeoutMinute` minutes after its
start. For a schedule of two fields `a b` these are `a` and `b` minutes; a
number of minutes becomes a `time.Duration` by a multiplication in 64 bits
(`Go.minutes`), which wraps above 153722867 minutes.

`RoundTimes` is the invariant of the times of a status, for any schedule;
`roundTimes_reachable` shows that every reachable status keeps it.
-/

namespace KDoctor.PluginManager

open Crd Go Transition

/-! ## Two-field schedules -/

section TwoFields

variable {parse : String → Option (Int → Int)} {s startAfter interval : String}

theorem newSchedule_twoFields (hsplit : split s ' ' = [startAfter, interval]) :
    newSchedule parse s =
      { isCron := false, startAfterMinute := (atoi startAfter).1,
        intervalMinute := (atoi interval).1, cronSchedule := none } := by
  simp [newSchedule, hsplit]

theorem startTime_twoFields (hsplit : split s ' ' = [startAfter, interval]) (t : Int) :
    (newSchedule parse s).startTime t = some (t + minutes (atoi startAfter).1) := by
  simp [newSchedule_twoFields hsplit, Schedule.startTime]

theorem next_twoFields (hsplit : split s ' ' = [startAfter, interval]) (t : Int) :
    (newSchedule parse s).next t = some (t + minutes (atoi interval).1) := by
  simp [newSchedule_twoFields hsplit, Schedule.next]

/-- What `ValidataCrdSchedule` asks of a plan of two fields. -/
theorem validataCrdSchedule_twoFields {parseStandard : String → Except String (Int → Int)}
    {plan : SchedulePlan} (hvalid : validataCrdSchedule parseStandard (some plan) = .ok ())
    (hplan : plan.schedule = some s) (hsplit : split s ' ' = [startAfter, interval]) :
    0 ≤ (atoi startAfter).1 ∧ 1 ≤ (atoi interval).1 ∧ plan.roundTimeoutMinute ≤ (atoi interval).1 ∧
      1 ≤ plan.roundTimeoutMinute := by
  simp only [validataCrdSchedule, hplan, hsplit] at hvalid
  rcases hA : atoi startAfter with ⟨a, _ | _⟩ <;> rcases hB : atoi interval with ⟨b, _ | _⟩ <;>
    simp only [hA, hB] at hvalid
  · cases hvalid
  · cases hvalid
  · cases hvalid
  · -- both fields are numbers: every check passed
    split_ifs at hvalid with h1 h2 h3 h4
    dsimp only
    omega

end TwoFields

/-! ## The invariant -/

/-- The times of a status placed by `scheduler`: a status the controller has
not seen has no round, every round is due `timeout` minutes after its start,
and every round starts at the schedule's next time after the round before. -/
structure RoundTimes (scheduler : Schedule) (timeout : Int) (st : TaskStatus) : Prop where
  fresh : st.expectedRound = none → st.history = []
  deadline : ∀ r ∈ st.history, r.deadLineTimeStamp = r.startTimeStamp + minutes timeout
  spaced : st.history.IsChain fun r r' => scheduler.next r'.startTimeStamp = some r.startTimeStamp

namespace RoundTimes

variable {scheduler : Schedule} {timeout : Int}

theorem empty : RoundTimes scheduler timeout TaskStatus.empty where
  fresh := fun _ => rfl
  deadline := by simp [TaskStatus.empty]
  spaced := .nil

/-- The first round of a task. -/
theorem first (st : TaskStatus) (startTime : Int) (plan : SchedulePlan) (E : Int) :
    RoundTimes scheduler plan.roundTimeoutMinute
      { st with doneRound := some 0, expectedRound := some E,
                history := [newStatusHistoryRecord startTime 1 plan] } where
  fresh := by simp
  deadline := by simp [newStatusHistoryRecord]
  spaced := .singleton _

/-- A status with a round has been seen by the controller. -/
theorem expectedRound_ne_none {st : TaskStatus} {r : StatusHistoryRecord}
    {rest : List StatusHistoryRecord} (hs : RoundTimes scheduler timeout st)
    (hh : st.history = r :: rest) : st.expectedRound ≠ none := fun hnone => by
  rw [hs.fresh hnone] at hh
  cases hh

/-- A record that starts when the latest round did may take its place. -/
theorem isChain_cons_of_start {r r' : StatusHistoryRecord} {rest : List StatusHistoryRecord}
    (hstart : r'.startTimeStamp = r.startTimeStamp)
    (hc : (r :: rest).IsChain fun r r' => scheduler.next r'.startTimeStamp = some r.startTimeStamp) :
    (r' :: rest).IsChain fun r r' => scheduler.next r'.startTimeStamp = some r.startTimeStamp := by
  cases rest with
  | nil => exact .singleton _
  | cons r₂ rest =>
    rw [List.isChain_cons_cons] at hc ⊢
    exact ⟨hstart ▸ hc.1, hc.2⟩

/-- A latest round replaced by one of the same times. -/
theorem setHead {st st' : TaskStatus} {r r' : StatusHistoryRecord} {rest : List StatusHistoryRecord}
    (hs : RoundTimes scheduler timeout st) (hh : st.history = r :: rest)
    (hexp : st'.expectedRound = st.expectedRound) (hh' : st'.history = r' :: rest)
    (hstart : r'.startTimeStamp = r.startTimeStamp)
    (hdl : r'.deadLineTimeStamp = r.deadLineTimeStamp) :
    RoundTimes scheduler timeout st' where
  fresh := fun hnone => absurd (hexp ▸ hnone) (hs.expectedRound_ne_none hh)
  deadline := by
    have hd := hs.deadline
    rw [hh] at hd
    intro x hx
    rw [hh', List.mem_cons] at hx
    rcases hx with rfl | hx
    · rw [hdl, hstart]
      exact hd r List.mem_cons_self
    · exact hd x (List.mem_cons_of_mem r hx)
  spaced := by
    have hc := hs.spaced
    rw [hh] at hc
    rw [hh']
    exact isChain_cons_of_start hstart hc

/-- The round the schedule places after the latest one, put in front and
kept to the first `k` records. -/
theorem push {st : TaskStatus} {r : StatusHistoryRecord} {rest : List StatusHistoryRecord}
    {plan : SchedulePlan} (hs : RoundTimes scheduler plan.roundTimeoutMinute st)
    (hh : st.history = r :: rest) {startTime : Int}
    (hnext : scheduler.next r.startTimeStamp = some startTime) (n : Int) (k : Nat)
    (st' : TaskStatus) (hexp : st'.expectedRound = st.expectedRound)
    (hh' : st'.history = (newStatusHistoryRecord startTime n plan :: r :: rest).take k) :
    RoundTimes scheduler plan.roundTimeoutMinute st' := by
  -- the whole list before it is cut
  have hchain : (newStatusHistoryRecord startTime n plan :: r :: rest).IsChain
      fun r r' => scheduler.next r'.startTimeStamp = some r.startTimeStamp := by
    rw [List.isChain_cons_cons]
    exact ⟨by simpa [newStatusHistoryRecord] using hnext, hh ▸ hs.spaced⟩
  refine ⟨fun hnone => absurd (hexp ▸ hnone) (hs.expectedRound_ne_none hh), ?_, hh' ▸ hchain.take k⟩
  intro x hx
  rw [hh'] at hx
  rcases List.mem_cons.mp (List.mem_of_mem_take hx) with rfl | hx
  · simp [newStatusHistoryRecord]
  · exact hs.deadline x (hh ▸ hx)

end RoundTimes

/-! ## Runs -/

section Steps

variable {cfg : ControllerConfig} {parseStandard : String → Option (Int → Int)}
  {plan : SchedulePlan} {taskName spec : String}

/-- A controller reconcile keeps the times of the rounds. -/
theorem roundTimes_updateStatus (hspec : plan.schedule = some spec) {old new : TaskStatus}
    (hs : RoundTimes (newSchedule parseStandard spec) plan.roundTimeoutMinute old)
    {input : ControllerInput} {result : Option Result}
    (h : updateStatus cfg parseStandard input old plan = .ok (result, some new)) :
    RoundTimes (newSchedule parseStandard spec) plan.roundTimeoutMinute new := by
  rcases updateStatus_cases_schedule h with
    rfl | ⟨spec', hspec', ⟨hinit, startTime, -, rfl⟩ | ⟨d, e, r, rest, -, -, -, hh, hcase⟩⟩
  · exact hs
  · rw [hspec, Option.some.injEq] at hspec'
    subst hspec'
    -- a status the controller has not seen has no round yet
    have hnil : old.history = [] := by
      rcases hinit with hnone | hnil
      · exact hs.fresh hnone
      · exact hnil
    simpa [hnil] using RoundTimes.first old startTime plan plan.roundNumber
  · rw [hspec, Option.some.injEq] at hspec'
    subst hspec'
    rcases hcase with ⟨-, rfl⟩ | ⟨hr, deadline, closed, eagerNext, hclose, hadd⟩
    · exact hs.setHead hh rfl rfl rfl rfl
    · obtain ⟨-, u, -, -, rfl⟩ := updateRoundFinalStatus_ok_true hh hr hclose
      have hclosed : RoundTimes (newSchedule parseStandard spec) plan.roundTimeoutMinute
          { old with history := closeRecord input.now r u :: rest,
                     lastRoundStatus := some (closeRecord input.now r u).status } :=
        hs.setHead hh rfl rfl (closeRecord_startTimeStamp _ _ _) (closeRecord_deadLineTimeStamp _ _ _)
      rcases addNewRoundRecord_cases hadd with ⟨-, rfl⟩ | ⟨-, -, -, startTime, hnext, rfl⟩ |
        ⟨-, -, rfl⟩
      · exact hclosed
      · exact hclosed.push rfl (by simpa using hnext) _ _ _ rfl rfl
      · exact hclosed.setHead rfl rfl rfl rfl rfl

/-- An agent reconcile keeps the times of the rounds: it only adds its node to
the latest round. -/
theorem roundTimes_handleAgentTaskRound {old new : TaskStatus} {scheduler : Schedule}
    {timeout : Int} (hs : RoundTimes scheduler timeout old) {taskPollIntervalInSecond : Int}
    {localNodeName : String} {taskRoundData : TaskStatusManager.TaskStatus} {out : AgentOutcome}
    (h : handleAgentTaskRound taskPollIntervalInSecond localNodeName taskRoundData old taskName =
      .ok out)
    (hout : out.status = some new) : RoundTimes scheduler timeout new := by
  rcases handleAgentTaskRound_cases h with rfl | ⟨d, e, r, rest, -, -, -, hh, -, -, rfl⟩
  · cases hout
  · rcases pollRound_status with hsame | ⟨-, hnew⟩ | ⟨-, hnew⟩ <;>
      rw [hout, Option.some.injEq] at * <;> subst new
    · exact hs
    · exact hs.setHead hh rfl rfl rfl rfl
    · exact hs.setHead hh rfl rfl rfl rfl

/-- Every status a run of reconciles reaches from the empty status has the
times its schedule places. -/
theorem roundTimes_reachable (hspec : plan.schedule = some spec) {st : TaskStatus}
    (h : Reachable (TaskStep cfg parseStandard plan taskName) TaskStatus.empty st) :
    RoundTimes (newSchedule parseStandard spec) plan.roundTimeoutMinute st :=
  Reachable.invariant _ RoundTimes.empty
    (fun _ _ _ hs hstep => TaskStep.preserves
      (fun _ _ hs hup => roundTimes_updateStatus hspec hs hup)
      (fun _ _ _ _ hs hagent hout => roundTimes_handleAgentTaskRound hs hagent hout) hstep hs)
    h

end Steps

/-! ## The order of the rounds of a two-field schedule -/

section Order

variable {cfg : ControllerConfig} {parse : String → Option (Int → Int)} {plan : SchedulePlan}
  {s startAfter interval : String}

/-- The first reconcile of a task of two fields writes its first round, `a`
minutes after the clock. -/
theorem updateStatus_empty_twoFields (hplan : plan.schedule = some s)
    (hsplit : split s ' ' = [startAfter, interval]) (input : ControllerInput) :
    updateStatus cfg parse input TaskStatus.empty plan =
      .ok (some { requeue := true },
        some { doneRound := some 0, expectedRound := some plan.roundNumber,
               history := [newStatusHistoryRecord (input.now + minutes (atoi startAfter).1) 1 plan] }) := by
  simp [updateStatus, hplan, startTime_twoFields hsplit, TaskStatus.empty]

/-- Each round of a two-field schedule starts `b` minutes, as a `Duration`,
after the round before. -/
theorem RoundTimes.spaced_twoFields {timeout : Int} {st : TaskStatus}
    (hs : RoundTimes (newSchedule parse s) timeout st) (hsplit : split s ' ' = [startAfter, interval]) :
    st.history.IsChain fun r r' =>
      r.startTimeStamp = r'.startTimeStamp + minutes (atoi interval).1 :=
  hs.spaced.imp fun r r' h => by
    rw [next_twoFields hsplit, Option.some.injEq] at h
    exact h.symm

/-- For a two-field plan that `ValidataCrdSchedule` admits and whose two
numbers of minutes fit in a `Duration`: the first reconcile writes a first
round that starts `a` minutes after its clock, so no earlier, and in every
status a run of
reconciles reaches, every round is due `RoundTimeoutMinute` minutes after it
starts, and every round starts `b` minutes after the one before it, hence
not before that one is due. -/
theorem roundTimes_twoFields_ordered {parseStandard : String → Except String (Int → Int)}
    (taskName : String) (hvalid : validataCrdSchedule parseStandard (some plan) = .ok ())
    (hplan : plan.schedule = some s) (hsplit : split s ' ' = [startAfter, interval])
    (hfit : (atoi startAfter).1 ≤ 153722867 ∧ (atoi interval).1 ≤ 153722867) :
    (∀ input : ControllerInput, ∃ st', updateStatus cfg parse input TaskStatus.empty plan =
        .ok (some { requeue := true }, some st') ∧
      ∃ r, st'.history = [r] ∧ r.startTimeStamp = input.now + (atoi startAfter).1 * minute ∧
        input.now ≤ r.startTimeStamp) ∧
    ∀ st, Reachable (TaskStep cfg parse plan taskName) TaskStatus.empty st →
      (∀ r ∈ st.history, r.deadLineTimeStamp = r.startTimeStamp + plan.roundTimeoutMinute * minute ∧
        r.startTimeStamp < r.deadLineTimeStamp) ∧
      st.history.IsChain fun r r' =>
        r.startTimeStamp = r'.startTimeStamp + (atoi interval).1 * minute ∧
          r'.deadLineTimeStamp ≤ r.startTimeStamp := by
  obtain ⟨ha, hb, htb, ht⟩ := validataCrdSchedule_twoFields hvalid hplan hsplit
  -- the three durations are exact
  have hminute : (0 : Int) < minute := by decide
  have hstart := minutes_of_le ha hfit.1
  have hinterval := minutes_of_le (by omega) hfit.2
  have htimeout := minutes_of_le (by omega) (by omega : plan.roundTimeoutMinute ≤ 153722867)
  refine ⟨fun input => ⟨_, updateStatus_empty_twoFields hplan hsplit input, _, rfl, ?_⟩, ?_⟩
  · -- the start is `a` whole minutes after the clock, and `a` is not negative
    simp only [newStatusHistoryRecord, hstart, true_and]
    have : 0 ≤ (atoi startAfter).1 * minute := Int.mul_nonneg ha (Int.le_of_lt hminute)
    omega
  · intro st hreach
    have hs := roundTimes_reachable hplan hreach
    have hdue : ∀ r ∈ st.history,
        r.deadLineTimeStamp = r.startTimeStamp + plan.roundTimeoutMinute * minute := by
      intro r hr
      rw [hs.deadline r hr, htimeout]
    have hlonger : plan.roundTimeoutMinute * minute ≤ (atoi interval).1 * minute :=
      Int.mul_le_mul_of_nonneg_right htb (Int.le_of_lt hminute)
    refine ⟨fun r hr => ⟨hdue r hr, ?_⟩, ?_⟩
    · have : 0 < plan.roundTimeoutMinute * minute := Int.mul_pos (by omega) hminute
      rw [hdue r hr]
      omega
    · refine (hs.spaced_twoFields hsplit).imp_of_mem_imp fun r r' _ hr' h => ?_
      rw [hinterval] at h
      have := hdue r' hr'
      exact ⟨h, by omega⟩

/-- An hourly plan of one round, due an hour after its start. -/
theorem roundTimes_twoFields_ordered_hourly :
    validataCrdSchedule (fun _ => .error "") (some ⟨some "0 60", 60, 1⟩) = .ok () ∧
    split "0 60" ' ' = ["0", "60"] ∧ ((atoi "0").1 ≤ 153722867 ∧ (atoi "60").1 ≤ 153722867) ∧
    ((∀ input : ControllerInput, ∃ st', updateStatus ⟨5, 10, "kdoctor"⟩ (fun _ => none) input
        TaskStatus.empty ⟨some "0 60", 60, 1⟩ = .ok (some { requeue := true }, some st') ∧
      ∃ r, st'.history = [r] ∧ r.startTimeStamp = input.now + (atoi "0").1 * minute ∧
        input.now ≤ r.startTimeStamp) ∧
    ∀ st, Reachable (TaskStep ⟨5, 10, "kdoctor"⟩ (fun _ => none) ⟨some "0 60", 60, 1⟩
        "NetReach.demo") TaskStatus.empty st →
      (∀ r ∈ st.history, r.deadLineTimeStamp = r.startTimeStamp + 60 * minute ∧
        r.startTimeStamp < r.deadLineTimeStamp) ∧
      st.history.IsChain fun r r' =>
        r.startTimeStamp = r'.startTimeStamp + (atoi "60").1 * minute ∧
          r'.deadLineTimeStamp ≤ r.startTimeStamp) := by
  have hvalid : validataCrdSchedule (fun _ => .error "") (some ⟨some "0 60", 60, 1⟩) = .ok () := by
    simp only [validataCrdSchedule, show split "0 60" ' ' = ["0", "60"] by decide,
      show atoi "0" = (0, true) by decide, show atoi "60" = (60, true) by decide]
    decide
  exact ⟨hvalid, by decide, by decide,
    @roundTimes_twoFields_ordered ⟨5, 10, "kdoctor"⟩ (fun _ => none) ⟨some "0 60", 60, 1⟩ "0 60" "0"
      "60" (fun _ => .error "") "NetReach.demo" hvalid rfl (by decide) (by decide)⟩

/-- The plan `153722868 153722868`, due one minute after each start, passes
`ValidataCrdSchedule`, but 153722868 minutes wrap to 9223371993709551616
nanoseconds before zero: the first round starts that long, about 292 years,
before the clock of the reconcile that places it, and in every reachable
status every round starts that long before the one before it. The plan
`0 153722868` with the same round timeout is admitted too, and its first
round is due that long before it starts. -/
theorem wrapped_schedule_round_times (cfg : ControllerConfig) (parse : String → Option (Int → Int))
    (parseStandard : String → Except String (Int → Int)) (taskName : String) :
    let plan : SchedulePlan := ⟨some "153722868 153722868", 1, 2⟩
    let plan' : SchedulePlan := ⟨some "0 153722868", 153722868, 2⟩
    validataCrdSchedule parseStandard (some plan) = .ok () ∧
    (∀ input : ControllerInput, updateStatus cfg parse input TaskStatus.empty plan =
      .ok (some { requeue := true },
        some { doneRound := some 0, expectedRound := some 2,
               history := [newStatusHistoryRecord (input.now - 9223371993709551616) 1 plan] })) ∧
    (∀ st, Reachable (TaskStep cfg parse plan taskName) TaskStatus.empty st →
      st.history.IsChain fun r r' => r.startTimeStamp = r'.startTimeStamp - 9223371993709551616) ∧
    validataCrdSchedule parseStandard (some plan') = .ok () ∧
    (∀ input : ControllerInput, ∃ r, updateStatus cfg parse input TaskStatus.empty plan' =
      .ok (some { requeue := true },
        some { doneRound := some 0, expectedRound := some 2, history := [r] }) ∧
      r.startTimeStamp = input.now ∧ r.deadLineTimeStamp = input.now - 9223371993709551616) := by
  intro plan plan'
  have hsplit : split "153722868 153722868" ' ' = ["153722868", "153722868"] := by decide
  have hsplit' : split "0 153722868" ' ' = ["0", "153722868"] := by decide
  have hatoi : atoi "153722868" = (153722868, true) := by decide
  have hzero : atoi "0" = (0, true) := by decide
  have hwrap : minutes 153722868 = -9223371993709551616 := by decide
  have hnone : minutes 0 = 0 := by decide
  refine ⟨?_, fun input => ?_, fun st hreach => ?_, ?_, fun input =>
    ⟨newStatusHistoryRecord (input.now + minutes (atoi "0").1) 1 plan',
      updateStatus_empty_twoFields rfl hsplit' input, ?_, ?_⟩⟩
  · simp only [plan, validataCrdSchedule, hsplit, hatoi]
    decide
  · rw [updateStatus_empty_twoFields rfl hsplit, hatoi, hwrap]
    rfl
  · refine ((roundTimes_reachable rfl hreach).spaced_twoFields hsplit).imp fun r r' h => ?_
    rw [h, hatoi, hwrap]
    omega
  · simp only [plan', validataCrdSchedule, hsplit', hzero, hatoi]
    decide
  · simp only [newStatusHistoryRecord, hzero, hnone]
    omega
  · simp only [newStatusHistoryRecord, hzero, hnone, plan', hwrap]
    omega

end Order

end KDoctor.PluginManager
