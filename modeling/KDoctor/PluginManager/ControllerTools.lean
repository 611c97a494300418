import KDoctor.PluginManager.Utils

/-!
The controller's side of a task round (`pluginManager/controllerTools.go`):
`getSpiderAgentNodeNotInRecord` finds the runtime nodes that did not report,
`updateRoundFinalStatus` closes the latest round, and `updateStatus` is the
state machine that a controller reconcile runs on the status of a task.

Every call to `time.Now` during one `updateStatus` (the clock it compares
with, the finish and end time stamps, `time.Until`, `time.Since`) reads the
same instant `now`. The listing of the runtime pods is an input
(`podList`: the node name of every pod, or the error of the API call), and so
is the order in which a map is iterated. The Go function mutates `newStatus`
in place; the model returns it. A panic (a nil dereference, an index or a
slice bound out of range) ends the call with no status written, and is an
error of the model. Writing the summary report of a closed round has no
effect on the status and is left out.
-/

namespace KDoctor.PluginManager

open Crd Go

/-- The configuration `UpdateStatus` reads (`types.ControllerConfig`). -/
structure ControllerConfig where
  taskPollIntervalInSecond : Int
  crdMaxHistory : Int
  podNamespace : String

/-- `reconcile.Result`. -/
structure Result where
  requeue : Bool := false
  requeueAfter : Int := 0
  deriving DecidableEq, Repr

def nilDereference : String := "runtime error: invalid memory address or nil pointer dereference"

def indexOutOfRange : String := "runtime error: index out of range [0] with length 0"

def sliceOutOfRange (n : Int) : String := "runtime error: slice bounds out of range [:" ++ toString n ++ "]"

/-- `GetSpiderAgentNodeNotInRecord`: the nodes of the runtime pods that are not
in `succeedNodeList`, each once. `podMatchLabel` is the selector as `%s`
prints it. -/
def getSpiderAgentNodeNotInRecord (it : Iteration String) (podNamespace podMatchLabel : String)
    (succeedNodeList : List String) (podList : Except String (List String)) :
    Except String (List String) :=
  match podList with
  | .error err => .error err
  | .ok items =>
    if items = [] then
      .error ("failed to find agent node with matchLabels '" ++ podMatchLabel ++
        "' namespace '" ++ podNamespace ++ "'")
    else
      -- a Deployment runtime may run several agents on one node
      let allNodeList := removeDuplicates it items
      .ok (allNodeList.filter fun s => !succeedNodeList.contains s)

theorem getSpiderAgentNodeNotInRecord_ok {it : Iteration String} {podNamespace podMatchLabel : String}
    {succeedNodeList : List String} {podList : Except String (List String)} {l : List String}
    (h : getSpiderAgentNodeNotInRecord it podNamespace podMatchLabel succeedNodeList podList = .ok l) :
    ∃ items, podList = .ok items ∧ items ≠ [] ∧
      l = (removeDuplicates it items).filter fun s => !succeedNodeList.contains s := by
  unfold getSpiderAgentNodeNotInRecord at h
  cases podList with
  | error e => cases h
  | ok items =>
    by_cases hi : items = []
    · simp [hi] at h
    · simp only [hi, if_false, Except.ok.injEq] at h
      exact ⟨items, rfl, hi, h.symm⟩

/-- The nodes that did not report are the pod nodes outside the list, each once. -/
theorem getSpiderAgentNodeNotInRecord_spec {it : Iteration String}
    {podNamespace podMatchLabel : String} {succeedNodeList items l : List String}
    (h : getSpiderAgentNodeNotInRecord it podNamespace podMatchLabel succeedNodeList (.ok items) =
      .ok l) :
    l.Nodup ∧ ∀ x, x ∈ l ↔ x ∈ items ∧ x ∉ succeedNodeList := by
  obtain ⟨items', hitems, -, rfl⟩ := getSpiderAgentNodeNotInRecord_ok h
  cases hitems
  refine ⟨(nodup_removeDuplicates it items).filter _, fun x => ?_⟩
  simp

/-- The part of `UpdateRoundFinalStatus` that writes the result of the round
into its record, once the nodes that did not report are known. -/
def closeRecord (now : Int) (latestRecord : StatusHistoryRecord)
    (unknownReportNodeList : List String) : StatusHistoryRecord :=
  let reportNode := latestRecord.succeedAgentNodeList ++ latestRecord.failedAgentNodeList
  let judged :=
    if unknownReportNodeList ≠ [] ∨ latestRecord.failedAgentNodeList ≠ [] then
      { latestRecord with
        notReportAgentNodeList := unknownReportNodeList
        status := .fail
        failureReason :=
          if latestRecord.failedAgentNodeList ≠ [] then "some agents failed"
          else if unknownReportNodeList ≠ [] then "some agents did not report"
          else latestRecord.failureReason }
    else { latestRecord with status := .succeed }
  { judged with
    expectedActorNumber := some (reportNode.length + unknownReportNodeList.length)
    endTimeStamp := some now
    duration := some (sub now latestRecord.startTimeStamp) }

@[simp] theorem closeRecord_roundNumber (now : Int) (r : StatusHistoryRecord) (u : List String) :
    (closeRecord now r u).roundNumber = r.roundNumber := by
  unfold closeRecord; split <;> rfl

@[simp] theorem closeRecord_succeedAgentNodeList (now : Int) (r : StatusHistoryRecord)
    (u : List String) :
    (closeRecord now r u).succeedAgentNodeList = r.succeedAgentNodeList := by
  unfold closeRecord; split <;> rfl

@[simp] theorem closeRecord_failedAgentNodeList (now : Int) (r : StatusHistoryRecord)
    (u : List String) :
    (closeRecord now r u).failedAgentNodeList = r.failedAgentNodeList := by
  unfold closeRecord; split <;> rfl

@[simp] theorem closeRecord_startTimeStamp (now : Int) (r : StatusHistoryRecord) (u : List String) :
    (closeRecord now r u).startTimeStamp = r.startTimeStamp := by
  unfold closeRecord; split <;> rfl

@[simp] theorem closeRecord_deadLineTimeStamp (now : Int) (r : StatusHistoryRecord)
    (u : List String) :
    (closeRecord now r u).deadLineTimeStamp = r.deadLineTimeStamp := by
  unfold closeRecord; split <;> rfl

theorem closeRecord_status (now : Int) (r : StatusHistoryRecord) (u : List String) :
    (closeRecord now r u).status =
      if u ≠ [] ∨ r.failedAgentNodeList ≠ [] then .fail else .succeed := by
  unfold closeRecord; split <;> simp_all

/-- A closed record is final. -/
theorem closeRecord_final (now : Int) (r : StatusHistoryRecord) (u : List String) :
    (closeRecord now r u).status.Final := by
  rw [closeRecord_status]; split <;> simp

/-- `UpdateRoundFinalStatus`: whether the latest round is over, with the status
in which its record is closed when it is. -/
def updateRoundFinalStatus (it : Iteration String) (podNamespace podMatchLabel : String)
    (podList : Except String (List String)) (now : Int) (newStatus : TaskStatus)
    (deadline : Bool) : Except String Bool × TaskStatus :=
  match newStatus.history with
  | [] => (.error indexOutOfRange, newStatus)
  | latestRecord :: rest =>
    if latestRecord.status = .fail ∨ latestRecord.status = .succeed ∨
        latestRecord.status = .notstarted then (.ok true, newStatus)
    -- before the deadline, a round nobody reported for goes on
    else if !deadline ∧ latestRecord.succeedAgentNodeList = [] ∧
        latestRecord.failedAgentNodeList = [] then (.ok false, newStatus)
    else
      let reportNode := latestRecord.succeedAgentNodeList ++ latestRecord.failedAgentNodeList
      match getSpiderAgentNodeNotInRecord it podNamespace podMatchLabel reportNode podList with
      | .error e => (.error e, newStatus)
      | .ok unknownReportNodeList =>
        if unknownReportNodeList ≠ [] ∧ !deadline then (.ok false, newStatus)
        else
          let closed := closeRecord now latestRecord unknownReportNodeList
          (.ok true, { newStatus with
            history := closed :: rest
            lastRoundStatus := some closed.status })

section RoundFinal

variable {it : Iteration String} {podNamespace podMatchLabel : String}
  {podList : Except String (List String)} {now : Int}

/-- `UpdateRoundFinalStatus` answers that the round is over, or leaves the
status as it was. -/
theorem updateRoundFinalStatus_snd_or (st : TaskStatus) (deadline : Bool) :
    (updateRoundFinalStatus it podNamespace podMatchLabel podList now st deadline).2 = st ∨
      (updateRoundFinalStatus it podNamespace podMatchLabel podList now st deadline).1 =
        .ok true := by
  unfold updateRoundFinalStatus
  split
  · exact Or.inl rfl
  · dsimp only
    split
    · exact Or.inl rfl
    · split
      · exact Or.inl rfl
      · split
        · exact Or.inl rfl
        · split
          · exact Or.inl rfl
          · exact Or.inr rfl

/-- Past the deadline, a round that is not closed by an error is closed. -/
theorem updateRoundFinalStatus_deadline {st : TaskStatus} {b : Bool}
    (h : (updateRoundFinalStatus it podNamespace podMatchLabel podList now st true).1 = .ok b) :
    b = true := by
  unfold updateRoundFinalStatus at h
  split at h
  · cases h
  · simp only at h
    split at h
    · simpa using h.symm
    · split at h
      · simp at *
      · split at h
        · cases h
        · split at h
          · simp at *
          · simpa using h.symm

/-- How an ongoing round is closed: by the nodes of the runtime pods that did
not report, and only at the deadline when some did not. -/
theorem updateRoundFinalStatus_ok_true {st st' : TaskStatus} {r : StatusHistoryRecord}
    {rest : List StatusHistoryRecord} {deadline : Bool} (hh : st.history = r :: rest)
    (hr : r.status = .ongoing)
    (h : updateRoundFinalStatus it podNamespace podMatchLabel podList now st deadline =
      (.ok true, st')) :
    (deadline = true ∨ r.succeedAgentNodeList ++ r.failedAgentNodeList ≠ []) ∧
      ∃ u, getSpiderAgentNodeNotInRecord it podNamespace podMatchLabel
          (r.succeedAgentNodeList ++ r.failedAgentNodeList) podList = .ok u ∧
        (deadline = true ∨ u = []) ∧
        st' = { st with
          history := closeRecord now r u :: rest
          lastRoundStatus := some (closeRecord now r u).status } := by
  unfold updateRoundFinalStatus at h
  rw [hh] at h
  simp only [hr, reduceCtorEq, or_self, if_false] at h
  split at h
  · cases h
  · rename_i hreport
    split at h
    · cases h
    · rename_i u hu
      split at h
      · cases h
      · rename_i hunknown
        simp only [Prod.mk.injEq] at h
        refine ⟨?_, u, hu, ?_, h.2.symm⟩
        · cases deadline <;> simp_all
        · cases deadline <;> simp_all

end RoundFinal

/-- The block "add new round record" of `UpdateStatus`, run by both of its
round-completion branches once the latest round is closed: the round counts
as done, and either the record of the next round is put in front, keeping at
most `CrdMaxHistory` records, or the task is finished. The in-window branch
asks the schedule for the next start before it knows whether there is a next
round (`eagerNext`); the deadline branch only when there is. -/
def addNewRoundRecord (cfg : ControllerConfig) (scheduler : Schedule) (eagerNext : Bool)
    (schedulePlan : SchedulePlan) (now latestStart doneRound expectedRound : Int)
    (newStatus : TaskStatus) : Except String TaskStatus :=
  if doneRound < expectedRound ∨ expectedRound = -1 then
    let n := doneRound + 1
    let newStatus := { newStatus with doneRound := some n }
    if eagerNext ∧ scheduler.next latestStart = none then .error nilDereference
    else if n < expectedRound ∨ expectedRound = -1 then
      match scheduler.next latestStart with
      | none => .error nilDereference
      | some startTime =>
        let tmp := newStatusHistoryRecord startTime (n + 1) schedulePlan :: newStatus.history
        if (tmp.length : Int) > cfg.crdMaxHistory then
          if cfg.crdMaxHistory < 0 then .error (sliceOutOfRange cfg.crdMaxHistory)
          else .ok { newStatus with history := tmp.take cfg.crdMaxHistory.toNat }
        else .ok { newStatus with history := tmp }
    else .ok { newStatus with finish := true, finishTime := some now }
  else .ok newStatus

/-- What `addNewRoundRecord` can do to a status. -/
theorem addNewRoundRecord_cases {cfg : ControllerConfig} {scheduler : Schedule} {eagerNext : Bool}
    {plan : SchedulePlan} {now latestStart d e : Int} {st st' : TaskStatus}
    (h : addNewRoundRecord cfg scheduler eagerNext plan now latestStart d e st = .ok st') :
    (¬(d < e ∨ e = -1) ∧ st' = st) ∨
    ((d < e ∨ e = -1) ∧ (d + 1 < e ∨ e = -1) ∧ 0 ≤ cfg.crdMaxHistory ∧ ∃ startTime,
      scheduler.next latestStart = some startTime ∧
      st' = { st with
        doneRound := some (d + 1)
        history := (newStatusHistoryRecord startTime (d + 1 + 1) plan :: st.history).take
          cfg.crdMaxHistory.toNat }) ∨
    ((d < e ∨ e = -1) ∧ ¬(d + 1 < e ∨ e = -1) ∧
      st' = { st with doneRound := some (d + 1), finish := true, finishTime := some now }) := by
  unfold addNewRoundRecord at h
  split at h
  · rename_i hadv
    dsimp only at h
    split at h
    · cases h
    · split at h
      · rename_i hmore
        split at h
        · cases h
        · rename_i startTime hnext
          split at h
          · split at h
            · cases h
            · exact Or.inr (Or.inl ⟨hadv, hmore, by omega, startTime, hnext, (Except.ok.inj h).symm⟩)
          · rename_i hlen
            simp only [List.length_cons] at hlen
            refine Or.inr (Or.inl ⟨hadv, hmore, by omega, startTime, hnext, ?_⟩)
            rw [← Except.ok.inj h, List.take_of_length_le (by simp only [List.length_cons]; omega)]
      · rename_i hmore
        exact Or.inr (Or.inr ⟨hadv, hmore, (Except.ok.inj h).symm⟩)
  · rename_i hadv
    exact Or.inl ⟨hadv, (Except.ok.inj h).symm⟩

/-- The inputs of one controller reconcile of a task that `UpdateStatus` reads
besides the status and the plan: the clock, the listing of the runtime pods
with the selector it used, and the iteration order of the map that
de-duplicates their nodes. -/
structure ControllerInput where
  now : Int
  podList : Except String (List String)
  podMatchLabel : String
  it : Iteration String

/-- `UpdateStatus`: the result a reconcile returns and the status it writes
(`none` for nothing to write). -/
def updateStatus (cfg : ControllerConfig) (parseStandard : String → Option (Int → Int))
    (input : ControllerInput) (oldStatus : TaskStatus) (schedulePlan : SchedulePlan) :
    Except String (Option Result × Option TaskStatus) :=
  let newStatus := oldStatus
  let now := input.now
  let nextInterval := seconds cfg.taskPollIntervalInSecond
  let finalStatus := updateRoundFinalStatus input.it cfg.podNamespace input.podMatchLabel
    input.podList now
  match schedulePlan.schedule with
  | none => .error nilDereference
  | some spec =>
    let scheduler := newSchedule parseStandard spec
    -- a task nobody handled yet: schedule its first round
    if newStatus.expectedRound = none ∨ newStatus.history = [] then
      match scheduler.startTime now with
      | none => .error nilDereference
      | some startTime =>
        .ok (some { requeue := true },
          some { newStatus with
            doneRound := some 0
            expectedRound := some schedulePlan.roundNumber
            history := newStatus.history ++ [newStatusHistoryRecord startTime 1 schedulePlan] })
    else
      match newStatus.doneRound, newStatus.expectedRound, newStatus.history with
      | some doneRound, some expectedRound, latestRecord :: rest =>
        if doneRound = expectedRound then .ok (none, none)
        else if latestRecord.startTimeStamp < now ∧ now < latestRecord.deadLineTimeStamp then
          match latestRecord.status with
          | .notstarted =>
            .ok (some { requeue := true },
              some { newStatus with history := { latestRecord with status := .ongoing } :: rest })
          | .ongoing =>
            match finalStatus newStatus false with
            | (.error e, _) => .error e
            | (.ok true, closed) =>
              match addNewRoundRecord cfg scheduler true schedulePlan now
                  latestRecord.startTimeStamp doneRound expectedRound closed with
              | .error e => .error e
              | .ok next => .ok (some { requeue := true }, some next)
            | (.ok false, same) => .ok (some { requeueAfter := nextInterval }, some same)
          | _ => .ok (some { requeueAfter := sub latestRecord.deadLineTimeStamp now }, some newStatus)
        else if now < latestRecord.startTimeStamp ∨ latestRecord.deadLineTimeStamp < now then
          if doneRound = expectedRound then
            .ok (none, some { newStatus with finish := true, finishTime := some now })
          else if latestRecord.status = .ongoing then
            -- past the deadline the round is closed whatever has been reported
            match finalStatus newStatus true with
            | (.error e, _) => .error e
            | (.ok _, closed) =>
              match addNewRoundRecord cfg scheduler false schedulePlan now
                  latestRecord.startTimeStamp doneRound expectedRound closed with
              | .error e => .error e
              | .ok next => .ok (some { requeue := true }, some next)
          else .ok (some { requeueAfter := sub latestRecord.startTimeStamp now }, some newStatus)
        else .ok (none, some newStatus)
      -- `*DoneRound` of a status whose `DoneRound` is nil
      | _, _, _ => .error nilDereference

/-- What a status written by `UpdateStatus` can be, with the schedule it
was placed by: the status it read, the first round of a new task at the
schedule's start time, the latest round started, or the latest round closed
and followed by `addNewRoundRecord` on the task's schedule. -/
theorem updateStatus_cases_schedule {cfg : ControllerConfig} {parse : String → Option (Int → Int)}
    {input : ControllerInput} {old : TaskStatus} {plan : SchedulePlan} {res : Option Result}
    {new : TaskStatus}
    (h : updateStatus cfg parse input old plan = .ok (res, some new)) :
    new = old ∨ ∃ spec, plan.schedule = some spec ∧
    (((old.expectedRound = none ∨ old.history = []) ∧ ∃ startTime,
      (newSchedule parse spec).startTime input.now = some startTime ∧
      new = { old with
        doneRound := some 0
        expectedRound := some plan.roundNumber
        history := old.history ++ [newStatusHistoryRecord startTime 1 plan] }) ∨
    ∃ d e r rest, old.doneRound = some d ∧ old.expectedRound = some e ∧ d ≠ e ∧
      old.history = r :: rest ∧
      ((r.status = .notstarted ∧
          new = { old with history := { r with status := .ongoing } :: rest }) ∨
       (r.status = .ongoing ∧ ∃ deadline closed eagerNext,
          updateRoundFinalStatus input.it cfg.podNamespace input.podMatchLabel input.podList
            input.now old deadline = (.ok true, closed) ∧
          addNewRoundRecord cfg (newSchedule parse spec) eagerNext plan input.now r.startTimeStamp
            d e closed = .ok new))) := by
  unfold updateStatus at h
  dsimp only at h
  split at h
  · cases h
  · rename_i spec hspec
    split at h
    · -- the first round of a new task
      rename_i hinit
      split at h
      · cases h
      · rename_i startTime hstart
        simp only [Except.ok.injEq, Prod.mk.injEq, Option.some.injEq] at h
        exact Or.inr ⟨spec, hspec, Or.inl ⟨hinit, startTime, hstart, h.2.symm⟩⟩
    · split at h
      · rename_i d e r rest hd he hh
        split at h
        · simp at h
        · rename_i hde
          suffices H : new = old ∨
              (r.status = .notstarted ∧
                new = { old with history := { r with status := .ongoing } :: rest }) ∨
              (r.status = .ongoing ∧ ∃ deadline closed eagerNext,
                updateRoundFinalStatus input.it cfg.podNamespace input.podMatchLabel input.podList
                  input.now old deadline = (.ok true, closed) ∧
                addNewRoundRecord cfg (newSchedule parse spec) eagerNext plan input.now
                  r.startTimeStamp d e closed = .ok new) by
            rcases H with H | H
            · exact Or.inl H
            · exact Or.inr ⟨spec, hspec, Or.inr ⟨d, e, r, rest, hd, he, hde, hh, H⟩⟩
          split at h
          · -- inside the round window
            split at h
            · rename_i hst
              simp only [Except.ok.injEq, Prod.mk.injEq, Option.some.injEq] at h
              exact Or.inr (Or.inl ⟨hst, h.2.symm⟩)
            · rename_i hst
              split at h
              · cases h
              · rename_i closed hf
                split at h
                · cases h
                · rename_i next ha
                  simp only [Except.ok.injEq, Prod.mk.injEq, Option.some.injEq] at h
                  exact Or.inr (Or.inr ⟨hst, false, closed, true, hf, h.2 ▸ ha⟩)
              · rename_i same hf
                simp only [Except.ok.injEq, Prod.mk.injEq, Option.some.injEq] at h
                have hsame := (updateRoundFinalStatus_snd_or old false).resolve_right
                  (by rw [hf]; simp)
                rw [hf] at hsame
                exact Or.inl (h.2 ▸ hsame)
            · simp only [Except.ok.injEq, Prod.mk.injEq, Option.some.injEq] at h
              exact Or.inl h.2.symm
          · split at h
            · -- before the start or after the deadline (the finished test cannot hold here)
              split at h
              · rename_i hst
                split at h
                · cases h
                · rename_i b closed hf
                  have hb : b = true := updateRoundFinalStatus_deadline (by rw [hf])
                  subst hb
                  split at h
                  · cases h
                  · rename_i next ha
                    simp only [Except.ok.injEq, Prod.mk.injEq, Option.some.injEq] at h
                    exact Or.inr (Or.inr ⟨hst, true, closed, false, hf, h.2 ▸ ha⟩)
              · simp only [Except.ok.injEq, Prod.mk.injEq, Option.some.injEq] at h
                exact Or.inl h.2.symm
            · simp only [Except.ok.injEq, Prod.mk.injEq, Option.some.injEq] at h
              exact Or.inl h.2.symm
      · cases h

/-- What a status written by `UpdateStatus` can be: the status it read, the
first round of a new task, the latest round started, or the latest round
closed and followed by `addNewRoundRecord`. -/
theorem updateStatus_cases {cfg : ControllerConfig} {parse : String → Option (Int → Int)}
    {input : ControllerInput} {old : TaskStatus} {plan : SchedulePlan} {res : Option Result}
    {new : TaskStatus}
    (h : updateStatus cfg parse input old plan = .ok (res, some new)) :
    new = old ∨
    ((old.expectedRound = none ∨ old.history = []) ∧ ∃ startTime,
      new = { old with
        doneRound := some 0
        expectedRound := some plan.roundNumber
        history := old.history ++ [newStatusHistoryRecord startTime 1 plan] }) ∨
    ∃ d e r rest, old.doneRound = some d ∧ old.expectedRound = some e ∧ d ≠ e ∧
      old.history = r :: rest ∧
      ((r.status = .notstarted ∧
          new = { old with history := { r with status := .ongoing } :: rest }) ∨
       (r.status = .ongoing ∧ ∃ deadline closed scheduler eagerNext,
          updateRoundFinalStatus input.it cfg.podNamespace input.podMatchLabel input.podList
            input.now old deadline = (.ok true, closed) ∧
          addNewRoundRecord cfg scheduler eagerNext plan input.now r.startTimeStamp d e closed =
            .ok new)) := by
  rcases updateStatus_cases_schedule h with
    rfl | ⟨spec, -, ⟨hinit, startTime, -, rfl⟩ | ⟨d, e, r, rest, hd, he, hde, hh, hcase⟩⟩
  · exact Or.inl rfl
  · exact Or.inr (Or.inl ⟨hinit, startTime, rfl⟩)
  · refine Or.inr (Or.inr ⟨d, e, r, rest, hd, he, hde, hh, ?_⟩)
    rcases hcase with hcase | ⟨hst, deadline, closed, eagerNext, hf, ha⟩
    · exact Or.inl hcase
    · exact Or.inr ⟨hst, deadline, closed, _, eagerNext, hf, ha⟩

end KDoctor.PluginManager
