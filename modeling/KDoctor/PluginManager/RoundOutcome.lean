import KDoctor.PluginManager.ControllerTools

/-!
The outcome of a round as `UpdateRoundFinalStatus` decides it.

For an ongoing latest record, `updateRoundFinalStatus` takes one of four
paths: before the deadline with no report yet it waits and does not list the
runtime pods; a listing that fails or finds no pod is an error; before the
deadline it waits while a pod node has not reported; and else it closes the
record with `closeRecord`. `RoundClosed` says what the closed record holds,
and `updateRoundFinalStatus_outcome` puts the four paths together for a
record as `NewStatusHistoryRecord` creates it, with no node listed as not
reporting. A record that already lists such nodes keeps them when the round
succeeds (`closeRecord` sets the list only on failure).
-/

namespace KDoctor.PluginManager

open Crd Go

/-- The record `r'` that closes the ongoing record `r` of a round whose runtime
pods run on the nodes `items`. -/
structure RoundClosed (r r' : StatusHistoryRecord) (items : List String) : Prop where
  roundNumber_eq : r'.roundNumber = r.roundNumber
  succeed_eq : r'.succeedAgentNodeList = r.succeedAgentNodeList
  failed_eq : r'.failedAgentNodeList = r.failedAgentNodeList
  notReport_nodup : r'.notReportAgentNodeList.Nodup
  mem_notReport : ∀ x, x ∈ r'.notReportAgentNodeList ↔
    x ∈ items ∧ x ∉ r.succeedAgentNodeList ++ r.failedAgentNodeList
  status_eq : r'.status =
    if r.failedAgentNodeList = [] ∧ r'.notReportAgentNodeList = [] then .succeed else .fail
  failureReason_eq : r'.status = .fail → r'.failureReason =
    if r.failedAgentNodeList ≠ [] then "some agents failed" else "some agents did not report"
  expectedActorNumber_eq : r'.expectedActorNumber =
    some ((r.succeedAgentNodeList ++ r.failedAgentNodeList).length +
      r'.notReportAgentNodeList.length)

/-! ## Closing a record -/

section Close

variable {now : Int} {r : StatusHistoryRecord} {u : List String}

/-- A record with no node listed as not reporting is closed with the nodes
that did not report. -/
theorem closeRecord_notReport (hfresh : r.notReportAgentNodeList = []) :
    (closeRecord now r u).notReportAgentNodeList = u := by
  unfold closeRecord
  split
  · rfl
  · rename_i hok
    simp only [not_or, ne_eq, not_not] at hok
    rw [hfresh, hok.1]

theorem closeRecord_failureReason (hfail : (closeRecord now r u).status = .fail) :
    (closeRecord now r u).failureReason =
      if r.failedAgentNodeList ≠ [] then "some agents failed" else "some agents did not report" := by
  rw [closeRecord_status] at hfail
  unfold closeRecord
  split
  · rename_i hbad
    by_cases hf : r.failedAgentNodeList = []
    · have hu : u ≠ [] := by simpa [hf] using hbad
      simp [hf, hu]
    · simp [hf]
  · rename_i hok
    simp [hok] at hfail

theorem closeRecord_expectedActorNumber :
    (closeRecord now r u).expectedActorNumber =
      some ((r.succeedAgentNodeList ++ r.failedAgentNodeList).length + u.length) := by
  unfold closeRecord
  split <;> rfl

/-- The record closed with the nodes that did not report, as a listing of
the pods on `items` finds them. -/
theorem roundClosed_closeRecord {it : Iteration String} {podNamespace podMatchLabel : String}
    {items : List String} (hfresh : r.notReportAgentNodeList = [])
    (hpods : getSpiderAgentNodeNotInRecord it podNamespace podMatchLabel
      (r.succeedAgentNodeList ++ r.failedAgentNodeList) (.ok items) = .ok u) :
    RoundClosed r (closeRecord now r u) items := by
  obtain ⟨hnodup, hmem⟩ := getSpiderAgentNodeNotInRecord_spec hpods
  have hnot : (closeRecord now r u).notReportAgentNodeList = u := closeRecord_notReport hfresh
  refine ⟨closeRecord_roundNumber now r u, closeRecord_succeedAgentNodeList now r u,
    closeRecord_failedAgentNodeList now r u, by rw [hnot]; exact hnodup,
    fun x => by rw [hnot]; exact hmem x, ?_,
    closeRecord_failureReason, by rw [closeRecord_expectedActorNumber, hnot]⟩
  rw [closeRecord_status, hnot]
  by_cases hu : u = [] <;> by_cases hf : r.failedAgentNodeList = [] <;> simp [hu, hf]

end Close

/-! ## The four paths -/

section Paths

variable {it : Iteration String} {podNamespace podMatchLabel : String}
  {podList : Except String (List String)} {now : Int} {st : TaskStatus}
  {r : StatusHistoryRecord} {rest : List StatusHistoryRecord}

/-- Before the deadline and with no report, the round goes on. -/
theorem updateRoundFinalStatus_unreported (hh : st.history = r :: rest)
    (hr : r.status = .ongoing) (hs : r.succeedAgentNodeList = [])
    (hf : r.failedAgentNodeList = []) :
    updateRoundFinalStatus it podNamespace podMatchLabel podList now st false = (.ok false, st) := by
  unfold updateRoundFinalStatus
  simp [hh, hr, hs, hf]

/-- Once the pods are listed, a failed listing is an error. -/
theorem updateRoundFinalStatus_listing_error {deadline : Bool} {err : String}
    (hh : st.history = r :: rest) (hr : r.status = .ongoing)
    (hreport : deadline = true ∨ r.succeedAgentNodeList ++ r.failedAgentNodeList ≠ [])
    (hpods : getSpiderAgentNodeNotInRecord it podNamespace podMatchLabel
      (r.succeedAgentNodeList ++ r.failedAgentNodeList) podList = .error err) :
    updateRoundFinalStatus it podNamespace podMatchLabel podList now st deadline =
      (.error err, st) := by
  have hgo : ¬((!deadline) = true ∧ r.succeedAgentNodeList = [] ∧
      r.failedAgentNodeList = []) := by
    cases deadline <;> simp_all
  unfold updateRoundFinalStatus
  simp only [hh, hr, reduceCtorEq, or_self, if_false, hgo, hpods]

/-- Before the deadline, a pod node that has not reported keeps the round going. -/
theorem updateRoundFinalStatus_waiting {u : List String} (hh : st.history = r :: rest)
    (hr : r.status = .ongoing) (hreport : r.succeedAgentNodeList ++ r.failedAgentNodeList ≠ [])
    (hpods : getSpiderAgentNodeNotInRecord it podNamespace podMatchLabel
      (r.succeedAgentNodeList ++ r.failedAgentNodeList) podList = .ok u) (hu : u ≠ []) :
    updateRoundFinalStatus it podNamespace podMatchLabel podList now st false = (.ok false, st) := by
  have hgo : ¬(r.succeedAgentNodeList = [] ∧ r.failedAgentNodeList = []) := by simpa using hreport
  unfold updateRoundFinalStatus
  simp only [hh, hr, reduceCtorEq, or_self, if_false, Bool.not_false, true_and, hgo, hpods, ne_eq,
    hu, not_false_eq_true, and_true, if_true]

/-- At the deadline, or once every pod node has reported, the record is closed. -/
theorem updateRoundFinalStatus_closing {deadline : Bool} {u : List String}
    (hh : st.history = r :: rest) (hr : r.status = .ongoing)
    (hreport : deadline = true ∨ r.succeedAgentNodeList ++ r.failedAgentNodeList ≠ [])
    (hpods : getSpiderAgentNodeNotInRecord it podNamespace podMatchLabel
      (r.succeedAgentNodeList ++ r.failedAgentNodeList) podList = .ok u)
    (hdone : deadline = true ∨ u = []) :
    updateRoundFinalStatus it podNamespace podMatchLabel podList now st deadline =
      (.ok true, { st with
        history := closeRecord now r u :: rest
        lastRoundStatus := some (closeRecord now r u).status }) := by
  have hgo : ¬((!deadline) = true ∧ r.succeedAgentNodeList = [] ∧
      r.failedAgentNodeList = []) := by
    cases deadline <;> simp_all
  have hclose : ¬(u ≠ [] ∧ (!deadline) = true) := by
    cases deadline <;> simp_all
  unfold updateRoundFinalStatus
  simp only [hh, hr, reduceCtorEq, or_self, if_false, hgo, hpods, hclose]

end Paths

/-- **Round outcome.** For an ongoing latest record that lists each reporting
node once and no node as not reporting: before the deadline and with no
report, `UpdateRoundFinalStatus` waits without listing the pods; otherwise a
failed or empty listing is an error that leaves the status as it was, before
the deadline it waits while a pod node has not reported, and else it closes
the record with the pod nodes that did not report, each once, as `succeed`
exactly when no node failed and every pod node reported. -/
theorem updateRoundFinalStatus_outcome (it : Iteration String)
    (podNamespace podMatchLabel : String) (podList : Except String (List String)) (now : Int)
    (deadline : Bool) {st : TaskStatus} {r : StatusHistoryRecord}
    {rest : List StatusHistoryRecord} (hh : st.history = r :: rest) (hr : r.status = .ongoing)
    (hfresh : r.notReportAgentNodeList = []) :
    (deadline = false → r.succeedAgentNodeList ++ r.failedAgentNodeList = [] →
      updateRoundFinalStatus it podNamespace podMatchLabel podList now st deadline =
        (.ok false, st)) ∧
    ((deadline = true ∨ r.succeedAgentNodeList ++ r.failedAgentNodeList ≠ []) →
      (∀ err, podList = .error err →
        updateRoundFinalStatus it podNamespace podMatchLabel podList now st deadline =
          (.error err, st)) ∧
      (podList = .ok [] →
        updateRoundFinalStatus it podNamespace podMatchLabel podList now st deadline =
          (.error ("failed to find agent node with matchLabels '" ++ podMatchLabel ++
            "' namespace '" ++ podNamespace ++ "'"), st)) ∧
      (∀ items, podList = .ok items → items ≠ [] →
        (deadline = false → (∃ x ∈ items, x ∉ r.succeedAgentNodeList ++ r.failedAgentNodeList) →
          updateRoundFinalStatus it podNamespace podMatchLabel podList now st deadline =
            (.ok false, st)) ∧
        ((deadline = true ∨ ∀ x ∈ items, x ∈ r.succeedAgentNodeList ++ r.failedAgentNodeList) →
          ∃ r', updateRoundFinalStatus it podNamespace podMatchLabel podList now st deadline =
              (.ok true, { st with history := r' :: rest, lastRoundStatus := some r'.status }) ∧
            RoundClosed r r' items))) := by
  refine ⟨?_, fun hreport => ⟨?_, ?_, ?_⟩⟩
  · intro hd hnone
    subst hd
    simp only [List.append_eq_nil_iff] at hnone
    exact updateRoundFinalStatus_unreported hh hr hnone.1 hnone.2
  · rintro err rfl
    exact updateRoundFinalStatus_listing_error hh hr hreport rfl
  · rintro rfl
    exact updateRoundFinalStatus_listing_error hh hr hreport rfl
  · rintro items rfl hitems
    -- the nodes that did not report, as the listing finds them
    have hpods : getSpiderAgentNodeNotInRecord it podNamespace podMatchLabel
        (r.succeedAgentNodeList ++ r.failedAgentNodeList) (.ok items) =
        .ok ((removeDuplicates it items).filter
          fun s => !(r.succeedAgentNodeList ++ r.failedAgentNodeList).contains s) := by
      simp [getSpiderAgentNodeNotInRecord, hitems]
    obtain ⟨-, hmem⟩ := getSpiderAgentNodeNotInRecord_spec hpods
    refine ⟨fun hd ⟨x, hx, hnot⟩ => ?_, fun hdone => ?_⟩
    · subst hd
      have hreport' : r.succeedAgentNodeList ++ r.failedAgentNodeList ≠ [] := by simpa using hreport
      refine updateRoundFinalStatus_waiting hh hr hreport' hpods ?_
      exact List.ne_nil_of_mem ((hmem x).mpr ⟨hx, hnot⟩)
    · refine ⟨_, updateRoundFinalStatus_closing hh hr hreport hpods ?_,
        roundClosed_closeRecord hfresh hpods⟩
      rcases hdone with hd | hall
      · exact Or.inl hd
      · refine Or.inr (List.eq_nil_iff_forall_not_mem.mpr fun x hx => ?_)
        obtain ⟨hx, hnot⟩ := (hmem x).mp hx
        exact hnot (hall x hx)

/-- At the deadline, two agent pods on `node1` that reported and one on
`node2` that did not: the round is closed as failed, `node2` not reporting. -/
theorem updateRoundFinalStatus_outcome_deadline :
    ∃ r', updateRoundFinalStatus (Iteration.inOrder String) "kdoctor" "map[app:agent]"
        (.ok ["node1", "node1", "node2"]) 0
        { history := [{ newStatusHistoryRecord 0 1 ⟨some "0 60", 60, 1⟩ with
          status := .ongoing
          succeedAgentNodeList := ["node1"] }] } true =
      (.ok true, { history := [r'], lastRoundStatus := some r'.status }) ∧
    RoundClosed { newStatusHistoryRecord 0 1 ⟨some "0 60", 60, 1⟩ with
        status := .ongoing
        succeedAgentNodeList := ["node1"] } r' ["node1", "node1", "node2"] :=
  (((updateRoundFinalStatus_outcome (Iteration.inOrder String) "kdoctor" "map[app:agent]"
    (.ok ["node1", "node1", "node2"]) 0 true
    (show ({ history := [{ newStatusHistoryRecord 0 1 ⟨some "0 60", 60, 1⟩ with
          status := .ongoing
          succeedAgentNodeList := ["node1"] }] } : TaskStatus).history =
        [{ newStatusHistoryRecord 0 1 ⟨some "0 60", 60, 1⟩ with
          status := .ongoing
          succeedAgentNodeList := ["node1"] }] from rfl) rfl rfl).2
    (Or.inl rfl)).2.2 _ rfl (by simp)).2 (Or.inl rfl)

/-- `updateRoundFinalStatus` lists the pods only once the round is due or
some agent has reported, so before the deadline and with no report a failed
listing is no error and the status stays as it was; and it fills
`NotReportAgentNodeList` only on failure, so a record that already lists a
node as not reporting keeps that node when the round succeeds. -/
theorem updateRoundFinalStatus_outcome_counterexample :
    updateRoundFinalStatus (Iteration.inOrder String) "kdoctor" "map[app:agent]"
        (.error "connection refused") 0
        { history := [{ newStatusHistoryRecord 0 1 ⟨some "0 60", 60, 1⟩ with
          status := .ongoing }] } false =
      (.ok false, { history := [{ newStatusHistoryRecord 0 1 ⟨some "0 60", 60, 1⟩ with
          status := .ongoing }] }) ∧
    (updateRoundFinalStatus (Iteration.inOrder String) "kdoctor" "map[app:agent]"
        (.ok ["node1"]) 0
        { history := [{ newStatusHistoryRecord 0 1 ⟨some "0 60", 60, 1⟩ with
          status := .ongoing
          succeedAgentNodeList := ["node1"]
          notReportAgentNodeList := ["node2"] }] } false).2.history.map
      (fun r => (r.status, r.notReportAgentNodeList)) = [(.succeed, ["node2"])] := by
  constructor <;> rfl

end KDoctor.PluginManager
