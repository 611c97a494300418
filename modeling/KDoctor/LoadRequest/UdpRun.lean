import KDoctor.LoadRequest.Work
import KDoctor.Connexus.Pool

/-!
A UDP run of `loadDns` with the pool it takes its connections from: the
goroutines of `Work.Run` (`LoadRequest.Work`) and the connexus pool
(`Connexus.Pool`) as one system (`dns_requester.go`).

Over UDP, `makeRequest` calls `b.pool.Get()`. Without a connection it puts its
token back. With one it sends its query on it, sends the result, and then runs
its deferred `conn.Close()` before its deferred `wg.Done()`. `runWorker` calls
`b.pool.Close()` after `wg.Wait()` and before it returns to `Finish`. Which
goroutine moves next is free, and so are the clock, the `inducer`, the dials
and the answers.

The run refines both models (`udpRun_refines`): its goroutines take steps of
`Work`, with the pool's answer where `Work` leaves it free, and its pool takes
steps of the pool and its users; every connection a user holds is held by a
request that is out on its query or has still to close it. So at most
`min QPS MaxIdleConnectCount` queries are out at once, the pool is closed only
once every request has returned, and no connection is left open when `Run`
returns (`udpRun_connections`).

The pool is also what makes a run hang where the DNS server answers every
dial and every query (`udpRun_hangs`). In a load test of three seconds or
more, the worker can take the stop signal while every connection is out on a
query; the requests that then find none put their tokens back, and `QPS + 1`
of them fill the bucket that nobody empties any more.
-/

namespace KDoctor.LoadRequest

open Connexus Transition Relation

/-! ## The run -/

/-- A UDP run of `loadDns`: the goroutines of `Run`, the pool and its users,
how many request goroutines have sent their result and still hold their
connection, and whether `runWorker` has closed the pool. -/
structure UdpRun where
  work : Work LoadDns.Result
  pool : PoolState
  closing : Nat
  poolClosed : Bool

/-- The run when `Run` starts, with the pool `InitPool` built, whose dials
named their connections below `QPS`. -/
def UdpRun.start (cp : ConnexPool) (now : Int) (qps : Nat) : UdpRun :=
  ⟨Work.init, PoolState.start cp now qps, 0, false⟩

/-- What can happen next in a UDP run. -/
inductive UdpAction
  /-- a goroutine of `Run` moves as in `Work` -/
  | run (a : Action LoadDns.Result)
  /-- a request calls `b.pool.Get()`; if the pool dials, the dial succeeds or fails -/
  | get (dial : Except String Unit)
  /-- a request that sent its result closes the `k`-th held connection -/
  | closeConn (k : Nat)
  /-- `runWorker` calls `b.pool.Close()` -/
  | closePool
  /-- the clock moves on to `t` -/
  | tick (t : Int)
  /-- the pool's `inducer` sorts its idle connections -/
  | induce (sorted : Array Connex)

/-- What a request does with the answer of `Get`: send its query on the
connection, or put its token back. -/
def afterGet (answer : Except String Connex) : Action LoadDns.Result :=
  match answer with
  | .ok _ => .exchange
  | .error _ => .noConn

/-- One step of a UDP run. -/
def udpStep (rate : LoadRate) (a : UdpAction) (s : UdpRun) : Option UdpRun :=
  -- a panic of any goroutine ends the program
  if s.work.panic.isSome ∨ s.pool.panic.isSome then none else
  match a with
  -- a request leaves its `Get` only through `get`
  | .run .noConn => none
  | .run .exchange => none
  | .run (.sendResult res) =>
    -- the result is sent with the connection still held
    (step (LoadDns.workConfig rate "udp") (.sendResult res) s.work).map
      fun w => { s with work := w, closing := s.closing + 1 }
  | .run .waited =>
    -- the wait group also counts the requests that have not closed their connection
    if s.closing = 0 then
      (step (LoadDns.workConfig rate "udp") .waited s.work).map fun w => { s with work := w }
    else none
  | .run .closeResults =>
    -- `Finish` starts once `runWorker` has closed the pool
    if s.poolClosed then
      (step (LoadDns.workConfig rate "udp") .closeResults s.work).map fun w => { s with work := w }
    else none
  | .run a => (step (LoadDns.workConfig rate "udp") a s.work).map fun w => { s with work := w }
  | .get dial =>
    (step (LoadDns.workConfig rate "udp")
        (afterGet (s.pool.pool.get s.pool.now (dial.map fun _ => s.pool.nextConn)).2) s.work).bind
      fun w => (poolStep (.get dial) s.pool).map fun p => { s with work := w, pool := p }
  | .closeConn k =>
    if 0 < s.closing then
      (poolStep (.close k) s.pool).map fun p => { s with pool := p, closing := s.closing - 1 }
    else none
  | .closePool =>
    if s.work.worker = .closeResults ∧ s.poolClosed = false then
      (poolStep .closePool s.pool).map fun p => { s with pool := p, poolClosed := true }
    else none
  | .tick t => (poolStep (.tick t) s.pool).map fun p => { s with pool := p }
  | .induce sorted => (poolStep (.induce sorted) s.pool).map fun p => { s with pool := p }

/-- Some goroutine, the clock or the `inducer` takes a step. -/
def UdpStep (rate : LoadRate) (s s' : UdpRun) : Prop := ∃ a, udpStep rate a s = some s'

/-- The steps of `Run`'s goroutines the pool has no part in: all but a
request's `Get` and result, the wait group's wait and the start of `Finish`. -/
def Action.poolFree {α : Type} : Action α → Bool
  | .noConn | .exchange | .sendResult _ | .waited | .closeResults => false
  | _ => true

/-! ## What each step does -/

section Steps

variable {rate : LoadRate} {s s' : UdpRun}

theorem udpStep_poolFree {a : Action LoadDns.Result} (ha : a.poolFree = true) :
    udpStep rate (.run a) s = some s' ↔ s.pool.panic = none ∧
      ∃ w, step (LoadDns.workConfig rate "udp") a s.work = some w ∧ s' = { s with work := w } := by
  unfold udpStep
  rcases hw : s.work.panic with _ | e
  · rcases hp : s.pool.panic with _ | e'
    · cases a <;> simp_all [Action.poolFree, eq_comm]
    · simp
  · simp [step, hw]

theorem udpStep_sendResult {res : LoadDns.Result} :
    udpStep rate (.run (.sendResult res)) s = some s' ↔ s.pool.panic = none ∧
      ∃ w, step (LoadDns.workConfig rate "udp") (.sendResult res) s.work = some w ∧
        s' = { s with work := w, closing := s.closing + 1 } := by
  unfold udpStep
  rcases hw : s.work.panic with _ | e
  · rcases hp : s.pool.panic with _ | e' <;> simp [eq_comm]
  · simp [step, hw]

theorem udpStep_waited :
    udpStep rate (.run .waited) s = some s' ↔ s.pool.panic = none ∧ s.closing = 0 ∧
      ∃ w, step (LoadDns.workConfig rate "udp") .waited s.work = some w ∧ s' = { s with work := w } := by
  unfold udpStep
  rcases hw : s.work.panic with _ | e
  · rcases hp : s.pool.panic with _ | e' <;> by_cases hc : s.closing = 0 <;> simp [hc, eq_comm]
  · simp [step, hw]

theorem udpStep_closeResults :
    udpStep rate (.run .closeResults) s = some s' ↔ s.pool.panic = none ∧ s.poolClosed = true ∧
      ∃ w, step (LoadDns.workConfig rate "udp") .closeResults s.work = some w ∧
        s' = { s with work := w } := by
  unfold udpStep
  rcases hw : s.work.panic with _ | e
  · rcases hp : s.pool.panic with _ | e' <;> cases hc : s.poolClosed <;> simp [eq_comm]
  · simp [step, hw]

theorem udpStep_noConn : udpStep rate (.run .noConn) s = none := by
  unfold udpStep
  split_ifs <;> rfl

theorem udpStep_exchange : udpStep rate (.run .exchange) s = none := by
  unfold udpStep
  split_ifs <;> rfl

theorem udpStep_get {dial : Except String Unit} :
    udpStep rate (.get dial) s = some s' ↔ ∃ w p,
      step (LoadDns.workConfig rate "udp")
          (afterGet (s.pool.pool.get s.pool.now (dial.map fun _ => s.pool.nextConn)).2) s.work = some w ∧
        poolStep (.get dial) s.pool = some p ∧ s' = { s with work := w, pool := p } := by
  unfold udpStep
  rcases hw : s.work.panic with _ | e
  · rcases hp : s.pool.panic with _ | e'
    · simp only [Option.isSome_none, Bool.false_eq_true, or_self, if_false, Option.bind_eq_some_iff,
        Option.map_eq_some_iff]
      exact ⟨fun ⟨w, hw, p, hp, he⟩ => ⟨w, p, hw, hp, he.symm⟩,
        fun ⟨w, p, hw, hp, he⟩ => ⟨w, hw, p, hp, he.symm⟩⟩
    · simp [poolStep, hp]
  · simp [step, hw]

theorem udpStep_closeConn {k : Nat} :
    udpStep rate (.closeConn k) s = some s' ↔ s.work.panic = none ∧ 0 < s.closing ∧
      ∃ p, poolStep (.close k) s.pool = some p ∧ s' = { s with pool := p, closing := s.closing - 1 } := by
  unfold udpStep
  rcases hw : s.work.panic with _ | e
  · rcases hp : s.pool.panic with _ | e'
    · by_cases hc : 0 < s.closing <;> simp [hc, eq_comm]
    · simp [poolStep, hp]
  · simp

theorem udpStep_closePool :
    udpStep rate .closePool s = some s' ↔ s.work.panic = none ∧ s.work.worker = .closeResults ∧
      s.poolClosed = false ∧
      ∃ p, poolStep .closePool s.pool = some p ∧ s' = { s with pool := p, poolClosed := true } := by
  unfold udpStep
  rcases hw : s.work.panic with _ | e
  · rcases hp : s.pool.panic with _ | e'
    · by_cases hwk : s.work.worker = .closeResults <;> cases hc : s.poolClosed <;> simp [hwk, eq_comm]
    · simp [poolStep, hp]
  · simp

theorem udpStep_tick {t : Int} :
    udpStep rate (.tick t) s = some s' ↔ s.work.panic = none ∧
      ∃ p, poolStep (.tick t) s.pool = some p ∧ s' = { s with pool := p } := by
  unfold udpStep
  rcases hw : s.work.panic with _ | e
  · rcases hp : s.pool.panic with _ | e'
    · simp [eq_comm]
    · simp [poolStep, hp]
  · simp

theorem udpStep_induce {sorted : Array Connex} :
    udpStep rate (.induce sorted) s = some s' ↔ s.work.panic = none ∧
      ∃ p, poolStep (.induce sorted) s.pool = some p ∧ s' = { s with pool := p } := by
  unfold udpStep
  rcases hw : s.work.panic with _ | e
  · rcases hp : s.pool.panic with _ | e'
    · simp [eq_comm]
    · simp [poolStep, hp]
  · simp

end Steps

/-! ## The run refines `Work` and the pool -/

section Refinement

variable {rate : LoadRate} {s s' : UdpRun}

/-- Each step of the run is a step of `Work`, or leaves `Work` alone. -/
theorem udpStep_work {a : UdpAction} (h : udpStep rate a s = some s') :
    Step (LoadDns.workConfig rate "udp") s.work s'.work ∨ s'.work = s.work := by
  cases a with
  | run b =>
    cases b with
    | noConn => rw [udpStep_noConn] at h; cases h
    | exchange => rw [udpStep_exchange] at h; cases h
    | sendResult res =>
      obtain ⟨-, w, hw, rfl⟩ := udpStep_sendResult.mp h
      exact .inl ⟨_, hw⟩
    | waited =>
      obtain ⟨-, -, w, hw, rfl⟩ := udpStep_waited.mp h
      exact .inl ⟨_, hw⟩
    | closeResults =>
      obtain ⟨-, -, w, hw, rfl⟩ := udpStep_closeResults.mp h
      exact .inl ⟨_, hw⟩
    | _ =>
      obtain ⟨-, w, hw, rfl⟩ := (udpStep_poolFree rfl).mp h
      exact .inl ⟨_, hw⟩
  | get dial =>
    -- `Get`'s answer decides which step of `Work` the request takes
    obtain ⟨w, p, hw, -, rfl⟩ := udpStep_get.mp h
    exact .inl ⟨_, hw⟩
  | closeConn k =>
    obtain ⟨-, -, p, -, rfl⟩ := udpStep_closeConn.mp h
    exact .inr rfl
  | closePool =>
    obtain ⟨-, -, -, p, -, rfl⟩ := udpStep_closePool.mp h
    exact .inr rfl
  | tick t =>
    obtain ⟨-, p, -, rfl⟩ := udpStep_tick.mp h
    exact .inr rfl
  | induce sorted =>
    obtain ⟨-, p, -, rfl⟩ := udpStep_induce.mp h
    exact .inr rfl

/-- Each step of the run is a step of the pool and its users, or leaves them
alone. -/
theorem udpStep_pool {a : UdpAction} (h : udpStep rate a s = some s') :
    PoolStep s.pool s'.pool ∨ s'.pool = s.pool := by
  cases a with
  | run b =>
    cases b with
    | noConn => rw [udpStep_noConn] at h; cases h
    | exchange => rw [udpStep_exchange] at h; cases h
    | sendResult res =>
      obtain ⟨-, w, -, rfl⟩ := udpStep_sendResult.mp h
      exact .inr rfl
    | waited =>
      obtain ⟨-, -, w, -, rfl⟩ := udpStep_waited.mp h
      exact .inr rfl
    | closeResults =>
      obtain ⟨-, -, w, -, rfl⟩ := udpStep_closeResults.mp h
      exact .inr rfl
    | _ =>
      obtain ⟨-, w, -, rfl⟩ := (udpStep_poolFree rfl).mp h
      exact .inr rfl
  | get dial =>
    obtain ⟨w, p, -, hp, rfl⟩ := udpStep_get.mp h
    exact .inl ⟨_, hp⟩
  | closeConn k =>
    obtain ⟨-, -, p, hp, rfl⟩ := udpStep_closeConn.mp h
    exact .inl ⟨_, hp⟩
  | closePool =>
    obtain ⟨-, -, -, p, hp, rfl⟩ := udpStep_closePool.mp h
    exact .inl ⟨_, hp⟩
  | tick t =>
    obtain ⟨-, p, hp, rfl⟩ := udpStep_tick.mp h
    exact .inl ⟨_, hp⟩
  | induce sorted =>
    obtain ⟨-, p, hp, rfl⟩ := udpStep_induce.mp h
    exact .inl ⟨_, hp⟩

/-- A run of the whole is a run of `Work`. -/
theorem UdpStep.run_work (hr : ReflTransGen (UdpStep rate) s s') :
    ReflTransGen (Step (LoadDns.workConfig rate "udp")) s.work s'.work :=
  ReflTransGen.lift' UdpRun.work
    (fun s₁ s₂ ⟨_, h⟩ => (udpStep_work h).elim ReflTransGen.single fun he => by
      show ReflTransGen _ s₁.work s₂.work
      rw [he]) _ _ hr

/-- A run of the whole is a run of the pool and its users. -/
theorem UdpStep.run_pool (hr : ReflTransGen (UdpStep rate) s s') : ReflTransGen PoolStep s.pool s'.pool :=
  ReflTransGen.lift' UdpRun.pool
    (fun s₁ s₂ ⟨_, h⟩ => (udpStep_pool h).elim ReflTransGen.single fun he => by
      show ReflTransGen _ s₁.pool s₂.pool
      rw [he]) _ _ hr

end Refinement

/-! ## The invariant of a run -/

/-- What every reachable state of a UDP run keeps, beyond what `Work` and the
pool keep on their own. -/
structure UdpInv (s : UdpRun) : Prop where
  /-- each connection a user holds is held by a request out on its query or
  about to close it -/
  held : s.pool.held.length = s.work.exchanging + s.closing
  /-- after the wait group's wait no request holds a connection -/
  closing : 2 ≤ s.work.worker.rank → s.closing = 0
  /-- only `runWorker` closes the pool -/
  poolClosed : s.pool.pool.freeConn = none ↔ s.poolClosed = true
  /-- and it does so after the wait and before `Finish` -/
  closed_rank : s.poolClosed = true → 2 ≤ s.work.worker.rank
  finished : 3 ≤ s.work.worker.rank → s.poolClosed = true

theorem udpInv_start {qps : Nat} {ok : Nat → Bool} {now : Int} {cp : ConnexPool}
    (hnew : LoadDns.initPool qps ok now = .ok cp) : UdpInv (UdpRun.start cp now qps) where
  held := rfl
  closing _ := rfl
  poolClosed := by
    -- `InitPool` leaves the pool open
    obtain ⟨cp', h', ⟨free, hf⟩, -⟩ := LoadDns.initPool_eq_ok qps ok now
    rw [hnew] at h'
    cases h'
    simp [UdpRun.start, PoolState.start, hf]
  closed_rank h := by cases h
  finished h := by simp [UdpRun.start, Work.init, WorkerPc.rank] at h

namespace UdpInv

variable {rate : LoadRate} {s s' : UdpRun} (hinv : UdpInv s)
include hinv

theorem poolFree {a : Action LoadDns.Result} (ha : a.poolFree = true) (h : udpStep rate (.run a) s = some s') :
    UdpInv s' := by
  obtain ⟨-, w, hstep, rfl⟩ := (udpStep_poolFree ha).mp h
  -- neither a request's exchange nor its result: the requests out on a query stay
  have hx : w.exchanging = s.work.exchanging :=
    step_exchanging hstep (by rintro rfl; simp [Action.poolFree] at ha)
      (by rintro res rfl; simp [Action.poolFree] at ha)
  have hle := step_rank_le hstep
  refine ⟨?_, fun h2 => ?_, hinv.poolClosed, fun hc => le_trans (hinv.closed_rank hc) hle, fun h3 => ?_⟩
  · show s.pool.held.length = w.exchanging + s.closing
    rw [hx]
    exact hinv.held
  · -- nor the wait group's wait, nor the start of `Finish`
    rcases step_rank_two hstep h2 with h2 | rfl
    · exact hinv.closing h2
    · simp [Action.poolFree] at ha
  · rcases step_rank_three hstep h3 with h3 | rfl
    · exact hinv.finished h3
    · simp [Action.poolFree] at ha

theorem sendResult {res : LoadDns.Result} (hw : Inv (LoadDns.workConfig rate "udp") s.work)
    (hw' : Inv (LoadDns.workConfig rate "udp") s'.work) (h : udpStep rate (.run (.sendResult res)) s = some s') :
    UdpInv s' := by
  obtain ⟨-, w, hstep, rfl⟩ := udpStep_sendResult.mp h
  obtain ⟨-, hex, ⟨-, rfl⟩ | ⟨-, -, rfl⟩⟩ := step_sendResult.mp hstep
  · exact hw'.not_crash.elim
  -- a request out on its query keeps the worker before the wait
  have hrank : s.work.worker.rank < 2 := by
    by_contra hr
    have := hw.drained (by omega)
    omega
  refine ⟨?_, fun h2 => absurd h2 (by show ¬ 2 ≤ s.work.worker.rank; omega), hinv.poolClosed,
    hinv.closed_rank, fun h3 => absurd h3 (by show ¬ 3 ≤ s.work.worker.rank; omega)⟩
  show s.pool.held.length = s.work.exchanging - 1 + (s.closing + 1)
  have := hinv.held
  omega

theorem waited (h : udpStep rate (.run .waited) s = some s') : UdpInv s' := by
  obtain ⟨-, hc, w, hstep, rfl⟩ := udpStep_waited.mp h
  obtain ⟨-, -, -, rfl⟩ := step_waited.mp hstep
  exact ⟨hinv.held, fun _ => hc, hinv.poolClosed, fun _ => by simp [WorkerPc.rank],
    fun h3 => by simp [WorkerPc.rank] at h3⟩

theorem closeResults (hw' : Inv (LoadDns.workConfig rate "udp") s'.work)
    (h : udpStep rate (.run .closeResults) s = some s') : UdpInv s' := by
  obtain ⟨-, hpc, w, hstep, rfl⟩ := udpStep_closeResults.mp h
  obtain ⟨-, hwk, ⟨-, rfl⟩ | ⟨-, rfl⟩⟩ := step_closeResults.mp hstep
  · exact hw'.not_crash.elim
  exact ⟨hinv.held, fun _ => hinv.closing (by simp [hwk, WorkerPc.rank]), hinv.poolClosed,
    fun _ => by simp [WorkerPc.rank], fun _ => hpc⟩

theorem get {dial : Except String Unit} (h : udpStep rate (.get dial) s = some s') : UdpInv s' := by
  obtain ⟨w, p, hstep, hpool, rfl⟩ := udpStep_get.mp h
  have hfree := (poolStep_frame hpool).2.2 nofun
  have hp := poolStep_panic hpool
  -- the request goes out on its query exactly when `Get` handed it a connection
  rcases hg : s.pool.pool.get s.pool.now (dial.map fun _ => s.pool.nextConn) with ⟨cp, e | c⟩
  · rw [hg] at hstep
    rw [poolStep_get_error hp hg] at hpool
    cases hpool
    obtain ⟨-, -, -, rfl⟩ := step_noConn.mp hstep
    exact ⟨hinv.held, hinv.closing, hfree.trans hinv.poolClosed, hinv.closed_rank, hinv.finished⟩
  · rw [hg] at hstep
    rw [poolStep_get_ok hp hg] at hpool
    cases hpool
    obtain ⟨-, -, rfl⟩ := step_exchange.mp hstep
    refine ⟨?_, hinv.closing, hfree.trans hinv.poolClosed, hinv.closed_rank, hinv.finished⟩
    show (s.pool.held ++ [c]).length = s.work.exchanging + 1 + s.closing
    rw [List.length_append, List.length_singleton, hinv.held]
    omega

theorem closeConn {k : Nat} (h : udpStep rate (.closeConn k) s = some s') : UdpInv s' := by
  obtain ⟨-, hc, p, hpool, rfl⟩ := udpStep_closeConn.mp h
  have hlen := poolStep_close_held hpool
  have hfree := (poolStep_frame hpool).2.2 nofun
  refine ⟨?_, fun h2 => ?_, hfree.trans hinv.poolClosed, hinv.closed_rank, hinv.finished⟩
  · show p.held.length = s.work.exchanging + (s.closing - 1)
    have := hinv.held
    omega
  · show s.closing - 1 = 0
    have := hinv.closing h2
    omega

theorem closePool (h : udpStep rate .closePool s = some s') : UdpInv s' := by
  obtain ⟨-, hwk, -, p, hpool, rfl⟩ := udpStep_closePool.mp h
  have hheld := poolStep_held_eq hpool (fun _ => nofun) (fun _ => nofun) (fun _ => nofun)
  refine ⟨?_, hinv.closing, ⟨fun _ => rfl, fun _ => poolStep_closePool_freeConn hpool⟩,
    fun _ => by simp [hwk, WorkerPc.rank], fun _ => rfl⟩
  show p.held.length = s.work.exchanging + s.closing
  rw [hheld]
  exact hinv.held

/-- The clock and the `inducer` change neither the connections users hold
nor whether the pool is open. -/
theorem poolOnly {a : PoolAction} {p : PoolState} (hpool : poolStep a s.pool = some p)
    (hg : ∀ dial, a ≠ .get dial) (hc : ∀ k, a ≠ .close k) (hm : ∀ k, a ≠ .markUnusable k)
    (hcp : a ≠ .closePool) : UdpInv { s with pool := p } := by
  have hheld := poolStep_held_eq hpool hg hc hm
  have hfree := (poolStep_frame hpool).2.2 hcp
  refine ⟨?_, hinv.closing, hfree.trans hinv.poolClosed, hinv.closed_rank, hinv.finished⟩
  show p.held.length = s.work.exchanging + s.closing
  rw [hheld]
  exact hinv.held

/-- **Every step keeps the invariant**, given `Work`'s invariant before and
after it. -/
theorem step {a : UdpAction} (hw : Inv (LoadDns.workConfig rate "udp") s.work)
    (hw' : Inv (LoadDns.workConfig rate "udp") s'.work) (h : udpStep rate a s = some s') : UdpInv s' := by
  cases a with
  | run b =>
    cases b with
    | noConn => rw [udpStep_noConn] at h; cases h
    | exchange => rw [udpStep_exchange] at h; cases h
    | sendResult res => exact hinv.sendResult hw hw' h
    | waited => exact hinv.waited h
    | closeResults => exact hinv.closeResults hw' h
    | _ => exact hinv.poolFree rfl h
  | get dial => exact hinv.get h
  | closeConn k => exact hinv.closeConn h
  | closePool => exact hinv.closePool h
  | tick t =>
    obtain ⟨-, p, hpool, rfl⟩ := udpStep_tick.mp h
    exact hinv.poolOnly hpool (fun _ => nofun) (fun _ => nofun) (fun _ => nofun) nofun
  | induce sorted =>
    obtain ⟨-, p, hpool, rfl⟩ := udpStep_induce.mp h
    exact hinv.poolOnly hpool (fun _ => nofun) (fun _ => nofun) (fun _ => nofun) nofun

end UdpInv

section Reachable

variable {rate : LoadRate} {ok : Nat → Bool} {now : Int} {cp : ConnexPool} {s : UdpRun}

theorem reachable_work (h : Reachable (UdpStep rate) (UdpRun.start cp now rate.qps) s) :
    Reachable (Step (LoadDns.workConfig rate "udp")) Work.init s.work :=
  UdpStep.run_work h

theorem reachable_pool (h : Reachable (UdpStep rate) (UdpRun.start cp now rate.qps) s) :
    Reachable PoolStep (PoolState.start cp now rate.qps) s.pool :=
  UdpStep.run_pool h

theorem udpInv_reachable (hnew : LoadDns.initPool rate.qps ok now = .ok cp)
    (h : Reachable (UdpStep rate) (UdpRun.start cp now rate.qps) s) : UdpInv s :=
  Reachable.invariant UdpInv (udpInv_start hnew)
    (fun _ _ hr hinv ⟨_, hs⟩ => hinv.step (inv_reachable (reachable_work hr))
      (inv_reachable (reachable_work (hr.tail ⟨_, hs⟩))) hs) h

/-- A load test of one query a second for three seconds. -/
def threeSeconds : LoadRate := ⟨1, 3, by decide, by decide⟩

/-- The start of its UDP run, with a pool whose one dial failed. -/
def threeSecondsStart : UdpRun := UdpRun.start emptyPool 0 threeSeconds.qps

/-- The run after its first request got a connection that the pool dialled,
sent its answer, with no error after 2 ms, and closed the connection, which
went back to the pool. -/
def threeSecondsAnswered : UdpRun :=
  ⟨{ dealt 1 with starting := 0, results := [⟨none, 2, "NOERROR"⟩] }, returnedState, 0, false⟩

/-- The first token, the worker's start of a request, its `Get`, its result
and its `Close`. -/
theorem reachable_threeSecondsAnswered :
    Reachable (UdpStep threeSeconds) threeSecondsStart threeSecondsAnswered :=
  ((((Reachable.refl.tail ⟨.run .firstToken, rfl⟩).tail ⟨.run .takeToken, rfl⟩).tail
    ⟨.get (.ok ()), rfl⟩).tail ⟨.run (.sendResult ⟨none, 2, "NOERROR"⟩), rfl⟩).tail ⟨.closeConn 0, rfl⟩

/-- **A UDP run refines `Work` and the pool.** Every state that any
interleaving of `Run`'s goroutines, the pool's users, the clock and the
`inducer` reaches from the pool `InitPool` built projects to a state that
`Work` reaches and to one that the pool with its users reaches, so that what
holds of every run of either holds of it; and each connection a user holds
is held by one request, out on its query or about to close it. -/
theorem udpRun_refines (rate : LoadRate) (ok : Nat → Bool) (now : Int) {cp : ConnexPool}
    (hnew : LoadDns.initPool rate.qps ok now = .ok cp) {s : UdpRun}
    (h : Reachable (UdpStep rate) (UdpRun.start cp now rate.qps) s) :
    Reachable (Step (LoadDns.workConfig rate "udp")) Work.init s.work ∧
      Reachable PoolStep (PoolState.start cp now rate.qps) s.pool ∧
      s.pool.held.length = s.work.exchanging + s.closing :=
  ⟨reachable_work h, reachable_pool h, (udpInv_reachable hnew h).held⟩

theorem udpRun_refines_threeSecondsAnswered :
    LoadDns.initPool threeSeconds.qps (fun _ => false) 0 = .ok emptyPool ∧
      Reachable (UdpStep threeSeconds) (UdpRun.start emptyPool 0 threeSeconds.qps) threeSecondsAnswered ∧
      (Reachable (Step (LoadDns.workConfig threeSeconds "udp")) Work.init threeSecondsAnswered.work ∧
        Reachable PoolStep (PoolState.start emptyPool 0 threeSeconds.qps) threeSecondsAnswered.pool ∧
        threeSecondsAnswered.pool.held.length =
          threeSecondsAnswered.work.exchanging + threeSecondsAnswered.closing) :=
  ⟨rfl, reachable_threeSecondsAnswered,
    udpRun_refines threeSeconds (fun _ => false) 0 rfl reachable_threeSecondsAnswered⟩

/-- **The pool bounds and outlives the queries of a UDP run.** In every
reachable state at most `min QPS MaxIdleConnectCount` requests hold a
connection; the pool is closed only after the wait group's wait, once no
request is left; and when `Run` has returned, no connection of the pool is
idle or held. -/
theorem udpRun_connections (rate : LoadRate) (ok : Nat → Bool) (now : Int) {cp : ConnexPool}
    (hnew : LoadDns.initPool rate.qps ok now = .ok cp) {s : UdpRun}
    (h : Reachable (UdpStep rate) (UdpRun.start cp now rate.qps) s) :
    s.work.exchanging + s.closing ≤ min rate.qps maxIdleConnectCount ∧
      (s.pool.pool.freeConn = none →
        2 ≤ s.work.worker.rank ∧ s.work.starting + s.work.requeueing + s.work.exchanging + s.closing = 0) ∧
      (s.work.worker = .done → s.pool.idle = [] ∧ s.pool.held = []) := by
  have hu := udpInv_reachable hnew h
  have hw := inv_reachable (reachable_work h)
  have hp := poolInv_reachable hnew (reachable_pool h)
  -- the idle cap is the one `InitPool` set
  have hcap : s.pool.pool.maxIdleCap = min rate.qps maxIdleConnectCount := by
    obtain ⟨cp', h', -, hcap⟩ := LoadDns.initPool_eq_ok rate.qps ok now
    rw [hnew] at h'
    cases h'
    rw [maxIdleCap_reachable (reachable_pool h), hcap]
  refine ⟨?_, fun hf => ?_, fun hd => ?_⟩
  · have := hp.count
    have := hp.count_le
    rw [← hcap, ← hu.held]
    omega
  · have h2 := hu.closed_rank (hu.poolClosed.mp hf)
    have := hw.drained h2
    have := hu.closing h2
    exact ⟨h2, by omega⟩
  · have h3 : 3 ≤ s.work.worker.rank := by simp [hd, WorkerPc.rank]
    have hf := hu.poolClosed.mpr (hu.finished h3)
    have := hw.drained (by omega)
    have := hu.closing (by omega)
    have hheld := hu.held
    exact ⟨idle_of_none hf, List.eq_nil_of_length_eq_zero (by omega)⟩

theorem udpRun_connections_threeSecondsAnswered :
    LoadDns.initPool threeSeconds.qps (fun _ => false) 0 = .ok emptyPool ∧
      Reachable (UdpStep threeSeconds) (UdpRun.start emptyPool 0 threeSeconds.qps) threeSecondsAnswered ∧
      (threeSecondsAnswered.work.exchanging + threeSecondsAnswered.closing ≤
          min threeSeconds.qps maxIdleConnectCount ∧
        (threeSecondsAnswered.pool.pool.freeConn = none →
          2 ≤ threeSecondsAnswered.work.worker.rank ∧
            threeSecondsAnswered.work.starting + threeSecondsAnswered.work.requeueing +
              threeSecondsAnswered.work.exchanging + threeSecondsAnswered.closing = 0) ∧
        (threeSecondsAnswered.work.worker = .done →
          threeSecondsAnswered.pool.idle = [] ∧ threeSecondsAnswered.pool.held = [])) :=
  ⟨rfl, reachable_threeSecondsAnswered,
    udpRun_connections threeSeconds (fun _ => false) 0 rfl reachable_threeSecondsAnswered⟩

end Reachable

/-! ## A run can hang where every dial and every query succeeds -/

section Hang

variable {rate : LoadRate} {ok : Nat → Bool} {now : Int} {cp : ConnexPool}

/-- After the stop signal, the worker waiting for the request goroutines:
`starting` of them before their `Get`, `requeueing` putting their token back,
`exchanging` out on a query, and `bucket` tokens back in the bucket. -/
def waiting (round starting requeueing exchanging bucket : Nat) : Work LoadDns.Result :=
  { Work.init with
    token := .done, worker := .wait, requestRound := round, starting := starting
    requeueing := requeueing, exchanging := exchanging, bucket := bucket }

/-- A step of `Run`'s goroutines the pool has no part in is a step of the run. -/
theorem UdpStep.of_poolFree {a : Action LoadDns.Result} (ha : a.poolFree = true) {s : UdpRun}
    (hp : s.pool.panic = none) {w : Work LoadDns.Result}
    (hw : step (LoadDns.workConfig rate "udp") a s.work = some w) : UdpStep rate s { s with work := w } :=
  ⟨.run a, (udpStep_poolFree ha).mpr ⟨hp, w, hw, rfl⟩⟩

/-- Before the deadline the token goroutine hands out `n + 1` tokens, and the
worker gives each to a request that has not asked the pool yet. -/
theorem start_dealt (cp : ConnexPool) (now : Int) {n : Nat} (hn : n + 1 ≤ rate.qps * rate.requestTimeSecond) :
    ReflTransGen (UdpStep rate) (UdpRun.start cp now rate.qps)
      ⟨dealt (n + 1), PoolState.start cp now rate.qps, 0, false⟩ := by
  induction n with
  | zero =>
    exact (ReflTransGen.single (UdpStep.of_poolFree rfl rfl
        (step_firstToken.mpr ⟨rfl, rfl, .inr ⟨rfl, rate.qps_pos, rfl⟩⟩))).tail
      (UdpStep.of_poolFree rfl rfl (step_takeToken.mpr ⟨rfl, rfl, .inl Nat.one_pos, rfl⟩))
  | succ n ih =>
    -- a tick hands out one more token
    exact (((ih (by omega)).tail
        (UdpStep.of_poolFree rfl rfl (step_tick.mpr ⟨rfl, rfl, show n + 1 < rate.qps * rate.requestTimeSecond by omega, rfl⟩))).tail
        (UdpStep.of_poolFree rfl rfl (step_tickSend.mpr ⟨rfl, rfl, .inr ⟨rfl, rate.qps_pos, rfl⟩⟩))).tail
      (UdpStep.of_poolFree rfl rfl (step_takeToken.mpr ⟨rfl, rfl, .inl Nat.one_pos, rfl⟩))

/-- The deadline finds the bucket empty, and the worker takes the stop signal. -/
theorem dealt_waiting {p : PoolState} (hp : p.panic = none) (n : Nat) :
    ReflTransGen (UdpStep rate) ⟨dealt n, p, 0, false⟩ ⟨waiting n n 0 0 0, p, 0, false⟩ :=
  ((ReflTransGen.single (UdpStep.of_poolFree rfl hp (step_deadline.mpr ⟨rfl, rfl, rfl⟩))).tail
      (UdpStep.of_poolFree rfl hp (step_stop.mpr ⟨rfl, rfl, rfl, rfl⟩))).tail
    (UdpStep.of_poolFree rfl hp (step_takeStop.mpr ⟨rfl, rfl, Nat.one_pos, rfl⟩))

/-- A request that finds room in the pool gets a connection and goes out on its
query. -/
theorem udpGet_room (hnew : LoadDns.initPool rate.qps ok now = .ok cp) {round st rq ex b : Nat}
    {p : PoolState} {c : Nat} {f : Bool}
    (hr : Reachable (UdpStep rate) (UdpRun.start cp now rate.qps) ⟨waiting round (st + 1) rq ex b, p, c, f⟩)
    (hroom : p.held.length + p.lost < cp.maxIdleCap) :
    ∃ p', UdpStep rate ⟨waiting round (st + 1) rq ex b, p, c, f⟩ ⟨waiting round st rq (ex + 1) b, p', c, f⟩ ∧
      p'.held.length = p.held.length + 1 ∧ p'.lost = p.lost := by
  have hpr := reachable_pool hr
  have hp := poolInv_reachable hnew hpr
  have hu := udpInv_reachable hnew hr
  -- the worker has not passed the wait, so the pool is open
  obtain ⟨free, hf⟩ : ∃ free, p.pool.freeConn = some free := by
    cases hf : p.pool.freeConn with
    | none =>
      have := hu.closed_rank (hu.poolClosed.mp hf)
      simp [waiting, WorkerPc.rank] at this
    | some free => exact ⟨free, rfl⟩
  obtain ⟨conn, hc⟩ := hp.get_ok hf (by rw [maxIdleCap_reachable hpr]; exact hroom) p.now p.nextConn
  have hg : p.pool.get p.now ((Except.ok () : Except String Unit).map fun _ => p.nextConn) =
      ((p.pool.get p.now (.ok p.nextConn)).1, .ok conn) := Prod.ext rfl hc
  refine ⟨_, ⟨.get (.ok ()), udpStep_get.mpr ⟨_, _, ?_, poolStep_get_ok hp.panic hg, rfl⟩⟩, by simp, rfl⟩
  rw [hg]
  exact step_exchange.mpr ⟨rfl, Nat.succ_pos st, rfl⟩

/-- Requests that find room in the pool get a connection each. -/
theorem udpGets_room (hnew : LoadDns.initPool rate.qps ok now = .ok cp) (round rq b : Nat) :
    ∀ k st ex (p : PoolState) (c : Nat) (f : Bool),
      Reachable (UdpStep rate) (UdpRun.start cp now rate.qps) ⟨waiting round (st + k) rq ex b, p, c, f⟩ →
      p.held.length + p.lost + k ≤ cp.maxIdleCap →
      ∃ p', Reachable (UdpStep rate) (UdpRun.start cp now rate.qps) ⟨waiting round st rq (ex + k) b, p', c, f⟩ ∧
        p'.held.length = p.held.length + k ∧ p'.lost = p.lost := by
  intro k
  induction k with
  | zero => exact fun st ex p c f hr _ => ⟨p, hr, rfl, rfl⟩
  | succ k ih =>
    intro st ex p c f hr hroom
    obtain ⟨p₁, hstep, hheld, hlost⟩ := udpGet_room hnew hr (by omega)
    obtain ⟨p₂, hr₂, hheld₂, hlost₂⟩ := ih st (ex + 1) p₁ c f (hr.tail hstep) (by omega)
    refine ⟨p₂, ?_, by omega, by omega⟩
    rwa [Nat.add_assoc, Nat.add_comm 1 k] at hr₂

/-- A request that finds every place of the pool taken gets none and puts its
token back; the pool is left as it is. -/
theorem udpGet_full (hnew : LoadDns.initPool rate.qps ok now = .ok cp) {round st rq ex b : Nat}
    {p : PoolState} {c : Nat} {f : Bool}
    (hr : Reachable (UdpStep rate) (UdpRun.start cp now rate.qps) ⟨waiting round (st + 1) rq ex b, p, c, f⟩)
    (hfull : cp.maxIdleCap ≤ p.held.length + p.lost) :
    ∃ p', UdpStep rate ⟨waiting round (st + 1) rq ex b, p, c, f⟩ ⟨waiting round st (rq + 1) ex b, p', c, f⟩ ∧
      p'.held = p.held ∧ p'.lost = p.lost := by
  have hpr := reachable_pool hr
  have hp := poolInv_reachable hnew hpr
  obtain ⟨e, hg⟩ := hp.get_full (by rw [maxIdleCap_reachable hpr]; exact hfull) p.now
    ((Except.ok () : Except String Unit).map fun _ => p.nextConn)
  refine ⟨_, ⟨.get (.ok ()), udpStep_get.mpr ⟨_, _, ?_, poolStep_get_error hp.panic hg, rfl⟩⟩, rfl, by simp⟩
  rw [hg]
  exact step_noConn.mpr ⟨rfl, rfl, Nat.succ_pos st, rfl⟩

/-- Requests that find every place of the pool taken put their tokens back. -/
theorem udpGets_full (hnew : LoadDns.initPool rate.qps ok now = .ok cp) (round ex b : Nat) :
    ∀ k st rq (p : PoolState) (c : Nat) (f : Bool),
      Reachable (UdpStep rate) (UdpRun.start cp now rate.qps) ⟨waiting round (st + k) rq ex b, p, c, f⟩ →
      cp.maxIdleCap ≤ p.held.length + p.lost →
      ∃ p', Reachable (UdpStep rate) (UdpRun.start cp now rate.qps) ⟨waiting round st (rq + k) ex b, p', c, f⟩ ∧
        p'.held = p.held ∧ p'.lost = p.lost := by
  intro k
  induction k with
  | zero => exact fun st rq p c f hr _ => ⟨p, hr, rfl, rfl⟩
  | succ k ih =>
    intro st rq p c f hr hfull
    obtain ⟨p₁, hstep, hheld, hlost⟩ := udpGet_full hnew hr hfull
    obtain ⟨p₂, hr₂, hheld₂, hlost₂⟩ := ih st (rq + 1) p₁ c f (hr.tail hstep) (by rw [hheld, hlost]; exact hfull)
    refine ⟨p₂, ?_, hheld₂.trans hheld, hlost₂.trans hlost⟩
    rwa [Nat.add_assoc, Nat.add_comm 1 k] at hr₂

/-- Requests put their tokens back while the bucket has room. -/
theorem waiting_requeued {p : PoolState} (hp : p.panic = none) (c : Nat) (f : Bool) {round ex : Nat} (m : Nat)
    {k b : Nat} (hk : b + k ≤ rate.qps) :
    ReflTransGen (UdpStep rate) ⟨waiting round 0 (m + k) ex b, p, c, f⟩ ⟨waiting round 0 m ex (b + k), p, c, f⟩ := by
  induction k generalizing b with
  | zero => exact ReflTransGen.refl
  | succ k ih =>
    rw [show b + (k + 1) = b + 1 + k by omega]
    exact ReflTransGen.head (UdpStep.of_poolFree rfl hp
        (step_requeued.mpr ⟨rfl, Nat.succ_pos _, .inr ⟨rfl, (by omega : b < rate.qps), rfl⟩⟩))
      (@ih (b + 1) (by omega))

/-- After the stop signal, a request that puts its token back into a full
bucket blocks the run. -/
theorem waiting_blocked {round rq ex b : Nat} (hrq : 0 < rq) (hb : b = rate.qps) :
    Blocked (LoadDns.workConfig rate "udp") (waiting round 0 rq ex b) :=
  ⟨rfl, rfl, rfl, rfl, rfl, hrq, hb, rfl, rfl⟩

/-- **A UDP DNS load test can hang although the server answers.** For every
rate of three seconds or more and whatever the dials of `InitPool` answered,
some interleaving of a UDP run reaches, with no dial failing and no
connection closed on the way, a state from which `Run` never returns: every
connection the pool may hold is out on a query when the worker takes the stop
signal, the requests that then find none put their tokens back, and the one
that finds the bucket full blocks the wait group's wait for ever. -/
theorem udpRun_hangs (rate : LoadRate) (hT : 3 ≤ rate.requestTimeSecond) (ok : Nat → Bool) (now : Int) :
    ∃ cp, LoadDns.initPool rate.qps ok now = .ok cp ∧
      ∃ s, Reachable (UdpStep rate) (UdpRun.start cp now rate.qps) s ∧ s.pool.lost = 0 ∧
        ∀ s', ReflTransGen (UdpStep rate) s s' → s'.work.worker = .wait := by
  obtain ⟨cp, hnew, -, hcap⟩ := LoadDns.initPool_eq_ok rate.qps ok now
  refine ⟨cp, hnew, ?_⟩
  have hq := rate.qps_pos
  have hM : cp.maxIdleCap ≤ rate.qps := hcap ▸ min_le_left _ _
  -- `2 QPS + 1` tokens: one for each place of the pool, and `QPS + 1` more
  have hround : 2 * rate.qps + 1 ≤ rate.qps * rate.requestTimeSecond :=
    calc 2 * rate.qps + 1 ≤ rate.qps * 3 := by omega
      _ ≤ rate.qps * rate.requestTimeSecond := Nat.mul_le_mul_left _ hT
  have h₁ : Reachable (UdpStep rate) (UdpRun.start cp now rate.qps)
      ⟨waiting (2 * rate.qps + 1) (2 * rate.qps + 1) 0 0 0, PoolState.start cp now rate.qps, 0, false⟩ :=
    (start_dealt cp now hround).trans (dealt_waiting rfl _)
  -- every place of the pool goes out on a query
  rw [show 2 * rate.qps + 1 = (2 * rate.qps + 1 - cp.maxIdleCap) + cp.maxIdleCap by omega] at h₁
  obtain ⟨p₂, h₂, hheld₂, hlost₂⟩ := udpGets_room hnew _ 0 0 cp.maxIdleCap _ 0 _ 0 false h₁
    (by simp [PoolState.start])
  -- the rest find none
  rw [Nat.zero_add, show 2 * rate.qps + 1 - cp.maxIdleCap = 0 + (2 * rate.qps + 1 - cp.maxIdleCap) by omega] at h₂
  obtain ⟨p₃, h₃, -, hlost₃⟩ := udpGets_full hnew _ _ 0 _ 0 0 p₂ 0 false h₂
    (by simp [hheld₂, PoolState.start])
  -- and put their tokens back until one finds the bucket full
  rw [show 0 + (2 * rate.qps + 1 - cp.maxIdleCap) = (rate.qps + 1 - cp.maxIdleCap) + rate.qps by omega] at h₃
  have h₄ := h₃.run (waiting_requeued (poolInv_reachable hnew (reachable_pool h₃)).panic 0 false
    (rate.qps + 1 - cp.maxIdleCap) (Nat.le_of_eq (Nat.zero_add rate.qps)))
  refine ⟨_, h₄, by rw [hlost₃, hlost₂]; rfl, fun s' hrun =>
    ((waiting_blocked (by omega) (Nat.zero_add _)).run (UdpStep.run_work hrun)).worker⟩

theorem udpRun_hangs_threeSeconds :
    3 ≤ threeSeconds.requestTimeSecond ∧
      ∃ cp, LoadDns.initPool threeSeconds.qps (fun _ => true) 0 = .ok cp ∧
        ∃ s, Reachable (UdpStep threeSeconds) (UdpRun.start cp 0 threeSeconds.qps) s ∧ s.pool.lost = 0 ∧
          ∀ s', ReflTransGen (UdpStep threeSeconds) s s' → s'.work.worker = .wait :=
  ⟨by decide, udpRun_hangs threeSeconds (by decide) (fun _ => true) 0⟩

end Hang

end KDoctor.LoadRequest
