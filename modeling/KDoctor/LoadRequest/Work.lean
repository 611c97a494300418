import KDoctor.LoadRequest.Accounting
import KDoctor.Lib.Go

/-!
The run of a load test: `Work.Run` of `loadHttp` and of `loadDns`
(`http_requester.go`, `dns_requester.go`), as goroutines that talk over
channels.

A goroutine hands out tokens on `qosTokenBucket` (capacity `QPS`): one at
once, then one for each tick of its ticker until it has handed out
`QPS * RequestTimeSecond`, and at the deadline it notes whether tokens are
left and sends the stop signal. The goroutine that called `Run` runs
`runWorker`, which starts a request goroutine for each token until it takes
the stop signal, waits for them on a wait group, and then `Finish`, which
closes the result channel and the bucket and waits for the reporter. Each
request goroutine sends one result; `runReporter` reads the results until
the channel is closed. In `loadDns` over UDP a request that gets no
connection from its pool puts its token back in the bucket instead.

The model is one state of all these goroutines and a step for each thing one
of them can do (`Action`); which goroutine moves next is free, and so are
the timer and the network: a tick, the deadline, whether a pool has a
connection and what a request returns. Timing only makes some of these runs
impossible, so what holds of every run here holds of every timed run.

Every run is safe (`work_safe`): nothing panics, and no more than
`QPS * RequestTimeSecond` results are sent. Where no token comes back, as in
`loadHttp`, every run ends, with every token handed out either unused in
the bucket or counted by the reporter (`httpRun_completes`), and so does
every run of `loadDns` over TCP (`dnsRun_completes`). A UDP run of
`loadDns` can instead stop for ever (`dnsRun_deadlock`): after the stop
signal nobody takes tokens off the bucket, and a request that puts one back
into a full bucket blocks the wait group's wait.
-/

namespace KDoctor.LoadRequest

open Go Transition

/-! ## The goroutines and their channels -/

/-- Where the goroutine that hands out tokens is. -/
inductive TokenPc
  | first
  | loop
  | sending
  | stopping
  | done
  deriving DecidableEq, Repr

/-- Where the goroutine that called `Run` is: `runWorker`, then `Finish`. -/
inductive WorkerPc
  | loop
  | wait
  | closeResults
  | closeBucket
  | awaitReporter
  | done
  deriving DecidableEq, Repr

/-- How far the goroutine that called `Run` has come. -/
def WorkerPc.rank : WorkerPc → Nat
  | loop => 0
  | wait => 1
  | closeResults => 2
  | closeBucket => 3
  | awaitReporter => 4
  | done => 5

/-- The goroutines of a run and their channels. The request goroutines, which
the wait group counts, are counted by where they are: before their
connection, putting their token back, or with a result to send. -/
structure Work (α : Type) where
  token : TokenPc
  requestRound : Nat
  worker : WorkerPc
  starting : Nat
  requeueing : Nat
  exchanging : Nat
  bucket : Nat
  bucketClosed : Bool
  stopCh : Nat
  results : List α
  resultsClosed : Bool
  received : List α
  reporterDone : Bool
  existsNotSendRequests : Bool
  panic : Option String
  deriving DecidableEq, Repr

/-- The run when `Run` starts its goroutines. -/
def Work.init {α : Type} : Work α :=
  ⟨.first, 0, .loop, 0, 0, 0, 0, false, 0, [], false, [], false, false, none⟩

/-- A panic of one goroutine, which ends the program. -/
def Work.crash {α : Type} (s : Work α) (msg : String) : Work α := { s with panic := some msg }

/-- The rate of a load test. The CRD's schema has both at least 1. -/
structure LoadRate where
  qps : Nat
  requestTimeSecond : Nat
  qps_pos : 0 < qps
  requestTimeSecond_pos : 0 < requestTimeSecond

/-- A load test's rate, and whether a request without a connection puts its
token back. -/
structure WorkConfig extends LoadRate where
  requeue : Bool

/-- `MaxResultChannelSize` and `maxResult`, the capacity of the result channel. -/
def maxResult : Nat := 1000000

/-- The run of `loadHttp`: a request never gives its token back. -/
def LoadHttp.workConfig (rate : LoadRate) : WorkConfig := { rate with requeue := false }

/-- The run of `loadDns`: over UDP a request without a connection from the
pool gives its token back. -/
def LoadDns.workConfig (rate : LoadRate) (protocol : String) : WorkConfig :=
  { rate with requeue := decide (protocol = "udp") }

/-- What a goroutine of the run can do next. -/
inductive Action (α : Type)
  | firstToken
  | deadline
  | tick
  | tickSend
  | stop
  | takeToken
  | takeStop
  | waited
  | closeResults
  | closeBucket
  | finish
  | noConn
  | exchange
  | requeued
  | sendResult (res : α)
  | receive
  | reporterDone
  deriving DecidableEq, Repr

/-- One step of the run. -/
def step {α : Type} (cfg : WorkConfig) (a : Action α) (s : Work α) : Option (Work α) :=
  -- a panic ends the program: no goroutine moves on
  if s.panic.isSome then none else
  match a with
  -- the goroutine that hands out tokens
  | .firstToken =>
    if s.token = .first then
      chanSend s.bucketClosed s.bucket cfg.qps (s.crash sendOnClosedChannel)
        { s with bucket := s.bucket + 1, requestRound := s.requestRound + 1, token := .loop }
    else none
  | .deadline =>
    if s.token = .loop then
      some { s with
        existsNotSendRequests := s.existsNotSendRequests || decide (0 < s.bucket)
        token := .stopping }
    else none
  | .tick =>
    -- a tick once every token is out changes nothing
    if s.token = .loop ∧ s.requestRound < cfg.qps * cfg.requestTimeSecond then
      some { s with token := .sending }
    else none
  | .tickSend =>
    if s.token = .sending then
      chanSend s.bucketClosed s.bucket cfg.qps (s.crash sendOnClosedChannel)
        { s with bucket := s.bucket + 1, requestRound := s.requestRound + 1, token := .loop }
    else none
  | .stop =>
    if s.token = .stopping ∧ s.stopCh < 1 then
      some { s with stopCh := s.stopCh + 1, token := .done }
    else none
  -- `runWorker`: a receive from a closed bucket gets its zero value at once
  | .takeToken =>
    if s.worker = .loop ∧ (0 < s.bucket ∨ s.bucketClosed = true) then
      some { s with bucket := s.bucket - 1, starting := s.starting + 1 }
    else none
  | .takeStop =>
    if s.worker = .loop ∧ 0 < s.stopCh then
      some { s with stopCh := s.stopCh - 1, worker := .wait }
    else none
  | .waited =>
    if s.worker = .wait ∧ s.starting + s.requeueing + s.exchanging = 0 then
      some { s with worker := .closeResults }
    else none
  -- `Finish`
  | .closeResults =>
    if s.worker = .closeResults then
      some (chanClose s.resultsClosed (s.crash closeOfClosedChannel)
        { s with resultsClosed := true, worker := .closeBucket })
    else none
  | .closeBucket =>
    if s.worker = .closeBucket then
      some (chanClose s.bucketClosed (s.crash closeOfClosedChannel)
        { s with bucketClosed := true, worker := .awaitReporter })
    else none
  | .finish =>
    if s.worker = .awaitReporter ∧ s.reporterDone = true then some { s with worker := .done }
    else none
  -- `makeRequest`
  | .noConn =>
    if cfg.requeue = true ∧ 0 < s.starting then
      some { s with starting := s.starting - 1, requeueing := s.requeueing + 1 }
    else none
  | .exchange =>
    if 0 < s.starting then
      some { s with starting := s.starting - 1, exchanging := s.exchanging + 1 }
    else none
  | .requeued =>
    if 0 < s.requeueing then
      chanSend s.bucketClosed s.bucket cfg.qps (s.crash sendOnClosedChannel)
        { s with bucket := s.bucket + 1, requeueing := s.requeueing - 1 }
    else none
  | .sendResult res =>
    if 0 < s.exchanging then
      chanSend s.resultsClosed s.results.length maxResult (s.crash sendOnClosedChannel)
        { s with results := s.results ++ [res], exchanging := s.exchanging - 1 }
    else none
  -- `runReporter`
  | .receive =>
    match s.results with
    | res :: rest =>
      if s.reporterDone = false then some { s with results := rest, received := s.received ++ [res] }
      else none
    | [] => none
  | .reporterDone =>
    if s.reporterDone = false ∧ s.results = [] ∧ s.resultsClosed = true then
      some { s with reporterDone := true }
    else none

/-- Some goroutine takes a step. -/
def Step {α : Type} (cfg : WorkConfig) (s s' : Work α) : Prop := ∃ a, step cfg a s = some s'

/-! ## What each step does -/

section Steps

variable {α : Type} {cfg : WorkConfig} {s s' : Work α}

theorem step_firstToken : step cfg .firstToken s = some s' ↔
    s.panic = none ∧ s.token = .first ∧
      ((s.bucketClosed = true ∧ s' = s.crash sendOnClosedChannel) ∨
        (s.bucketClosed = false ∧ s.bucket < cfg.qps ∧
          s' = { s with bucket := s.bucket + 1, requestRound := s.requestRound + 1, token := .loop })) := by
  unfold step
  cases s.panic <;> by_cases ht : s.token = .first <;> simp [ht, chanSend_eq_some]

theorem step_deadline : step cfg .deadline s = some s' ↔
    s.panic = none ∧ s.token = .loop ∧
      s' = { s with
        existsNotSendRequests := s.existsNotSendRequests || decide (0 < s.bucket)
        token := .stopping } := by
  unfold step
  cases s.panic <;> simp [Option.ite_none_right_eq_some, eq_comm (b := s')]

theorem step_tick : step cfg .tick s = some s' ↔
    s.panic = none ∧ s.token = .loop ∧ s.requestRound < cfg.qps * cfg.requestTimeSecond ∧
      s' = { s with token := .sending } := by
  unfold step
  cases s.panic <;> simp [Option.ite_none_right_eq_some, eq_comm (b := s'), and_assoc]

theorem step_tickSend : step cfg .tickSend s = some s' ↔
    s.panic = none ∧ s.token = .sending ∧
      ((s.bucketClosed = true ∧ s' = s.crash sendOnClosedChannel) ∨
        (s.bucketClosed = false ∧ s.bucket < cfg.qps ∧
          s' = { s with bucket := s.bucket + 1, requestRound := s.requestRound + 1, token := .loop })) := by
  unfold step
  cases s.panic <;> by_cases ht : s.token = .sending <;> simp [ht, chanSend_eq_some]

theorem step_stop : step cfg .stop s = some s' ↔
    s.panic = none ∧ s.token = .stopping ∧ s.stopCh = 0 ∧
      s' = { s with stopCh := s.stopCh + 1, token := .done } := by
  unfold step
  cases s.panic <;> simp [Option.ite_none_right_eq_some, eq_comm (b := s'), and_assoc]

theorem step_takeToken : step cfg .takeToken s = some s' ↔
    s.panic = none ∧ s.worker = .loop ∧ (0 < s.bucket ∨ s.bucketClosed = true) ∧
      s' = { s with bucket := s.bucket - 1, starting := s.starting + 1 } := by
  unfold step
  cases s.panic <;> simp [Option.ite_none_right_eq_some, eq_comm (b := s'), and_assoc]

theorem step_takeStop : step cfg .takeStop s = some s' ↔
    s.panic = none ∧ s.worker = .loop ∧ 0 < s.stopCh ∧
      s' = { s with stopCh := s.stopCh - 1, worker := .wait } := by
  unfold step
  cases s.panic <;> simp [Option.ite_none_right_eq_some, eq_comm (b := s'), and_assoc]

theorem step_waited : step cfg .waited s = some s' ↔
    s.panic = none ∧ s.worker = .wait ∧ s.starting + s.requeueing + s.exchanging = 0 ∧
      s' = { s with worker := .closeResults } := by
  unfold step
  cases s.panic <;> simp [Option.ite_none_right_eq_some, eq_comm (b := s'), and_assoc]

theorem step_closeResults : step cfg .closeResults s = some s' ↔
    s.panic = none ∧ s.worker = .closeResults ∧
      ((s.resultsClosed = true ∧ s' = s.crash closeOfClosedChannel) ∨
        (s.resultsClosed = false ∧ s' = { s with resultsClosed := true, worker := .closeBucket })) := by
  unfold step
  cases s.panic <;> by_cases hw : s.worker = .closeResults <;> cases s.resultsClosed <;>
    simp [hw, chanClose, eq_comm]

theorem step_closeBucket : step cfg .closeBucket s = some s' ↔
    s.panic = none ∧ s.worker = .closeBucket ∧
      ((s.bucketClosed = true ∧ s' = s.crash closeOfClosedChannel) ∨
        (s.bucketClosed = false ∧ s' = { s with bucketClosed := true, worker := .awaitReporter })) := by
  unfold step
  cases s.panic <;> by_cases hw : s.worker = .closeBucket <;> cases s.bucketClosed <;>
    simp [hw, chanClose, eq_comm]

theorem step_finish : step cfg .finish s = some s' ↔
    s.panic = none ∧ s.worker = .awaitReporter ∧ s.reporterDone = true ∧
      s' = { s with worker := .done } := by
  unfold step
  cases s.panic <;> simp [Option.ite_none_right_eq_some, eq_comm (b := s'), and_assoc]

theorem step_noConn : step cfg .noConn s = some s' ↔
    s.panic = none ∧ cfg.requeue = true ∧ 0 < s.starting ∧
      s' = { s with starting := s.starting - 1, requeueing := s.requeueing + 1 } := by
  unfold step
  cases s.panic <;> simp [Option.ite_none_right_eq_some, eq_comm (b := s'), and_assoc]

theorem step_exchange : step cfg .exchange s = some s' ↔
    s.panic = none ∧ 0 < s.starting ∧
      s' = { s with starting := s.starting - 1, exchanging := s.exchanging + 1 } := by
  unfold step
  cases s.panic <;> simp [Option.ite_none_right_eq_some, eq_comm (b := s')]

theorem step_requeued : step cfg .requeued s = some s' ↔
    s.panic = none ∧ 0 < s.requeueing ∧
      ((s.bucketClosed = true ∧ s' = s.crash sendOnClosedChannel) ∨
        (s.bucketClosed = false ∧ s.bucket < cfg.qps ∧
          s' = { s with bucket := s.bucket + 1, requeueing := s.requeueing - 1 })) := by
  unfold step
  cases s.panic <;> by_cases hr : 0 < s.requeueing <;> simp [hr, chanSend_eq_some]

theorem step_sendResult {res : α} : step cfg (.sendResult res) s = some s' ↔
    s.panic = none ∧ 0 < s.exchanging ∧
      ((s.resultsClosed = true ∧ s' = s.crash sendOnClosedChannel) ∨
        (s.resultsClosed = false ∧ s.results.length < maxResult ∧
          s' = { s with results := s.results ++ [res], exchanging := s.exchanging - 1 })) := by
  unfold step
  cases s.panic <;> by_cases he : 0 < s.exchanging <;> simp [he, chanSend_eq_some]

theorem step_receive : step cfg .receive s = some s' ↔
    s.panic = none ∧ s.reporterDone = false ∧ ∃ res rest, s.results = res :: rest ∧
      s' = { s with results := rest, received := s.received ++ [res] } := by
  unfold step
  cases s.panic <;> rcases s.results with _ | ⟨res, rest⟩ <;> cases s.reporterDone <;> simp [eq_comm]

theorem step_reporterDone : step cfg .reporterDone s = some s' ↔
    s.panic = none ∧ s.reporterDone = false ∧ s.results = [] ∧ s.resultsClosed = true ∧
      s' = { s with reporterDone := true } := by
  unfold step
  cases s.panic <;> simp [Option.ite_none_right_eq_some, eq_comm (b := s'), and_assoc]

/-- Only the worker's own steps move it, each one place on. -/
theorem step_worker {a : Action α} (h : step cfg a s = some s') :
    s'.worker = s.worker ∨ (a = .takeStop ∧ s.worker = .loop ∧ s'.worker = .wait) ∨
      (a = .waited ∧ s.worker = .wait ∧ s'.worker = .closeResults) ∨
      (a = .closeResults ∧ s.worker = .closeResults ∧ s'.worker = .closeBucket) ∨
      (a = .closeBucket ∧ s.worker = .closeBucket ∧ s'.worker = .awaitReporter) ∨
      (a = .finish ∧ s.worker = .awaitReporter ∧ s'.worker = .done) := by
  cases a with
  | takeStop =>
    obtain ⟨-, hw, -, rfl⟩ := step_takeStop.mp h
    exact .inr (.inl ⟨rfl, hw, rfl⟩)
  | waited =>
    obtain ⟨-, hw, -, rfl⟩ := step_waited.mp h
    exact .inr (.inr (.inl ⟨rfl, hw, rfl⟩))
  | closeResults =>
    obtain ⟨-, hw, ⟨-, rfl⟩ | ⟨-, rfl⟩⟩ := step_closeResults.mp h
    · exact .inl rfl
    · exact .inr (.inr (.inr (.inl ⟨rfl, hw, rfl⟩)))
  | closeBucket =>
    obtain ⟨-, hw, ⟨-, rfl⟩ | ⟨-, rfl⟩⟩ := step_closeBucket.mp h
    · exact .inl rfl
    · exact .inr (.inr (.inr (.inr (.inl ⟨rfl, hw, rfl⟩))))
  | finish =>
    obtain ⟨-, hw, -, rfl⟩ := step_finish.mp h
    exact .inr (.inr (.inr (.inr (.inr ⟨rfl, hw, rfl⟩))))
  -- the other goroutines leave the worker where it is
  | firstToken => obtain ⟨-, -, ⟨-, rfl⟩ | ⟨-, -, rfl⟩⟩ := step_firstToken.mp h <;> exact .inl rfl
  | deadline => obtain ⟨-, -, rfl⟩ := step_deadline.mp h; exact .inl rfl
  | tick => obtain ⟨-, -, -, rfl⟩ := step_tick.mp h; exact .inl rfl
  | tickSend => obtain ⟨-, -, ⟨-, rfl⟩ | ⟨-, -, rfl⟩⟩ := step_tickSend.mp h <;> exact .inl rfl
  | stop => obtain ⟨-, -, -, rfl⟩ := step_stop.mp h; exact .inl rfl
  | takeToken => obtain ⟨-, -, -, rfl⟩ := step_takeToken.mp h; exact .inl rfl
  | noConn => obtain ⟨-, -, -, rfl⟩ := step_noConn.mp h; exact .inl rfl
  | exchange => obtain ⟨-, -, rfl⟩ := step_exchange.mp h; exact .inl rfl
  | requeued => obtain ⟨-, -, ⟨-, rfl⟩ | ⟨-, -, rfl⟩⟩ := step_requeued.mp h <;> exact .inl rfl
  | sendResult res => obtain ⟨-, -, ⟨-, rfl⟩ | ⟨-, -, rfl⟩⟩ := step_sendResult.mp h <;> exact .inl rfl
  | receive => obtain ⟨-, -, _, _, -, rfl⟩ := step_receive.mp h; exact .inl rfl
  | reporterDone => obtain ⟨-, -, -, -, rfl⟩ := step_reporterDone.mp h; exact .inl rfl

/-- The worker never goes back. -/
theorem step_rank_le {a : Action α} (h : step cfg a s = some s') : s.worker.rank ≤ s'.worker.rank := by
  rcases step_worker h with hw | ⟨-, hw, hw'⟩ | ⟨-, hw, hw'⟩ | ⟨-, hw, hw'⟩ | ⟨-, hw, hw'⟩ | ⟨-, hw, hw'⟩
  · rw [hw]
  all_goals simp [hw, hw', WorkerPc.rank]

/-- The worker passes the wait group's wait only by `waited`. -/
theorem step_rank_two {a : Action α} (h : step cfg a s = some s') (h2 : 2 ≤ s'.worker.rank) :
    2 ≤ s.worker.rank ∨ a = .waited := by
  rcases step_worker h with hw | ⟨-, -, hw'⟩ | ⟨rfl, -, -⟩ | ⟨-, hw, -⟩ | ⟨-, hw, -⟩ | ⟨-, hw, -⟩
  · rw [← hw]
    exact .inl h2
  · simp [hw', WorkerPc.rank] at h2
  · exact .inr rfl
  all_goals exact .inl (by simp [hw, WorkerPc.rank])

/-- The worker starts `Finish` only by `closeResults`. -/
theorem step_rank_three {a : Action α} (h : step cfg a s = some s') (h3 : 3 ≤ s'.worker.rank) :
    3 ≤ s.worker.rank ∨ a = .closeResults := by
  rcases step_worker h with hw | ⟨-, -, hw'⟩ | ⟨-, -, hw'⟩ | ⟨rfl, -, -⟩ | ⟨-, hw, -⟩ | ⟨-, hw, -⟩
  · rw [← hw]
    exact .inl h3
  · simp [hw', WorkerPc.rank] at h3
  · simp [hw', WorkerPc.rank] at h3
  · exact .inr rfl
  all_goals exact .inl (by simp [hw, WorkerPc.rank])

/-- Only a request's exchange and its result change how many requests hold a
connection. -/
theorem step_exchanging {a : Action α} (h : step cfg a s = some s') (hx : a ≠ .exchange)
    (hr : ∀ res, a ≠ .sendResult res) : s'.exchanging = s.exchanging := by
  cases a with
  | exchange => exact absurd rfl hx
  | sendResult res => exact absurd rfl (hr res)
  | firstToken => obtain ⟨-, -, ⟨-, rfl⟩ | ⟨-, -, rfl⟩⟩ := step_firstToken.mp h <;> rfl
  | deadline => obtain ⟨-, -, rfl⟩ := step_deadline.mp h; rfl
  | tick => obtain ⟨-, -, -, rfl⟩ := step_tick.mp h; rfl
  | tickSend => obtain ⟨-, -, ⟨-, rfl⟩ | ⟨-, -, rfl⟩⟩ := step_tickSend.mp h <;> rfl
  | stop => obtain ⟨-, -, -, rfl⟩ := step_stop.mp h; rfl
  | takeToken => obtain ⟨-, -, -, rfl⟩ := step_takeToken.mp h; rfl
  | takeStop => obtain ⟨-, -, -, rfl⟩ := step_takeStop.mp h; rfl
  | waited => obtain ⟨-, -, -, rfl⟩ := step_waited.mp h; rfl
  | closeResults => obtain ⟨-, -, ⟨-, rfl⟩ | ⟨-, rfl⟩⟩ := step_closeResults.mp h <;> rfl
  | closeBucket => obtain ⟨-, -, ⟨-, rfl⟩ | ⟨-, rfl⟩⟩ := step_closeBucket.mp h <;> rfl
  | finish => obtain ⟨-, -, -, rfl⟩ := step_finish.mp h; rfl
  | noConn => obtain ⟨-, -, -, rfl⟩ := step_noConn.mp h; rfl
  | requeued => obtain ⟨-, -, ⟨-, rfl⟩ | ⟨-, -, rfl⟩⟩ := step_requeued.mp h <;> rfl
  | receive => obtain ⟨-, -, _, _, -, rfl⟩ := step_receive.mp h; rfl
  | reporterDone => obtain ⟨-, -, -, -, rfl⟩ := step_reporterDone.mp h; rfl

end Steps

/-! ## The invariant of a run -/

section Invariant

variable {α : Type} {cfg : WorkConfig} {s s' : Work α}

/-- What every reachable state of a run keeps. -/
structure Inv (cfg : WorkConfig) (s : Work α) : Prop where
  panic : s.panic = none
  /-- every token handed out is in the bucket, with a request goroutine, a
  result on the channel, or a result the reporter read -/
  tokens : s.requestRound =
    s.bucket + s.starting + s.requeueing + s.exchanging + s.results.length + s.received.length
  bucket_le : s.bucket ≤ cfg.qps
  round_le : s.requestRound ≤ cfg.qps * cfg.requestTimeSecond
  first : s.token = .first → s.requestRound = 0
  sending : s.token = .sending → s.requestRound < cfg.qps * cfg.requestTimeSecond
  stopCh_le : s.stopCh ≤ 1
  stopCh_sent : s.stopCh = 1 → s.token = .done ∧ s.worker = .loop
  stop_sent : s.token = .done → s.worker = .loop → s.stopCh = 1
  stopped : 1 ≤ s.worker.rank → s.token = .done ∧ s.stopCh = 0
  drained : 2 ≤ s.worker.rank → s.starting + s.requeueing + s.exchanging = 0
  resultsClosed : s.resultsClosed = true ↔ 3 ≤ s.worker.rank
  bucketClosed : s.bucketClosed = true ↔ 4 ≤ s.worker.rank
  reporterDone : s.reporterDone = true → s.resultsClosed = true ∧ s.results = []
  done : s.worker = .done → s.reporterDone = true
  noRequeue : cfg.requeue = false → s.requeueing = 0
  /-- without requeues, no token enters the bucket after a deadline that found
  it empty -/
  unsent : cfg.requeue = false → s.token = .stopping ∨ s.token = .done →
    s.existsNotSendRequests = false → s.bucket = 0

theorem inv_init : Inv cfg (Work.init : Work α) where
  panic := rfl
  tokens := rfl
  bucket_le := Nat.zero_le _
  round_le := Nat.zero_le _
  first _ := rfl
  sending h := by cases h
  stopCh_le := Nat.zero_le _
  stopCh_sent h := by cases h
  stop_sent h := by cases h
  stopped h := by cases h
  drained h := by cases h
  resultsClosed := by simp [Work.init, WorkerPc.rank]
  bucketClosed := by simp [Work.init, WorkerPc.rank]
  reporterDone h := by cases h
  done h := by cases h
  noRequeue _ := rfl
  unsent _ h := by rcases h with h | h <;> cases h

namespace Inv

variable (hinv : Inv cfg s)
include hinv

theorem worker_loop (h : s.token ≠ .done) : s.worker = .loop := by
  cases hw : s.worker
  · rfl
  all_goals exact absurd (hinv.stopped (by simp [hw, WorkerPc.rank])).1 h

theorem open_of_loop (h : s.worker = .loop) : s.resultsClosed = false ∧ s.bucketClosed = false := by
  simp [← Bool.not_eq_true, hinv.resultsClosed, hinv.bucketClosed, h, WorkerPc.rank]

theorem open_of_requests (h : 0 < s.starting + s.requeueing + s.exchanging) :
    s.resultsClosed = false ∧ s.bucketClosed = false := by
  have hrank : s.worker.rank < 2 := by
    by_contra hr
    have := hinv.drained (by omega)
    omega
  simp [← Bool.not_eq_true, hinv.resultsClosed, hinv.bucketClosed]
  omega

/-! ### One lemma for each step -/

theorem firstToken (h : step cfg .firstToken s = some s') : Inv cfg s' := by
  obtain ⟨-, ht, ⟨hc, -⟩ | ⟨-, hb, rfl⟩⟩ := step_firstToken.mp h
  · exact absurd hc (by simp [(hinv.open_of_loop (hinv.worker_loop (by simp [ht]))).2])
  · have h0 := hinv.first ht
    have hpos := Nat.mul_pos cfg.qps_pos cfg.requestTimeSecond_pos
    refine { hinv with
      tokens := by simp only [hinv.tokens]; omega
      bucket_le := hb
      round_le := by simp only; omega
      first := fun h => by cases h
      sending := fun h => by cases h
      stopCh_sent := fun h => absurd (hinv.stopCh_sent h).1 (by simp [ht])
      stop_sent := fun h => by cases h
      stopped := fun h => absurd (hinv.stopped h).1 (by simp [ht])
      unsent := fun _ h => by rcases h with h | h <;> cases h }

theorem deadline (h : step cfg .deadline s = some s') : Inv cfg s' := by
  obtain ⟨-, ht, rfl⟩ := step_deadline.mp h
  refine { hinv with
    first := fun h => by cases h
    sending := fun h => by cases h
    stopCh_sent := fun h => absurd (hinv.stopCh_sent h).1 (by simp [ht])
    stop_sent := fun h => by cases h
    stopped := fun h => absurd (hinv.stopped h).1 (by simp [ht])
    unsent := fun _ _ hflag => by
      simp only [Bool.or_eq_false_iff, decide_eq_false_iff_not, Nat.not_lt] at hflag
      exact Nat.le_zero.mp hflag.2 }

theorem tick (h : step cfg .tick s = some s') : Inv cfg s' := by
  obtain ⟨-, ht, hr, rfl⟩ := step_tick.mp h
  refine { hinv with
    first := fun h => by cases h
    sending := fun _ => hr
    stopCh_sent := fun h => absurd (hinv.stopCh_sent h).1 (by simp [ht])
    stop_sent := fun h => by cases h
    stopped := fun h => absurd (hinv.stopped h).1 (by simp [ht])
    unsent := fun _ h => by rcases h with h | h <;> cases h }

theorem tickSend (h : step cfg .tickSend s = some s') : Inv cfg s' := by
  obtain ⟨-, ht, ⟨hc, -⟩ | ⟨-, hb, rfl⟩⟩ := step_tickSend.mp h
  · exact absurd hc (by simp [(hinv.open_of_loop (hinv.worker_loop (by simp [ht]))).2])
  · have hr := hinv.sending ht
    refine { hinv with
      tokens := by simp only [hinv.tokens]; omega
      bucket_le := hb
      round_le := by simp only; omega
      first := fun h => by cases h
      sending := fun h => by cases h
      stopCh_sent := fun h => absurd (hinv.stopCh_sent h).1 (by simp [ht])
      stop_sent := fun h => by cases h
      stopped := fun h => absurd (hinv.stopped h).1 (by simp [ht])
      unsent := fun _ h => by rcases h with h | h <;> cases h }

theorem stop (h : step cfg .stop s = some s') : Inv cfg s' := by
  obtain ⟨-, ht, hc, rfl⟩ := step_stop.mp h
  have hw := hinv.worker_loop (by simp [ht])
  refine { hinv with
    first := fun h => by cases h
    sending := fun h => by cases h
    stopCh_le := by simp [hc]
    stopCh_sent := fun _ => ⟨rfl, hw⟩
    stop_sent := fun _ _ => by simp [hc]
    stopped := fun h => by simp [hw, WorkerPc.rank] at h
    unsent := fun hr _ => hinv.unsent hr (.inl ht) }

theorem takeToken (h : step cfg .takeToken s = some s') : Inv cfg s' := by
  obtain ⟨-, hw, hb, rfl⟩ := step_takeToken.mp h
  -- the bucket is open while the worker loops, so it holds a token
  have hb : 0 < s.bucket := by simpa [(hinv.open_of_loop hw).2] using hb
  refine { hinv with
    tokens := by simp only [hinv.tokens]; omega
    bucket_le := by simp only; have := hinv.bucket_le; omega
    drained := fun h => by simp [hw, WorkerPc.rank] at h
    unsent := fun hr ht hflag => by have := hinv.unsent hr ht hflag; omega }

theorem takeStop (h : step cfg .takeStop s = some s') : Inv cfg s' := by
  obtain ⟨-, hw, hc, rfl⟩ := step_takeStop.mp h
  have hc1 : s.stopCh = 1 := by have := hinv.stopCh_le; omega
  have ht := (hinv.stopCh_sent hc1).1
  have hopen := hinv.open_of_loop hw
  refine { hinv with
    stopCh_le := by simp only; omega
    stopCh_sent := fun h => by dsimp only at h; omega
    stop_sent := fun _ h => by cases h
    stopped := fun _ => ⟨ht, by simp only; omega⟩
    drained := fun h => by simp [WorkerPc.rank] at h
    resultsClosed := by simp [hopen.1, WorkerPc.rank]
    bucketClosed := by simp [hopen.2, WorkerPc.rank]
    done := fun h => by cases h }

theorem waited (h : step cfg .waited s = some s') : Inv cfg s' := by
  obtain ⟨-, hw, hn, rfl⟩ := step_waited.mp h
  have hs := hinv.stopped (by simp [hw, WorkerPc.rank])
  refine { hinv with
    stopCh_sent := fun h => by dsimp only at h; omega
    stop_sent := fun _ h => by cases h
    stopped := fun _ => hs
    drained := fun _ => hn
    resultsClosed := by simp [hinv.resultsClosed, hw, WorkerPc.rank]
    bucketClosed := by simp [hinv.bucketClosed, hw, WorkerPc.rank]
    done := fun h => by cases h }

theorem closeResults (h : step cfg .closeResults s = some s') : Inv cfg s' := by
  obtain ⟨-, hw, ⟨hc, -⟩ | ⟨-, rfl⟩⟩ := step_closeResults.mp h
  · exact absurd (hinv.resultsClosed.mp hc) (by simp [hw, WorkerPc.rank])
  · have hs := hinv.stopped (by simp [hw, WorkerPc.rank])
    refine { hinv with
      stopCh_sent := fun h => by dsimp only at h; omega
      stop_sent := fun _ h => by cases h
      stopped := fun _ => hs
      drained := fun _ => hinv.drained (by simp [hw, WorkerPc.rank])
      resultsClosed := by simp [WorkerPc.rank]
      bucketClosed := by simp [hinv.bucketClosed, hw, WorkerPc.rank]
      reporterDone := fun hd => by
        -- the reporter ends only once the channel is closed, which it is not yet
        have hc := (hinv.reporterDone hd).1
        simp [hinv.resultsClosed, hw, WorkerPc.rank] at hc
      done := fun h => by cases h }

theorem closeBucket (h : step cfg .closeBucket s = some s') : Inv cfg s' := by
  obtain ⟨-, hw, ⟨hc, -⟩ | ⟨-, rfl⟩⟩ := step_closeBucket.mp h
  · exact absurd (hinv.bucketClosed.mp hc) (by simp [hw, WorkerPc.rank])
  · have hs := hinv.stopped (by simp [hw, WorkerPc.rank])
    refine { hinv with
      stopCh_sent := fun h => by dsimp only at h; omega
      stop_sent := fun _ h => by cases h
      stopped := fun _ => hs
      drained := fun _ => hinv.drained (by simp [hw, WorkerPc.rank])
      resultsClosed := by simp [hinv.resultsClosed, hw, WorkerPc.rank]
      bucketClosed := by simp [WorkerPc.rank]
      done := fun h => by cases h }

theorem finish (h : step cfg .finish s = some s') : Inv cfg s' := by
  obtain ⟨-, hw, hd, rfl⟩ := step_finish.mp h
  have hs := hinv.stopped (by simp [hw, WorkerPc.rank])
  refine { hinv with
    stopCh_sent := fun h => by dsimp only at h; omega
    stop_sent := fun _ h => by cases h
    stopped := fun _ => hs
    drained := fun _ => hinv.drained (by simp [hw, WorkerPc.rank])
    resultsClosed := by simp [hinv.resultsClosed, hw, WorkerPc.rank]
    bucketClosed := by simp [hinv.bucketClosed, hw, WorkerPc.rank]
    done := fun _ => hd }

theorem noConn (h : step cfg .noConn s = some s') : Inv cfg s' := by
  obtain ⟨-, hr, hs, rfl⟩ := step_noConn.mp h
  have hrank : s.worker.rank < 2 := by
    by_contra hlt
    have := hinv.drained (by omega)
    omega
  refine { hinv with
    tokens := by simp only [hinv.tokens]; omega
    drained := fun h => by dsimp only at h ⊢; omega
    noRequeue := fun h => by simp [hr] at h
    unsent := fun h => by simp [hr] at h }

theorem exchange (h : step cfg .exchange s = some s') : Inv cfg s' := by
  obtain ⟨-, hs, rfl⟩ := step_exchange.mp h
  have hrank : s.worker.rank < 2 := by
    by_contra hlt
    have := hinv.drained (by omega)
    omega
  refine { hinv with
    tokens := by simp only [hinv.tokens]; omega
    drained := fun h => by dsimp only at h ⊢; omega }

theorem requeued (h : step cfg .requeued s = some s') : Inv cfg s' := by
  obtain ⟨-, hr, ⟨hc, -⟩ | ⟨-, hb, rfl⟩⟩ := step_requeued.mp h
  · exact absurd hc (by simp [(hinv.open_of_requests (by omega)).2])
  · have hreq : cfg.requeue = true := by
      cases hq : cfg.requeue
      · have := hinv.noRequeue hq
        omega
      · rfl
    have hrank : s.worker.rank < 2 := by
      by_contra hlt
      have := hinv.drained (by omega)
      omega
    refine { hinv with
      tokens := by simp only [hinv.tokens]; omega
      bucket_le := hb
      drained := fun h => by dsimp only at h ⊢; omega
      noRequeue := fun h => by simp [hreq] at h
      unsent := fun h => by simp [hreq] at h }

theorem sendResult {res : α} (h : step cfg (.sendResult res) s = some s') : Inv cfg s' := by
  obtain ⟨-, he, ⟨hc, -⟩ | ⟨hc, -, rfl⟩⟩ := step_sendResult.mp h
  · exact absurd hc (by simp [(hinv.open_of_requests (by omega)).1])
  · have hrank : s.worker.rank < 2 := by
      by_contra hlt
      have := hinv.drained (by omega)
      omega
    refine { hinv with
      tokens := by simp only [hinv.tokens, List.length_append, List.length_singleton]; omega
      drained := fun h => by dsimp only at h ⊢; omega
      reporterDone := fun hd => by simp [hinv.reporterDone hd] at hc }

theorem receive (h : step cfg .receive s = some s') : Inv cfg s' := by
  obtain ⟨-, hd, res, rest, hres, rfl⟩ := step_receive.mp h
  refine { hinv with
    tokens := by
      simp only [hinv.tokens, hres, List.length_cons, List.length_append, List.length_nil]
      omega
    reporterDone := fun h => by simp [hd] at h }

theorem reporterDone' (h : step cfg .reporterDone s = some s') : Inv cfg s' := by
  obtain ⟨-, -, hres, hc, rfl⟩ := step_reporterDone.mp h
  exact { hinv with reporterDone := fun _ => ⟨hc, hres⟩, done := fun _ => rfl }

/-- **Every step keeps the invariant.** -/
theorem step {a : Action α} (h : LoadRequest.step cfg a s = some s') : Inv cfg s' := by
  cases a with
  | firstToken => exact hinv.firstToken h
  | deadline => exact hinv.deadline h
  | tick => exact hinv.tick h
  | tickSend => exact hinv.tickSend h
  | stop => exact hinv.stop h
  | takeToken => exact hinv.takeToken h
  | takeStop => exact hinv.takeStop h
  | waited => exact hinv.waited h
  | closeResults => exact hinv.closeResults h
  | closeBucket => exact hinv.closeBucket h
  | finish => exact hinv.finish h
  | noConn => exact hinv.noConn h
  | exchange => exact hinv.exchange h
  | requeued => exact hinv.requeued h
  | sendResult res => exact hinv.sendResult h
  | receive => exact hinv.receive h
  | reporterDone => exact hinv.reporterDone' h

end Inv

/-- Every reachable state of a run keeps the invariant. -/
theorem inv_reachable {s : Work α} (h : Reachable (Step cfg) Work.init s) : Inv cfg s :=
  Reachable.invariant (Inv cfg) inv_init (fun _ _ _ hinv ⟨_, hstep⟩ => hinv.step hstep) h

end Invariant

/-! ## Where no token comes back, every run ends -/

/-- How much is left for the token goroutine to do. -/
def TokenPc.weight : TokenPc → Nat
  | first => 3
  | loop => 2
  | sending => 1
  | stopping => 1
  | done => 0

/-- What is left of a run without requeues: the token goroutine's steps, six
for each token still to hand out (tick, send, take, exchange, send, read), the
steps of every token on its way, the worker's and the reporter's. -/
def Work.measure {α : Type} (cfg : WorkConfig) (s : Work α) : Nat :=
  s.token.weight + 6 * (cfg.qps * cfg.requestTimeSecond - s.requestRound) + 4 * s.bucket +
    3 * s.starting + 2 * s.exchanging + s.results.length + (5 - s.worker.rank) +
    (if s.reporterDone then 0 else 1)

section Progress

variable {α : Type} {cfg : WorkConfig} {s s' : Work α}

/-- A step that panics leaves a state outside the invariant. -/
theorem Inv.not_crash {msg : String} (h : Inv cfg (s.crash msg)) : False := by
  simpa [Work.crash] using h.panic

/-- Without requeues, every step lowers the measure. -/
theorem Inv.measure_lt (hinv : Inv cfg s) (hreq : cfg.requeue = false) {a : Action α}
    (h : LoadRequest.step cfg a s = some s') : s'.measure cfg < s.measure cfg := by
  have hinv' := hinv.step h
  have hrank := Nat.le_of_lt_succ (show s.worker.rank < 6 by cases s.worker <;> decide)
  cases a with
  | firstToken =>
    obtain ⟨-, ht, ⟨-, rfl⟩ | ⟨-, -, rfl⟩⟩ := step_firstToken.mp h
    · exact hinv'.not_crash.elim
    · have hpos := Nat.mul_pos cfg.qps_pos cfg.requestTimeSecond_pos
      have h0 := hinv.first ht
      simp only [Work.measure, ht, TokenPc.weight]
      omega
  | deadline =>
    obtain ⟨-, ht, rfl⟩ := step_deadline.mp h
    simp only [Work.measure, ht, TokenPc.weight]
    omega
  | tick =>
    obtain ⟨-, ht, -, rfl⟩ := step_tick.mp h
    simp only [Work.measure, ht, TokenPc.weight]
    omega
  | tickSend =>
    obtain ⟨-, ht, ⟨-, rfl⟩ | ⟨-, -, rfl⟩⟩ := step_tickSend.mp h
    · exact hinv'.not_crash.elim
    · have hr := hinv.sending ht
      simp only [Work.measure, ht, TokenPc.weight]
      omega
  | stop =>
    obtain ⟨-, ht, -, rfl⟩ := step_stop.mp h
    simp only [Work.measure, ht, TokenPc.weight]
    omega
  | takeToken =>
    obtain ⟨-, hw, hb, rfl⟩ := step_takeToken.mp h
    have hb : 0 < s.bucket := by simpa [(hinv.open_of_loop hw).2] using hb
    simp only [Work.measure]
    omega
  | takeStop =>
    obtain ⟨-, hw, -, rfl⟩ := step_takeStop.mp h
    simp only [Work.measure, hw, WorkerPc.rank]
    omega
  | waited =>
    obtain ⟨-, hw, -, rfl⟩ := step_waited.mp h
    simp only [Work.measure, hw, WorkerPc.rank]
    omega
  | closeResults =>
    obtain ⟨-, hw, ⟨-, rfl⟩ | ⟨-, rfl⟩⟩ := step_closeResults.mp h
    · exact hinv'.not_crash.elim
    · simp only [Work.measure, hw, WorkerPc.rank]
      omega
  | closeBucket =>
    obtain ⟨-, hw, ⟨-, rfl⟩ | ⟨-, rfl⟩⟩ := step_closeBucket.mp h
    · exact hinv'.not_crash.elim
    · simp only [Work.measure, hw, WorkerPc.rank]
      omega
  | finish =>
    obtain ⟨-, hw, -, rfl⟩ := step_finish.mp h
    simp only [Work.measure, hw, WorkerPc.rank]
    omega
  | noConn =>
    obtain ⟨-, hr, -⟩ := step_noConn.mp h
    simp [hreq] at hr
  | exchange =>
    obtain ⟨-, hs, rfl⟩ := step_exchange.mp h
    simp only [Work.measure]
    omega
  | requeued =>
    obtain ⟨-, hr, -⟩ := step_requeued.mp h
    have := hinv.noRequeue hreq
    omega
  | sendResult res =>
    obtain ⟨-, he, ⟨-, rfl⟩ | ⟨-, -, rfl⟩⟩ := step_sendResult.mp h
    · exact hinv'.not_crash.elim
    · simp only [Work.measure, List.length_append, List.length_singleton]
      omega
  | receive =>
    obtain ⟨-, -, res, rest, hres, rfl⟩ := step_receive.mp h
    simp only [Work.measure, hres, List.length_cons]
    omega
  | reporterDone =>
    obtain ⟨-, hd, -, -, rfl⟩ := step_reporterDone.mp h
    simp only [Work.measure, hd, Bool.false_eq_true, ↓reduceIte]
    omega

/-- Without requeues, a run that has not returned can always go on: some
goroutine can move. -/
theorem Inv.progress (hinv : Inv cfg s) (hreq : cfg.requeue = false) (res : α)
    (hw : s.worker ≠ .done) : ∃ a s', LoadRequest.step cfg a s = some s' := by
  have hp := hinv.panic
  cases hwk : s.worker with
  | loop =>
    have hopen := hinv.open_of_loop hwk
    by_cases hb : 0 < s.bucket
    · exact ⟨_, _, step_takeToken.mpr ⟨hp, hwk, .inl hb, rfl⟩⟩
    by_cases hc : 0 < s.stopCh
    · exact ⟨_, _, step_takeStop.mpr ⟨hp, hwk, hc, rfl⟩⟩
    -- nothing for the worker to take: the token goroutine can move
    have hq := cfg.qps_pos
    cases ht : s.token with
    | first => exact ⟨_, _, step_firstToken.mpr ⟨hp, ht, .inr ⟨hopen.2, by omega, rfl⟩⟩⟩
    | loop => exact ⟨_, _, step_deadline.mpr ⟨hp, ht, rfl⟩⟩
    | sending => exact ⟨_, _, step_tickSend.mpr ⟨hp, ht, .inr ⟨hopen.2, by omega, rfl⟩⟩⟩
    | stopping => exact ⟨_, _, step_stop.mpr ⟨hp, ht, by omega, rfl⟩⟩
    | done =>
      have := hinv.stop_sent ht hwk
      omega
  | wait =>
    by_cases hn : s.starting + s.requeueing + s.exchanging = 0
    · exact ⟨_, _, step_waited.mpr ⟨hp, hwk, hn, rfl⟩⟩
    have hrq := hinv.noRequeue hreq
    have hclosed : s.resultsClosed = false := by
      simp [← Bool.not_eq_true, hinv.resultsClosed, hwk, WorkerPc.rank]
    by_cases hs : 0 < s.starting
    · exact ⟨_, _, step_exchange.mpr ⟨hp, hs, rfl⟩⟩
    -- a request with a result sends it, or the reporter makes room for it
    rcases hres : s.results with _ | ⟨r, rest⟩
    · exact ⟨.sendResult res, _,
        step_sendResult.mpr ⟨hp, by omega, .inr ⟨hclosed, by simp [hres, maxResult], rfl⟩⟩⟩
    · have hd : s.reporterDone = false := by
        cases hd : s.reporterDone
        · rfl
        · simp [(hinv.reporterDone hd).2] at hres
      exact ⟨_, _, step_receive.mpr ⟨hp, hd, r, rest, hres, rfl⟩⟩
  | closeResults =>
    have hclosed : s.resultsClosed = false := by
      simp [← Bool.not_eq_true, hinv.resultsClosed, hwk, WorkerPc.rank]
    exact ⟨_, _, step_closeResults.mpr ⟨hp, hwk, .inr ⟨hclosed, rfl⟩⟩⟩
  | closeBucket =>
    have hclosed : s.bucketClosed = false := by
      simp [← Bool.not_eq_true, hinv.bucketClosed, hwk, WorkerPc.rank]
    exact ⟨_, _, step_closeBucket.mpr ⟨hp, hwk, .inr ⟨hclosed, rfl⟩⟩⟩
  | awaitReporter =>
    cases hd : s.reporterDone
    · rcases hres : s.results with _ | ⟨r, rest⟩
      · have hclosed := hinv.resultsClosed.mpr (by simp [hwk, WorkerPc.rank])
        exact ⟨_, _, step_reporterDone.mpr ⟨hp, hd, hres, hclosed, rfl⟩⟩
      · exact ⟨_, _, step_receive.mpr ⟨hp, hd, r, rest, hres, rfl⟩⟩
    · exact ⟨_, _, step_finish.mpr ⟨hp, hwk, hd, rfl⟩⟩
  | done => exact absurd hwk hw

/-- Once `Run` has returned, the reporter has read every result, and each
token handed out is either left in the bucket or counted once. -/
theorem Inv.returned (hinv : Inv cfg s) (hw : s.worker = .done) :
    s.results = [] ∧ s.received.length + s.bucket = s.requestRound := by
  have hres := (hinv.reporterDone (hinv.done hw)).2
  have hn := hinv.drained (by simp [hw, WorkerPc.rank])
  refine ⟨hres, ?_⟩
  have := hinv.tokens
  simp only [hres, List.length_nil] at this
  omega

end Progress

/-! ## Every run -/

/-- **Every run of a load test is safe.** In every state any interleaving of
the goroutines reaches, in `loadHttp` and in `loadDns` over any protocol:
no goroutine has panicked (no send on or close of a closed channel), the
bucket holds at most `QPS` tokens, at most `QPS * RequestTimeSecond` tokens
have been handed out, and no more results have been sent than tokens. -/
theorem work_safe {α : Type} (cfg : WorkConfig) {s : Work α}
    (h : Reachable (Step cfg) Work.init s) :
    s.panic = none ∧ s.bucket ≤ cfg.qps ∧
      s.results.length + s.received.length ≤ s.requestRound ∧
      s.requestRound ≤ cfg.qps * cfg.requestTimeSecond := by
  have hinv := inv_reachable h
  refine ⟨hinv.panic, hinv.bucket_le, ?_, hinv.round_le⟩
  have := hinv.tokens
  omega

/-- The CRD's default rate: 5 queries a second for 2 seconds. -/
def defaultRate : LoadRate := ⟨5, 2, by decide, by decide⟩

/-- A run after its first token, which a request goroutine holds. -/
def firstRequest {α : Type} : Work α := { Work.init with token := .loop, requestRound := 1, starting := 1 }

theorem work_safe_firstRequest :
    Reachable (Step (LoadDns.workConfig defaultRate "udp")) Work.init (firstRequest : Work LoadDns.Result) ∧
      (firstRequest : Work LoadDns.Result).panic = none ∧
      (firstRequest : Work LoadDns.Result).bucket ≤ defaultRate.qps ∧
      (firstRequest : Work LoadDns.Result).results.length +
          (firstRequest : Work LoadDns.Result).received.length ≤
        (firstRequest : Work LoadDns.Result).requestRound ∧
      (firstRequest : Work LoadDns.Result).requestRound ≤
        defaultRate.qps * defaultRate.requestTimeSecond :=
  have hr : Reachable (Step (LoadDns.workConfig defaultRate "udp")) Work.init
      (firstRequest : Work LoadDns.Result) :=
    (Reachable.refl.tail ⟨.firstToken, step_firstToken.mpr ⟨rfl, rfl, .inr ⟨rfl, by decide, rfl⟩⟩⟩).tail
      ⟨.takeToken, step_takeToken.mpr ⟨rfl, rfl, .inl (by decide), rfl⟩⟩
  ⟨hr, work_safe (LoadDns.workConfig defaultRate "udp") hr⟩

section Returns

variable {α : Type} {cfg : WorkConfig} {s : Work α}

/-- Without requeues there is no infinite run. -/
theorem run_wellFounded (hreq : cfg.requeue = false) :
    WellFounded fun s' s : Work α => Reachable (Step cfg) Work.init s ∧ Step cfg s s' :=
  Reachable.wellFounded_of_measure (Work.measure cfg)
    fun _ _ hr ⟨_, h⟩ => (inv_reachable hr).measure_lt hreq h

/-- Without requeues, a run that can go no further has returned, with every
token it did not leave in the bucket counted by the reporter; and when the
deadline found the bucket empty, with every token counted. -/
theorem returned_of_stuck (hreq : cfg.requeue = false) (res : α)
    (hr : Reachable (Step cfg) Work.init s) (hstuck : ∀ a, step cfg a s = none) :
    s.worker = .done ∧ s.received.length + s.bucket = s.requestRound ∧
      (s.existsNotSendRequests = false → s.bucket = 0) := by
  have hinv := inv_reachable hr
  have hw : s.worker = .done := by
    by_contra hw
    obtain ⟨a, s', h⟩ := hinv.progress hreq res hw
    rw [hstuck a] at h
    cases h
  have ht := (hinv.stopped (by simp [hw, WorkerPc.rank])).1
  exact ⟨hw, (hinv.returned hw).2, hinv.unsent hreq (.inr ht)⟩

end Returns

/-- `AggregateMetric` of `loadHttp` once `Run` has returned: the report the
reporter built from the results it read, with the run's note on unsent
requests. -/
def LoadHttp.workMetrics (enableLatencyMetric : Bool) (s : Work LoadHttp.Result) :
    LoadHttp.HttpMetrics :=
  LoadHttp.aggregateMetric enableLatencyMetric
    (LoadHttp.runReporter (LoadHttp.newReport enableLatencyMetric s.existsNotSendRequests) s.received)

/-- The reporter leaves the note on unsent requests as it was. -/
theorem LoadHttp.runReporter_existsNotSendRequests (r : LoadHttp.Report) (rs : List LoadHttp.Result) :
    (LoadHttp.runReporter r rs).existsNotSendRequests = r.existsNotSendRequests := by
  have hrecord : ∀ (r : LoadHttp.Report) (res : LoadHttp.Result),
      (r.record res).existsNotSendRequests = r.existsNotSendRequests := by
    intro r res
    rcases res with ⟨_ | err, d, code, len⟩
    · cases r.enableLatencyMetric <;> simp only [LoadHttp.Report.record] <;> split_ifs <;> rfl
    · rfl
  exact @Transition.foldl_invariant _ _ (fun _ r' => r'.existsNotSendRequests = r.existsNotSendRequests)
    _ (fun _ r' res h => (hrecord r' res).trans h) [] r rfl rs

/-- The metrics of a returned run count the results the reporter read. -/
theorem LoadHttp.workMetrics_requestCounts (enableLatencyMetric : Bool) (s : Work LoadHttp.Result) :
    (LoadHttp.workMetrics enableLatencyMetric s).requestCounts = s.received.length ∧
      (LoadHttp.workMetrics enableLatencyMetric s).existsNotSendRequests = s.existsNotSendRequests := by
  have hc := (LoadHttp.counts_runReporter
    (LoadHttp.counts_newReport enableLatencyMetric s.existsNotSendRequests) s.received).totalCount
  rw [List.nil_append] at hc
  exact ⟨hc, LoadHttp.runReporter_existsNotSendRequests _ _⟩

/-- **Every HTTP load test returns, and counts what it sent.** However the
goroutines interleave, no run of `loadHttp` goes on for ever, and a run that
can go no further has returned from `Run` without a panic. Its metrics then
count one request for each token handed out and not left in the bucket, at
most `QPS * RequestTimeSecond`; and when they report no unsent requests, one
for each token handed out. -/
theorem httpRun_completes (rate : LoadRate) (enableLatencyMetric : Bool) :
    (WellFounded fun s' s : Work LoadHttp.Result =>
      Reachable (Step (LoadHttp.workConfig rate)) Work.init s ∧ Step (LoadHttp.workConfig rate) s s') ∧
    ∀ s : Work LoadHttp.Result, Reachable (Step (LoadHttp.workConfig rate)) Work.init s →
      (∀ a, step (LoadHttp.workConfig rate) a s = none) →
      s.worker = .done ∧ s.panic = none ∧
      (LoadHttp.workMetrics enableLatencyMetric s).requestCounts + s.bucket = s.requestRound ∧
      s.requestRound ≤ rate.qps * rate.requestTimeSecond ∧
      ((LoadHttp.workMetrics enableLatencyMetric s).existsNotSendRequests = false →
        (LoadHttp.workMetrics enableLatencyMetric s).requestCounts = s.requestRound) := by
  refine ⟨run_wellFounded rfl, fun s hr hstuck => ?_⟩
  obtain ⟨hw, hcount, hunsent⟩ := returned_of_stuck rfl ⟨none, 0, 0, 0⟩ hr hstuck
  obtain ⟨hreq, hflag⟩ := LoadHttp.workMetrics_requestCounts enableLatencyMetric s
  have hinv := inv_reachable hr
  refine ⟨hw, hinv.panic, by omega, hinv.round_le, fun h => ?_⟩
  have := hunsent (hflag ▸ h)
  omega

/-- `AggregateMetric` of `loadDns` once `Run` has returned. -/
def LoadDns.workMetrics (enableLatencyMetric : Bool) (s : Work LoadDns.Result) : LoadDns.DNSMetrics :=
  LoadDns.aggregateMetric enableLatencyMetric
    (LoadDns.runReporter (LoadDns.newReport enableLatencyMetric s.existsNotSendRequests) s.received)

/-- The reporter leaves the note on unsent requests as it was. -/
theorem LoadDns.runReporter_existsNotSendRequests (r : LoadDns.Report) (rs : List LoadDns.Result) :
    (LoadDns.runReporter r rs).existsNotSendRequests = r.existsNotSendRequests := by
  have hrecord : ∀ (r : LoadDns.Report) (res : LoadDns.Result),
      (r.record res).existsNotSendRequests = r.existsNotSendRequests := by
    intro r res
    rcases res with ⟨_ | err, d, rcode⟩
    · cases r.enableLatencyMetric <;> simp only [LoadDns.Report.record] <;> split_ifs <;> rfl
    · rfl
  exact @Transition.foldl_invariant _ _ (fun _ r' => r'.existsNotSendRequests = r.existsNotSendRequests)
    _ (fun _ r' res h => (hrecord r' res).trans h) [] r rfl rs

/-- The metrics of a returned run count the results the reporter read, each
as a success or a failure. -/
theorem LoadDns.workMetrics_counts (enableLatencyMetric : Bool) (s : Work LoadDns.Result) :
    (LoadDns.workMetrics enableLatencyMetric s).requestCounts = s.received.length ∧
      (LoadDns.workMetrics enableLatencyMetric s).successCounts +
          (LoadDns.workMetrics enableLatencyMetric s).failedCounts = s.received.length ∧
      (LoadDns.workMetrics enableLatencyMetric s).existsNotSendRequests = s.existsNotSendRequests := by
  have hc := LoadDns.counts_runReporter
    (LoadDns.counts_newReport enableLatencyMetric s.existsNotSendRequests) s.received
  rw [List.nil_append] at hc
  -- every result the reporter read failed or did not
  have hsplit := List.length_eq_length_filter_add (l := s.received)
    fun res : LoadDns.Result => res.err.isSome
  simp only [Option.not_isSome] at hsplit
  refine ⟨hc.totalCount, ?_, LoadDns.runReporter_existsNotSendRequests _ _⟩
  show (LoadDns.runReporter _ _).successCount + (LoadDns.runReporter _ _).failedCount = _
  rw [hc.successCount, hc.failedCount]
  omega

/-- **A DNS load test over TCP returns, and counts what it sent.** Over
`tcp` and `tcp-tls` no request gives its token back, so, however the
goroutines interleave, no run goes on for ever, and a run that can go no
further has returned from `Run` without a panic, with one success or failure
in its metrics for each token handed out and not left in the bucket; and
when they report no unsent requests, one for each token handed out. -/
theorem dnsRun_completes (rate : LoadRate) (protocol : String) (hp : protocol ≠ "udp")
    (enableLatencyMetric : Bool) :
    (WellFounded fun s' s : Work LoadDns.Result =>
      Reachable (Step (LoadDns.workConfig rate protocol)) Work.init s ∧
        Step (LoadDns.workConfig rate protocol) s s') ∧
    ∀ s : Work LoadDns.Result, Reachable (Step (LoadDns.workConfig rate protocol)) Work.init s →
      (∀ a, step (LoadDns.workConfig rate protocol) a s = none) →
      s.worker = .done ∧ s.panic = none ∧
      (LoadDns.workMetrics enableLatencyMetric s).successCounts +
          (LoadDns.workMetrics enableLatencyMetric s).failedCounts + s.bucket = s.requestRound ∧
      s.requestRound ≤ rate.qps * rate.requestTimeSecond ∧
      ((LoadDns.workMetrics enableLatencyMetric s).existsNotSendRequests = false →
        (LoadDns.workMetrics enableLatencyMetric s).requestCounts = s.requestRound) := by
  have hreq : (LoadDns.workConfig rate protocol).requeue = false := by
    simp [LoadDns.workConfig, hp]
  refine ⟨run_wellFounded hreq, fun s hr hstuck => ?_⟩
  obtain ⟨hw, hcount, hunsent⟩ := returned_of_stuck hreq ⟨none, 0, ""⟩ hr hstuck
  obtain ⟨htotal, hsplit, hflag⟩ := LoadDns.workMetrics_counts enableLatencyMetric s
  have hinv := inv_reachable hr
  refine ⟨hw, hinv.panic, by omega, hinv.round_le, fun h => ?_⟩
  have := hunsent (hflag ▸ h)
  omega

theorem dnsRun_completes_tcp :
    "tcp" ≠ "udp" ∧
      (WellFounded fun s' s : Work LoadDns.Result =>
        Reachable (Step (LoadDns.workConfig defaultRate "tcp")) Work.init s ∧
          Step (LoadDns.workConfig defaultRate "tcp") s s') ∧
      ∀ s : Work LoadDns.Result, Reachable (Step (LoadDns.workConfig defaultRate "tcp")) Work.init s →
        (∀ a, step (LoadDns.workConfig defaultRate "tcp") a s = none) →
        s.worker = .done ∧ s.panic = none ∧
        (LoadDns.workMetrics false s).successCounts + (LoadDns.workMetrics false s).failedCounts +
            s.bucket = s.requestRound ∧
        s.requestRound ≤ defaultRate.qps * defaultRate.requestTimeSecond ∧
        ((LoadDns.workMetrics false s).existsNotSendRequests = false →
          (LoadDns.workMetrics false s).requestCounts = s.requestRound) :=
  ⟨by decide, dnsRun_completes defaultRate "tcp" (by decide) false⟩

/-! ## A UDP run of `loadDns` can hang -/

section Deadlock

open Relation

variable {α : Type} {cfg : WorkConfig}

/-- Before the deadline, `n` tokens handed out, each taken by a request
goroutine that has not asked its pool for a connection yet. -/
def dealt (n : Nat) : Work α := { Work.init with token := .loop, requestRound := n, starting := n }

/-- After the worker took the stop signal and waits for the request
goroutines: `starting` of them not yet at their pool, `requeueing` putting
their token back, and `bucket` tokens back in the bucket. -/
def hung (round starting requeueing bucket : Nat) : Work α :=
  { Work.init with
    token := .done, worker := .wait, requestRound := round, starting := starting
    requeueing := requeueing, bucket := bucket }

theorem init_dealt : ReflTransGen (Step cfg) (Work.init : Work α) (dealt 1) :=
  (ReflTransGen.single ⟨.firstToken, step_firstToken.mpr ⟨rfl, rfl, .inr ⟨rfl, cfg.qps_pos, rfl⟩⟩⟩).tail
    ⟨.takeToken, step_takeToken.mpr ⟨rfl, rfl, .inl Nat.one_pos, rfl⟩⟩

/-- A tick hands out one more token, and the worker gives it to a new request
goroutine. -/
theorem dealt_succ {n : Nat} (hn : n < cfg.qps * cfg.requestTimeSecond) :
    ReflTransGen (Step cfg) (dealt n : Work α) (dealt (n + 1)) :=
  ((ReflTransGen.single ⟨.tick, step_tick.mpr ⟨rfl, rfl, hn, rfl⟩⟩).tail
      ⟨.tickSend, step_tickSend.mpr ⟨rfl, rfl, .inr ⟨rfl, cfg.qps_pos, rfl⟩⟩⟩).tail
    ⟨.takeToken, step_takeToken.mpr ⟨rfl, rfl, .inl Nat.one_pos, rfl⟩⟩

theorem dealt_run {n : Nat} (hn : n + 1 ≤ cfg.qps * cfg.requestTimeSecond) :
    ReflTransGen (Step cfg) (dealt 1 : Work α) (dealt (n + 1)) := by
  induction n with
  | zero => exact ReflTransGen.refl
  | succ n ih => exact (ih (by omega)).trans (dealt_succ (by omega))

/-- The deadline finds the bucket empty, and the worker takes the stop
signal. -/
theorem dealt_hung (n : Nat) : ReflTransGen (Step cfg) (dealt n : Work α) (hung n n 0 0) :=
  ((ReflTransGen.single ⟨.deadline, step_deadline.mpr ⟨rfl, rfl, rfl⟩⟩).tail
      ⟨.stop, step_stop.mpr ⟨rfl, rfl, rfl, rfl⟩⟩).tail
    ⟨.takeStop, step_takeStop.mpr ⟨rfl, rfl, Nat.one_pos, rfl⟩⟩

/-- Every request goroutine finds no connection in its pool. -/
theorem hung_noConn (hreq : cfg.requeue = true) {round bucket : Nat} (k m : Nat) :
    ReflTransGen (Step cfg) (hung round k m bucket : Work α) (hung round 0 (m + k) bucket) := by
  induction k generalizing m with
  | zero => exact ReflTransGen.refl
  | succ k ih =>
    rw [show m + (k + 1) = m + 1 + k by omega]
    exact ReflTransGen.head ⟨.noConn, step_noConn.mpr ⟨rfl, hreq, Nat.succ_pos k, rfl⟩⟩ (ih (m + 1))

/-- Request goroutines put their tokens back while the bucket has room. -/
theorem hung_requeued {round : Nat} (m : Nat) {k bucket : Nat} (hk : bucket + k ≤ cfg.qps) :
    ReflTransGen (Step cfg) (hung round 0 (m + k) bucket : Work α) (hung round 0 m (bucket + k)) := by
  induction k generalizing bucket with
  | zero => exact ReflTransGen.refl
  | succ k ih =>
    rw [show bucket + (k + 1) = bucket + 1 + k by omega]
    exact ReflTransGen.head
      ⟨.requeued, step_requeued.mpr ⟨rfl, Nat.succ_pos _, .inr ⟨rfl, (by omega : bucket < cfg.qps), rfl⟩⟩⟩
      (@ih (bucket + 1) (by omega))

/-- One request goroutine blocked putting its token back into a full bucket,
and the worker waiting for it: no goroutine can move. -/
theorem hung_stuck {round : Nat} (a : Action α) : step cfg a (hung round 0 1 cfg.qps) = none := by
  cases a <;> simp [step, hung, Work.init, chanSend]

/-- **A UDP DNS load test can hang for ever.** For every rate of two seconds
or more, some interleaving of a UDP run of `loadDns` reaches a state where
no goroutine can move and `Run` has not returned: the worker waits on the
wait group for a request goroutine that is putting its token back into a full
bucket, which nobody empties after the stop signal. It takes `QPS + 1`
requests that find no connection in their pool after the worker has taken
the stop signal; when the DNS server cannot be dialled, every request does. -/
theorem dnsRun_deadlock (rate : LoadRate) (hT : 2 ≤ rate.requestTimeSecond) :
    ∃ s : Work LoadDns.Result, Reachable (Step (LoadDns.workConfig rate "udp")) Work.init s ∧
      s.worker = .wait ∧ s.requeueing = 1 ∧ s.bucket = rate.qps ∧
      ∀ a, step (LoadDns.workConfig rate "udp") a s = none := by
  have hreq : (LoadDns.workConfig rate "udp").requeue = true := rfl
  have hq := rate.qps_pos
  -- QPS + 1 tokens handed out before the deadline, which a rate of two seconds allows
  have hbound : rate.qps + 1 ≤ rate.qps * rate.requestTimeSecond :=
    calc rate.qps + 1 ≤ rate.qps * 2 := by omega
      _ ≤ rate.qps * rate.requestTimeSecond := Nat.mul_le_mul_left rate.qps hT
  refine ⟨hung (rate.qps + 1) 0 1 rate.qps, ?_, rfl, rfl, rfl, hung_stuck⟩
  have hfail := @hung_noConn LoadDns.Result _ hreq (rate.qps + 1) 0 (rate.qps + 1) 0
  have hback := @hung_requeued LoadDns.Result (LoadDns.workConfig rate "udp") (rate.qps + 1) 1
    rate.qps 0 (by simp [LoadDns.workConfig])
  rw [Nat.zero_add] at hfail
  rw [Nat.zero_add, Nat.add_comm 1] at hback
  exact (((init_dealt.trans (dealt_run hbound)).trans (dealt_hung _)).trans hfail).trans hback

theorem dnsRun_deadlock_defaultRate :
    2 ≤ defaultRate.requestTimeSecond ∧
      ∃ s : Work LoadDns.Result, Reachable (Step (LoadDns.workConfig defaultRate "udp")) Work.init s ∧
        s.worker = .wait ∧ s.requeueing = 1 ∧ s.bucket = defaultRate.qps ∧
        ∀ a, step (LoadDns.workConfig defaultRate "udp") a s = none :=
  ⟨by decide, dnsRun_deadlock defaultRate (by decide)⟩

/-- A run stuck for good: after the stop signal the worker waits on the wait
group for a request goroutine that puts its token back into a full bucket.
Requests that hold a connection may still send their results. -/
structure Blocked (cfg : WorkConfig) (s : Work α) : Prop where
  panic : s.panic = none
  token : s.token = .done
  worker : s.worker = .wait
  stopCh : s.stopCh = 0
  starting : s.starting = 0
  requeueing : 0 < s.requeueing
  bucket : s.bucket = cfg.qps
  bucketClosed : s.bucketClosed = false
  resultsClosed : s.resultsClosed = false

variable {s s' : Work α}

/-- What can still happen in a blocked run keeps it blocked: a request sends
its result, or the reporter reads one. -/
theorem Blocked.step (hb : Blocked cfg s) {a : Action α} (h : step cfg a s = some s') :
    Blocked cfg s' := by
  cases a with
  | sendResult res =>
    obtain ⟨-, -, ⟨hc, -⟩ | ⟨-, -, rfl⟩⟩ := step_sendResult.mp h
    · simp [hb.resultsClosed] at hc
    · exact ⟨hb.1, hb.2, hb.3, hb.4, hb.5, hb.6, hb.7, hb.8, hb.9⟩
  | receive =>
    obtain ⟨-, -, _, _, -, rfl⟩ := step_receive.mp h
    exact ⟨hb.1, hb.2, hb.3, hb.4, hb.5, hb.6, hb.7, hb.8, hb.9⟩
  -- the token goroutine is done
  | firstToken => obtain ⟨-, ht, -⟩ := step_firstToken.mp h; simp [hb.token] at ht
  | deadline => obtain ⟨-, ht, -⟩ := step_deadline.mp h; simp [hb.token] at ht
  | tick => obtain ⟨-, ht, -⟩ := step_tick.mp h; simp [hb.token] at ht
  | tickSend => obtain ⟨-, ht, -⟩ := step_tickSend.mp h; simp [hb.token] at ht
  | stop => obtain ⟨-, ht, -⟩ := step_stop.mp h; simp [hb.token] at ht
  -- the worker waits
  | takeToken => obtain ⟨-, hw, -⟩ := step_takeToken.mp h; simp [hb.worker] at hw
  | takeStop => obtain ⟨-, hw, -⟩ := step_takeStop.mp h; simp [hb.worker] at hw
  | waited => obtain ⟨-, -, hn, -⟩ := step_waited.mp h; have := hb.requeueing; omega
  | closeResults => obtain ⟨-, hw, -⟩ := step_closeResults.mp h; simp [hb.worker] at hw
  | closeBucket => obtain ⟨-, hw, -⟩ := step_closeBucket.mp h; simp [hb.worker] at hw
  | finish => obtain ⟨-, hw, -⟩ := step_finish.mp h; simp [hb.worker] at hw
  -- no request is before its connection, and the bucket is full
  | noConn => obtain ⟨-, -, hs, -⟩ := step_noConn.mp h; simp [hb.starting] at hs
  | exchange => obtain ⟨-, hs, -⟩ := step_exchange.mp h; simp [hb.starting] at hs
  | requeued =>
    obtain ⟨-, -, ⟨hc, -⟩ | ⟨-, hlt, -⟩⟩ := step_requeued.mp h
    · simp [hb.bucketClosed] at hc
    · simp [hb.bucket] at hlt
  | reporterDone => obtain ⟨-, -, -, hc, -⟩ := step_reporterDone.mp h; simp [hb.resultsClosed] at hc

/-- A blocked run never returns: whatever happens next, the worker waits. -/
theorem Blocked.run (hb : Blocked cfg s) (hr : ReflTransGen (Step cfg) s s') : Blocked cfg s' := by
  induction hr with
  | refl => exact hb
  | tail _ hlast ih =>
    obtain ⟨_, hs⟩ := hlast
    exact ih.step hs

end Deadlock

end KDoctor.LoadRequest
