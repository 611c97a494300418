import KDoctor.Lib.GoHeap
import KDoctor.Lib.Transition
import KDoctor.PluginManager.ControllerTools

/-!
The connection pool that `loadDns` takes its UDP connections from
(`github.com/ii2day/connexus`, `pool.go`, `conn.go` and `heap.go`).

A `connexPool` keeps its idle connections in a `PriorityQueue` under
`container/heap`, and counts in `count` the connections it has dialled.
`Get` pops an idle connection, or dials a new one while `count` is below
`maxIdleCap`; `Connex.Close` puts a connection back, or closes it when the
pool is closed or full; `Close` closes the pool and every idle connection;
the `inducer` goroutine sorts the idle connections once a second. The
counter only goes up: a dial that fails and a connection that is closed keep
their place in it.

The model is the pool with the goroutines that use it (`PoolState`): each
holds the connections `Get` gave it and calls `Close` once on each, as
`makeRequest` of `loadDns` does, in any interleaving with the `inducer`, the
pool's own `Close` and a clock that does not go back. A connection is named
by its `net.Conn`; what the factory returns is free.

In every state reachable from the pool `NewConnexPool` returns
(`pool_safe`), no `net.Conn` is open twice and `Get` never hands out one a
user holds, and the idle connections, the held ones, the failed dials and
the closed connections add up to `count`, at most `maxIdleCap`. `Get` hands
out the idle connection put back last (`pool_get_latest`), although the
comment on `Less` asks for the oldest. A `Get` whose dial answers fails
exactly when the held connections, the failed dials and the closed
connections fill `maxIdleCap` (`pool_get_ok_iff`), and a place of `count`
once lost is lost for good: when failed dials and closed connections alone
fill `maxIdleCap`, no `Get` succeeds again (`pool_exhausted`). And `Connex.Close`, which its comment
says may be called many times, puts a connection back twice when called
twice (`close_twice`).
-/

namespace KDoctor.Connexus

open Transition

/-- `ErrClosed`. -/
def errClosed : String := "pool is closed"

/-- `MaxConnectCount`. -/
def maxConnectCount : Nat := 20000

/-- `MaxIdleConnectCount`. -/
def maxIdleConnectCount : Nat := 25000

/-- A `Connex`: the `net.Conn` it wraps (by a name), the time it was
created or last put back, whether `MarkUnusable` was called, and whether its
`cp` is set (`pooled`). -/
structure Connex where
  conn : Nat
  updatedTime : Int
  unusable : Bool
  pooled : Bool
  deriving DecidableEq, Repr, Inhabited

/-- `PriorityQueue.Less`: `pq[i].updatedTime.Sub(pq[j].updatedTime) > 0`. -/
def Connex.less (x y : Connex) : Bool := decide (0 < Go.sub x.updatedTime y.updatedTime)

/-- A `connexPool`: its idle connections (`freeConn`, `nil` once closed),
`cap`, `maxIdleCap` and `count`. -/
structure ConnexPool where
  freeConn : Option (Array Connex)
  cap : Nat
  maxIdleCap : Nat
  count : Nat
  deriving DecidableEq, Repr

/-- `wrapConn`: the `Connex` of a new connection, stamped with the time. -/
def wrapConn (now : Int) (conn : Nat) : Connex := ⟨conn, now, false, true⟩

namespace ConnexPool

/-- `put`: push the connection on the idle heap, unless the pool is closed or
holds `cap` idle connections. -/
def put (cp : ConnexPool) (c : Connex) : ConnexPool × Option String :=
  match cp.freeConn with
  | none => (cp, some errClosed)
  | some free =>
    if cp.cap ≤ free.size then (cp, some "pool have been filled")
    else ({ cp with freeConn := some (GoHeap.push Connex.less free c) }, none)

/-- `Len`. -/
def len (cp : ConnexPool) : Nat :=
  match cp.freeConn with
  | none => 0
  | some free => free.size

/-- `Get` at time `now`, with what the factory returns if `Get` dials: a
connection or the dialer's error. -/
def get (now : Int) (dial : Except String Nat) (cp : ConnexPool) : ConnexPool × Except String Connex :=
  match cp.freeConn with
  | none => (cp, .error errClosed)
  | some free =>
    if 0 < free.size then
      ({ cp with freeConn := some (GoHeap.pop Connex.less free).2 }, .ok (GoHeap.pop Connex.less free).1)
    else if cp.count < cp.maxIdleCap then
      -- the count goes up before the dial's error is looked at
      match dial with
      | .error e => ({ cp with count := cp.count + 1 }, .error e)
      | .ok conn => ({ cp with count := cp.count + 1 }, .ok (wrapConn now conn))
    else (cp, .error "can not allocate connect")

end ConnexPool

/-- The loop of `Close`: pop every idle connection, set its `cp` to `nil`
and close it. The connections closed, in the order they were popped. -/
def closeAll (free : Array Connex) : List Connex :=
  if 0 < free.size then
    { (GoHeap.pop Connex.less free).1 with pooled := false } :: closeAll (GoHeap.pop Connex.less free).2
  else []
termination_by free.size
decreasing_by
  rw [GoHeap.size_pop]
  omega

namespace ConnexPool

/-- `Close`: close every idle connection and set `freeConn` to `nil`. -/
def close (cp : ConnexPool) : ConnexPool × List Connex :=
  match cp.freeConn with
  | none => (cp, [])
  | some free => ({ cp with freeConn := none }, closeAll free)

/-- One tick of `inducer`: `sort.Sort` of the idle connections, which leaves
them in some order (`sorted`) in which no connection is less than one
before it. -/
def induce (sorted : Array Connex) (cp : ConnexPool) : Option ConnexPool :=
  match cp.freeConn with
  | none => some cp
  | some free =>
    if free.toList.Perm sorted.toList ∧ sorted.toList.Pairwise (fun x y => Connex.less y x = false) then
      some { cp with freeConn := some sorted }
    else none

end ConnexPool

/-- One turn of the loop of `NewConnexPool`: the `i`-th dial, and if it
succeeds, `put` of its connection and `count++`. -/
def dialLoop (dial : Nat → Option Nat) (now : Int) (cp : ConnexPool) (i : Nat) : ConnexPool :=
  match dial i with
  | none => cp
  | some conn =>
    -- the error of `put` is not looked at, and the count goes up
    let cp := (cp.put (wrapConn now conn)).1
    { cp with count := cp.count + 1 }

/-- `NewConnexPool` at time `now`, with `dial i` what the factory returns at
its `i`-th dial (`none` for an error). -/
def newConnexPool (cap maxIdleCap : Nat) (dial : Nat → Option Nat) (now : Int) : Except String ConnexPool :=
  if cap > maxIdleCap then .error "Cap can not more than MaxIdleCap"
  else
    let poolCap := if cap > maxConnectCount then maxConnectCount else cap
    -- the idle cap is `Cap`, not `MaxIdleCap`, unless `MaxIdleCap` is over the limit
    let idleConnCap := if maxIdleCap > maxIdleConnectCount then maxIdleConnectCount else cap
    .ok ((List.range poolCap).foldl (dialLoop dial now) ⟨some #[], poolCap, idleConnCap, 0⟩)

/-- `Connex.Close` at time `now`: the pool, the connection as it is left,
and whether its `net.Conn` was closed. A connection whose `cp` is `nil`
makes `c.cp.Len()` dereference `nil`. -/
def Connex.close (now : Int) (cp : ConnexPool) (c : Connex) : Except String (ConnexPool × Connex × Bool) :=
  if c.unusable then .ok (cp, c, true)
  else
    let c := { c with updatedTime := now }
    if c.pooled = false then .error PluginManager.nilDereference
    else if cp.len > cp.maxIdleCap then .ok (cp, { c with pooled := false }, true)
    else
      match cp.put c with
      | (cp, some _) => .ok (cp, { c with pooled := false }, true)
      | (cp, none) => .ok (cp, c, false)

/-! ## The pool and its users -/

/-- The pool, the clock, and the connections the users hold. `nextConn`
names the `net.Conn` of the next dial that succeeds; `lost` counts the
places in `count` whose dial failed or whose connection was closed. -/
structure PoolState where
  pool : ConnexPool
  now : Int
  held : List Connex
  nextConn : Nat
  lost : Nat
  panic : Option String
  deriving DecidableEq, Repr

/-- What can happen next. -/
inductive PoolAction
  /-- the clock moves on to `t` -/
  | tick (t : Int)
  /-- a user calls `Get`; if it dials, the dial succeeds or fails -/
  | get (dial : Except String Unit)
  /-- the user of the `k`-th held connection calls its `Close` -/
  | close (k : Nat)
  /-- the user of the `k`-th held connection calls `MarkUnusable` -/
  | markUnusable (k : Nat)
  /-- the `inducer` sorts the idle connections -/
  | induce (sorted : Array Connex)
  /-- the pool's `Close` -/
  | closePool
  deriving DecidableEq, Repr

/-- One step of the pool and its users. -/
def poolStep (a : PoolAction) (s : PoolState) : Option PoolState :=
  if s.panic.isSome then none else
  match a with
  | .tick t => if s.now ≤ t then some { s with now := t } else none
  | .get dial =>
    match s.pool.get s.now (dial.map fun _ => s.nextConn) with
    | (cp, .ok c) => some { s with pool := cp, held := s.held ++ [c], nextConn := s.nextConn + 1 }
    | (cp, .error _) =>
      some { s with pool := cp, nextConn := s.nextConn + 1, lost := s.lost + (cp.count - s.pool.count) }
  | .close k =>
    match s.held[k]? with
    | none => none
    | some c =>
      match Connex.close s.now s.pool c with
      | .error e => some { s with held := s.held.eraseIdx k, panic := some e }
      | .ok (cp, _, closed) =>
        some { s with pool := cp, held := s.held.eraseIdx k, lost := s.lost + if closed then 1 else 0 }
  | .markUnusable k =>
    match s.held[k]? with
    | none => none
    | some c => some { s with held := s.held.set k { c with unusable := true } }
  | .induce sorted => (s.pool.induce sorted).map fun cp => { s with pool := cp }
  | .closePool => some { s with pool := s.pool.close.1, lost := s.lost + s.pool.close.2.length }

/-- Some user, the inducer or the clock takes a step. -/
def PoolStep (s s' : PoolState) : Prop := ∃ a, poolStep a s = some s'

/-- The state right after `NewConnexPool` returned `cp`, whose dials named
their connections below `nextConn`. -/
def PoolState.start (cp : ConnexPool) (now : Int) (nextConn : Nat) : PoolState :=
  ⟨cp, now, [], nextConn, 0, none⟩

/-- The factory whose `i`-th dial succeeds where `ok i`, with connection `i`. -/
def dialer (ok : Nat → Bool) (i : Nat) : Option Nat := if ok i then some i else none

/-- The idle connections. -/
def PoolState.idle (s : PoolState) : List Connex :=
  match s.pool.freeConn with
  | none => []
  | some free => free.toList

/-! ## The order of the idle heap -/

theorem less_iff (x y : Connex) : Connex.less x y = true ↔ y.updatedTime < x.updatedTime := by
  simp [Connex.less, Go.sub_pos_iff]

theorem less_eq_false_iff (x y : Connex) : Connex.less x y = false ↔ x.updatedTime ≤ y.updatedTime := by
  rw [← Bool.not_eq_true, less_iff, Int.not_lt]

/-- `Less` orders connections by their time, the later first. -/
theorem strictWeak_less : GoHeap.StrictWeak Connex.less where
  asymm x y h := by
    rw [less_iff] at h
    rw [less_eq_false_iff]
    omega
  not_trans x y z hxy hyz := by
    rw [less_eq_false_iff] at hxy hyz ⊢
    omega

/-! ## What each call does -/

namespace ConnexPool

/-- The four ways `Get` ends: the pool is closed, an idle connection is
popped, a dial is made, or the count is at `maxIdleCap`. -/
theorem get_cases (now : Int) (dial : Except String Nat) (cp : ConnexPool) :
    (cp.freeConn = none ∧ cp.get now dial = (cp, .error errClosed)) ∨
    (∃ free, cp.freeConn = some free ∧ 0 < free.size ∧
      cp.get now dial = ({ cp with freeConn := some (GoHeap.pop Connex.less free).2 },
        .ok (GoHeap.pop Connex.less free).1)) ∨
    (∃ free, cp.freeConn = some free ∧ free.size = 0 ∧ cp.count < cp.maxIdleCap ∧
      cp.get now dial = ({ cp with count := cp.count + 1 }, dial.map (wrapConn now))) ∨
    (∃ free, cp.freeConn = some free ∧ free.size = 0 ∧ cp.maxIdleCap ≤ cp.count ∧
      cp.get now dial = (cp, .error "can not allocate connect")) := by
  rcases hf : cp.freeConn with _ | free
  · exact .inl ⟨rfl, by simp [get, hf]⟩
  · by_cases hne : 0 < free.size
    · exact .inr (.inl ⟨free, rfl, hne, by simp [get, hf, hne]⟩)
    by_cases hc : cp.count < cp.maxIdleCap
    · refine .inr (.inr (.inl ⟨free, rfl, by omega, hc, ?_⟩))
      cases dial <;> simp [get, hf, hne, hc, Except.map]
    · exact .inr (.inr (.inr ⟨free, rfl, by omega, by omega, by simp [get, hf, hne, hc]⟩))

/-- `put` pushes the connection where the pool is open and not full, and
changes nothing otherwise. -/
theorem put_cases (cp : ConnexPool) (c : Connex) :
    (∃ free, cp.freeConn = some free ∧ free.size < cp.cap ∧
      cp.put c = ({ cp with freeConn := some (GoHeap.push Connex.less free c) }, none)) ∨
    ∃ e, cp.put c = (cp, some e) := by
  rcases hf : cp.freeConn with _ | free
  · exact .inr ⟨errClosed, by simp [put, hf]⟩
  · by_cases hfull : cp.cap ≤ free.size
    · exact .inr ⟨"pool have been filled", by simp [put, hf, hfull]⟩
    · exact .inl ⟨free, rfl, by omega, by simp [put, hf, hfull]⟩

/-- `inducer` leaves a closed pool as it is, and an open one with its idle
connections sorted. -/
theorem induce_eq_some {sorted : Array Connex} {cp cp' : ConnexPool} (h : cp.induce sorted = some cp') :
    (cp.freeConn = none ∧ cp' = cp) ∨
    ∃ free, cp.freeConn = some free ∧ free.toList.Perm sorted.toList ∧
      sorted.toList.Pairwise (fun x y => Connex.less y x = false) ∧
      cp' = { cp with freeConn := some sorted } := by
  unfold induce at h
  rcases hf : cp.freeConn with _ | free
  · simp only [hf, Option.some.injEq] at h
    exact .inl ⟨rfl, h.symm⟩
  · simp only [hf] at h
    split_ifs at h with hs
    · exact .inr ⟨free, rfl, hs.1, hs.2, (Option.some.inj h).symm⟩

end ConnexPool

/-- `Close` closes every idle connection. -/
theorem length_closeAll (free : Array Connex) : (closeAll free).length = free.size := by
  fun_induction closeAll free with
  | case1 free hne ih =>
    rw [List.length_cons, ih, GoHeap.size_pop]
    omega
  | case2 free hne => simp at hne; simp [hne]

/-- The ways `Connex.Close` ends without a panic: the connection is closed
and the pool left as it was, or it is stamped and pushed on the idle heap of
an open pool that is not full. -/
theorem close_eq_ok {now : Int} {cp cp' : ConnexPool} {c c' : Connex} {closed : Bool}
    (h : Connex.close now cp c = .ok (cp', c', closed)) :
    (closed = true ∧ cp' = cp) ∨
    (closed = false ∧ ∃ free, cp.freeConn = some free ∧ free.size < cp.cap ∧
      cp' = { cp with freeConn := some (GoHeap.push Connex.less free { c with updatedTime := now }) }) := by
  obtain ⟨conn, t, u, p⟩ := c
  cases u
  · cases p
    · simp [Connex.close] at h
    -- a usable connection whose `cp` is set
    simp only [Connex.close, Bool.false_eq_true, if_false, Bool.true_eq_false] at h
    by_cases hlen : cp.len > cp.maxIdleCap
    · simp only [hlen, if_true, Except.ok.injEq, Prod.mk.injEq] at h
      exact .inl ⟨h.2.2.symm, h.1.symm⟩
    simp only [hlen, if_false] at h
    rcases ConnexPool.put_cases cp ⟨conn, now, false, true⟩ with ⟨free, hf, hlt, hput⟩ | ⟨e, hput⟩
    · rw [hput] at h
      simp only [Except.ok.injEq, Prod.mk.injEq] at h
      exact .inr ⟨h.2.2.symm, free, hf, hlt, h.1.symm⟩
    · rw [hput] at h
      simp only [Except.ok.injEq, Prod.mk.injEq] at h
      exact .inl ⟨h.2.2.symm, h.1.symm⟩
  · simp only [Connex.close, if_true, Except.ok.injEq, Prod.mk.injEq] at h
    exact .inl ⟨h.2.2.symm, h.1.symm⟩

/-- `Connex.Close` panics only on a connection whose `cp` is `nil`. -/
theorem pooled_of_close_eq_error {now : Int} {cp : ConnexPool} {c : Connex} {e : String}
    (h : Connex.close now cp c = .error e) : c.pooled = false := by
  obtain ⟨conn, t, u, p⟩ := c
  cases u
  · cases p
    · rfl
    simp only [Connex.close, Bool.false_eq_true, if_false, Bool.true_eq_false] at h
    by_cases hlen : cp.len > cp.maxIdleCap
    · simp [hlen] at h
    simp only [hlen, if_false] at h
    rcases ConnexPool.put_cases cp ⟨conn, now, false, true⟩ with ⟨_, _, _, hput⟩ | ⟨_, hput⟩ <;>
      rw [hput] at h <;> cases h
  · simp [Connex.close] at h

/-! ## The open connections -/

/-- What the open connections keep: no `net.Conn` is open twice, each was
named before `next`, and each has its `cp` set. -/
def Conns (l : List Connex) (next : Nat) : Prop :=
  (l.map Connex.conn).Nodup ∧ ∀ c ∈ l, c.conn < next ∧ c.pooled = true

namespace Conns

variable {l l' : List Connex} {n : Nat}

theorem perm (h : l.Perm l') (hc : Conns l n) : Conns l' n :=
  ⟨(h.map _).nodup_iff.mp hc.1, fun c hc' => hc.2 c (h.mem_iff.mpr hc')⟩

theorem sublist (h : l'.Sublist l) (hc : Conns l n) : Conns l' n :=
  ⟨(h.map _).nodup hc.1, fun c hc' => hc.2 c (h.subset hc')⟩

theorem mono {n' : Nat} (h : n ≤ n') (hc : Conns l n) : Conns l n' :=
  ⟨hc.1, fun c hc' => ⟨Nat.lt_of_lt_of_le (hc.2 c hc').1 h, (hc.2 c hc').2⟩⟩

/-- A new connection named `n` joins them. -/
theorem append_fresh (hc : Conns l n) {c : Connex} (hcn : c.conn = n) (hp : c.pooled = true) :
    Conns (l ++ [c]) (n + 1) := by
  refine ⟨?_, ?_⟩
  · rw [List.map_append, List.nodup_append]
    refine ⟨hc.1, List.nodup_singleton _, ?_⟩
    intro a ha b hb
    simp only [List.map_cons, List.map_nil, List.mem_singleton] at hb
    obtain ⟨x, hx, rfl⟩ := List.mem_map.mp ha
    have := (hc.2 x hx).1
    omega
  · intro x hx
    rcases List.mem_append.mp hx with hx | hx
    · exact ⟨by have := (hc.2 x hx).1; omega, (hc.2 x hx).2⟩
    · rw [List.mem_singleton.mp hx]
      exact ⟨by omega, hp⟩

/-- One connection replaced by one with the same `net.Conn` and `cp`. -/
theorem replace {l₁ l₂ : List Connex} {c c' : Connex} (hc : Conns (l₁ ++ c :: l₂) n)
    (hconn : c'.conn = c.conn) (hp : c'.pooled = c.pooled) : Conns (l₁ ++ c' :: l₂) n := by
  refine ⟨by simpa [hconn] using hc.1, ?_⟩
  intro x hx
  rcases List.mem_append.mp hx with hx | hx
  · exact hc.2 x (List.mem_append_left _ hx)
  · rcases List.mem_cons.mp hx with rfl | hx
    · rw [hconn, hp]
      exact hc.2 c (by simp)
    · exact hc.2 x (by simp [hx])

end Conns

/-- The open connections after a user gives back the `k`-th one it holds
and it goes on the idle heap. -/
theorem Conns.putBack {idle held : List Connex} {n k : Nat} {c : Connex} (hc : Conns (idle ++ held) n)
    (hk : held[k]? = some c) {c' : Connex} (hconn : c'.conn = c.conn) (hp : c'.pooled = c.pooled) :
    Conns ((idle ++ [c']) ++ held.eraseIdx k) n := by
  obtain ⟨hkl, rfl⟩ := List.getElem?_eq_some_iff.mp hk
  have hperm : held.Perm (held[k] :: held.eraseIdx k) := (List.getElem_cons_eraseIdx_perm hkl).symm
  have h1 : Conns (idle ++ held[k] :: held.eraseIdx k) n := hc.perm (hperm.append_left idle)
  simpa using h1.replace hconn hp

/-- The open connections after a user marks the `k`-th one it holds. -/
theorem Conns.set {idle held : List Connex} {n k : Nat} {c : Connex} (hc : Conns (idle ++ held) n)
    (hk : held[k]? = some c) {c' : Connex} (hconn : c'.conn = c.conn) (hp : c'.pooled = c.pooled) :
    Conns (idle ++ held.set k c') n := by
  obtain ⟨hkl, rfl⟩ := List.getElem?_eq_some_iff.mp hk
  have hsplit : held = List.take k held ++ held[k] :: List.drop (k + 1) held := by
    rw [List.getElem_cons_drop, List.take_append_drop]
  rw [List.set_eq_take_append_cons_drop, if_pos hkl]
  rw [hsplit] at hc
  simpa using (show Conns ((idle ++ List.take k held) ++ held[k] :: List.drop (k + 1) held) n by
    simpa using hc).replace hconn hp

/-! ## What a step of a user does -/

/-- Nothing happens after a panic. -/
theorem poolStep_panic {a : PoolAction} {s s' : PoolState} (h : poolStep a s = some s') :
    s.panic = none := by
  unfold poolStep at h
  split_ifs at h with hp
  simpa using hp

/-- A user's `Close` of the `k`-th connection it holds: the connection leaves
its hands, and `Connex.Close` panics or leaves the pool as it returns it. -/
theorem poolStep_close {k : Nat} {s s' : PoolState} (h : poolStep (.close k) s = some s') :
    s.panic = none ∧ ∃ c, s.held[k]? = some c ∧ s'.held = s.held.eraseIdx k ∧
      ((∃ e, Connex.close s.now s.pool c = .error e ∧
          s' = { s with held := s.held.eraseIdx k, panic := some e }) ∨
        (∃ cp c' closed, Connex.close s.now s.pool c = .ok (cp, c', closed) ∧
          s' = { s with pool := cp, held := s.held.eraseIdx k, lost := s.lost + if closed then 1 else 0 })) := by
  have hp := poolStep_panic h
  unfold poolStep at h
  rw [if_neg (by simp [hp])] at h
  dsimp only at h
  rcases hk : s.held[k]? with _ | c
  · simp [hk] at h
  simp only [hk] at h
  refine ⟨hp, c, rfl, ?_⟩
  rcases hcl : Connex.close s.now s.pool c with e | ⟨cp, c', closed⟩ <;>
    simp only [hcl, Option.some.injEq] at h <;> subst h
  · exact ⟨rfl, .inl ⟨e, rfl, rfl⟩⟩
  · exact ⟨rfl, .inr ⟨cp, c', closed, rfl, rfl⟩⟩

/-- A user's `Close` takes the connection out of its hands. -/
theorem poolStep_close_held {k : Nat} {s s' : PoolState} (h : poolStep (.close k) s = some s') :
    s'.held.length + 1 = s.held.length := by
  obtain ⟨-, c, hk, hheld, -⟩ := poolStep_close h
  have hkl := (List.getElem?_eq_some_iff.mp hk).1
  rw [hheld, List.length_eraseIdx, if_pos hkl]
  omega

/-! ## The invariant -/

theorem idle_of_some {s : PoolState} {free : Array Connex} (h : s.pool.freeConn = some free) :
    s.idle = free.toList := by
  simp [PoolState.idle, h]

theorem idle_of_none {s : PoolState} (h : s.pool.freeConn = none) : s.idle = [] := by
  simp [PoolState.idle, h]

/-- What every reachable state keeps. -/
structure PoolInv (s : PoolState) : Prop where
  panic : s.panic = none
  /-- every place in the count is an idle connection, a held one, or lost -/
  count : s.pool.count = s.idle.length + s.held.length + s.lost
  count_le : s.pool.count ≤ s.pool.maxIdleCap
  idle_le : s.idle.length ≤ s.pool.cap
  ordered : ∀ free, s.pool.freeConn = some free → GoHeap.Ordered Connex.less free free.size
  conns : Conns (s.idle ++ s.held) s.nextConn

namespace PoolInv

variable {s s' : PoolState} (hinv : PoolInv s)
include hinv

theorem tick {t : Int} (h : poolStep (.tick t) s = some s') : PoolInv s' := by
  unfold poolStep at h
  rw [if_neg (by simp [hinv.panic])] at h
  dsimp only at h
  split_ifs at h
  cases h
  exact ⟨hinv.panic, hinv.count, hinv.count_le, hinv.idle_le, hinv.ordered, hinv.conns⟩

theorem get {dial : Except String Unit} (h : poolStep (.get dial) s = some s') : PoolInv s' := by
  unfold poolStep at h
  rw [if_neg (by simp [hinv.panic])] at h
  dsimp only at h
  rcases ConnexPool.get_cases s.now (dial.map fun _ => s.nextConn) s.pool with
    ⟨hf, hget⟩ | ⟨free, hf, hne, hget⟩ | ⟨free, hf, h0, hlt, hget⟩ | ⟨free, hf, h0, hge, hget⟩
  · -- a closed pool
    rw [hget] at h
    cases h
    exact { hinv with
      count := by simp [hinv.count, PoolState.idle]
      conns := hinv.conns.mono (Nat.le_succ _) }
  · -- an idle connection is popped and handed out
    rw [hget] at h
    cases h
    have hidle := idle_of_some hf
    have hc := hinv.count
    have hle := hinv.idle_le
    rw [hidle, Array.length_toList] at hc hle
    have hperm : ((GoHeap.pop Connex.less free).2.toList ++ [(GoHeap.pop Connex.less free).1]).Perm
        free.toList := by
      simpa using Array.perm_iff_toList_perm.mp (GoHeap.pop_perm Connex.less free hne)
    refine ⟨hinv.panic, ?_, hinv.count_le, ?_, ?_, ?_⟩
    · simp only [PoolState.idle, Array.length_toList, GoHeap.size_pop, List.length_append,
        List.length_singleton]
      omega
    · simp only [PoolState.idle, Array.length_toList, GoHeap.size_pop]
      omega
    · intro free' hf'
      cases hf'
      simpa using (hinv.ordered free hf).pop strictWeak_less
    · -- the connection moves from the heap to its user
      have hmove : ((GoHeap.pop Connex.less free).2.toList ++
          (s.held ++ [(GoHeap.pop Connex.less free).1])).Perm
          ((GoHeap.pop Connex.less free).2.toList ++ [(GoHeap.pop Connex.less free).1] ++ s.held) := by
        rw [List.append_assoc]
        exact List.perm_append_comm.append_left _
      have hopen : ((GoHeap.pop Connex.less free).2.toList ++
          (s.held ++ [(GoHeap.pop Connex.less free).1])).Perm (s.idle ++ s.held) := by
        rw [hidle]
        exact hmove.trans (hperm.append_right s.held)
      exact (hinv.conns.perm hopen.symm).mono (Nat.le_succ _)
  · -- a dial: the count goes up whether it succeeds or not
    have hidle : s.idle = [] := by
      rw [idle_of_some hf]
      exact List.eq_nil_of_length_eq_zero (by simpa using h0)
    have hc := hinv.count
    rw [hidle, List.length_nil] at hc
    have hlen : free.toList.length = 0 := by simpa using h0
    cases dial with
    | error e =>
      rw [hget] at h
      cases h
      refine ⟨hinv.panic, ?_, Nat.succ_le_of_lt hlt, hinv.idle_le, hinv.ordered,
        hinv.conns.mono (Nat.le_succ _)⟩
      simp only [PoolState.idle, hf, hlen]
      omega
    | ok u =>
      rw [hget] at h
      cases h
      refine ⟨hinv.panic, ?_, Nat.succ_le_of_lt hlt, hinv.idle_le, hinv.ordered, ?_⟩
      · simp only [PoolState.idle, hf, hlen, List.length_append, List.length_singleton]
        omega
      · -- the new connection is named `nextConn`, which no open connection is
        show Conns (s.idle ++ (s.held ++ [wrapConn s.now s.nextConn])) (s.nextConn + 1)
        rw [← List.append_assoc]
        exact hinv.conns.append_fresh rfl rfl
  · -- the count is at the cap
    rw [hget] at h
    cases h
    exact { hinv with
      count := by simp [hinv.count, PoolState.idle]
      conns := hinv.conns.mono (Nat.le_succ _) }

theorem close {k : Nat} (h : poolStep (.close k) s = some s') : PoolInv s' := by
  have hlen := poolStep_close_held h
  obtain ⟨-, c, hk, -, ⟨e, hcl, -⟩ | ⟨cp, c', closed, hcl, rfl⟩⟩ := poolStep_close h
  · -- no panic: every held connection has its `cp` set
    have hpooled := (hinv.conns.2 c (List.mem_append_right _ (List.mem_of_getElem? hk))).2
    rw [pooled_of_close_eq_error hcl] at hpooled
    cases hpooled
  change (s.held.eraseIdx k).length + 1 = s.held.length at hlen
  have hc := hinv.count
  rcases close_eq_ok hcl with ⟨rfl, rfl⟩ | ⟨rfl, free, hf, hlt, rfl⟩
  · -- the connection is closed
    refine ⟨hinv.panic, ?_, hinv.count_le, hinv.idle_le, hinv.ordered, ?_⟩
    · simp only [if_true, PoolState.idle] at hc ⊢
      omega
    · exact hinv.conns.sublist ((List.eraseIdx_sublist _ _).append_left _)
  · -- the connection goes back on the idle heap
    have hidle := idle_of_some hf
    rw [hidle, Array.length_toList] at hc
    have hpush : (GoHeap.push Connex.less free { c with updatedTime := s.now }).toList.Perm
        (free.toList ++ [{ c with updatedTime := s.now }]) := by
      simpa using Array.perm_iff_toList_perm.mp
        (GoHeap.push_perm Connex.less free { c with updatedTime := s.now })
    refine ⟨hinv.panic, ?_, hinv.count_le, ?_, ?_, ?_⟩
    · simp only [PoolState.idle, Array.length_toList, GoHeap.size_push, Bool.false_eq_true, if_false]
      omega
    · simp only [PoolState.idle, Array.length_toList, GoHeap.size_push]
      omega
    · intro free' hf'
      cases hf'
      simpa using (hinv.ordered free hf).push strictWeak_less { c with updatedTime := s.now }
    · have hback := @Conns.putBack _ _ _ _ _ (hidle ▸ hinv.conns) hk { c with updatedTime := s.now } rfl rfl
      simpa [PoolState.idle] using hback.perm (hpush.symm.append_right _)

theorem markUnusable {k : Nat} (h : poolStep (.markUnusable k) s = some s') : PoolInv s' := by
  unfold poolStep at h
  rw [if_neg (by simp [hinv.panic])] at h
  dsimp only at h
  rcases hk : s.held[k]? with _ | c
  · simp [hk] at h
  simp only [hk, Option.some.injEq] at h
  cases h
  refine ⟨hinv.panic, ?_, hinv.count_le, hinv.idle_le, hinv.ordered, hinv.conns.set hk rfl rfl⟩
  simpa [PoolState.idle] using hinv.count

theorem induce {sorted : Array Connex} (h : poolStep (.induce sorted) s = some s') : PoolInv s' := by
  unfold poolStep at h
  rw [if_neg (by simp [hinv.panic])] at h
  dsimp only at h
  obtain ⟨cp, hcp, rfl⟩ := Option.map_eq_some_iff.mp h
  rcases ConnexPool.induce_eq_some hcp with ⟨_, rfl⟩ | ⟨free, hf, hperm, hsorted, rfl⟩
  · exact hinv
  have hidle := idle_of_some hf
  have hlen := hperm.length_eq
  have hc := hinv.count
  have hle := hinv.idle_le
  rw [hidle] at hc hle
  refine ⟨hinv.panic, ?_, hinv.count_le, ?_, ?_, ?_⟩
  · simp only [PoolState.idle]
    omega
  · simp only [PoolState.idle]
    omega
  · intro free' hf'
    cases hf'
    exact GoHeap.ordered_of_sorted hsorted
  · simpa [PoolState.idle, hidle] using hinv.conns.perm ((hidle ▸ hperm).append_right s.held)

theorem closePool (h : poolStep .closePool s = some s') : PoolInv s' := by
  unfold poolStep at h
  rw [if_neg (by simp [hinv.panic]), Option.some.injEq] at h
  subst h
  rcases hf : s.pool.freeConn with _ | free
  · simp only [ConnexPool.close, hf, List.length_nil, Nat.add_zero]
    exact hinv
  · have hidle := idle_of_some hf
    have hc := hinv.count
    rw [hidle, Array.length_toList] at hc
    simp only [ConnexPool.close, hf, length_closeAll]
    refine ⟨hinv.panic, ?_, hinv.count_le, by simp [PoolState.idle], by simp, ?_⟩
    · simp only [PoolState.idle, List.length_nil]
      omega
    · simpa [PoolState.idle] using hinv.conns.sublist (List.sublist_append_right _ _)

/-- Every step keeps the invariant. -/
theorem step {a : PoolAction} (h : poolStep a s = some s') : PoolInv s' := by
  cases a with
  | tick t => exact hinv.tick h
  | get dial => exact hinv.get h
  | close k => exact hinv.close h
  | markUnusable k => exact hinv.markUnusable h
  | induce sorted => exact hinv.induce h
  | closePool => exact hinv.closePool h

end PoolInv

/-! ## The pool `NewConnexPool` builds -/

/-- After the first `n` turns of the loop of `NewConnexPool`, with `n` at
most `poolCap`: the connections dialled so far that answered are idle, in
heap order, named below `n`, and counted. -/
theorem dialLoop_range (ok : Nat → Bool) (now : Int) {poolCap idleConnCap : Nat} :
    ∀ n, n ≤ poolCap → ∃ free : Array Connex,
      (List.range n).foldl (dialLoop (dialer ok) now) ⟨some #[], poolCap, idleConnCap, 0⟩ =
        ⟨some free, poolCap, idleConnCap, free.size⟩ ∧
      free.size ≤ n ∧ GoHeap.Ordered Connex.less free free.size ∧ Conns free.toList n := by
  intro n
  induction n with
  | zero =>
    intro _
    refine ⟨#[], rfl, Nat.le_refl 0, fun k _ hk => absurd hk (Nat.not_lt_zero k), ?_⟩
    simp [Conns]
  | succ n ih =>
    intro hn
    obtain ⟨free, hfold, hle, hord, hconns⟩ := ih (by omega)
    rw [List.range_succ, List.foldl_append, hfold, List.foldl_cons, List.foldl_nil]
    by_cases hok : ok n = true
    · -- the dial answered: its connection goes on the heap, which has room
      have hpush : (GoHeap.push Connex.less free (wrapConn now n)).toList.Perm
          (free.toList ++ [wrapConn now n]) := by
        simpa using Array.perm_iff_toList_perm.mp (GoHeap.push_perm Connex.less free (wrapConn now n))
      refine ⟨GoHeap.push Connex.less free (wrapConn now n), ?_, by simp; omega,
        by simpa using hord.push strictWeak_less (wrapConn now n),
        (hconns.append_fresh rfl rfl).perm hpush.symm⟩
      have hroom : ¬ poolCap ≤ free.size := by omega
      simp [dialLoop, dialer, hok, ConnexPool.put, hroom]
    · refine ⟨free, ?_, by omega, hord, hconns.mono (Nat.le_succ n)⟩
      simp [dialLoop, dialer, hok]

/-- The pool `NewConnexPool` returns, with no connection handed out yet. -/
theorem poolInv_start {cap maxIdleCap : Nat} {ok : Nat → Bool} {now : Int} {cp : ConnexPool}
    (hnew : newConnexPool cap maxIdleCap (dialer ok) now = .ok cp) :
    PoolInv (PoolState.start cp now cap) := by
  by_cases hcap : cap > maxIdleCap
  · rw [newConnexPool, if_pos hcap] at hnew
    cases hnew
  rw [newConnexPool, if_neg hcap] at hnew
  injection hnew with hnew
  subst hnew
  -- the pool dials at most `Cap`, and that is within its idle cap
  have hpool : (if cap > maxConnectCount then maxConnectCount else cap) ≤ cap := by split_ifs <;> omega
  have hidle : (if cap > maxConnectCount then maxConnectCount else cap) ≤
      (if maxIdleCap > maxIdleConnectCount then maxIdleConnectCount else cap) := by
    unfold maxConnectCount maxIdleConnectCount
    split_ifs <;> omega
  generalize (if cap > maxConnectCount then maxConnectCount else cap) = poolCap at hpool hidle
  generalize (if maxIdleCap > maxIdleConnectCount then maxIdleConnectCount else cap) = idleConnCap at hidle
  obtain ⟨free, hfold, hle, hord, hconns⟩ := @dialLoop_range ok now poolCap idleConnCap poolCap
    (Nat.le_refl _)
  rw [hfold]
  refine ⟨rfl, by simp [PoolState.start, PoolState.idle], ?_, ?_, ?_, ?_⟩
  · show free.size ≤ idleConnCap
    omega
  · simpa [PoolState.start, PoolState.idle] using hle
  · intro free' hf'
    cases hf'
    exact hord
  · simpa [PoolState.start, PoolState.idle] using hconns.mono hpool

/-- Every state reachable from the pool `NewConnexPool` returns keeps the
invariant. -/
theorem poolInv_reachable {cap maxIdleCap : Nat} {ok : Nat → Bool} {now : Int} {cp : ConnexPool}
    (hnew : newConnexPool cap maxIdleCap (dialer ok) now = .ok cp) {s : PoolState}
    (h : Reachable PoolStep (PoolState.start cp now cap) s) : PoolInv s :=
  Reachable.invariant PoolInv (poolInv_start hnew) (fun _ _ _ hinv ⟨_, hs⟩ => hinv.step hs) h

/-! ## Runs of a pool of one connection -/

/-- The pool `NewConnexPool` returns for one connection whose first dial
fails: empty, with nothing counted. -/
def emptyPool : ConnexPool := ⟨some #[], 1, 1, 0⟩

theorem newConnexPool_emptyPool : newConnexPool 1 1 (dialer fun _ => false) 0 = .ok emptyPool := rfl

/-- A user has dialled the pool's one connection and given it back. -/
def returnedState : PoolState :=
  ⟨⟨some (GoHeap.push Connex.less #[] ⟨1, 0, false, true⟩), 1, 1, 1⟩, 0, [], 2, 0, none⟩

theorem reachable_returnedState : Reachable PoolStep (PoolState.start emptyPool 0 1) returnedState :=
  (Reachable.refl.tail ⟨.get (.ok ()), rfl⟩).tail ⟨.close 0, rfl⟩

/-- A `Get` whose dial failed has used the pool's one place. -/
def lostState : PoolState := ⟨⟨some #[], 1, 1, 1⟩, 0, [], 2, 1, none⟩

theorem reachable_lostState : Reachable PoolStep (PoolState.start emptyPool 0 1) lostState :=
  Reachable.refl.tail ⟨.get (.error "i/o timeout"), rfl⟩

/-! ## What every run keeps -/

/-- `Get` leaves the idle cap as it is. -/
theorem maxIdleCap_get (now : Int) (dial : Except String Nat) (cp : ConnexPool) :
    (cp.get now dial).1.maxIdleCap = cp.maxIdleCap := by
  rcases ConnexPool.get_cases now dial cp with ⟨_, h⟩ | ⟨_, _, _, h⟩ | ⟨_, _, _, _, h⟩ | ⟨_, _, _, _, h⟩ <;>
    rw [h]

/-- No step changes the idle cap or gives a lost place back, and only the
pool's `Close` closes the pool. -/
theorem poolStep_frame {a : PoolAction} {s s' : PoolState} (h : poolStep a s = some s') :
    s'.pool.maxIdleCap = s.pool.maxIdleCap ∧ s.lost ≤ s'.lost ∧
      (a ≠ .closePool → (s'.pool.freeConn = none ↔ s.pool.freeConn = none)) := by
  cases a
  case close k =>
    obtain ⟨-, c, -, -, ⟨e, -, rfl⟩ | ⟨cp, c', closed, hcl, rfl⟩⟩ := poolStep_close h
    · exact ⟨rfl, Nat.le_refl _, fun _ => Iff.rfl⟩
    rcases close_eq_ok hcl with ⟨_, rfl⟩ | ⟨_, _, hf, _, rfl⟩
    · exact ⟨rfl, by simp, fun _ => Iff.rfl⟩
    · exact ⟨rfl, by simp, fun _ => by simp [hf]⟩
  -- the other steps, read off `poolStep`
  all_goals
    have hp := poolStep_panic h
    unfold poolStep at h
    rw [if_neg (by simp [hp])] at h
  case tick t =>
    dsimp only at h
    split_ifs at h
    cases h
    exact ⟨rfl, Nat.le_refl _, fun _ => Iff.rfl⟩
  case get dial =>
    dsimp only at h
    have hcap := maxIdleCap_get s.now (dial.map fun _ => s.nextConn) s.pool
    -- `Get` pops from an open heap and leaves a closed pool closed
    have hfree : (s.pool.get s.now (dial.map fun _ => s.nextConn)).1.freeConn = none ↔
        s.pool.freeConn = none := by
      rcases ConnexPool.get_cases s.now (dial.map fun _ => s.nextConn) s.pool with
        ⟨_, h'⟩ | ⟨_, hf, _, h'⟩ | ⟨_, _, _, _, h'⟩ | ⟨_, _, _, _, h'⟩ <;> rw [h']
      simp [hf]
    revert h hcap hfree
    rcases s.pool.get s.now (dial.map fun _ => s.nextConn) with ⟨cp, _ | c⟩ <;>
      intro h hcap hfree <;> cases h <;> exact ⟨hcap, by simp, fun _ => hfree⟩
  case markUnusable k =>
    dsimp only at h
    rcases hk : s.held[k]? with _ | c
    · simp [hk] at h
    simp only [hk, Option.some.injEq] at h
    cases h
    exact ⟨rfl, Nat.le_refl _, fun _ => Iff.rfl⟩
  case induce sorted =>
    dsimp only at h
    obtain ⟨cp, hcp, rfl⟩ := Option.map_eq_some_iff.mp h
    rcases ConnexPool.induce_eq_some hcp with ⟨_, rfl⟩ | ⟨_, hf, _, _, rfl⟩
    · exact ⟨rfl, Nat.le_refl _, fun _ => Iff.rfl⟩
    · exact ⟨rfl, Nat.le_refl _, fun _ => by simp [hf]⟩
  case closePool =>
    dsimp only at h
    cases h
    refine ⟨?_, by simp, fun ha => absurd rfl ha⟩
    unfold ConnexPool.close
    split <;> rfl

/-- A user's `Get` that returns a connection: the user holds it. -/
theorem poolStep_get_ok {dial : Except String Unit} {s : PoolState} {cp : ConnexPool} {c : Connex}
    (hp : s.panic = none) (hget : s.pool.get s.now (dial.map fun _ => s.nextConn) = (cp, .ok c)) :
    poolStep (.get dial) s = some { s with pool := cp, held := s.held ++ [c], nextConn := s.nextConn + 1 } := by
  simp [poolStep, hp, hget]

/-- A user's `Get` that fails: a dial it made keeps its place in the count. -/
theorem poolStep_get_error {dial : Except String Unit} {s : PoolState} {cp : ConnexPool} {e : String}
    (hp : s.panic = none) (hget : s.pool.get s.now (dial.map fun _ => s.nextConn) = (cp, .error e)) :
    poolStep (.get dial) s = some
      { s with pool := cp, nextConn := s.nextConn + 1, lost := s.lost + (cp.count - s.pool.count) } := by
  simp [poolStep, hp, hget]

/-- The clock, the `inducer` and the pool's `Close` leave the connections
users hold alone. -/
theorem poolStep_held_eq {a : PoolAction} {s s' : PoolState} (h : poolStep a s = some s')
    (hg : ∀ dial, a ≠ .get dial) (hc : ∀ k, a ≠ .close k) (hm : ∀ k, a ≠ .markUnusable k) :
    s'.held = s.held := by
  unfold poolStep at h
  split_ifs at h
  cases a with
  | tick t =>
    dsimp only at h
    split_ifs at h
    cases h
    rfl
  | get dial => exact absurd rfl (hg dial)
  | close k => exact absurd rfl (hc k)
  | markUnusable k => exact absurd rfl (hm k)
  | induce sorted =>
    obtain ⟨cp, -, rfl⟩ := Option.map_eq_some_iff.mp h
    rfl
  | closePool =>
    cases h
    rfl

/-- The pool's `Close` leaves it closed. -/
theorem poolStep_closePool_freeConn {s s' : PoolState} (h : poolStep .closePool s = some s') :
    s'.pool.freeConn = none := by
  unfold poolStep at h
  split_ifs at h
  cases h
  unfold ConnexPool.close
  split <;> simp_all

/-- No step changes the idle cap `NewConnexPool` set. -/
theorem maxIdleCap_reachable {cp : ConnexPool} {now : Int} {n : Nat} {s : PoolState}
    (h : Reachable PoolStep (PoolState.start cp now n) s) : s.pool.maxIdleCap = cp.maxIdleCap :=
  Reachable.invariant (fun s => s.pool.maxIdleCap = cp.maxIdleCap) rfl
    (fun _ _ _ hcap ⟨_, hs⟩ => (poolStep_frame hs).1.trans hcap) h

/-- In a reachable state of an open pool, a `Get` whose dial, if it makes
one, answers returns a connection while the held connections and the lost
places leave room under `maxIdleCap`. -/
theorem PoolInv.get_ok {s : PoolState} (hinv : PoolInv s) {free : Array Connex}
    (hf : s.pool.freeConn = some free) (hroom : s.held.length + s.lost < s.pool.maxIdleCap)
    (t : Int) (conn : Nat) : ∃ c, (s.pool.get t (.ok conn)).2 = .ok c := by
  rcases ConnexPool.get_cases t (.ok conn) s.pool with
    ⟨hf', _⟩ | ⟨_, _, _, h⟩ | ⟨_, _, _, _, h⟩ | ⟨free', hf', h0, hge, _⟩
  · simp [hf] at hf'
  · exact ⟨_, by rw [h]⟩
  · exact ⟨_, by rw [h]; rfl⟩
  · -- with no idle connection the count is the held connections and the lost places
    have hc := hinv.count
    rw [idle_of_some hf', Array.length_toList, h0] at hc
    omega

/-- Once the held connections and the lost places fill `maxIdleCap`, `Get`
fails and leaves the pool as it is. -/
theorem PoolInv.get_full {s : PoolState} (hinv : PoolInv s)
    (hfull : s.pool.maxIdleCap ≤ s.held.length + s.lost) (t : Int) (dial : Except String Nat) :
    ∃ e, s.pool.get t dial = (s.pool, .error e) := by
  have hc := hinv.count
  have hle := hinv.count_le
  rcases ConnexPool.get_cases t dial s.pool with
    ⟨_, h⟩ | ⟨free, hf, hne, _⟩ | ⟨_, _, _, hlt, _⟩ | ⟨_, _, _, _, h⟩
  · exact ⟨_, h⟩
  · rw [idle_of_some hf, Array.length_toList] at hc
    omega
  · omega
  · exact ⟨_, h⟩

/-- **The pool never hands out a connection twice.** In every state that any
interleaving of the users, the `inducer` and the pool's `Close` reaches from
the pool `NewConnexPool` returns: no `Connex.Close` has panicked, no
`net.Conn` is open twice (idle twice, held by two users, or idle and held),
`Get` never returns a connection a user holds, and the idle connections,
the held ones, the failed dials and the closed connections add up to
`count`, which stays at most `maxIdleCap`. -/
theorem pool_safe {cap maxIdleCap : Nat} {ok : Nat → Bool} {now : Int} {cp : ConnexPool}
    (hnew : newConnexPool cap maxIdleCap (dialer ok) now = .ok cp) {s : PoolState}
    (h : Reachable PoolStep (PoolState.start cp now cap) s) :
    s.panic = none ∧ ((s.idle ++ s.held).map Connex.conn).Nodup ∧
      (∀ (dial : Except String Unit) (c : Connex),
        (s.pool.get s.now (dial.map fun _ => s.nextConn)).2 = .ok c → c.conn ∉ s.held.map Connex.conn) ∧
      s.idle.length + s.held.length + s.lost = s.pool.count ∧ s.pool.count ≤ s.pool.maxIdleCap := by
  have hinv := poolInv_reachable hnew h
  refine ⟨hinv.panic, hinv.conns.1, ?_, hinv.count.symm, hinv.count_le⟩
  intro dial c hget
  rcases ConnexPool.get_cases s.now (dial.map fun _ => s.nextConn) s.pool with
    ⟨_, h'⟩ | ⟨free, hf, hne, h'⟩ | ⟨_, _, _, _, h'⟩ | ⟨_, _, _, _, h'⟩ <;> rw [h'] at hget
  · cases hget
  · -- an idle connection: not held, as the open connections are all distinct
    cases hget
    have hmem : (GoHeap.pop Connex.less free).1 ∈ s.idle := by
      rw [idle_of_some hf, Array.mem_toList_iff, GoHeap.pop_fst]
      exact Array.mem_iff_getElem.mpr ⟨0, hne, by grind⟩
    have hnodup := hinv.conns.1
    rw [List.map_append, List.nodup_append] at hnodup
    exact fun hheld => hnodup.2.2 _ (List.mem_map_of_mem hmem) _ hheld rfl
  · -- a new connection, named `nextConn`, which no open connection is
    cases dial <;> cases hget
    intro hheld
    obtain ⟨c', hc', hconn⟩ := List.mem_map.mp hheld
    have := (hinv.conns.2 c' (List.mem_append_right _ hc')).1
    simp [wrapConn] at hconn
    omega
  · cases hget

theorem pool_safe_returnedState :
    newConnexPool 1 1 (dialer fun _ => false) 0 = .ok emptyPool ∧
      Reachable PoolStep (PoolState.start emptyPool 0 1) returnedState ∧
      (returnedState.panic = none ∧ ((returnedState.idle ++ returnedState.held).map Connex.conn).Nodup ∧
        (∀ (dial : Except String Unit) (c : Connex),
          (returnedState.pool.get returnedState.now (dial.map fun _ => returnedState.nextConn)).2 = .ok c →
            c.conn ∉ returnedState.held.map Connex.conn) ∧
        returnedState.idle.length + returnedState.held.length + returnedState.lost = returnedState.pool.count ∧
        returnedState.pool.count ≤ returnedState.pool.maxIdleCap) :=
  ⟨newConnexPool_emptyPool, reachable_returnedState,
    pool_safe newConnexPool_emptyPool reachable_returnedState⟩

/-- **`Get` hands out the idle connection put back last.** In every reachable
state, a `Get` on a pool with idle connections returns one of them whose time
is the latest: `PriorityQueue.Less` puts the later time first, so the heap
hands out the newest connection, not the oldest that the comment on `Less`
asks for. -/
theorem pool_get_latest {cap maxIdleCap : Nat} {ok : Nat → Bool} {now : Int} {cp : ConnexPool}
    (hnew : newConnexPool cap maxIdleCap (dialer ok) now = .ok cp) {s : PoolState}
    (h : Reachable PoolStep (PoolState.start cp now cap) s) {free : Array Connex}
    (hf : s.pool.freeConn = some free) (hne : 0 < free.size) (t : Int) (dial : Except String Nat) :
    ∃ c, (s.pool.get t dial).2 = .ok c ∧ c ∈ free ∧ ∀ y ∈ free, y.updatedTime ≤ c.updatedTime := by
  have hord := (poolInv_reachable hnew h).ordered free hf
  refine ⟨(GoHeap.pop Connex.less free).1, by simp [ConnexPool.get, hf, hne], ?_, ?_⟩
  · rw [GoHeap.pop_fst]
    exact Array.mem_iff_getElem.mpr ⟨0, hne, by grind⟩
  · intro y hy
    exact (less_eq_false_iff _ _).mp (GoHeap.pop_least strictWeak_less hord y hy)

theorem pool_get_latest_returnedState :
    newConnexPool 1 1 (dialer fun _ => false) 0 = .ok emptyPool ∧
      Reachable PoolStep (PoolState.start emptyPool 0 1) returnedState ∧
      returnedState.pool.freeConn = some (GoHeap.push Connex.less #[] ⟨1, 0, false, true⟩) ∧
      0 < (GoHeap.push Connex.less #[] ⟨1, 0, false, true⟩).size ∧
      ∃ c, (returnedState.pool.get 0 (.ok 3)).2 = .ok c ∧
        c ∈ GoHeap.push Connex.less #[] ⟨1, 0, false, true⟩ ∧
        ∀ y ∈ GoHeap.push Connex.less #[] ⟨1, 0, false, true⟩, y.updatedTime ≤ c.updatedTime :=
  ⟨newConnexPool_emptyPool, reachable_returnedState, rfl, by simp,
    pool_get_latest newConnexPool_emptyPool reachable_returnedState rfl (by simp) 0 (.ok 3)⟩

/-- **A lost place is never given back.** `count` only goes up, and a dial
that fails or a connection that is closed keeps its place in it: once they
fill `maxIdleCap`, no later `Get` of any run returns a connection, whatever
the factory returns then. -/
theorem pool_exhausted {cap maxIdleCap : Nat} {ok : Nat → Bool} {now : Int} {cp : ConnexPool}
    (hnew : newConnexPool cap maxIdleCap (dialer ok) now = .ok cp) {s s' : PoolState}
    (h : Reachable PoolStep (PoolState.start cp now cap) s) (hlost : s.pool.maxIdleCap ≤ s.lost)
    (hrun : Relation.ReflTransGen PoolStep s s') (t : Int) (dial : Except String Nat) :
    ∃ e, (s'.pool.get t dial).2 = .error e := by
  -- the lost places still fill the idle cap after the run
  have hfull : s'.pool.maxIdleCap ≤ s'.lost :=
    Reachable.stable (P := fun s => s.pool.maxIdleCap ≤ s.lost)
      (fun _ _ _ hp ⟨_, hs⟩ => by obtain ⟨hcap, hlost, -⟩ := poolStep_frame hs; omega) h hrun hlost
  obtain ⟨e, hget⟩ := (poolInv_reachable hnew (h.run hrun)).get_full (by omega) t dial
  exact ⟨e, by rw [hget]⟩

theorem pool_exhausted_lostState :
    newConnexPool 1 1 (dialer fun _ => false) 0 = .ok emptyPool ∧
      Reachable PoolStep (PoolState.start emptyPool 0 1) lostState ∧
      lostState.pool.maxIdleCap ≤ lostState.lost ∧
      ∃ e, (lostState.pool.get 0 (.ok 3)).2 = .error e :=
  ⟨newConnexPool_emptyPool, reachable_lostState, by decide,
    pool_exhausted newConnexPool_emptyPool reachable_lostState (by decide) Relation.ReflTransGen.refl 0 (.ok 3)⟩

/-- **`Get` fails only when the held connections and the lost places fill
`maxIdleCap`.** In every reachable state of an open pool, a `Get` whose dial,
if it makes one, answers returns a connection exactly when the connections
users hold and the places lost to failed dials and closed connections leave
room under `maxIdleCap`; idle connections never make it fail. -/
theorem pool_get_ok_iff {cap maxIdleCap : Nat} {ok : Nat → Bool} {now : Int} {cp : ConnexPool}
    (hnew : newConnexPool cap maxIdleCap (dialer ok) now = .ok cp) {s : PoolState}
    (h : Reachable PoolStep (PoolState.start cp now cap) s) {free : Array Connex}
    (hf : s.pool.freeConn = some free) (t : Int) (conn : Nat) :
    (∃ c, (s.pool.get t (.ok conn)).2 = .ok c) ↔ s.held.length + s.lost < s.pool.maxIdleCap := by
  have hinv := poolInv_reachable hnew h
  refine ⟨fun ⟨c, hc⟩ => ?_, fun hroom => hinv.get_ok hf hroom t conn⟩
  -- were the places all taken, `Get` would fail
  by_contra hfull
  obtain ⟨e, he⟩ := hinv.get_full (by omega) t (.ok conn)
  rw [he] at hc
  cases hc

theorem pool_get_ok_iff_returnedState :
    newConnexPool 1 1 (dialer fun _ => false) 0 = .ok emptyPool ∧
      Reachable PoolStep (PoolState.start emptyPool 0 1) returnedState ∧
      returnedState.pool.freeConn = some (GoHeap.push Connex.less #[] ⟨1, 0, false, true⟩) ∧
      ((∃ c, (returnedState.pool.get 0 (.ok 3)).2 = .ok c) ↔
        returnedState.held.length + returnedState.lost < returnedState.pool.maxIdleCap) :=
  ⟨newConnexPool_emptyPool, reachable_returnedState, rfl,
    pool_get_ok_iff newConnexPool_emptyPool reachable_returnedState rfl 0 3⟩

/-- `Connex.Close` of a usable connection whose `cp` is set, on an open pool
with room: the connection, stamped, goes on the idle heap. -/
theorem close_of_room (now : Int) {cp : ConnexPool} {free : Array Connex} (hf : cp.freeConn = some free)
    (hcap : free.size < cp.cap) (hidle : free.size ≤ cp.maxIdleCap) {c : Connex}
    (hu : c.unusable = false) (hp : c.pooled = true) :
    Connex.close now cp c =
      .ok ({ cp with freeConn := some (GoHeap.push Connex.less free { c with updatedTime := now }) },
        { c with updatedTime := now }, false) := by
  obtain ⟨conn, t, u, p⟩ := c
  simp only at hu hp
  subst hu hp
  have hlen : ¬ cp.len > cp.maxIdleCap := by
    simp only [ConnexPool.len, hf]
    omega
  have hroom : ¬ cp.cap ≤ free.size := by omega
  simp [Connex.close, hlen, ConnexPool.put, hf, hroom]

/-- **`Connex.Close` is not safe to call twice**, although its comment says
"Executed by multi times is ok": on an open pool with room for two, a second
`Close` of a connection that the first one put back puts it back again, and
the idle heap then holds its `net.Conn` twice, for two `Get`s to hand out. -/
theorem close_twice (now now' : Int) {cp : ConnexPool} {free : Array Connex}
    (hf : cp.freeConn = some free) (hroom : free.size + 2 ≤ cp.cap) (hidle : free.size + 1 ≤ cp.maxIdleCap)
    {c : Connex} (hu : c.unusable = false) (hp : c.pooled = true) :
    ∃ cp₁ c₁ cp₂ c₂ free₂, Connex.close now cp c = .ok (cp₁, c₁, false) ∧
      Connex.close now' cp₁ c₁ = .ok (cp₂, c₂, false) ∧ cp₂.freeConn = some free₂ ∧
      (free₂.toList.map Connex.conn).count c.conn = (free.toList.map Connex.conn).count c.conn + 2 := by
  have h1 := close_of_room now hf (by omega) (by omega) hu hp
  -- the first `Close` leaves the connection idle with its `cp` still set
  have h2 := @close_of_room now' { cp with freeConn := some (GoHeap.push Connex.less free
    { c with updatedTime := now }) } _ rfl (by simp; omega) (by simp; omega)
    { c with updatedTime := now } hu hp
  refine ⟨_, _, _, _, _, h1, h2, rfl, ?_⟩
  have hperm : ∀ (a : Array Connex) (x : Connex),
      ((GoHeap.push Connex.less a x).toList.map Connex.conn).count c.conn =
        (a.toList.map Connex.conn).count c.conn + if x.conn = c.conn then 1 else 0 := by
    intro a x
    rw [((Array.perm_iff_toList_perm.mp (GoHeap.push_perm Connex.less a x)).map _).count_eq]
    simp [List.count_cons]
  rw [hperm, hperm]
  simp

theorem close_twice_roomyPool :
    (⟨some #[], 2, 2, 0⟩ : ConnexPool).freeConn = some #[] ∧ (#[] : Array Connex).size + 2 ≤ 2 ∧
      (#[] : Array Connex).size + 1 ≤ 2 ∧
      ∃ cp₁ c₁ cp₂ c₂ free₂, Connex.close 0 ⟨some #[], 2, 2, 0⟩ ⟨7, 0, false, true⟩ = .ok (cp₁, c₁, false) ∧
        Connex.close 1 cp₁ c₁ = .ok (cp₂, c₂, false) ∧ cp₂.freeConn = some free₂ ∧
        (free₂.toList.map Connex.conn).count 7 = ((#[] : Array Connex).toList.map Connex.conn).count 7 + 2 :=
  ⟨rfl, by decide, by decide,
    @close_twice 0 1 ⟨some #[], 2, 2, 0⟩ #[] rfl (by decide) (by decide) ⟨7, 0, false, true⟩ rfl rfl⟩

end KDoctor.Connexus

namespace KDoctor.LoadRequest

open Connexus

/-- `InitPool` of `loadDns`: a pool with `Cap` and `MaxIdleCap` both `QPS`,
whose factory dials the DNS server. -/
def LoadDns.initPool (qps : Nat) (ok : Nat → Bool) (now : Int) : Except String ConnexPool :=
  newConnexPool qps qps (dialer ok) now

/-- `InitPool` never fails, and its pool is open and keeps at most `QPS`
connections, or `MaxIdleConnectCount` for a larger `QPS`. -/
theorem LoadDns.initPool_eq_ok (qps : Nat) (ok : Nat → Bool) (now : Int) :
    ∃ cp, LoadDns.initPool qps ok now = .ok cp ∧ (∃ free, cp.freeConn = some free) ∧
      cp.maxIdleCap = min qps maxIdleConnectCount := by
  -- the loop of `NewConnexPool` leaves the idle cap as it set it
  obtain ⟨free, hfold, -⟩ := @dialLoop_range ok now (if qps > maxConnectCount then maxConnectCount else qps)
    (if qps > maxIdleConnectCount then maxIdleConnectCount else qps)
    (if qps > maxConnectCount then maxConnectCount else qps) (Nat.le_refl _)
  refine ⟨⟨some free, if qps > maxConnectCount then maxConnectCount else qps,
    if qps > maxIdleConnectCount then maxIdleConnectCount else qps, free.size⟩, ?_, ⟨free, rfl⟩, ?_⟩
  · rw [LoadDns.initPool, newConnexPool, if_neg (Nat.lt_irrefl qps)]
    exact congrArg Except.ok hfold
  · show (if qps > maxIdleConnectCount then maxIdleConnectCount else qps) = _
    rw [min_def]
    split_ifs <;> omega

end KDoctor.LoadRequest
