import KDoctor.Crd.Types
import KDoctor.Scheduler.Generate
import KDoctor.Lib.Go
import KDoctor.Lib.GoMap
import KDoctor.Lib.Transition

/-!
The resource tracker of one task kind (`scheduler/cachedb.go`,
`scheduler/tracing.go`) and the controller's part in it
(`TaskResourceReconcile` and the `NotFound` branch of `Reconcile`).

The reconciler records a task's runtime in the tracker's database with
`Apply`. The tracer lists the database and signals each item, a copy, on the
channel `itemSignal`; executors take items from the channel, mark the tasks'
resource `created` once the runtime is ready, or delete the runtime past its
deletion time and mark them `deleted`, and then remove the item's runtime
from the database with `Delete`, which goes by the runtime's key alone.

`World` holds the API server's task objects and runtimes, the database, the
channel, each executor's state and the clock; `Step` is one move of a user,
of the cluster, of the reconciler, of the tracer or of an executor. An
executor's move on an item is split where the code is not atomic: between
the status updates and `Delete`, other parties move.

The reconciler of a kind whose runtimes the scheduler creates is
`schedulerController`; the traces at the end run a NetReach controller that
creates the runtime of each task it meets as the scheduler does
(`netReachController_eq_scheduler`).
-/

namespace KDoctor.Scheduler

open Crd Go Transition Relation

/-- `RuntimeKey`. -/
structure RuntimeKey where
  runtimeKind : String
  runtimeName : String
  deriving DecidableEq, Repr

/-- `Item`: a runtime, its state, and the tasks that use it, by name and kind. -/
structure Item where
  runtimeKey : RuntimeKey
  runtimeStatus : RuntimeStatus
  runtimeDeletionTime : Option Int
  serviceNameV4 : Option String
  serviceNameV6 : Option String
  task : GoMap String String
  deriving DecidableEq

/-- `reflect.DeepEqual` on items. -/
def Item.deepEqual (a b : Item) : Bool :=
  a.runtimeKey = b.runtimeKey && a.runtimeStatus = b.runtimeStatus &&
    a.runtimeDeletionTime = b.runtimeDeletionTime && a.serviceNameV4 = b.serviceNameV4 &&
    a.serviceNameV6 = b.serviceNameV6 && a.task.deepEqual b.task

/-- `BuildItem`. -/
def buildItem (resource : TaskResource) (taskKind taskName : String) (deletionTime : Option Int) :
    Item where
  runtimeKey := ⟨resource.runtimeType, resource.runtimeName⟩
  runtimeStatus := resource.runtimeStatus
  runtimeDeletionTime := deletionTime
  serviceNameV4 := resource.serviceNameV4
  serviceNameV6 := resource.serviceNameV6
  task := .single taskName taskKind

/-- `Database`: each item stored under its own runtime key, and the capacity. -/
structure Database where
  cache : GoMap RuntimeKey Item
  maxCap : Nat
  keyed : ∀ k e, cache.get k = some e → e.runtimeKey = k

/-- `DefaultMaxDBCap` -/
def defaultMaxDBCap : Nat := 10000

/-- `NewDB`. -/
def newDB (maxCap : Int) : Database where
  cache := .empty
  maxCap := if maxCap ≤ 0 then defaultMaxDBCap else maxCap.toNat
  keyed := by simp

/-- The error `Apply` returns for a new runtime in a full database. -/
inductive ApplyError where
  | outOfCapacity (item : Item)
  deriving DecidableEq

/-- The text of the error, `fmt.Errorf("database is out of capacity, discard
item %v", item)`. Go's `%v` of an item prints its pointer fields (the deletion
time through its method, the Service names as addresses), so it is a
parameter. -/
def ApplyError.error (formatItem : Item → String) : ApplyError → String
  | .outOfCapacity item => "database is out of capacity, discard item " ++ formatItem item

namespace Database

/-- `d.cache[item.RuntimeKey] = item`. -/
def store (d : Database) (item : Item) : Database where
  cache := d.cache.set item.runtimeKey item
  maxCap := d.maxCap
  keyed := by
    intro k e h
    rw [GoMap.get_set] at h
    by_cases hk : k = item.runtimeKey
    · rw [if_pos hk, Option.some.injEq] at h
      rw [← h, hk]
    · rw [if_neg hk] at h
      exact d.keyed k e h

/-- `Apply`. -/
def apply (d : Database) (item : Item) : Except ApplyError Database :=
  match d.cache.get item.runtimeKey with
  | none =>
    if d.cache.size = d.maxCap then .error (.outOfCapacity item)
    else .ok (d.store item)
  | some old =>
    if old.deepEqual item then .ok d
    else .ok (d.store { item with task := item.task.assign old.task })

/-- `List`: the items, in an order the caller does not choose. -/
def list (d : Database) : List Item := d.cache.entries.map Prod.snd

/-- `Delete`: removes whatever is stored under the item's runtime key. -/
def delete (d : Database) (item : Item) : Database where
  cache := d.cache.erase item.runtimeKey
  maxCap := d.maxCap
  keyed := by
    intro k e h
    rw [GoMap.get_erase] at h
    by_cases hk : k = item.runtimeKey
    · rw [if_pos hk] at h
      cases h
    · rw [if_neg hk] at h
      exact d.keyed k e h

/-- `Get`: the first item, in the order the loop visits the keys, whose tasks
name the task. -/
def get (d : Database) (it : Iteration RuntimeKey) (taskName : String) : Except String Item :=
  match (it.order (d.cache.entries.map Prod.fst)).findSome?
      fun k => (d.cache.get k).filter fun v => (v.task.get taskName).isSome with
  | some v => .ok v
  | none => .error ("failed get task " ++ taskName ++ ",the task not exists")

end Database

/-- A call of the interface `DB`. -/
inductive DbOp
  | apply (item : Item)
  | delete (item : Item)
  | get (it : Iteration RuntimeKey) (taskName : String)
  | list

namespace Database

/-- The database after a call: an `Apply` that fails, `Get` and `List` leave
it as it was. -/
def exec (d : Database) : DbOp → Database
  | .apply item =>
    match d.apply item with
    | .ok d' => d'
    | .error _ => d
  | .delete item => d.delete item
  | .get _ _ => d
  | .list => d

/-- The database after a sequence of calls. -/
def run (d : Database) (ops : List DbOp) : Database := ops.foldl exec d

end Database

/-- `TerminationGracePeriodMinutes`, the one field of an `AgentSpec` that the
tracker's parties read. -/
structure TrackedAgentSpec where
  terminationGracePeriodMinutes : Option Int
  deriving DecidableEq, Repr

/-- A task object of the API server. -/
structure TaskObject where
  deletionTimestamp : Option Int
  agentSpec : Option TrackedAgentSpec
  status : TaskStatus
  deriving DecidableEq, Repr

/-- The zero value of a task object: what a failed `Get` leaves behind. -/
def TaskObject.zero : TaskObject := ⟨none, none, TaskStatus.empty⟩

/-- What the reconciler reads besides the task: the kind it handles, the
resource of the default agent, and the resource `CreateTaskRuntimeIfNotExist`
creates for a task of each name. -/
structure Controller where
  kindName : String
  defaultResource : TaskResource
  createTaskRuntime : String → TaskResource

/-- What an executor is doing: waiting for an item, or about to `Delete` one
whose tasks it has updated. -/
inductive Executor
  | idle
  | cleaning (item : Item)
  deriving DecidableEq

/-- The API server's task objects and runtimes (with whether each is ready),
the tracker's database and channel, its executors and the clock. -/
structure World (ι : Type) where
  tasks : GoMap String TaskObject
  runtimes : GoMap RuntimeKey Bool
  db : Database
  itemSignal : List Item
  executors : ι → Executor
  now : Int

/-! ## The reconciler -/

/-- The runtime deletion time `TaskResourceReconcile` computes: the finish
time plus the grace period, for a finished task with an `AgentSpec`. -/
def deletionTimeOf (obj : TaskObject) : Option Int :=
  match obj.status.finishTime, obj.agentSpec with
  | some finishTime, some agentSpec =>
    match agentSpec.terminationGracePeriodMinutes with
    | some grace => some (finishTime + minutes grace)
    | none => some finishTime
  | _, _ => none

/-- The deletion time of the tracker `Apply` that `Reconcile` makes after
`UpdateStatus`, the same in its three kinds' branches: for a finished task,
`some` of the deletion time of the item it applies, which has none without an
`AgentSpec`; for a task not finished, no `Apply`. -/
def reconcileDeletionTime (finishTime : Option Int) (agentSpec : Option TrackedAgentSpec) :
    Option (Option Int) :=
  match finishTime, agentSpec with
  | some finishTime, some agentSpec =>
    match agentSpec.terminationGracePeriodMinutes with
    | some grace => some (some (finishTime + minutes grace))
    | none => some (some finishTime)
  | some _, none => some none
  | none, _ => none

/-- The rest of `TaskResourceReconcile` and of `Reconcile` once the resource
is known: `Apply` its item, then write it to the task's status. A failed
`Apply` returns an error and writes nothing. -/
def applyResource {ι : Type} (c : Controller) (w : World ι) (taskName : String) (obj : TaskObject)
    (resource : TaskResource) (deletionTime : Option Int) : World ι :=
  match w.db.apply (buildItem resource c.kindName taskName deletionTime) with
  | .error _ => w
  | .ok db =>
    { w with
      db
      tasks :=
        if obj.status.resource = some resource then w.tasks
        else w.tasks.set taskName { obj with status := { obj.status with resource := some resource } } }

/-- `Reconcile` of one task, as far as the tracker is concerned. -/
def reconcile {ι : Type} (c : Controller) (w : World ι) (taskName : String) : World ι :=
  match w.tasks.get taskName with
  | none =>
    -- the guard reads the zero instance the failed `Get` left
    let zero := TaskObject.zero
    if zero.deletionTimestamp.isSome ∧ zero.agentSpec.isSome then
      match zero.status.resource with
      | some resource => { w with db := w.db.delete (buildItem resource c.kindName "" none) }
      | none => w
    else w
  | some obj =>
    if obj.deletionTimestamp.isSome then w
    else
      match obj.status.resource, obj.agentSpec with
      | none, none => applyResource c w taskName obj c.defaultResource none
      | none, some _ =>
        let resource := c.createTaskRuntime taskName
        let key : RuntimeKey := ⟨resource.runtimeType, resource.runtimeName⟩
        let w := if (w.runtimes.get key).isNone then { w with runtimes := w.runtimes.set key false }
          else w
        applyResource c w taskName obj resource none
      | some resource, _ => applyResource c w taskName obj resource (deletionTimeOf obj)

/-! ## The executors -/

/-- Errors of the API server that the executors tell apart. -/
inductive ApiError
  | notFound
  | unsupported
  deriving DecidableEq, Repr

/-- The loop of `updateRuntimeStatus` over an item's tasks: the task objects
after it, and the error that ended it. It stops at the first task whose
resource is already the new one. -/
def updateTasks (kindName : String) (resource : TaskResource) :
    List (String × String) → GoMap String TaskObject → GoMap String TaskObject × Option ApiError
  | [], tasks => (tasks, none)
  | (taskName, taskKind) :: rest, tasks =>
    if taskKind ≠ kindName then (tasks, some .unsupported)
    else
      match tasks.get taskName with
      | none => (tasks, some .notFound)
      | some obj =>
        if obj.status.resource = some resource then (tasks, none)
        else
          updateTasks kindName resource rest
            (tasks.set taskName { obj with status := { obj.status with resource := some resource } })

/-- `updateRuntimeStatus`. -/
def updateRuntimeStatus (kindName : String) (tasks : GoMap String TaskObject) (item : Item)
    (status : RuntimeStatus) : GoMap String TaskObject × Option ApiError :=
  updateTasks kindName
    ⟨item.runtimeKey.runtimeName, item.runtimeKey.runtimeKind, item.serviceNameV4,
      item.serviceNameV6, status⟩
    item.task.entries tasks

/-- `IsReady` of the runtime. -/
def isReady {ι : Type} (w : World ι) (key : RuntimeKey) : Bool := w.runtimes.get key = some true

/-- The `RuntimeCreating` case of an executor: with the runtime ready, mark
the tasks `created` and go on to `Delete`. -/
def markCreated {ι : Type} (kindName : String) (w : World ι) (item : Item) : World ι × Executor :=
  if item.runtimeStatus = .creating ∧ isReady w item.runtimeKey then
    match updateRuntimeStatus kindName w.tasks item .created with
    | (tasks, none) => ({ w with tasks }, .cleaning item)
    | (tasks, some _) => ({ w with tasks }, .idle)
  else (w, .idle)

/-- An executor's handling of an item it took from the channel, up to
`Delete`. -/
def execute {ι : Type} (kindName : String) (w : World ι) (item : Item) : World ι × Executor :=
  -- `FindRuntime`
  if item.runtimeKey.runtimeKind ≠ "Deployment" ∧ item.runtimeKey.runtimeKind ≠ "DaemonSet" then
    (w, .idle)
  else
    match item.runtimeDeletionTime with
    | some deletionTime =>
      if w.now > deletionTime then
        -- delete the runtime, then mark the tasks `deleted`; a task that is gone is no error
        let w := { w with runtimes := w.runtimes.erase item.runtimeKey }
        match updateRuntimeStatus kindName w.tasks item .deleted with
        | (tasks, none) => ({ w with tasks }, .cleaning item)
        | (tasks, some .notFound) => ({ w with tasks }, .cleaning item)
        | (tasks, some _) => ({ w with tasks }, .idle)
      else markCreated kindName w item
    | none => markCreated kindName w item

/-! ## Runs -/

section Runs

variable {ι : Type} [DecidableEq ι]

/-- One move of a user, of the cluster, of the reconciler, of the tracer or
of an executor. -/
inductive Step (c : Controller) : World ι → World ι → Prop
  /-- a user creates a task -/
  | create {w : World ι} (taskName : String) (obj : TaskObject) :
      w.tasks.get taskName = none → obj.deletionTimestamp = none → obj.status = TaskStatus.empty →
      Step c w { w with tasks := w.tasks.set taskName obj }
  /-- the controller marks a task finished -/
  | finish {w : World ι} (taskName : String) (obj : TaskObject) (finishTime : Int) :
      w.tasks.get taskName = some obj →
      Step c w { w with
        tasks := w.tasks.set taskName
          { obj with status := { obj.status with finish := true, finishTime := some finishTime } } }
  /-- a user deletes a task -/
  | delete {w : World ι} (taskName : String) :
      Step c w { w with tasks := w.tasks.erase taskName }
  /-- a runtime becomes ready -/
  | ready {w : World ι} (key : RuntimeKey) : w.runtimes.get key = some false →
      Step c w { w with runtimes := w.runtimes.set key true }
  /-- the garbage collector removes a runtime -/
  | collect {w : World ι} (key : RuntimeKey) : Step c w { w with runtimes := w.runtimes.erase key }
  /-- the clock advances -/
  | tick {w : World ι} (now : Int) : w.now ≤ now → Step c w { w with now }
  /-- the reconciler handles a task -/
  | reconcile {w : World ι} (taskName : String) : Step c w (reconcile c w taskName)
  /-- the tracer signals an item it listed -/
  | signal {w : World ι} (item : Item) : item ∈ w.db.list →
      Step c w { w with itemSignal := w.itemSignal ++ [item] }
  /-- an idle executor takes the first item of the channel -/
  | execute {w : World ι} (i : ι) (item : Item) (rest : List Item) :
      w.executors i = .idle → w.itemSignal = item :: rest →
      Step c w
        { (execute c.kindName { w with itemSignal := rest } item).1 with
          executors := Function.update w.executors i (execute c.kindName { w with itemSignal := rest } item).2 }
  /-- an executor deletes its item's runtime from the database -/
  | clean {w : World ι} (i : ι) (item : Item) : w.executors i = .cleaning item →
      Step c w { w with db := w.db.delete item, executors := Function.update w.executors i .idle }

/-- A tracker that has not started: no task, no runtime, an empty database. -/
def World.init (maxCap : Int) : World ι :=
  ⟨.empty, .empty, newDB maxCap, [], fun _ => .idle, 0⟩

end Runs

/-! ## The database -/

namespace Database

theorem get_store (d : Database) (item : Item) (k : RuntimeKey) :
    (d.store item).cache.get k = if k = item.runtimeKey then some item else d.cache.get k :=
  GoMap.get_set _ _ _ _

theorem get_delete (d : Database) (item : Item) (k : RuntimeKey) :
    (d.delete item).cache.get k = if k = item.runtimeKey then none else d.cache.get k :=
  GoMap.get_erase _ _ _

/-- `Apply` changes only the entry of the item's runtime. -/
theorem get_apply_of_ne {d d' : Database} {item : Item} (h : d.apply item = .ok d')
    {k : RuntimeKey} (hk : k ≠ item.runtimeKey) : d'.cache.get k = d.cache.get k := by
  unfold apply at h
  split at h
  · split at h
    · cases h
    · cases h
      rw [get_store, if_neg hk]
  · split at h
    · cases h
      rfl
    · cases h
      rw [get_store, if_neg hk]

/-- `Apply` of a new runtime into a full database fails. -/
theorem apply_eq_error {d : Database} {item : Item} (hnew : d.cache.get item.runtimeKey = none)
    (hfull : d.cache.size = d.maxCap) :
    d.apply item = .error (.outOfCapacity item) := by
  unfold apply
  rw [hnew]
  exact if_pos hfull

/-- `Apply` removes no entry. -/
theorem isSome_apply {d d' : Database} {item : Item} (h : d.apply item = .ok d') {k : RuntimeKey}
    (hk : (d.cache.get k).isSome) : (d'.cache.get k).isSome := by
  by_cases hkey : k = item.runtimeKey
  · subst hkey
    unfold apply at h
    split at h
    · rename_i hnone
      rw [hnone] at hk
      cases hk
    · split at h
      · cases h
        exact hk
      · cases h
        rw [get_store, if_pos rfl]
        rfl
  · rw [get_apply_of_ne h hkey]
    exact hk

theorem mem_list {d : Database} {item : Item} (h : item ∈ d.list) :
    d.cache.get item.runtimeKey = some item := by
  obtain ⟨⟨k, e⟩, hmem, rfl⟩ := List.mem_map.mp h
  have hget := GoMap.get_of_mem hmem
  rw [← d.keyed k e hget] at hget
  exact hget

/-! ### The contracts of the calls -/

/-- `reflect.DeepEqual` of two items: the same fields, and task maps with the
same entries. -/
theorem deepEqual_iff {a b : Item} :
    a.deepEqual b = true ↔
      a.runtimeKey = b.runtimeKey ∧ a.runtimeStatus = b.runtimeStatus ∧
        a.runtimeDeletionTime = b.runtimeDeletionTime ∧ a.serviceNameV4 = b.serviceNameV4 ∧
        a.serviceNameV6 = b.serviceNameV6 ∧ ∀ k, a.task.get k = b.task.get k := by
  simp [Item.deepEqual, GoMap.deepEqual_iff, and_assoc]

/-- `Apply` fails exactly for a new runtime in a full database. -/
theorem apply_eq_error_iff {d : Database} {item : Item} :
    (∃ err, d.apply item = .error err) ↔
      d.cache.get item.runtimeKey = none ∧ d.cache.size = d.maxCap := by
  unfold apply
  cases hget : d.cache.get item.runtimeKey with
  | none => by_cases hfull : d.cache.size = d.maxCap <;> simp [hfull]
  | some old => by_cases heq : old.deepEqual item <;> simp [heq]

theorem exec_apply_of_error {d : Database} {item : Item} {err : ApplyError}
    (h : d.apply item = .error err) : d.exec (.apply item) = d := by
  simp only [exec, h]

/-- Storing an item adds an entry exactly when its runtime had none. -/
theorem size_store (d : Database) (item : Item) :
    (d.store item).cache.size =
      if (d.cache.get item.runtimeKey).isSome then d.cache.size else d.cache.size + 1 := by
  have h := GoMap.size_erase_add d.cache item.runtimeKey
  rw [show (d.store item).cache = d.cache.set item.runtimeKey item from rfl, GoMap.size_set]
  split <;> simp_all

theorem maxCap_exec (d : Database) (op : DbOp) : (d.exec op).maxCap = d.maxCap := by
  cases op with
  | apply item =>
    simp only [exec, apply]
    split <;> rename_i h <;> split at h <;> (try split at h) <;> cases h <;> rfl
  | delete item => rfl
  | get it taskName => rfl
  | list => rfl

/-- No call takes the database past its capacity: `Apply` adds an entry only
below it, since a full database has exactly `maxCap` entries. -/
theorem size_exec_le {d : Database} (h : d.cache.size ≤ d.maxCap) (op : DbOp) :
    (d.exec op).cache.size ≤ d.maxCap := by
  cases op with
  | apply item =>
    simp only [exec, apply]
    cases hget : d.cache.get item.runtimeKey with
    | none =>
      by_cases hfull : d.cache.size = d.maxCap
      · simp [hfull]
      · simp only [hfull, if_false, size_store, hget, Option.isSome_none, Bool.false_eq_true]
        omega
    | some old =>
      by_cases heq : old.deepEqual item
      · simpa [heq] using h
      · simpa [heq, size_store, hget] using h
  | delete item =>
    have h' := GoMap.size_erase_add d.cache item.runtimeKey
    show (d.cache.erase item.runtimeKey).size ≤ d.maxCap
    omega
  | get it taskName => exact h
  | list => exact h

theorem maxCap_run (d : Database) (ops : List DbOp) : (d.run ops).maxCap = d.maxCap := by
  induction ops generalizing d with
  | nil => rfl
  | cons op ops ih =>
    show (run (d.exec op) ops).maxCap = _
    rw [ih, maxCap_exec]

/-- The capacity bound over a whole run, by induction on the calls. -/
theorem size_run_le {d : Database} (h : d.cache.size ≤ d.maxCap) (ops : List DbOp) :
    (d.run ops).cache.size ≤ d.maxCap := by
  induction ops generalizing d with
  | nil => exact h
  | cons op ops ih =>
    show (run (d.exec op) ops).cache.size ≤ _
    have hstep := size_exec_le h op
    rw [← maxCap_exec d op] at hstep ⊢
    exact ih hstep

/-- `Apply` at a runtime that has an entry leaves it with the new item's
status, deletion time and services, and the tasks of both. -/
theorem exec_apply_of_get {d : Database} {item old : Item}
    (hold : d.cache.get item.runtimeKey = some old) :
    ∃ e, (d.exec (.apply item)).cache.get item.runtimeKey = some e ∧
      e.runtimeStatus = item.runtimeStatus ∧ e.runtimeDeletionTime = item.runtimeDeletionTime ∧
      e.serviceNameV4 = item.serviceNameV4 ∧ e.serviceNameV6 = item.serviceNameV6 ∧
      ∀ taskName, (e.task.get taskName).isSome ↔
        (old.task.get taskName).isSome ∨ (item.task.get taskName).isSome := by
  simp only [exec, apply, hold]
  by_cases heq : old.deepEqual item
  · -- `DeepEqual`: the entry stays, and it is the new item in all but identity
    obtain ⟨-, hstatus, htime, hv4, hv6, htask⟩ := deepEqual_iff.mp heq
    simp only [if_pos heq]
    exact ⟨old, hold, hstatus, htime, hv4, hv6, fun taskName => by rw [htask, or_self]⟩
  · simp only [if_neg heq, get_store, ↓reduceIte]
    refine ⟨_, rfl, rfl, rfl, rfl, rfl, fun taskName => ?_⟩
    simp only [GoMap.get_assign, Option.isSome_or, Bool.or_eq_true, or_comm]

/-- `Apply` of a new runtime into a database with room stores the item and
changes no other entry. -/
theorem exec_apply_of_none {d : Database} {item : Item} (hnew : d.cache.get item.runtimeKey = none)
    (hroom : d.cache.size < d.maxCap) :
    (d.exec (.apply item)).cache.get item.runtimeKey = some item ∧
      ∀ k, k ≠ item.runtimeKey → (d.exec (.apply item)).cache.get k = d.cache.get k := by
  have happly : d.apply item = .ok (d.store item) := by
    unfold apply
    rw [hnew]
    exact if_neg (Nat.ne_of_lt hroom)
  simp only [exec, happly]
  exact ⟨by rw [get_store, if_pos rfl], fun k hk => by rw [get_store, if_neg hk]⟩

/-- `Get` finds an item exactly when some entry's tasks name the task. -/
theorem get_isOk_iff {d : Database} {it : Iteration RuntimeKey} {taskName : String} :
    (∃ e, d.get it taskName = .ok e) ↔
      ∃ k e, d.cache.get k = some e ∧ (e.task.get taskName).isSome := by
  unfold get
  split
  · rename_i v hv
    obtain ⟨k, -, hk⟩ := List.exists_of_findSome?_eq_some hv
    obtain ⟨hget, hname⟩ := Option.filter_eq_some_iff.mp hk
    exact ⟨fun _ => ⟨k, v, hget, hname⟩, fun _ => ⟨v, rfl⟩⟩
  · rename_i hnone
    simp only [reduceCtorEq, exists_false, false_iff, not_exists, not_and]
    intro k e hget hname
    have hk := (Iteration.findSome?_eq_none_iff _ _ _).mp hnone k
      (List.mem_map_of_mem (f := Prod.fst) (GoMap.mem_of_get hget))
    rw [hget] at hk
    simp only [Option.filter_some, hname, ↓reduceIte, reduceCtorEq] at hk

/-- What `Get` returns is an entry, under its own key, naming the task. -/
theorem get_eq_ok {d : Database} {it : Iteration RuntimeKey} {taskName : String} {e : Item}
    (h : d.get it taskName = .ok e) :
    d.cache.get e.runtimeKey = some e ∧ (e.task.get taskName).isSome := by
  unfold get at h
  split at h
  · rename_i v hv
    cases h
    obtain ⟨k, -, hk⟩ := List.exists_of_findSome?_eq_some hv
    obtain ⟨hget, hname⟩ := Option.filter_eq_some_iff.mp hk
    rw [d.keyed k _ hget]
    exact ⟨hget, hname⟩
  · cases h

/-- `List` gives each entry once: items of different runtimes differ. -/
theorem nodup_list (d : Database) : d.list.Nodup := by
  refine List.Nodup.map_on ?_ (d.cache.nodup.of_map Prod.fst)
  rintro ⟨k, e⟩ hke ⟨k', e'⟩ hke' (rfl : e = e')
  have hk := d.keyed k e (GoMap.get_of_mem hke)
  have hk' := d.keyed k' e (GoMap.get_of_mem hke')
  simp only [Prod.mk.injEq, and_true]
  rw [← hk, hk']

theorem mem_list_iff {d : Database} {item : Item} :
    item ∈ d.list ↔ d.cache.get item.runtimeKey = some item :=
  ⟨mem_list, fun h => List.mem_map_of_mem (f := Prod.snd) (GoMap.mem_of_get h)⟩

/-- The capacity `NewDB` settles on. -/
theorem maxCap_newDB (maxCap : Int) :
    ((newDB maxCap).maxCap : Int) = if maxCap ≤ 0 then (defaultMaxDBCap : Int) else maxCap := by
  by_cases h : maxCap ≤ 0
  · simp [newDB, h]
  · simp only [newDB, h, if_false]
    exact Int.toNat_of_nonneg (by omega)

end Database

/-- Over every sequence of calls on a database made by `NewDB`: the capacity
bound, the failure of `Apply`, the keys of the entries, the merge of `Apply`
at a runtime it holds and its store of a new one, `Delete`, `Get` and
`List`. -/
theorem database_run_contracts (maxCap : Int) (ops : List DbOp) :
    let d := (newDB maxCap).run ops
    ((d.maxCap : Int) = if maxCap ≤ 0 then (defaultMaxDBCap : Int) else maxCap) ∧
    d.cache.size ≤ d.maxCap ∧
    (∀ item, (∃ err, d.apply item = .error err) ↔
      d.cache.get item.runtimeKey = none ∧ d.cache.size = d.maxCap) ∧
    (∀ item err, d.apply item = .error err → d.exec (.apply item) = d) ∧
    (∀ k e, d.cache.get k = some e → e.runtimeKey = k) ∧
    (∀ item old, d.cache.get item.runtimeKey = some old →
      ∃ e, (d.exec (.apply item)).cache.get item.runtimeKey = some e ∧
        e.runtimeStatus = item.runtimeStatus ∧ e.runtimeDeletionTime = item.runtimeDeletionTime ∧
        e.serviceNameV4 = item.serviceNameV4 ∧ e.serviceNameV6 = item.serviceNameV6 ∧
        ∀ taskName, (e.task.get taskName).isSome ↔
          (old.task.get taskName).isSome ∨ (item.task.get taskName).isSome) ∧
    (∀ item, d.cache.get item.runtimeKey = none →
      (d.cache.size < d.maxCap →
        (d.exec (.apply item)).cache.get item.runtimeKey = some item ∧
        ∀ k, k ≠ item.runtimeKey → (d.exec (.apply item)).cache.get k = d.cache.get k) ∧
      (d.cache.size = d.maxCap → d.apply item = .error (.outOfCapacity item))) ∧
    (∀ item k, (d.exec (.delete item)).cache.get k =
      if k = item.runtimeKey then none else d.cache.get k) ∧
    (∀ it taskName,
      ((∃ e, d.get it taskName = .ok e) ↔
        ∃ k e, d.cache.get k = some e ∧ (e.task.get taskName).isSome) ∧
      ∀ e, d.get it taskName = .ok e →
        d.cache.get e.runtimeKey = some e ∧ (e.task.get taskName).isSome) ∧
    d.list.Nodup ∧ ∀ item, item ∈ d.list ↔ d.cache.get item.runtimeKey = some item := by
  intro d
  have hcap : d.maxCap = (newDB maxCap).maxCap := Database.maxCap_run _ ops
  have hsize : d.cache.size ≤ d.maxCap := by
    rw [hcap]
    exact Database.size_run_le (Nat.zero_le _) ops
  refine ⟨hcap ▸ Database.maxCap_newDB maxCap, hsize, fun item => Database.apply_eq_error_iff,
    fun item err h => Database.exec_apply_of_error h, d.keyed,
    fun item old h => Database.exec_apply_of_get h,
    fun item hnew => ⟨Database.exec_apply_of_none hnew, Database.apply_eq_error hnew⟩,
    fun item k => Database.get_delete d item k,
    fun it taskName => ⟨Database.get_isOk_iff, fun e h => Database.get_eq_ok h⟩,
    Database.nodup_list d, fun item => Database.mem_list_iff⟩

/-! ## What each party changes -/

section Parties

variable {ι : Type}

/-- The reconciler changes the database only by one `Apply`. -/
theorem reconcile_db (c : Controller) (w : World ι) (taskName : String) :
    (reconcile c w taskName).db = w.db ∨ ∃ item, w.db.apply item = .ok (reconcile c w taskName).db := by
  have happly : ∀ (w : World ι) obj resource deletionTime,
      (applyResource c w taskName obj resource deletionTime).db = w.db ∨
        ∃ item, w.db.apply item = .ok (applyResource c w taskName obj resource deletionTime).db := by
    intro w obj resource deletionTime
    unfold applyResource
    split
    · exact Or.inl rfl
    · rename_i db hdb
      exact Or.inr ⟨_, hdb⟩
  unfold reconcile
  split
  · exact Or.inl rfl
  · split
    · exact Or.inl rfl
    · split
      · exact happly _ _ _ _
      · -- the runtime is created first, which leaves the database alone
        dsimp only
        split <;> exact happly _ _ _ _
      · exact happly _ _ _ _

/-- The reconciler of a task that is gone changes nothing. -/
theorem reconcile_of_get_eq_none (c : Controller) {w : World ι} {taskName : String}
    (h : w.tasks.get taskName = none) : reconcile c w taskName = w := by
  unfold reconcile
  rw [h]
  rfl

/-- The `RuntimeCreating` case of an executor writes at most the status of
the item's tasks, and leaves the executor idle or about to delete the item. -/
theorem markCreated_shape (kindName : String) (w : World ι) (item : Item) :
    ∃ tasks, (markCreated kindName w item).1 = { w with tasks } ∧
      (tasks = w.tasks ∨ tasks = (updateRuntimeStatus kindName w.tasks item .created).1) ∧
      ((markCreated kindName w item).2 = .idle ∨ (markCreated kindName w item).2 = .cleaning item) := by
  unfold markCreated
  split
  · generalize hu : updateRuntimeStatus kindName w.tasks item .created = u
    obtain ⟨tasks, err⟩ := u
    cases err
    · exact ⟨tasks, rfl, Or.inr rfl, Or.inr rfl⟩
    · exact ⟨tasks, rfl, Or.inr rfl, Or.inl rfl⟩
  · exact ⟨w.tasks, rfl, Or.inl rfl, Or.inl rfl⟩

/-- An executor's first move on an item writes at most the runtimes and the
status of the item's tasks, and leaves the executor idle or about to delete
the item. -/
theorem execute_shape (kindName : String) (w : World ι) (item : Item) :
    ∃ tasks runtimes, (execute kindName w item).1 = { w with tasks, runtimes } ∧
      (tasks = w.tasks ∨ ∃ status, tasks = (updateRuntimeStatus kindName w.tasks item status).1) ∧
      ((execute kindName w item).2 = .idle ∨ (execute kindName w item).2 = .cleaning item) := by
  have hmark : ∃ tasks runtimes, (markCreated kindName w item).1 = { w with tasks, runtimes } ∧
      (tasks = w.tasks ∨ ∃ status, tasks = (updateRuntimeStatus kindName w.tasks item status).1) ∧
      ((markCreated kindName w item).2 = .idle ∨ (markCreated kindName w item).2 = .cleaning item) := by
    obtain ⟨tasks, h, htasks, hexec⟩ := markCreated_shape kindName w item
    exact ⟨tasks, w.runtimes, h, htasks.imp_right fun h => ⟨.created, h⟩, hexec⟩
  unfold execute
  split
  · exact ⟨w.tasks, w.runtimes, rfl, Or.inl rfl, Or.inl rfl⟩
  · split
    · split
      · -- the runtime is deleted before its tasks are marked
        dsimp only
        generalize hu : updateRuntimeStatus kindName w.tasks item .deleted = u
        obtain ⟨tasks, err⟩ := u
        rcases err with _ | _ | _
        · exact ⟨tasks, _, rfl, Or.inr ⟨.deleted, by rw [hu]⟩, Or.inr rfl⟩
        · exact ⟨tasks, _, rfl, Or.inr ⟨.deleted, by rw [hu]⟩, Or.inr rfl⟩
        · exact ⟨tasks, _, rfl, Or.inr ⟨.deleted, by rw [hu]⟩, Or.inl rfl⟩
      · exact hmark
    · exact hmark

/-- An executor's first move on an item leaves the database alone. -/
theorem execute_db (kindName : String) (w : World ι) (item : Item) :
    (execute kindName w item).1.db = w.db := by
  obtain ⟨tasks, runtimes, h, -, -⟩ := execute_shape kindName w item
  rw [h]

theorem execute_itemSignal (kindName : String) (w : World ι) (item : Item) :
    (execute kindName w item).1.itemSignal = w.itemSignal := by
  obtain ⟨tasks, runtimes, h, -, -⟩ := execute_shape kindName w item
  rw [h]

/-- An executor's first move on an item leaves it idle or about to delete
that item. -/
theorem execute_executor (kindName : String) (w : World ι) (item : Item) :
    (execute kindName w item).2 = .idle ∨ (execute kindName w item).2 = .cleaning item := by
  obtain ⟨-, -, -, -, hexec⟩ := execute_shape kindName w item
  exact hexec

end Parties

/-! ## Removals -/

section Removal

variable {ι : Type} [DecidableEq ι]

/-- Only an executor's `Delete` removes an entry, and it is the entry of the
runtime of the item that executor holds, whatever that item says. -/
theorem step_removes {c : Controller} {w w' : World ι} (h : Step c w w') {k : RuntimeKey}
    (hk : (w.db.cache.get k).isSome) (hk' : w'.db.cache.get k = none) :
    ∃ i item, w.executors i = .cleaning item ∧ item.runtimeKey = k ∧ w' = { w with
      db := w.db.delete item, executors := Function.update w.executors i .idle } := by
  cases h with
  | reconcile taskName =>
    rcases reconcile_db c w taskName with hdb | ⟨item, happly⟩
    · rw [hdb] at hk'
      simp [hk'] at hk
    · have := Database.isSome_apply happly hk
      simp [hk'] at this
  | execute i item rest _ _ =>
    rw [execute_db] at hk'
    simp [hk'] at hk
  | clean i item hi =>
    refine ⟨i, item, hi, ?_, rfl⟩
    by_contra hne
    rw [Database.get_delete, if_neg (fun h => hne h.symm)] at hk'
    simp [hk'] at hk
  | _ => simp_all

/-! ## The scheduler's controller -/

/-- The resource `CreateTaskRuntimeIfNotExist` (`scheduler/schedule.go`)
returns for a task. -/
def runtimeResource (g : Globals) (taskKind taskName : List Char) (agentKind : String) : TaskResource :=
  let taskRuntimeName := taskRuntimeName taskKind taskName
  ⟨String.ofList taskRuntimeName, agentKind,
    if g.enableIPv4 then some (String.ofList (taskRuntimeServiceName taskRuntimeName .iPv4)) else none,
    if g.enableIPv6 then some (String.ofList (taskRuntimeServiceName taskRuntimeName .iPv6)) else none,
    .creating⟩

/-- The tracker's reconciler for the tasks of a kind whose runtimes the
scheduler creates. -/
def schedulerController (g : Globals) (kindName : String) (defaultResource : TaskResource)
    (agentKind : String) : Controller where
  kindName := kindName
  defaultResource := defaultResource
  createTaskRuntime := fun taskName => runtimeResource g kindName.toList taskName.toList agentKind

/-- The runtime name of a task whose name needs no cut. -/
theorem taskRuntimeName_toList {kindName taskName : String}
    (hlen : (runtimePrefix kindName.toList).length + taskName.length ≤
      K8s.dns1123SubdomainMaxLength) :
    taskRuntimeName kindName.toList taskName.toList = runtimePrefix kindName.toList ++ taskName.toList :=
  taskRuntimeName_of_le (by rw [List.length_append, String.length_toList]; exact hlen)

/-! ## A lost update -/

/-- A NetReach controller whose task runtimes are Deployments named after the
task, and a new task `demo` with an `AgentSpec`. -/
def netReachController : Controller where
  kindName := "NetReach"
  defaultResource := ⟨"kdoctor-agent", "DaemonSet", none, none, .created⟩
  createTaskRuntime := fun taskName =>
    ⟨"kdoctor-netreach-" ++ taskName, "Deployment", none, none, .creating⟩

/-- The NetReach controller of the tracker's traces is the scheduler's, with
no IP family enabled and Deployment agents, on every task name that needs no
cut. -/
theorem netReachController_eq_scheduler {g : Globals} (h4 : g.enableIPv4 = false)
    (h6 : g.enableIPv6 = false) {taskName : String}
    (hlen : (runtimePrefix "NetReach".toList).length + taskName.length ≤
      K8s.dns1123SubdomainMaxLength) :
    netReachController.createTaskRuntime taskName =
      (schedulerController g "NetReach" netReachController.defaultResource "Deployment").createTaskRuntime
        taskName := by
  have hprefix : String.ofList (runtimePrefix "NetReach".toList) = "kdoctor-netreach-" := by decide
  simp only [schedulerController, runtimeResource, netReachController, h4, h6, Bool.false_eq_true,
    if_false]
  rw [taskRuntimeName_toList hlen, String.ofList_append, String.ofList_toList, hprefix]

def demoTask : TaskObject := ⟨none, some ⟨none⟩, TaskStatus.empty⟩

/-- The item of `demo`'s runtime as the first reconcile records it. -/
def demoItem : Item := buildItem (netReachController.createTaskRuntime "demo") "NetReach" "demo" none

/-- The tracker takes up `demo`'s runtime as `creating`, an executor marks it
`created`, the task finishes at time 100 and is reconciled again, which records
the runtime's deletion time, while the executor has not yet deleted its item. -/
theorem reachable_beforeLostUpdate :
    ∃ w : World Unit, Reachable (Step netReachController) (World.init 10000) w ∧
      w.executors () = .cleaning demoItem ∧
      ∃ e, w.db.cache.get ⟨"Deployment", "kdoctor-netreach-demo"⟩ = some e ∧
        e.runtimeDeletionTime = some 100 := by
  have r1 := (Reachable.refl : Reachable (Step netReachController) (World.init 10000 : World Unit) _).tail
    (Step.create "demo" demoTask rfl rfl rfl)
  have r2 := r1.tail (Step.reconcile "demo")
  have r3 := r2.tail (Step.signal demoItem (by decide))
  have r4 := r3.tail (Step.ready ⟨"Deployment", "kdoctor-netreach-demo"⟩ (by decide))
  have r5 := r4.tail (Step.execute () demoItem [] rfl rfl)
  have r6 := r5.tail (Step.finish "demo"
    ⟨none, some ⟨none⟩, { resource := some ⟨"kdoctor-netreach-demo", "Deployment", none, none,
      .created⟩ }⟩ 100 (by decide))
  have r7 := r6.tail (Step.reconcile "demo")
  exact ⟨_, r7, by decide, _, rfl, rfl⟩

/-- An executor that marked `demo` `created` from the item its first
reconcile recorded then deletes, by the runtime's key, the newer entry that
carries the runtime's deletion time. The controller creates `demo`'s runtime
as the scheduler does with the chart's templates and no IP family. -/
theorem lostUpdate :
    netReachController.createTaskRuntime "demo" =
      (schedulerController { chartGlobals with enableIPv4 := false } "NetReach"
        netReachController.defaultResource "Deployment").createTaskRuntime "demo" ∧
    ∃ w w' : World Unit, Reachable (Step netReachController) (World.init 10000) w ∧
      Step netReachController w w' ∧
      w.executors () = .cleaning demoItem ∧ demoItem.runtimeStatus = .creating ∧
      demoItem.runtimeDeletionTime = none ∧
      (∃ e, w.db.cache.get ⟨"Deployment", "kdoctor-netreach-demo"⟩ = some e ∧
        e.runtimeDeletionTime = some 100) ∧
      w'.db.cache.get ⟨"Deployment", "kdoctor-netreach-demo"⟩ = none := by
  refine ⟨netReachController_eq_scheduler rfl rfl (by decide), ?_⟩
  obtain ⟨w, hw, hexec, e, he, hdel⟩ := reachable_beforeLostUpdate
  refine ⟨_, _, hw, Step.clean () demoItem hexec, hexec, rfl, rfl, ⟨e, he, hdel⟩, ?_⟩
  rw [Database.get_delete, if_pos (by decide)]

end Removal

/-! ## Entries of deleted tasks -/

/-- The runtime key of a task resource. -/
def runtimeKeyOf (resource : TaskResource) : RuntimeKey := ⟨resource.runtimeType, resource.runtimeName⟩

/-- Every task object of `tasks'` is one of `tasks` that kept its resource or
was given one of the runtime `key`. -/
def TasksFrom (tasks tasks' : GoMap String TaskObject) (key : RuntimeKey) : Prop :=
  ∀ t obj', tasks'.get t = some obj' → ∃ obj, tasks.get t = some obj ∧
    ∀ r ∈ obj'.status.resource, r ∈ obj.status.resource ∨ runtimeKeyOf r = key

theorem TasksFrom.refl (tasks : GoMap String TaskObject) (key : RuntimeKey) :
    TasksFrom tasks tasks key :=
  fun _ obj' h => ⟨obj', h, fun _ hr => Or.inl hr⟩

/-- Writing a task object that exists, keeping its resource or giving it one
of the runtime `key`. -/
theorem tasksFrom_set {tasks : GoMap String TaskObject} {t : String} {obj obj' : TaskObject}
    {key : RuntimeKey} (hobj : tasks.get t = some obj)
    (hres : ∀ r ∈ obj'.status.resource, r ∈ obj.status.resource ∨ runtimeKeyOf r = key) :
    TasksFrom tasks (tasks.set t obj') key := by
  intro t' obj'' h
  rw [GoMap.get_set] at h
  by_cases ht : t' = t
  · rw [if_pos ht, Option.some.injEq] at h
    subst h ht
    exact ⟨obj, hobj, hres⟩
  · rw [if_neg ht] at h
    exact TasksFrom.refl tasks key t' obj'' h

theorem TasksFrom.trans {tasks tasks' tasks'' : GoMap String TaskObject} {key : RuntimeKey}
    (h : TasksFrom tasks tasks' key) (h' : TasksFrom tasks' tasks'' key) :
    TasksFrom tasks tasks'' key := by
  intro t obj'' hget
  obtain ⟨obj', hobj', hres'⟩ := h' t obj'' hget
  obtain ⟨obj, hobj, hres⟩ := h t obj' hobj'
  refine ⟨obj, hobj, fun r hr => ?_⟩
  rcases hres' r hr with hr' | hkey
  · exact hres r hr'
  · exact Or.inr hkey

/-- A task that is gone stays gone. -/
theorem TasksFrom.get_eq_none {tasks tasks' : GoMap String TaskObject} {key : RuntimeKey}
    (h : TasksFrom tasks tasks' key) {t : String} (ht : tasks.get t = none) : tasks'.get t = none := by
  cases hget : tasks'.get t with
  | none => rfl
  | some obj' =>
    obtain ⟨obj, hobj, -⟩ := h t obj' hget
    rw [ht] at hobj
    cases hobj

/-- The loop of `updateRuntimeStatus` only sets the resource of tasks it finds. -/
theorem updateTasks_from {kindName : String} {resource : TaskResource}
    (entries : List (String × String)) (tasks : GoMap String TaskObject) :
    TasksFrom tasks (updateTasks kindName resource entries tasks).1 (runtimeKeyOf resource) := by
  induction entries generalizing tasks with
  | nil => exact TasksFrom.refl _ _
  | cons entry rest ih =>
    obtain ⟨taskName, taskKind⟩ := entry
    unfold updateTasks
    split
    · exact TasksFrom.refl _ _
    · split
      · exact TasksFrom.refl _ _
      · rename_i obj hobj
        split
        · exact TasksFrom.refl _ _
        · -- the task found gets the new resource, then the loop goes on
          refine (tasksFrom_set hobj fun r hr => Or.inr ?_).trans (ih _)
          simp only [Option.mem_def, Option.some.injEq] at hr
          rw [hr]

theorem updateRuntimeStatus_from (kindName : String) (tasks : GoMap String TaskObject) (item : Item)
    (status : RuntimeStatus) :
    TasksFrom tasks (updateRuntimeStatus kindName tasks item status).1 item.runtimeKey :=
  updateTasks_from _ _

/-- The loop of `updateRuntimeStatus` over a task that is gone stops at once
with `NotFound`. -/
theorem updateTasks_gone {kindName taskName : String} {resource : TaskResource}
    {tasks : GoMap String TaskObject} (h : tasks.get taskName = none) :
    updateTasks kindName resource [(taskName, kindName)] tasks = (tasks, some .notFound) := by
  simp [updateTasks, h]

section Executors

variable {ι : Type}

/-- An executor's first move on an item changes task objects only by giving
them a resource of the item's runtime. -/
theorem execute_from (kindName : String) (w : World ι) (item : Item) :
    TasksFrom w.tasks (execute kindName w item).1.tasks item.runtimeKey := by
  obtain ⟨tasks, runtimes, h, htasks, -⟩ := execute_shape kindName w item
  rw [h]
  rcases htasks with rfl | ⟨status, rfl⟩
  · exact TasksFrom.refl _ _
  · exact updateRuntimeStatus_from kindName w.tasks item status

/-- An item of a single task that is gone, with no deletion time, changes
nothing: marking the task fails with `NotFound` before anything is written. -/
theorem execute_gone {kindName taskName : String} {w : World ι} {item : Item}
    (htask : item.task = .single taskName kindName) (hdel : item.runtimeDeletionTime = none)
    (hgone : w.tasks.get taskName = none) : execute kindName w item = (w, .idle) := by
  have hmark : markCreated kindName w item = (w, .idle) := by
    unfold markCreated updateRuntimeStatus
    rw [htask]
    split
    · rw [show (GoMap.single taskName kindName).entries = [(taskName, kindName)] from rfl,
        updateTasks_gone hgone]
    · rfl
  unfold execute
  rw [hdel]
  split
  · rfl
  · exact hmark

end Executors

section Reconciler

variable {ι : Type}

/-- `Reconcile` and `TaskResourceReconcile` give a finished task's runtime
the same deletion time. -/
theorem reconcileDeletionTime_eq {obj : TaskObject} {finishTime : Int}
    (hf : obj.status.finishTime = some finishTime) :
    reconcileDeletionTime obj.status.finishTime obj.agentSpec = some (deletionTimeOf obj) := by
  unfold reconcileDeletionTime deletionTimeOf
  rw [hf]
  rcases obj.agentSpec with _ | ⟨_ | grace⟩ <;> rfl

/-- A grace period of up to `153722867` minutes, the most that does not wrap,
deletes the runtime no earlier than the task finished. -/
theorem finish_le_deletionTimeOf {obj : TaskObject} {finishTime deletionTime : Int}
    (hf : obj.status.finishTime = some finishTime)
    (hgrace : ∀ a ∈ obj.agentSpec, ∀ g ∈ a.terminationGracePeriodMinutes, 0 ≤ g ∧ g ≤ 153722867)
    (hd : deletionTimeOf obj = some deletionTime) : finishTime ≤ deletionTime := by
  unfold deletionTimeOf at hd
  rw [hf] at hd
  rcases ha : obj.agentSpec with _ | ⟨_ | grace⟩ <;> rw [ha] at hd
  · cases hd
  · cases hd
    exact Int.le_refl _
  · cases hd
    obtain ⟨h0, hle⟩ := hgrace _ ha grace rfl
    rw [minutes_of_le h0 hle]
    have : 0 ≤ grace * minute := Int.mul_nonneg h0 (by decide)
    omega

theorem applyResource_spec (c : Controller) (w : World ι) (taskName : String) (obj : TaskObject)
    (resource : TaskResource) (deletionTime : Option Int) :
    (applyResource c w taskName obj resource deletionTime).itemSignal = w.itemSignal ∧
    (applyResource c w taskName obj resource deletionTime).executors = w.executors ∧
    ((applyResource c w taskName obj resource deletionTime).db = w.db ∨
      w.db.apply (buildItem resource c.kindName taskName deletionTime) =
        .ok (applyResource c w taskName obj resource deletionTime).db) ∧
    ((applyResource c w taskName obj resource deletionTime).tasks = w.tasks ∨
      (applyResource c w taskName obj resource deletionTime).tasks =
        w.tasks.set taskName { obj with status := { obj.status with resource := some resource } }) := by
  unfold applyResource
  split
  · exact ⟨rfl, rfl, Or.inl rfl, Or.inl rfl⟩
  · rename_i db hdb
    refine ⟨rfl, rfl, Or.inr hdb, ?_⟩
    dsimp only
    split
    · exact Or.inl rfl
    · exact Or.inr rfl

/-- A reconcile changes nothing, or records a resource of the task, chosen
as the default agent's, a new runtime's or the one its status names. -/
theorem reconcile_spec (c : Controller) (w : World ι) (taskName : String) :
    reconcile c w taskName = w ∨
    ∃ obj resource deletionTime, ∃ w1 : World ι, w.tasks.get taskName = some obj ∧
      (resource = c.defaultResource ∨ resource = c.createTaskRuntime taskName ∨
        obj.status.resource = some resource) ∧
      w1.db = w.db ∧ w1.tasks = w.tasks ∧ w1.itemSignal = w.itemSignal ∧ w1.executors = w.executors ∧
      reconcile c w taskName = applyResource c w1 taskName obj resource deletionTime := by
  unfold reconcile
  split
  · exact Or.inl rfl
  · rename_i obj hobj
    split
    · exact Or.inl rfl
    · split
      · exact Or.inr ⟨obj, _, _, w, hobj, Or.inl rfl, rfl, rfl, rfl, rfl, rfl⟩
      · -- the runtime is created before the resource is recorded
        dsimp only
        split
        · refine Or.inr ⟨obj, _, _, _, hobj, Or.inr (Or.inl rfl), ?_, ?_, ?_, ?_, rfl⟩ <;> rfl
        · exact Or.inr ⟨obj, _, _, w, hobj, Or.inr (Or.inl rfl), rfl, rfl, rfl, rfl, rfl⟩
      · exact Or.inr ⟨obj, _, _, w, hobj, Or.inr (Or.inr (by assumption)), rfl, rfl, rfl, rfl, rfl⟩

end Reconciler

section Leak

/-- No task object names a resource of the runtime `key`. -/
def Unnamed (tasks : GoMap String TaskObject) (key : RuntimeKey) : Prop :=
  ∀ t obj, tasks.get t = some obj → ∀ r ∈ obj.status.resource, runtimeKeyOf r ≠ key

theorem Unnamed.of_from {tasks tasks' : GoMap String TaskObject} {key key' : RuntimeKey}
    (h : Unnamed tasks key) (hf : TasksFrom tasks tasks' key') (hk : key' ≠ key) :
    Unnamed tasks' key := by
  intro t obj' hget r hr
  obtain ⟨obj, hobj, hres⟩ := hf t obj' hget
  rcases hres r hr with hr' | hkey
  · exact h t obj hobj r hr'
  · rw [hkey]
    exact hk

theorem Unnamed.set {tasks : GoMap String TaskObject} {key : RuntimeKey} (h : Unnamed tasks key)
    (t : String) {obj : TaskObject} (hres : ∀ r ∈ obj.status.resource, runtimeKeyOf r ≠ key) :
    Unnamed (tasks.set t obj) key := by
  intro t' obj' hget r hr
  rw [GoMap.get_set] at hget
  by_cases ht : t' = t
  · rw [if_pos ht, Option.some.injEq] at hget
    subst hget
    exact hres r hr
  · rw [if_neg ht] at hget
    exact h t' obj' hget r hr

theorem Unnamed.erase {tasks : GoMap String TaskObject} {key : RuntimeKey} (h : Unnamed tasks key)
    (t : String) : Unnamed (tasks.erase t) key := by
  intro t' obj hget
  rw [GoMap.get_erase] at hget
  by_cases ht : t' = t
  · rw [if_pos ht] at hget
    cases hget
  · rw [if_neg ht] at hget
    exact h t' obj hget

theorem Unnamed.of_entries_eq_nil {tasks : GoMap String TaskObject} (h : tasks.entries = [])
    (key : RuntimeKey) : Unnamed tasks key := by
  intro t obj hget
  have hmem := GoMap.mem_of_get hget
  rw [h] at hmem
  cases hmem

variable {ι : Type} [DecidableEq ι]

/-- The entry `e` of the runtime `key` belongs to the task `taskName` alone,
which is gone, and has no deletion time; no task object names the runtime,
no executor is about to delete it, and every item of it in the channel is a
copy for the same task with no deletion time. -/
structure Leaked (c : Controller) (taskName : String) (key : RuntimeKey) (e : Item) (w : World ι) :
    Prop where
  entry : w.db.cache.get key = some e
  task_gone : w.tasks.get taskName = none
  owner : e.task = .single taskName c.kindName
  no_deletion : e.runtimeDeletionTime = none
  unnamed : Unnamed w.tasks key
  not_cleaning : ∀ i item, w.executors i = .cleaning item → item.runtimeKey ≠ key
  signals : ∀ item ∈ w.itemSignal, item.runtimeKey = key →
    item.task = e.task ∧ item.runtimeDeletionTime = none

variable {c : Controller} {taskName : String} {key : RuntimeKey} {e : Item}

omit [DecidableEq ι] in
/-- A move that leaves the database, the channel and the executors alone and
keeps the runtime unnamed keeps the entry leaked. -/
theorem Leaked.of_tasks {w w' : World ι} (hs : Leaked c taskName key e w) (hdb : w'.db = w.db)
    (hsig : w'.itemSignal = w.itemSignal) (hexec : w'.executors = w.executors)
    (hunnamed : Unnamed w'.tasks key) (hgone : w'.tasks.get taskName = none) :
    Leaked c taskName key e w' where
  entry := hdb ▸ hs.entry
  task_gone := hgone
  owner := hs.owner
  no_deletion := hs.no_deletion
  unnamed := hunnamed
  not_cleaning := hexec ▸ hs.not_cleaning
  signals := hsig ▸ hs.signals

/-- An executor set idle, or about to delete an item of another runtime. -/
theorem not_cleaning_update {executors : ι → Executor}
    (h : ∀ i item, executors i = .cleaning item → item.runtimeKey ≠ key) (i : ι) {new : Executor}
    (hnew : ∀ item, new = .cleaning item → item.runtimeKey ≠ key) :
    ∀ j item, Function.update executors i new j = .cleaning item → item.runtimeKey ≠ key := by
  intro j item hj
  by_cases hji : j = i
  · subst hji
    rw [Function.update_self] at hj
    exact hnew item hj
  · rw [Function.update_of_ne hji] at hj
    exact h j item hj

section Step

variable (hcreate : ∀ t, t ≠ taskName → runtimeKeyOf (c.createTaskRuntime t) ≠ key)
  (hdefault : runtimeKeyOf c.defaultResource ≠ key)
include hcreate hdefault

omit [DecidableEq ι] in
/-- A reconcile of another task records a resource of another runtime. -/
theorem Leaked.reconcile {w : World ι} (hs : Leaked c taskName key e w) (t : String) :
    Leaked c taskName key e (reconcile c w t) := by
  rcases reconcile_spec c w t with heq | ⟨obj, r, dt, w1, hobj, hr, hdb, htasks, hsig, hexec, heq⟩
  · rw [heq]
    exact hs
  · have hne : t ≠ taskName := fun h => by
      rw [h, hs.task_gone] at hobj
      cases hobj
    -- the resource recorded is of another runtime, whichever way it was chosen
    have hkey : runtimeKeyOf r ≠ key := by
      rcases hr with rfl | rfl | hres
      · exact hdefault
      · exact hcreate t hne
      · exact hs.unnamed t obj hobj r hres
    obtain ⟨hsig', hexec', hdb', htasks'⟩ := applyResource_spec c w1 t obj r dt
    rw [heq]
    refine ⟨?_, ?_, hs.owner, hs.no_deletion, ?_, ?_, ?_⟩
    · rcases hdb' with hdb' | happly
      · rw [hdb', hdb]
        exact hs.entry
      · rw [Database.get_apply_of_ne happly hkey.symm, hdb]
        exact hs.entry
    · rcases htasks' with htasks' | htasks'
      · rw [htasks', htasks]
        exact hs.task_gone
      · rw [htasks', GoMap.get_set, if_neg hne.symm, htasks]
        exact hs.task_gone
    · rcases htasks' with htasks' | htasks'
      · rw [htasks', htasks]
        exact hs.unnamed
      · rw [htasks', htasks]
        refine hs.unnamed.set t fun r' hr' => ?_
        simp only [Option.mem_def, Option.some.injEq] at hr'
        rw [← hr']
        exact hkey
    · rw [hexec', hexec]
      exact hs.not_cleaning
    · rw [hsig', hsig]
      exact hs.signals

omit hcreate hdefault in
/-- An executor's first move on an item keeps the entry leaked: an item of
the leaked runtime changes nothing, and any other touches other runtimes. -/
theorem Leaked.execute {w : World ι} (hs : Leaked c taskName key e w) (i : ι) {item : Item}
    {rest : List Item} (hsig : w.itemSignal = item :: rest) :
    Leaked c taskName key e
      { (execute c.kindName { w with itemSignal := rest } item).1 with
        executors := Function.update w.executors i
          (execute c.kindName { w with itemSignal := rest } item).2 } := by
  have hrest : ∀ it ∈ rest, it.runtimeKey = key → it.task = e.task ∧ it.runtimeDeletionTime = none :=
    fun it hit => hs.signals it (by rw [hsig]; exact List.mem_cons_of_mem _ hit)
  by_cases hk : item.runtimeKey = key
  · -- the stale copy's status write finds no task and stops with `NotFound`
    obtain ⟨htask, hdel⟩ := hs.signals item (by rw [hsig]; exact List.mem_cons_self) hk
    rw [execute_gone (w := { w with itemSignal := rest }) (htask.trans hs.owner) hdel hs.task_gone]
    exact ⟨hs.entry, hs.task_gone, hs.owner, hs.no_deletion, hs.unnamed,
      not_cleaning_update hs.not_cleaning i (fun _ h => by cases h), hrest⟩
  · have hfrom := execute_from c.kindName { w with itemSignal := rest } item
    refine ⟨?_, hfrom.get_eq_none hs.task_gone, hs.owner, hs.no_deletion,
      hs.unnamed.of_from hfrom hk, ?_, ?_⟩
    · rw [execute_db]
      exact hs.entry
    · refine not_cleaning_update hs.not_cleaning i fun it hit => ?_
      rcases execute_executor c.kindName { w with itemSignal := rest } item with h | h <;>
        rw [h] at hit <;> cases hit
      exact hk
    · rw [execute_itemSignal]
      exact hrest

/-- Every step in which the task stays gone keeps the entry leaked. -/
theorem Leaked.step {w w' : World ι} (hs : Leaked c taskName key e w) (h : Step c w w')
    (hgone : w'.tasks.get taskName = none) : Leaked c taskName key e w' := by
  cases h with
  | create t obj _ _ hstatus =>
    refine hs.of_tasks rfl rfl rfl (hs.unnamed.set t fun r hr => ?_) hgone
    rw [hstatus] at hr
    cases hr
  | finish t obj _ hobj => exact hs.of_tasks rfl rfl rfl (hs.unnamed.set t (hs.unnamed t obj hobj)) hgone
  | delete t => exact hs.of_tasks rfl rfl rfl (hs.unnamed.erase t) hgone
  | ready => exact hs.of_tasks rfl rfl rfl hs.unnamed hgone
  | collect => exact hs.of_tasks rfl rfl rfl hs.unnamed hgone
  | tick => exact hs.of_tasks rfl rfl rfl hs.unnamed hgone
  | reconcile t => exact hs.reconcile hcreate hdefault t
  | signal item hmem =>
    refine ⟨hs.entry, hs.task_gone, hs.owner, hs.no_deletion, hs.unnamed, hs.not_cleaning, ?_⟩
    intro it hit hk
    rcases List.mem_append.mp hit with hit | hit
    · exact hs.signals it hit hk
    · -- the tracer copies the entry it lists
      rw [List.mem_singleton] at hit
      subst hit
      have hget := Database.mem_list hmem
      rw [hk, hs.entry, Option.some.injEq] at hget
      rw [← hget]
      exact ⟨rfl, hs.no_deletion⟩
  | execute i item rest _ hsig => exact hs.execute i hsig
  | clean i item hi =>
    refine ⟨?_, hs.task_gone, hs.owner, hs.no_deletion, hs.unnamed,
      not_cleaning_update hs.not_cleaning i (fun _ h => by cases h), hs.signals⟩
    rw [Database.get_delete, if_neg (hs.not_cleaning i item hi).symm]
    exact hs.entry

/-- Once an entry has leaked, it stays in the database, naming only its
deleted task and with no deletion time, for as long as that task is not
created again: no reconcile, tracer or executor move ever removes it. -/
theorem deletedTask_entry_stays {w w' : World ι} (hw : Leaked c taskName key e w)
    (hrun : ReflTransGen (fun w w' => Step c w w' ∧ w'.tasks.get taskName = none) w w') :
    w'.db.cache.get key = some e ∧ w'.tasks.get taskName = none ∧
      e.task = .single taskName c.kindName ∧ e.runtimeDeletionTime = none := by
  have hleak : Leaked c taskName key e w' := by
    induction hrun with
    | refl => exact hw
    | tail _ hlast ih => exact ih.step hcreate hdefault hlast.1 hlast.2
  exact ⟨hleak.entry, hleak.task_gone, hleak.owner, hleak.no_deletion⟩

end Step

end Leak

/-! ## A deleted task that stays -/

/-- The key of `demo`'s runtime. -/
def demoKey : RuntimeKey := ⟨"Deployment", "kdoctor-netreach-demo"⟩

/-- The item the reconcile after the executor's `Delete` records for `demo`. -/
def createdDemoItem : Item :=
  buildItem ⟨"kdoctor-netreach-demo", "Deployment", none, none, .created⟩ "NetReach" "demo" none

/-- A NetReach task of another name. -/
def otherItem : Item := buildItem (netReachController.createTaskRuntime "other") "NetReach" "other" none

theorem netReachController_createTaskRuntime {t : String} (ht : t ≠ "demo") :
    runtimeKeyOf (netReachController.createTaskRuntime t) ≠ demoKey := by
  intro h
  have hname : "kdoctor-netreach-" ++ t = "kdoctor-netreach-" ++ "demo" :=
    (congrArg RuntimeKey.runtimeName h).trans (by decide)
  exact ht ((String.append_right_inj "kdoctor-netreach-").mp hname)

/-- With a database of one item, `demo` is created, its runtime becomes ready
and is marked `created`, the executor deletes its item and the reconciler
records it again; then `demo` is deleted. The entry has leaked, and the
database has no room for any other task. -/
theorem reachable_deletedDemo :
    ∃ w : World Unit, Reachable (Step netReachController) (World.init 1) w ∧
      Leaked netReachController "demo" demoKey createdDemoItem w ∧
      w.db.apply otherItem = .error (.outOfCapacity otherItem) := by
  have r1 := (Reachable.refl : Reachable (Step netReachController) (World.init 1 : World Unit) _).tail
    (Step.create "demo" demoTask rfl rfl rfl)
  have r2 := r1.tail (Step.reconcile "demo")
  have r3 := r2.tail (Step.signal demoItem (by decide))
  have r4 := r3.tail (Step.ready demoKey (by decide))
  have r5 := r4.tail (Step.execute () demoItem [] rfl rfl)
  have r6 := r5.tail (Step.clean () demoItem (by decide))
  have r7 := r6.tail (Step.reconcile "demo")
  have r8 := r7.tail (Step.delete "demo")
  refine ⟨_, r8, ⟨by decide, by decide, rfl, rfl, Unnamed.of_entries_eq_nil (by decide) _, ?_, ?_⟩,
    Database.apply_eq_error (by decide) (by decide)⟩
  · intro i item hi
    cases hi
  · intro item hitem
    cases hitem

/-- After `demo` is deleted and its request reconciled, the entry of its
runtime names only `demo`, has no deletion time, and stays. The controller
creates the runtimes of `demo` and `other` as the scheduler does with the
chart's templates and no IP family. -/
theorem deletedTask_entry_stays_demo :
    (∀ t ∈ ["demo", "other"], netReachController.createTaskRuntime t =
      (schedulerController { chartGlobals with enableIPv4 := false } "NetReach"
        netReachController.defaultResource "Deployment").createTaskRuntime t) ∧
    ∃ w w' : World Unit, Reachable (Step netReachController) (World.init 1) w ∧
      w' = reconcile netReachController w "demo" ∧
      ReflTransGen (fun w w' => Step netReachController w w' ∧ w'.tasks.get "demo" = none) w w' ∧
      (w'.db.cache.get demoKey = some createdDemoItem ∧ w'.tasks.get "demo" = none ∧
        createdDemoItem.task = .single "demo" netReachController.kindName ∧
        createdDemoItem.runtimeDeletionTime = none) ∧
      w'.db.apply otherItem = .error (.outOfCapacity otherItem) := by
  refine ⟨fun t ht => netReachController_eq_scheduler rfl rfl ?_, ?_⟩
  · -- both names fit in a runtime name uncut
    simp only [List.mem_cons, List.not_mem_nil, or_false] at ht
    rcases ht with rfl | rfl <;> decide
  obtain ⟨w, hw, hleak, hfull⟩ := reachable_deletedDemo
  have hsame := reconcile_of_get_eq_none netReachController hleak.task_gone
  have hrun : ReflTransGen (fun w w' => Step netReachController w w' ∧ w'.tasks.get "demo" = none)
      w (reconcile netReachController w "demo") :=
    ReflTransGen.single ⟨Step.reconcile "demo", by rw [hsame]; exact hleak.task_gone⟩
  refine ⟨w, _, hw, rfl, hrun,
    deletedTask_entry_stays (fun _ ht => netReachController_createTaskRuntime ht) (by decide) hleak hrun,
    ?_⟩
  rw [hsame]
  exact hfull

end KDoctor.Scheduler
