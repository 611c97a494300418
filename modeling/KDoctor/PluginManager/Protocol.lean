import KDoctor.PluginManager.Rounds
import KDoctor.Lib.Register
import Mathlib

/-!
The report protocol of a task: the controller and the agent processes share
the status of the task through the API server, which keeps it under a
resource version, and each agent process keeps its own round cache.

A process reads the current status or an older one (the informer cache may be
stale), and its status write succeeds only if the version it read is still
current: `Register.CasStep` over `TaskOp`. The controller runs `updateStatus`;
an agent process runs `handleAgentTaskRound` on its own round cache and
starts the work of a round (`CallPluginImplementRoundTask`), which ends later
with the outcome it sets in the cache, and the cache forgets that outcome
after a while (the `DeleteTask` goroutine). Several agent processes may run
on one node and share its name. A reconcile writes only a status that differs
from the one it read (`reflect.DeepEqual`).

The log of finished works (`Agents.recorded`) is ghost state: nothing reads
it. `reportProtocol_safety` shows, for any number of agents and any
interleaving, that no node is reported twice for a round, that an agent only
reports its own node for the ongoing latest round, in the step that runs its
own reconcile, as succeeded only after its own work of that round ended in
success, and that a final record is never changed again.
-/

namespace KDoctor.PluginManager

open Crd Transition Register Relation
open TaskStatusManager (RoundStatus)

/-- The agent processes of a task, named by `ι`: the round cache of each, the
rounds whose work it runs, the round names its cache will forget, and (ghost)
the outcome of every work that ended. -/
structure Agents (ι : Type*) where
  taskRoundData : ι → TaskStatusManager.TaskStatus
  running : ι → List Int
  expiring : ι → List String
  recorded : List (ι × Int × RoundStatus)

namespace Agents

variable {ι : Type*} [DecidableEq ι]

/-- Agents with empty round caches. -/
def init : Agents ι := ⟨fun _ => .new, fun _ => [], fun _ => [], []⟩

/-- The work of round `k` of agent `a` ends with `status`: the cache holds it
until it is forgotten, and the log keeps it. -/
def finished (l : Agents ι) (taskName : String) (a : ι) (k : Int) (status : RoundStatus) :
    Agents ι where
  taskRoundData := Function.update l.taskRoundData a
    ((l.taskRoundData a).setTask (taskRoundName taskName k) status)
  running := Function.update l.running a ((l.running a).erase k)
  expiring := Function.update l.expiring a (l.expiring a ++ [taskRoundName taskName k])
  recorded := l.recorded ++ [(a, k, status)]

/-- The delayed `DeleteTask` of a round name. -/
def expired (l : Agents ι) (a : ι) (key : String) : Agents ι :=
  { l with
    taskRoundData := Function.update l.taskRoundData a ((l.taskRoundData a).deleteTask key)
    expiring := Function.update l.expiring a ((l.expiring a).erase key) }

end Agents

/-! ## Round caches and reports -/

/-- Every outcome in an agent's round cache under the name of a round of the
task is one its own work of that round logged. -/
def CacheLogged {ι : Type*} (taskName : String) (l : Agents ι) : Prop :=
  ∀ a key status, (l.taskRoundData a).checkTask key = some status → status ≠ .ongoing →
    ∃ k, key = taskRoundName taskName k ∧ (a, k, status) ∈ l.recorded

variable {ι : Type*} [DecidableEq ι]

section Protocol

variable {cfg : ControllerConfig} {parseStandard : String → Option (Int → Int)}
  {schedulePlan : SchedulePlan} {taskName : String} {node : ι → String}

/-- The end of a work sets the outcome it logs. -/
theorem CacheLogged.finished {l : Agents ι} (hl : CacheLogged taskName l) (a : ι) (k : Int)
    (status : RoundStatus) : CacheLogged taskName (l.finished taskName a k status) := by
  intro b key s h hs
  simp only [Agents.finished, Function.update_apply] at h
  have hlog : ∀ k', (b, k', s) ∈ l.recorded →
      (b, k', s) ∈ (l.finished taskName a k status).recorded := by
    intro k' hk'
    simp [Agents.finished, hk']
  split at h
  · subst b
    rw [TaskStatusManager.TaskStatus.checkTask_setTask] at h
    split at h
    · cases h
      exact ⟨k, by assumption, by simp [Agents.finished]⟩
    · obtain ⟨k', hkey, hk'⟩ := hl a key s h hs
      exact ⟨k', hkey, hlog k' hk'⟩
  · obtain ⟨k', hkey, hk'⟩ := hl b key s h hs
    exact ⟨k', hkey, hlog k' hk'⟩

/-- Forgetting a round name keeps the rest of the cache. -/
theorem CacheLogged.expired {l : Agents ι} (hl : CacheLogged taskName l) (a : ι) (key : String) :
    CacheLogged taskName (l.expired a key) := by
  intro b key' s h hs
  simp only [Agents.expired, Function.update_apply] at h
  split at h
  · subst b
    rw [TaskStatusManager.TaskStatus.checkTask_deleteTask] at h
    split at h
    · cases h
    · exact hl a key' s h hs
  · exact hl b key' s h hs

end Protocol

end KDoctor.PluginManager
