import Mathlib.Data.List.Perm.Basic
import KDoctor.Lib.Transition

/-!
Goroutines that each run one job and merge what it gives into shared state
under a mutex, while the goroutine that started them waits on a wait group.

A `Pool` holds the jobs whose goroutines have not merged yet and the shared
state; `Merge f` is one goroutine taking the lock and applying `f`. Every
schedule leaves the state of a sequential run of the merged jobs in some
order (`merge_sequential`), every order is a schedule (`merge_of_perm`), and
no schedule goes on for ever while a pending job can always merge, so the wait
ends (`merge_wellFounded`, `merge_progress`).

The shared state the development meets is a register that a job overwrites
only when it has something to write, beside an append-only log:
`logAndWrite`. After a run the log holds the jobs' entries in the order they
merged, and the register the write of the last job that wrote, or its first
value when none did (`foldl_logAndWrite`).
-/

namespace KDoctor.Fanout

open Relation Transition

variable {α β γ δ : Type*}

/-- The jobs whose goroutines have not merged yet, and the shared state. -/
structure Pool (α β : Type*) where
  pending : List α
  shared : β

/-- One goroutine takes the lock and merges its job. -/
inductive Merge (f : β → α → β) : Pool α β → Pool α β → Prop
  | pick (l₁ l₂ : List α) (x : α) (shared : β) :
      Merge f ⟨l₁ ++ x :: l₂, shared⟩ ⟨l₁ ++ l₂, f shared x⟩

section Schedules

variable {f : β → α → β} {jobs : List α} {init : β}

/-- What every schedule keeps: the jobs merged so far and the pending ones
are the jobs, and the shared state is the sequential run of those merged. -/
def Sequential (f : β → α → β) (jobs : List α) (init : β) (p : Pool α β) : Prop :=
  ∃ done : List α, (done ++ p.pending).Perm jobs ∧ p.shared = done.foldl f init

theorem Sequential.merge {p q : Pool α β} (hp : Sequential f jobs init p) (h : Merge f p q) :
    Sequential f jobs init q := by
  obtain ⟨done, hperm, hshared⟩ := hp
  cases h with
  | pick l₁ l₂ x shared =>
    dsimp only at hperm hshared
    subst hshared
    refine ⟨done ++ [x], ?_, by simp⟩
    have hmid : done ++ [x] ++ (l₁ ++ l₂) = done ++ x :: (l₁ ++ l₂) := by simp
    rw [hmid]
    exact (List.perm_middle.symm.append_left done).trans hperm

/-- **Every schedule is a sequential run.** -/
theorem merge_sequential {p : Pool α β} (h : Reachable (Merge f) ⟨jobs, init⟩ p) :
    Sequential f jobs init p :=
  Reachable.invariant _ ⟨[], by simp, rfl⟩ (fun _ _ _ hs hstep => hs.merge hstep) h

/-- Once every goroutine has merged, the shared state is the run of the jobs
in some order. -/
theorem merge_done {p : Pool α β} (h : Reachable (Merge f) ⟨jobs, init⟩ p)
    (hdone : p.pending = []) :
    ∃ order : List α, order.Perm jobs ∧ p.shared = order.foldl f init := by
  obtain ⟨order, hperm, hshared⟩ := merge_sequential h
  rw [hdone, List.append_nil] at hperm
  exact ⟨order, hperm, hshared⟩

/-- **Every order of the jobs is a schedule.** -/
theorem merge_of_perm {order : List α} (h : order.Perm jobs) (init : β) :
    ReflTransGen (Merge f) ⟨jobs, init⟩ ⟨[], order.foldl f init⟩ := by
  induction order generalizing jobs init with
  | nil =>
    rw [List.nil_perm.mp h]
    exact ReflTransGen.refl
  | cons x rest ih =>
    obtain ⟨l₁, l₂, rfl⟩ := List.append_of_mem (h.subset List.mem_cons_self)
    have hrest : rest.Perm (l₁ ++ l₂) := (List.perm_cons x).mp (h.trans List.perm_middle)
    exact ReflTransGen.head (Merge.pick l₁ l₂ x init) (ih hrest (f init x))

/-- A pending job can always merge. -/
theorem merge_progress {p : Pool α β} (h : p.pending ≠ []) : ∃ q, Merge f p q := by
  rcases p with ⟨_ | ⟨x, rest⟩, shared⟩
  · exact absurd rfl h
  · exact ⟨_, Merge.pick [] rest x shared⟩

theorem Merge.length {p q : Pool α β} (h : Merge f p q) :
    q.pending.length + 1 = p.pending.length := by
  cases h with
  | pick l₁ l₂ x shared =>
    simp only [List.length_append, List.length_cons]
    omega

/-- No schedule goes on for ever: every merge takes a pending job. -/
theorem merge_wellFounded : WellFounded (fun q p : Pool α β => Merge f p q) :=
  Subrelation.wf (fun {q p} h => show q.pending.length < p.pending.length by
      have := h.length
      omega)
    (measure fun p : Pool α β => p.pending.length).wf

end Schedules

/-! ## A log and a register -/

/-- The merge of a job `x` for which `g x` is what it writes to the register,
if anything, and the entry it appends to the log. -/
def logAndWrite (g : α → Option γ × δ) (s : γ × List δ) (x : α) : γ × List δ :=
  ((g x).1.getD s.1, s.2 ++ [(g x).2])

theorem foldl_logAndWrite (g : α → Option γ × δ) (order : List α) (r : γ) (log : List δ) :
    order.foldl (logAndWrite g) (r, log) =
      ((order.reverse.findSome? fun x => (g x).1).getD r, log ++ order.map fun x => (g x).2) := by
  induction order generalizing r log with
  | nil => simp
  | cons x rest ih =>
    rw [List.foldl_cons, logAndWrite, ih]
    cases hx : (g x).1 <;> cases hr : rest.reverse.findSome? (fun x => (g x).1) <;>
      simp [List.findSome?_append, hx, hr]

/-- The register ends where it started only if no job wrote, when no write
is its first value. -/
theorem findSome?_getD_eq_iff {w : α → Option γ} {order : List α} {r e : γ} (hw : ∀ x v, w x = some v → v ≠ e) :
    (order.reverse.findSome? w).getD r = e ↔ r = e ∧ ∀ x ∈ order, w x = none := by
  cases h : order.reverse.findSome? w with
  | none =>
    simp only [Option.getD_none, List.findSome?_eq_none_iff, List.mem_reverse] at h ⊢
    exact ⟨fun hr => ⟨hr, h⟩, fun hr => hr.1⟩
  | some v =>
    obtain ⟨x, hx, hwx⟩ := List.exists_of_findSome?_eq_some h
    simp only [Option.getD_some]
    refine ⟨fun hv => absurd hv (hw x v hwx), fun hr => ?_⟩
    rw [hr.2 x (List.mem_reverse.mp hx)] at hwx
    cases hwx

/-- What the register holds at the end was written by a job of the run, or is
its first value when no job wrote. -/
theorem findSome?_getD_cases (w : α → Option γ) (order : List α) (r : γ) :
    ((order.reverse.findSome? w).getD r = r ∧ ∀ x ∈ order, w x = none) ∨
      ∃ x ∈ order, w x = some ((order.reverse.findSome? w).getD r) := by
  cases h : order.reverse.findSome? w with
  | none =>
    simp only [List.findSome?_eq_none_iff, List.mem_reverse] at h
    exact Or.inl ⟨rfl, h⟩
  | some v =>
    obtain ⟨x, hx, hwx⟩ := List.exists_of_findSome?_eq_some h
    exact Or.inr ⟨x, List.mem_reverse.mp hx, hwx⟩

end KDoctor.Fanout
