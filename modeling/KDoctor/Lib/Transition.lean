import Mathlib.Logic.Relation

/-!
Runs of a transition system given by a step relation, and the three rules the
development proves its results with:

* `Reachable.invariant`: what holds initially and is kept by every step taken
  from a reachable state holds in every reachable state;
* `Reachable.stable`: a property kept by every step taken from a reachable
  state holds at the end of every run that starts where it holds;
* `Reachable.map`, `Reachable.map_run`: a map under which every step from a
  reachable state becomes a run of a second system carries reachable states
  and runs over to it (a forward simulation with stuttering);
* `Reachable.wellFounded_of_measure`: a measure that every step from a
  reachable state lowers leaves no infinite run.

A loop over a list is a run whose steps are its turns; `foldl_invariant` is
the invariant rule for it, with the invariant indexed by the inputs read.
-/

namespace KDoctor.Transition

open Relation

variable {σ τ : Type*} {step : σ → σ → Prop} {init : σ}

/-- `Reachable step init s`: some run of `step` leads from `init` to `s`. -/
def Reachable (step : σ → σ → Prop) (init s : σ) : Prop := ReflTransGen step init s

theorem Reachable.refl : Reachable step init init := ReflTransGen.refl

theorem Reachable.tail {s s' : σ} (h : Reachable step init s) (hs : step s s') :
    Reachable step init s' :=
  ReflTransGen.tail h hs

/-- A run that starts in a reachable state ends in one. -/
theorem Reachable.run {s s' : σ} (h : Reachable step init s) (hr : ReflTransGen step s s') :
    Reachable step init s' :=
  ReflTransGen.trans h hr

/-- The induction rule for invariants; the step obligation may use that its
start state is reachable. -/
theorem Reachable.invariant (Inv : σ → Prop) (h0 : Inv init)
    (hstep : ∀ s s', Reachable step init s → Inv s → step s s' → Inv s')
    {s : σ} (h : Reachable step init s) : Inv s := by
  have hboth : Reachable step init s ∧ Inv s := by
    induction h with
    | refl => exact ⟨Reachable.refl, h0⟩
    | tail _ hs ih => exact ⟨ih.1.tail hs, hstep _ _ ih.1 ih.2 hs⟩
  exact hboth.2

/-- The induction rule for runs: a property that every step from a reachable
state keeps, once true, stays true for the rest of the run. -/
theorem Reachable.stable {P : σ → Prop}
    (hstep : ∀ s s', Reachable step init s → P s → step s s' → P s')
    {s s' : σ} (h : Reachable step init s) (hr : ReflTransGen step s s') (hs : P s) : P s' := by
  induction hr with
  | refl => exact hs
  | tail hrun hlast ih => exact hstep _ _ (h.run hrun) ih hlast

/-- A forward simulation with stuttering carries runs from reachable states. -/
theorem Reachable.map_run {step' : τ → τ → Prop} (f : σ → τ)
    (hstep : ∀ s s', Reachable step init s → step s s' → ReflTransGen step' (f s) (f s'))
    {s s' : σ} (h : Reachable step init s) (hr : ReflTransGen step s s') :
    ReflTransGen step' (f s) (f s') := by
  induction hr with
  | refl => exact ReflTransGen.refl
  | tail hrun hlast ih => exact ih.trans (hstep _ _ (h.run hrun) hlast)

/-- A forward simulation with stuttering carries reachable states. -/
theorem Reachable.map {step' : τ → τ → Prop} (f : σ → τ)
    (hstep : ∀ s s', Reachable step init s → step s s' → ReflTransGen step' (f s) (f s'))
    {s : σ} (h : Reachable step init s) : Reachable step' (f init) (f s) :=
  Reachable.map_run f hstep Reachable.refl h

/-- The rule for termination: a measure that every step from a reachable
state lowers leaves no infinite run from the initial state. -/
theorem Reachable.wellFounded_of_measure (μ : σ → Nat)
    (hstep : ∀ s s', Reachable step init s → step s s' → μ s' < μ s) :
    WellFounded fun s' s => Reachable step init s ∧ step s s' :=
  Subrelation.wf (fun {_ _} h => hstep _ _ h.1 h.2) (measure μ).wf

/-! ## Loops over a list -/

/-- The invariant rule of a loop over a list, read as a left fold: what holds
of the inputs read so far and the state, and is kept by one turn, holds
after the rest of the inputs. -/
theorem foldl_invariant {α β : Type*} {I : List α → β → Prop} {f : β → α → β}
    (hstep : ∀ xs b x, I xs b → I (xs ++ [x]) (f b x)) {xs : List α} {b : β} (h : I xs b)
    (ys : List α) : I (xs ++ ys) (ys.foldl f b) := by
  induction ys generalizing xs b with
  | nil => simpa using h
  | cons y ys ih =>
    rw [List.foldl_cons, ← List.singleton_append, ← List.append_assoc]
    exact ih (hstep xs b y h)

end KDoctor.Transition
