import Mathlib.Logic.Basic

/-!
Checks run one after another in the `Except` monad, as a Go function runs
its guards and returns the first error: a `do` block of checks succeeds
exactly when each of them does.
-/

namespace KDoctor.Except

universe u v

variable {ε : Type u} {α β : Type v}

/-- A sequenced computation succeeds exactly when each step succeeds in turn. -/
theorem bind_eq_ok {x : Except ε α} {f : α → Except ε β} {b : β} :
    (x >>= f) = .ok b ↔ ∃ a, x = .ok a ∧ f a = .ok b := by
  cases x <;> simp [bind, Except.bind]

/-- A mapped computation succeeds exactly when the computation does. -/
theorem map_eq_ok {x : Except ε α} {f : α → β} {b : β} :
    x.map f = .ok b ↔ ∃ a, x = .ok a ∧ f a = b := by
  cases x <;> simp [Except.map]

/-- A mapped computation fails with the error of the computation. -/
theorem map_eq_error {x : Except ε α} {f : α → β} {e : ε} : x.map f = .error e ↔ x = .error e := by
  cases x <;> simp [Except.map]

/-- A loop that appends to a slice and may stop with an error: on success,
every element of the slice was there before the loop or was appended for one
of the elements looped over. -/
theorem foldlM_append_mem {γ : Type v} {P : α → γ → Prop} {f : List γ → α → Except ε (List γ)}
    (hf : ∀ acc a out, f acc a = .ok out → ∃ new, out = acc ++ new ∧ ∀ x ∈ new, P a x)
    {l : List α} {acc out : List γ} (h : l.foldlM f acc = .ok out) :
    ∀ x ∈ out, x ∈ acc ∨ ∃ a ∈ l, P a x := by
  induction l generalizing acc with
  | nil =>
    intro x hx
    simp only [List.foldlM_nil] at h
    cases h
    exact Or.inl hx
  | cons a l ih =>
    rw [List.foldlM_cons, bind_eq_ok] at h
    obtain ⟨s, hs, hrest⟩ := h
    obtain ⟨new, rfl, hnew⟩ := hf acc a s hs
    intro x hx
    rcases ih hrest x hx with hmem | ⟨b, hb, hP⟩
    · rcases List.mem_append.mp hmem with hacc | hx'
      · exact Or.inl hacc
      · exact Or.inr ⟨a, List.mem_cons_self, hnew x hx'⟩
    · exact Or.inr ⟨b, List.mem_cons_of_mem a hb, hP⟩

end KDoctor.Except
