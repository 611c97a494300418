import Mathlib.Data.List.Perm.Basic

/-!
Go's `container/heap` over a slice whose `Less` compares elements: `up`,
`down`, `Push` and `Pop`, as the Go code runs them, with `Swap` the swap of
two elements.

`Push` appends and moves the new element up; `Pop` swaps the first element
with the last, moves the new first one down over the others, and takes the
last off, so it returns the old first element. Every operation permutes the
elements (`push_perm`, `pop_perm`). Where `Less` is asymmetric and "not
less" is transitive (`StrictWeak`), `Push` and `Pop` keep the heap order
(`Ordered.push`, `Ordered.pop`), a sorted slice is in heap order
(`ordered_of_sorted`), and `Pop` of an ordered heap returns an element no
element of the heap is less than (`pop_least`).

Indices read with `h[k]!`: every index these functions read is in range,
where Go reads the slice; Go would panic on the others.
-/

namespace KDoctor.GoHeap

variable {α : Type*} [Inhabited α] (less : α → α → Bool)

/-- The parent of the node at `j` of the tree the slice holds: Go's
`(j - 1) / 2`, which is `0` at `0`. -/
def parent (j : Nat) : Nat := (j - 1) / 2

theorem parent_lt {j : Nat} (h : 0 < j) : parent j < j := by
  unfold parent; omega

theorem parent_cases {j : Nat} (h : 0 < j) : j = 2 * parent j + 1 ∨ j = 2 * parent j + 2 := by
  unfold parent; omega

theorem parent_eq_self_iff {j : Nat} : parent j = j ↔ j = 0 := by
  unfold parent; omega

/-- `up`: while the node at `j` is not the root and is less than its parent,
swap the two and go on from the parent. -/
def up (h : Array α) (j : Nat) : Array α :=
  if parent j = j ∨ less h[j]! h[parent j]! = false then h
  else up (h.swapIfInBounds (parent j) j) (parent j)
termination_by j
decreasing_by
  rename_i hgo
  simp only [not_or, parent_eq_self_iff] at hgo
  exact parent_lt (Nat.pos_of_ne_zero hgo.1)

/-- The child of `i` that `down` compares with, among the first `n`: the right
child where it is there and less than the left one, else the left one. -/
def minChild (h : Array α) (i n : Nat) : Nat :=
  if 2 * i + 2 < n ∧ less h[2 * i + 2]! h[2 * i + 1]! = true then 2 * i + 2 else 2 * i + 1

theorem minChild_bounds (h : Array α) {i n : Nat} (hn : 2 * i + 1 < n) :
    i < minChild less h i n ∧ minChild less h i n < n ∧ parent (minChild less h i n) = i := by
  unfold minChild parent
  split <;> omega

/-- `down`: while the node at `i` has a child among the first `n` and the
smaller child is less than it, swap the two and go on from the child. -/
def down (h : Array α) (i n : Nat) : Array α :=
  if 2 * i + 1 < n then
    if less h[minChild less h i n]! h[i]! then down (h.swapIfInBounds i (minChild less h i n)) (minChild less h i n) n
    else h
  else h
termination_by n - i
decreasing_by
  have := minChild_bounds less h (by assumption)
  omega

/-- `heap.Push`: `h.Push(x)` appends, then `up` from the new last index. -/
def push (h : Array α) (x : α) : Array α := up less (h.push x) h.size

/-- `heap.Pop`: `Swap(0, n)` with `n` the last index, `down` over the first
`n`, and `h.Pop()`, which takes the last element off and returns it. -/
def pop (h : Array α) : α × Array α :=
  let h' := down less (h.swapIfInBounds 0 (h.size - 1)) 0 (h.size - 1)
  (h'[h.size - 1]!, h'.pop)

/-! ## The elements stay the same -/

omit [Inhabited α] in
theorem perm_swapIfInBounds (h : Array α) (i j : Nat) : (h.swapIfInBounds i j).Perm h := by
  rw [Array.swapIfInBounds_def]
  split
  · split
    · exact Array.swap_perm _ _
    · exact Array.Perm.refl h
  · exact Array.Perm.refl h

theorem up_perm (h : Array α) (j : Nat) : (up less h j).Perm h := by
  fun_induction up less h j with
  | case1 h j _ => exact Array.Perm.refl h
  | case2 h j _ ih => exact ih.trans (perm_swapIfInBounds h _ _)

theorem down_perm (h : Array α) (i n : Nat) : (down less h i n).Perm h := by
  fun_induction down less h i n with
  | case1 h i _ _ ih => exact ih.trans (perm_swapIfInBounds h _ _)
  | case2 h i _ _ => exact Array.Perm.refl h
  | case3 h i _ => exact Array.Perm.refl h

@[simp] theorem size_up (h : Array α) (j : Nat) : (up less h j).size = h.size :=
  (up_perm less h j).size_eq

@[simp] theorem size_down (h : Array α) (i n : Nat) : (down less h i n).size = h.size :=
  (down_perm less h i n).size_eq

theorem push_perm (h : Array α) (x : α) : (push less h x).Perm (h.push x) :=
  up_perm less _ _

@[simp] theorem size_push (h : Array α) (x : α) : (push less h x).size = h.size + 1 := by
  simp [push]

/-- `down` moves nothing at or past `n`. -/
theorem down_getElem_of_le (h : Array α) (i n : Nat) {k : Nat} (hk : n ≤ k) :
    (down less h i n)[k]! = h[k]! := by
  fun_induction down less h i n with
  | case1 h i hc _ ih =>
    have hb := minChild_bounds less h hc
    rw [ih]
    grind
  | case2 => rfl
  | case3 => rfl

/-- `Pop` returns the first element. -/
theorem pop_fst (h : Array α) : (pop less h).1 = h[0]! := by
  show (down less _ 0 (h.size - 1))[h.size - 1]! = h[0]!
  rw [down_getElem_of_le less _ 0 _ (Nat.le_refl _)]
  grind

theorem pop_snd (h : Array α) :
    (pop less h).2 = (down less (h.swapIfInBounds 0 (h.size - 1)) 0 (h.size - 1)).pop := rfl

@[simp] theorem size_pop (h : Array α) : (pop less h).2.size = h.size - 1 := by
  simp [pop]

/-- `Pop` of a non-empty heap: what it returns and what it leaves are the
heap's elements. -/
theorem pop_perm (h : Array α) (hne : 0 < h.size) :
    ((pop less h).2.push (pop less h).1).Perm h := by
  generalize hd : down less (h.swapIfInBounds 0 (h.size - 1)) 0 (h.size - 1) = d
  have hsize : d.size = h.size := by rw [← hd]; simp
  have hback : d.pop.push d[h.size - 1]! = d := by
    ext k hk₁ hk₂ <;> grind
  have hpop : pop less h = (d[h.size - 1]!, d.pop) := by rw [pop, hd]
  rw [hpop, hback, ← hd]
  exact (down_perm less _ _ _).trans (perm_swapIfInBounds h _ _)

/-! ## The heap order -/

/-- The heap order over the first `n` elements: no node is less than its
parent. -/
def Ordered (h : Array α) (n : Nat) : Prop :=
  ∀ k, 0 < k → k < n → less h[k]! h[parent k]! = false

omit [Inhabited α] in
/-- What the heap results need of `Less`: it is asymmetric, and "not less"
is transitive, as for any strict weak order. -/
structure StrictWeak : Prop where
  asymm : ∀ x y, less x y = true → less y x = false
  not_trans : ∀ x y z, less x y = false → less y z = false → less x z = false

/-- What holds while `up` runs at `j`: every edge but the one from `j` to its
parent is in order, and `j`'s children are not less than `j`'s parent. -/
structure UpInv (h : Array α) (j : Nat) : Prop where
  lt : j < h.size
  edges : ∀ k, 0 < k → k < h.size → k ≠ j → less h[k]! h[parent k]! = false
  children : 0 < j → ∀ k, 0 < k → k < h.size → parent k = j → less h[k]! h[parent j]! = false

/-- What holds while `down` runs at `i` over the first `n`: every edge but
those from `i` to its children is in order, and `i`'s children are not less
than `i`'s parent. -/
structure DownInv (h : Array α) (n i : Nat) : Prop where
  size : n ≤ h.size
  edges : ∀ k, 0 < k → k < n → parent k ≠ i → less h[k]! h[parent k]! = false
  children : 0 < i → ∀ k, 0 < k → k < n → parent k = i → less h[k]! h[parent i]! = false

section Order

variable {less}

omit [Inhabited α] in
theorem StrictWeak.irrefl (hless : StrictWeak less) (x : α) : less x x = false := by
  cases hx : less x x
  · rfl
  · have := hless.asymm x x hx
    rw [hx] at this
    cases this

/-- The root of an ordered heap is not greater than any node. -/
theorem Ordered.root_least (hless : StrictWeak less) {h : Array α} {n : Nat} (ho : Ordered less h n) :
    ∀ k, k < n → less h[k]! h[0]! = false := by
  intro k
  induction k using Nat.strongRecOn with
  | ind k ih =>
    intro hk
    rcases Nat.eq_zero_or_pos k with rfl | hpos
    · exact hless.irrefl _
    · exact hless.not_trans _ _ _ (ho k hpos hk) (ih (parent k) (parent_lt hpos) (by
        have := parent_lt hpos; omega))

/-- A slice sorted by `Less` is in heap order. -/
theorem ordered_of_sorted {h : Array α}
    (hs : h.toList.Pairwise fun x y => less y x = false) : Ordered less h h.size := by
  intro k hk hks
  have hp := parent_lt hk
  have := List.pairwise_iff_getElem.mp hs (parent k) k (by simp; omega) (by simpa using hks) hp
  simp only [Array.getElem_toList] at this
  grind

/-! ### `up` -/

/-- One turn of `up` keeps `UpInv` at the parent. -/
theorem UpInv.swap (hless : StrictWeak less) {h : Array α} {j : Nat} (hinv : UpInv less h j)
    (hj : 0 < j) (hlt : less h[j]! h[parent j]! = true) :
    UpInv less (h.swapIfInBounds (parent j) j) (parent j) := by
  obtain ⟨hjs, hedges, hchildren⟩ := hinv
  have hpj := parent_lt hj
  -- the old parent is not less than the node that moves up
  have hback := hless.asymm _ _ hlt
  refine ⟨by simp; omega, ?_, ?_⟩
  · intro k hk hks hkp
    simp only [Array.size_swapIfInBounds] at hks
    by_cases hkj : k = j
    · subst hkj
      grind
    · by_cases hpk : parent k = j
      · have := hchildren hj k hk hks hpk
        grind
      · by_cases hsib : parent k = parent j
        · -- a sibling of `j`: not less than the old parent, which is not less than `j`
          have := hless.not_trans _ _ _ (hedges k hk hks hkj) (hsib ▸ hback)
          grind
        · have := hedges k hk hks hkj
          have := parent_lt hk
          grind
  · intro hp0 k hk hks hpk
    simp only [Array.size_swapIfInBounds] at hks
    have hpp := parent_lt hp0
    have hup := hedges (parent j) hp0 (by omega) (by omega)
    by_cases hkj : k = j
    · subst hkj
      grind
    · have := hless.not_trans _ _ _ (hedges k hk hks hkj) (hpk ▸ hup)
      have := parent_lt hk
      grind

/-- Where `up` stops, the heap is in order. -/
theorem UpInv.ordered {h : Array α} {j : Nat} (hinv : UpInv less h j)
    (hstop : parent j = j ∨ less h[j]! h[parent j]! = false) : Ordered less h h.size := by
  intro k hk hks
  by_cases hkj : k = j
  · subst hkj
    rcases hstop with hstop | hstop
    · exact absurd (parent_eq_self_iff.mp hstop) (by omega)
    · exact hstop
  · exact hinv.edges k hk hks hkj

theorem up_ordered (hless : StrictWeak less) {h : Array α} {j : Nat} (hinv : UpInv less h j) :
    Ordered less (up less h j) h.size := by
  fun_induction up less h j with
  | case1 h j hstop => exact hinv.ordered hstop
  | case2 h j hgo ih =>
    simp only [not_or, parent_eq_self_iff, Bool.not_eq_false] at hgo
    have := ih (hinv.swap hless (Nat.pos_of_ne_zero hgo.1) hgo.2)
    simpa using this

/-- `Push` keeps the heap order. -/
theorem Ordered.push (hless : StrictWeak less) {h : Array α} (ho : Ordered less h h.size) (x : α) :
    Ordered less (GoHeap.push less h x) (h.size + 1) := by
  have hinv : UpInv less (h.push x) h.size := by
    refine ⟨by simp, ?_, ?_⟩
    · intro k hk hks hkn
      simp only [Array.size_push] at hks
      have := ho k hk (by omega)
      have := parent_lt hk
      grind
    · intro _ k hk hks hpk
      simp only [Array.size_push] at hks
      have := parent_lt hk
      omega
  have := up_ordered hless hinv
  simp only [Array.size_push] at this
  exact this

/-! ### `down` -/

/-- No child of `i` is less than the one `down` picks. -/
theorem minChild_least (hless : StrictWeak less) (h : Array α) {i n : Nat} :
    ∀ k, k < n → 0 < k → parent k = i → less h[k]! h[minChild less h i n]! = false := by
  intro k hkn hk hpk
  have hk' := parent_cases hk
  rw [hpk] at hk'
  unfold minChild
  split
  · rename_i hright
    rcases hk' with rfl | rfl
    · exact hless.asymm _ _ hright.2
    · exact hless.irrefl _
  · rename_i hright
    rcases hk' with rfl | rfl
    · exact hless.irrefl _
    · simp only [not_and, Bool.not_eq_true] at hright
      exact hright hkn

/-- One turn of `down` keeps `DownInv` at the child. -/
theorem DownInv.swap (hless : StrictWeak less) {h : Array α} {n i : Nat} (hinv : DownInv less h n i)
    (hc : 2 * i + 1 < n) (hlt : less h[minChild less h i n]! h[i]! = true) :
    DownInv less (h.swapIfInBounds i (minChild less h i n)) n (minChild less h i n) := by
  obtain ⟨hsize, hedges, hchildren⟩ := hinv
  obtain ⟨hij, hjn, hpj⟩ := minChild_bounds less h hc
  have hleast := minChild_least hless h (i := i) (n := n)
  generalize minChild less h i n = j at hij hjn hpj hlt hleast
  have hback := hless.asymm _ _ hlt
  refine ⟨by simpa using hsize, ?_, ?_⟩
  · intro k hk hkn hpk
    by_cases hkj : k = j
    · subst hkj
      grind
    · by_cases hki : k = i
      · -- the node that moved up is not less than `i`'s parent
        subst hki
        have := hchildren hk j (by omega) hjn hpj
        have := parent_lt hk
        grind
      · by_cases hsib : parent k = i
        · have := hleast k hkn hk hsib
          grind
        · have := hedges k hk hkn hsib
          have := parent_lt hk
          grind
  · intro _ k hk hkn hpk
    have hjk : j < k := hpk ▸ parent_lt hk
    have := hedges k hk hkn (by omega)
    grind

/-- Where `down` stops, the first `n` are in order. -/
theorem DownInv.ordered (hless : StrictWeak less) {h : Array α} {n i : Nat} (hinv : DownInv less h n i)
    (hstop : 2 * i + 1 < n → less h[minChild less h i n]! h[i]! = false) : Ordered less h n := by
  intro k hk hkn
  by_cases hpk : parent k = i
  · have hc : 2 * i + 1 < n := by
      have := parent_cases hk
      omega
    rw [hpk]
    exact hless.not_trans _ _ _ (minChild_least hless h k hkn hk hpk) (hstop hc)
  · exact hinv.edges k hk hkn hpk

theorem down_ordered (hless : StrictWeak less) {h : Array α} {n i : Nat} (hinv : DownInv less h n i) :
    Ordered less (down less h i n) n := by
  fun_induction down less h i n with
  | case1 h i hc hlt ih => exact ih (hinv.swap hless hc hlt)
  | case2 h i hc hlt => exact hinv.ordered hless fun _ => by simpa using hlt
  | case3 h i hc => exact hinv.ordered hless fun h' => absurd h' hc

/-- `Pop` keeps the heap order. -/
theorem Ordered.pop (hless : StrictWeak less) {h : Array α} (ho : Ordered less h h.size) :
    Ordered less (GoHeap.pop less h).2 (h.size - 1) := by
  have hinv : DownInv less (h.swapIfInBounds 0 (h.size - 1)) (h.size - 1) 0 := by
    refine ⟨by simp, ?_, fun h0 => absurd h0 (Nat.lt_irrefl 0)⟩
    intro k hk hkn hpk
    have := ho k hk (by omega)
    have := parent_lt hk
    grind
  have hd := down_ordered hless hinv
  have hsize : (down less (h.swapIfInBounds 0 (h.size - 1)) 0 (h.size - 1)).size = h.size := by simp
  rw [pop_snd]
  generalize down less (h.swapIfInBounds 0 (h.size - 1)) 0 (h.size - 1) = d at hd hsize
  intro k hk hkn
  have := hd k hk hkn
  have := parent_lt hk
  grind

/-- `Pop` of an ordered heap returns an element that no element of the heap
is less than. -/
theorem pop_least (hless : StrictWeak less) {h : Array α} (ho : Ordered less h h.size) :
    ∀ y ∈ h, less y (GoHeap.pop less h).1 = false := by
  intro y hy
  obtain ⟨k, hk, rfl⟩ := Array.mem_iff_getElem.mp hy
  rw [pop_fst]
  have := ho.root_least hless k hk
  grind

end Order

end KDoctor.GoHeap
