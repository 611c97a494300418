import Mathlib.Data.List.Sort
import Mathlib.Data.Rat.Floor

/-!
The statistics of `utils/stats/stats.go` that the load generators report on
the latencies of a run: `Max`, `Min`, `Sum`, `Mean` and `Percentile` of a
`Float32Data`.

A `float32` is read as an exact rational. `Percentile` sorts its argument in
place with `sort.Sort`; `sort` is the values in increasing order, the one
order a sort of a linear order can leave, and `afterPercentile` is what the
caller's slice holds after the call. An index outside the slice panics; the
model returns the panic's text as an error.

`percentile_eq` is the shape of every percentile of two values or more: the
mean of the sorted values at `⌊i⌋ - 1` and `⌈i⌉ - 1` for the rational index
`i = percent / 100 * n`, or `BoundsErr` below index 1. Monotonicity in the
percent and the bounds by `Min` and `Max` follow from it.
-/

namespace KDoctor.Stats

def emptyInputErr : String := "Input must not be empty."

def boundsErr : String := "Input is outside of range."

/-- The text of the panic of `s[i]` on a slice of length `n`. -/
def indexPanic (i : Int) (n : Nat) : String :=
  "runtime error: index out of range [" ++ toString i ++ "] with length " ++ toString n

/-- `input[i]`. -/
def get (input : List ℚ) (i : Int) : Except String ℚ :=
  if 0 ≤ i ∧ i.toNat < input.length then .ok (input.getD i.toNat 0)
  else .error (indexPanic i input.length)

/-- `Max`: the first value, replaced by every later one above it. -/
def max : List ℚ → Except String ℚ
  | [] => .error emptyInputErr
  | x :: rest => .ok (rest.foldl (fun m y => if y > m then y else m) x)

/-- `Min`: the first value, replaced by every later one below it. -/
def min : List ℚ → Except String ℚ
  | [] => .error emptyInputErr
  | x :: rest => .ok (rest.foldl (fun m y => if y < m then y else m) x)

/-- `Sum`. -/
def sum (input : List ℚ) : Except String ℚ :=
  if input = [] then .error emptyInputErr else .ok (input.foldl (· + ·) 0)

/-- `Mean`: the sum over the count. -/
def mean (input : List ℚ) : Except String ℚ :=
  if input = [] then .error emptyInputErr
  else
    -- the error `Sum` cannot return here is dropped
    let s := match sum input with
      | .ok s => s
      | .error _ => 0
    .ok (s / input.length)

/-- `sort.Sort` of a `Float32Data`. -/
def sort (input : List ℚ) : List ℚ := input.insertionSort (· ≤ ·)

/-- Go's `int64(x)` of a float: its integer part. -/
def truncate (q : ℚ) : Int := if 0 ≤ q then ⌊q⌋ else ⌈q⌉

/-- `Percentile`. -/
def percentile (input : List ℚ) (percent : ℚ) : Except String ℚ :=
  if input.length = 0 then .error emptyInputErr
  else if input.length = 1 then get input 0
  else if percent ≤ 0 ∨ percent > 100 then .error boundsErr
  else
    let sorted := sort input
    let index := percent / 100 * sorted.length
    if index = truncate index then get sorted (truncate index - 1)
    else if index > 1 then do
      let a ← get sorted (truncate index - 1)
      let b ← get sorted (truncate index)
      mean [a, b]
    else .error boundsErr

/-- The slice a caller passed to `Percentile`, after the call: sorted, unless
the call returned before it sorted. -/
def afterPercentile (input : List ℚ) (percent : ℚ) : List ℚ :=
  if input.length ≤ 1 ∨ percent ≤ 0 ∨ percent > 100 then input else sort input

/-! ## Sorting -/

theorem sort_perm (input : List ℚ) : (sort input).Perm input := List.perm_insertionSort _ _

theorem sortedLE_sort (input : List ℚ) : (sort input).SortedLE := List.sortedLE_insertionSort

@[simp] theorem length_sort (input : List ℚ) : (sort input).length = input.length :=
  List.length_insertionSort _ _

/-- Sorting depends only on the values, not on their order. -/
theorem sort_eq_of_perm {x y : List ℚ} (h : x.Perm y) : sort x = sort y :=
  ((sort_perm x).trans (h.trans (sort_perm y).symm)).eq_of_sortedLE (sortedLE_sort x) (sortedLE_sort y)

/-- In a sorted list, a later position holds a value no smaller. -/
theorem getD_le_getD_of_sortedLE {l : List ℚ} (hl : l.SortedLE) {i j : Nat} (hij : i ≤ j)
    (hj : j < l.length) : l.getD i 0 ≤ l.getD j 0 := by
  have hi : i < l.length := lt_of_le_of_lt hij hj
  rw [← List.getElem_eq_getD 0 (h := hi), ← List.getElem_eq_getD 0 (h := hj)]
  exact hl.getElem_le_getElem_of_le hij

/-! ## Min and Max -/

theorem le_foldl_max (x : ℚ) (rest : List ℚ) :
    x ≤ rest.foldl (fun m y => if y > m then y else m) x ∧
      ∀ y ∈ rest, y ≤ rest.foldl (fun m y => if y > m then y else m) x := by
  induction rest generalizing x with
  | nil => simp
  | cons z rest ih =>
    obtain ⟨hx, hrest⟩ := ih (if z > x then z else x)
    refine ⟨le_trans (by split <;> linarith) hx, ?_⟩
    intro y hy
    rcases List.mem_cons.mp hy with rfl | hy
    · exact le_trans (by split <;> linarith) hx
    · exact hrest y hy

theorem foldl_min_le (x : ℚ) (rest : List ℚ) :
    rest.foldl (fun m y => if y < m then y else m) x ≤ x ∧
      ∀ y ∈ rest, rest.foldl (fun m y => if y < m then y else m) x ≤ y := by
  induction rest generalizing x with
  | nil => simp
  | cons z rest ih =>
    obtain ⟨hx, hrest⟩ := ih (if z < x then z else x)
    refine ⟨le_trans hx (by split <;> linarith), ?_⟩
    intro y hy
    rcases List.mem_cons.mp hy with rfl | hy
    · exact le_trans hx (by split <;> linarith)
    · exact hrest y hy

/-- `Max` of a list with values is no smaller than any of them. -/
theorem le_max {input : List ℚ} {hi : ℚ} (h : max input = .ok hi) : ∀ y ∈ input, y ≤ hi := by
  cases input with
  | nil => cases h
  | cons x rest =>
    rw [max, Except.ok.injEq] at h
    subst h
    intro y hy
    rcases List.mem_cons.mp hy with rfl | hy
    · exact (le_foldl_max y rest).1
    · exact (le_foldl_max x rest).2 y hy

/-- `Min` of a list with values is no larger than any of them. -/
theorem min_le {input : List ℚ} {lo : ℚ} (h : min input = .ok lo) : ∀ y ∈ input, lo ≤ y := by
  cases input with
  | nil => cases h
  | cons x rest =>
    rw [min, Except.ok.injEq] at h
    subst h
    intro y hy
    rcases List.mem_cons.mp hy with rfl | hy
    · exact (foldl_min_le y rest).1
    · exact (foldl_min_le x rest).2 y hy

theorem max_ne_error {input : List ℚ} (h : input ≠ []) : ∃ hi, max input = .ok hi := by
  cases input with
  | nil => exact absurd rfl h
  | cons x rest => exact ⟨_, rfl⟩

theorem min_ne_error {input : List ℚ} (h : input ≠ []) : ∃ lo, min input = .ok lo := by
  cases input with
  | nil => exact absurd rfl h
  | cons x rest => exact ⟨_, rfl⟩

theorem mean_pair (a b : ℚ) : mean [a, b] = .ok ((a + b) / 2) := by
  simp [mean, sum]

theorem mean_eq {input : List ℚ} (h : input ≠ []) :
    mean input = .ok (input.foldl (· + ·) 0 / input.length) := by
  simp [mean, sum, h]

/-! ## Percentile -/

section Index

variable {percent : ℚ} {n : Nat}

/-- The rational index of a percent of a list of `n` values. -/
theorem index_pos (hp : 0 < percent) (hn : 2 ≤ n) : 0 < percent / 100 * n := by
  have : (2 : ℚ) ≤ n := by exact_mod_cast hn
  positivity

theorem index_le (hp : percent ≤ 100) : percent / 100 * n ≤ n := by
  have hn : (0 : ℚ) ≤ n := by exact_mod_cast Nat.zero_le n
  have : percent / 100 ≤ 1 := by linarith
  nlinarith

theorem truncate_of_nonneg {q : ℚ} (h : 0 ≤ q) : truncate q = ⌊q⌋ := by
  simp [truncate, h]

/-- The lower position `⌊i⌋ - 1` of an index `1 ≤ i ≤ n` lies in the list. -/
theorem floor_sub_one_lt {i : ℚ} (h1 : 1 ≤ i) (hn : i ≤ n) :
    0 ≤ ⌊i⌋ - 1 ∧ (⌊i⌋ - 1).toNat < n := by
  have hlo : (1 : Int) ≤ ⌊i⌋ := Int.le_floor.mpr (by exact_mod_cast h1)
  have hhi : ⌊i⌋ ≤ (n : Int) := Int.floor_le_floor hn |>.trans (by rw [Int.floor_natCast])
  omega

/-- The upper position `⌈i⌉ - 1` of an index `1 ≤ i ≤ n` lies in the list. -/
theorem ceil_sub_one_lt {i : ℚ} (h1 : 1 ≤ i) (hn : i ≤ n) :
    0 ≤ ⌈i⌉ - 1 ∧ (⌈i⌉ - 1).toNat < n := by
  have hlo : (1 : Int) ≤ ⌈i⌉ := Int.le_ceil_iff.mpr (by push_cast; linarith)
  have hhi : ⌈i⌉ ≤ (n : Int) := Int.ceil_le.mpr (by exact_mod_cast hn)
  omega

end Index

/-- The mean of the values at two positions of a sorted list, the first no
later than the second, lies between them. -/
theorem between_of_sortedLE {l : List ℚ} (hl : l.SortedLE) {i j : Nat} (hij : i ≤ j)
    (hj : j < l.length) :
    l.getD i 0 ≤ (l.getD i 0 + l.getD j 0) / 2 ∧ (l.getD i 0 + l.getD j 0) / 2 ≤ l.getD j 0 := by
  have := getD_le_getD_of_sortedLE hl hij hj
  constructor <;> linarith

theorem get_eq_ok {l : List ℚ} {i : Int} (h0 : 0 ≤ i) (hlt : i.toNat < l.length) :
    get l i = .ok (l.getD i.toNat 0) := by
  simp [get, h0, hlt]

/-- Every percentile of two values or more, in range, reads the sorted values
at `⌊i⌋ - 1` and `⌈i⌉ - 1` for the index `i = percent / 100 * n` (the same
position when `i` is whole), or is `BoundsErr` when `i < 1`; it never indexes
outside the list. -/
theorem percentile_eq {input : List ℚ} {percent : ℚ} (hn : 2 ≤ input.length) (hp : 0 < percent)
    (hp' : percent ≤ 100) :
    percentile input percent =
      if percent / 100 * input.length < 1 then .error boundsErr
      else .ok (((sort input).getD (⌊percent / 100 * input.length⌋ - 1).toNat 0 +
        (sort input).getD (⌈percent / 100 * input.length⌉ - 1).toNat 0) / 2) := by
  set i := percent / 100 * (input.length : ℚ) with hi
  have hpos : 0 < i := index_pos hp hn
  have hle : i ≤ input.length := index_le hp'
  have htrunc : truncate i = ⌊i⌋ := truncate_of_nonneg hpos.le
  have hlen : ¬input.length = 0 := by omega
  have hlen1 : ¬input.length = 1 := by omega
  have hrange : ¬(percent ≤ 0 ∨ percent > 100) := by
    push Not
    exact ⟨hp, hp'⟩
  simp only [percentile, hlen, hlen1, hrange, if_false, length_sort, ← hi, htrunc]
  by_cases hwhole : i = ⌊i⌋
  · -- a whole index reads one position: `⌈i⌉ = ⌊i⌋`
    have h1 : 1 ≤ i := by
      have : (0 : Int) < ⌊i⌋ := by exact_mod_cast (hwhole ▸ hpos : (0 : ℚ) < ⌊i⌋)
      rw [hwhole]
      exact_mod_cast this
    have hceil : ⌈i⌉ = ⌊i⌋ := by rw [hwhole, Int.ceil_intCast, Int.floor_intCast]
    obtain ⟨h0, hlt⟩ := floor_sub_one_lt h1 hle
    rw [if_pos hwhole, if_neg (not_lt.mpr h1), get_eq_ok h0 (by simpa using hlt), hceil]
    congr 1
    ring
  · -- a fractional index reads two neighbours: `⌈i⌉ = ⌊i⌋ + 1`
    rw [if_neg hwhole]
    by_cases hbig : i > 1
    · have hceil : ⌈i⌉ = ⌊i⌋ + 1 := by
        rw [Int.ceil_eq_iff]
        push_cast
        exact ⟨by simpa using lt_of_le_of_ne (Int.floor_le i) (Ne.symm hwhole),
          (Int.lt_floor_add_one i).le⟩
      obtain ⟨h0, hlt⟩ := floor_sub_one_lt hbig.le hle
      obtain ⟨h0', hlt'⟩ := ceil_sub_one_lt hbig.le hle
      rw [hceil, add_sub_cancel_right] at h0' hlt'
      rw [if_pos hbig, if_neg (not_lt.mpr hbig.le), get_eq_ok h0 (by simpa using hlt),
        get_eq_ok h0' (by simpa using hlt'), hceil, add_sub_cancel_right]
      exact mean_pair _ _
    · have hsmall : i < 1 := by
        rcases lt_or_eq_of_le (not_lt.mp hbig) with h | h
        · exact h
        · exact absurd (by rw [h]; norm_num) hwhole
      rw [if_neg hbig, if_pos hsmall]

theorem percentile_single (a p : ℚ) : percentile [a] p = .ok a := by
  simp [percentile, get]

theorem percentile_nil (p : ℚ) : percentile [] p = .error emptyInputErr := by
  simp [percentile]

/-- A percentile depends only on the values, not on their order: a later call
on the slice an earlier one sorted gives what it would have given before. -/
theorem percentile_perm {x y : List ℚ} (h : x.Perm y) (p : ℚ) : percentile x p = percentile y p := by
  by_cases h1 : x.length = 1
  · obtain ⟨a, rfl⟩ := List.length_eq_one_iff.mp h1
    rw [List.perm_singleton.mp h.symm]
  · have h1' : ¬y.length = 1 := h.length_eq ▸ h1
    unfold percentile
    rw [h.length_eq, sort_eq_of_perm h, if_neg h1', if_neg h1']

theorem percentile_afterPercentile (x : List ℚ) (p q : ℚ) :
    percentile (afterPercentile x p) q = percentile x q := by
  unfold afterPercentile
  split
  · rfl
  · exact percentile_perm (sort_perm x) q

/-- A percentile of two values or more that succeeds has index at least 1 and
is the mean of the sorted values at `⌊i⌋ - 1` and `⌈i⌉ - 1`, both in the list. -/
theorem percentile_pick {x : List ℚ} {p v : ℚ} (hn : 2 ≤ x.length) (hp : 0 < p) (hp' : p ≤ 100)
    (h : percentile x p = .ok v) :
    1 ≤ p / 100 * x.length ∧ (⌊p / 100 * x.length⌋ - 1).toNat ≤ (⌈p / 100 * x.length⌉ - 1).toNat ∧
      (⌈p / 100 * x.length⌉ - 1).toNat < x.length ∧
      v = ((sort x).getD (⌊p / 100 * x.length⌋ - 1).toNat 0 +
        (sort x).getD (⌈p / 100 * x.length⌉ - 1).toNat 0) / 2 := by
  rw [percentile_eq hn hp hp'] at h
  split at h
  · cases h
  · rename_i hbig
    have h1 : 1 ≤ p / 100 * x.length := not_lt.mp hbig
    have hle : p / 100 * x.length ≤ x.length := index_le hp'
    obtain ⟨-, hlt⟩ := ceil_sub_one_lt h1 hle
    have hfc := Int.floor_le_ceil (p / 100 * (x.length : ℚ))
    exact ⟨h1, by omega, hlt, (Except.ok.inj h).symm⟩

/-- A percentile that succeeds lies between two of the values. -/
theorem percentile_between {x : List ℚ} {p v : ℚ} (hp : 0 < p) (hp' : p ≤ 100)
    (h : percentile x p = .ok v) : ∃ a ∈ x, ∃ b ∈ x, a ≤ v ∧ v ≤ b := by
  match x, h with
  | [a], h =>
    rw [percentile_single, Except.ok.injEq] at h
    subst h
    exact ⟨a, List.mem_singleton_self a, a, List.mem_singleton_self a, le_rfl, le_rfl⟩
  | a :: b :: rest, h =>
    obtain ⟨-, hij, hj, rfl⟩ := percentile_pick (by simp) hp hp' h
    have hj' : (⌈p / 100 * ((a :: b :: rest).length : ℚ)⌉ - 1).toNat < (sort (a :: b :: rest)).length := by
      simpa using hj
    have hmem : ∀ k < (sort (a :: b :: rest)).length, (sort (a :: b :: rest)).getD k 0 ∈ a :: b :: rest :=
      fun k hk => by
        rw [← List.getElem_eq_getD 0 (h := hk)]
        exact (sort_perm _).subset (List.getElem_mem hk)
    obtain ⟨hlo, hhi⟩ := between_of_sortedLE (sortedLE_sort _) hij hj'
    exact ⟨_, hmem _ (lt_of_le_of_lt hij hj'), _, hmem _ hj', hlo, hhi⟩

/-- A percentile that succeeds lies between `Min` and `Max`. -/
theorem min_le_percentile_le_max {x : List ℚ} {p v : ℚ} (hp : 0 < p) (hp' : p ≤ 100)
    (h : percentile x p = .ok v) :
    ∃ lo hi, min x = .ok lo ∧ max x = .ok hi ∧ lo ≤ v ∧ v ≤ hi := by
  obtain ⟨a, ha, b, hb, hav, hvb⟩ := percentile_between hp hp' h
  have hx : x ≠ [] := List.ne_nil_of_mem ha
  obtain ⟨lo, hlo⟩ := min_ne_error hx
  obtain ⟨hi, hhi⟩ := max_ne_error hx
  exact ⟨lo, hi, hlo, hhi, le_trans (min_le hlo a ha) hav, le_trans hvb (le_max hhi b hb)⟩

/-- Percentiles that succeed grow with the percent. -/
theorem percentile_mono {x : List ℚ} {p q v w : ℚ} (hp : 0 < p) (hpq : p ≤ q) (hq : q ≤ 100)
    (hv : percentile x p = .ok v) (hw : percentile x q = .ok w) : v ≤ w := by
  match x, hv, hw with
  | [a], hv, hw =>
    rw [percentile_single, Except.ok.injEq] at hv hw
    rw [← hv, ← hw]
  | a :: b :: rest, hv, hw =>
    set x := a :: b :: rest
    have hn : 2 ≤ x.length := by simp [x]
    obtain ⟨-, -, -, rfl⟩ := percentile_pick hn hp (hpq.trans hq) hv
    obtain ⟨-, hij, hj, rfl⟩ := percentile_pick hn (hp.trans_le hpq) hq hw
    -- both positions move forward with the index
    have hidx : p / 100 * (x.length : ℚ) ≤ q / 100 * x.length := by
      have : (0 : ℚ) ≤ x.length := by exact_mod_cast Nat.zero_le _
      have : p / 100 ≤ q / 100 := by linarith
      nlinarith
    have hfloor := Int.floor_le_floor hidx
    have hceil := Int.ceil_le_ceil hidx
    have hj' : (⌈q / 100 * (x.length : ℚ)⌉ - 1).toNat < (sort x).length := by simpa using hj
    have hlow := getD_le_getD_of_sortedLE (sortedLE_sort x)
      (show (⌊p / 100 * (x.length : ℚ)⌋ - 1).toNat ≤ (⌊q / 100 * (x.length : ℚ)⌋ - 1).toNat by omega)
      (lt_of_le_of_lt hij hj')
    have hhigh := getD_le_getD_of_sortedLE (sortedLE_sort x)
      (show (⌈p / 100 * (x.length : ℚ)⌉ - 1).toNat ≤ (⌈q / 100 * (x.length : ℚ)⌉ - 1).toNat by omega) hj'
    linarith

/-- A percentile of a list with values fails only with `BoundsErr`, and exactly
when the list has two values or more and `percent * n / 100 < 1`. -/
theorem percentile_ok_or_bounds {x : List ℚ} {p : ℚ} (hx : x ≠ []) (hp : 0 < p) (hp' : p ≤ 100) :
    ((∃ v, percentile x p = .ok v) ∨ percentile x p = .error boundsErr) ∧
      (percentile x p = .error boundsErr ↔ 2 ≤ x.length ∧ p * x.length / 100 < 1) := by
  match x with
  | [a] => simp [percentile_single]
  | a :: b :: rest =>
    have hn : 2 ≤ (a :: b :: rest).length := by simp
    rw [percentile_eq hn hp hp', show p * ((a :: b :: rest).length : ℚ) / 100 =
      p / 100 * (a :: b :: rest).length by ring]
    split
    · simp_all
    · rename_i hbig
      have h1 : 1 ≤ p / 100 * ((a :: b :: rest).length : ℚ) := not_lt.mp hbig
      simp only [Except.ok.injEq, exists_eq', true_or, reduceCtorEq, false_iff, not_and, not_lt,
        true_and]
      exact fun _ => h1

end KDoctor.Stats
