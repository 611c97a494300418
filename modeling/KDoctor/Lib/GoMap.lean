import Mathlib.Data.List.Nodup

/-!
Go maps as association lists with one entry for each key. A lookup `m[k]`
is `get`, an assignment `m[k] = v` is `set`, and `assign` does the
assignment for every entry of another map, which `range` visits in an order
the program does not choose: `get_assign` shows that the result does not
depend on it. A nil map reads as an empty one.

`increment` counts one more under a key and `total` adds up the counts.

`covers m sel` says that every entry of `sel` is an entry of `m`, the way a
set-based label selector matches a set of labels. `setIfAbsent` is a lookup
followed by an assignment when the lookup finds nothing, the way a client
creates an object unless one of its name exists; `setAllIfAbsent` does it for
a list of entries in turn.
-/

namespace KDoctor

/-- A Go map: its entries, one for each key. -/
structure GoMap (κ ν : Type*) where
  entries : List (κ × ν)
  nodup : (entries.map Prod.fst).Nodup

namespace GoMap

variable {κ ν : Type*} [DecidableEq κ]

def empty : GoMap κ ν := ⟨[], List.nodup_nil⟩

/-- `m[k]`, with `ok`. -/
def get (m : GoMap κ ν) (k : κ) : Option ν := (m.entries.find? (·.1 = k)).map Prod.snd

/-- `m[k] = v`. -/
def set (m : GoMap κ ν) (k : κ) (v : ν) : GoMap κ ν where
  entries := (k, v) :: m.entries.filter (·.1 ≠ k)
  nodup := by
    refine List.nodup_cons.mpr ⟨?_, m.nodup.sublist ((List.filter_sublist).map _)⟩
    simp [List.mem_filter]

/-- `delete(m, k)`. -/
def erase (m : GoMap κ ν) (k : κ) : GoMap κ ν where
  entries := m.entries.filter (·.1 ≠ k)
  nodup := m.nodup.sublist ((List.filter_sublist).map _)

/-- `len(m)`. -/
def size (m : GoMap κ ν) : Nat := m.entries.length

/-- The map literal `map[κ]ν{k: v}`. -/
def single (k : κ) (v : ν) : GoMap κ ν := empty.set k v

/-- `for key, val := range addition { m[key] = val }`. -/
def assign (m addition : GoMap κ ν) : GoMap κ ν :=
  addition.entries.foldl (fun m e => m.set e.1 e.2) m

/-- `m[k] = v` unless `k` has an entry. -/
def setIfAbsent (m : GoMap κ ν) (k : κ) (v : ν) : GoMap κ ν :=
  match m.get k with
  | some _ => m
  | none => m.set k v

/-- `m[k]++` on a map of counts, where a missing key counts as zero. -/
def increment (m : GoMap κ Nat) (k : κ) : GoMap κ Nat := m.set k ((m.get k).getD 0 + 1)

/-- The sum of the values, `for _, v := range m { n += v }` in any order. -/
def total (m : GoMap κ Nat) : Nat := m.entries.foldl (fun n e => n + e.2) 0

/-- `setIfAbsent` of each entry of a list, in order. -/
def setAllIfAbsent (m : GoMap κ ν) (entries : List (κ × ν)) : GoMap κ ν :=
  entries.foldl (fun m e => m.setIfAbsent e.1 e.2) m

instance [DecidableEq ν] : DecidableEq (GoMap κ ν) := fun a b =>
  decidable_of_iff (a.entries = b.entries) (by
    obtain ⟨a, ha⟩ := a
    obtain ⟨b, hb⟩ := b
    simp)

/-- Every entry of `sel` is an entry of `m`. -/
def covers [DecidableEq ν] (m sel : GoMap κ ν) : Bool :=
  sel.entries.all fun e => m.get e.1 = some e.2

/-- `reflect.DeepEqual` on two maps: the same keys with the same values. -/
def deepEqual [DecidableEq ν] (a b : GoMap κ ν) : Bool := a.covers b && b.covers a

@[simp]
theorem get_empty (k : κ) : (empty : GoMap κ ν).get k = none := rfl

@[simp]
theorem get_set (m : GoMap κ ν) (k k' : κ) (v : ν) :
    (m.set k v).get k' = if k' = k then some v else m.get k' := by
  unfold get set
  by_cases h : k' = k
  · subst h
    simp
  · rw [List.find?_cons_of_neg (by simpa [eq_comm] using h), List.find?_filter]
    simp only [if_neg h]
    congr 2
    funext e
    by_cases he : e.1 = k' <;> simp_all

@[simp]
theorem get_erase (m : GoMap κ ν) (k k' : κ) :
    (m.erase k).get k' = if k' = k then none else m.get k' := by
  unfold get erase
  rw [List.find?_filter]
  by_cases h : k' = k
  · subst h
    rw [if_pos rfl, List.find?_eq_none.mpr (by simp)]
    rfl
  · rw [if_neg h]
    congr 2
    funext e
    by_cases he : e.1 = k' <;> simp_all

theorem get_single (k k' : κ) (v : ν) : (single k v).get k' = if k' = k then some v else none := by
  simp [single]

/-- An entry of the map is what a lookup of its key finds. -/
theorem get_of_mem {m : GoMap κ ν} {e : κ × ν} (he : e ∈ m.entries) : m.get e.1 = some e.2 := by
  obtain ⟨m, hnodup⟩ := m
  induction m with
  | nil => cases he
  | cons a m ih =>
    have hnodup' := List.nodup_cons.mp hnodup
    rcases List.mem_cons.mp he with rfl | he
    · simp [get]
    · have hne : a.1 ≠ e.1 := fun h => hnodup'.1 (h ▸ List.mem_map_of_mem he)
      have := ih hnodup'.2 he
      simpa [get, List.find?_cons_of_neg, hne] using this

theorem mem_of_get {m : GoMap κ ν} {k : κ} {v : ν} (h : m.get k = some v) : (k, v) ∈ m.entries := by
  unfold get at h
  obtain ⟨e, he, rfl⟩ := Option.map_eq_some_iff.mp h
  have hk := List.find?_some he
  simp only [decide_eq_true_eq] at hk
  subst hk
  exact List.mem_of_find?_eq_some he

/-- Assigning the entries of a map overrides exactly its keys, whatever the
order of the assignments. -/
theorem get_assign (m addition : GoMap κ ν) (k : κ) :
    (m.assign addition).get k = (addition.get k).or (m.get k) := by
  obtain ⟨entries, hnodup⟩ := addition
  unfold assign
  induction entries generalizing m with
  | nil => simp [get]
  | cons e entries ih =>
    have hnodup' := List.nodup_cons.mp hnodup
    rw [List.foldl_cons, ih (m.set e.1 e.2) hnodup'.2, get_set]
    by_cases hk : k = e.1
    · subst hk
      have hnone : (entries.find? (·.1 = e.1)) = none := by
        rw [List.find?_eq_none]
        intro x hx hxe
        simp only [decide_eq_true_eq] at hxe
        apply hnodup'.1
        rw [← hxe]
        exact List.mem_map_of_mem hx
      simp [get, hnone]
    · simp [get, hk, List.find?_cons_of_neg, Ne.symm hk]

theorem covers_iff [DecidableEq ν] {m sel : GoMap κ ν} :
    m.covers sel = true ↔ ∀ k v, sel.get k = some v → m.get k = some v := by
  unfold covers
  rw [List.all_eq_true]
  constructor
  · intro h k v hsel
    simpa using h (k, v) (mem_of_get hsel)
  · intro h e he
    simpa using h e.1 e.2 (get_of_mem he)

theorem get_assign_single (m : GoMap κ ν) (k k' : κ) (v : ν) :
    (m.assign (single k v)).get k' = (m.set k v).get k' := by
  rw [get_assign, get_single, get_set]
  split <;> rfl

/-- Whether one map covers another depends only on their lookups. -/
theorem covers_congr [DecidableEq ν] {m m' sel sel' : GoMap κ ν} (hm : ∀ k, m.get k = m'.get k)
    (hsel : ∀ k, sel.get k = sel'.get k) : m.covers sel = m'.covers sel' := by
  rw [Bool.eq_iff_iff, covers_iff, covers_iff]
  simp only [hm, hsel]

@[simp]
theorem covers_empty [DecidableEq ν] (m : GoMap κ ν) : m.covers empty = true := rfl

/-- Setting one entry in both maps keeps the cover. -/
theorem covers_set [DecidableEq ν] {m sel : GoMap κ ν} (h : m.covers sel = true) (k : κ) (v : ν) :
    (m.set k v).covers (sel.set k v) = true := by
  rw [covers_iff] at h ⊢
  intro k' v' hsel
  rw [get_set] at hsel ⊢
  by_cases hk : k' = k
  · rw [if_pos hk] at hsel ⊢
    exact hsel
  · rw [if_neg hk] at hsel ⊢
    exact h k' v' hsel

/-- An entry set in the selector under a key the map does not give that
value, set under another key, is not covered. -/
theorem covers_set_eq_false [DecidableEq ν] {m sel : GoMap κ ν} {k k' : κ} {v v' : ν}
    (hk : k ≠ k') (hm : m.get k ≠ some v) : (m.set k' v').covers (sel.set k v) = false := by
  rw [Bool.eq_false_iff, ne_eq, covers_iff]
  intro h
  have := h k v (by simp)
  rw [get_set, if_neg hk] at this
  exact hm this

theorem get_setIfAbsent (m : GoMap κ ν) (k k' : κ) (v : ν) :
    (m.setIfAbsent k v).get k' = if k' = k then (m.get k).or (some v) else m.get k' := by
  unfold setIfAbsent
  by_cases hk : k' = k
  · subst hk
    cases h : m.get k' <;> simp [h]
  · cases h : m.get k <;> simp [hk]

/-- A key that has an entry is left alone. -/
theorem setIfAbsent_of_isSome {m : GoMap κ ν} {k : κ} (h : (m.get k).isSome) (v : ν) :
    m.setIfAbsent k v = m := by
  obtain ⟨v', hv'⟩ := Option.isSome_iff_exists.mp h
  unfold setIfAbsent
  rw [hv']

/-- No entry is replaced. -/
theorem get_setAllIfAbsent_of_get {m : GoMap κ ν} {k : κ} {v : ν} (h : m.get k = some v)
    (entries : List (κ × ν)) : (m.setAllIfAbsent entries).get k = some v := by
  induction entries generalizing m with
  | nil => exact h
  | cons e entries ih =>
    apply ih
    rw [get_setIfAbsent]
    split
    · next hk =>
      subst hk
      rw [h]
      rfl
    · exact h

/-- Every key of the list has an entry afterwards. -/
theorem isSome_setAllIfAbsent (m : GoMap κ ν) {entries : List (κ × ν)} {k : κ}
    (hk : k ∈ entries.map Prod.fst) : ((m.setAllIfAbsent entries).get k).isSome := by
  induction entries generalizing m with
  | nil => cases hk
  | cons e entries ih =>
    rcases List.mem_cons.mp hk with rfl | hk
    · -- the first entry is set, or was there, and then stays
      have hfirst : ((m.setIfAbsent e.1 e.2).get e.1).isSome := by
        rw [get_setIfAbsent, if_pos rfl]
        cases m.get e.1 <;> rfl
      obtain ⟨v, hv⟩ := Option.isSome_iff_exists.mp hfirst
      rw [show (m.setAllIfAbsent (e :: entries)) = (m.setIfAbsent e.1 e.2).setAllIfAbsent entries from rfl,
        get_setAllIfAbsent_of_get hv]
      rfl
    · exact ih _ hk

/-- With every key of the list already there, nothing changes. -/
theorem setAllIfAbsent_of_isSome {m : GoMap κ ν} {entries : List (κ × ν)}
    (h : ∀ k ∈ entries.map Prod.fst, (m.get k).isSome) : m.setAllIfAbsent entries = m := by
  induction entries with
  | nil => rfl
  | cons e entries ih =>
    rw [show (m.setAllIfAbsent (e :: entries)) = (m.setIfAbsent e.1 e.2).setAllIfAbsent entries from rfl,
      setIfAbsent_of_isSome (h e.1 List.mem_cons_self)]
    exact ih fun k hk => h k (List.mem_cons_of_mem _ hk)

/-- Setting the same entries again, where absent, changes nothing. -/
theorem setAllIfAbsent_idem (m : GoMap κ ν) (entries : List (κ × ν)) :
    (m.setAllIfAbsent entries).setAllIfAbsent entries = m.setAllIfAbsent entries :=
  setAllIfAbsent_of_isSome fun _ hk => isSome_setAllIfAbsent m hk

/-! ### Size and equality -/

theorem isSome_get_iff (m : GoMap κ ν) (k : κ) : (m.get k).isSome ↔ k ∈ m.entries.map Prod.fst := by
  simp [get, List.find?_isSome]

/-- Filtering a key out of entries with distinct keys drops one entry if the
key is there. -/
theorem length_filter_ne_add {entries : List (κ × ν)} (hnodup : (entries.map Prod.fst).Nodup)
    (k : κ) :
    (entries.filter (·.1 ≠ k)).length + (if k ∈ entries.map Prod.fst then 1 else 0) =
      entries.length := by
  induction entries with
  | nil => simp
  | cons e rest ih =>
    have hnodup' := List.nodup_cons.mp hnodup
    by_cases hk : e.1 = k
    · -- the first entry is the key's, and no other is
      subst hk
      simp only [List.filter_cons, ne_eq, not_true_eq_false, decide_false, Bool.false_eq_true,
        if_false, List.map_cons, List.mem_cons, true_or, if_true, List.length_cons,
        Nat.add_right_cancel_iff]
      rw [List.filter_eq_self.mpr]
      intro x hx
      have hne : x.1 ≠ e.1 := fun hx' => hnodup'.1 (hx' ▸ List.mem_map_of_mem (f := Prod.fst) hx)
      simpa using hne
    · have ih' := ih hnodup'.2
      simp only [ne_eq] at ih'
      have hmem : k ∈ (e :: rest).map Prod.fst ↔ k ∈ rest.map Prod.fst := by
        simp [Ne.symm hk]
      simp only [List.filter_cons, ne_eq, hk, not_false_eq_true, decide_true, if_true,
        List.length_cons, hmem]
      omega

/-- Deleting a key takes away its one entry, if it has one. -/
theorem size_erase_add (m : GoMap κ ν) (k : κ) :
    (m.erase k).size + (if (m.get k).isSome then 1 else 0) = m.size := by
  have h := length_filter_ne_add m.nodup k
  simp only [← isSome_get_iff] at h
  exact h

theorem size_set (m : GoMap κ ν) (k : κ) (v : ν) :
    (m.set k v).size = (m.erase k).size + 1 := rfl

/-! ### Counts -/

omit [DecidableEq κ] in
theorem total_empty : (empty : GoMap κ Nat).total = 0 := rfl

omit [DecidableEq κ] in
theorem foldl_add_snd (l : List (κ × Nat)) (a : Nat) :
    l.foldl (fun n e => n + e.2) a = a + l.foldr (fun e n => e.2 + n) 0 := by
  induction l generalizing a with
  | nil => rfl
  | cons e l ih =>
    rw [List.foldl_cons, ih, List.foldr_cons]
    omega

omit [DecidableEq κ] in
theorem total_eq_foldr (m : GoMap κ Nat) : m.total = m.entries.foldr (fun e n => e.2 + n) 0 := by
  rw [total, foldl_add_snd, Nat.zero_add]

/-- The counts of entries with distinct keys: those of the other keys and
that of `k`. -/
theorem foldr_filter_ne_add {entries : List (κ × Nat)} (hnodup : (entries.map Prod.fst).Nodup)
    (k : κ) :
    (entries.filter (·.1 ≠ k)).foldr (fun e n => e.2 + n) 0 +
        ((entries.find? (·.1 = k)).map Prod.snd).getD 0 =
      entries.foldr (fun e n => e.2 + n) 0 := by
  induction entries with
  | nil => rfl
  | cons e rest ih =>
    have hnodup' := List.nodup_cons.mp hnodup
    by_cases hk : e.1 = k
    · -- the first entry is the key's, and no other is
      subst hk
      have hrest : rest.filter (·.1 ≠ e.1) = rest := List.filter_eq_self.mpr fun x hx => by
        have hne : x.1 ≠ e.1 := fun hx' => hnodup'.1 (hx' ▸ List.mem_map_of_mem (f := Prod.fst) hx)
        simpa using hne
      rw [List.filter_cons_of_neg (by simp), List.find?_cons_of_pos (by simp), hrest]
      simp only [List.foldr_cons, Option.map_some, Option.getD_some]
      omega
    · have ih' := ih hnodup'.2
      rw [List.filter_cons_of_pos (by simpa using hk), List.find?_cons_of_neg (by simpa using hk)]
      simp only [List.foldr_cons]
      omega

/-- An assignment replaces the count of its key. -/
theorem total_set (m : GoMap κ Nat) (k : κ) (v : Nat) :
    (m.set k v).total + (m.get k).getD 0 = m.total + v := by
  have h := foldr_filter_ne_add m.nodup k
  simp only [total_eq_foldr, set, get, List.foldr_cons] at h ⊢
  omega

/-- `m[k]++` adds one to the counts. -/
@[simp] theorem total_increment (m : GoMap κ Nat) (k : κ) : (m.increment k).total = m.total + 1 := by
  have h := total_set m k ((m.get k).getD 0 + 1)
  rw [increment]
  omega

/-- `reflect.DeepEqual` of two maps is equality of their lookups. -/
theorem deepEqual_iff [DecidableEq ν] {a b : GoMap κ ν} :
    a.deepEqual b = true ↔ ∀ k, a.get k = b.get k := by
  rw [deepEqual, Bool.and_eq_true, covers_iff, covers_iff]
  constructor
  · rintro ⟨hab, hba⟩ k
    cases hb : b.get k with
    | none =>
      cases ha : a.get k with
      | none => rfl
      | some v => exact absurd (hba k v ha) (by simp [hb])
    | some v => exact hab k v hb
  · intro h
    exact ⟨fun k v hb => (h k).trans hb, fun k v ha => (h k).symm.trans ha⟩

end GoMap

end KDoctor
