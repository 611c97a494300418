import Mathlib.Data.List.Infix
import Mathlib.Data.List.Perm.Basic
import Mathlib.Data.List.TakeWhile

/-!
The parts of Go's runtime and standard library that the models below read:
instants and durations of package `time`, 64-bit wrap-around of `int64`
products, ``strings.Split` on a one-character separator, `strings.Contains`,
`strconv.Atoi`, the order in which `range` visits the keys of a map, and
what a send on or a close of a buffered channel does.

An instant is an `Int` count of nanoseconds, and so is a `time.Duration`.
`Time.Add` is addition, `After` and
`Before` are the strict orders, and `Sub` saturates at the bounds of `int64`
as the library does. A map's iteration order is unspecified and may differ
between two loops over the same map, so a model that ranges over a map takes
an `Iteration`: any permutation of the keys.
-/

namespace KDoctor.Go

/-- The value an `int64` computation wraps to. -/
def toInt64 (x : Int) : Int := Int.bmod x 18446744073709551616

def maxDuration : Int := 9223372036854775807

def minDuration : Int := -9223372036854775808

def second : Int := 1000000000

def minute : Int := 60 * second

/-- `time.Duration(n) * time.Second`, wrapping as `int64` multiplication does. -/
def seconds (n : Int) : Int := toInt64 (n * second)

/-- `time.Duration(n) * time.Minute`, wrapping as `int64` multiplication does. -/
def minutes (n : Int) : Int := toInt64 (n * minute)

/-- `t.Sub(u)`: the duration from `u` to `t`, saturated to the range of `int64`. -/
def sub (t u : Int) : Int :=
  if maxDuration < t - u then maxDuration
  else if t - u < minDuration then minDuration
  else t - u

/-- An `int64` computation whose value fits does not wrap. -/
theorem toInt64_of_le {x : Int} (h1 : minDuration ≤ x) (h2 : x ≤ maxDuration) : toInt64 x = x :=
  Int.bmod_eq_of_le (by unfold minDuration at h1; omega) (by unfold maxDuration at h2; omega)

/-- Up to `153722867` minutes, the most an `int64` count of nanoseconds
holds, `time.Duration(n) * time.Minute` does not wrap. -/
theorem minutes_of_le {n : Int} (h0 : 0 ≤ n) (h : n ≤ 153722867) : minutes n = n * minute :=
  toInt64_of_le (by unfold minDuration minute second; omega)
    (by unfold maxDuration minute second; omega)

theorem sub_pos_iff (t u : Int) : 0 < sub t u ↔ u < t := by
  unfold sub maxDuration minDuration
  split <;> [omega; split <;> omega]

/-- `strings.Split(s, string(sep))` on the characters of `s`: the pieces between
the occurrences of `sep`, one more than there are occurrences. -/
def splitChars (sep : Char) : List Char → List (List Char)
  | [] => [[]]
  | c :: cs =>
    match splitChars sep cs with
    | [] => [[c]]
    | piece :: pieces => if c = sep then [] :: piece :: pieces else (c :: piece) :: pieces

/-- `strings.Split` with a one-character separator. -/
def split (s : String) (sep : Char) : List String :=
  (splitChars sep s.toList).map String.ofList

theorem splitChars_ne_nil (sep : Char) (cs : List Char) : splitChars sep cs ≠ [] := by
  cases cs with
  | nil => simp [splitChars]
  | cons c cs =>
    simp only [splitChars]
    split
    · simp
    · split <;> simp

theorem splitChars_cons (sep c : Char) (cs : List Char) :
    splitChars sep (c :: cs) =
      if c = sep then [] :: splitChars sep cs
      else List.modifyHead (c :: ·) (splitChars sep cs) := by
  rw [splitChars]
  rcases h : splitChars sep cs with _ | ⟨piece, pieces⟩
  · exact absurd h (splitChars_ne_nil sep cs)
  · split_ifs <;> rfl

/-- Splitting text behind a prefix without the separator extends the first
piece. -/
theorem splitChars_append {sep : Char} {p : List Char} (hp : sep ∉ p) (cs : List Char) :
    splitChars sep (p ++ cs) = List.modifyHead (p ++ ·) (splitChars sep cs) := by
  induction p with
  | nil =>
    rw [List.nil_append]
    cases splitChars sep cs <;> rfl
  | cons c p ih =>
    have hc : c ≠ sep := fun h => hp (h ▸ List.mem_cons_self)
    rw [List.cons_append, splitChars_cons, if_neg hc, ih (fun h => hp (List.mem_cons_of_mem c h)),
      List.modifyHead_modifyHead]
    rfl

/-- A character of split text is the separator or in one of the pieces. -/
theorem mem_splitChars {sep c : Char} {cs : List Char} (h : c ∈ cs) :
    c = sep ∨ ∃ piece ∈ splitChars sep cs, c ∈ piece := by
  induction cs with
  | nil => cases h
  | cons d cs ih =>
    rw [splitChars_cons]
    obtain ⟨piece, pieces, hsplit⟩ := List.exists_cons_of_ne_nil (splitChars_ne_nil sep cs)
    rcases List.mem_cons.mp h with rfl | hmem
    · by_cases hd : c = sep
      · exact Or.inl hd
      · exact Or.inr ⟨c :: piece, by simp [hd, hsplit], List.mem_cons_self⟩
    · rcases ih hmem with hsep | ⟨q, hq, hcq⟩
      · exact Or.inl hsep
      · rw [hsplit] at hq
        split_ifs
        · exact Or.inr ⟨q, by simp [hsplit, hq], hcq⟩
        · rcases List.mem_cons.mp hq with rfl | hq
          · exact Or.inr ⟨d :: q, by simp [hsplit], List.mem_cons_of_mem d hcq⟩
          · exact Or.inr ⟨q, by simp [hsplit, hq], hcq⟩

theorem eq_nil_of_splitChars_eq {sep : Char} {cs : List Char} (h : splitChars sep cs = [[]]) :
    cs = [] := by
  cases cs with
  | nil => rfl
  | cons c cs =>
    rw [splitChars_cons] at h
    obtain ⟨piece, pieces, hsplit⟩ := List.exists_cons_of_ne_nil (splitChars_ne_nil sep cs)
    split_ifs at h <;> simp [hsplit] at h

/-- The text ends as its last piece does, when that piece is not empty. -/
theorem getLast?_of_splitChars {sep : Char} {cs lp : List Char}
    (h : (splitChars sep cs).getLast? = some lp) (hlp : lp ≠ []) :
    cs.getLast? = lp.getLast? := by
  induction cs generalizing lp with
  | nil =>
    simp [splitChars] at h
    exact absurd h hlp
  | cons c cs ih =>
    rw [splitChars_cons] at h
    obtain ⟨piece, pieces, hsplit⟩ := List.exists_cons_of_ne_nil (splitChars_ne_nil sep cs)
    have hlast : ∀ {lp}, (splitChars sep cs).getLast? = some lp → lp ≠ [] →
        (c :: cs).getLast? = lp.getLast? := by
      intro lp h' hlp'
      rw [List.getLast?_cons, ih h' hlp']
      cases hz : lp.getLast? with
      | none => simp_all
      | some z => rfl
    split_ifs at h
    · rw [hsplit, List.getLast?_cons_cons, ← hsplit] at h
      exact hlast h hlp
    · rw [hsplit] at h
      cases pieces with
      | nil =>
        simp only [List.modifyHead_cons, List.getLast?_singleton, Option.some.injEq] at h
        subst h
        by_cases hp : piece = []
        · subst hp
          rw [eq_nil_of_splitChars_eq hsplit]
        · rw [hlast (by simp [hsplit]) hp, List.getLast?_cons]
          cases hz : piece.getLast? with
          | none => simp_all
          | some z => rfl
      | cons q qs =>
        simp only [List.modifyHead_cons, List.getLast?_cons_cons] at h
        exact hlast (by rw [hsplit, List.getLast?_cons_cons]; exact h) hlp

/-- The first piece of split text begins it, and every piece stands in it. -/
theorem splitChars_pieces_within (sep : Char) (cs : List Char) :
    (∀ p ∈ (splitChars sep cs).head?, p <+: cs) ∧ ∀ piece ∈ splitChars sep cs, piece <:+: cs := by
  induction cs with
  | nil => simp [splitChars]
  | cons c cs ih =>
    obtain ⟨hhead, hall⟩ := ih
    obtain ⟨piece, pieces, hsplit⟩ := List.exists_cons_of_ne_nil (splitChars_ne_nil sep cs)
    rw [splitChars_cons]
    split_ifs
    · -- an empty first piece, then the pieces of the rest
      refine ⟨by simp, ?_⟩
      intro q hq
      rcases List.mem_cons.mp hq with rfl | hq
      · exact List.nil_infix
      · exact (hall q hq).trans (List.suffix_cons c cs).isInfix
    · -- the character joins the first piece of the rest
      rw [hsplit] at hhead hall ⊢
      have hp : piece <+: cs := hhead piece rfl
      refine ⟨by simpa using hp, ?_⟩
      intro q hq
      rcases List.mem_cons.mp hq with rfl | hq
      · exact (List.cons_prefix_cons.mpr ⟨rfl, hp⟩).isInfix
      · exact (hall q (List.mem_cons_of_mem piece hq)).trans (List.suffix_cons c cs).isInfix

/-- Text without the separator is one piece. -/
theorem splitChars_of_not_mem {sep : Char} {cs : List Char} (h : sep ∉ cs) :
    splitChars sep cs = [cs] := by
  have := splitChars_append h []
  rw [List.append_nil] at this
  simp [this, splitChars]

/-- Text up to the first separator is the first piece. -/
theorem splitChars_sep {sep : Char} {p : List Char} (hp : sep ∉ p) (cs : List Char) :
    splitChars sep (p ++ sep :: cs) = p :: splitChars sep cs := by
  rw [splitChars_append hp, splitChars_cons, if_pos rfl]
  simp

/-- Splitting at an occurrence of the separator splits the two sides apart. -/
theorem splitChars_append_sep (sep : Char) (xs ys : List Char) :
    splitChars sep (xs ++ sep :: ys) = splitChars sep xs ++ splitChars sep ys := by
  induction xs with
  | nil =>
    rw [List.nil_append, splitChars_cons, if_pos rfl]
    rfl
  | cons c xs ih =>
    rw [List.cons_append, splitChars_cons, splitChars_cons, ih]
    split_ifs
    · rfl
    · -- the first piece of the left side takes the character
      obtain ⟨piece, pieces, hsplit⟩ := List.exists_cons_of_ne_nil (splitChars_ne_nil sep xs)
      rw [hsplit]
      rfl

/-- Text with the separator is cut at its last occurrence into what comes
before it and a last piece without it. -/
theorem exists_eq_append_sep {sep : Char} {cs : List Char} (h : sep ∈ cs) :
    ∃ p ts, cs = p ++ sep :: ts ∧ sep ∉ ts := by
  induction cs with
  | nil => cases h
  | cons c cs ih =>
    by_cases hcs : sep ∈ cs
    · obtain ⟨p, ts, rfl, hts⟩ := ih hcs
      exact ⟨c :: p, ts, rfl, hts⟩
    · have hc : sep = c := by simpa [hcs] using h
      exact ⟨[], cs, by simp [hc], hcs⟩

/-- Text with the separator is cut at its first occurrence into a first
piece without it and the rest. -/
theorem exists_eq_append_sep_first {sep : Char} {cs : List Char} (h : sep ∈ cs) :
    ∃ a b, cs = a ++ sep :: b ∧ sep ∉ a := by
  induction cs with
  | nil => cases h
  | cons c cs ih =>
    by_cases hc : c = sep
    · exact ⟨[], cs, by simp [hc], List.not_mem_nil⟩
    · have hcs : sep ∈ cs := by simpa [Ne.symm hc] using h
      obtain ⟨a, b, rfl, ha⟩ := ih hcs
      exact ⟨c :: a, b, rfl, by simp [Ne.symm hc, ha]⟩

/-- The first piece of split text is the whole text exactly when the
separator does not occur in it. -/
theorem head?_splitChars_eq_iff {sep : Char} {cs : List Char} :
    (splitChars sep cs).head? = some cs ↔ sep ∉ cs := by
  constructor
  · intro h hmem
    obtain ⟨a, b, rfl, ha⟩ := exists_eq_append_sep_first hmem
    rw [splitChars_sep ha, List.head?_cons, Option.some.injEq] at h
    have hlen := congrArg List.length h
    simp at hlen
  · intro h
    simp [splitChars_of_not_mem h]

/-- The first piece of a split is the text up to the first separator. -/
theorem head?_splitChars (sep : Char) (cs : List Char) :
    (splitChars sep cs).head? = some (cs.takeWhile (· != sep)) := by
  induction cs with
  | nil => rfl
  | cons c cs ih =>
    rw [splitChars_cons]
    by_cases hc : c = sep
    · simp [hc]
    · rcases h : splitChars sep cs with _ | ⟨piece, pieces⟩
      · exact absurd h (splitChars_ne_nil sep cs)
      · rw [h, List.head?_cons, Option.some.injEq] at ih
        simp [hc, ih]

/-- Appending to a slice in a loop when a test holds keeps the elements that
pass it, in order. -/
theorem foldl_append_filter {α : Type*} (q : α → Bool) (acc xs : List α) :
    xs.foldl (fun acc x => if q x then acc ++ [x] else acc) acc = acc ++ xs.filter q := by
  induction xs generalizing acc with
  | nil => simp
  | cons x xs ih =>
    rw [List.foldl_cons, ih]
    by_cases hx : q x <;> simp [hx]

/-- `strings.HasPrefix`. -/
def hasPrefix (s p : String) : Bool := p.toList.isPrefixOf s.toList

/-- `strings.TrimPrefix`. -/
def trimPrefix (s p : String) : String :=
  if hasPrefix s p then String.ofList (s.toList.drop p.toList.length) else s

/-- `strings.TrimSuffix`. -/
def trimSuffix (s suffix : String) : String :=
  if suffix.toList.isSuffixOf s.toList then String.ofList (s.toList.take (s.toList.length - suffix.toList.length))
  else s

theorem hasPrefix_iff {s p : String} : hasPrefix s p = true ↔ p.toList <+: s.toList :=
  List.isPrefixOf_iff_prefix

@[simp] theorem trimPrefix_append (p s : String) : trimPrefix (p ++ s) p = s := by
  have h : hasPrefix (p ++ s) p = true := hasPrefix_iff.mpr (by simp)
  simp [trimPrefix, h]

/-- A suffix longer than the text is not trimmed. -/
theorem trimSuffix_of_length_lt {s suffix : String} (h : s.toList.length < suffix.toList.length) :
    trimSuffix s suffix = s := by
  have hns : ¬ suffix.toList <:+ s.toList := fun hs => absurd hs.length_le (by omega)
  simp [trimSuffix, List.isSuffixOf_iff_suffix, hns]

@[simp] theorem trimSuffix_append (s suffix : String) : trimSuffix (s ++ suffix) suffix = s := by
  simp [trimSuffix]

/-- `%d` of an `int` writes digits, after a minus sign for a negative one. -/
theorem mem_toString_int {r : Int} {c : Char} (h : c ∈ (toString r).toList) :
    c = '-' ∨ c.isDigit = true := by
  rw [Int.toString_eq_repr] at h
  cases r with
  | ofNat m =>
    simp [Int.repr, Nat.repr] at h
    exact Or.inr (Nat.isDigit_of_mem_toDigits (by decide) (by decide) h)
  | negSucc m =>
    simp [Int.repr, Nat.repr] at h
    rcases h with h | h
    · exact Or.inl h
    · exact Or.inr (Nat.isDigit_of_mem_toDigits (by decide) (by decide) h)

/-- Two texts that each run up to a separator they do not contain before it
start the same way exactly when the parts before it are equal and the rest
of the first starts the rest of the second. -/
theorem sep_prefix_iff {sep : Char} {a b x y : List Char} (ha : sep ∉ a) (hb : sep ∉ b) :
    a ++ sep :: x <+: b ++ sep :: y ↔ a = b ∧ x <+: y := by
  induction a generalizing b with
  | nil =>
    cases b with
    | nil => simp [List.cons_prefix_cons]
    | cons d b =>
      have hd : d ≠ sep := fun h => hb (h ▸ List.mem_cons_self)
      simp [List.cons_prefix_cons, Ne.symm hd]
  | cons c a ih =>
    have hc : c ≠ sep := fun h => ha (h ▸ List.mem_cons_self)
    cases b with
    | nil => simp [List.cons_prefix_cons, hc]
    | cons d b =>
      rw [List.cons_append, List.cons_append, List.cons_prefix_cons,
        ih (fun h => ha (List.mem_cons_of_mem c h)) (fun h => hb (List.mem_cons_of_mem d h))]
      simp only [List.cons.injEq, and_assoc]

/-- `path.Base`: the last element of a slash-separated path. -/
def pathBase (p : String) : String :=
  if p = "" then "."
  else
    -- trailing slashes are stripped first
    let cs := (p.toList.reverse.dropWhile (· = '/')).reverse
    let last := (cs.reverse.takeWhile (· ≠ '/')).reverse
    if last = [] then "/" else String.ofList last

/-- `path.Join` of a directory, written without a trailing slash, and a file
name. -/
def pathJoin (dir name : String) : String := dir ++ "/" ++ name

/-- A path that ends with a text without a slash ends its last element with
that text, after what follows the last slash before it. -/
theorem pathBase_append {a b : List Char} (hb : '/' ∉ b) (hne : b ≠ []) :
    (pathBase (String.ofList (a ++ b))).toList = (a.reverse.takeWhile (· ≠ '/')).reverse ++ b := by
  obtain ⟨c, rest, hrev⟩ := List.exists_cons_of_ne_nil (List.reverse_ne_nil_iff.mpr hne)
  have hc : c ≠ '/' := fun h => hb (List.mem_reverse.mp (hrev ▸ h ▸ List.mem_cons_self))
  -- no trailing slash to strip: the text ends with a character of `b`
  have hdrop : (a ++ b).reverse.dropWhile (fun c => decide (c = '/')) = (a ++ b).reverse := by
    rw [List.reverse_append, hrev, List.cons_append, List.dropWhile_cons_of_neg (by simpa using hc)]
  -- every character of `b` is kept, then `a` back to its last slash
  have htake : (a ++ b).reverse.takeWhile (fun c => decide (c ≠ '/')) =
      b.reverse ++ a.reverse.takeWhile (fun c => decide (c ≠ '/')) := by
    rw [List.reverse_append, List.takeWhile_append_of_pos]
    intro x hx
    have : x ≠ '/' := fun h => hb (List.mem_reverse.mp (h ▸ hx))
    simpa using this
  have hp : String.ofList (a ++ b) ≠ "" := by
    intro h
    have := congrArg String.toList h
    simp [hne] at this
  have hlast : (b.reverse ++ a.reverse.takeWhile (fun c => decide (c ≠ '/'))).reverse ≠ [] := by
    simp [hne]
  simp only [pathBase, hp, if_false, String.toList_ofList, List.reverse_reverse, hdrop, htake]
  rw [if_neg hlast, String.toList_ofList, List.reverse_append, List.reverse_reverse]

/-- Whether the characters `sub` stand together in `cs`, at its start or
further on. -/
def containsChars (sub : List Char) : List Char → Bool
  | [] => sub.isPrefixOf []
  | c :: cs => sub.isPrefixOf (c :: cs) || containsChars sub cs

/-- `strings.Contains(s, substr)`. -/
def contains (s substr : String) : Bool := containsChars substr.toList s.toList

/-- `strings.ToLower`, on text whose letters are ASCII. -/
def toLower (s : String) : String := String.ofList (s.toList.map Char.toLower)

/-- `s[strings.Index(s, string(sep))+1:]`: the text after the first `sep`, or
all of it when there is none, where `Index` is `-1`. -/
def afterIndex (s : String) (sep : Char) : String :=
  if sep ∈ s.toList then String.ofList (s.toList.dropWhile (· != sep)).tail else s

/-- The text after the first separator of `p`, the separator and `n`, when
`p` has none, is `n`. -/
theorem afterIndex_eq {s p n : String} {sep : Char} (hs : s.toList = p.toList ++ sep :: n.toList)
    (hp : sep ∉ p.toList) : afterIndex s sep = n := by
  have hdrop : (p.toList ++ sep :: n.toList).dropWhile (· != sep) = sep :: n.toList := by
    rw [List.dropWhile_append_of_pos (fun c hc => by
      have : c ≠ sep := fun h => hp (h ▸ hc)
      simpa using this)]
    simp
  simp [afterIndex, hs, hdrop]

theorem containsChars_iff {sub cs : List Char} : containsChars sub cs = true ↔ sub <:+: cs := by
  induction cs with
  | nil => simp [containsChars, List.isPrefixOf_iff_prefix]
  | cons c cs ih =>
    rw [containsChars, Bool.or_eq_true, List.isPrefixOf_iff_prefix, ih, List.infix_cons_iff]

/-- A text that contains a word contains every part of it. -/
theorem contains_of_infix {s t u : String} (h : contains s t = true) (hu : u.toList <:+: t.toList) :
    contains s u = true := by
  unfold contains at h ⊢
  rw [containsChars_iff] at h ⊢
  exact hu.trans h

/-- `strings.Index` on characters: where `sub` first starts in `cs`, or `-1`. -/
def indexChars (sub : List Char) : List Char → Int
  | [] => if sub.isPrefixOf [] then 0 else -1
  | c :: cs =>
    if sub.isPrefixOf (c :: cs) then 0
    else
      let i := indexChars sub cs
      if i < 0 then -1 else i + 1

/-- `strings.Index(s, substr)`. -/
def index (s substr : String) : Int := indexChars substr.toList s.toList

/-- `strings.LastIndex` of one character: where `c` last stands in `cs`, or
`-1`. -/
def lastIndexChar (c : Char) : List Char → Int
  | [] => -1
  | d :: cs =>
    let i := lastIndexChar c cs
    if 0 ≤ i then i + 1 else if d = c then 0 else -1

/-- `strings.LastIndexFunc` on characters: where the last character that
satisfies `p` stands in `cs`, or `-1`. -/
def lastIndexFunc (p : Char → Bool) : List Char → Int
  | [] => -1
  | d :: cs =>
    let i := lastIndexFunc p cs
    if 0 ≤ i then i + 1 else if p d then 0 else -1

theorem indexChars_singleton_of_not_mem {c : Char} {cs : List Char} (h : c ∉ cs) :
    indexChars [c] cs = -1 := by
  induction cs with
  | nil => rfl
  | cons d cs ih =>
    have hd : d ≠ c := fun hd => h (hd ▸ List.mem_cons_self)
    have ih' := ih fun hc => h (List.mem_cons_of_mem d hc)
    simp [indexChars, ih', Ne.symm hd]

/-- Where `strings.Index` finds `sub`, `sub` stands. -/
theorem prefix_drop_indexChars {sub cs : List Char} (h : 0 ≤ indexChars sub cs) :
    sub <+: cs.drop (indexChars sub cs).toNat := by
  induction cs with
  | nil =>
    by_cases hp : sub.isPrefixOf [] = true
    · simpa [indexChars, hp] using List.isPrefixOf_iff_prefix.mp hp
    · simp [indexChars, hp] at h
  | cons c cs ih =>
    by_cases hp : sub.isPrefixOf (c :: cs) = true
    · simpa [indexChars, hp] using List.isPrefixOf_iff_prefix.mp hp
    · -- found in the tail, one place further on
      have hi : 0 ≤ indexChars sub cs := by
        by_contra hlt
        rw [indexChars, if_neg hp] at h
        dsimp only at h
        rw [if_pos (by omega)] at h
        omega
      have hstep : indexChars sub (c :: cs) = indexChars sub cs + 1 := by
        rw [indexChars, if_neg hp]
        dsimp only
        rw [if_neg (by omega)]
      have htoNat : (indexChars sub cs + 1).toNat = (indexChars sub cs).toNat + 1 := by omega
      rw [hstep, htoNat, List.drop_succ_cons]
      exact ih hi

theorem lastIndexChar_of_not_mem {c : Char} {cs : List Char} (h : c ∉ cs) :
    lastIndexChar c cs = -1 := by
  induction cs with
  | nil => rfl
  | cons d cs ih =>
    have hd : d ≠ c := fun hd => h (hd ▸ List.mem_cons_self)
    have ih' := ih fun hc => h (List.mem_cons_of_mem d hc)
    simp [lastIndexChar, ih', hd]

/-- The digits of a decimal numeral, most significant first, as a number. -/
def digitsValue : List Char → Nat
  | [] => 0
  | cs => cs.foldl (fun n c => 10 * n + (c.toNat - '0'.toNat)) 0

/-- `strconv.Atoi` on a 64-bit platform: a sign and at least one decimal digit
give their value, clamped to `int64` with an error when it does not fit; any
other text gives `0` and an error. The flag is `true` when no error is
returned. -/
def atoi (s : String) : Int × Bool :=
  let (neg, body) := match s.toList with
    | '-' :: rest => (true, rest)
    | '+' :: rest => (false, rest)
    | cs => (false, cs)
  if body ≠ [] ∧ body.all Char.isDigit then
    let v : Int := if neg then -(digitsValue body : Int) else digitsValue body
    if v > maxDuration then (maxDuration, false)
    else if v < minDuration then (minDuration, false)
    else (v, true)
  else (0, false)

/-- `net.JoinHostPort`: a host with a colon, an IPv6 address, goes between
brackets. -/
def joinHostPort (host port : String) : String :=
  if ':' ∈ host.toList then "[" ++ host ++ "]:" ++ port else host ++ ":" ++ port

/-- An order in which `range` over a map visits its keys: a permutation of
them, chosen anew by every loop. -/
structure Iteration (α : Type*) where
  order : List α → List α
  perm : ∀ keys, (order keys).Perm keys

/-- The iteration that visits the keys in the order they are given. -/
def Iteration.inOrder (α : Type*) : Iteration α := ⟨id, fun _ => List.Perm.refl _⟩

/-- A loop that stops at the first key with an error runs to its end, in
whatever order it visits the keys, exactly when no key has an error. -/
theorem Iteration.findSome?_eq_none_iff {α β : Type*} (it : Iteration α) (f : α → Option β)
    (keys : List α) : (it.order keys).findSome? f = none ↔ ∀ k ∈ keys, f k = none := by
  rw [List.findSome?_eq_none_iff]
  simp only [(it.perm keys).mem_iff]

/-! ## Buffered channels -/

/-- A send on a buffered channel holding `len` values of its `cap`: it panics
on a closed channel, blocks (takes no step) on a full one, and otherwise goes
through. -/
def chanSend {σ : Type*} (closed : Bool) (len cap : Nat) (panic next : σ) : Option σ :=
  if closed then some panic else if len < cap then some next else none

/-- The panic of a send on a closed channel. -/
def sendOnClosedChannel : String := "send on closed channel"

/-- The panic of a close of a closed channel. -/
def closeOfClosedChannel : String := "close of closed channel"

/-- The close of a channel, which panics on one already closed. -/
def chanClose {σ : Type*} (closed : Bool) (panic next : σ) : σ :=
  if closed then panic else next

theorem chanSend_eq_some {σ : Type*} {closed : Bool} {len cap : Nat} {panic next s : σ} :
    chanSend closed len cap panic next = some s ↔
      (closed = true ∧ s = panic) ∨ (closed = false ∧ len < cap ∧ s = next) := by
  unfold chanSend
  cases closed <;> by_cases h : len < cap <;> simp [h, eq_comm]

theorem chanSend_of_open {σ : Type*} {len cap : Nat} {panic next : σ} (h : len < cap) :
    chanSend false len cap panic next = some next := by
  simp [chanSend, h]

end KDoctor.Go
