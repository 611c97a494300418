import KDoctor.Lib.Go

/-!
The name rules of the vendored `k8s.io/apimachinery/pkg/util/validation` that
the API server applies to the objects the scheduler creates: a DNS-1123
subdomain for the name of a Deployment or a DaemonSet, a DNS-1035 label for
the name of a Service, and the rule for label values.

Each check of the library returns the list of what is wrong; here it is
`true` when that list is empty. Text is the list of its characters: the names
involved are ASCII, where Go's byte length is the number of characters.
Every pattern has the shape `first (inner* last)?` with `first` and `last`
characters among the `inner` ones, which `wordMatches` decides.
-/

namespace KDoctor.K8s

open Go

/-- `[a-z0-9]` -/
def isLowerAlnum (c : Char) : Bool := c.isLower || c.isDigit

/-- `[-a-z0-9]` -/
def isDnsChar (c : Char) : Bool := isLowerAlnum c || c == '-'

/-- `[-A-Za-z0-9_.]` -/
def isQnameExtChar (c : Char) : Bool := c.isAlphanum || c == '-' || c == '_' || c == '.'

/-- A word that is not empty, begins with a `first` character, ends with a
`last` character and has only `inner` characters. -/
def wordMatches (first last inner : Char → Bool) (cs : List Char) : Bool :=
  match cs.head?, cs.getLast? with
  | some a, some z => first a && last z && cs.all inner
  | _, _ => false

/-- `dns1123LabelFmt`, `[a-z0-9]([-a-z0-9]*[a-z0-9])?`. -/
def matchesDns1123Label (cs : List Char) : Bool := wordMatches isLowerAlnum isLowerAlnum isDnsChar cs

/-- `dns1123SubdomainFmt`: DNS-1123 labels joined by dots. -/
def matchesDns1123Subdomain (cs : List Char) : Bool :=
  (splitChars '.' cs).all matchesDns1123Label

/-- `dns1035LabelFmt`, `[a-z]([-a-z0-9]*[a-z0-9])?`. -/
def matchesDns1035Label (cs : List Char) : Bool := wordMatches Char.isLower isLowerAlnum isDnsChar cs

/-- `labelValueFmt`: empty, or `([A-Za-z0-9][-A-Za-z0-9_.]*)?[A-Za-z0-9]`. -/
def matchesLabelValue (cs : List Char) : Bool :=
  cs.isEmpty || wordMatches Char.isAlphanum Char.isAlphanum isQnameExtChar cs

def dns1123SubdomainMaxLength : Nat := 253

def dns1035LabelMaxLength : Nat := 63

def labelValueMaxLength : Nat := 63

/-- `IsDNS1123Subdomain` finds nothing wrong. -/
def isDNS1123Subdomain (value : List Char) : Bool :=
  value.length ≤ dns1123SubdomainMaxLength && matchesDns1123Subdomain value

/-- `IsDNS1035Label` finds nothing wrong. -/
def isDNS1035Label (value : List Char) : Bool :=
  value.length ≤ dns1035LabelMaxLength && matchesDns1035Label value

/-- `IsValidLabelValue` finds nothing wrong. -/
def isValidLabelValue (value : List Char) : Bool :=
  value.length ≤ labelValueMaxLength && matchesLabelValue value

/-! ## Character classes -/

theorem isAlphanum_of_isLowerAlnum {c : Char} (h : isLowerAlnum c = true) : c.isAlphanum = true := by
  unfold isLowerAlnum at h
  show (c.isUpper || c.isLower || c.isDigit) = true
  simp only [Bool.or_eq_true] at h ⊢
  tauto

theorem isQnameExtChar_of_isDnsChar {c : Char} (h : isDnsChar c = true) :
    isQnameExtChar c = true := by
  unfold isDnsChar isLowerAlnum at h
  show (c.isUpper || c.isLower || c.isDigit || c == '-' || c == '_' || c == '.') = true
  simp only [Bool.or_eq_true] at h ⊢
  tauto

theorem isDnsChar_dot : isDnsChar '.' = false := by decide

/-! ## Words -/

section Words

variable {first last inner : Char → Bool}

theorem wordMatches_iff {cs : List Char} :
    wordMatches first last inner cs = true ↔
      (∃ a, cs.head? = some a ∧ first a = true) ∧ (∃ z, cs.getLast? = some z ∧ last z = true) ∧
        ∀ c ∈ cs, inner c = true := by
  unfold wordMatches
  rcases ha : cs.head? with _ | a <;> rcases hz : cs.getLast? with _ | z <;>
    simp [List.all_eq_true, and_assoc]

theorem wordMatches_ne_nil {cs : List Char} (h : wordMatches first last inner cs = true) :
    cs ≠ [] := by
  rintro rfl
  simp [wordMatches] at h

/-- A word of two parts begins as the first and ends as the second. -/
theorem wordMatches_append {p q : List Char} (hp : p ≠ []) (hq : q ≠ []) :
    wordMatches first last inner (p ++ q) = true ↔
      (∃ a, p.head? = some a ∧ first a = true) ∧ (∃ z, q.getLast? = some z ∧ last z = true) ∧
        (∀ c ∈ p, inner c = true) ∧ ∀ c ∈ q, inner c = true := by
  rw [wordMatches_iff, List.head?_append_of_ne_nil _ hp, List.getLast?_append_of_ne_nil _ hq,
    List.forall_mem_append]

end Words

/-! ## Subdomains -/

/-- Every character of a subdomain is a dot or may stand in a label. -/
theorem matchesDns1123Subdomain.chars {cs : List Char} (h : matchesDns1123Subdomain cs = true)
    {c : Char} (hc : c ∈ cs) : c = '.' ∨ isDnsChar c = true := by
  rcases @mem_splitChars '.' c cs hc with hdot | ⟨piece, hpiece, hcp⟩
  · exact Or.inl hdot
  · have hlabel := List.all_eq_true.mp h piece hpiece
    exact Or.inr ((wordMatches_iff.mp hlabel).2.2 c hcp)

/-- A subdomain ends with a letter or a digit. -/
theorem matchesDns1123Subdomain.last {cs : List Char} (h : matchesDns1123Subdomain cs = true) :
    ∃ z, cs.getLast? = some z ∧ isLowerAlnum z = true := by
  obtain ⟨lp, hlp⟩ := Option.ne_none_iff_exists'.mp
    (mt List.getLast?_eq_none_iff.mp (splitChars_ne_nil '.' cs))
  have hlabel := List.all_eq_true.mp h lp (List.mem_of_getLast? hlp)
  rw [getLast?_of_splitChars hlp (wordMatches_ne_nil hlabel)]
  exact (wordMatches_iff.mp hlabel).2.1

/-- A subdomain stays one behind a word of label characters that begins with
a letter or a digit. -/
theorem matchesDns1123Subdomain_append {p cs : List Char} (hp : p ≠ [])
    (hhead : ∃ a, p.head? = some a ∧ isLowerAlnum a = true) (hchars : ∀ c ∈ p, isDnsChar c = true)
    (h : matchesDns1123Subdomain cs = true) : matchesDns1123Subdomain (p ++ cs) = true := by
  have hdot : '.' ∉ p := fun hmem => by simpa [isDnsChar_dot] using hchars '.' hmem
  obtain ⟨piece, pieces, hsplit⟩ := List.exists_cons_of_ne_nil (splitChars_ne_nil '.' cs)
  rw [matchesDns1123Subdomain, hsplit, List.all_cons, Bool.and_eq_true] at h
  have hpiece := wordMatches_iff.mp h.1
  rw [matchesDns1123Subdomain, splitChars_append hdot, hsplit, List.modifyHead_cons, List.all_cons,
    h.2, Bool.and_true, matchesDns1123Label, wordMatches_append hp (wordMatches_ne_nil h.1)]
  exact ⟨hhead, hpiece.2.1, hchars, hpiece.2.2⟩

end KDoctor.K8s
