import Mathlib

/-!
The part of Go's package `time` that names files by a time: the proleptic
Gregorian calendar, `Format` with the layout `RFC3339` (`appendFormatRFC3339`)
and `Parse` with that layout through its fast path `parseRFC3339`.

A `Time` is kept as its location shows it: the date and clock, the
nanoseconds, and the location's offset from UTC at that moment, which is what
`Format` prints. Its instant, in seconds since the Unix epoch and
nanoseconds, is computed from them. `Parse` returns the instant it reads; on
a text that the fast path refuses, Go goes on to its general parser, which is
left out, and the model returns no time.

`parseRFC3339` reads the fields at fixed places, `s[0:4]`, `s[4] == '-'`,
`s[5:7]` and so on; the model reads them from left to right, which fails
exactly when one of Go's checks does.
-/

namespace KDoctor.GoTime

/-! ## The calendar -/

/-- `isLeap`. -/
def isLeap (year : Int) : Bool := year % 4 == 0 && (year % 100 != 0 || year % 400 == 0)

/-- `daysIn`: the days of a month (`1` to `12`) of a year. -/
def daysIn (month : Nat) (year : Int) : Nat :=
  if month = 2 then (if isLeap year then 29 else 28)
  else if month = 4 ∨ month = 6 ∨ month = 9 ∨ month = 11 then 30
  else 31

/-- The days from 1970-01-01 to a date of the proleptic Gregorian calendar,
counted in eras of 400 years from 0000-03-01. -/
def daysFromCivil (year : Int) (month day : Nat) : Int :=
  let y := if month ≤ 2 then year - 1 else year
  let era := y / 400
  let yoe := y - era * 400
  let mp : Int := (month + 9) % 12
  let doy := (153 * mp + 2) / 5 + day - 1
  let doe := yoe * 365 + yoe / 4 - yoe / 100 + doy
  era * 146097 + doe - 719468

example : daysFromCivil 1970 1 1 = 0 := by decide

example : daysFromCivil 2000 3 1 = 11017 := by decide

/-- A `Time` as its location shows it: a valid date and clock, the
nanoseconds, and the location's offset from UTC in seconds. -/
structure Civil where
  year : Int
  month : Nat
  day : Nat
  hour : Nat
  minute : Nat
  second : Nat
  nanosecond : Nat
  offset : Int
  month_mem : 1 ≤ month ∧ month ≤ 12
  day_mem : 1 ≤ day ∧ day ≤ daysIn month year
  hour_lt : hour < 24
  minute_lt : minute < 60
  second_lt : second < 60
  nanosecond_lt : nanosecond < 1000000000

/-- An instant: seconds since the Unix epoch, and nanoseconds. -/
structure Instant where
  sec : Int
  nsec : Nat
  deriving DecidableEq, Repr

/-- The instant of a date and clock shown at an offset from UTC
(`Date(..., UTC)` moved by the offset). -/
def instantOf (year : Int) (month day hour minute second nanosecond : Nat) (offset : Int) : Instant :=
  ⟨daysFromCivil year month day * 86400 + hour * 3600 + minute * 60 + second - offset, nanosecond⟩

/-- The instant of a `Time`. -/
def Civil.instant (t : Civil) : Instant :=
  instantOf t.year t.month t.day t.hour t.minute t.second t.nanosecond t.offset

/-- `Truncate(time.Second)`: the instant without its nanoseconds. -/
def Instant.truncateSecond (i : Instant) : Instant := ⟨i.sec, 0⟩

/-! ## Decimal digits -/

/-- The character of a decimal digit. -/
def digitChar (d : Nat) : Char := Char.ofNat (48 + d)

/-- The last `width` decimal digits of `n`, with leading zeros. -/
def fixedDigits : Nat → Nat → List Char
  | 0, _ => []
  | width + 1, n => fixedDigits width (n / 10) ++ [digitChar (n % 10)]

/-- `appendInt`: the decimal form of `x`, with leading zeros up to `width`
digits. -/
def appendInt (x : Int) (width : Nat) : List Char :=
  (if x < 0 then ['-'] else []) ++
    (if x.natAbs < 10 ^ width then fixedDigits width x.natAbs else Nat.toDigits 10 x.natAbs)

/-- The number that decimal digits write, or `none` at a character that is
not a digit. -/
def uintValue? (cs : List Char) : Option Nat :=
  cs.foldl (fun acc c => acc.bind fun x => if c.isDigit then some (x * 10 + (c.toNat - 48)) else none)
    (some 0)

/-- `parseUint` on the next `width` characters: a number from `min` to `max`,
and the text after it. -/
def readUint (width min max : Nat) (cs : List Char) : Option (Nat × List Char) := do
  let x ← uintValue? (cs.take width)
  if width ≤ cs.length ∧ min ≤ x ∧ x ≤ max then some (x, cs.drop width) else none

/-- The separator `c` next. -/
def expect (c : Char) : List Char → Option (List Char)
  | d :: rest => if d = c then some rest else none
  | [] => none

/-! ## `Format` and `Parse` with `RFC3339` -/

/-- The zone of `appendFormatRFC3339`: `Z` at offset zero, and otherwise the
offset in whole minutes, cut towards zero, as a sign and `hh:mm`. -/
def zoneRFC3339 (offset : Int) : List Char :=
  if offset = 0 then ['Z']
  else
    let zone := offset.tdiv 60
    (if zone < 0 then '-' else '+') :: (appendInt (zone.natAbs / 60 : Nat) 2 ++
      ':' :: appendInt (zone.natAbs % 60 : Nat) 2)

/-- `t.Format(time.RFC3339)`. -/
def formatRFC3339 (t : Civil) : String :=
  String.ofList (appendInt t.year 4 ++ '-' :: appendInt t.month 2 ++ '-' :: appendInt t.day 2 ++
    'T' :: appendInt t.hour 2 ++ ':' :: appendInt t.minute 2 ++ ':' :: appendInt t.second 2 ++
    zoneRFC3339 t.offset)

/-- The fractional second of `parseRFC3339`: after `.` and a digit, the
digits, of which `parseNanoseconds` reads the first nine. -/
def readFraction (cs : List Char) : Nat × List Char :=
  match cs with
  | '.' :: d :: rest =>
    if d.isDigit then
      let digits := ((d :: rest).takeWhile Char.isDigit).take 9
      ((uintValue? digits).getD 0 * 10 ^ (9 - digits.length), (d :: rest).dropWhile Char.isDigit)
    else (0, cs)
  | _ => (0, cs)

/-- The time zone of `parseRFC3339`: `Z`, or six characters, a sign and
`hh:mm`; the offset in seconds. -/
def readZone (cs : List Char) : Option Int :=
  if cs = ['Z'] then some 0
  else if cs.length ≠ 6 then none
  else do
    let sign ← cs.head?
    let (hr, rest) ← readUint 2 0 23 (cs.drop 1)
    let rest ← expect ':' rest
    let (mm, _) ← readUint 2 0 59 rest
    if sign = '+' then some ((hr * 60 + mm) * 60)
    else if sign = '-' then some (-((hr * 60 + mm) * 60))
    else none

/-- `parseRFC3339`: the instant a text shows, or `none`. -/
def parseRFC3339 (s : String) : Option Instant := do
  let (year, cs) ← readUint 4 0 9999 s.toList
  let cs ← expect '-' cs
  let (month, cs) ← readUint 2 1 12 cs
  let cs ← expect '-' cs
  let (day, cs) ← readUint 2 1 (daysIn month year) cs
  let cs ← expect 'T' cs
  let (hour, cs) ← readUint 2 0 23 cs
  let cs ← expect ':' cs
  let (min, cs) ← readUint 2 0 59 cs
  let cs ← expect ':' cs
  let (sec, cs) ← readUint 2 0 59 cs
  let (nsec, cs) := readFraction cs
  let zoneOffset ← readZone cs
  some (instantOf year month day hour min sec nsec zoneOffset)

/-! ## Reading back what `Format` writes -/

theorem digitChar_spec : ∀ d, d < 10 → (digitChar d).isDigit = true ∧ (digitChar d).toNat - 48 = d := by
  decide

@[simp] theorem length_fixedDigits (width n : Nat) : (fixedDigits width n).length = width := by
  induction width generalizing n with
  | zero => rfl
  | succ width ih => simp [fixedDigits, ih]

theorem uintValue?_append_digit (cs : List Char) {d : Nat} (hd : d < 10) :
    uintValue? (cs ++ [digitChar d]) = (uintValue? cs).map (· * 10 + d) := by
  obtain ⟨hdig, hval⟩ := digitChar_spec d hd
  simp only [uintValue?, List.foldl_append, List.foldl_cons, List.foldl_nil, hdig, if_true, hval]
  cases List.foldl _ (some 0) cs <;> rfl

/-- Fixed-width digits read back as the number they were cut from, by
induction on the width, one digit at a time. -/
theorem uintValue?_fixedDigits (width n : Nat) :
    uintValue? (fixedDigits width n) = some (n % 10 ^ width) := by
  induction width generalizing n with
  | zero => simp [fixedDigits, uintValue?, Nat.mod_one]
  | succ width ih =>
    rw [fixedDigits, uintValue?_append_digit _ (Nat.mod_lt _ (by decide)), ih, Option.map_some,
      Nat.pow_succ, Nat.mul_comm (10 ^ width) 10, Nat.mod_mul]
    congr 1
    omega

theorem readUint_fixedDigits {width min max n : Nat} (hn : n < 10 ^ width) (hmin : min ≤ n)
    (hmax : n ≤ max) (rest : List Char) :
    readUint width min max (fixedDigits width n ++ rest) = some (n, rest) := by
  have hlen := length_fixedDigits width n
  simp [readUint, List.take_left' hlen, List.drop_left' hlen, uintValue?_fixedDigits,
    Nat.mod_eq_of_lt hn, hmin, hmax]

theorem appendInt_natCast {n width : Nat} (h : n < 10 ^ width) :
    appendInt n width = fixedDigits width n := by
  simp [appendInt, h]

theorem expect_cons (c : Char) (rest : List Char) : expect c (c :: rest) = some rest := by
  simp [expect]

/-- A zone `Format` writes reads back as the offset cut to whole minutes. -/
theorem readZone_zoneRFC3339 {offset : Int} (h : offset.natAbs < 86400) :
    readZone (zoneRFC3339 offset) = some (60 * offset.tdiv 60) := by
  by_cases h0 : offset = 0
  · simp [zoneRFC3339, readZone, h0]
  · -- the offset in whole minutes, written as hours and minutes
    simp only [zoneRFC3339, h0, if_false]
    generalize hzone : offset.tdiv 60 = zone
    have habs : zone.natAbs = offset.natAbs / 60 := by
      rw [← hzone, Int.natAbs_tdiv]
      rfl
    have hhr : zone.natAbs / 60 < 24 := by omega
    have hmm : zone.natAbs % 60 < 60 := Nat.mod_lt _ (by decide)
    have hread := @readUint_fixedDigits 2 0 23 (zone.natAbs / 60) (by omega) (Nat.zero_le _)
      (by omega) (':' :: fixedDigits 2 (zone.natAbs % 60))
    have hread' := @readUint_fixedDigits 2 0 59 (zone.natAbs % 60) (by omega) (Nat.zero_le _)
      (by omega) []
    rw [List.append_nil] at hread'
    rw [appendInt_natCast (by omega : zone.natAbs / 60 < 10 ^ 2),
      appendInt_natCast (by omega : zone.natAbs % 60 < 10 ^ 2)]
    -- the digits are of the magnitude, named so that no cast lemma rewrites it
    by_cases hneg : zone < 0
    · have hz : (zone.natAbs : Int) = -zone := Int.ofNat_natAbs_of_nonpos (by omega)
      generalize zone.natAbs = n at hread hread' hz ⊢
      simp [readZone, hneg, hread, hread', expect_cons]
      omega
    · have hz : (zone.natAbs : Int) = zone := Int.natAbs_of_nonneg (by omega)
      generalize zone.natAbs = n at hread hread' hz ⊢
      simp [readZone, hneg, hread, hread', expect_cons]
      omega

theorem readFraction_cons {c : Char} (hc : c ≠ '.') (rest : List Char) :
    readFraction (c :: rest) = (0, c :: rest) := by
  unfold readFraction
  split
  · rename_i d rest' heq
    simp only [List.cons.injEq] at heq
    exact absurd heq.1 hc
  · rfl

/-- A zone starts with `Z` or a sign, so no fraction is read before it. -/
theorem readFraction_zoneRFC3339 (offset : Int) :
    readFraction (zoneRFC3339 offset) = (0, zoneRFC3339 offset) := by
  unfold zoneRFC3339
  split
  · rfl
  · exact readFraction_cons (by split <;> decide) _

/-- What `Format` writes with `RFC3339`, `Parse` reads back as the same date
and clock, without the nanoseconds, at the offset cut to whole minutes: for a
year of four digits and an offset of less than a day. -/
theorem parseRFC3339_formatRFC3339 (t : Civil) (hyear : 0 ≤ t.year ∧ t.year ≤ 9999)
    (hoff : t.offset.natAbs < 86400) :
    parseRFC3339 (formatRFC3339 t) =
      some (instantOf t.year t.month t.day t.hour t.minute t.second 0 (60 * t.offset.tdiv 60)) := by
  obtain ⟨y, hy⟩ : ∃ y : Nat, t.year = y := ⟨t.year.toNat, (Int.toNat_of_nonneg hyear.1).symm⟩
  have hy4 : y < 10 ^ 4 := by omega
  have hday : t.day ≤ daysIn t.month y := hy ▸ t.day_mem.2
  have hdays : daysIn t.month y ≤ 31 := by unfold daysIn; split_ifs <;> omega
  have hmonth := t.month_mem
  have hdaypos := t.day_mem.1
  have hhour := t.hour_lt
  have hminute := t.minute_lt
  have hsecond := t.second_lt
  -- every field is written with its digits only
  have hfields : appendInt t.year 4 = fixedDigits 4 y ∧ appendInt t.month 2 = fixedDigits 2 t.month ∧
      appendInt t.day 2 = fixedDigits 2 t.day ∧ appendInt t.hour 2 = fixedDigits 2 t.hour ∧
      appendInt t.minute 2 = fixedDigits 2 t.minute ∧ appendInt t.second 2 = fixedDigits 2 t.second := by
    refine ⟨hy ▸ appendInt_natCast hy4, appendInt_natCast ?_, appendInt_natCast ?_,
      appendInt_natCast ?_, appendInt_natCast ?_, appendInt_natCast ?_⟩ <;> omega
  obtain ⟨h1, h2, h3, h4, h5, h6⟩ := hfields
  have hchars : (formatRFC3339 t).toList = fixedDigits 4 y ++ '-' :: (fixedDigits 2 t.month ++
      '-' :: (fixedDigits 2 t.day ++ 'T' :: (fixedDigits 2 t.hour ++ ':' :: (fixedDigits 2 t.minute ++
      ':' :: (fixedDigits 2 t.second ++ zoneRFC3339 t.offset))))) := by
    simp only [formatRFC3339, String.toList_ofList, h1, h2, h3, h4, h5, h6, List.append_assoc,
      List.cons_append]
  rw [parseRFC3339, hchars]
  -- read the fields one by one: each number, then its separator
  dsimp only [Option.bind_eq_bind]
  rw [readUint_fixedDigits hy4 (Nat.zero_le _) (by omega)]
  dsimp only [Option.bind_some]
  rw [expect_cons]
  dsimp only [Option.bind_some]
  rw [readUint_fixedDigits (by omega) hmonth.1 hmonth.2]
  dsimp only [Option.bind_some]
  rw [expect_cons]
  dsimp only [Option.bind_some]
  rw [readUint_fixedDigits (by omega) hdaypos hday]
  dsimp only [Option.bind_some]
  rw [expect_cons]
  dsimp only [Option.bind_some]
  rw [readUint_fixedDigits (by omega) (Nat.zero_le _) (by omega)]
  dsimp only [Option.bind_some]
  rw [expect_cons]
  dsimp only [Option.bind_some]
  rw [readUint_fixedDigits (by omega) (Nat.zero_le _) (by omega)]
  dsimp only [Option.bind_some]
  rw [expect_cons]
  dsimp only [Option.bind_some]
  rw [readUint_fixedDigits (by omega) (Nat.zero_le _) (by omega)]
  simp only [Option.bind_some, readFraction_zoneRFC3339, readZone_zoneRFC3339 hoff, hy]

/-- At an offset of whole minutes, `Parse` reads back the instant of the
time without its nanoseconds. -/
theorem parseRFC3339_formatRFC3339_of_dvd (t : Civil) (hyear : 0 ≤ t.year ∧ t.year ≤ 9999)
    (hoff : t.offset.natAbs < 86400) (hdvd : 60 ∣ t.offset) :
    parseRFC3339 (formatRFC3339 t) = some t.instant.truncateSecond := by
  rw [parseRFC3339_formatRFC3339 t hyear hoff, Int.mul_tdiv_cancel' hdvd]
  rfl

/-! ## The characters `Format` writes -/

theorem isDigit_of_mem_fixedDigits {c : Char} {width n : Nat} (h : c ∈ fixedDigits width n) :
    c.isDigit = true := by
  induction width generalizing n with
  | zero => cases h
  | succ width ih =>
    rw [fixedDigits, List.mem_append, List.mem_singleton] at h
    rcases h with h | rfl
    · exact ih h
    · exact (digitChar_spec _ (Nat.mod_lt _ (by decide))).1

theorem isDigit_of_mem_appendInt {c : Char} {x : Int} {width : Nat} (h : c ∈ appendInt x width) :
    c = '-' ∨ c.isDigit = true := by
  unfold appendInt at h
  rw [List.mem_append] at h
  rcases h with h | h
  · split at h
    · exact Or.inl (List.mem_singleton.mp h)
    · cases h
  · split at h
    · exact Or.inr (isDigit_of_mem_fixedDigits h)
    · exact Or.inr (Nat.isDigit_of_mem_toDigits (by decide) (by decide) h)

/-- A time written with `RFC3339` has digits, `-`, `T`, `:`, `Z` and `+`
only. -/
theorem mem_formatRFC3339 {t : Civil} {c : Char} (h : c ∈ (formatRFC3339 t).toList) :
    c.isDigit = true ∨ c = '-' ∨ c = 'T' ∨ c = ':' ∨ c = 'Z' ∨ c = '+' := by
  have happend : ∀ {x : Int} {width : Nat}, c ∈ appendInt x width →
      c.isDigit = true ∨ c = '-' ∨ c = 'T' ∨ c = ':' ∨ c = 'Z' ∨ c = '+' := fun h' =>
    (isDigit_of_mem_appendInt h').elim (fun h => Or.inr (Or.inl h)) Or.inl
  simp only [formatRFC3339, String.toList_ofList, List.mem_append, List.mem_cons, or_assoc] at h
  -- the six fields, the five separators, and the zone
  rcases h with h | h | h | h | h | h | h | h | h | h | h | h <;>
    first | exact happend h | (subst h; decide) | skip
  unfold zoneRFC3339 at h
  split at h
  · simp only [List.mem_singleton] at h
    subst h
    decide
  · simp only [List.mem_cons, List.mem_append] at h
    rcases h with h | h | h | h
    · subst h
      split <;> decide
    · exact happend h
    · subst h
      decide
    · exact happend h

/-- A time written with `RFC3339` has no `_`. -/
theorem underscore_not_mem_formatRFC3339 (t : Civil) : '_' ∉ (formatRFC3339 t).toList := fun h => by
  rcases mem_formatRFC3339 h with h | h | h | h | h | h <;> revert h <;> decide

/-- A time written with `RFC3339` has no `/`. -/
theorem slash_not_mem_formatRFC3339 (t : Civil) : '/' ∉ (formatRFC3339 t).toList := fun h => by
  rcases mem_formatRFC3339 h with h | h | h | h | h | h <;> revert h <;> decide

end KDoctor.GoTime
