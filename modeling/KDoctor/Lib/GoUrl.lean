import KDoctor.Lib.Go

/-!
Go's `net/url` of Go 1.20, as far as `url.Parse` and `URL.Hostname` go.
`Parse` cuts off the fragment, reads the scheme, drops the query, reads the
authority (the user information and the host, an IP-literal in brackets with
its zone after `%25`, or a name with a port) and checks the escapes of the
path and of the fragment. `Hostname` takes a valid port and the brackets off
the host.

Go reads a string byte by byte; the model reads its characters, which are
its bytes for ASCII text, and an escape `%xy` decodes to the character of
its byte. Errors are values, as in Go; their texts (`Error()`) take
`strconv.Quote` as a parameter. Of the URL only the scheme and the host are
kept: the user information, the path, the query and the fragment are read
for their errors only.
-/

namespace KDoctor.GoUrl

open Go

/-- A `URL`: its scheme and its host. -/
structure URL where
  scheme : String
  host : String
  deriving DecidableEq, Repr

/-- The modes of `unescape` that `Parse` uses. -/
inductive Encoding where
  | path | host | zone | userPassword | fragment
  deriving DecidableEq, Repr

/-- The errors `Parse` wraps: `errors.New`, `EscapeError`,
`InvalidHostError`, and the port error of `parseHost`. -/
inductive UrlError where
  | message (text : String)
  | escape (s : List Char)
  | invalidHost (c : Char)
  | invalidPort (colonPort : List Char)
  deriving DecidableEq, Repr

/-- `Error()` of an error, with `strconv.Quote` as `quote`. -/
def UrlError.text (quote : String → String) : UrlError → String
  | .message text => text
  | .escape s => "invalid URL escape " ++ quote (String.ofList s)
  | .invalidHost c => "invalid character " ++ quote (String.ofList [c]) ++ " in host name"
  | .invalidPort colonPort => "invalid port " ++ quote (String.ofList colonPort) ++ " after host"

/-- `url.Error`: the operation, the URL and the error. -/
structure Error where
  op : String
  url : String
  err : UrlError
  deriving DecidableEq, Repr

/-- `Error()` of a `url.Error`: `%s %q: %s`. -/
def Error.text (quote : String → String) (e : Error) : String :=
  e.op ++ " " ++ quote e.url ++ ": " ++ e.err.text quote

/-! ## Escapes -/

def ishex (c : Char) : Bool :=
  decide ('0' ≤ c ∧ c ≤ '9') || decide ('a' ≤ c ∧ c ≤ 'f') || decide ('A' ≤ c ∧ c ≤ 'F')

def unhex (c : Char) : Nat :=
  if '0' ≤ c ∧ c ≤ '9' then c.toNat - '0'.toNat
  else if 'a' ≤ c ∧ c ≤ 'f' then c.toNat - 'a'.toNat + 10
  else if 'A' ≤ c ∧ c ≤ 'F' then c.toNat - 'A'.toNat + 10
  else 0

/-- The sub-delimiters a host may hold, with `:`, `[`, `]`, `<`, `>` and `"`. -/
def hostSubDelims : List Char :=
  ['!', '$', '&', Char.ofNat 39, '(', ')', '*', '+', ',', ';', '=', ':', '[', ']', '<', '>',
    Char.ofNat 34]

/-- `shouldEscape` in the modes `encodeHost` and `encodeZone`: all but the
letters, the digits, `hostSubDelims` and the marks `-`, `_`, `.`, `~`. -/
def shouldEscapeHost (c : Char) : Bool :=
  !(c.isAlphanum || hostSubDelims.contains c || ['-', '_', '.', '~'].contains c)

/-- The first loop of `unescape`: every `%` starts an escape of two hex
digits that the mode allows, and a host or a zone has no ASCII character
that must be escaped. -/
def unescapeCheck (mode : Encoding) : List Char → Except UrlError Unit
  | [] => .ok ()
  | c :: rest =>
    if c = '%' then
      match rest with
      | a :: b :: rest' =>
        if !(ishex a && ishex b) then .error (.escape ['%', a, b])
        -- a host escapes only `%` itself and the bytes from 0x80 on
        else if mode = .host ∧ unhex a < 8 ∧ [a, b] ≠ ['2', '5'] then
          .error (.escape ['%', a, b])
        -- a zone escapes only what a host may hold, and the space
        else if mode = .zone ∧ [a, b] ≠ ['2', '5'] ∧ unhex a * 16 + unhex b ≠ 32 ∧
            shouldEscapeHost (Char.ofNat (unhex a * 16 + unhex b)) = true then
          .error (.escape ['%', a, b])
        else unescapeCheck mode rest'
      | _ => .error (.escape (c :: rest))
    else if (mode = .host ∨ mode = .zone) ∧ c.toNat < 128 ∧ shouldEscapeHost c = true then
      .error (.invalidHost c)
    else unescapeCheck mode rest

/-- The second loop of `unescape`: each escape becomes the character of its
byte. -/
def unescapeDecode : List Char → List Char
  | '%' :: a :: b :: rest => Char.ofNat (unhex a * 16 + unhex b) :: unescapeDecode rest
  | c :: rest => c :: unescapeDecode rest
  | [] => []

/-- `unescape`. With no `%`, Go returns the text itself, which is what the
decoding loop gives. -/
def unescape (s : List Char) (mode : Encoding) : Except UrlError (List Char) := do
  unescapeCheck mode s
  pure (unescapeDecode s)

/-! ## `Parse` -/

/-- The loop of `getScheme`; `scheme` is what it has read. -/
def getSchemeLoop (rawURL : List Char) : List Char → List Char → Except UrlError (List Char × List Char)
  | _, [] => .ok ([], rawURL)
  | scheme, c :: rest =>
    if c.isAlpha then getSchemeLoop rawURL (scheme ++ [c]) rest
    else if c.isDigit || c = '+' || c = '-' || c = '.' then
      if scheme = [] then .ok ([], rawURL) else getSchemeLoop rawURL (scheme ++ [c]) rest
    else if c = ':' then
      if scheme = [] then .error (.message "missing protocol scheme") else .ok (scheme, rest)
    else .ok ([], rawURL)

/-- `getScheme`: the scheme before the first `:` and the text after it, or
no scheme when a character that cannot be in one comes first. -/
def getScheme (rawURL : List Char) : Except UrlError (List Char × List Char) :=
  getSchemeLoop rawURL [] rawURL

def validOptionalPort : List Char → Bool
  | [] => true
  | c :: rest => c = ':' && rest.all Char.isDigit

def validUserinfo (s : List Char) : Bool :=
  s.all fun r => r.isAlphanum ||
    ['-', '.', '_', ':', '~', '!', '$', '&', Char.ofNat 39, '(', ')', '*', '+', ',', ';', '=', '%',
      '@'].contains r

/-- `parseHost`: an IP-literal in brackets, whose zone follows `%25`, with an
optional port, or a name with an optional port after its last `:`. -/
def parseHost (host : List Char) : Except UrlError (List Char) :=
  if host.take 1 = ['['] then
    let i := lastIndexChar ']' host
    if i < 0 then .error (.message "missing ']' in host")
    else
      let colonPort := host.drop (i.toNat + 1)
      if !validOptionalPort colonPort then
        .error (.invalidPort colonPort)
      else
        let zone := indexChars ['%', '2', '5'] (host.take i.toNat)
        if 0 ≤ zone then do
          let host1 ← unescape (host.take zone.toNat) .host
          let host2 ← unescape ((host.take i.toNat).drop zone.toNat) .zone
          let host3 ← unescape (host.drop i.toNat) .host
          pure (host1 ++ host2 ++ host3)
        else unescape host .host
  else
    let i := lastIndexChar ':' host
    if 0 ≤ i ∧ !validOptionalPort (host.drop i.toNat) then
      .error (.invalidPort (host.drop i.toNat))
    else unescape host .host

/-- `parseAuthority`: the host after the last `@`, and the user information
before it checked. -/
def parseAuthority (authority : List Char) : Except UrlError (List Char) := do
  let i := lastIndexChar '@' authority
  let host ← parseHost (if i < 0 then authority else authority.drop (i.toNat + 1))
  if i < 0 then pure host
  else
    let userinfo := authority.take i.toNat
    if !validUserinfo userinfo then throw (.message "net/url: invalid userinfo")
    else if ':' ∉ userinfo then do
      let _ ← unescape userinfo .userPassword
      pure host
    else do
      let _ ← unescape (userinfo.takeWhile (· ≠ ':')) .userPassword
      let _ ← unescape ((userinfo.dropWhile (· ≠ ':')).drop 1) .userPassword
      pure host

/-- The unexported `parse` of a URL without its fragment, not of a request. -/
def parseRaw (rawURL : List Char) : Except UrlError URL :=
  if rawURL.any fun b => b.toNat < 32 || b.toNat = 127 then
    .error (.message "net/url: invalid control character in URL")
  else if rawURL = ['*'] then .ok ⟨"", ""⟩
  else do
    let (scheme, rest) ← getScheme rawURL
    let scheme := String.ofList (scheme.map Char.toLower)
    -- both branches drop the query
    let rest := if rest.getLast? = some '?' ∧ rest.count '?' = 1 then rest.dropLast
      else rest.takeWhile (· ≠ '?')
    if rest.take 1 ≠ ['/'] ∧ scheme ≠ "" then
      -- a rootless path is opaque
      pure ⟨scheme, ""⟩
    else if rest.take 1 ≠ ['/'] ∧ ':' ∈ rest.takeWhile (· ≠ '/') then
      throw (.message "first path segment in URL cannot contain colon")
    else
      let (host, rest) ← if (scheme ≠ "" ∨ rest.take 3 ≠ ['/', '/', '/']) ∧ rest.take 2 = ['/', '/'] then
          let authority := rest.drop 2
          let i := indexChars ['/'] authority
          let (authority, rest) := if 0 ≤ i then (authority.take i.toNat, authority.drop i.toNat)
            else (authority, [])
          (fun host => (host, rest)) <$> parseAuthority authority
        else pure ([], rest)
      -- `setPath`
      let _ ← unescape rest .path
      pure ⟨scheme, String.ofList host⟩

/-- `url.Parse`. -/
def parse (rawURL : String) : Except Error URL :=
  let u := rawURL.toList.takeWhile (· ≠ '#')
  let frag := (rawURL.toList.dropWhile (· ≠ '#')).drop 1
  match parseRaw u with
  | .error err => .error ⟨"parse", String.ofList u, err⟩
  | .ok url =>
    if frag = [] then .ok url
    else
      -- `setFragment`
      match unescape frag .fragment with
      | .error err => .error ⟨"parse", rawURL, err⟩
      | .ok _ => .ok url

/-! ## `Hostname` -/

/-- `splitHostPort`: the host without a valid port after its last `:`, and
without the brackets around it. -/
def splitHostPort (hostPort : List Char) : List Char × List Char :=
  let colon := lastIndexChar ':' hostPort
  let (host, port) := if 0 ≤ colon ∧ validOptionalPort (hostPort.drop colon.toNat) then
      (hostPort.take colon.toNat, hostPort.drop (colon.toNat + 1))
    else (hostPort, [])
  let host := if host.take 1 = ['['] ∧ host.getLast? = some ']' then (host.drop 1).dropLast else host
  (host, port)

/-- `URL.Hostname`. -/
def URL.hostname (u : URL) : String := String.ofList (splitHostPort u.host.toList).1

/-! ## Plain hosts

A host of unreserved characters only (letters, digits, `-`, `.`, `_`, `~`)
goes through `Parse` and `Hostname` as it is. -/

section Plain

theorem toNat_of_isAlphanum {c : Char} (h : c.isAlphanum = true) : 48 ≤ c.toNat ∧ c.toNat ≤ 122 := by
  change (c.isUpper || c.isLower || c.isDigit) = true at h
  have hA : 'A'.val.toNat = 65 := rfl
  have hZ : 'Z'.val.toNat = 90 := rfl
  have ha : 'a'.val.toNat = 97 := rfl
  have hz : 'z'.val.toNat = 122 := rfl
  have h0 : '0'.toNat = 48 := rfl
  have h9 : '9'.toNat = 57 := rfl
  have hc : c.val.toNat = c.toNat := rfl
  simp only [Bool.or_eq_true] at h
  rcases h with (h | h) | h
  · change (decide (c.val ≥ 'A'.val ∧ c.val ≤ 'Z'.val)) = true at h
    simp only [decide_eq_true_eq, ge_iff_le, UInt32.le_iff_toNat_le] at h
    omega
  · change (decide (c.val ≥ 'a'.val) && decide (c.val ≤ 'z'.val)) = true at h
    simp only [Bool.and_eq_true, decide_eq_true_eq, ge_iff_le, UInt32.le_iff_toNat_le] at h
    omega
  · have := Char.isDigit_iff_toNat.mp h
    omega

/-- What `Parse` reads of an unreserved character: it is no control
character, it ends no part of a URL, and a host holds it unescaped. -/
theorem unreserved_plain {c : Char} (h : c.isAlphanum = true ∨ c ∈ ['-', '.', '_', '~']) :
    ¬(c.toNat < 32 ∨ c.toNat = 127) ∧ c ∉ ['%', '/', '?', '#', '@', ':', '['] ∧
      shouldEscapeHost c = false := by
  refine ⟨?_, ?_, ?_⟩
  · rcases h with h | h
    · have := toNat_of_isAlphanum h
      omega
    · simp only [List.mem_cons, List.not_mem_nil, or_false] at h
      rcases h with rfl | rfl | rfl | rfl <;> decide
  · -- none of these is a letter, a digit or a mark
    intro hmem
    simp only [List.mem_cons, List.not_mem_nil, or_false] at hmem
    rcases hmem with rfl | rfl | rfl | rfl | rfl | rfl | rfl <;> revert h <;> decide
  · unfold shouldEscapeHost
    rcases h with h | h
    · simp [h]
    · simp only [List.mem_cons, List.not_mem_nil, or_false] at h
      rcases h with rfl | rfl | rfl | rfl <;> decide

theorem unescapeDecode_of_not_mem {d : List Char} (h : '%' ∉ d) : unescapeDecode d = d := by
  induction d with
  | nil => rfl
  | cons c d ih =>
    have hc : c ≠ '%' := fun hc => h (hc ▸ List.mem_cons_self)
    rw [unescapeDecode.eq_2 c d fun _ _ _ h' _ => hc h', ih fun hd => h (List.mem_cons_of_mem c hd)]

section Chars

variable {d : List Char} (hd : ∀ c ∈ d, c.isAlphanum = true ∨ c ∈ ['-', '.', '_', '~'])
include hd

theorem unescapeCheck_of_unreserved (mode : Encoding) : unescapeCheck mode d = .ok () := by
  induction d with
  | nil => rfl
  | cons c d ih =>
    obtain ⟨-, hsep, hesc⟩ := unreserved_plain (hd c List.mem_cons_self)
    have hc : c ≠ '%' := fun h => hsep (h ▸ List.mem_cons_self)
    rw [unescapeCheck.eq_def]
    dsimp only
    rw [if_neg hc, if_neg (by simp [hesc])]
    exact ih fun c' hc' => hd c' (List.mem_cons_of_mem c hc')

theorem not_mem_of_unreserved {c : Char} (hc : c ∈ ['%', '/', '?', '#', '@', ':', '[']) : c ∉ d :=
  fun h => (unreserved_plain (hd c h)).2.1 hc

theorem unescape_of_unreserved (mode : Encoding) : unescape d mode = .ok d := by
  rw [unescape, unescapeCheck_of_unreserved hd mode,
    unescapeDecode_of_not_mem (not_mem_of_unreserved hd (by simp))]
  rfl

/-- A plain host does not start with `[`. -/
theorem take_one_ne_of_unreserved :
    d.take 1 ≠ ['['] := by
  cases d with
  | nil => simp
  | cons c d =>
    intro h1
    have hc : c = '[' := by simpa using h1
    exact not_mem_of_unreserved hd (c := '[') (by simp) (hc ▸ List.mem_cons_self)

theorem parseHost_of_unreserved :
    parseHost d = .ok d := by
  have hcolon : lastIndexChar ':' d = -1 := lastIndexChar_of_not_mem (not_mem_of_unreserved hd (by simp))
  rw [parseHost, if_neg (take_one_ne_of_unreserved hd)]
  dsimp only
  rw [hcolon, if_neg fun h => absurd h.1 (by decide), unescape_of_unreserved hd .host]

theorem parseAuthority_of_unreserved :
    parseAuthority d = .ok d := by
  have hat : lastIndexChar '@' d = -1 := lastIndexChar_of_not_mem (not_mem_of_unreserved hd (by simp))
  rw [parseAuthority]
  dsimp only
  rw [hat, if_pos (by decide), parseHost_of_unreserved hd]
  rfl

/-- `Parse` of `http://` and a plain host: the scheme `http` and the host. -/
theorem parseRaw_http_of_unreserved :
    parseRaw ("http://".toList ++ d) = .ok ⟨"http", String.ofList d⟩ := by
  have hhttp : ∀ c ∈ "http://".toList, ¬(c.toNat < 32 ∨ c.toNat = 127) := by
    have hall : "http://".toList.all (fun c => decide ¬(c.toNat < 32 ∨ c.toNat = 127)) = true := by decide
    exact fun c hc => of_decide_eq_true (List.all_eq_true.mp hall c hc)
  have hplain : ∀ c ∈ "http://".toList ++ d, ¬(c.toNat < 32 ∨ c.toNat = 127) := by
    intro c hc
    rcases List.mem_append.mp hc with hc | hc
    · exact hhttp c hc
    · exact (unreserved_plain (hd c hc)).1
  have hctl : ("http://".toList ++ d).any (fun b => b.toNat < 32 || b.toNat = 127) = false := by
    simpa [List.any_eq_false] using hplain
  have hscheme : getScheme ("http://".toList ++ d) = .ok (['h', 't', 't', 'p'], '/' :: '/' :: d) := rfl
  have hq : ('?' : Char) ∉ d := not_mem_of_unreserved hd (by simp)
  -- the query is dropped: there is none
  have hquery : ('/' :: '/' :: d).takeWhile (· ≠ '?') = '/' :: '/' :: d :=
    List.takeWhile_eq_self_iff.mpr fun c hc => by
      rcases List.mem_cons.mp hc with rfl | hc
      · decide
      rcases List.mem_cons.mp hc with rfl | hc
      · decide
      simpa using fun h : c = '?' => hq (h ▸ hc)
  have hslash : indexChars ['/'] d = -1 := indexChars_singleton_of_not_mem (not_mem_of_unreserved hd (by simp))
  have hnoq : ¬(('/' :: '/' :: d).getLast? = some '?' ∧ ('/' :: '/' :: d).count '?' = 1) :=
    fun h => hq (by simpa using List.mem_of_getLast? h.1)
  have hhttp : String.ofList (List.map Char.toLower ['h', 't', 't', 'p']) = "http" := by decide
  rw [parseRaw, if_neg (by rw [hctl]; exact Bool.false_ne_true), if_neg (by simp), hscheme]
  dsimp only [bind, Except.bind]
  rw [if_neg hnoq, hquery, hhttp]
  simp only [List.take_succ_cons, List.take_zero, ne_eq, not_true_eq_false, false_and, if_false,
    List.drop_succ_cons, List.drop_zero, hslash]
  -- the authority is all of the host, and no path follows
  rw [if_pos ⟨Or.inl (by decide), trivial⟩, if_neg (by decide), parseAuthority_of_unreserved hd]
  rfl

theorem splitHostPort_of_unreserved :
    splitHostPort d = (d, []) := by
  have hcolon : lastIndexChar ':' d = -1 := lastIndexChar_of_not_mem (not_mem_of_unreserved hd (by simp))
  have hneg : ¬((0 : Int) ≤ -1) := by decide
  simp only [splitHostPort, hcolon, hneg, false_and, if_false]
  rw [if_neg fun h => take_one_ne_of_unreserved hd h.1]

end Chars

section Text

variable {s : String} (hd : ∀ c ∈ s.toList, c.isAlphanum = true ∨ c ∈ ['-', '.', '_', '~'])
include hd

/-- `Parse` of `http://` and a plain host: the scheme `http`, and the host,
which is its own hostname. -/
theorem parse_http_of_unreserved :
    parse ("http://" ++ s) = .ok ⟨"http", s⟩ := by
  have hhttp : ∀ c ∈ "http://".toList, c ≠ '#' := by
    have hall : "http://".toList.all (fun c => decide (c ≠ '#')) = true := by decide
    exact fun c hc => of_decide_eq_true (List.all_eq_true.mp hall c hc)
  have hall : ∀ c ∈ ("http://" ++ s).toList, c ≠ '#' := by
    intro c hc
    rw [String.toList_append] at hc
    rcases List.mem_append.mp hc with hc | hc
    · exact hhttp c hc
    · exact fun h => not_mem_of_unreserved hd (c := '#') (by simp) (h ▸ hc)
  -- no fragment to cut
  have hu : ("http://" ++ s).toList.takeWhile (· ≠ '#') = "http://".toList ++ s.toList := by
    rw [List.takeWhile_eq_self_iff.mpr (by simpa using hall), String.toList_append]
  have hfrag : ("http://" ++ s).toList.dropWhile (· ≠ '#') = [] :=
    List.dropWhile_eq_nil_iff.mpr (by simpa using hall)
  rw [parse, hu, hfrag, parseRaw_http_of_unreserved hd, String.ofList_toList]
  rfl

theorem hostname_of_unreserved (scheme : String) :
    (⟨scheme, s⟩ : URL).hostname = s := by
  rw [URL.hostname, splitHostPort_of_unreserved hd, String.ofList_toList]

end Text

end Plain

end KDoctor.GoUrl
