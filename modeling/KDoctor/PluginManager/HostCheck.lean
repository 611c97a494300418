import KDoctor.PluginManager.Webhook

/-!
The host check of an AppHttpHealthy task as the API server runs it: the
mutating webhook puts `http://` in front of a host with no `http` in it, and
the validating webhook runs `ValidataAppHttpHealthyHost` on what it leaves.

The check reads the host through `url.Parse` and `Hostname`, and for an IPv6
hostname reads the host itself on both sides of the first place where the
hostname stands in it. What it accepts as IPv6 does stand between `[` and `]`
and passes `To16`, and a plain domain name gets the scheme `http` and is
accepted with its name as the hostname. But the hostname is decoded while
the host is not: an IPv6 host with a zone (`%25`) has a hostname that is not
in the host, and the check reads the host at `-2`, a run-time panic; a host
that has the hostname again after its query is read past its end. And a host
that contains `http` without being a URL, such as `httpbin.org`, gets no
scheme and is accepted, though it parses with no scheme and no hostname.
-/

namespace KDoctor.PluginManager

open Go

/-! ## Reading a string at an index -/

theorem eq_take_append_of_getElem? {α : Type} {l : List α} {n : Nat} {c : α} (h : l[n]? = some c) :
    l = l.take n ++ c :: l.drop (n + 1) := by
  obtain ⟨hlt, hc⟩ := List.getElem?_eq_some_iff.mp h
  rw [← hc, ← List.drop_eq_getElem_cons hlt, List.take_append_drop]

theorem charAt_eq_ok {s : String} {i : Int} {c : Char} (h : charAt s i = .ok c) :
    ∃ n : Nat, i = n ∧ s.toList[n]? = some c := by
  unfold charAt at h
  split_ifs at h with hi
  cases h
  refine ⟨i.toNat, by omega, ?_⟩
  rw [List.getD_eq_getElem?_getD, List.getElem?_eq_getElem (by omega)]
  rfl

/-! ## The verdict, branch by branch -/

section Verdict

variable {quote : String → String} {to4 to16 : String → Bool} {name host : String} {u : GoUrl.URL}

/-- A hostname with no `.` and no `:` is accepted. -/
theorem validataAppHttpHealthyHost_of_find_none (hp : GoUrl.parse host = .ok u)
    (hn : u.hostname.toList.find? (fun c => c = '.' || c = ':') = none) :
    validataAppHttpHealthyHost quote to4 to16 name host = .accepted := by
  rw [validataAppHttpHealthyHost, hp]
  dsimp only
  rw [hn]

/-- A domain name without a port, its first separator a `.`, is accepted. -/
theorem validataAppHttpHealthyHost_of_domain (hp : GoUrl.parse host = .ok u)
    (hc : u.hostname.toList.find? (fun c => c = '.' || c = ':') = some '.')
    (hcolon : contains u.hostname ":" = false) (hm : domainRegexMatch u.hostname = true) :
    validataAppHttpHealthyHost quote to4 to16 name host = .accepted := by
  rw [validataAppHttpHealthyHost, hp]
  dsimp only
  rw [hc]
  dsimp only
  rw [if_pos rfl]
  simp [hcolon, hm]

/-- An IPv6 hostname whose first place in the host has nothing before it in
range: the read before it panics. -/
theorem validataAppHttpHealthyHost_before_error (hp : GoUrl.parse host = .ok u)
    (hc : u.hostname.toList.find? (fun c => c = '.' || c = ':') = some ':') {i : Int} {n : Nat}
    (hb : charAt host (index host u.hostname - 1) = .error (i, n)) :
    validataAppHttpHealthyHost quote to4 to16 name host = .indexOutOfRange i n := by
  rw [validataAppHttpHealthyHost, hp]
  dsimp only
  rw [hc]
  dsimp only
  rw [if_neg (by decide), hb]

/-- An IPv6 hostname after a `[` whose end is the end of the host: the read
after it panics. -/
theorem validataAppHttpHealthyHost_after_error (hp : GoUrl.parse host = .ok u)
    (hc : u.hostname.toList.find? (fun c => c = '.' || c = ':') = some ':') {i : Int} {n : Nat}
    (hb : charAt host (index host u.hostname - 1) = .ok '[')
    (ha : charAt host (index host u.hostname + u.hostname.toList.length) = .error (i, n)) :
    validataAppHttpHealthyHost quote to4 to16 name host = .indexOutOfRange i n := by
  rw [validataAppHttpHealthyHost, hp]
  dsimp only
  rw [hc]
  dsimp only
  rw [if_neg (by decide), hb]
  dsimp only
  rw [if_neg (by decide), ha]

/-- An IPv6 hostname is accepted only with a `[` before its first place in
the host, a `]` after it, and `To16` of it. -/
theorem validataAppHttpHealthyHost_accepted_of_colon (hp : GoUrl.parse host = .ok u)
    (hc : u.hostname.toList.find? (fun c => c = '.' || c = ':') = some ':')
    (h : validataAppHttpHealthyHost quote to4 to16 name host = .accepted) :
    charAt host (index host u.hostname - 1) = .ok '[' ∧
      charAt host (index host u.hostname + u.hostname.toList.length) = .ok ']' ∧
      to16 u.hostname = true := by
  rw [validataAppHttpHealthyHost, hp] at h
  dsimp only at h
  rw [hc] at h
  dsimp only at h
  rw [if_neg (by decide)] at h
  -- both reads succeed with their brackets, or the verdict is no accept
  cases hb : charAt host (index host u.hostname - 1) with
  | error e =>
    obtain ⟨i, n⟩ := e
    rw [hb] at h
    cases h
  | ok before =>
    rw [hb] at h
    dsimp only at h
    by_cases hbr : before = '['
    · subst hbr
      rw [if_neg (by decide)] at h
      cases ha : charAt host (index host u.hostname + u.hostname.toList.length) with
      | error e =>
        obtain ⟨i, n⟩ := e
        rw [ha] at h
        cases h
      | ok after =>
        rw [ha] at h
        dsimp only at h
        by_cases har : after = ']'
        · subst har
          rw [if_neg (by decide)] at h
          cases h16 : to16 u.hostname
          · rw [h16] at h
            cases h
          · exact ⟨rfl, rfl, rfl⟩
        · rw [if_pos har] at h
          cases h
    · rw [if_pos hbr] at h
      cases h

end Verdict

/-! ## What it accepts as IPv6 -/

/-- A hostname the check takes for an IPv6 address and accepts stands in
the host between `[` and `]`, and is an IP address to `To16`. -/
theorem ipv6_host_bracketed (quote : String → String) (to4 to16 : String → Bool)
    (name host : String) {u : GoUrl.URL} (hp : GoUrl.parse host = .ok u)
    (hc : u.hostname.toList.find? (fun c => c = '.' || c = ':') = some ':')
    (h : validataAppHttpHealthyHost quote to4 to16 name host = .accepted) :
    to16 u.hostname = true ∧
      ∃ pre post, host.toList = pre ++ '[' :: u.hostname.toList ++ ']' :: post := by
  obtain ⟨hbefore, hafter, h16⟩ := validataAppHttpHealthyHost_accepted_of_colon hp hc h
  obtain ⟨n, hn, hopen⟩ := charAt_eq_ok hbefore
  obtain ⟨m, hm, hclose⟩ := charAt_eq_ok hafter
  -- `strings.Index` found the hostname right after the `[`
  have hk : 0 ≤ index host u.hostname := by omega
  have hkn : (index host u.hostname).toNat = n + 1 := by omega
  obtain ⟨rest, hrest⟩ := prefix_drop_indexChars hk
  change u.hostname.toList ++ rest = host.toList.drop (index host u.hostname).toNat at hrest
  rw [hkn] at hrest
  -- and the `]` is the first character after it
  have hrest0 : rest[0]? = some ']' := by
    have hm' : m = n + 1 + u.hostname.toList.length := by omega
    rw [hm', ← List.getElem?_drop, ← hrest, List.getElem?_append_right (by omega)] at hclose
    simpa using hclose
  obtain ⟨post, rfl⟩ : ∃ post, rest = ']' :: post := by
    cases rest with
    | nil => cases hrest0
    | cons a post =>
      cases hrest0
      exact ⟨post, rfl⟩
  refine ⟨h16, host.toList.take n, post, ?_⟩
  calc host.toList = host.toList.take n ++ '[' :: host.toList.drop (n + 1) :=
        eq_take_append_of_getElem? hopen
    _ = host.toList.take n ++ '[' :: u.hostname.toList ++ ']' :: post := by
        rw [← hrest]
        simp

theorem ipv6_host_bracketed_loopback :
    (fun _ => true : String → Bool) "::1" = true ∧
      ∃ pre post, "http://[::1]:80".toList = pre ++ '[' :: "::1".toList ++ ']' :: post :=
  ipv6_host_bracketed id (fun _ => true) (fun _ => true) "v6" "http://[::1]:80"
    (u := ⟨"http", "[::1]:80"⟩) (by decide +kernel) (by decide +kernel) (by decide +kernel)

/-! ## Domain names -/

/-- A name the domain pattern matches has a `.`, and each of its characters
is a letter, a digit, `-`, `_` or `.`. -/
theorem domainRegexMatch_unreserved {s : String} (h : domainRegexMatch s = true) :
    '.' ∈ s.toList ∧ ∀ c ∈ s.toList, c.isAlphanum = true ∨ c ∈ ['-', '.', '_', '~'] := by
  unfold domainRegexMatch at h
  split at h
  · rename_i last field fields hsplit
    simp only [Bool.and_eq_true, List.all_eq_true] at h
    obtain ⟨⟨hfields, -⟩, hlast⟩ := h
    refine ⟨?_, fun c hc => ?_⟩
    · -- with no `.` there is one field only
      by_contra hdot
      rw [splitChars_of_not_mem hdot] at hsplit
      simp at hsplit
    · have hfield : c = '.' ∨ ∃ piece ∈ splitChars '.' s.toList, c ∈ piece := mem_splitChars hc
      rcases hfield with rfl | ⟨piece, hpiece, hcp⟩
      · simp
      have hpiece' : piece ∈ last :: field :: fields := by
        rw [← hsplit]
        exact List.mem_reverse.mpr hpiece
      rcases List.mem_cons.mp hpiece' with rfl | hpiece'
      · -- the last field is of letters
        have hl : c.isAlpha = true := hlast c hcp
        left
        change (c.isAlpha || c.isDigit) = true
        simp [hl]
      · have hlabel : isLabelChar c = true := (hfields piece hpiece').2 c hcp
        unfold isLabelChar at hlabel
        simp only [Bool.or_eq_true, decide_eq_true_eq] at hlabel
        rcases hlabel with (h | rfl) | rfl
        · exact Or.inl h
        · simp
        · simp
  · cases h

/-- The loop over a hostname with a `.` and no `:` stops at a `.`. -/
theorem find?_sep_eq_dot {l : List Char} (hdot : '.' ∈ l) (hcolon : ':' ∉ l) :
    l.find? (fun c => c = '.' || c = ':') = some '.' := by
  induction l with
  | nil => cases hdot
  | cons c l ih =>
    by_cases hc : c = '.'
    · subst hc
      simp
    · have hc' : c ≠ ':' := fun h => hcolon (h ▸ List.mem_cons_self)
      rw [List.find?_cons_of_neg (by simp [hc, hc'])]
      exact ih ((List.mem_cons.mp hdot).resolve_left (Ne.symm hc))
        fun h => hcolon (List.mem_cons_of_mem c h)

/-! ## After the mutating webhook -/

/-- The host the validating webhook of AppHttpHealthy checks: that of the
target of what the mutating webhook made of the task. -/
def mutatedHost (cfg : Configmap) (r : Task AppHttpHealthyTarget) : Except String (Option String) :=
  (appHttpHealthyWebhookMutating cfg r).map fun r' => r'.spec.target.map (·.host)

theorem mutatedHost_eq {cfg : Configmap} {r : Task AppHttpHealthyTarget} {t : AppHttpHealthyTarget}
    (hdel : r.deletionTimestamp = none) (ht : r.spec.target = some t) :
    mutatedHost cfg r = .ok (some (if contains t.host "http" then t.host else "http://" ++ t.host)) := by
  have hok : ∃ r', appHttpHealthyWebhookMutating cfg r = .ok r' := by
    unfold appHttpHealthyWebhookMutating
    simp only [hdel, ht, Option.isSome_none, Bool.false_eq_true, if_false]
    exact ⟨_, rfl⟩
  obtain ⟨r', hr'⟩ := hok
  obtain ⟨t', ht', rfl⟩ := appHttpHealthyWebhookMutating_eq_ok hdel hr'
  rw [ht] at ht'
  cases ht'
  rw [mutatedHost, hr']
  rfl

/-- An AppHttpHealthy task `app` being created, with the host `host` and no
TLS secret. -/
def appTask (host : String) : Task AppHttpHealthyTarget :=
  ⟨"app", none, ⟨none, none, some ⟨host, none, none⟩, none, none⟩⟩

/-- The check after the mutating webhook is not total and not sound. An IPv6
host with a zone makes it read the host at `-2`; with the hostname again
after the query, it reads the host at its length. The empty host becomes
`http://`, and `httpbin.org` keeps no scheme; both are accepted, though the
first has no hostname and the second no scheme and no hostname. -/
theorem appHttpHealthyHost_check_unsound (cfg : Configmap) (quote : String → String)
    (to4 to16 : String → Bool) (r : Task AppHttpHealthyTarget) (t : AppHttpHealthyTarget)
    (hdel : r.deletionTimestamp = none) (ht : r.spec.target = some t) :
    (t.host = "[fe80::1%25en0]:8080" →
      mutatedHost cfg r = .ok (some "http://[fe80::1%25en0]:8080") ∧
      validataAppHttpHealthyHost quote to4 to16 r.name "http://[fe80::1%25en0]:8080" =
        .indexOutOfRange (-2) 27) ∧
    (t.host = "[fe80::1%25en0]?[fe80::1%en0" →
      mutatedHost cfg r = .ok (some "http://[fe80::1%25en0]?[fe80::1%en0") ∧
      validataAppHttpHealthyHost quote to4 to16 r.name "http://[fe80::1%25en0]?[fe80::1%en0" =
        .indexOutOfRange 35 35) ∧
    (t.host = "" →
      mutatedHost cfg r = .ok (some "http://") ∧
      validataAppHttpHealthyHost quote to4 to16 r.name "http://" = .accepted ∧
      GoUrl.parse "http://" = .ok ⟨"http", ""⟩) ∧
    (t.host = "httpbin.org" →
      mutatedHost cfg r = .ok (some "httpbin.org") ∧
      validataAppHttpHealthyHost quote to4 to16 r.name "httpbin.org" = .accepted ∧
      GoUrl.parse "httpbin.org" = .ok ⟨"", ""⟩) := by
  have hmut : mutatedHost cfg r = _ := mutatedHost_eq hdel ht
  refine ⟨fun h => ⟨?_, ?_⟩, fun h => ⟨?_, ?_⟩, fun h => ⟨?_, ?_, by decide +kernel⟩,
    fun h => ⟨?_, ?_, by decide +kernel⟩⟩
  · -- the zone: the hostname `fe80::1%en0` is nowhere in the host
    rw [hmut, h, if_neg (by decide +kernel)]
    rfl
  · exact validataAppHttpHealthyHost_before_error (u := ⟨"http", "[fe80::1%en0]:8080"⟩)
      (by decide +kernel) (by decide +kernel) (by decide +kernel)
  · -- the query: the hostname is found after it, at the end of the host
    rw [hmut, h, if_neg (by decide +kernel)]
    rfl
  · exact validataAppHttpHealthyHost_after_error (u := ⟨"http", "[fe80::1%en0]"⟩)
      (by decide +kernel) (by decide +kernel) (by decide +kernel) (by decide +kernel)
  · rw [hmut, h, if_neg (by decide +kernel)]
    rfl
  · exact validataAppHttpHealthyHost_of_find_none (u := ⟨"http", ""⟩) (by decide +kernel) rfl
  · -- `httpbin.org` contains `http`
    rw [hmut, h, if_pos (by decide +kernel)]
  · exact validataAppHttpHealthyHost_of_find_none (u := ⟨"", ""⟩) (by decide +kernel) rfl

theorem appHttpHealthyHost_check_unsound_zone :
    mutatedHost chartConfigmap (appTask "[fe80::1%25en0]:8080") =
        .ok (some "http://[fe80::1%25en0]:8080") ∧
      validataAppHttpHealthyHost id (fun _ => true) (fun _ => true) "app" "http://[fe80::1%25en0]:8080" =
        .indexOutOfRange (-2) 27 :=
  (appHttpHealthyHost_check_unsound chartConfigmap id (fun _ => true) (fun _ => true)
    (appTask "[fe80::1%25en0]:8080") ⟨"[fe80::1%25en0]:8080", none, none⟩ rfl rfl).1 rfl

/-- A domain name without `http` in it gets the scheme `http`, is accepted,
and parses back with the scheme `http` and the name as its hostname. -/
theorem domain_host_accepted (cfg : Configmap) (quote : String → String) (to4 to16 : String → Bool)
    (r : Task AppHttpHealthyTarget) (t : AppHttpHealthyTarget)
    (hdel : r.deletionTimestamp = none) (ht : r.spec.target = some t)
    (hdom : domainRegexMatch t.host = true) (hhttp : contains t.host "http" = false) :
    mutatedHost cfg r = .ok (some ("http://" ++ t.host)) ∧
      validataAppHttpHealthyHost quote to4 to16 r.name ("http://" ++ t.host) = .accepted ∧
      GoUrl.parse ("http://" ++ t.host) = .ok ⟨"http", t.host⟩ ∧
      (⟨"http", t.host⟩ : GoUrl.URL).hostname = t.host := by
  obtain ⟨hdot, hchars⟩ := domainRegexMatch_unreserved hdom
  have hp := GoUrl.parse_http_of_unreserved hchars
  have hname := GoUrl.hostname_of_unreserved hchars "http"
  have hcolon : ':' ∉ t.host.toList := GoUrl.not_mem_of_unreserved hchars (by simp)
  have hnocolon : contains t.host ":" = false := by
    cases hcon : contains t.host ":" with
    | false => rfl
    | true => exact absurd ((containsChars_iff.mp hcon).subset (by decide)) hcolon
  refine ⟨?_, ?_, hp, hname⟩
  · rw [mutatedHost_eq hdel ht, hhttp]
    rfl
  · apply validataAppHttpHealthyHost_of_domain hp <;> rw [hname]
    · exact find?_sep_eq_dot hdot hcolon
    · exact hnocolon
    · exact hdom

theorem domain_host_accepted_example :
    mutatedHost chartConfigmap (appTask "example.com") = .ok (some ("http://" ++ "example.com")) ∧
      validataAppHttpHealthyHost id (fun _ => false) (fun _ => false) "app" ("http://" ++ "example.com") =
        .accepted ∧
      GoUrl.parse ("http://" ++ "example.com") = .ok ⟨"http", "example.com"⟩ ∧
      (⟨"http", "example.com"⟩ : GoUrl.URL).hostname = "example.com" := by
  have hdom : domainRegexMatch "example.com" = true := by decide +kernel
  have hhttp : contains "example.com" "http" = false := by decide +kernel
  exact domain_host_accepted chartConfigmap id (fun _ => false) (fun _ => false) (appTask "example.com")
    ⟨"example.com", none, none⟩ rfl rfl hdom hhttp

end KDoctor.PluginManager
