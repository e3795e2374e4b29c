import UrlFilter.Proofs.Rule.Domain
import UrlFilter.Proofs.RuleSet.Rebuilding
import UrlFilter.Proofs.Url.Plain

/-!
# How the host of a URL has to be spelled

A query is checked by parsing it, and rules look at its text as it is written.  The two agree on
where the host is for every URL that is written plainly, and for every other that shows the host
where the anchor of domains looks for it.  A rule for a name blocks these URLs, and no others
(`RuleSet.shouldBlock_domainPattern`).

*Names.*  A name that the parser prints may hold signs of patterns.  A star stands for itself among
others, and a dollar sign starts options, so that the rule is about what stands in front of it.  In
both cases a URL that shows the name is accepted (`Rule.accepts_of_shows`).

*Spellings.*  A text shows the host if it is written directly behind the scheme and its two slashes,
in whatever case (`Pattern.shows_of_written`).  A URL that names a user in front of the host does
not show it, and is not blocked.
-/

namespace UrlFilter

/-! ## Rules for names -/

namespace Rule

open Pattern

/-- A line with the anchor of domains in front of its pattern is a rule that matches what the
pattern accepts. -/
theorem accepts_iff_of_parse {line body source : Text} {options : List Text} {rule : Rule}
    (hparse : RuleLine.parse line = .ok ⟨.blocking, '|' :: '|' :: body, options, source⟩)
    (hrule : compile line = .ok rule) :
    rule.kind = .blocking ∧ ∀ u, rule.accepts u = true ↔ Accepts ('|' :: '|' :: body) u := by
  rw [compile, hparse] at hrule
  simp only [compileLine, RuleKind.isMatchable, if_true, compilePattern_anchored] at hrule
  by_cases hbars : body.all (· == '|') = true
  · rw [if_pos hbars] at hrule
    cases hrule
  · rw [if_neg hbars] at hrule
    cases hmatcher : Matcher.ofPattern ('|' :: '|' :: body) with
    | error fault =>
        rw [hmatcher] at hrule
        cases hrule
    | ok m =>
        rw [hmatcher] at hrule
        obtain rfl := Except.ok.inj hrule
        obtain ⟨-, rfl⟩ := Matcher.ofPattern_eq_ok_iff.mp hmatcher
        exact ⟨rfl, fun u => isMatch_regexes_iff⟩

/-- A name with a dollar sign is a rule for what stands in front of the last one. -/
theorem parse_domainPattern_of_dollar {a b : Text} (hhash : '#' ∉ a ++ '$' :: b) (hb : '$' ∉ b)
    (hlast : ∀ c, a.getLast? = some c → Text.isBlank c = false) :
    RuleLine.parse (domainPattern (a ++ '$' :: b)) =
      .ok ⟨.blocking, '|' :: '|' :: a, RuleLine.splitOptions (b ++ ['^']),
        domainPattern (a ++ '$' :: b)⟩ := by
  have hbody : domainPattern (a ++ '$' :: b) =
      ('|' :: '|' :: a) ++ ([] ++ '$' :: (b ++ ['^'])) := by
    simp [domainPattern]
  refine reads_domainPattern hhash (.atDollar (not_isClosed_domainPattern _) ?_ hbody ?_
    Text.blank_nil ?_ (RuleLine.isOptions_iff.mpr rfl)) (List.cons_ne_nil _ _)
  · rintro ⟨-, hhead, -⟩
    exact absurd (Option.some.inj hhead) (by decide)
  · simp [hb]
  · intro c hc
    cases ha : a.getLast? with
    | none =>
        rw [List.getLast?_eq_none_iff] at ha
        rw [ha] at hc
        obtain rfl := Option.some.inj hc
        decide
    | some d =>
        have hcons : ('|' :: '|' :: a).getLast? = a.getLast? := by
          simp [List.getLast?_cons, ha]
        rw [hcons] at hc
        exact hlast c hc

/-- What the rule for a name matches.  Every text that shows the name is matched, and no other if
the name holds no sign. -/
theorem accepts_of_shows {d : Text} (hd : ∀ c ∈ d, Url.Host.isNameChar c = true) {rule : Rule}
    (hrule : compile (domainPattern d) = .ok rule) :
    rule.kind = .blocking ∧ (∀ u, Shows d u → rule.accepts u = true) ∧
      ('*' ∉ d → '$' ∉ d → ∀ u, rule.accepts u = true ↔ Shows d u) := by
  have hfree : ∀ c, Url.Host.isNameChar c = false → c ∉ d := by
    intro c hc hmem
    rw [hd c hmem] at hc
    cases hc
  have hhash : '#' ∉ d := hfree '#' (by decide)
  have hsign : '^' ∉ d := hfree '^' (by decide)
  have hbar : '|' ∉ d := hfree '|' (by decide)
  cases hdollar : Text.splitAtLast '$' d with
  | none =>
      rw [Text.splitAtLast_eq_none_iff] at hdollar
      obtain ⟨hkind, haccepts⟩ := accepts_iff_of_parse (parse_domainPattern hhash hdollar) hrule
      refine ⟨hkind, fun u h => (haccepts u).mpr (Pattern.accepts_of_shows hsign h),
        fun hstar _ u => (haccepts u).trans (accepts_anchored_iff fun c hc =>
          Token.ofChar_eq_char (ne_of_mem_of_not_mem hc hstar) (ne_of_mem_of_not_mem hc hsign))⟩
  | some cut =>
      obtain ⟨a, b⟩ := cut
      obtain ⟨rfl, hb⟩ := Text.splitAtLast_eq_some_iff.mp hdollar
      have hlast : ∀ c, a.getLast? = some c → Text.isBlank c = false := by
        intro c hc
        have hmem := List.mem_append_left ('$' :: b) (List.mem_of_getLast? hc)
        exact Url.Host.isBlank_of_isNameChar (hd c hmem)
      obtain ⟨hkind, haccepts⟩ :=
        accepts_iff_of_parse (parse_domainPattern_of_dollar hhash hb hlast) hrule
      refine ⟨hkind, fun u h => (haccepts u).mpr (accepts_anchored_of_shows ?_ ?_ h),
        fun _ hno => absurd (List.mem_append_right a List.mem_cons_self) hno⟩
      · exact fun hmem => hsign (List.mem_append_left _ hmem)
      · exact fun hmem => hbar (List.mem_append_left _ hmem)

end Rule

/-! ## Spellings -/

namespace Pattern

/-- A host that is equal to a name up to case is within what the name ends in. -/
theorem isWithin_of_eqIgnoringAsciiCase {h name d : Text}
    (hname : name = d ∨ ∃ sub, name = sub ++ '.' :: d)
    (heq : Text.eqIgnoringAsciiCase h name = true) : IsWithin h d := by
  rcases hname with rfl | ⟨sub, rfl⟩
  · exact .inl heq
  · rw [Text.eqIgnoringAsciiCase, beq_iff_eq, List.map_append, List.map_cons] at heq
    obtain ⟨front, back, rfl, -, hback⟩ := List.map_eq_append_iff.mp heq
    obtain ⟨dot, tail, rfl, hdot, htail⟩ := List.map_eq_cons_iff.mp hback
    obtain rfl := (Text.keeps_asciiLower (c := '.') (by decide) dot).mp hdot
    exact .inr ⟨front, tail, rfl, beq_iff_eq.mpr htail⟩

theorem isNameChar_of_eqIgnoringAsciiCase {h name : Text}
    (hname : ∀ c ∈ name, Url.Host.isNameChar c = true)
    (heq : Text.eqIgnoringAsciiCase h name = true) : ∀ c ∈ h, Url.Host.isNameChar c = true := by
  intro c hc
  have hmem := List.mem_map_of_mem (f := Text.asciiLower) hc
  rw [Text.eqIgnoringAsciiCase_iff.mp heq] at hmem
  obtain ⟨c', hc', hlower⟩ := List.mem_map.mp hmem
  rw [← Url.Host.isNameChar_asciiLower, ← hlower, Url.Host.isNameChar_asciiLower]
  exact hname c' hc'

/-- A text shows a domain if the printed name of its host, which is within the domain, is written
directly behind a scheme and two slashes. -/
theorem shows_of_written {s h r d name : Text} (hs : s ≠ []) (hscheme : ∀ c ∈ s, c ∉ hostEnds)
    (hchars : ∀ c ∈ name, Url.Host.isNameChar c = true)
    (hname : name = d ∨ ∃ sub, name = sub ++ '.' :: d)
    (heq : Text.eqIgnoringAsciiCase h name = true) (hr : OpensWithSeparator r) :
    Shows d (s ++ ("://".toList ++ (h ++ r))) := by
  have hends : hostEnds ⊆ ':' :: Url.authorityStops := by decide
  have hhost : ∀ c ∈ h, c.toNat < 128 ∧ c ∉ hostEnds := by
    intro c hc
    have hnameChar := isNameChar_of_eqIgnoringAsciiCase hchars heq c hc
    refine ⟨Url.Host.lt_of_isNameChar hnameChar, fun hend => ?_⟩
    exact Url.Host.not_mem_stops hnameChar (hends hend)
  have hd : ∀ c ∈ d, c.toNat < 128 := by
    intro c hc
    refine Url.Host.lt_of_isNameChar (hchars c ?_)
    rcases hname with rfl | ⟨sub, rfl⟩
    · exact hc
    · exact List.mem_append_right sub (List.mem_cons_of_mem '.' hc)
  exact shows_of_isWithin hs hscheme hhost hd (isWithin_of_eqIgnoringAsciiCase hname heq) hr

/-- A URL that is written plainly shows the domains that its host is within. -/
theorem shows_plain (a : Url.PlainUrl) {d : Text} (hname : a.host.map Text.asciiLower = d ∨
    ∃ sub, a.host.map Text.asciiLower = sub ++ '.' :: d) : Shows d a.text := by
  have hends : hostEnds ⊆ ':' :: Url.authorityStops := by decide
  have hsigns : ∀ c ∈ ':' :: Url.restSigns, isSeparator c = true :=
    List.all_eq_true.mp (by decide)
  refine shows_of_written a.scheme_ne_nil (fun c hc hend => ?_) (fun c hc => ?_) hname
    (Text.eqIgnoringAsciiCase_map a.host) (fun c hc => ?_)
  · have halpha := Url.Host.isNameChar_of_isAlpha (a.isAlpha_of_mem_scheme hc)
    exact Url.Host.not_mem_stops halpha (hends hend)
  · obtain ⟨c', hc', rfl⟩ := List.mem_map.mp hc
    rw [Url.Host.isNameChar_asciiLower]
    exact (a.isNameChar_of_mem c' hc').1
  · rcases a.port_eq with hport | ⟨digits, hport, -⟩
    · rw [hport] at hc
      exact hsigns c (List.mem_cons_of_mem ':' (a.mem_of_rest_head c hc))
    · rw [hport] at hc
      obtain rfl := Option.some.inj hc
      exact hsigns ':' List.mem_cons_self

end Pattern

/-! ## Verdicts -/

namespace RuleSet

open Pattern

/-- A rule set with a single rule, which blocks, says what the rule says. -/
theorem Tracks.shouldBlock_single {s : RuleSet} {rule : Rule} (h : Tracks [rule] s)
    (hkind : rule.kind = .blocking) {url u : Text} (hurl : Url.trimQuery url = .ok u) :
    (s.shouldBlock url).1 = .ok (rule.accepts u) := by
  rw [shouldBlock_eq, (h.query url).1, queryRules, hurl, blocks_eq]
  refine congrArg Except.ok ?_
  rw [Bool.eq_iff_iff, beq_iff_eq, firstMatch_blocks_iff]
  simp [hkind]

/-- A rule set with the rule for a name, asked about a URL whose host is the name or below it.

The rule blocks the URL if the text shows the name, and otherwise lets it through, unless the name
holds a sign of patterns.  The text shows the name if the host is written directly behind the scheme
and two slashes, as it is printed up to case, with a separator or nothing behind it.  This is so in
every URL that is written plainly. -/
theorem shouldBlock_domainPattern {d source scheme : Text} {host : Url.Host}
    (hsource : Url.parse source = .ok ⟨scheme, some host⟩) (hd : host.registeredName? = some d)
    {rule : Rule} (hrule : Rule.compile (domainPattern d) = .ok rule) (cacheSize : Nat)
    (ops : List Op) (hrules : ((empty cacheSize).run ops).2.rules = [rule])
    {u uScheme : Text} {uHost : Url.Host} (hu : Url.parse u.trim = .ok ⟨uScheme, some uHost⟩)
    (hwithin : uHost.EndsIn d) :
    let verdict := (((empty cacheSize).run ops).2.shouldBlock u).1
    (Shows d u.trim → verdict = .ok true) ∧
      ('*' ∉ d → '$' ∉ d → ¬ Shows d u.trim → verdict = .ok false) ∧
      (∀ s h r name, uHost.printed? = some name → u.trim = s ++ ("://".toList ++ (h ++ r)) →
        s ≠ [] → (∀ c ∈ s, c ∉ hostEnds) → Text.eqIgnoringAsciiCase h name = true →
        OpensWithSeparator r → verdict = .ok true) ∧
      ∀ (a : Url.PlainUrl) (name : Text), u.trim = a.text → uHost = .domain name →
        verdict = .ok true := by
  intro verdict
  have hchars : ∀ c ∈ d, Url.Host.isNameChar c = true :=
    Url.isNameChar_of_parse hsource (Url.Host.printed?_of_registeredName? hd)
  obtain ⟨hkind, hshown, hunshown⟩ := Rule.accepts_of_shows hchars hrule
  have htracks : Tracks [rule] ((empty cacheSize).run ops).2 := by
    rw [← hrules]
    exact ((tracks_empty cacheSize).run ops).2.rules
  have hurl : Url.trimQuery u = .ok u.trim := by
    rw [Url.trimQuery, hu]
    rfl
  have hverdict : verdict = .ok (rule.accepts u.trim) := htracks.shouldBlock_single hkind hurl
  have hblocks : Shows d u.trim → verdict = .ok true := by
    intro hshows
    rw [hverdict, hshown _ hshows]
  refine ⟨hblocks, fun hstar hdollar hshows => ?_,
    fun s h r name hname hwritten hs hscheme heq hr => hblocks ?_,
    fun a name hplain hdomain => hblocks ?_⟩
  · rw [hverdict, Bool.eq_false_iff.mpr fun haccepts =>
      hshows ((hunshown hstar hdollar u.trim).mp haccepts)]
  · obtain ⟨name', hname', hends⟩ := hwithin
    obtain rfl := Option.some.inj (hname.symm.trans hname')
    rw [hwritten]
    exact shows_of_written hs hscheme (Url.isNameChar_of_parse hu hname) hends heq hr
  · obtain ⟨name', hname', hends⟩ := hwithin
    rw [hdomain] at hname'
    obtain rfl := Option.some.inj hname'
    rw [hplain, hdomain] at hu
    rw [a.host_of_parse hu] at hends
    rw [hplain]
    exact shows_plain a hends

/-- A rule set of one line holds the rule of the line. -/
theorem rules_run_line (cacheSize : Nat) {line : Text} {rule : Rule}
    (h : Rule.compile line = .ok rule) :
    ((empty cacheSize).run [.addRules [line]]).2.rules = [rule] := by
  have hadded : [Op.addRules [line]].flatMap Op.added = [rule] := by
    rw [flatMap_added_eq_filterMap]
    simp [Op.lines, Rule.ofLine?_eq_some_iff.mpr h]
  rw [rules_run, hadded, evaluationOrder]
  cases hexception : rule.isException with
  | true => simp [hexception]
  | false => simp [hexception]

/-- A domain. -/
def adsDomain : Text := "ads.example.com".toList

theorem compile_adsDomain :
    Rule.compile (domainPattern adsDomain) = .ok (Rule.ofDomain adsDomain) := by
  have hchars : ∀ c ∈ adsDomain, isHostChar c = true := List.all_eq_true.mp (by decide)
  rw [Rule.compile_domainPattern hchars, if_pos (fits_domainPattern hchars (by decide))]

theorem parse_adsDomain :
    Url.parse "http://ads.example.com".toList = .ok ⟨"http".toList, some (.domain adsDomain)⟩ := by
  decide +kernel

/-- A URL below the domain that is written plainly, in another case and with a port. -/
def adsUrl : Url.PlainUrl where
  scheme := "HTTPS".toList
  host := "cdn.ADS.example.com".toList
  port := ":8080".toList
  rest := "\\x?u=http://x.org/".toList
  scheme_mem := by decide
  host_ne_nil := List.cons_ne_nil _ _
  isNameChar_of_mem := fun c hc => by
    simpa using List.all_eq_true.mp (by decide :
      ("cdn.ADS.example.com".toList.all fun c => Url.Host.isNameChar c && c != '%') = true) c hc
  not_punycode := by decide
  port_eq := .inr ⟨"8080".toList, rfl, List.all_eq_true.mp (by decide)⟩
  mem_of_rest_head := by
    intro c hc
    obtain rfl := Option.some.inj hc
    decide

/-- The rule for the domain blocks it. -/
theorem shouldBlock_adsUrl :
    ∃ rule, Rule.compile (domainPattern adsDomain) = .ok rule ∧
      ((empty 0).run [.addRules [domainPattern adsDomain]]).2.rules = [rule] ∧
      (((empty 0).run [.addRules [domainPattern adsDomain]]).2.shouldBlock adsUrl.text).1 =
        .ok true := by
  have htrim : adsUrl.text.trim = adsUrl.text := by decide
  have hparse : Url.parse adsUrl.text.trim =
      .ok ⟨"https".toList, some (.domain "cdn.ads.example.com".toList)⟩ := by decide +kernel
  have hwithin : (Url.Host.domain "cdn.ads.example.com".toList).EndsIn adsDomain :=
    ⟨_, rfl, .inr ⟨"cdn".toList, rfl⟩⟩
  have hrules := rules_run_line 0 compile_adsDomain
  exact ⟨_, compile_adsDomain, hrules, (shouldBlock_domainPattern parse_adsDomain rfl
    compile_adsDomain 0 _ hrules hparse hwithin).2.2.2 adsUrl _ htrim rfl⟩

/-- A URL of the domain itself that names a user is accepted, and the rule for the domain does not
block it. -/
theorem shouldBlock_behind_user :
    let url := "http://user@ads.example.com/".toList
    '.' ∈ adsDomain ∧
      Url.parse "http://ads.example.com".toList =
        .ok ⟨"http".toList, some (.domain adsDomain)⟩ ∧
      Url.trimQuery url = .ok url ∧
      Url.parse url = .ok ⟨"http".toList, some (.domain adsDomain)⟩ ∧
      ∃ rule, Rule.compile (domainPattern adsDomain) = .ok rule ∧
        ((empty 0).run [.addRules [domainPattern adsDomain]]).2.rules = [rule] ∧
        (((empty 0).run [.addRules [domainPattern adsDomain]]).2.shouldBlock url).1 =
          .ok false := by
  intro url
  have hparse : Url.parse url = .ok ⟨"http".toList, some (.domain adsDomain)⟩ := by decide +kernel
  have hurl : Url.trimQuery url = .ok url := by decide +kernel
  have hrules := rules_run_line 0 compile_adsDomain
  have htracks : Tracks [Rule.ofDomain adsDomain]
      ((empty 0).run [.addRules [domainPattern adsDomain]]).2 := by
    rw [← hrules]
    exact ((tracks_empty 0).run _).2.rules
  refine ⟨by decide, parse_adsDomain, hurl, hparse, _, compile_adsDomain, hrules, ?_⟩
  rw [htracks.shouldBlock_single rfl hurl]
  exact congrArg Except.ok (by decide +kernel)

end RuleSet

end UrlFilter
