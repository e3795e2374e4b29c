import UrlFilter.Proofs.Pattern.Domain
import UrlFilter.Proofs.Rule.Reading
import UrlFilter.Rule

/-!
# Rules for a domain

A line that is the pattern of a domain is a blocking rule with that pattern.  It is compiled unless
the expression of the pattern is too large, which no domain of up to a thousand characters is
(`fits_domainPattern`).  The rule matches a URL exactly if the host of the URL is the domain or a
name below it (`compile_domainPattern_accepts_iff`), whatever stands in the path, the query and the
fragment.
-/

namespace UrlFilter

/-! ## Size -/

theorem Regex.sizeBound_seqOf_le (rs : List Regex) :
    (Regex.seqOf rs).sizeBound ≤ (rs.map sizeBound).sum + 32 := by
  induction rs with
  | nil => exact Nat.le_refl _
  | cons r rs ih =>
      rw [List.map_cons, List.sum_cons]
      cases rs with
      | nil => exact Nat.le_trans (Nat.le_add_right _ _) (Nat.le_add_right _ _)
      | cons s rs =>
          rw [seqOf.eq_3 _ _ (List.cons_ne_nil s rs), sizeBound]
          omega

theorem Regex.fits_of_sizeBound_le {r : Regex} (h : r.sizeBound + 1024 ≤ sizeLimit) :
    r.fits = true := by
  rw [fits, decide_eq_true h]
  rfl

namespace Pattern

theorem sizeBound_char (c : Char) : (Token.char c).regex.sizeBound = 8192 := by
  have hranges : (Regex.CharSet.folded (.single c)).rangeBound = 4 := if_pos rfl
  rw [Token.regex, Regex.sizeBound, hranges]

theorem sum_sizeBound_chars (d : Text) :
    ((d.map fun c => (Token.char c).regex).map Regex.sizeBound).sum = 8192 * d.length := by
  induction d with
  | nil => rfl
  | cons c d ih =>
      rw [List.map_cons, List.map_cons, List.sum_cons, ih, sizeBound_char, List.length_cons]
      omega

theorem regexes_domainPattern {d : Text} (hd : ∀ c ∈ d, isHostChar c = true) :
    (parts (domainPattern d)).regexes =
      Anchor.domain.regexes ++ ((d.map fun c => (Token.char c).regex) ++
        [Token.separator.regex]) := by
  have hparts : parts (domainPattern d) = ⟨.domain, d ++ ['^'], false⟩ :=
    parts_of_isCut ⟨_, .domain, .free (by simp)⟩
  have htokens : d.map Token.ofChar = d.map .char :=
    List.map_congr_left fun c hc => ofChar_of_isHostChar (hd c hc)
  rw [hparts, Parts.regexes, List.map_append, htokens, List.map_append, List.map_map]
  exact List.append_nil _

/-- The expression of a domain is not too large, unless the domain is longer than any that is in
use. -/
theorem fits_domainPattern {d : Text} (hd : ∀ c ∈ d, isHostChar c = true)
    (hlength : d.length ≤ 1000) :
    (Regex.seqOf (parts (domainPattern d)).regexes).fits = true := by
  have hanchor : (Anchor.domain.regexes.map Regex.sizeBound).sum ≤ 100000 := by decide +kernel
  have hseparator : Token.separator.regex.sizeBound ≤ 900000 := by decide +kernel
  have hsum : ((parts (domainPattern d)).regexes.map Regex.sizeBound).sum =
      (Anchor.domain.regexes.map Regex.sizeBound).sum +
        (8192 * d.length + Token.separator.regex.sizeBound) := by
    rw [regexes_domainPattern hd, List.map_append, List.map_append, List.sum_append,
      List.sum_append, sum_sizeBound_chars, List.map_singleton, List.sum_singleton]
  have hbound := Regex.sizeBound_seqOf_le (parts (domainPattern d)).regexes
  refine Regex.fits_of_sizeBound_le ?_
  rw [Regex.sizeLimit]
  omega

end Pattern

namespace Rule

open Pattern

/-! ## Compiling -/

/-- What a rule for a domain is compiled to. -/
def ofDomain (d : Text) : Rule :=
  ⟨.blocking, some (.pattern (Pattern.expression (domainPattern d))
    (Regex.seqOf (parts (domainPattern d)).regexes)), [], domainPattern d⟩

theorem trim_domainPattern (d : Text) : (domainPattern d).trim = domainPattern d := by
  refine Text.trim_eq_self (fun c hc => ?_) (fun c hc => ?_)
  · obtain rfl := Option.some.inj hc
    decide
  · rw [domainPattern, ← List.cons_append, ← List.cons_append, List.getLast?_concat] at hc
    obtain rfl := Option.some.inj hc
    decide

/-- The pattern of a domain without a number sign is read as a blocking rule. -/
theorem reads_domainPattern {d pattern : Text} {options : List Text} (hhash : '#' ∉ d)
    (hcut : RuleLine.Cut (domainPattern d) pattern options) (hpattern : pattern ≠ []) :
    RuleLine.parse (domainPattern d) = .ok ⟨.blocking, pattern, options, domainPattern d⟩ := by
  rw [RuleLine.parse_eq_ok_iff, trim_domainPattern]
  refine .rule ?_ ?_ (.blocking ?_) hcut hpattern
  · intro hcomment
    have hbar : ∀ c, some (Text.asciiLower '|') = some c → c = '|' :=
      fun c hc => (Option.some.inj hc).symm
    rcases hcomment.head with h | h
    · exact absurd (hbar _ h) (by decide)
    · exact absurd (hbar _ h) (by decide)
  · intro hseparator
    have hmem := hseparator.hash_mem
    simp [domainPattern, hhash] at hmem
  · rintro ⟨rest, hrest⟩
    exact absurd (List.head_eq_of_cons_eq hrest) (by decide)

/-- A body that starts with a bar is no expression between slashes. -/
theorem not_isClosed_domainPattern (d : Text) : ¬ RuleLine.IsClosed (domainPattern d) := by
  intro hclosed
  exact absurd (Option.some.inj hclosed.guard.1) (by decide)

theorem parse_domainPattern {d : Text} (hhash : '#' ∉ d) (hdollar : '$' ∉ d) :
    RuleLine.parse (domainPattern d) =
      .ok ⟨.blocking, domainPattern d, [], domainPattern d⟩ := by
  refine reads_domainPattern hhash (.plain (not_isClosed_domainPattern d) ?_) (List.cons_ne_nil _ _)
  simp [domainPattern, hdollar]

/-- The pattern behind an anchor of domains becomes a matcher, unless there is nothing but bars. -/
theorem compilePattern_anchored (body : Text) :
    compilePattern ('|' :: '|' :: body) =
      if body.all (· == '|') then .error .onlyAnchors
      else liftFault (Matcher.ofPattern ('|' :: '|' :: body)) := by
  have hregex : RuleLine.isRegexPattern ('|' :: '|' :: body) = false := by
    simp [RuleLine.isRegexPattern]
  have hanchors : ('|' :: '|' :: body).all (· == '|') = body.all (· == '|') := by simp
  have hsign : ('|' :: '|' :: body).any isSign = true := by
    simp [isSign]
  rw [compilePattern, if_neg (by simp), hregex, hanchors, hsign]
  rfl

theorem compilePattern_domainPattern (d : Text) :
    compilePattern (domainPattern d) = liftFault (Matcher.ofPattern (domainPattern d)) := by
  rw [domainPattern, compilePattern_anchored, if_neg (by simp)]

/-- A rule for a domain is compiled, unless it is too large. -/
theorem compile_domainPattern {d : Text} (hd : ∀ c ∈ d, isHostChar c = true) :
    compile (domainPattern d) =
      if (Regex.seqOf (parts (domainPattern d)).regexes).fits then .ok (ofDomain d)
      else .error ⟨domainPattern d, .regex (.tooLarge Regex.sizeLimit)⟩ := by
  have hfree : ∀ c, isHostChar c = false → c ∉ d := by
    intro c hc hmem
    rw [hd c hmem] at hc
    cases hc
  rw [compile, parse_domainPattern (hfree '#' (by decide)) (hfree '$' (by decide))]
  simp only [compileLine, RuleKind.isMatchable, if_true, compilePattern_domainPattern]
  cases hfits : (Regex.seqOf (parts (domainPattern d)).regexes).fits with
  | true =>
      rw [Matcher.ofPattern_eq_ok_iff.mpr ⟨hfits, rfl⟩]
      rfl
  | false =>
      rw [Matcher.ofPattern_eq_error_iff.mpr ⟨hfits, rfl⟩]
      rfl

/-! ## Matching -/

theorem ofDomain_accepts_iff {d : Text} (hd : ∀ c ∈ d, isHostChar c = true) (hdot : '.' ∈ d)
    (a : WebUrl) : (ofDomain d).accepts a.text = true ↔ IsWithin a.host d := by
  rw [← accepts_domainPattern_iff hd hdot, ← isMatch_regexes_iff]
  rfl

/-- The rule for a domain blocks a URL exactly if the host is the domain or a name below it.  There
is such a rule for every domain of up to a thousand characters, and for others unless its expression
is too large. -/
theorem compile_domainPattern_accepts_iff {d : Text} (hd : ∀ c ∈ d, isHostChar c = true)
    (hdot : '.' ∈ d) :
    (d.length ≤ 1000 → ∃ rule, compile (domainPattern d) = .ok rule) ∧
      (∀ e, compile (domainPattern d) = .error e →
        e.reason = .regex (.tooLarge Regex.sizeLimit)) ∧
      ∀ rule, compile (domainPattern d) = .ok rule → rule.kind = .blocking ∧
        ∀ a : WebUrl, rule.accepts a.text = true ↔ IsWithin a.host d := by
  rw [compile_domainPattern hd]
  split
  · refine ⟨fun _ => ⟨_, rfl⟩, fun e he => (by cases he), fun rule hrule => ?_⟩
    obtain rfl := Except.ok.inj hrule
    exact ⟨rfl, ofDomain_accepts_iff hd hdot⟩
  · next hfits =>
      refine ⟨fun hlength => ?_, fun e he => ?_, fun rule hrule => (by cases hrule)⟩
      · exact absurd (fits_domainPattern hd hlength) hfits
      · obtain rfl := Except.error.inj he
        rfl

/-- A name below the domain, in another case, with a port and without a path. -/
theorem compile_domainPattern_accepts_below :
    let d := "ads.Example.com".toList
    (∀ c ∈ d, isHostChar c = true) ∧ '.' ∈ d ∧
      ∃ rule, compile "||ads.Example.com^".toList = .ok rule ∧
        rule.accepts "HTTPS://cdn.ADS.example.com:8080?u=http://x.org/".toList = true := by
  intro d
  have hd : ∀ c ∈ d, isHostChar c = true := List.all_eq_true.mp (by decide)
  have hdot : '.' ∈ d := by decide
  obtain ⟨hcompiles, -, haccepts⟩ := compile_domainPattern_accepts_iff hd hdot
  obtain ⟨rule, hrule⟩ := hcompiles (by decide)
  let a : WebUrl :=
    { scheme := "HTTPS".toList
      host := "cdn.ADS.example.com".toList
      port := ":8080".toList
      rest := "?u=http://x.org/".toList
      scheme_eq := .inr (by decide)
      host_ne_nil := List.cons_ne_nil _ _
      isHostChar_of_mem := List.all_eq_true.mp (by decide)
      port_eq := .inr ⟨"8080".toList, rfl, List.all_eq_true.mp (by decide)⟩
      mem_of_rest_head := fun c hc => by
        obtain rfl := Option.some.inj hc
        decide }
  have hwithin : IsWithin a.host d := .inr ⟨"cdn".toList, "ADS.example.com".toList, rfl, by decide⟩
  exact ⟨hd, hdot, rule, hrule, ((haccepts rule hrule).2 a).mpr hwithin⟩

end Rule

end UrlFilter
