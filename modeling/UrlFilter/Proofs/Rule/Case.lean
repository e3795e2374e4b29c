import UrlFilter.Proofs.Pattern.Case
import UrlFilter.Proofs.Rule.Plain

/-!
# Rules disregard the case of ASCII letters

A list may be written in any case.  Two lines that differ in the case of ASCII letters become rules
that match the same texts, and so does a rule match two such texts alike, as long as the line is no
expression between slashes: there `\w` and `\W` differ
(`Rule.compile_disregards_ascii_case`).

*Lines.*  What the reader of lines looks for are signs and the header of lists, and none of them
depends on case.  So reading a line commutes with taking it to lower case
(`RuleLine.parse_map_asciiLower`), with one lemma for each step of the reader.

*Matchers.*  The pattern of the one line is the pattern of the other in lower case, so both become
substrings or both become patterns.  Two substrings have the same needle, because lower case is the
same for both.  Two patterns accept the same texts (`Pattern.accepts_congr`), and their matchers
accept what they do.
-/

namespace UrlFilter

open Text (asciiLower keeps_asciiLower keeps_asciiLower_of_all)

/-! ## Lines -/

namespace RuleLine

/-- A line that was read with the ASCII letters of its texts in lower case. -/
def lowered (read : RuleLine) : RuleLine :=
  ⟨read.kind, read.pattern.map asciiLower, read.options.map (List.map asciiLower),
    read.source.map asciiLower⟩

theorem isComment_map_asciiLower (t : Text) : isComment (t.map asciiLower) = isComment t := by
  have hmark : ((t.map asciiLower).head? == some '!') = (t.head? == some '!') := by
    rw [Bool.eq_iff_iff, beq_iff_eq, beq_iff_eq,
      Text.head?_map_of_keeps (keeps_asciiLower (by decide))]
  have hheader : isHeader (t.map asciiLower) = isHeader t := by
    rw [Bool.eq_iff_iff, isHeader, isHeader, Text.eqIgnoringAsciiCase_iff,
      Text.eqIgnoringAsciiCase_iff, ← List.map_take,
      ← Text.eqIgnoringAsciiCase_iff.mp (Text.eqIgnoringAsciiCase_map _)]
  rw [isComment, isComment, hmark, hheader]

theorem isCosmetic_map_asciiLower (t : Text) : isCosmetic (t.map asciiLower) = isCosmetic t := by
  have hkept : ∀ s ∈ cosmeticSeparators, (s.all fun c => !c.isAlpha) = true := by decide
  rw [Bool.eq_iff_iff, isCosmetic, isCosmetic, List.any_eq_true, List.any_eq_true]
  refine exists_congr fun s => and_congr_right fun hs => ?_
  rw [Text.occursIn_map (keeps_asciiLower_of_all (hkept s hs))]

theorem kindAndBody_map_asciiLower (t : Text) :
    kindAndBody (t.map asciiLower) = (kindAndBody t).map id (List.map asciiLower) := by
  rw [kindAndBody, kindAndBody, Text.isPrefixOf?_map (keeps_asciiLower_of_all (by decide))]
  cases exceptionMarker.isPrefixOf? t with
  | some rest =>
      simp only [Option.map_some, Text.trimStart_map Text.isBlank_asciiLower]
      rfl
  | none => rfl

theorem splitOptions_map_asciiLower (block : Text) :
    splitOptions (block.map asciiLower) = (splitOptions block).map (List.map asciiLower) := by
  have htrim : Text.trim ∘ List.map asciiLower = List.map asciiLower ∘ Text.trim :=
    funext (Text.trim_map Text.isBlank_asciiLower)
  have hempty : (fun piece : Text => !piece.isEmpty) ∘ List.map asciiLower =
      fun piece => !piece.isEmpty := by
    funext piece
    rw [Function.comp_apply, List.isEmpty_map]
  rw [splitOptions, Text.splitOn_map (keeps_asciiLower (by decide)), List.map_map, htrim,
    ← List.map_map, List.filter_map, hempty, splitOptions]

theorem cutAtDollar_map_asciiLower (body : Text) :
    cutAtDollar (body.map asciiLower) =
      (cutAtDollar body).map (List.map asciiLower) (List.map (List.map asciiLower)) := by
  rw [cutAtDollar, cutAtDollar, Text.splitAtLast_map (keeps_asciiLower (by decide))]
  cases Text.splitAtLast '$' body with
  | none => rfl
  | some cut =>
      simp only [Option.map_some, Prod.map, Text.trimEnd_map Text.isBlank_asciiLower,
        splitOptions_map_asciiLower]

theorem cutAtSlash_map_asciiLower (body : Text) :
    cutAtSlash (body.map asciiLower) =
      (cutAtSlash body).map (Prod.map (List.map asciiLower) (List.map (List.map asciiLower))) := by
  rw [cutAtSlash, cutAtSlash, Text.splitAtLast_map (keeps_asciiLower (by decide))]
  cases Text.splitAtLast '/' body with
  | none => rfl
  | some cut =>
      obtain ⟨before, after⟩ := cut
      cases before with
      | nil => rfl
      | cons c interior =>
          cases after with
          | nil => rfl
          | cons d block =>
              by_cases hd : d = '$'
              · rw [hd]
                have hpattern : (c :: interior).map asciiLower ++ ['/'] =
                    (c :: interior ++ ['/']).map asciiLower := by
                  rw [List.map_append]
                  rfl
                exact congrArg some (Prod.ext hpattern (splitOptions_map_asciiLower block))
              · have hlower : asciiLower d ≠ '$' := (keeps_asciiLower (by decide) d).not.mpr hd
                simp [hd, hlower]

theorem cutBody_map_asciiLower (body : Text) :
    cutBody (body.map asciiLower) =
      (cutBody body).map (Prod.map (List.map asciiLower) (List.map (List.map asciiLower))) := by
  have hhead := Text.head?_map_of_keeps (keeps_asciiLower (c := '/') (by decide)) body
  have hlast := Text.getLast?_map_of_keeps (keeps_asciiLower (c := '$') (by decide)) body
  simp only [cutBody, hhead, hlast, List.length_map, cutAtSlash_map_asciiLower,
    cutAtDollar_map_asciiLower]
  split
  · cases cutAtSlash body with
    | some cut => rfl
    | none =>
        simp only [Option.map_none]
        split
        · rfl
        · rfl
  · rfl

/-- A line is read alike in lower case. -/
theorem parse_map_asciiLower (line : Text) :
    parse (line.map asciiLower) = (parse line).map lowered := by
  rw [parse, parse, Text.trim_map Text.isBlank_asciiLower]
  generalize line.trim = t
  rw [parseTrimmed, parseTrimmed, List.isEmpty_map, isComment_map_asciiLower,
    isCosmetic_map_asciiLower, kindAndBody_map_asciiLower]
  split
  · rfl
  split
  · rfl
  split
  · rfl
  simp only [Prod.map, id_eq, cutBody_map_asciiLower]
  cases cutBody (kindAndBody t).2 with
  | error fault => rfl
  | ok cut =>
      simp only [Except.map, Prod.map, List.isEmpty_map]
      split
      · rfl
      · rfl

theorem isBetweenSlashes_map_asciiLower {p : Text} :
    IsBetweenSlashes (p.map asciiLower) ↔ IsBetweenSlashes p := by
  simp only [← isRegexPattern_iff, isRegexPattern, Bool.and_eq_true, beq_iff_eq, List.length_map,
    Text.head?_map_of_keeps (keeps_asciiLower (c := '/') (by decide)),
    Text.getLast?_map_of_keeps (keeps_asciiLower (c := '/') (by decide))]

/-- Lines that are equal in lower case are of one kind, and have patterns that are equal in lower
case. -/
theorem lowered_eq_of_parse {line line' : Text} {read read' : RuleLine}
    (hline : line.map asciiLower = line'.map asciiLower) (hread : parse line = .ok read)
    (hread' : parse line' = .ok read') : read.lowered = read'.lowered := by
  have hparse := congrArg parse hline
  rw [parse_map_asciiLower, parse_map_asciiLower, hread, hread'] at hparse
  exact Except.ok.inj hparse

end RuleLine

/-! ## Matchers -/

/-- Two matchers are of one kind. -/
inductive Matcher.SameVariant : Matcher → Matcher → Prop where
  /-- Both look for a text. -/
  | substring {needle needle' : Text} : SameVariant (.substring needle) (.substring needle')
  /-- Both look for a pattern. -/
  | pattern {written written' : Text} {r r' : Regex} :
      SameVariant (.pattern written r) (.pattern written' r')
  /-- Both look for an expression. -/
  | regex {written written' : Text} {r r' : Regex} :
      SameVariant (.regex written r) (.regex written' r')

section

variable {p p' u u' : Text} {m m' : Matcher}

theorem Matcher.accepts_ofSubstring_congr (hp : p.map asciiLower = p'.map asciiLower)
    (hu : u.map asciiLower = u'.map asciiLower) (hascii : ∀ c ∈ u, c.toNat < 128) :
    (ofSubstring p).accepts u = (ofSubstring p').accepts u' := by
  rw [accepts_ofSubstring_of_ascii p hascii,
    accepts_ofSubstring_of_ascii p' (Text.ascii_of_map_eq hu hascii),
    ← Unicode.lowercase_map_asciiLower p, hp, Unicode.lowercase_map_asciiLower,
    ← Unicode.lowercase_map_asciiLower u, hu, Unicode.lowercase_map_asciiLower]

theorem Matcher.accepts_ofPattern_congr (hp : p.map asciiLower = p'.map asciiLower)
    (hu : u.map asciiLower = u'.map asciiLower) (hm : ofPattern p = .ok m)
    (hm' : ofPattern p' = .ok m') : m.accepts u = m'.accepts u' := by
  obtain ⟨-, rfl⟩ := ofPattern_eq_ok_iff.mp hm
  obtain ⟨-, rfl⟩ := ofPattern_eq_ok_iff.mp hm'
  rw [accepts, accepts, Bool.eq_iff_iff, Pattern.isMatch_regexes_iff, Pattern.isMatch_regexes_iff,
    Pattern.accepts_congr hp hu]

namespace Rule

open RuleLine (IsBetweenSlashes)

theorem isSign_asciiLower (c : Char) : isSign (asciiLower c) = isSign c :=
  Text.apply_asciiLower (by decide) c

theorem exists_isSign_map_asciiLower :
    (∃ c ∈ p.map asciiLower, isSign c = true) ↔ ∃ c ∈ p, isSign c = true := by
  simp only [List.mem_map, exists_exists_and_eq_and, isSign_asciiLower]

/-- Patterns that are equal in lower case become matchers of one kind that accept the same texts. -/
theorem Becomes.congr (hp : p.map asciiLower = p'.map asciiLower) (hbetween : ¬ IsBetweenSlashes p)
    (h : Becomes p m) (h' : Becomes p' m') :
    m.SameVariant m' ∧ ∀ u u', u.map asciiLower = u'.map asciiLower →
      ((∀ c ∈ u, c.toNat < 128) ∨ ∃ written r, m = .pattern written r) →
        m.accepts u = m'.accepts u' := by
  have hbetween' : ¬ IsBetweenSlashes p' := by
    rwa [← RuleLine.isBetweenSlashes_map_asciiLower, ← hp,
      RuleLine.isBetweenSlashes_map_asciiLower]
  have hsigns : (∃ c ∈ p, isSign c = true) ↔ ∃ c ∈ p', isSign c = true := by
    rw [← exists_isSign_map_asciiLower, hp, exists_isSign_map_asciiLower]
  cases h with
  | regex hx _ => exact absurd ⟨_, hx, rfl⟩ hbetween
  | pattern _ _ hsign hr =>
      cases h' with
      | regex hx _ => exact absurd ⟨_, hx, rfl⟩ hbetween'
      | pattern _ _ _ hr' =>
          refine ⟨.pattern, fun u u' hu _ => Matcher.accepts_ofPattern_congr hp hu ?_ ?_⟩
          · rw [Matcher.ofPattern, hr]
            rfl
          · rw [Matcher.ofPattern, hr']
            rfl
      | substring _ _ _ hplain =>
          obtain ⟨c, hc, hcsign⟩ := hsigns.mp hsign
          rw [hplain c hc] at hcsign
          cases hcsign
  | substring _ _ _ hplain =>
      cases h' with
      | regex hx _ => exact absurd ⟨_, hx, rfl⟩ hbetween'
      | pattern _ _ hsign _ =>
          obtain ⟨c, hc, hcsign⟩ := hsigns.mpr hsign
          rw [hplain c hc] at hcsign
          cases hcsign
      | substring _ _ _ _ =>
          refine ⟨.substring, fun u u' hu hcase => ?_⟩
          rcases hcase with hascii | ⟨_, _, hm⟩
          · exact Matcher.accepts_ofSubstring_congr hp hu hascii
          · cases hm

end Rule

end

/-! ## Rules -/

namespace Rule

open RuleLine (IsBetweenSlashes)

/-- Rules that differ in the case of ASCII letters only are of one kind, have matchers of one kind,
and match the same texts in whatever case, unless they are expressions between slashes.  A substring
is looked for in lower case, so this is about texts in ASCII there. -/
theorem compile_disregards_ascii_case {line line' : Text} {read : RuleLine} {rule rule' : Rule}
    (hline : Text.eqIgnoringAsciiCase line line' = true)
    (hread : RuleLine.parse line = .ok read) (hbetween : ¬ IsBetweenSlashes read.pattern)
    (hrule : compile line = .ok rule) (hkind : rule.kind.isMatchable = true)
    (hrule' : compile line' = .ok rule') :
    rule'.kind = rule.kind ∧
      (∃ m m', rule.matcher = some m ∧ rule'.matcher = some m' ∧ m.SameVariant m') ∧
        ∀ u u', Text.eqIgnoringAsciiCase u u' = true →
          ((∀ c ∈ u, c.toNat < 128) ∨ ∃ written r, rule.matcher = some (.pattern written r)) →
            rule.accepts u = rule'.accepts u' := by
  obtain ⟨read', _, hreads', -, -⟩ := compile_eq_ok_iff.mp hrule'
  have hread' := RuleLine.parse_eq_ok_iff.mpr hreads'
  have hlowered := RuleLine.lowered_eq_of_parse (Text.eqIgnoringAsciiCase_iff.mp hline) hread hread'
  obtain ⟨hkinds, hpatterns, -, -⟩ := RuleLine.mk.inj hlowered
  have hmatchable : read.kind.isMatchable = true := by
    obtain ⟨_, -, rfl⟩ := (compile_eq_ok_iff_of_parse hread).mp hrule
    exact hkind
  obtain ⟨m, hm, rfl⟩ := (compile_eq_ok_iff_becomes hread hmatchable).mp hrule
  obtain ⟨m', hm', rfl⟩ := (compile_eq_ok_iff_becomes hread' (hkinds ▸ hmatchable)).mp hrule'
  obtain ⟨hsame, haccepts⟩ := hm.congr hpatterns hbetween hm'
  refine ⟨hkinds.symm, ⟨m, m', rfl, rfl, hsame⟩, fun u u' hu hcase => ?_⟩
  refine haccepts u u' (Text.eqIgnoringAsciiCase_iff.mp hu) (hcase.imp_right ?_)
  rintro ⟨written, r, hpattern⟩
  exact ⟨written, r, Option.some.inj hpattern⟩

/-- A domain beyond ASCII is matched whatever the case of its other letters. -/
theorem compile_disregards_ascii_case_domain :
    ∃ rule rule', compile "||Ads.Straße^$Image".toList = .ok rule ∧
      compile "||aDS.sTRAßE^$iMAGE".toList = .ok rule' ∧
        rule.accepts "https://x.ads.straẞe/".toList = true ∧
          rule'.accepts "HTTPS://X.ADS.STRAẞE/".toList = true := by
  have hread : RuleLine.parse "||Ads.Straße^$Image".toList = .ok ⟨.blocking,
      "||Ads.Straße^".toList, ["Image".toList], "||Ads.Straße^$Image".toList⟩ := by decide
  have hread' : RuleLine.parse "||aDS.sTRAßE^$iMAGE".toList = .ok ⟨.blocking,
      "||aDS.sTRAßE^".toList, ["iMAGE".toList], "||aDS.sTRAßE^$iMAGE".toList⟩ := by decide
  have hbetween : ¬ IsBetweenSlashes "||Ads.Straße^".toList := by
    rw [← RuleLine.isRegexPattern_iff]
    decide
  have hbetween' : ¬ IsBetweenSlashes "||aDS.sTRAßE^".toList := by
    rw [← RuleLine.isRegexPattern_iff]
    decide
  have hm : Matcher.ofPattern "||Ads.Straße^".toList = .ok _ :=
    Matcher.ofPattern_eq_ok_iff.mpr ⟨by decide +kernel, rfl⟩
  have hm' : Matcher.ofPattern "||aDS.sTRAßE^".toList = .ok _ :=
    Matcher.ofPattern_eq_ok_iff.mpr ⟨by decide +kernel, rfl⟩
  have hpattern : compilePattern "||Ads.Straße^".toList = .ok _ :=
    (compilePattern_signs hbetween ⟨'d', by decide, by decide⟩
      ⟨'^', by decide, by decide⟩).trans (congrArg liftFault hm)
  have hpattern' : compilePattern "||aDS.sTRAßE^".toList = .ok _ :=
    (compilePattern_signs hbetween' ⟨'a', by decide, by decide⟩
      ⟨'^', by decide, by decide⟩).trans (congrArg liftFault hm')
  have hrule : compile "||Ads.Straße^$Image".toList = .ok _ :=
    (compile_eq_ok_iff_becomes hread rfl).mpr ⟨_, compilePattern_eq_ok_iff.mp hpattern, rfl⟩
  have hrule' : compile "||aDS.sTRAßE^$iMAGE".toList = .ok _ :=
    (compile_eq_ok_iff_becomes hread' rfl).mpr ⟨_, compilePattern_eq_ok_iff.mp hpattern', rfl⟩
  obtain ⟨-, -, haccepts⟩ :=
    compile_disregards_ascii_case (by decide) hread hbetween hrule rfl hrule'
  have hsame := haccepts "https://x.ads.straẞe/".toList "HTTPS://X.ADS.STRAẞE/".toList (by decide)
    (.inr ⟨_, _, rfl⟩)
  refine ⟨_, _, hrule, hrule', ?_⟩
  rw [← hsame, and_self]
  decide +kernel

end Rule

end UrlFilter
