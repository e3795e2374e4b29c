import Mathlib.Data.List.Infix
import UrlFilter.Proofs.Matcher.Substring
import UrlFilter.Proofs.Pattern.Domain
import UrlFilter.Proofs.Rule.Choice
import UrlFilter.Proofs.Unicode.Sigma

/-!
# Rules without signs

A pattern without signs is looked for as a substring, and no expression is built for it.

*Two ways to match.*  The same pattern can also be written as an expression.  In ASCII the two ways
agree on every text, and both find the pattern where it stands up to the case of letters
(`accepts_ofSubstring_eq_accepts_ofPattern`): the needle and the text are taken to lower case letter
by letter, and the expression of a character takes the letter in either case.

*Beyond ASCII* a substring may be missed where it stands.  The needle is taken to lower case without
the text around it, so a capital sigma at its end may differ from the one in the text.  And a letter
in title case is not found where nothing makes the text be taken to lower case.  These are the only
two reasons (`accepts_ofSubstring_verbatim_iff`).
-/

namespace UrlFilter

/-! ## Lower case in ASCII -/

namespace Unicode

theorem titlecaseRanges_beyond_ascii :
    (titlecaseRanges.all fun r => 128 ≤ r.1) = true := by decide

theorem isTitlecase_of_ascii {c : Char} (h : c.toNat < 128) : isTitlecase c = false := by
  rw [isTitlecase, Ranges.has, List.any_eq_false]
  intro r hr
  have hbeyond := of_decide_eq_true (List.all_eq_true.mp titlecaseRanges_beyond_ascii r hr)
  simp only [Bool.and_eq_true, decide_eq_true_eq]
  omega

theorem lowercase_of_ascii {t : Text} (h : ∀ c ∈ t, c.toNat < 128) :
    lowercase t = t.map Text.asciiLower := by
  have hsigma : 'Σ' ∉ t := fun hc => absurd (h 'Σ' hc) (by decide)
  rw [lowercase, lowercaseAfter_eq_flatMap [] hsigma, List.map_eq_flatMap]
  exact List.flatMap_congr fun c hc => if_pos (h c hc)

end Unicode

/-! ## Two ways to match -/

/-- A text holds a piece that is equal to another text up to the case of ASCII letters. -/
def HoldsUpToAsciiCase (p u : Text) : Prop :=
  ∃ a e b, u = a ++ (e ++ b) ∧ Text.eqIgnoringAsciiCase p e = true

namespace Matcher

open Unicode

/-- In ASCII it does not matter whether the text is taken to lower case. -/
theorem accepts_ofSubstring_of_ascii (p : Text) {u : Text} (hu : ∀ c ∈ u, c.toNat < 128) :
    (ofSubstring p).accepts u = Text.occursIn (lowercase p) (lowercase u) := by
  by_cases hupper : ∃ c ∈ u, isUppercase c = true
  · exact accepts_ofSubstring_of_uppercase hupper p
  · have hplain : ∀ c ∈ u, isUppercase c = false := by simpa using hupper
    have hlower := (lowercase_eq_self_iff hplain).mpr fun c hc => isTitlecase_of_ascii (hu c hc)
    rw [accepts_ofSubstring_of_not_uppercase hplain, hlower]

theorem accepts_ofSubstring_iff_of_ascii {p u : Text} (hp : ∀ c ∈ p, c.toNat < 128)
    (hu : ∀ c ∈ u, c.toNat < 128) :
    (ofSubstring p).accepts u = true ↔ HoldsUpToAsciiCase p u := by
  rw [accepts_ofSubstring_of_ascii p hu, Text.occursIn_iff, lowercase_of_ascii hp,
    lowercase_of_ascii hu]
  constructor
  · rintro ⟨a', b', hcut⟩
    rw [List.append_assoc, eq_comm, List.map_eq_append_iff] at hcut
    obtain ⟨a, r, rfl, -, hr⟩ := hcut
    obtain ⟨e, b, rfl, he, -⟩ := List.map_eq_append_iff.mp hr
    exact ⟨a, e, b, rfl, beq_iff_eq.mpr he.symm⟩
  · rintro ⟨a, e, b, rfl, he⟩
    rw [List.map_append, List.map_append, ← beq_iff_eq.mp he]
    exact List.infix_append' ..

end Matcher

namespace Pattern

section

variable {p : Text}

theorem notMem_of_isSign {c : Char} (h : ∀ c ∈ p, Rule.isSign c = false)
    (hsign : Rule.isSign c = true) : c ∉ p := by
  intro hc
  rw [h c hc] at hsign
  cases hsign

/-- A pattern without signs has no anchors. -/
theorem isCut_of_plain (h : ∀ c ∈ p, Rule.isSign c = false) : IsCut p ⟨.anywhere, p, false⟩ := by
  have hbar : '|' ∉ p := notMem_of_isSign h rfl
  refine ⟨p, .anywhere fun hhead => ?_, .free fun hlast => ?_⟩
  · exact hbar (List.mem_of_head? hhead)
  · exact hbar (List.mem_of_getLast? hlast)

theorem ofChar_of_not_isSign {c : Char} (h : Rule.isSign c = false) :
    Token.ofChar c = .char c :=
  Token.ofChar_eq_char (by rintro rfl; cases h) (by rintro rfl; cases h)

/-- A pattern without signs accepts the texts that hold it up to case. -/
theorem accepts_iff_of_plain {u : Text} (h : ∀ c ∈ p, Rule.isSign c = false) :
    Accepts p u ↔ ∃ a e b, u = a ++ (e ++ b) ∧ SameUpToCase p e := by
  have hcut := isCut_of_plain h
  constructor
  · intro hacc
    have htokens : p.map Token.ofChar = p.map .char :=
      List.map_congr_left fun c hc => ofChar_of_not_isSign (h c hc)
    simp only [accepts_iff_parts, parts_of_isCut hcut, htokens, spanAll_chars_iff] at hacc
    obtain ⟨i, j, -, ⟨hij, hj, he⟩, -⟩ := hacc
    exact ⟨u.take i, Text.piece u i j, u.drop j, (Text.take_append_piece_append_drop hij).symm, he⟩
  · rintro ⟨a, e, b, rfl, he⟩
    have hspan := spanAll_of_append (w := a) (r := b) (notMem_of_isSign h rfl) he
    exact ⟨_, hcut, a.length, a.length + e.length, trivial, hspan, fun hend => by cases hend⟩

end

end Pattern

/-- A substring is the lower case of the pattern that it is compiled from. -/
theorem Rule.ofSubstring_of_compilePattern {p needle : Text}
    (h : compilePattern p = .ok (.substring needle)) :
    Matcher.ofSubstring p = .substring needle := by
  cases compilePattern_eq_ok_iff.mp h with
  | substring _ _ _ _ => rfl

/-- In ASCII a pattern without signs is found where the matcher of its expression finds it, and that
is where it stands up to case.  So its rule matches the same texts either way. -/
theorem Matcher.accepts_ofSubstring_eq_accepts_ofPattern {p u : Text} {m : Matcher}
    (hp : ∀ c ∈ p, c.toNat < 128) (hsign : ∀ c ∈ p, Rule.isSign c = false)
    (hm : ofPattern p = .ok m) (hu : ∀ c ∈ u, c.toNat < 128) :
    (ofSubstring p).accepts u = m.accepts u ∧ (m.accepts u = true ↔ HoldsUpToAsciiCase p u) ∧
      ∀ needle, Rule.compilePattern p = .ok (.substring needle) →
        (Matcher.substring needle).accepts u = m.accepts u := by
  have hpattern : m.accepts u = true ↔ HoldsUpToAsciiCase p u := by
    obtain ⟨-, rfl⟩ := ofPattern_eq_ok_iff.mp hm
    rw [accepts, Pattern.isMatch_regexes_iff, Pattern.accepts_iff_of_plain hsign]
    refine exists₃_congr fun a e b => and_congr_right fun hcut => ?_
    have he : ∀ c ∈ e, c.toNat < 128 := by
      intro c hc
      refine hu c ?_
      rw [hcut]
      exact List.mem_append_right a (List.mem_append_left b hc)
    rw [Pattern.sameUpToCase_iff_of_ascii hp he, Text.eqIgnoringAsciiCase, beq_iff_eq]
  have hsame : (ofSubstring p).accepts u = m.accepts u := by
    rw [Bool.eq_iff_iff, accepts_ofSubstring_iff_of_ascii hp hu, hpattern]
  refine ⟨hsame, hpattern, fun needle hneedle => ?_⟩
  rw [← Rule.ofSubstring_of_compilePattern hneedle, hsame]

/-- Characters with a meaning in expressions are found as they are. -/
theorem Matcher.accepts_ofPattern_brackets :
    ∃ m, ofPattern "[a-B]+(?x".toList = .ok m ∧
      Rule.compilePattern "[a-B]+(?x".toList = .ok (ofSubstring "[a-B]+(?x".toList) ∧
      m.accepts "http://a.net/?q=[A-b]+(?X=1".toList = true ∧
      HoldsUpToAsciiCase "[a-B]+(?x".toList "http://a.net/?q=[A-b]+(?X=1".toList := by
  have hm : ofPattern "[a-B]+(?x".toList = .ok _ :=
    ofPattern_eq_ok_iff.mpr ⟨by decide +kernel, rfl⟩
  have hp : ("[a-B]+(?x".toList.all fun c => c.toNat < 128) = true := by decide
  have hsign : "[a-B]+(?x".toList.any Rule.isSign = false := by decide
  have hu : ("http://a.net/?q=[A-b]+(?X=1".toList.all fun c => c.toNat < 128) = true := by decide
  obtain ⟨hsame, hholds, -⟩ := accepts_ofSubstring_eq_accepts_ofPattern
    (fun c hc => of_decide_eq_true (List.all_eq_true.mp hp c hc))
    (fun c hc => Bool.eq_false_of_not_eq_true (List.any_eq_false.mp hsign c hc)) hm
    (fun c hc => of_decide_eq_true (List.all_eq_true.mp hu c hc))
  have haccepts : (ofSubstring "[a-B]+(?x".toList).accepts "http://a.net/?q=[A-b]+(?X=1".toList =
      true := by decide +kernel
  rw [hsame] at haccepts
  exact ⟨_, hm, by decide, haccepts, hholds.mp haccepts⟩

/-! ## Beyond ASCII -/

namespace Matcher

open Unicode

/-- A substring is found wherever it stands exactly if its sigmas are settled, and it makes the text
be taken to lower case or has no letter in title case. -/
theorem accepts_ofSubstring_verbatim_iff (p : Text) :
    (∀ a b, (ofSubstring p).accepts (a ++ (p ++ b)) = true) ↔
      SigmasSettled p ∧ ((∃ c ∈ p, isUppercase c = true) ∨ ∀ c ∈ p, isTitlecase c = false) := by
  by_cases hupper : ∃ c ∈ p, isUppercase c = true
  · obtain ⟨c, hc, hcupper⟩ := hupper
    have hlower : ∀ a b, (ofSubstring p).accepts (a ++ (p ++ b)) =
        Text.occursIn (lowercase p) (lowercase (a ++ (p ++ b))) := fun a b =>
      accepts_ofSubstring_of_uppercase
        ⟨c, List.mem_append_right a (List.mem_append_left b hc), hcupper⟩ p
    simp only [hlower, Text.occursIn_iff]
    rw [← sigmasSettled_iff]
    exact (and_iff_left (.inl ⟨c, hc, hcupper⟩)).symm
  · have hplain : ∀ c ∈ p, isUppercase c = false := by simpa using hupper
    have hsettled : SigmasSettled p := by
      intro before after hp
      have hsigma := hplain 'Σ' (by rw [hp]; exact List.mem_append_right _ List.mem_cons_self)
      rw [isUppercase_sigma] at hsigma
      cases hsigma
    rw [and_iff_right hsettled, or_iff_right hupper, ← lowercase_eq_self_iff hplain]
    constructor
    · intro h
      -- Where nothing stands around it, the text is searched as it is.
      have hself := h [] []
      rw [List.nil_append, List.append_nil, accepts_ofSubstring_of_not_uppercase hplain] at hself
      exact lowercase_eq_of_occursIn hplain hself
    · intro h a b
      by_cases htext : ∃ c ∈ a ++ (p ++ b), isUppercase c = true
      · rw [accepts_ofSubstring_of_uppercase htext, Text.occursIn_iff]
        exact sigmasSettled_iff.mp hsettled a b
      · rw [accepts_ofSubstring_of_not_uppercase (by simpa using htext), h, Text.occursIn_iff]
        exact List.infix_append' ..

end Matcher

namespace Rule

open Unicode

/-- A rule with a substring matches what the substring of its pattern matches. -/
theorem accepts_of_substring {line needle : Text} {read : RuleLine} {rule : Rule}
    (hread : RuleLine.parse line = .ok read) (hrule : compile line = .ok rule)
    (hneedle : rule.matcher = some (.substring needle)) (u : Text) :
    rule.accepts u = (Matcher.ofSubstring read.pattern).accepts u := by
  obtain ⟨matcher, hmatcher, rfl⟩ := (compile_eq_ok_iff_of_parse hread).mp hrule
  obtain rfl : matcher = some (.substring needle) := hneedle
  have hpattern := (compileLine_eq_some_iff.mp hmatcher).2
  rw [ofSubstring_of_compilePattern hpattern]
  rfl

/-- A rule with a substring matches every text that holds its pattern as it is written exactly if
the sigmas of the pattern are settled, and the pattern has an upper-case character or no letter in
title case. -/
theorem accepts_verbatim_iff {line needle : Text} {read : RuleLine} {rule : Rule}
    (hread : RuleLine.parse line = .ok read) (hrule : compile line = .ok rule)
    (hneedle : rule.matcher = some (.substring needle)) :
    (∀ a b, rule.accepts (a ++ (read.pattern ++ b)) = true) ↔
      SigmasSettled read.pattern ∧ ((∃ c ∈ read.pattern, isUppercase c = true) ∨
        ∀ c ∈ read.pattern, isTitlecase c = false) := by
  simp only [accepts_of_substring hread hrule hneedle]
  exact Matcher.accepts_ofSubstring_verbatim_iff read.pattern

/-- A slash behind the last sigma settles it. -/
theorem accepts_verbatim_slash :
    ∃ rule, compile "ΟΔΟΣ/".toList = .ok rule ∧
      rule.matcher = some (.substring "οδος/".toList) ∧
      ∀ a b, rule.accepts (a ++ ("ΟΔΟΣ/".toList ++ b)) = true := by
  have hread : RuleLine.parse "ΟΔΟΣ/".toList =
      .ok ⟨.blocking, "ΟΔΟΣ/".toList, [], "ΟΔΟΣ/".toList⟩ := by decide
  have hrule : compile "ΟΔΟΣ/".toList =
      .ok ⟨.blocking, some (.substring "οδος/".toList), [], "ΟΔΟΣ/".toList⟩ := by decide +kernel
  have hsettled : SigmasSettled "ΟΔΟΣ/".toList := by decide +kernel
  have hupper : ∃ c ∈ "ΟΔΟΣ/".toList, isUppercase c = true := ⟨'Σ', by decide, isUppercase_sigma⟩
  exact ⟨_, hrule, rfl, (accepts_verbatim_iff hread hrule rfl).mpr ⟨hsettled, .inl hupper⟩⟩

/-- A final sigma of the pattern is not found where the text goes on. -/
theorem not_accepts_verbatim_sigma :
    ∃ rule, compile "ΟΔΟΣ".toList = .ok rule ∧
      RuleLine.parse "ΟΔΟΣ".toList = .ok ⟨.blocking, "ΟΔΟΣ".toList, [], "ΟΔΟΣ".toList⟩ ∧
      rule.matcher = some (.substring "οδος".toList) ∧
      rule.accepts ("http://a.com/".toList ++ ("ΟΔΟΣ".toList ++ "Α".toList)) = false := by
  have hrule : compile "ΟΔΟΣ".toList =
      .ok ⟨.blocking, some (.substring "οδος".toList), [], "ΟΔΟΣ".toList⟩ := by decide +kernel
  exact ⟨_, hrule, by decide, rfl, by decide +kernel⟩

end Rule

end UrlFilter
