import UrlFilter.Proofs.Pattern.Translation

/-!
# A compiled pattern accepts what the pattern accepts

The expression of a pattern is a chain with one part for each sign.  Here each part is compared to
what the sign stands for.

*Signs.*  A part matches the pieces that its token stands for (`Token.matches_regex_iff`).  Case is
left to the sets of characters: a closed set holds the characters that are equal to one of its own
up to case, and the characters with a meaning in a URL are equal to themselves only
(`mem_oneOf`).

*Anchors.*  The parts of an anchor match the text in front of a position from the start of the text,
or nothing at all (`Anchor.matches_regexes_iff`).  For the anchor of domains they hold no test but
the first, so they are described by sets of texts.
-/

namespace UrlFilter

namespace Pattern

open Regex
open Text (piece)

/-! ## Sets of characters -/

/-- Whether a character is equal up to case to itself only. -/
def isCaseless (c : Char) : Bool := Unicode.variants c == [c, c]

theorem sameFold_iff_of_isCaseless {c d : Char} (h : isCaseless c = true) :
    Unicode.sameFold c d = true ↔ d = c :=
  Unicode.sameFold_iff_of_variants (beq_iff_eq.mp h)

theorem mem_oneOf {cs : Text} {d : Char} (h : cs.all isCaseless = true) :
    (oneOf cs).mem d = true ↔ d ∈ cs := by
  fun_induction oneOf cs with
  | case1 => simp [CharSet.none, CharSet.mem, Unicode.Ranges.has]
  | case2 c =>
      rw [Unicode.mem_folded_single, List.mem_singleton]
      exact sameFold_iff_of_isCaseless (List.all_eq_true.mp h c (List.mem_singleton_self c))
  | case3 c cs _ ih =>
      rw [List.all_cons, Bool.and_eq_true] at h
      rw [CharSet.mem, Bool.or_eq_true, Unicode.mem_folded_single, List.mem_cons,
        sameFold_iff_of_isCaseless h.1, ih h.2]

theorem mem_compl_oneOf {cs : Text} {d : Char} (h : cs.all isCaseless = true) :
    (CharSet.compl (oneOf cs)).mem d = true ↔ d ∉ cs := by
  rw [CharSet.mem, Bool.not_eq_true', ← Bool.not_eq_true, mem_oneOf h]

/-- The dot takes every character but the line feed. -/
theorem mem_dot {c : Char} : (CharSet.compl (.single '\n')).mem c = true ↔ c ≠ '\n' := by
  rw [CharSet.mem, Bool.not_eq_true', ← Bool.not_eq_true]
  refine not_congr ?_
  simp only [CharSet.single, CharSet.mem, Bool.and_eq_true, decide_eq_true_eq]
  constructor
  · rintro ⟨hge, hle⟩
    exact Char.le_antisymm hle hge
  · rintro rfl
    exact ⟨Char.le_refl _, Char.le_refl _⟩

theorem mem_separators {c : Char} :
    (CharSet.compl (.union .word (oneOf ['-', '.', '%', '^']))).mem c = isSeparator c := by
  have h : (oneOf ['-', '.', '%', '^']).mem c = ['-', '.', '%', '^'].contains c := by
    rw [Bool.eq_iff_iff, mem_oneOf (by decide), List.contains_iff_mem]
  rw [isSeparator, CharSet.mem, CharSet.mem, CharSet.mem, h]

/-! ## Signs -/

section

variable {u : Text}

theorem holdsAt_textStart {i : Nat} (hi : i ≤ u.length) :
    Look.holdsAt u i .textStart = true ↔ i = 0 := by
  rw [Look.holdsAt, Look.holds]
  by_cases h0 : i = 0
  · simp [h0]
  · have hlt : i - 1 < u.length := by omega
    simp [h0, List.getElem?_eq_getElem hlt]

theorem holdsAt_textEnd {i : Nat} (hi : i ≤ u.length) :
    Look.holdsAt u i .textEnd = true ↔ i = u.length := by
  rw [Look.holdsAt, Look.holds, Option.isNone_iff_eq_none, List.getElem?_eq_none_iff]
  omega

theorem matches_textStart_iff {i j : Nat} :
    Matches u (.look .textStart) i j ↔ i = 0 ∧ j = 0 := by
  rw [matches_look_iff]
  constructor
  · rintro ⟨rfl, hi, h⟩
    have h0 := (holdsAt_textStart hi).mp h
    exact ⟨h0, h0⟩
  · rintro ⟨rfl, rfl⟩
    exact ⟨rfl, Nat.zero_le _, (holdsAt_textStart (Nat.zero_le _)).mpr rfl⟩

theorem matches_textEnd_iff {i j : Nat} :
    Matches u (.look .textEnd) i j ↔ i = u.length ∧ j = u.length := by
  rw [matches_look_iff]
  constructor
  · rintro ⟨rfl, hi, h⟩
    have hn := (holdsAt_textEnd hi).mp h
    exact ⟨hn, hn⟩
  · rintro ⟨rfl, rfl⟩
    exact ⟨rfl, Nat.le_refl _, (holdsAt_textEnd (Nat.le_refl _)).mpr rfl⟩

/-- The expression of a token matches the pieces that the token stands for. -/
theorem Token.matches_regex_iff {token : Token} {i j : Nat} :
    Matches u token.regex i j ↔ token.Spans u i j := by
  cases token with
  | run =>
      rw [Token.regex, describes_chars _ 0 i j]
      constructor
      · rintro ⟨hij, hj, -, hall⟩
        exact .run hij hj fun h => mem_dot.mp (hall _ h) rfl
      · intro h
        cases h with
        | run hij hj hn =>
            refine ⟨hij, hj, Nat.zero_le _, fun c hc => mem_dot.mpr ?_⟩
            rintro rfl
            exact hn hc
  | separator =>
      rw [Token.regex, matches_group_iff, matches_alt_iff, matches_char_iff, matches_textEnd_iff,
        Option.any_eq_true]
      constructor
      · rintro (⟨rfl, c, hc, hm⟩ | ⟨rfl, rfl⟩)
        · exact .separator hc (by rwa [mem_separators] at hm)
        · exact .separatorAtEnd
      · intro h
        cases h with
        | separator hc hs => exact .inl ⟨rfl, _, hc, by rwa [mem_separators]⟩
        | separatorAtEnd => exact .inr ⟨rfl, rfl⟩
  | char c =>
      rw [Token.regex, matches_char_iff, Option.any_eq_true]
      constructor
      · rintro ⟨rfl, d, hd, hm⟩
        exact .char hd (by rwa [Unicode.mem_folded_single] at hm)
      · intro h
        cases h with
        | char hd hs => exact ⟨rfl, _, hd, by rwa [Unicode.mem_folded_single]⟩

/-- The expressions of some tokens match the pieces that the tokens stand for. -/
theorem matches_tokens_iff {tokens : List Token} {i j : Nat} :
    Matches u (Regex.seqOf (tokens.map Token.regex)) i j ↔ SpanAll u tokens i j := by
  induction tokens generalizing i with
  | nil =>
      rw [List.map_nil, matches_seqOf_nil]
      constructor
      · rintro ⟨rfl, hi⟩
        exact .nil hi
      · intro h
        cases h with
        | nil hi => exact ⟨rfl, hi⟩
  | cons token tokens ih =>
      rw [List.map_cons, matches_seqOf_cons]
      constructor
      · rintro ⟨k, htoken, htokens⟩
        exact .cons (Token.matches_regex_iff.mp htoken) (ih.mp htokens)
      · intro h
        cases h with
        | cons htoken htokens =>
            exact ⟨_, Token.matches_regex_iff.mpr htoken, ih.mpr htokens⟩

theorem matches_end_iff {ended : Bool} {i j : Nat} :
    Matches u (Regex.seqOf (endRegexes ended)) i j ↔
      i = j ∧ i ≤ u.length ∧ (ended = true → i = u.length) := by
  cases ended with
  | true =>
      rw [endRegexes, if_pos rfl]
      refine matches_textEnd_iff.trans ⟨?_, ?_⟩
      · rintro ⟨rfl, rfl⟩
        exact ⟨rfl, Nat.le_refl _, fun _ => rfl⟩
      · rintro ⟨rfl, -, h⟩
        exact ⟨h rfl, h rfl⟩
  | false =>
      rw [endRegexes, if_neg Bool.false_ne_true, matches_seqOf_nil]
      simp

/-! ## Anchors -/

theorem describes_oneOf (c : Char) (h : isCaseless c = true) :
    Describes u (.char (oneOf [c])) fun w => w = [c] := by
  refine (describes_char _).congr fun w => ?_
  have hmem : ∀ d, (oneOf [c]).mem d = true ↔ d = c := by
    intro d
    rw [mem_oneOf (by rw [List.all_cons, h, List.all_nil, Bool.and_self]), List.mem_singleton]
  constructor
  · rintro ⟨d, rfl, hd⟩
    rw [(hmem d).mp hd]
  · rintro rfl
    exact ⟨c, rfl, (hmem c).mpr rfl⟩

theorem describes_noneOf (cs : Text) (least : Nat) (h : cs.all isCaseless = true) :
    Describes u (.repeated (.char (.compl (oneOf cs))) least none) fun w =>
      least ≤ w.length ∧ ∀ c ∈ w, c ∉ cs := by
  refine (describes_chars _ least).congr fun w => and_congr_right fun _ => ?_
  exact forall₂_congr fun c _ => mem_compl_oneOf h

theorem describes_scheme : Describes u (.repeated schemeRegex 0 (some 1)) OptionalScheme := by
  have hscheme := (describes_noneOf (u := u) [':', '/', '?', '#'] 1 (by decide)).seq
    (describes_oneOf ':' (by decide))
  refine hscheme.group.optional.congr fun w => or_congr Iff.rfl ?_
  constructor
  · rintro ⟨s, b, rfl, ⟨hlen, hs⟩, rfl⟩
    exact ⟨s, rfl, List.ne_nil_of_length_pos hlen, hs⟩
  · rintro ⟨s, rfl, hne, hs⟩
    exact ⟨s, [':'], rfl, ⟨List.length_pos_of_ne_nil hne, hs⟩, rfl⟩

theorem describes_labels : Describes u (.repeated labelsRegex 0 (some 1)) OptionalLabels := by
  have hlabels := (describes_noneOf (u := u) ['/', '?', '#'] 0 (by decide)).seq
    (describes_oneOf '.' (by decide))
  refine hlabels.group.optional.congr fun w => or_congr Iff.rfl ?_
  constructor
  · rintro ⟨t, b, rfl, ⟨-, ht⟩, rfl⟩
    exact ⟨t, rfl, ht⟩
  · rintro ⟨t, rfl, ht⟩
    exact ⟨t, ['.'], rfl, ⟨Nat.zero_le _, ht⟩, rfl⟩

theorem describes_slashes : Describes u (.repeated slashesRegex 0 (some 1)) OptionalSlashes := by
  have hslash := describes_oneOf (u := u) '/' (by decide)
  refine (hslash.seq (hslash.seq describes_labels)).group.optional.congr fun w =>
    or_congr Iff.rfl ?_
  constructor
  · rintro ⟨a, r, rfl, rfl, b, c, rfl, rfl, hc⟩
    exact ⟨c, rfl, hc⟩
  · rintro ⟨c, rfl, hc⟩
    exact ⟨['/'], '/' :: c, rfl, rfl, ['/'], c, rfl, rfl, hc⟩

/-- The expressions of an anchor match where the anchor allows a match to start behind them. -/
theorem Anchor.matches_regexes_iff {anchor : Anchor} {j : Nat} (hj : j ≤ u.length) :
    (∃ i, Matches u (Regex.seqOf anchor.regexes) i j) ↔ anchor.Allows u j := by
  cases anchor with
  | anywhere =>
      constructor
      · intro _
        trivial
      · intro _
        exact ⟨j, matches_seqOf_nil.mpr ⟨rfl, hj⟩⟩
  | start =>
      constructor
      · rintro ⟨i, h⟩
        exact (matches_textStart_iff.mp h).2
      · rintro rfl
        exact ⟨0, matches_textStart_iff.mpr ⟨rfl, rfl⟩⟩
  | domain =>
      have hdescribes := (describes_scheme (u := u)).seq describes_slashes
      constructor
      · rintro ⟨i, h⟩
        obtain ⟨k, hstart, hrest⟩ := matches_seqOf_cons.mp h
        obtain ⟨-, rfl⟩ := matches_textStart_iff.mp hstart
        obtain ⟨-, -, hw⟩ := (hdescribes 0 j).mp hrest
        rwa [Text.piece_zero] at hw
      · intro h
        refine ⟨0, matches_seqOf_cons.mpr ⟨0, matches_textStart_iff.mpr ⟨rfl, rfl⟩, ?_⟩⟩
        exact (hdescribes 0 j).mpr ⟨Nat.zero_le _, hj, by rwa [Text.piece_zero]⟩

/-! ## Patterns -/

theorem SpanAll.bounds {tokens : List Token} {i j : Nat} (h : SpanAll u tokens i j) :
    i ≤ j ∧ j ≤ u.length := (matches_tokens_iff.mpr h).bounds

/-- The expression of a pattern occurs in the texts that the pattern accepts. -/
theorem occurs_regexes_iff {pattern : Text} :
    Occurs u (Regex.seqOf (parts pattern).regexes) ↔ Accepts pattern u := by
  rw [accepts_iff_parts, Parts.regexes]
  constructor
  · rintro ⟨i, l, h⟩
    obtain ⟨k, hfront, hend⟩ := matches_seqOf_append.mp h
    obtain ⟨j, hanchor, hbody⟩ := matches_seqOf_append.mp hfront
    obtain ⟨rfl, -, hfull⟩ := matches_end_iff.mp hend
    have hspan := matches_tokens_iff.mp hbody
    have hj := Nat.le_trans hspan.bounds.1 hspan.bounds.2
    exact ⟨j, k, (Anchor.matches_regexes_iff hj).mp ⟨i, hanchor⟩, hspan, hfull⟩
  · rintro ⟨j, k, hallows, hspan, hfull⟩
    have hj := Nat.le_trans hspan.bounds.1 hspan.bounds.2
    obtain ⟨i, hanchor⟩ := (Anchor.matches_regexes_iff hj).mpr hallows
    refine ⟨i, k, matches_seqOf_append.mpr ⟨k, matches_seqOf_append.mpr ⟨j, hanchor, ?_⟩, ?_⟩⟩
    · exact matches_tokens_iff.mpr hspan
    · exact matches_end_iff.mpr ⟨rfl, hspan.bounds.2, hfull⟩

/-- What a pattern is compiled to matches the texts that the pattern accepts. -/
theorem isMatch_regexes_iff {pattern : Text} :
    (Regex.seqOf (parts pattern).regexes).isMatch u = true ↔ Accepts pattern u := by
  rw [isMatch_iff_occurs (ordered_regexes _), occurs_regexes_iff]

end

end Pattern

namespace Matcher

open Regex

/-- A pattern becomes the chain of its parts, unless that is too large. -/
theorem ofPattern_eq_ok_iff {pattern : Text} {m : Matcher} :
    ofPattern pattern = .ok m ↔ (Regex.seqOf (Pattern.parts pattern).regexes).fits = true ∧
      m = .pattern (Pattern.expression pattern) (Regex.seqOf (Pattern.parts pattern).regexes) := by
  rw [ofPattern, Pattern.compile_expression, checkSize]
  split
  · next h => simp [h, bind, Except.bind, pure, Except.pure, eq_comm]
  · next h => simp [h, bind, Except.bind]

/-- A pattern that is too large has no matcher, and this is the only fault. -/
theorem ofPattern_eq_error_iff {pattern : Text} {fault : Regex.Fault} :
    ofPattern pattern = .error fault ↔
      (Regex.seqOf (Pattern.parts pattern).regexes).fits = false ∧ fault = .tooLarge sizeLimit := by
  rw [ofPattern, Pattern.compile_expression, checkSize]
  split
  · next h => simp [h, bind, Except.bind, pure, Except.pure]
  · next h => simp [h, bind, Except.bind, eq_comm]

/-- The matcher of a pattern accepts a text exactly if the pattern does. -/
theorem ofPattern_accepts_iff {pattern : Text} {m : Matcher} (h : ofPattern pattern = .ok m)
    (u : Text) : m.accepts u = true ↔ Pattern.Accepts pattern u := by
  obtain ⟨-, rfl⟩ := ofPattern_eq_ok_iff.mp h
  rw [accepts, isMatch_iff_occurs (Pattern.ordered_regexes _), Pattern.occurs_regexes_iff]

/-- Domains below the named one are accepted up to case, and the end counts as a separator. -/
theorem ofPattern_accepts_subdomain :
    ∃ m, ofPattern "||ad*.net^|".toList = .ok m ∧
      Pattern.Accepts "||ad*.net^|".toList "https://www.AD-x.net".toList := by
  have hm : ofPattern "||ad*.net^|".toList = .ok _ :=
    ofPattern_eq_ok_iff.mpr ⟨by decide +kernel, rfl⟩
  exact ⟨_, hm, (ofPattern_accepts_iff hm _).mp (by decide +kernel)⟩

end Matcher

end UrlFilter
