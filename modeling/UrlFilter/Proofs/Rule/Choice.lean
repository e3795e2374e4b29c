import UrlFilter.Proofs.Pattern.Reading
import UrlFilter.Proofs.Rule.Batch
import UrlFilter.Proofs.Unicode.Lowercase

/-!
# Which matcher a rule gets

A line that has been read is compiled from its pattern alone.  `Becomes p m` says which matcher a
pattern is compiled to, and `Refuses p fault` which patterns are compiled to none.  The two shapes
that have a matcher of their own, an expression between slashes and a pattern without signs, overlap
with patterns of bars and with each other, so every constructor says what its pattern is not.

*Matchers look for something.*  A rule that matched every URL would be a mistake, and one could come
about in three ways: from an empty substring, from nothing between two slashes, and from anchors
with nothing between them.  None of them is compiled (`Becomes.hasContent`).
-/

namespace UrlFilter

/-! ## Shapes of patterns -/

/-- An expression stands between two slashes. -/
def RuleLine.IsBetweenSlashes (p : Text) : Prop := ∃ x, x ≠ [] ∧ p = '/' :: (x ++ ['/'])

theorem RuleLine.isRegexPattern_iff {p : Text} :
    isRegexPattern p = true ↔ IsBetweenSlashes p := by
  rw [isRegexPattern, Bool.and_eq_true, Bool.and_eq_true, decide_eq_true_eq, beq_iff_eq,
    beq_iff_eq]
  constructor
  · rintro ⟨⟨hlength, hhead⟩, hlast⟩
    obtain ⟨r, rfl⟩ := List.head?_eq_some_iff.mp hhead
    have hr : r ≠ [] := by
      rintro rfl
      simp at hlength
    obtain ⟨x, d, rfl⟩ := (List.eq_nil_or_concat' r).resolve_left hr
    rw [← List.cons_append, List.getLast?_concat] at hlast
    obtain rfl := Option.some.inj hlast
    refine ⟨x, ?_, rfl⟩
    rintro rfl
    simp at hlength
  · rintro ⟨x, hx, rfl⟩
    have hlength := List.length_pos_of_ne_nil hx
    refine ⟨⟨?_, rfl⟩, ?_⟩
    · simp only [List.length_cons, List.length_append, List.length_nil]
      omega
    · rw [← List.cons_append, List.getLast?_concat]

theorem Matcher.interior_between (x : Text) : interior ('/' :: (x ++ ['/'])) = x := by
  simp [interior, List.isSuffixOf?, List.isPrefixOf?]

/-- What is no bar stands between the anchors of a pattern. -/
theorem Pattern.mem_body_of_ne_bar {p : Text} {c : Char} (hc : c ∈ p) (hbar : c ≠ '|') :
    c ∈ (parts p).body := by
  obtain ⟨rest, hopens, hcloses⟩ := isCut_iff.mpr (rfl : parts p = parts p)
  have hrest : c ∈ rest := by
    generalize (parts p).anchor = anchor at hopens
    cases hopens with
    | domain => simpa [hbar] using hc
    | start _ => simpa [hbar] using hc
    | anywhere _ => exact hc
  generalize (parts p).body = body, (parts p).endAnchored = ended at hcloses
  cases hcloses with
  | anchored => simpa [hbar] using hrest
  | free _ => exact hrest

/-! ## Matchers of patterns -/

/-- A matcher looks for something. -/
inductive Matcher.HasContent : Matcher → Prop where
  /-- The text that is looked for is not empty. -/
  | substring {needle : Text} : needle ≠ [] → HasContent (.substring needle)
  /-- There is at least one sign or character between the anchors, and the pattern is what is
  matched. -/
  | pattern {p : Text} {r : Regex} : (Pattern.parts p).body ≠ [] →
      Regex.compile (Pattern.expression p) = .ok r → HasContent (.pattern (Pattern.expression p) r)
  /-- The expression is not empty, and it is what is matched. -/
  | regex {x : Text} {r : Regex} : x ≠ [] → Regex.compile x = .ok r → HasContent (.regex x r)

namespace Rule

open RuleLine (IsBetweenSlashes)

/-- What a pattern is compiled to. -/
inductive Becomes : Text → Matcher → Prop where
  /-- What stands between slashes is an expression. -/
  | regex {x : Text} {r : Regex} : x ≠ [] → Regex.compile x = .ok r →
      Becomes ('/' :: (x ++ ['/'])) (.regex x r)
  /-- A pattern with signs that are not all bars is written as an expression. -/
  | pattern {p : Text} {r : Regex} : ¬ IsBetweenSlashes p → (∃ c ∈ p, c ≠ '|') →
      (∃ c ∈ p, isSign c = true) → Regex.compile (Pattern.expression p) = .ok r →
      Becomes p (.pattern (Pattern.expression p) r)
  /-- Any other pattern is looked for in lower case. -/
  | substring {p : Text} : ¬ IsBetweenSlashes p → p ≠ ['/', '/'] → p ≠ [] →
      (∀ c ∈ p, isSign c = false) → Becomes p (.substring (Unicode.lowercase p))

/-- Why a pattern is not compiled. -/
inductive Refuses : Text → RuleFault → Prop where
  /-- There is nothing between two slashes. -/
  | emptyRegex : Refuses ['/', '/'] .emptyRegex
  /-- What stands between slashes is no expression. -/
  | regex {x : Text} {fault : Regex.Fault} : x ≠ [] → Regex.compile x = .error fault →
      Refuses ('/' :: (x ++ ['/'])) (.regex fault)
  /-- There are bars only. -/
  | onlyAnchors {p : Text} : (∀ c ∈ p, c = '|') → Refuses p .onlyAnchors
  /-- The expression of a pattern with signs cannot be compiled. -/
  | pattern {p : Text} {fault : Regex.Fault} : ¬ IsBetweenSlashes p → (∃ c ∈ p, c ≠ '|') →
      (∃ c ∈ p, isSign c = true) → Regex.compile (Pattern.expression p) = .error fault →
      Refuses p (.regex fault)

section

variable {p x : Text} {m : Matcher}

theorem compilePattern_between (hx : x ≠ []) :
    compilePattern ('/' :: (x ++ ['/'])) = liftFault (Matcher.ofExpression x) := by
  have hne : '/' :: (x ++ ['/']) ≠ ['/', '/'] := by
    intro h
    have hlength := congrArg List.length h
    have hpos := List.length_pos_of_ne_nil hx
    simp only [List.length_cons, List.length_append, List.length_nil] at hlength
    omega
  rw [compilePattern, if_neg hne, if_pos (RuleLine.isRegexPattern_iff.mpr ⟨x, hx, rfl⟩),
    Matcher.ofRegex, Matcher.interior_between]

theorem compilePattern_bars (h : ∀ c ∈ p, c = '|') : compilePattern p = .error .onlyAnchors := by
  have hslash : '/' ∉ p := fun hc => absurd (h '/' hc) (by decide)
  have hne : p ≠ ['/', '/'] := by
    rintro rfl
    exact hslash List.mem_cons_self
  have hbetween : ¬ RuleLine.isRegexPattern p = true := by
    rw [RuleLine.isRegexPattern_iff]
    rintro ⟨x, -, rfl⟩
    exact hslash List.mem_cons_self
  have hbars : p.all (· == '|') = true := by simpa using h
  rw [compilePattern, if_neg hne, if_neg hbetween, if_pos hbars]

/-- Where neither slashes nor bars decide it, the signs do. -/
theorem compilePattern_eq (hbetween : ¬ IsBetweenSlashes p) (hne : p ≠ ['/', '/'])
    (hbar : ∃ c ∈ p, c ≠ '|') :
    compilePattern p =
      if p.any isSign then liftFault (Matcher.ofPattern p) else .ok (.ofSubstring p) := by
  have hbars : ¬ p.all (· == '|') = true := by simpa using hbar
  rw [compilePattern, if_neg hne, if_neg (RuleLine.isRegexPattern_iff.not.mpr hbetween),
    if_neg hbars]

theorem compilePattern_signs (hbetween : ¬ IsBetweenSlashes p) (hbar : ∃ c ∈ p, c ≠ '|')
    (hsign : ∃ c ∈ p, isSign c = true) :
    compilePattern p = liftFault (Matcher.ofPattern p) := by
  have hne : p ≠ ['/', '/'] := by
    rintro rfl
    obtain ⟨c, hc, hs⟩ := hsign
    obtain rfl : c = '/' := by simpa using hc
    exact absurd hs (by decide)
  rw [compilePattern_eq hbetween hne hbar, if_pos (List.any_eq_true.mpr hsign)]

theorem compilePattern_plain (hbetween : ¬ IsBetweenSlashes p) (hne : p ≠ ['/', '/'])
    (hnil : p ≠ []) (hsign : ∀ c ∈ p, isSign c = false) :
    compilePattern p = .ok (.ofSubstring p) := by
  obtain ⟨c, hc⟩ := List.exists_mem_of_ne_nil p hnil
  have hbar : c ≠ '|' := by
    rintro rfl
    exact absurd (hsign '|' hc) (by decide)
  have hany : ¬ p.any isSign = true := by simpa using hsign
  rw [compilePattern_eq hbetween hne ⟨c, hc, hbar⟩, if_neg hany]

theorem Becomes.compilePattern_eq (h : Becomes p m) : compilePattern p = .ok m := by
  cases h with
  | regex hx hr =>
      rw [compilePattern_between hx, Matcher.ofExpression, hr]
      rfl
  | pattern hbetween hbar hsign hr =>
      rw [compilePattern_signs hbetween hbar hsign, Matcher.ofPattern, hr]
      rfl
  | substring hbetween hne hnil hsign => exact compilePattern_plain hbetween hne hnil hsign

theorem Refuses.compilePattern_eq {fault : RuleFault} (h : Refuses p fault) :
    compilePattern p = .error fault := by
  cases h with
  | emptyRegex => rfl
  | regex hx hr =>
      rw [compilePattern_between hx, Matcher.ofExpression, hr]
      rfl
  | onlyAnchors hbars => exact compilePattern_bars hbars
  | pattern hbetween hbar hsign hr =>
      rw [compilePattern_signs hbetween hbar hsign, Matcher.ofPattern, hr]
      rfl

/-- Every pattern is compiled, or there is a reason why not. -/
theorem becomes_or_refuses (p : Text) : (∃ m, Becomes p m) ∨ ∃ fault, Refuses p fault := by
  by_cases hbetween : IsBetweenSlashes p
  · obtain ⟨x, hx, rfl⟩ := hbetween
    cases hr : Regex.compile x with
    | ok r => exact .inl ⟨_, .regex hx hr⟩
    | error fault => exact .inr ⟨_, .regex hx hr⟩
  by_cases hslashes : p = ['/', '/']
  · rw [hslashes]
    exact .inr ⟨_, .emptyRegex⟩
  by_cases hbars : ∀ c ∈ p, c = '|'
  · exact .inr ⟨_, .onlyAnchors hbars⟩
  have hbar : ∃ c ∈ p, c ≠ '|' := by simpa using hbars
  by_cases hsign : ∃ c ∈ p, isSign c = true
  · cases hr : Regex.compile (Pattern.expression p) with
    | ok r => exact .inl ⟨_, .pattern hbetween hbar hsign hr⟩
    | error fault => exact .inr ⟨_, .pattern hbetween hbar hsign hr⟩
  · obtain ⟨c, hc, -⟩ := hbar
    exact .inl ⟨_, .substring hbetween hslashes (List.ne_nil_of_mem hc) (by simpa using hsign)⟩

theorem compilePattern_eq_ok_iff : compilePattern p = .ok m ↔ Becomes p m := by
  refine ⟨fun h => ?_, Becomes.compilePattern_eq⟩
  rcases becomes_or_refuses p with ⟨m', hm⟩ | ⟨fault, hfault⟩
  · rw [hm.compilePattern_eq] at h
    cases h
    exact hm
  · rw [hfault.compilePattern_eq] at h
    cases h

theorem compilePattern_eq_error_iff {fault : RuleFault} :
    compilePattern p = .error fault ↔ Refuses p fault := by
  refine ⟨fun h => ?_, Refuses.compilePattern_eq⟩
  rcases becomes_or_refuses p with ⟨m', hm⟩ | ⟨fault', hfault⟩
  · rw [hm.compilePattern_eq] at h
    cases h
  · rw [hfault.compilePattern_eq] at h
    cases h
    exact hfault

/-- No matcher accepts URLs for want of something to look for. -/
theorem Becomes.hasContent (h : Becomes p m) : m.HasContent := by
  cases h with
  | regex hx hr => exact .regex hx hr
  | pattern _ hbar _ hr =>
      obtain ⟨c, hc, hne⟩ := hbar
      exact .pattern (List.ne_nil_of_mem (Pattern.mem_body_of_ne_bar hc hne)) hr
  | substring _ _ hnil _ => exact .substring (Unicode.lowercase_ne_nil hnil)

end

/-! ## Rules of lines -/

section

variable {line : Text} {read : RuleLine}

theorem compile_of_unmatched (hread : RuleLine.parse line = .ok read)
    (hkind : read.kind.isMatchable = false) :
    compile line = .ok ⟨read.kind, none, read.options, read.source⟩ := by
  refine (compile_eq_ok_iff_of_parse hread).mpr ⟨none, ?_, rfl⟩
  rw [compileLine, hkind]
  rfl

theorem compile_of_matchable (hread : RuleLine.parse line = .ok read)
    (hkind : read.kind.isMatchable = true) :
    compile line =
      match compilePattern read.pattern with
      | .ok m => .ok ⟨read.kind, some m, read.options, line.trim⟩
      | .error fault => .error ⟨line.trim, fault⟩ := by
  rw [compile, hread, ← (RuleLine.parse_eq_ok_iff.mp hread).source_eq]
  simp only [compileLine, hkind, if_true]
  cases compilePattern read.pattern with
  | ok m => rfl
  | error fault => rfl

/-- A line that is matched against URLs is compiled to what its pattern becomes. -/
theorem compile_eq_ok_iff_becomes (hread : RuleLine.parse line = .ok read)
    (hkind : read.kind.isMatchable = true) {rule : Rule} :
    compile line = .ok rule ↔
      ∃ m, Becomes read.pattern m ∧ rule = ⟨read.kind, some m, read.options, line.trim⟩ := by
  rw [compile_of_matchable hread hkind]
  simp only [← compilePattern_eq_ok_iff]
  cases compilePattern read.pattern with
  | ok m => simp [eq_comm]
  | error fault => simp

/-- It is refused for the reason for which its pattern is. -/
theorem compile_eq_error_iff_refuses (hread : RuleLine.parse line = .ok read)
    (hkind : read.kind.isMatchable = true) {e : InvalidRule} :
    compile line = .error e ↔ ∃ fault, Refuses read.pattern fault ∧ e = ⟨line.trim, fault⟩ := by
  rw [compile_of_matchable hread hkind]
  simp only [← compilePattern_eq_error_iff]
  cases compilePattern read.pattern with
  | ok m => simp
  | error fault => simp [eq_comm]

/-- A line that is refused is named as it was trimmed. -/
theorem rule_eq_of_compile_error {e : InvalidRule} (h : compile line = .error e) :
    e.rule = line.trim := by
  cases hread : RuleLine.parse line with
  | error fault =>
      rw [compile, hread] at h
      cases h
      rfl
  | ok read =>
      cases hkind : read.kind.isMatchable with
      | false =>
          rw [compile_of_unmatched hread hkind] at h
          cases h
      | true =>
          obtain ⟨fault, -, rfl⟩ := (compile_eq_error_iff_refuses hread hkind).mp h
          rfl

theorem hasContent_of_compile {rule : Rule} {m : Matcher} (h : compile line = .ok rule)
    (hm : rule.matcher = some m) : m.HasContent := by
  obtain ⟨read, matcher, -, hmatcher, rfl⟩ := compile_eq_ok_iff.mp h
  rw [show matcher = some m from hm] at hmatcher
  exact (compilePattern_eq_ok_iff.mp (compileLine_eq_some_iff.mp hmatcher).2).hasContent

end

/-- Every line is compiled as its kind and its pattern say.  A line that cannot be read is refused
for that reason, a comment or a cosmetic rule matches nothing, and any other line gets the matcher
that its pattern becomes, or is refused for the reason for which the pattern is.  Whatever is
refused is named as it was trimmed, and whatever is compiled looks for something. -/
theorem compile_follows_pattern (line : Text) :
    (∀ fault, RuleLine.parse line = .error fault →
        compile line = .error ⟨line.trim, .line fault⟩) ∧
      (∀ read, RuleLine.parse line = .ok read → read.kind.isMatchable = false →
        ∃ rule, compile line = .ok rule ∧ rule.kind = read.kind ∧ rule.matcher = none ∧
          ∀ u, rule.accepts u = false) ∧
      (∀ read, RuleLine.parse line = .ok read → read.kind.isMatchable = true →
        (∀ rule, compile line = .ok rule ↔
            ∃ m, Becomes read.pattern m ∧
              rule = ⟨read.kind, some m, read.options, line.trim⟩) ∧
          ∀ e, compile line = .error e ↔
            ∃ fault, Refuses read.pattern fault ∧ e = ⟨line.trim, fault⟩) ∧
      (∀ e, compile line = .error e → e.rule = line.trim) ∧
      ∀ rule m, compile line = .ok rule → rule.matcher = some m → m.HasContent := by
  refine ⟨fun fault hread => ?_, fun read hread hkind => ?_, fun read hread hkind => ?_,
    fun e => rule_eq_of_compile_error, fun rule m => hasContent_of_compile⟩
  · rw [compile, hread]
  · exact ⟨_, compile_of_unmatched hread hkind, rfl, rfl, fun u => rfl⟩
  · exact ⟨fun rule => compile_eq_ok_iff_becomes hread hkind,
      fun e => compile_eq_error_iff_refuses hread hkind⟩

/-- A bar between slashes is an expression, and two slashes are none. -/
example : (ofLine? "/|/".toList).bind (·.matcher.map Matcher.expression) = some ['|'] ∧
    compile "@@ //$x".toList = .error ⟨"@@ //$x".toList, .emptyRegex⟩ := by
  decide +kernel

end Rule

end UrlFilter
