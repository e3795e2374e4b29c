import Mathlib.Data.List.Basic
import UrlFilter.Proofs.Text
import UrlFilter.Rule.Line

/-!
# What a line of a filter list says

`Reads t r` is the grammar of trimmed lines, without a reader: what kind of rule a line is, where
its body starts, and where the body is cut into a pattern and options.  `Refuses t fault` lists the
lines that are no rules.  `RuleLine.parse` gives exactly these results (`parse_follows_grammar`).

*Cutting.*  There are three ways to cut a body, and which of them applies depends on the last slash.
A body is *closed* if it starts with a slash and its last slash, which is another one, ends it or
stands right before a `$`.  A closed body is cut at that slash.  Any other body is cut at its last
`$`, unless it starts with a slash and ends with a `$`: then it is an expression that was never
closed.

*Nothing is lost.*  A line that is matched against URLs is its marker, its pattern and its options,
with blanks between them (`Written`).
-/

namespace UrlFilter.RuleLine

open Text (Blank isBlank)

/-! ## Kinds -/

/-- A line starts as comments and list headers do. -/
def StartsAsComment (t : Text) : Prop :=
  (∃ r, t = '!' :: r) ∨ ∃ h r, t = h ++ r ∧ h.map Text.asciiLower = "[adblock".toList

/-- A line holds what separates a page from its elements. -/
def HoldsSeparator (t : Text) : Prop :=
  ∃ s ∈ ["##", "#@#", "#?#", "#@?#", "#$#", "#@$#", "#%#", "#@%#"], s.toList <:+: t

theorem isHeader_iff {t : Text} :
    isHeader t = true ↔ ∃ h r, t = h ++ r ∧ h.map Text.asciiLower = "[adblock".toList := by
  have hlower : headerStart.map Text.asciiLower = headerStart := by decide
  rw [isHeader, Text.eqIgnoringAsciiCase, beq_iff_eq, hlower]
  constructor
  · intro h
    exact ⟨_, _, (List.take_append_drop _ t).symm, h⟩
  · rintro ⟨h, r, rfl, hh⟩
    have hlen : h.length = headerStart.length := by
      have := congrArg List.length hh
      rwa [List.length_map] at this
    rw [← hlen, List.take_left, hh]
    rfl

theorem isComment_iff {t : Text} : isComment t = true ↔ StartsAsComment t := by
  rw [isComment, Bool.or_eq_true, isHeader_iff, beq_iff_eq, List.head?_eq_some_iff]
  rfl

theorem isCosmetic_iff {t : Text} : isCosmetic t = true ↔ HoldsSeparator t := by
  have hseparators : cosmeticSeparators =
      ["##", "#@#", "#?#", "#@?#", "#$#", "#@$#", "#%#", "#@%#"].map String.toList := rfl
  rw [isCosmetic, List.any_eq_true, hseparators, HoldsSeparator]
  simp only [List.mem_map, exists_exists_and_eq_and, Text.occursIn_iff]

/-- The first character of a comment, in lower case. -/
theorem StartsAsComment.head {t : Text} (h : StartsAsComment t) :
    t.head?.map Text.asciiLower = some '!' ∨ t.head?.map Text.asciiLower = some '[' := by
  rcases h with ⟨r, rfl⟩ | ⟨h, r, rfl, hh⟩
  · exact .inl rfl
  · cases h with
    | nil => cases hh
    | cons c h => exact .inr (congrArg some (List.head_eq_of_cons_eq hh))

theorem HoldsSeparator.hash_mem {t : Text} (h : HoldsSeparator t) : '#' ∈ t := by
  have hhash : ∀ s ∈ ["##", "#@#", "#?#", "#@?#", "#$#", "#@$#", "#%#", "#@%#"],
      '#' ∈ s.toList := by decide
  obtain ⟨s, hs, hpiece⟩ := h
  exact hpiece.subset (hhash s hs)

/-! ## Markers -/

/-- What stands in front of the pattern of a rule. -/
def marker : RuleKind → Text
  | .exception => "@@".toList
  | .comment | .cosmetic | .blocking => []

/-- The kind of a rule that is matched against URLs, and the body behind its marker. -/
inductive Opens : Text → RuleKind → Text → Prop where
  /-- The marker is the one of exceptions; the blanks behind it are left out. -/
  | exception {w body : Text} : Blank w → (∀ c, body.head? = some c → isBlank c = false) →
      Opens ("@@".toList ++ (w ++ body)) .exception body
  /-- Without that marker the rule blocks. -/
  | blocking {body : Text} : ¬ "@@".toList <+: body → Opens body .blocking body

theorem kindAndBody_eq_iff {t body : Text} {kind : RuleKind} :
    kindAndBody t = (kind, body) ↔ Opens t kind body := by
  rw [kindAndBody, exceptionMarker]
  cases hmarker : "@@".toList.isPrefixOf? t with
  | some rest =>
      rw [List.isPrefixOf?_eq_some_iff_append_eq] at hmarker
      obtain rfl := hmarker
      rw [Prod.mk.injEq, Text.trimStart_eq_iff]
      constructor
      · rintro ⟨rfl, ⟨w, hw, rfl⟩, hbody⟩
        exact .exception hw hbody
      · generalize ht : "@@".toList ++ rest = t
        intro h
        cases h with
        | exception hw hbody => exact ⟨rfl, ⟨_, hw, List.append_cancel_left ht⟩, hbody⟩
        | blocking hno => exact absurd ⟨rest, ht⟩ hno
  | none =>
      have hno : ¬ "@@".toList <+: t := by
        rintro ⟨rest, hrest⟩
        rw [← List.isPrefixOf?_eq_some_iff_append_eq, hmarker] at hrest
        cases hrest
      rw [Prod.mk.injEq]
      constructor
      · rintro ⟨rfl, rfl⟩
        exact .blocking hno
      · intro h
        cases h with
        | exception _ _ => exact absurd (List.prefix_append _ _) hno
        | blocking _ => exact ⟨rfl, rfl⟩

/-- The line is its marker, blanks and its body. -/
theorem Opens.eq_marker_append {t body : Text} {kind : RuleKind} (h : Opens t kind body) :
    ∃ w, Blank w ∧ t = marker kind ++ (w ++ body) := by
  cases h with
  | exception hw _ => exact ⟨_, hw, rfl⟩
  | blocking _ => exact ⟨[], Text.blank_nil, rfl⟩

/-- The body of a trimmed line starts without a blank. -/
theorem Opens.body_head {t body : Text} {kind : RuleKind} (h : Opens t kind body)
    (ht : ∀ c, t.head? = some c → isBlank c = false) :
    ∀ c, body.head? = some c → isBlank c = false := by
  cases h with
  | exception _ hbody => exact hbody
  | blocking _ => exact ht

/-- The body of a trimmed line ends without a blank. -/
theorem Opens.body_last {t body : Text} {kind : RuleKind} (h : Opens t kind body)
    (ht : ∀ c, t.getLast? = some c → isBlank c = false) :
    ∀ c, body.getLast? = some c → isBlank c = false := by
  obtain ⟨w, -, rfl⟩ := h.eq_marker_append
  intro c hc
  apply ht
  rw [List.getLast?_append, List.getLast?_append, hc]
  rfl

/-! ## Options -/

/-- The options of a block: its pieces between commas, trimmed, without the empty ones. -/
def IsOptions (block : Text) (options : List Text) : Prop :=
  ∃ pieces : List Text, pieces ≠ [] ∧ [','].intercalate pieces = block ∧
    (∀ piece ∈ pieces, ',' ∉ piece) ∧ options = (pieces.map Text.trim).filter (· ≠ [])

theorem isOptions_iff {block : Text} {options : List Text} :
    IsOptions block options ↔ splitOptions block = options := by
  have hfilter : (fun piece : Text => decide (piece ≠ [])) = fun piece => !piece.isEmpty := by
    funext piece
    cases piece <;> rfl
  rw [IsOptions, splitOptions, hfilter]
  constructor
  · rintro ⟨pieces, hne, rfl, hcomma, rfl⟩
    rw [List.splitOn_intercalate ',' hcomma hne]
  · rintro rfl
    exact ⟨_, List.splitOn_ne_nil _ _, List.intercalate_splitOn _,
      fun _ => Text.notMem_of_mem_splitOn, rfl⟩

/-! ## Cutting -/

/-- A body that starts with a slash and has another, its last one, at its end or before a `$`. -/
inductive IsClosed : Text → Prop where
  /-- The last slash ends the body. -/
  | atEnd {interior : Text} : IsClosed ('/' :: (interior ++ ['/']))
  /-- A `$` stands behind the last slash. -/
  | beforeDollar {interior block : Text} : '/' ∉ block →
      IsClosed ('/' :: (interior ++ '/' :: '$' :: block))

/-- A body that starts as an expression, ends with a `$` and is not closed. -/
def IsUnterminated (body : Text) : Prop :=
  ¬ IsClosed body ∧ body.head? = some '/' ∧ body.getLast? = some '$'

/-- A body is cut into a pattern and options. -/
inductive Cut : Text → Text → List Text → Prop where
  /-- A body between slashes is a pattern. -/
  | whole {interior : Text} : Cut ('/' :: (interior ++ ['/'])) ('/' :: (interior ++ ['/'])) []
  /-- A `$` behind the last slash starts the options. -/
  | atSlash {interior block : Text} {options : List Text} : '/' ∉ block → IsOptions block options →
      Cut ('/' :: (interior ++ '/' :: '$' :: block)) ('/' :: (interior ++ ['/'])) options
  /-- Any other body is cut at its last `$`. -/
  | atDollar {body pattern w block : Text} {options : List Text} : ¬ IsClosed body →
      ¬ IsUnterminated body → body = pattern ++ (w ++ '$' :: block) → '$' ∉ block → Blank w →
      (∀ c, pattern.getLast? = some c → isBlank c = false) → IsOptions block options →
      Cut body pattern options
  /-- Without a `$` there are no options. -/
  | plain {body : Text} : ¬ IsClosed body → '$' ∉ body → Cut body body []

theorem cutAtSlash_atEnd (interior : Text) :
    cutAtSlash ('/' :: (interior ++ ['/'])) = some ('/' :: (interior ++ ['/']), []) := by
  have h := Text.splitAtLast_append ('/' :: interior) (List.not_mem_nil (a := '/'))
  rw [cutAtSlash, ← List.cons_append, h]

theorem cutAtSlash_beforeDollar (interior : Text) {block : Text} (hblock : '/' ∉ block) :
    cutAtSlash ('/' :: (interior ++ '/' :: '$' :: block)) =
      some ('/' :: (interior ++ ['/']), splitOptions block) := by
  have hslash : '/' ∉ '$' :: block := by
    rw [List.mem_cons, not_or]
    exact ⟨by decide, hblock⟩
  rw [cutAtSlash, ← List.cons_append, Text.splitAtLast_append ('/' :: interior) hslash]
  rfl

theorem isClosed_of_cutAtSlash {body : Text} {cut : Text × List Text}
    (hhead : body.head? = some '/') (h : cutAtSlash body = some cut) : IsClosed body := by
  unfold cutAtSlash at h
  split at h
  · next c interior hsplit =>
      obtain ⟨rfl, -⟩ := Text.splitAtLast_eq_some_iff.mp hsplit
      obtain rfl := Option.some.inj hhead
      exact .atEnd
  · next c interior block hsplit =>
      obtain ⟨rfl, hslash⟩ := Text.splitAtLast_eq_some_iff.mp hsplit
      obtain rfl := Option.some.inj hhead
      exact .beforeDollar fun hblock => hslash (List.mem_cons_of_mem _ hblock)
  · cases h

theorem IsClosed.guard {body : Text} (h : IsClosed body) :
    body.head? = some '/' ∧ 1 < body.length := by
  cases h with
  | atEnd => exact ⟨rfl, by simp⟩
  | beforeDollar _ => exact ⟨rfl, by simp only [List.length_cons, List.length_append]; omega⟩

theorem IsUnterminated.guard {body : Text} (h : IsUnterminated body) :
    body.head? = some '/' ∧ 1 < body.length := by
  obtain ⟨-, hhead, hlast⟩ := h
  refine ⟨hhead, ?_⟩
  match body, hhead, hlast with
  | ['/'], _, hlast => cases hlast
  | _ :: _ :: _, _, _ => simp

theorem cutBody_of_cutAtSlash {body : Text} {cut : Text × List Text} (hclosed : IsClosed body)
    (h : cutAtSlash body = some cut) : cutBody body = .ok cut := by
  rw [cutBody, if_pos hclosed.guard, h]

theorem cutAtSlash_eq_none {body : Text} (hclosed : ¬ IsClosed body)
    (hhead : body.head? = some '/') : cutAtSlash body = none := by
  cases hcut : cutAtSlash body with
  | none => rfl
  | some cut => exact absurd (isClosed_of_cutAtSlash hhead hcut) hclosed

/-- An expression that was never closed is not cut. -/
theorem IsUnterminated.cutBody_eq {body : Text} (h : IsUnterminated body) :
    cutBody body = .error .unterminatedRegex := by
  have hguard := h.guard
  obtain ⟨hclosed, hhead, hlast⟩ := h
  rw [cutBody, if_pos hguard, cutAtSlash_eq_none hclosed hhead, if_pos hlast]

/-- Any other body that is not closed is cut at its last `$`. -/
theorem cutBody_eq_cutAtDollar {body : Text} (hclosed : ¬ IsClosed body)
    (hopen : ¬ IsUnterminated body) : cutBody body = .ok (cutAtDollar body) := by
  rw [cutBody]
  split
  · next hguard =>
      have hlast : body.getLast? ≠ some '$' := fun hlast => hopen ⟨hclosed, hguard.1, hlast⟩
      rw [cutAtSlash_eq_none hclosed hguard.1, if_neg hlast]
  · rfl

theorem cutAtDollar_of_notMem {body : Text} (h : '$' ∉ body) : cutAtDollar body = (body, []) := by
  rw [cutAtDollar, Text.splitAtLast_eq_none_iff.mpr h]

theorem cutAtDollar_append (before : Text) {block : Text} (h : '$' ∉ block) :
    cutAtDollar (before ++ '$' :: block) = (before.trimEnd, splitOptions block) := by
  rw [cutAtDollar, Text.splitAtLast_append before h]

/-- A body is cut in one way only. -/
theorem Cut.cutBody_eq {body pattern : Text} {options : List Text} (h : Cut body pattern options) :
    cutBody body = .ok (pattern, options) := by
  cases h with
  | whole => exact cutBody_of_cutAtSlash .atEnd (cutAtSlash_atEnd _)
  | atSlash hblock hoptions =>
      rw [← isOptions_iff.mp hoptions]
      exact cutBody_of_cutAtSlash (.beforeDollar hblock) (cutAtSlash_beforeDollar _ hblock)
  | atDollar hclosed hopen hbody hblock hw hlast hoptions =>
      rw [cutBody_eq_cutAtDollar hclosed hopen, hbody, ← List.append_assoc,
        cutAtDollar_append _ hblock, isOptions_iff.mp hoptions,
        Text.trimEnd_eq_iff.mpr ⟨⟨_, hw, rfl⟩, hlast⟩]
  | plain hclosed hdollar =>
      have hopen : ¬ IsUnterminated body := by
        rintro ⟨-, -, hlast⟩
        exact hdollar (List.mem_of_getLast? hlast)
      rw [cutBody_eq_cutAtDollar hclosed hopen, cutAtDollar_of_notMem hdollar]

/-- There is a way to cut every body but an expression that was not closed. -/
theorem exists_cut_or_isUnterminated (body : Text) :
    (∃ pattern options, Cut body pattern options) ∨ IsUnterminated body := by
  by_cases hopen : IsUnterminated body
  · exact .inr hopen
  left
  by_cases hclosed : IsClosed body
  · cases hclosed with
    | atEnd => exact ⟨_, _, .whole⟩
    | beforeDollar hblock => exact ⟨_, _, .atSlash hblock (isOptions_iff.mpr rfl)⟩
  cases hsplit : Text.splitAtLast '$' body with
  | none => exact ⟨_, _, .plain hclosed (Text.splitAtLast_eq_none_iff.mp hsplit)⟩
  | some p =>
      obtain ⟨before, block⟩ := p
      obtain ⟨hbody, hblock⟩ := Text.splitAtLast_eq_some_iff.mp hsplit
      obtain ⟨⟨w, hw, hbefore⟩, hlast⟩ := Text.trimEnd_eq_iff.mp (rfl : before.trimEnd = _)
      refine ⟨_, _, .atDollar hclosed hopen ?_ hblock hw hlast (isOptions_iff.mpr rfl)⟩
      rw [hbody, ← List.append_assoc, ← hbefore]

theorem cutBody_eq_ok_iff {body pattern : Text} {options : List Text} :
    cutBody body = .ok (pattern, options) ↔ Cut body pattern options := by
  constructor
  · intro h
    rcases exists_cut_or_isUnterminated body with ⟨pattern', options', hcut⟩ | hopen
    · rw [hcut.cutBody_eq] at h
      cases h
      exact hcut
    · rw [hopen.cutBody_eq] at h
      cases h
  · intro h
    exact h.cutBody_eq

theorem cutBody_eq_error_iff {body : Text} {fault : LineFault} :
    cutBody body = .error fault ↔ fault = .unterminatedRegex ∧ IsUnterminated body := by
  constructor
  · intro h
    rcases exists_cut_or_isUnterminated body with ⟨pattern', options', hcut⟩ | hopen
    · rw [hcut.cutBody_eq] at h
      cases h
    · rw [hopen.cutBody_eq] at h
      cases h
      exact ⟨rfl, hopen⟩
  · rintro ⟨rfl, hopen⟩
    exact hopen.cutBody_eq

/-- What is cut off a body is nothing but blanks in front of a `$`, and the options behind it. -/
theorem Cut.eq_append {body pattern : Text} {options : List Text} (h : Cut body pattern options) :
    ∃ w, Blank w ∧ ((options = [] ∧ body = pattern ++ w) ∨
      ∃ block, IsOptions block options ∧ body = pattern ++ (w ++ '$' :: block)) := by
  cases h with
  | whole => exact ⟨[], Text.blank_nil, .inl ⟨rfl, by simp⟩⟩
  | atSlash _ hoptions => exact ⟨[], Text.blank_nil, .inr ⟨_, hoptions, by simp⟩⟩
  | atDollar _ _ hbody _ hw _ hoptions => exact ⟨_, hw, .inr ⟨_, hoptions, hbody⟩⟩
  | plain _ _ => exact ⟨[], Text.blank_nil, .inl ⟨rfl, by simp⟩⟩

/-- The pattern of a body has no blanks at its ends, if the body has none. -/
theorem Cut.trim_pattern {body pattern : Text} {options : List Text} (h : Cut body pattern options)
    (hfirst : ∀ c, body.head? = some c → isBlank c = false)
    (hlast : ∀ c, body.getLast? = some c → isBlank c = false) : pattern.trim = pattern := by
  have hhead : ∀ c, pattern.head? = some c → isBlank c = false := by
    intro c hc
    obtain ⟨w, -, ⟨-, rfl⟩ | ⟨block, -, rfl⟩⟩ := h.eq_append
    · exact hfirst c (by rw [List.head?_append, hc]; rfl)
    · exact hfirst c (by rw [List.head?_append, hc]; rfl)
  refine Text.trim_eq_self hhead fun c hc => ?_
  cases h with
  | whole => exact hlast c hc
  | atSlash _ _ =>
      rw [← List.cons_append, List.getLast?_concat] at hc
      obtain rfl := Option.some.inj hc
      decide
  | atDollar _ _ _ _ _ hpattern _ => exact hpattern c hc
  | plain _ _ => exact hlast c hc

/-- Nothing is left of a body for the pattern. -/
theorem cut_nil_iff {body : Text} (hfirst : ∀ c, body.head? = some c → isBlank c = false) :
    (∃ options, Cut body [] options) ↔ body = [] ∨ ∃ block, body = '$' :: block ∧ '$' ∉ block := by
  constructor
  · rintro ⟨options, h⟩
    generalize hpattern : ([] : Text) = pattern at h
    cases h with
    | whole => cases hpattern
    | atSlash _ _ => cases hpattern
    | atDollar _ _ hbody hblock hw _ _ =>
        rw [← hpattern, List.nil_append] at hbody
        rw [hbody] at hfirst
        rw [Text.eq_nil_of_blank_append hw hfirst] at hbody
        exact .inr ⟨_, hbody, hblock⟩
    | plain _ _ => exact .inl rfl
  · rintro (rfl | ⟨block, rfl, hblock⟩)
    · exact ⟨[], .plain (fun h => by cases h) List.not_mem_nil⟩
    · refine ⟨_, .atDollar (w := []) (fun h => by cases h) ?_ rfl hblock Text.blank_nil ?_
        (isOptions_iff.mpr rfl)⟩
      · rintro ⟨-, hhead, -⟩
        cases hhead
      · intro c hc
        cases hc

/-! ## Lines -/

/-- What a trimmed line says. -/
inductive Reads (t : Text) : RuleLine → Prop where
  /-- A comment has neither pattern nor options. -/
  | comment : StartsAsComment t → Reads t ⟨.comment, [], [], t⟩
  /-- A cosmetic rule has neither pattern nor options. -/
  | cosmetic : ¬ StartsAsComment t → HoldsSeparator t → Reads t ⟨.cosmetic, [], [], t⟩
  /-- Any other rule has both, from the body behind its marker. -/
  | rule {kind : RuleKind} {body pattern : Text} {options : List Text} : ¬ StartsAsComment t →
      ¬ HoldsSeparator t → Opens t kind body → Cut body pattern options → pattern ≠ [] →
      Reads t ⟨kind, pattern, options, t⟩

/-- Why a trimmed line says nothing. -/
inductive Refuses (t : Text) : LineFault → Prop where
  /-- It is empty. -/
  | emptyRule : t = [] → Refuses t .emptyRule
  /-- Its body is empty, or holds a single `$` and starts with it. -/
  | emptyPattern {kind : RuleKind} {body : Text} : t ≠ [] → ¬ StartsAsComment t →
      ¬ HoldsSeparator t → Opens t kind body →
      (body = [] ∨ ∃ block, body = '$' :: block ∧ '$' ∉ block) → Refuses t .emptyPattern
  /-- Its body is an expression that is not closed. -/
  | unterminatedRegex {kind : RuleKind} {body : Text} : ¬ StartsAsComment t →
      ¬ HoldsSeparator t → Opens t kind body → IsUnterminated body → Refuses t .unterminatedRegex

/-- A rule that is matched against URLs is its marker, its pattern and its options, with blanks
between them. -/
def Written (r : RuleLine) : Prop :=
  r.pattern ≠ [] ∧ r.pattern.trim = r.pattern ∧ ∃ w w', Blank w ∧ Blank w' ∧
    ((r.options = [] ∧ r.source = marker r.kind ++ (w ++ (r.pattern ++ w'))) ∨
      ∃ block, IsOptions block r.options ∧
        r.source = marker r.kind ++ (w ++ (r.pattern ++ (w' ++ '$' :: block))))

theorem not_startsAsComment_nil : ¬ StartsAsComment [] := by
  rw [← isComment_iff]
  decide

theorem not_holdsSeparator_nil : ¬ HoldsSeparator [] := by
  rw [← isCosmetic_iff]
  decide

theorem parseTrimmed_of_startsAsComment {t : Text} (h : StartsAsComment t) :
    parseTrimmed t = .ok ⟨.comment, [], [], t⟩ := by
  have hne : t ≠ [] := by
    rintro rfl
    exact not_startsAsComment_nil h
  rw [parseTrimmed, if_neg (by simpa using hne), if_pos (isComment_iff.mpr h)]
  rfl

theorem parseTrimmed_of_holdsSeparator {t : Text} (hcomment : ¬ StartsAsComment t)
    (h : HoldsSeparator t) : parseTrimmed t = .ok ⟨.cosmetic, [], [], t⟩ := by
  have hne : t ≠ [] := by
    rintro rfl
    exact not_holdsSeparator_nil h
  rw [parseTrimmed, if_neg (by simpa using hne), if_neg (by rwa [isComment_iff]),
    if_pos (isCosmetic_iff.mpr h)]
  rfl

/-- A line that is neither empty nor a comment nor cosmetic is read from its body. -/
theorem parseTrimmed_of_opens {t body : Text} {kind : RuleKind} (hne : t ≠ [])
    (hcomment : ¬ StartsAsComment t) (hcosmetic : ¬ HoldsSeparator t) (h : Opens t kind body) :
    parseTrimmed t = (cutBody body).bind fun cut =>
      if cut.1 = [] then .error .emptyPattern else .ok ⟨kind, cut.1, cut.2, t⟩ := by
  rw [parseTrimmed, if_neg (by simpa using hne), if_neg (by rwa [isComment_iff]),
    if_neg (by rwa [isCosmetic_iff]), kindAndBody_eq_iff.mpr h]
  dsimp only
  cases cutBody body with
  | error fault => rfl
  | ok cut => simp only [Except.bind, List.isEmpty_iff]

theorem Reads.parseTrimmed_eq {t : Text} {r : RuleLine} (h : Reads t r) :
    parseTrimmed t = .ok r := by
  cases h with
  | comment hcomment => exact parseTrimmed_of_startsAsComment hcomment
  | cosmetic hcomment hcosmetic => exact parseTrimmed_of_holdsSeparator hcomment hcosmetic
  | @rule kind body pattern options hcomment hcosmetic hopens hcut hpattern =>
      have hne : t ≠ [] := by
        rintro rfl
        obtain ⟨w, -, hw⟩ := hopens.eq_marker_append
        obtain ⟨w', -, ⟨-, hbody⟩ | ⟨block, -, hbody⟩⟩ := hcut.eq_append
        · simp [hbody, hpattern] at hw
        · simp [hbody] at hw
      rw [parseTrimmed_of_opens hne hcomment hcosmetic hopens, cutBody_eq_ok_iff.mpr hcut]
      exact if_neg hpattern

theorem Refuses.parseTrimmed_eq {t : Text} {fault : LineFault}
    (hfirst : ∀ c, t.head? = some c → isBlank c = false) (h : Refuses t fault) :
    parseTrimmed t = .error fault := by
  cases h with
  | emptyRule hempty =>
      rw [hempty]
      rfl
  | emptyPattern hne hcomment hcosmetic hopens hbody =>
      obtain ⟨options, hcut⟩ := (cut_nil_iff (hopens.body_head hfirst)).mpr hbody
      rw [parseTrimmed_of_opens hne hcomment hcosmetic hopens, cutBody_eq_ok_iff.mpr hcut]
      rfl
  | unterminatedRegex hcomment hcosmetic hopens hbody =>
      have hne : t ≠ [] := by
        rintro rfl
        obtain ⟨w, -, hw⟩ := hopens.eq_marker_append
        have hlength := hbody.guard.2
        have hw := congrArg List.length hw
        simp only [List.length_append, List.length_nil] at hw
        omega
      rw [parseTrimmed_of_opens hne hcomment hcosmetic hopens,
        cutBody_eq_error_iff.mpr ⟨rfl, hbody⟩]
      rfl

/-- The grammar has a say on every line. -/
theorem reads_or_refuses {t : Text} (hfirst : ∀ c, t.head? = some c → isBlank c = false) :
    (∃ r, Reads t r) ∨ ∃ fault, Refuses t fault := by
  by_cases hempty : t = []
  · exact .inr ⟨_, .emptyRule hempty⟩
  by_cases hcomment : StartsAsComment t
  · exact .inl ⟨_, .comment hcomment⟩
  by_cases hcosmetic : HoldsSeparator t
  · exact .inl ⟨_, .cosmetic hcomment hcosmetic⟩
  have hopens : Opens t (kindAndBody t).1 (kindAndBody t).2 := kindAndBody_eq_iff.mp rfl
  rcases exists_cut_or_isUnterminated (kindAndBody t).2 with ⟨pattern, options, hcut⟩ | hbody
  · by_cases hpattern : pattern = []
    · rw [hpattern] at hcut
      have hbody := (cut_nil_iff (hopens.body_head hfirst)).mp ⟨options, hcut⟩
      exact .inr ⟨_, .emptyPattern hempty hcomment hcosmetic hopens hbody⟩
    · exact .inl ⟨_, .rule hcomment hcosmetic hopens hcut hpattern⟩
  · exact .inr ⟨_, .unterminatedRegex hcomment hcosmetic hopens hbody⟩

theorem trim_head_not_blank (line : Text) : ∀ c, line.trim.head? = some c → isBlank c = false :=
  fun _ => Text.head?_trim_not_blank

theorem parse_eq_ok_iff {line : Text} {r : RuleLine} : parse line = .ok r ↔ Reads line.trim r := by
  refine ⟨fun h => ?_, Reads.parseTrimmed_eq⟩
  rw [parse] at h
  rcases reads_or_refuses (trim_head_not_blank line) with ⟨r', hr⟩ | ⟨fault, hfault⟩
  · rw [hr.parseTrimmed_eq] at h
    cases h
    exact hr
  · rw [hfault.parseTrimmed_eq (trim_head_not_blank line)] at h
    cases h

theorem parse_eq_error_iff {line : Text} {fault : LineFault} :
    parse line = .error fault ↔ Refuses line.trim fault := by
  refine ⟨fun h => ?_, Refuses.parseTrimmed_eq (trim_head_not_blank line)⟩
  rw [parse] at h
  rcases reads_or_refuses (trim_head_not_blank line) with ⟨r', hr⟩ | ⟨fault', hfault⟩
  · rw [hr.parseTrimmed_eq] at h
    cases h
  · rw [hfault.parseTrimmed_eq (trim_head_not_blank line)] at h
    cases h
    exact hfault

/-- What is matched against URLs is written in its line with blanks only left out. -/
theorem Reads.written {t : Text} {r : RuleLine} (h : Reads t r)
    (hmatchable : r.kind.isMatchable = true) (hfirst : ∀ c, t.head? = some c → isBlank c = false)
    (hlast : ∀ c, t.getLast? = some c → isBlank c = false) : Written r := by
  cases h with
  | comment _ => cases hmatchable
  | cosmetic _ _ => cases hmatchable
  | rule _ _ hopens hcut hpattern =>
      refine ⟨hpattern, hcut.trim_pattern (hopens.body_head hfirst) (hopens.body_last hlast), ?_⟩
      obtain ⟨w, hw, rfl⟩ := hopens.eq_marker_append
      obtain ⟨w', hw', ⟨hoptions, rfl⟩ | ⟨block, hoptions, rfl⟩⟩ := hcut.eq_append
      · exact ⟨w, w', hw, hw', .inl ⟨hoptions, rfl⟩⟩
      · exact ⟨w, w', hw, hw', .inr ⟨block, hoptions, rfl⟩⟩

/-- A line gives what the grammar says, a rule or a fault, and of a rule that is matched against
URLs nothing is lost. -/
theorem parse_follows_grammar (line : Text) :
    (∀ r, parse line = .ok r ↔ Reads line.trim r) ∧
      (∀ fault, parse line = .error fault ↔ Refuses line.trim fault) ∧
      ∀ r, parse line = .ok r → r.kind.isMatchable = true → Written r := by
  refine ⟨fun r => parse_eq_ok_iff, fun fault => parse_eq_error_iff, fun r h hmatchable => ?_⟩
  exact (parse_eq_ok_iff.mp h).written hmatchable (trim_head_not_blank line)
    fun _ => Text.getLast?_trim_not_blank

/-- The commas and the first `$` are part of the expression, which the last slash closes. -/
example : parse " @@ /a,b$/$ x,,y ".toList =
    .ok ⟨.exception, "/a,b$/".toList, ["x".toList, "y".toList], "@@ /a,b$/$ x,,y".toList⟩ := by
  decide

end UrlFilter.RuleLine
