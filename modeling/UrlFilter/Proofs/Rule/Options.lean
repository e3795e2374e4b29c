import Mathlib.Data.List.Infix
import UrlFilter.Proofs.Rule.Batch

/-!
# Rules with options

Options are written behind a rule, after a `$`.  They are kept and never asked, so a rule with
options is the rule without them, except for the options that it keeps
(`Rule.compile_append_options`).

What there is to see is that the reader takes the line apart at the `$` that was put there.  The
start of the line stays what it was, since neither the marker of exceptions nor what comments start
with can reach over a `$` (`Opens.append_options`, `StartsAsComment.of_append`).  The body is cut
where it ended (`cut_append_options`): either it is an expression between slashes, and the options
hold no slash that could be taken for its end, or it holds no `$` of its own.
-/

namespace UrlFilter

namespace RuleLine

open Text (Blank isBlank)

/-! ## The start of a line -/

/-- What makes a line a comment stands in front of every `$`. -/
theorem StartsAsComment.of_append {t o : Text} (h : StartsAsComment (t ++ '$' :: o)) :
    StartsAsComment t := by
  rcases h with ⟨r, hr⟩ | ⟨h, r, hr, hh⟩
  · have hmark : ['!'] <+: t ++ '$' :: o := ⟨r, hr.symm⟩
    obtain ⟨q, rfl⟩ := Text.isPrefix_of_notMem (by decide) hmark
    exact .inl ⟨q, rfl⟩
  · have hfree : '$' ∉ h := by
      intro hc
      have hlower := List.mem_map_of_mem (f := Text.asciiLower) hc
      rw [hh] at hlower
      revert hlower
      decide
    obtain ⟨q, rfl⟩ := Text.isPrefix_of_notMem hfree ⟨r, hr.symm⟩
    exact .inr ⟨h, q, rfl, hh⟩

/-- A line holds the separators that a piece of it holds. -/
theorem HoldsSeparator.mono {s t : Text} (h : HoldsSeparator s) (hpiece : s <:+: t) :
    HoldsSeparator t := by
  obtain ⟨x, hx, hs⟩ := h
  exact ⟨x, hx, hs.trans hpiece⟩

/-- Options do not touch the marker in front of a body. -/
theorem Opens.append_options {t body : Text} {kind : RuleKind} (h : Opens t kind body) (o : Text) :
    Opens (t ++ '$' :: o) kind (body ++ '$' :: o) := by
  cases h with
  | @exception w body hw hbody =>
      rw [List.append_assoc, List.append_assoc]
      refine .exception hw fun c hc => ?_
      cases body with
      | nil =>
          obtain rfl := Option.some.inj hc
          decide
      | cons d body => exact hbody c hc
  | blocking hno => exact .blocking fun hmarker => hno (Text.isPrefix_of_notMem (by decide) hmarker)

/-! ## The end of a line -/

/-- Trimming a line with options trims the options. -/
theorem trim_append_options {t : Text} (ht : t.trim = t) (o : Text) :
    (t ++ '$' :: o).trim = t ++ '$' :: o.trimEnd := by
  obtain ⟨-, hfirst, -⟩ := Text.trim_eq_iff.mp ht
  obtain ⟨⟨w, hw, ho⟩, hlast⟩ := Text.trimEnd_eq_iff.mp (rfl : o.trimEnd = _)
  refine Text.trim_eq_iff.mpr ⟨⟨[], w, Text.blank_nil, hw, ?_⟩, fun c hc => ?_, fun c hc => ?_⟩
  · rw [List.nil_append, List.append_assoc, List.cons_append, ← ho]
  · cases t with
    | nil =>
        obtain rfl := Option.some.inj hc
        decide
    | cons d t => exact hfirst c hc
  · rw [List.getLast?_append_of_ne_nil _ (List.cons_ne_nil _ _)] at hc
    cases hend : o.trimEnd with
    | nil =>
        rw [hend] at hc
        obtain rfl := Option.some.inj hc
        decide
    | cons d r =>
        rw [hend, List.getLast?_cons_cons, ← hend] at hc
        exact hlast c hc

/-- Blanks behind the last piece are not part of an option. -/
theorem IsOptions.append_of_blank {block w : Text} {options : List Text}
    (h : IsOptions block options) (hw : Blank w) : IsOptions (block ++ w) options := by
  have hcomma : ',' ∉ w := fun hc => absurd (hw ',' hc) (by decide)
  obtain ⟨pieces, hne, rfl, hpieces, rfl⟩ := h
  obtain ⟨front, last, rfl⟩ := (List.eq_nil_or_concat' pieces).resolve_left hne
  rw [List.forall_mem_append, List.forall_mem_singleton] at hpieces
  refine ⟨front ++ [last ++ w], by simp, Text.intercalate_append_last _ front last w, ?_, ?_⟩
  · rw [List.forall_mem_append, List.forall_mem_singleton, List.mem_append, not_or]
    exact ⟨hpieces.1, hpieces.2, hcomma⟩
  · rw [List.map_append, List.map_append, List.map_singleton, List.map_singleton,
      Text.trim_append_of_blank hw]

/-! ## The cut -/

/-- Whether options may be put behind a body: it is an expression between slashes, or holds no
`$`. -/
def TakesOptions (body : Text) : Prop :=
  (∃ x, x ≠ [] ∧ body = '/' :: (x ++ ['/'])) ∨ '$' ∉ body

/-- What takes options stands between slashes, or is cut nowhere. -/
theorem TakesOptions.between_or_plain {body : Text} (h : TakesOptions body) :
    (∃ x, body = '/' :: (x ++ ['/'])) ∨ (¬ IsClosed body ∧ '$' ∉ body) := by
  rcases h with ⟨x, -, hx⟩ | hdollar
  · exact .inl ⟨x, hx⟩
  · by_cases hclosed : IsClosed body
    · cases hclosed with
      | atEnd => exact .inl ⟨_, rfl⟩
      | beforeDollar _ => simp at hdollar
    · exact .inr ⟨hclosed, hdollar⟩

/-- All of it is a pattern. -/
theorem TakesOptions.cut {body : Text} (h : TakesOptions body) : Cut body body [] := by
  rcases h.between_or_plain with ⟨x, rfl⟩ | ⟨hclosed, hdollar⟩
  · exact .whole
  · exact .plain hclosed hdollar

/-- Options do not close a body that was not closed. -/
theorem not_isClosed_append_options {body o : Text} (hclosed : ¬ IsClosed body)
    (hbody : '$' ∉ body) (hdollar : '$' ∉ o) (hslash : '/' ∉ o) :
    ¬ IsClosed (body ++ '$' :: o) := by
  generalize ht : body ++ '$' :: o = t
  intro h
  cases h with
  | @atEnd x =>
      have hlast := congrArg List.getLast? ht
      rw [List.getLast?_append_of_ne_nil _ (List.cons_ne_nil _ _), ← List.cons_append,
        List.getLast?_concat] at hlast
      have hmem := List.mem_of_getLast? hlast
      simp [hslash] at hmem
  | @beforeDollar x block _ =>
      have hcut : body ++ '$' :: o = '/' :: (x ++ ['/']) ++ '$' :: block := by simp [ht]
      have hfree : ∀ c ∈ body, ¬ c = '$' := by
        rintro c hc rfl
        exact hbody hc
      have hstop : ∀ c, ('$' :: block).head? = some c → c = '$' := fun c hc =>
        (Option.some.inj hc).symm
      obtain ⟨q, hq, ho⟩ := Text.exists_eq_append_of_stops (· = '$') hcut hfree hstop
      cases q with
      | nil =>
          rw [List.append_nil] at hq
          exact hclosed (hq ▸ .atEnd)
      | cons d q =>
          refine hdollar ?_
          rw [List.tail_eq_of_cons_eq ho]
          exact List.mem_append_right q List.mem_cons_self

/-- With options behind it, a body is cut where it ended before. -/
theorem TakesOptions.cut_append {body o : Text} {options : List Text} (h : TakesOptions body)
    (hlast : ∀ c, body.getLast? = some c → isBlank c = false) (hdollar : '$' ∉ o) (hslash : '/' ∉ o)
    (hne : o ≠ []) (ho : IsOptions o options) : Cut (body ++ '$' :: o) body options := by
  rcases h.between_or_plain with ⟨x, rfl⟩ | ⟨hclosed, hbody⟩
  · have htext : '/' :: (x ++ ['/']) ++ '$' :: o = '/' :: (x ++ '/' :: '$' :: o) := by simp
    rw [htext]
    exact .atSlash hslash ho
  · refine .atDollar (w := []) (not_isClosed_append_options hclosed hbody hdollar hslash) ?_ rfl
      hdollar Text.blank_nil hlast ho
    -- An expression that is not closed would have a `$` at its end.
    rintro ⟨-, -, hend⟩
    obtain ⟨d, r, rfl⟩ := List.exists_cons_of_ne_nil hne
    rw [List.getLast?_append_of_ne_nil _ (List.cons_ne_nil _ _), List.getLast?_cons_cons] at hend
    exact hdollar (List.mem_of_getLast? hend)

/-! ## Lines -/

/-- A line whose body takes options has that body as its pattern. -/
theorem Reads.pattern_of_takesOptions {t body : Text} {read : RuleLine} (h : Reads t read)
    (hmatchable : read.kind.isMatchable = true) (hopens : Opens t read.kind body)
    (hbody : TakesOptions body) :
    ¬ StartsAsComment t ∧ body ≠ [] ∧ read.pattern = body := by
  cases h with
  | comment _ => cases hmatchable
  | cosmetic _ _ => cases hmatchable
  | @rule kind body' pattern options hcomment _ hopens' hcut hpattern =>
      obtain rfl : body = body' :=
        congrArg Prod.snd
          ((kindAndBody_eq_iff.mpr hopens).symm.trans (kindAndBody_eq_iff.mpr hopens'))
      obtain rfl : pattern = body :=
        congrArg Prod.fst (Except.ok.inj (hcut.cutBody_eq.symm.trans hbody.cut.cutBody_eq))
      exact ⟨hcomment, hpattern, rfl⟩

/-- The line with options has the same pattern, and the options. -/
theorem reads_append_options {t body o : Text} {kind : RuleKind} (ht : t.trim = t)
    (hcomment : ¬ StartsAsComment t) (hopens : Opens t kind body) (hne : body ≠ [])
    (hbody : TakesOptions body) (hdollar : '$' ∉ o) (hslash : '/' ∉ o) (hblank : ¬ Blank o)
    (hseparator : ¬ HoldsSeparator (t ++ '$' :: o)) :
    ∃ options, IsOptions o options ∧
      Reads (t ++ '$' :: o).trim ⟨kind, body, options, (t ++ '$' :: o).trim⟩ := by
  rw [trim_append_options ht]
  obtain ⟨⟨w, hw, ho⟩, -⟩ := Text.trimEnd_eq_iff.mp (rfl : o.trimEnd = _)
  have hpiece : o.trimEnd <+: o := Text.trimEnd_isPrefix o
  have hoptions : IsOptions o.trimEnd (splitOptions o.trimEnd) := isOptions_iff.mpr rfl
  have hend : o.trimEnd ≠ [] := by
    intro hnil
    rw [hnil, List.nil_append] at ho
    exact hblank (ho ▸ hw)
  have hlast := hopens.body_last (Text.trim_eq_iff.mp ht).2.2
  refine ⟨splitOptions o.trimEnd, ?_, ?_⟩
  · have hall := hoptions.append_of_blank hw
    rwa [← ho] at hall
  · refine .rule (fun h => hcomment h.of_append) (fun h => hseparator (h.mono ?_))
      (hopens.append_options _) (hbody.cut_append hlast (fun h => hdollar (hpiece.subset h))
        (fun h => hslash (hpiece.subset h)) hend hoptions) hne
    exact ((List.prefix_append_right_inj t).mpr (List.cons_prefix_cons.mpr ⟨rfl, hpiece⟩)).isInfix

end RuleLine

namespace Rule

open RuleLine
open Text (Blank isBlank)

/-- Options behind a rule that had none are kept and change nothing else. -/
theorem compile_append_options {b body o : Text} {rule : Rule} (htrim : b.trim = b)
    (hrule : compile b = .ok rule) (hmatchable : rule.kind.isMatchable = true)
    (hopens : Opens b rule.kind body) (hbody : TakesOptions body) (hdollar : '$' ∉ o)
    (hslash : '/' ∉ o) (hblank : ¬ Blank o) (hseparator : ¬ HoldsSeparator (b ++ '$' :: o)) :
    ∃ rule', compile (b ++ '$' :: o) = .ok rule' ∧ rule'.kind = rule.kind ∧
      rule'.matcher = rule.matcher ∧ (∀ u, rule'.accepts u = rule.accepts u) ∧
        IsOptions o rule'.options := by
  obtain ⟨read, matcher, hread, hmatcher, rfl⟩ := compile_eq_ok_iff.mp hrule
  rw [htrim] at hread
  obtain ⟨hcomment, hne, hpattern⟩ := hread.pattern_of_takesOptions hmatchable hopens hbody
  obtain ⟨options, hoptions, hread'⟩ :=
    reads_append_options htrim hcomment hopens hne hbody hdollar hslash hblank hseparator
  have hmatcher' : compileLine ⟨read.kind, body, options, (b ++ '$' :: o).trim⟩ = .ok matcher := by
    rw [← hmatcher, compileLine, compileLine, hpattern]
  exact ⟨_, compile_eq_ok_iff.mpr ⟨_, _, hread', hmatcher', rfl⟩, rfl, rfl, fun _ => rfl, hoptions⟩

/-- Commas and a `$` between slashes are no options. -/
theorem compile_append_options_regex :
    ∃ rule rule', compile "@@ /a$b,c/".toList = .ok rule ∧
      compile "@@ /a$b,c/$ x ,, y ".toList = .ok rule' ∧ rule'.matcher = rule.matcher ∧
        rule'.options = ["x".toList, "y".toList] := by
  have hkind : (ofLine? "@@ /a$b,c/".toList).map (·.kind) = some .exception := by decide +kernel
  obtain ⟨rule, hline, hkind⟩ := Option.map_eq_some_iff.mp hkind
  have hrule := ofLine?_eq_some_iff.mp hline
  have hopens : Opens "@@ /a$b,c/".toList rule.kind "/a$b,c/".toList := by
    rw [hkind, ← kindAndBody_eq_iff]
    decide
  obtain ⟨rule', hrule', -, hmatcher, -, hoptions⟩ := compile_append_options
    (o := " x ,, y ".toList) (by decide) hrule (by rw [hkind]; rfl) hopens
    (.inl ⟨"a$b,c".toList, by decide, by decide⟩) (by decide) (by decide)
    (fun hblank => absurd (hblank 'x' (by decide)) (by decide))
    (by rw [← isCosmetic_iff]; decide)
  exact ⟨rule, rule', hrule, hrule', hmatcher, (isOptions_iff.mp hoptions).symm.trans (by decide)⟩

end Rule

end UrlFilter
