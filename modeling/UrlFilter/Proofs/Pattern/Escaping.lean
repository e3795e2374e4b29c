import Mathlib.Data.List.Forall2
import UrlFilter.Proofs.Pattern.Matching

/-!
# Characters of a pattern stay what they are

A pattern is written as an expression before it is read, so a character with a meaning in
expressions could become more than a character: it could open a group or a class, end one that the
translation opened, repeat what stands in front of it, or set flags.  It could also make the
expression one that cannot be read.

`Item c e` lists what the characters between the anchors may become.  Only the two signs become
more than a literal, and they always become the same.  The expression of every pattern is read, and
what is read is the chain of the anchor, one item for each character, and the end
(`parse_expression_items`).  So the only patterns without a matcher are those that are too large.
-/

namespace UrlFilter.Pattern

open Regex

/-- What a character between the anchors becomes in the expression that is read. -/
inductive Item : Char → Expr → Prop where
  /-- A star is a repeated dot. -/
  | run : Item '*' (.repeated .dot 0 none)
  /-- A caret is the group of a separator and the end. -/
  | separator : Item '^' (.group false [] (.alt
      (.bracketed true (.union (.short .word false) (noneOf ['-', '.', '%', '^'])))
      (.assertion .dollar)))
  /-- Any other character is a literal, and nothing besides. -/
  | literal {c : Char} : c ≠ '*' → c ≠ '^' → Item c (.literal ⟨c, false⟩)

/-- What an anchor at the end becomes. -/
def endExprs (ended : Bool) : List Expr := if ended then [.assertion .dollar] else []

theorem item_ofChar (c : Char) : Item c (Token.ofChar c).expr := by
  unfold Token.ofChar
  split
  · exact .run
  · exact .separator
  · next hrun hseparator => exact .literal hrun hseparator

/-- A character becomes one item only. -/
theorem item_iff {c : Char} {e : Expr} : Item c e ↔ e = (Token.ofChar c).expr := by
  constructor
  · intro h
    cases h with
    | run => rfl
    | separator => rfl
    | literal hrun hseparator =>
        have hitem := item_ofChar c
        generalize (Token.ofChar c).expr = e at hitem
        cases hitem with
        | run => exact absurd rfl hrun
        | separator => exact absurd rfl hseparator
        | literal _ _ => rfl
  · rintro rfl
    exact item_ofChar c

/-- The characters of a text become their items, each by itself. -/
theorem forall₂_item_iff {body : Text} {items : List Expr} :
    List.Forall₂ Item body items ↔ items = body.map fun c => (Token.ofChar c).expr := by
  constructor
  · intro h
    induction h with
    | nil => rfl
    | cons hitem _ ih => rw [List.map_cons, ← item_iff.mp hitem, ← ih]
  · rintro rfl
    exact List.forall₂_map_right_iff.mpr (List.forall₂_same.mpr fun c _ => item_ofChar c)

/-- The anchor of a pattern, an item for each character, and the end are its parts. -/
theorem exists_items_iff {pattern : Text} {e : Expr} :
    (∃ p items, IsCut pattern p ∧ List.Forall₂ Item p.body items ∧
        e = .seqOf (p.anchor.exprs ++ items ++ endExprs p.endAnchored)) ↔
      e = .seqOf (parts pattern).exprs := by
  constructor
  · rintro ⟨p, items, hcut, hitems, rfl⟩
    rw [parts_of_isCut hcut, forall₂_item_iff.mp hitems]
    rfl
  · rintro rfl
    exact ⟨parts pattern, _, isCut_iff.mpr rfl, forall₂_item_iff.mpr rfl, rfl⟩

theorem parse_expression (pattern : Text) :
    Expr.parse (expression pattern) = .ok (.seqOf (parts pattern).exprs) :=
  parse_of_reads (readsOpen_expression pattern) (nesting_exprs (parts pattern))

/-- What is read in the expression of a pattern is the chain of its anchor, an item for each
character, and its end.  It is always read, and then refused at most for its size. -/
theorem parse_expression_items (pattern : Text) :
    (∀ e, Expr.parse (expression pattern) = .ok e ↔
      ∃ p items, IsCut pattern p ∧ List.Forall₂ Item p.body items ∧
        e = .seqOf (p.anchor.exprs ++ items ++ endExprs p.endAnchored)) ∧
    ∃ r, ofText (expression pattern) = .ok r ∧ Matcher.ofPattern pattern =
      if r.fits then .ok (.pattern (expression pattern) r) else .error (.tooLarge sizeLimit) := by
  constructor
  · intro e
    rw [parse_expression, Except.ok.injEq, eq_comm, exists_items_iff]
  · refine ⟨_, ofText_expression pattern, ?_⟩
    split
    · next hfits => exact Matcher.ofPattern_eq_ok_iff.mpr ⟨hfits, rfl⟩
    · next hfits =>
        exact Matcher.ofPattern_eq_error_iff.mpr ⟨Bool.eq_false_of_not_eq_true hfits, rfl⟩

/-- Nothing repeats the star, groups or sets flags. -/
example : expression "|a*+\\(?i)|b|".toList = "^a.*\\+\\\\\\(\\?i\\)\\|b$".toList := by
  decide

end UrlFilter.Pattern
