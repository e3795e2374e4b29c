import Mathlib.Data.List.Forall2
import UrlFilter.Proofs.Pattern.Translation

/-!
# A pattern is written character by character

The expression of a pattern is its anchor, a piece for each character, and its end.  What a piece is
depends on its character alone (`Piece`), although the characters between two signs are escaped
together.

The pattern can be found again in its expression.  Every piece is that of a sign or a character that
was escaped, so `readChar` finds the first character in whatever goes on behind it
(`readChar_writeChar`).  It finds none in an end, nor where an anchor starts or goes on.  The
characters there have a meaning and no backslash in front, and the first class in the anchor of
domains is another than that of a separator.  So the anchor and the end can be told from the pieces,
and different patterns have different expressions (`expression_inj`).
-/

namespace UrlFilter.Pattern

open Regex

/-! ## Pieces -/

/-- What a character between the anchors is written as. -/
inductive Piece : Char → Text → Prop where
  /-- A star is a repeated dot. -/
  | run : Piece '*' ['.', '*']
  /-- A caret is a separator or the end. -/
  | separator : Piece '^' separator
  /-- A bar is escaped. -/
  | bar : Piece '|' ['\\', '|']
  /-- Any other character is escaped, by itself. -/
  | character {c : Char} : c ∉ ['*', '^', '|'] → Piece c (escape [c])

/-- What is written behind the last piece, for a pattern with or without an anchor at the end. -/
def endText (ended : Bool) : Text := if ended then ['$'] else []

theorem escape_singleton (c : Char) : escape [c] = escapeChar c := List.flatMap_singleton ..

theorem piece_writeChar (c : Char) : Piece c (writeChar c) := by
  rw [writeChar, ← escape_singleton]
  unfold signExpression
  split
  · exact .run
  · exact .separator
  · exact .bar
  · next hrun hseparator hbar => exact .character (by simpa using ⟨hrun, hseparator, hbar⟩)

theorem expression_eq (pattern : Text) :
    expression pattern = (parts pattern).anchor.expression ++
      ((parts pattern).body.flatMap writeChar ++ endText (parts pattern).endAnchored) := by
  rw [← writeBody_eq, ← List.append_assoc]
  rfl

/-! ## Reading a piece -/

/-- The character that the first piece of a text is written for, and what is behind the piece. -/
def readChar (t : Text) : Option (Char × Text) :=
  match t with
  | [] => none
  | '.' :: '*' :: r => some ('*', r)
  | '\\' :: c :: r => some (c, r)
  | c :: r =>
    if isMeta c then (separator.isPrefixOf? t).map fun rest => ('^', rest) else some (c, r)

theorem readChar_piece {c : Char} {t : Text} (h : Piece c t) (r : Text) :
    readChar (t ++ r) = some (c, r) := by
  cases h with
  | run => rfl
  | separator => rfl
  | bar => rfl
  | character _ =>
      rw [escape_singleton, escapeChar]
      by_cases hmeta : isMeta c = true
      · rw [if_pos hmeta]
        rfl
      · rw [if_neg hmeta, List.singleton_append, readChar]
        · rw [if_neg hmeta]
        · rintro s rfl
          exact absurd rfl hmeta
        · rintro d s rfl
          exact absurd rfl hmeta

theorem readChar_writeChar (c : Char) (r : Text) : readChar (writeChar c ++ r) = some (c, r) :=
  readChar_piece (piece_writeChar c) r

theorem readChar_endText (ended : Bool) : readChar (endText ended) = none := by
  cases ended with
  | true => rfl
  | false => rfl

/-- Where no piece is read, no character was written. -/
theorem body_eq_nil_of_readChar {body : Text} {ended : Bool}
    (h : readChar (body.flatMap writeChar ++ endText ended) = none) : body = [] := by
  cases body with
  | nil => rfl
  | cons c body =>
      rw [List.flatMap_cons, List.append_assoc, readChar_writeChar] at h
      cases h

/-! ## Reading a pattern -/

theorem endText_inj {ended ended' : Bool} (h : endText ended = endText ended') :
    ended = ended' := by
  cases ended with
  | true =>
      cases ended' with
      | true => rfl
      | false => cases h
  | false =>
      cases ended' with
      | true => cases h
      | false => rfl

/-- The characters and the end can be found in what is written behind an anchor. -/
theorem flatMap_writeChar_inj {body body' : Text} {ended ended' : Bool}
    (h : body.flatMap writeChar ++ endText ended = body'.flatMap writeChar ++ endText ended') :
    body = body' ∧ ended = ended' := by
  induction body generalizing body' with
  | nil =>
      have hnil : body' = [] := body_eq_nil_of_readChar (by rw [← h]; exact readChar_endText ended)
      subst hnil
      exact ⟨rfl, endText_inj h⟩
  | cons c body ih =>
      cases body' with
      | nil =>
          have hnil : c :: body = [] :=
            body_eq_nil_of_readChar (by rw [h]; exact readChar_endText ended')
          cases hnil
      | cons c' body' =>
          have hread := congrArg readChar h
          rw [List.flatMap_cons, List.flatMap_cons, List.append_assoc, List.append_assoc,
            readChar_writeChar, readChar_writeChar] at hread
          obtain ⟨rfl, hrest⟩ := Prod.mk.inj (Option.some.inj hread)
          obtain ⟨rfl, hended⟩ := ih hrest
          exact ⟨rfl, hended⟩

/-- No piece starts with the sign of an anchor, and no end does. -/
theorem body_ne_caret (body : Text) (ended : Bool) (r : Text) :
    body.flatMap writeChar ++ endText ended ≠ '^' :: r := by
  intro h
  have hbody : body = [] := body_eq_nil_of_readChar (by rw [h]; rfl)
  subst hbody
  cases ended with
  | true => cases h
  | false => cases h

/-- What goes on behind the sign of the start does not make it the anchor of domains. -/
theorem body_ne_domainAnchor (body : Text) (ended : Bool) (r : Text) :
    '^' :: (body.flatMap writeChar ++ endText ended) ≠ domainAnchor ++ r := by
  intro h
  have htail := (List.cons.inj h).2
  have hbody : body = [] := body_eq_nil_of_readChar (by rw [htail]; rfl)
  subst hbody
  cases ended with
  | true => cases htail
  | false => cases htail

/-- The anchor, the characters and the end can be found in an expression. -/
theorem parts_inj {p q : Parts}
    (h : p.anchor.expression ++ (p.body.flatMap writeChar ++ endText p.endAnchored) =
      q.anchor.expression ++ (q.body.flatMap writeChar ++ endText q.endAnchored)) : p = q := by
  obtain ⟨anchor, body, ended⟩ := p
  obtain ⟨anchor', body', ended'⟩ := q
  have hsame : anchor = anchor' := by
    cases anchor with
    | anywhere =>
        cases anchor' with
        | anywhere => rfl
        | start => exact absurd h (body_ne_caret body ended _)
        | domain => exact absurd h (body_ne_caret body ended _)
    | start =>
        cases anchor' with
        | anywhere => exact absurd h.symm (body_ne_caret body' ended' _)
        | start => rfl
        | domain => exact absurd h (body_ne_domainAnchor body ended _)
    | domain =>
        cases anchor' with
        | anywhere => exact absurd h.symm (body_ne_caret body' ended' _)
        | start => exact absurd h.symm (body_ne_domainAnchor body' ended' _)
        | domain => rfl
  subst hsame
  obtain ⟨rfl, rfl⟩ := flatMap_writeChar_inj (List.append_cancel_left h)
  rfl

/-! ## Patterns -/

theorem Opens.pattern_eq {pattern pattern' rest : Text} {anchor : Anchor}
    (h : Opens pattern anchor rest) (h' : Opens pattern' anchor rest) : pattern = pattern' := by
  cases h with
  | domain =>
      cases h'
      rfl
  | start _ =>
      cases h'
      rfl
  | anywhere _ =>
      cases h'
      rfl

theorem Closes.rest_eq {rest rest' body : Text} {ended : Bool} (h : Closes rest body ended)
    (h' : Closes rest' body ended) : rest = rest' := by
  cases h with
  | anchored =>
      cases h'
      rfl
  | free _ =>
      cases h'
      rfl

/-- No parts are those of two patterns. -/
theorem IsCut.pattern_eq {pattern pattern' : Text} {p : Parts} (h : IsCut pattern p)
    (h' : IsCut pattern' p) : pattern = pattern' := by
  obtain ⟨rest, hopens, hcloses⟩ := h
  obtain ⟨rest', hopens', hcloses'⟩ := h'
  obtain rfl := hcloses.rest_eq hcloses'
  exact hopens.pattern_eq hopens'

theorem expression_inj {pattern pattern' : Text} :
    expression pattern = expression pattern' ↔ pattern = pattern' := by
  constructor
  · intro h
    rw [expression_eq, expression_eq] at h
    have hcut : IsCut pattern (parts pattern) := isCut_iff.mpr rfl
    have hcut' : IsCut pattern' (parts pattern') := isCut_iff.mpr rfl
    rw [← parts_inj h] at hcut'
    exact hcut.pattern_eq hcut'
  · rintro rfl
    rfl

/-- A pattern is written as its anchor, a piece for each character by itself, and its end.
Different patterns are written differently. -/
theorem expression_writes_each_character (pattern : Text) :
    (∃ p pieces, IsCut pattern p ∧ List.Forall₂ Piece p.body pieces ∧
        expression pattern = p.anchor.expression ++ pieces.flatten ++ endText p.endAnchored) ∧
      ∀ pattern', expression pattern = expression pattern' ↔ pattern = pattern' := by
  refine ⟨⟨parts pattern, (parts pattern).body.map writeChar, isCut_iff.mpr rfl, ?_, ?_⟩,
    fun pattern' => expression_inj⟩
  · exact List.forall₂_map_right_iff.mpr (List.forall₂_same.mpr fun c _ => piece_writeChar c)
  · rw [expression_eq, ← List.flatMap_def, List.append_assoc]

/-- The start in front of a separator is written like the anchor of domains, but not for long. -/
example : (expression "|^".toList).take 5 = (expression "||".toList).take 5 ∧
    expression "|^".toList ≠ expression "||".toList := by
  decide

end UrlFilter.Pattern
