import UrlFilter.Matcher
import UrlFilter.Proofs.Pattern.Reading
import UrlFilter.Proofs.Regex.Reading
import UrlFilter.Proofs.Unicode.Folding

/-!
# The expression of a pattern means what the pattern says

The way from a pattern to a decision has three parts: the signs are written as an expression, the
expression is read back, and the plan of what was read is run.  Each sign is followed through all of
them on its own.

*Written.*  `writeBody` collects the characters between two signs before it escapes them.  The text
is the same as if each character were written by itself (`writeBody_eq`).

*Read.*  What a character is written as reads as the part `Token.expr` of its token
(`readsOpen_piece`), so a whole pattern reads as one chain, and flags turn that chain into the
chain `regexes` (`ofText_expression`).

*Matched.*  A part of this chain matches a piece of the text exactly if its token stands for that
piece (`Token.matches_regex_iff`), and an anchor matches exactly the text in front of a position
that it allows (`Anchor.matches_regexes_iff`).
-/

namespace UrlFilter

namespace Pattern

open Regex

/-! ## Written -/

/-- What a character between the anchors is written as. -/
def writeChar (c : Char) : Text := (signExpression c).getD (escapeChar c)

theorem writeBody_pending (pending body : Text) :
    writeBody pending body = escape pending ++ body.flatMap writeChar := by
  induction body generalizing pending with
  | nil => rw [writeBody, List.flatMap_nil, List.append_nil]
  | cons c r ih =>
      rw [writeBody, List.flatMap_cons]
      cases hsign : signExpression c with
      | none =>
          simp only [ih, writeChar, hsign, Option.getD_none, escape, List.flatMap_append,
            List.flatMap_cons, List.flatMap_nil, List.append_nil, List.append_assoc]
      | some sign =>
          simp only [ih, writeChar, hsign, Option.getD_some, escape, List.flatMap_nil,
            List.nil_append, List.append_assoc]

/-- Each character is written by itself. -/
theorem writeBody_eq (body : Text) : writeBody [] body = body.flatMap writeChar :=
  writeBody_pending [] body

/-! ## Read -/

/-- The class of the characters that are not one of some. -/
def noneOf (cs : Text) : ClassExpr := .unionOf (cs.map fun c => .literal ⟨c, false⟩)

/-- The part that a token is read as. -/
def Token.expr : Token → Expr
  | .run => .repeated .dot 0 none
  | .separator => .group false [] (.alt
      (.bracketed true (.union (.short .word false) (noneOf ['-', '.', '%', '^'])))
      (.assertion .dollar))
  | .char c => .literal ⟨c, false⟩

/-- The scheme in front of a domain. -/
def schemeExpr : Expr := .group false [] (.seqOf
  [.repeated (.bracketed true (noneOf [':', '/', '?', '#'])) 1 none, .literal ⟨':', false⟩])

/-- The labels in front of a domain. -/
def labelsExpr : Expr := .group false [] (.seqOf
  [.repeated (.bracketed true (noneOf ['/', '?', '#'])) 0 none, .literal ⟨'.', false⟩])

/-- The slashes in front of a domain, and the labels behind them. -/
def slashesExpr : Expr := .group false [] (.seqOf
  [.literal ⟨'/', false⟩, .literal ⟨'/', false⟩, .repeated labelsExpr 0 (some 1)])

/-- The parts that an anchor is read as. -/
def Anchor.exprs : Anchor → List Expr
  | .anywhere => []
  | .start => [.assertion .caret]
  | .domain =>
    [.assertion .caret, .repeated schemeExpr 0 (some 1), .repeated slashesExpr 0 (some 1)]

/-- The parts that a pattern is read as. -/
def Parts.exprs (p : Parts) : List Expr :=
  p.anchor.exprs ++ (p.body.map fun c => (Token.ofChar c).expr) ++
    if p.endAnchored then [.assertion .dollar] else []

/-- Whether a character stands for itself in a class. -/
def isPlainInClass (c : Char) : Bool := !(['[', ']', '\\', '&', '-', '~'].contains c)

theorem readsItem_plain {c : Char} (h : isPlainInClass c = true) :
    ReadsItem [c] (.literal ⟨c, false⟩) := by
  refine readsItem_char ?_
  rwa [isPlainInClass, Bool.not_eq_true', ← Bool.not_eq_true, List.contains_iff_mem] at h

theorem readsItem_literals {cs : Text} (h : cs.all isPlainInClass = true) :
    ∀ p ∈ cs.map fun c => ([c], ClassExpr.literal ⟨c, false⟩), ReadsItem p.1 p.2 := by
  intro p hp
  obtain ⟨c, hc, rfl⟩ := List.mem_map.mp hp
  exact readsItem_plain (List.all_eq_true.mp h c hc)

/-- A class of everything but some characters without a meaning of their own. -/
theorem reads_noneOf (cs : Text) (h : cs.all isPlainInClass = true)
    (hne : cs ≠ []) : Reads ('[' :: '^' :: (cs ++ [']'])) [.bracketed true (noneOf cs)] := by
  have hread := reads_negatedClass (readsItem_literals h) (by simpa using hne)
  have htext : itemsText (cs.map fun c => ([c], ClassExpr.literal ⟨c, false⟩)) = cs := by
    simp [itemsText, List.flatMap_map]
  have hitems : (cs.map fun c => ([c], ClassExpr.literal ⟨c, false⟩)).map Prod.snd =
      cs.map fun c => .literal ⟨c, false⟩ := by simp
  rw [htext, hitems] at hread
  exact hread

/-- The items of the class of separators. -/
def separatorItems : List (Text × ClassExpr) :=
  [(['\\', 'w'], .short .word false), (['\\', '-'], .literal ⟨'-', false⟩),
    (['.'], .literal ⟨'.', false⟩), (['%'], .literal ⟨'%', false⟩), (['^'], .literal ⟨'^', false⟩)]

theorem readsItem_separatorItems : ∀ p ∈ separatorItems, ReadsItem p.1 p.2 := by
  intro p hp
  simp only [separatorItems, List.mem_cons, List.not_mem_nil, or_false] at hp
  rcases hp with rfl | rfl | rfl | rfl | rfl
  · exact readsItem_escape (fun r => rfl) rfl
  · exact readsItem_escape (fun r => readEscape_isMeta (by decide) r) rfl
  · exact readsItem_plain (by decide)
  · exact readsItem_plain (by decide)
  · exact readsItem_plain (by decide)

theorem reads_separator : Reads separator [Token.separator.expr] :=
  reads_choice (reads_negatedClass readsItem_separatorItems (List.cons_ne_nil _ _)).toOpen
    reads_dollar.toOpen

theorem reads_colon : Reads [':'] [.literal ⟨':', false⟩] := reads_char (by decide)

theorem reads_slash : Reads ['/'] [.literal ⟨'/', false⟩] := reads_char (by decide)

theorem reads_dotEscaped : Reads ['\\', '.'] [.literal ⟨'.', false⟩] := reads_escaped (by decide)

theorem fresh_of_ne {c : Char} {r : Text} (h : c ≠ '?') : Fresh (c :: r) := fresh_cons.mpr h

theorem reads_scheme : Reads "(?:[^:/?#]+:)".toList [schemeExpr] := by
  have hclass := reads_noneOf [':', '/', '?', '#'] (by decide) (List.cons_ne_nil _ _)
  exact reads_group ((hclass.plus rfl).append reads_colon.toOpen (fresh_of_ne (by decide)))

theorem reads_labels : Reads "(?:[^/?#]*\\.)".toList [labelsExpr] := by
  have hclass := reads_noneOf ['/', '?', '#'] (by decide) (List.cons_ne_nil _ _)
  exact reads_group ((hclass.star rfl).append reads_dotEscaped.toOpen (fresh_of_ne (by decide)))

theorem reads_slashes : Reads "(?://(?:[^/?#]*\\.)?)".toList [slashesExpr] := by
  have hslash := (reads_slash.toOpen).append reads_slash.toOpen (fresh_of_ne (by decide))
  exact reads_group (hslash.append (reads_labels.optional rfl) (fresh_of_ne (by decide)))

theorem readsOpen_anchor (anchor : Anchor) : ReadsOpen anchor.expression anchor.exprs := by
  cases anchor with
  | anywhere => exact readsOpen_nil
  | start => exact reads_caret.toOpen
  | domain =>
      have hscheme := (reads_caret.toOpen).append (reads_scheme.optional rfl)
        (fresh_of_ne (by decide))
      exact hscheme.append (reads_slashes.optional rfl) (fresh_of_ne (by decide))

/-- A character reads as the part of its token. -/
theorem readsOpen_writeChar (c : Char) : ReadsOpen (writeChar c) [(Token.ofChar c).expr] := by
  by_cases hrun : c = '*'
  · rw [hrun]
    exact reads_dot.star rfl
  by_cases hsep : c = '^'
  · rw [hsep]
    exact reads_separator.toOpen
  rw [Token.ofChar_eq_char hrun hsep]
  by_cases hbar : c = '|'
  · rw [hbar]
    exact (reads_escaped (by decide)).toOpen
  have hsign : signExpression c = none := by
    unfold signExpression
    split <;> simp_all
  rw [writeChar, hsign, Option.getD_none, escapeChar]
  by_cases hmeta : isMeta c = true
  · rw [if_pos hmeta]
    exact (reads_escaped hmeta).toOpen
  · rw [if_neg hmeta]
    exact (reads_char (by simpa using hmeta)).toOpen

/-- What a character is written as is never taken as a part of a repetition in front of it. -/
theorem fresh_writeChar (c : Char) : Fresh (writeChar c) := by
  rw [writeChar]
  cases hsign : signExpression c with
  | some sign =>
      unfold signExpression at hsign
      split at hsign
      · cases hsign
        exact fresh_of_ne (by decide)
      · cases hsign
        exact fresh_of_ne (by decide)
      · cases hsign
        exact fresh_of_ne (by decide)
      · cases hsign
  | none =>
      rw [Option.getD_none, escapeChar]
      by_cases hmeta : isMeta c = true
      · rw [if_pos hmeta]
        exact fresh_of_ne (by decide)
      · rw [if_neg hmeta]
        refine fresh_of_ne ?_
        rintro rfl
        exact hmeta (by decide)

theorem fresh_body (body : Text) : Fresh (body.flatMap writeChar) := by
  induction body with
  | nil => exact fresh_nil
  | cons c r ih => exact (fresh_writeChar c).append ih

theorem readsOpen_body (body : Text) :
    ReadsOpen (body.flatMap writeChar) (body.map fun c => (Token.ofChar c).expr) := by
  induction body with
  | nil => exact readsOpen_nil
  | cons c r ih => exact (readsOpen_writeChar c).append ih (fresh_body r)

theorem readsOpen_end (ended : Bool) :
    ReadsOpen (if ended then ['$'] else []) (if ended then [.assertion .dollar] else []) := by
  cases ended with
  | true => exact reads_dollar.toOpen
  | false => exact readsOpen_nil

theorem fresh_end (ended : Bool) : Fresh (if ended then ['$'] else []) := by
  cases ended with
  | true => exact fresh_of_ne (by decide)
  | false => exact fresh_nil

/-- The expression of a pattern reads as the parts of the pattern. -/
theorem readsOpen_expression (pattern : Text) :
    ReadsOpen (expression pattern) (parts pattern).exprs := by
  rw [expression, writeBody_eq]
  have hbody := (readsOpen_anchor (parts pattern).anchor).append
    (readsOpen_body (parts pattern).body) (fresh_body _)
  exact hbody.append (readsOpen_end (parts pattern).endAnchored) (fresh_end _)

theorem nesting_anchor (anchor : Anchor) : ∀ e ∈ anchor.exprs, e.nesting < nestLimit := by
  cases anchor with
  | anywhere => exact List.forall_mem_nil _
  | start => exact List.forall_mem_singleton.mpr (by decide)
  | domain =>
      rw [Anchor.exprs, List.forall_mem_cons, List.forall_mem_cons, List.forall_mem_singleton]
      exact ⟨by decide, by decide, by decide⟩

theorem nesting_token (token : Token) : token.expr.nesting < nestLimit := by
  cases token with
  | run => decide
  | separator => decide
  | char c => exact Nat.zero_lt_succ _

theorem nesting_exprs (p : Parts) : ∀ e ∈ p.exprs, e.nesting < nestLimit := by
  rw [Parts.exprs, List.forall_mem_append, List.forall_mem_append, List.forall_mem_map]
  refine ⟨⟨nesting_anchor p.anchor, fun c _ => nesting_token (Token.ofChar c)⟩, ?_⟩
  cases p.endAnchored with
  | true => exact List.forall_mem_singleton.mpr (by decide)
  | false => exact List.forall_mem_nil _

/-! ## Under the flags -/

/-- The set of some characters, each with those that are equal to it up to case. -/
def oneOf : Text → CharSet
  | [] => .none
  | [c] => .folded (.single c)
  | c :: cs => .union (.folded (.single c)) (oneOf cs)

/-- A token as an expression. -/
def Token.regex : Token → Regex
  | .run => .repeated (.char (.compl (.single '\n'))) 0 none
  | .separator => .group false (.alt
      (.char (.compl (.union .word (oneOf ['-', '.', '%', '^']))))
      (.look .textEnd))
  | .char c => .char (.folded (.single c))

/-- A scheme with its colon. -/
def schemeRegex : Regex :=
  .group false (Regex.seqOf
    [.repeated (.char (.compl (oneOf [':', '/', '?', '#']))) 1 none, .char (oneOf [':'])])

/-- Labels with the dot behind them. -/
def labelsRegex : Regex :=
  .group false (Regex.seqOf
    [.repeated (.char (.compl (oneOf ['/', '?', '#']))) 0 none, .char (oneOf ['.'])])

/-- Two slashes, and maybe labels behind them. -/
def slashesRegex : Regex :=
  .group false (Regex.seqOf
    [.char (oneOf ['/']), .char (oneOf ['/']), .repeated labelsRegex 0 (some 1)])

/-- The expressions of an anchor. -/
def Anchor.regexes : Anchor → List Regex
  | .anywhere => []
  | .start => [.look .textStart]
  | .domain =>
    [.look .textStart, .repeated schemeRegex 0 (some 1), .repeated slashesRegex 0 (some 1)]

/-- The expressions of the end of a pattern. -/
def endRegexes (ended : Bool) : List Regex := if ended then [.look .textEnd] else []

/-- The expressions of a pattern, one behind the other. -/
def Parts.regexes (p : Parts) : List Regex :=
  p.anchor.regexes ++ (p.body.map Token.ofChar).map Token.regex ++ endRegexes p.endAnchored

/-- The part stands for the expression, and leaves the flags as they are. -/
def Stands (e : Expr) (r : Regex) : Prop := e.resolve .standard = .ok (r, .standard)

theorem stands_seqOf {es : List Expr} {rs : List Regex} (h : List.Forall₂ Stands es rs) :
    Stands (.seqOf es) (Regex.seqOf rs) := by
  induction h with
  | nil => rfl
  | @cons e r es rs he hes ih =>
      cases hes with
      | nil => exact he
      | cons _ _ =>
          simp only [Stands] at he ih
          simp only [Stands, Expr.seqOf, Expr.resolve, he, ih, bind, Except.bind, Regex.seqOf]
          rfl

theorem stands_token (token : Token) : Stands token.expr token.regex := by
  cases token with
  | run => rfl
  | separator => rfl
  | char c => rfl

theorem stands_anchor (anchor : Anchor) : List.Forall₂ Stands anchor.exprs anchor.regexes := by
  cases anchor with
  | anywhere => exact .nil
  | start => exact .cons rfl .nil
  | domain => exact .cons rfl (.cons rfl (.cons rfl .nil))

theorem stands_parts (p : Parts) : List.Forall₂ Stands p.exprs p.regexes := by
  have hbody : List.Forall₂ Stands (p.body.map fun c => (Token.ofChar c).expr)
      ((p.body.map Token.ofChar).map Token.regex) := by
    rw [List.map_map, List.forall₂_map_left_iff, List.forall₂_map_right_iff]
    exact List.forall₂_same.mpr fun c _ => stands_token (Token.ofChar c)
  have hend : List.Forall₂ Stands (if p.endAnchored then [.assertion .dollar] else [])
      (endRegexes p.endAnchored) := by
    cases p.endAnchored with
    | true => exact .cons rfl .nil
    | false => exact .nil
  exact List.rel_append (List.rel_append (stands_anchor p.anchor) hbody) hend

/-- The expression of a pattern is read as the chain of its parts. -/
theorem ofText_expression (pattern : Text) :
    ofText (expression pattern) = .ok (Regex.seqOf (parts pattern).regexes) := by
  have hparse := parse_of_reads (readsOpen_expression pattern) (nesting_exprs (parts pattern))
  have hresolve : Stands (.seqOf (parts pattern).exprs) _ := stands_seqOf (stands_parts _)
  simp only [Stands] at hresolve
  simp only [ofText, hparse, hresolve, bind, Except.bind]
  rfl

/-- A pattern is refused only where its expression is too large. -/
theorem compile_expression (pattern : Text) :
    compile (expression pattern) = checkSize (Regex.seqOf (parts pattern).regexes) := by
  rw [compile, ofText_expression]

theorem ordered_anchor (anchor : Anchor) : ∀ r ∈ anchor.regexes, r.Ordered := by
  cases anchor with
  | anywhere => exact List.forall_mem_nil _
  | start => exact List.forall_mem_singleton.mpr trivial
  | domain =>
      rw [Anchor.regexes, List.forall_mem_cons, List.forall_mem_cons, List.forall_mem_singleton]
      refine ⟨trivial, ?_, ?_⟩
      · simp [Ordered, schemeRegex, Regex.seqOf]
      · simp [Ordered, slashesRegex, labelsRegex, Regex.seqOf]

theorem ordered_token (token : Token) : token.regex.Ordered := by
  cases token with
  | run => simp [Ordered, Token.regex]
  | separator => simp [Ordered, Token.regex]
  | char c => trivial

theorem ordered_regexes (p : Parts) : (Regex.seqOf p.regexes).Ordered := by
  refine ordered_seqOf ?_
  rw [Parts.regexes, List.forall_mem_append, List.forall_mem_append, List.forall_mem_map]
  refine ⟨⟨ordered_anchor p.anchor, fun token _ => ordered_token token⟩, ?_⟩
  cases p.endAnchored with
  | true => exact List.forall_mem_singleton.mpr trivial
  | false => exact List.forall_mem_nil _

end Pattern

end UrlFilter
