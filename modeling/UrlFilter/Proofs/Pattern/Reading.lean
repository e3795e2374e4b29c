import Mathlib.Data.List.Basic
import UrlFilter.Pattern
import UrlFilter.Proofs.Regex.Language

/-!
# What a pattern says

`Accepts pattern u` is the meaning of a pattern, without regular expressions: the pattern is cut
into an anchor in front, an anchor at the end and the signs between them, and the signs stand for
consecutive pieces of the text.

*Cutting.*  The anchor in front is taken first (`Opens`), the one at the end is looked for in what
is left (`Closes`).  So the pattern of one bar has an anchor in front and none at the end.  There is
one way to cut, the one that `parts` takes (`isCut_iff`).

*Domains.*  A domain may start at the start of the text, behind a scheme, behind the two slashes,
and behind any dot of what follows them up to the path (`DomainStart`).
-/

namespace UrlFilter.Pattern

open Text (piece)

/-! ## Cutting -/

/-- The anchor in front of a pattern, and what it leaves. -/
inductive Opens : Text → Anchor → Text → Prop where
  /-- Two bars are the anchor of domains. -/
  | domain {rest : Text} : Opens ('|' :: '|' :: rest) .domain rest
  /-- One bar is the start. -/
  | start {rest : Text} : rest.head? ≠ some '|' → Opens ('|' :: rest) .start rest
  /-- Without a bar there is no anchor. -/
  | anywhere {rest : Text} : rest.head? ≠ some '|' → Opens rest .anywhere rest

/-- The signs of what an anchor left, and whether a bar behind them anchors the end. -/
inductive Closes : Text → Text → Bool → Prop where
  /-- A bar is the end. -/
  | anchored {body : Text} : Closes (body ++ ['|']) body true
  /-- Without a bar the end is free. -/
  | free {body : Text} : body.getLast? ≠ some '|' → Closes body body false

/-- A pattern is cut into some parts. -/
def IsCut (pattern : Text) (p : Parts) : Prop :=
  ∃ rest, Opens pattern p.anchor rest ∧ Closes rest p.body p.endAnchored

theorem opens_cutStart (pattern : Text) :
    Opens pattern (cutStart pattern).1 (cutStart pattern).2 := by
  unfold cutStart
  split
  · exact .domain
  · next h =>
      refine .start fun hhead => ?_
      obtain ⟨r, rfl⟩ := List.head?_eq_some_iff.mp hhead
      exact h r rfl
  · next _ h =>
      refine .anywhere fun hhead => ?_
      obtain ⟨r, rfl⟩ := List.head?_eq_some_iff.mp hhead
      exact h r rfl

theorem Opens.cutStart_eq {pattern rest : Text} {anchor : Anchor} (h : Opens pattern anchor rest) :
    cutStart pattern = (anchor, rest) := by
  cases h with
  | domain => rfl
  | start hrest =>
      unfold cutStart
      split
      · next heq =>
          obtain rfl := (List.cons.inj heq).2
          exact absurd rfl hrest
      · next heq => rw [(List.cons.inj heq).2]
      · next h => exact absurd rfl (h rest)
  | anywhere hrest =>
      unfold cutStart
      split
      · exact absurd rfl hrest
      · exact absurd rfl hrest
      · rfl

theorem Closes.isSuffixOf?_eq {rest body : Text} {ended : Bool} (h : Closes rest body ended) :
    ['|'].isSuffixOf? rest = if ended then some body else none := by
  cases h with
  | anchored => simp [List.isSuffixOf?, List.isPrefixOf?]
  | free hlast =>
      rw [← List.head?_reverse] at hlast
      rw [List.isSuffixOf?]
      cases hrev : rest.reverse with
      | nil => rfl
      | cons c r =>
          have hc : ('|' == c) = false := by
            rw [beq_eq_false_iff_ne]
            rintro rfl
            exact hlast (by rw [hrev]; rfl)
          simp [List.isPrefixOf?, hc]

theorem exists_closes (rest : Text) : ∃ body ended, Closes rest body ended := by
  by_cases hlast : rest.getLast? = some '|'
  · obtain ⟨body, rfl⟩ := List.getLast?_eq_some_iff.mp hlast
    exact ⟨body, true, .anchored⟩
  · exact ⟨rest, false, .free hlast⟩

theorem Closes.body_eq {rest body : Text} (h : Closes rest body false) : rest = body := by
  cases h
  rfl

theorem parts_of_isCut {pattern : Text} {p : Parts} (h : IsCut pattern p) : parts pattern = p := by
  obtain ⟨rest, hopen, hclose⟩ := h
  obtain ⟨anchor, body, ended⟩ := p
  rw [parts, hopen.cutStart_eq]
  simp only [hclose.isSuffixOf?_eq]
  cases ended with
  | true => rfl
  | false =>
      rw [hclose.body_eq]
      rfl

/-- A pattern is cut in one way only. -/
theorem isCut_iff {pattern : Text} {p : Parts} : IsCut pattern p ↔ p = parts pattern := by
  constructor
  · intro h
    exact (parts_of_isCut h).symm
  · rintro rfl
    obtain ⟨body, ended, hclose⟩ := exists_closes (cutStart pattern).2
    have hcut : IsCut pattern ⟨(cutStart pattern).1, body, ended⟩ :=
      ⟨_, opens_cutStart pattern, hclose⟩
    rw [parts_of_isCut hcut]
    exact hcut

/-! ## Signs -/

/-- What a character between the anchors stands for. -/
inductive Token where
  /-- Any characters up to the end of the line. -/
  | run
  /-- A separator, or the end of the text. -/
  | separator
  /-- The character itself, up to case. -/
  | char (c : Char)
  deriving DecidableEq, Repr

/-- The token that a character is. -/
def Token.ofChar : Char → Token
  | '*' => .run
  | '^' => .separator
  | c => .char c

/-- A character that is no sign stands for itself. -/
theorem Token.ofChar_eq_char {c : Char} (hrun : c ≠ '*') (hseparator : c ≠ '^') :
    ofChar c = .char c := by
  unfold ofChar
  split
  · exact absurd rfl hrun
  · exact absurd rfl hseparator
  · rfl

/-- Whether a character is a separator: it cannot be part of a name. -/
def isSeparator (c : Char) : Bool :=
  !(Unicode.isWord c || ['-', '.', '%', '^'].contains c)

/-- A token stands for the piece between two positions. -/
inductive Token.Spans (u : Text) : Token → Nat → Nat → Prop where
  /-- A run stands for any piece without a line feed, the empty one too. -/
  | run {i j : Nat} : i ≤ j → j ≤ u.length → '\n' ∉ piece u i j → Spans u .run i j
  /-- A separator stands for one character. -/
  | separator {c : Char} {i : Nat} : u[i]? = some c → isSeparator c = true →
      Spans u .separator i (i + 1)
  /-- The end of the text counts as a separator. -/
  | separatorAtEnd : Spans u .separator u.length u.length
  /-- A character stands for one that is equal to it up to case. -/
  | char {c d : Char} {i : Nat} : u[i]? = some d → Unicode.sameFold c d = true →
      Spans u (.char c) i (i + 1)

/-- Tokens stand for consecutive pieces. -/
inductive SpanAll (u : Text) : List Token → Nat → Nat → Prop where
  /-- No token stands for the empty piece. -/
  | nil {i : Nat} : i ≤ u.length → SpanAll u [] i i
  /-- The first token stands for a piece, and the others for the pieces behind it. -/
  | cons {token : Token} {tokens : List Token} {i j k : Nat} : token.Spans u i j →
      SpanAll u tokens j k → SpanAll u (token :: tokens) i k

/-! ## Anchors -/

/-- Nothing, or a scheme with its colon. -/
def OptionalScheme (a : Text) : Prop :=
  a = [] ∨ ∃ s, a = s ++ [':'] ∧ s ≠ [] ∧ ∀ c ∈ s, c ∉ [':', '/', '?', '#']

/-- Nothing, or some labels with the dot behind them. -/
def OptionalLabels (b : Text) : Prop :=
  b = [] ∨ ∃ t, b = t ++ ['.'] ∧ ∀ c ∈ t, c ∉ ['/', '?', '#']

/-- Nothing, or two slashes and some labels behind them. -/
def OptionalSlashes (b : Text) : Prop := b = [] ∨ ∃ c, b = '/' :: '/' :: c ∧ OptionalLabels c

/-- The texts behind which a domain may start. -/
def DomainStart (w : Text) : Prop :=
  ∃ a b, w = a ++ b ∧ OptionalScheme a ∧ OptionalSlashes b

/-- An anchor allows a match to start at a position. -/
def Anchor.Allows (u : Text) (i : Nat) : Anchor → Prop
  | .anywhere => True
  | .start => i = 0
  | .domain => DomainStart (u.take i)

/-! ## Acceptance -/

/-- A pattern accepts a text that holds pieces for all of its signs where the anchors allow it. -/
def Accepts (pattern u : Text) : Prop :=
  ∃ p, IsCut pattern p ∧ ∃ i j, p.anchor.Allows u i ∧
    SpanAll u (p.body.map Token.ofChar) i j ∧ (p.endAnchored = true → j = u.length)

theorem accepts_iff_parts {pattern u : Text} :
    Accepts pattern u ↔ ∃ i j, (parts pattern).anchor.Allows u i ∧
      SpanAll u ((parts pattern).body.map Token.ofChar) i j ∧
        ((parts pattern).endAnchored = true → j = u.length) := by
  simp only [Accepts, isCut_iff, exists_eq_left]

end UrlFilter.Pattern
