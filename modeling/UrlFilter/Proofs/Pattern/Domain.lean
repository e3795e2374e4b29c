import Mathlib.Data.List.Forall2
import UrlFilter.Proofs.Pattern.Matching
import UrlFilter.Proofs.Text

/-!
# The pattern of a domain

`||`, a domain and `^` is the pattern that rules use most.  It accepts a URL whose host is the
domain, or a name below it, and no other (`accepts_domainPattern_iff`).

*Literals.*  Without signs a pattern stands for one piece of the URL, up to case, so its acceptance
is a question of how the URL can be cut in three (`accepts_anchored_iff`).  Other names are accepted
where they stand as well, since a star also stands for itself (`accepts_of_shows`).

*Hosts.*  The anchor of domains allows many positions, also inside a port, and none of them helps:
the piece has a dot and no colon.  In front of the scheme's colon there is no dot
(`host_of_domainStart`), behind the host's end there is none before the path, and inside the host
the piece reaches the end, since a host holds no separators (`host_eq_of_cut`).
-/

namespace UrlFilter.Pattern

open Text (piece)

/-! ## Literals -/

/-- Two texts are equal up to case. -/
def SameUpToCase (s t : Text) : Prop := List.Forall₂ (fun c d => Unicode.sameFold c d = true) s t

/-- A text starts with a separator, or is empty. -/
def OpensWithSeparator (t : Text) : Prop := ∀ c, t.head? = some c → isSeparator c = true

/-- A text holds a name, up to case, where the anchor of domains allows it, and behind the name it
ends or has a separator. -/
def Shows (d t : Text) : Prop :=
  ∃ w e r, t = w ++ (e ++ r) ∧ DomainStart w ∧ SameUpToCase d e ∧ OpensWithSeparator r

section

variable {u : Text}

theorem spanAll_append {tokens tokens' : List Token} {i k : Nat} :
    SpanAll u (tokens ++ tokens') i k ↔ ∃ j, SpanAll u tokens i j ∧ SpanAll u tokens' j k := by
  simp only [← matches_tokens_iff, List.map_append, Regex.matches_seqOf_append]

theorem spanAll_singleton {token : Token} {i j : Nat} :
    SpanAll u [token] i j ↔ token.Spans u i j :=
  matches_tokens_iff.symm.trans Token.matches_regex_iff

/-- Characters stand for a piece that is equal to them up to case. -/
theorem spanAll_chars_iff {cs : Text} {i j : Nat} :
    SpanAll u (cs.map .char) i j ↔ i ≤ j ∧ j ≤ u.length ∧ SameUpToCase cs (piece u i j) := by
  induction cs generalizing i with
  | nil =>
      constructor
      · intro h
        cases h with
        | nil hi => exact ⟨Nat.le_refl _, hi, by rw [Text.piece_self]; exact .nil⟩
      · rintro ⟨hij, hj, h⟩
        generalize hpiece : piece u i j = p at h
        cases h
        have hlen := congrArg List.length hpiece
        rw [Text.length_piece hj, List.length_nil] at hlen
        obtain rfl : i = j := by omega
        exact .nil hj
  | cons c cs ih =>
      constructor
      · intro h
        cases h with
        | cons htoken htokens =>
            cases htoken with
            | char hd hs =>
                obtain ⟨hij, hj, hcs⟩ := ih.mp htokens
                refine ⟨by omega, hj, ?_⟩
                rw [Text.piece_cons hd (by omega)]
                exact .cons hs hcs
      · rintro ⟨hij, hj, h⟩
        generalize hpiece : piece u i j = p at h
        cases h with
        | @cons _ d _ e hs hcs =>
            have hlen := congrArg List.length hpiece
            rw [Text.length_piece hj, List.length_cons] at hlen
            have hi : i < u.length := by omega
            have hd := List.getElem?_eq_getElem hi
            rw [Text.piece_cons hd (by omega)] at hpiece
            obtain ⟨rfl, rfl⟩ := List.cons.inj hpiece
            exact .cons (.char hd hs) (ih.mpr ⟨by omega, hj, hcs⟩)

/-- A separator is in front of a text that starts with one, or of none. -/
theorem exists_spans_separator_iff {j : Nat} :
    (∃ k, Token.separator.Spans u j k) ↔ j ≤ u.length ∧ OpensWithSeparator (u.drop j) := by
  rw [OpensWithSeparator, List.head?_drop]
  constructor
  · rintro ⟨k, h⟩
    cases h with
    | separator hc hs =>
        obtain ⟨hj, -⟩ := List.getElem?_eq_some_iff.mp hc
        refine ⟨Nat.le_of_lt hj, fun c hc' => ?_⟩
        rw [hc] at hc'
        rwa [← Option.some.inj hc']
    | separatorAtEnd => exact ⟨Nat.le_refl _, fun c hc => by simp at hc⟩
  · rintro ⟨hj, h⟩
    by_cases hend : j = u.length
    · rw [hend]
      exact ⟨_, .separatorAtEnd⟩
    · have hc := List.getElem?_eq_getElem (Nat.lt_of_le_of_ne hj hend)
      exact ⟨_, .separator hc (h _ hc)⟩

/-- What a character stands for may be put where the character itself is.  Only a separator has to
be one. -/
theorem Token.Spans.ofChar {c : Char} {i j : Nat} (hc : c ≠ '^')
    (h : (Token.char c).Spans u i j) : (Token.ofChar c).Spans u i j := by
  cases h with
  | @char _ d _ hd hs =>
      unfold Token.ofChar
      split
      · have hstar : d = '*' := (sameFold_iff_of_isCaseless (by decide)).mp hs
        obtain ⟨hi, -⟩ := List.getElem?_eq_some_iff.mp hd
        refine .run (Nat.le_succ i) hi ?_
        rw [Text.piece_succ hd, hstar]
        decide
      · exact absurd rfl hc
      · exact .char hd hs

theorem SpanAll.ofChars {cs : Text} {i j : Nat} (hsign : '^' ∉ cs)
    (h : SpanAll u (cs.map .char) i j) : SpanAll u (cs.map Token.ofChar) i j := by
  induction cs generalizing i with
  | nil =>
      cases h with
      | nil hi => exact .nil hi
  | cons c cs ih =>
      rw [List.mem_cons, not_or] at hsign
      cases h with
      | cons htoken htokens => exact .cons (htoken.ofChar (Ne.symm hsign.1)) (ih hsign.2 htokens)

/-- A pattern behind the anchor of domains accepts a text that has pieces for its signs behind the
start of a domain. -/
theorem accepts_anchored_of_spanAll {body : Text} {j k : Nat} (hbar : body.getLast? ≠ some '|')
    (hstart : DomainStart (u.take j)) (hspan : SpanAll u (body.map Token.ofChar) j k) :
    Accepts ('|' :: '|' :: body) u :=
  ⟨⟨.domain, body, false⟩, ⟨body, .domain, .free hbar⟩, j, k, hstart, hspan, by simp⟩

/-- The characters of a name stand for themselves in a text that shows the name. -/
theorem spanAll_of_append {cs e w r : Text} (hsign : '^' ∉ cs) (he : SameUpToCase cs e) :
    SpanAll (w ++ (e ++ r)) (cs.map Token.ofChar) w.length (w.length + e.length) := by
  refine SpanAll.ofChars hsign (spanAll_chars_iff.mpr ⟨Nat.le_add_right _ _, ?_, ?_⟩)
  · simp only [List.length_append]
    omega
  · rwa [piece, List.drop_left, Nat.add_sub_cancel_left, List.take_left]

/-- The pattern of a name accepts a text that shows the name. -/
theorem accepts_of_shows {d : Text} (hsign : '^' ∉ d) (h : Shows d u) :
    Accepts ('|' :: '|' :: (d ++ ['^'])) u := by
  obtain ⟨w, e, r, rfl, hw, he, hr⟩ := h
  have hj : w.length + e.length ≤ (w ++ (e ++ r)).length := by
    simp only [List.length_append]
    omega
  have hdrop : (w ++ (e ++ r)).drop (w.length + e.length) = r := by
    rw [← List.append_assoc, ← List.length_append, List.drop_left]
  obtain ⟨k, hsep⟩ := exists_spans_separator_iff.mpr ⟨hj, by rwa [hdrop]⟩
  refine accepts_anchored_of_spanAll (j := w.length) (k := k) (by simp) ?_ ?_
  · rwa [List.take_left]
  · rw [List.map_append, spanAll_append]
    exact ⟨_, spanAll_of_append hsign he, spanAll_singleton.mpr hsep⟩

/-- A pattern of what a name starts with accepts a text that shows the name. -/
theorem accepts_anchored_of_shows {a b : Text} (hsign : '^' ∉ a) (hbar : '|' ∉ a)
    (h : Shows (a ++ b) u) : Accepts ('|' :: '|' :: a) u := by
  obtain ⟨w, e, r, rfl, hw, he, -⟩ := h
  have hcut : SameUpToCase a (e.take a.length) := by
    have htake := List.forall₂_take a.length he
    rwa [List.take_left] at htake
  refine accepts_anchored_of_spanAll (j := w.length) (k := w.length + (e.take a.length).length)
    (fun hlast => hbar (List.mem_of_getLast? hlast)) ?_ ?_
  · rwa [List.take_left]
  · have htext : w ++ (e ++ r) = w ++ (e.take a.length ++ (e.drop a.length ++ r)) := by
      rw [← List.append_assoc (e.take a.length), List.take_append_drop]
    rw [htext]
    exact spanAll_of_append hsign hcut

/-- A text without signs between the anchor of domains and a separator accepts the texts that show
it. -/
theorem accepts_anchored_iff {d : Text} (hd : ∀ c ∈ d, Token.ofChar c = .char c) :
    Accepts ('|' :: '|' :: (d ++ ['^'])) u ↔ Shows d u := by
  have hsign : '^' ∉ d := fun hmem => Token.noConfusion (hd '^' hmem)
  refine ⟨fun h => ?_, accepts_of_shows hsign⟩
  have hparts : parts ('|' :: '|' :: (d ++ ['^'])) = ⟨.domain, d ++ ['^'], false⟩ :=
    parts_of_isCut ⟨_, .domain, .free (by simp)⟩
  have htokens : (d ++ ['^']).map Token.ofChar = d.map .char ++ [.separator] := by
    rw [List.map_append, List.map_congr_left hd]
    rfl
  simp only [accepts_iff_parts, hparts, htokens, spanAll_append, spanAll_singleton,
    spanAll_chars_iff] at h
  obtain ⟨i, k, hstart, ⟨j, ⟨hij, hj, he⟩, hsep⟩, -⟩ := h
  exact ⟨u.take i, piece u i j, u.drop j, (Text.take_append_piece_append_drop hij).symm, hstart, he,
    (exists_spans_separator_iff.mp ⟨k, hsep⟩).2⟩

end

/-- A character without variants is where it was. -/
theorem SameUpToCase.mem_iff {s t : Text} {c : Char} (h : SameUpToCase s t)
    (hc : isCaseless c = true) : c ∈ t ↔ c ∈ s := by
  induction h with
  | nil => exact Iff.rfl
  | @cons a b s t hab _ ih =>
      have hab : c = b ↔ c = a := by
        constructor
        · rintro rfl
          rw [Unicode.sameFold, Bool.beq_comm] at hab
          exact ((sameFold_iff_of_isCaseless hc).mp hab).symm
        · rintro rfl
          exact ((sameFold_iff_of_isCaseless hc).mp hab).symm
      rw [List.mem_cons, List.mem_cons, hab, ih]

/-! ## Hosts -/

/-- Whether a character may stand in a host that is written as a name. -/
def isHostChar (c : Char) : Bool := c.isAlphanum || c == '-' || c == '_' || c == '.'

/-- The characters that end a host where a port or a path starts. -/
def hostEnds : Text := [':', '/', '?', '#']

theorem lt_of_isHostChar {c : Char} (h : isHostChar c = true) : c.toNat < 128 := by
  simp only [isHostChar, Bool.or_eq_true, beq_iff_eq] at h
  rcases h with ((h | rfl) | rfl) | rfl
  · exact Text.lt_of_isAlphanum h
  · decide
  · decide
  · decide

/-- A host holds no separators. -/
theorem isSeparator_of_isHostChar {c : Char} (h : isHostChar c = true) : isSeparator c = false := by
  have hword : Unicode.isWord c = (c.isAlphanum || c == '_') := if_pos (lt_of_isHostChar h)
  simp only [isHostChar, Bool.or_eq_true] at h
  rw [isSeparator, Bool.not_eq_false', hword]
  rcases h with ((h | h) | h) | h
  · simp [h]
  · simp [beq_iff_eq.mp h]
  · simp [h]
  · simp [beq_iff_eq.mp h]

theorem not_mem_hostEnds {c : Char} (h : isHostChar c = true) : c ∉ hostEnds := by
  have hends : (hostEnds.all fun c => !isHostChar c) = true := by decide
  intro hc
  have hend := List.all_eq_true.mp hends c hc
  rw [h] at hend
  cases hend

/-- A character of a host is no sign of a pattern. -/
theorem ofChar_of_isHostChar {c : Char} (h : isHostChar c = true) : Token.ofChar c = .char c :=
  Token.ofChar_eq_char (by rintro rfl; cases h) (by rintro rfl; cases h)

/-- A URL of the web: a scheme, a host that is written as a name, maybe a port, and the rest. -/
structure WebUrl where
  /-- `http` or `https`, in any case. -/
  scheme : Text
  /-- The host. -/
  host : Text
  /-- Nothing, or the digits of a port with the colon in front of them. -/
  port : Text
  /-- Path, query and fragment. -/
  rest : Text
  /-- The scheme is one of the two. -/
  scheme_eq : scheme.map Text.asciiLower = "http".toList ∨
    scheme.map Text.asciiLower = "https".toList
  /-- There is a host. -/
  host_ne_nil : host ≠ []
  /-- The host is a name, without a user in front of it. -/
  isHostChar_of_mem : ∀ c ∈ host, isHostChar c = true
  /-- A port is a number. -/
  port_eq : port = [] ∨ ∃ digits, port = ':' :: digits ∧ ∀ c ∈ digits, c.isDigit = true
  /-- What follows starts with one of the signs that end a host. -/
  mem_of_rest_head : ∀ c, rest.head? = some c → c ∈ ['/', '?', '#']

/-- A URL as it is written. -/
def WebUrl.text (a : WebUrl) : Text :=
  a.scheme ++ ("://".toList ++ (a.host ++ (a.port ++ a.rest)))

/-- The host is the domain or a name below it, up to the case of ASCII letters. -/
def IsWithin (host d : Text) : Prop :=
  Text.eqIgnoringAsciiCase host d = true ∨
    ∃ sub tail, host = sub ++ '.' :: tail ∧ Text.eqIgnoringAsciiCase tail d = true

namespace WebUrl

theorem scheme_ne_nil (a : WebUrl) : a.scheme ≠ [] := by
  intro h
  have hscheme := a.scheme_eq
  rw [h] at hscheme
  revert hscheme
  decide

/-- A scheme holds none of the characters that a domain is looked for by. -/
theorem not_mem_of_mem_scheme (a : WebUrl) {c : Char} (h : c ∈ a.scheme) :
    c ∉ '.' :: hostEnds := by
  have hlower : Text.asciiLower c ∈ "https".toList := by
    have hmem := List.mem_map_of_mem (f := Text.asciiLower) h
    rcases a.scheme_eq with hscheme | hscheme
    · rw [hscheme] at hmem
      exact List.mem_append_left ['s'] hmem
    · rwa [hscheme] at hmem
  have hends : (('.' :: hostEnds).all fun c => !("https".toList.contains (Text.asciiLower c))) =
      true := by decide
  intro hc
  have hend := List.all_eq_true.mp hends c hc
  rw [List.contains_iff_mem.mpr hlower] at hend
  cases hend

theorem dot_notMem_port (a : WebUrl) : '.' ∉ a.port := by
  rcases a.port_eq with h | ⟨digits, h, hdigits⟩
  · rw [h]
    exact List.not_mem_nil
  · rw [h, List.mem_cons, not_or]
    exact ⟨by decide, fun hdot => absurd (hdigits '.' hdot) (by decide)⟩

/-- Where a host ends, a separator or nothing stands. -/
theorem opensWithSeparator (a : WebUrl) : OpensWithSeparator (a.port ++ a.rest) := by
  have hends : ∀ c ∈ hostEnds, isSeparator c = true := List.all_eq_true.mp (by decide)
  intro c hc
  rcases a.port_eq with h | ⟨digits, h, -⟩
  · rw [h] at hc
    exact hends c (List.mem_cons_of_mem _ (a.mem_of_rest_head c hc))
  · rw [h] at hc
    obtain rfl := Option.some.inj hc
    exact hends ':' List.mem_cons_self

/-- A piece with a dot, but without the characters that end a host, is allowed behind the scheme
only. -/
theorem exists_labels_of_domainStart {a : WebUrl} {w e r : Text} (h : a.text = w ++ (e ++ r))
    (hw : DomainStart w) (hdot : '.' ∈ e) (hends : ∀ c ∈ e, c ∉ hostEnds) :
    ∃ c, OptionalLabels c ∧ c ++ (e ++ r) = a.host ++ (a.port ++ a.rest) := by
  have hscheme : ':' ∉ a.scheme := fun hc => a.not_mem_of_mem_scheme hc (by decide)
  obtain ⟨s, b, rfl, hs, hb⟩ := hw
  rcases hs with rfl | ⟨s, rfl, -, hs⟩
  · rcases hb with rfl | ⟨c, rfl, -⟩
    · -- The piece is a part of the scheme.
      have hfree : ∀ x ∈ e, x ≠ ':' := by
        rintro x hx rfl
        exact hends ':' hx (by decide)
      have hcolon : ∀ x, ("://".toList ++ (a.host ++ (a.port ++ a.rest))).head? = some x →
          x = ':' := fun x hx => (Option.some.inj hx).symm
      have hcut : e ++ r = a.scheme ++ ("://".toList ++ (a.host ++ (a.port ++ a.rest))) := h.symm
      obtain ⟨q, hq, -⟩ := Text.exists_eq_append_of_stops (· = ':') hcut hfree hcolon
      refine absurd (List.mem_cons_self (a := '.') (l := hostEnds)) (a.not_mem_of_mem_scheme ?_)
      rw [hq]
      exact List.mem_append_left q hdot
    · -- The scheme starts with a slash.
      obtain ⟨x, s, hx⟩ := List.exists_cons_of_ne_nil a.scheme_ne_nil
      rw [text, hx] at h
      have hslash : x = '/' := List.head_eq_of_cons_eq h
      refine absurd (?_ : '/' ∈ '.' :: hostEnds) (a.not_mem_of_mem_scheme ?_)
      · decide
      · rw [hx, hslash]
        exact List.mem_cons_self
  · have hcolon : ':' ∉ s := fun hc => hs ':' hc (by decide)
    have hcut : a.scheme ++ ':' :: ("//".toList ++ (a.host ++ (a.port ++ a.rest))) =
        s ++ ':' :: (b ++ (e ++ r)) := by
      simpa [text] using h
    obtain ⟨-, hrest⟩ := Text.eq_of_append_cons_eq hcut hscheme hcolon
    rcases hb with rfl | ⟨c, rfl, hc⟩
    · -- The piece starts with a slash.
      cases e with
      | nil => cases hdot
      | cons x e =>
          have hx : '/' = x := List.head_eq_of_cons_eq hrest
          exact absurd (by rw [← hx]; decide) (hends x List.mem_cons_self)
    · exact ⟨c, hc, by simpa using hrest.symm⟩

/-- A piece with a dot and without a colon does not reach into a port. -/
theorem exists_eq_append_of_port {c e q host port : Text} (h : c ++ (e ++ q) = host ++ port)
    (hport : port = [] ∨ ∃ digits, port = ':' :: digits) (hdot : '.' ∈ e) (hcolon : ':' ∉ e)
    (hdots : '.' ∉ port) : ∃ q', host = c ++ (e ++ q') ∧ q = q' ++ port := by
  rcases hport with rfl | ⟨digits, rfl⟩
  · exact ⟨q, by simpa using h.symm, by simp⟩
  rw [← List.append_assoc] at h
  rcases List.append_eq_append_iff.mp h with ⟨q', hq', hq⟩ | ⟨b, hb, hdigits⟩
  · exact ⟨q', by rw [hq', List.append_assoc], hq⟩
  cases b with
  | nil => exact ⟨[], by simpa using hb.symm, by simpa using hdigits.symm⟩
  | cons x b =>
      obtain ⟨rfl, rfl⟩ := List.cons.inj hdigits
      rcases List.append_eq_append_iff.mp hb with ⟨y, -, hy⟩ | ⟨y, -, hy⟩
      · exact absurd (hy ▸ List.mem_append_right y List.mem_cons_self) hcolon
      · have hmem : '.' ∈ ':' :: b := hy ▸ List.mem_append_right y hdot
        exact absurd (List.mem_append_left q hmem) hdots

/-- A piece behind some labels that a separator follows ends where the host does. -/
theorem host_eq_of_cut {a : WebUrl} {c e r : Text}
    (h : c ++ (e ++ r) = a.host ++ (a.port ++ a.rest)) (hc : OptionalLabels c) (hdot : '.' ∈ e)
    (hends : ∀ x ∈ e, x ∉ hostEnds) (hr : OpensWithSeparator r) : a.host = c ++ e := by
  have hfree : ∀ x ∈ c ++ e, x ∉ ['/', '?', '#'] := by
    intro x hx
    rcases List.mem_append.mp hx with hx | hx
    · rcases hc with rfl | ⟨t, rfl, ht⟩
      · cases hx
      · rcases List.mem_append.mp hx with hx | hx
        · exact ht x hx
        · rw [List.mem_singleton.mp hx]
          decide
    · exact fun hstop => hends x hx (List.mem_cons_of_mem ':' hstop)
  have hcut : (c ++ e) ++ r = (a.host ++ a.port) ++ a.rest := by simpa using h
  obtain ⟨q, hq, rfl⟩ := Text.exists_eq_append_of_stops (· ∈ ['/', '?', '#']) hcut hfree
    a.mem_of_rest_head
  have hport : a.port = [] ∨ ∃ digits, a.port = ':' :: digits :=
    a.port_eq.imp_right fun ⟨digits, hdigits, _⟩ => ⟨digits, hdigits⟩
  have hpiece : c ++ (e ++ q) = a.host ++ a.port := by rw [hq, List.append_assoc]
  obtain ⟨q', hhost, rfl⟩ := exists_eq_append_of_port hpiece hport hdot
    (fun hcolon => hends ':' hcolon (by decide)) a.dot_notMem_port
  cases q' with
  | nil => rw [hhost, List.append_nil]
  | cons x q' =>
      -- The host would go on, and what follows the piece is no separator.
      have hx : x ∈ a.host := by
        rw [hhost]
        exact List.mem_append_right c (List.mem_append_right e List.mem_cons_self)
      have hsep : isSeparator x = true := hr x rfl
      rw [isSeparator_of_isHostChar (a.isHostChar_of_mem x hx)] at hsep
      cases hsep

end WebUrl

/-! ## Domains -/

/-- The pattern of a domain. -/
def domainPattern (d : Text) : Text := '|' :: '|' :: (d ++ ['^'])

theorem sameUpToCase_iff_of_ascii {s t : Text} (hs : ∀ c ∈ s, c.toNat < 128)
    (ht : ∀ c ∈ t, c.toNat < 128) :
    SameUpToCase s t ↔ s.map Text.asciiLower = t.map Text.asciiLower := by
  induction s generalizing t with
  | nil => cases t <;> simp [SameUpToCase]
  | cons c s ih =>
      cases t with
      | nil => simp [SameUpToCase]
      | cons d t =>
          have hc := hs c List.mem_cons_self
          have hd := ht d List.mem_cons_self
          have ih := ih (fun c hc => hs c (List.mem_cons_of_mem _ hc))
            (fun d hd => ht d (List.mem_cons_of_mem _ hd))
          rw [SameUpToCase] at ih ⊢
          rw [List.forall₂_cons, ih, List.map_cons, List.map_cons, List.cons.injEq,
            Unicode.sameFold, beq_iff_eq, Unicode.fold, Unicode.fold, if_pos hc, if_pos hd]

/-- What is equal to a host up to case holds none of the characters that end one. -/
theorem SameUpToCase.not_mem_hostEnds {d e : Text} (h : SameUpToCase d e)
    (hd : ∀ c ∈ d, isHostChar c = true) : ∀ c ∈ e, c ∉ hostEnds := by
  have hcaseless : ∀ c ∈ hostEnds, isCaseless c = true := List.all_eq_true.mp (by decide)
  intro c hc hend
  exact Pattern.not_mem_hostEnds (hd c ((h.mem_iff (hcaseless c hend)).mp hc)) hend

theorem isWithin_iff {host d : Text} :
    IsWithin host d ↔ ∃ c e, host = c ++ e ∧ (c = [] ∨ ∃ sub, c = sub ++ ['.']) ∧
      e.map Text.asciiLower = d.map Text.asciiLower := by
  rw [IsWithin]
  simp only [Text.eqIgnoringAsciiCase, beq_iff_eq]
  constructor
  · rintro (h | ⟨sub, e, rfl, h⟩)
    · exact ⟨[], host, rfl, .inl rfl, h⟩
    · exact ⟨sub ++ ['.'], e, by simp, .inr ⟨sub, rfl⟩, h⟩
  · rintro ⟨c, e, rfl, rfl | ⟨sub, rfl⟩, h⟩
    · exact .inl h
    · exact .inr ⟨sub, e, by simp, h⟩

/-- A text shows a domain if its host is within the domain and stands directly behind a scheme and
two slashes. -/
theorem shows_of_isWithin {s h r d : Text} (hs : s ≠ []) (hscheme : ∀ c ∈ s, c ∉ hostEnds)
    (hhost : ∀ c ∈ h, c.toNat < 128 ∧ c ∉ hostEnds) (hd : ∀ c ∈ d, c.toNat < 128)
    (hwithin : IsWithin h d) (hr : OpensWithSeparator r) :
    Shows d (s ++ ("://".toList ++ (h ++ r))) := by
  obtain ⟨c, e, rfl, hc, he⟩ := isWithin_iff.mp hwithin
  have hlabels : OptionalLabels c := by
    refine hc.imp_right fun ⟨sub, hsub⟩ => ⟨sub, hsub, fun x hx hstop => ?_⟩
    refine (hhost x ?_).2 (List.mem_cons_of_mem ':' hstop)
    rw [hsub]
    exact List.mem_append_left e (List.mem_append_left ['.'] hx)
  have hascii : ∀ x ∈ e, x.toNat < 128 := fun x hx => (hhost x (List.mem_append_right c hx)).1
  refine ⟨s ++ [':'] ++ '/' :: '/' :: c, e, r, by simp, ?_, ?_, hr⟩
  · exact ⟨_, _, rfl, .inr ⟨s, rfl, hs, hscheme⟩, .inr ⟨c, rfl, hlabels⟩⟩
  · exact (sameUpToCase_iff_of_ascii hd hascii).mpr he.symm

/-- The pattern of a domain accepts the URLs whose host is the domain or below it. -/
theorem accepts_domainPattern_iff {d : Text} (hd : ∀ c ∈ d, isHostChar c = true) (hdot : '.' ∈ d)
    (a : WebUrl) : Accepts (domainPattern d) a.text ↔ IsWithin a.host d := by
  have htokens : ∀ c ∈ d, Token.ofChar c = .char c := fun c hc => ofChar_of_isHostChar (hd c hc)
  have hascii : ∀ {t : Text}, (∀ c ∈ t, isHostChar c = true) → ∀ c ∈ t, c.toNat < 128 :=
    fun h c hc => lt_of_isHostChar (h c hc)
  rw [domainPattern, accepts_anchored_iff htokens]
  constructor
  · rintro ⟨w, e, r, htext, hw, he, hr⟩
    have hdote : '.' ∈ e := (he.mem_iff (by decide)).mpr hdot
    have hends := he.not_mem_hostEnds hd
    obtain ⟨c, hc, hcut⟩ := WebUrl.exists_labels_of_domainStart htext hw hdote hends
    have hhost := WebUrl.host_eq_of_cut hcut hc hdote hends hr
    refine isWithin_iff.mpr ⟨c, e, hhost, hc.imp_right fun ⟨t, ht, _⟩ => ⟨t, ht⟩, ?_⟩
    have heascii : ∀ x ∈ e, isHostChar x = true := by
      intro x hx
      refine a.isHostChar_of_mem x ?_
      rw [hhost]
      exact List.mem_append_right c hx
    exact ((sameUpToCase_iff_of_ascii (hascii hd) (hascii heascii)).mp he).symm
  · intro hwithin
    refine shows_of_isWithin a.scheme_ne_nil (fun x hx hend => ?_) (fun x hx => ?_) (hascii hd)
      hwithin a.opensWithSeparator
    · exact a.not_mem_of_mem_scheme hx (List.mem_cons_of_mem '.' hend)
    · have hchar := a.isHostChar_of_mem x hx
      exact ⟨lt_of_isHostChar hchar, not_mem_hostEnds hchar⟩

end UrlFilter.Pattern
