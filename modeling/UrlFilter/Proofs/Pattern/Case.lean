import Mathlib.Data.List.Forall2
import UrlFilter.Proofs.Pattern.Reading
import UrlFilter.Proofs.Unicode.Case

/-!
# Patterns disregard case in ASCII

A pattern accepts a text or not whatever the case of the ASCII letters in either of them
(`accepts_congr`).  The signs are no letters, so the pattern is cut in the same places
(`parts_map_asciiLower`).  What a token stands for is then compared in two texts that are equal in
lower case: each letter still has its folding, and no character becomes a separator or stops being
one.  The anchors look for signs only.
-/

namespace UrlFilter.Pattern

open Text (asciiLower keeps_asciiLower piece)

/-! ## Cutting -/

theorem Opens.map_asciiLower {p rest : Text} {anchor : Anchor} (h : Opens p anchor rest) :
    Opens (p.map asciiLower) anchor (rest.map asciiLower) := by
  have hbar := Text.head?_map_of_keeps (keeps_asciiLower (c := '|') (by decide)) rest
  cases h with
  | domain => exact .domain
  | start hrest => exact .start (hbar.not.mpr hrest)
  | anywhere hrest => exact .anywhere (hbar.not.mpr hrest)

theorem Closes.map_asciiLower {rest body : Text} {ended : Bool} (h : Closes rest body ended) :
    Closes (rest.map asciiLower) (body.map asciiLower) ended := by
  cases h with
  | anchored =>
      rw [List.map_append]
      exact .anchored
  | free hlast =>
      refine .free ?_
      rwa [ne_eq, Text.getLast?_map_of_keeps (keeps_asciiLower (by decide))]

theorem parts_map_asciiLower (p : Text) :
    parts (p.map asciiLower) =
      ⟨(parts p).anchor, (parts p).body.map asciiLower, (parts p).endAnchored⟩ := by
  obtain ⟨rest, hopens, hcloses⟩ := isCut_iff.mpr (rfl : parts p = parts p)
  exact parts_of_isCut ⟨_, hopens.map_asciiLower, hcloses.map_asciiLower⟩

/-! ## Signs -/

/-- Two tokens stand for the same pieces: they are the same sign, or characters that are equal up to
case. -/
inductive Token.Alike : Token → Token → Prop where
  /-- A run is like itself. -/
  | run : Alike .run .run
  /-- A separator is like itself. -/
  | separator : Alike .separator .separator
  /-- A character is like those with the same folding. -/
  | char {c d : Char} : Unicode.fold c = Unicode.fold d → Alike (.char c) (.char d)

theorem Token.alike_ofChar {c d : Char} (h : asciiLower c = asciiLower d) :
    Alike (ofChar c) (ofChar d) := by
  have hsign : ∀ {s : Char}, s.isAlpha = false → (c = s ↔ d = s) := by
    intro s hs
    rw [← keeps_asciiLower hs c, h, keeps_asciiLower hs d]
  by_cases hrun : c = '*'
  · rw [hrun, (hsign (by decide)).mp hrun]
    exact .run
  by_cases hseparator : c = '^'
  · rw [hseparator, (hsign (by decide)).mp hseparator]
    exact .separator
  rw [ofChar_eq_char hrun hseparator, ofChar_eq_char ((hsign (by decide)).not.mp hrun)
    ((hsign (by decide)).not.mp hseparator)]
  exact .char (Unicode.fold_eq_of_asciiLower_eq h)

theorem forall₂_alike {b b' : Text} (h : b.map asciiLower = b'.map asciiLower) :
    List.Forall₂ Token.Alike (b.map Token.ofChar) (b'.map Token.ofChar) := by
  rw [← List.forall₂_eq_eq_eq, List.forall₂_map_left_iff, List.forall₂_map_right_iff] at h
  rw [List.forall₂_map_left_iff, List.forall₂_map_right_iff]
  exact h.imp fun _ _ => Token.alike_ofChar

theorem isSeparator_asciiLower (c : Char) : isSeparator (asciiLower c) = isSeparator c :=
  Text.apply_asciiLower (by decide) c

section

variable {u u' : Text}

theorem Token.Spans.congr {token token' : Token} {i j : Nat}
    (hu : u.map asciiLower = u'.map asciiLower) (hlike : Alike token token')
    (h : token.Spans u i j) : token'.Spans u' i j := by
  have hlength := Text.length_eq_of_map_eq hu
  cases h with
  | run hij hj hn =>
      cases hlike
      refine .run hij (hlength ▸ hj) fun hmem => hn ?_
      have hpiece : (piece u i j).map asciiLower = (piece u' i j).map asciiLower := by
        simp only [piece, List.map_take, List.map_drop, hu]
      exact Text.mem_of_map_eq (keeps_asciiLower (by decide)) hpiece hmem
  | separator hc hs =>
      cases hlike
      obtain ⟨d, hd, hlower⟩ := Text.exists_getElem?_of_map_eq hu hc
      refine .separator hd ?_
      rwa [← isSeparator_asciiLower, hlower, isSeparator_asciiLower]
  | separatorAtEnd =>
      cases hlike
      rw [hlength]
      exact .separatorAtEnd
  | char hd hs =>
      cases hlike with
      | char hfold =>
          obtain ⟨e, he, hlower⟩ := Text.exists_getElem?_of_map_eq hu hd
          refine .char he (beq_iff_eq.mpr ?_)
          rw [← hfold, beq_iff_eq.mp hs, Unicode.fold_eq_of_asciiLower_eq hlower]

theorem SpanAll.congr {tokens tokens' : List Token} {i j : Nat}
    (hu : u.map asciiLower = u'.map asciiLower) (hlike : List.Forall₂ Token.Alike tokens tokens')
    (h : SpanAll u tokens i j) : SpanAll u' tokens' i j := by
  induction h generalizing tokens' with
  | nil hi =>
      cases hlike
      exact .nil (Text.length_eq_of_map_eq hu ▸ hi)
  | cons htoken _ ih =>
      cases hlike with
      | cons hfirst hothers => exact .cons (htoken.congr hu hfirst) (ih hothers)

end

/-! ## Anchors -/

section

variable {w w' : Text}

/-- What holds no signs holds none in another case either. -/
theorem forall_notMem_congr {signs : Text} (hsigns : (signs.all fun c => !c.isAlpha) = true)
    (h : w.map asciiLower = w'.map asciiLower) (hw : ∀ c ∈ w, c ∉ signs) :
    ∀ c ∈ w', c ∉ signs := by
  intro c hc hsign
  have hkeeps := Text.keeps_asciiLower_of_all hsigns c hsign
  exact hw c (Text.mem_of_map_eq hkeeps h hc) hsign

theorem OptionalScheme.congr (h : w.map asciiLower = w'.map asciiLower) (hw : OptionalScheme w) :
    OptionalScheme w' := by
  rcases hw with rfl | ⟨s, rfl, hne, hs⟩
  · exact .inl (List.map_eq_nil_iff.mp h.symm)
  · obtain ⟨s', colon, rfl, hs', hcolon⟩ := Text.exists_eq_append_of_map_eq h
    obtain rfl := Text.eq_of_map_eq (Text.keeps_asciiLower_of_all (by decide)) hcolon
    refine .inr ⟨s', rfl, ?_, forall_notMem_congr (by decide) hs' hs⟩
    rintro rfl
    exact hne (List.map_eq_nil_iff.mp hs')

theorem OptionalLabels.congr (h : w.map asciiLower = w'.map asciiLower) (hw : OptionalLabels w) :
    OptionalLabels w' := by
  rcases hw with rfl | ⟨t, rfl, ht⟩
  · exact .inl (List.map_eq_nil_iff.mp h.symm)
  · obtain ⟨t', dot, rfl, ht', hdot⟩ := Text.exists_eq_append_of_map_eq h
    obtain rfl := Text.eq_of_map_eq (Text.keeps_asciiLower_of_all (by decide)) hdot
    exact .inr ⟨t', rfl, forall_notMem_congr (by decide) ht' ht⟩

theorem OptionalSlashes.congr (h : w.map asciiLower = w'.map asciiLower)
    (hw : OptionalSlashes w) : OptionalSlashes w' := by
  rcases hw with rfl | ⟨t, rfl, ht⟩
  · exact .inl (List.map_eq_nil_iff.mp h.symm)
  · rw [show '/' :: '/' :: t = ['/', '/'] ++ t from rfl] at h
    obtain ⟨slashes, t', rfl, hslashes, ht'⟩ := Text.exists_eq_append_of_map_eq h
    obtain rfl := Text.eq_of_map_eq (Text.keeps_asciiLower_of_all (by decide)) hslashes
    exact .inr ⟨t', rfl, ht.congr ht'⟩

theorem DomainStart.congr (h : w.map asciiLower = w'.map asciiLower) (hw : DomainStart w) :
    DomainStart w' := by
  obtain ⟨a, b, rfl, ha, hb⟩ := hw
  obtain ⟨a', b', rfl, ha', hb'⟩ := Text.exists_eq_append_of_map_eq h
  exact ⟨a', b', rfl, ha.congr ha', hb.congr hb'⟩

theorem Anchor.Allows.congr {anchor : Anchor} {u u' : Text} {i : Nat}
    (hu : u.map asciiLower = u'.map asciiLower) (h : anchor.Allows u i) : anchor.Allows u' i := by
  cases anchor with
  | anywhere => trivial
  | start => exact h
  | domain =>
      have htake : (u.take i).map asciiLower = (u'.take i).map asciiLower := by
        rw [List.map_take, hu, List.map_take]
      exact DomainStart.congr htake h

end

/-! ## Acceptance -/

section

variable {p p' u u' : Text}

theorem Accepts.congr (hp : p.map asciiLower = p'.map asciiLower)
    (hu : u.map asciiLower = u'.map asciiLower) (h : Accepts p u) : Accepts p' u' := by
  have hparts := congrArg parts hp
  rw [parts_map_asciiLower, parts_map_asciiLower, Parts.mk.injEq] at hparts
  obtain ⟨hanchor, hbody, hended⟩ := hparts
  rw [accepts_iff_parts] at h ⊢
  obtain ⟨i, j, hallows, hspan, hend⟩ := h
  rw [hanchor] at hallows
  rw [hended, Text.length_eq_of_map_eq hu] at hend
  exact ⟨i, j, hallows.congr hu, hspan.congr hu (forall₂_alike hbody), hend⟩

/-- A pattern accepts a text in whatever case their ASCII letters are. -/
theorem accepts_congr (hp : p.map asciiLower = p'.map asciiLower)
    (hu : u.map asciiLower = u'.map asciiLower) : Accepts p u ↔ Accepts p' u' :=
  ⟨fun h => h.congr hp hu, fun h => h.congr hp.symm hu.symm⟩

end

end UrlFilter.Pattern
