import Mathlib.Data.List.TakeWhile
import UrlFilter.Text.Basic

/-!
# Trimming and cutting texts

*Trimming.*  What trimming takes off is blank, and what it leaves has no blank at that end.  These
two facts say what is left (`trimStart_eq_iff`, `trimEnd_eq_iff`), so a text that was trimmed can be
written as what is left with blanks beside it.

*Cutting.*  Two ways to write a text as one piece behind the other are compared by what stops a
piece: a piece that holds no such character reaches no further than the first of them
(`exists_eq_append_of_stops`).
-/

namespace UrlFilter.Text

/-! ## Blanks -/

/-- The text holds nothing but blanks. -/
def Blank (t : Text) : Prop := ∀ c ∈ t, isBlank c = true

theorem blank_nil : Blank [] := List.forall_mem_nil _

theorem blank_reverse {t : Text} : Blank t.reverse ↔ Blank t := by
  simp only [Blank, List.mem_reverse]

/-- A text that starts like one without a blank in front has no blanks in front either. -/
theorem eq_nil_of_blank_append {w t : Text} (hw : Blank w)
    (h : ∀ c, (w ++ t).head? = some c → isBlank c = false) : w = [] := by
  cases w with
  | nil => rfl
  | cons c w =>
      have hc := hw c List.mem_cons_self
      rw [h c rfl] at hc
      exact absurd hc Bool.false_ne_true

/-! ## Trimming -/

/-- `trimStart` takes off blanks, and as many as there are. -/
theorem trimStart_eq_iff {t r : Text} :
    trimStart t = r ↔
      (∃ w, Blank w ∧ t = w ++ r) ∧ ∀ c, r.head? = some c → isBlank c = false := by
  constructor
  · rintro rfl
    refine ⟨⟨t.takeWhile isBlank, fun _ hc => List.mem_takeWhile_imp hc, ?_⟩, ?_⟩
    · exact List.takeWhile_append_dropWhile.symm
    · intro c hc
      exact head?_trimStart_not_blank hc
  · rintro ⟨⟨w, hw, rfl⟩, hr⟩
    rw [trimStart, List.dropWhile_append_of_pos hw]
    exact trimStart_eq_self hr

theorem trimEnd_eq_reverse (t : Text) : trimEnd t = (trimStart t.reverse).reverse := rfl

/-- `trimEnd` takes off blanks, and as many as there are. -/
theorem trimEnd_eq_iff {t r : Text} :
    trimEnd t = r ↔
      (∃ w, Blank w ∧ t = r ++ w) ∧ ∀ c, r.getLast? = some c → isBlank c = false := by
  rw [trimEnd_eq_reverse, List.reverse_eq_iff, trimStart_eq_iff, List.head?_reverse]
  refine and_congr_left fun _ => ?_
  constructor
  · rintro ⟨w, hw, h⟩
    refine ⟨w.reverse, blank_reverse.mpr hw, ?_⟩
    simpa using congrArg List.reverse h
  · rintro ⟨w, hw, rfl⟩
    exact ⟨w.reverse, blank_reverse.mpr hw, List.reverse_append⟩

/-- A text without blanks at its ends is trimmed already. -/
theorem trim_eq_self {t : Text} (hfirst : ∀ c, t.head? = some c → isBlank c = false)
    (hlast : ∀ c, t.getLast? = some c → isBlank c = false) : trim t = t := by
  rw [trim, trimStart_eq_self hfirst]
  exact trimEnd_eq_self hlast

/-- `trim` takes off blanks at both ends, and as many as there are. -/
theorem trim_eq_iff {t r : Text} :
    trim t = r ↔ (∃ w w', Blank w ∧ Blank w' ∧ t = w ++ (r ++ w')) ∧
      (∀ c, r.head? = some c → isBlank c = false) ∧
        ∀ c, r.getLast? = some c → isBlank c = false := by
  constructor
  · rintro rfl
    obtain ⟨⟨w, hw, hstart⟩, -⟩ := trimStart_eq_iff.mp (rfl : trimStart t = _)
    obtain ⟨⟨w', hw', hend⟩, -⟩ := trimEnd_eq_iff.mp (rfl : trim t = _)
    refine ⟨⟨w, w', hw, hw', ?_⟩, fun _ => head?_trim_not_blank, fun _ => getLast?_trim_not_blank⟩
    rw [← hend, ← hstart]
  · rintro ⟨⟨w, w', hw, hw', rfl⟩, hfirst, hlast⟩
    rw [trim]
    cases r with
    | nil =>
        have hstart : trimStart (w ++ ([] ++ w')) = [] := by
          refine trimStart_eq_iff.mpr ⟨⟨w ++ w', ?_, by simp⟩, fun c hc => by cases hc⟩
          exact List.forall_mem_append.mpr ⟨hw, hw'⟩
        rw [hstart]
        rfl
    | cons d r =>
        have hstart : trimStart (w ++ (d :: r ++ w')) = d :: r ++ w' :=
          trimStart_eq_iff.mpr ⟨⟨w, hw, rfl⟩, fun c hc => hfirst c hc⟩
        rw [hstart]
        exact trimEnd_eq_iff.mpr ⟨⟨w', hw', rfl⟩, hlast⟩

/-- Blanks behind a text do not matter to what trimming leaves of it. -/
theorem trim_append_of_blank {t w : Text} (hw : Blank w) : trim (t ++ w) = trim t := by
  obtain ⟨⟨a, b, ha, hb, ht⟩, hends⟩ := trim_eq_iff.mp (rfl : trim t = _)
  refine trim_eq_iff.mpr ⟨⟨a, b ++ w, ha, List.forall_mem_append.mpr ⟨hb, hw⟩, ?_⟩, hends⟩
  rw [← List.append_assoc (trim t), ← List.append_assoc a, ← ht]

/-! ## Cutting -/

/-- A piece without stops is part of what stands in front of the first stop. -/
theorem exists_eq_append_of_stops (stop : Char → Prop) {x r y z : Text} (h : x ++ r = y ++ z)
    (hx : ∀ c ∈ x, ¬ stop c) (hz : ∀ c, z.head? = some c → stop c) :
    ∃ q, y = x ++ q ∧ r = q ++ z := by
  rcases List.append_eq_append_iff.mp h with ⟨q, hy, hr⟩ | ⟨b, hb, hz'⟩
  · exact ⟨q, hy, hr⟩
  · cases b with
    | nil => exact ⟨[], by simpa using hb.symm, by simpa using hz'.symm⟩
    | cons c b =>
        have hstop : stop c := hz c (by rw [hz']; rfl)
        have hc : c ∈ x := by
          rw [hb]
          exact List.mem_append_right _ List.mem_cons_self
        exact absurd hstop (hx c hc)

/-- What a text starts with before a stop stands in front of that stop. -/
theorem isPrefix_of_notMem {c : Char} {p t r : Text} (hp : c ∉ p) (h : p <+: t ++ c :: r) :
    p <+: t := by
  obtain ⟨s, hs⟩ := h
  have hfree : ∀ d ∈ p, ¬ d = c := by
    rintro d hd rfl
    exact hp hd
  have hstop : ∀ d, (c :: r).head? = some d → d = c := by
    intro d hd
    exact (Option.some.inj hd).symm
  obtain ⟨q, rfl, -⟩ := exists_eq_append_of_stops (· = c) hs hfree hstop
  exact List.prefix_append p q

/-- There is one first occurrence of a character. -/
theorem eq_of_append_cons_eq {c : Char} {x r y z : Text} (h : x ++ c :: r = y ++ c :: z)
    (hx : c ∉ x) (hy : c ∉ y) : x = y ∧ r = z := by
  have hfree : ∀ d ∈ x, ¬ d = c := by
    rintro d hd rfl
    exact hx hd
  have hstop : ∀ d, (c :: z).head? = some d → d = c := by
    intro d hd
    exact (Option.some.inj hd).symm
  obtain ⟨q, rfl, hr⟩ := exists_eq_append_of_stops (· = c) h hfree hstop
  cases q with
  | nil => exact ⟨(List.append_nil x).symm, List.tail_eq_of_cons_eq hr⟩
  | cons d q =>
      obtain rfl := List.head_eq_of_cons_eq hr
      exact absurd (List.mem_append_right _ List.mem_cons_self) hy

/-! ## Case -/

/-- A character that is no upper-case letter of ASCII is its own lower-case form. -/
theorem isUpper_or_asciiLower_eq (c : Char) : c.isUpper = true ∨ asciiLower c = c := by
  rw [asciiLower]
  split
  · next hupper => exact .inl (decide_eq_true hupper)
  · exact .inr rfl

/-- Letters and digits are in ASCII. -/
theorem lt_of_isAlphanum {c : Char} (h : c.isAlphanum = true) : c.toNat < 128 := by
  have hclass : (c.isUpper || c.isLower || c.isDigit) = true := h
  simp only [Bool.or_eq_true] at hclass
  rcases hclass with (h | h) | h
  · have hle : c.val ≤ 'Z'.val := (of_decide_eq_true h).2
    exact Nat.lt_of_le_of_lt hle (by decide)
  · have hle : c.val ≤ 'z'.val := of_decide_eq_true (Bool.and_eq_true_iff.mp h).2
    exact Nat.lt_of_le_of_lt hle (by decide)
  · have hle : c.val ≤ '9'.val := of_decide_eq_true (Bool.and_eq_true_iff.mp h).2
    exact Nat.lt_of_le_of_lt hle (by decide)

/-! ## Splitting -/

/-- More text behind pieces that are put together is more text behind the last of them. -/
theorem intercalate_append_last (sep : Text) (front : List Text) (last w : Text) :
    sep.intercalate (front ++ [last ++ w]) = sep.intercalate (front ++ [last]) ++ w := by
  induction front with
  | nil => rw [List.nil_append, List.nil_append, List.intercalate_singleton,
      List.intercalate_singleton]
  | cons p front ih =>
      cases front with
      | nil => simp [List.intercalate_cons_cons]
      | cons q front =>
          simp only [List.cons_append, List.intercalate_cons_cons, List.append_assoc] at ih ⊢
          rw [ih]

/-- Pieces that are put together hold a character only if one of them does, or what stands between
them. -/
theorem notMem_intercalate {c : Char} {sep : Text} {pieces : List Text} (hsep : c ∉ sep)
    (hpieces : ∀ p ∈ pieces, c ∉ p) : c ∉ sep.intercalate pieces := by
  induction pieces with
  | nil => exact List.not_mem_nil
  | cons p pieces ih =>
      obtain ⟨hp, hpieces⟩ := List.forall_mem_cons.mp hpieces
      cases pieces with
      | nil => simpa using hp
      | cons q pieces => simp [List.intercalate_cons_cons, hp, hsep, ih hpieces]

/-- The pieces between the occurrences of a character do not hold it. -/
theorem notMem_of_mem_splitOn {c : Char} {t piece : Text} (h : piece ∈ t.splitOn c) :
    c ∉ piece := by
  induction t generalizing piece with
  | nil =>
      rw [List.mem_singleton.mp h]
      exact List.not_mem_nil
  | cons d t ih =>
      rw [List.splitOn_eq_splitOnP, List.splitOnP_cons_eq_if_modifyHead] at h
      rw [List.splitOn_eq_splitOnP] at ih
      obtain ⟨first, others, hpieces⟩ :=
        List.exists_cons_of_ne_nil (List.splitOnP_ne_nil (· == c) t)
      rw [hpieces, List.modifyHead_cons] at h
      rw [hpieces] at ih
      split at h
      · rcases List.mem_cons.mp h with rfl | h
        · exact List.not_mem_nil
        · exact ih h
      · next hd =>
          rcases List.mem_cons.mp h with rfl | h
          · rw [List.mem_cons, not_or]
            exact ⟨fun hc => hd (by rw [← hc, beq_self_eq_true]), ih List.mem_cons_self⟩
          · exact ih (List.mem_cons_of_mem _ h)

end UrlFilter.Text
