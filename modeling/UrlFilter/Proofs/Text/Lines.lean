import Mathlib.Data.List.Basic
import UrlFilter.Proofs.Text
import UrlFilter.Text.Lines

/-!
# Lines and the breaks between them

Of a text that is cut into lines, everything is left but the kind of each break.

*Cutting.*  The lines hold no breaks, there is one more of them than there are breaks, and with line
feeds between them they are the text in which every break is a line feed.  These facts go through
the text as `splitLines` does: in front of a pair, of a single character of a break, or of a
character of a line.

*Joining.*  Lines with breaks between them are cut where they were joined (`splitLines_append`).  A
carriage return needs care here, since a line feed behind it would be a part of the break.  No line
starts with one, and an empty line has the next break behind it, so this does not happen as long as
all breaks are of one kind.
-/

namespace UrlFilter.Text

/-! ## Breaks -/

/-- What may stand between two lines. -/
inductive IsBreak : Text → Prop where
  /-- A line feed. -/
  | lineFeed : IsBreak ['\n']
  /-- A carriage return. -/
  | carriageReturn : IsBreak ['\r']
  /-- A carriage return with the line feed that follows it. -/
  | pair : IsBreak ['\r', '\n']

/-- The text holds no break. -/
def Unbroken (t : Text) : Prop := '\r' ∉ t ∧ '\n' ∉ t

/-- How many carriage returns have a line feed behind them. -/
def pairCount (t : Text) : Nat := (t.zip t.tail).count ('\r', '\n')

/-- A text with a line feed for each pair. -/
def replacePairs : Text → Text
  | [] => []
  | '\r' :: '\n' :: r => '\n' :: replacePairs r
  | c :: r => c :: replacePairs r

/-- A text with a line feed for each break: first for the pairs, then for the carriage returns that
are left. -/
def unifyBreaks (t : Text) : Text := (replacePairs t).map fun c => if c = '\r' then '\n' else c

theorem unbroken_nil : Unbroken [] := ⟨List.not_mem_nil, List.not_mem_nil⟩

theorem unbroken_cons {c : Char} {t : Text} :
    Unbroken (c :: t) ↔ ¬ (c = '\r' ∨ c = '\n') ∧ Unbroken t := by
  simp only [Unbroken, List.mem_cons, not_or, eq_comm (b := c)]
  exact and_and_and_comm

@[simp] theorem pairCount_pair (r : Text) :
    pairCount ('\r' :: '\n' :: r) = pairCount ('\n' :: r) + 1 := by
  simp [pairCount]

/-- A character in front adds no pair, if it is no carriage return in front of a line feed. -/
theorem pairCount_cons {c : Char} {r : Text} (h : ∀ s, c = '\r' → r = '\n' :: s → False) :
    pairCount (c :: r) = pairCount r := by
  cases r with
  | nil => rfl
  | cons d s =>
      have hne : (c, d) ≠ ('\r', '\n') := by
        intro heq
        obtain ⟨rfl, rfl⟩ := Prod.mk.inj heq
        exact h s rfl rfl
      simp [pairCount, hne]

theorem replacePairs_cons {c : Char} {r : Text} (h : ∀ s, c = '\r' → r = '\n' :: s → False) :
    replacePairs (c :: r) = c :: replacePairs r := by
  rw [replacePairs]
  exact h

/-! ## Cutting -/

theorem mem_consLine {c : Char} {l : Text} {ls : List Text} (h : l ∈ consLine c ls) :
    l ∈ ls ∨ l = [c] ∨ ∃ first ∈ ls, l = c :: first := by
  cases ls with
  | nil => exact .inr (.inl (List.mem_singleton.mp h))
  | cons first ls =>
      rcases List.mem_cons.mp h with rfl | h
      · exact .inr (.inr ⟨first, List.mem_cons_self, rfl⟩)
      · exact .inl (List.mem_cons_of_mem _ h)

theorem length_consLine (c : Char) {ls : List Text} (h : ls ≠ []) :
    (consLine c ls).length = ls.length := by
  cases ls with
  | nil => exact absurd rfl h
  | cons first ls => rfl

theorem intercalate_consLine (sep : Text) (c : Char) {ls : List Text} (h : ls ≠ []) :
    sep.intercalate (consLine c ls) = c :: sep.intercalate ls := by
  cases ls with
  | nil => exact absurd rfl h
  | cons first ls => exact List.intercalate_cons_cons_left

/-- No line holds a break. -/
theorem unbroken_of_mem_splitLines {t l : Text} (h : l ∈ splitLines t) : Unbroken l := by
  fun_induction splitLines t generalizing l with
  | case1 =>
      rw [List.mem_singleton.mp h]
      exact unbroken_nil
  | case2 r ih =>
      rcases List.mem_cons.mp h with rfl | h
      · exact unbroken_nil
      · exact ih h
  | case3 c r hpair hbreak ih =>
      rcases List.mem_cons.mp h with rfl | h
      · exact unbroken_nil
      · exact ih h
  | case4 c r hpair hplain ih =>
      rcases mem_consLine h with h | rfl | ⟨first, hfirst, rfl⟩
      · exact ih h
      · exact unbroken_cons.mpr ⟨hplain, unbroken_nil⟩
      · exact unbroken_cons.mpr ⟨hplain, ih hfirst⟩

/-- There is one more line than there are breaks: each of the two characters is a break, and a pair
of them is one, not two. -/
theorem length_splitLines (t : Text) :
    (splitLines t).length + pairCount t = t.count '\r' + t.count '\n' + 1 := by
  fun_induction splitLines t with
  | case1 => rfl
  | case2 r ih =>
      simp [pairCount_cons (c := '\n') (r := r) (by simp)]
      omega
  | case3 c r hpair hbreak ih =>
      rw [pairCount_cons hpair]
      rcases hbreak with rfl | rfl
      · simp
        omega
      · simp
        omega
  | case4 c r hpair hplain ih =>
      obtain ⟨hreturn, hfeed⟩ := not_or.mp hplain
      rw [pairCount_cons hpair, length_consLine c (splitLines_ne_nil r), ih]
      simp [hreturn, hfeed]

/-- Line feeds between the lines give the text in which every break is a line feed. -/
theorem intercalate_splitLines (t : Text) :
    ['\n'].intercalate (splitLines t) = unifyBreaks t := by
  fun_induction splitLines t with
  | case1 => rfl
  | case2 r ih =>
      rw [List.intercalate_cons_of_ne_nil (splitLines_ne_nil r), ih]
      rfl
  | case3 c r hpair hbreak ih =>
      rw [List.intercalate_cons_of_ne_nil (splitLines_ne_nil r), ih, unifyBreaks, unifyBreaks,
        replacePairs_cons hpair]
      rcases hbreak with rfl | rfl
      · simp
      · simp
  | case4 c r hpair hplain ih =>
      obtain ⟨hreturn, -⟩ := not_or.mp hplain
      rw [intercalate_consLine _ c (splitLines_ne_nil r), ih, unifyBreaks, unifyBreaks,
        replacePairs_cons hpair]
      simp [hreturn]

/-! ## Joining -/

theorem splitLines_cons_of_plain {c : Char} (hc : ¬ (c = '\r' ∨ c = '\n')) (t : Text) :
    splitLines (c :: t) = consLine c (splitLines t) := by
  rw [splitLines, if_neg hc]
  rintro r rfl
  exact absurd (.inl rfl) hc

/-- A text without breaks is one line. -/
theorem splitLines_of_unbroken {l : Text} (hl : Unbroken l) : splitLines l = [l] := by
  induction l with
  | nil => rfl
  | cons c l ih =>
      obtain ⟨hc, hl⟩ := unbroken_cons.mp hl
      rw [splitLines_cons_of_plain hc, ih hl]
      rfl

/-- A break starts a line, unless a line feed behind a carriage return is a part of it. -/
theorem splitLines_break {sep : Text} (hsep : IsBreak sep) {t : Text}
    (ht : sep = ['\r'] → t.head? ≠ some '\n') : splitLines (sep ++ t) = [] :: splitLines t := by
  cases hsep with
  | lineFeed => rfl
  | pair => rfl
  | carriageReturn =>
      have hhead := ht rfl
      rw [List.singleton_append, splitLines, if_pos (.inl rfl)]
      rintro r - rfl
      exact hhead rfl

/-- Text without breaks in front of a break is a line. -/
theorem splitLines_append {l sep : Text} (hl : Unbroken l) (hsep : IsBreak sep) {t : Text}
    (ht : sep = ['\r'] → t.head? ≠ some '\n') :
    splitLines (l ++ sep ++ t) = l :: splitLines t := by
  induction l with
  | nil => exact splitLines_break hsep ht
  | cons c l ih =>
      obtain ⟨hc, hl⟩ := unbroken_cons.mp hl
      rw [List.cons_append, List.cons_append, splitLines_cons_of_plain hc, ih hl]
      rfl

/-- Lines that are joined by carriage returns do not start with a line feed. -/
theorem head?_intercalate_ne {lines : List Text} (hlines : ∀ l ∈ lines, Unbroken l) :
    (['\r'].intercalate lines).head? ≠ some '\n' := by
  intro hhead
  have hnot : '\n' ∉ ['\r'].intercalate lines :=
    notMem_intercalate (by decide) fun l hl => (hlines l hl).2
  exact hnot (List.mem_of_mem_head? hhead)

/-- Lines that are joined by breaks of one kind are cut where they were joined. -/
theorem splitLines_intercalate {sep : Text} (hsep : IsBreak sep) {lines : List Text}
    (hne : lines ≠ []) (hlines : ∀ l ∈ lines, Unbroken l) :
    splitLines (sep.intercalate lines) = lines := by
  induction lines with
  | nil => exact absurd rfl hne
  | cons l others ih =>
      obtain ⟨hl, hothers⟩ := List.forall_mem_cons.mp hlines
      cases others with
      | nil =>
          rw [List.intercalate_singleton]
          exact splitLines_of_unbroken hl
      | cons second others =>
          rw [List.intercalate_cons_cons, splitLines_append hl hsep,
            ih (List.cons_ne_nil _ _) hothers]
          rintro rfl
          exact head?_intercalate_ne hothers

/-- A text is cut into lines at its breaks, and nowhere else.  No line holds a break, there is one
more line than there are breaks, where a pair counts as one, and line feeds between the lines give
the text with a line feed for each break.  Any lines, the empty ones too, that are joined by breaks
of one kind are found again. -/
theorem splitLines_cuts_at_breaks (t sep : Text) (lines : List Text) :
    ((∀ l ∈ splitLines t, Unbroken l) ∧
        (splitLines t).length + pairCount t = t.count '\r' + t.count '\n' + 1 ∧
        ['\n'].intercalate (splitLines t) = unifyBreaks t) ∧
      (IsBreak sep → lines ≠ [] → (∀ l ∈ lines, Unbroken l) →
        splitLines (sep.intercalate lines) = lines) := by
  refine ⟨⟨fun l hl => unbroken_of_mem_splitLines hl, length_splitLines t,
    intercalate_splitLines t⟩, fun hsep hne hlines => ?_⟩
  exact splitLines_intercalate hsep hne hlines

/-- Empty lines at the start, inside and at the end are kept, though a carriage return stands at
either end of the text. -/
theorem splitLines_cuts_at_returns :
    (∀ l ∈ [[], "a".toList, [], []], Unbroken l) ∧
      splitLines "\ra\r\r".toList = [[], "a".toList, [], []] := by
  have hlines : ∀ l ∈ [[], "a".toList, [], []], Unbroken l := by
    simp [Unbroken]
  have hcut := splitLines_cuts_at_breaks [] ['\r'] [[], "a".toList, [], []]
  exact ⟨hlines, hcut.2 .carriageReturn (by simp) hlines⟩

/-- A pair is one break, and a line feed in front of a carriage return is another. -/
example : splitLines "a\r\r\nb\n\r".toList = ["a".toList, [], "b".toList, [], []] := by
  decide

end UrlFilter.Text
