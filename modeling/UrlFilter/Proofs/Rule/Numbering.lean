import UrlFilter.Proofs.Rule.Batch

/-!
# Where each line of a batch goes

A line of a batch is left out, or it is a rule, or it is skipped (`Batch.Sorts`).  Which of the
three it is, and what it adds, depends on the line and its number alone.

*Numbers.*  The lines are numbered from where the batch starts, and every line counts, also one that
is left out.  So a batch that starts later is the same batch with all of its numbers raised
(`Batch.ofLinesFrom_add`), and lines that are put together give the two batches one behind the other
(`Batch.ofLinesFrom_append`).  Everything about a line inside a batch follows by cutting the batch
in front of it and behind it.
-/

namespace UrlFilter

/-- A skipped line with some lines in front of its batch. -/
def SkippedLine.raise (n : Nat) (s : SkippedLine) : SkippedLine :=
  ⟨s.number + n, s.text, s.reason⟩

namespace Batch

/-! ## One line -/

/-- What becomes of the line with a number. -/
inductive Sorts (number : Nat) (line : Text) : Batch → Prop where
  /-- A blank line goes nowhere. -/
  | blank : line.trim = [] → Sorts number line ⟨[], []⟩
  /-- A line that can be compiled is a rule. -/
  | rule {rule : Rule} : line.trim ≠ [] → Rule.compile line = .ok rule →
      Sorts number line ⟨[rule], []⟩
  /-- A line that cannot is skipped, for the reason why it cannot. -/
  | skipped {e : InvalidRule} : line.trim ≠ [] → Rule.compile line = .error e →
      Sorts number line ⟨[], [⟨number, line.trim, e.reason⟩]⟩

section

variable {number : Nat} {line : Text} {b : Batch} {s : SkippedLine}

theorem ofLine_sorts (number : Nat) (line : Text) : Sorts number line (ofLine number line) := by
  rw [ofLine]
  split
  · next hblank => exact .blank (List.isEmpty_iff.mp hblank)
  · next hblank =>
      have hne : line.trim ≠ [] := fun h => hblank (List.isEmpty_iff.mpr h)
      cases hrule : Rule.compile line with
      | ok rule => exact .rule hne hrule
      | error e => exact .skipped hne hrule

/-- A line adds one entry, unless it is blank. -/
theorem Sorts.length_add_length (h : Sorts number line b) :
    b.rules.length + b.skipped.length = if line.trim ≠ [] then 1 else 0 := by
  cases h with
  | blank hblank => simp [hblank]
  | rule hne _ => simp [hne]
  | skipped hne _ => simp [hne]

theorem Sorts.mem_skipped_iff (h : Sorts number line b) :
    s ∈ b.skipped ↔ ∃ e, line.trim ≠ [] ∧ Rule.compile line = .error e ∧
      s = ⟨number, line.trim, e.reason⟩ := by
  cases h with
  | blank hblank => simp [hblank]
  | rule _ hrule => simp [hrule]
  | skipped hne hrule => simp [hne, hrule]

theorem Sorts.skipped_pairwise (h : Sorts number line b) :
    b.skipped.Pairwise fun s s' => s.number < s'.number := by
  cases h with
  | blank _ => exact .nil
  | rule _ _ => exact .nil
  | skipped _ _ => exact List.pairwise_singleton _ _

end

/-! ## Lines one behind the other -/

/-- A batch with some lines in front of it. -/
def raise (n : Nat) (b : Batch) : Batch := ⟨b.rules, b.skipped.map (SkippedLine.raise n)⟩

theorem raise_append (n : Nat) (a b : Batch) :
    (a.append b).raise n = (a.raise n).append (b.raise n) := by
  rw [raise, append, List.map_append]
  rfl

theorem append_assoc (a b c : Batch) : (a.append b).append c = a.append (b.append c) := by
  simp only [append, List.append_assoc]

theorem ofLine_add (number n : Nat) (line : Text) :
    ofLine (number + n) line = (ofLine number line).raise n := by
  rw [ofLine, ofLine]
  split
  · rfl
  · cases Rule.compile line with
    | ok rule => rfl
    | error e => rfl

/-- A batch that starts later has its numbers raised. -/
theorem ofLinesFrom_add (number n : Nat) (lines : List Text) :
    ofLinesFrom (number + n) lines = (ofLinesFrom number lines).raise n := by
  induction lines generalizing number with
  | nil => rfl
  | cons line lines ih =>
      rw [ofLinesFrom, ofLinesFrom, raise_append, ofLine_add, Nat.add_right_comm, ih]

theorem ofLinesFrom_append (number : Nat) (a b : List Text) :
    ofLinesFrom number (a ++ b) =
      (ofLinesFrom number a).append (ofLinesFrom (number + a.length) b) := by
  induction a generalizing number with
  | nil => rfl
  | cons line a ih =>
      rw [List.cons_append, ofLinesFrom, ofLinesFrom, ih, append_assoc, List.length_cons,
        Nat.add_assoc, Nat.add_comm 1]

/-- The batch of lines put together is the first batch and the second with its numbers raised. -/
theorem ofLines_append (a b : List Text) :
    ofLines (a ++ b) = (ofLines a).append ((ofLines b).raise a.length) := by
  rw [ofLines, ofLinesFrom_append, ofLinesFrom_add]
  rfl

/-- A line adds to a batch what becomes of it alone. -/
theorem ofLines_append_cons (a : List Text) (line : Text) (b : List Text) :
    ofLines (a ++ line :: b) =
      (ofLines a).append ((ofLine (a.length + 1) line).append
        ((ofLines b).raise (a.length + 1))) := by
  rw [ofLines, ofLinesFrom_append, ofLinesFrom, Nat.add_comm 1, Nat.add_comm (a.length + 1),
    ofLinesFrom_add]
  rfl

/-! ## Skipped lines -/

theorem mem_skipped_ofLinesFrom_iff {number : Nat} {lines : List Text} {s : SkippedLine} :
    s ∈ (ofLinesFrom number lines).skipped ↔
      ∃ i line e, lines[i]? = some line ∧ line.trim ≠ [] ∧ Rule.compile line = .error e ∧
        s = ⟨number + i, line.trim, e.reason⟩ := by
  induction lines generalizing number with
  | nil => simp [ofLinesFrom, empty]
  | cons line lines ih =>
      rw [ofLinesFrom, append, List.mem_append, (ofLine_sorts number line).mem_skipped_iff, ih]
      constructor
      · rintro (⟨e, hline⟩ | ⟨i, line', e, hi, hne, he, hs⟩)
        · exact ⟨0, line, e, rfl, hline⟩
        · exact ⟨i + 1, line', e, hi, hne, he, by rw [hs, Nat.add_assoc, Nat.add_comm 1]⟩
      · rintro ⟨i, line', e, hi, hne, he, hs⟩
        cases i with
        | zero =>
            obtain rfl := Option.some.inj hi
            exact .inl ⟨e, hne, he, hs⟩
        | succ i => exact .inr ⟨i, line', e, hi, hne, he, by rw [hs, Nat.add_assoc, Nat.add_comm 1]⟩

/-- Skipped lines stand in the order of their numbers. -/
theorem skipped_ofLinesFrom_pairwise (number : Nat) (lines : List Text) :
    (ofLinesFrom number lines).skipped.Pairwise fun s s' => s.number < s'.number := by
  induction lines generalizing number with
  | nil => exact .nil
  | cons line lines ih =>
      have hline := ofLine_sorts number line
      rw [ofLinesFrom, append, List.pairwise_append]
      refine ⟨hline.skipped_pairwise, ih (number + 1), fun s hs s' hs' => ?_⟩
      obtain ⟨e, -, -, rfl⟩ := hline.mem_skipped_iff.mp hs
      obtain ⟨i, line', e', -, -, -, rfl⟩ := mem_skipped_ofLinesFrom_iff.mp hs'
      change number < number + 1 + i
      omega

/-- There are as many entries as lines that are not blank. -/
theorem length_ofLinesFrom (number : Nat) (lines : List Text) :
    (ofLinesFrom number lines).rules.length + (ofLinesFrom number lines).skipped.length =
      lines.countP fun line => line.trim ≠ [] := by
  induction lines generalizing number with
  | nil => rfl
  | cons line lines ih =>
      have hline := (ofLine_sorts number line).length_add_length
      have hlines := ih (number + 1)
      simp only [ofLinesFrom, append, List.length_append, List.countP_cons, decide_eq_true_eq]
      omega

/-- A batch loses no line.  Its rules are those of its lines in their order, and the skipped lines
ascend and are those that cannot be compiled, each with its number, its text and the reason.  Of the
lines that are not blank each one adds one entry, either to the rules or to the skipped lines, and
what it adds does not depend on the lines around it.  Lines put together give the rules of both
parts, and the skipped lines of both with the later numbers raised. -/
theorem ofLines_sorts_each_line (lines a b : List Text) (line : Text) :
    ((ofLines lines).rules = lines.filterMap Rule.ofLine? ∧
        ((ofLines lines).skipped.Pairwise fun s s' => s.number < s'.number) ∧
        (∀ s, s ∈ (ofLines lines).skipped ↔
          ∃ i l e, lines[i]? = some l ∧ l.trim ≠ [] ∧ Rule.compile l = .error e ∧
            s = ⟨i + 1, l.trim, e.reason⟩) ∧
        (ofLines lines).rules.length + (ofLines lines).skipped.length =
          lines.countP fun l => l.trim ≠ []) ∧
      (∃ x, Sorts (a.length + 1) line x ∧
        (ofLines (a ++ line :: b)).rules = (ofLines a).rules ++ (x.rules ++ (ofLines b).rules) ∧
        (ofLines (a ++ line :: b)).skipped = (ofLines a).skipped ++
          (x.skipped ++ (ofLines b).skipped.map (SkippedLine.raise (a.length + 1)))) ∧
      (ofLines (a ++ b)).rules = (ofLines a).rules ++ (ofLines b).rules ∧
      (ofLines (a ++ b)).skipped =
        (ofLines a).skipped ++ (ofLines b).skipped.map (SkippedLine.raise a.length) := by
  refine ⟨⟨rules_ofLines lines, skipped_ofLinesFrom_pairwise 1 lines, fun s => ?_,
    length_ofLinesFrom 1 lines⟩, ⟨_, ofLine_sorts _ line, ?_, ?_⟩, ?_, ?_⟩
  · simp only [ofLines, mem_skipped_ofLinesFrom_iff, Nat.add_comm 1]
  · rw [ofLines_append_cons]
    rfl
  · rw [ofLines_append_cons]
    rfl
  · rw [ofLines_append]
    rfl
  · rw [ofLines_append]
    rfl

/-- The blank line counts. -/
example : (ofLines ["a.com".toList, " ".toList, "@@".toList, "//".toList]).skipped =
    [⟨3, "@@".toList, .line .emptyPattern⟩, ⟨4, "//".toList, .emptyRegex⟩] := by
  decide +kernel

end Batch

end UrlFilter
