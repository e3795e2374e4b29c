import UrlFilter.Proofs.Rule.Reading
import UrlFilter.Rule.Batch

/-!
# What the lines of a batch become

A line is compiled by itself.  Nothing but the trimmed line decides what becomes of it
(`Rule.compile_trim`), and a rule keeps this line as its source, so it can be compiled again from
what it keeps (`Rule.compile_source`).

The rules of a batch are those of its lines, in the order of the lines (`Batch.rules_ofLines`).  So
they can be told from the lines of several batches together.
-/

namespace UrlFilter

theorem RuleLine.parse_trim (line : Text) : parse line.trim = parse line := by
  rw [parse, parse, Text.trim_trim]

theorem RuleLine.Reads.source_eq {t : Text} {r : RuleLine} (h : Reads t r) : r.source = t := by
  cases h with
  | comment _ => rfl
  | cosmetic _ _ => rfl
  | rule _ _ _ _ _ => rfl

namespace Rule

/-- Blanks at the ends of a line do not matter. -/
theorem compile_trim (line : Text) : compile line.trim = compile line := by
  rw [compile, compile, RuleLine.parse_trim, Text.trim_trim]

/-- Once a line has been read, its pattern is all that is left to compile. -/
theorem compile_eq_ok_iff_of_parse {line : Text} {read : RuleLine} {rule : Rule}
    (hread : RuleLine.parse line = .ok read) :
    compile line = .ok rule ↔ ∃ matcher, compileLine read = .ok matcher ∧
      rule = ⟨read.kind, matcher, read.options, read.source⟩ := by
  rw [compile, hread]
  cases hmatcher : compileLine read with
  | error fault => simp [hmatcher]
  | ok matcher => simp [hmatcher, eq_comm]

/-- A line is compiled if it can be read and its pattern can be compiled. -/
theorem compile_eq_ok_iff {line : Text} {rule : Rule} :
    compile line = .ok rule ↔ ∃ read matcher, RuleLine.Reads line.trim read ∧
      compileLine read = .ok matcher ∧
        rule = ⟨read.kind, matcher, read.options, read.source⟩ := by
  simp only [← RuleLine.parse_eq_ok_iff]
  constructor
  · intro h
    cases hread : RuleLine.parse line with
    | error fault =>
        rw [compile, hread] at h
        cases h
    | ok read =>
        obtain ⟨matcher, hmatcher, hrule⟩ := (compile_eq_ok_iff_of_parse hread).mp h
        exact ⟨read, matcher, rfl, hmatcher, hrule⟩
  · rintro ⟨read, matcher, hread, hmatcher, hrule⟩
    exact (compile_eq_ok_iff_of_parse hread).mpr ⟨matcher, hmatcher, hrule⟩

/-- There is a matcher for the lines that are matched against URLs. -/
theorem compileLine_eq_some_iff {read : RuleLine} {m : Matcher} :
    compileLine read = .ok (some m) ↔
      read.kind.isMatchable = true ∧ compilePattern read.pattern = .ok m := by
  rw [compileLine]
  cases read.kind.isMatchable with
  | false => simp
  | true =>
      cases compilePattern read.pattern with
      | error fault => simp
      | ok m' => simp

theorem source_eq_trim {line : Text} {r : Rule} (h : compile line = .ok r) :
    r.source = line.trim := by
  obtain ⟨read, matcher, hread, -, rfl⟩ := compile_eq_ok_iff.mp h
  exact hread.source_eq

/-- A rule can be compiled again from its source. -/
theorem compile_source {line : Text} {r : Rule} (h : compile line = .ok r) :
    compile r.source = .ok r := by
  rw [source_eq_trim h, compile_trim, h]

/-- The rule of a line, if there is one. -/
def ofLine? (line : Text) : Option Rule := (compile line).toOption

theorem ofLine?_eq_some_iff {line : Text} {r : Rule} :
    ofLine? line = some r ↔ compile line = .ok r := by
  rw [ofLine?]
  cases compile line with
  | error e => simp [Except.toOption]
  | ok r' => simp [Except.toOption]

/-- Blank lines are no rules. -/
theorem ofLine?_of_blank {line : Text} (h : line.trim = []) : ofLine? line = none := by
  rw [ofLine?, ← compile_trim, h]
  rfl

end Rule

namespace Batch

theorem rules_ofLine (number : Nat) (line : Text) :
    (ofLine number line).rules = (Rule.ofLine? line).toList := by
  rw [ofLine]
  split
  · next hblank =>
      rw [Rule.ofLine?_of_blank (List.isEmpty_iff.mp hblank)]
      rfl
  · rw [Rule.ofLine?]
    cases Rule.compile line with
    | error e => rfl
    | ok r => rfl

theorem rules_ofLinesFrom (number : Nat) (lines : List Text) :
    (ofLinesFrom number lines).rules = lines.filterMap Rule.ofLine? := by
  induction lines generalizing number with
  | nil => rfl
  | cons line lines ih =>
      rw [ofLinesFrom, append, rules_ofLine, ih, List.filterMap_cons]
      cases Rule.ofLine? line with
      | none => rfl
      | some r => rfl

/-- The rules of a batch are those of its lines. -/
theorem rules_ofLines (lines : List Text) :
    (ofLines lines).rules = lines.filterMap Rule.ofLine? := rules_ofLinesFrom 1 lines

end Batch

end UrlFilter
