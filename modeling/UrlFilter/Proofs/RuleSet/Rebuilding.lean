import UrlFilter.Proofs.RuleSet.History

/-!
# Rebuilding a rule set from its own lines

A rule keeps the line that it was compiled from.  The lines of the rules of a rule set, added in the
order in which the rules are tried, give the rule set back: none of them is skipped, and the rules
are the same and in the same order.

*Lines.*  A line that a rule keeps is compiled to this rule again, so a batch of such lines is
exactly their rules (`Batch.ofLines_sources`).

*Order.*  Rules that were sorted before are not moved by sorting, so a rule set holds its own rules
as if they had just arrived in this order (`Tracks.rules`).  Two rule sets that hold the same rules
answer alike from then on, whatever is done to both of them.
-/

namespace UrlFilter

/-- A rule that was compiled is the batch of its own line. -/
theorem Batch.ofLine_source {r : Rule} (h : r.IsCompiled) (number : Nat) :
    ofLine number r.source = ⟨[r], []⟩ := by
  obtain ⟨line, hline⟩ := h
  have hsource : Rule.compile r.source = .ok r := Rule.compile_source hline
  have hblank : ¬ r.source.trim.isEmpty = true := by
    intro hblank
    have hnone := Rule.ofLine?_of_blank (List.isEmpty_iff.mp hblank)
    rw [Rule.ofLine?_eq_some_iff.mpr hsource] at hnone
    cases hnone
  rw [ofLine, if_neg hblank, hsource]

theorem Batch.ofLinesFrom_sources {rules : List Rule} (h : ∀ r ∈ rules, r.IsCompiled)
    (number : Nat) : ofLinesFrom number (rules.map Rule.source) = ⟨rules, []⟩ := by
  induction rules generalizing number with
  | nil => rfl
  | cons r rules ih =>
      obtain ⟨hr, hrules⟩ := List.forall_mem_cons.mp h
      rw [List.map_cons, ofLinesFrom, ofLine_source hr, ih hrules]
      rfl

/-- The lines of rules that were compiled are exactly these rules, and none of them is skipped. -/
theorem Batch.ofLines_sources {rules : List Rule} (h : ∀ r ∈ rules, r.IsCompiled) :
    ofLines (rules.map Rule.source) = ⟨rules, []⟩ := ofLinesFrom_sources h 1

namespace RuleSet

theorem evaluationOrder_evaluationOrder (rules : List Rule) :
    evaluationOrder (evaluationOrder rules) = evaluationOrder rules := by
  simpa using evaluationOrder_append rules []

/-- A rule set holds its rules as if they had arrived in the order in which they are tried. -/
theorem Tracks.rules {rules : List Rule} {s : RuleSet} (h : Tracks rules s) :
    Tracks s.rules s where
  compiled := by
    intro r hr
    rw [h.order] at hr
    exact h.compiled r ((evaluationOrder_perm rules).mem_iff.mp hr)
  order := by rw [h.order, evaluationOrder_evaluationOrder]
  coherent := h.coherent

/-- Two rule sets that hold the same rules answer alike from then on. -/
theorem Tracks.run_eq {rules : List Rule} {s t : RuleSet} (hs : Tracks rules s)
    (ht : Tracks rules t) (ops : List Op) : (s.run ops).1 = (t.run ops).1 :=
  (hs.run ops).1.trans (ht.run ops).1.symm

/-- The lines of the rules of a rule set, in the order in which the rules are tried, give the rule
set back.  None is skipped, the rules are the same and stand in the same order, every URL has the
same decision, and so has everything that is asked later. -/
theorem addRules_sources_run (cacheSize : Nat) (ops : List Op) (size : Nat) :
    let s := ((empty cacheSize).run ops).2
    let (report, rebuilt) := (empty size).addRules (s.rules.map Rule.source)
    report = ⟨s.rules.length, []⟩ ∧ rebuilt.rules = s.rules ∧
      (∀ url, (rebuilt.query url).1 = (s.query url).1) ∧
      ∀ later, (rebuilt.run later).1 = (s.run later).1 := by
  intro s
  have hs : Tracks s.rules s := ((tracks_empty cacheSize).run ops).2.rules
  have hbatch : Batch.ofLines (s.rules.map Rule.source) = ⟨s.rules, []⟩ :=
    Batch.ofLines_sources hs.compiled
  have hrebuilt : Tracks s.rules ((empty size).extend s.rules) :=
    (tracks_empty size).extend hs.compiled
  rw [addRules, hbatch]
  refine ⟨rfl, ?_, fun url => ?_, fun later => hrebuilt.run_eq hs later⟩
  · exact hrebuilt.order.trans hs.order.symm
  · exact (hrebuilt.query url).1.trans (hs.query url).1.symm

/-- A rule set with three rules, one of which came last and is tried first. -/
def threeRules : RuleSet :=
  ((empty 1).run [.addRules [" ads$x ".toList, "/a[/".toList, "! b".toList],
    .addRules ["@@||ads.net^".toList]]).2

/-- The lines of the three rules give them back. -/
example :
    threeRules.rules.map Rule.source = ["@@||ads.net^".toList, "ads$x".toList, "! b".toList] ∧
      ((empty 0).addRules (threeRules.rules.map Rule.source)).1 = ⟨3, []⟩ ∧
      ((empty 0).addRules (threeRules.rules.map Rule.source)).2.rules = threeRules.rules := by
  decide +kernel

end RuleSet

end UrlFilter
