import UrlFilter.Proofs.Rule.Batch
import UrlFilter.RuleSet

/-!
# The order in which rules are tried

A rule set keeps its rules with the exceptions in front, and the first rule that matches decides.
This is the same as to ask the rules in the order of their arrival twice, first the exceptions and
then the others (`decide_evaluationOrder`).

*Sorting.*  `evaluationOrder` splits the rules in two.  That is what a stable sort by one bit does
(`evaluationOrder_eq_mergeSort`), and sorting rules to which others were added does not depend on
whether they had been sorted before (`evaluationOrder_append`).

*Compiled rules.*  A rule that was compiled from a line has a matcher only if it is an exception or
a blocking rule (`Rule.IsCompiled.kind_of_accepts`).  So what comes behind the exceptions and
matches a URL blocks it.
-/

namespace UrlFilter

/-! ## Compiled rules -/

/-- The rule is what some line of a list is compiled to. -/
def Rule.IsCompiled (r : Rule) : Prop := ∃ line, Rule.compile line = .ok r

/-- Only exceptions and blocking rules match anything. -/
theorem Rule.IsCompiled.kind_of_accepts {r : Rule} {u : Text} (h : r.IsCompiled)
    (hu : r.accepts u = true) : r.kind = .exception ∨ r.kind = .blocking := by
  obtain ⟨line, hline⟩ := h
  obtain ⟨read, matcher, -, hmatcher, rfl⟩ := Rule.compile_eq_ok_iff.mp hline
  cases matcher with
  | none => cases hu
  | some m =>
      obtain ⟨hkind, -⟩ := Rule.compileLine_eq_some_iff.mp hmatcher
      obtain ⟨kind, pattern, options, source⟩ := read
      cases kind with
      | comment => cases hkind
      | cosmetic => cases hkind
      | blocking => exact .inr rfl
      | exception => exact .inl rfl

theorem Batch.isCompiled_of_mem_ofLinesFrom {lines : List Text} {number : Nat} {r : Rule}
    (h : r ∈ (Batch.ofLinesFrom number lines).rules) : r.IsCompiled := by
  induction lines generalizing number with
  | nil => cases h
  | cons line lines ih =>
      rcases List.mem_append.mp h with h | h
      · unfold Batch.ofLine at h
        split at h
        · cases h
        · split at h
          · next rule hrule =>
              rw [List.mem_singleton.mp h]
              exact ⟨line, hrule⟩
          · cases h
      · exact ih h

/-- The rules of a batch are compiled from its lines. -/
theorem Batch.isCompiled_of_mem {lines : List Text} {r : Rule}
    (h : r ∈ (Batch.ofLines lines).rules) : r.IsCompiled := isCompiled_of_mem_ofLinesFrom h

namespace RuleSet

/-! ## Sorting -/

theorem filter_evaluationOrder_exceptions (rules : List Rule) :
    (evaluationOrder rules).filter Rule.isException = rules.filter Rule.isException := by
  simp [evaluationOrder, List.filter_filter]

theorem filter_evaluationOrder_others (rules : List Rule) :
    (evaluationOrder rules).filter (fun r => !r.isException) =
      rules.filter fun r => !r.isException := by
  simp [evaluationOrder, List.filter_filter]

/-- Sorted rules can be sorted again, with others behind them. -/
theorem evaluationOrder_append (rules added : List Rule) :
    evaluationOrder (evaluationOrder rules ++ added) = evaluationOrder (rules ++ added) := by
  have hexceptions := filter_evaluationOrder_exceptions rules
  have hothers := filter_evaluationOrder_others rules
  generalize evaluationOrder rules = sorted at *
  rw [evaluationOrder, evaluationOrder, List.filter_append, List.filter_append, List.filter_append,
    List.filter_append, hexceptions, hothers]

/-- Whether a rule may stand in front of another. -/
def before (r s : Rule) : Bool := r.isException || !s.isException

theorem before_total (r s : Rule) : (before r s || before s r) = true := by
  rw [before, before]
  cases r.isException <;> cases s.isException <;> rfl

theorem before_trans (r s t : Rule) (h : before r s = true) (h' : before s t = true) :
    before r t = true := by
  rw [before, Bool.or_eq_true] at *
  rcases h with hr | hs
  · exact .inl hr
  · rcases h' with hs' | ht
    · rw [hs'] at hs
      cases hs
    · exact .inr ht

theorem evaluationOrder_of_pairwise {rules : List Rule}
    (h : rules.Pairwise fun r s => before r s = true) : evaluationOrder rules = rules := by
  induction h with
  | nil => rfl
  | @cons r rules hr _ ih =>
      rw [evaluationOrder] at *
      cases hexc : r.isException with
      | true => rw [List.filter_cons_of_pos hexc, List.filter_cons_of_neg (by simp [hexc]),
          List.cons_append, ih]
      | false =>
          have hnone : rules.filter Rule.isException = [] := by
            refine List.filter_eq_nil_iff.mpr fun s hs => ?_
            have hbefore := hr s hs
            rw [before, hexc, Bool.false_or, Bool.not_eq_true'] at hbefore
            rw [hbefore]
            exact Bool.false_ne_true
          rw [hnone, List.nil_append] at ih
          rw [List.filter_cons_of_neg (by simp [hexc]), List.filter_cons_of_pos (by simp [hexc]),
            hnone, ih, List.nil_append]

/-- A stable sort keeps the order among rules that may stand either way. -/
theorem filter_mergeSort (rules : List Rule) {p : Rule → Bool}
    (h : ∀ r s, p r = true → p s = true → before r s = true) :
    rules.filter p = (rules.mergeSort before).filter p := by
  have hpair : (rules.filter p).Pairwise fun r s => before r s = true :=
    List.pairwise_filter.mpr (List.pairwise_of_forall fun r s => h r s)
  have hsub : (rules.filter p).Sublist ((rules.mergeSort before).filter p) := by
    have hsorted := List.sublist_mergeSort before_trans before_total hpair List.filter_sublist
    have hfilter := hsorted.filter p
    simpa only [List.filter_filter, Bool.and_self] using hfilter
  refine hsub.eq_of_length ?_
  exact ((List.mergeSort_perm rules before).filter p).length_eq.symm

/-- Splitting the rules in two is a stable sort by one bit. -/
theorem evaluationOrder_eq_mergeSort (rules : List Rule) :
    evaluationOrder rules = rules.mergeSort before := by
  have hexceptions := filter_mergeSort rules (p := Rule.isException) fun r s hr _ => by
    rw [before, hr, Bool.true_or]
  have hothers := filter_mergeSort rules (p := fun r => !r.isException) fun r s _ hs => by
    rw [before, hs, Bool.or_true]
  rw [evaluationOrder, hexceptions, hothers, ← evaluationOrder]
  exact evaluationOrder_of_pairwise (List.pairwise_mergeSort before_trans before_total rules)

/-! ## The first match -/

/-- The decision of the first rule of a kind that matches a URL. -/
def firstOf (kind : RuleKind) (rules : List Rule) (url : Text) : Option Decision :=
  (rules.find? fun r => r.kind == kind && r.accepts url).map fun r => ⟨kind, r.source⟩

/-- The decision of the first exception that matches a URL, or else of the first blocking rule. -/
def firstMatch (rules : List Rule) (url : Text) : Option Decision :=
  (firstOf .exception rules url).or (firstOf .blocking rules url)

theorem decide_append (rules others : List Rule) (url : Text) :
    decide (rules ++ others) url = (decide rules url).or (decide others url) := by
  rw [decide, decide, decide, List.find?_append]
  cases rules.find? fun r => r.accepts url <;> rfl

/-- Rules whose matches are all of one kind. -/
theorem decide_filter {rules : List Rule} {p : Rule → Bool} {kind : RuleKind} {url : Text}
    (h : ∀ r ∈ rules, r.accepts url = true → (p r = true ↔ r.kind = kind)) :
    decide (rules.filter p) url = firstOf kind rules url := by
  induction rules with
  | nil => rfl
  | cons r rules ih =>
      have ih := ih fun s hs => h s (List.mem_cons_of_mem _ hs)
      rw [decide, List.find?_filter] at *
      rw [firstOf] at *
      cases hu : r.accepts url with
      | false =>
          rw [List.find?_cons_of_neg (by simp [hu]), List.find?_cons_of_neg (by simp [hu]), ih]
      | true =>
          have hp := h r (List.mem_cons_self ..) hu
          by_cases hkind : r.kind = kind
          · rw [List.find?_cons_of_pos (by simp [hu, hp, hkind]),
              List.find?_cons_of_pos (by simp [hu, hkind])]
            simp [hkind]
          · rw [List.find?_cons_of_neg (by simp [hp, hkind]),
              List.find?_cons_of_neg (by simp [hkind]), ih]

theorem decide_exceptions (rules : List Rule) (url : Text) :
    decide (rules.filter Rule.isException) url = firstOf .exception rules url :=
  decide_filter fun r _ _ => by rw [Rule.isException, beq_iff_eq]

theorem decide_others {rules : List Rule} (hrules : ∀ r ∈ rules, r.IsCompiled) (url : Text) :
    decide (rules.filter fun r => !r.isException) url = firstOf .blocking rules url := by
  refine decide_filter fun r hr hu => ?_
  rw [Rule.isException, Bool.not_eq_true', beq_eq_false_iff_ne]
  rcases (hrules r hr).kind_of_accepts hu with hkind | hkind
  · simp [hkind]
  · simp [hkind]

/-- Trying the sorted rules is asking all of them twice, in the order of their arrival. -/
theorem decide_evaluationOrder {rules : List Rule} (hrules : ∀ r ∈ rules, r.IsCompiled)
    (url : Text) : decide (evaluationOrder rules) url = firstMatch rules url := by
  rw [evaluationOrder, decide_append, decide_exceptions, decide_others hrules, firstMatch]

end RuleSet

end UrlFilter
