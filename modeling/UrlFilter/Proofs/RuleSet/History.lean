import UrlFilter.Proofs.Rule.Batch
import UrlFilter.Proofs.RuleSet.Runs

/-!
# What is left of the history of a rule set

A rule set has a history: lines came in batches, rules were sorted in between, URLs were asked
about.  Little of it is left in the end.

*Order.*  The rules are those of all lines one behind the other, the exceptions in front
(`run_rules_eq`).  Sorting after each batch is the same as sorting once.  A rule that was added
already compiled counts as its source here, since that is compiled to the same rule.

*Verdicts.*  Whether a URL is blocked depends even less on the history: only on which lines came,
up to blanks at their ends.  A URL is blocked if some line blocks it and none allows it
(`shouldBlock_run_eq_ok_iff`).  The order decides which rule is named, and not which verdict
there is (`shouldBlock_run_eq`).
-/

namespace UrlFilter.RuleSet

/-! ## Lines -/

/-- The lines that an operation brings; a compiled rule counts as its source. -/
def Op.lines : Op → List Text
  | .addRules lines => lines
  | .extend rules => rules.map fun r => r.val.source
  | .query _ => []
  | .shouldBlock _ => []
  | .shouldNotBlock _ => []
  | .clearCache => []

/-- The rules that an operation adds are those of its lines. -/
theorem Op.added_eq_filterMap (op : Op) : op.added = op.lines.filterMap Rule.ofLine? := by
  cases op with
  | addRules lines => exact Batch.rules_ofLines lines
  | extend rules =>
      rw [added, lines, List.filterMap_map]
      induction rules with
      | nil => rfl
      | cons r rules ih =>
          obtain ⟨line, hline⟩ := r.property
          have hr : Rule.ofLine? r.val.source = some r.val :=
            Rule.ofLine?_eq_some_iff.mpr (Rule.compile_source hline)
          rw [List.map_cons, ih, List.filterMap_cons, Function.comp_apply, hr]
  | query url => rfl
  | shouldBlock url => rfl
  | shouldNotBlock url => rfl
  | clearCache => rfl

theorem flatMap_added_eq_filterMap (ops : List Op) :
    ops.flatMap Op.added = (ops.flatMap Op.lines).filterMap Rule.ofLine? := by
  induction ops with
  | nil => rfl
  | cons op ops ih =>
      rw [List.flatMap_cons, List.flatMap_cons, List.filterMap_append, ih, op.added_eq_filterMap]

/-! ## Order -/

theorem evaluationOrder_eq_filter_kind (rules : List Rule) :
    evaluationOrder rules =
      rules.filter (·.kind = .exception) ++ rules.filter (·.kind ≠ .exception) := by
  have hexception : Rule.isException = fun r => Decidable.decide (r.kind = .exception) := by
    funext r
    exact beq_eq_decide ..
  have hothers : (fun r : Rule => !r.isException) =
      fun r => Decidable.decide (r.kind ≠ .exception) := by
    funext r
    rw [hexception, decide_not]
  rw [evaluationOrder, hothers, hexception]

theorem evaluationOrder_perm (rules : List Rule) : (evaluationOrder rules).Perm rules :=
  List.filter_append_perm Rule.isException rules

/-- A run leaves all rules that were added, sorted once. -/
theorem rules_run (cacheSize : Nat) (ops : List Op) :
    ((empty cacheSize).run ops).2.rules = evaluationOrder (ops.flatMap Op.added) :=
  ((tracks_empty cacheSize).run ops).2.order

/-- Sorting after each operation is sorting once. -/
theorem foldl_mergeSort_eq (ops : List Op) (rules : List Rule) :
    ops.foldl (fun sorted op => (sorted ++ op.added).mergeSort before) (evaluationOrder rules) =
      evaluationOrder (rules ++ ops.flatMap Op.added) := by
  induction ops generalizing rules with
  | nil => rw [List.foldl_nil, List.flatMap_nil, List.append_nil]
  | cons op ops ih =>
      rw [List.foldl_cons, ← evaluationOrder_eq_mergeSort, evaluationOrder_append, ih,
        List.flatMap_cons, List.append_assoc]

theorem rules_ofLines_eq (cacheSize : Nat) (lines : List Text) :
    (ofLines cacheSize lines).rules = evaluationOrder (lines.filterMap Rule.ofLine?) := by
  rw [← Batch.rules_ofLines]
  rfl

/-- The rules after a run are the exceptions that were added, and then all other rules, each in the
order of their arrival.  None is lost or there twice, a stable sort after each operation gives them,
and so does one batch of all lines. -/
theorem run_rules_eq (cacheSize : Nat) (ops : List Op) :
    let rules := ((empty cacheSize).run ops).2.rules
    let added := ops.flatMap Op.added
    rules = added.filter (·.kind = .exception) ++ added.filter (·.kind ≠ .exception) ∧
      rules.Perm added ∧
      rules = ops.foldl (fun sorted op => (sorted ++ op.added).mergeSort before) [] ∧
      ∀ size, rules = (ofLines size (ops.flatMap Op.lines)).rules := by
  intro rules added
  have hrules : rules = evaluationOrder added := rules_run cacheSize ops
  rw [hrules]
  refine ⟨evaluationOrder_eq_filter_kind added, evaluationOrder_perm added, ?_, fun size => ?_⟩
  · exact (foldl_mergeSort_eq ops []).symm
  · rw [rules_ofLines_eq, ← flatMap_added_eq_filterMap]

/-! ## Verdicts -/

/-- The operations bring a line, up to blanks at its ends. -/
def Brings (ops : List Op) (t : Text) : Prop := ∃ line ∈ ops.flatMap Op.lines, line.trim = t

/-- Some line that the operations bring is a rule of a kind that matches a URL. -/
def Speaks (ops : List Op) (kind : RuleKind) (url : Text) : Prop :=
  ∃ t r, Brings ops t ∧ Rule.compile t = .ok r ∧ r.kind = kind ∧ r.accepts url = true

theorem mem_added_iff {ops : List Op} {r : Rule} :
    r ∈ ops.flatMap Op.added ↔ ∃ t, Brings ops t ∧ Rule.compile t = .ok r := by
  rw [flatMap_added_eq_filterMap, List.mem_filterMap]
  constructor
  · rintro ⟨line, hline, hr⟩
    refine ⟨line.trim, ⟨line, hline, rfl⟩, ?_⟩
    rw [Rule.compile_trim, Rule.ofLine?_eq_some_iff.mp hr]
  · rintro ⟨_, ⟨line, hline, rfl⟩, hr⟩
    rw [Rule.compile_trim] at hr
    exact ⟨line, hline, Rule.ofLine?_eq_some_iff.mpr hr⟩

theorem speaks_iff {ops : List Op} {kind : RuleKind} {url : Text} :
    Speaks ops kind url ↔
      ∃ r ∈ ops.flatMap Op.added, r.kind = kind ∧ r.accepts url = true := by
  simp only [Speaks, mem_added_iff]
  constructor
  · rintro ⟨t, r, ht, hr, h⟩
    exact ⟨r, ⟨t, ht, hr⟩, h⟩
  · rintro ⟨r, ⟨t, ht, hr⟩, h⟩
    exact ⟨t, r, ht, hr, h⟩

theorem firstOf_eq_none_iff {kind : RuleKind} {rules : List Rule} {url : Text} :
    firstOf kind rules url = none ↔ ¬ ∃ r ∈ rules, r.kind = kind ∧ r.accepts url = true := by
  rw [firstOf, Option.map_eq_none_iff, List.find?_eq_none]
  simp only [Bool.and_eq_true, beq_iff_eq, not_exists, not_and]

theorem kind_of_firstOf {kind : RuleKind} {rules : List Rule} {url : Text} {d : Decision}
    (h : firstOf kind rules url = some d) : d.kind = kind := by
  obtain ⟨r, -, rfl⟩ := Option.map_eq_some_iff.mp h
  rfl

/-- The first matching rule blocks if there is a blocking rule and no exception that matches. -/
theorem firstMatch_blocks_iff {rules : List Rule} {url : Text} :
    (firstMatch rules url).map Decision.kind = some .blocking ↔
      (∃ r ∈ rules, r.kind = .blocking ∧ r.accepts url = true) ∧
        ¬ ∃ r ∈ rules, r.kind = .exception ∧ r.accepts url = true := by
  have hnone : firstOf .exception rules url = none ↔ _ := firstOf_eq_none_iff
  rw [← hnone, firstMatch]
  cases hexception : firstOf .exception rules url with
  | some d => simp [kind_of_firstOf hexception]
  | none =>
      rw [Option.none_or]
      cases hblocking : firstOf .blocking rules url with
      | none => simp [firstOf_eq_none_iff.mp hblocking]
      | some d =>
          have hexists : ∃ r ∈ rules, r.kind = .blocking ∧ r.accepts url = true := by
            by_contra hnone
            rw [firstOf_eq_none_iff.mpr hnone] at hblocking
            cases hblocking
          simp [kind_of_firstOf hblocking, hexists]

theorem shouldBlock_run (cacheSize : Nat) (ops : List Op) (url : Text) :
    (((empty cacheSize).run ops).2.shouldBlock url).1 =
      (queryRules (ops.flatMap Op.added) url).map fun d =>
        d.map Decision.kind == some .blocking := by
  obtain ⟨-, htracks⟩ := (tracks_empty cacheSize).run ops
  exact Answer.verdict.inj (htracks.step (.shouldBlock url)).1

/-- After a run a URL is blocked if a line that came blocks it and none allows it. -/
theorem shouldBlock_run_eq_ok_iff (cacheSize : Nat) (ops : List Op) {url u : Text} {verdict : Bool}
    (h : Url.trimQuery url = .ok u) :
    (((empty cacheSize).run ops).2.shouldBlock url).1 = .ok verdict ↔
      (verdict = true ↔ Speaks ops .blocking u ∧ ¬ Speaks ops .exception u) := by
  rw [shouldBlock_run, queryRules, h, speaks_iff, speaks_iff, ← firstMatch_blocks_iff]
  simp only [Except.map, Except.ok.injEq]
  rw [Bool.eq_iff_iff, beq_iff_eq]
  exact Iff.comm

theorem Speaks.of_brings {ops ops' : List Op} {kind : RuleKind} {url : Text}
    (h : ∀ t, t ≠ [] → Brings ops t → Brings ops' t) (hspeaks : Speaks ops kind url) :
    Speaks ops' kind url := by
  obtain ⟨t, r, ht, hr, hmatch⟩ := hspeaks
  have hne : t ≠ [] := by
    rintro rfl
    cases hr
  exact ⟨t, r, h t hne ht, hr, hmatch⟩

theorem shouldBlock_run_congr {ops ops' : List Op}
    (h : ∀ t, t ≠ [] → (Brings ops t ↔ Brings ops' t)) (cacheSize cacheSize' : Nat) (url : Text) :
    (((empty cacheSize).run ops).2.shouldBlock url).1 =
      (((empty cacheSize').run ops').2.shouldBlock url).1 := by
  have hspeaks : ∀ kind u, Speaks ops kind u ↔ Speaks ops' kind u := by
    intro kind u
    exact ⟨.of_brings fun t hne => (h t hne).mp, .of_brings fun t hne => (h t hne).mpr⟩
  cases hurl : Url.trimQuery url with
  | error e =>
      rw [shouldBlock_run, shouldBlock_run, queryRules, queryRules, hurl]
      rfl
  | ok u =>
      obtain ⟨verdict, hverdict⟩ :
          ∃ verdict, (((empty cacheSize).run ops).2.shouldBlock url).1 = .ok verdict := by
        rw [shouldBlock_run, queryRules, hurl]
        exact ⟨_, rfl⟩
      have hiff := (shouldBlock_run_eq_ok_iff cacheSize ops hurl).mp hverdict
      rw [hspeaks, hspeaks] at hiff
      rw [hverdict, (shouldBlock_run_eq_ok_iff cacheSize' ops' hurl).mpr hiff]

/-- Two runs that bring the same lines give the same verdicts, in whatever order and batches and how
often the lines came, and whatever was asked before.  The verdict is what the lines say. -/
theorem shouldBlock_run_eq {ops ops' : List Op}
    (h : ∀ t, t ≠ [] → (Brings ops t ↔ Brings ops' t)) (cacheSize cacheSize' : Nat) (url : Text) :
    (((empty cacheSize).run ops).2.shouldBlock url).1 =
        (((empty cacheSize').run ops').2.shouldBlock url).1 ∧
      ∀ u verdict, Url.trimQuery url = .ok u →
        ((((empty cacheSize).run ops).2.shouldBlock url).1 = .ok verdict ↔
          (verdict = true ↔ Speaks ops .blocking u ∧ ¬ Speaks ops .exception u)) :=
  ⟨shouldBlock_run_congr h cacheSize cacheSize' url,
    fun _ _ hurl => shouldBlock_run_eq_ok_iff cacheSize ops hurl⟩

theorem brings_iff_mem {ops : List Op} {t : Text} :
    Brings ops t ↔ t ∈ (ops.flatMap Op.lines).map Text.trim := List.mem_map.symm

/-- Three lines in one batch, and the same three in another order, one of them twice, with blanks
and a query between them. -/
theorem shouldBlock_run_shuffled :
    let ops := [.addRules ["/ad/".toList, "! ads".toList, "@@||good.org^".toList]]
    let ops' := [.addRules [" @@||good.org^".toList], .query "http://good.org/ad/".toList,
      .addRules ["/ad/\t".toList, [], "! ads".toList, "/ad/".toList]]
    (∀ t, t ≠ [] → (Brings ops t ↔ Brings ops' t)) ∧
      (((empty 0).run ops).2.shouldBlock "http://good.org/ad/".toList).1 =
        (((empty 2).run ops').2.shouldBlock "http://good.org/ad/".toList).1 := by
  intro ops ops'
  have hlines : (ops.flatMap Op.lines).map Text.trim =
      ["/ad/".toList, "! ads".toList, "@@||good.org^".toList] := by decide
  have hlines' : (ops'.flatMap Op.lines).map Text.trim =
      ["@@||good.org^".toList, "/ad/".toList, [], "! ads".toList, "/ad/".toList] := by decide
  have h : ∀ t, t ≠ [] → (Brings ops t ↔ Brings ops' t) := by
    intro t hne
    rw [brings_iff_mem, brings_iff_mem, hlines, hlines']
    simp only [List.mem_cons, List.not_mem_nil, hne]
    tauto
  exact ⟨h, (shouldBlock_run_eq h 0 2 _).1⟩

end UrlFilter.RuleSet
