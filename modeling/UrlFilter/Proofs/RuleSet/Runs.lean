import UrlFilter.Proofs.Lru
import UrlFilter.Proofs.RuleSet.Order

/-!
# Runs of a rule set

Whatever is done to a rule set, it answers as if it remembered nothing and kept its rules in the
order of their arrival.  `answers` gives the answers of such a rule set.  One that starts empty
gives the same, for any number of decisions that it remembers.

*The invariant.*  After rules have been added, a rule set is related to the list of them by
`Tracks`: its own rules are these in the order in which they are tried, and each decision that it
remembers is what the rules decide now.  The second part is the reason that adding rules must forget
everything.  One lemma for each operation shows that it keeps this relation and gives the right
answer (`Tracks.step`), and a run follows by induction.
-/

namespace UrlFilter.RuleSet

/-! ## Operations -/

/-- A rule that some line of a list is compiled to. -/
abbrev CompiledRule := { r : Rule // r.IsCompiled }

/-- What can be done to a rule set. -/
inductive Op where
  /-- Add the rules of some lines. -/
  | addRules (lines : List Text)
  /-- Add some rules. -/
  | extend (rules : List CompiledRule)
  /-- Ask which rule decides about a URL. -/
  | query (url : Text)
  /-- Ask whether a URL should be blocked. -/
  | shouldBlock (url : Text)
  /-- Ask whether a URL should be let through. -/
  | shouldNotBlock (url : Text)
  /-- Forget all decisions. -/
  | clearCache

/-- What an operation says. -/
inductive Answer where
  /-- What became of some lines. -/
  | report (report : Report)
  /-- Which rule decides. -/
  | decision (result : Except InvalidUrl (Option Decision))
  /-- Yes or no. -/
  | verdict (result : Except InvalidUrl Bool)
  /-- Nothing. -/
  | done

/-- The rules that an operation adds. -/
def Op.added : Op → List Rule
  | .addRules lines => (Batch.ofLines lines).rules
  | .extend rules => rules.map Subtype.val
  | .query _ => []
  | .shouldBlock _ => []
  | .shouldNotBlock _ => []
  | .clearCache => []

/-- One operation on a rule set. -/
def step (s : RuleSet) : Op → Answer × RuleSet
  | .addRules lines => (.report (s.addRules lines).1, (s.addRules lines).2)
  | .extend rules => (.done, s.extend (rules.map Subtype.val))
  | .query url => (.decision (s.query url).1, (s.query url).2)
  | .shouldBlock url => (.verdict (s.shouldBlock url).1, (s.shouldBlock url).2)
  | .shouldNotBlock url => (.verdict (s.shouldNotBlock url).1, (s.shouldNotBlock url).2)
  | .clearCache => (.done, s.clearCache)

/-- Operations one after the other: all answers, and the rule set behind them. -/
def run (s : RuleSet) : List Op → List Answer × RuleSet
  | [] => ([], s)
  | op :: ops => ((s.step op).1 :: ((s.step op).2.run ops).1, ((s.step op).2.run ops).2)

/-! ## Answers without a memory -/

/-- What rules in the order of their arrival decide about the URL that a text asks about. -/
def queryRules (rules : List Rule) (url : Text) : Except InvalidUrl (Option Decision) :=
  (Url.trimQuery url).map (firstMatch rules)

/-- What an operation says where the rules that were added before it are known. -/
def answer (rules : List Rule) : Op → Answer
  | .addRules lines => .report (Batch.ofLines lines).report
  | .extend _ => .done
  | .query url => .decision (queryRules rules url)
  | .shouldBlock url =>
    .verdict ((queryRules rules url).map fun d => d.map Decision.kind == some .blocking)
  | .shouldNotBlock url =>
    .verdict ((queryRules rules url).map fun d => d.map Decision.kind != some .blocking)
  | .clearCache => .done

/-- What operations say one after the other. -/
def answers (rules : List Rule) : List Op → List Answer
  | [] => []
  | op :: ops => answer rules op :: answers (rules ++ op.added) ops

/-! ## The invariant -/

/-- Every decision that is remembered is what the rules decide now. -/
def Coherent (s : RuleSet) : Prop := s.decisions.Keeps fun url d => d = decide s.rules url

/-- The rule set holds some rules, which arrived in this order. -/
structure Tracks (rules : List Rule) (s : RuleSet) : Prop where
  /-- The rules are compiled from lines. -/
  compiled : ∀ r ∈ rules, r.IsCompiled
  /-- They stand in the order in which they are tried. -/
  order : s.rules = evaluationOrder rules
  /-- What is remembered is right. -/
  coherent : s.Coherent

theorem tracks_empty (cacheSize : Nat) : Tracks [] (empty cacheSize) where
  compiled := by
    intro r hr
    cases hr
  order := rfl
  coherent := Lru.keeps_empty _

/-- New rules make a rule set forget what they might change. -/
theorem Tracks.extend {rules added : List Rule} {s : RuleSet} (h : Tracks rules s)
    (hadded : ∀ r ∈ added, r.IsCompiled) : Tracks (rules ++ added) (s.extend added) where
  compiled := by
    intro r hr
    rcases List.mem_append.mp hr with hr | hr
    · exact h.compiled r hr
    · exact hadded r hr
  order := by
    rw [RuleSet.extend, h.order]
    exact evaluationOrder_append rules added
  coherent := Lru.keeps_clear _

theorem Tracks.clearCache {rules : List Rule} {s : RuleSet} (h : Tracks rules s) :
    Tracks rules s.clearCache := ⟨h.compiled, h.order, Lru.keeps_clear _⟩

theorem Tracks.decide_eq {rules : List Rule} {s : RuleSet} (h : Tracks rules s) (url : Text) :
    decide s.rules url = firstMatch rules url := by
  rw [h.order, decide_evaluationOrder h.compiled]

/-- A look-up gives what the rules decide, remembered or not. -/
theorem Tracks.lookup {rules : List Rule} {s : RuleSet} (h : Tracks rules s) (url : Text) :
    (s.lookup url).1 = firstMatch rules url ∧ Tracks rules (s.lookup url).2 := by
  rw [RuleSet.lookup]
  cases hget : s.decisions.get? url with
  | some d =>
      refine ⟨?_, h.compiled, h.order, h.coherent.touch url⟩
      exact (h.coherent.get? hget).trans (h.decide_eq url)
  | none => exact ⟨h.decide_eq url, h.compiled, h.order, h.coherent.insert rfl⟩

theorem query_eq_of_error {s : RuleSet} {url : Text} {e : InvalidUrl}
    (h : Url.trimQuery url = .error e) : s.query url = (.error e, s) := by
  rw [query, h]

theorem query_eq_of_ok {s : RuleSet} {url u : Text} (h : Url.trimQuery url = .ok u) :
    s.query url = (.ok (s.lookup u).1, (s.lookup u).2) := by
  rw [query, h]

theorem Tracks.query {rules : List Rule} {s : RuleSet} (h : Tracks rules s) (url : Text) :
    (s.query url).1 = queryRules rules url ∧ Tracks rules (s.query url).2 := by
  rw [queryRules]
  cases hurl : Url.trimQuery url with
  | error e =>
      rw [query_eq_of_error hurl]
      exact ⟨rfl, h⟩
  | ok u =>
      obtain ⟨hanswer, htracks⟩ := h.lookup u
      rw [query_eq_of_ok hurl, hanswer]
      exact ⟨rfl, htracks⟩

theorem blocks_eq : blocks = fun d => d.map Decision.kind == some .blocking := by
  funext d
  cases d with
  | none => rfl
  | some d => simp [blocks, Decision.isBlocked]

theorem shouldBlock_eq (s : RuleSet) (url : Text) :
    s.shouldBlock url = ((s.query url).1.map blocks, (s.query url).2) := rfl

theorem shouldNotBlock_eq (s : RuleSet) (url : Text) :
    s.shouldNotBlock url = ((s.query url).1.map fun d => !blocks d, (s.query url).2) := by
  rw [shouldNotBlock, shouldBlock_eq]
  cases (s.query url).1 with
  | error e => rfl
  | ok d => rfl

/-- One operation answers as if nothing was remembered, and what is remembered stays right. -/
theorem Tracks.step {rules : List Rule} {s : RuleSet} (h : Tracks rules s) (op : Op) :
    (s.step op).1 = answer rules op ∧ Tracks (rules ++ op.added) (s.step op).2 := by
  cases op with
  | addRules lines => exact ⟨rfl, h.extend fun r hr => Batch.isCompiled_of_mem hr⟩
  | extend added =>
      refine ⟨rfl, h.extend fun r hr => ?_⟩
      obtain ⟨⟨r', hr'⟩, -, rfl⟩ := List.mem_map.mp hr
      exact hr'
  | query url =>
      obtain ⟨hanswer, htracks⟩ := h.query url
      rw [Op.added, List.append_nil]
      exact ⟨congrArg Answer.decision hanswer, htracks⟩
  | shouldBlock url =>
      obtain ⟨hanswer, htracks⟩ := h.query url
      rw [Op.added, List.append_nil, RuleSet.step, shouldBlock_eq, hanswer, blocks_eq]
      exact ⟨rfl, htracks⟩
  | shouldNotBlock url =>
      obtain ⟨hanswer, htracks⟩ := h.query url
      rw [Op.added, List.append_nil, RuleSet.step, shouldNotBlock_eq, hanswer, blocks_eq]
      exact ⟨rfl, htracks⟩
  | clearCache =>
      rw [Op.added, List.append_nil]
      exact ⟨rfl, h.clearCache⟩

theorem Tracks.run {rules : List Rule} {s : RuleSet} (h : Tracks rules s) (ops : List Op) :
    (s.run ops).1 = answers rules ops ∧
      Tracks (rules ++ ops.flatMap Op.added) (s.run ops).2 := by
  induction ops generalizing rules s with
  | nil =>
      rw [List.flatMap_nil, List.append_nil]
      exact ⟨rfl, h⟩
  | cons op ops ih =>
      obtain ⟨hanswer, htracks⟩ := h.step op
      obtain ⟨hanswers, htracks'⟩ := ih htracks
      rw [RuleSet.run, answers, hanswer, hanswers, List.flatMap_cons, ← List.append_assoc]
      exact ⟨rfl, htracks'⟩

/-! ## Runs -/

theorem query_error_iff {s : RuleSet} {url : Text} {e : InvalidUrl} :
    (s.query url).1 = .error e ↔ Url.trimQuery url = .error e := by
  cases hurl : Url.trimQuery url with
  | error e' =>
      rw [query_eq_of_error hurl]
      simp only [Except.error.injEq]
  | ok u =>
      rw [query_eq_of_ok hurl]
      constructor
      · intro h
        cases h
      · intro h
        cases h

/-- A text that is no URL changes nothing, whichever way it is asked about. -/
theorem unchanged_of_error {s : RuleSet} {url : Text} {e : InvalidUrl}
    (h : Url.trimQuery url = .error e) :
    (s.query url).2 = s ∧ (s.shouldBlock url).2 = s ∧ (s.shouldNotBlock url).2 = s := by
  rw [shouldBlock_eq, shouldNotBlock_eq, query_eq_of_error h]
  exact ⟨rfl, rfl, rfl⟩

/-- A rule set that started empty answers as if it remembered nothing, and what it remembers is
right.  Whatever a rule set holds, a query fails only for a text that is no URL, and then changes
nothing. -/
theorem run_refines_answers (cacheSize : Nat) (ops : List Op) :
    ((empty cacheSize).run ops).1 = answers [] ops ∧
      ((empty cacheSize).run ops).2.Coherent ∧
      (∀ (s : RuleSet) (url : Text) (e : InvalidUrl),
        (s.query url).1 = .error e ↔ Url.trimQuery url = .error e) ∧
      ∀ (s : RuleSet) (url : Text) (e : InvalidUrl), Url.trimQuery url = .error e →
        (s.query url).2 = s ∧ (s.shouldBlock url).2 = s ∧ (s.shouldNotBlock url).2 = s := by
  obtain ⟨hanswers, htracks⟩ := (tracks_empty cacheSize).run ops
  exact ⟨hanswers, htracks.coherent, fun _ _ _ => query_error_iff, fun _ _ _ => unchanged_of_error⟩

end UrlFilter.RuleSet
