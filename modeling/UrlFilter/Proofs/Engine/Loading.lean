import UrlFilter.Proofs.Engine.Runs
import UrlFilter.Proofs.RuleSet.Rebuilding

/-!
# Loading lists one after the other

Lists that are loaded from several sources have the effect of one batch with all their lines, in
whatever way they are loaded.

Every list adds the rules of its lines behind those that came before (`Engine.addLists_tracks`).
For an engine with a cache this needs that the cache stores what was compiled, and that the rules of
the engine stand in order.  Both hold at every site whose engines began without rules
(`Site.run_settled`).
-/

namespace UrlFilter

namespace Engine

/-! ## What adding does -/

section

variable {occurs : List Text → Prop} {e : Engine} {rules : List Rule}

/-- An engine holds the rules of the lines that are added, behind those that it held before. -/
theorem addRules_tracks {lines : List Text} (he : e.cache.Stores occurs)
    (hseparate : Separate occurs) (hlines : occurs lines) (h : RuleSet.Tracks rules e.ruleSet) :
    (e.addRules lines).1.report = (Batch.ofLines lines).report ∧
      RuleSet.Tracks (rules ++ lines.filterMap Rule.ofLine?) (e.addRules lines).2.ruleSet := by
  have hbatch : (batch e.cache lines).1 = Batch.ofLines lines := batch_eq he hseparate hlines
  constructor
  · exact congrArg Batch.report hbatch
  · have hruleSet : (e.addRules lines).2.ruleSet = e.ruleSet.extend (Batch.ofLines lines).rules :=
      congrArg (fun b : Batch => e.ruleSet.extend b.rules) hbatch
    rw [hruleSet, ← Batch.rules_ofLines]
    exact h.extend fun r hr => Batch.isCompiled_of_mem hr

/-- Lists that are added one after the other leave the rules of all their lines. -/
theorem addLists_tracks {lists : List (List Text)} (he : e.cache.Stores occurs)
    (hseparate : Separate occurs) (hlists : ∀ lines ∈ lists, occurs lines)
    (h : RuleSet.Tracks rules e.ruleSet) :
    (e.addLists lists).1.added = (lists.flatten.filterMap Rule.ofLine?).length ∧
      RuleSet.Tracks (rules ++ lists.flatten.filterMap Rule.ofLine?)
        (e.addLists lists).2.ruleSet := by
  induction lists generalizing e rules with
  | nil =>
      rw [List.flatten_nil, List.filterMap_nil, List.append_nil]
      exact ⟨rfl, h⟩
  | cons lines rest ih =>
      obtain ⟨hlines, hrest⟩ := List.forall_mem_cons.mp hlists
      obtain ⟨hreport, htracks⟩ := addRules_tracks he hseparate hlines h
      obtain ⟨hadded, htracks'⟩ := ih (addRules_stores he hlines) hrest htracks
      rw [List.flatten_cons, List.filterMap_append, ← List.append_assoc, List.length_append]
      refine ⟨?_, htracks'⟩
      rw [addLists_cons, hadded, hreport, Batch.report, Batch.rules_ofLines]

/-- The rules of an engine stand in order, and it remembers only what they decide. -/
def IsSettled (e : Engine) : Prop := RuleSet.Tracks e.rules e.ruleSet

theorem isSettled_of_empty {cacheSize : Nat} (h : e.ruleSet = .empty cacheSize) :
    e.IsSettled := by
  rw [IsSettled, rules, h]
  exact RuleSet.tracks_empty cacheSize

theorem IsSettled.step {fs : Files} {op : Op} (h : e.IsSettled) (he : e.cache.Stores occurs)
    (hseparate : Separate occurs) (hop : ∀ lines ∈ e.batches fs op, occurs lines) :
    (e.step fs op).2.1.IsSettled := by
  cases op with
  | addRules lines =>
      have hlines := hop lines (List.mem_singleton_self lines)
      exact (addRules_tracks he hseparate hlines h).2.rules
  | loadRules network now sources =>
      simp only [Engine.step, loadRules_eq]
      exact (addLists_tracks he hseparate hop h).2.rules
  | loadRulesBy load state sources =>
      simp only [Engine.step, loadRulesBy_eq]
      exact (addLists_tracks he hseparate hop h).2.rules
  | query url => exact (RuleSet.Tracks.query h url).2.rules
  | shouldBlock url => exact (RuleSet.Tracks.query h url).2.rules
  | shouldNotBlock url => exact (RuleSet.Tracks.query h url).2.rules
  | clearCache => exact (RuleSet.Tracks.clearCache h).rules

end

/-! ## Engines that are alike -/

/-- Two engines have the same rules and answer every question alike, and so do their rule sets
whatever is done to both of them. -/
structure Alike (e f : Engine) : Prop where
  /-- The rules are the same and stand in the same order. -/
  rules : e.rules = f.rules
  /-- The same rule decides about every URL. -/
  query : ∀ url, (e.query url).1 = (f.query url).1
  /-- The same URLs are blocked. -/
  shouldBlock : ∀ url, (e.shouldBlock url).1 = (f.shouldBlock url).1
  /-- The same URLs are let through. -/
  shouldNotBlock : ∀ url, (e.shouldNotBlock url).1 = (f.shouldNotBlock url).1
  /-- Nothing that is asked later tells the rule sets apart. -/
  later : ∀ ops, (e.ruleSet.run ops).1 = (f.ruleSet.run ops).1

theorem alike_of_tracks {rules : List Rule} {e f : Engine} (he : RuleSet.Tracks rules e.ruleSet)
    (hf : RuleSet.Tracks rules f.ruleSet) : e.Alike f where
  rules := he.order.trans hf.order.symm
  query url := (he.query url).1.trans (hf.query url).1.symm
  shouldBlock url :=
    RuleSet.Answer.verdict.inj ((he.step (.shouldBlock url)).1.trans
      (hf.step (.shouldBlock url)).1.symm)
  shouldNotBlock url :=
    RuleSet.Answer.verdict.inj ((he.step (.shouldNotBlock url)).1.trans
      (hf.step (.shouldNotBlock url)).1.symm)
  later := he.run_eq hf

theorem ruleCount_of_tracks {rules : List Rule} {e : Engine} (h : RuleSet.Tracks rules e.ruleSet) :
    e.ruleCount = rules.length := by
  rw [ruleCount, RuleSet.size, h.order]
  exact (RuleSet.evaluationOrder_perm rules).length_eq

section

variable {occurs : List Text → Prop} {e : Engine} {lists : List (List Text)}

theorem separate_eq (lines : List Text) : Separate (· = lines) := by
  rintro _ _ rfl rfl -
  rfl

/-- Lists that are added one after the other have the effect of one batch without a cache. -/
theorem addLists_alike_uncached (h : e.IsSettled) (he : e.cache.Stores occurs)
    (hseparate : Separate occurs) (hlists : ∀ lines ∈ lists, occurs lines) :
    (e.addLists lists).2.Alike (e.uncached.addRules lists.flatten).2 := by
  have hbatch : RuleSet.Tracks (e.rules ++ lists.flatten.filterMap Rule.ofLine?)
      (e.uncached.addRules lists.flatten).2.ruleSet :=
    (addRules_tracks (e := e.uncached) trivial (separate_eq lists.flatten) rfl h).2
  exact alike_of_tracks (addLists_tracks he hseparate hlists h).2 hbatch

/-- Lists that are added one after the other have the effect of one batch with the same cache, if
this batch is separate as well. -/
theorem addLists_alike (h : e.IsSettled) (he : e.cache.Stores occurs)
    (hseparate : Separate occurs) (hlists : ∀ lines ∈ lists, occurs lines)
    (hflatten : occurs lists.flatten) :
    (e.addLists lists).2.Alike (e.addRules lists.flatten).2 :=
  alike_of_tracks (addLists_tracks he hseparate hlists h).2
    (addRules_tracks he hseparate hflatten h).2

/-- The number that adding lists gives is that of the new rules. -/
theorem ruleCount_addLists (h : e.IsSettled) (he : e.cache.Stores occurs)
    (hseparate : Separate occurs) (hlists : ∀ lines ∈ lists, occurs lines) :
    (e.addLists lists).2.ruleCount = e.ruleCount + (e.addLists lists).1.added := by
  obtain ⟨hadded, htracks⟩ := addLists_tracks he hseparate hlists h
  rw [ruleCount_of_tracks htracks, ruleCount_of_tracks h, hadded, List.length_append]

end

end Engine

/-! ## Sites -/

namespace Site

variable {occurs : List Text → Prop} {s : Site}

/-- The engines of a site are settled. -/
def IsSettled (s : Site) : Prop := ∀ e ∈ s.group.engines, e.IsSettled

/-- No engine has rules yet. -/
def IsEmpty (s : Site) : Prop := ∀ e ∈ s.group.engines, ∃ cacheSize, e.ruleSet = .empty cacheSize

theorem IsEmpty.isSettled_share (h : s.IsEmpty) (cache : ResultCache) :
    (s.share cache).IsSettled := by
  intro e he
  obtain ⟨e', he', rfl⟩ := List.mem_map.mp he
  obtain ⟨cacheSize, hempty⟩ := h e' he'
  exact Engine.isSettled_of_empty hempty

theorem step_settled {event : Event} (h : s.IsSettled) (hs : s.Stores occurs)
    (hseparate : Separate occurs) (hevent : ∀ lines ∈ s.stepBatches event, occurs lines) :
    (s.step event).2.IsSettled := by
  cases event with
  | files fs => exact h
  | engine index op =>
      rw [stepBatches] at hevent
      rw [step]
      cases hget : s.group.get? index with
      | none => exact h
      | some e =>
          rw [hget] at hevent
          have hmem : e ∈ s.group.engines := List.mem_of_getElem? hget
          have hstep := (h e hmem).step (hs.stores e hmem) hseparate hevent
          simp only [EngineGroup.set_of_isShared hs.shared]
          intro other hother
          obtain ⟨other', hother', rfl⟩ := List.mem_map.mp hother
          rcases List.mem_or_eq_of_mem_set hother' with hmem' | rfl
          · exact h other' hmem'
          · exact hstep

/-- Engines that began settled are settled after every run, and their cache stores only what was
compiled. -/
theorem run_settled {events : List Event} (h : s.IsSettled) (hs : s.Stores occurs)
    (hseparate : Separate occurs) (hevents : ∀ lines ∈ s.batches events, occurs lines) :
    (s.run events).2.IsSettled ∧ (s.run events).2.Stores occurs := by
  induction events generalizing s with
  | nil => exact ⟨h, hs⟩
  | cons event events ih =>
      obtain ⟨hevent, hrest⟩ := List.forall_mem_append.mp hevents
      exact ih (step_settled h hs hseparate hevent) (step_stores hs hevent) hrest

/-- Lists that an engine loads, in whatever way, have the effect of one batch with all their lines.
This holds for every engine of a site that began without rules, if no two batches that its cache
sees have the same digest.

Every source is asked for once and in order.  The number that comes back is that of the rules that
are new, and if no source can be loaded nothing changes.  An engine without a cache that adds one
batch of all lines is alike, and so is one with the cache if the digest of this batch is not that of
another one either.  The way of the engine's own loader is one of these ways. -/
theorem loadRulesBy_alike_addRules {s : Site} (hempty : s.IsEmpty) {cache : ResultCache}
    (hcache : IsFresh cache) {events : List Event} {index : Nat} {e : Engine}
    (he : ((s.share cache).run events).2.group.get? index = some e) {σ ε : Type}
    (load : Loading σ ε) (state : σ) (sources : List Text)
    (hseparate :
      Separate (· ∈ (s.share cache).batches events ++ load.lists state sources)) :
    let lists := load.lists state sources
    let loaded := (Engine.loadRulesBy load e state sources).1
    let after := (Engine.loadRulesBy load e state sources).2.1
    Engine.loadRulesBy load.recorded e (state, []) sources =
        (loaded, after, (load.replies state sources).2, sources) ∧
      after.Alike (e.uncached.addRules lists.flatten).2 ∧
      (Separate (· ∈ lists.flatten :: ((s.share cache).batches events ++ lists)) →
        after.Alike (e.addRules lists.flatten).2) ∧
      after.ruleCount = e.ruleCount + loaded.added ∧
      ((∀ result ∈ (load.replies state sources).1, result.toOption = none) →
        Engine.loadRulesBy load e state sources = (⟨0, []⟩, e, (load.replies state sources).2)) ∧
      ∀ w, e.loadRules w sources =
        ((Engine.loadRulesBy e.loader.loading e w sources).1,
          (Engine.loadRulesBy e.loader.loading e w sources).2.1,
          (Engine.loadRulesBy e.loader.loading e w sources).2.2.files) := by
  intro lists loaded after
  obtain ⟨hsettled, hstores⟩ := run_settled (hempty.isSettled_share cache)
    (stores_of_isFresh hcache s) hseparate fun _ => List.mem_append_left lists
  have hmem : e ∈ ((s.share cache).run events).2.group.engines := List.mem_of_getElem? he
  have hsettled := hsettled e hmem
  have hstores := hstores.stores e hmem
  have hlists : ∀ lines ∈ lists, lines ∈ (s.share cache).batches events ++ lists :=
    fun _ => List.mem_append_right _
  have hafter : after = (e.addLists lists).2 :=
    congrArg (fun result => result.2.1) (Engine.loadRulesBy_eq load e state sources)
  have hloaded : loaded = (e.addLists lists).1 :=
    congrArg Prod.fst (Engine.loadRulesBy_eq load e state sources)
  refine ⟨?_, ?_, fun hflatten => ?_, ?_, fun hfail => ?_, fun w => ?_⟩
  · rw [Engine.loadRulesBy_eq, Loading.lists_recorded, Loading.replies_recorded, hafter, hloaded,
      List.nil_append]
  · rw [hafter]
    exact Engine.addLists_alike_uncached hsettled hstores hseparate hlists
  · rw [hafter]
    exact Engine.addLists_alike hsettled (hstores.mono fun _ => List.mem_cons_of_mem _) hflatten
      (fun _ h => List.mem_cons_of_mem _ (hlists _ h)) List.mem_cons_self
  · rw [hafter, hloaded]
    exact Engine.ruleCount_addLists hsettled hstores hseparate hlists
  · rw [Engine.loadRulesBy_eq, Loading.lists_eq_nil hfail]
    rfl
  · exact Engine.loadRules_eq_loadRulesBy e w sources

/-- A world without files and without a network. -/
def bareWorld : World := ⟨.empty [], .unreachable, 0⟩

/-- A loader that holds one list. -/
def oneList : Loader := .memory [("list".toList, "ads".toList)]

/-- The list is asked for twice, and between that a list that is not there. -/
def listTwice : List Text := ["list".toList, "none".toList, "list".toList]

theorem lists_listTwice :
    oneList.loading.lists bareWorld listTwice = [["ads".toList], ["ads".toList]] := rfl

/-- One batch of two lines has the effect of two loaded lists, which add two rules. -/
theorem loadRulesBy_listTwice_alike :
    ∃ e, ((twoEngines.share (.ofCapacity 1)).run passOn).2.group.get? 0 = some e ∧
      (Engine.loadRulesBy oneList.loading e bareWorld listTwice).2.1.Alike
        (e.uncached.addRules ["ads".toList, "ads".toList]).2 ∧
      (Engine.loadRulesBy oneList.loading e bareWorld listTwice).2.1.ruleCount =
        e.ruleCount + 2 := by
  have hempty : twoEngines.IsEmpty := by
    intro e he
    rcases List.mem_cons.mp he with rfl | he
    · exact ⟨1, rfl⟩
    · exact ⟨1, congrArg Engine.ruleSet (List.mem_singleton.mp he)⟩
  obtain ⟨e, he⟩ := Option.isSome_iff_exists.mp
    (show (((twoEngines.share (.ofCapacity 1)).run passOn).2.group.get? 0).isSome = true by
      decide +kernel)
  have hseparate : Separate (· ∈ (twoEngines.share (.ofCapacity 1)).batches passOn ++
      oneList.loading.lists bareWorld listTwice) := by
    have hads : ["ads".toList] ∈ (twoEngines.share (.ofCapacity 1)).batches passOn :=
      List.mem_cons_self
    have hmem : ∀ lines ∈ (twoEngines.share (.ofCapacity 1)).batches passOn ++
        oneList.loading.lists bareWorld listTwice,
        lines ∈ (twoEngines.share (.ofCapacity 1)).batches passOn := by
      rw [lists_listTwice, List.forall_mem_append]
      refine ⟨fun _ h => h, fun lines h => ?_⟩
      simp only [List.mem_cons, List.not_mem_nil, or_false, or_self] at h
      rw [h]
      exact hads
    exact fun lines lines' h h' => separate_passOn lines lines' (hmem lines h) (hmem lines' h')
  obtain ⟨-, halike, -, hcount, -, -⟩ := loadRulesBy_alike_addRules hempty (.inr ⟨1, rfl⟩) he
    oneList.loading bareWorld listTwice hseparate
  have hadded : (Engine.loadRulesBy oneList.loading e bareWorld listTwice).1.added = 2 := by
    obtain rfl := Option.some.inj (he.symm.trans rfl)
    decide +kernel
  exact ⟨e, he, halike, hcount.trans (congrArg (e.ruleCount + ·) hadded)⟩

end Site

end UrlFilter
