import UrlFilter.Proofs.Engine.Lists
import UrlFilter.Proofs.ResultCache

/-!
# Runs of engines that share a cache

Engines that share a cache of batches behave as if there was no cache.  Nothing that an engine gives
back depends on it, neither reports nor decisions nor rules, as long as no two of the batches that
occur have the same digest.

*Without a cache.*  `uncached` takes the cache away from an engine, and from all engines of a site.
One step commutes with it (`Site.step_uncached`): to step and then take the cache away gives the
same answer and the same site as to step without it.

*The invariant.*  What makes a step commute is that the shared cache stores only batches that were
compiled from lines that occur (`Site.Stores`).  Every step of every engine keeps this, whichever of
them looks up, adds or clears.

The batches that occur in a run are those that engines are asked to add, together with the lines of
every list that is loaded (`Site.batches`).

*Loading.*  Lists are loaded with the loader of an engine, or in any other way (`Loading`).  A way
that changes from time to time is in some state when it is used, which is part of the operation.
-/

namespace UrlFilter

namespace Engine

/-! ## Operations -/

/-- What can be done to an engine. -/
inductive Op where
  /-- Add the rules of some lines. -/
  | addRules (lines : List Text)
  /-- Load lists and add their rules, with what the web answers at some time. -/
  | loadRules (network : Network) (now : Time) (sources : List Text)
  /-- Load lists in some way and add their rules. -/
  | loadRulesBy {σ ε : Type} (load : Loading σ ε) (state : σ) (sources : List Text)
  /-- Ask which rule decides about a URL. -/
  | query (url : Text)
  /-- Ask whether a URL should be blocked. -/
  | shouldBlock (url : Text)
  /-- Ask whether a URL should be let through. -/
  | shouldNotBlock (url : Text)
  /-- Forget all decisions and all batches. -/
  | clearCache

/-- What an operation says. -/
inductive Answer where
  /-- What became of some lines. -/
  | report (report : Report)
  /-- How many rules were added. -/
  | loaded (count : Nat)
  /-- Which rule decides. -/
  | decision (result : Except InvalidUrl (Option Decision))
  /-- Yes or no. -/
  | verdict (result : Except InvalidUrl Bool)
  /-- Nothing. -/
  | done

/-- One operation on an engine, with the files that it leaves. -/
def step (e : Engine) (fs : Files) : Op → Answer × Engine × Files
  | .addRules lines => (.report (e.addRules lines).1.report, (e.addRules lines).2, fs)
  | .loadRules network now sources =>
    let (loaded, e, fs) := e.loadRules ⟨fs, network, now⟩ sources
    (.loaded loaded.added, e, fs)
  | .loadRulesBy load state sources =>
    let (loaded, e, _) := loadRulesBy load e state sources
    (.loaded loaded.added, e, fs)
  | .query url => (.decision (e.query url).1, (e.query url).2, fs)
  | .shouldBlock url => (.verdict (e.shouldBlock url).1, (e.shouldBlock url).2, fs)
  | .shouldNotBlock url => (.verdict (e.shouldNotBlock url).1, (e.shouldNotBlock url).2, fs)
  | .clearCache => (.done, e.clearCache.2, fs)

/-- The batches of lines that an operation adds. -/
def batches (e : Engine) (fs : Files) : Op → List (List Text)
  | .addRules lines => [lines]
  | .loadRules network now sources => e.loader.loading.lists ⟨fs, network, now⟩ sources
  | .loadRulesBy load state sources => load.lists state sources
  | .query _ => []
  | .shouldBlock _ => []
  | .shouldNotBlock _ => []
  | .clearCache => []

/-! ## One engine -/

/-- The engine without a cache. -/
def uncached (e : Engine) : Engine := e.withCache .nil

section

variable {occurs : List Text → Prop} {e : Engine}

theorem addRules_stores {lines : List Text} (he : e.cache.Stores occurs) (hlines : occurs lines) :
    (e.addRules lines).2.cache.Stores occurs := batch_stores he hlines

/-- Adding lines gives the same rules and the same report without a cache. -/
theorem addRules_uncached {lines : List Text} (he : e.cache.Stores occurs)
    (hseparate : Separate occurs) (hlines : occurs lines) :
    (e.uncached.addRules lines).1.report = (e.addRules lines).1.report ∧
      (e.uncached.addRules lines).2 = (e.addRules lines).2.uncached := by
  have hbatch := batch_eq he hseparate hlines
  constructor
  · exact congrArg Batch.report hbatch.symm
  · exact congrArg (fun b => (⟨e.ruleSet.extend b.rules, e.loader, .nil⟩ : Engine)) hbatch.symm

theorem addLists_stores {lists : List (List Text)} (he : e.cache.Stores occurs)
    (hlists : ∀ lines ∈ lists, occurs lines) : (e.addLists lists).2.cache.Stores occurs := by
  induction lists generalizing e with
  | nil => exact he
  | cons lines rest ih =>
      obtain ⟨hlines, hrest⟩ := List.forall_mem_cons.mp hlists
      exact ih (addRules_stores he hlines) hrest

/-- Adding lists gives the same rules and the same number without a cache. -/
theorem addLists_uncached {lists : List (List Text)} (he : e.cache.Stores occurs)
    (hseparate : Separate occurs) (hlists : ∀ lines ∈ lists, occurs lines) :
    (e.uncached.addLists lists).1.added = (e.addLists lists).1.added ∧
      (e.uncached.addLists lists).2 = (e.addLists lists).2.uncached := by
  induction lists generalizing e with
  | nil => exact ⟨rfl, rfl⟩
  | cons lines rest ih =>
      obtain ⟨hlines, hrest⟩ := List.forall_mem_cons.mp hlists
      obtain ⟨hreport, hengine⟩ := addRules_uncached he hseparate hlines
      obtain ⟨hadded, hlists⟩ := ih (addRules_stores he hlines) hrest
      rw [addLists_cons, addLists_cons, hreport, hengine, hadded, hlists]
      exact ⟨rfl, rfl⟩

theorem step_stores {fs : Files} {op : Op} (he : e.cache.Stores occurs)
    (hop : ∀ lines ∈ e.batches fs op, occurs lines) :
    (e.step fs op).2.1.cache.Stores occurs := by
  cases op with
  | addRules lines => exact addRules_stores he (hop lines (List.mem_singleton_self lines))
  | loadRules network now sources =>
      simp only [step, loadRules_eq]
      exact addLists_stores he hop
  | loadRulesBy load state sources =>
      simp only [step, loadRulesBy_eq]
      exact addLists_stores he hop
  | query url => exact he
  | shouldBlock url => exact he
  | shouldNotBlock url => exact he
  | clearCache => exact ResultCache.Keeps.clear _

/-- One operation gives the same answer, and leads to the same engine and files, without a cache. -/
theorem step_uncached {fs : Files} {op : Op} (he : e.cache.Stores occurs)
    (hseparate : Separate occurs) (hop : ∀ lines ∈ e.batches fs op, occurs lines) :
    e.uncached.step fs op =
      ((e.step fs op).1, (e.step fs op).2.1.uncached, (e.step fs op).2.2) := by
  cases op with
  | addRules lines =>
      have hlines := hop lines (List.mem_singleton_self lines)
      obtain ⟨hreport, hengine⟩ := addRules_uncached he hseparate hlines
      rw [step, step, hreport, hengine]
  | loadRules network now sources =>
      rw [batches] at hop
      obtain ⟨hadded, hengine⟩ := addLists_uncached he hseparate hop
      have hloading : e.uncached.loader.loading = e.loader.loading := rfl
      simp only [step, loadRules_eq, hloading, hadded, hengine]
  | loadRulesBy load state sources =>
      rw [batches] at hop
      obtain ⟨hadded, hengine⟩ := addLists_uncached he hseparate hop
      simp only [step, loadRulesBy_eq, hadded, hengine]
  | query url => rfl
  | shouldBlock url => rfl
  | shouldNotBlock url => rfl
  | clearCache => rfl

end

end Engine

/-! ## Groups of engines -/

namespace EngineGroup

variable {g : EngineGroup} {e : Engine} {index : Nat}

theorem set_of_isShared (h : g.isShared = true) :
    g.set index e =
      ⟨(g.engines.set index e).map fun other => other.withCache e.cache, true⟩ := by
  rw [set, h, if_pos rfl]

theorem get?_share_nil : (g.share .nil).get? index = (g.get? index).map Engine.uncached := by
  rw [get?, get?, share, List.getElem?_map]
  rfl

/-- Taking the cache away commutes with a change of one engine. -/
theorem set_share_nil (h : g.isShared = true) :
    (g.share .nil).set index e.uncached = (g.set index e).share .nil := by
  have hset : (g.engines.map fun other => other.withCache .nil).set index e.uncached =
      (g.engines.set index e).map fun other => other.withCache .nil := List.map_set.symm
  have hshared : (g.share .nil).isShared = true := rfl
  rw [set_of_isShared h, set_of_isShared hshared, share, share, hset, List.map_map, List.map_map]
  rfl

end EngineGroup

/-! ## Sites -/

/-- Engines and the files that lists are read from. -/
structure Site where
  /-- The engines. -/
  group : EngineGroup
  /-- The files. -/
  files : Files

/-- What happens at a site. -/
inductive Event where
  /-- An engine does something. -/
  | engine (index : Nat) (op : Engine.Op)
  /-- Someone else changes files. -/
  | files (files : Files)

/-- What can be seen of an event: an answer, and the rules of all engines behind it. -/
structure Observation where
  /-- What the engine says, if there is one. -/
  answer : Option Engine.Answer
  /-- The rules of the engines, in the order in which they are tried. -/
  rules : List (List Rule)

namespace Site

/-- One event at a site. -/
def step (s : Site) : Event → Option Engine.Answer × Site
  | .engine index op =>
    match s.group.get? index with
    | none => (none, s)
    | some e =>
      let (answer, e, fs) := e.step s.files op
      (some answer, ⟨s.group.set index e, fs⟩)
  | .files fs => (none, ⟨s.group, fs⟩)

/-- What is seen of an event. -/
def observe (s : Site) (event : Event) : Observation :=
  ⟨(s.step event).1, (s.step event).2.group.engines.map Engine.rules⟩

/-- Events one after the other: all that is seen, and the site behind them. -/
def run (s : Site) : List Event → List Observation × Site
  | [] => ([], s)
  | event :: events =>
    (s.observe event :: ((s.step event).2.run events).1, ((s.step event).2.run events).2)

/-- The batches of lines that are added in an event. -/
def stepBatches (s : Site) : Event → List (List Text)
  | .engine index op =>
    match s.group.get? index with
    | none => []
    | some e => e.batches s.files op
  | .files _ => []

/-- The batches of lines that are added in a run. -/
def batches (s : Site) : List Event → List (List Text)
  | [] => []
  | event :: events => s.stepBatches event ++ (s.step event).2.batches events

/-! ## Without a cache -/

/-- The site whose engines share a cache. -/
def share (s : Site) (cache : ResultCache) : Site := ⟨s.group.share cache, s.files⟩

/-- All engines share a cache, which stores only what was compiled from lines that occur. -/
structure Stores (s : Site) (occurs : List Text → Prop) : Prop where
  /-- The engines share their cache. -/
  shared : s.group.isShared = true
  /-- It stores what was compiled. -/
  stores : ∀ e ∈ s.group.engines, e.cache.Stores occurs

variable {occurs : List Text → Prop} {s : Site}

theorem step_stores {event : Event} (hs : s.Stores occurs)
    (hevent : ∀ lines ∈ s.stepBatches event, occurs lines) : (s.step event).2.Stores occurs := by
  cases event with
  | files fs => exact ⟨hs.shared, hs.stores⟩
  | engine index op =>
      rw [stepBatches] at hevent
      rw [step]
      cases hget : s.group.get? index with
      | none => exact hs
      | some e =>
          rw [hget] at hevent
          have he := hs.stores e (List.mem_of_getElem? hget)
          have hcache := Engine.step_stores he hevent
          simp only [EngineGroup.set_of_isShared hs.shared]
          refine ⟨rfl, fun other hother => ?_⟩
          obtain ⟨other', -, rfl⟩ := List.mem_map.mp hother
          exact hcache

/-- An event has the same answer, and leads to the same site, without a cache. -/
theorem step_uncached {event : Event} (hs : s.Stores occurs) (hseparate : Separate occurs)
    (hevent : ∀ lines ∈ s.stepBatches event, occurs lines) :
    (s.share .nil).step event = ((s.step event).1, (s.step event).2.share .nil) := by
  cases event with
  | files fs => rfl
  | engine index op =>
      rw [stepBatches] at hevent
      rw [step, step, share, EngineGroup.get?_share_nil]
      cases hget : s.group.get? index with
      | none => rfl
      | some e =>
          rw [hget] at hevent
          have he := hs.stores e (List.mem_of_getElem? hget)
          have hstep := Engine.step_uncached he hseparate hevent
          simp only [Option.map_some, hstep, EngineGroup.set_share_nil hs.shared]
          rfl

theorem rules_share (cache : ResultCache) :
    (s.share cache).group.engines.map Engine.rules = s.group.engines.map Engine.rules := by
  rw [share, EngineGroup.share, List.map_map]
  rfl

theorem observe_uncached {event : Event} (hs : s.Stores occurs) (hseparate : Separate occurs)
    (hevent : ∀ lines ∈ s.stepBatches event, occurs lines) :
    (s.share .nil).observe event = s.observe event := by
  rw [observe, observe, step_uncached hs hseparate hevent, rules_share]

/-- A run shows the same without a cache, and keeps storing only what was compiled. -/
theorem run_uncached {events : List Event} (hs : s.Stores occurs) (hseparate : Separate occurs)
    (hevents : ∀ lines ∈ s.batches events, occurs lines) :
    ((s.share .nil).run events).1 = (s.run events).1 ∧ (s.run events).2.Stores occurs := by
  induction events generalizing s with
  | nil => exact ⟨rfl, hs⟩
  | cons event events ih =>
      obtain ⟨hevent, hrest⟩ := List.forall_mem_append.mp hevents
      obtain ⟨hseen, hstores⟩ := ih (step_stores hs hevent) hrest
      rw [run, run, observe_uncached hs hseparate hevent, step_uncached hs hseparate hevent, hseen]
      exact ⟨rfl, hstores⟩

/-- A cache in which nothing was put yet. -/
def IsFresh (cache : ResultCache) : Prop :=
  cache = .nil ∨ ∃ capacity, cache = .ofCapacity capacity

theorem stores_of_isFresh {cache : ResultCache} (h : IsFresh cache) (s : Site) :
    (s.share cache).Stores occurs := by
  refine ⟨rfl, fun e he => ?_⟩
  obtain ⟨e', -, rfl⟩ := List.mem_map.mp he
  rcases h with rfl | ⟨capacity, rfl⟩
  · trivial
  · exact ResultCache.keeps_ofCapacity capacity

/-- Engines that share a cache show the same as engines without one, if no two batches that occur
have the same digest.  All that the cache ever stores was compiled from lines with the digest under
which it is stored. -/
theorem run_share_eq_run_nil (s : Site) {cache : ResultCache} (hcache : IsFresh cache)
    (events : List Event) (hseparate : Separate (· ∈ (s.share cache).batches events)) :
    ((s.share cache).run events).1 = ((s.share .nil).run events).1 ∧
      ∀ e ∈ ((s.share cache).run events).2.group.engines,
        e.cache.Stores (· ∈ (s.share cache).batches events) := by
  have hstores : (s.share cache).Stores (· ∈ (s.share cache).batches events) :=
    stores_of_isFresh hcache s
  obtain ⟨hseen, hrun⟩ := run_uncached hstores hseparate fun lines h => h
  have hnil : (s.share cache).share .nil = s.share .nil := by
    rw [share, share, share, EngineGroup.share, EngineGroup.share, EngineGroup.share, List.map_map]
    rfl
  rw [hnil] at hseen
  exact ⟨hseen.symm, hrun.stores⟩

/-- Two engines without rules. -/
def twoEngines : Site :=
  ⟨⟨[⟨.empty 1, .nil, .nil⟩, ⟨.empty 1, .nil, .nil⟩], false⟩, .empty []⟩

/-- A way to load lists that has the same list for every source. -/
def sameList : Loading Unit Unit := fun state _ => (.ok ["ads".toList], state)

/-- The second engine finds what the first one compiled, once among the lines that it adds and once
in a list that it loads, and forgets it for both. -/
def passOn : List Event :=
  [.engine 0 (.addRules ["ads".toList]), .engine 1 (.addRules ["ads".toList]),
    .engine 1 (.loadRulesBy sameList () ["list".toList]),
    .engine 1 .clearCache, .engine 0 (.addRules ["@@ads".toList, "|".toList]),
    .engine 0 (.query "http://ads.net".toList)]

theorem separate_passOn : Separate (· ∈ (twoEngines.share (.ofCapacity 1)).batches passOn) := by
  have hbatches : (twoEngines.share (.ofCapacity 1)).batches passOn =
      [["ads".toList], ["ads".toList], ["ads".toList], ["@@ads".toList, "|".toList]] := rfl
  have hdigest : Digest.ofLines ["ads".toList] ≠ Digest.ofLines ["@@ads".toList, "|".toList] := by
    decide +kernel
  rw [hbatches]
  intro lines lines' hlines hlines' h
  simp only [List.mem_cons, List.not_mem_nil, or_false, or_self_left] at hlines hlines'
  rcases hlines with rfl | rfl
  · rcases hlines' with rfl | rfl
    · rfl
    · exact absurd h hdigest
  · rcases hlines' with rfl | rfl
    · exact absurd h.symm hdigest
    · rfl

/-- Nothing of this can be seen. -/
theorem run_passOn_eq_run_nil :
    ((twoEngines.share (.ofCapacity 1)).run passOn).1 = ((twoEngines.share .nil).run passOn).1 :=
  (run_share_eq_run_nil twoEngines (.inr ⟨1, rfl⟩) passOn separate_passOn).1

end Site

end UrlFilter
