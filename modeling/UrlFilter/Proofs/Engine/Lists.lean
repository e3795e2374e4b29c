import UrlFilter.Engine

/-!
# Ways to load lists

An engine adds the rules of the lists that it loads.  Where they come from does not matter to it, so
this is said for every way to load lists (`Loading`), not only for those that a `Loader` knows.  A
way has a state, and may answer the same source with another list the next time.

What loading says about the sources does not depend on the engine.  So the lists that can be loaded
may be collected first, and their rules added afterwards (`Engine.loadRulesBy_eq`).  This holds for
the loader of an engine too (`Engine.loadRules_eq`).
-/

namespace UrlFilter

/-! ## What loading says -/

/-- A way to load lists.  From a state and a source come the lines, or a fault, and a new state. -/
abbrev Loading (σ ε : Type) : Type := σ → Text → Except ε (List Text) × σ

namespace Loading

variable {σ ε : Type}

/-- What is said when each source is asked for once, in order, and the state behind that. -/
def replies (load : Loading σ ε) (state : σ) : List Text → List (Except ε (List Text)) × σ
  | [] => ([], state)
  | source :: rest =>
    let (result, state) := load state source
    let (results, state) := load.replies state rest
    (result :: results, state)

/-- The lists among the replies. -/
def lists (load : Loading σ ε) (state : σ) (sources : List Text) : List (List Text) :=
  (load.replies state sources).1.filterMap Except.toOption

/-- The same way to load lists, which also keeps a record of what it was asked for. -/
def recorded (load : Loading σ ε) : Loading (σ × List Text) ε := fun (state, asked) source =>
  let (result, state) := load state source
  (result, state, asked ++ [source])

theorem recorded_eq (load : Loading σ ε) (state : σ) (asked : List Text) (source : Text) :
    load.recorded (state, asked) source =
      ((load state source).1, (load state source).2, asked ++ [source]) := rfl

theorem replies_cons (load : Loading σ ε) (state : σ) (source : Text) (rest : List Text) :
    load.replies state (source :: rest) =
      ((load state source).1 :: (load.replies (load state source).2 rest).1,
        (load.replies (load state source).2 rest).2) := rfl

/-- The record of what was asked for is the list of the sources. -/
theorem replies_recorded (load : Loading σ ε) (state : σ) (asked sources : List Text) :
    load.recorded.replies (state, asked) sources =
      ((load.replies state sources).1, (load.replies state sources).2, asked ++ sources) := by
  induction sources generalizing state asked with
  | nil => rw [replies, replies, List.append_nil]
  | cons source rest ih =>
      have hasked : asked ++ source :: rest = asked ++ [source] ++ rest := by
        rw [List.append_assoc, List.singleton_append]
      rw [replies_cons, replies_cons, recorded_eq, ih, hasked]

theorem lists_recorded (load : Loading σ ε) (state : σ) (asked sources : List Text) :
    load.recorded.lists (state, asked) sources = load.lists state sources := by
  rw [lists, replies_recorded, lists]

/-- Sources of which none can be loaded give no lists. -/
theorem lists_eq_nil {load : Loading σ ε} {state : σ} {sources : List Text}
    (h : ∀ result ∈ (load.replies state sources).1, result.toOption = none) :
    load.lists state sources = [] := List.filterMap_eq_nil_iff.mpr h

end Loading

/-- The way to load lists from a world in which every source takes a tick. -/
def Loader.loading (loader : Loader) : Loading World LoadFault := fun w source =>
  let (result, fs) := loader.load w source
  (result, (w.withFiles fs).later 1)

namespace Engine

variable {σ ε : Type}

/-! ## Asking first and adding afterwards -/

/-- Loads lists in some way and adds their rules.  A source that cannot be loaded adds nothing. -/
def loadRulesBy (load : Loading σ ε) (e : Engine) (state : σ) : List Text → Loaded × Engine × σ
  | [] => (⟨0, []⟩, e, state)
  | source :: rest =>
    let (result, state) := load state source
    match result with
    | .error _ => loadRulesBy load e state rest
    | .ok lines =>
      let (added, e) := e.addRules lines
      let (loaded, e, state) := loadRulesBy load e state rest
      (⟨added.report.compiled + loaded.added, added.calls ++ loaded.calls⟩, e, state)

/-- Adds the rules of one list after the other. -/
def addLists (e : Engine) : List (List Text) → Loaded × Engine
  | [] => (⟨0, []⟩, e)
  | lines :: rest =>
    let (added, e) := e.addRules lines
    let (loaded, e) := e.addLists rest
    (⟨added.report.compiled + loaded.added, added.calls ++ loaded.calls⟩, e)

theorem addLists_cons (e : Engine) (lines : List Text) (rest : List (List Text)) :
    e.addLists (lines :: rest) =
      (⟨(e.addRules lines).1.report.compiled + ((e.addRules lines).2.addLists rest).1.added,
        (e.addRules lines).1.calls ++ ((e.addRules lines).2.addLists rest).1.calls⟩,
        ((e.addRules lines).2.addLists rest).2) := rfl

/-- The engine takes no part in what loading says. -/
theorem loadRulesBy_eq (load : Loading σ ε) (e : Engine) (state : σ) (sources : List Text) :
    loadRulesBy load e state sources =
      ((e.addLists (load.lists state sources)).1, (e.addLists (load.lists state sources)).2,
        (load.replies state sources).2) := by
  induction sources generalizing e state with
  | nil => rfl
  | cons source rest ih =>
      rcases hload : load state source with ⟨result, state'⟩
      rw [loadRulesBy, Loading.lists, Loading.replies_cons, hload]
      cases result with
      | error fault => exact ih e state'
      | ok lines =>
          simp only [ih, List.filterMap_cons, Except.toOption]
          rfl

/-- An engine loads in the way of its loader. -/
theorem loadRules_eq_loadRulesBy (e : Engine) (w : World) (sources : List Text) :
    e.loadRules w sources =
      ((loadRulesBy e.loader.loading e w sources).1, (loadRulesBy e.loader.loading e w sources).2.1,
        (loadRulesBy e.loader.loading e w sources).2.2.files) := by
  induction sources generalizing e w with
  | nil => rfl
  | cons source rest ih =>
      rcases hload : e.loader.load w source with ⟨result, fs⟩
      have hloading : e.loader.loading w source = (result, (w.withFiles fs).later 1) := by
        rw [Loader.loading, hload]
      rw [loadRules, loadRulesBy, hload, hloading]
      cases result with
      | error fault => exact ih e _
      | ok lines =>
          have hloader : (e.addRules lines).2.loader = e.loader := rfl
          simp only [ih, hloader]

/-- Its loader's lists are collected first, and their rules are added afterwards. -/
theorem loadRules_eq (e : Engine) (w : World) (sources : List Text) :
    e.loadRules w sources =
      ((e.addLists (e.loader.loading.lists w sources)).1,
        (e.addLists (e.loader.loading.lists w sources)).2,
        (e.loader.loading.replies w sources).2.files) := by
  rw [loadRules_eq_loadRulesBy, loadRulesBy_eq]

end Engine

end UrlFilter
