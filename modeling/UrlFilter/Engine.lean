import UrlFilter.Loader.Source

/-!
# Engines

An engine is a rule set that lists can be loaded into.  It compiles a batch of lines only if the
batch is not in its cache, and puts what it compiled there.  The calls that it makes on the cache
are part of what its operations give.

Several engines may share one cache.  `EngineGroup` holds such engines: whenever one of them changes
the cache, all of them have the changed one.
-/

namespace UrlFilter

/-- A call that an engine makes on its cache of batches. -/
inductive CacheCall where
  /-- A batch was looked up, and found or not. -/
  | get (key : Digest) (isHit : Bool)
  /-- A batch with so many rules and skipped lines was put into the cache. -/
  | put (key : Digest) (rules skipped : Nat)
  /-- Everything was removed. -/
  | clear
  deriving DecidableEq, Repr

/-- A call in words. -/
def CacheCall.message : CacheCall → String
  | get key isHit => "get " ++ String.ofList key.toHex ++ if isHit then " hit" else " miss"
  | put key rules skipped =>
    "put " ++ String.ofList key.toHex ++ " " ++ toString rules ++ "+" ++ toString skipped
  | clear => "clear"

/-- A rule set with a loader and a cache of batches. -/
structure Engine where
  /-- The rules. -/
  ruleSet : RuleSet
  /-- How lists are loaded. -/
  loader : Loader
  /-- The batches that are kept. -/
  cache : ResultCache
  deriving Repr

namespace Engine

/-! ## Making engines -/

/-- The cache of an engine that is not told otherwise. -/
def defaultCache (o : Options) : ResultCache :=
  if o.resultCacheSize = 0 then .nil else ResultCache.ofCapacity o.resultCacheSize.toNat

/-- The engine without rules that options describe. -/
def ofOptions (o : Options) : Engine :=
  ⟨.empty o.cacheSize.toNat, o.loader, defaultCache o⟩

/-- The engine with another loader. -/
def withLoader (e : Engine) (loader : Loader) : Engine := ⟨e.ruleSet, loader, e.cache⟩

/-- The engine with another cache. -/
def withCache (e : Engine) (cache : ResultCache) : Engine := ⟨e.ruleSet, e.loader, cache⟩

/-- The engine with another rule set. -/
def withRuleSet (e : Engine) (ruleSet : RuleSet) : Engine := ⟨ruleSet, e.loader, e.cache⟩

/-! ## Adding rules -/

/-- The batch of some lines, from the cache if it is there, with the calls on the cache and the
cache afterwards. -/
def batch (cache : ResultCache) (lines : List Text) : Batch × List CacheCall × ResultCache :=
  let key := Digest.ofLines lines
  match cache.get? key with
  | some b => (b, [.get key true], cache.touch key)
  | none =>
    let b := Batch.ofLines lines
    (b, [.get key false, .put key b.rules.length b.skipped.length],
      (cache.touch key).insert key b)

/-- What adding lines gives. -/
structure Added where
  /-- How many rules were compiled, and which lines were skipped. -/
  report : Report
  /-- The calls on the cache. -/
  calls : List CacheCall
  deriving DecidableEq, Repr

/-- Adds the rules of a batch of lines. -/
def addRules (e : Engine) (lines : List Text) : Added × Engine :=
  let (b, calls, cache) := batch e.cache lines
  (⟨b.report, calls⟩, ⟨e.ruleSet.extend b.rules, e.loader, cache⟩)

/-- The engine that options describe, with the rules of a batch of lines. -/
def ofRules (o : Options) (lines : List Text) : Engine := ((ofOptions o).addRules lines).2

/-- The engine that options describe, with the rules of the list in a file. -/
def ofFile (o : Options) (fs : Files) (path : Text) : Except LoadFault Engine :=
  (fs.readList (Path.ofText path.trim)).map (ofRules o)

/-- What loading lists gives. -/
structure Loaded where
  /-- How many rules were added. -/
  added : Nat
  /-- The calls on the cache. -/
  calls : List CacheCall
  deriving DecidableEq, Repr

/-- Loads lists and adds their rules.  A source that cannot be loaded adds nothing.  Every source
takes a tick. -/
def loadRules (e : Engine) (w : World) : List Text → Loaded × Engine × Files
  | [] => (⟨0, []⟩, e, w.files)
  | source :: rest =>
    let (result, fs) := e.loader.load w source
    let w := (w.withFiles fs).later 1
    match result with
    | .error _ => e.loadRules w rest
    | .ok lines =>
      let (added, e) := e.addRules lines
      let (loaded, e, fs) := e.loadRules w rest
      (⟨added.report.compiled + loaded.added, added.calls ++ loaded.calls⟩, e, fs)

/-! ## Asking -/

/-- What is decided about the URL that a text asks about. -/
def query (e : Engine) (url : Text) : Except InvalidUrl (Option Decision) × Engine :=
  let (answer, s) := e.ruleSet.query url
  (answer, e.withRuleSet s)

/-- Whether a URL should be blocked. -/
def shouldBlock (e : Engine) (url : Text) : Except InvalidUrl Bool × Engine :=
  let (answer, s) := e.ruleSet.shouldBlock url
  (answer, e.withRuleSet s)

/-- Whether a URL should be let through. -/
def shouldNotBlock (e : Engine) (url : Text) : Except InvalidUrl Bool × Engine :=
  let (answer, s) := e.ruleSet.shouldNotBlock url
  (answer, e.withRuleSet s)

/-- The rules in the order in which they are tried. -/
def rules (e : Engine) : List Rule := e.ruleSet.rules

/-- The number of rules. -/
def ruleCount (e : Engine) : Nat := e.ruleSet.size

/-- Forgets all decisions and all batches. -/
def clearCache (e : Engine) : List CacheCall × Engine :=
  ([.clear], ⟨e.ruleSet.clearCache, e.loader, e.cache.clear⟩)

end Engine

/-! ## Engines that share a cache -/

/-- Engines, which may share one cache. -/
structure EngineGroup where
  /-- The engines. -/
  engines : List Engine
  /-- Whether the engines share one cache. -/
  isShared : Bool
  deriving Repr

namespace EngineGroup

/-- The engine with an index. -/
def get? (g : EngineGroup) (i : Nat) : Option Engine := g.engines[i]?

/-- The group after an engine changed. -/
def set (g : EngineGroup) (i : Nat) (e : Engine) : EngineGroup :=
  let engines := g.engines.set i e
  ⟨if g.isShared then engines.map fun other => other.withCache e.cache else engines, g.isShared⟩

/-- The group in which all engines share a cache. -/
def share (g : EngineGroup) (cache : ResultCache) : EngineGroup :=
  ⟨g.engines.map fun e => e.withCache cache, true⟩

end EngineGroup

end UrlFilter
