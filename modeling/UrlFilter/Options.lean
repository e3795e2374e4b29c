import UrlFilter.ResultCache
import UrlFilter.RuleSet

/-!
# Options

The options of an engine say how much it remembers, and where and for how long it keeps lists that
were loaded over the web.
-/

namespace UrlFilter

/-- The options of an engine. -/
structure Options where
  /-- How many decisions about URLs are remembered. -/
  cacheSize : UInt64
  /-- How many compiled batches are kept; with zero there is no cache for them. -/
  resultCacheSize : UInt64
  /-- The folder in which lists from the web are kept, if they are. -/
  listCacheDir : Option Text
  /-- How many seconds a list is kept before it is loaded again. -/
  updateInterval : UInt64
  deriving DecidableEq, Repr

namespace Options

/-- How many seconds a list is kept unless told otherwise: a day. -/
def defaultUpdateInterval : UInt64 := 86400

/-- The options of an engine that is not told otherwise. -/
def default : Options where
  cacheSize := UInt64.ofNat RuleSet.defaultCacheSize
  resultCacheSize := UInt64.ofNat ResultCache.defaultCapacity
  listCacheDir := none
  updateInterval := defaultUpdateInterval

/-- The options with another number of decisions. -/
def withCacheSize (o : Options) (size : UInt64) : Options := { o with cacheSize := size }

/-- The options with another number of batches. -/
def withResultCache (o : Options) (size : UInt64) : Options := { o with resultCacheSize := size }

/-- The options with a folder for lists. -/
def withListCacheDir (o : Options) (dir : Text) : Options := { o with listCacheDir := some dir }

/-- The options with another time between loads, in milliseconds.  Only whole seconds count. -/
def withUpdateInterval (o : Options) (milliseconds : UInt64) : Options :=
  { o with updateInterval := milliseconds / 1000 }

end Options

end UrlFilter
