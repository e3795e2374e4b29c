import UrlFilter.Digest
import UrlFilter.Lru
import UrlFilter.Rule.Batch

/-!
# Caches of batches

Compiling many lines takes time, so the batches that come of it can be kept.  A result cache keeps
batches under the digests of their lines.  It either keeps nothing, or so many batches as there is
room for.
-/

namespace UrlFilter

/-- What is kept of the batches that were compiled. -/
inductive ResultCache where
  /-- Nothing is kept. -/
  | nil
  /-- Batches are kept under the digests of their lines. -/
  | memory (batches : Lru Digest Batch)
  deriving Repr

namespace ResultCache

/-- How many batches are kept unless told otherwise. -/
def defaultCapacity : Nat := 16

/-- The cache that keeps nothing yet and has room for some batches. -/
def ofCapacity (capacity : Nat) : ResultCache := .memory (.empty capacity)

/-- The batch under a key. -/
def get? : ResultCache → Digest → Option Batch
  | nil, _ => none
  | memory batches, key => batches.get? key

/-- The cache after a key was looked up. -/
def touch : ResultCache → Digest → ResultCache
  | nil, _ => nil
  | memory batches, key => memory (batches.touch key)

/-- The cache after a batch was put under a key. -/
def insert : ResultCache → Digest → Batch → ResultCache
  | nil, _, _ => nil
  | memory batches, key, batch => memory (batches.insert key batch)

/-- The cache after everything was removed. -/
def clear : ResultCache → ResultCache
  | nil => nil
  | memory batches => memory batches.clear

end ResultCache

end UrlFilter
