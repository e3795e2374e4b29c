/-!
# Caches that forget what was not used

An `Lru` keeps values under keys, as many as its capacity allows.  It knows in which order its keys
were last used, and gives up the key that has not been used for the longest time when it needs room
for another.  A key is used when a value is put under it and when it is looked up and found.

Looking up has two sides: `get?` is what is found, and `touch` is the cache afterwards.
-/

namespace UrlFilter

/-- Values under keys, the key that was used last in front. -/
structure Lru (α β : Type) where
  /-- How many keys are kept; zero counts as one. -/
  capacity : Nat
  /-- The keys with their values, from the last used to the first. -/
  entries : List (α × β)
  deriving Repr

namespace Lru

variable {α β : Type} [DecidableEq α]

/-- The cache that keeps nothing yet. -/
def empty (capacity : Nat) : Lru α β := ⟨capacity, []⟩

/-- How many keys the cache can keep. -/
def room (c : Lru α β) : Nat := max c.capacity 1

/-- How many keys the cache keeps. -/
def size (c : Lru α β) : Nat := c.entries.length

/-- Whether the cache keeps nothing. -/
def isEmpty (c : Lru α β) : Bool := c.entries.isEmpty

/-- The value under a key. -/
def get? (c : Lru α β) (key : α) : Option β := c.entries.lookup key

/-- The entries of other keys. -/
def others (c : Lru α β) (key : α) : List (α × β) := c.entries.filter fun e => e.1 ≠ key

/-- The cache after a key was looked up: where the key is there, it comes to the front. -/
def touch (c : Lru α β) (key : α) : Lru α β :=
  match c.get? key with
  | some value => ⟨c.capacity, (key, value) :: c.others key⟩
  | none => c

/-- The cache after a value was put under a key. -/
def insert (c : Lru α β) (key : α) (value : β) : Lru α β :=
  ⟨c.capacity, ((key, value) :: c.others key).take c.room⟩

/-- The cache after everything was removed. -/
def clear (c : Lru α β) : Lru α β := ⟨c.capacity, []⟩

end Lru

end UrlFilter
