import Mathlib.Data.Finset.Card
import Mathlib.Data.List.Nodup
import UrlFilter.Proofs.Lru
import UrlFilter.ResultCache

/-!
# A cache forgets what was not used for the longest time

What a cache finds can be told from what was done to it, without a look at what it keeps.  A key is
found if a value was put under it since everything was removed last, and if fewer other keys than
there is room for were used since it was used last.  What is found is the value that was put under
it last (`Reflects.get?_eq`).

A history lists what was done, the latest first, and its *recency* is the list of the keys that were
used since everything was removed, each at the place of its last use.  There are two steps to the
result.

*Room.*  A cache keeps the first keys of the recency, as many as there is room for (`Reflects`).
Each operation brings a key to the front of both, and a key that falls out behind the end is not
missed, since it is behind the end of the recency too (`take_bring`).

*Counting.*  The keys in front of a key in the recency are those that were used since
(`toFinset_takeWhile_recency`), so the place of the key counts them.
-/

namespace UrlFilter.Lru

variable {α β : Type}

/-! ## Histories -/

/-- What was done to a cache. -/
inductive Event (α β : Type) where
  /-- A value was put under a key. -/
  | put (key : α) (value : β)
  /-- A key was looked up and found. -/
  | hit (key : α)
  /-- A key was looked up and not found. -/
  | miss (key : α)
  /-- Everything was removed. -/
  | clear

/-- The key that was used: the one that a value was put under, or that was found. -/
def Event.used : Event α β → Option α
  | put key _ => some key
  | hit key => some key
  | miss _ => none
  | clear => none

/-- What was done to a cache, the latest first. -/
abbrev History (α β : Type) := List (Event α β)

variable [DecidableEq α]

/-- The value that was put under a key last, since everything was removed. -/
def lastPut (key : α) : History α β → Option β
  | [] => none
  | .put k value :: earlier => if k = key then some value else lastPut key earlier
  | .hit _ :: earlier => lastPut key earlier
  | .miss _ :: earlier => lastPut key earlier
  | .clear :: _ => none

/-- The keys that were used since a key was used last; it is not one of them. -/
def usedSince (key : α) (history : History α β) : Finset α :=
  ((history.takeWhile fun e => e.used ≠ some key).filterMap Event.used).toFinset

/-! ## Recency -/

/-- Some keys after one was brought to their front. -/
def bring (key : α) (keys : List α) : List α := key :: keys.filter (· ≠ key)

/-- The keys that were used since everything was removed, from the last used to the first. -/
def recency : History α β → List α
  | [] => []
  | .put key _ :: earlier => bring key (recency earlier)
  | .hit key :: earlier => bring key (recency earlier)
  | .miss _ :: earlier => recency earlier
  | .clear :: _ => []

section

variable {key other : α} {keys : List α}

theorem mem_bring : other ∈ bring key keys ↔ other = key ∨ other ∈ keys := by
  by_cases h : other = key
  · simp [bring, h]
  · simp [bring, h]

theorem nodup_bring (h : keys.Nodup) : (bring key keys).Nodup := by
  refine List.nodup_cons.mpr ⟨?_, h.filter _⟩
  simp

theorem filter_ne_of_notMem (h : key ∉ keys) : keys.filter (· ≠ key) = keys := by
  refine List.filter_eq_self.mpr fun k hk => decide_eq_true ?_
  rintro rfl
  exact h hk

/-- Of the first keys without a key, those are left that are the first without it. -/
theorem take_filter_take (h : keys.Nodup) (n : Nat) :
    ((keys.take (n + 1)).filter (· ≠ key)).take n = (keys.filter (· ≠ key)).take n := by
  induction keys generalizing n with
  | nil => rfl
  | cons first keys ih =>
      obtain ⟨hfirst, hkeys⟩ := List.nodup_cons.mp h
      rw [List.take_succ_cons]
      by_cases heq : first = key
      · -- Without its first key, a list has one place more to fill; the next key was taken for it.
        subst heq
        have htake : first ∉ keys.take n := fun hmem => hfirst (List.mem_of_mem_take hmem)
        rw [List.filter_cons_of_neg (by simp), List.filter_cons_of_neg (by simp),
          filter_ne_of_notMem htake, filter_ne_of_notMem hfirst, List.take_take, Nat.min_self]
      · cases n with
        | zero => rfl
        | succ n => simpa [heq] using ih hkeys n

/-- Bringing a key to the front changes the first keys as it changes all of them. -/
theorem take_bring (h : keys.Nodup) (n : Nat) :
    (bring key (keys.take (n + 1))).take (n + 1) = (bring key keys).take (n + 1) := by
  rw [bring, bring, List.take_succ_cons, List.take_succ_cons, take_filter_take h]

/-- One more key stands in front of a key, after another was brought there. -/
theorem toFinset_takeWhile_bring (h : other ≠ key) :
    ((bring other keys).takeWhile (· ≠ key)).toFinset =
      {other} ∪ (keys.takeWhile (· ≠ key)).toFinset := by
  have hcut : (keys.filter (· ≠ other)).takeWhile (· ≠ key) =
      (keys.takeWhile (· ≠ key)).filter (· ≠ other) := by
    rw [List.takeWhile_filter]
    congr 2
    funext k
    by_cases hk : k = key
    · simp [hk, h.symm]
    · simp [hk]
  rw [bring, List.takeWhile_cons_of_pos (by simpa using h), hcut]
  ext k
  by_cases hk : k = other
  · simp [hk]
  · simp [hk]

/-- The place of a key among some counts the keys in front of it. -/
theorem mem_take_iff_of_mem (h : key ∈ keys) (n : Nat) :
    key ∈ keys.take n ↔ (keys.takeWhile (· ≠ key)).length < n := by
  induction keys generalizing n with
  | nil => cases h
  | cons first keys ih =>
      cases n with
      | zero => simp
      | succ n =>
          by_cases heq : first = key
          · simp [heq]
          · have hkeys : key ∈ keys := by simpa [Ne.symm heq] using h
            simpa [heq, Ne.symm heq] using ih hkeys n

end

section

variable {key : α} {history : History α β}

theorem nodup_recency (history : History α β) : (recency history).Nodup := by
  fun_induction recency history with
  | case1 => exact .nil
  | case2 key value earlier ih => exact nodup_bring ih
  | case3 key earlier ih => exact nodup_bring ih
  | case4 key earlier ih => exact ih
  | case5 earlier => exact .nil

/-- A key under which there is a value was used. -/
theorem mem_recency_of_lastPut {value : β} (h : lastPut key history = some value) :
    key ∈ recency history := by
  fun_induction recency history with
  | case1 => cases h
  | case2 other value' earlier ih =>
      rw [lastPut] at h
      split at h
      · next heq => exact mem_bring.mpr (.inl heq.symm)
      · exact mem_bring.mpr (.inr (ih h))
  | case3 other earlier ih => exact mem_bring.mpr (.inr (ih h))
  | case4 other earlier ih => exact ih h
  | case5 earlier => cases h

theorem usedSince_cons_self {e : Event α β} (h : e.used = some key) :
    usedSince key (e :: history) = ∅ := by
  simp [usedSince, h]

theorem usedSince_cons_of_ne {e : Event α β} {other : α} (h : e.used = some other)
    (hne : other ≠ key) : usedSince key (e :: history) = {other} ∪ usedSince key history := by
  ext k
  simp [usedSince, h, hne, eq_comm (a := k)]

theorem usedSince_cons_of_none {e : Event α β} (h : e.used = none) :
    usedSince key (e :: history) = usedSince key history := by
  simp [usedSince, h]

/-- A use of a key adds it both to those that were used since, and to those in front. -/
theorem toFinset_takeWhile_use {e : Event α β} {other : α} (he : e.used = some other)
    (ih : key ∈ recency history →
      ((recency history).takeWhile (· ≠ key)).toFinset = usedSince key history)
    (h : key ∈ bring other (recency history)) :
    ((bring other (recency history)).takeWhile (· ≠ key)).toFinset =
      usedSince key (e :: history) := by
  by_cases hne : other = key
  · rw [usedSince_cons_self (hne ▸ he), bring, List.takeWhile_cons_of_neg (by simp [hne])]
    rfl
  · have hmem : key ∈ recency history := (mem_bring.mp h).resolve_left (Ne.symm hne)
    rw [toFinset_takeWhile_bring hne, ih hmem, usedSince_cons_of_ne he hne]

/-- The keys in front of a key are those that were used since. -/
theorem toFinset_takeWhile_recency (h : key ∈ recency history) :
    ((recency history).takeWhile (· ≠ key)).toFinset = usedSince key history := by
  fun_induction recency history with
  | case1 => cases h
  | case2 other value earlier ih => exact toFinset_takeWhile_use rfl ih h
  | case3 other earlier ih => exact toFinset_takeWhile_use rfl ih h
  | case4 other earlier ih => rw [ih h, usedSince_cons_of_none rfl]
  | case5 earlier => cases h

/-- A key is among the first so many if fewer were used since. -/
theorem mem_take_recency_iff (h : key ∈ recency history) (n : Nat) :
    key ∈ (recency history).take n ↔ (usedSince key history).card < n := by
  have hnodup : ((recency history).takeWhile (· ≠ key)).Nodup :=
    (nodup_recency history).sublist (List.takeWhile_sublist _)
  rw [mem_take_iff_of_mem h, ← toFinset_takeWhile_recency h, List.toFinset_card_of_nodup hnodup]

end

/-! ## What a cache keeps -/

/-- A cache keeps the keys that were used last, each with the value that was put under it last. -/
structure Reflects (history : History α β) (c : Lru α β) : Prop where
  /-- The keys are the first of the recency. -/
  keys : c.entries.map Prod.fst = (recency history).take c.room
  /-- The values are those that were put last. -/
  values : ∀ key value, (key, value) ∈ c.entries → lastPut key history = some value

section

variable {history : History α β} {c : Lru α β} {key : α} {value : β}

theorem reflects_of_nil (hrecency : recency history = []) (hentries : c.entries = []) :
    Reflects history c where
  keys := by simp [hrecency, hentries]
  values := by
    intro key value h
    rw [hentries] at h
    cases h

theorem reflects_empty (capacity : Nat) : Reflects [] (empty capacity : Lru α β) :=
  reflects_of_nil rfl rfl

theorem reflects_clear (history : History α β) (c : Lru α β) :
    Reflects (.clear :: history) c.clear :=
  reflects_of_nil rfl rfl

theorem map_fst_others (c : Lru α β) (key : α) :
    (c.others key).map Prod.fst = (c.entries.map Prod.fst).filter (· ≠ key) := by
  rw [others, List.filter_map]
  rfl

theorem lastPut_of_mem_others (hc : Reflects history c) {k : α} {v : β}
    (h : (k, v) ∈ c.others key) : k ≠ key ∧ lastPut k history = some v := by
  obtain ⟨hmem, hne⟩ := List.mem_filter.mp h
  exact ⟨of_decide_eq_true hne, hc.values k v hmem⟩

/-- An entry that comes to the front, and what there is room for behind it. -/
theorem Reflects.keys_front (hc : Reflects history c) (key : α) (value : β) :
    (((key, value) :: c.others key).take c.room).map Prod.fst =
      (bring key (recency history)).take c.room := by
  obtain ⟨n, hroom⟩ : ∃ n, c.room = n + 1 :=
    Nat.exists_eq_add_one.mpr (Nat.le_max_right c.capacity 1)
  rw [List.map_take, List.map_cons, map_fst_others, hc.keys, hroom]
  exact take_bring (nodup_recency history) n

theorem Reflects.insert (hc : Reflects history c) (key : α) (value : β) :
    Reflects (.put key value :: history) (c.insert key value) where
  keys := hc.keys_front key value
  values := by
    intro k v h
    rcases List.mem_cons.mp (List.mem_of_mem_take h) with heq | hmem
    · cases heq
      simp [lastPut]
    · obtain ⟨hne, hput⟩ := lastPut_of_mem_others hc hmem
      simpa [lastPut, Ne.symm hne] using hput

theorem get?_eq_none_iff : c.get? key = none ↔ key ∉ c.entries.map Prod.fst := by
  rw [get?, List.lookup_eq_none_iff]
  constructor
  · intro h hmem
    obtain ⟨e, he, rfl⟩ := List.mem_map.mp hmem
    simpa using h e he
  · intro h e he
    refine bne_iff_ne.mpr ?_
    rintro rfl
    exact h (List.mem_map_of_mem he)

theorem Reflects.size_le (hc : Reflects history c) : c.size ≤ c.room := by
  have hlength := congrArg List.length hc.keys
  rw [List.length_map, List.length_take] at hlength
  rw [size, hlength]
  exact Nat.min_le_left _ _

/-- A key that is there takes no more room in front. -/
theorem length_others_lt (h : c.get? key = some value) : (c.others key).length < c.entries.length :=
  List.length_filter_lt_length_iff_exists.mpr ⟨_, mem_entries_of_get? h, by simp⟩

theorem Reflects.touch (hc : Reflects history c) (h : c.get? key = some value) :
    Reflects (.hit key :: history) (c.touch key) := by
  rw [touch_of_some h]
  refine ⟨?_, fun k v hmem => ?_⟩
  · -- The key was there before, so nothing is pushed out when it comes to the front.
    have hfits : ((key, value) :: c.others key).length ≤ c.room :=
      Nat.le_trans (length_others_lt h) hc.size_le
    change ((key, value) :: c.others key).map Prod.fst = _
    rw [← List.take_of_length_le hfits]
    exact hc.keys_front key value
  · rcases List.mem_cons.mp hmem with heq | hmem
    · cases heq
      exact hc.values key value (mem_entries_of_get? h)
    · exact (lastPut_of_mem_others hc hmem).2

theorem Reflects.miss (hc : Reflects history c) (h : c.get? key = none) :
    Reflects (.miss key :: history) (c.touch key) := by
  rw [touch_of_none h]
  exact ⟨hc.keys, hc.values⟩

/-- What is found is what was put last, if there was room for the keys that were used since. -/
theorem Reflects.get?_eq (hc : Reflects history c) (key : α) :
    c.get? key = if (usedSince key history).card < c.room then lastPut key history else none := by
  cases hget : c.get? key with
  | some value =>
      have hmem := mem_entries_of_get? hget
      have hput := hc.values key value hmem
      have hkey : key ∈ (recency history).take c.room := by
        rw [← hc.keys]
        exact List.mem_map_of_mem hmem
      have hused := (mem_take_recency_iff (mem_recency_of_lastPut hput) c.room).mp hkey
      rw [if_pos hused, hput]
  | none =>
      rw [get?_eq_none_iff, hc.keys] at hget
      split
      · next hused =>
          cases hput : lastPut key history with
          | none => rfl
          | some value =>
              have hrecent := mem_recency_of_lastPut hput
              exact absurd ((mem_take_recency_iff hrecent c.room).mpr hused) hget
      · rfl

end

end UrlFilter.Lru

/-! ## Runs of a cache of batches -/

namespace UrlFilter.ResultCache

open Lru (Event History Reflects lastPut usedSince)

/-- What can be done to a cache of batches. -/
inductive Op where
  /-- Put a batch under a key. -/
  | put (key : Digest) (batch : Batch)
  /-- Look a key up. -/
  | get (key : Digest)
  /-- Remove everything. -/
  | clear

/-- One operation on a cache: what was done, and the cache behind it. -/
def step (c : ResultCache) : Op → Event Digest Batch × ResultCache
  | .put key batch => (.put key batch, c.insert key batch)
  | .get key => (if (c.get? key).isSome then .hit key else .miss key, c.touch key)
  | .clear => (.clear, c.clear)

/-- Operations one after the other: what was done, behind what was done before, and the cache behind
them. -/
def run (history : History Digest Batch) (c : ResultCache) :
    List Op → History Digest Batch × ResultCache
  | [] => (history, c)
  | op :: ops => run ((c.step op).1 :: history) (c.step op).2 ops

section

variable {history : History Digest Batch} {batches : Lru Digest Batch}

/-- Each operation keeps what a history says about a cache, and its room. -/
theorem exists_reflects_step (h : Reflects history batches) (op : Op) :
    ∃ batches', ((memory batches).step op).2 = memory batches' ∧ batches'.room = batches.room ∧
      Reflects (((memory batches).step op).1 :: history) batches' := by
  cases op with
  | put key batch => exact ⟨_, rfl, rfl, h.insert key batch⟩
  | clear => exact ⟨_, rfl, rfl, Lru.reflects_clear history batches⟩
  | get key =>
      refine ⟨batches.touch key, rfl, ?_⟩
      cases hget : batches.get? key with
      | some batch =>
          refine ⟨by rw [Lru.touch_of_some hget]; rfl, ?_⟩
          simpa [step, get?, hget] using h.touch hget
      | none =>
          refine ⟨by rw [Lru.touch_of_none hget], ?_⟩
          simpa [step, get?, hget] using h.miss hget

theorem exists_reflects_run (h : Reflects history batches) (ops : List Op) :
    ∃ batches', (run history (memory batches) ops).2 = memory batches' ∧
      batches'.room = batches.room ∧ Reflects (run history (memory batches) ops).1 batches' := by
  induction ops generalizing history batches with
  | nil => exact ⟨batches, rfl, rfl, h⟩
  | cons op ops ih =>
      obtain ⟨between, hcache, hroom, hreflects⟩ := exists_reflects_step h op
      obtain ⟨batches', hcache', hroom', hreflects'⟩ := ih hreflects
      rw [run, hcache]
      exact ⟨batches', hcache', hroom'.trans hroom, hreflects'⟩

end

/-- A cache of batches finds exactly what was used of late.  Behind any operations, a key is found
if a batch was put under it since everything was removed, and if fewer other keys than there is room
for were used since it was used last.  What is found is the batch that was put under it last.  A key
that is not found changes nothing, and there are never more batches than there is room for. -/
theorem run_finds_recent (capacity : Nat) (ops : List Op) :
    let history := (run [] (ofCapacity capacity) ops).1
    let cache := (run [] (ofCapacity capacity) ops).2
    (∀ key, cache.get? key =
        if (usedSince key history).card < max capacity 1 then lastPut key history else none) ∧
      (∀ key, cache.get? key = none → cache.touch key = cache) ∧
      ∃ batches, cache = .memory batches ∧ batches.size ≤ max capacity 1 := by
  intro history cache
  obtain ⟨batches, hcache, hroom, hreflects⟩ :=
    exists_reflects_run (Lru.reflects_empty capacity) ops
  have hcapacity : batches.room = max capacity 1 := hroom
  have hmemory : cache = .memory batches := hcache
  rw [hmemory, ← hcapacity]
  refine ⟨hreflects.get?_eq, fun key hget => ?_, batches, rfl, hreflects.size_le⟩
  exact congrArg memory (Lru.touch_of_none hget)

/-- Looking a key up saves it from being the next one to go. -/
example :
    let cache := (run [] (ofCapacity 2)
      [.put 1 .empty, .put 2 .empty, .get 1, .get 4, .put 3 .empty]).2
    [1, 2, 3].map (fun key => (cache.get? key).isSome) = [true, false, true] := by
  decide

end UrlFilter.ResultCache
