import UrlFilter.Lru

/-!
# What a cache keeps

A cache only ever keeps what was put into it, in whatever order its keys are used and whichever of
them it gives up.  So a property of entries that holds of all that is put in holds of all that is
kept, and of everything that is found (`Keeps`).
-/

namespace UrlFilter.Lru

variable {α β : Type} {P : α → β → Prop}

/-- Every entry of the cache has a property. -/
def Keeps (c : Lru α β) (P : α → β → Prop) : Prop :=
  ∀ key value, (key, value) ∈ c.entries → P key value

theorem keeps_empty (capacity : Nat) : (empty capacity : Lru α β).Keeps P := by
  intro key value h
  cases h

theorem keeps_clear (c : Lru α β) : c.clear.Keeps P := by
  intro key value h
  cases h

variable [DecidableEq α] {c : Lru α β} {key : α} {value : β}

theorem mem_entries_of_get? (h : c.get? key = some value) : (key, value) ∈ c.entries := by
  obtain ⟨l₁, l₂, hentries, -⟩ := List.lookup_eq_some_iff.mp h
  rw [hentries]
  exact List.mem_append_right _ (List.mem_cons_self ..)

/-- What is found was kept. -/
theorem Keeps.get? (hc : c.Keeps P) (h : c.get? key = some value) : P key value :=
  hc key value (mem_entries_of_get? h)

theorem touch_of_none (h : c.get? key = none) : c.touch key = c := by
  rw [touch, h]

theorem touch_of_some (h : c.get? key = some value) :
    c.touch key = ⟨c.capacity, (key, value) :: c.others key⟩ := by
  rw [touch, h]

theorem mem_others {e : α × β} (h : e ∈ c.others key) : e ∈ c.entries := (List.mem_filter.mp h).1

/-- Looking up does not add anything. -/
theorem Keeps.touch (hc : c.Keeps P) (key : α) : (c.touch key).Keeps P := by
  cases h : c.get? key with
  | none =>
      rw [touch_of_none h]
      exact hc
  | some value =>
      rw [touch_of_some h]
      intro k v hmem
      rcases List.mem_cons.mp hmem with heq | hmem
      · cases heq
        exact hc.get? h
      · exact hc k v (mem_others hmem)

/-- Putting in adds the entry that is put in and nothing else. -/
theorem Keeps.insert (hc : c.Keeps P) (h : P key value) : (c.insert key value).Keeps P := by
  intro k v hmem
  rcases List.mem_cons.mp (List.mem_of_mem_take hmem) with heq | hmem
  · cases heq
    exact h
  · exact hc k v (mem_others hmem)

end UrlFilter.Lru
