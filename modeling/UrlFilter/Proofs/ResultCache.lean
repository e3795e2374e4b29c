import UrlFilter.Engine
import UrlFilter.Proofs.Lru

/-!
# What a result cache keeps

A result cache finds batches by the digests of their lines.  It never holds anything but batches
that were compiled, each under the digest of its own lines (`Stores`).  A batch that is found was
therefore compiled from lines with the right digest.  These are the right lines if no two batches
that occur have the same digest (`Separate`), and then an engine gets what it would have compiled
(`Engine.batch_eq`).
-/

namespace UrlFilter

namespace ResultCache

variable {c : ResultCache} {P : Digest → Batch → Prop}

/-- Every batch that is kept has a property, together with its key. -/
def Keeps (c : ResultCache) (P : Digest → Batch → Prop) : Prop :=
  match c with
  | .nil => True
  | .memory batches => batches.Keeps P

theorem keeps_ofCapacity (capacity : Nat) : (ofCapacity capacity).Keeps P :=
  Lru.keeps_empty capacity

theorem Keeps.get? {key : Digest} {b : Batch} (h : c.Keeps P) (hget : c.get? key = some b) :
    P key b := by
  cases c with
  | nil => cases hget
  | memory batches => exact Lru.Keeps.get? h hget

theorem Keeps.touch (h : c.Keeps P) (key : Digest) : (c.touch key).Keeps P := by
  cases c with
  | nil => trivial
  | memory batches => exact Lru.Keeps.touch h key

theorem Keeps.insert {key : Digest} {b : Batch} (h : c.Keeps P) (hb : P key b) :
    (c.insert key b).Keeps P := by
  cases c with
  | nil => trivial
  | memory batches => exact Lru.Keeps.insert h hb

theorem Keeps.clear (c : ResultCache) : c.clear.Keeps P := by
  cases c with
  | nil => trivial
  | memory batches => exact Lru.keeps_clear batches

theorem Keeps.mono {Q : Digest → Batch → Prop} (h : c.Keeps P) (hPQ : ∀ key b, P key b → Q key b) :
    c.Keeps Q := by
  cases c with
  | nil => trivial
  | memory batches => exact fun key b hmem => hPQ key b (h key b hmem)

/-- Every batch that is kept was compiled from lines whose digest is its key. -/
def Stores (c : ResultCache) (occurs : List Text → Prop) : Prop :=
  c.Keeps fun key b => ∃ lines, occurs lines ∧ Digest.ofLines lines = key ∧ b = Batch.ofLines lines

theorem Stores.mono {occurs occurs' : List Text → Prop} (h : c.Stores occurs)
    (hoccurs : ∀ lines, occurs lines → occurs' lines) : c.Stores occurs' := by
  refine Keeps.mono h fun key b hb => ?_
  obtain ⟨lines, hlines, hdigest, hbatch⟩ := hb
  exact ⟨lines, hoccurs lines hlines, hdigest, hbatch⟩

end ResultCache

/-- No two batches of lines have the same digest. -/
def Separate (occurs : List Text → Prop) : Prop :=
  ∀ lines lines', occurs lines → occurs lines' → Digest.ofLines lines = Digest.ofLines lines' →
    lines = lines'

namespace Engine

variable {c : ResultCache} {occurs : List Text → Prop} {lines : List Text}

theorem batch_stores (hc : c.Stores occurs) (hlines : occurs lines) :
    (batch c lines).2.2.Stores occurs := by
  rw [batch]
  cases hget : c.get? (Digest.ofLines lines) with
  | some b => exact hc.touch _
  | none => exact (hc.touch _).insert ⟨lines, hlines, rfl, rfl⟩

/-- A batch from the cache is what compiling its lines gives. -/
theorem batch_eq (hc : c.Stores occurs) (hseparate : Separate occurs) (hlines : occurs lines) :
    (batch c lines).1 = Batch.ofLines lines := by
  rw [batch]
  cases hget : c.get? (Digest.ofLines lines) with
  | some b =>
      obtain ⟨lines', hlines', hdigest, rfl⟩ := hc.get? hget
      rw [hseparate lines' lines hlines' hlines hdigest]
  | none => rfl

end Engine

end UrlFilter
