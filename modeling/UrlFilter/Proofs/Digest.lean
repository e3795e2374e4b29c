import Mathlib.Algebra.Group.Nat.Defs
import Mathlib.Data.List.Basic
import UrlFilter.Digest

/-!
# Batches are told apart by their bytes

The digest of a batch is computed from a string of bytes, so it can tell two batches apart only if
their strings are different.  They are (`batchBytes_eq_iff`), and two batches with the same digest
are then a collision of the hash function (`ofLines_eq_iff_collide`).

The end of the string is not marked: the number of lines has the form of the length of a line, and
the bytes of a line can be anything.  So the string of one batch may well start the string of
another.  Two strings that are equal are read side by side instead.  The same length stands in front
of both, so they have the same first line, and this line can be taken off both
(`lineBytes_append_inj`).  When no line is left on one side, that side has eight bytes to go, and a
line on the other side would need more.
-/

namespace UrlFilter

/-- Texts with the same bytes are the same. -/
theorem Utf8.encode_inj {s t : Text} (h : encode s = encode t) : s = t := by
  have hbytes : (String.ofList s).toByteArray = (String.ofList t).toByteArray := by
    rw [String.toByteArray_ofList, String.toByteArray_ofList]
    exact congrArg List.toByteArray h
  exact String.ofList_injective (String.toByteArray_inj.mp hbytes)

namespace Digest

/-! ## Numbers -/

@[simp] theorem length_littleEndian (count n : Nat) : (littleEndian count n).length = count := by
  induction count generalizing n with
  | zero => rfl
  | succ count ih => simp [littleEndian, ih]

/-- Bytes tell numbers apart that are not too large for them. -/
theorem littleEndian_inj {count m n : Nat} (hm : m < 256 ^ count) (hn : n < 256 ^ count)
    (h : littleEndian count m = littleEndian count n) : m = n := by
  induction count generalizing m n with
  | zero => omega
  | succ count ih =>
      obtain ⟨hbyte, hrest⟩ := List.cons.inj h
      have hmod : m % 256 = n % 256 := by simpa using congrArg UInt8.toNat hbyte
      have hdiv : m / 256 = n / 256 := by
        refine ih ?_ ?_ hrest
        · exact Nat.div_lt_of_lt_mul (by rwa [Nat.pow_succ'] at hm)
        · exact Nat.div_lt_of_lt_mul (by rwa [Nat.pow_succ'] at hn)
      omega

@[simp] theorem length_word64 (n : Nat) : (word64 n).length = 8 := length_littleEndian 8 n

theorem word64_inj {m n : Nat} (hm : m < 2 ^ 64) (hn : n < 2 ^ 64) (h : word64 m = word64 n) :
    m = n := by
  rw [show 2 ^ 64 = 256 ^ 8 by decide] at hm hn
  exact littleEndian_inj hm hn h

/-! ## Lines -/

/-- The number of bytes of a line is a number of 64 bits. -/
def IsShort (line : Text) : Prop := (Utf8.encode line).length < 2 ^ 64

instance : DecidablePred IsShort := fun _ => Nat.decLt _ _

theorem eight_le_length_lineBytes (line : Text) : 8 ≤ (lineBytes line).length := by
  simp [lineBytes]

/-- A line can be taken off the bytes that it stands in front of. -/
theorem lineBytes_append_inj {line line' : Text} (hline : IsShort line) (hline' : IsShort line')
    {rest rest' : Bytes} (h : lineBytes line ++ rest = lineBytes line' ++ rest') :
    line = line' ∧ rest = rest' := by
  rw [lineBytes, lineBytes, List.append_assoc, List.append_assoc] at h
  obtain ⟨hword, hbytes⟩ := List.append_inj h (by simp)
  have hlength := word64_inj hline hline' hword
  obtain ⟨htext, hrest⟩ := List.append_inj hbytes hlength
  exact ⟨Utf8.encode_inj htext, hrest⟩

/-- Lines with eight bytes behind them are told apart by the bytes of them all. -/
theorem flatMap_lineBytes_append_inj {lines lines' : List Text} (hlines : ∀ l ∈ lines, IsShort l)
    (hlines' : ∀ l ∈ lines', IsShort l) {last last' : Bytes} (hlast : last.length = 8)
    (hlast' : last'.length = 8)
    (h : lines.flatMap lineBytes ++ last = lines'.flatMap lineBytes ++ last') : lines = lines' := by
  induction lines generalizing lines' with
  | nil =>
      cases lines' with
      | nil => rfl
      | cons line' others' =>
          have hlength := congrArg List.length h
          have hline := eight_le_length_lineBytes line'
          simp only [List.flatMap_nil, List.flatMap_cons, List.length_append, List.length_nil]
            at hlength
          omega
  | cons line others ih =>
      cases lines' with
      | nil =>
          have hlength := congrArg List.length h
          have hline := eight_le_length_lineBytes line
          simp only [List.flatMap_nil, List.flatMap_cons, List.length_append, List.length_nil]
            at hlength
          omega
      | cons line' others' =>
          obtain ⟨hline, hothers⟩ := List.forall_mem_cons.mp hlines
          obtain ⟨hline', hothers'⟩ := List.forall_mem_cons.mp hlines'
          rw [List.flatMap_cons, List.flatMap_cons, List.append_assoc, List.append_assoc] at h
          obtain ⟨rfl, hrest⟩ := lineBytes_append_inj hline hline' h
          rw [ih hothers hothers' hrest]

/-! ## Batches -/

/-- Two strings of bytes have the same digest and are different. -/
def Collide (bytes bytes' : Bytes) : Prop := bytes ≠ bytes' ∧ ofBytes bytes = ofBytes bytes'

section

variable {lines lines' : List Text}

theorem batchBytes_eq_iff (hlines : ∀ l ∈ lines, IsShort l) (hlines' : ∀ l ∈ lines', IsShort l) :
    batchBytes lines = batchBytes lines' ↔ lines = lines' := by
  constructor
  · intro h
    exact flatMap_lineBytes_append_inj hlines hlines' (length_word64 _) (length_word64 _) h
  · rintro rfl
    rfl

theorem ofLines_eq_iff_collide (hlines : ∀ l ∈ lines, IsShort l)
    (hlines' : ∀ l ∈ lines', IsShort l) :
    ofLines lines = ofLines lines' ↔
      lines = lines' ∨ Collide (batchBytes lines) (batchBytes lines') := by
  rw [← batchBytes_eq_iff hlines hlines']
  constructor
  · intro h
    by_cases hbytes : batchBytes lines = batchBytes lines'
    · exact .inl hbytes
    · exact .inr ⟨hbytes, h⟩
  · rintro (hbytes | ⟨-, h⟩)
    · exact congrArg ofBytes hbytes
    · exact h

/-- The bytes of a batch identify it, so two batches with the same digest are the same or a
collision of the hash function. -/
theorem batchBytes_identify_lines (hlines : ∀ l ∈ lines, IsShort l)
    (hlines' : ∀ l ∈ lines', IsShort l) :
    (batchBytes lines = batchBytes lines' ↔ lines = lines') ∧
      (ofLines lines = ofLines lines' ↔
        lines = lines' ∨ Collide (batchBytes lines) (batchBytes lines')) :=
  ⟨batchBytes_eq_iff hlines hlines', ofLines_eq_iff_collide hlines hlines'⟩

end

/-- The bytes of one batch start those of another, which has the length of a line where the first
has its number of lines.  Yet the two are told apart. -/
theorem batchBytes_identify_start :
    (∀ l ∈ ["a".toList], IsShort l) ∧ (∀ l ∈ ["a".toList, "b".toList], IsShort l) ∧
      batchBytes ["a".toList] <+: batchBytes ["a".toList, "b".toList] ∧
      batchBytes ["a".toList] ≠ batchBytes ["a".toList, "b".toList] ∧
      (ofLines ["a".toList] = ofLines ["a".toList, "b".toList] →
        Collide (batchBytes ["a".toList]) (batchBytes ["a".toList, "b".toList])) := by
  have hone : ∀ l ∈ ["a".toList], IsShort l := by decide
  have htwo : ∀ l ∈ ["a".toList, "b".toList], IsShort l := by decide
  have hne : ["a".toList] ≠ ["a".toList, "b".toList] := by decide
  obtain ⟨hbytes, hdigests⟩ := batchBytes_identify_lines hone htwo
  exact ⟨hone, htwo, by decide, hbytes.not.mpr hne, fun h => (hdigests.mp h).resolve_left hne⟩

end Digest

end UrlFilter
