import Mathlib.Data.List.Basic
import UrlFilter.Proofs.Unicode.Folding
import UrlFilter.Unicode.Lowercase
import UrlFilter.Unicode.Property
import UrlFilter.Unicode.Uppercase

/-!
# Texts that are in lower case already

A text changes in lower case if one of its characters does.  The characters that change are those
with the property `Uppercase`, and beside them the letters in title case, such as U+01C5: they are
two letters in one, of which only the first is a capital.  So a text without upper-case characters
may still change, and it does exactly if it holds a letter in title case (`lowercase_eq_self_iff`).

*The table.*  That no other character changes is checked by evaluation, on sets that are numbers
with a bit for every member (`sources_capital`).
-/

namespace UrlFilter.Unicode

/-! ## Ranges as the bits of a number -/

/-- The number whose bits are the members of some ranges. -/
def Ranges.bits (ranges : Ranges) : Nat :=
  ranges.foldr (fun r m => (1 <<< (r.2 + 1 - r.1) - 1) <<< r.1 ||| m) 0

theorem Ranges.testBit_bits {ranges : Ranges} {n : Nat} : ranges.bits.testBit n = ranges.has n := by
  induction ranges with
  | nil => exact Nat.zero_testBit n
  | cons r ranges ih =>
      have hr : ((1 <<< (r.2 + 1 - r.1) - 1) <<< r.1).testBit n =
          (r.1 ≤ n && n ≤ r.2 : Bool) := by
        rw [Nat.one_shiftLeft, Nat.testBit_shiftLeft, Nat.testBit_two_pow_sub_one,
          Bool.eq_iff_iff]
        simp only [Bool.and_eq_true, decide_eq_true_eq]
        omega
      rw [bits, List.foldr_cons, Nat.testBit_or, hr, ← bits, ih, has, has, List.any_cons]

/-! ## Title case -/

/-- The letters in title case, which have the category `Titlecase_Letter`. -/
def titlecaseRanges : Ranges :=
  [(0x1C5, 0x1C5), (0x1C8, 0x1C8), (0x1CB, 0x1CB), (0x1F2, 0x1F2), (0x1F88, 0x1F8F),
   (0x1F98, 0x1F9F), (0x1FA8, 0x1FAF), (0x1FBC, 0x1FBC), (0x1FCC, 0x1FCC), (0x1FFC, 0x1FFC)]

/-- The table of categories says the same. -/
example : category? "lt".toList = some titlecaseRanges := by decide +kernel

/-- Whether a character is a letter in title case. -/
def isTitlecase (c : Char) : Bool := titlecaseRanges.has c.toNat

theorem lowercaseRuns_wellFormed :
    (lowercaseRuns.all fun run => run.first ≤ run.last) = true := by decide +kernel

/-- What a run takes to lower case has the property `Uppercase` or is in title case. -/
theorem sources_capital :
    mask ((lowercaseRuns.flatMap (·.pairs)).map Prod.fst) |||
        (uppercaseRanges.bits ||| titlecaseRanges.bits) =
      uppercaseRanges.bits ||| titlecaseRanges.bits := by decide +kernel

theorem titlecase_changes :
    (titlecaseRanges.all fun r => (List.range' r.1 (r.2 + 1 - r.1)).all fun n =>
      128 ≤ n && n != 'İ'.toNat && isScalar (applyRuns lowercaseRuns n) &&
        applyRuns lowercaseRuns n != n) = true := by decide +kernel

theorem capital_of_covers {run : CaseRun} (hrun : run ∈ lowercaseRuns) {n : Nat}
    (hn : run.covers n = true) : uppercaseRanges.has n = true ∨ titlecaseRanges.has n = true := by
  have hle := List.all_eq_true.mp lowercaseRuns_wellFormed run hrun
  have hp : (n, run.apply n) ∈ run.pairs :=
    (CaseRun.mem_pairs_iff (of_decide_eq_true hle)).mpr ⟨hn, rfl⟩
  have hmem : n ∈ (lowercaseRuns.flatMap (·.pairs)).map Prod.fst :=
    List.mem_map_of_mem (f := Prod.fst) (List.mem_flatMap.mpr ⟨run, hrun, hp⟩)
  have hbit := congrArg (Nat.testBit · n) sources_capital
  simp only [Nat.testBit_or, testBit_mask.mpr hmem, Bool.true_or, Ranges.testBit_bits] at hbit
  exact Bool.or_eq_true_iff.mp hbit.symm

/-! ## Characters -/

theorem isUppercase_sigma : isUppercase 'Σ' = true := by decide +kernel

theorem isUppercase_dottedI : isUppercase 'İ' = true := by decide +kernel

/-- Every character but one is a single character in lower case. -/
theorem length_lowercaseChar {c : Char} (h : c ≠ 'İ') : (lowercaseChar c).length = 1 := by
  rw [lowercaseChar, if_neg h]
  split <;> rfl

theorem lowercaseChar_of_titlecase {c : Char} (h : isTitlecase c = true) :
    lowercaseChar c ≠ [c] := by
  obtain ⟨r, hr, hn⟩ := List.any_eq_true.mp h
  rw [Bool.and_eq_true, decide_eq_true_eq, decide_eq_true_eq] at hn
  have hall := List.all_eq_true.mp titlecase_changes r hr
  have hchange := List.all_eq_true.mp hall c.toNat (List.mem_range'_1.mpr (by omega))
  simp only [Bool.and_eq_true, decide_eq_true_eq, bne_iff_ne, ne_eq] at hchange
  obtain ⟨⟨⟨hascii, hdotted⟩, hscalar⟩, hne⟩ := hchange
  rw [lowercaseChar, if_neg (by omega), if_neg (fun hc => hdotted (congrArg Char.toNat hc))]
  intro heq
  have hnat := congrArg Char.toNat (List.head_eq_of_cons_eq heq)
  rw [toNat_ofNat_of_isScalar hscalar] at hnat
  exact hne hnat

theorem lowercaseChar_of_not_capital {c : Char} (hupper : isUppercase c = false)
    (htitle : isTitlecase c = false) : lowercaseChar c = [c] := by
  have hdotted : c ≠ 'İ' := by
    rintro rfl
    rw [isUppercase_dottedI] at hupper
    cases hupper
  rw [isUppercase] at hupper
  rw [lowercaseChar, if_neg hdotted]
  split
  · next hascii =>
      rw [if_pos hascii, Bool.and_eq_false_iff, decide_eq_false_iff_not,
        decide_eq_false_iff_not] at hupper
      rw [Text.asciiLower, if_neg (by tauto)]
  · next hascii =>
      rw [if_neg hascii] at hupper
      rw [applyRuns]
      cases hfind : lowercaseRuns.find? (·.covers c.toNat) with
      | none => exact congrArg (fun d => [d]) (Char.ofNat_toNat c)
      | some run =>
          have hcov : run.covers c.toNat = true := by simpa using List.find?_some hfind
          rcases capital_of_covers (List.mem_of_find?_eq_some hfind) hcov with h | h
          · rw [h] at hupper
            cases hupper
          · rw [isTitlecase, h] at htitle
            cases htitle

theorem lowercaseChar_ne_nil (c : Char) : lowercaseChar c ≠ [] := by
  by_cases h : c = 'İ'
  · rw [h]
    decide
  · exact List.ne_nil_of_length_pos (by rw [length_lowercaseChar h]; decide)

/-! ## Texts -/

/-- Lower case leaves something of every text. -/
theorem lowercase_ne_nil {t : Text} (h : t ≠ []) : lowercase t ≠ [] := by
  obtain ⟨c, r, rfl⟩ := List.exists_cons_of_ne_nil h
  rw [lowercase, lowercaseAfter]
  refine List.append_ne_nil_of_left_ne_nil ?_ _
  split
  · exact List.cons_ne_nil _ _
  · exact lowercaseChar_ne_nil c

/-- Without a capital sigma every character is mapped on its own. -/
theorem lowercaseAfter_eq_flatMap (before : Text) {t : Text} (h : 'Σ' ∉ t) :
    lowercaseAfter before t = t.flatMap lowercaseChar := by
  induction t generalizing before with
  | nil => rfl
  | cons c t ih =>
      rw [List.mem_cons, not_or] at h
      rw [lowercaseAfter, if_neg (Ne.symm h.1), ih _ h.2, List.flatMap_cons]

section

variable {t : Text}

theorem lowercase_eq_flatMap (h : ∀ c ∈ t, isUppercase c = false) :
    lowercase t = t.flatMap lowercaseChar := by
  refine lowercaseAfter_eq_flatMap [] fun hc => ?_
  have hsigma := h 'Σ' hc
  rw [isUppercase_sigma] at hsigma
  cases hsigma

theorem length_flatMap_lowercaseChar (h : ∀ c ∈ t, isUppercase c = false) :
    (t.flatMap lowercaseChar).length = t.length := by
  induction t with
  | nil => rfl
  | cons c t ih =>
      obtain ⟨hc, ht⟩ := List.forall_mem_cons.mp h
      have hdotted : c ≠ 'İ' := by
        rintro rfl
        rw [isUppercase_dottedI] at hc
        cases hc
      rw [List.flatMap_cons, List.length_append, length_lowercaseChar hdotted, ih ht,
        List.length_cons, Nat.add_comm]

/-- Without upper-case characters lower case leaves the length as it is. -/
theorem length_lowercase (h : ∀ c ∈ t, isUppercase c = false) :
    (lowercase t).length = t.length := by
  rw [lowercase_eq_flatMap h, length_flatMap_lowercaseChar h]

/-- A text without upper-case characters is in lower case unless it holds a letter in title
case. -/
theorem lowercase_eq_self_iff (h : ∀ c ∈ t, isUppercase c = false) :
    lowercase t = t ↔ ∀ c ∈ t, isTitlecase c = false := by
  rw [lowercase_eq_flatMap h]
  induction t with
  | nil => simp
  | cons c t ih =>
      obtain ⟨hc, ht⟩ := List.forall_mem_cons.mp h
      rw [List.flatMap_cons, List.forall_mem_cons, ← ih ht]
      cases htitle : isTitlecase c with
      | false =>
          rw [lowercaseChar_of_not_capital hc htitle, List.singleton_append, List.cons.injEq]
          exact and_congr_left fun _ => iff_of_true rfl rfl
      | true =>
          refine iff_of_false (fun heq => ?_) (fun hfalse => by cases hfalse.1)
          have hlength := congrArg List.length heq
          rw [List.length_append, List.length_cons, length_flatMap_lowercaseChar ht,
            Nat.add_comm] at hlength
          have hone : (lowercaseChar c).length = [c].length := Nat.add_left_cancel hlength
          exact lowercaseChar_of_titlecase htitle (List.append_inj_left heq hone)

end

end UrlFilter.Unicode
