import Mathlib.Data.List.Chain
import Mathlib.Data.List.Nodup
import UrlFilter.Regex.CharSet

/-!
# Equality up to case

`Unicode.fold` takes a character to its folding, and `Unicode.variants` lists the characters with
the same folding.  The two are written independently, one reads the table forward and one backward.
They agree (`mem_variants_iff`), so a closed set holds the characters that have the folding of one
of its own (`mem_folded_single`).

*The table.*  `foldPairs` holds every character that changes, with its folding.  Three facts about
it are checked by evaluation: its characters ascend (`sources_sorted`), no folding changes again
(`sources_disjoint_images`), and all numbers are those of characters (`foldPairs_scalar`).  The
second would take a comparison of each pair with each other.  It is checked on two sets instead,
each of them one number with a bit for every member.
-/

namespace UrlFilter.Unicode

/-! ## Sets of numbers as numbers -/

/-- The number whose bits are some numbers. -/
def mask (ns : List Nat) : Nat := ns.foldr (fun n m => 1 <<< n ||| m) 0

theorem testBit_mask {ns : List Nat} {i : Nat} : (mask ns).testBit i = true ↔ i ∈ ns := by
  induction ns with
  | nil => simp [mask]
  | cons n ns ih =>
      rw [mask, List.foldr_cons, Nat.testBit_or, Bool.or_eq_true, ← mask, ih, Nat.one_shiftLeft,
        Nat.testBit_two_pow, decide_eq_true_eq, List.mem_cons, eq_comm]

/-- Two lists whose numbers have no bit in common have no member in common. -/
theorem disjoint_of_mask {ms ns : List Nat} (h : mask ms &&& mask ns = 0) {i : Nat}
    (hm : i ∈ ms) : i ∉ ns := by
  intro hn
  have hbit : (mask ms &&& mask ns).testBit i = true := by
    rw [Nat.testBit_and, testBit_mask.mpr hm, testBit_mask.mpr hn]
    rfl
  rw [h, Nat.zero_testBit] at hbit
  exact Bool.false_ne_true hbit

/-! ## Runs -/

/-- The pairs of a run are what it covers with what it is mapped to. -/
theorem CaseRun.mem_pairs_iff {run : CaseRun} (hle : run.first ≤ run.last) {n m : Nat} :
    (n, m) ∈ run.pairs ↔ run.covers n = true ∧ run.apply n = m := by
  simp only [pairs, covers, apply, List.mem_map, List.mem_range, Prod.mk.injEq, Bool.and_eq_true,
    decide_eq_true_eq, beq_iff_eq]
  constructor
  · rintro ⟨k, hk, rfl, rfl⟩
    have hk' : k * run.step ≤ run.last - run.first := by
      have := Nat.mul_le_mul_right run.step (Nat.le_of_lt_succ hk)
      exact Nat.le_trans this (Nat.div_mul_le_self _ _)
    refine ⟨⟨⟨Nat.le_add_right _ _, by omega⟩, ?_⟩, by omega⟩
    rw [Nat.add_sub_cancel_left, Nat.mul_mod_left]
  · rintro ⟨⟨⟨hfirst, hlast⟩, hmod⟩, rfl⟩
    have hk : (n - run.first) / run.step * run.step = n - run.first :=
      Nat.div_mul_cancel (Nat.dvd_of_mod_eq_zero hmod)
    refine ⟨(n - run.first) / run.step, ?_, by omega, by omega⟩
    exact Nat.lt_succ_of_le (Nat.div_le_div_right (by omega))

/-! ## The table of foldings -/

theorem foldRuns_wellFormed :
    (foldRuns.all fun run => run.first ≤ run.last) = true := by decide +kernel

theorem sources_sorted : (foldPairs.map Prod.fst).IsChain (· < ·) := by decide +kernel

theorem sources_disjoint_images :
    mask (foldPairs.map Prod.fst) &&& mask (foldPairs.map Prod.snd) = 0 := by decide +kernel

/-- Whether a number is that of a character. -/
def isScalar (n : Nat) : Bool := n < 0xD800 || (0xDFFF < n && n < 0x110000)

theorem foldPairs_scalar :
    (foldPairs.all fun p => isScalar p.1 && isScalar p.2) = true := by decide +kernel

/-- Beyond ASCII only two characters have a folding in ASCII. -/
theorem foreign_images :
    ((foldRuns.flatMap (·.pairs)).all fun p =>
      128 ≤ p.1 && (128 ≤ p.2 || p == ('ſ'.toNat, 's'.toNat) || p == ('\u212A'.toNat, 'k'.toNat))) =
        true := by decide +kernel

theorem mem_foldPairs_iff {n m : Nat} :
    (n, m) ∈ foldPairs ↔ (n, m) ∈ asciiFoldPairs ∨
      ∃ run ∈ foldRuns, run.covers n = true ∧ run.apply n = m := by
  rw [foldPairs, List.mem_append, List.mem_flatMap]
  refine or_congr Iff.rfl (exists_congr fun run => and_congr_right fun hrun => ?_)
  have hle := List.all_eq_true.mp foldRuns_wellFormed run hrun
  exact CaseRun.mem_pairs_iff (of_decide_eq_true hle)

theorem mem_asciiFoldPairs_iff {n m : Nat} :
    (n, m) ∈ asciiFoldPairs ↔ 0x41 ≤ n ∧ n ≤ 0x5A ∧ m = n + 32 := by
  simp only [asciiFoldPairs, List.mem_map, List.mem_range, Prod.mk.injEq]
  constructor
  · rintro ⟨k, hk, rfl, rfl⟩
    omega
  · rintro ⟨hfirst, hlast, rfl⟩
    exact ⟨n - 0x41, by omega, by omega, by omega⟩

theorem foreign_of_covers {run : CaseRun} (hrun : run ∈ foldRuns) {n : Nat}
    (hn : run.covers n = true) :
    128 ≤ n ∧ (128 ≤ run.apply n ∨ (n = 'ſ'.toNat ∧ run.apply n = 's'.toNat) ∨
      (n = '\u212A'.toNat ∧ run.apply n = 'k'.toNat)) := by
  have hle := List.all_eq_true.mp foldRuns_wellFormed run hrun
  have hp : (n, run.apply n) ∈ run.pairs :=
    (CaseRun.mem_pairs_iff (of_decide_eq_true hle)).mpr ⟨hn, rfl⟩
  have h := List.all_eq_true.mp foreign_images _ (List.mem_flatMap.mpr ⟨run, hrun, hp⟩)
  simpa [or_assoc] using h

/-- No character has two foldings. -/
theorem foldPairs_unique {n m m' : Nat} (h : (n, m) ∈ foldPairs) (h' : (n, m') ∈ foldPairs) :
    m = m' := by
  have hsorted : (foldPairs.map Prod.fst).Pairwise (· < ·) :=
    List.isChain_iff_pairwise.mp sources_sorted
  have hnodup : (foldPairs.map Prod.fst).Nodup := hsorted.imp Nat.ne_of_lt
  have := List.inj_on_of_nodup_map hnodup h h' rfl
  exact congrArg Prod.snd this

/-- No folding changes again. -/
theorem not_mem_foldPairs_of_image {n m : Nat} (h : (n, m) ∈ foldPairs) (k : Nat) :
    (m, k) ∉ foldPairs := by
  intro hk
  exact disjoint_of_mask sources_disjoint_images (List.mem_map_of_mem (f := Prod.fst) hk)
    (List.mem_map_of_mem (f := Prod.snd) h)

theorem toNat_ofNat_of_isScalar {n : Nat} (h : isScalar n = true) : (Char.ofNat n).toNat = n := by
  have hv : n.isValidChar := by
    simp only [isScalar, Bool.or_eq_true, Bool.and_eq_true, decide_eq_true_eq] at h
    exact h
  rw [Char.ofNat, dif_pos hv]
  rfl

theorem toNat_ofNat_of_mem {n m : Nat} (h : (n, m) ∈ foldPairs) :
    (Char.ofNat n).toNat = n ∧ (Char.ofNat m).toNat = m := by
  have hs := List.all_eq_true.mp foldPairs_scalar _ h
  rw [Bool.and_eq_true] at hs
  exact ⟨toNat_ofNat_of_isScalar hs.1, toNat_ofNat_of_isScalar hs.2⟩

/-! ## Folding -/

/-- The table is what folding does. -/
theorem fold_of_mem {c : Char} {m : Nat} (h : (c.toNat, m) ∈ foldPairs) :
    fold c = Char.ofNat m := by
  rcases mem_foldPairs_iff.mp h with ha | ⟨run, hrun, hcov, happly⟩
  · obtain ⟨hfirst, hlast, rfl⟩ := mem_asciiFoldPairs_iff.mp ha
    rw [fold, if_pos (by omega), Text.asciiLower, if_pos]
    exact ⟨hfirst, hlast⟩
  · obtain ⟨hn, -⟩ := foreign_of_covers hrun hcov
    rw [fold, if_neg (by omega), applyRuns]
    cases hfind : foldRuns.find? (·.covers c.toNat) with
    | none => exact absurd hcov (by simpa using List.find?_eq_none.mp hfind run hrun)
    | some run' =>
        have hcov' : run'.covers c.toNat = true := by simpa using List.find?_some hfind
        have hp : (c.toNat, run'.apply c.toNat) ∈ foldPairs :=
          mem_foldPairs_iff.mpr (.inr ⟨run', List.mem_of_find?_eq_some hfind, hcov', rfl⟩)
        exact congrArg Char.ofNat (foldPairs_unique hp h)

theorem fold_of_not_mem {c : Char} (h : ∀ m, (c.toNat, m) ∉ foldPairs) : fold c = c := by
  by_cases hc : c.toNat < 128
  · rw [fold, if_pos hc, Text.asciiLower, if_neg]
    rintro ⟨hfirst, hlast⟩
    exact h _ (mem_foldPairs_iff.mpr (.inl (mem_asciiFoldPairs_iff.mpr ⟨hfirst, hlast, rfl⟩)))
  · rw [fold, if_neg hc, applyRuns]
    cases hfind : foldRuns.find? (·.covers c.toNat) with
    | none => exact Char.ofNat_toNat c
    | some run =>
        have hcov : run.covers c.toNat = true := by simpa using List.find?_some hfind
        exact absurd (mem_foldPairs_iff.mpr (.inr ⟨run, List.mem_of_find?_eq_some hfind, hcov,
          rfl⟩)) (h _)

/-- Folding is what the table says, and nothing else. -/
theorem fold_eq_iff {c d : Char} :
    fold c = d ↔ (c.toNat, d.toNat) ∈ foldPairs ∨ (c = d ∧ ∀ m, (c.toNat, m) ∉ foldPairs) := by
  constructor
  · rintro rfl
    by_cases h : ∃ m, (c.toNat, m) ∈ foldPairs
    · obtain ⟨m, hm⟩ := h
      rw [fold_of_mem hm, (toNat_ofNat_of_mem hm).2]
      exact .inl hm
    · have hn := not_exists.mp h
      exact .inr ⟨(fold_of_not_mem hn).symm, hn⟩
  · rintro (h | ⟨rfl, h⟩)
    · rw [fold_of_mem h, Char.ofNat_toNat]
    · exact fold_of_not_mem h

theorem not_mem_foldPairs_fold (c : Char) (m : Nat) : ((fold c).toNat, m) ∉ foldPairs := by
  rcases fold_eq_iff.mp (rfl : fold c = fold c) with h | ⟨hc, h⟩
  · exact not_mem_foldPairs_of_image h m
  · rw [← hc]
    exact h m

/-- Folding twice is folding once. -/
@[simp] theorem fold_fold (c : Char) : fold (fold c) = fold c :=
  fold_of_not_mem (not_mem_foldPairs_fold c)

/-! ## The characters with the same folding -/

/-- The runs that take a code point here are found from where they take it. -/
theorem CaseRun.exists_source_iff {runs : List CaseRun} {n m : Nat} :
    (∃ run ∈ runs.filter fun run => run.target ≤ m && run.covers (run.source m),
        run.source m = n) ↔
      ∃ run ∈ runs, run.covers n = true ∧ run.apply n = m := by
  constructor
  · rintro ⟨run, hrun, rfl⟩
    obtain ⟨hmem, hcov⟩ := List.mem_filter.mp hrun
    rw [Bool.and_eq_true, decide_eq_true_eq] at hcov
    refine ⟨run, hmem, hcov.2, ?_⟩
    rw [apply, source, Nat.add_sub_cancel]
    exact Nat.sub_add_cancel hcov.1
  · rintro ⟨run, hmem, hcov, rfl⟩
    have hfirst : run.first ≤ n := by
      rw [covers, Bool.and_eq_true, Bool.and_eq_true, decide_eq_true_eq] at hcov
      exact hcov.1.1
    have hsource : run.source (run.apply n) = n := by
      rw [source, apply, Nat.add_sub_cancel]
      exact Nat.sub_add_cancel hfirst
    refine ⟨run, List.mem_filter.mpr ⟨hmem, ?_⟩, hsource⟩
    rw [hsource, hcov, Bool.and_true, decide_eq_true_eq, apply]
    exact Nat.le_add_left _ _

theorem mem_sourcesOf_iff {runs : List CaseRun} {n m : Nat} :
    n ∈ sourcesOf runs m ↔ n = m ∨ ∃ run ∈ runs, run.covers n = true ∧ run.apply n = m := by
  rw [sourcesOf, List.mem_cons, List.mem_map, CaseRun.exists_source_iff]

theorem eq_asciiUpper_iff {c f : Char} :
    c = asciiUpper f ↔ c = f ∧ ¬('a' ≤ f ∧ f ≤ 'z') ∨ (c.toNat, f.toNat) ∈ asciiFoldPairs := by
  rw [mem_asciiFoldPairs_iff, asciiUpper]
  by_cases hl : 'a' ≤ f ∧ f ≤ 'z'
  · have h1 : 0x61 ≤ f.toNat := hl.1
    have h2 : f.toNat ≤ 0x7A := hl.2
    have hn : (Char.ofNat (f.toNat - 32)).toNat = f.toNat - 32 :=
      toNat_ofNat_of_isScalar (by rw [isScalar, Bool.or_eq_true]; left; simp; omega)
    rw [if_pos hl, ← Char.toNat_inj, hn]
    constructor
    · intro h
      exact .inr ⟨by omega, by omega, by omega⟩
    · rintro (⟨-, h⟩ | ⟨-, -, h⟩)
      · exact absurd hl h
      · omega
  · rw [if_neg hl]
    constructor
    · intro h
      exact .inl ⟨h, hl⟩
    · rintro (⟨h, -⟩ | ⟨h1, h2, h⟩)
      · exact h
      · refine absurd ⟨?_, ?_⟩ hl
        · change 0x61 ≤ f.toNat
          omega
        · change f.toNat ≤ 0x7A
          omega

theorem longS_mem_foldRuns : CaseRun.mk 0x17F 0x17F 1 0x73 ∈ foldRuns :=
  List.contains_iff_mem.mp (by decide +kernel)

theorem kelvin_mem_foldRuns : CaseRun.mk 0x212A 0x212A 1 0x6B ∈ foldRuns :=
  List.contains_iff_mem.mp (by decide +kernel)

theorem mem_foreignVariants_iff {c f : Char} (hf : f.toNat < 128) :
    c ∈ foreignVariants f ↔
      ∃ run ∈ foldRuns, run.covers c.toNat = true ∧ run.apply c.toNat = f.toNat := by
  constructor
  · intro h
    rw [foreignVariants] at h
    split at h
    next hs =>
      rw [List.mem_singleton.mp h, hs]
      exact ⟨_, longS_mem_foldRuns, by decide, by decide⟩
    next =>
      split at h
      next hk =>
        rw [List.mem_singleton.mp h, hk]
        exact ⟨_, kelvin_mem_foldRuns, by decide, by decide⟩
      next => exact absurd h List.not_mem_nil
  · rintro ⟨run, hrun, hcov, happly⟩
    rcases (foreign_of_covers hrun hcov).2 with h | ⟨hc, hs⟩ | ⟨hc, hk⟩
    · omega
    · rw [Char.toNat_inj.mp hc, Char.toNat_inj.mp (happly.symm.trans hs)]
      exact List.mem_singleton_self _
    · rw [Char.toNat_inj.mp hc, Char.toNat_inj.mp (happly.symm.trans hk)]
      exact List.mem_singleton_self _

/-- `unfold` lists a character and what changes into it. -/
theorem mem_unfold_iff {c f : Char} :
    c ∈ unfold f ↔ c = f ∨ (c.toNat, f.toNat) ∈ foldPairs := by
  rw [unfold, mem_foldPairs_iff]
  by_cases ha : f.toNat < 128
  · rw [if_pos ha, List.mem_cons, List.mem_cons, eq_asciiUpper_iff,
      mem_foreignVariants_iff ha]
    tauto
  · have hnone : (c.toNat, f.toNat) ∉ asciiFoldPairs := by
      rw [mem_asciiFoldPairs_iff]
      omega
    rw [if_neg ha, List.mem_map]
    constructor
    · rintro ⟨n, hn, rfl⟩
      rcases mem_sourcesOf_iff.mp hn with rfl | ⟨run, hrun, hcov, happly⟩
      · exact .inl (Char.ofNat_toNat f)
      · have hp := mem_foldPairs_iff.mpr (.inr ⟨run, hrun, hcov, happly⟩)
        rw [(toNat_ofNat_of_mem hp).1]
        exact .inr (.inr ⟨run, hrun, hcov, happly⟩)
    · intro h
      refine ⟨c.toNat, mem_sourcesOf_iff.mpr ?_, Char.ofNat_toNat c⟩
      rcases h with rfl | h | h
      · exact .inl rfl
      · exact absurd h hnone
      · exact .inr h

/-- The variants of a character are the characters that are equal to it up to case. -/
theorem mem_variants_iff {c d : Char} : c ∈ variants d ↔ fold c = fold d := by
  rw [variants, mem_unfold_iff, fold_eq_iff]
  refine ⟨?_, ?_⟩
  · rintro (h | h)
    · exact .inr ⟨h, h ▸ not_mem_foldPairs_fold d⟩
    · exact .inl h
  · rintro (h | ⟨h, -⟩)
    · exact .inr h
    · exact .inl h

theorem sameFold_iff {c d : Char} : sameFold c d = true ↔ d ∈ variants c := by
  rw [mem_variants_iff, sameFold, beq_iff_eq, eq_comm]

/-- A character without variants is equal up to case to itself only. -/
theorem sameFold_iff_of_variants {c d : Char} (h : variants c = [c, c]) :
    sameFold c d = true ↔ d = c := by
  rw [sameFold_iff, h, List.mem_cons, List.mem_singleton, or_self]

/-- A closed set of one character holds what is equal to it up to case. -/
theorem mem_folded_single {c d : Char} :
    (Regex.CharSet.folded (.single c)).mem d = sameFold c d := by
  rw [Bool.eq_iff_iff, sameFold, beq_iff_eq, Regex.CharSet.mem, List.any_eq_true]
  simp only [Regex.CharSet.single, Regex.CharSet.mem, Bool.and_eq_true, decide_eq_true_eq]
  constructor
  · rintro ⟨e, he, hce, hec⟩
    rw [Char.le_antisymm hce hec]
    exact mem_variants_iff.mp he
  · intro h
    exact ⟨c, mem_variants_iff.mpr h, Char.le_refl c, Char.le_refl c⟩

end UrlFilter.Unicode
