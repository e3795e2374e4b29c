import Mathlib.Data.Nat.Bitwise
import Mathlib.Logic.Function.Iterate
import UrlFilter.Regex.Matching

/-!
# Matching decides the meaning of an expression

`Matches` says which pieces of a text an expression matches.  `isMatch` runs a plan on sets of
positions, each set a number with one bit for a position.  The two agree
(`isMatch_iff_occurs`).

The bridge is `Carries`: an operation on sets carries a relation between positions if it takes a
set to all the positions that are related to a position in it.  Every plan carries the meaning of
its expression (`carries_ends`).

*Repetition.*  `power` and `reach` stop early where a step changes nothing.  That loses nothing,
because both are plain iteration (`power_eq_iterate`, `reach_eq_iterate`).  A repetition without a
greatest count is cut off at the number of positions.  That loses nothing either: no piece is
shorter than nothing, so of the times that a body matches in a row only those count that move on,
and there are no more of them than positions (`Times.exists_le_sub`).

The counts of a repetition must be in order, which `Ordered` asks for all of them.  A plan runs a
repetition at least as often as its least count, also where the greatest is smaller.
-/

namespace UrlFilter.Regex

/-! ## Positions as bits -/

theorem testBit_twice_add (n : Nat) (b : Bool) (i : Nat) :
    (2 * n + if b then 1 else 0).testBit (i + 1) = n.testBit i := by
  rw [Nat.testBit_succ]
  congr 1
  cases b with
  | false => simp
  | true => simp; omega

theorem testBit_zero_twice_add (n : Nat) (b : Bool) :
    (2 * n + if b then 1 else 0).testBit 0 = b := by
  cases b <;> simp [Nat.testBit_zero]

/-- The positions of a test are those whose character passes it. -/
theorem testBit_charPositions (p : Char → Bool) (t : Text) (i : Nat) :
    (charPositions p t).testBit i = t[i]?.any p := by
  induction t generalizing i with
  | nil => simp [charPositions]
  | cons c r ih =>
      cases i with
      | zero => simp only [charPositions, testBit_zero_twice_add, List.getElem?_cons_zero,
          Option.any_some]
      | succ i => simp only [charPositions, testBit_twice_add, ih, List.getElem?_cons_succ]

/-- The positions of a test that looks around, behind a character. -/
theorem testBit_lookPositions (test : Look) (before : Option Char) (t : Text) (i : Nat) :
    (lookPositions test before t).testBit i =
      (decide (i ≤ t.length) && test.holds (if i = 0 then before else t[i - 1]?) t[i]?) := by
  induction t generalizing before i with
  | nil =>
      cases i with
      | zero => simpa [lookPositions] using testBit_zero_twice_add 0 (test.holds before none)
      | succ i => simpa [lookPositions] using testBit_twice_add 0 (test.holds before none) i
  | cons c r ih =>
      cases i with
      | zero =>
          rw [lookPositions, testBit_zero_twice_add]
          simp
      | succ i =>
          rw [lookPositions, testBit_twice_add, ih]
          cases i with
          | zero => simp
          | succ i => simp

theorem testBit_allPositions (n i : Nat) : (allPositions n).testBit i = decide (i ≤ n) := by
  rw [allPositions, Nat.one_shiftLeft, Nat.testBit_two_pow_sub_one, decide_eq_decide]
  exact Nat.lt_succ_iff

/-! ## So many steps in a row -/

/-- So many steps of a relation in a row. -/
inductive Times (step : Nat → Nat → Prop) : Nat → Nat → Nat → Prop where
  /-- No step stays where it is. -/
  | none {i : Nat} : Times step 0 i i
  /-- One step and then the others. -/
  | some {n i j k : Nat} : step i j → Times step n j k → Times step (n + 1) i k

namespace Times

variable {step : Nat → Nat → Prop} {m n i j k : Nat}

theorem add (h : Times step m i j) (h' : Times step n j k) : Times step (m + n) i k := by
  induction h with
  | none => simpa using h'
  | some hs _ ih =>
      rw [Nat.add_right_comm]
      exact .some hs (ih h')

theorem split {m n i k : Nat} (h : Times step (m + n) i k) :
    ∃ j, Times step m i j ∧ Times step n j k := by
  induction m generalizing i with
  | zero => exact ⟨i, .none, by simpa using h⟩
  | succ m ih =>
      rw [Nat.add_right_comm] at h
      cases h with
      | some hs hr =>
          obtain ⟨j, hm, hn⟩ := ih hr
          exact ⟨j, .some hs hm, hn⟩

/-- What every step keeps, steps in a row keep. -/
theorem invariant {P : Nat → Prop} (hP : ∀ i j, step i j → P j) (h : Times step n i k)
    (hi : P i) : P k := by
  induction h with
  | none => exact hi
  | some hs _ ih => exact ih (hP _ _ hs)

theorem le (hs : ∀ i j, step i j → i ≤ j) (h : Times step n i k) : i ≤ k := by
  induction h with
  | none => exact Nat.le_refl _
  | some hij _ ih => exact Nat.le_trans (hs _ _ hij) ih

/-- Of the steps that never go back, only those count that move on. -/
theorem exists_le_sub (hs : ∀ i j, step i j → i ≤ j) (h : Times step n i k) :
    ∃ m ≤ k - i, m ≤ n ∧ Times step m i k := by
  induction h with
  | none => exact ⟨0, Nat.zero_le _, Nat.le_refl _, .none⟩
  | @some n i j k hij hjk ih =>
      obtain ⟨m, hm, hmn, ht⟩ := ih
      have hle : j ≤ k := hjk.le hs
      rcases Nat.lt_or_eq_of_le (hs _ _ hij) with hlt | heq
      · exact ⟨m + 1, by omega, by omega, .some hij ht⟩
      · exact ⟨m, by omega, by omega, heq ▸ ht⟩

/-- Steps that may also stay are fewer steps. -/
theorem or_eq_iff : Times (fun i j => i = j ∨ step i j) n i k ↔ ∃ m ≤ n, Times step m i k := by
  constructor
  · intro h
    induction h with
    | none => exact ⟨0, Nat.le_refl _, .none⟩
    | some hij _ ih =>
        obtain ⟨m, hm, ht⟩ := ih
        rcases hij with rfl | hij
        · exact ⟨m, Nat.le_succ_of_le hm, ht⟩
        · exact ⟨m + 1, Nat.succ_le_succ hm, .some hij ht⟩
  · rintro ⟨m, hm, ht⟩
    obtain ⟨d, rfl⟩ := Nat.exists_eq_add_of_le' hm
    clear hm
    induction d with
    | zero =>
        rw [Nat.zero_add]
        induction ht with
        | none => exact .none
        | some hs _ ih => exact .some (.inr hs) ih
    | succ d ih =>
        rw [Nat.add_right_comm]
        exact .some (.inl rfl) ih

end Times

/-! ## Operations that carry a relation -/

/-- Every position in a set is one of the text. -/
def Within (t : Text) (s : Nat) : Prop := ∀ i, s.testBit i = true → i ≤ t.length

/-- An operation takes every set of positions to the positions related to one in it. -/
def Carries (t : Text) (f : Nat → Nat) (step : Nat → Nat → Prop) : Prop :=
  ∀ s, Within t s → ∀ j, (f s).testBit j = true ↔ ∃ i, s.testBit i = true ∧ step i j

theorem within_allPositions (t : Text) : Within t (allPositions t.length) := by
  intro i hi
  simpa [testBit_allPositions] using hi

section

variable {t : Text} {f g : Nat → Nat} {step step' : Nat → Nat → Prop}

/-- What an operation gives lies within the text if its relation does. -/
theorem Carries.within (h : Carries t f step) (hs : ∀ i j, step i j → j ≤ t.length) {s : Nat}
    (hw : Within t s) : Within t (f s) := by
  intro j hj
  obtain ⟨i, -, hij⟩ := (h s hw j).mp hj
  exact hs i j hij

theorem Carries.comp (hf : Carries t f step) (hg : Carries t g step')
    (hs : ∀ i j, step i j → j ≤ t.length) :
    Carries t (fun s => g (f s)) fun i k => ∃ j, step i j ∧ step' j k := by
  intro s hw k
  rw [hg _ (hf.within hs hw)]
  constructor
  · rintro ⟨j, hj, hjk⟩
    obtain ⟨i, hi, hij⟩ := (hf s hw j).mp hj
    exact ⟨i, hi, j, hij, hjk⟩
  · rintro ⟨i, hi, j, hij, hjk⟩
    exact ⟨j, (hf s hw j).mpr ⟨i, hi, hij⟩, hjk⟩

theorem Carries.union (hf : Carries t f step) (hg : Carries t g step') :
    Carries t (fun s => f s ||| g s) fun i j => step i j ∨ step' i j := by
  intro s hw j
  rw [Nat.testBit_or, Bool.or_eq_true, hf s hw j, hg s hw j]
  constructor
  · rintro (⟨i, hi, h⟩ | ⟨i, hi, h⟩)
    · exact ⟨i, hi, .inl h⟩
    · exact ⟨i, hi, .inr h⟩
  · rintro ⟨i, hi, h | h⟩
    · exact .inl ⟨i, hi, h⟩
    · exact .inr ⟨i, hi, h⟩

theorem carries_id : Carries t (fun s => s) fun i j => i = j := by
  intro s _ j
  constructor
  · exact fun h => ⟨j, h, rfl⟩
  · rintro ⟨i, hi, rfl⟩
    exact hi

theorem Carries.congr (hf : Carries t f step)
    (h : ∀ i j, i ≤ t.length → (step i j ↔ step' i j)) : Carries t f step' := by
  intro s hw j
  rw [hf s hw j]
  exact exists_congr fun i => and_congr_right fun hi => h i j (hw i hi)

/-! ## Iteration -/

/-- Stopping where nothing changes does not change the result. -/
theorem power_eq_iterate (f : Nat → Nat) (n s : Nat) : power f n s = f^[n] s := by
  induction n generalizing s with
  | zero => rfl
  | succ n ih =>
      rw [power, Function.iterate_succ_apply]
      split
      · next h => rw [h, Function.iterate_fixed h]
      · exact ih _

theorem reach_eq_iterate (f : Nat → Nat) (n s : Nat) :
    reach f n s = (fun s => s ||| f s)^[n] s := by
  induction n generalizing s with
  | zero => rfl
  | succ n ih =>
      rw [reach, Function.iterate_succ_apply]
      split
      · next h => rw [h, Function.iterate_fixed (f := fun s => s ||| f s) h]
      · exact ih _

theorem Carries.iterate (hf : Carries t f step) (hs : ∀ i j, step i j → j ≤ t.length) (n : Nat) :
    Carries t f^[n] (Times step n) := by
  induction n with
  | zero =>
      refine carries_id.congr fun i j _ => ?_
      constructor
      · rintro rfl
        exact .none
      · intro h
        cases h
        rfl
  | succ n ih =>
      refine (hf.comp ih hs).congr fun i k _ => ?_
      constructor
      · rintro ⟨j, hij, hjk⟩
        exact .some hij hjk
      · intro h
        cases h with
        | some hij hjk => exact ⟨_, hij, hjk⟩

theorem Carries.power (hf : Carries t f step) (hs : ∀ i j, step i j → j ≤ t.length) (n : Nat) :
    Carries t (Regex.power f n) (Times step n) := by
  intro s hw j
  rw [power_eq_iterate]
  exact hf.iterate hs n s hw j

theorem Carries.reach (hf : Carries t f step) (hs : ∀ i j, step i j → j ≤ t.length) (n : Nat) :
    Carries t (Regex.reach f n) fun i k => ∃ m ≤ n, Times step m i k := by
  -- A step of `reach` may also stay; only positions of the text count, so staying is bounded too.
  have hor : Carries t (fun s => s ||| f s) fun i j => i ≤ t.length ∧ (i = j ∨ step i j) :=
    (carries_id.union hf).congr fun i j hi => by simp [hi]
  have hbound : ∀ i j, i ≤ t.length ∧ (i = j ∨ step i j) → j ≤ t.length := by
    rintro i j ⟨hi, rfl | h⟩
    · exact hi
    · exact hs i j h
  intro s hw k
  rw [reach_eq_iterate, hor.iterate hbound n s hw k]
  refine exists_congr fun i => and_congr_right fun hi => Iff.trans ?_ Times.or_eq_iff
  have hil := hw i hi
  clear hi
  constructor
  · intro h
    induction h with
    | none => exact .none
    | some hij _ ih => exact .some hij.2 (ih (hbound _ _ hij))
  · intro h
    induction h with
    | none => exact .none
    | some hij _ ih => exact .some ⟨hil, hij⟩ (ih (hbound _ _ ⟨hil, hij⟩))

end

/-! ## What a match spans -/

/-- A match starts no later than it ends, and ends within the text. -/
theorem Matches.bounds {t : Text} {r : Regex} {i j : Nat} (h : Matches t r i j) :
    i ≤ j ∧ j ≤ t.length := by
  induction h with
  | empty hi => exact ⟨Nat.le_refl _, hi⟩
  | char hc _ =>
      obtain ⟨hi, -⟩ := List.getElem?_eq_some_iff.mp hc
      exact ⟨Nat.le_succ _, hi⟩
  | look hi _ => exact ⟨Nat.le_refl _, hi⟩
  | seq _ _ ih₁ ih₂ => exact ⟨Nat.le_trans ih₁.1 ih₂.1, ih₂.2⟩
  | altLeft _ ih => exact ih
  | altRight _ ih => exact ih
  | repeatedNone hi => exact ⟨Nat.le_refl _, hi⟩
  | repeatedSome _ _ _ ih₁ ih₂ => exact ⟨Nat.le_trans ih₁.1 ih₂.1, ih₂.2⟩
  | group _ ih => exact ih

theorem Matches.le {t : Text} {r : Regex} {i j : Nat} (h : Matches t r i j) : i ≤ j := h.bounds.1

theorem Matches.le_length {t : Text} {r : Regex} {i j : Nat} (h : Matches t r i j) :
    j ≤ t.length := h.bounds.2

@[simp] theorem matches_empty_iff {t : Text} {i j : Nat} :
    Matches t .empty i j ↔ i = j ∧ i ≤ t.length := by
  constructor
  · intro h
    cases h with
    | empty hi => exact ⟨rfl, hi⟩
  · rintro ⟨rfl, hi⟩
    exact .empty hi

@[simp] theorem matches_char_iff {t : Text} {set : CharSet} {i j : Nat} :
    Matches t (.char set) i j ↔ j = i + 1 ∧ t[i]?.any set.mem = true := by
  rw [Option.any_eq_true]
  constructor
  · intro h
    cases h with
    | char hc hm => exact ⟨rfl, _, hc, hm⟩
  · rintro ⟨rfl, c, hc, hm⟩
    exact .char hc hm

@[simp] theorem matches_look_iff {t : Text} {test : Look} {i j : Nat} :
    Matches t (.look test) i j ↔ i = j ∧ i ≤ t.length ∧ test.holdsAt t i = true := by
  constructor
  · intro h
    cases h with
    | look hi ht => exact ⟨rfl, hi, ht⟩
  · rintro ⟨rfl, hi, ht⟩
    exact .look hi ht

@[simp] theorem matches_seq_iff {t : Text} {r s : Regex} {i k : Nat} :
    Matches t (.seq r s) i k ↔ ∃ j, Matches t r i j ∧ Matches t s j k := by
  constructor
  · intro h
    cases h with
    | seq h₁ h₂ => exact ⟨_, h₁, h₂⟩
  · rintro ⟨j, h₁, h₂⟩
    exact .seq h₁ h₂

@[simp] theorem matches_alt_iff {t : Text} {r s : Regex} {i j : Nat} :
    Matches t (.alt r s) i j ↔ Matches t r i j ∨ Matches t s i j := by
  constructor
  · intro h
    cases h with
    | altLeft h => exact .inl h
    | altRight h => exact .inr h
  · rintro (h | h)
    · exact .altLeft h
    · exact .altRight h

@[simp] theorem matches_group_iff {t : Text} {numbered : Bool} {r : Regex} {i j : Nat} :
    Matches t (.group numbered r) i j ↔ Matches t r i j := by
  constructor
  · intro h
    cases h with
    | group h => exact h
  · exact .group

/-- A repetition matches its body some number of times in a row, between its counts. -/
theorem matches_repeated_iff {t : Text} {r : Regex} {least : Nat} {most : Option Nat} {i k : Nat} :
    Matches t (.repeated r least most) i k ↔
      i ≤ t.length ∧ ∃ n, least ≤ n ∧ (∀ m ∈ most, n ≤ m) ∧ Times (Matches t r) n i k := by
  constructor
  · intro h
    refine ⟨Nat.le_trans h.le h.le_length, ?_⟩
    generalize hs : Regex.repeated r least most = s at h
    induction h generalizing least most with
    | repeatedNone _ =>
        cases hs
        exact ⟨0, Nat.le_refl _, fun _ _ => Nat.zero_le _, .none⟩
    | repeatedSome hm hb _ _ ih =>
        cases hs
        obtain ⟨n, hln, hnm, ht⟩ := ih rfl
        refine ⟨n + 1, by omega, fun m hmm => ?_, .some hb ht⟩
        have hm0 : m ≠ 0 := fun h0 => hm (h0 ▸ hmm)
        have := hnm (m - 1) (Option.mem_map_of_mem _ hmm)
        omega
    | _ => cases hs
  · rintro ⟨hi, n, hln, hnm, ht⟩
    induction ht generalizing least most with
    | none =>
        obtain rfl : least = 0 := Nat.le_zero.mp hln
        exact .repeatedNone hi
    | @some n i j k hij hjk ih =>
        refine .repeatedSome (fun h0 => absurd (hnm 0 h0) (by omega)) hij
          (ih hij.le_length (by omega) fun m hm => ?_)
        obtain ⟨m', hm', rfl⟩ := Option.mem_map.mp hm
        have := hnm m' hm'
        omega

/-! ## Plans -/

/-- The least count of every repetition is no greater than the greatest. -/
def Ordered : Regex → Prop
  | .seq first second => first.Ordered ∧ second.Ordered
  | .alt left right => left.Ordered ∧ right.Ordered
  | .repeated body least most => (∀ m ∈ most, least ≤ m) ∧ body.Ordered
  | .group _ body => body.Ordered
  | _ => True

/-- How often a plan runs a repetition beyond its least count. -/
def spare (t : Text) (least : Nat) : Option Nat → Nat
  | some most => most - least
  | none => t.length + 1

theorem ends_repeated (t : Text) (body : Regex) (least : Nat) (most : Option Nat) (s : Nat) :
    (plan t (.repeated body least most)).ends s =
      reach (plan t body).ends (spare t least most) (power (plan t body).ends least s) := by
  cases most with
  | none => rfl
  | some most => rfl

/-- A repetition is run often enough: a body that moves on cannot match more often than there are
positions. -/
theorem exists_times_iff {t : Text} {r : Regex} {least : Nat} {most : Option Nat} {i k : Nat}
    (ho : ∀ m ∈ most, least ≤ m) :
    (∃ j, Times (Matches t r) least i j ∧
        ∃ m ≤ spare t least most, Times (Matches t r) m j k) ↔
      ∃ n, least ≤ n ∧ (∀ m ∈ most, n ≤ m) ∧ Times (Matches t r) n i k := by
  have hmono : ∀ i j, Matches t r i j → i ≤ j := fun _ _ h => h.le
  constructor
  · rintro ⟨j, hij, m, hm, hjk⟩
    refine ⟨least + m, Nat.le_add_right _ _, ?_, hij.add hjk⟩
    rintro most' rfl
    have := ho most' rfl
    rw [spare] at hm
    omega
  · rintro ⟨n, hln, hnm, ht⟩
    obtain ⟨d, rfl⟩ := Nat.exists_eq_add_of_le hln
    obtain ⟨j, hij, hjk⟩ := ht.split
    refine ⟨j, hij, ?_⟩
    cases most with
    | some most =>
        have := hnm most rfl
        exact ⟨d, by rw [spare]; omega, hjk⟩
    | none =>
        obtain ⟨m, hm, hmd, ht'⟩ := hjk.exists_le_sub hmono
        refine ⟨m, ?_, ht'⟩
        have hk : m = 0 ∨ k ≤ t.length := by
          cases ht' with
          | none => exact .inl rfl
          | some hs hr =>
              exact .inr
                (hr.invariant (P := (· ≤ t.length)) (fun _ _ h => h.le_length) hs.le_length)
        rw [spare]
        omega

/-- The plan of an expression carries its meaning. -/
theorem carries_ends (t : Text) {r : Regex} (ho : r.Ordered) :
    Carries t (plan t r).ends (Matches t r) := by
  have hbound : ∀ (r : Regex) i j, Matches t r i j → j ≤ t.length := fun _ _ _ h => h.le_length
  induction r with
  | empty => exact carries_id.congr fun i j hi => by simp [hi]
  | char set =>
      intro s _ j
      simp only [plan, Plan.ends, Nat.testBit_shiftLeft, Nat.testBit_and, testBit_charPositions,
        matches_char_iff, Bool.and_eq_true, decide_eq_true_eq]
      constructor
      · rintro ⟨hj, hs, hc⟩
        exact ⟨j - 1, hs, by omega, hc⟩
      · rintro ⟨i, hs, rfl, hc⟩
        exact ⟨by omega, by simpa using hs, by simpa using hc⟩
  | look test =>
      intro s _ j
      simp only [plan, Plan.ends, Nat.testBit_and, testBit_lookPositions, matches_look_iff,
        Bool.and_eq_true, decide_eq_true_eq]
      constructor
      · rintro ⟨hs, hj, ht⟩
        exact ⟨j, hs, rfl, hj, ht⟩
      · rintro ⟨i, hs, rfl, hi, ht⟩
        exact ⟨hs, hi, ht⟩
  | seq r₁ r₂ ih₁ ih₂ =>
      exact ((ih₁ ho.1).comp (ih₂ ho.2) (hbound r₁)).congr fun i j _ => matches_seq_iff.symm
  | alt r₁ r₂ ih₁ ih₂ =>
      exact ((ih₁ ho.1).union (ih₂ ho.2)).congr fun i j _ => matches_alt_iff.symm
  | repeated body least most ih =>
      have hb := ih ho.2
      have hp : ∀ i j, i ≤ t.length ∧ Times (Matches t body) least i j → j ≤ t.length := by
        rintro i j ⟨hi, h⟩
        exact h.invariant (P := (· ≤ t.length)) (hbound body) hi
      have hpower : Carries t (power (plan t body).ends least)
          fun i j => i ≤ t.length ∧ Times (Matches t body) least i j :=
        (hb.power (hbound body) least).congr fun i j hi => by simp [hi]
      have hcomp := hpower.comp (hb.reach (hbound body) (spare t least most)) hp
      simp only [← ends_repeated] at hcomp
      refine hcomp.congr fun i k hi => ?_
      rw [matches_repeated_iff, ← exists_times_iff ho.1]
      simp only [hi, true_and]
  | group numbered body ih => exact (ih ho).congr fun i j _ => matches_group_iff.symm

/-- An expression matches a text exactly where it occurs in it. -/
theorem isMatch_iff_occurs {t : Text} {r : Regex} (ho : r.Ordered) :
    r.isMatch t = true ↔ Occurs t r := by
  have hends := carries_ends t ho _ (within_allPositions t)
  rw [isMatch, bne_iff_ne]
  constructor
  · intro hne
    by_contra hno
    refine hne (Nat.zero_of_testBit_eq_false fun j => ?_)
    rw [← Bool.not_eq_true]
    intro hj
    obtain ⟨i, -, h⟩ := (hends j).mp hj
    exact hno ⟨i, j, h⟩
  · rintro ⟨i, j, h⟩ hzero
    have hi : i ≤ t.length := Nat.le_trans h.le h.le_length
    have hj := (hends j).mpr ⟨i, by simpa [testBit_allPositions] using hi, h⟩
    simp [hzero] at hj

end UrlFilter.Regex
