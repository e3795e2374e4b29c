import Mathlib.Data.List.TakeWhile
import UrlFilter.Json.Number
import UrlFilter.Proofs.Json.Grammar

/-!
# Reading natural numbers in JSON

A natural number of 64 bits is read where its digits stand and nothing behind them goes on with the
number (`read_toDigits`).  And nothing else is read as one: what was read is digits that fit, with a
text behind them that starts with no digit, no point and no mark (`read_eq_natural`).  So a number
that is too large, or that has a fraction or an exponent, is no natural number, whatever else it may
be.
-/

namespace UrlFilter.Json.Number

variable {n value count : Nat} {t ds rest : Text}

/-- A number in front of a text ends there. -/
def Ends (t : Text) : Prop := ∀ c ∈ t.head?, isDigit c = false ∧ c ∉ ['.', 'e', 'E']

/-! ## Digits -/

theorem ofDigitChars_cons (d : Char) (ds : Text) (value : Nat) :
    Nat.ofDigitChars 10 (d :: ds) value = Nat.ofDigitChars 10 ds (10 * value + digitValue d) :=
  Nat.ofDigitChars_cons

theorem isDigit_of_mem_toDigits : ∀ c ∈ Nat.toDigits 10 n, isDigit c = true :=
  fun _ hc => Nat.isDigit_of_mem_toDigits (by omega) (by omega) hc

/-- Only zero starts with a zero. -/
theorem head?_toDigits_ne_zero (hn : 0 < n) : (Nat.toDigits 10 n).head? ≠ some '0' := by
  induction n using Nat.strongRecOn with
  | ind n ih =>
    rw [Nat.toDigits_eq_if (by omega)]
    split_ifs with hlt
    · have hchar : ∀ d < 10, 0 < d → [Nat.digitChar d].head? ≠ some '0' := by decide
      exact hchar n hlt hn
    · rw [List.head?_append_of_ne_nil _ Nat.toDigits_ne_nil]
      exact ih (n / 10) (by omega) (by omega)

/-- More digits never make a number smaller. -/
theorem le_ofDigitChars (ds : Text) (value : Nat) : value ≤ Nat.ofDigitChars 10 ds value := by
  induction ds generalizing value with
  | nil => exact le_rfl
  | cons d ds ih =>
    rw [ofDigitChars_cons]
    exact le_trans (by omega) (ih _)

theorem startsWithDigit_append (hne : ds ≠ []) (hds : ∀ c ∈ ds, isDigit c = true) (rest : Text) :
    startsWithDigit (ds ++ rest) = true := by
  cases ds with
  | nil => exact absurd rfl hne
  | cons d ds => exact hds d List.mem_cons_self

theorem Ends.not_startsWithDigit (h : Ends rest) : startsWithDigit rest = false := by
  cases rest with
  | nil => rfl
  | cons c rest => exact (h c rfl).1

theorem takeWhile_isDigit_append (hds : ∀ c ∈ ds, isDigit c = true)
    (ht : startsWithDigit t = false) : (ds ++ t).takeWhile isDigit = ds := by
  rw [List.takeWhile_append_of_pos hds]
  cases t with
  | nil => exact List.append_nil ds
  | cons c t =>
    have hc : ¬ isDigit c = true := Bool.eq_false_iff.mp ht
    rw [List.takeWhile_cons_of_neg hc, List.append_nil]

/-- Digits with something else behind them are split off in one way. -/
theorem append_unique {es u : Text} (hds : ∀ c ∈ ds, isDigit c = true)
    (hes : ∀ c ∈ es, isDigit c = true) (ht : startsWithDigit t = false)
    (hu : startsWithDigit u = false) (h : ds ++ t = es ++ u) : ds = es ∧ t = u := by
  obtain rfl : ds = es := by
    rw [← takeWhile_isDigit_append hds ht, h, takeWhile_isDigit_append hes hu]
  exact ⟨rfl, List.append_cancel_left h⟩

theorem Ends.not_goes_on (h : Ends rest) : ¬ (rest.head? = some '.' ∨ startsWithMark rest) := by
  cases rest with
  | nil => simp [startsWithMark]
  | cons c rest =>
    have hc := (h c rfl).2
    simp only [List.mem_cons, List.not_mem_nil, or_false, not_or] at hc
    simp [startsWithMark, hc]

theorem ends_of_not (hdigit : ¬ startsWithDigit rest = true)
    (hon : ¬ (rest.head? = some '.' ∨ startsWithMark rest)) : Ends rest := by
  rintro c hc
  cases rest with
  | nil => cases hc
  | cons d rest =>
    cases hc
    simp only [startsWithMark, List.head?_cons, Option.any_some, Option.some.injEq, not_or,
      Bool.or_eq_true, beq_iff_eq] at hon
    simp only [startsWithDigit, List.head?_cons, Option.any_some, Bool.not_eq_true] at hdigit
    simp [hdigit, hon]

/-- Digits that fit are all read. -/
theorem readDigits_append (hds : ∀ c ∈ ds, isDigit c = true)
    (hfits : Nat.ofDigitChars 10 ds value ≤ Decimal.maxDigits)
    (hrest : startsWithDigit rest = false) :
    readDigits value count (ds ++ rest) =
      (Nat.ofDigitChars 10 ds value, count + ds.length, rest) := by
  induction ds generalizing value count with
  | nil =>
    cases rest with
    | nil => rfl
    | cons c rest =>
      have hc : ¬ (isDigit c ∧ 10 * value + digitValue c ≤ Decimal.maxDigits) := by
        intro hc
        rw [show isDigit c = false from hrest] at hc
        exact Bool.false_ne_true hc.1
      rw [List.nil_append, readDigits, if_neg hc]
      rfl
  | cons d ds ih =>
    rw [ofDigitChars_cons] at hfits ⊢
    have hd : isDigit d ∧ 10 * value + digitValue d ≤ Decimal.maxDigits :=
      ⟨hds d List.mem_cons_self, le_trans (le_ofDigitChars ds _) hfits⟩
    rw [List.cons_append, readDigits, if_pos hd,
      ih (fun c hc => hds c (List.mem_cons_of_mem _ hc)) hfits, List.length_cons,
      Nat.add_right_comm, Nat.add_assoc]

/-- What was read is digits, and their number fits. -/
theorem exists_of_readDigits {m : Nat} (h : readDigits value count t = (n, m, rest))
    (hvalue : value ≤ Decimal.maxDigits) :
    ∃ ds, t = ds ++ rest ∧ (∀ c ∈ ds, isDigit c = true) ∧ n = Nat.ofDigitChars 10 ds value ∧
      n ≤ Decimal.maxDigits := by
  induction t generalizing value count with
  | nil =>
    cases h
    exact ⟨[], rfl, by simp, rfl, hvalue⟩
  | cons c t ih =>
    rw [readDigits] at h
    split_ifs at h with hc
    · obtain ⟨ds, rfl, hds, rfl, hfits⟩ := ih h hc.2
      refine ⟨c :: ds, rfl, ?_, ?_, hfits⟩
      · exact List.forall_mem_cons.mpr ⟨hc.1, hds⟩
      · rw [ofDigitChars_cons]
    · cases h
      exact ⟨[], rfl, by simp, rfl, hvalue⟩

/-- A fraction starts with a point, and an exponent with a mark. -/
theorem exists_mark {f e : Text} (hf : Fraction f) (he : Exponent e) (hne : f ++ e ≠ []) :
    ∃ c u, f ++ e = c :: u ∧ c ∈ ['.', 'e', 'E'] := by
  cases hf with
  | point _ => exact ⟨_, _, rfl, List.mem_cons_self⟩
  | none =>
    cases he with
    | none => exact absurd rfl hne
    | mark hmark _ _ => exact ⟨_, _, rfl, List.mem_cons_of_mem _ hmark⟩

/-! ## Decimals -/

/-- What was read is a natural number. -/
def IsNatural (r : Number × Text) : Prop := ∃ n, r.1 = .natural n

theorem not_isNatural_of_ofDecimal {d : Decimal} {r : Number × Text}
    (h : ofDecimal d t = .ok r) : ¬ IsNatural r := by
  rw [ofDecimal] at h
  split_ifs at h
  cases h
  rintro ⟨n, hn⟩
  cases hn

theorem not_isNatural_of_readExponent {d : Decimal} {r : Number × Text}
    (h : readExponent d t = .ok r) : ¬ IsNatural r := by
  simp only [readExponent] at h
  split_ifs at h <;> exact not_isNatural_of_ofDecimal h

theorem not_isNatural_of_readEnd {d : Decimal} {r : Number × Text}
    (h : readEnd d t = .ok r) : ¬ IsNatural r := by
  rw [readEnd] at h
  split_ifs at h
  · exact not_isNatural_of_readExponent h
  · exact not_isNatural_of_ofDecimal h

theorem not_isNatural_of_readFraction {d : Decimal} {r : Number × Text}
    (h : readFraction d t = .ok r) : ¬ IsNatural r := by
  simp only [readFraction] at h
  split_ifs at h
  exact not_isNatural_of_readEnd h

theorem not_isNatural_of_readTail {d : Decimal} {r : Number × Text}
    (h : readTail d t = .ok r) : ¬ IsNatural r := by
  unfold readTail at h
  split at h
  · exact not_isNatural_of_readFraction h
  · exact not_isNatural_of_readEnd h

/-- A number behind a sign is no natural number. -/
theorem not_isNatural_of_read_true {r : Number × Text} (h : read true t = .ok r) :
    ¬ IsNatural r := by
  rw [read] at h
  split_ifs at h
  rcases hread : readDigits 0 0 t with ⟨m, k, u⟩
  simp only [hread] at h
  split_ifs at h
  · exact not_isNatural_of_readTail h
  · exact not_isNatural_of_readTail h
  · cases h
    rintro ⟨n, hn⟩
    simp only [ofInteger, Bool.not_true, Bool.false_eq_true, if_false] at hn
    split_ifs at hn

/-! ## Natural numbers -/

theorem startsWithDigit_of_read {isNegative : Bool} {r : Number × Text}
    (h : read isNegative t = .ok r) : startsWithDigit t = true := by
  rw [read] at h
  split_ifs at h with _ hstart
  simpa using hstart

/-- The digits of a natural number of 64 bits are read as that number. -/
theorem read_toDigits (hn : n ≤ Decimal.maxDigits) (hrest : Ends rest) :
    read false (Nat.toDigits 10 n ++ rest) = .ok (.natural n, rest) := by
  have hne : (Nat.toDigits 10 n ++ rest).isEmpty = false := by simp
  have hstart : startsWithDigit (Nat.toDigits 10 n ++ rest) = true :=
    startsWithDigit_append Nat.toDigits_ne_nil isDigit_of_mem_toDigits rest
  have hzero : ¬ ((Nat.toDigits 10 n ++ rest).head? = some '0' ∧
      startsWithDigit ((Nat.toDigits 10 n ++ rest).drop 1)) := by
    rintro ⟨hhead, hnext⟩
    rw [List.head?_append_of_ne_nil _ Nat.toDigits_ne_nil] at hhead
    obtain rfl : n = 0 := by
      by_contra hn
      exact head?_toDigits_ne_zero (Nat.pos_of_ne_zero hn) hhead
    exact absurd hnext (Bool.eq_false_iff.mp hrest.not_startsWithDigit)
  have hread : readDigits 0 0 (Nat.toDigits 10 n ++ rest) =
      (n, 0 + (Nat.toDigits 10 n).length, rest) := by
    rw [readDigits_append isDigit_of_mem_toDigits
      (Nat.ofDigitChars_ten_toDigits.trans_le hn) hrest.not_startsWithDigit,
      Nat.ofDigitChars_ten_toDigits]
  rw [read, hne, hstart, if_neg hzero, hread]
  simp only [hrest.not_startsWithDigit, if_neg hrest.not_goes_on]
  rfl

/-- What is read as a natural number is digits that fit, and the number ends behind them. -/
theorem read_eq_natural (h : read false t = .ok (.natural n, rest)) :
    ∃ ds, t = ds ++ rest ∧ (∀ c ∈ ds, isDigit c = true) ∧ n = Nat.ofDigitChars 10 ds 0 ∧
      n ≤ Decimal.maxDigits ∧ Ends rest := by
  rw [read] at h
  split_ifs at h
  rcases hread : readDigits 0 0 t with ⟨m, k, r⟩
  simp only [hread] at h
  split_ifs at h with hdigit hon
  · exact absurd ⟨n, rfl⟩ (not_isNatural_of_readTail h)
  · exact absurd ⟨n, rfl⟩ (not_isNatural_of_readTail h)
  · cases h
    obtain ⟨ds, ht, hds, hm, hfits⟩ := exists_of_readDigits hread (Nat.zero_le _)
    exact ⟨ds, ht, hds, hm, hfits, ends_of_not hdigit hon⟩

end UrlFilter.Json.Number
