import UrlFilter.Json.Reader
import UrlFilter.Proofs.Json.Number
import UrlFilter.Proofs.Json.Quoted

/-!
# Reading values of JSON

What the readers for values of one type make of a text that writes any value (`Writes`).  Such a
reader takes the values of its type and refuses all others, and what it takes it takes as a whole:
it leaves the text behind the value.

* `readNatural` takes the natural numbers of 64 bits (`toOption_readNatural`).
* `readOptional` takes strings and the word `null` (`toOption_readOptional`).

Why a value is refused does not matter here, so a result is looked at without its fault.
-/

namespace UrlFilter.Json

variable {α β : Type} {c : Char} {t u w rest : Text} {v : Value}

/-! ## Results without faults -/

theorem toOption_bind (x : Except Fault α) (f : α → Except Fault β) :
    (x >>= f).toOption = x.toOption.bind fun a => (f a).toOption := by
  cases x <;> rfl

theorem toOption_map (x : Except Fault α) (f : α → β) :
    (x.map f).toOption = x.toOption.map f := by
  cases x <;> rfl

theorem toOption_eq_none_iff {x : Except Fault α} :
    x.toOption = none ↔ ∃ fault, x = .error fault := by
  cases x <;> simp [Except.toOption]

theorem toOption_eq_some_iff {x : Except Fault α} {a : α} :
    x.toOption = some a ↔ x = .ok a := by
  cases x <;> simp [Except.toOption]

theorem bind_eq_ok_iff {x : Except Fault α} {f : α → Except Fault β} {b : β} :
    x >>= f = .ok b ↔ ∃ a, x = .ok a ∧ f a = .ok b := by
  cases x with
  | error fault => exact ⟨nofun, nofun⟩
  | ok a => exact ⟨fun h => ⟨a, rfl, h⟩, fun ⟨_, h, hf⟩ => by cases h; exact hf⟩

/-- A computation that gives nothing is at fault. -/
theorem toOption_eq_none_of_ne_ok {x : Except Fault α} (h : ∀ a, x ≠ .ok a) :
    x.toOption = none := by
  cases x with
  | error fault => rfl
  | ok a => exact absurd rfl (h a)

/-! ## Blanks -/

theorem isSpace_iff : isSpace c = true ↔ c ∈ [' ', '\t', '\n', '\r'] := by
  simp [isSpace, or_assoc]

theorem skipSpaces_append (hw : Spaces w) (t : Text) : skipSpaces (w ++ t) = skipSpaces t :=
  List.dropWhile_append_of_pos fun c hc => isSpace_iff.mpr (hw c hc)

theorem skipSpaces_cons (hc : isSpace c = false) (t : Text) : skipSpaces (c :: t) = c :: t := by
  rw [skipSpaces, List.dropWhile_cons_of_neg (Bool.eq_false_iff.mp hc)]

theorem skipSpaces_eq_nil (hw : Spaces w) : skipSpaces w = [] := by
  have h := skipSpaces_append hw []
  rwa [List.append_nil] at h

/-- A number ends in front of blanks, if it ends behind them. -/
theorem Number.Ends.append (hw : Spaces w) (h : Number.Ends rest) : Number.Ends (w ++ rest) := by
  cases w with
  | nil => exact h
  | cons c w =>
    have hblank : ∀ c ∈ [' ', '\t', '\n', '\r'],
        Number.isDigit c = false ∧ c ∉ ['.', 'e', 'E'] := by simp [Number.isDigit]
    rintro d hd
    cases hd
    exact hblank c (hw c List.mem_cons_self)

/-! ## First characters -/

/-- A value may start with a character. -/
def Value.StartsWith : Value → Char → Prop
  | .null, c => c = 'n'
  | .bool true, c => c = 't'
  | .bool false, c => c = 'f'
  | .natural _, c => Number.isDigit c = true
  | .number _, c => Number.isDigit c = true ∨ c = '-'
  | .string _, c => c = '"'
  | .array _, c => c = '['
  | .object _, c => c = '\x7B'

theorem exists_digit (n : Nat) : ∃ c r, Nat.toDigits 10 n = c :: r ∧ Number.isDigit c = true := by
  obtain ⟨c, r, h⟩ := List.exists_cons_of_ne_nil (Nat.toDigits_ne_nil (n := n) (b := 10))
  exact ⟨c, r, h, Number.isDigit_of_mem_toDigits c (h ▸ List.mem_cons_self)⟩

/-- What writes a value starts as the value does. -/
theorem Writes.exists_first (h : Writes v t) : ∃ c r, t = c :: r ∧ v.StartsWith c := by
  cases h with
  | natural =>
    obtain ⟨c, r, h, hc⟩ := exists_digit _
    exact ⟨c, r, h, hc⟩
  | number h =>
    cases h with
    | negative _ _ => exact ⟨_, _, rfl, .inr rfl⟩
    | decimal _ _ _ =>
      obtain ⟨c, r, h, hc⟩ := exists_digit _
      exact ⟨c, _, by rw [h]; rfl, .inl hc⟩
  | string h =>
    cases h
    exact ⟨_, _, rfl, rfl⟩
  | _ => exact ⟨_, _, rfl, rfl⟩

theorem isSpace_of_isDigit (hc : Number.isDigit c = true) : isSpace c = false := by
  rw [Bool.eq_false_iff]
  intro hspace
  have hblank : ∀ c ∈ [' ', '\t', '\n', '\r'], Number.isDigit c = false := by simp [Number.isDigit]
  exact Bool.false_ne_true ((hblank c (isSpace_iff.mp hspace)).symm.trans hc)

theorem Value.StartsWith.not_isSpace (h : v.StartsWith c) : isSpace c = false := by
  cases v with
  | natural => exact isSpace_of_isDigit h
  | number =>
    rcases h with h | rfl
    · exact isSpace_of_isDigit h
    · rfl
  | bool b => cases b <;> cases h <;> rfl
  | _ =>
    cases h
    rfl

theorem Writes.skipSpaces_append (h : Writes v t) (hw : Spaces w) (rest : Text) :
    skipSpaces (w ++ (t ++ rest)) = t ++ rest := by
  obtain ⟨c, r, rfl, hc⟩ := h.exists_first
  rw [Json.skipSpaces_append hw]
  exact skipSpaces_cons hc.not_isSpace _

/-! ## Natural numbers -/

/-- A value as a natural number of 64 bits. -/
def Value.natural? : Value → Option UInt64
  | .natural n => if n < UInt64.size then some (UInt64.ofNat n) else none
  | _ => none

theorem Value.natural?_eq_some_iff {n : UInt64} :
    v.natural? = some n ↔ v = .natural n.toNat := by
  constructor
  · intro h
    cases v with
    | natural m =>
      rw [Value.natural?] at h
      split_ifs at h with hm
      cases h
      rw [UInt64.toNat_ofNat_of_lt' hm]
    | _ => cases h
  · rintro rfl
    rw [Value.natural?, if_pos n.toNat_lt, UInt64.ofNat_toNat]

theorem exists_of_naturalOf {expected : String} {number : Number} {n : UInt64}
    (h : naturalOf expected number = .ok n) : ∃ m, number = .natural m := by
  cases number with
  | natural m => exact ⟨m, rfl⟩
  | negative size => cases h
  | decimal d => cases h

/-- What `readNatural` gives was read as a natural number. -/
theorem exists_of_readNatural {expected : String} {r : UInt64 × Text}
    (h : readNatural expected t = .ok r) :
    ∃ n, Number.read false (skipSpaces t) = .ok (.natural n, r.2) := by
  simp only [readNatural] at h
  split at h
  · obtain ⟨p, hread, h⟩ := bind_eq_ok_iff.mp h
    obtain ⟨n, hn, -⟩ := bind_eq_ok_iff.mp h
    exact absurd (exists_of_naturalOf hn) (Number.not_isNatural_of_read_true hread)
  · split_ifs at h
    · obtain ⟨p, hread, h⟩ := bind_eq_ok_iff.mp h
      obtain ⟨n, hn, h⟩ := bind_eq_ok_iff.mp h
      obtain ⟨m, hm⟩ := exists_of_naturalOf hn
      cases h
      exact ⟨m, hm ▸ hread⟩
    · cases h

theorem readNatural_toDigits {n : Nat} (expected : String) (hn : n ≤ Decimal.maxDigits)
    (hrest : Number.Ends rest) (ht : skipSpaces t = Nat.toDigits 10 n ++ rest) :
    readNatural expected t = .ok (UInt64.ofNat n, rest) := by
  have hread := Number.read_toDigits hn hrest
  have hstart := Number.startsWithDigit_of_read hread
  simp only [readNatural, ht, hstart, hread, if_true]
  split
  · rename_i hsign
    rw [hsign] at hstart
    have hdigit : Number.isDigit '-' = true := hstart
    exact absurd hdigit (by decide)
  · rfl

/-- What writes a value is read as a natural number only where it is one, and one that fits. -/
theorem exists_of_read_writes {n : Nat} {r : Text} (h : Writes v t) (hrest : Number.Ends rest)
    (hread : Number.read false (t ++ rest) = .ok (.natural n, r)) :
    ∃ n, v = .natural n ∧ n ≤ Decimal.maxDigits := by
  have hdigit := Number.startsWithDigit_of_read hread
  obtain ⟨ds, ht, hds, hn, hfits, hr⟩ := Number.read_eq_natural hread
  cases h with
  | @natural m =>
    have hsame := Number.append_unique Number.isDigit_of_mem_toDigits hds
      hrest.not_startsWithDigit hr.not_startsWithDigit ht
    rw [← hsame.1, Nat.ofDigitChars_ten_toDigits] at hn
    exact ⟨m, rfl, hn ▸ hfits⟩
  | number h =>
    cases h with
    | negative _ _ => cases hdigit
    | decimal hf he hne =>
      obtain ⟨c, u, hmark, hc⟩ := Number.exists_mark hf he hne
      have hmarks : ∀ c ∈ ['.', 'e', 'E'], Number.isDigit c = false := by simp [Number.isDigit]
      have hstop : Number.startsWithDigit (c :: u ++ rest) = false := hmarks c hc
      rw [hmark, List.append_assoc] at ht
      obtain ⟨-, rfl⟩ := Number.append_unique Number.isDigit_of_mem_toDigits hds hstop
        hr.not_startsWithDigit ht
      exact absurd hc (hr c rfl).2
  | string h =>
    cases h
    cases hdigit
  | _ => cases hdigit

/-- `readNatural` takes the natural numbers of 64 bits. -/
theorem toOption_readNatural (expected : String) (hw : Spaces w) (h : Writes v t)
    (hrest : Number.Ends rest) :
    (readNatural expected (w ++ (t ++ rest))).toOption = v.natural?.map fun n => (n, rest) := by
  have ht := h.skipSpaces_append hw rest
  by_cases hv : ∃ n, v = .natural n ∧ n ≤ Decimal.maxDigits
  · obtain ⟨n, rfl, hn⟩ := hv
    cases h
    have hlt : n < UInt64.size := Nat.lt_of_le_sub_one (by decide) hn
    rw [readNatural_toDigits expected hn hrest ht, Value.natural?, if_pos hlt]
    rfl
  · have hnone : v.natural? = none := by
      cases v with
      | natural n =>
        have hle : ¬ n < UInt64.size := fun hn => hv ⟨n, rfl, Nat.le_sub_one_of_lt hn⟩
        rw [Value.natural?, if_neg hle]
      | _ => rfl
    rw [hnone]
    refine toOption_eq_none_of_ne_ok fun r hr => ?_
    obtain ⟨n, hread⟩ := exists_of_readNatural hr
    exact hv (exists_of_read_writes h hrest (ht ▸ hread))

/-! ## Strings -/

/-- A value as a text that may be missing. -/
def Value.optional? : Value → Option (Option Text)
  | .null => some none
  | .string s => some (some s)
  | _ => none

theorem readString_quotes {s : Text} (expected : String) (h : Quotes s t) (rest : Text) :
    readString expected (t ++ rest) = .ok (s, rest) := by
  cases h with
  | mk hs =>
    have hread := readQuoted_of_spells hs rest
    simpa [readString, skipSpaces, isSpace] using hread

theorem Value.StartsWith.of_optional?_eq_none (h : v.StartsWith c) (hv : v.optional? = none) :
    c ≠ 'n' ∧ c ≠ '"' := by
  have hdigit : Number.isDigit c = true → c ≠ 'n' ∧ c ≠ '"' := by
    intro hc
    constructor <;> rintro rfl <;> exact absurd hc (by decide)
  cases v with
  | null => cases hv
  | string => cases hv
  | natural => exact hdigit h
  | number =>
    rcases h with h | rfl
    · exact hdigit h
    · decide
  | bool b => cases b <;> cases h <;> decide
  | _ =>
    cases h
    decide

theorem toOption_readOptional_of_first {r : Text} (expected : String)
    (ht : skipSpaces t = c :: r) (hc : isSpace c = false) (hnull : c ≠ 'n') (hquote : c ≠ '"') :
    (readOptional expected t).toOption = none := by
  have hagain : skipSpaces (c :: r) = c :: r := skipSpaces_cons hc r
  simp only [readOptional, readString, ht]
  split
  · rename_i heq
    exact absurd (List.cons.inj heq).1 hnull
  · rw [hagain]
    split
    · rename_i heq
      exact absurd (List.cons.inj heq).1 hquote
    · rfl

/-- `readOptional` takes strings and the word `null`. -/
theorem toOption_readOptional (expected : String) (hw : Spaces w) (h : Writes v t) (rest : Text) :
    (readOptional expected (w ++ (t ++ rest))).toOption = v.optional?.map fun s => (s, rest) := by
  have ht := h.skipSpaces_append hw rest
  cases hv : v.optional? with
  | none =>
    obtain ⟨c, r, rfl, hc⟩ := h.exists_first
    obtain ⟨hnull, hquote⟩ := hc.of_optional?_eq_none hv
    exact toOption_readOptional_of_first expected ht hc.not_isSpace hnull hquote
  | some s =>
    cases h with
    | null =>
      cases hv
      simp only [readOptional, ht]
      rfl
    | string hs =>
      cases hv
      have hread := readString_quotes expected hs rest
      cases hs
      simp only [readOptional, ht]
      exact congrArg (fun r => (r.map fun s => (some s.1, s.2)).toOption) hread
    | _ => cases hv

/-! ## Members -/

/-- What stands in front of a member: nothing in front of the first, and a comma in front of any
other. -/
inductive Leads : Bool → Text → Prop where
  | first : Leads true []
  | comma {w : Text} : Spaces w → Leads false (w ++ [','])

theorem nextKey_first (hw : Spaces w) (t : Text) :
    nextKey true (w ++ '"' :: t) = .ok (some t) := by
  rw [nextKey, skipSpaces_append hw]
  rfl

theorem nextKey_comma {x : Text} (hx : Spaces x) (hw : Spaces w) (t : Text) :
    nextKey false (x ++ ',' :: (w ++ '"' :: t)) = .ok (some t) := by
  have hcomma : skipSpaces (x ++ ',' :: (w ++ '"' :: t)) = ',' :: (w ++ '"' :: t) := by
    rw [skipSpaces_append hx]
    rfl
  have hquote : skipSpaces (w ++ '"' :: t) = '"' :: t := by
    rw [skipSpaces_append hw]
    rfl
  simp [nextKey, hcomma, hquote, keyText, Except.map]

/-- In front of a member the next key is the one of that member. -/
theorem exists_nextKey {isFirst : Bool} {l key k : Text} (hl : Leads isFirst l) (hw : Spaces w)
    (h : Quotes key k) (rest : Text) :
    ∃ u, nextKey isFirst (l ++ (w ++ (k ++ rest))) = .ok (some u) ∧
      readQuoted u = .ok (key, rest) := by
  cases h with
  | @mk u hs =>
    have hk : ('"' :: u ++ ['"']) ++ rest = '"' :: (u ++ '"' :: rest) := by simp
    refine ⟨u ++ '"' :: rest, ?_, readQuoted_of_spells hs rest⟩
    rw [hk]
    cases hl with
    | first => exact nextKey_first hw _
    | comma hx =>
      rw [List.append_assoc]
      exact nextKey_comma hx hw _

theorem nextKey_end (isFirst : Bool) (hw : Spaces w) (rest : Text) :
    nextKey isFirst (w ++ '\x7D' :: rest) = .ok none := by
  rw [nextKey, skipSpaces_append hw]
  rfl

theorem readColon_append (hw : Spaces w) (t : Text) : readColon (w ++ ':' :: t) = .ok t := by
  rw [readColon, skipSpaces_append hw]
  rfl

theorem readEnd_of_spaces (hw : Spaces w) : readEnd w = .ok () := by
  rw [readEnd, skipSpaces_eq_nil hw]
  rfl

end UrlFilter.Json
