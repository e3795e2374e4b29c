import UrlFilter.Json.Quoted
import UrlFilter.Proofs.Json.Grammar

/-!
# Reading and writing strings in JSON

*Reading.*  `readQuoted` takes any spelling of a text for that text (`readQuoted_of_spells`).  It
goes piece by piece, as the spelling does: a piece spells one character, and the step reads that
character and leaves what stands behind the piece (`quotedStep_of_spellsChar`).

*Writing.*  What `quote` writes is one of the spellings (`quotes_quote`).
-/

namespace UrlFilter.Json

variable {c : Char} {n : Nat} {s t : Text}

/-! ## Units -/

theorem hexDigit?_of_hexDigit (h : HexDigit n c) : hexDigit? c = some n := by
  have hlower : ∀ n < 16, hexDigit? (Nat.digitChar n) = some n := by decide
  have hupper : ∀ n < 16, hexDigit? (Nat.digitChar n).toUpper = some n := by decide
  cases h with
  | lower hn => exact hlower n hn
  | upper hn => exact hupper n hn

theorem readUnit_of_writesUnit (h : WritesUnit n t) (rest : Text) :
    readUnit (t ++ rest) = .ok (n, rest) := by
  cases h with
  | digits hi hj hk hl =>
    simp only [readUnit, hexUnit?, List.cons_append, List.nil_append, hexDigit?_of_hexDigit hi,
      hexDigit?_of_hexDigit hj, hexDigit?_of_hexDigit hk, hexDigit?_of_hexDigit hl]

/-! ## Pieces of a string -/

/-- The number of a character is no half of a surrogate pair. -/
theorem not_surrogate (c : Char) : isTrailing c.toNat = false ∧ isLeading c.toNat = false := by
  have hc : c.toNat < 0xD800 ∨ 0xDFFF < c.toNat ∧ c.toNat < 0x110000 := c.valid
  simp only [isTrailing, isLeading, Bool.and_eq_false_iff, decide_eq_false_iff_not]
  omega

theorem readEscape_of_unit (h : WritesUnit c.toNat t) (rest : Text) :
    readEscape ('u' :: (t ++ rest)) = .ok (c, rest) := by
  obtain ⟨htrailing, hleading⟩ := not_surrogate c
  simp [readEscape, readNumbered, readUnit_of_writesUnit h, htrailing, hleading,
    Char.ofNat_toNat]

theorem readEscape_of_pair {high low : Nat} {t u : Text}
    (hc : c.toNat = 0x10000 + 1024 * high + low) (hlow : low < 1024)
    (ht : WritesUnit (0xD800 + high) t) (hu : WritesUnit (0xDC00 + low) u) (rest : Text) :
    readEscape ('u' :: (t ++ '\\' :: 'u' :: (u ++ rest))) = .ok (c, rest) := by
  have hvalid : c.toNat < 0xD800 ∨ 0xDFFF < c.toNat ∧ c.toNat < 0x110000 := c.valid
  have htrailing : isTrailing (0xD800 + high) = false := by
    simp only [isTrailing, Bool.and_eq_false_iff, decide_eq_false_iff_not]
    omega
  have hleading : isLeading (0xD800 + high) = true := by
    simp only [isLeading, Bool.and_eq_true, decide_eq_true_eq]
    omega
  have hsecond : isTrailing (0xDC00 + low) = true := by
    simp only [isTrailing, Bool.and_eq_true, decide_eq_true_eq]
    omega
  have hnumber : (0xD800 + high - 0xD800) * 1024 + (0xDC00 + low - 0xDC00) + 0x10000 =
      c.toNat := by omega
  have hpair : pairChar (0xD800 + high) (0xDC00 + low) = c := by
    rw [pairChar, hnumber, Char.ofNat_toNat]
  simp [readEscape, readNumbered, readTrailing, readUnit_of_writesUnit ht,
    readUnit_of_writesUnit hu, htrailing, hleading, hsecond, hpair]

theorem readEscape_of_letter {e : Char} (h : (e, c) ∈ letters) (rest : Text) :
    readEscape (e :: rest) = .ok (c, rest) := by
  simp only [letters, List.mem_cons, Prod.mk.injEq, List.not_mem_nil, or_false] at h
  rcases h with ⟨rfl, rfl⟩ | ⟨rfl, rfl⟩ | ⟨rfl, rfl⟩ | ⟨rfl, rfl⟩ | ⟨rfl, rfl⟩ | ⟨rfl, rfl⟩ |
    ⟨rfl, rfl⟩ | ⟨rfl, rfl⟩ <;> rfl

theorem SpellsChar.ne_nil (h : SpellsChar c t) : t ≠ [] := by
  cases h <;> exact List.cons_ne_nil _ _

/-- A step of the reader takes the spelling of a character, and no more. -/
theorem quotedStep_of_spellsChar (h : SpellsChar c t) (before rest : Text) :
    quotedStep before (t ++ rest) = .ok (.more (c :: before) rest) := by
  cases h with
  | plain hspace hquote hback =>
    rw [List.cons_append, List.nil_append, quotedStep]
    · rw [if_neg (Char.not_lt.mpr hspace)]
    · exact hquote
    · exact hback
  | letter he => simp [quotedStep, readEscape_of_letter he]
  | unit ht => simp [quotedStep, readEscape_of_unit ht]
  | pair hc hlow ht hu => simp [quotedStep, readEscape_of_pair hc hlow ht hu]

/-! ## Strings -/

/-- Whatever was read before, the reader goes on over the whole spelling of a text. -/
theorem loop_quotedStep_of_spells (h : Spells s t) (before rest : Text) :
    Text.loop .endInString quotedStep before (t ++ '"' :: rest) =
      .ok (before.reverse ++ s, rest) := by
  induction h generalizing before with
  | nil =>
    rw [List.append_nil]
    exact Text.loop_of_done rfl
  | @cons c s t u hc hs ih =>
    have hshorter : (u ++ '"' :: rest).length < (t ++ (u ++ '"' :: rest)).length := by
      have hpos : 0 < t.length := List.length_pos_iff.mpr hc.ne_nil
      simp only [List.length_append]
      omega
    rw [List.append_assoc, Text.loop_of_more (quotedStep_of_spellsChar hc before _) hshorter,
      ih (c :: before)]
    simp

/-- Every spelling of a text is read as that text. -/
theorem readQuoted_of_spells (h : Spells s t) (rest : Text) :
    readQuoted (t ++ '"' :: rest) = .ok (s, rest) :=
  loop_quotedStep_of_spells h [] rest

/-! ## Writing -/

theorem writesUnit_control (h : c < ' ') :
    WritesUnit c.toNat ['0', '0', Nat.digitChar (c.toNat / 16), Nat.digitChar (c.toNat % 16)] := by
  have hc : c.toNat < 32 := h
  have hzero : HexDigit 0 '0' := .lower (by omega)
  have hhigh : HexDigit (c.toNat / 16) (Nat.digitChar (c.toNat / 16)) := .lower (by omega)
  have hlow : HexDigit (c.toNat % 16) (Nat.digitChar (c.toNat % 16)) := .lower (by omega)
  have hsum : 4096 * 0 + 256 * 0 + 16 * (c.toNat / 16) + c.toNat % 16 = c.toNat := by omega
  have hunit := WritesUnit.digits hzero hzero hhigh hlow
  rwa [hsum] at hunit

theorem spellsChar_quoteChar (c : Char) : SpellsChar c (quoteChar c) := by
  unfold quoteChar
  split_ifs with hmark hspace hb ht hn hf hr
  · rcases hmark with rfl | rfl <;> exact .letter (by decide)
  · exact .plain hspace (fun hc => hmark (.inl hc)) fun hc => hmark (.inr hc)
  · exact hb ▸ .letter (by decide)
  · exact ht ▸ .letter (by decide)
  · exact hn ▸ .letter (by decide)
  · exact hf ▸ .letter (by decide)
  · exact hr ▸ .letter (by decide)
  · exact .unit (writesUnit_control (Char.not_le.mp hspace))

theorem spells_flatMap_quoteChar (t : Text) : Spells t (t.flatMap quoteChar) := by
  induction t with
  | nil => exact .nil
  | cons c t ih => exact .cons (spellsChar_quoteChar c) ih

/-- A text is written as a string. -/
theorem quotes_quote (t : Text) : Quotes t (quote t) := .mk (spells_flatMap_quoteChar t)

end UrlFilter.Json
