import Mathlib.Data.List.Basic
import UrlFilter.Proofs.Text

/-!
# Texts with other letters

A text can be read before or after its characters are mapped to others, and the result is the same,
if the map leaves the characters alone that the reader looks for.  A map *keeps* a character if it
takes this one to itself and no other one to it.  Cutting a text at a character that is kept, or
testing it for a piece made of such characters, commutes with the map.  So two texts with the same
image are cut alike.

*Lower case.*  The map used here takes the letters of ASCII to lower case.  It keeps every character
that is no letter (`keeps_asciiLower`).  What does not tell the two forms of the twenty-six letters
apart does not tell any character from its lower case (`apply_asciiLower`), so that one evaluation
settles this for each property of characters.
-/

namespace UrlFilter.Text

/-! ## Maps of characters -/

/-- A map takes a character to itself, and no other one to it. -/
def Keeps (f : Char → Char) (c : Char) : Prop := ∀ d, f d = c ↔ d = c

section

variable {f : Char → Char} {c : Char} {p : Text}

theorem map_eq_iff_of_keeps (hp : ∀ c ∈ p, Keeps f c) {t : Text} : t.map f = p ↔ t = p := by
  induction p generalizing t with
  | nil => exact List.map_eq_nil_iff
  | cons c p ih =>
      obtain ⟨hc, hp⟩ := List.forall_mem_cons.mp hp
      cases t with
      | nil => simp
      | cons d t => rw [List.map_cons, List.cons.injEq, List.cons.injEq, hc d, ih hp]

theorem mem_map_of_keeps (hc : Keeps f c) {t : Text} : c ∈ t.map f ↔ c ∈ t := by
  simp only [List.mem_map, hc _, exists_eq_right]

theorem head?_map_of_keeps (hc : Keeps f c) (t : Text) :
    (t.map f).head? = some c ↔ t.head? = some c := by
  simp only [List.head?_map, Option.map_eq_some_iff, hc _, exists_eq_right]

theorem getLast?_map_of_keeps (hc : Keeps f c) (t : Text) :
    (t.map f).getLast? = some c ↔ t.getLast? = some c := by
  simp only [List.getLast?_map, Option.map_eq_some_iff, hc _, exists_eq_right]

theorem occursIn_map (hp : ∀ c ∈ p, Keeps f c) (t : Text) :
    occursIn p (t.map f) = occursIn p t := by
  rw [Bool.eq_iff_iff, occursIn_iff, occursIn_iff, List.infix_map_iff]
  constructor
  · rintro ⟨s, hs, hmap⟩
    rwa [(map_eq_iff_of_keeps hp).mp hmap.symm] at hs
  · intro h
    exact ⟨p, h, ((map_eq_iff_of_keeps hp).mpr rfl).symm⟩

theorem isPrefixOf?_map (hp : ∀ c ∈ p, Keeps f c) (t : Text) :
    p.isPrefixOf? (t.map f) = (p.isPrefixOf? t).map (List.map f) := by
  ext rest
  simp only [Option.map_eq_some_iff, List.isPrefixOf?_eq_some_iff_append_eq]
  constructor
  · intro h
    obtain ⟨a, b, rfl, ha, hb⟩ := List.map_eq_append_iff.mp h.symm
    exact ⟨b, by rw [(map_eq_iff_of_keeps hp).mp ha], hb⟩
  · rintro ⟨b, rfl, hb⟩
    rw [List.map_append, (map_eq_iff_of_keeps hp).mpr rfl, hb]

theorem splitAtLast_map (hc : Keeps f c) (t : Text) :
    splitAtLast c (t.map f) = (splitAtLast c t).map (Prod.map (List.map f) (List.map f)) := by
  induction t with
  | nil => rfl
  | cons d t ih =>
      rw [List.map_cons, splitAtLast, splitAtLast, ih]
      cases splitAtLast c t with
      | some cut => rfl
      | none =>
          simp only [Option.map_none, hc d]
          split
          · rfl
          · rfl

theorem splitOn_map (hc : Keeps f c) (t : Text) :
    (t.map f).splitOn c = (t.splitOn c).map (List.map f) := by
  induction t with
  | nil => rfl
  | cons d t ih =>
      have hbeq : (f d == c) = (d == c) := by
        rw [Bool.eq_iff_iff, beq_iff_eq, beq_iff_eq, hc d]
      rw [List.map_cons, List.splitOn_cons_eq_if_modifyHead, List.splitOn_cons_eq_if_modifyHead,
        hbeq, ih]
      split
      · rfl
      · cases t.splitOn c with
        | nil => rfl
        | cons piece pieces => rfl

theorem trimStart_map (hf : ∀ c, isBlank (f c) = isBlank c) (t : Text) :
    trimStart (t.map f) = (trimStart t).map f := by
  have hcomp : isBlank ∘ f = isBlank := funext hf
  rw [trimStart, List.dropWhile_map, hcomp, trimStart]

theorem trimEnd_map (hf : ∀ c, isBlank (f c) = isBlank c) (t : Text) :
    trimEnd (t.map f) = (trimEnd t).map f := by
  rw [trimEnd_eq_reverse, ← List.map_reverse, trimStart_map hf, ← List.map_reverse,
    ← trimEnd_eq_reverse]

theorem trim_map (hf : ∀ c, isBlank (f c) = isBlank c) (t : Text) :
    trim (t.map f) = (trim t).map f := by
  rw [trim, trimStart_map hf, trimEnd_map hf, trim]

end

/-! ## Texts that a map makes equal -/

section

variable {f : Char → Char} {t t' : Text}

theorem exists_getElem?_of_map_eq (h : t.map f = t'.map f) {i : Nat} {c : Char}
    (hc : t[i]? = some c) : ∃ c', t'[i]? = some c' ∧ f c' = f c := by
  have hi := congrArg (fun s => s[i]?) h
  simp only [List.getElem?_map, hc, Option.map_some] at hi
  exact Option.map_eq_some_iff.mp hi.symm

theorem length_eq_of_map_eq (h : t.map f = t'.map f) : t.length = t'.length := by
  simpa only [List.length_map] using congrArg List.length h

/-- What is cut off one text is cut off the other. -/
theorem exists_eq_append_of_map_eq {a b : Text} (h : (a ++ b).map f = t'.map f) :
    ∃ a' b', t' = a' ++ b' ∧ a.map f = a'.map f ∧ b.map f = b'.map f := by
  rw [List.map_append] at h
  obtain ⟨a', b', rfl, ha, hb⟩ := List.map_eq_append_iff.mp h.symm
  exact ⟨a', b', rfl, ha.symm, hb.symm⟩

theorem mem_of_map_eq {c : Char} (hc : Keeps f c) (h : t.map f = t'.map f) (ht : c ∈ t') :
    c ∈ t := by
  rw [← mem_map_of_keeps hc, h, mem_map_of_keeps hc]
  exact ht

/-- Texts of characters that are kept are equal already. -/
theorem eq_of_map_eq (ht : ∀ c ∈ t, Keeps f c) (h : t.map f = t'.map f) : t' = t := by
  rw [(map_eq_iff_of_keeps ht).mpr rfl] at h
  exact (map_eq_iff_of_keeps ht).mp h.symm

end

/-! ## Lower case -/

/-- What is the same for the twenty-six letters in either case is the same for every character and
its lower case. -/
theorem apply_asciiLower {α : Type} {f : Char → α}
    (h : ∀ k < 26, f (Char.ofNat (0x61 + k)) = f (Char.ofNat (0x41 + k))) (c : Char) :
    f (asciiLower c) = f c := by
  rw [asciiLower]
  split
  · next hc =>
      have hfirst : 0x41 ≤ c.toNat := hc.1
      have hlast : c.toNat ≤ 0x5A := hc.2
      have hk := h (c.toNat - 0x41) (by omega)
      rwa [show 0x61 + (c.toNat - 0x41) = c.toNat + 32 by omega, Nat.add_sub_cancel' hfirst,
        Char.ofNat_toNat] at hk
  · rfl

theorem isAlpha_asciiLower (c : Char) : (asciiLower c).isAlpha = c.isAlpha :=
  apply_asciiLower (by decide) c

theorem isBlank_asciiLower (c : Char) : isBlank (asciiLower c) = isBlank c :=
  apply_asciiLower (by decide) c

/-- Lower case twice is lower case once. -/
@[simp] theorem asciiLower_asciiLower (c : Char) : asciiLower (asciiLower c) = asciiLower c :=
  apply_asciiLower (by decide) c

theorem keeps_asciiLower {c : Char} (hc : c.isAlpha = false) : Keeps asciiLower c := by
  intro d
  rcases isUpper_or_asciiLower_eq d with hupper | hlower
  · have hd : d.isAlpha = true := (Bool.or_eq_true ..).mpr (.inl hupper)
    constructor
    · rintro rfl
      rw [isAlpha_asciiLower, hd] at hc
      cases hc
    · rintro rfl
      rw [hd] at hc
      cases hc
  · rw [hlower]

theorem keeps_asciiLower_of_all {p : Text} (hp : (p.all fun c => !c.isAlpha) = true) :
    ∀ c ∈ p, Keeps asciiLower c := by
  intro c hc
  exact keeps_asciiLower (by simpa using List.all_eq_true.mp hp c hc)

theorem asciiLower_lt_iff {c : Char} : (asciiLower c).toNat < 128 ↔ c.toNat < 128 := by
  rw [← decide_eq_decide]
  exact apply_asciiLower (f := fun c => decide (c.toNat < 128)) (by decide) c

/-- A text that is equal in lower case to one in ASCII is in ASCII. -/
theorem ascii_of_map_eq {t t' : Text} (h : t.map asciiLower = t'.map asciiLower)
    (ht : ∀ c ∈ t, c.toNat < 128) : ∀ c ∈ t', c.toNat < 128 := by
  have hall : ∀ c ∈ t.map asciiLower, c.toNat < 128 :=
    List.forall_mem_map.mpr fun c hc => asciiLower_lt_iff.mpr (ht c hc)
  rw [h, List.forall_mem_map] at hall
  exact fun c hc => asciiLower_lt_iff.mp (hall c hc)

theorem eqIgnoringAsciiCase_iff {s t : Text} :
    eqIgnoringAsciiCase s t = true ↔ s.map asciiLower = t.map asciiLower := beq_iff_eq

theorem eqIgnoringAsciiCase_map (t : Text) : eqIgnoringAsciiCase t (t.map asciiLower) = true := by
  rw [eqIgnoringAsciiCase_iff, List.map_map]
  exact List.map_congr_left fun c _ => (asciiLower_asciiLower c).symm

end UrlFilter.Text
