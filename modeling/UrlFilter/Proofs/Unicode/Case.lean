import UrlFilter.Proofs.Text.Case
import UrlFilter.Unicode.Folding
import UrlFilter.Unicode.Lowercase

/-!
# Characters and their lower case in ASCII

The properties of characters that matchers ask for do not tell a letter of ASCII from its lower
case.  Neither does lower case itself, although a capital sigma looks at its neighbours: it asks
only whether they are cased, which they are in either case (`lowercase_map_asciiLower`).
-/

namespace UrlFilter.Unicode

open Text (asciiLower apply_asciiLower)

theorem fold_asciiLower (c : Char) : fold (asciiLower c) = fold c :=
  apply_asciiLower (by decide) c

theorem fold_eq_of_asciiLower_eq {c d : Char} (h : asciiLower c = asciiLower d) :
    fold c = fold d := by
  rw [← fold_asciiLower, h, fold_asciiLower]

theorem isCased_asciiLower (c : Char) : isCased (asciiLower c) = isCased c :=
  apply_asciiLower (by decide) c

theorem isCaseIgnorable_asciiLower (c : Char) :
    isCaseIgnorable (asciiLower c) = isCaseIgnorable c :=
  apply_asciiLower (by decide +kernel) c

theorem lowercaseChar_asciiLower (c : Char) : lowercaseChar (asciiLower c) = lowercaseChar c :=
  apply_asciiLower (by decide) c

theorem startsCased_map_asciiLower (t : Text) :
    startsCased (t.map asciiLower) = startsCased t := by
  have hignorable : isCaseIgnorable ∘ asciiLower = isCaseIgnorable :=
    funext isCaseIgnorable_asciiLower
  rw [startsCased, List.dropWhile_map, hignorable, List.head?_map, Option.any_map]
  simp only [isCased_asciiLower, startsCased]

theorem lowercaseAfter_map_asciiLower (before t : Text) :
    lowercaseAfter (before.map asciiLower) (t.map asciiLower) = lowercaseAfter before t := by
  induction t generalizing before with
  | nil => rfl
  | cons c t ih =>
      have hsigma : asciiLower c = 'Σ' ↔ c = 'Σ' := Text.keeps_asciiLower (by decide) c
      rw [List.map_cons, lowercaseAfter, lowercaseAfter, ← List.map_cons, ih]
      simp only [hsigma, lowercaseSigma, startsCased_map_asciiLower, lowercaseChar_asciiLower]

/-- The lower case of a text does not depend on the case of its ASCII letters. -/
theorem lowercase_map_asciiLower (t : Text) : lowercase (t.map asciiLower) = lowercase t :=
  lowercaseAfter_map_asciiLower [] t

end UrlFilter.Unicode
