import UrlFilter.Matcher
import UrlFilter.Proofs.Unicode.Lowercase

/-!
# Texts that hold another one in either case

A substring is looked for in lower case, and a text is taken to lower case first if it holds an
upper-case character.  Any other text is searched as it is.  This is right unless the text changes
in lower case all the same, which it does if it holds a letter in title case
(`lowercase_eq_self_iff`).  Such a letter is then not found by any substring, not even by itself.
-/

namespace UrlFilter.Matcher

open Unicode

theorem accepts_ofSubstring_of_uppercase {t : Text} (h : ∃ c ∈ t, isUppercase c = true)
    (needle : Text) :
    (ofSubstring needle).accepts t = Text.occursIn (lowercase needle) (lowercase t) :=
  if_pos (List.any_eq_true.mpr h)

theorem accepts_ofSubstring_of_not_uppercase {t : Text} (h : ∀ c ∈ t, isUppercase c = false)
    (needle : Text) : (ofSubstring needle).accepts t = Text.occursIn (lowercase needle) t := by
  have hany : ¬ t.any isUppercase = true := by
    rw [Bool.not_eq_true, List.any_eq_false]
    intro c hc
    rw [h c hc]
    exact Bool.false_ne_true
  exact if_neg hany

/-- A text that holds its own lower case is in lower case, unless that is shorter. -/
theorem lowercase_eq_of_occursIn {t : Text} (h : ∀ c ∈ t, isUppercase c = false)
    (hoccurs : Text.occursIn (lowercase t) t = true) : lowercase t = t :=
  (Text.occursIn_iff.mp hoccurs).eq_of_length (length_lowercase h)

/-- A substring is found exactly where its lower case is a piece of the lower case of the text, for
every substring, if the text holds an upper-case character or no letter in title case.  In any
other text there is one that is missed. -/
theorem accepts_ofSubstring_eq_iff (t : Text) :
    (∀ needle, (ofSubstring needle).accepts t =
        Text.occursIn (lowercase needle) (lowercase t)) ↔
      (∃ c ∈ t, isUppercase c = true) ∨ ∀ c ∈ t, isTitlecase c = false := by
  by_cases hupper : ∃ c ∈ t, isUppercase c = true
  · exact iff_of_true (accepts_ofSubstring_of_uppercase hupper) (.inl hupper)
  · have hplain : ∀ c ∈ t, isUppercase c = false := by simpa using hupper
    rw [or_iff_right hupper, ← lowercase_eq_self_iff hplain]
    constructor
    · intro h
      -- The text itself is the substring that is missed.
      have hself := h t
      rw [accepts_ofSubstring_of_not_uppercase hplain,
        Text.occursIn_iff.mpr List.infix_rfl] at hself
      exact lowercase_eq_of_occursIn hplain hself
    · intro h needle
      rw [accepts_ofSubstring_of_not_uppercase hplain, h]

/-- A letter in title case is not found in itself. -/
theorem accepts_ofSubstring_titlecase :
    (ofSubstring ['\u01C5']).accepts ['\u01C5'] = false ∧
      Text.occursIn (lowercase ['\u01C5']) (lowercase ['\u01C5']) = true := by
  decide +kernel

end UrlFilter.Matcher
