import UrlFilter.Proofs.Unicode.Lowercase

/-!
# The lower case of a piece of a text

Every character but one is taken to lower case by itself.  So the lower case of a text holds the
lower case of each piece of it, as long as the piece is without a capital sigma.  That letter looks
around: its lower case is a final sigma behind a cased character and in front of none.

*Between two texts.*  `lowercaseBetween before after t` is the lower case of `t` where it stands
between two other texts.  It is the lower case of `t` alone if the neighbours that a sigma looks at
are part of `t` (`lowercaseBetween_append_of_settled`).

*Settled sigmas.*  A sigma is settled by the text that it stands in if one neighbour decides its
form, or if both are there (`SettlesSigma`).  If one is not, a letter in front of the text or behind
it changes this sigma, and changes no other one back.  One of the two forms is then rarer than in
the lower case of the text alone, so that is no piece of the whole any more.  Hence settled sigmas
are all that is needed, and they are needed (`sigmasSettled_iff`).
-/

namespace UrlFilter.Unicode

/-! ## Between two texts -/

/-- A text in lower case that stands between two others, the first of which is given in
reverse. -/
def lowercaseBetween (before after : Text) : Text → Text
  | [] => []
  | c :: r =>
    (if c = 'Σ' then [lowercaseSigma before (r ++ after)] else lowercaseChar c) ++
      lowercaseBetween (c :: before) after r

theorem lowercaseBetween_sigma (before after t : Text) :
    lowercaseBetween before after ('Σ' :: t) =
      lowercaseSigma before (t ++ after) :: lowercaseBetween ('Σ' :: before) after t := rfl

theorem lowercaseAfter_eq (before t : Text) :
    lowercaseAfter before t = lowercaseBetween before [] t := by
  induction t generalizing before with
  | nil => rfl
  | cons c t ih => rw [lowercaseAfter, lowercaseBetween, ih, List.append_nil]

theorem lowercaseBetween_append (before after s t : Text) :
    lowercaseBetween before after (s ++ t) =
      lowercaseBetween before (t ++ after) s ++ lowercaseBetween (s.reverse ++ before) after t := by
  induction s generalizing before with
  | nil => rfl
  | cons c s ih => simp [lowercaseBetween, ih]

/-- The lower case of a text in three pieces. -/
theorem lowercase_append (a t b : Text) :
    lowercase (a ++ (t ++ b)) = lowercaseBetween [] (t ++ b) a ++
      (lowercaseBetween a.reverse b t ++ lowercaseBetween (t.reverse ++ a.reverse) [] b) := by
  simp [lowercase, lowercaseAfter_eq, lowercaseBetween_append]

/-! ## Neighbours -/

/-- The first character of a text that is not case-ignorable. -/
def neighbour? (t : Text) : Option Char := (t.dropWhile isCaseIgnorable).head?

theorem startsCased_eq (t : Text) : startsCased t = (neighbour? t).any isCased := rfl

theorem neighbour?_append (s t : Text) :
    neighbour? (s ++ t) = (neighbour? s).or (neighbour? t) := by
  rw [neighbour?, neighbour?, List.dropWhile_append]
  cases s.dropWhile isCaseIgnorable with
  | nil => rfl
  | cons c r => rfl

theorem startsCased_append {s : Text} (t : Text) (h : startsCased s = true) :
    startsCased (s ++ t) = true := by
  rw [startsCased_eq] at h
  rw [startsCased_eq, neighbour?_append]
  cases hs : neighbour? s with
  | none => simp [hs] at h
  | some c => simpa [hs] using h

/-! ## Settled sigmas -/

/-- The form of a capital sigma between two texts is the same whatever stands around them.  The text
before it is given in reverse. -/
def SettlesSigma (before after : Text) : Prop :=
  (∃ c ∈ neighbour? before, isCased c = false) ∨ (∃ c ∈ neighbour? after, isCased c = true) ∨
    ((neighbour? before).isSome = true ∧ (neighbour? after).isSome = true)

/-- Every capital sigma of a text has its form from this text alone. -/
def SigmasSettled (t : Text) : Prop :=
  ∀ before after, t = before ++ 'Σ' :: after → SettlesSigma before.reverse after

theorem sigmasSettled_iff_forall_lt {t : Text} :
    SigmasSettled t ↔ ∀ i < t.length, t[i]? = some 'Σ' →
      SettlesSigma (t.take i).reverse (t.drop (i + 1)) := by
  constructor
  · intro h i _ hi
    obtain ⟨hlt, hsigma⟩ := List.getElem?_eq_some_iff.mp hi
    refine h _ _ ?_
    rw [← hsigma, ← List.drop_eq_getElem_cons hlt, List.take_append_drop]
  · rintro h before after rfl
    have hat := h before.length (by simp) (by simp)
    simpa using hat

theorem settlesSigma_iff {before after : Text} :
    SettlesSigma before after ↔ (neighbour? before).any (!isCased ·) = true ∨
      (neighbour? after).any isCased = true ∨
        ((neighbour? before).isSome = true ∧ (neighbour? after).isSome = true) := by
  simp only [SettlesSigma, Option.any_eq_true, Bool.not_eq_true', Option.mem_def]

instance (before after : Text) : Decidable (SettlesSigma before after) :=
  decidable_of_iff' _ settlesSigma_iff

instance (t : Text) : Decidable (SigmasSettled t) := decidable_of_iff' _ sigmasSettled_iff_forall_lt

/-- The form of a sigma is final behind a cased character and in front of none. -/
theorem lowercaseSigma_eq_final_iff {before after : Text} :
    lowercaseSigma before after = 'ς' ↔ startsCased before = true ∧ startsCased after = false := by
  rw [lowercaseSigma]
  cases startsCased before <;> cases startsCased after <;> decide

theorem lowercaseSigma_eq_inner_iff {before after : Text} :
    lowercaseSigma before after = 'σ' ↔ (startsCased before = true → startsCased after = true) := by
  rw [lowercaseSigma]
  cases startsCased before <;> cases startsCased after <;> decide

/-- More text behind a sigma does not make it final. -/
theorem lowercaseSigma_final_of_append {before after : Text} (b : Text)
    (h : lowercaseSigma before (after ++ b) = 'ς') : lowercaseSigma before after = 'ς' := by
  rw [lowercaseSigma_eq_final_iff] at h ⊢
  obtain ⟨hbefore, hafter⟩ := h
  refine ⟨hbefore, ?_⟩
  cases hcased : startsCased after with
  | false => rfl
  | true =>
      rw [startsCased_append b hcased] at hafter
      cases hafter

/-- More text in front of a sigma does not keep it from being final. -/
theorem lowercaseSigma_inner_of_append {before after : Text} (a : Text)
    (h : lowercaseSigma (before ++ a) after = 'σ') : lowercaseSigma before after = 'σ' := by
  rw [lowercaseSigma_eq_inner_iff] at h ⊢
  intro hbefore
  exact h (startsCased_append a hbefore)

/-- What stands around a settled sigma does not change its form. -/
theorem lowercaseSigma_append {before after : Text} (h : SettlesSigma before after) (a b : Text) :
    lowercaseSigma (before ++ a) (after ++ b) = lowercaseSigma before after := by
  have hsame : (startsCased (before ++ a) && !startsCased (after ++ b)) =
      (startsCased before && !startsCased after) := by
    simp only [startsCased_eq, neighbour?_append]
    rcases h with ⟨c, hc, hcased⟩ | ⟨c, hc, hcased⟩ | ⟨hbefore, hafter⟩
    · simp [Option.mem_def.mp hc, hcased]
    · simp [Option.mem_def.mp hc, hcased]
    · rw [Option.or_of_isSome hbefore, Option.or_of_isSome hafter]
  rw [lowercaseSigma, lowercaseSigma, hsame]

/-- Where a sigma is not settled, a letter behind the text takes a final form away, or a letter in
front of it takes the other form away. -/
theorem lowercaseSigma_of_not_settled {before after : Text} (h : ¬ SettlesSigma before after) :
    (lowercaseSigma before after = 'ς' ∧ lowercaseSigma before (after ++ ['a']) ≠ 'ς') ∨
      (lowercaseSigma before after = 'σ' ∧ lowercaseSigma (before ++ ['a']) after ≠ 'σ') := by
  have hletter : neighbour? ['a'] = some 'a' := by decide +kernel
  have hcased : isCased 'a' = true := by decide
  simp only [SettlesSigma, not_or, not_exists, not_and, Bool.not_eq_false, Bool.not_eq_true] at h
  obtain ⟨hbefore, hafter, hboth⟩ := h
  simp only [ne_eq, lowercaseSigma_eq_final_iff, lowercaseSigma_eq_inner_iff, startsCased_eq,
    neighbour?_append, hletter]
  cases hb : neighbour? before with
  | some c =>
      have hc : isCased c = true := hbefore c hb
      have hnone : neighbour? after = none := by simpa [hb] using hboth
      left
      simp [hc, hnone, hcased]
  | none =>
      have hany : (neighbour? after).any isCased = false := by
        cases ha : neighbour? after with
        | none => rfl
        | some d => exact hafter d ha
      right
      simp [hany, hcased]

/-! ## Pieces -/

/-- What stands around a text does not change its lower case if its sigmas are settled. -/
theorem lowercaseBetween_append_of_settled {before t : Text}
    (h : ∀ x y, t = x ++ 'Σ' :: y → SettlesSigma (x.reverse ++ before) y) (a b : Text) :
    lowercaseBetween (before ++ a) b t = lowercaseBetween before [] t := by
  induction t generalizing before with
  | nil => rfl
  | cons c t ih =>
      have htail := @ih (c :: before) fun x y hxy => by
        simpa using h (c :: x) y (by rw [hxy, List.cons_append])
      rw [lowercaseBetween, lowercaseBetween, ← List.cons_append, htail, List.append_nil]
      split
      · next hc =>
          have hsigma : SettlesSigma before t := h [] t (by rw [hc, List.nil_append])
          rw [lowercaseSigma_append hsigma]
      · rfl

theorem lowercase_infix_of_settled {t : Text} (h : SigmasSettled t) (a b : Text) :
    lowercase t <:+: lowercase (a ++ (t ++ b)) := by
  have hsettled : ∀ x y, t = x ++ 'Σ' :: y → SettlesSigma (x.reverse ++ []) y := by
    intro x y hxy
    rw [List.append_nil]
    exact h x y hxy
  have hbetween : lowercaseBetween a.reverse b t = lowercase t := by
    rw [lowercase, lowercaseAfter_eq]
    exact lowercaseBetween_append_of_settled hsettled a.reverse b
  rw [lowercase_append, hbetween]
  exact List.infix_append' ..

section

variable {a b : Text} {x : Char}

/-- Texts around another one that never bring a form of sigma about take it away only. -/
theorem count_lowercaseBetween_le
    (h : ∀ before after, lowercaseSigma (before ++ a) (after ++ b) = x →
      lowercaseSigma before after = x) (before after t : Text) :
    (lowercaseBetween (before ++ a) (after ++ b) t).count x ≤
      (lowercaseBetween before after t).count x := by
  induction t generalizing before with
  | nil => exact Nat.le_refl _
  | cons c t ih =>
      rw [lowercaseBetween, lowercaseBetween, List.count_append, List.count_append,
        ← List.cons_append]
      refine Nat.add_le_add ?_ (ih (c :: before))
      split
      · rw [← List.append_assoc, List.count_singleton, List.count_singleton]
        have hhere := h before (t ++ after)
        split
        · next hx => simp [hhere (by simpa using hx)]
        · exact Nat.zero_le _
      · exact Nat.le_refl _

/-- If they take it away from one sigma, it is rarer than before. -/
theorem count_lowercaseBetween_lt
    (h : ∀ before after, lowercaseSigma (before ++ a) (after ++ b) = x →
      lowercaseSigma before after = x) {s t : Text}
    (hwas : lowercaseSigma s.reverse t = x) (hnow : lowercaseSigma (s.reverse ++ a) (t ++ b) ≠ x) :
    (lowercaseBetween a b (s ++ 'Σ' :: t)).count x <
      (lowercaseBetween [] [] (s ++ 'Σ' :: t)).count x := by
  have hs := count_lowercaseBetween_le h [] ('Σ' :: t) s
  have ht := count_lowercaseBetween_le h ('Σ' :: s.reverse) [] t
  simp only [List.nil_append, List.cons_append] at hs ht
  simp only [lowercaseBetween_append, lowercaseBetween_sigma, List.cons_append, List.append_nil,
    List.count_append, hwas, List.count_cons_self, List.count_cons_of_ne hnow]
  omega

/-- So the lower case of the text alone is not found, unless the form is around elsewhere. -/
theorem not_infix_of_rarer
    (h : ∀ before after, lowercaseSigma (before ++ a.reverse) (after ++ b) = x →
      lowercaseSigma before after = x) {s t : Text}
    (hwas : lowercaseSigma s.reverse t = x)
    (hnow : lowercaseSigma (s.reverse ++ a.reverse) (t ++ b) ≠ x)
    (hfront : ∀ after, x ∉ lowercaseBetween [] after a)
    (hback : ∀ before, x ∉ lowercaseBetween before [] b) :
    ¬ lowercase (s ++ 'Σ' :: t) <:+: lowercase (a ++ ((s ++ 'Σ' :: t) ++ b)) := by
  intro hinfix
  have hless := count_lowercaseBetween_lt h hwas hnow
  have hcount := hinfix.count_le x
  rw [lowercase_append, List.count_append, List.count_append, List.count_eq_zero.mpr (hfront _),
    List.count_eq_zero.mpr (hback _), lowercase, lowercaseAfter_eq] at hcount
  omega

end

/-- The lower case of a text is a piece of the lower case of every text that holds it exactly if its
sigmas are settled. -/
theorem sigmasSettled_iff {t : Text} :
    SigmasSettled t ↔ ∀ a b, lowercase t <:+: lowercase (a ++ (t ++ b)) := by
  refine ⟨lowercase_infix_of_settled, fun h before after ht => ?_⟩
  by_contra hsettled
  have hletter : ∀ {x : Char}, x ≠ 'a' → ∀ before after, x ∉ lowercaseBetween before after ['a'] :=
    fun hx _ _ hmem => hx (List.mem_singleton.mp hmem)
  subst ht
  rcases lowercaseSigma_of_not_settled hsettled with ⟨hwas, hnow⟩ | ⟨hwas, hnow⟩
  · refine not_infix_of_rarer (fun x y hxy => ?_) hwas ?_ (fun _ => List.not_mem_nil)
      (fun x => hletter (by decide) x []) (h [] ['a'])
    · rw [List.reverse_nil, List.append_nil] at hxy
      exact lowercaseSigma_final_of_append ['a'] hxy
    · rwa [List.reverse_nil, List.append_nil]
  · refine not_infix_of_rarer (fun x y hxy => ?_) hwas ?_ (fun y => hletter (by decide) [] y)
      (fun _ => List.not_mem_nil) (h ['a'] [])
    · rw [List.append_nil] at hxy
      exact lowercaseSigma_inner_of_append ['a'] hxy
    · rwa [List.append_nil]

end UrlFilter.Unicode
