import UrlFilter.Proofs.Regex.Matching

/-!
# Expressions that look at the matched piece only

Most expressions hold no test, so what they match depends on the matched piece and not on where it
stands.  Such an expression is described by the set of texts that it matches (`Describes`).

*Sets of texts.*  There is one lemma for each way to build an expression: a character, a sequence,
an optional part, and a run of characters of one set.  The lemma for runs (`describes_chars`) is
where the steps of a repetition are counted against the characters of the piece.

*Chains.*  A concatenation of many parts is a chain of sequences.  `seqOf` builds such a chain as
the reader does, and `matches_seqOf_append` cuts a match of it anywhere between two parts.
-/

namespace UrlFilter

/-- The piece of a text between two positions. -/
def Text.piece (t : Text) (i j : Nat) : Text := (t.drop i).take (j - i)

namespace Text

variable {t : Text} {i j k : Nat}

@[simp] theorem piece_self : piece t i i = [] := by simp [piece]

@[simp] theorem piece_zero : piece t 0 j = t.take j := by simp [piece]

theorem length_piece (hj : j ≤ t.length) : (piece t i j).length = j - i := by
  rw [piece, List.length_take, List.length_drop]
  omega

theorem piece_append (hij : i ≤ j) (hjk : j ≤ k) :
    piece t i j ++ piece t j k = piece t i k := by
  obtain ⟨m, rfl⟩ := Nat.exists_eq_add_of_le hij
  obtain ⟨n, rfl⟩ := Nat.exists_eq_add_of_le hjk
  rw [piece, piece, piece, Nat.add_sub_cancel_left, Nat.add_sub_cancel_left, Nat.add_assoc,
    Nat.add_sub_cancel_left, List.take_add, List.drop_drop]

/-- A text is cut in three by two positions. -/
theorem take_append_piece_append_drop (hij : i ≤ j) :
    t.take i ++ (piece t i j ++ t.drop j) = t := by
  rw [← piece_zero, ← List.append_assoc, piece_append (Nat.zero_le i) hij, piece_zero,
    List.take_append_drop]

/-- A piece can be cut wherever its text can. -/
theorem exists_cut_of_piece_eq_append {a b : Text} (hi : i ≤ k) (hk : k ≤ t.length)
    (h : piece t i k = a ++ b) :
    ∃ j, i ≤ j ∧ j ≤ k ∧ piece t i j = a ∧ piece t j k = b := by
  have hlen : a.length ≤ k - i := by
    rw [← length_piece hk, h, List.length_append]
    exact Nat.le_add_right _ _
  refine ⟨i + a.length, Nat.le_add_right _ _, by omega, ?_⟩
  have happ : piece t i (i + a.length) ++ piece t (i + a.length) k = a ++ b := by
    rw [piece_append (Nat.le_add_right _ _) (by omega), h]
  refine List.append_inj happ ?_
  rw [length_piece (by omega), Nat.add_sub_cancel_left]

theorem piece_succ {c : Char} (h : t[i]? = some c) : piece t i (i + 1) = [c] := by
  obtain ⟨hi, rfl⟩ := List.getElem?_eq_some_iff.mp h
  rw [piece, Nat.add_sub_cancel_left, List.drop_eq_getElem_cons hi]
  rfl

theorem piece_cons {c : Char} (h : t[i]? = some c) (hij : i < j) :
    piece t i j = c :: piece t (i + 1) j := by
  rw [← piece_append (Nat.le_succ i) hij, piece_succ h]
  rfl

/-- A piece of one character is the character at its position. -/
theorem piece_eq_singleton_iff {c : Char} (hij : i ≤ j) (hj : j ≤ t.length) :
    piece t i j = [c] ↔ j = i + 1 ∧ t[i]? = some c := by
  constructor
  · intro h
    have hlen := congrArg List.length h
    rw [length_piece hj, List.length_singleton] at hlen
    have hi : i < t.length := by omega
    obtain rfl : j = i + 1 := by omega
    rw [piece_succ (List.getElem?_eq_getElem hi)] at h
    exact ⟨rfl, by rw [List.getElem?_eq_getElem hi, (List.cons.inj h).1]⟩
  · rintro ⟨rfl, hc⟩
    exact piece_succ hc

end Text

namespace Regex

open Text (piece)

/-! ## Sets of texts -/

/-- An expression matches a piece of the text exactly if the piece has a property. -/
def Describes (t : Text) (r : Regex) (P : Text → Prop) : Prop :=
  ∀ i j, Matches t r i j ↔ i ≤ j ∧ j ≤ t.length ∧ P (piece t i j)

section

variable {t : Text} {r s : Regex} {P Q : Text → Prop}

theorem Describes.congr (h : Describes t r P) (hPQ : ∀ w, P w ↔ Q w) : Describes t r Q := by
  intro i j
  rw [h i j, hPQ]

theorem describes_char (set : CharSet) :
    Describes t (.char set) fun w => ∃ c, w = [c] ∧ set.mem c = true := by
  intro i j
  rw [matches_char_iff, Option.any_eq_true]
  constructor
  · rintro ⟨rfl, c, hc, hm⟩
    obtain ⟨hi, -⟩ := List.getElem?_eq_some_iff.mp hc
    exact ⟨Nat.le_succ i, hi, c, Text.piece_succ hc, hm⟩
  · rintro ⟨hij, hj, c, hw, hm⟩
    obtain ⟨rfl, hc⟩ := (Text.piece_eq_singleton_iff hij hj).mp hw
    exact ⟨rfl, c, hc, hm⟩

theorem Describes.seq (hr : Describes t r P) (hs : Describes t s Q) :
    Describes t (.seq r s) fun w => ∃ a b, w = a ++ b ∧ P a ∧ Q b := by
  intro i k
  rw [matches_seq_iff]
  constructor
  · rintro ⟨j, hrij, hsjk⟩
    obtain ⟨hij, -, hP⟩ := (hr i j).mp hrij
    obtain ⟨hjk, hk, hQ⟩ := (hs j k).mp hsjk
    exact ⟨Nat.le_trans hij hjk, hk, _, _, (Text.piece_append hij hjk).symm, hP, hQ⟩
  · rintro ⟨hik, hk, a, b, hw, hP, hQ⟩
    obtain ⟨j, hij, hjk, rfl, rfl⟩ := Text.exists_cut_of_piece_eq_append hik hk hw
    exact ⟨j, (hr i j).mpr ⟨hij, Nat.le_trans hjk hk, hP⟩, (hs j k).mpr ⟨hjk, hk, hQ⟩⟩

theorem Describes.group {numbered : Bool} (h : Describes t r P) :
    Describes t (.group numbered r) P := by
  intro i j
  rw [matches_group_iff, h i j]

theorem Times.zero_iff {step : Nat → Nat → Prop} {i j : Nat} : Times step 0 i j ↔ i = j := by
  constructor
  · intro h
    cases h
    rfl
  · rintro rfl
    exact .none

theorem Times.one_iff {step : Nat → Nat → Prop} {i j : Nat} : Times step 1 i j ↔ step i j := by
  constructor
  · intro h
    cases h with
    | some hs hr =>
        cases hr
        exact hs
  · intro h
    exact .some h .none

theorem Describes.optional (h : Describes t r P) :
    Describes t (.repeated r 0 (some 1)) fun w => w = [] ∨ P w := by
  intro i j
  rw [matches_repeated_iff]
  constructor
  · rintro ⟨hi, n, -, hn, ht⟩
    have hn1 : n ≤ 1 := hn 1 rfl
    obtain rfl | rfl : n = 0 ∨ n = 1 := by omega
    · obtain rfl := Times.zero_iff.mp ht
      exact ⟨Nat.le_refl _, hi, .inl Text.piece_self⟩
    · obtain ⟨hij, hj, hP⟩ := (h i j).mp (Times.one_iff.mp ht)
      exact ⟨hij, hj, .inr hP⟩
  · rintro ⟨hij, hj, hnil | hP⟩
    · have hlen := congrArg List.length hnil
      rw [Text.length_piece hj, List.length_nil] at hlen
      obtain rfl : i = j := by omega
      exact ⟨hj, 0, Nat.le_refl _, fun _ _ => Nat.zero_le _, .none⟩
    · refine ⟨Nat.le_trans hij hj, 1, Nat.zero_le _, ?_,
        Times.one_iff.mpr ((h i j).mpr ⟨hij, hj, hP⟩)⟩
      rintro m ⟨⟩
      exact Nat.le_refl 1

/-! ## Runs of characters -/

/-- So many characters of a set in a row are a piece of that length. -/
theorem times_char_iff {set : CharSet} {n i k : Nat} (hi : i ≤ t.length) :
    Times (Matches t (.char set)) n i k ↔
      k = i + n ∧ k ≤ t.length ∧ ∀ c ∈ piece t i k, set.mem c = true := by
  induction n generalizing i with
  | zero =>
      rw [Times.zero_iff]
      constructor
      · rintro rfl
        exact ⟨rfl, hi, by simp⟩
      · rintro ⟨rfl, -⟩
        rfl
  | succ n ih =>
      constructor
      · intro h
        cases h with
        | some hs hr =>
            obtain ⟨rfl, hc⟩ := matches_char_iff.mp hs
            obtain ⟨c, hget, hmem⟩ := (Option.any_eq_true ..).mp hc
            obtain ⟨rfl, hk, hall⟩ := (ih hs.le_length).mp hr
            refine ⟨by omega, hk, ?_⟩
            rw [Text.piece_cons hget (by omega)]
            exact List.forall_mem_cons.mpr ⟨hmem, hall⟩
      · rintro ⟨rfl, hk, hall⟩
        have hlt : i < t.length := by omega
        have hget : t[i]? = some t[i] := List.getElem?_eq_getElem hlt
        rw [Text.piece_cons hget (by omega)] at hall
        obtain ⟨hmem, hrest⟩ := List.forall_mem_cons.mp hall
        exact .some (.char hget hmem) ((ih hlt).mpr ⟨by omega, hk, hrest⟩)

theorem describes_chars (set : CharSet) (least : Nat) :
    Describes t (.repeated (.char set) least none) fun w =>
      least ≤ w.length ∧ ∀ c ∈ w, set.mem c = true := by
  intro i k
  rw [matches_repeated_iff]
  constructor
  · rintro ⟨hi, n, hn, -, ht⟩
    obtain ⟨rfl, hk, hall⟩ := (times_char_iff hi).mp ht
    refine ⟨Nat.le_add_right _ _, hk, ?_, hall⟩
    rw [Text.length_piece hk, Nat.add_sub_cancel_left]
    exact hn
  · rintro ⟨hik, hk, hlen, hall⟩
    rw [Text.length_piece hk] at hlen
    refine ⟨Nat.le_trans hik hk, k - i, hlen, fun _ h => absurd h (by simp), ?_⟩
    exact (times_char_iff (Nat.le_trans hik hk)).mpr ⟨by omega, hk, hall⟩

end

/-! ## Chains -/

/-- The chain of some expressions, one behind the other. -/
def seqOf : List Regex → Regex
  | [] => .empty
  | [r] => r
  | r :: rs => .seq r (seqOf rs)

section

variable {t : Text} {rs ss : List Regex}

theorem matches_seqOf_nil {i j : Nat} : Matches t (seqOf []) i j ↔ i = j ∧ i ≤ t.length :=
  matches_empty_iff

theorem matches_seqOf_cons {r : Regex} {i k : Nat} :
    Matches t (seqOf (r :: rs)) i k ↔ ∃ j, Matches t r i j ∧ Matches t (seqOf rs) j k := by
  cases rs with
  | nil =>
      constructor
      · intro h
        exact ⟨k, h, matches_seqOf_nil.mpr ⟨rfl, h.le_length⟩⟩
      · rintro ⟨j, h, hnil⟩
        obtain ⟨rfl, -⟩ := matches_seqOf_nil.mp hnil
        exact h
  | cons s rs => exact matches_seq_iff

/-- A match of a chain is cut between any two of its parts. -/
theorem matches_seqOf_append {i k : Nat} :
    Matches t (seqOf (rs ++ ss)) i k ↔
      ∃ j, Matches t (seqOf rs) i j ∧ Matches t (seqOf ss) j k := by
  induction rs generalizing i with
  | nil =>
      constructor
      · intro h
        exact ⟨i, matches_seqOf_nil.mpr ⟨rfl, Nat.le_trans h.le h.le_length⟩, h⟩
      · rintro ⟨j, hnil, h⟩
        obtain ⟨rfl, -⟩ := matches_seqOf_nil.mp hnil
        exact h
  | cons r rs ih =>
      rw [List.cons_append, matches_seqOf_cons]
      constructor
      · rintro ⟨m, hr, h⟩
        obtain ⟨j, hrs, hss⟩ := ih.mp h
        exact ⟨j, matches_seqOf_cons.mpr ⟨m, hr, hrs⟩, hss⟩
      · rintro ⟨j, h, hss⟩
        obtain ⟨m, hr, hrs⟩ := matches_seqOf_cons.mp h
        exact ⟨m, hr, ih.mpr ⟨j, hrs, hss⟩⟩

theorem ordered_seqOf (h : ∀ r ∈ rs, r.Ordered) : (seqOf rs).Ordered := by
  fun_induction seqOf rs with
  | case1 => trivial
  | case2 r => exact h r (List.mem_singleton_self r)
  | case3 r rs _ ih =>
      exact ⟨h r (List.mem_cons_self ..), ih fun s hs => h s (List.mem_cons_of_mem _ hs)⟩

end

end Regex

end UrlFilter
