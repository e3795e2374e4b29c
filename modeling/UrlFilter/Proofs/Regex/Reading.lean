import Mathlib.Tactic.FinCases
import UrlFilter.Regex.Matching

/-!
# Written expressions are read back

A text *reads as* some parts if, wherever it stands in an expression, the reader adds these parts
to the concatenation that it is in and goes on behind the text.  `Reads` says so for every state
of the reader outside of verbose mode, so texts can be put side by side (`ReadsOpen.append`) and
into groups (`reads_group`) without looking at the reader again.

*Open ends.*  Behind a repetition the reader drops a question mark.  A text that ends with a
repetition therefore reads as its parts only where no question mark follows (`ReadsOpen`).

*Classes.*  The items of a class are read by a loop of their own, and `ReadsItem` plays the same
part there.

`parse_of_reads` closes the circle: a text that reads as some parts is parsed as their chain, unless
it is nested too deep.
-/

namespace UrlFilter.Regex

open Text (loop loop_of_more loop_of_done)

/-! ## Texts that read as parts -/

/-- The state behind some parts. -/
def State.pushAll (st : State) (es : List Expr) : State :=
  { st with parts := es.reverse ++ st.parts }

@[simp] theorem State.pushAll_verbose (st : State) (es : List Expr) :
    (st.pushAll es).verbose = st.verbose := rfl

@[simp] theorem State.pushAll_pushAll (st : State) (es fs : List Expr) :
    (st.pushAll es).pushAll fs = st.pushAll (es ++ fs) := by
  simp [State.pushAll]

/-- Nothing that a repetition in front would take as a part of itself. -/
def Fresh (rest : Text) : Prop := rest.head? ≠ some '?'

theorem fresh_nil : Fresh [] := by simp [Fresh]

theorem fresh_cons {c : Char} {r : Text} : Fresh (c :: r) ↔ c ≠ '?' := by simp [Fresh]

theorem Fresh.append {t rest : Text} (ht : Fresh t) (hr : Fresh rest) : Fresh (t ++ rest) := by
  cases t with
  | nil => exact hr
  | cons c r => exact fresh_cons.mpr (fresh_cons.mp ht)

theorem dropLazy_of_fresh {rest : Text} (h : Fresh rest) : dropLazy rest = rest := by
  unfold dropLazy
  split
  · exact absurd rfl (fresh_cons.mp h)
  · rfl

/-- The text reads as the parts wherever it stands. -/
def Reads (t : Text) (es : List Expr) : Prop :=
  ∀ (st : State) (rest : Text), st.verbose = false →
    loop .groupUnclosed step st (t ++ rest) = loop .groupUnclosed step (st.pushAll es) rest

/-- The text reads as the parts wherever nothing behind it belongs to its end. -/
def ReadsOpen (t : Text) (es : List Expr) : Prop :=
  ∀ (st : State) (rest : Text), st.verbose = false → Fresh rest →
    loop .groupUnclosed step st (t ++ rest) = loop .groupUnclosed step (st.pushAll es) rest

theorem Reads.toOpen {t : Text} {es : List Expr} (h : Reads t es) : ReadsOpen t es :=
  fun st rest hv _ => h st rest hv

theorem readsOpen_nil : ReadsOpen [] [] := fun _ _ _ _ => rfl

theorem ReadsOpen.append {t u : Text} {es fs : List Expr} (ht : ReadsOpen t es)
    (hu : ReadsOpen u fs) (hf : Fresh u) : ReadsOpen (t ++ u) (es ++ fs) := by
  intro st rest hv hr
  rw [List.append_assoc, ht st _ hv (hf.append hr), hu (st.pushAll es) _ hv hr,
    State.pushAll_pushAll]

/-- A text that one step reads, whatever stands behind it. -/
theorem reads_of_stepAt {c : Char} {t : Text} {e : Expr}
    (h : ∀ (st : State) (rest : Text), st.verbose = false →
      stepAt st c (t ++ rest) = .ok (st.push e, rest)) : Reads (c :: t) [e] := by
  intro st rest hv
  refine loop_of_more ?_ (by simp only [List.length_append, List.length_cons]; omega)
  rw [step, hv, skip, if_neg Bool.false_ne_true]
  simp only [List.cons_append, h st rest hv]
  rfl

/-! ## Single characters -/

theorem reads_char {c : Char} (h : isMeta c = false) : Reads [c] [.literal ⟨c, false⟩] := by
  refine reads_of_stepAt fun st rest _ => ?_
  unfold stepAt
  split
  case h_10 =>
    unfold primitiveOf
    split <;> simp_all [isMeta, Primitive.toExpr, Primitive.char]
  all_goals simp_all [isMeta]

/-- A character with a meaning of its own is read as itself behind a backslash. -/
theorem readEscape_isMeta {c : Char} (h : isMeta c = true) (r : Text) :
    readEscape false (c :: r) = .ok (.char c, r) := by
  rw [isMeta, List.contains_iff_mem] at h
  fin_cases h <;> rfl

theorem reads_escaped {c : Char} (h : isMeta c = true) : Reads ['\\', c] [.literal ⟨c, false⟩] := by
  refine reads_of_stepAt fun st rest hv => ?_
  rw [stepAt, hv, List.singleton_append, readEscape_isMeta h]
  rfl

theorem reads_dot : Reads ['.'] [.dot] := reads_of_stepAt fun _ _ _ => rfl

theorem reads_caret : Reads ['^'] [.assertion .caret] := reads_of_stepAt fun _ _ _ => rfl

theorem reads_dollar : Reads ['$'] [.assertion .dollar] := reads_of_stepAt fun _ _ _ => rfl

/-! ## Repetitions -/

/-- Whether a part can be repeated: not every part matches something. -/
def Expr.isRepeatable : Expr → Bool
  | .empty | .flags _ => false
  | _ => true

theorem State.repeatLast_push {st : State} {e : Expr} (h : e.isRepeatable = true) (least : Nat)
    (most : Option Nat) :
    (st.push e).repeatLast least most = .ok (st.push (.repeated e least most)) := by
  cases e with
  | empty => cases h
  | flags items => cases h
  | _ => rfl

/-- A mark behind a part repeats it. -/
theorem Reads.repeated {t : Text} {e : Expr} {mark : Char} {least : Nat} {most : Option Nat}
    (h : Reads t [e]) (he : e.isRepeatable = true)
    (hmark : ∀ (st : State) (r : Text), stepAt st mark r =
      (st.repeatLast least most).map fun st' => (st', dropLazy r)) :
    ReadsOpen (t ++ [mark]) [.repeated e least most] := by
  intro st rest hv hr
  rw [List.append_assoc, h st _ hv]
  refine loop_of_more ?_ (by simp)
  have hlast : (st.pushAll [e]).repeatLast least most = .ok (st.pushAll [.repeated e least most]) :=
    State.repeatLast_push he least most
  rw [step, State.pushAll_verbose, hv, skip, if_neg Bool.false_ne_true]
  simp only [List.singleton_append, hmark, hlast, Except.map, dropLazy_of_fresh hr]
  rfl

theorem Reads.star {t : Text} {e : Expr} (h : Reads t [e]) (he : e.isRepeatable = true) :
    ReadsOpen (t ++ ['*']) [.repeated e 0 none] :=
  h.repeated he fun st r => by rw [stepAt]; cases st.repeatLast 0 none <;> rfl

theorem Reads.plus {t : Text} {e : Expr} (h : Reads t [e]) (he : e.isRepeatable = true) :
    ReadsOpen (t ++ ['+']) [.repeated e 1 none] :=
  h.repeated he fun st r => by rw [stepAt]; cases st.repeatLast 1 none <;> rfl

theorem Reads.optional {t : Text} {e : Expr} (h : Reads t [e]) (he : e.isRepeatable = true) :
    ReadsOpen (t ++ ['?']) [.repeated e 0 (some 1)] :=
  h.repeated he fun st r => by rw [stepAt]; cases st.repeatLast 0 (some 1) <;> rfl

/-! ## Groups -/

/-- The start of a group without a number and without flags. -/
def groupMark : Text := ['(', '?', ':']

/-- The state inside of a group. -/
def State.inGroup (st : State) : State :=
  { st with parts := [], frames := .group st.parts false [] st.verbose :: st.frames }

theorem loop_groupMark {st : State} (hv : st.verbose = false) (rest : Text) :
    loop .groupUnclosed step st (groupMark ++ rest) =
      loop .groupUnclosed step st.inGroup rest := by
  refine loop_of_more ?_ (by simp [groupMark]; omega)
  rw [step, hv, skip, if_neg Bool.false_ne_true]
  simp only [groupMark, List.cons_append, stepAt, hv]
  rfl

theorem loop_closeGroup {st st' : State} {rest : Text} (hv : st.verbose = false)
    (h : st.closeGroup = .ok st') :
    loop .groupUnclosed step st (')' :: rest) = loop .groupUnclosed step st' rest := by
  refine loop_of_more ?_ (by simp)
  rw [step, hv, skip, if_neg Bool.false_ne_true]
  simp only [stepAt, h]
  rfl

theorem loop_nextBranch {st : State} {rest : Text} (hv : st.verbose = false) :
    loop .groupUnclosed step st ('|' :: rest) = loop .groupUnclosed step st.nextBranch rest := by
  refine loop_of_more ?_ (by simp)
  rw [step, hv, skip, if_neg Bool.false_ne_true]
  rfl

/-- A text in a group reads as the group of its parts. -/
theorem reads_group {t : Text} {es : List Expr} (h : ReadsOpen t es) :
    Reads (groupMark ++ t ++ [')']) [.group false [] (.seqOf es)] := by
  intro st rest hv
  have hfresh : Fresh (')' :: rest) := fresh_cons.mpr (by decide)
  rw [List.append_assoc, List.append_assoc, loop_groupMark hv, List.singleton_append,
    h st.inGroup _ hv hfresh]
  refine loop_closeGroup hv ?_
  simp [State.closeGroup, State.body, State.pushAll, State.inGroup, State.concat, hv]

/-- Two texts in a group with a bar between them read as a choice of their parts. -/
theorem reads_choice {t u : Text} {es fs : List Expr} (ht : ReadsOpen t es)
    (hu : ReadsOpen u fs) :
    Reads (groupMark ++ t ++ ['|'] ++ u ++ [')'])
      [.group false [] (.alt (.seqOf es) (.seqOf fs))] := by
  intro st rest hv
  have hbar : Fresh ('|' :: (u ++ ')' :: rest)) := fresh_cons.mpr (by decide)
  have hclose : Fresh (')' :: rest) := fresh_cons.mpr (by decide)
  have hin : (st.inGroup.pushAll es).verbose = false := hv
  have hbranch : (st.inGroup.pushAll es).nextBranch.verbose = false := hv
  simp only [List.append_assoc, List.cons_append, List.nil_append]
  rw [loop_groupMark hv, ht st.inGroup _ hv hbar, loop_nextBranch hin, hu _ _ hbranch hclose]
  refine loop_closeGroup hv ?_
  simp [State.closeGroup, State.body, State.pushAll, State.inGroup, State.nextBranch,
    State.concat, Expr.altOf, hv]

/-! ## Classes -/

/-- The text reads as an item of a class, wherever no hyphen follows. -/
structure ReadsItem (t : Text) (item : ClassExpr) : Prop where
  /-- It does not start like the end of a class or like a hyphen in front of all items. -/
  start : ∃ c r, t = c :: r ∧ c ≠ '-' ∧ c ≠ ']'
  /-- One step reads it. -/
  read : ∀ (st : ClassState) (c : Char) (rest : Text), c ≠ '-' →
    classStep false st (t ++ c :: rest) = .ok (.more ⟨st.frames, item :: st.items⟩ (c :: rest))

/-- A character without a meaning of its own in a class is an item. -/
theorem readsItem_char {c : Char} (h : c ∉ ['[', ']', '\\', '&', '-', '~']) :
    ReadsItem [c] (.literal ⟨c, false⟩) := by
  simp only [List.mem_cons, List.not_mem_nil, or_false, not_or] at h
  obtain ⟨hopen, hclose, hback, hand, hhyphen, htilde⟩ := h
  refine ⟨⟨c, [], rfl, hhyphen, hclose⟩, fun st d rest hd => ?_⟩
  have hitem : readClassItem false (c :: d :: rest) = .ok (.literal ⟨c, false⟩, d :: rest) := by
    have hprim : readClassPrimitive false (c :: d :: rest) = .ok (.char c, d :: rest) := by
      unfold readClassPrimitive
      split <;> simp_all
    rw [readClassItem, hprim]
    simp [bind, Except.bind, skip, hd]
    rfl
  unfold classStep
  simp only [skip, List.singleton_append]
  split <;> simp_all [bind, Except.bind]
  rfl

/-- An escape that is read as an item is an item. -/
theorem readsItem_escape {c : Char} {primitive : Primitive} {item : ClassExpr}
    (hread : ∀ r, readEscape false (c :: r) = .ok (primitive, r))
    (hitem : primitive.toClassExpr = .ok item) : ReadsItem ['\\', c] item := by
  refine ⟨⟨'\\', [c], rfl, by decide, by decide⟩, fun st d rest hd => ?_⟩
  have hprim : readClassItem false ('\\' :: c :: d :: rest) = .ok (item, d :: rest) := by
    rw [readClassItem, readClassPrimitive, hread]
    simp [bind, Except.bind, skip, hd, hitem]
    rfl
  unfold classStep
  simp only [skip, List.cons_append, List.nil_append]
  split <;> simp_all [bind, Except.bind]
  rfl

/-- The text of some items, each with how it is written. -/
def itemsText (items : List (Text × ClassExpr)) : Text := items.flatMap Prod.fst

/-- Behind the items before it stands an item or the end of the class, and no hyphen. -/
theorem itemsText_head {items : List (Text × ClassExpr)}
    (h : ∀ p ∈ items, ReadsItem p.1 p.2) (rest : Text) :
    ∃ c r, itemsText items ++ ']' :: rest = c :: r ∧ c ≠ '-' := by
  cases items with
  | nil => exact ⟨']', rest, rfl, by decide⟩
  | cons p ps =>
      obtain ⟨c, r, hp, hc, -⟩ := (h p (List.mem_cons_self ..)).start
      exact ⟨c, r ++ (itemsText ps ++ ']' :: rest), by simp [itemsText, hp], hc⟩

/-- The loop through a class collects its items. -/
theorem loop_items {items : List (Text × ClassExpr)} (h : ∀ p ∈ items, ReadsItem p.1 p.2)
    (st : ClassState) (rest : Text) :
    loop .classUnclosed (classStep false) st (itemsText items ++ ']' :: rest) =
      loop .classUnclosed (classStep false)
        ⟨st.frames, (items.map Prod.snd).reverse ++ st.items⟩ (']' :: rest) := by
  induction items generalizing st with
  | nil => rfl
  | cons p ps ih =>
      have hp := h p (List.mem_cons_self ..)
      have hps : ∀ q ∈ ps, ReadsItem q.1 q.2 := fun q hq => h q (List.mem_cons_of_mem _ hq)
      obtain ⟨c, r, hcr, hc⟩ := itemsText_head hps rest
      obtain ⟨d, u, hdu, -, -⟩ := hp.start
      have htext : itemsText (p :: ps) ++ ']' :: rest = p.1 ++ c :: r := by
        rw [← hcr]
        simp [itemsText]
      have hless : (c :: r).length < (p.1 ++ c :: r).length := by
        rw [hdu]
        simp only [List.length_append, List.length_cons]
        omega
      rw [htext, loop_of_more (hp.read st c r hc) hless, ← hcr, ih hps]
      simp

/-- A class of everything but some items. -/
theorem reads_negatedClass {items : List (Text × ClassExpr)}
    (h : ∀ p ∈ items, ReadsItem p.1 p.2) (hne : items ≠ []) :
    Reads ('[' :: '^' :: (itemsText items ++ [']']))
      [.bracketed true (.unionOf (items.map Prod.snd))] := by
  refine reads_of_stepAt fun st rest hv => ?_
  obtain ⟨p, ps, rfl⟩ := List.exists_cons_of_ne_nil hne
  obtain ⟨c, r, hcr, hc, hc'⟩ := (h p (List.mem_cons_self ..)).start
  have htext : '^' :: (itemsText (p :: ps) ++ [']']) ++ rest =
      '^' :: c :: (r ++ itemsText ps ++ ']' :: rest) := by simp [itemsText, hcr]
  have hstart : readClassStart false ('^' :: c :: (r ++ itemsText ps ++ ']' :: rest)) =
      .ok (true, [], itemsText (p :: ps) ++ ']' :: rest) := by
    rw [readClassStart, skip, if_neg Bool.false_ne_true]
    simp only [skip, Bool.false_eq_true, if_false]
    rw [readLeadingHyphens, if_neg hc]
    simp only [bind, Except.bind]
    split
    · simp_all
    · simp [itemsText, hcr]
  have hclass : readClass false ('^' :: c :: (r ++ itemsText ps ++ ']' :: rest)) =
      .ok (.bracketed true (.unionOf ((p :: ps).map Prod.snd)), rest) := by
    rw [readClass, hstart]
    simp only [bind, Except.bind]
    have hdone : loop .classUnclosed (classStep false)
        ⟨[.bracket [] true], ((p :: ps).map Prod.snd).reverse ++ []⟩ (']' :: rest) =
          .ok ((true, .unionOf ((p :: ps).map Prod.snd)), rest) :=
      loop_of_done (by simp [classStep, skip, ClassState.closeBracket, closeOperator])
    rw [loop_items h, hdone]
    rfl
  rw [stepAt, htext, hv, hclass]
  rfl

/-! ## Whole expressions -/

/-- No part of a chain counts as more than itself. -/
theorem Expr.nestingIn_seq_le (e : Expr) : e.nestingIn .seq ≤ e.nestingIn .none := by
  cases e with
  | seq first rest =>
      simp only [Expr.nestingIn, if_true, Nat.zero_add, reduceCtorEq, if_false]
      omega
  | _ => simp [Expr.nestingIn]

/-- A chain is nested by one level more than its parts. -/
theorem Expr.nestingIn_seqOf_le {n : Nat} {es : List Expr} (h : ∀ e ∈ es, e.nesting ≤ n) :
    (Expr.seqOf es).nestingIn .seq ≤ n ∧ (Expr.seqOf es).nesting ≤ n + 1 := by
  fun_induction Expr.seqOf es with
  | case1 => simp [Expr.nesting, Expr.nestingIn]
  | case2 e =>
      have he := h e (List.mem_cons_self ..)
      exact ⟨Nat.le_trans e.nestingIn_seq_le he, Nat.le_succ_of_le he⟩
  | case3 e es _ ih =>
      have he := h e (List.mem_cons_self ..)
      have hes := (ih fun f hf => h f (List.mem_cons_of_mem _ hf)).1
      rw [Expr.nesting] at he
      simp only [Expr.nesting, Expr.nestingIn, if_true, Nat.zero_add, reduceCtorEq, if_false]
      omega

/-- A text that reads as some parts is parsed as their chain. -/
theorem parse_of_reads {t : Text} {es : List Expr} (h : ReadsOpen t es)
    (hn : ∀ e ∈ es, e.nesting < nestLimit) : Expr.parse t = .ok (.seqOf es) := by
  have hdone : loop .groupUnclosed step (State.start.pushAll es) [] =
      .ok (State.start.pushAll es, []) := loop_of_done rfl
  have hloop := h .start [] rfl fresh_nil
  rw [List.append_nil, hdone] at hloop
  have hnest : (Expr.seqOf es).nesting ≤ nestLimit :=
    (Expr.nestingIn_seqOf_le fun e he => Nat.le_of_lt_succ (hn e he)).2
  rw [Expr.parse, hloop]
  simp only [bind, Except.bind, State.finish, State.body, State.pushAll, State.start, State.concat,
    List.append_nil, List.reverse_reverse]
  rw [if_pos hnest]
  rfl

end UrlFilter.Regex
