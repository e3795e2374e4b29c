import UrlFilter.Text.Basic

/-!
# Punycode

Punycode (RFC 3492) writes a text with the letters, digits and hyphens of ASCII.  The ASCII
characters come first, as they are, with a hyphen behind them.  Then each other character follows as
a number that says how many states lie between it and the one before, where a state is a character
together with a place to insert it.  The numbers are written with a base of 36 and with thresholds
that adapt to the numbers so far.

Numbers are bounded by 32 bits, and `decode` refuses what exceeds them.
-/

namespace UrlFilter.Url.Punycode

/-! ## Digits and thresholds -/

/-- The greatest number that may occur. -/
def maxNumber : Nat := 4294967295

/-- The digit of a value: the letters and then the decimal digits. -/
def digitChar (d : Nat) : Char :=
  if d < 26 then Char.ofNat (d + 97) else Char.ofNat (d - 26 + 48)

/-- The value of a digit. -/
def digitValue (c : Char) : Option Nat :=
  if 'a' ≤ c ∧ c ≤ 'z' then some (c.toNat - 97)
  else if 'A' ≤ c ∧ c ≤ 'Z' then some (c.toNat - 65)
  else if '0' ≤ c ∧ c ≤ '9' then some (c.toNat - 48 + 26)
  else none

/-- The threshold of the digit at a place, where places count in steps of the base. -/
def threshold (place bias : Nat) : Nat :=
  if place ≤ bias then 1 else if bias + 26 ≤ place then 26 else place - bias

/-- A threshold is at least one. -/
theorem one_le_threshold (place bias : Nat) : 1 ≤ threshold place bias := by
  unfold threshold
  split
  · omega
  · split <;> omega

/-- Divides a number until it is small, and counts the divisions in steps of the base. -/
def adaptLoop (place delta : Nat) : Nat × Nat :=
  if 455 < delta then adaptLoop (place + 36) (delta / 35) else (place, delta)
termination_by delta
decreasing_by omega

/-- The bias behind a number, for a text of some length. -/
def adapt (delta length : Nat) (isFirst : Bool) : Nat :=
  let delta := if isFirst then delta / 700 else delta / 2
  let (place, delta) := adaptLoop 0 (delta + delta / length)
  place + 36 * delta / (delta + 38)

/-! ## Writing -/

/-- A number as digits. -/
def writeNumber (place bias n : Nat) : Text :=
  let t := threshold place bias
  if n < t then [digitChar n]
  else digitChar (t + (n - t) % (36 - t)) :: writeNumber (place + 36) bias ((n - t) / (36 - t))
termination_by n
decreasing_by
  have : ¬n < threshold place bias := by assumption
  have ht := one_le_threshold place bias
  have hd := Nat.div_le_self (n - threshold place bias) (36 - threshold place bias)
  show (n - threshold place bias) / (36 - threshold place bias) < n
  omega

/-- Where the writing of a text stands. -/
structure WriteState where
  /-- The states since the latest number. -/
  delta : Nat
  /-- The bias of the next number. -/
  bias : Nat
  /-- How many characters are written. -/
  written : Nat
  /-- The digits so far, in order. -/
  digits : Text

/-- Writes the occurrences of one character; smaller characters are written already. -/
def writeChar (c : Nat) (basic : Nat) (st : WriteState) : Text → WriteState
  | [] => st
  | d :: r =>
    if d.toNat < c then writeChar c basic { st with delta := st.delta + 1 } r
    else if d.toNat = c then
      let digits := writeNumber 36 st.bias st.delta
      writeChar c basic
        ⟨0, adapt st.delta (st.written + 1) (st.written == basic), st.written + 1,
          st.digits ++ digits⟩ r
    else writeChar c basic st r

/-- The least character of a text that is not below a bound. -/
def leastFrom (bound : Nat) (t : Text) : Option Nat :=
  ((t.map Char.toNat).filter (bound ≤ ·)).min?

/-- Writes every character from a bound on, the least first. -/
def writeFrom (rounds bound basic : Nat) (t : Text) (st : WriteState) : Text :=
  match rounds with
  | 0 => st.digits
  | rounds + 1 =>
    match leastFrom bound t with
    | none => st.digits
    | some c =>
      let st := writeChar c basic
        { st with delta := st.delta + (c - bound) * (st.written + 1) } t
      writeFrom rounds (c + 1) basic t { st with delta := st.delta + 1 }

/-- A text in Punycode. -/
def encode (t : Text) : Text :=
  let basic := t.filter fun c => c.toNat < 128
  basic ++ (if basic.isEmpty then [] else ['-']) ++
    writeFrom t.length 128 basic.length t ⟨0, 72, basic.length, []⟩

/-! ## Reading -/

/-- Reads a number, which is added to another, and the rest of the digits. -/
def readNumber (place bias weight sum : Nat) : Text → Option (Nat × Text)
  | [] => none
  | c :: r => do
    let d ← digitValue c
    let sum := sum + d * weight
    if maxNumber < sum then none
    let t := threshold place bias
    if d < t then return (sum, r)
    let weight := weight * (36 - t)
    if maxNumber < weight then none
    readNumber (place + 36) bias weight sum r

/-- What `readNumber` leaves is shorter than what it was given. -/
theorem readNumber_length {place bias weight sum n : Nat} {t rest : Text}
    (h : readNumber place bias weight sum t = some (n, rest)) : rest.length < t.length := by
  induction t generalizing place weight sum with
  | nil => simp [readNumber] at h
  | cons c r ih =>
    cases hd : digitValue c with
    | none => simp [readNumber, hd] at h
    | some d =>
      simp only [readNumber, hd, Option.bind_eq_bind, Option.bind_some] at h
      split at h
      · simp at h
      · simp only [Option.pure_def] at h
        split at h
        · simp only [Option.some.injEq, Prod.mk.injEq] at h
          simp [h.2]
        · split at h
          · simp at h
          · have := ih (by simpa using h)
            simp only [List.length_cons]
            omega

/-- Reads insertions into a text: `code` is the character of the latest, `index` its place, and
`bias` the bias of the next number. -/
def readInsertions (code index bias : Nat) (t digits : Text) : Option Text :=
  if digits.isEmpty then some t
  else
    match _h : readNumber 36 bias 1 index digits with
    | none => none
    | some (sum, rest) =>
      let length := t.length + 1
      let code := code + sum / length
      let place := sum % length
      if code < 0xD800 ∨ (0xDFFF < code ∧ code < 0x110000) then
        readInsertions code (place + 1) (adapt (sum - index) length (index == 0))
          (t.take place ++ Char.ofNat code :: t.drop place) rest
      else none
termination_by digits.length
decreasing_by exact readNumber_length _h

/-- The text that Punycode stands for. -/
def decode (code : Text) : Option Text :=
  match Text.splitAtLast '-' code with
  | some (c :: basic, digits) => readInsertions 128 0 72 (c :: basic) digits
  | _ => readInsertions 128 0 72 [] code

end UrlFilter.Url.Punycode
