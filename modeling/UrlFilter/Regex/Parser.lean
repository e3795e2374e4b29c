import UrlFilter.Regex.Expr
import UrlFilter.Regex.Fault
import UrlFilter.Text.Reader

/-!
# Reading regular expressions

`Expr.parse` reads the text of a regular expression.  It keeps the parts of the current
concatenation, latest first, and a stack of what is open around it: groups and lists of
alternatives.  Each step reads one part, opens or closes a group, or repeats the latest part.

Classes in brackets are read by a loop of the same shape, with a stack of open brackets and of
operators that wait for their right side.

In verbose mode blanks are dropped almost everywhere, and so is everything from a `#` to the end of
its line.  `skip` drops both.

The nesting of an expression is bounded by `nestLimit`, which is tested when all of it is read.
-/

namespace UrlFilter.Regex

open Text (Progress loop)

/-! ## Dropped text -/

/-- Drops blanks and comments; `inComment` says that a comment is open. -/
def skipFrom (inComment : Bool) : Text → Text
  | [] => []
  | c :: r =>
    if inComment then skipFrom (c != '\n') r
    else if Text.isBlank c then skipFrom false r
    else if c = '#' then skipFrom true r
    else c :: r

/-- Drops what verbose mode does not read. -/
def skip (verbose : Bool) (t : Text) : Text := if verbose then skipFrom false t else t

/-- Dropping leaves no more than there was. -/
theorem length_skipFrom_le (inComment : Bool) (t : Text) :
    (skipFrom inComment t).length ≤ t.length := by
  induction t generalizing inComment with
  | nil => simp [skipFrom]
  | cons c r ih =>
    rw [skipFrom]
    split
    · exact Nat.le_succ_of_le (ih _)
    · split
      · exact Nat.le_succ_of_le (ih _)
      · split
        · exact Nat.le_succ_of_le (ih _)
        · exact Nat.le_refl _

/-- Dropping leaves no more than there was. -/
theorem length_skip_le (verbose : Bool) (t : Text) : (skip verbose t).length ≤ t.length := by
  unfold skip
  split
  · exact length_skipFrom_le _ _
  · exact Nat.le_refl _

/-- The longest start whose characters pass a test, without what verbose mode drops in it. -/
def takeSkipping (p : Char → Bool) (verbose : Bool) (t : Text) : Text × Text :=
  match t with
  | [] => ([], [])
  | c :: r =>
    if p c then
      let (taken, rest) := takeSkipping p verbose (skip verbose r)
      (c :: taken, rest)
    else ([], c :: r)
termination_by t.length
decreasing_by
  have := length_skip_le verbose r
  simp only [List.length_cons]
  omega

/-! ## Numbers -/

/-- Whether a character is a decimal digit. -/
def isDecimal (c : Char) : Bool := '0' ≤ c && c ≤ '9'

/-- Whether a character is a hexadecimal digit. -/
def isHex (c : Char) : Bool := isDecimal c || ('a' ≤ c && c ≤ 'f') || ('A' ≤ c && c ≤ 'F')

/-- The value of a hexadecimal digit. -/
def hexDigitValue (c : Char) : Nat :=
  if isDecimal c then c.toNat - 48 else (Text.asciiLower c).toNat - 87

/-- The number that hexadecimal digits stand for. -/
def hexValue (digits : Text) : Nat := digits.foldl (fun n c => 16 * n + hexDigitValue c) 0

/-- The number that decimal digits stand for. -/
def decimalValue (digits : Text) : Nat := digits.foldl (fun n c => 10 * n + (c.toNat - 48)) 0

/-- The greatest count that a repetition may have. -/
def maxCount : Nat := 4294967295

/-- A count with blanks around it, or why there is none, and the rest of the text. -/
def readCount (verbose : Bool) (t : Text) : Except SyntaxFault Nat × Text :=
  let (digits, rest) := takeSkipping isDecimal verbose (Text.trimStart t)
  let value :=
    if digits.isEmpty then .error .countEmpty
    else if decimalValue digits ≤ maxCount then .ok (decimalValue digits)
    else .error .decimalTooLarge
  (value, skip verbose (Text.trimStart rest))

/-- The character of a hexadecimal number. -/
def hexChar (digits : Text) : Except SyntaxFault Char :=
  let n := hexValue digits
  if n < 0xD800 ∨ (0xDFFF < n ∧ n < 0x110000) then .ok (Char.ofNat n) else .error .hexNoCharacter

/-- Exactly so many hexadecimal digits. -/
def readHexDigits (verbose : Bool) : Nat → Text → Except SyntaxFault (Text × Text)
  | 0, t => .ok ([], t)
  | _ + 1, [] => .error .escapeEnd
  | n + 1, c :: r =>
    if isHex c then do
      let (digits, rest) ← readHexDigits verbose n (skip verbose r)
      return (c :: digits, rest)
    else .error .hexDigit

/-- A hexadecimal number behind its opening brace. -/
def readHexBraced (verbose : Bool) (t : Text) : Except SyntaxFault (Literal × Text) :=
  match takeSkipping isHex verbose (skip verbose t) with
  | (_, []) => .error .escapeEnd
  | ([], '}' :: _) => .error .hexEmpty
  | (digits, '}' :: rest) => do
    let c ← hexChar digits
    return (⟨c, false⟩, skip verbose rest)
  | (_, _ :: _) => .error .hexDigit

/-- A character by its number, behind the letter that tells the number of digits. -/
def readHex (verbose : Bool) (digitCount : Nat) (t : Text) :
    Except SyntaxFault (Literal × Text) :=
  match skip verbose t with
  | [] => .error .escapeEnd
  | '{' :: r => readHexBraced verbose r
  | r => do
    let (digits, rest) ← readHexDigits verbose digitCount r
    let c ← hexChar digits
    return (⟨c, digitCount == 2⟩, rest)

/-! ## Escapes -/

/-- A part that is read as one piece, inside a class or outside. -/
inductive Primitive where
  /-- One character. -/
  | literal (lit : Literal)
  /-- A test that looks around. -/
  | assertion (kind : Assertion)
  /-- The dot. -/
  | dot
  /-- A class with a one-letter escape. -/
  | short (cls : ShortClass) (negated : Bool)
  /-- A class by property. -/
  | property (query : Unicode.PropertyQuery) (negated : Bool)
  deriving DecidableEq, Repr

/-- The primitive of one character that is written as it is. -/
def Primitive.char (c : Char) : Primitive := .literal ⟨c, false⟩

/-- The characters with a meaning of their own, which an escape takes away. -/
def isMeta (c : Char) : Bool :=
  ['\\', '.', '+', '*', '?', '(', ')', '|', '[', ']', '{', '}', '^', '$', '#', '&', '-',
    '~'].contains c

/-- The characters that an escape leaves as they are. -/
def isEscapable (c : Char) : Bool :=
  isMeta c || (c.toNat < 128 && !c.isAlphanum && c != '<' && c != '>')

/-- The query between the braces of a property: a lone name, or a name and a value. -/
def propertyQuery (body : Text) : Unicode.PropertyQuery × Bool :=
  match cutAt ['!', '='] body with
  | some (name, value) => (.valued name value, true)
  | none =>
    match cutAt [':'] body with
    | some (name, value) => (.valued name value, false)
    | none =>
      match cutAt ['='] body with
      | some (name, value) => (.valued name value, false)
      | none => (.named body, false)
where
  /-- The text before and behind the first occurrence of a mark. -/
  cutAt (mark : Text) : Text → Option (Text × Text)
    | [] => none
    | c :: r =>
      match mark.isPrefixOf? (c :: r) with
      | some after => some ([], after)
      | none => (cutAt mark r).map fun (before, after) => (c :: before, after)

/-- A class by property, behind its letter. -/
def readProperty (verbose negated : Bool) (t : Text) : Except SyntaxFault (Primitive × Text) :=
  match skip verbose t with
  | [] => .error .escapeEnd
  | '{' :: r =>
    match takeSkipping (· != '}') verbose (skip verbose r) with
    | (_, []) => .error .escapeEnd
    | (body, _ :: rest) =>
      let (query, differs) := propertyQuery body
      .ok (.property query (negated != differs), rest)
  | c :: r =>
    if c = '\\' then .error .propertyLetter
    else .ok (.property (.named [c]) negated, skip verbose r)

/-- Whether a character may stand in the name of a word boundary. -/
def isBoundaryChar (c : Char) : Bool := c.isAlpha || c == '-'

/-- The word boundary of a name. -/
def boundaryNamed (name : Text) : Option Assertion :=
  if name = "start".toList then some .wordStart
  else if name = "end".toList then some .wordEnd
  else if name = "start-half".toList then some .wordStartHalf
  else if name = "end-half".toList then some .wordEndHalf
  else none

/-- A word boundary, behind its letter.  Braces with a name choose among the boundaries; any other
brace is left for a counted repetition. -/
def readBoundary (verbose : Bool) (t : Text) : Except SyntaxFault (Primitive × Text) :=
  match t with
  | '{' :: r =>
    match skip verbose r with
    | [] => .error .boundaryEnd
    | c :: s =>
      if isBoundaryChar c then
        match takeSkipping isBoundaryChar verbose (c :: s) with
        | (name, '}' :: rest) =>
          match boundaryNamed name with
          | some kind => .ok (.assertion kind, rest)
          | none => .error .boundaryUnknown
        | _ => .error .boundaryUnclosed
      else .ok (.assertion .wordBoundary, t)
  | _ => .ok (.assertion .wordBoundary, t)

/-- The meaning of a letter behind a backslash, where it needs nothing more of the text. -/
def letterEscape (c : Char) : Option Primitive :=
  match c with
  | 'd' => some (.short .digit false)
  | 'D' => some (.short .digit true)
  | 's' => some (.short .blank false)
  | 'S' => some (.short .blank true)
  | 'w' => some (.short .word false)
  | 'W' => some (.short .word true)
  | 'a' => some (.char '\x07')
  | 'f' => some (.char '\x0C')
  | 't' => some (.char '\t')
  | 'n' => some (.char '\n')
  | 'r' => some (.char '\r')
  | 'v' => some (.char '\x0B')
  | 'A' => some (.assertion .textStart)
  | 'z' => some (.assertion .textEnd)
  | 'B' => some (.assertion .notWordBoundary)
  | '<' => some (.assertion .wordStart)
  | '>' => some (.assertion .wordEnd)
  | _ => none

/-- An escape, behind its backslash. -/
def readEscape (verbose : Bool) : Text → Except SyntaxFault (Primitive × Text)
  | [] => .error .escapeEnd
  | c :: r =>
    if isDecimal c then .error .backreference
    else if c = 'x' then hex 2 r
    else if c = 'u' then hex 4 r
    else if c = 'U' then hex 8 r
    else if c = 'p' then readProperty verbose false r
    else if c = 'P' then readProperty verbose true r
    else if c = 'b' then readBoundary verbose r
    else if isEscapable c then .ok (.char c, r)
    else
      match letterEscape c with
      | some primitive => .ok (primitive, r)
      | none => .error .escapeUnknown
where
  /-- A character by its number. -/
  hex (digitCount : Nat) (t : Text) : Except SyntaxFault (Primitive × Text) := do
    let (lit, rest) ← readHex verbose digitCount t
    return (.literal lit, rest)

/-! ## Classes in brackets -/

/-- What a primitive means as an item of a class. -/
def Primitive.toClassExpr : Primitive → Except SyntaxFault ClassExpr
  | .literal lit => .ok (.literal lit)
  | .short cls negated => .ok (.short cls negated)
  | .property query negated => .ok (.property query negated)
  | .assertion _ => .error .classEscape
  | .dot => .error .classEscape

/-- What a primitive means as an end of a range. -/
def Primitive.toLiteral : Primitive → Except SyntaxFault Literal
  | .literal lit => .ok lit
  | _ => .error .classRangeLiteral

/-- The ASCII classes by name. -/
def asciiClass? (name : Text) : Option Unicode.Ranges :=
  asciiClasses.lookup (String.ofList name)
where
  /-- The ranges of the ASCII classes. -/
  asciiClasses : List (String × Unicode.Ranges) :=
    [("alnum", [(0x30, 0x39), (0x41, 0x5A), (0x61, 0x7A)]),
     ("alpha", [(0x41, 0x5A), (0x61, 0x7A)]),
     ("ascii", [(0x00, 0x7F)]),
     ("blank", [(0x09, 0x09), (0x20, 0x20)]),
     ("cntrl", [(0x00, 0x1F), (0x7F, 0x7F)]),
     ("digit", [(0x30, 0x39)]),
     ("graph", [(0x21, 0x7E)]),
     ("lower", [(0x61, 0x7A)]),
     ("print", [(0x20, 0x7E)]),
     ("punct", [(0x21, 0x2F), (0x3A, 0x40), (0x5B, 0x60), (0x7B, 0x7E)]),
     ("space", [(0x09, 0x0D), (0x20, 0x20)]),
     ("upper", [(0x41, 0x5A)]),
     ("word", [(0x30, 0x39), (0x41, 0x5A), (0x5F, 0x5F), (0x61, 0x7A)]),
     ("xdigit", [(0x30, 0x39), (0x41, 0x46), (0x61, 0x66)])]

/-- An ASCII class such as `[:alpha:]`, behind its bracket, if there is one. -/
def readAsciiClass? (t : Text) : Option (ClassExpr × Text) :=
  match t with
  | ':' :: r =>
    let (negated, s) := match r with
      | '^' :: s => (true, s)
      | _ => (false, r)
    match s.span (· != ':') with
    | (name, ':' :: ']' :: rest) =>
      (asciiClass? name).map fun ranges => (.ascii ranges negated, rest)
    | _ => none
  | _ => none

/-- What is open around the items that a class is being read from. -/
inductive ClassFrame where
  /-- A bracket, with the items read before it, latest first. -/
  | bracket (outer : List ClassExpr) (negated : Bool)
  /-- An operator, with its left side. -/
  | operator (kind : SetOp) (left : ClassExpr)
  deriving DecidableEq, Repr

/-- Where the reading of a class stands: what is open, and the latest items first. -/
structure ClassState where
  /-- What is open, innermost first. -/
  frames : List ClassFrame
  /-- The items read since. -/
  items : List ClassExpr
  deriving DecidableEq, Repr

/-- The hyphens that may stand at the start of a class, as items. -/
def readLeadingHyphens (verbose : Bool) (items : List ClassExpr) (t : Text) :
    Except SyntaxFault (List ClassExpr × Text) :=
  match t with
  | [] => .error .classUnclosed
  | c :: r =>
    if c = '-' then readLeadingHyphens verbose (.literal ⟨'-', false⟩ :: items) (skip verbose r)
    else .ok (items, c :: r)
termination_by t.length
decreasing_by
  have := length_skip_le verbose r
  simp only [List.length_cons]
  omega

/-- The start of a class, behind its bracket: whether it is negated, and the hyphens or the bracket
that stand for themselves because they come first. -/
def readClassStart (verbose : Bool) (t : Text) :
    Except SyntaxFault (Bool × List ClassExpr × Text) := do
  let (negated, r) := match skip verbose t with
    | '^' :: r => (true, skip verbose r)
    | r => (false, r)
  let (items, r) ← readLeadingHyphens verbose [] r
  match items, r with
  | [], ']' :: r =>
    match skip verbose r with
    | [] => .error .classUnclosed
    | r => .ok (negated, [.literal ⟨']', false⟩], r)
  | _, _ => .ok (negated, items, r)

/-- The character behind the one at hand, as it is seen past what verbose mode drops.  Of a comment
only the mark is passed over. -/
def peek (verbose : Bool) (t : Text) : Option Char :=
  if verbose then
    match Text.trimStart t with
    | [] => t.head?
    | '#' :: r =>
      match Text.trimStart r with
      | [] => t.head?
      | c :: _ => some c
    | c :: _ => some c
  else t.head?

/-- One character or escape of a class. -/
def readClassPrimitive (verbose : Bool) : Text → Except SyntaxFault (Primitive × Text)
  | [] => .error .classUnclosed
  | '\\' :: r => readEscape verbose r
  | c :: r => .ok (.char c, r)

/-- One item of a class, which may be a range. -/
def readClassItem (verbose : Bool) (t : Text) : Except SyntaxFault (ClassExpr × Text) := do
  let (first, r) ← readClassPrimitive verbose t
  match skip verbose r with
  | [] => .error .classUnclosed
  | c :: s =>
    if c != '-' || peek verbose s == some ']' || peek verbose s == some '-' then
      let item ← first.toClassExpr
      return (item, c :: s)
    else
      let (last, rest) ← readClassPrimitive verbose (skip verbose s)
      let first ← first.toLiteral
      let last ← last.toLiteral
      if first.char ≤ last.char then return (.range first last, rest) else .error .classRange

/-- Gives the operator on top of the stack its right side. -/
def closeOperator (frames : List ClassFrame) (right : ClassExpr) : List ClassFrame × ClassExpr :=
  match frames with
  | .operator kind left :: outer => (outer, .op kind left right)
  | _ => (frames, right)

/-- Turns what was read since the last bracket into the left side of an operator. -/
def ClassState.pushOperator (st : ClassState) (kind : SetOp) : ClassState :=
  let (frames, left) := closeOperator st.frames (.unionOf st.items.reverse)
  ⟨.operator kind left :: frames, []⟩

/-- Opens a bracket inside a class. -/
def ClassState.openBracket (st : ClassState) (negated : Bool) (items : List ClassExpr) :
    ClassState := ⟨.bracket st.items negated :: st.frames, items⟩

/-- Closes a bracket: the class that is complete, or the state around a class that is part of
another. -/
def ClassState.closeBracket (st : ClassState) : Sum (Bool × ClassExpr) ClassState :=
  match closeOperator st.frames (.unionOf st.items.reverse) with
  | (.bracket _ negated :: [], set) => .inl (negated, set)
  | (.bracket outer negated :: frames, set) => .inr ⟨frames, .bracketed negated set :: outer⟩
  | (_, set) => .inl (false, set)

/-- One step through a class. -/
def classStep (verbose : Bool) (st : ClassState) (t : Text) :
    Except SyntaxFault (Progress ClassState (Bool × ClassExpr)) :=
  match skip verbose t with
  | [] => .error .classUnclosed
  | '[' :: r =>
    match readAsciiClass? r with
    | some (cls, rest) => .ok (.more ⟨st.frames, cls :: st.items⟩ rest)
    | none => do
      let (negated, items, rest) ← readClassStart verbose r
      return .more (st.openBracket negated items) rest
  | ']' :: r =>
    match st.closeBracket with
    | .inl cls => .ok (.done cls r)
    | .inr outer => .ok (.more outer r)
  | '&' :: '&' :: r => .ok (.more (st.pushOperator .inter) r)
  | '-' :: '-' :: r => .ok (.more (st.pushOperator .diff) r)
  | '~' :: '~' :: r => .ok (.more (st.pushOperator .symmDiff) r)
  | r => do
    let (item, rest) ← readClassItem verbose r
    return .more ⟨st.frames, item :: st.items⟩ rest

/-- A class, behind its bracket. -/
def readClass (verbose : Bool) (t : Text) : Except SyntaxFault (Expr × Text) := do
  let (negated, items, r) ← readClassStart verbose t
  let ((negated, set), rest) ←
    loop .classUnclosed (classStep verbose) ⟨[.bracket [] negated], items⟩ r
  return (.bracketed negated set, rest)

/-! ## Groups -/

/-- The flag of a letter. -/
def flagOf? : Char → Option Flag
  | 'i' => some .ignoreCase
  | 'm' => some .multiLine
  | 's' => some .dotAll
  | 'U' => some .swapGreed
  | 'u' => some .unicode
  | 'R' => some .crlf
  | 'x' => some .verbose
  | _ => none

/-- Flags up to the colon or parenthesis that ends them, which is left.  `items` are the flags read
so far, and `minus` says whether a minus was read and whether it came last. -/
def readFlags (items : FlagItems) (minus : Option Bool) : Text →
    Except SyntaxFault (FlagItems × Text)
  | [] => .error .flagEnd
  | c :: r =>
    if c = ':' ∨ c = ')' then
      if minus = some true then .error .flagDanglingMinus else .ok (items, c :: r)
    else if c = '-' then
      if minus.isSome then .error .flagSecondMinus else readFlags items (some true) r
    else
      match flagOf? c with
      | none => .error .flagUnknown
      | some flag =>
        if items.any fun item => item.1 == flag then .error .flagDuplicate
        else readFlags (items ++ [(flag, minus.isNone)]) (minus.map fun _ => false) r

/-- Whether a character beyond ASCII is in a class by name. -/
def isInClass (name : String) (c : Char) : Bool :=
  match (Unicode.PropertyQuery.named name.toList).lookup with
  | .ok ranges => ranges.has c.toNat
  | .error _ => false

/-- Whether a character may stand in the name of a group. -/
def isNameChar (first : Bool) (c : Char) : Bool :=
  if c.toNat < 128 then
    if first then c == '_' || c.isAlpha
    else c == '_' || c == '.' || c == '[' || c == ']' || c.isAlphanum
  else isInClass "alphabetic" c || (!first && isInClass "number" c)

/-- The name of a group, up to and with the angle that ends it. -/
def readName (first : Bool) : Text → Except SyntaxFault (Text × Text)
  | [] => .error .nameUnclosed
  | c :: r =>
    if c = '>' then .ok ([], r)
    else if isNameChar first c then do
      let (name, rest) ← readName false r
      return (c :: name, rest)
    else .error .nameCharacter

/-- What stands behind an opening parenthesis. -/
inductive GroupStart where
  /-- A group with flags of its own, which has no number. -/
  | group (items : FlagItems)
  /-- A group with a number. -/
  | numbered
  /-- A group with a name, which has a number too. -/
  | named (name : Text)
  /-- Flags for the rest of the group around it. -/
  | flags (items : FlagItems)
  deriving DecidableEq, Repr

/-- The name of a group that no earlier group has. -/
def readNewName (names : List Text) (t : Text) : Except SyntaxFault (GroupStart × Text) := do
  let (name, rest) ← readName true t
  if name.isEmpty then .error .nameEmpty
  else if names.contains name then .error .nameDuplicate
  else return (.named name, rest)

/-- The flags of a group, behind its question mark. -/
def readGroupFlags (t : Text) : Except SyntaxFault (GroupStart × Text) :=
  if t.isEmpty then .error .groupUnclosed
  else do
    let (items, rest) ← readFlags [] none t
    match rest with
    | ')' :: rest =>
      if items.isEmpty then .error .repetitionMissing else return (.flags items, rest)
    | rest => return (.group items, rest.drop 1)

/-- The start of a group, behind its parenthesis. -/
def readGroupStart (names : List Text) (t : Text) : Except SyntaxFault (GroupStart × Text) :=
  match t with
  | '?' :: '=' :: _ => .error .lookaround
  | '?' :: '!' :: _ => .error .lookaround
  | '?' :: '<' :: '=' :: _ => .error .lookaround
  | '?' :: '<' :: '!' :: _ => .error .lookaround
  | '?' :: 'P' :: '<' :: r => readNewName names r
  | '?' :: '<' :: r => readNewName names r
  | '?' :: r => readGroupFlags r
  | _ => .ok (.numbered, t)

/-! ## Expressions -/

/-- What is open around the concatenation that is being read. -/
inductive Frame where
  /-- A group: the parts before it, whether it has a number, its flags, and whether the mode was
  verbose before it. -/
  | group (outer : List Expr) (numbered : Bool) (items : FlagItems) (verbose : Bool)
  /-- A list of alternatives, latest first. -/
  | alternatives (branches : List Expr)
  deriving DecidableEq, Repr

/-- Where the reading of an expression stands. -/
structure State where
  /-- The parts of the current concatenation, latest first. -/
  parts : List Expr
  /-- What is open around it, innermost first. -/
  frames : List Frame
  /-- Whether blanks and comments are dropped. -/
  verbose : Bool
  /-- The names of groups so far. -/
  names : List Text
  deriving DecidableEq, Repr

/-- The state before anything is read. -/
def State.start : State := ⟨[], [], false, []⟩

/-- Adds a part to the current concatenation. -/
def State.push (st : State) (part : Expr) : State := { st with parts := part :: st.parts }

/-- The current concatenation. -/
def State.concat (st : State) : Expr := .seqOf st.parts.reverse

/-- Ends an alternative and starts the next. -/
def State.nextBranch (st : State) : State :=
  match st.frames with
  | .alternatives branches :: frames =>
    { st with parts := [], frames := .alternatives (st.concat :: branches) :: frames }
  | frames => { st with parts := [], frames := .alternatives [st.concat] :: frames }

/-- Joins the alternatives on top of the stack with the current concatenation. -/
def State.body (st : State) : Expr × List Frame :=
  match st.frames with
  | .alternatives branches :: frames => (.altOf (branches.reverse ++ [st.concat]), frames)
  | frames => (st.concat, frames)

/-- Opens a group or sets flags. -/
def State.openGroup (st : State) (start : GroupStart) : State :=
  match start with
  | .flags items =>
    { st.push (.flags items) with verbose := (items.value? .verbose).getD st.verbose }
  | .group items =>
    { st with
      parts := []
      frames := .group st.parts false items st.verbose :: st.frames
      verbose := (items.value? .verbose).getD st.verbose }
  | .numbered =>
    { st with parts := [], frames := .group st.parts true [] st.verbose :: st.frames }
  | .named name =>
    { st with
      parts := []
      frames := .group st.parts true [] st.verbose :: st.frames
      names := name :: st.names }

/-- Closes a group. -/
def State.closeGroup (st : State) : Except SyntaxFault State :=
  match st.body with
  | (body, .group outer numbered items verbose :: frames) =>
    .ok { st with
      parts := .group numbered items body :: outer, frames := frames, verbose := verbose }
  | _ => .error .groupUnopened

/-- The expression that was read, if nothing is left open. -/
def State.finish (st : State) : Except SyntaxFault Expr :=
  match st.body with
  | (body, []) => .ok body
  | _ => .error .groupUnclosed

/-- Repeats the latest part. -/
def State.repeatLast (st : State) (least : Nat) (most : Option Nat) : Except SyntaxFault State :=
  match st.parts with
  | [] => .error .repetitionMissing
  | .empty :: _ => .error .repetitionMissing
  | .flags _ :: _ => .error .repetitionMissing
  | part :: parts => .ok { st with parts := .repeated part least most :: parts }

/-- Drops the question mark that makes a repetition lazy. -/
def dropLazy : Text → Text
  | '?' :: r => r
  | r => r

/-- The counts of a repetition, behind the opening brace and up to the closing one. -/
def readCounts (verbose : Bool) (t : Text) :
    Except SyntaxFault ((Nat × Option Nat) × Text) := do
  match skip verbose t with
  | [] => .error .countUnclosed
  | r =>
    let (least, r) := readCount verbose r
    let (counts, r) ← match r with
      | [] => .error .countUnclosed
      | ',' :: r =>
        match skip verbose r with
        | [] => .error .countUnclosed
        | '}' :: s => do
          let least ← least
          .ok ((least, none), '}' :: s)
        | s => do
          let least ← least
          let (most, r) := readCount verbose s
          let most ← most
          .ok ((least, some most), r)
      | r => do
        let least ← least
        .ok ((least, some least), r)
    match r with
    | '}' :: rest => .ok (counts, rest)
    | _ => .error .countUnclosed

/-- Whether the least count is no greater than the greatest. -/
def countsInOrder : Nat × Option Nat → Bool
  | (least, some most) => least ≤ most
  | (_, none) => true

/-- A counted repetition of the latest part, behind its opening brace. -/
def readRepetition (st : State) (t : Text) : Except SyntaxFault (State × Text) := do
  let _ ← st.repeatLast 0 none
  let ((least, most), rest) ← readCounts st.verbose t
  if countsInOrder (least, most) then
    let st' ← st.repeatLast least most
    return (st', dropLazy (skip st.verbose rest))
  else .error .countOrder

/-- What a primitive means as a part of an expression. -/
def Primitive.toExpr : Primitive → Expr
  | .literal lit => .literal lit
  | .assertion kind => .assertion kind
  | .dot => .dot
  | .short cls negated => .short cls negated
  | .property query negated => .property query negated

/-- The primitive that a character stands for outside of classes. -/
def primitiveOf : Char → Primitive
  | '.' => .dot
  | '^' => .assertion .caret
  | '$' => .assertion .dollar
  | c => .char c

/-- One step through an expression that is not used up. -/
def stepAt (st : State) (c : Char) (r : Text) : Except SyntaxFault (State × Text) :=
  match c with
  | '(' => do
    let (start, rest) ← readGroupStart st.names (skip st.verbose r)
    return (st.openGroup start, rest)
  | ')' => do
    let st' ← st.closeGroup
    return (st', r)
  | '|' => .ok (st.nextBranch, r)
  | '[' => do
    let (cls, rest) ← readClass st.verbose r
    return (st.push cls, rest)
  | '?' => do
    let st' ← st.repeatLast 0 (some 1)
    return (st', dropLazy r)
  | '*' => do
    let st' ← st.repeatLast 0 none
    return (st', dropLazy r)
  | '+' => do
    let st' ← st.repeatLast 1 none
    return (st', dropLazy r)
  | '{' => readRepetition st r
  | '\\' => do
    let (primitive, rest) ← readEscape st.verbose r
    return (st.push primitive.toExpr, rest)
  | c => .ok (st.push (primitiveOf c).toExpr, r)

/-- One step through an expression. -/
def step (st : State) (t : Text) : Except SyntaxFault (Progress State State) :=
  match skip st.verbose t with
  | [] => .ok (.done st [])
  | c :: r => do
    let (next, rest) ← stepAt st c r
    return .more next rest

/-- How deep an expression may be nested. -/
def nestLimit : Nat := 250

/-- Reads a regular expression. -/
def Expr.parse (t : Text) : Except SyntaxFault Expr := do
  let (st, _) ← loop .groupUnclosed step .start t
  let e ← st.finish
  if e.nesting ≤ nestLimit then return e else .error (.nestLimit nestLimit)

end UrlFilter.Regex
