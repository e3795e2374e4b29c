import Std.Data.HashMap
import UrlFilter.Regex.ByteRange

/-!
# Layouts of programs

A *program* is made of numbered states: a state reads a byte, tests what stands around it, or passes
on to one or more other states.  Nothing of a program is kept here but its `Layout`: how many states
it has, and how many bytes they take.  Laying out stops as soon as a limit of bytes is passed.

A class beyond ASCII is laid out byte by byte, and its equal parts share their states as far as a
`Memo` knows them.  A memo has a number of slots with one entry each.  A key belongs into the slot
of its hash, so a later entry can drive out an earlier one, whose states are then laid out again.

A list of words is laid out as a tree, in which words that start alike share their first states.
-/

namespace UrlFilter.Regex

/-- How much of a program is laid out. -/
structure Layout where
  /-- The number of states. -/
  states : Nat
  /-- The bytes that they take. -/
  bytes : Nat
  deriving DecidableEq, Repr

/-- How many bytes a program may take. -/
def sizeLimit : Nat := 10485760

/-- How many bytes every state takes. -/
def stateBytes : Nat := 32

/-- How many bytes a range of bytes takes in a state that has a list of them. -/
def transitionBytes : Nat := 8

/-- How many bytes the number of a state takes in a state that has a list of them. -/
def branchBytes : Nat := 4

/-- Lays out so many states, with so many bytes beside; `none` where they pass the limit. -/
def Layout.grow (states bytes : Nat) (l : Layout) : Option Layout :=
  let total := l.bytes + stateBytes * states + bytes
  if total ≤ sizeLimit then some ⟨l.states + states, total⟩ else none

/-- Lays out the same part so many times in a row. -/
def layRepeatedly (lay : Layout → Option Layout) : Nat → Layout → Option Layout
  | 0, l => some l
  | n + 1, l =>
    match lay l with
    | some l => layRepeatedly lay n l
    | none => none

/-! ## Memos -/

/-- What is known of states that have been laid out. -/
structure Memo where
  /-- The number of slots. -/
  slots : Nat
  /-- The key and the state in each slot that is taken. -/
  entries : Std.HashMap Nat (List Nat × Nat)

namespace Memo

/-- A memo with so many slots, all of them free. -/
def ofSlots (slots : Nat) : Memo := ⟨slots, ∅⟩

/-- The slot of a key, by the hash FNV-1a over its numbers. -/
def slot (m : Memo) (key : List Nat) : Nat :=
  let hash := key.foldl (fun (h : UInt64) n => (h ^^^ n.toUInt64) * 1099511628211)
    14695981039346656037
  hash.toNat % m.slots

/-- The state that is known for a key. -/
def find? (m : Memo) (key : List Nat) : Option Nat :=
  match m.entries[m.slot key]? with
  | some (known, state) => if known = key then some state else none
  | none => none

/-- Notes the state for a key, in place of what was in its slot. -/
def insert (m : Memo) (key : List Nat) (state : Nat) : Memo :=
  { m with entries := m.entries.insert (m.slot key) (key, state) }

end Memo

/-- The state for a key: the known one, or a new one with so many bytes beside. -/
def shareState (key : List Nat) (bytes : Nat) (l : Layout) (m : Memo) :
    Option (Nat × Layout × Memo) :=
  match m.find? key with
  | some state => some (state, l, m)
  | none => (l.grow 1 bytes).map fun grown => (l.states, grown, m.insert key l.states)

/-! ## Classes -/

/-- Sequences grouped by their first ranges: what follows each first range. -/
def groupHeads : List (List ByteRange) → List (ByteRange × List (List ByteRange))
  | [] => []
  | [] :: rest => groupHeads rest
  | (r :: tail) :: rest =>
    match groupHeads rest with
    | [] => [(r, [tail])]
    | (s, tails) :: groups =>
      if r = s then (s, tail :: tails) :: groups else (r, [tail]) :: (s, tails) :: groups

/-- Lays out sequences as a tree of so great a depth, from its leaves to its root.  All paths end in
one state.  A node is known by its ranges and the states behind them. -/
def layTree (target : Nat) : Nat → List (List ByteRange) → Layout → Memo →
    Option (Nat × Layout × Memo)
  | 0, _, l, m => some (target, l, m)
  | depth + 1, sequences, l, m => do
    let groups := groupHeads sequences
    let (key, l, m) ← groups.foldlM (fun (key, l, m) (r, tails) => do
      let (state, l, m) ←
        if tails.all List.isEmpty then some (target, l, m) else layTree target depth tails l m
      return (key ++ [r.1, r.2, state], l, m)) (([], l, m) : List Nat × Layout × Memo)
    shareState key (transitionBytes * groups.length) l m

/-- Lays out a sequence as a chain that ends in a state.  A link is known by its range and the state
behind it. -/
def layChain : List ByteRange → Nat → Layout → Memo → Option (Layout × Memo)
  | [], _, l, m => some (l, m)
  | r :: rest, state, l, m => do
    let (state, l, m) ← shareState [state, r.1, r.2] 0 l m
    layChain rest state l m

/-- How many slots the memo of a tree has. -/
def treeSlots : Nat := 10000

/-- How many slots the memo of chains has. -/
def chainSlots : Nat := 1000

/-- The greatest number of bytes in a sequence. -/
def treeDepth : Nat := 4

/-- Lays out sequences of ranges of bytes: forward as a tree, and backward as chains, which start in
a state of their own that passes on to each. -/
def laySequences (backward : Bool) (sequences : List (List ByteRange)) (l : Layout) :
    Option Layout :=
  if backward then do
    let grown ← l.grow 2 0
    let (grown, _) ← sequences.foldlM (fun (l, m) sequence => do
      let (l, m) ← layChain sequence (grown.states - 1) l m
      let l ← l.grow 0 branchBytes
      return (l, m)) (grown, Memo.ofSlots chainSlots)
    return grown
  else do
    let grown ← l.grow 1 0
    let (_, grown, _) ← layTree l.states treeDepth sequences grown (Memo.ofSlots treeSlots)
    return grown

/-- Lays out a class.  One of ASCII characters needs no more than a list of its ranges. -/
def layClass (backward : Bool) (ranges : Unicode.Ranges) (l : Layout) : Option Layout :=
  if ranges.all fun r => r.2 < 0x80 then l.grow 2 (transitionBytes * ranges.length)
  else laySequences backward (byteSequences ranges) l

/-! ## Words -/

/-- Words without those at their start that end at once, the first of them apart. -/
def dropRepeatedEnds : List (List Nat) → List (List Nat)
  | [] :: words => [] :: words.dropWhile List.isEmpty
  | words => words

/-- The words that start with a byte, without it. -/
def wordsBehind (byte : Nat) (words : List (List Nat)) : List (List Nat) :=
  words.filterMap fun
    | [] => none
    | b :: rest => if b = byte then some rest else none

/-- Lays out the node of a tree of so great a depth from which some words go on.

A word that ends at the node closes the *chunk* of the words in front of it, so that the words
behind it share no states with them.  Each chunk has a state for the bytes that its words start
with, and one more state passes on to the chunks and, between them, to the end of the tree. -/
def layWordNode : Nat → List (List Nat) → Layout → Option Layout
  | 0, _, l => some l
  | depth + 1, words, l =>
    if words.all List.isEmpty then some l
    else do
      let chunks := (dropRepeatedEnds words).splitOnP List.isEmpty
      let filled := chunks.filter fun chunk => !chunk.isEmpty
      let l ← filled.foldlM (fun l chunk => do
        let bytes := (chunk.filterMap List.head?).eraseDups
        let l ← l.grow 1 (if bytes.length = 1 then 0 else transitionBytes * bytes.length)
        bytes.foldlM (fun l byte => layWordNode depth (wordsBehind byte chunk) l) l) l
      l.grow 1 (branchBytes * (filled.length + (chunks.length - 1)))

/-- Lays out a list of words, read from behind if `backward`.  The tree has one state for its
end. -/
def layWords (backward : Bool) (texts : List (List Nat)) (l : Layout) : Option Layout := do
  let words := texts.map fun text => if backward then (bytesOf text).reverse else bytesOf text
  let l ← l.grow 1 0
  layWordNode ((words.map List.length).max?.getD 0) words l

end UrlFilter.Regex
