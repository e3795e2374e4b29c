import UrlFilter.Regex.Layout
import UrlFilter.Regex.Shape

/-!
# The size of a compiled expression

An expression is compiled to two programs, one that reads a text forward and one that reads it
backward.  `Regex.fits` says whether both of them stay within the limit of bytes.

The programs are laid out from the shape of the expression.  A repetition lays out its body again
for each time that it counts.
-/

namespace UrlFilter.Regex

/-! ## Laying out -/

/-- Lays out what joins an alternative to those before it: from the second on there is a state that
passes on to each, and one where all end. -/
def layBranch : Nat → Layout → Option Layout
  | 0, l => some l
  | 1, l => l.grow 2 (2 * branchBytes)
  | _ + 2, l => l.grow 0 branchBytes

/-- Lays out a part exactly so many times. -/
def layExactly (lay : Layout → Option Layout) (n : Nat) (l : Layout) : Option Layout :=
  if n = 0 then l.grow 1 0 else layRepeatedly lay n l

/-- Lays out a part so many times, and then as often as it likes. -/
def layAtLeast (lay : Layout → Option Layout) (readsSome : Bool) (n : Nat) (l : Layout) :
    Option Layout := do
  if n = 0 then
    if readsSome then
      let l ← l.grow 1 (2 * branchBytes)
      lay l
    else
      let l ← lay l
      l.grow 3 (4 * branchBytes)
  else
    let l ← layRepeatedly lay n l
    l.grow 1 (2 * branchBytes)

/-- Lays out a part so many times, and then up to so many times more. -/
def layBetween (lay : Layout → Option Layout) (n more : Nat) (l : Layout) : Option Layout := do
  let l ← layExactly lay n l
  if more = 0 then return l
  else
    let l ← l.grow 1 0
    layRepeatedly (fun l => (l.grow 1 (2 * branchBytes)).bind lay) more l

/-- Lays out a part that may be left out. -/
def layOptional (lay : Layout → Option Layout) (l : Layout) : Option Layout := do
  let l ← l.grow 1 (2 * branchBytes)
  let l ← lay l
  l.grow 1 0

/-- Lays out a shape, which is the alternative of the given index in a choice; index 0 also stands
for a shape outside of choices. -/
def Shape.lay (backward : Bool) : Shape → Nat → Layout → Option Layout
  | .empty, i, l => (l.grow 1 0).bind (layBranch i)
  | .look _, i, l => (l.grow 1 0).bind (layBranch i)
  | .literal text, i, l => (l.grow (bytesOf text).length 0).bind (layBranch i)
  | .set ranges, i, l => (layClass backward ranges l).bind (layBranch i)
  | .words texts, i, l => (layWords backward texts l).bind (layBranch i)
  | .seq first rest, i, l => do
    let l ← if backward then rest.lay backward 0 l else first.lay backward 0 l
    let l ← if backward then first.lay backward 0 l else rest.lay backward 0 l
    layBranch i l
  | .alt first rest, i, l => do
    let l ← first.lay backward 0 l
    let l ← layBranch i l
    rest.lay backward (i + 1) l
  | .repeated body least most, i, l => do
    let lay := body.lay backward 0
    let l ← match most with
      | none => layAtLeast lay body.readsSome least l
      | some most =>
        if least = 0 ∧ most = 1 then layOptional lay l
        else layBetween lay least (most - least) l
    layBranch i l
  | .group body, i, l => do
    let l ← if backward then some l else l.grow 1 0
    let l ← body.lay backward 0 l
    let l ← if backward then some l else l.grow 1 0
    layBranch i l

/-- Lays out a whole program.  In front stands a loop that skips what comes before a match, unless
every match starts where the text does. -/
def Shape.layProgram (backward : Bool) (s : Shape) : Option Layout := do
  let anchored := s.startsWith backward (if backward then .textEnd else .textStart)
  let l := Layout.mk 0 0
  let l ← if anchored then l.grow 1 0 else l.grow 3 (2 * branchBytes + transitionBytes)
  let l ← Shape.lay backward (.group s) 0 l
  l.grow 1 0

/-! ## Fitting -/

/-- From how many words on a list of words is searched for without a program. -/
def manyWords : Nat := 3000

/-- Whether a shape needs no program. -/
def Shape.isManyWords : Shape → Bool
  | .words texts => manyWords ≤ texts.length
  | _ => false

/-- A bound on the bytes of either program, which is worked out faster than they are. -/
def sizeBound : Regex → Nat
  | empty | look _ => 32
  | char set => 4096 + 1024 * set.rangeBound
  | seq first second => first.sizeBound + second.sizeBound
  | alt left right => left.sizeBound + right.sizeBound + 80
  | repeated body least most => (body.sizeBound + 128) * (max 1 (most.getD (least + 1)))
  | group _ body => body.sizeBound + 64

/-- Whether the programs of an expression stay within the limit of sizes. -/
def fits (r : Regex) : Bool :=
  r.sizeBound + 1024 ≤ sizeLimit || r.shape.isManyWords ||
    ((r.shape.layProgram false).isSome && (r.shape.layProgram true).isSome)

end UrlFilter.Regex
