import UrlFilter.Lru
import UrlFilter.Rule.Batch
import UrlFilter.Url

/-!
# Rule sets

A rule set decides about URLs.  The first of its rules that matches a URL decides about it, and a
URL that no rule matches is allowed.  The rules are kept in the order in which they are tried:
exceptions stand in front of all others, and otherwise the order is that of their arrival.

Decisions are remembered under the URL, without the blanks at its ends.  New rules make a rule set
forget them all.
-/

namespace UrlFilter

/-- The rule that decides about a URL. -/
structure Decision where
  /-- What the rule is for. -/
  kind : RuleKind
  /-- The line of the rule. -/
  rule : Text
  deriving DecidableEq, Repr

/-- Whether a decision blocks the URL. -/
def Decision.isBlocked (d : Decision) : Bool := d.kind == .blocking

/-- Rules in the order in which they are tried, and the decisions that are remembered. -/
structure RuleSet where
  /-- The rules, exceptions first. -/
  rules : List Rule
  /-- What was decided about the URLs that were asked about last. -/
  decisions : Lru Text (Option Decision)
  deriving Repr

namespace RuleSet

/-- How many decisions are remembered unless told otherwise. -/
def defaultCacheSize : Nat := 1024

/-- The rule set without rules, which remembers so many decisions. -/
def empty (cacheSize : Nat) : RuleSet := ⟨[], .empty cacheSize⟩

/-- The number of rules. -/
def size (s : RuleSet) : Nat := s.rules.length

/-- Whether there are no rules. -/
def isEmpty (s : RuleSet) : Bool := s.rules.isEmpty

/-! ## Rules -/

/-- Rules in the order in which they are tried: exceptions first. -/
def evaluationOrder (rules : List Rule) : List Rule :=
  rules.filter Rule.isException ++ rules.filter fun r => !r.isException

/-- Adds rules behind those that are there. -/
def extend (s : RuleSet) (rules : List Rule) : RuleSet :=
  ⟨evaluationOrder (s.rules ++ rules), s.decisions.clear⟩

/-- Adds the rules of a batch of lines. -/
def addRules (s : RuleSet) (lines : List Text) : Report × RuleSet :=
  let batch := Batch.ofLines lines
  (batch.report, s.extend batch.rules)

/-- The rule set of a batch of lines. -/
def ofLines (cacheSize : Nat) (lines : List Text) : RuleSet := ((empty cacheSize).addRules lines).2

/-! ## Decisions -/

/-- The decision of the first rule that matches a URL. -/
def decide (rules : List Rule) (url : Text) : Option Decision :=
  (rules.find? fun r => r.accepts url).map fun r => ⟨r.kind, r.source⟩

/-- What is decided about a URL that has been trimmed; the answer is remembered. -/
def lookup (s : RuleSet) (url : Text) : Option Decision × RuleSet :=
  match s.decisions.get? url with
  | some answer => (answer, ⟨s.rules, s.decisions.touch url⟩)
  | none =>
    let answer := decide s.rules url
    (answer, ⟨s.rules, s.decisions.insert url answer⟩)

/-- What is decided about the URL that a text asks about. -/
def query (s : RuleSet) (url : Text) : Except InvalidUrl (Option Decision) × RuleSet :=
  match Url.trimQuery url with
  | .error e => (.error e, s)
  | .ok url =>
    let (answer, s) := s.lookup url
    (.ok answer, s)

/-- Whether an answer blocks. -/
def blocks (answer : Option Decision) : Bool := answer.any Decision.isBlocked

/-- Whether a URL should be blocked. -/
def shouldBlock (s : RuleSet) (url : Text) : Except InvalidUrl Bool × RuleSet :=
  let (answer, s) := s.query url
  (answer.map blocks, s)

/-- Whether a URL should be let through. -/
def shouldNotBlock (s : RuleSet) (url : Text) : Except InvalidUrl Bool × RuleSet :=
  let (answer, s) := s.shouldBlock url
  (answer.map (!·), s)

/-- Forgets all decisions. -/
def clearCache (s : RuleSet) : RuleSet := ⟨s.rules, s.decisions.clear⟩

end RuleSet

end UrlFilter
