import TagRules.Operator.Comparison
import TagRules.Pattern.Match
import TagRules.Pattern.Reader

/-!
# Comparators

A comparator is a comparison of two values, or the test whether a pattern occurs in a text. The
literal of a pattern is read once, before any value is tested.

* `Comparator.bind`: a comparator with its literal.
* `Predicate.test`: tests a value, where null is never a match.
* `Comparator.standard`: the comparators of the standard registry, with their keys.
-/

namespace TagRules

/-- How the value of a field is compared. -/
inductive Comparator where
  /-- By a function of the value and the literal. -/
  | binary (f : Comparison)
  /-- By the pattern that the literal is. -/
  | pattern

/-- A comparator with its literal. -/
inductive Predicate where
  /-- A comparison with a literal. -/
  | binary (f : Comparison) (literal : Value)
  /-- A pattern. -/
  | pattern (p : Pattern)

/-- A literal that is no pattern. -/
structure InvalidPattern where
  /-- The literal. -/
  pattern : String
  /-- What is wrong with it. -/
  fault : PatternFault
deriving DecidableEq, Repr

/-- The pattern of a literal. -/
def InvalidPattern.orPattern (literal : Value) : Except InvalidPattern Pattern :=
  match literal with
  | .string s =>
    match Pattern.read? s with
    | some p => .ok p
    | none => .error ⟨s, .malformed⟩
  | v => .error ⟨v.render, .notText⟩

/-- A comparator with its literal. -/
def Comparator.bind (literal : Value) : Comparator → Except InvalidPattern Predicate
  | .binary f => .ok (.binary f literal)
  | .pattern => .pattern <$> InvalidPattern.orPattern literal

/-- Whether a value that is not null passes a predicate. -/
def Predicate.testValue (v : Value) : Predicate → Except EvalError Bool
  | .binary f literal => f v literal
  | .pattern p =>
    match v with
    | .string s => .ok (p.occursIn s)
    | v => .error (.typeMismatch "regex" [v.typeName])

/-- Whether a value passes a predicate. Null never does. -/
def Predicate.test (p : Predicate) (v : Value) : Except EvalError Bool :=
  if v.isNull then .ok false else p.testValue v

namespace Comparator

open Comparison

/-- The comparators of the standard registry. -/
def standard : List (String × Comparator) :=
  [("eq", .binary equal), ("ne", .binary differ), ("gt", .binary (ordered "gt" (· == .gt))),
    ("ge", .binary (ordered "ge" (· != .lt))), ("lt", .binary (ordered "lt" (· == .lt))),
    ("le", .binary (ordered "le" (· != .gt))), ("contains", .binary Comparison.contains),
    ("startswith", .binary startsWith), ("endswith", .binary endsWith), ("regex", .pattern),
    ("in", .binary isIn), ("not_in", .binary isNotIn)]

end Comparator

end TagRules
