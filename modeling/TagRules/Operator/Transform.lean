import TagRules.Error
import TagRules.Text.Case
import TagRules.Value

/-!
# Transforms

A transform changes a value before it is compared. It is a partial function: a value of a type that
it does not take is an error.

* `Transform.standard`: the transforms of the standard registry, with their keys.
-/

namespace TagRules

/-- A transform of values. -/
abbrev Transform := Value → Except EvalError Value

namespace Transform

/-- A transform of texts. -/
def ofText (key : String) (f : String → String) : Transform
  | .string s => .ok (.string (f s))
  | v => .error (.typeMismatch key [v.typeName])

/-- A transform that takes a part of a date. -/
def ofDate (key : String) (f : Date → Int) : Transform
  | .date d => .ok (.int (Int64.ofInt (f d)))
  | v => .error (.typeMismatch key [v.typeName])

/-- The magnitude of an integer. That of the least integer does not fit, and the greatest integer
stands for it. -/
def magnitude (n : Int64) : Int64 := if n = Int64.minValue then Int64.maxValue else n.abs

/-- The magnitude of a number. -/
def abs : Transform
  | .int n => .ok (.int (magnitude n))
  | .float x => .ok (.float x.abs)
  | v => .error (.typeMismatch "abs" [v.typeName])

/-- The transforms of the standard registry. -/
def standard : List (String × Transform) :=
  [("lower", ofText "lower" Text.lower), ("upper", ofText "upper" Text.upper),
    ("strip", ofText "strip" Text.strip), ("abs", abs),
    ("year", ofDate "year" Date.year), ("month", ofDate "month" (·.month)),
    ("day", ofDate "day" (·.day)), ("weekday", ofDate "weekday" (·.weekday))]

end Transform

end TagRules
