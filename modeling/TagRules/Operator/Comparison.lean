import TagRules.Error
import TagRules.Value

/-!
# Comparisons

A comparison tests the value of a field, on the left, against a literal, on the right. Operands of
types that do not go together are an error.

* `Comparison.equal`, `Comparison.ordered`: by the equality and the order of the comparators.
* `Comparison.contains`, `Comparison.isIn`: membership, where two lists match if they overlap.
-/

namespace TagRules

/-- A comparison of two values. -/
abbrev Comparison := Value → Value → Except EvalError Bool

namespace Comparison

/-- The error for two operands that do not go together. -/
def mismatch (key : String) (v w : Value) : EvalError := .typeMismatch key [v.typeName, w.typeName]

/-- Whether two values are equal. -/
def equal : Comparison := fun v w =>
  match v.looseEq? w with
  | some b => .ok b
  | none => .error (mismatch "eq" v w)

/-- Whether two values differ. -/
def differ : Comparison := fun v w =>
  match v.looseEq? w with
  | some b => .ok (!b)
  | none => .error (mismatch "ne" v w)

/-- Whether the order of two values is an accepted one. Numbers without an order, of which one is a
NaN, are in none. -/
def ordered (key : String) (accept : Ordering → Bool) : Comparison := fun v w =>
  match v.order? w with
  | some o => .ok (accept o)
  | none => if v.isNumber && w.isNumber then .ok false else .error (mismatch key v w)

/-- Whether a list has an item that equals a value. -/
def listHas (items : List Value) (v : Value) : Bool :=
  items.any fun item => item.looseEq? v == some true

/-- Whether a text occurs in another one. -/
def occursIn (part : List Char) : List Char → Bool
  | [] => part.isEmpty
  | c :: cs => part.isPrefixOf (c :: cs) || occursIn part cs

/-- Whether a text contains another one, or a list an item. Of a list on the right, one item is
enough. -/
def contains : Comparison
  | .string s, .string t => .ok (occursIn t.toList s.toList)
  | .list items, .list wanted => .ok (wanted.any (listHas items))
  | .list items, w => .ok (listHas items w)
  | v, w => .error (mismatch "contains" v w)

/-- Whether a text starts with another one. -/
def startsWith : Comparison
  | .string s, .string t => .ok (t.toList.isPrefixOf s.toList)
  | v, w => .error (mismatch "startswith" v w)

/-- Whether a text ends with another one. -/
def endsWith : Comparison
  | .string s, .string t => .ok (t.toList.isSuffixOf s.toList)
  | v, w => .error (mismatch "endswith" v w)

/-- Whether a value is an item of a list. Of a list on the left, one item is enough. -/
def isIn : Comparison
  | .list items, .list set => .ok (items.any (listHas set))
  | v, .list set => .ok (listHas set v)
  | v, w => .error (mismatch "in" v w)

/-- Whether a value is no item of a list. -/
def isNotIn : Comparison := fun v w =>
  match isIn v w with
  | .ok b => .ok (!b)
  | .error _ => .error (mismatch "not_in" v w)

end Comparison

end TagRules
