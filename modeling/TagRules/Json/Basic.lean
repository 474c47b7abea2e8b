import TagRules.Assoc
import TagRules.Decimal.Binary64

/-!
# JSON values

An integer is kept exactly while it fits 64 bits; any other number is a finite binary number.

* `Json.WellFormed`: every object lists its keys in ascending order, each once.
-/

namespace TagRules

/-- A number of a JSON text. -/
inductive Json.Number where
  /-- An integer that fits 64 bits, with or without sign. -/
  | integer (n : Int) (inRange : -0x8000000000000000 ≤ n ∧ n < 0x10000000000000000)
  /-- Any other number, rounded. -/
  | float (x : Binary64) (finite : x.isFinite = true)
deriving DecidableEq

/-- A JSON value. -/
inductive Json where
  /-- The null value. -/
  | null
  /-- A truth value. -/
  | bool (b : Bool)
  /-- A number. -/
  | number (n : Json.Number)
  /-- A text. -/
  | string (s : String)
  /-- A list of values. -/
  | array (items : List Json)
  /-- Values under keys. -/
  | object (fields : List (String × Json))

namespace Json

mutual

/-- Every object in the value lists its keys in ascending order. -/
def WellFormed : Json → Prop
  | .null | .bool _ | .number _ | .string _ => True
  | .array items => WellFormedItems items
  | .object fields => Assoc.Ascending fields ∧ WellFormedFields fields

/-- Every value of a list is well formed. -/
def WellFormedItems : List Json → Prop
  | [] => True
  | j :: rest => WellFormed j ∧ WellFormedItems rest

/-- Every value of an object is well formed. -/
def WellFormedFields : List (String × Json) → Prop
  | [] => True
  | (_, j) :: rest => WellFormed j ∧ WellFormedFields rest

end

/-- Whether the value is a list. -/
def isArray : Json → Bool
  | .array _ => true
  | _ => false

end Json

end TagRules
