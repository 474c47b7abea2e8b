import TagRules.Calendar.Written
import TagRules.Decimal.Layout
import TagRules.Text.Quoted

/-!
# Values

What a field of a record holds, and what a condition compares it with. Equality of values is
structural: an integer differs from every float, a NaN equals itself and the two zeros differ.
The comparators use an equality and an order of their own, under which numbers compare by value.

* `Value.looseEq?`: the equality of the comparators, undefined for values of unlike types.
* `Value.order?`: the order of the comparators, undefined for values without one.
* `Value.render`: the written form.
-/

namespace TagRules

/-- A value of a field. -/
inductive Value where
  /-- No value. -/
  | null
  /-- An integer of 64 bits. -/
  | int (n : Int64)
  /-- A binary floating-point number. -/
  | float (x : Binary64)
  /-- A truth value. -/
  | bool (b : Bool)
  /-- A text. -/
  | string (s : String)
  /-- A calendar date. -/
  | date (d : Date)
  /-- A list of values. -/
  | list (items : List Value)
deriving Inhabited

namespace Value

mutual

/-- Structural equality. -/
def same : Value → Value → Bool
  | .null, .null => true
  | .int m, .int n => m == n
  | .float x, .float y => x == y
  | .bool a, .bool b => a == b
  | .string s, .string t => s == t
  | .date d, .date e => d == e
  | .list vs, .list ws => sameList vs ws
  | _, _ => false

/-- Structural equality of lists. -/
def sameList : List Value → List Value → Bool
  | [], [] => true
  | v :: vs, w :: ws => same v w && sameList vs ws
  | _, _ => false

end

mutual

theorem same_iff_eq : ∀ v w : Value, same v w = true ↔ v = w
  | .null, w => by cases w <;> simp [same]
  | .int m, w => by cases w <;> simp [same]
  | .float x, w => by cases w <;> simp [same]
  | .bool b, w => by cases w <;> simp [same]
  | .string s, w => by cases w <;> simp [same]
  | .date d, w => by cases w <;> simp [same]
  | .list vs, w => by
    cases w with
    | list ws => simp [same, sameList_iff_eq vs ws]
    | _ => simp [same]

theorem sameList_iff_eq : ∀ vs ws : List Value, sameList vs ws = true ↔ vs = ws
  | [], ws => by cases ws <;> simp [sameList]
  | v :: vs, ws => by
    cases ws with
    | nil => simp [sameList]
    | cons w ws => simp [sameList, same_iff_eq v w, sameList_iff_eq vs ws]

end

instance : DecidableEq Value := fun v w => decidable_of_iff _ (same_iff_eq v w)

/-- The name of the type of a value. -/
def typeName : Value → String
  | .null => "null"
  | .int _ => "int"
  | .float _ => "float"
  | .bool _ => "bool"
  | .string _ => "string"
  | .date _ => "date"
  | .list _ => "list"

/-- Whether there is no value. -/
def isNull : Value → Bool
  | .null => true
  | _ => false

/-- The text, if the value is one. -/
def asString? : Value → Option String
  | .string s => some s
  | _ => none

/-- The items, if the value is a list. -/
def asList? : Value → Option (List Value)
  | .list items => some items
  | _ => none

/-- The texts among the items, if the value is a list. -/
def strings : Value → List String
  | .list items => items.filterMap asString?
  | _ => []

/-- The list of some texts. -/
def ofStrings (texts : List String) : Value := .list (texts.map .string)

/-- Whether the value is a number. -/
def isNumber : Value → Bool
  | .int _ | .float _ => true
  | _ => false

/-- The binary number that an integer is compared as with a float: the nearest one. -/
def widen (n : Int64) : Binary64 := .ofInt n.toInt

/-- The order of the comparators. Only numbers, texts and dates have one, each among themselves,
and a NaN has none. -/
def order? : Value → Value → Option Ordering
  | .int m, .int n => some (compare m.toInt n.toInt)
  | .float x, .float y => x.compare? y
  | .int m, .float y => (widen m).compare? y
  | .float x, .int n => x.compare? (widen n)
  | .string s, .string t => some (compare s t)
  | .date d, .date e => some (d.order e)
  | _, _ => none

/-- The equality of the comparators. Numbers are compared by value and lists structurally; nothing
but null equals null. It is undefined for other values of unlike types. -/
def looseEq? : Value → Value → Option Bool
  | .null, w => some w.isNull
  | v, .null => some v.isNull
  | .int m, .float y => some ((widen m).numEq y)
  | .float x, .int n => some (x.numEq (widen n))
  | .float x, .float y => some (x.numEq y)
  | .int m, .int n => some (m == n)
  | .bool a, .bool b => some (a == b)
  | .string s, .string t => some (s == t)
  | .date d, .date e => some (d == e)
  | .list vs, .list ws => some (sameList vs ws)
  | _, _ => none

/-- Floats are written positionally from `0.0001` to below `10 ^ 16`, and of two nearest decimals
the larger one is taken. -/
def floatLayout : Layout := ⟨-4, 16, false, .up⟩

mutual

/-- The written form of a value. -/
def render : Value → String
  | .null => "null"
  | .int n => toString n.toInt
  | .float x => floatLayout.write x
  | .bool b => if b then "true" else "false"
  | .string s => Text.quote s
  | .date d => d.write
  | .list items => "[" ++ ", ".intercalate (renderList items) ++ "]"

/-- The written forms of the items of a list. -/
def renderList : List Value → List String
  | [] => []
  | v :: rest => render v :: renderList rest

end

end Value

end TagRules
