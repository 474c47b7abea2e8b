import TagRules.Malformation
import TagRules.Value

/-!
# Stored literals

A literal is stored as the JSON value of its kind. A date is an object with the single key `date`,
so that it differs from a text.

* `Value.toJson`: the stored form of a literal. A float that is not finite has none.
* `Value.ofJson`: the literal of a stored form.
-/

namespace TagRules.Value

/-- The key of a stored date. -/
def dateKey : String := "date"

mutual

/-- The stored form of a literal. -/
def toJson : Value → Except Malformation Json
  | .null => .ok .null
  | .int n =>
    .ok (.number (.integer n.toInt
      ⟨n.le_toInt, Int.lt_trans n.toInt_lt (by decide)⟩))
  | .float x =>
    if h : x.isFinite = true then .ok (.number (.float x h)) else .error (.unstorableFloat x)
  | .bool b => .ok (.bool b)
  | .string s => .ok (.string s)
  | .date d => .ok (.object [(dateKey, .string d.write)])
  | .list items => .array <$> toJsonItems items

/-- The stored forms of the items of a list. -/
def toJsonItems : List Value → Except Malformation (List Json)
  | [] => .ok []
  | v :: rest => do
    let j ← toJson v
    let js ← toJsonItems rest
    return j :: js

end

/-- The literal of a stored number. An integer that does not fit is rounded to a float. -/
def ofNumber : Json.Number → Value
  | .integer n _ => if n < 0x8000000000000000 then .int (Int64.ofInt n) else .float (.ofInt n)
  | .float x _ => .float x

mutual

/-- The literal of a stored form. -/
def ofJson : Json → Except Malformation Value
  | .null => .ok .null
  | .bool b => .ok (.bool b)
  | .number n => .ok (ofNumber n)
  | .string s => .ok (.string s)
  | .array items => .list <$> ofJsonItems items
  | .object fields =>
    match fields with
    | [(key, .string s)] =>
      if key = dateKey then
        match Date.read s with
        | .ok d => .ok (.date d)
        | .error fault => .error (.storedDate s fault)
      else .error (.storedLiteral (.object fields))
    | _ => .error (.storedLiteral (.object fields))

/-- The literals of the items of a list. -/
def ofJsonItems : List Json → Except Malformation (List Value)
  | [] => .ok []
  | j :: rest => do
    let v ← ofJson j
    let vs ← ofJsonItems rest
    return v :: vs

end

end TagRules.Value
