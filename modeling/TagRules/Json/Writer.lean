import TagRules.Decimal.Layout
import TagRules.Json.Basic
import TagRules.Text.Quoted

/-!
# Writing JSON texts

Values are written without blanks, and the fields of an object in the order of their keys.

* `Json.write`: the text of a value.
-/

namespace TagRules.Json

/-- Floats are written positionally from `0.00001` to below `10 ^ 16`, positive exponents have a
sign, and of two nearest decimals the one with the even last digit is taken. -/
def floatLayout : Layout := ⟨-5, 16, true, .even⟩

/-- The form of one character inside a text. -/
def escape (c : Char) : String :=
  if c = '"' then "\\\""
  else if c = '\\' then "\\\\"
  else if c = '\x08' then "\\b"
  else if c = '\x0c' then "\\f"
  else if c = '\n' then "\\n"
  else if c = '\r' then "\\r"
  else if c = '\t' then "\\t"
  else if c.toNat < 0x10 then "\\u000" ++ Text.hex c.toNat
  else if c.toNat < 0x20 then "\\u00" ++ Text.hex c.toNat
  else c.toString

/-- A text in quotation marks. -/
def writeString (s : String) : String := "\"" ++ String.join (s.toList.map escape) ++ "\""

/-- The text of a number. -/
def Number.write : Number → String
  | .integer n _ => toString n
  | .float x _ => floatLayout.write x

mutual

/-- The text of a value. -/
def write : Json → String
  | .null => "null"
  | .bool b => if b then "true" else "false"
  | .number n => n.write
  | .string s => writeString s
  | .array items => "[" ++ ",".intercalate (writeItems items) ++ "]"
  | .object fields => "\x7b" ++ ",".intercalate (writeFields fields) ++ "\x7d"

/-- The texts of the items of a list. -/
def writeItems : List Json → List String
  | [] => []
  | j :: rest => write j :: writeItems rest

/-- The texts of the fields of an object. -/
def writeFields : List (String × Json) → List String
  | [] => []
  | (k, j) :: rest => (writeString k ++ ":" ++ write j) :: writeFields rest

end

end TagRules.Json
