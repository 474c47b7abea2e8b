import TagRules.Text.Property

/-!
# Quoted texts

A text between quotation marks, in which the quotation mark, the backslash, some control
characters and all characters that do not show by themselves are escaped.

* `quote`: the quoted form of a text.
-/

namespace TagRules.Text

/-- A number in hexadecimal with small letters. -/
def hex (n : Nat) : String := String.ofList (Nat.toDigits 16 n)

/-- The form of one character inside a quoted text. -/
def quoteChar (c : Char) : String :=
  if c = '\x00' then "\\0"
  else if c = '\t' then "\\t"
  else if c = '\r' then "\\r"
  else if c = '\n' then "\\n"
  else if c = '"' then "\\\""
  else if c = '\\' then "\\\\"
  else if 0x20 ≤ c.toNat ∧ c.toNat < 0x7F then c.toString
  else if joining.contains c || !printable.contains c then
    "\\u\x7b" ++ hex c.toNat ++ "\x7d"
  else c.toString

/-- A text in quotation marks. -/
def quote (s : String) : String := "\"" ++ String.join (s.toList.map quoteChar) ++ "\""

end TagRules.Text
