import TagRules.Json.Numeral

/-!
# Tokens of JSON texts

A text is read character by character. The state of the reading is the token under way and the
tokens before it.

* `Json.Token.scan?`: the tokens of a text.
-/

namespace TagRules.Json

/-- A token. -/
inductive Token where
  /-- A bracket, a brace, a colon or a comma. -/
  | mark (c : Char)
  /-- A text. -/
  | string (s : String)
  /-- A null value, a truth value or a number. -/
  | scalar (j : Json)

namespace Token

/-- What is being read. Characters that are already read stand in reverse order. -/
inductive Mode where
  /-- The space between tokens. -/
  | between
  /-- A word or a numeral. -/
  | word (read : List Char)
  /-- A text. -/
  | text (read : List Char)
  /-- A text, after a backslash. -/
  | escape (read : List Char)
  /-- A text, inside an escape by number: how many digits are missing, the number so far, and the
  first half of a pair, if there was one. -/
  | code (read : List Char) (missing value : Nat) (high : Option Nat)
  /-- A text, after the first half of a pair. -/
  | pair (read : List Char) (high : Nat)
  /-- A text, after the first half of a pair and a backslash. -/
  | pairEscape (read : List Char) (high : Nat)

/-- Whether a character belongs to words and numerals. -/
def isWordChar (c : Char) : Bool := c.isAlphanum || c = '+' || c = '-' || c = '.'

/-- The token of a word or a numeral. -/
def ofWord? (cs : List Char) : Option Token :=
  match String.ofList cs with
  | "null" => some (.scalar .null)
  | "true" => some (.scalar (.bool true))
  | "false" => some (.scalar (.bool false))
  | _ => (Number.ofNumeral? cs).map fun n => .scalar (.number n)

/-- Reads a character between two tokens. -/
def begin? (done : List Token) (c : Char) : Option (List Token × Mode) :=
  if c = ' ' ∨ c = '\t' ∨ c = '\n' ∨ c = '\r' then some (done, .between)
  else if c = '"' then some (done, .text [])
  else if c ∈ ['[', ']', '\x7b', '\x7d', ':', ','] then some (.mark c :: done, .between)
  else if isWordChar c then some (done, .word [c])
  else none

/-- The character that a letter after a backslash stands for. -/
def escaped? : Char → Option Char
  | '"' => some '"'
  | '\\' => some '\\'
  | '/' => some '/'
  | 'b' => some '\x08'
  | 'f' => some '\x0c'
  | 'n' => some '\n'
  | 'r' => some '\r'
  | 't' => some '\t'
  | _ => none

/-- The value of a hexadecimal digit. -/
def hexDigit? (c : Char) : Option Nat :=
  if c.isDigit then some (c.toNat - '0'.toNat)
  else if 'a' ≤ c ∧ c ≤ 'f' then some (c.toNat - 'a'.toNat + 10)
  else if 'A' ≤ c ∧ c ≤ 'F' then some (c.toNat - 'A'.toNat + 10)
  else none

/-- Goes on after an escape by number. Two numbers of a pair stand for one character, and neither
may stand alone. -/
def finishCode? (read : List Char) (value : Nat) (high : Option Nat) : Option Mode :=
  let isLow := 0xDC00 ≤ value ∧ value < 0xE000
  match high with
  | some h =>
    if isLow then
      some (.text (Char.ofNat (0x10000 + (h - 0xD800) * 0x400 + (value - 0xDC00)) :: read))
    else none
  | none =>
    if 0xD800 ≤ value ∧ value < 0xDC00 then some (.pair read value)
    else if isLow then none
    else some (.text (Char.ofNat value :: read))

/-- Reads one character. -/
def step? (state : List Token × Mode) (c : Char) : Option (List Token × Mode) :=
  let (done, mode) := state
  match mode with
  | .between => begin? done c
  | .word read =>
    if isWordChar c then some (done, .word (c :: read))
    else do begin? ((← ofWord? read.reverse) :: done) c
  | .text read =>
    if c = '"' then some (.string (String.ofList read.reverse) :: done, .between)
    else if c = '\\' then some (done, .escape read)
    else if c.toNat < 0x20 then none
    else some (done, .text (c :: read))
  | .escape read =>
    if c = 'u' then some (done, .code read 4 0 none)
    else (escaped? c).map fun d => (done, .text (d :: read))
  | .code read missing value high => do
    let value := 16 * value + (← hexDigit? c)
    if missing = 1 then
      return (done, ← finishCode? read value high)
    return (done, .code read (missing - 1) value high)
  | .pair read high => if c = '\\' then some (done, .pairEscape read high) else none
  | .pairEscape read high => if c = 'u' then some (done, .code read 4 0 (some high)) else none

/-- The tokens of a text. -/
def scan? (s : String) : Option (List Token) := do
  let (done, mode) ← s.toList.foldlM step? ([], .between)
  match mode with
  | .between => return done.reverse
  | .word read => return ((← ofWord? read.reverse) :: done).reverse
  | _ => none

end Token

end TagRules.Json
