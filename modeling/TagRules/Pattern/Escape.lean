import TagRules.Pattern.Basic
import TagRules.Pattern.Flags

/-!
# Escapes in patterns

What a backslash and the characters after it stand for: a character, a class or a place.

* `Atom.readEscape?`: reads an escape.
-/

namespace TagRules.Pattern

/-- A part of a pattern that stands for itself. -/
inductive Atom where
  /-- A character, and whether it is written as two hexadecimal digits. -/
  | literal (c : Char) (byte : Bool)
  /-- A class of characters. -/
  | group (s : CharSet)
  /-- A place. -/
  | place (p : Place)

namespace Atom

/-- Drops the first character, and what is ignored after it. -/
def advance (f : Flags) (cs : List Char) : List Char := f.skip cs.tail

/-- The value of a hexadecimal digit. -/
def hexDigit? (c : Char) : Option Nat :=
  if c.isDigit then some (c.toNat - '0'.toNat)
  else if 'a' ≤ c ∧ c ≤ 'f' then some (c.toNat - 'a'.toNat + 10)
  else if 'A' ≤ c ∧ c ≤ 'F' then some (c.toNat - 'A'.toNat + 10)
  else none

/-- The character with a number. -/
def ofCode? (n : Nat) : Option Char := if n.isValidChar then some (Char.ofNat n) else none

/-- Reads a number of some hexadecimal digits. -/
def readDigits? (f : Flags) : Nat → Nat → List Char → Option (Nat × List Char)
  | 0, n, cs => some (n, cs)
  | _ + 1, _, [] => none
  | k + 1, n, c :: cs => (hexDigit? c).bind fun d => readDigits? f k (16 * n + d) (f.skip cs)

/-- Drops characters up to a closing brace, and gives those before it without what is ignored
among them. -/
def untilBrace? (f : Flags) (cs : List Char) : Option (List Char × List Char) :=
  go cs.length (f.skip cs)
where
  /-- Reads at most `fuel` characters. -/
  go : Nat → List Char → Option (List Char × List Char)
    | 0, _ => none
    | _ + 1, [] => none
    | fuel + 1, c :: cs =>
      if c = '\x7d' then some ([], cs)
      else (go fuel (f.skip cs)).map fun (name, rest) => (c :: name, rest)

/-- Reads the number of a character after its letter: in braces, or with a fixed count of
digits. -/
def readCode? (f : Flags) (digits : Nat) (cs : List Char) : Option (Atom × List Char) :=
  match f.skip cs with
  | '\x7b' :: cs => do
    let (number, rest) ← untilBrace? f cs
    let ds ← number.mapM hexDigit?
    if ds.isEmpty then none
    let c ← ofCode? (ds.foldl (fun n d => 16 * n + d) 0)
    return (.literal c false, f.skip rest)
  | cs => do
    let (n, rest) ← readDigits? f digits 0 cs
    return (.literal (← ofCode? n) (digits = 2), rest)

/-- The class with a name, or the characters outside of it. -/
def ofName? (f : Flags) (negated : Bool) (name : List Char) : Option CharSet := do
  let (s, outside) ← CharSet.named? name
  f.close? (negated != outside) s

/-- Reads the name of a class after its letter: in braces, or as one character. -/
def readNamed? (f : Flags) (negated : Bool) (cs : List Char) : Option (Atom × List Char) := do
  if !f.unicode then none
  match f.skip cs with
  | [] => none
  | '\x7b' :: cs =>
    let (name, rest) ← untilBrace? f cs
    return (.group (← ofName? f negated name), rest)
  | c :: cs =>
    if c = '\\' then none
    return (.group (← ofName? f negated [c]), f.skip cs)

/-- The class of a letter. -/
def ofLetter? (f : Flags) (c : Char) : Option CharSet :=
  let s : CharSet := match c.toLower with
    | 'd' => if f.unicode then Unicode.decimalNumber else (CharSet.posix? "digit").getD .empty
    | 's' => if f.unicode then Unicode.whiteSpace else (CharSet.posix? "space").getD .empty
    | _ => f.word
  let s := if c.isUpper then s.compl else s
  if f.unicode || s.below 0x80 then some s else none

/-- How a place lies to words, by its name. -/
def wordPlace? : String → Option WordPlace
  | "start" => some .start
  | "end" => some .finish
  | "start-half" => some .noneBefore
  | "end-half" => some .noneAfter
  | _ => none

/-- Reads what follows the letter of a word boundary. A name in braces picks the kind of place;
braces with other contents are left alone. -/
def readBoundary? (f : Flags) (cs : List Char) : Option (Atom × List Char) :=
  let isNameChar (c : Char) : Bool := c.isAlpha || c = '-'
  match cs with
  | '\x7b' :: inner =>
    match f.skip inner with
    | [] => none
    | c :: _ =>
      if isNameChar c then do
        let (name, rest) ← untilBrace? f inner
        let kind ← wordPlace? (String.ofList name)
        return (.place (.word kind f.word), rest)
      else some (.place (.word .boundary f.word), cs)
  | _ => some (.place (.word .boundary f.word), cs)

/-- Reads an escape, from the character after the backslash on. Letters and digits stand for
something only if they are known here, and all other seven-bit characters stand for themselves. -/
def readEscape? (f : Flags) : List Char → Option (Atom × List Char)
  | [] => none
  | c :: cs =>
    if c = 'x' then readCode? f 2 cs
    else if c = 'u' then readCode? f 4 cs
    else if c = 'U' then readCode? f 8 cs
    else if c = 'p' ∨ c = 'P' then readNamed? f (c = 'P') cs
    else if c ∈ ['d', 's', 'w', 'D', 'S', 'W'] then (ofLetter? f c).map fun s => (.group s, cs)
    else if c = 'a' then some (.literal '\x07' false, cs)
    else if c = 'f' then some (.literal '\x0c' false, cs)
    else if c = 't' then some (.literal '\t' false, cs)
    else if c = 'n' then some (.literal '\n' false, cs)
    else if c = 'r' then some (.literal '\r' false, cs)
    else if c = 'v' then some (.literal '\x0b' false, cs)
    else if c = 'A' then some (.place .textStart, cs)
    else if c = 'z' then some (.place .textEnd, cs)
    else if c = 'b' then readBoundary? f cs
    else if c = 'B' then some (.place (.word .noBoundary f.word), cs)
    else if c = '<' then some (.place (.word .start f.word), cs)
    else if c = '>' then some (.place (.word .finish f.word), cs)
    else if c.toNat < 0x80 && !c.isAlphanum then some (.literal c false, cs)
    else none

end Atom

end TagRules.Pattern
