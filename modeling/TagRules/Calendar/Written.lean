import TagRules.Calendar.Date
import TagRules.Decimal.Numeral
import TagRules.Text.Case

/-!
# Written dates

A date is written as year, month and day with hyphens between them. A year of four digits has no
sign; any other has one, and at least four digits.

* `Date.write`: the written form.
* `Date.read`: the date of a text, or what is wrong with it.
-/

namespace TagRules

/-- What is wrong with the text of a date. -/
inductive DateFault where
  /-- The text ends too soon. -/
  | tooShort
  /-- A character is not the one expected. -/
  | unexpected
  /-- A number is no year, no month or no day of the month. -/
  | outOfRange
  /-- The text goes on after the date. -/
  | trailing
deriving DecidableEq, Repr

/-- The wording of a fault. -/
def DateFault.message : DateFault → String
  | .tooShort => "premature end of input"
  | .unexpected => "input contains invalid characters"
  | .outOfRange => "input is out of range"
  | .trailing => "trailing input"

namespace Date

/-- A number with zeros in front, so that it has at least `width` digits. -/
def padded (width n : Nat) : List Char :=
  let ds := Nat.toDigits 10 n
  List.replicate (width - ds.length) '0' ++ ds

/-- The written form of a year. -/
def writeYear (year : Int) : List Char :=
  if 0 ≤ year ∧ year ≤ 9999 then padded 4 year.natAbs
  else (if year < 0 then '-' else '+') :: padded 4 year.natAbs

/-- The written form of a date. -/
def write (d : Date) : String :=
  String.ofList (writeYear d.year ++ '-' :: padded 2 d.month ++ '-' :: padded 2 d.day)

/-- Reads a number of at least one digit and at most `width` digits, if a width is given. -/
def readNumber (width : Option Nat) (cs : List Char) : Except DateFault (Nat × List Char) :=
  let field := match width with
    | some w => cs.take w
    | none => cs
  let ds := field.takeWhile Char.isDigit
  if cs.isEmpty then .error .tooShort
  else if ds.isEmpty then .error .unexpected
  else .ok (natOfDigits ds, cs.drop ds.length)

/-- Reads a year: a sign and any number of digits, or at most four digits. -/
def readYear (cs : List Char) : Except DateFault (Int × List Char) := do
  let (year, rest) : Int × List Char ← match cs.dropWhile Text.isBlank with
    | '-' :: cs => do
      let (n, rest) ← readNumber none cs
      pure (-(n : Int), rest)
    | '+' :: cs => do
      let (n, rest) ← readNumber none cs
      pure ((n : Int), rest)
    | cs => do
      let (n, rest) ← readNumber (some 4) cs
      pure ((n : Int), rest)
  -- The year has to fit 32 bits, even where a later part of the text is wrong.
  if -0x80000000 ≤ year ∧ year < 0x80000000 then pure (year, rest) else throw .outOfRange

/-- Reads a number of at most two digits that lies between `1` and `last`. -/
def readPart (last : Nat) (cs : List Char) : Except DateFault (Nat × List Char) := do
  let (n, rest) ← readNumber (some 2) (cs.dropWhile Text.isBlank)
  if 1 ≤ n ∧ n ≤ last then pure (n, rest) else throw .outOfRange

/-- Reads a hyphen. -/
def readHyphen : List Char → Except DateFault (List Char)
  | [] => .error .tooShort
  | c :: cs => if c = '-' then .ok cs else .error .unexpected

/-- Reads a date. -/
def read (s : String) : Except DateFault Date := do
  let (year, rest) ← readYear s.toList
  let rest ← readHyphen rest
  let (month, rest) ← readPart 12 rest
  let rest ← readHyphen rest
  let (day, rest) ← readPart 31 rest
  if !rest.isEmpty then throw .trailing
  match ofParts? year month day with
  | some d => pure d
  | none => throw .outOfRange

end Date

end TagRules
