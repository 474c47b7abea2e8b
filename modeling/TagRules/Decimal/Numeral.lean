import TagRules.Decimal.Binary64

/-!
# Numerals

Reading decimal numerals, each rounded once to the nearest binary number.

* `Binary64.ofNumeral?`: an optional sign, digits with an optional point among them and an optional
  exponent; or `inf`, `infinity`, `nan` in letters of either case.
-/

namespace TagRules

/-- The value of a run of decimal digits. -/
def natOfDigits (cs : List Char) : Nat :=
  cs.foldl (fun n c => 10 * n + (c.toNat - '0'.toNat)) 0

/-- Splits a list of characters after its leading decimal digits. -/
def spanDigits (cs : List Char) : List Char × List Char := cs.span Char.isDigit

namespace Binary64

/-- The exponent part of a numeral: `e`, an optional sign and at least one digit, to the end of the
text. The empty text stands for the exponent zero. -/
def exponentPart? : List Char → Option Int
  | [] => some 0
  | c :: rest =>
    if c = 'e' ∨ c = 'E' then
      let (sign, digits) : Int × List Char := match rest with
        | '-' :: ds => (-1, ds)
        | '+' :: ds => (1, ds)
        | ds => (1, ds)
      if digits.isEmpty || !digits.all Char.isDigit then none
      else some (sign * natOfDigits digits)
    else none

/-- An unsigned numeral. -/
def ofUnsigned? (negative : Bool) (cs : List Char) : Option Binary64 :=
  let word := (String.ofList cs).toLower
  if word = "nan" then some { nan with negative }
  else if word = "inf" ∨ word = "infinity" then some (infinity negative)
  else
    let (whole, rest) := spanDigits cs
    let (fraction, rest) := match rest with
      | '.' :: rest => spanDigits rest
      | rest => ([], rest)
    if whole.isEmpty && fraction.isEmpty then none
    else do
      let e ← exponentPart? rest
      return ofDecimal negative (natOfDigits (whole ++ fraction)) (e - fraction.length)

/-- The number that a numeral denotes. -/
def ofNumeral? (s : String) : Option Binary64 :=
  match s.toList with
  | '-' :: cs => ofUnsigned? true cs
  | '+' :: cs => ofUnsigned? false cs
  | cs => ofUnsigned? false cs

end Binary64

end TagRules
