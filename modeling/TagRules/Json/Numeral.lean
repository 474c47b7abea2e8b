import TagRules.Decimal.Numeral
import TagRules.Json.Basic

/-!
# Numbers in JSON texts

A numeral without fraction and exponent that fits 64 bits is an integer, apart from `-0`. Any other
numeral is read as a binary number with two roundings: the leading digits that fit 64 bits are
rounded to a binary number, which is then multiplied or divided once by the nearest binary number
to a power of ten. Its result is therefore not always the nearest number to the numeral.

* `Json.Number.ofNumeral?`: the number that a numeral denotes, unless it is infinite.
-/

namespace TagRules.Json.Number

/-- A numeral cut into its parts. -/
structure Parts where
  /-- Whether there is a minus sign. -/
  negative : Bool
  /-- The digits before the point. -/
  whole : List Char
  /-- The digits after the point, if there is a point. -/
  fraction : Option (List Char)
  /-- Whether the exponent is negative, and its digits, if there is an exponent. -/
  exponent : Option (Bool × List Char)

/-- The exponent of a numeral, to the end of the text. -/
def exponentPart? : List Char → Option (Option (Bool × List Char))
  | [] => some none
  | c :: rest =>
    if c = 'e' ∨ c = 'E' then
      let (negative, digits) := match rest with
        | '-' :: ds => (true, ds)
        | '+' :: ds => (false, ds)
        | ds => (false, ds)
      if digits.isEmpty || !digits.all Char.isDigit then none else some (some (negative, digits))
    else none

/-- Cuts a numeral into its parts. There is a digit before the point, no zero stands before another
digit there, and a digit follows the point. -/
def parts? (cs : List Char) : Option Parts := do
  let (negative, cs) := match cs with
    | '-' :: cs => (true, cs)
    | cs => (false, cs)
  let (whole, rest) := spanDigits cs
  if whole.isEmpty || (whole.length > 1 && whole.head? == some '0') then none
  match rest with
  | '.' :: rest =>
    let (fraction, rest) := spanDigits rest
    if fraction.isEmpty then none
    return ⟨negative, whole, some fraction, ← exponentPart? rest⟩
  | rest => return ⟨negative, whole, none, ← exponentPart? rest⟩

/-- Appends digits to a number as long as it fits 64 bits; also gives the digits that are left. -/
def extend (n : Nat) : List Char → Nat × List Char
  | [] => (n, [])
  | c :: cs =>
    let m := 10 * n + natOfDigits [c]
    if m < UInt64.size then extend m cs else (n, c :: cs)

/-- The binary number nearest to a power of ten. -/
def powerOfTen (n : Nat) : Binary64 := .ofRatio false (Nat.pow 10 n) 1

/-- Divides by `10 ^ k`, in steps of at most `10 ^ 308`. Two full steps leave nothing of a number
below `2 ^ 64`. -/
def scaleDown (x : Binary64) (k : Nat) : Binary64 :=
  if k ≤ 308 then x.div (powerOfTen k)
  else if k ≤ 616 then (x.div (powerOfTen 308)).div (powerOfTen (k - 308))
  else ((x.div (powerOfTen 308)).div (powerOfTen 308))

/-- The binary number for `digits * 10 ^ exponent`, unless it is infinite. -/
def scale? (digits : Nat) (exponent : Int) : Option Binary64 :=
  let x : Binary64 := .ofRatio false digits 1
  if digits = 0 then some x
  else if exponent < 0 then some (scaleDown x exponent.natAbs)
  else if exponent ≤ 308 then some (x.mul (powerOfTen exponent.toNat))
  else none

/-- A number that is finite. -/
def ofBinary? (x : Binary64) : Option Number :=
  if h : x.isFinite = true then some (.float x h) else none

/-- An integer that is neither a negative zero nor too small. -/
def ofInteger? (negative : Bool) (n : Nat) : Option Number :=
  let value : Int := if negative then -n else n
  if h : -0x8000000000000000 ≤ value ∧ value < 0x10000000000000000 then
    if negative && n = 0 then none else some (.integer value h)
  else none

/-- The number that a numeral denotes. -/
def ofNumeral? (cs : List Char) : Option Number := do
  let p ← parts? cs
  let (digits, dropped) := extend 0 p.whole
  if p.fraction.isNone && p.exponent.isNone && dropped.isEmpty then
    if let some n := ofInteger? p.negative digits then
      return n
  -- Digits that no longer fit count for the exponent before the point, and not at all after it.
  let (digits, used) := match p.fraction with
    | some fraction =>
      let (digits, rest) := extend digits fraction
      (digits, fraction.length - rest.length)
    | none => (digits, 0)
  let shift : Int := match p.exponent with
    | some (true, ds) => -(natOfDigits ds : Int)
    | some (false, ds) => natOfDigits ds
    | none => 0
  let x ← scale? digits (dropped.length - used + shift)
  ofBinary? { x with negative := p.negative }

end TagRules.Json.Number
