/-!
# Binary floating-point numbers of 64 bits

A number is a sign and a magnitude code: the exponent field and the fraction field read as one
natural number, so that codes are ordered as magnitudes are. All operations are exact integer
arithmetic with one rounding to nearest, ties to even.

* `Binary64.compare?`: the numeric order, in which a NaN has no place and the two zeros are equal.
* `Binary64.ofRatio`: the number nearest to a quotient of naturals.
* `Binary64.ofInt`, `Binary64.ofDecimal`: the number nearest to an integer or to a decimal.
-/

namespace TagRules

/-- The quotient `num / den` rounded to the nearest natural number, a half going to the even one. -/
def roundHalfEven (num den : Nat) : Nat :=
  let q := num / den
  let r := num % den
  if 2 * r < den then q else if den < 2 * r then q + 1 else q + q % 2

/-- A binary64 number. -/
structure Binary64 where
  /-- Whether the sign bit is set. -/
  negative : Bool
  /-- Exponent field and fraction field, as one number. -/
  magnitude : Nat
  /-- The two fields have 63 bits. -/
  magnitude_lt : magnitude < 0x8000000000000000
deriving DecidableEq, Repr

namespace Binary64

/-- The leading bit of a significand, which is left out of the fraction field. -/
def leadingBit : Nat := 0x10000000000000

/-- The code of the infinite magnitude; the codes above it are NaNs. -/
def infiniteMagnitude : Nat := 0x7FF * leadingBit

/-- Zero, with a sign. -/
def zero (negative : Bool) : Binary64 := ⟨negative, 0, by decide⟩

/-- Infinity, with a sign. -/
def infinity (negative : Bool) : Binary64 := ⟨negative, infiniteMagnitude, by decide⟩

/-- The NaN that numerals denote. -/
def nan : Binary64 := ⟨false, infiniteMagnitude + leadingBit / 2, by decide⟩

instance : Inhabited Binary64 := ⟨zero false⟩

/-- Whether the value is not a number. -/
def isNaN (x : Binary64) : Bool := infiniteMagnitude < x.magnitude

/-- Whether the value is neither infinite nor a NaN. -/
def isFinite (x : Binary64) : Bool := x.magnitude < infiniteMagnitude

/-- The value without its sign. -/
def abs (x : Binary64) : Binary64 := { x with negative := false }

/-- The value with the opposite sign. -/
def neg (x : Binary64) : Binary64 := { x with negative := !x.negative }

/-- The signed magnitude code. It orders the numbers, and both zeros have the key `0`. -/
def key (x : Binary64) : Int := if x.negative then -(x.magnitude : Int) else x.magnitude

/-- The numeric order. A NaN has no order to any value. -/
def compare? (x y : Binary64) : Option Ordering :=
  if x.isNaN || y.isNaN then none else some (compare x.key y.key)

/-- Numeric equality: the two zeros are equal, and a NaN equals nothing. -/
def numEq (x y : Binary64) : Bool := x.compare? y == some .eq

/-- The finite magnitude as `m * 2 ^ q`: the pair of `m` and `q`. -/
def scaled (x : Binary64) : Nat × Int :=
  let field : Nat := x.magnitude / leadingBit
  let fraction : Nat := x.magnitude % leadingBit
  if field = 0 then (fraction, -1074) else (leadingBit + fraction, (field : Int) - 1075)

/-- The magnitude code that is nearest to `num / den`. The exponent is chosen so that the rounded
significand has 53 bits, or is the least one; a carry out of the significand moves into the
exponent field by itself. -/
def magnitudeOfRatio (num den : Nat) : Nat :=
  if num = 0 then 0
  else
    let e : Int := (num.log2 : Int) - den.log2
    -- The quotient lies above `2 ^ (e - 1)` and below `2 ^ (e + 1)`.
    let small := num <<< (-e).toNat < den <<< e.toNat
    let q := max ((if small then e - 1 else e) - 52) (-1074)
    let m := roundHalfEven (num <<< (-q).toNat) (den <<< q.toNat)
    min ((q + 1074).toNat * leadingBit + m) infiniteMagnitude

theorem magnitudeOfRatio_le (num den : Nat) : magnitudeOfRatio num den ≤ infiniteMagnitude := by
  unfold magnitudeOfRatio
  split
  · exact Nat.zero_le _
  · exact Nat.min_le_right _ _

/-- The number nearest to `num / den`, with the given sign; infinite if the quotient is too
large. -/
def ofRatio (negative : Bool) (num den : Nat) : Binary64 :=
  ⟨negative, magnitudeOfRatio num den, Nat.lt_of_le_of_lt (magnitudeOfRatio_le num den) (by decide)⟩

/-- The number nearest to an integer. -/
def ofInt (n : Int) : Binary64 := ofRatio (n < 0) n.natAbs 1

/-- The number nearest to `digits * 10 ^ exponent`, with the given sign. Exponents far outside the
range are settled without computing the power. -/
def ofDecimal (negative : Bool) (digits : Nat) (exponent : Int) : Binary64 :=
  if digits = 0 then zero negative
  else if exponent > 400 then infinity negative
  else if exponent + digits.log2 < -400 then zero negative
  else ofRatio negative (digits * Nat.pow 10 exponent.toNat) (Nat.pow 10 (-exponent).toNat)

/-- The rounded product of two finite numbers. -/
def mul (x y : Binary64) : Binary64 :=
  let (m, q) := x.scaled
  let (n, r) := y.scaled
  ofRatio (x.negative != y.negative) ((m * n) <<< (q + r).toNat) (1 <<< (-(q + r)).toNat)

/-- The rounded quotient of two finite numbers, the divisor not being zero. -/
def div (x y : Binary64) : Binary64 :=
  let (m, q) := x.scaled
  let (n, r) := y.scaled
  ofRatio (x.negative != y.negative) (m <<< (q - r).toNat) (n <<< (r - q).toNat)

end Binary64

end TagRules
