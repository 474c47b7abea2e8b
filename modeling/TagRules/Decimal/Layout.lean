import TagRules.Decimal.Shortest

/-!
# How a number is written

The digits of a finite number are those of `Binary64.shortest`. A `Layout` says where positional
notation ends and how an exponent is written.

* `Layout.write`: the text of a number, NaN and infinities included.
-/

namespace TagRules

/-- The decisions of a written form of numbers. -/
structure Layout where
  /-- The least exponent of the leading digit that is written positionally. -/
  plainFrom : Int
  /-- The first exponent of the leading digit that is no longer written positionally. -/
  plainBelow : Int
  /-- Whether a positive exponent has a sign. -/
  plusSign : Bool
  /-- Which of two equally near decimals is written. -/
  tie : Tie

namespace Layout

/-- The digits of `d` in positional notation, with at least one digit on each side of the point. -/
def plain (d : Decimal) : String :=
  let ds := Nat.toDigits 10 d.digits
  if d.exponent ≥ 0 then
    String.ofList (ds ++ List.replicate d.exponent.toNat '0') ++ ".0"
  else
    let places := (-d.exponent).toNat
    -- One digit more than there are places, so that the point has a digit before it.
    let padded := List.replicate (places + 1 - ds.length) '0' ++ ds
    let whole := padded.length - places
    String.ofList (padded.take whole) ++ "." ++ String.ofList (padded.drop whole)

/-- The digits of `d` with one digit before the point and an exponent. -/
def scientific (l : Layout) (d : Decimal) : String :=
  let ds := Nat.toDigits 10 d.digits
  let e := d.exponent + ds.length - 1
  let mantissa := match ds with
    | [] => ""
    | [c] => c.toString
    | c :: rest => c.toString ++ "." ++ String.ofList rest
  let sign := if 0 ≤ e ∧ l.plusSign then "+" else ""
  mantissa ++ "e" ++ sign ++ toString e

/-- The text of a number. -/
def write (l : Layout) (x : Binary64) : String :=
  if x.isNaN then "NaN"
  else
    let sign := if x.negative then "-" else ""
    if !x.isFinite then sign ++ "inf"
    else if x.magnitude = 0 then sign ++ "0.0"
    else
      let d := x.shortest l.tie
      let e := d.exponent + (Nat.toDigits 10 d.digits).length - 1
      sign ++ (if l.plainFrom ≤ e ∧ e < l.plainBelow then plain d else l.scientific d)

end Layout

end TagRules
