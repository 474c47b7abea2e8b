import TagRules.Decimal.Binary64

/-!
# The fewest digits that read back

Every decimal between two midpoints reads as the same binary number. `Binary64.shortest` picks the
decimal with the fewest digits among them, and of those the one nearest to the number.

* `Binary64.readsBack`: the decimals that are read as the number.
* `Binary64.shortest`: the search, one digit count after the other, on exact naturals.
-/

namespace TagRules

/-- The decimal `digits * 10 ^ exponent`. -/
structure Decimal where
  /-- The digits, as one number. -/
  digits : Nat
  /-- The power of ten of the last digit. -/
  exponent : Int
deriving DecidableEq, Repr

/-- Which of two equally near decimals is taken. -/
inductive Tie where
  /-- The one with the even last digit. -/
  | even
  /-- The one of the larger magnitude. -/
  | up
deriving DecidableEq, Repr

namespace Decimal

/-- The order of `d` and `n * 2 ^ j`, by cross-multiplication. -/
def compareScaled (d : Decimal) (n : Nat) (j : Int) : Ordering :=
  compare ((d.digits * Nat.pow 10 d.exponent.toNat) <<< (-j).toNat)
    (n <<< j.toNat * Nat.pow 10 (-d.exponent).toNat)

/-- The decimal without the zeros at its end. -/
def strip (d : Decimal) : Decimal := go d.digits.log2 d
where
  /-- Drops at most `fuel` zeros. -/
  go : Nat → Decimal → Decimal
    | 0, d => d
    | fuel + 1, d =>
      if d.digits ≠ 0 ∧ d.digits % 10 = 0 then go fuel ⟨d.digits / 10, d.exponent + 1⟩ else d

end Decimal

namespace Binary64

/-- Whether a decimal lies among the reals that round to the finite magnitude of `x`. The ends of
that interval belong to it when the significand is even; below a power of two the neighbour is
only half as far away. -/
def readsBack (x : Binary64) (d : Decimal) : Bool :=
  let (m, q) := x.scaled
  let narrow := x.magnitude % leadingBit = 0 ∧ leadingBit < x.magnitude
  let low := if narrow then 4 * m - 1 else 4 * m - 2
  let closed := m % 2 = 0
  let atLow := d.compareScaled low (q - 2)
  let atHigh := d.compareScaled (4 * m + 2) (q - 2)
  (atLow = .gt ∨ closed ∧ atLow = .eq) ∧ (atHigh = .lt ∨ closed ∧ atHigh = .eq)

/-- The least `k` such that the finite magnitude is below `10 ^ k`. It is estimated from the binary
logarithm, and the estimate is corrected by comparison. -/
def decimalScale (x : Binary64) : Int :=
  let (m, q) := x.scaled
  let estimate := ((m.log2 : Int) + q) * 30103 / 100000
  (([estimate - 1, estimate, estimate + 1].find? fun k =>
    (Decimal.mk 1 k).compareScaled m q = .gt)).getD (estimate + 2)

/-- The decimal with digits down to `10 ^ exponent` that reads back as `x`, if one of the two
neighbours of `x` on that grid does. -/
def onGrid? (x : Binary64) (tie : Tie) (exponent : Int) : Option Decimal :=
  let (m, q) := x.scaled
  let num := m <<< q.toNat * Nat.pow 10 (-exponent).toNat
  let den := 1 <<< (-q).toNat * Nat.pow 10 exponent.toNat
  let below : Decimal := ⟨num / den, exponent⟩
  let above : Decimal := ⟨num / den + 1, exponent⟩
  match x.readsBack below, x.readsBack above with
  | true, true =>
    match compare (2 * num) ((2 * (num / den) + 1) * den), tie with
    | .lt, _ => some below
    | .gt, _ => some above
    | .eq, .up => some above
    | .eq, .even => some (if num / den % 2 = 0 then below else above)
  | true, false => some below
  | false, true => some above
  | false, false => none

/-- The exact decimal value of the finite magnitude. -/
def exactDecimal (x : Binary64) : Decimal :=
  let (m, q) := x.scaled
  ⟨m <<< q.toNat * Nat.pow 5 (-q).toNat, -((-q).toNat : Int)⟩

/-- The decimal of fewest digits that reads back as the finite magnitude of `x`, and of those the
nearest. Seventeen digits are enough; the exact value stands where the search ends without one. -/
def shortest (x : Binary64) (tie : Tie) : Decimal :=
  let k := x.decimalScale
  let found := (List.range 17).findSome? fun (n : Nat) => x.onGrid? tie (k - (n + 1))
  (found.getD x.exactDecimal).strip

end Binary64

end TagRules
