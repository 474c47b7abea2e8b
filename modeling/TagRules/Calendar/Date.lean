/-!
# Dates

Calendar dates of the Gregorian calendar, extended to all years of a fixed range.

* `Date.ofParts?`: the date of a year, a month and a day, if there is one.
* `Date.key`: a number that orders dates by year, month and day.
* `Date.weekday`: the day of the week, Monday being `0`.
-/

namespace TagRules

namespace Date

/-- Whether a year has a 29th of February. -/
def isLeap (year : Int) : Bool := year % 4 = 0 && (year % 100 ≠ 0 || year % 400 = 0)

/-- The number of days of a month, the months being numbered from `1`. -/
def daysIn (year : Int) (month : Nat) : Nat :=
  if month = 2 then (if isLeap year then 29 else 28)
  else if month = 4 ∨ month = 6 ∨ month = 9 ∨ month = 11 then 30
  else 31

/-- The first year. -/
def minYear : Int := -262143

/-- The last year. -/
def maxYear : Int := 262142

/-- Whether three numbers are the year, the month and the day of a date. -/
def IsDate (year : Int) (month day : Nat) : Prop :=
  minYear ≤ year ∧ year ≤ maxYear ∧ 1 ≤ month ∧ month ≤ 12 ∧ 1 ≤ day ∧ day ≤ daysIn year month

instance (year : Int) (month day : Nat) : Decidable (IsDate year month day) :=
  inferInstanceAs (Decidable (_ ∧ _))

end Date

/-- A calendar date. -/
structure Date where
  /-- The year, which may be zero or negative. -/
  year : Int
  /-- The month, from `1` to `12`. -/
  month : Nat
  /-- The day of the month, from `1` on. -/
  day : Nat
  /-- The three numbers are a date. -/
  isDate : Date.IsDate year month day
deriving DecidableEq, Repr

namespace Date

/-- The date with the given year, month and day, if there is one. -/
def ofParts? (year : Int) (month day : Nat) : Option Date :=
  if h : IsDate year month day then some ⟨year, month, day, h⟩ else none

/-- A number that grows with the date. -/
def key (d : Date) : Int := (d.year * 13 + d.month) * 32 + d.day

/-- The order of two dates. -/
def order (d e : Date) : Ordering := compare d.key e.key

/-- The days since the first of March of the year `0`. A year is counted from March on, so that
the leap day is its last one. -/
def dayNumber (d : Date) : Int :=
  let y := if d.month ≤ 2 then d.year - 1 else d.year
  let m := (d.month + 9) % 12
  365 * y + y / 4 - y / 100 + y / 400 + (153 * m + 2) / 5 + d.day - 1

/-- The day of the week, Monday being `0`. -/
def weekday (d : Date) : Nat := ((d.dayNumber + 2) % 7).toNat

end Date

end TagRules
