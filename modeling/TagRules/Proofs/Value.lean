import Mathlib.Order.Compare
import TagRules.Proofs.Calendar.Written
import TagRules.Value

/-!
# How values compare

The comparators use an order and an equality of their own. The order belongs to numbers, to texts
and to dates; the equality reaches further, to truth values, lists and null. Where both speak of two
values, they say the same, and numbers without an order, of which one is a NaN, are not equal.

* `Binary64.compare?_swap`, `Date.order_swap`, `Value.order?_swap`: the order of two values the
  other way round.
* `Date.key_inj`: dates with the same key are the same.
* `Value.looseEq?_comm`: the equality is symmetric.
* `Value.Comparable`: the kinds of values that have an order.
* `Value.Comparable.looseEq?_eq`: such values are equal when the order says so.
-/

namespace TagRules

/-! ### Numbers -/

namespace Binary64

/-- **The numeric order the other way round.** A NaN has none on either side. -/
theorem compare?_swap (x y : Binary64) : y.compare? x = (x.compare? y).map Ordering.swap := by
  unfold compare?
  rw [Bool.or_comm]
  split
  · rfl
  · rw [Option.map_some, Int.compare_swap]

theorem numEq_comm (x y : Binary64) : x.numEq y = y.numEq x := by
  rw [numEq, numEq, compare?_swap x y]
  cases x.compare? y with
  | none => rfl
  | some o => cases o <;> rfl

end Binary64

/-! ### Dates -/

namespace Date

/-- **Dates with the same key are the same.** The month and the day are digits of the key. -/
theorem key_inj {d e : Date} : d.key = e.key ↔ d = e := by
  refine ⟨fun h => ?_, fun h => h ▸ rfl⟩
  obtain ⟨year, month, day, hd⟩ := d
  obtain ⟨year', month', day', he⟩ := e
  have hkey : (year * 13 + month) * 32 + day = (year' * 13 + month') * 32 + day' := h
  obtain ⟨-, -, -, hmonth, -, hday⟩ := hd
  obtain ⟨-, -, -, hmonth', -, hday'⟩ := he
  have hlast : day ≤ 31 := hday.trans (daysIn_le year month)
  have hlast' : day' ≤ 31 := hday'.trans (daysIn_le year' month')
  obtain ⟨rfl, rfl, rfl⟩ : year = year' ∧ month = month' ∧ day = day' := by omega
  rfl

theorem order_swap (d e : Date) : e.order d = (d.order e).swap := (Int.compare_swap _ _).symm

theorem order_eq_eq_iff {d e : Date} : d.order e = .eq ↔ d = e := by
  rw [order, Std.LawfulEqCmp.compare_eq_iff_eq, key_inj]

end Date

/-! ### Values -/

namespace Value

variable {v w : Value}

/-- **Two values are comparable**: they are both numbers, both texts or both dates. -/
inductive Comparable : Value → Value → Prop
  | numbers {v w : Value} : v.isNumber = true → w.isNumber = true → Comparable v w
  | strings (s t : String) : Comparable (.string s) (.string t)
  | dates (d e : Date) : Comparable (.date d) (.date e)

theorem Comparable.symm (h : v.Comparable w) : w.Comparable v := by
  cases h with
  | numbers hv hw => exact .numbers hw hv
  | strings s t => exact .strings t s
  | dates d e => exact .dates e d

theorem comparable_comm : v.Comparable w ↔ w.Comparable v := ⟨.symm, .symm⟩

/-- Values with an order are comparable. -/
theorem comparable_of_order? {o : Ordering} (h : v.order? w = some o) : v.Comparable w := by
  unfold order? at h
  split at h
  · exact .numbers rfl rfl
  · exact .numbers rfl rfl
  · exact .numbers rfl rfl
  · exact .numbers rfl rfl
  · exact .strings _ _
  · exact .dates _ _
  · cases h

theorem order?_eq_none (h : ¬v.Comparable w) : v.order? w = none :=
  Option.eq_none_iff_forall_ne_some.2 fun _ ho => h (comparable_of_order? ho)

/-- Comparable values without an order are numbers. -/
theorem Comparable.isNumber (h : v.Comparable w) (hnone : v.order? w = none) :
    v.isNumber = true ∧ w.isNumber = true := by
  cases h with
  | numbers hv hw => exact ⟨hv, hw⟩
  | strings s t => cases hnone
  | dates d e => cases hnone

theorem Comparable.order?_swap (h : v.Comparable w) :
    w.order? v = (v.order? w).map Ordering.swap := by
  cases h with
  | numbers hv hw =>
    cases v with
    | int m =>
      cases w with
      | int n => exact congrArg some (Int.compare_swap _ _).symm
      | float y => exact Binary64.compare?_swap (widen m) y
      | _ => cases hw
    | float x =>
      cases w with
      | int n => exact Binary64.compare?_swap x (widen n)
      | float y => exact Binary64.compare?_swap x y
      | _ => cases hw
    | _ => cases hv
  | strings s t => exact congrArg some Std.OrientedCmp.eq_swap
  | dates d e => exact congrArg some (d.order_swap e)

/-- **The order of two values the other way round.** Values that are not comparable have none on
either side. -/
theorem order?_swap (v w : Value) : w.order? v = (v.order? w).map Ordering.swap := by
  by_cases h : v.Comparable w
  · exact h.order?_swap
  · rw [order?_eq_none h, order?_eq_none (mt Comparable.symm h)]
    rfl

/-- An equality that agrees with an order. -/
theorem some_beq_eq_of_order {α : Type} [BEq α] [LawfulBEq α] {a b : α} {o : Ordering}
    (h : o = .eq ↔ a = b) : some (a == b) = some (some o == some Ordering.eq) :=
  congrArg some (beq_eq_beq.2 (h.symm.trans Option.some_inj.symm))

/-- **Comparable values are equal when the order says so**, and a number without an order equals no
number. -/
theorem Comparable.looseEq?_eq (h : v.Comparable w) :
    v.looseEq? w = some (v.order? w == some .eq) := by
  cases h with
  | numbers hv hw =>
    cases v with
    | int m =>
      cases w with
      | int n =>
        -- Two integers are not widened: they are compared exactly.
        refine some_beq_eq_of_order ?_
        rw [Std.LawfulEqCmp.compare_eq_iff_eq, Int64.toInt_inj]
      | float y => rfl
      | _ => cases hw
    | float x =>
      cases w with
      | int n => rfl
      | float y => rfl
      | _ => cases hw
    | _ => cases hv
  | strings s t => exact some_beq_eq_of_order Std.LawfulEqCmp.compare_eq_iff_eq
  | dates d e => exact some_beq_eq_of_order Date.order_eq_eq_iff

theorem sameList_comm (vs ws : List Value) : sameList vs ws = sameList ws vs := by
  rw [Bool.eq_iff_iff, sameList_iff_eq, sameList_iff_eq, eq_comm]

/-- **The equality of the comparators is symmetric.** -/
theorem looseEq?_comm (v w : Value) : v.looseEq? w = w.looseEq? v := by
  cases v with
  | null => cases w <;> rfl
  | int m =>
    cases w with
    | int n => exact congrArg some Bool.beq_comm
    | float y => exact congrArg some ((widen m).numEq_comm y)
    | _ => rfl
  | float x =>
    cases w with
    | int n => exact congrArg some (x.numEq_comm (widen n))
    | float y => exact congrArg some (x.numEq_comm y)
    | _ => rfl
  | bool a =>
    cases w with
    | bool b => exact congrArg some Bool.beq_comm
    | _ => rfl
  | string s =>
    cases w with
    | string t => exact congrArg some Bool.beq_comm
    | _ => rfl
  | date d =>
    cases w with
    | date e => exact congrArg some Bool.beq_comm
    | _ => rfl
  | list vs =>
    cases w with
    | list ws => exact congrArg some (sameList_comm vs ws)
    | _ => rfl

end Value

end TagRules
