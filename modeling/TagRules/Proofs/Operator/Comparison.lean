import TagRules.Proofs.Outcome
import TagRules.Proofs.Value
import TagRules.Registry

/-!
# The comparators fit together

Equality, order and membership are computed apart from each other, and each of the comparators
refuses some kinds of values. They still speak of the same relations: a comparator and its mirror
image refuse the same values, the order decides what is equal wherever there is one, and two lists
contain each other's items together.

* `Comparison.ordered_eq_ok_iff`, `Comparison.equal_eq_ok_iff`, `Comparison.differ_eq_ok_iff`,
  `Comparison.isNotIn_eq_ok_iff`: when a comparator succeeds, and with which result.
* `Comparison.FailsByMismatch`: the error of a comparator names its key and the types of both
  values.
* `Comparison.Overlap`: two lists have items that are equal.
* `Comparison.ConsistentOn`: what the comparators say of two values fits together.
* `Comparator.standard_consistent`: the comparators of the standard registry are consistent.
-/

namespace TagRules

open Outcome

namespace Comparison

variable {v w : Value} {key key' : String} {accept accept' : Ordering → Bool} {b : Bool}

/-- Whether a value comes after another one. -/
abbrev greater : Comparison := ordered "gt" (· == .gt)

/-- Whether a value does not come before another one. -/
abbrev atLeast : Comparison := ordered "ge" (· != .lt)

/-- Whether a value comes before another one. -/
abbrev less : Comparison := ordered "lt" (· == .lt)

/-- Whether a value does not come after another one. -/
abbrev atMost : Comparison := ordered "le" (· != .gt)

/-- **The comparators for equality, order and membership**, by their keys. -/
def comparisons : List (String × Comparison) :=
  [("eq", equal), ("ne", differ), ("gt", greater), ("ge", atLeast), ("lt", less), ("le", atMost),
    ("contains", contains), ("in", isIn), ("not_in", isNotIn)]

/-! ### When a comparator succeeds -/

/-- **A comparator for the order** succeeds on comparable values, and holds if they have an accepted
order. -/
theorem ordered_eq_ok_iff :
    ordered key accept v w = .ok b ↔ v.Comparable w ∧ (v.order? w).any accept = b := by
  unfold ordered
  cases ho : v.order? w with
  | some o => simp [Value.comparable_of_order? ho]
  | none =>
    -- Of the comparable values, only numbers can be without an order, and they are let pass.
    have hnumbers : v.Comparable w ↔ (v.isNumber && w.isNumber) = true := by
      rw [Bool.and_eq_true]
      exact ⟨fun h => h.isNumber ho, fun h => .numbers h.1 h.2⟩
    rw [hnumbers]
    cases v.isNumber && w.isNumber <;> simp

theorem equal_eq_ok_iff : equal v w = .ok b ↔ v.looseEq? w = some b := by
  unfold equal
  cases v.looseEq? w <;> simp

theorem differ_eq_ok_iff : differ v w = .ok b ↔ v.looseEq? w = some (!b) := by
  unfold differ
  cases v.looseEq? w with
  | none => simp
  | some c => cases b <;> cases c <;> simp

theorem isNotIn_eq_ok_iff : isNotIn v w = .ok b ↔ isIn v w = .ok (!b) := by
  unfold isNotIn
  cases isIn v w with
  | error e => simp
  | ok c => cases b <;> cases c <;> simp

/-- A negated outcome. -/
theorem map_not_eq_ok_iff {x : Except EvalError Bool} : (!·) <$> x = .ok b ↔ x = .ok (!b) := by
  rw [map_eq_ok_iff]
  constructor
  · rintro ⟨c, hc, rfl⟩
    rw [hc, Bool.not_not]
  · intro h
    exact ⟨!b, h, Bool.not_not b⟩

/-! ### How a comparator fails -/

/-- **A comparator fails by a mismatch**: the error names its key and the types of both values. -/
def FailsByMismatch (key : String) (f : Comparison) : Prop :=
  ∀ v w, Ends (fun _ => True) (fun e => e = mismatch key v w) (f v w)

theorem failsByMismatch_equal : FailsByMismatch "eq" equal := by
  intro v w
  unfold equal
  split
  · exact trivial
  · exact rfl

theorem failsByMismatch_differ : FailsByMismatch "ne" differ := by
  intro v w
  unfold differ
  split
  · exact trivial
  · exact rfl

theorem failsByMismatch_ordered : FailsByMismatch key (ordered key accept) := by
  intro v w
  unfold ordered
  split
  · exact trivial
  · split
    · exact trivial
    · exact rfl

theorem failsByMismatch_contains : FailsByMismatch "contains" contains := by
  intro v w
  unfold contains
  split
  · exact trivial
  · exact trivial
  · exact trivial
  · exact rfl

theorem failsByMismatch_isIn : FailsByMismatch "in" isIn := by
  intro v w
  unfold isIn
  split
  · exact trivial
  · exact trivial
  · exact rfl

theorem failsByMismatch_isNotIn : FailsByMismatch "not_in" isNotIn := by
  intro v w
  unfold isNotIn
  split
  · exact trivial
  · exact rfl

/-! ### Equality and order -/

/-- **A comparator and its mirror image agree** on values the other way round. -/
theorem agree_ordered (hmirror : ∀ o : Ordering, accept' o.swap = accept o) (v w : Value) :
    Agree (ordered key accept v w) (ordered key' accept' w v) := by
  refine agree_of_forall fun b => ?_
  have hany : (w.order? v).any accept' = (v.order? w).any accept := by
    rw [Value.order?_swap v w, Option.any_map]
    exact congrArg (Option.any · (v.order? w)) (funext hmirror)
  rw [ordered_eq_ok_iff, ordered_eq_ok_iff, Value.comparable_comm, hany]

theorem ordered_of_order? {o : Ordering} (h : v.order? w = some o) :
    ordered key accept v w = .ok (accept o) := by
  refine ordered_eq_ok_iff.2 ⟨Value.comparable_of_order? h, ?_⟩
  rw [h]
  rfl

theorem equal_of_order? {o : Ordering} (h : v.order? w = some o) : equal v w = .ok (o == .eq) := by
  rw [equal_eq_ok_iff, (Value.comparable_of_order? h).looseEq?_eq, h]
  rfl

/-- Numbers without an order are in no order, and not equal. -/
theorem ordered_of_unordered (h : v.Comparable w) (hnone : v.order? w = none) :
    ordered key accept v w = .ok false := by
  refine ordered_eq_ok_iff.2 ⟨h, ?_⟩
  rw [hnone]
  rfl

theorem equal_of_unordered (h : v.Comparable w) (hnone : v.order? w = none) :
    equal v w = .ok false := by
  rw [equal_eq_ok_iff, h.looseEq?_eq, hnone]
  rfl

/-! ### Lists -/

/-- **Two lists overlap**: an item of one equals an item of the other. -/
def Overlap (vs ws : List Value) : Prop := ∃ v ∈ vs, ∃ w ∈ ws, v.looseEq? w = some true

instance (vs ws : List Value) : Decidable (Overlap vs ws) :=
  inferInstanceAs (Decidable (∃ v ∈ vs, ∃ w ∈ ws, v.looseEq? w = some true))

theorem overlap_comm {vs ws : List Value} : Overlap vs ws ↔ Overlap ws vs := by
  have hsymm : ∀ {vs ws : List Value}, Overlap vs ws → Overlap ws vs := by
    rintro vs ws ⟨v, hv, w, hw, heq⟩
    exact ⟨w, hw, v, hv, Value.looseEq?_comm v w ▸ heq⟩
  exact ⟨hsymm, hsymm⟩

theorem any_listHas {vs ws : List Value} : vs.any (listHas ws) = decide (Overlap ws vs) := by
  rw [Bool.eq_iff_iff, decide_eq_true_iff]
  simp only [listHas, List.any_eq_true, beq_iff_eq, Overlap]
  constructor
  · rintro ⟨v, hv, w, hw, heq⟩
    exact ⟨w, hw, v, hv, heq⟩
  · rintro ⟨w, hw, v, hv, heq⟩
    exact ⟨v, hv, w, hw, heq⟩

theorem contains_list (vs ws : List Value) :
    contains (.list vs) (.list ws) = .ok (decide (Overlap vs ws)) :=
  congrArg Except.ok any_listHas

theorem isIn_list (vs ws : List Value) :
    isIn (.list vs) (.list ws) = .ok (decide (Overlap vs ws)) := by
  show Except.ok (vs.any (listHas ws)) = _
  rw [any_listHas, decide_eq_decide.2 overlap_comm]

/-! ### All comparators -/

/-- **What the comparators say of two values fits together.** -/
structure ConsistentOn (v w : Value) : Prop where
  /-- The equality is symmetric. -/
  looseEq?_symm : v.looseEq? w = w.looseEq? v
  /-- The order is reversed for values the other way round. -/
  order?_reverse : w.order? v = (v.order? w).map Ordering.swap
  /-- One value is greater when the other is less. -/
  greater_less : Agree (greater v w) (less w v)
  /-- One value is at least the other when the other is at most the one. -/
  atLeast_atMost : Agree (atLeast v w) (atMost w v)
  /-- Of values with an order, one is less, equal or greater, and the other two comparators allow
  for equality. -/
  trichotomy : ∀ o, v.order? w = some o → ∃ below same above : Bool,
    less v w = .ok below ∧ equal v w = .ok same ∧ greater v w = .ok above ∧
      [below, same, above].count true = 1 ∧
      atLeast v w = .ok (above || same) ∧ atMost v w = .ok (below || same)
  /-- Of numbers without an order, nothing holds. -/
  unordered : v.isNumber = true → w.isNumber = true → v.order? w = none →
    ∀ f ∈ [less, atMost, greater, atLeast, equal], f v w = .ok false
  /-- Values differ when they are not equal. -/
  differ_negates : Agree (differ v w) ((!·) <$> equal v w)
  /-- A value is missing from a list when it is not in it. -/
  isNotIn_negates : Agree (isNotIn v w) ((!·) <$> isIn v w)

theorem consistentOn (v w : Value) : ConsistentOn v w where
  looseEq?_symm := Value.looseEq?_comm v w
  order?_reverse := Value.order?_swap v w
  greater_less := agree_ordered (by decide) v w
  atLeast_atMost := agree_ordered (by decide) v w
  trichotomy := by
    intro o ho
    refine ⟨_, _, _, ordered_of_order? ho, equal_of_order? ho, ordered_of_order? ho, ?_, ?_, ?_⟩
    · cases o <;> rfl
    · rw [atLeast, ordered_of_order? ho]
      cases o <;> rfl
    · rw [atMost, ordered_of_order? ho]
      cases o <;> rfl
  unordered := by
    intro hv hw hnone
    have h : v.Comparable w := .numbers hv hw
    simp only [List.forall_mem_cons]
    exact ⟨ordered_of_unordered h hnone, ordered_of_unordered h hnone, ordered_of_unordered h hnone,
      ordered_of_unordered h hnone, equal_of_unordered h hnone, fun f hf => nomatch hf⟩
  differ_negates := by
    refine agree_of_forall fun b => ?_
    rw [differ_eq_ok_iff, map_not_eq_ok_iff, equal_eq_ok_iff]
  isNotIn_negates := by
    refine agree_of_forall fun b => ?_
    rw [isNotIn_eq_ok_iff, map_not_eq_ok_iff]

end Comparison

open Comparison

/-- **The comparators of the standard registry are consistent.** They are registered by their keys
and fail only by a mismatch of types. On any two values, what they say of equality, order and
membership fits together, and of two lists each contains items of the other, and has items that are
in the other, just when they overlap. -/
theorem Comparator.standard_consistent :
    (∀ e ∈ comparisons, Registry.standard.comparator? e.1 = some (.binary e.2) ∧
      FailsByMismatch e.1 e.2) ∧
    (∀ v w : Value, ConsistentOn v w) ∧
    ∀ vs ws : List Value,
      Comparison.contains (.list vs) (.list ws) = Comparison.contains (.list ws) (.list vs) ∧
      Comparison.contains (.list ws) (.list vs) = isIn (.list vs) (.list ws) ∧
      isIn (.list vs) (.list ws) = .ok (decide (Overlap vs ws)) := by
  refine ⟨?_, consistentOn, fun vs ws => ?_⟩
  · unfold comparisons
    simp only [List.forall_mem_cons]
    exact ⟨⟨rfl, failsByMismatch_equal⟩, ⟨rfl, failsByMismatch_differ⟩,
      ⟨rfl, failsByMismatch_ordered⟩, ⟨rfl, failsByMismatch_ordered⟩,
      ⟨rfl, failsByMismatch_ordered⟩, ⟨rfl, failsByMismatch_ordered⟩,
      ⟨rfl, failsByMismatch_contains⟩, ⟨rfl, failsByMismatch_isIn⟩,
      ⟨rfl, failsByMismatch_isNotIn⟩, fun e he => nomatch he⟩
  · rw [contains_list, contains_list, isIn_list, decide_eq_decide.2 overlap_comm]
    exact ⟨rfl, rfl, rfl⟩

/-- One and a half. -/
def threeHalves : Value := .float (.ofRatio false 3 2)

theorem Comparator.standard_consistent_floats :
    (("not_in", isNotIn) ∈ comparisons ∧
      Registry.standard.comparator? "not_in" = some (.binary isNotIn) ∧
      FailsByMismatch "not_in" isNotIn) ∧
    ((Value.int 1).order? threeHalves = some .lt ∧ ∃ below same above : Bool,
      less (.int 1) threeHalves = .ok below ∧ equal (.int 1) threeHalves = .ok same ∧
        greater (.int 1) threeHalves = .ok above ∧ [below, same, above].count true = 1 ∧
        atLeast (.int 1) threeHalves = .ok (above || same) ∧
        atMost (.int 1) threeHalves = .ok (below || same)) ∧
    (Value.isNumber (.int 1) = true ∧ Value.isNumber (.float .nan) = true ∧
      (Value.int 1).order? (.float .nan) = none ∧ equal ∈ [less, atMost, greater, atLeast, equal] ∧
      equal (.int 1) (.float .nan) = .ok false) := by
  obtain ⟨hregistered, hconsistent, -⟩ := standard_consistent
  have hmem : ("not_in", isNotIn) ∈ comparisons := by simp [comparisons]
  have hless : (Value.int 1).order? threeHalves = some .lt := by decide
  have hnone : (Value.int 1).order? (.float .nan) = none := by decide
  have hequal : equal ∈ [less, atMost, greater, atLeast, equal] := by simp
  exact ⟨⟨hmem, hregistered _ hmem⟩, ⟨hless, (hconsistent _ _).trichotomy _ hless⟩, rfl, rfl, hnone,
    hequal, (hconsistent _ _).unordered rfl rfl hnone _ hequal⟩

end TagRules
