import Mathlib.Algebra.Group.Nat.Defs
import TagRules.Rule.NormalForm

/-!
# The size of a normal form

The alternatives of a rule are counted before any of them is written out. Sums and products of
counts stop at the largest number of 64 bits, so that no count is too large to hold, and a count
below this number is exact: a product with a count that stopped is still 0 when another factor is.

* `alternativeCount_eq_min`: the count of any rule is the number of its alternatives, up to a bound.
* `lt_alternativeCount_iff`: the bound is out of the way of the limit.
* `normalFormBy`: the check of the size, before some function writes the alternatives out.
* `sizeGuard_exact`: a sound rule is expanded when it has few enough alternatives, and is refused
  otherwise, whatever would write them out.
-/

namespace TagRules.Rule

variable {r : Rule}

/-- **The count is the number of alternatives**, up to the largest number of 64 bits, for sound rules
and others. -/
theorem alternativeCount_eq_min (r : Rule) :
    r.alternativeCount = min (2 ^ 64 - 1) r.toDnf.length := by
  have hbound : countBound = 2 ^ 64 - 1 := rfl
  rw [alternativeCount_eq, hbound, Nat.min_comm]

/-- The limit is below the bound of counts, so the count passes it when the number does. -/
theorem lt_alternativeCount_iff : maxAlternatives < r.alternativeCount ↔
    maxAlternatives < r.toDnf.length := by
  have hbelow : maxAlternatives < 2 ^ 64 - 1 := by decide
  rw [alternativeCount_eq_min]
  omega

/-- The alternatives of a sound rule as some function writes them out, unless there are too many. -/
def normalFormBy (expand : Rule → List (List Rule)) (r : Rule) :
    Except RuleError (List (List Rule)) := do
  r.checkShape.mapError .malformed
  if maxAlternatives < r.alternativeCount then
    throw (.tooManyAlternatives r.alternativeCount maxAlternatives)
  return expand r

/-- The normal form is what is written out by the function that gives the alternatives. -/
theorem normalForm_eq_normalFormBy (r : Rule) : r.normalForm = normalFormBy toDnf r := rfl

/-- A rule with too many alternatives is refused before they are written out. -/
theorem normalFormBy_eq_error (hsound : r.IsSound) (hmany : maxAlternatives < r.toDnf.length)
    (expand : Rule → List (List Rule)) :
    normalFormBy expand r = .error (.tooManyAlternatives r.alternativeCount maxAlternatives) := by
  have hshape : r.checkShape = .ok () := hsound
  unfold normalFormBy
  rw [hshape, if_pos (lt_alternativeCount_iff.2 hmany)]
  rfl

/-- **The check of the size is exact.** The count of any rule is the number of its alternatives, up to
the largest number of 64 bits. So a sound rule gets its normal form when there are few enough of them,
and otherwise it is refused with the count, whatever function would write the alternatives out. -/
theorem sizeGuard_exact (r : Rule) :
    r.alternativeCount = min (2 ^ 64 - 1) r.toDnf.length ∧
    (r.IsSound →
      (∀ as, r.normalForm = .ok as ↔ r.toDnf.length ≤ maxAlternatives ∧ as = r.toDnf) ∧
      (maxAlternatives < r.toDnf.length →
        r.normalForm =
          .error (.tooManyAlternatives (min (2 ^ 64 - 1) r.toDnf.length) maxAlternatives) ∧
        ∀ expand, normalFormBy expand r = r.normalForm)) := by
  refine ⟨alternativeCount_eq_min r, fun hsound => ⟨fun as => ?_, fun hmany => ?_⟩⟩
  · rw [normalForm_eq_ok_iff]
    exact and_iff_right hsound
  · have hrefused := normalFormBy_eq_error hsound hmany
    rw [alternativeCount_eq_min] at hrefused
    have hnormal := (normalForm_eq_normalFormBy r).trans (hrefused toDnf)
    exact ⟨hnormal, fun expand => (hrefused expand).trans hnormal.symm⟩

/-- As many choices of two as there are too many alternatives to count. -/
def toggles : Rule := .all (List.replicate 80 (.any [.custom "on", .custom "off"]))

theorem sizeGuard_exact_toggles : toggles.IsSound ∧ maxAlternatives < toggles.toDnf.length ∧
    toggles.normalForm = .error (.tooManyAlternatives (2 ^ 64 - 1) maxAlternatives) := by
  obtain ⟨hcount, hguard⟩ := sizeGuard_exact toggles
  have hsound : toggles.IsSound := rfl
  have hstop : toggles.alternativeCount = 2 ^ 64 - 1 := by decide +kernel
  rw [hstop] at hcount
  have hmany : maxAlternatives < toggles.toDnf.length := by
    have hbelow : maxAlternatives < 2 ^ 64 - 1 := by decide
    omega
  have hrefused := ((hguard hsound).2 hmany).1
  rw [← hcount] at hrefused
  exact ⟨hsound, hmany, hrefused⟩

example : (Rule.all [toggles, .any []]).alternativeCount = 0 := by decide +kernel

end TagRules.Rule
