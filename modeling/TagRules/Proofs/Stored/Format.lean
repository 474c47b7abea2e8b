import TagRules.Calendar.Written
import TagRules.Json.Basic

/-!
# The stored format

Which values are stored rules, stated without the reader.

* `Json.IsLiteral`, `Json.IsOperand`: literals, and what stands under a comparator.
* `Json.IsConditions`, `Json.IsCustoms`, `Json.IsField`: what stands under a key.
* `Json.IsAlternative`, `Json.IsRule`: alternatives and rules.
-/

namespace TagRules

namespace Json

/-- **A literal**: a value of one of the simple kinds, a list of literals, or a date. -/
inductive IsLiteral : Json → Prop
  | null : IsLiteral .null
  | bool (b : Bool) : IsLiteral (.bool b)
  | number (n : Json.Number) : IsLiteral (.number n)
  | string (s : String) : IsLiteral (.string s)
  | array {items : List Json} : (∀ j ∈ items, IsLiteral j) → IsLiteral (.array items)
  | date {s : String} {d : Date} : Date.read s = .ok d → IsLiteral (.object [("date", .string s)])

/-- What stands under a comparator: a literal that is no list, or a list of literals that is not
empty. -/
inductive IsOperand : Json → Prop
  | single {j : Json} : j.isArray = false → j.IsLiteral → IsOperand j
  | several {items : List Json} : items ≠ [] → (∀ j ∈ items, j.IsLiteral) → IsOperand (.array items)

/-- What stands under the key of conditions: operands under comparators. -/
inductive IsConditions : Json → Prop
  | intro {comparators : List (String × Json)} : comparators ≠ [] →
      (∀ e ∈ comparators, e.1 ≠ "" ∧ e.2.IsOperand) → IsConditions (.object comparators)

/-- What stands under the key of custom rules: a text that is not empty, or a list of such texts
that is not empty. -/
inductive IsCustoms : Json → Prop
  | single {key : String} : key ≠ "" → IsCustoms (.string key)
  | several {items : List Json} : items ≠ [] → (∀ j ∈ items, ∃ key, j = .string key ∧ key ≠ "") →
      IsCustoms (.array items)

/-- A part of the key of conditions. -/
def IsKeyPart (s : String) : Prop := s ≠ "" ∧ '.' ∉ s.toList

/-- The key of conditions: a field, or a field and a transform with a point between them. -/
inductive IsConditionKey : String → Prop
  | plain {field : String} : IsKeyPart field → field ≠ "custom" → IsConditionKey field
  | transformed {field transform : String} : IsKeyPart field → field ≠ "custom" →
      IsKeyPart transform → IsConditionKey (field ++ "." ++ transform)

/-- A field of an alternative: custom rules, or conditions under their key. -/
inductive IsField : String × Json → Prop
  | customs {j : Json} : j.IsCustoms → IsField ("custom", j)
  | conditions {key : String} {j : Json} : IsConditionKey key → j.IsConditions → IsField (key, j)

/-- An alternative: an object with fields. -/
inductive IsAlternative : Json → Prop
  | intro {fields : List (String × Json)} : fields ≠ [] → (∀ e ∈ fields, IsField e) →
      IsAlternative (.object fields)

/-- **A stored rule**: a list of alternatives that is not empty. -/
inductive IsRule : Json → Prop
  | intro {alternatives : List Json} : alternatives ≠ [] → (∀ j ∈ alternatives, j.IsAlternative) →
      IsRule (.array alternatives)

/-- What holds of a list when it holds of its items, and of all other values, holds of every
value. -/
@[elab_as_elim]
theorem induction {motive : Json → Prop} (array : ∀ items, (∀ j ∈ items, motive j) →
    motive (.array items)) (other : ∀ j, j.isArray = false → motive j) (j : Json) : motive j :=
  @Json.rec motive (fun items => ∀ j ∈ items, motive j) (fun _ => True) (fun _ => True)
    (other _ rfl) (fun b => other (.bool b) rfl) (fun n => other (.number n) rfl)
    (fun s => other (.string s) rfl) (fun items ih => array items ih)
    (fun fields _ => other (.object fields) rfl) (fun j hj => by simp at hj)
    (fun _ _ hj hrest => List.forall_mem_cons.2 ⟨hj, hrest⟩) trivial (fun _ _ _ _ => trivial)
    (fun _ _ _ => trivial) j

theorem isLiteral_array_iff {items : List Json} :
    (Json.array items).IsLiteral ↔ ∀ j ∈ items, j.IsLiteral := by
  refine ⟨fun h => ?_, .array⟩
  cases h with
  | array h => exact h

end Json

end TagRules
