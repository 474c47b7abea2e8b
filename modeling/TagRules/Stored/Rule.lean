import TagRules.Rule.NormalForm
import TagRules.Stored.Key
import TagRules.Stored.Literal

/-!
# Stored rules

A rule is stored in normal form, as a list with one object per alternative. An object holds the
literals of the conditions of the alternative under their keys, and under each key by comparator;
its custom rules are held under a key of their own. One literal that is no list stands alone, and
all others stand in a list.

* `Rule.toJson`: the stored form of a rule.
* `Rule.ofJson`: the rule of a stored form, without a look at what its names stand for.
-/

namespace TagRules.Rule

/-! ### Writing -/

/-- A leaf to be stored: its key, its comparator and its literal. A custom rule has no comparator,
and its own key is the literal. -/
abbrev Entry := String × String × Json

/-- The entry of a leaf. -/
def entry : Rule → Except Malformation (List Entry)
  | .condition c => do
    let literal ← c.value.toJson
    return [(c.key, c.comparator, literal)]
  | .custom key => .ok [(customKey, "", .string key)]
  | .all _ | .any _ => .ok []

/-- Entries are ordered by key and then by comparator. -/
def entryLe (a b : Entry) : Bool := a.1 < b.1 || (a.1 = b.1 && a.2.1 ≤ b.2.1)

/-- One literal that is no list stands alone; all others stand in a list. -/
def collapse : List Json → Json
  | [j] => if j.isArray then .array [j] else j
  | js => .array js

/-- What is stored under a key. -/
def storedField (key : String) (entries : List (String × Json)) : Json :=
  if key = customKey then collapse (entries.map Prod.snd)
  else
    .object ((Assoc.group entries).map fun (comparator, literals) =>
      (comparator, collapse literals))

/-- The object of an alternative. -/
def storedAlternative (leaves : List Rule) : Except Malformation Json := do
  let entries ← leaves.mapM entry
  let sorted := entries.flatten.mergeSort entryLe
  return .object ((Assoc.group sorted).map fun (key, entries) => (key, storedField key entries))

/-- The stored form of a rule. -/
def toJson (r : Rule) : Except RuleError Json := do
  let alternatives ← r.normalForm
  let objects ← (alternatives.mapM storedAlternative).mapError .malformed
  return .array objects

/-! ### Reading -/

/-- The custom rule with a stored key. -/
def ofStoredCustom : Json → Except Malformation Rule
  | .string key => if key.isEmpty then .error (.storedCustom (.string key)) else .ok (.custom key)
  | j => .error (.storedCustom j)

/-- The custom rules of an alternative. -/
def ofStoredCustoms : Json → Except Malformation (List Rule)
  | .array [] => .error .storedCustoms
  | .array keys => keys.mapM ofStoredCustom
  | .string key => do return [← ofStoredCustom (.string key)]
  | _ => .error .storedCustoms

/-- The literals that are stored under a comparator. -/
def ofStoredLiterals (key : String) : Json → Except Malformation (List Value)
  | .array [] => .error (.noStoredValues key)
  | .array items => items.mapM Value.ofJson
  | j => do return [← Value.ofJson j]

/-- The conditions that are stored under a comparator. -/
def ofStoredComparator (key : String) (parts : ConditionKey) (comparator : String) (stored : Json) :
    Except Malformation (List Rule) := do
  let values ← ofStoredLiterals key stored
  values.mapM fun value => do
    let c : Condition := ⟨parts.field, parts.transform, comparator, value⟩
    c.check
    return .condition c

/-- The conditions that are stored under a key. -/
def ofStoredConditions (key : String) (parts : ConditionKey) :
    Json → Except Malformation (List Rule)
  | .object [] => .error (.noStoredComparator key)
  | .object comparators => do
    let conditions ← comparators.mapM fun (comparator, stored) =>
      ofStoredComparator key parts comparator stored
    return conditions.flatten
  | _ => .error (.storedConditions key)

/-- The leaves that are stored under a key. -/
def ofStoredField (field : String × Json) : Except RuleError (List Rule) :=
  let (key, stored) := field
  if key = customKey then (ofStoredCustoms stored).mapError .malformed
  else do
    let parts ← ConditionKey.read key
    (ofStoredConditions key parts stored).mapError .malformed

/-- The alternative of a stored object. -/
def ofStoredAlternative : Json → Except RuleError Rule
  | .object [] => .error (.malformed .noConditions)
  | .object fields => do
    let leaves ← fields.mapM ofStoredField
    return .all leaves.flatten
  | j => .error (.malformed (.storedAlternative j))

/-- The rule of a stored form. -/
def ofJson : Json → Except RuleError Rule
  | .array [] => .error (.malformed .noAlternatives)
  | .array alternatives => .any <$> alternatives.mapM ofStoredAlternative
  | _ => .error (.malformed .storedRule)

end TagRules.Rule
