import TagRules.Operator.Comparator
import TagRules.Operator.Transform
import TagRules.Rule.Basic
import TagRules.Text.Quoted

/-!
# Registries

A registry gives the keys of a rule a meaning: transforms, comparators and custom predicates on
whole records. Each key is registered once for its kind.

* `Registry.addTransform`, `Registry.addComparator`, `Registry.addCustomRule`,
  `Registry.addStandard`: registering.
* `Registry.validate`: whether a rule is sound and a registry knows all of its keys.
-/

namespace TagRules

/-- A predicate on records. -/
abbrev CustomRule := Record → Except EvalError Bool

/-- What the keys of rules stand for. -/
structure Registry where
  /-- The transforms. -/
  transforms : List (String × Transform)
  /-- The comparators. -/
  comparators : List (String × Comparator)
  /-- The custom rules. -/
  customRules : List (String × CustomRule)

namespace Registry

/-- The registry without keys. -/
def empty : Registry := ⟨[], [], []⟩

/-- The registry of the standard transforms and comparators. -/
def standard : Registry := ⟨Transform.standard, Comparator.standard, []⟩

/-- The transform with a key. -/
def transform? (reg : Registry) (key : String) : Option Transform := reg.transforms.lookup key

/-- The comparator with a key. -/
def comparator? (reg : Registry) (key : String) : Option Comparator := reg.comparators.lookup key

/-- The custom rule with a key. -/
def customRule? (reg : Registry) (key : String) : Option CustomRule := reg.customRules.lookup key

/-! ### Registering -/

/-- A list of functions by key, with one more. The key has to be new and may be part of a condition
key. -/
def extend {α : Type} (kind : OperatorKind) (key : String) (f : α) (table : List (String × α)) :
    Except RuleError (List (String × α)) :=
  if !Condition.isKeyPart key then .error (.malformed (.operatorKey key))
  else if (table.lookup key).isSome then .error (.duplicateOperator kind key)
  else .ok (table ++ [(key, f)])

/-- Registers a transform. -/
def addTransform (reg : Registry) (key : String) (f : Transform) : Except RuleError Registry := do
  return { reg with transforms := ← extend .transform key f reg.transforms }

/-- Registers a comparator. -/
def addComparator (reg : Registry) (key : String) (c : Comparator) : Except RuleError Registry := do
  return { reg with comparators := ← extend .comparator key c reg.comparators }

/-- Registers a custom rule. -/
def addCustomRule (reg : Registry) (key : String) (f : CustomRule) : Except RuleError Registry := do
  return { reg with customRules := ← extend .customRule key f reg.customRules }

/-- Registers the standard transforms and comparators. -/
def addStandard (reg : Registry) : Except RuleError Registry := do
  let reg ← Transform.standard.foldlM (fun reg (key, f) => reg.addTransform key f) reg
  Comparator.standard.foldlM (fun reg (key, c) => reg.addComparator key c) reg

/-! ### Validating -/

/-- Checks the keys and the pattern of a condition. -/
def validateCondition (reg : Registry) (c : Condition) : Except RuleError Unit := do
  if let some t := c.transform then
    if (reg.transform? t).isNone then
      throw (.unknownOperator .transform t)
  match reg.comparator? c.comparator with
  | none => throw (.unknownOperator .comparator c.comparator)
  | some comparator =>
    match comparator.bind c.value with
    | .ok _ => return ()
    | .error e => throw (.invalidPattern e.pattern e.fault)

/-- Checks the keys of a node, apart from its children. -/
def validateNode (reg : Registry) : Rule → Except RuleError Unit
  | .condition c => reg.validateCondition c
  | .custom key => if (reg.customRule? key).isNone then .error (.unknownRuleKey key) else .ok ()
  | .all _ | .any _ => .ok ()

/-- Checks the shape of a rule, and then its keys from node to node. -/
def validate (reg : Registry) (r : Rule) : Except RuleError Unit := do
  r.checkShape.mapError .malformed
  r.subrules.forM reg.validateNode

/-! ### The written form -/

/-- The keys of a list, in order and in quotation marks. -/
def renderKeys {α : Type} (table : List (String × α)) : String :=
  let keys := (table.map Prod.fst).mergeSort fun a b => a ≤ b
  "[" ++ ", ".intercalate (keys.map Text.quote) ++ "]"

/-- The written form of a registry: its keys. -/
def render (reg : Registry) : String :=
  "Registry \x7b transforms: " ++ renderKeys reg.transforms ++ ", comparators: " ++
    renderKeys reg.comparators ++ ", custom_rules: " ++ renderKeys reg.customRules ++ " \x7d"

end Registry

end TagRules
