import TagRules.Registry

/-!
# Resolved rules

A rule whose keys are looked up and whose patterns are read can be evaluated on many records.
Evaluation visits every leaf, so that an error shows even where the result is already decided.

* `Registry.resolve`: resolves a rule.
* `Resolved.evaluate`: the truth value of a rule on a record.
* `Resolved.observe`: the same, with the truth value of every node.
-/

namespace TagRules

/-- A rule whose keys are looked up. -/
inductive Resolved where
  /-- A condition on one field. -/
  | condition (field : String) (transform : Option Transform) (predicate : Predicate)
  /-- A custom predicate. -/
  | custom (f : CustomRule)
  /-- A conjunction. -/
  | all (children : List Resolved)
  /-- A disjunction. -/
  | any (children : List Resolved)

namespace Registry

/-- Looks up a transform. -/
def resolveTransform (reg : Registry) (key : String) : Except EvalError Transform :=
  match reg.transform? key with
  | some f => .ok f
  | none => .error (.unknownOperator .transform key)

/-- Looks up a custom rule. -/
def resolveCustom (reg : Registry) (key : String) : Except EvalError CustomRule :=
  match reg.customRule? key with
  | some f => .ok f
  | none => .error (.unknownRuleKey key)

/-- Looks up the comparator of a condition and reads its pattern, if it is one. -/
def resolvePredicate (reg : Registry) (c : Condition) : Except EvalError Predicate :=
  match reg.comparator? c.comparator with
  | none => .error (.unknownOperator .comparator c.comparator)
  | some comparator =>
    (comparator.bind c.value).mapError fun e => .invalidPattern e.pattern e.fault

/-- Resolves a condition, the transform first. -/
def resolveCondition (reg : Registry) (c : Condition) : Except EvalError Resolved := do
  let transform ← match c.transform with
    | some key => some <$> reg.resolveTransform key
    | none => pure none
  return .condition c.field transform (← reg.resolvePredicate c)

mutual

/-- Resolves a rule. -/
def resolve (reg : Registry) : Rule → Except EvalError Resolved
  | .condition c => reg.resolveCondition c
  | .custom key => .custom <$> reg.resolveCustom key
  | .all rs => .all <$> resolveList reg rs
  | .any rs => .any <$> resolveList reg rs

/-- Resolves some rules, one after the other. -/
def resolveList (reg : Registry) : List Rule → Except EvalError (List Resolved)
  | [] => .ok []
  | r :: rs => do
    let p ← resolve reg r
    let ps ← resolveList reg rs
    return p :: ps

end

end Registry

/-- The outcome of one node of a rule, which a path of child indices leads to. -/
structure Observation where
  /-- The way from the root to the node. -/
  path : List Nat
  /-- The truth value of the node. -/
  outcome : Bool
deriving DecidableEq, Repr

/-- The outcome of a rule and of each of its nodes, a node after its children. -/
structure Evaluation where
  /-- The truth value of the rule. -/
  outcome : Bool
  /-- The truth values of the nodes. -/
  observations : List Observation
deriving DecidableEq, Repr

namespace Resolved

/-- Tests a value, after a transform if there is one. Null is tested as it is. -/
def testValue (transform : Option Transform) (predicate : Predicate) (v : Value) :
    Except EvalError Bool :=
  match transform with
  | some f => if v.isNull then predicate.test v else do predicate.test (← f v)
  | none => predicate.test v

mutual

/-- The truth value of a rule on a record. -/
def evaluate (record : Record) : Resolved → Except EvalError Bool
  | .condition field transform predicate => testValue transform predicate (record.get field)
  | .custom f => f record
  | .all rs => (·.all id) <$> evaluateList record rs
  | .any rs => (·.any id) <$> evaluateList record rs

/-- The truth values of some rules, one after the other. -/
def evaluateList (record : Record) : List Resolved → Except EvalError (List Bool)
  | [] => .ok []
  | r :: rs => do
    let b ← evaluate record r
    let bs ← evaluateList record rs
    return b :: bs

end

/-- The evaluation of a node whose children are evaluated. -/
def conclude (path : List Nat) (outcome : Bool) (children : List Evaluation) : Evaluation :=
  ⟨outcome, children.flatMap Evaluation.observations ++ [⟨path, outcome⟩]⟩

mutual

/-- The outcomes of the nodes of a rule on a record, where a path leads to the rule. -/
def observeAt (record : Record) (path : List Nat) : Resolved → Except EvalError Evaluation
  | .condition field transform predicate => do
    let b ← testValue transform predicate (record.get field)
    return conclude path b []
  | .custom f => do
    let b ← f record
    return conclude path b []
  | .all rs => do
    let es ← observeList record path 0 rs
    return conclude path (es.all Evaluation.outcome) es
  | .any rs => do
    let es ← observeList record path 0 rs
    return conclude path (es.any Evaluation.outcome) es

/-- The outcomes of the nodes of some rules, which are children of one node from an index on. -/
def observeList (record : Record) (path : List Nat) (index : Nat) :
    List Resolved → Except EvalError (List Evaluation)
  | [] => .ok []
  | r :: rs => do
    let e ← observeAt record (path ++ [index]) r
    let es ← observeList record path (index + 1) rs
    return e :: es

end

/-- The outcomes of the nodes of a rule on a record. -/
def observe (record : Record) (r : Resolved) : Except EvalError Evaluation := r.observeAt record []

end Resolved

namespace Rule

/-- The truth value of a rule on a record. -/
def evaluate (r : Rule) (record : Record) (reg : Registry) : Except EvalError Bool := do
  (← reg.resolve r).evaluate record

/-- The outcomes of the nodes of a rule on a record. -/
def observe (r : Rule) (record : Record) (reg : Registry) : Except EvalError Evaluation := do
  (← reg.resolve r).observe record

end Rule

end TagRules
