import TagRules.Condition

/-!
# Nodes of a plan

A node computes one column, which has a number. What it computes is an operation that reads other
columns by their numbers; its kind and its weight follow from the operation. Nodes run in the order
of their priorities: by level first, and then by weight.

* `NodeOp.inputs`: the columns that an operation reads.
* `NodeOp.redirect`: the operation with other inputs.
* `Priority.before`: the order of priorities.
-/

namespace TagRules

/-- The kinds of nodes. -/
inductive NodeKind where
  /-- The values of a field after a transform. -/
  | transform
  /-- A condition on a field. -/
  | condition
  /-- A condition on the tag list. -/
  | tagReference
  /-- A custom predicate. -/
  | custom
  /-- A conjunction of columns. -/
  | conjunction
  /-- A disjunction of columns. -/
  | disjunction
  /-- The addition of a tag to the records that match. -/
  | application
deriving DecidableEq, Repr

namespace NodeKind

/-- The weight of a kind. Inside a level, leaves come before conjunctions, these before
disjunctions, and these before applications. -/
def weight : NodeKind → Nat
  | .transform | .condition | .custom => 0
  | .tagReference => 1
  | .conjunction => 2
  | .disjunction => 4
  | .application => 8

/-- The name of a kind in a written plan. -/
def label : NodeKind → String
  | .transform => "transform"
  | .condition => "condition"
  | .tagReference => "tag-ref"
  | .custom => "custom"
  | .conjunction => "and"
  | .disjunction => "or"
  | .application => "apply"

end NodeKind

/-- When a node runs. -/
structure Priority where
  /-- The level of the tag. -/
  level : Nat
  /-- The weight of the kind. -/
  weight : Nat
deriving DecidableEq, Repr

namespace Priority

/-- Whether one priority comes no later than another one. -/
def before (p q : Priority) : Bool :=
  p.level < q.level || (p.level = q.level && p.weight ≤ q.weight)

/-- The written form of a priority. -/
def render (p : Priority) : String := toString p.level ++ "." ++ toString p.weight

end Priority

/-- The number of a column. -/
abbrev Alias := Nat

/-- The name of a column. -/
def Alias.render (a : Alias) : String := "n" ++ toString a

/-- What a node computes. -/
inductive NodeOp where
  /-- The values of a field after a transform. -/
  | transform (field transform : String)
  /-- A condition, on the column of a transform if there is one. -/
  | condition (c : Condition) (input : Option Alias)
  /-- A custom predicate. -/
  | custom (key : String)
  /-- The conjunction of columns. -/
  | conjunction (inputs : List Alias)
  /-- The disjunction of columns. -/
  | disjunction (inputs : List Alias)
  /-- The addition of a tag to the records that a column marks. -/
  | apply (tag : String) (input : Alias)
deriving DecidableEq

namespace NodeOp

/-- The kind of an operation. -/
def kind : NodeOp → NodeKind
  | .transform _ _ => .transform
  | .condition c _ => if c.isTagReference then .tagReference else .condition
  | .custom _ => .custom
  | .conjunction _ => .conjunction
  | .disjunction _ => .disjunction
  | .apply _ _ => .application

/-- The columns that an operation reads. -/
def inputs : NodeOp → List Alias
  | .transform _ _ | .custom _ => []
  | .condition _ input => input.toList
  | .conjunction inputs | .disjunction inputs => inputs
  | .apply _ input => [input]

/-- The operation that reads other columns. -/
def redirect (f : Alias → Alias) : NodeOp → NodeOp
  | .transform field key => .transform field key
  | .custom key => .custom key
  | .condition c input => .condition c (input.map f)
  | .conjunction inputs => .conjunction (inputs.map f)
  | .disjunction inputs => .disjunction (inputs.map f)
  | .apply tag input => .apply tag (f input)

/-- The only input of a conjunction or a disjunction, if it has one input. -/
def onlyChild? : NodeOp → Option Alias
  | .conjunction [a] | .disjunction [a] => some a
  | _ => none

end NodeOp

/-- A node of a plan. -/
structure PlanNode where
  /-- The tag that the node was first made for. -/
  tag : String
  /-- What the node computes. -/
  op : NodeOp
  /-- The number of its column. -/
  column : Alias
  /-- The level at which it runs. -/
  level : Nat
deriving DecidableEq

namespace PlanNode

/-- The kind of a node. -/
def kind (n : PlanNode) : NodeKind := n.op.kind

/-- When a node runs. -/
def priority (n : PlanNode) : Priority := ⟨n.level, n.kind.weight⟩

/-- The written form of a node. -/
def render (n : PlanNode) : String :=
  let name := n.column.render
  let body := match n.op with
    | .transform field transform => name ++ " = " ++ field ++ "." ++ transform
    | .condition c none => name ++ " = " ++ c.render
    | .condition c (some input) => name ++ " = " ++ c.render ++ " <- " ++ input.render
    | .custom key => name ++ " = " ++ key
    | .conjunction inputs | .disjunction inputs =>
      name ++ " <- " ++ ", ".intercalate (inputs.map Alias.render)
    | .apply tag input => tag ++ " <- " ++ input.render
  n.priority.render ++ " " ++ n.kind.label ++ " " ++ body

end PlanNode

end TagRules
