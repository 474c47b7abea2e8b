import TagRules.Dependency.Levels
import TagRules.Plan.Node

/-!
# The nodes of a tag

The rule of a tag becomes a list of nodes, each after the nodes that it reads: the leaves of an
alternative and then their conjunction, alternative by alternative, then the disjunction of these
and at last the application of the tag. Columns are numbered in this order.

* `TransformTable.ofTags`: the columns of transforms that are computed before all conditions.
* `Flatten.ofTags`: the nodes of all tags.
-/

namespace TagRules

/-- A field with a transform, and the tag that first reads them. -/
structure TransformColumn where
  /-- The tag. -/
  tag : String
  /-- The field. -/
  field : String
  /-- The transform. -/
  transform : String
deriving DecidableEq, Repr

/-- The columns of transforms, numbered from 0 on. -/
abbrev TransformTable := List TransformColumn

namespace TransformTable

/-- The number of the column of a field with a transform. -/
def find? (table : TransformTable) (field transform : String) : Option Alias :=
  table.findIdx? fun c => c.field = field && c.transform = transform

/-- The field and the transform that a leaf reads. A condition on the tag list reads the tags as
they stand, and not a column. -/
def ofLeaf? (tag : String) : Rule → Option TransformColumn
  | .condition c => if c.isTagReference then none else c.transform.map fun t => ⟨tag, c.field, t⟩
  | _ => none

/-- The table with a column, unless there is one for its field and transform. -/
def add (table : TransformTable) (c : TransformColumn) : TransformTable :=
  if (table.find? c.field c.transform).isSome then table else table ++ [c]

/-- The columns that the rules of some tags read. -/
def ofTags (tags : TagSet) : TransformTable :=
  (tags.tags.flatMap fun t => t.rule.subrules.filterMap (ofLeaf? t.name)).foldl add []

/-- The nodes of the columns. -/
def nodes (table : TransformTable) : List PlanNode :=
  table.zipIdx.map fun (c, i) => ⟨c.tag, .transform c.field c.transform, i, 0⟩

end TransformTable

namespace Flatten

/-- The nodes of some operations of a tag, whose columns are numbered from `first` on. -/
def number (tag : String) (level first : Nat) (ops : List NodeOp) : List PlanNode :=
  (ops.zipIdx first).map fun (op, i) => ⟨tag, op, i, level⟩

/-- The column that a condition reads in the place of its field. -/
def transformInput (table : TransformTable) (c : Condition) : Option Alias :=
  if c.isTagReference then none else c.transform.bind (table.find? c.field)

/-- The operation of a leaf. -/
def ofLeaf (table : TransformTable) (tag : String) : Rule → Except PlanError NodeOp
  | .condition c => .ok (.condition c (transformInput table c))
  | .custom key => .ok (.custom key)
  | r => .error (.unsupportedRuleKind tag (r.kindName ++ " under conjunction"))

/-- The nodes of an alternative. The last one is the conjunction of the others. -/
def ofAlternative (table : TransformTable) (tag : String) (level first : Nat) :
    Rule → Except PlanError (List PlanNode)
  | .all leaves => do
    let ops ← leaves.mapM (ofLeaf table tag)
    return number tag level first (ops ++ [.conjunction (List.range' first ops.length)])
  | r => .error (.unsupportedRuleKind tag (r.kindName ++ " under disjunction"))

/-- The nodes of some alternatives, and the columns of their conjunctions. -/
def ofAlternatives (table : TransformTable) (tag : String) (level : Nat) :
    Nat → List Rule → Except PlanError (List PlanNode × List Alias)
  | _, [] => .ok ([], [])
  | first, r :: rs => do
    let nodes ← ofAlternative table tag level first r
    let next := first + nodes.length
    let (rest, inputs) ← ofAlternatives table tag level next rs
    return (nodes ++ rest, (next - 1) :: inputs)

/-- The nodes of a tag. The last two are the disjunction of the alternatives and the application. -/
def ofRule (table : TransformTable) (tag : String) (level first : Nat) :
    Rule → Except PlanError (List PlanNode)
  | .any alternatives => do
    let (nodes, inputs) ← ofAlternatives table tag level first alternatives
    let next := first + nodes.length
    return nodes ++ number tag level next [.disjunction inputs, .apply tag next]
  | r => .error (.unsupportedRuleKind tag r.kindName)

/-- The nodes of some tags with their levels, whose columns are numbered from `first` on. -/
def ofTags (table : TransformTable) : Nat → List (Tag × Nat) → Except PlanError (List PlanNode)
  | _, [] => .ok []
  | first, (t, level) :: rest => do
    let nodes ← ofRule table t.name level first t.rule
    return nodes ++ (← ofTags table (first + nodes.length) rest)

end Flatten

end TagRules
