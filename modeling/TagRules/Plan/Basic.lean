import TagRules.Plan.Flatten
import TagRules.Plan.Optimize

/-!
# Plans

A plan computes the tags of a record set column by column. Nodes of one priority form a batch; they
do not read each other, and every node reads only columns of earlier batches.

* `ExecutionPlan.build`: the plan of a tag set.
* `ExecutionPlan.batchesOf`: nodes by priority.
-/

namespace TagRules

/-- The nodes of one priority. -/
structure Batch where
  /-- When the nodes run. -/
  priority : Priority
  /-- The nodes. -/
  nodes : List PlanNode
deriving DecidableEq

/-- A plan. -/
structure ExecutionPlan where
  /-- The columns of transforms, which come first. -/
  transforms : List PlanNode
  /-- The batches in the order in which they run. -/
  batches : List Batch
  /-- The names of the tags. -/
  tags : List String
  /-- The dependencies that were dropped to break cycles. -/
  removedEdges : List RemovedEdge
deriving DecidableEq

namespace ExecutionPlan

/-- Nodes by priority, in the order of priorities. -/
def batchesOf (nodes : List PlanNode) : List Batch :=
  let priorities := (nodes.map PlanNode.priority).eraseDups.mergeSort Priority.before
  priorities.map fun p => ⟨p, nodes.filter (·.priority = p)⟩

/-- The plan of a tag set. -/
def build (tags : TagSet) (options : PlannerOptions) : Except PlanError ExecutionPlan := do
  let graph := DependencyGraph.ofTags tags
  let (graph, removed) := if options.removeCycles then graph.removeCycles else (graph, [])
  let levels ← graph.levels
  let table : TransformTable := if options.precomputeTransforms then .ofTags tags else []
  let nodes ← Flatten.ofTags table table.length (tags.tags.zip levels)
  return ⟨table.nodes, batchesOf (Optimize.run options nodes), tags.names, removed⟩

/-- All nodes, in the order in which they run. -/
def nodes (plan : ExecutionPlan) : List PlanNode :=
  plan.transforms ++ plan.batches.flatMap Batch.nodes

/-- The written form of a plan, a line per node. -/
def render (plan : ExecutionPlan) : String :=
  String.join (plan.nodes.map fun n => n.render ++ "\n")

end ExecutionPlan

end TagRules
