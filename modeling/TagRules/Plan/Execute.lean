import TagRules.Plan.Basic
import TagRules.RecordSet
import TagRules.Resolved

/-!
# Running a plan

A plan is run batch by batch. A column holds one entry per record: a truth value, or the value of a
field after a transform. The tag lists change only between batches, when the applications of a
batch add their tags.

* `Execution.evaluateNode`: the column of a node.
* `Execution.runBatch`: the columns of a batch.
* `ExecutionPlan.execute`: the tag lists after all batches, and a report.
-/

namespace TagRules

/-- A column. -/
inductive Column where
  /-- A truth value per record. -/
  | mask (entries : List Bool)
  /-- A value per record. -/
  | values (entries : List Value)

/-- How many records a node matched. -/
structure NodeMatch where
  /-- The number of the column. -/
  column : Alias
  /-- The tag that the node was first made for. -/
  tag : String
  /-- The kind of the node. -/
  kind : NodeKind
  /-- The number of records. -/
  count : Nat
deriving DecidableEq, Repr

/-- What a plan matched in a run. -/
structure PlanReport where
  /-- The nodes in the order in which they ran, without those of transforms. -/
  nodes : List NodeMatch
  /-- The number of batches. -/
  batches : Nat
  /-- The number of records. -/
  records : Nat
deriving DecidableEq, Repr

namespace PlanReport

/-- How many records the node of a column matched, if there is one. -/
def count? (r : PlanReport) (a : Alias) : Option Nat :=
  (r.nodes.find? (·.column = a)).map NodeMatch.count

/-- How many records the rule of a tag matched. -/
def applied (r : PlanReport) (tag : String) : Nat :=
  ((r.nodes.find? fun n => n.kind = .application && n.tag = tag).map NodeMatch.count).getD 0

/-- The nodes that matched no record. -/
def neverMatched (r : PlanReport) : List NodeMatch := r.nodes.filter (·.count = 0)

end PlanReport

/-- A tag list with one more tag, unless the tag is there already. -/
def addTag (tag : String) (tags : List String) : List String :=
  if tags.contains tag then tags else tags ++ [tag]

/-- Tag lists with one more tag where a mask is true. -/
def addTags (tag : String) (mask : List Bool) (lists : List (List String)) : List (List String) :=
  List.zipWith (fun tags b => if b then addTag tag tags else tags) lists mask

namespace Registry

/-- Transforms a value, unless it is null. The transform has to be registered in any case. -/
def applyTransform (reg : Registry) (key : Option String) (v : Value) : Except EvalError Value :=
  match key with
  | none => .ok v
  | some key => do
    let f ← reg.resolveTransform key
    if v.isNull then return .null
    f v

end Registry

namespace Execution

/-- What a run has computed so far. -/
structure State where
  /-- The columns by number, the newest first. -/
  columns : List (Alias × Column)
  /-- The tag lists, row by row. -/
  lists : List (List String)
  /-- The nodes that have run, in order. -/
  report : List NodeMatch

variable (reg : Registry) (records : RecordSet)

/-- An error of evaluation as one of tagging. -/
def liftEval {α : Type} (x : Except EvalError α) : Except TaggingError α := x.mapError .eval

/-- The mask of a column. -/
def maskOf (columns : List (Alias × Column)) (a : Alias) : Except TaggingError (List Bool) :=
  match columns.lookup a with
  | some (.mask entries) => .ok entries
  | _ => .error (.plan (.missingInput a.render))

/-- The values of a column. -/
def valuesOf (columns : List (Alias × Column)) (a : Alias) : Except TaggingError (List Value) :=
  match columns.lookup a with
  | some (.values entries) => .ok entries
  | _ => .error (.plan (.missingInput a.render))

/-- The conjunction, or the disjunction, of columns. -/
def combine (columns : List (Alias × Column)) (all : Bool) (inputs : List Alias) :
    Except TaggingError (List Bool) :=
  inputs.foldlM (fun acc a => do
    let mask ← maskOf columns a
    return List.zipWith (if all then and else or) acc mask) (records.map fun _ => all)

/-- Tests values, each after a transform. -/
def testAll (predicate : Predicate) (transform : Option String) (values : List Value) :
    Except EvalError (List Bool) :=
  values.mapM fun v => do predicate.test (← reg.applyTransform transform v)

/-- The column of a condition: of the values that are transformed already, of the tag lists or of a
field. The tag lists are there only where a node of the batch reads them. -/
def evaluateCondition (columns : List (Alias × Column)) (live : Option (List Value)) (c : Condition)
    (input : Option Alias) : Except TaggingError (List Bool) := do
  let predicate ← liftEval (reg.resolvePredicate c)
  match input with
  | some a =>
    let values ← valuesOf columns a
    liftEval (values.mapM predicate.test)
  | none =>
    if c.isTagReference then
      match live with
      | some tags => liftEval (testAll reg predicate c.transform tags)
      | none => .error (.plan (.missingInput tagsField))
    else liftEval (testAll reg predicate c.transform (records.column c.field))

/-- The column of a node. -/
def evaluateNode (columns : List (Alias × Column)) (live : Option (List Value)) (n : PlanNode) :
    Except TaggingError (List Bool) :=
  match n.op with
  | .condition c input => evaluateCondition reg records columns live c input
  | .custom key => do
    let f ← liftEval (reg.resolveCustom key)
    liftEval (records.mapM f)
  | .conjunction inputs => combine records columns true inputs
  | .disjunction inputs => combine records columns false inputs
  | .apply _ input => maskOf columns input
  | .transform _ _ => .error (.plan (.missingInput n.column.render))

/-- Stores the column of a node, and adds the tag of an application. -/
def store (s : State) (n : PlanNode) (mask : List Bool) : State where
  columns := (n.column, .mask mask) :: s.columns
  lists := match n.op with
    | .apply tag _ => addTags tag mask s.lists
    | _ => s.lists
  report := s.report ++ [⟨n.column, n.tag, n.kind, mask.countP id⟩]

/-- The tag lists as a column, if a node of a batch reads them. -/
def liveTags (b : Batch) (lists : List (List String)) : Option (List Value) :=
  if b.nodes.any (·.kind = .tagReference) then some (lists.map Value.ofStrings) else none

/-- Runs a batch: first all columns are computed, and then they are stored. -/
def runBatch (s : State) (b : Batch) : Except TaggingError State := do
  let masks ← b.nodes.mapM (evaluateNode reg records s.columns (liveTags b s.lists))
  return (b.nodes.zip masks).foldl (fun s (n, mask) => store s n mask) s

/-- Computes the column of a transform. -/
def runTransform (s : State) (n : PlanNode) : Except TaggingError State :=
  match n.op with
  | .transform field key => do
    let values ← liftEval ((records.column field).mapM (reg.applyTransform (some key)))
    return { s with columns := (n.column, .values values) :: s.columns }
  | _ => .ok s

end Execution

/-- Runs a plan from some tag lists on. -/
def ExecutionPlan.execute (plan : ExecutionPlan) (reg : Registry) (records : RecordSet)
    (lists : List (List String)) : Except TaggingError (List (List String) × PlanReport) := do
  let s ← plan.transforms.foldlM (Execution.runTransform reg records) ⟨[], lists, []⟩
  let s ← plan.batches.foldlM (Execution.runBatch reg records) s
  return (s.lists, ⟨s.report, plan.batches.length, records.length⟩)

end TagRules
