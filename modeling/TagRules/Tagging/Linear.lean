import TagRules.MatchReport
import TagRules.Tagging.Planned

/-!
# Linear tagging

A linear engine evaluates the rule of every tag on every record. The tags are taken level by level,
and all tags of a level see the tag lists as they stand after the levels below.

* `LinearEngine.make`: the engine of a tag set that is valid.
* `LinearEngine.tagRecords`: tags records.
* `LinearEngine.matchReports`: tags records and reports what matched.
-/

namespace TagRules

/-- Tags with the order in which they are taken. -/
structure LinearEngine where
  /-- The tags. -/
  tags : TagSet
  /-- What the keys stand for. -/
  registry : Registry
  /-- What is done with earlier results. -/
  options : TaggingOptions
  /-- For each level, the numbers of its tags in the order of declaration. -/
  levels : List (List Nat)

namespace LinearEngine

/-- The tags of each level, from level 0 to the highest one. -/
def groupLevels (order : List (Nat × Nat)) : List (List Nat) :=
  let count := (order.map fun (_, level) => level + 1).foldl max 0
  (List.range count).map fun level => (order.filter (·.2 = level)).map Prod.fst

/-- The engine of a tag set. -/
def make (tags : TagSet) (reg : Registry) (options : TaggingOptions) :
    Except TaggingError LinearEngine := do
  (tags.validate reg).mapError .rule
  let (graph, _) := (DependencyGraph.ofTags tags).removeCycles
  let order ← graph.levelOrder.mapError .plan
  return ⟨tags, reg, options, groupLevels order⟩

/-- A tag with its number and its resolved rule. -/
structure Entry where
  /-- The number of the tag. -/
  index : Nat
  /-- The name of the tag. -/
  name : String
  /-- The rule of the tag. -/
  rule : Resolved

/-- Adds the tags of a level, whose rules are evaluated by `f` on the records with their tag lists
as they stand. Also gives the results, by the number of the tag. -/
def runLevel {β : Type} (f : Record → Resolved → Except EvalError β) (outcome : β → Bool)
    (records : RecordSet) (lists : List (List String)) (level : List Entry) :
    Except EvalError (List (List String) × List (Nat × List β)) := do
  let working := records.withTagLists lists
  let results ← level.mapM fun e => return (e, ← working.mapM fun r => f r e.rule)
  let lists := results.foldl (fun lists (e, row) => addTags e.name (row.map outcome) lists) lists
  return (lists, results.map fun (e, row) => (e.index, row))

/-- Adds the tags of all levels, one level after the other. -/
def runLevels {β : Type} (f : Record → Resolved → Except EvalError β) (outcome : β → Bool)
    (records : RecordSet) : List (List String) → List (List Entry) →
    Except EvalError (List (List String) × List (Nat × List β))
  | lists, [] => .ok (lists, [])
  | lists, level :: rest => do
    let (lists, results) ← runLevel f outcome records lists level
    let (lists, more) ← runLevels f outcome records lists rest
    return (lists, results ++ more)

/-- Evaluates all tags. Gives the tagged records and the results by the number of the tag. -/
def run {β : Type} (f : Record → Resolved → Except EvalError β) (outcome : β → Bool)
    (e : LinearEngine) (records : RecordSet) :
    Except TaggingError (RecordSet × List (Nat × List β)) := do
  let rules ← (e.tags.tags.mapM fun t => e.registry.resolve t.rule).mapError .eval
  let entries := List.zipWith (fun (t, i) r => (⟨i, t.name, r⟩ : Entry)) e.tags.tags.zipIdx rules
  let levels := e.levels.map (·.filterMap (entries[·]?))
  let start := startLists records e.tags.names e.options.removeOldTags
  let (lists, results) ← (runLevels f outcome records start levels).mapError .eval
  return (records.withTagLists lists, results)

/-- The tagged records. -/
def tagRecords (e : LinearEngine) (records : RecordSet) : Except TaggingError RecordSet :=
  Prod.fst <$> run Resolved.evaluate id e records

/-- The tagged records, and a report on every tag in the order of declaration. -/
def matchReports (e : LinearEngine) (records : RecordSet) :
    Except TaggingError (RecordSet × List (String × MatchReport)) := do
  let (tagged, results) ← run Resolved.observe Evaluation.outcome e records
  let reports := e.tags.tags.zipIdx.map fun (t, i) =>
    (t.name, ((results.lookup i).getD []).foldl MatchReport.record .empty)
  return (tagged, reports)

end LinearEngine

end TagRules
