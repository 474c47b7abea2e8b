import TagRules.Plan.Execute

/-!
# Planned tagging

A planned engine works out a plan once and runs it on any number of record sets.

* `PlannedEngine.make`: the engine of a tag set that is valid and can be planned.
* `PlannedEngine.tagDetailed`: tags records and reports what matched.
-/

namespace TagRules

/-- The tag lists of records, without some tags if they are to be removed. -/
def startLists (records : RecordSet) (managed : List String) (removeOldTags : Bool) :
    List (List String) :=
  if removeOldTags then records.tagLists.map fun tags => tags.filter fun t => !managed.contains t
  else records.tagLists

/-- A plan with what it needs to run. -/
structure PlannedEngine where
  /-- The plan. -/
  plan : ExecutionPlan
  /-- What the keys stand for. -/
  registry : Registry
  /-- What is done with earlier results. -/
  options : TaggingOptions

namespace PlannedEngine

/-- The engine of a tag set. -/
def make (tags : TagSet) (reg : Registry) (planner : PlannerOptions) (options : TaggingOptions) :
    Except TaggingError PlannedEngine := do
  (tags.validate reg).mapError .rule
  let plan ← (ExecutionPlan.build tags planner).mapError .plan
  return ⟨plan, reg, options⟩

/-- The tagged records, and what the nodes of the plan matched. -/
def tagDetailed (e : PlannedEngine) (records : RecordSet) :
    Except TaggingError (RecordSet × PlanReport) := do
  let start := startLists records e.plan.tags e.options.removeOldTags
  let (lists, report) ← e.plan.execute e.registry records start
  return (records.withTagLists lists, report)

/-- The tagged records. -/
def tagRecords (e : PlannedEngine) (records : RecordSet) : Except TaggingError RecordSet :=
  Prod.fst <$> e.tagDetailed records

end PlannedEngine

end TagRules
