import TagRules.Json.Basic

/-!
# Options

What a planner and a run may do. Options are read from an object, in which a missing option has its
default and unknown keys are ignored.
-/

namespace TagRules

/-- The passes of a planner. -/
structure PlannerOptions where
  /-- Whether the values of a field after a transform are computed once, before all conditions. -/
  precomputeTransforms : Bool := false
  /-- Whether a conjunction or a disjunction of one column is replaced by that column. -/
  collapseSingleChild : Bool := false
  /-- Whether nodes that compute the same are merged. -/
  deduplicate : Bool := false
  /-- Whether cycles of dependencies are broken. -/
  removeCycles : Bool := true
deriving DecidableEq, Repr

/-- What a run does with earlier results. -/
structure TaggingOptions where
  /-- Whether the tags of the run are first removed from the tag lists. -/
  removeOldTags : Bool := true
deriving DecidableEq, Repr

namespace PlannerOptions

/-- All passes. -/
def optimized : PlannerOptions := ⟨true, true, true, true⟩

/-- A truth value in an object, or its default if it is missing. -/
def flag? (fields : List (String × Json)) (key : String) (default : Bool) : Option Bool :=
  match fields.lookup key with
  | none => some default
  | some (.bool b) => some b
  | some _ => none

/-- The options of an object. -/
def ofJson? : Json → Option PlannerOptions
  | .object fields => do
    let d : PlannerOptions := {}
    return ⟨← flag? fields "precompute_transforms" d.precomputeTransforms,
      ← flag? fields "collapse_single_child" d.collapseSingleChild,
      ← flag? fields "deduplicate" d.deduplicate,
      ← flag? fields "remove_cycles" d.removeCycles⟩
  | _ => none

end PlannerOptions

/-- The options of an object. -/
def TaggingOptions.ofJson? : Json → Option TaggingOptions
  | .object fields => do
    return ⟨← PlannerOptions.flag? fields "remove_old_tags" true⟩
  | _ => none

end TagRules
