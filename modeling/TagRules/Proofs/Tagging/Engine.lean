import TagRules.Proofs.Plan.Failure
import TagRules.Proofs.Tagging.Agreement

/-!
# Engines of either kind

What holds of linear and of planned engines alike is stated once, of an engine of either kind.

* `Engine.make`, `Engine.tagRecords`: the engine of a tag set, and what it makes of records.
* `Engine.make_ok`: an engine is made for valid tags, which have levels once the cycles are broken.
* `Engine.exists_make_iff`: without cycles, there is an engine just for valid tags.
* `Engine.ends_tagRecords`: an engine takes the records through the course of its tags.
-/

namespace TagRules

open Outcome

/-- The kinds of engines, a planned one with the options of its plan. -/
inductive EngineKind where
  | linear
  | planned (planner : PlannerOptions)

/-- An engine of either kind. -/
inductive Engine where
  | linear (engine : LinearEngine)
  | planned (engine : PlannedEngine)

/-- A height above the levels of two tag sets. -/
theorem exists_height (levels levels' : List Nat) :
    ∃ height, (∀ level ∈ levels, level < height) ∧ ∀ level ∈ levels', level < height :=
  ⟨LinearEngine.levelCount (levels ++ levels'),
    fun _ hlevel => LinearEngine.lt_levelCount (List.mem_append_left _ hlevel),
    fun _ hlevel => LinearEngine.lt_levelCount (List.mem_append_right _ hlevel)⟩

namespace Engine

/-- The engine of a tag set. -/
def make (kind : EngineKind) (tags : TagSet) (reg : Registry) (options : TaggingOptions) :
    Except TaggingError Engine :=
  match kind with
  | .linear => .linear <$> LinearEngine.make tags reg options
  | .planned planner => .planned <$> PlannedEngine.make tags reg planner options

/-- The tagged records. -/
def tagRecords : Engine → RecordSet → Except TaggingError RecordSet
  | .linear engine => engine.tagRecords
  | .planned engine => engine.tagRecords

variable {kind : EngineKind} {tags : TagSet} {reg : Registry} {options : TaggingOptions}
  {engine : Engine} {levels : List Nat}

/-- **What an engine is made for**: valid tags, which have levels once the cycles are broken. -/
theorem make_ok (h : make kind tags reg options = .ok engine) :
    tags.validate reg = .ok () ∧
      ∃ levels, (DependencyGraph.ofTags tags).removeCycles.1.levels = .ok levels := by
  cases kind with
  | linear =>
    obtain ⟨linear, hlinear, -⟩ := map_eq_ok_iff.1 h
    obtain ⟨hvalid, levels, hlevels, -⟩ := LinearEngine.make_ok hlinear
    exact ⟨hvalid, levels, hlevels⟩
  | planned planner =>
    obtain ⟨planned, hplanned, -⟩ := map_eq_ok_iff.1 h
    obtain ⟨hvalid, plan, hplan, -⟩ := PlannedEngine.make_ok hplanned
    obtain ⟨levels, -, hlevels, -⟩ := ExecutionPlan.build_ok hplan
    exact ⟨hvalid, levels, ExecutionPlan.levels_removeCycles hlevels⟩

/-- **Without cycles, there is an engine just for valid tags**, of either kind. -/
theorem exists_make_iff (hacyclic : ∀ cycle, ¬(DependencyGraph.ofTags tags).IsCycle cycle) :
    (∃ engine, make kind tags reg options = .ok engine) ↔ tags.validate reg = .ok () := by
  refine ⟨fun ⟨engine, h⟩ => (make_ok h).1, fun hvalid => ?_⟩
  cases kind with
  | linear =>
    obtain ⟨linear, hlinear⟩ := LinearEngine.exists_make hvalid options
    exact ⟨.linear linear, map_eq_ok_iff.2 ⟨linear, hlinear, rfl⟩⟩
  | planned planner =>
    have hplan : ∃ plan, ExecutionPlan.build tags planner = .ok plan := by
      cases hbuild : ExecutionPlan.build tags planner with
      | ok plan => exact ⟨plan, rfl⟩
      | error e =>
        obtain ⟨-, cycle, hcycle⟩ := ExecutionPlan.exists_build_error_iff.1 ⟨e, hbuild⟩
        exact absurd hcycle (hacyclic cycle)
    obtain ⟨plan, hplan⟩ := hplan
    refine ⟨.planned ⟨plan, reg, options⟩, map_eq_ok_iff.2 ⟨_, ?_, rfl⟩⟩
    rw [PlannedEngine.make, hvalid, hplan]
    rfl

/-- **An engine takes the records through the course of its tags**, and succeeds when every rule can
be evaluated on the way. -/
theorem ends_tagRecords (hreg : reg.IgnoresTags) (h : make kind tags reg options = .ok engine)
    (hlevels : (DependencyGraph.ofTags tags).removeCycles.1.levels = .ok levels) {height : Nat}
    (hheight : ∀ level ∈ levels, level < height) (records : RecordSet) :
    Ends (fun out => out = records.map ((tags.course reg options levels).view height) ∧
        (tags.course reg options levels).Defined records)
      (fun _ => ¬(tags.course reg options levels).Defined records)
      (engine.tagRecords records) := by
  cases kind with
  | linear =>
    obtain ⟨linear, hlinear, rfl⟩ := map_eq_ok_iff.1 h
    obtain ⟨hvalid, levels', hlevels', rfl⟩ := LinearEngine.make_ok hlinear
    cases hlevels.symm.trans hlevels'
    exact LinearEngine.ends_tagRecords hvalid (DependencyGraph.length_levels_ofTags hlevels) hheight
      records
  | planned planner =>
    obtain ⟨planned, hplanned, rfl⟩ := map_eq_ok_iff.1 h
    obtain ⟨hvalid, plan, hplan, rfl⟩ := PlannedEngine.make_ok hplanned
    obtain ⟨levels', -, hlevels', -⟩ := ExecutionPlan.build_ok hplan
    cases hlevels.symm.trans (ExecutionPlan.levels_removeCycles hlevels')
    exact PlannedEngine.ends_tagRecords hreg hvalid hplan hlevels' hheight records

end Engine

end TagRules
