import TagRules.Proofs.Tagging.Linear
import TagRules.Proofs.Tagging.Planned

/-!
# Planned tagging agrees with linear tagging

Both engines take the records through the same course, and both fail when some rule cannot be
evaluated on the way.

* `make_ok`: the parts of a planned engine.
* `tagRecords_agree`: both engines give the same records, or both fail.
-/

namespace TagRules

open Outcome ExecutionPlan

variable {tags : TagSet} {reg : Registry} {planner : PlannerOptions} {options : TaggingOptions}

namespace PlannedEngine

variable {engine : PlannedEngine}

/-- **The parts of a planned engine.** -/
theorem make_ok (h : make tags reg planner options = .ok engine) :
    tags.validate reg = .ok () ∧ ∃ plan, ExecutionPlan.build tags planner = .ok plan ∧
      engine = ⟨plan, reg, options⟩ := by
  obtain ⟨⟨⟩, hvalid, h⟩ := bind_eq_ok_iff.1 h
  obtain ⟨plan, hplan, h⟩ := bind_eq_ok_iff.1 h
  cases h
  exact ⟨mapError_eq_ok_iff.1 hvalid, plan, mapError_eq_ok_iff.1 hplan, rfl⟩

/-- **Planned tagging agrees with linear tagging**: on any records, both engines give the same
records, or both fail. -/
theorem tagRecords_agree (hreg : reg.IgnoresTags)
    (h : make tags reg planner options = .ok engine) :
    ∃ linear, LinearEngine.make tags reg options = .ok linear ∧ ∀ records,
      (∃ out, linear.tagRecords records = .ok out ∧ engine.tagRecords records = .ok out) ∨
        ∃ e e', linear.tagRecords records = .error e ∧ engine.tagRecords records = .error e' := by
  obtain ⟨hvalid, plan, hplan, rfl⟩ := make_ok h
  obtain ⟨levels, -, hlevels, -⟩ := build_ok hplan
  obtain ⟨linear, hlinear⟩ := LinearEngine.exists_make hvalid options
  obtain ⟨-, levels', hlevels', rfl⟩ := LinearEngine.make_ok hlinear
  cases (levels_removeCycles hlevels).symm.trans hlevels'
  have hheight : ∀ level ∈ levels, level < LinearEngine.levelCount levels :=
    fun level hlevel => LinearEngine.lt_levelCount hlevel
  refine ⟨_, hlinear, fun records => ?_⟩
  exact (LinearEngine.ends_tagRecords hvalid (length_levels hlevels) hheight records).agree
    (ends_tagRecords hreg hvalid hplan hlevels hheight records)

end PlannedEngine

/-- A registry with a custom rule that reads another field than the tag list. -/
def namedRegistry : Registry :=
  { Registry.standard with customRules := [("named", fun r => .ok (r.contains "name"))] }

theorem ignoresTags_namedRegistry : namedRegistry.IgnoresTags := by
  intro key f hf r s h
  have hname : r.get? "name" = s.get? "name" := h "name" (by decide)
  unfold Registry.customRule? namedRegistry at hf
  rw [List.lookup_cons] at hf
  split at hf
  · cases hf
    simp only [Record.contains, hname]
  · cases hf

/-- A tag that reads the tag of guests. -/
def memberTag : Tag where
  name := "member"
  rule := .any [.all [.custom "named", .tagged "guest"]]
  name_ne := by decide
  canonical := by decide +kernel

/-- A tag that reads the tag of members and itself. -/
def guestTag : Tag where
  name := "guest"
  rule := .any [.all [.tagged "member"], .all [.tagged "guest", .fieldIn "age" [.int 18]]]
  name_ne := by decide
  canonical := by decide +kernel

/-- Members and guests, who depend on each other. -/
def circularTags : TagSet := ⟨[memberTag, guestTag], by decide⟩

theorem PlannedEngine.tagRecords_agree_circularTags : ∃ engine,
    make circularTags namedRegistry .optimized ⟨true⟩ = .ok engine ∧
    ∃ linear, LinearEngine.make circularTags namedRegistry ⟨true⟩ = .ok linear ∧ ∀ records,
      (∃ out, linear.tagRecords records = .ok out ∧ engine.tagRecords records = .ok out) ∨
        ∃ e e', linear.tagRecords records = .error e ∧ engine.tagRecords records = .error e' := by
  obtain ⟨engine, hengine⟩ : ∃ engine,
      make circularTags namedRegistry .optimized ⟨true⟩ = .ok engine := ⟨_, rfl⟩
  exact ⟨engine, hengine, tagRecords_agree ignoresTags_namedRegistry hengine⟩

end TagRules
