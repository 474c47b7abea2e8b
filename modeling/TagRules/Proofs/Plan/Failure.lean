import TagRules.Proofs.Dependency.Detection
import TagRules.Proofs.Plan.Built
import TagRules.Proofs.Rule.Evaluation

/-!
# When there is no plan

The rules of tags are in normal form, so that every tag has its nodes. What is left to fail are the
levels of the tags.

* `Flatten.exists_ofTags`: every list of tags with levels has nodes.
* `build_eq_error_iff`: there is no plan when there are no levels.
* `exists_build_error_iff`: there are no levels when cycles are kept and there is one.
-/

namespace TagRules

open Outcome

namespace Flatten

variable (table : TransformTable) (tag : String) (level : Nat)

theorem exists_ofLeaf {l : Rule} (h : l.isLeaf = true) : ∃ op, ofLeaf table tag l = .ok op := by
  cases l with
  | condition c => exact ⟨_, rfl⟩
  | custom key => exact ⟨_, rfl⟩
  | all rs => cases h
  | any rs => cases h

theorem exists_ofAlternative {ls : List Rule} (h : ∀ l ∈ ls, l.isLeaf = true) (first : Nat) :
    ∃ nodes, ofAlternative table tag level first (.all ls) = .ok nodes := by
  obtain ⟨ops, hops⟩ := exists_mapM (f := ofLeaf table tag) fun l hl => exists_ofLeaf table tag (h l hl)
  exact ⟨_, bind_eq_ok_iff.2 ⟨ops, hops, rfl⟩⟩

theorem exists_ofAlternatives {rs : List Rule}
    (h : ∀ r ∈ rs, ∃ ls, r = .all ls ∧ ∀ l ∈ ls, l.isLeaf = true) :
    ∀ first, ∃ out, ofAlternatives table tag level first rs = .ok out := by
  induction rs with
  | nil => exact fun first => ⟨_, rfl⟩
  | cons r rs ih =>
    intro first
    obtain ⟨⟨ls, rfl, hls⟩, hrs⟩ := List.forall_mem_cons.1 h
    obtain ⟨nodes, hnodes⟩ := exists_ofAlternative table tag level hls first
    obtain ⟨rest, hrest⟩ := ih hrs (first + nodes.length)
    exact ⟨_, bind_eq_ok_iff.2 ⟨nodes, hnodes, bind_eq_ok_iff.2 ⟨rest, hrest, rfl⟩⟩⟩

/-- A rule in normal form has nodes. -/
theorem exists_ofRule {r : Rule} (h : r.isCanonical = true) (first : Nat) :
    ∃ nodes, ofRule table tag level first r = .ok nodes := by
  obtain ⟨alternatives, rfl, halternatives⟩ := Rule.exists_of_isCanonical h
  obtain ⟨out, hout⟩ := exists_ofAlternatives table tag level halternatives first
  exact ⟨_, bind_eq_ok_iff.2 ⟨out, hout, rfl⟩⟩

/-- **Tags have nodes**, as their rules are in normal form. -/
theorem exists_ofTags (ranked : List (Tag × Nat)) :
    ∀ first, ∃ nodes, ofTags table first ranked = .ok nodes := by
  induction ranked with
  | nil => exact fun first => ⟨_, rfl⟩
  | cons entry ranked ih =>
    obtain ⟨t, level⟩ := entry
    intro first
    obtain ⟨nodes, hnodes⟩ := exists_ofRule table t.name level t.canonical first
    obtain ⟨rest, hrest⟩ := ih (first + nodes.length)
    exact ⟨_, bind_eq_ok_iff.2 ⟨nodes, hnodes, bind_eq_ok_iff.2 ⟨rest, hrest, rfl⟩⟩⟩

end Flatten

namespace ExecutionPlan

variable {tags : TagSet} {options : PlannerOptions}

/-- **There is no plan when there are no levels**, and for the same reason. -/
theorem build_eq_error_iff {e : PlanError} :
    build tags options = .error e ↔ (graphOf tags options).1.levels = .error e := by
  have hbuild : build tags options = (do
      let levels ← (graphOf tags options).1.levels
      let nodes ← Flatten.ofTags (tableOf tags options) (tableOf tags options).length
        (tags.tags.zip levels)
      return (⟨(tableOf tags options).nodes, batchesOf (Optimize.run options nodes), tags.names,
        (graphOf tags options).2⟩ : ExecutionPlan)) := rfl
  rw [hbuild, bind_eq_error_iff]
  -- Once there are levels, every tag has its nodes and nothing is left to fail.
  refine or_iff_left ?_
  rintro ⟨levels, -, h⟩
  obtain ⟨nodes, hnodes⟩ := Flatten.exists_ofTags (tableOf tags options) (tags.tags.zip levels)
    (tableOf tags options).length
  rw [hnodes] at h
  cases h

/-- Levels are missing because of a circle of dependencies, and for no other reason. -/
theorem exists_cyclicDependency {g : DependencyGraph} {e : PlanError} (h : g.levels = .error e) :
    ∃ path, e = .cyclicDependency path := by
  obtain ⟨start, rest, -, rfl⟩ := DependencyGraph.exists_isCycle_of_buildOrder
    (DependencyGraph.levels_eq_error_iff.1 h)
  exact ⟨_, rfl⟩

/-- **There is no plan when cycles are kept and there is one.** -/
theorem exists_build_error_iff :
    (∃ e, build tags options = .error e) ↔
      options.removeCycles = false ∧ ∃ cycle, (DependencyGraph.ofTags tags).IsCycle cycle := by
  simp only [build_eq_error_iff]
  cases hremove : options.removeCycles with
  | true =>
    have hgraph : (graphOf tags options).1 = (DependencyGraph.ofTags tags).removeCycles.1 := by
      rw [graphOf, if_pos hremove]
    obtain ⟨levels, hlevels⟩ := DependencyGraph.exists_levels
      (DependencyGraph.not_isCycle_removeCycles (DependencyGraph.ofTags tags))
    simp [hgraph, hlevels]
  | false =>
    have hgraph : (graphOf tags options).1 = DependencyGraph.ofTags tags := by
      rw [graphOf, if_neg (by simp [hremove])]
    rw [hgraph, DependencyGraph.exists_levels_error_iff]
    exact (and_iff_right rfl).symm

end ExecutionPlan

end TagRules
