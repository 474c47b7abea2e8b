import TagRules.Proofs.Plan.Transforms
import TagRules.Proofs.Plan.Valuation
import TagRules.Proofs.Tagging.Course

/-!
# Plans that realize a course

The nodes of a plan stand for the rules of a course: each column has a truth value on every record,
and the column of an application has the value that the rule of its tag has at the level of the tag.

* `Course.truth`: the truth values of rules on a record, level by level.
* `Realizes`: what the nodes of a plan have to do with a course.
* `realizes_of_build`: the nodes of a plan that was built realize the course of its tags.
-/

namespace TagRules

namespace Course

variable {c : Course}

/-- **The truth values of rules on a record**, level by level. -/
def truth (c : Course) (hreg : c.registry.IgnoresTags) (r : Record) : Truth where
  value level rule := rule.holds c.registry (c.view level r)
  all _ rs := Rule.holds_all rs
  any _ rs := Rule.holds_any rs
  free level level' _ hleaf href := Rule.holds_congr hreg hleaf href
    (c.view_agreesOffTags level level' r)

end Course

/-- **The nodes of a plan realize a course**, with a truth value for every column and record. -/
structure Realizes (c : Course) (hreg : c.registry.IgnoresTags) (table : TransformTable)
    (nodes : List PlanNode) (value : Record → Alias → Bool) : Prop where
  /-- What a node reads is there. -/
  supplied : ∀ n ∈ nodes, Supplied table nodes n
  /-- A column has the truth value that its node says. -/
  consistent : ∀ r, Consistent (c.truth hreg r) (value r) nodes
  /-- The applications are those of the tags, in the order of declaration. -/
  applications : ∀ r, (nodes.filterMap PlanNode.application?).map (Flatten.appliedValue (value r)) =
    c.ranked.map fun e => (e.1.name, e.2, e.1.rule.holds c.registry (c.view e.2 r))
  /-- Every leaf of a node is one of a rule. -/
  leaf_of_node : ∀ n ∈ nodes, ∀ l, n.op.leaf? = some l →
    ∃ e ∈ c.ranked, l ∈ e.1.rule.leaves ∧ (n.kind = .tagReference → n.level = e.2)
  /-- Every leaf of a rule is one of a node. -/
  node_of_leaf : ∀ e ∈ c.ranked, ∀ l ∈ e.1.rule.leaves,
    ∃ n ∈ nodes, n.op.leaf? = some l ∧ (n.kind = .tagReference → n.level = e.2)
  /-- Every column of a transform is read by a condition of a rule. -/
  reader : ∀ column ∈ table, ∃ e ∈ c.ranked, ∃ condition, .condition condition ∈ e.1.rule.leaves ∧
    condition.isTagReference = false ∧ condition.field = column.field ∧
    condition.transform = some column.transform

/-! ### Plans that are built -/

namespace ExecutionPlan

variable {tags : TagSet} {reg : Registry} {planner : PlannerOptions} {options : TaggingOptions}
  {levels : List Nat} {nodes : List PlanNode}

/-- **The nodes of a plan that was built realize the course of its tags.** -/
theorem realizes_of_build (hreg : reg.IgnoresTags) (hlength : levels.length = tags.tags.length)
    (hnodes : Flatten.ofTags (tableOf tags planner) (tableOf tags planner).length
      (tags.tags.zip levels) = .ok nodes) :
    ∃ value, Realizes (tags.course reg options levels) hreg (tableOf tags planner)
      (Optimize.run planner nodes) value := by
  have hlayered := Flatten.layered_ofTags hnodes
  have hkept : Optimize.Kept _ nodes (Optimize.after planner nodes) := Optimize.kept_after hlayered
  have hsame : Optimize.SameLeaves nodes (Optimize.after planner nodes).kept :=
    Optimize.sameLeaves_after hlayered
  let T := (tags.course reg options levels).truth hreg
  have hvalues : ∀ r, Consistent (T r) (valuation (T r) nodes) (Optimize.after planner nodes).kept :=
    fun r => (Optimize.consistent_after hlayered (consistent_valuation (T r) hlayered)).1
  rw [Optimize.run_eq]
  refine ⟨fun r => valuation (T r) nodes, hkept.supplied, hvalues, fun r => ?_,
    fun n hn l hl => ?_, fun e he l hl => ?_, fun column hcolumn => ?_⟩
  · rw [hkept.applications]
    exact Flatten.applications_value hnodes (consistent_valuation (T r) hlayered)
  · obtain ⟨m, hm, hml, href⟩ := hsame.of_kept n hn l hl
    obtain ⟨e, he, hel, hlevel⟩ := (Flatten.exists_leaf_iff hnodes).1 ⟨m, hm, hml, rfl⟩
    exact ⟨e, he, hel, fun hkind => (href hkind).trans hlevel.symm⟩
  · obtain ⟨n, hn, hnl, hlevel⟩ := (Flatten.exists_leaf_iff hnodes).2 ⟨e, he, hl, rfl⟩
    obtain ⟨m, hm, hml, href⟩ := hsame.kept_of n hn l hnl
    refine ⟨m, hm, hml, fun hkind => (href ?_).trans hlevel⟩
    exact (NodeOp.isLeaf_of_leaf? hnl).2.1 ((NodeOp.isLeaf_of_leaf? hml).2.2 hkind)
  · unfold tableOf at hcolumn
    split at hcolumn
    · obtain ⟨t, ht, rest⟩ := TransformTable.exists_reader hcolumn
      obtain ⟨e, he, rfl⟩ : ∃ e ∈ (tags.course reg options levels).ranked, e.1 = t :=
        TagSet.exists_mem_ranked hlength ht
      exact ⟨e, he, rest⟩
    · cases hcolumn

end ExecutionPlan

end TagRules
