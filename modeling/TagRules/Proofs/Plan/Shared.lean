import TagRules.Proofs.Plan.Passes
import TagRules.Proofs.Plan.Transforms
import TagRules.Proofs.Plan.WellFormed

/-!
# Shared plans

With all passes, a plan computes nothing twice: it has one node per operation, one column per field
and transform, and no composite of one column.

* `Optimize.input_eq_of_kept`, `Optimize.mem_inputs_iff`: who reads such a column.
* `Optimize.existsUnique_leaf`: where nodes are merged, a leaf has one node.
* `ExecutionPlan.Shared`: what is promised of the passes of a planner.
* `ExecutionPlan.build_shared`: every plan keeps the promise.
-/

namespace TagRules

/-! ### What the nodes of batches read -/

namespace NodeOp

theorem exists_of_leaf? {op : NodeOp} {c : Condition} (h : op.leaf? = some (.condition c)) :
    ∃ input, op = .condition c input := by
  cases op with
  | condition c' input =>
    cases h
    exact ⟨input, rfl⟩
  | _ => cases h

theorem eq_custom_of_leaf? {op : NodeOp} {key : String} (h : op.leaf? = some (.custom key)) :
    op = .custom key := by
  cases op <;> cases h
  rfl

theorem kind_ne_application_of_leaf? {op : NodeOp} {l : Rule} (h : op.leaf? = some l) :
    op.kind ≠ .application := by
  cases op with
  | condition c input =>
    rw [kind]
    split <;> decide
  | custom key => exact fun hkind => by cases hkind
  | _ => cases h

/-- A composite that has no only child does not read one column. -/
theorem length_inputs_ne_one {op : NodeOp} (h : op.onlyChild? = none)
    (hkind : op.kind = .conjunction ∨ op.kind = .disjunction) : op.inputs.length ≠ 1 := by
  intro hlength
  cases op with
  | conjunction inputs =>
    obtain ⟨a, rfl⟩ := List.length_eq_one_iff.1 hlength
    cases h
  | disjunction inputs =>
    obtain ⟨a, rfl⟩ := List.length_eq_one_iff.1 hlength
    cases h
  | condition c input =>
    rw [kind] at hkind
    split at hkind <;> rcases hkind with hkind | hkind <;> cases hkind
  | _ => rcases hkind with hkind | hkind <;> cases hkind

end NodeOp

section

variable {table : TransformTable} {options : PlannerOptions} {ranked : List (Tag × Nat)}
  {nodes : List PlanNode} {first : Nat}

/-- A condition reads the column of its own field and transform. -/
theorem Flatten.input_eq (h : Flatten.ofTags table first ranked = .ok nodes) {n : PlanNode}
    (hn : n ∈ nodes) {c : Condition} {input : Option Alias} (hop : n.op = .condition c input) :
    input = Flatten.transformInput table c := by
  -- Renaming the nodes to the columns that they have already changes nothing.
  have hrenamed : Flatten.ofTags table (first + 0) ranked = .ok (nodes.map (.renamed table 0)) :=
    Flatten.ofTags_renamed h
  have hself : nodes = nodes.map (.renamed table 0) := Except.ok.inj (h.symm.trans hrenamed)
  rw [hself] at hn
  obtain ⟨m, -, rfl⟩ := List.mem_map.1 hn
  rw [PlanNode.renamed] at hop
  cases hm : m.op with
  | condition c' input' =>
    rw [hm] at hop
    cases hop
    rfl
  | _ =>
    rw [hm] at hop
    cases hop

namespace Optimize

variable {k m : PlanNode}

/-- A kept condition still reads the column of its own field and transform. -/
theorem input_eq_of_kept (h : Flatten.ofTags table table.length ranked = .ok nodes)
    (hk : k ∈ run options nodes) {c : Condition} {input : Option Alias}
    (hop : k.op = .condition c input) : input = Flatten.transformInput table c := by
  have hlayered := Flatten.layered_ofTags h
  have hkept : Kept table nodes (after options nodes) := kept_after hlayered
  obtain ⟨n, hn, -, hstands⟩ := (merged_after hlayered).origin k hk
  have hnop := hstands.op.trans hop
  cases hcondition : n.op with
  | condition c' input' =>
    rw [hcondition] at hnop
    cases hnop
    obtain rfl := Flatten.input_eq h hn hcondition
    -- Columns of transforms are their own targets.
    refine (Option.map_congr fun a ha => ?_).trans Option.map_id'
    obtain ⟨-, column, hcolumn, -⟩ := Flatten.feeds_of_transformInput ha
    exact hkept.target_eq (Layered.length_le hlayered) a (List.getElem?_eq_some_iff.1 hcolumn).1
  | _ =>
    rw [hcondition] at hnop
    cases hnop

/-- Kept nodes that stand for the same leaf have the same operation. -/
theorem op_eq_of_leaf? (h : Flatten.ofTags table table.length ranked = .ok nodes)
    (hk : k ∈ run options nodes) (hm : m ∈ run options nodes) {l : Rule}
    (hkl : k.op.leaf? = some l) (hml : m.op.leaf? = some l) : k.op = m.op := by
  cases l with
  | condition c =>
    obtain ⟨input, hkop⟩ := NodeOp.exists_of_leaf? hkl
    obtain ⟨input', hmop⟩ := NodeOp.exists_of_leaf? hml
    rw [hkop, hmop, input_eq_of_kept h hk hkop, input_eq_of_kept h hm hmop]
  | custom key => rw [NodeOp.eq_custom_of_leaf? hkl, NodeOp.eq_custom_of_leaf? hml]
  | all rs => nomatch (NodeOp.isLeaf_of_leaf? hkl).1
  | any rs => nomatch (NodeOp.isLeaf_of_leaf? hkl).1

/-- Truth values are kept apart from the columns of transforms. -/
theorem length_le_of_mem_masks (h : Flatten.ofTags table table.length ranked = .ok nodes)
    (hk : k ∈ run options nodes) {a : Alias} (ha : a ∈ k.op.masks) : table.length ≤ a := by
  have hlayered := Flatten.layered_ofTags h
  have hkept : Kept table nodes (after options nodes) := kept_after hlayered
  obtain ⟨m, hm, rfl, -⟩ := (hkept.supplied k hk).masks a ha
  obtain ⟨n, hn, hcolumn⟩ := hkept.origin m hm
  exact hcolumn ▸ Layered.length_le hlayered n hn

/-- **Who reads the column of a transform**: the conditions that compare this field after this
transform. -/
theorem mem_inputs_iff (hnodup : table.pairs.Nodup)
    (h : Flatten.ofTags table table.length ranked = .ok nodes) (hk : k ∈ run options nodes)
    {a : Alias} {field key : String} (ha : table.pairs[a]? = some (field, key)) :
    a ∈ k.op.inputs ↔ ∃ c, k.op.leaf? = some (.condition c) ∧ c.isTagReference = false ∧
      c.field = field ∧ c.transform = some key := by
  obtain ⟨hlt, -⟩ := List.getElem?_eq_some_iff.1 ha
  rw [TransformTable.pairs, List.length_map] at hlt
  have hmask : a ∉ k.op.masks := fun hmem =>
    Nat.not_le.2 hlt (length_le_of_mem_masks h hk hmem)
  cases hop : k.op with
  | condition c input =>
    obtain rfl := input_eq_of_kept h hk hop
    rw [NodeOp.inputs, Option.mem_toList, Flatten.transformInput_eq_some_iff hnodup]
    constructor
    · rintro ⟨href, key', hkey', hpair⟩
      cases ha.symm.trans hpair
      exact ⟨c, rfl, href, rfl, hkey'⟩
    · rintro ⟨c', hleaf, href, rfl, hkey⟩
      cases hleaf
      exact ⟨href, key, hkey, ha⟩
  | _ =>
    -- All other operations read truth values only, and stand for no condition.
    rw [hop] at hmask
    refine iff_of_false hmask ?_
    rintro ⟨c, hleaf, -⟩
    cases hleaf

/-- **Where nodes are merged, a leaf has one node**, or one at each level if it reads the tag
list. -/
theorem existsUnique_leaf (hdeduplicate : options.deduplicate = true)
    (h : Flatten.ofTags table table.length ranked = .ok nodes) {e : Tag × Nat} (he : e ∈ ranked)
    {l : Rule} (hl : l ∈ e.1.rule.leaves) : ∃! n, n ∈ run options nodes ∧ n.op.leaf? = some l ∧
      (l.isTagReference = true → n.level = e.2) := by
  have hlayered := Flatten.layered_ofTags h
  have hmerged : Merged options nodes (after options nodes) := merged_after hlayered
  have hleaves : SameLeaves nodes (run options nodes) := sameLeaves_after hlayered
  obtain ⟨n, hn, hleaf, hlevel⟩ := (Flatten.exists_leaf_iff h).2 ⟨e, he, hl, rfl⟩
  obtain ⟨k, hk, hkl, href⟩ := hleaves.kept_of n hn l hleaf
  refine ⟨k, ⟨hk, hkl, fun hreference => ?_⟩, fun m ⟨hm, hml, hmlevel⟩ => ?_⟩
  · rw [href ((NodeOp.isLeaf_of_leaf? hleaf).2.1 hreference), hlevel]
  · refine hmerged.eq_of_op_eq hdeduplicate hm hk (op_eq_of_leaf? h hm hk hml hkl)
      (NodeOp.kind_ne_application_of_leaf? hml) fun hkind => ?_
    have hreference := (NodeOp.isLeaf_of_leaf? hml).2.2 hkind
    rw [hmlevel hreference, href ((NodeOp.isLeaf_of_leaf? hleaf).2.1 hreference), hlevel]

end Optimize

end

/-! ### Shared plans -/

namespace ExecutionPlan

variable {tags : TagSet} {options : PlannerOptions} {plan : ExecutionPlan}
  {table : TransformTable} {ranked : List (Tag × Nat)} {flat : List PlanNode}

/-- **Operations are shared.** -/
structure SharesOperations (ranked : List (Tag × Nat)) (plan : ExecutionPlan) : Prop where
  /-- No two nodes compute the same, unless they are applications, or conditions on the tag list at
  different levels. -/
  apart : plan.batched.Pairwise PlanNode.Apart
  /-- Every leaf of a rule has one node, or one at each level if it reads the tag list. -/
  leaf : ∀ e ∈ ranked, ∀ l ∈ e.1.rule.leaves, ∃! n, n ∈ plan.batched ∧ n.op.leaf? = some l ∧
    (l.isTagReference = true → n.level = e.2)

/-- **A node runs as early as the earliest of the nodes that are merged into it.** -/
structure RunsEarliest (options : PlannerOptions) (flat : List PlanNode) (plan : ExecutionPlan) :
    Prop where
  /-- Every node of the rules is merged into a node of the plan, or dropped for its only child. -/
  settled : ∀ n ∈ flat, Optimize.Collapsed options (Optimize.after options flat) n ∨
    ∃ k ∈ plan.batched, Optimize.MergedInto (Optimize.after options flat) n k
  attained : ∀ k ∈ plan.batched, ∃ n ∈ flat,
    Optimize.MergedInto (Optimize.after options flat) n k ∧ n.priority = k.priority
  least : ∀ k ∈ plan.batched, ∀ n ∈ flat,
    Optimize.MergedInto (Optimize.after options flat) n k → k.priority.before n.priority = true

/-- **Transforms are shared.** -/
structure SharesTransforms (tags : TagSet) (plan : ExecutionPlan) : Prop where
  /-- Every field and transform that a condition compares has one node. -/
  column : ∀ field key, tags.Transforms field key →
    ∃! m, m ∈ plan.transforms ∧ m.op = .transform field key
  /-- There are no other nodes of transforms. -/
  needed : ∀ m ∈ plan.transforms, ∃ field key, m.op = .transform field key ∧
    tags.Transforms field key
  /-- The node is read by the conditions that compare this field after this transform. -/
  read : ∀ m ∈ plan.transforms, ∀ field key, m.op = .transform field key →
    ∀ n ∈ plan.batched, m.column ∈ n.op.inputs ↔ ∃ c, n.op.leaf? = some (.condition c) ∧
      c.isTagReference = false ∧ c.field = field ∧ c.transform = some key

/-- The tags that are applied, with their levels. -/
def applied (plan : ExecutionPlan) : List (String × Nat) :=
  (plan.batched.filterMap PlanNode.application?).map fun a => (a.1, a.2.1)

/-- **What is promised of the passes of a planner**, where the rules of some tags are flattened to
some nodes. -/
structure Shared (tags : TagSet) (options : PlannerOptions) (ranked : List (Tag × Nat))
    (flat : List PlanNode) (plan : ExecutionPlan) : Prop where
  operations : options.deduplicate = true → plan.SharesOperations ranked
  earliest : plan.RunsEarliest options flat
  /-- No composite reads one column. -/
  composites : options.collapseSingleChild = true → ∀ n ∈ plan.batched,
    n.kind = .conjunction ∨ n.kind = .disjunction → n.op.inputs.length ≠ 1
  transforms : options.precomputeTransforms = true → plan.SharesTransforms tags
  /-- Conditions on the tag list read no column. -/
  references : ∀ n ∈ plan.batched, n.kind = .tagReference → n.op.inputs = []
  /-- All applications are kept. -/
  applications : (plan.batched.filterMap PlanNode.application?).Perm
    (flat.filterMap PlanNode.application?)
  /-- With fewer passes, there are no fewer nodes, and the same applications. -/
  passes : ∀ fewer plan', fewer.Within options → build tags fewer = .ok plan' →
    plan.batched.length ≤ plan'.batched.length ∧ plan.applied.Perm plan'.applied

theorem sharesOperations (hdeduplicate : options.deduplicate = true)
    (h : Flatten.ofTags table table.length ranked = .ok flat)
    (hbatched : plan.batched.Perm (Optimize.run options flat)) : plan.SharesOperations ranked := by
  have hmerged : Optimize.Merged options flat (Optimize.after options flat) :=
    Optimize.merged_after (Flatten.layered_ofTags h)
  refine ⟨(hbatched.pairwise_iff fun h => Std.Symm.symm _ _ h).2 (hmerged.apart hdeduplicate),
    fun e he l hl => ?_⟩
  simp only [hbatched.mem_iff]
  exact Optimize.existsUnique_leaf hdeduplicate h he hl

theorem runsEarliest (h : Flatten.ofTags table table.length ranked = .ok flat)
    (hbatched : plan.batched.Perm (Optimize.run options flat)) :
    plan.RunsEarliest options flat := by
  have hlayered := Flatten.layered_ofTags h
  have hmerged : Optimize.Merged options flat (Optimize.after options flat) :=
    Optimize.merged_after hlayered
  have hkept : Optimize.Kept table flat (Optimize.after options flat) :=
    Optimize.kept_after hlayered
  refine ⟨fun n hn => ?_, fun k hk => ?_, fun k hk n hn hinto => ?_⟩
  · obtain hcollapsed | ⟨k, hk, hstands⟩ := hmerged.settled n hn
    · exact .inl hcollapsed
    · exact .inr ⟨k, hbatched.mem_iff.2 hk, hstands.mergedInto⟩
  · obtain ⟨n, hn, hstands, hlevel⟩ := hmerged.earliest k (hbatched.mem_iff.1 hk)
    refine ⟨n, hn, hstands.mergedInto, ?_⟩
    rw [PlanNode.priority, PlanNode.priority, hlevel, hstands.kind]
  · have hstands := hmerged.standsFor_of_mergedInto hkept.nodup hn (hbatched.mem_iff.1 hk) hinto
    have hlevel := hstands.level
    rw [Priority.before_iff, PlanNode.priority, PlanNode.priority, hstands.kind]
    simp only
    omega

theorem sharesTransforms (htransforms : plan.transforms = (TransformTable.ofTags tags).nodes)
    (h : Flatten.ofTags (.ofTags tags) (TransformTable.ofTags tags).length ranked = .ok flat)
    (hbatched : plan.batched.Perm (Optimize.run options flat)) : plan.SharesTransforms tags := by
  have hnodup := TransformTable.nodup_pairs_ofTags tags
  refine ⟨fun field key hneeded => ?_, fun m hm => ?_, fun m hm field key hop n hn => ?_⟩
  · rw [htransforms]
    exact TransformTable.existsUnique_node hnodup (TransformTable.mem_pairs_ofTags.2 hneeded)
  · rw [htransforms] at hm
    obtain ⟨a, column, hcolumn, rfl⟩ := TransformTable.mem_nodes_iff.1 hm
    refine ⟨column.field, column.transform, rfl, TransformTable.mem_pairs_ofTags.1 ?_⟩
    exact List.mem_map.2 ⟨column, List.mem_of_getElem? hcolumn, rfl⟩
  · rw [htransforms] at hm
    exact Optimize.mem_inputs_iff hnodup h (hbatched.mem_iff.1 hn)
      (TransformTable.pairs_column hm hop)

/-- Conditions on the tag list read no column. -/
theorem inputs_eq_nil_of_reference (h : Flatten.ofTags table table.length ranked = .ok flat)
    {n : PlanNode} (hn : n ∈ Optimize.run options flat) (hkind : n.kind = .tagReference) :
    n.op.inputs = [] := by
  rw [PlanNode.kind] at hkind
  cases hop : n.op with
  | condition c input =>
    rw [hop, NodeOp.kind] at hkind
    split at hkind
    · rename_i href
      obtain rfl := Optimize.input_eq_of_kept h hn hop
      rw [Flatten.transformInput, if_pos href]
      rfl
    · cases hkind
  | _ =>
    rw [hop] at hkind
    cases hkind

/-- The optimiser keeps the applications. -/
theorem applications_perm (h : Flatten.ofTags table table.length ranked = .ok flat)
    (hbatched : plan.batched.Perm (Optimize.run options flat)) :
    (plan.batched.filterMap PlanNode.application?).Perm (flat.filterMap PlanNode.application?) := by
  have hkept : Optimize.Kept table flat (Optimize.after options flat) :=
    Optimize.kept_after (Flatten.layered_ofTags h)
  rw [← hkept.applications]
  exact hbatched.filterMap _

/-- The nodes of the batches are those that the optimiser keeps. -/
theorem batched_perm (transforms kept : List PlanNode) (names : List String)
    (removed : List RemovedEdge) :
    (batched ⟨transforms, batchesOf kept, names, removed⟩).Perm kept :=
  perm_flatMap_batchesOf kept

/-- **All tags are applied at their levels**, whatever the passes are. -/
theorem applied_perm (h : build tags options = .ok plan) : ∃ levels,
    (DependencyGraph.ofTags tags).removeCycles.1.levels = .ok levels ∧
      plan.applied.Perm ((tags.tags.zip levels).map fun e => (e.1.name, e.2)) := by
  obtain ⟨levels, flat, hlevels, hflat, rfl⟩ := build_ok h
  refine ⟨levels, levels_removeCycles hlevels, ?_⟩
  rw [← Flatten.applications_ofTags hflat]
  exact (applications_perm hflat (batched_perm _ _ _ _)).map _

/-- **The passes of a planner share all that can be shared**, and lose nothing: with more passes, no
plan has more nodes, and the same tags are applied. -/
theorem build_shared (h : build tags options = .ok plan) :
    ∃ levels flat, (graphOf tags options).1.levels = .ok levels ∧
      Flatten.ofTags (tableOf tags options) (tableOf tags options).length (tags.tags.zip levels) =
        .ok flat ∧ plan.Shared tags options (tags.tags.zip levels) flat := by
  have hpasses : ∀ fewer plan', fewer.Within options → build tags fewer = .ok plan' →
      plan.batched.length ≤ plan'.batched.length ∧ plan.applied.Perm plan'.applied := by
    intro fewer plan' hwithin hfewer
    obtain ⟨levels, hlevels, happlied⟩ := applied_perm h
    obtain ⟨levels', hlevels', happlied'⟩ := applied_perm hfewer
    cases hlevels.symm.trans hlevels'
    exact ⟨length_batched_le hwithin hfewer h, happlied.trans happlied'.symm⟩
  obtain ⟨levels, flat, hlevels, hflat, rfl⟩ := build_ok h
  have hbatched := batched_perm (tableOf tags options).nodes (Optimize.run options flat) tags.names
    (graphOf tags options).2
  have hmerged : Optimize.Merged options flat (Optimize.after options flat) :=
    Optimize.merged_after (Flatten.layered_ofTags hflat)
  refine ⟨levels, flat, hlevels, hflat,
    fun hdeduplicate => sharesOperations hdeduplicate hflat hbatched, runsEarliest hflat hbatched,
    fun hcollapse n hn => ?_, fun hprecompute => ?_, fun n hn => ?_,
    applications_perm hflat hbatched, hpasses⟩
  · exact NodeOp.length_inputs_ne_one (hmerged.stays hcollapse n (hbatched.mem_iff.1 hn))
  · have htable : tableOf tags options = .ofTags tags := if_pos hprecompute
    rw [htable] at hflat
    exact sharesTransforms (congrArg TransformTable.nodes htable) hflat hbatched
  · exact inputs_eq_nil_of_reference hflat (hbatched.mem_iff.1 hn)

/-- The tag of drivers, who are adults with a licence. -/
def driverTag : Tag where
  name := "driver"
  rule := .any [.all [.condition ⟨"age", some "abs", "ge", .int 18⟩, .custom "licensed"]]
  name_ne := by decide
  canonical := by decide +kernel

/-- Drivers and adults, who are of the same age. -/
def drivingTags : TagSet := ⟨[driverTag, adultTag], by decide⟩

theorem build_shared_drivingTags : ∃ plan plan', build drivingTags .optimized = .ok plan ∧
    build drivingTags {} = .ok plan' ∧ plan.batched.length ≤ plan'.batched.length ∧
    (∃! m, m ∈ plan.transforms ∧ m.op = .transform "age" "abs") ∧
    ∃! n, n ∈ plan.batched ∧ n.op.leaf? = some (.condition ⟨"age", some "abs", "ge", .int 18⟩) := by
  obtain ⟨plan, hplan⟩ : ∃ plan, build drivingTags .optimized = .ok plan := ⟨_, rfl⟩
  obtain ⟨plan', hplan'⟩ : ∃ plan, build drivingTags {} = .ok plan := ⟨_, rfl⟩
  obtain ⟨levels, flat, hlevels, -, hshared⟩ := build_shared hplan
  obtain rfl : [0, 0] = levels := Except.ok.inj hlevels
  have hwithin : PlannerOptions.Within {} .optimized := ⟨by decide, by decide, by decide, by decide⟩
  have hdriver : (driverTag, 0) ∈ drivingTags.tags.zip [0, 0] := List.mem_cons_self
  obtain ⟨n, ⟨hn, hleaf, -⟩, hunique⟩ :=
    (hshared.operations rfl).leaf _ hdriver _ List.mem_cons_self
  refine ⟨plan, plan', hplan, hplan', (hshared.passes _ _ hwithin hplan').1, ?_, ?_⟩
  · refine (hshared.transforms rfl).column _ _ ?_
    exact ⟨driverTag, List.mem_cons_self, _, List.mem_cons_self, rfl, rfl, rfl⟩
  · refine ⟨n, ⟨hn, hleaf⟩, fun m ⟨hm, hml⟩ => hunique m ⟨hm, hml, fun href => ?_⟩⟩
    exact absurd href (by decide)

end ExecutionPlan

end TagRules
