import Mathlib.Data.List.Basic
import TagRules.Proofs.Dependency.Declared
import TagRules.Proofs.Plan.Optimized

/-!
# Built plans

A plan is built from the levels of the tags, from the columns of transforms and from the nodes that
the optimiser keeps, which are put into batches.

* `build_ok`: the parts of a plan that was built.
* `levels_removeCycles`: a plan follows the levels of the graph without cycles in any case.
* `pairwise_batchesOf`: the batches run in strictly ascending order.
* `perm_flatMap_batchesOf`: every node is in one batch.
* `mem_of_lt`: what runs earlier than a batch is in an earlier batch.
* `applications_ofTags`: the nodes of a tag set have one application per tag.
-/

namespace TagRules

namespace Priority

theorem lt_irrefl (p : Priority) : ¬p < p := by
  rw [lt_iff]
  omega

theorem lt_trans {p q r : Priority} (h : p < q) (h' : q < r) : p < r := by
  rw [lt_iff] at *
  omega

theorem lt_of_before_of_ne {p q : Priority} (h : p.before q = true) (hne : p ≠ q) : p < q := by
  obtain ⟨level, weight⟩ := p
  obtain ⟨level', weight'⟩ := q
  rw [before_iff] at h
  rw [lt_iff]
  rw [ne_eq, mk.injEq] at hne
  simp only at *
  omega

theorem before_trans (p q r : Priority) (h : p.before q = true) (h' : q.before r = true) :
    p.before r = true := by
  rw [before_iff] at *
  omega

theorem before_total (p q : Priority) : (p.before q || q.before p) = true := by
  rw [Bool.or_eq_true, before_iff, before_iff]
  omega

end Priority

namespace ExecutionPlan

variable {tags : TagSet} {options : PlannerOptions} {plan : ExecutionPlan} {nodes : List PlanNode}

/-! ### Batches -/

/-- The priorities of some nodes, in order. -/
def prioritiesOf (nodes : List PlanNode) : List Priority :=
  (nodes.map PlanNode.priority).eraseDups.mergeSort Priority.before

theorem batchesOf_eq (nodes : List PlanNode) :
    batchesOf nodes = (prioritiesOf nodes).map fun p => ⟨p, nodes.filter (·.priority = p)⟩ :=
  rfl

theorem mem_prioritiesOf {p : Priority} :
    p ∈ prioritiesOf nodes ↔ ∃ n ∈ nodes, n.priority = p := by
  rw [prioritiesOf, List.mem_mergeSort, List.mem_eraseDups, List.mem_map]

theorem nodup_prioritiesOf (nodes : List PlanNode) : (prioritiesOf nodes).Nodup :=
  (List.mergeSort_perm _ _).nodup_iff.2 (DependencyGraph.nodup_eraseDups _)

theorem pairwise_prioritiesOf (nodes : List PlanNode) : (prioritiesOf nodes).Pairwise (· < ·) := by
  have hsorted : (prioritiesOf nodes).Pairwise fun p q => p.before q = true :=
    List.pairwise_mergeSort Priority.before_trans Priority.before_total _
  exact hsorted.imp₂ (fun p q h hne => Priority.lt_of_before_of_ne h hne) (nodup_prioritiesOf nodes)

/-- **The batches run in strictly ascending order.** -/
theorem pairwise_batchesOf (nodes : List PlanNode) :
    (batchesOf nodes).Pairwise (·.priority < ·.priority) := by
  rw [batchesOf_eq, List.pairwise_map]
  exact pairwise_prioritiesOf nodes

theorem mem_batchesOf {b : Batch} : b ∈ batchesOf nodes ↔
    (∃ n ∈ nodes, n.priority = b.priority) ∧ b.nodes = nodes.filter (·.priority = b.priority) := by
  rw [batchesOf_eq, List.mem_map]
  constructor
  · rintro ⟨p, hp, rfl⟩
    exact ⟨mem_prioritiesOf.1 hp, rfl⟩
  · rintro ⟨hp, hnodes⟩
    refine ⟨b.priority, mem_prioritiesOf.2 hp, ?_⟩
    rw [← hnodes]

theorem mem_nodes_batchesOf {b : Batch} {n : PlanNode} (hb : b ∈ batchesOf nodes) :
    n ∈ b.nodes ↔ n ∈ nodes ∧ n.priority = b.priority := by
  rw [(mem_batchesOf.1 hb).2, List.mem_filter, decide_eq_true_eq]

theorem flatMap_filter_perm (nodes : List PlanNode) {priorities : List Priority}
    (hnodup : priorities.Nodup) :
    (priorities.flatMap fun p => nodes.filter (·.priority = p)).Perm
      (nodes.filter (·.priority ∈ priorities)) := by
  induction priorities with
  | nil => simp
  | cons p priorities ih =>
    obtain ⟨hp, hnodup⟩ := List.nodup_cons.1 hnodup
    have hsplit := List.filter_append_perm (fun n : PlanNode => decide (n.priority = p))
      (nodes.filter (·.priority ∈ p :: priorities))
    rw [List.filter_filter, List.filter_filter] at hsplit
    -- The nodes of the first priority, and those of the others, none of which is the first one.
    have hfst : nodes.filter (fun n => decide (n.priority = p) &&
        decide (n.priority ∈ p :: priorities)) = nodes.filter (·.priority = p) := by
      refine List.filter_congr fun n _ => ?_
      by_cases h : n.priority = p <;> simp [h]
    have hsnd : nodes.filter (fun n => !decide (n.priority = p) &&
        decide (n.priority ∈ p :: priorities)) = nodes.filter (·.priority ∈ priorities) := by
      refine List.filter_congr fun n _ => ?_
      by_cases h : n.priority = p
      · simp [h, hp]
      · simp [h]
    rw [hfst, hsnd] at hsplit
    rw [List.flatMap_cons]
    exact ((ih hnodup).append_left _).trans hsplit

/-- **Every node is in one batch.** -/
theorem perm_flatMap_batchesOf (nodes : List PlanNode) :
    ((batchesOf nodes).flatMap Batch.nodes).Perm nodes := by
  have hall : nodes.filter (·.priority ∈ prioritiesOf nodes) = nodes := by
    refine List.filter_eq_self.2 fun n hn => ?_
    rw [decide_eq_true_eq]
    exact mem_prioritiesOf.2 ⟨n, hn, rfl⟩
  have hperm := flatMap_filter_perm nodes (nodup_prioritiesOf nodes)
  rw [hall] at hperm
  rw [batchesOf_eq, List.flatMap_map]
  exact hperm

/-- An earlier batch has a lower priority. -/
theorem lt_of_mem_pre {pre post : List Batch} {b b' : Batch}
    (hsplit : batchesOf nodes = pre ++ b :: post) (hb' : b' ∈ pre) : b'.priority < b.priority := by
  have hsorted := pairwise_batchesOf nodes
  rw [hsplit] at hsorted
  exact (List.pairwise_append.1 hsorted).2.2 b' hb' b List.mem_cons_self

/-- Where batches run in ascending order, one with a lower priority comes earlier. -/
theorem mem_pre_of_lt {batches pre post : List Batch} {b b' : Batch}
    (hsorted : batches.Pairwise (·.priority < ·.priority)) (hsplit : batches = pre ++ b :: post)
    (hb' : b' ∈ batches) (hlt : b'.priority < b.priority) : b' ∈ pre := by
  rw [hsplit] at hsorted hb'
  obtain ⟨-, hsorted, -⟩ := List.pairwise_append.1 hsorted
  rcases List.mem_append.1 hb' with hpre | hpost
  · exact hpre
  rcases List.mem_cons.1 hpost with rfl | hpost
  · exact absurd hlt (Priority.lt_irrefl _)
  · have hgt := (List.pairwise_cons.1 hsorted).1 b' hpost
    exact absurd (Priority.lt_trans hlt hgt) (Priority.lt_irrefl _)

/-- **What runs earlier than a batch is in an earlier batch.** -/
theorem mem_of_lt {pre post : List Batch} {b : Batch} {n : PlanNode}
    (hsplit : batchesOf nodes = pre ++ b :: post) (hn : n ∈ nodes) (hlt : n.priority < b.priority) :
    ∃ b' ∈ pre, n ∈ b'.nodes := by
  have hbatch : (⟨n.priority, nodes.filter (·.priority = n.priority)⟩ : Batch) ∈ batchesOf nodes :=
    mem_batchesOf.2 ⟨⟨n, hn, rfl⟩, rfl⟩
  refine ⟨_, mem_pre_of_lt (pairwise_batchesOf nodes) hsplit hbatch hlt, ?_⟩
  exact (mem_nodes_batchesOf hbatch).2 ⟨hn, rfl⟩

/-! ### The parts of a plan -/

/-- The graph whose levels a plan follows, and the dependencies that it has lost. -/
def graphOf (tags : TagSet) (options : PlannerOptions) : DependencyGraph × List RemovedEdge :=
  if options.removeCycles then (DependencyGraph.ofTags tags).removeCycles
  else (DependencyGraph.ofTags tags, [])

/-- The columns of transforms of a plan. -/
def tableOf (tags : TagSet) (options : PlannerOptions) : TransformTable :=
  if options.precomputeTransforms then .ofTags tags else []

/-- **The parts of a plan that was built.** -/
theorem build_ok (h : build tags options = .ok plan) :
    ∃ levels nodes, (graphOf tags options).1.levels = .ok levels ∧
      Flatten.ofTags (tableOf tags options) (tableOf tags options).length (tags.tags.zip levels) =
        .ok nodes ∧
      plan = ⟨(tableOf tags options).nodes, batchesOf (Optimize.run options nodes), tags.names,
        (graphOf tags options).2⟩ := by
  have h' : (do
      let levels ← (graphOf tags options).1.levels
      let nodes ← Flatten.ofTags (tableOf tags options) (tableOf tags options).length
        (tags.tags.zip levels)
      return (⟨(tableOf tags options).nodes, batchesOf (Optimize.run options nodes), tags.names,
        (graphOf tags options).2⟩ : ExecutionPlan)) = Except.ok plan := h
  obtain ⟨levels, hlevels, h'⟩ := Outcome.bind_eq_ok_iff.1 h'
  obtain ⟨nodes, hnodes, h'⟩ := Outcome.bind_eq_ok_iff.1 h'
  cases h'
  exact ⟨levels, nodes, hlevels, hnodes, rfl⟩

/-- There is one level per tag. -/
theorem length_levels {levels : List Nat} (h : (graphOf tags options).1.levels = .ok levels) :
    levels.length = tags.tags.length := by
  unfold graphOf at h
  split at h
  · exact DependencyGraph.length_levels_ofTags h
  · rw [DependencyGraph.length_levels h, DependencyGraph.size_ofTags]

/-- **A plan follows the levels of the graph without cycles in any case**: without breaking cycles,
there is a plan only if there are none. -/
theorem levels_removeCycles {levels : List Nat}
    (h : (graphOf tags options).1.levels = .ok levels) :
    (DependencyGraph.ofTags tags).removeCycles.1.levels = .ok levels := by
  unfold graphOf at h
  split at h
  · exact h
  · rw [DependencyGraph.removeCycles_eq_self (DependencyGraph.not_isCycle_of_levels h)]
    exact h

end ExecutionPlan

/-! ### Applications -/

namespace Flatten

variable {table : TransformTable} {tag : String} {level first : Nat} {nodes : List PlanNode}

theorem application?_number_leaf {n : PlanNode} {ops : List NodeOp}
    (hops : ∀ op ∈ ops, op.kind ≠ .application) (hn : n ∈ number tag level first ops) :
    n.application? = none := by
  obtain ⟨k, op, hk, rfl⟩ := mem_number.1 hn
  exact PlanNode.application?_eq_none (hops op (List.mem_of_getElem? hk))

theorem applications_ofAlternatives {rs : List Rule} :
    ∀ {first : Nat} {nodes : List PlanNode} {inputs : List Alias},
      ofAlternatives table tag level first rs = .ok (nodes, inputs) →
      nodes.filterMap PlanNode.application? = [] := by
  induction rs with
  | nil =>
    intro first nodes inputs h
    cases h
    rfl
  | cons r rs ih =>
    intro first nodes inputs h
    obtain ⟨head, rest, inputs', hhead, hrest, rfl, -⟩ := ofAlternatives_cons_ok h
    obtain ⟨leaves, ops, -, hops, rfl⟩ := ofAlternative_ok hhead
    rw [List.filterMap_append, ih hrest, List.append_nil, List.filterMap_eq_nil_iff]
    intro n hn
    refine application?_number_leaf (fun op hop => ?_) hn
    rcases List.mem_append.1 hop with hop | hop
    · obtain ⟨leaf, -, hleaf⟩ := Outcome.exists_of_mem_mapM hops hop
      intro hkind
      -- Applications have the highest weight.
      have hweight := (ofLeaf_ok hleaf).2.2
      rw [hkind] at hweight
      exact absurd hweight (by decide)
    · rw [List.mem_singleton.1 hop]
      exact fun hkind => nomatch hkind

theorem applications_ofRule {r : Rule} (h : ofRule table tag level first r = .ok nodes) :
    ∃ column, nodes.filterMap PlanNode.application? = [(tag, level, column)] := by
  obtain ⟨alternatives, body, inputs, -, hbody, rfl⟩ := ofRule_ok h
  refine ⟨first + body.length + 1, ?_⟩
  rw [List.filterMap_append, applications_ofAlternatives hbody]
  rfl

/-- **There is one application per tag**, at the level of the tag. -/
theorem applications_ofTags {ranked : List (Tag × Nat)} :
    ∀ {first : Nat} {nodes : List PlanNode}, ofTags table first ranked = .ok nodes →
      (nodes.filterMap PlanNode.application?).map (fun a => (a.1, a.2.1)) =
        ranked.map fun entry => (entry.1.name, entry.2) := by
  induction ranked with
  | nil =>
    intro first nodes h
    cases h
    rfl
  | cons entry ranked ih =>
    obtain ⟨t, level⟩ := entry
    intro first nodes h
    obtain ⟨head, tail, hhead, htail, rfl⟩ := ofTags_cons_ok h
    obtain ⟨column, hcolumn⟩ := applications_ofRule hhead
    rw [List.filterMap_append, hcolumn, List.map_append, ih htail]
    rfl

end Flatten

end TagRules
