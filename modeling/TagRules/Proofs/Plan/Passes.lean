import TagRules.Proofs.Plan.Built
import TagRules.Proofs.Plan.Merged
import TagRules.Proofs.Plan.Valuation

/-!
# More passes

With more passes, a plan has no more nodes. Precomputing transforms moves the other columns and lets
conditions read the new ones, and else it leaves the nodes as they are. The passes of the optimiser
only identify columns, so that what is identified by fewer passes is identified by more of them.

* `NodeOp.renamed`, `Flatten.ofTags_renamed`: the nodes with other columns of transforms.
* `Optimize.MorePasses`: two runs of the optimiser, of which the second one has more passes.
* `Optimize.MorePasses.identified`: the second run identifies what the first one does.
* `Optimize.MorePasses.length_le`: it keeps no more nodes.
* `ExecutionPlan.length_batched_le`: with more passes, a plan has no more nodes in its batches.
-/

namespace TagRules

/-! ### Other columns of transforms -/

/-- An operation with other columns of transforms: other columns are moved by a shift. -/
def NodeOp.renamed (table : TransformTable) (shift : Nat) : NodeOp → NodeOp
  | .condition c _ => .condition c (Flatten.transformInput table c)
  | .conjunction inputs => .conjunction (inputs.map (· + shift))
  | .disjunction inputs => .disjunction (inputs.map (· + shift))
  | .apply tag input => .apply tag (input + shift)
  | .transform field key => .transform field key
  | .custom key => .custom key

/-- A node with other columns of transforms. -/
def PlanNode.renamed (table : TransformTable) (shift : Nat) (n : PlanNode) : PlanNode :=
  ⟨n.tag, n.op.renamed table shift, n.column + shift, n.level⟩

@[simp]
theorem NodeOp.kind_renamed (table : TransformTable) (shift : Nat) (op : NodeOp) :
    (op.renamed table shift).kind = op.kind := by
  cases op <;> rfl

theorem NodeOp.onlyChild?_renamed (table : TransformTable) (shift : Nat) (op : NodeOp) :
    (op.renamed table shift).onlyChild? = op.onlyChild?.map (· + shift) := by
  cases op with
  | conjunction inputs => rcases inputs with _ | ⟨a, _ | ⟨b, inputs⟩⟩ <;> rfl
  | disjunction inputs => rcases inputs with _ | ⟨a, _ | ⟨b, inputs⟩⟩ <;> rfl
  | _ => rfl

namespace Flatten

variable {table table' : TransformTable} {tag : String} {level first shift : Nat}
  {nodes : List PlanNode}

theorem number_renamed (ops : List NodeOp) : ∀ first : Nat,
    (number tag level first ops).map (.renamed table shift) =
      number tag level (first + shift) (ops.map (.renamed table shift)) := by
  induction ops with
  | nil => exact fun _ => rfl
  | cons op ops ih =>
    intro first
    rw [List.map_cons, number_cons, number_cons, List.map_cons, ih, Nat.add_right_comm]
    rfl

theorem ofLeaf_renamed {r : Rule} {op : NodeOp} (h : ofLeaf table' tag r = .ok op) :
    ofLeaf table tag r = .ok (op.renamed table shift) := by
  cases r <;> cases h <;> rfl

theorem mapM_ofLeaf_renamed {leaves : List Rule} : ∀ {ops : List NodeOp},
    leaves.mapM (ofLeaf table' tag) = .ok ops →
      leaves.mapM (ofLeaf table tag) = .ok (ops.map (.renamed table shift)) := by
  induction leaves with
  | nil =>
    intro ops h
    cases h
    rfl
  | cons l leaves ih =>
    intro ops h
    obtain ⟨op, ops, hop, hops, rfl⟩ := Outcome.mapM_cons_eq_ok_iff.1 h
    exact Outcome.mapM_cons_eq_ok_iff.2 ⟨_, _, ofLeaf_renamed hop, ih hops, rfl⟩

/-- The column after renamed nodes. -/
theorem next_renamed (nodes : List PlanNode) :
    first + shift + (nodes.map (PlanNode.renamed table shift)).length =
      first + nodes.length + shift := by
  rw [List.length_map, Nat.add_right_comm]

theorem ofAlternative_renamed {r : Rule} (h : ofAlternative table' tag level first r = .ok nodes) :
    ofAlternative table tag level (first + shift) r = .ok (nodes.map (.renamed table shift)) := by
  obtain ⟨leaves, ops, rfl, hops, rfl⟩ := ofAlternative_ok h
  have hinputs : (List.range' first ops.length).map (· + shift) =
      List.range' (first + shift) ops.length := by
    simp only [Nat.add_comm _ shift, List.map_add_range']
  have hops' : leaves.mapM (ofLeaf table tag) = .ok (ops.map (.renamed table shift)) :=
    mapM_ofLeaf_renamed hops
  refine Outcome.bind_eq_ok_iff.2 ⟨_, hops', ?_⟩
  rw [number_renamed, List.map_append, List.map_singleton, NodeOp.renamed, hinputs, List.length_map]
  rfl

theorem ofAlternatives_renamed {rs : List Rule} :
    ∀ {first : Nat} {nodes : List PlanNode} {inputs : List Alias},
      ofAlternatives table' tag level first rs = .ok (nodes, inputs) →
      ofAlternatives table tag level (first + shift) rs =
        .ok (nodes.map (.renamed table shift), inputs.map (· + shift)) := by
  induction rs with
  | nil =>
    intro first nodes inputs h
    cases h
    rfl
  | cons r rs ih =>
    intro first nodes inputs h
    obtain ⟨head, rest, inputs', hhead, hrest, rfl, rfl⟩ := ofAlternatives_cons_ok h
    have hlength : head.length ≠ 0 := by
      obtain ⟨leaves, ops, -, -, rfl⟩ := ofAlternative_ok hhead
      simp [length_number]
    have hrest' : ofAlternatives table tag level
        (first + shift + (head.map (PlanNode.renamed table shift)).length) rs =
          .ok (rest.map (.renamed table shift), inputs'.map (· + shift)) := by
      rw [next_renamed]
      exact ih hrest
    refine Outcome.bind_eq_ok_iff.2 ⟨_, ofAlternative_renamed hhead,
      Outcome.bind_eq_ok_iff.2 ⟨_, hrest', ?_⟩⟩
    have hlast : first + head.length + shift - 1 = first + head.length - 1 + shift := by omega
    simp only [next_renamed, hlast, List.map_append, List.map_cons]
    rfl

theorem ofRule_renamed {r : Rule} (h : ofRule table' tag level first r = .ok nodes) :
    ofRule table tag level (first + shift) r = .ok (nodes.map (.renamed table shift)) := by
  obtain ⟨alternatives, body, inputs, rfl, hbody, rfl⟩ := ofRule_ok h
  refine Outcome.bind_eq_ok_iff.2 ⟨_, ofAlternatives_renamed hbody, ?_⟩
  simp only [next_renamed, List.map_append, number_renamed]
  rfl

/-- **The nodes with other columns of transforms.** -/
theorem ofTags_renamed {ranked : List (Tag × Nat)} : ∀ {first : Nat} {nodes : List PlanNode},
    ofTags table' first ranked = .ok nodes →
      ofTags table (first + shift) ranked = .ok (nodes.map (.renamed table shift)) := by
  induction ranked with
  | nil =>
    intro first nodes h
    cases h
    rfl
  | cons e ranked ih =>
    obtain ⟨t, level⟩ := e
    intro first nodes h
    obtain ⟨head, tail, hhead, htail, rfl⟩ := ofTags_cons_ok h
    have htail' : ofTags table
        (first + shift + (head.map (PlanNode.renamed table shift)).length) ranked =
          .ok (tail.map (.renamed table shift)) := by
      rw [next_renamed]
      exact ih htail
    refine Outcome.bind_eq_ok_iff.2 ⟨_, ofRule_renamed hhead,
      Outcome.bind_eq_ok_iff.2 ⟨_, htail', ?_⟩⟩
    rw [List.map_append]
    rfl

end Flatten

/-! ### Two runs of the optimiser -/

/-- **Some options have all the passes of others.** -/
structure PlannerOptions.Within (fewer more : PlannerOptions) : Prop where
  precomputeTransforms : fewer.precomputeTransforms = true → more.precomputeTransforms = true
  collapseSingleChild : fewer.collapseSingleChild = true → more.collapseSingleChild = true
  deduplicate : fewer.deduplicate = true → more.deduplicate = true
  removeCycles : fewer.removeCycles = true → more.removeCycles = true

namespace Optimize

variable {fewer more : PlannerOptions} {table : TransformTable} {shift : Nat}
  {nodes : List PlanNode} {s s' : State} {n : PlanNode}

/-- **Two runs of the optimiser**, of which the second one has more passes, and other columns of
transforms. -/
structure MorePasses (fewer more : PlannerOptions) (table : TransformTable) (shift : Nat)
    (nodes : List PlanNode) (s s' : State) : Prop where
  within : fewer.Within more
  readsBelow : ∀ n ∈ nodes, ReadsBelow n
  masks : ∀ n ∈ nodes, ∀ a ∈ n.op.masks, ∃ m ∈ nodes, m.column = a
  first : Merged fewer nodes s
  second : Merged more (nodes.map (.renamed table shift)) s'

/-- The second run identifies a column with its target in the first one. -/
def Identified (shift : Nat) (s s' : State) (a : Alias) : Prop :=
  s'.target (s.target a + shift) = s'.target (a + shift)

/-- What the second run makes of a node follows from what the first one does, where it identifies
the columns that the node reads with their targets. -/
theorem MorePasses.redirect_redirect (h : MorePasses fewer more table shift nodes s s')
    (hn : n ∈ nodes) (hread : ∀ m ∈ nodes, m.column < n.column → Identified shift s s' m.column) :
    ((n.op.redirect s.target).renamed table shift).redirect s'.target =
      (n.op.renamed table shift).redirect s'.target := by
  have hmasks : ∀ a ∈ n.op.masks, s'.target (s.target a + shift) = s'.target (a + shift) := by
    intro a ha
    obtain ⟨m, hm, rfl⟩ := h.masks n hn a ha
    exact hread m hm (h.readsBelow n hn _ (NodeOp.mem_inputs_of_mem_masks ha))
  generalize n.op = op at hmasks
  cases op with
  | conjunction inputs =>
    simp only [NodeOp.redirect, NodeOp.renamed, List.map_map]
    exact congrArg _ (List.map_congr_left hmasks)
  | disjunction inputs =>
    simp only [NodeOp.redirect, NodeOp.renamed, List.map_map]
    exact congrArg _ (List.map_congr_left hmasks)
  | apply tag input => exact congrArg (NodeOp.apply tag) (hmasks input (List.mem_singleton.2 rfl))
  | _ => rfl

/-- **The second run identifies what the first one does.** -/
theorem MorePasses.identified (h : MorePasses fewer more table shift nodes s s') :
    ∀ n ∈ nodes, Identified shift s s' n.column := by
  -- The induction is on the column, as a node reads and is merged into lower columns.
  suffices hall : ∀ column, ∀ n ∈ nodes, n.column = column → Identified shift s s' n.column from
    fun n hn => hall n.column n hn rfl
  intro column
  induction column using Nat.strong_induction_on with
  | _ column ih =>
    rintro n hn rfl
    have hbelow : ∀ m ∈ nodes, m.column < n.column → Identified shift s s' m.column :=
      fun m hm hlt => ih m.column hlt m hm rfl
    have hmem : n.renamed table shift ∈ nodes.map (.renamed table shift) :=
      List.mem_map_of_mem hn
    have hop := h.redirect_redirect hn hbelow
    obtain ⟨hcollapse, hchild⟩ | ⟨k, hk, hstands⟩ := h.first.settled n hn
    · have hchild' : ((n.renamed table shift).op.redirect s'.target).onlyChild? =
          some (s'.target (s.target n.column + shift)) := by
        rw [PlanNode.renamed, ← hop, NodeOp.onlyChild?_redirect, NodeOp.onlyChild?_renamed, hchild]
        rfl
      exact (h.second.target_eq_onlyChild (h.within.collapseSingleChild hcollapse) hmem
        hchild').symm
    obtain hself | ⟨hdeduplicate, hkind, hlt⟩ := hstands.merged
    · rw [Identified, hstands.column, hself]
    -- The node that is kept in the first run computes the same in the second one, too.
    obtain ⟨m, hm, hcolumn, hstands'⟩ := h.first.origin k hk
    have hmlt : m.column < n.column := hcolumn ▸ hlt
    have hop' := h.redirect_redirect hm fun m' hm' hlt' => hbelow m' hm' (Nat.lt_trans hlt' hmlt)
    have hsame : (n.op.renamed table shift).redirect s'.target =
        (m.op.renamed table shift).redirect s'.target := by
      rw [← hop, ← hop', hstands.op, hstands'.op]
    have hrenamed : (n.renamed table shift).kind = n.kind := NodeOp.kind_renamed _ _ _
    have hlevel : n.kind = .tagReference → n.level = m.level := fun href => by
      have href' : m.kind = .tagReference := by rw [← hstands'.kind, hstands.kind, href]
      rw [← hstands.reference href, hstands'.reference href']
    have htarget := h.second.target_eq_of_op_eq (h.within.deduplicate hdeduplicate) hmem
      (List.mem_map_of_mem hm) hsame (hrenamed ▸ hkind) (hrenamed ▸ hlevel)
    rw [Identified, hstands.column, ← hcolumn]
    exact htarget.symm

/-- What the second run keeps was kept in the first one. -/
theorem MorePasses.exists_kept (h : MorePasses fewer more table shift nodes s s') :
    ∀ k' ∈ s'.kept, ∃ k ∈ s.kept, k'.column = k.column + shift := by
  intro k' hk'
  obtain ⟨n', hn', hcolumn, hstands⟩ := h.second.origin k' hk'
  obtain ⟨n, hn, rfl⟩ := List.mem_map.1 hn'
  have hself : s'.target (n.column + shift) = n.column + shift :=
    hstands.column.trans hcolumn.symm
  -- A lower target in the first run would have a lower one in the second run, too.
  have hle : n.column ≤ s.target n.column := by
    have htarget : s'.target (s.target n.column + shift) = s'.target (n.column + shift) :=
      h.identified n hn
    have hle := h.second.target_le (s.target n.column + shift)
    rw [htarget, hself] at hle
    exact Nat.le_of_add_le_add_right hle
  obtain hcollapsed | ⟨k, hk, hstands'⟩ := h.first.settled n hn
  · exact absurd (hcollapsed.target_lt h.first (h.readsBelow n hn)) (Nat.not_lt.2 hle)
  · refine ⟨k, hk, ?_⟩
    rw [← hcolumn, ← hstands'.column, Nat.le_antisymm (h.first.target_le _) hle]
    rfl

/-- **The second run keeps no more nodes.** -/
theorem MorePasses.length_le (h : MorePasses fewer more table shift nodes s s')
    (hnodup : (s'.kept.map PlanNode.column).Nodup) : s'.kept.length ≤ s.kept.length := by
  have hsubset : s'.kept.map PlanNode.column ⊆ (s.kept.map PlanNode.column).map (· + shift) := by
    intro a ha
    obtain ⟨k', hk', rfl⟩ := List.mem_map.1 ha
    obtain ⟨k, hk, hcolumn⟩ := h.exists_kept k' hk'
    rw [hcolumn]
    exact List.mem_map_of_mem (List.mem_map_of_mem hk)
  have hlength := (hnodup.subperm hsubset).length_le
  rwa [List.length_map, List.length_map, List.length_map] at hlength

end Optimize

/-! ### Two plans -/

namespace ExecutionPlan

variable {tags : TagSet} {fewer more : PlannerOptions} {plan plan' : ExecutionPlan}

/-- The nodes of the batches. -/
def batched (plan : ExecutionPlan) : List PlanNode := plan.batches.flatMap Batch.nodes

/-- More passes need no fewer columns of transforms. -/
theorem length_tableOf_le (tags : TagSet) (h : fewer.Within more) :
    (tableOf tags fewer).length ≤ (tableOf tags more).length := by
  unfold tableOf
  split
  · rename_i hprecompute
    rw [if_pos (h.precomputeTransforms hprecompute)]
  · exact Nat.zero_le _

/-- **With more passes, a plan has no more nodes in its batches.** -/
theorem length_batched_le (hwithin : fewer.Within more) (hfewer : build tags fewer = .ok plan')
    (hmore : build tags more = .ok plan) : plan.batched.length ≤ plan'.batched.length := by
  obtain ⟨levels, nodes, hlevels, hnodes, rfl⟩ := build_ok hfewer
  obtain ⟨levels', nodes', hlevels', hnodes', rfl⟩ := build_ok hmore
  cases (levels_removeCycles hlevels).symm.trans (levels_removeCycles hlevels')
  obtain ⟨shift, hshift⟩ := Nat.exists_eq_add_of_le (length_tableOf_le tags hwithin)
  have hrenamed : Flatten.ofTags (tableOf tags more) (tableOf tags more).length
      (tags.tags.zip levels) = .ok (nodes.map (.renamed (tableOf tags more) shift)) := by
    rw [hshift]
    exact Flatten.ofTags_renamed hnodes
  cases hrenamed.symm.trans hnodes'
  have hlayered := Flatten.layered_ofTags hnodes
  have hlayered' := Flatten.layered_ofTags hrenamed
  have hruns : Optimize.MorePasses fewer more (tableOf tags more) shift nodes
      (Optimize.after fewer nodes) (Optimize.after more (nodes.map (.renamed _ shift))) :=
    ⟨hwithin, Optimize.Layered.readsBelow hlayered, hlayered.exists_of_mem_masks,
      Optimize.merged_after hlayered, Optimize.merged_after hlayered'⟩
  rw [batched, batched, (perm_flatMap_batchesOf _).length_eq, (perm_flatMap_batchesOf _).length_eq]
  exact hruns.length_le (Optimize.kept_after hlayered').nodup

end ExecutionPlan

end TagRules
