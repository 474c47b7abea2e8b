import TagRules.Proofs.Plan.Built
import TagRules.Proofs.Plan.Columns
import TagRules.Proofs.Plan.Transforms

/-!
# Well-formed plans

Every plan that is built is well formed, and a run of a well-formed plan finds all its inputs.

* `WellFormed`: what is promised of a plan.
* `wellFormed_of_build`: a plan that was built keeps the promise.
* `exists_evaluateNode`, `ends_evaluateNode`: the inputs of a node are there when it runs.
* `execute_ne_missingInput`: no run of a well-formed plan misses an input.
-/

namespace TagRules.ExecutionPlan

open Outcome Execution

variable {tags : TagSet} {options : PlannerOptions} {plan : ExecutionPlan}

/-- A condition reads the column of a transform of its own field. -/
def ReadsTransform (plan : ExecutionPlan) (n : PlanNode) (a : Alias) : Prop :=
  ∃ c key, n.op = .condition c (some a) ∧ c.isTagReference = false ∧ c.transform = some key ∧
    ∃ m ∈ plan.transforms, m.column = a ∧ m.op = .transform c.field key

/-- A conjunction, a disjunction or an application of a batch reads the truth values that a node of
an earlier batch computes. -/
def ReadsMask (plan : ExecutionPlan) (b : Batch) (n : PlanNode) (a : Alias) : Prop :=
  (n.kind = .conjunction ∨ n.kind = .disjunction ∨ n.kind = .application) ∧
    ∃ b' ∈ plan.batches, b'.priority < b.priority ∧ ∃ m ∈ b'.nodes, m.column = a ∧
      m.kind ≠ .application

/-- **What is promised of a plan.** -/
structure WellFormed (tags : TagSet) (plan : ExecutionPlan) : Prop where
  /-- All columns are different. -/
  columns : (plan.nodes.map PlanNode.column).Nodup
  /-- The batches run in strictly ascending order. -/
  ascending : plan.batches.Pairwise (·.priority < ·.priority)
  /-- Every node is in the batch of its own priority. -/
  priority : ∀ b ∈ plan.batches, ∀ n ∈ b.nodes, n.priority = b.priority
  /-- Each tag is applied once. -/
  applications : ((plan.nodes.filterMap PlanNode.application?).map Prod.fst).Perm tags.names
  /-- What comes before the batches are transforms. -/
  transforms : ∀ n ∈ plan.transforms, ∃ field key, n.op = .transform field key
  /-- No node of a batch is a transform. -/
  batched : ∀ b ∈ plan.batches, ∀ n ∈ b.nodes, n.kind ≠ .transform
  /-- A node of a batch reads a transform of its own field, or truth values of an earlier batch. -/
  inputs : ∀ b ∈ plan.batches, ∀ n ∈ b.nodes, ∀ a ∈ n.op.inputs,
    plan.ReadsTransform n a ∨ plan.ReadsMask b n a

/-! ### Plans that are built -/

theorem columns_nodes (table : TransformTable) :
    table.nodes.map PlanNode.column = List.range table.length := by
  rw [TransformTable.nodes, List.map_map, List.range_eq_range', ← List.zipIdx_map_snd]
  rfl

theorem application?_of_mem_nodes {table : TransformTable} {n : PlanNode} (hn : n ∈ table.nodes) :
    n.application? = none := by
  obtain ⟨a, c, -, rfl⟩ := TransformTable.mem_nodes_iff.1 hn
  rfl

/-- What a node reads is a transform or comes from an earlier batch. -/
theorem reads_of_supplied {table : TransformTable} {nodes : List PlanNode} {b : Batch} {n : PlanNode}
    {names : List String} {removed : List RemovedEdge} (hb : b ∈ batchesOf nodes)
    (hn : n ∈ b.nodes) (h : Supplied table nodes n) {a : Alias} (ha : a ∈ n.op.inputs) :
    ReadsTransform ⟨table.nodes, batchesOf nodes, names, removed⟩ n a ∨
      ReadsMask ⟨table.nodes, batchesOf nodes, names, removed⟩ b n a := by
  have hprio : n.priority = b.priority := ((mem_nodes_batchesOf hb).1 hn).2
  have hmask : a ∈ n.op.masks → ∃ b' ∈ batchesOf nodes, b'.priority < b.priority ∧
      ∃ m ∈ b'.nodes, m.column = a ∧ m.kind ≠ .application := by
    intro ha
    obtain ⟨m, hm, hcol, hkind, hlt⟩ := h.masks a ha
    have hb' : (⟨m.priority, nodes.filter (·.priority = m.priority)⟩ : Batch) ∈ batchesOf nodes :=
      mem_batchesOf.2 ⟨⟨m, hm, rfl⟩, rfl⟩
    exact ⟨_, hb', hprio ▸ hlt, m, (mem_nodes_batchesOf hb').2 ⟨hm, rfl⟩, hcol, hkind⟩
  have hfits := h.fits
  cases hop : n.op with
  | transform field key =>
    rw [hop] at ha
    cases ha
  | custom key =>
    rw [hop] at ha
    cases ha
  | condition c input =>
    rw [hop] at ha hfits
    have hinput : a ∈ input := by simpa [NodeOp.inputs] using ha
    obtain ⟨href, column, hcol, hfield, htransform⟩ := hfits a hinput
    refine .inl ⟨c, column.transform, ?_, href, htransform, _, TransformTable.mem_nodes_iff.2 ⟨a, _, hcol, rfl⟩, rfl, ?_⟩
    · rw [hop, Option.mem_def.1 hinput]
    · rw [hfield]
  | conjunction inputs =>
    rw [hop] at ha hmask
    exact .inr ⟨.inl (by rw [PlanNode.kind, hop]; rfl), hmask ha⟩
  | disjunction inputs =>
    rw [hop] at ha hmask
    exact .inr ⟨.inr (.inl (by rw [PlanNode.kind, hop]; rfl)), hmask ha⟩
  | apply tag input =>
    rw [hop] at ha hmask
    exact .inr ⟨.inr (.inr (by rw [PlanNode.kind, hop]; rfl)), hmask ha⟩

/-- The columns of transforms and of kept nodes are different. -/
theorem nodup_columns {table : TransformTable} {nodes kept batched : List PlanNode}
    (hperm : batched.Perm kept) (hnodup : (kept.map PlanNode.column).Nodup)
    (horigin : ∀ m ∈ kept, ∃ n ∈ nodes, n.column = m.column)
    (hlength : ∀ n ∈ nodes, table.length ≤ n.column) :
    ((table.nodes ++ batched).map PlanNode.column).Nodup := by
  rw [List.map_append, List.nodup_append, columns_nodes]
  refine ⟨List.nodup_range, ((hperm.map _).nodup_iff).2 hnodup, fun a ha c hc => ?_⟩
  obtain ⟨m, hm, rfl⟩ := List.mem_map.1 hc
  obtain ⟨n, hn, hcol⟩ := horigin m (hperm.mem_iff.1 hm)
  have hle := hlength n hn
  rw [hcol] at hle
  exact Nat.ne_of_lt (Nat.lt_of_lt_of_le (List.mem_range.1 ha) hle)

/-- The nodes of a tag set apply its tags, in the order of declaration. -/
theorem names_applications {table : TransformTable} {levels : List Nat} {first : Nat}
    {nodes : List PlanNode} (hlength : levels.length = tags.tags.length)
    (hnodes : Flatten.ofTags table first (tags.tags.zip levels) = .ok nodes) :
    (nodes.filterMap PlanNode.application?).map Prod.fst = tags.names := by
  have hpairs := congrArg (List.map Prod.fst) (Flatten.applications_ofTags hnodes)
  rw [List.map_map, List.map_map] at hpairs
  have hfst : (tags.tags.zip levels).map Prod.fst = tags.tags :=
    List.map_fst_zip (Nat.le_of_eq hlength.symm)
  calc (nodes.filterMap PlanNode.application?).map Prod.fst
      = ((tags.tags.zip levels).map Prod.fst).map Tag.name := by
        rw [List.map_map]
        exact hpairs
    _ = tags.names := by
        rw [hfst]
        rfl

/-- **A plan that was built is well formed.** -/
theorem wellFormed_of_build (h : build tags options = .ok plan) : plan.WellFormed tags := by
  obtain ⟨levels, nodes, hlevels, hnodes, rfl⟩ := build_ok h
  have hlayered := Flatten.layered_ofTags hnodes
  have hkept : Optimize.Kept (tableOf tags options) nodes (Optimize.after options nodes) :=
    Optimize.kept_after hlayered
  have hlength := Optimize.Layered.length_le hlayered
  rw [Optimize.run_eq]
  generalize Optimize.after options nodes = s at hkept ⊢
  generalize tableOf tags options = table at hkept hlength hnodes ⊢
  have hperm := perm_flatMap_batchesOf s.kept
  refine ⟨nodup_columns hperm hkept.nodup hkept.origin hlength, pairwise_batchesOf _,
    fun b hb n hn => ((mem_nodes_batchesOf hb).1 hn).2, ?_, fun n hn => ?_, fun b hb n hn => ?_,
    fun b hb n hn a ha => ?_⟩
  · -- The optimiser keeps all applications, and the batches hold the kept nodes in some order.
    have hnone : table.nodes.filterMap PlanNode.application? = [] :=
      List.filterMap_eq_nil_iff.2 fun n hn => application?_of_mem_nodes hn
    rw [ExecutionPlan.nodes, List.filterMap_append, hnone, List.nil_append,
      ← names_applications (length_levels hlevels) hnodes, ← hkept.applications]
    exact (hperm.filterMap _).map _
  · obtain ⟨a, c, -, rfl⟩ := TransformTable.mem_nodes_iff.1 hn
    exact ⟨c.field, c.transform, rfl⟩
  · exact (hkept.supplied n ((mem_nodes_batchesOf hb).1 hn).1).fits.kind_ne_transform
  · exact reads_of_supplied hb hn (hkept.supplied n ((mem_nodes_batchesOf hb).1 hn).1) ha

/-! ### Runs of well-formed plans -/

/-- Columns of transforms hold values, and all others hold truth values. -/
def IsOfKind (n : PlanNode) : Column → Prop
  | .values _ => n.kind = .transform
  | .mask _ => n.kind ≠ .transform

/-- An error that is none of a missing input. -/
def NotMissing (e : TaggingError) : Prop := ∀ column, e ≠ .plan (.missingInput column)

variable {done : List PlanNode} {columns : List (Alias × Column)} {reg : Registry}
  {records : RecordSet}

theorem ends_liftEval {α : Type} (x : Except EvalError α) :
    Ends (fun _ => True) NotMissing (liftEval x) := by
  cases x with
  | ok a => exact trivial
  | error e => exact fun column heq => nomatch heq

theorem exists_maskOf (h : Stored IsOfKind done columns) {m : PlanNode} (hm : m ∈ done)
    (hkind : m.kind ≠ .transform) : ∃ mask, maskOf columns m.column = .ok mask := by
  obtain ⟨column, hcolumn, hof⟩ := h m hm
  rw [maskOf, hcolumn]
  cases column with
  | mask entries => exact ⟨entries, rfl⟩
  | values entries => exact absurd hof hkind

theorem exists_valuesOf (h : Stored IsOfKind done columns) {m : PlanNode} (hm : m ∈ done)
    (hkind : m.kind = .transform) : ∃ values, valuesOf columns m.column = .ok values := by
  obtain ⟨column, hcolumn, hof⟩ := h m hm
  rw [valuesOf, hcolumn]
  cases column with
  | mask entries => exact absurd hkind hof
  | values entries => exact ⟨entries, rfl⟩

theorem exists_combine {all : Bool} {inputs : List Alias}
    (h : ∀ a ∈ inputs, ∃ mask, maskOf columns a = .ok mask) :
    ∃ mask, combine records columns all inputs = .ok mask := by
  have hends : Ends (fun _ => True) (fun _ => False) (combine records columns all inputs) := by
    refine Ends.foldlM (fun _ _ => True) trivial fun pre a post s hsplit _ => ?_
    obtain ⟨mask, hmask⟩ := h a (by simp [hsplit])
    rw [hmask]
    exact trivial
  cases hcombine : combine records columns all inputs with
  | ok mask => exact ⟨mask, rfl⟩
  | error e => exact (hends.error hcombine).elim

/-- **A node that is no leaf always has its column**, as it reads truth values of earlier batches. -/
theorem exists_evaluateNode (reg : Registry) (records : RecordSet) (h : plan.WellFormed tags) {pre post : List Batch} {b : Batch}
    (hsplit : plan.batches = pre ++ b :: post)
    (hs : Stored IsOfKind (plan.transforms ++ pre.flatMap Batch.nodes) columns)
    (live : Option (List Value)) {n : PlanNode} (hn : n ∈ b.nodes)
    (hcondition : ∀ c input, n.op ≠ .condition c input) (hcustom : ∀ key, n.op ≠ .custom key) :
    ∃ mask, evaluateNode reg records columns live n = .ok mask := by
  have hb : b ∈ plan.batches := by simp [hsplit]
  have hmask : ∀ a ∈ n.op.inputs, ∃ mask, maskOf columns a = .ok mask := by
    intro a ha
    rcases h.inputs b hb n hn a ha with ⟨c, key, hop, -⟩ | ⟨-, b', hb', hlt, m, hm, rfl, -⟩
    · exact absurd hop (hcondition c (some a))
    · refine exists_maskOf hs (List.mem_append_right _ ?_) (h.batched b' hb' m hm)
      exact List.mem_flatMap.2 ⟨b', mem_pre_of_lt h.ascending hsplit hb' hlt, hm⟩
  unfold evaluateNode
  cases hop : n.op with
  | condition c input => exact absurd hop (hcondition c input)
  | custom key => exact absurd hop (hcustom key)
  | conjunction inputs => exact exists_combine fun a ha => hmask a (by rw [hop]; exact ha)
  | disjunction inputs => exact exists_combine fun a ha => hmask a (by rw [hop]; exact ha)
  | apply tag input => exact hmask input (by simp [hop, NodeOp.inputs])
  | transform field key => exact absurd (by rw [PlanNode.kind, hop]; rfl) (h.batched b hb n hn)

/-- The inputs of a condition are there when it runs. -/
theorem ends_evaluateCondition (h : plan.WellFormed tags) {b : Batch} (hb : b ∈ plan.batches)
    {rest : List PlanNode} (hs : Stored IsOfKind (plan.transforms ++ rest) columns)
    (lists : List (List String)) {n : PlanNode} (hn : n ∈ b.nodes) {c : Condition}
    {input : Option Alias} (hop : n.op = .condition c input) :
    Ends (fun _ => True) NotMissing
      (evaluateCondition reg records columns (liveTags b lists) c input) := by
  refine (ends_liftEval _).bind fun predicate _ => ?_
  cases input with
  | some a =>
    obtain ⟨_, _, -, -, -, m, hm, rfl, hmop⟩ | ⟨hkind, -⟩ :=
      h.inputs b hb n hn a (by simp [hop, NodeOp.inputs])
    · have hkind : m.kind = .transform := by rw [PlanNode.kind, hmop]; rfl
      obtain ⟨values, hvalues⟩ := exists_valuesOf hs (List.mem_append_left _ hm) hkind
      simp only [hvalues]
      exact ends_liftEval _
    · rw [PlanNode.kind, hop] at hkind
      cases href : c.isTagReference <;> simp [NodeOp.kind, href] at hkind
  | none =>
    simp only
    split
    · -- The tag lists are there, as this very node reads them.
      rename_i href
      have hkind : n.kind = .tagReference := by
        rw [PlanNode.kind, hop, NodeOp.kind, if_pos href]
      rw [liveTags_eq hn hkind]
      exact ends_liftEval _
    · exact ends_liftEval _

/-- **The inputs of a node are there when it runs.** -/
theorem ends_evaluateNode (h : plan.WellFormed tags) {pre post : List Batch} {b : Batch}
    (hsplit : plan.batches = pre ++ b :: post)
    (hs : Stored IsOfKind (plan.transforms ++ pre.flatMap Batch.nodes) columns)
    (lists : List (List String)) {n : PlanNode} (hn : n ∈ b.nodes) :
    Ends (fun _ => True) NotMissing (evaluateNode reg records columns (liveTags b lists) n) := by
  cases hop : n.op with
  | condition c input =>
    rw [evaluateNode, hop]
    exact ends_evaluateCondition h (by simp [hsplit]) hs lists hn hop
  | custom key =>
    rw [evaluateNode, hop]
    exact (ends_liftEval _).bind fun f _ => ends_liftEval _
  | _ =>
    obtain ⟨mask, hmask⟩ := exists_evaluateNode reg records h hsplit hs (liveTags b lists) hn
      (fun _ _ heq => nomatch hop.symm.trans heq) (fun _ heq => nomatch hop.symm.trans heq)
    rw [hmask]
    exact trivial

/-- **No run of a well-formed plan misses an input.** -/
theorem execute_ne_missingInput (h : plan.WellFormed tags) (reg : Registry) (records : RecordSet)
    (lists : List (List String)) (column : String) :
    plan.execute reg records lists ≠ .error (.plan (.missingInput column)) := by
  have hsteps : Steps reg records plan IsOfKind (fun _ _ => True) NotMissing := by
    refine ⟨h.columns, fun n hn => ?_, fun pre b post s hsplit hs _ n hn => ?_,
      fun _ _ _ _ _ _ _ _ => trivial⟩
    · obtain ⟨field, key, hop⟩ := h.transforms n hn
      refine ⟨field, key, hop, (ends_liftEval _).mono (fun _ _ => ?_) fun _ he => he⟩
      show n.op.kind = .transform
      rw [hop]
      rfl
    · refine (ends_evaluateNode h hsplit hs s.lists hn).mono (fun _ _ => ?_) fun _ he => he
      exact h.batched b (by simp [hsplit]) n hn
  intro heq
  exact (ends_execute hsteps trivial).error heq column rfl

/-- **Every built plan is well formed, and its runs never miss an input.** -/
theorem build_sound (h : build tags options = .ok plan) :
    plan.WellFormed tags ∧ ∀ reg records lists column,
      plan.execute reg records lists ≠ .error (.plan (.missingInput column)) :=
  ⟨wellFormed_of_build h, execute_ne_missingInput (wellFormed_of_build h)⟩

/-- The tag of adults. -/
def adultTag : Tag where
  name := "adult"
  rule := .any [.all [.condition ⟨"age", some "abs", "ge", .int 18⟩]]
  name_ne := by decide
  canonical := by decide +kernel

/-- The tag of adults with a vote, which reads the tag of adults. -/
def voterTag : Tag where
  name := "voter"
  rule := .any [.all [.tagged "adult", .condition ⟨"vote", none, "eq", .bool true⟩]]
  name_ne := by decide
  canonical := by decide +kernel

/-- Adults and voters. -/
def votingTags : TagSet := ⟨[voterTag, adultTag], by decide⟩

theorem build_sound_votingTags : ∃ plan, build votingTags .optimized = .ok plan ∧
    plan.WellFormed votingTags ∧ ∀ reg records lists column,
      plan.execute reg records lists ≠ .error (.plan (.missingInput column)) := by
  obtain ⟨plan, hplan⟩ : ∃ plan, build votingTags .optimized = .ok plan := ⟨_, rfl⟩
  exact ⟨plan, hplan, build_sound hplan⟩

end TagRules.ExecutionPlan
