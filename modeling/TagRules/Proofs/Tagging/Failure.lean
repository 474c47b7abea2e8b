import TagRules.Proofs.Rule.Failure
import TagRules.Proofs.Tagging.Engine

/-!
# Why a run fails

Validation looks up all that a run needs. Once there is an engine, a run can only fail at a leaf of
one of its tags, on one of the records.

* `RaisedBy`, `StoppedBy`: the errors that the leaves of some tags raise on some records, and the
  errors of a run that nothing else stops.
* `LinearEngine.ends_runLevels_raised`: a linear run ends well or is stopped by a leaf.
* `ExecutionPlan.leaf_of_node`, `ExecutionPlan.reader_of_transform`: the nodes of a plan are made for
  leaves of its tags.
* `ExecutionPlan.steps_raised`: every step of a planned run succeeds or is stopped by a leaf.
* `Registry.validate_exact`: validation is exactly what resolving and running need.
-/

namespace TagRules

open Outcome

/-- **The errors that the leaves of some tags raise on some records**, whatever tag lists the records
have by then. -/
def RaisedBy (tags : TagSet) (reg : Registry) (records : RecordSet) (e : EvalError) : Prop :=
  ∃ t ∈ tags.tags, ∃ l ∈ t.rule.leaves, ∃ r ∈ records, ∃ x, r.AgreesOffTags x ∧
    Rule.Raises reg x l e

/-- **The errors of a run** that is only stopped by the leaves of its tags. -/
def StoppedBy (tags : TagSet) (reg : Registry) (records : RecordSet) (e : TaggingError) : Prop :=
  ∃ cause, e = .eval cause ∧ RaisedBy tags reg records cause

variable {tags : TagSet} {reg : Registry} {records : RecordSet}

theorem Outcome.Ends.stopped {α : Type} {x : Except EvalError α} {good : α → Prop}
    (h : Ends good (RaisedBy tags reg records) x) :
    Ends good (StoppedBy tags reg records) (x.mapError .eval) :=
  Ends.mapError (h.mono (fun _ hgood => hgood) fun cause hcause => ⟨cause, rfl, hcause⟩)

/-- What a leaf raises on a record as it is. -/
theorem raisedBy_of_raises {t : Tag} (ht : t ∈ tags.tags) {l : Rule} (hl : l ∈ t.rule.leaves)
    {r : Record} (hr : r ∈ records) {e : EvalError} (h : Rule.Raises reg r l e) :
    RaisedBy tags reg records e :=
  ⟨t, ht, l, hl, r, hr, r, fun _ _ => rfl, h⟩

/-- A leaf of a valid tag is valid. -/
theorem TagSet.validateNode_of_leaf (hvalid : tags.validate reg = .ok ()) {t : Tag}
    (ht : t ∈ tags.tags) {l : Rule} (hl : l ∈ t.rule.leaves) : reg.validateNode l = .ok () :=
  TagSet.validateNode_of_validate hvalid ht l ((Rule.mem_leaves_iff t.canonical).1 hl).1

/-! ### Linear runs -/

theorem RecordSet.exists_of_mem_withTagLists {lists : List (List String)} {x : Record}
    (h : x ∈ records.withTagLists lists) : ∃ r ∈ records, r.AgreesOffTags x := by
  rw [RecordSet.withTagLists, ← List.map_uncurry_zip_eq_zipWith] at h
  obtain ⟨⟨r, list⟩, hmem, rfl⟩ := List.mem_map.1 h
  exact ⟨r, (List.of_mem_zip hmem).1, r.agreesOffTags_withTags list⟩

namespace LinearEngine

/-- A level fails with an error that a leaf of one of its tags raises. -/
theorem ends_runLevel_raised (hvalid : tags.validate reg = .ok ()) {level : List Entry}
    (hlevel : ∀ e ∈ level, ∃ t ∈ tags.tags, reg.resolve t.rule = .ok e.rule)
    (lists : List (List String)) :
    Ends (fun _ => True) (RaisedBy tags reg records)
      (runLevel Resolved.evaluate id records lists level) := by
  unfold runLevel
  refine Ends.bind (Ends.mapM_of_error fun e he cause h => ?_) fun _ _ => trivial
  obtain ⟨t, ht, hresolve⟩ := hlevel e he
  have hrow : Ends (fun _ => True) (RaisedBy tags reg records)
      ((records.withTagLists lists).mapM fun r => e.rule.evaluate r) := by
    refine Ends.mapM_of_error fun x hx cause h => ?_
    obtain ⟨r, hr, hagree⟩ := RecordSet.exists_of_mem_withTagLists hx
    obtain ⟨l, hl, hraises⟩ := Rule.exists_raises_of_evaluate
      (TagSet.validateNode_of_validate hvalid ht) hresolve h
    exact ⟨t, ht, l, (Rule.mem_leaves_iff t.canonical).2 hl, r, hr, x, hagree, hraises⟩
  rcases bind_eq_error_iff.1 h with h | ⟨row, -, h⟩
  · exact hrow.error h
  · cases h

/-- **A linear run fails with an error that a leaf of one of its tags raises.** -/
theorem ends_runLevels_raised (records : RecordSet) (hvalid : tags.validate reg = .ok ()) {levels : List (List Entry)}
    (hlevels : ∀ level ∈ levels, ∀ e ∈ level, ∃ t ∈ tags.tags, reg.resolve t.rule = .ok e.rule) :
    ∀ lists, Ends (fun _ => True) (RaisedBy tags reg records)
      (runLevels Resolved.evaluate id records lists levels) := by
  induction levels with
  | nil => exact fun _ => trivial
  | cons level levels ih =>
    intro lists
    obtain ⟨hlevel, hlevels⟩ := List.forall_mem_cons.1 hlevels
    rw [runLevels]
    refine (ends_runLevel_raised hvalid hlevel lists).bind fun out _ => ?_
    exact (ih hlevels out.1).bind fun _ _ => trivial

theorem ends_tagRecords_raised {engine : LinearEngine} {options : TaggingOptions}
    (h : make tags reg options = .ok engine) (records : RecordSet) :
    Ends (fun _ => True) (StoppedBy tags reg records) (engine.tagRecords records) := by
  obtain ⟨hvalid, levels, -, rfl⟩ := make_ok h
  obtain ⟨rules, hrules⟩ := exists_mapM fun t ht =>
    Rule.exists_resolve_of_forall t.rule (TagSet.validateNode_of_validate hvalid ht)
  have hstands : List.Forall₂ (StandsFor tags.tags reg) (entriesOf tags.tags rules 0) tags.tags :=
    forall₂_entriesOf (forall₂_of_mapM hrules) []
  have hlevels : ∀ level ∈ (levelsOf levels).map
      (·.filterMap ((entriesOf tags.tags rules 0)[·]?)),
      ∀ e ∈ level, ∃ t ∈ tags.tags, reg.resolve t.rule = .ok e.rule := by
    intro level hlevel e he
    obtain ⟨numbers, -, rfl⟩ := List.mem_map.1 hlevel
    obtain ⟨i, -, hi⟩ := List.mem_filterMap.1 he
    obtain ⟨t, ht, hstand⟩ := exists_of_mem_forall₂ hstands.flip (List.mem_of_getElem? hi)
    exact ⟨t, ht, hstand.rule⟩
  have hrun := (ends_runLevels_raised records hvalid hlevels
    (startLists records tags.names options.removeOldTags)).stopped
  refine Ends.map ?_
  rw [run_eq _ _ hrules]
  exact hrun.bind fun _ _ => trivial

end LinearEngine

/-! ### Planned runs -/

namespace ExecutionPlan

variable {planner : PlannerOptions} {plan : ExecutionPlan}

/-- **A node of a batch that is a leaf** is one of a tag. -/
theorem leaf_of_node (h : build tags planner = .ok plan) {b : Batch} (hb : b ∈ plan.batches)
    {n : PlanNode} (hn : n ∈ b.nodes) {l : Rule} (hl : n.op.leaf? = some l) :
    ∃ t ∈ tags.tags, l ∈ t.rule.leaves := by
  obtain ⟨levels, nodes, -, hnodes, rfl⟩ := build_ok h
  have hkept : n ∈ (Optimize.after planner nodes).kept := ((mem_nodes_batchesOf hb).1 hn).1
  obtain ⟨m, hm, hml, -⟩ :=
    (Optimize.sameLeaves_after (Flatten.layered_ofTags hnodes)).of_kept n hkept l hl
  obtain ⟨e, he, hel, -⟩ := (Flatten.exists_leaf_iff hnodes).1 ⟨m, hm, hml, rfl⟩
  exact ⟨e.1, (List.of_mem_zip he).1, hel⟩

/-- **A transform** is one of a condition of a tag. -/
theorem reader_of_transform (h : build tags planner = .ok plan) {n : PlanNode}
    (hn : n ∈ plan.transforms) : ∃ t ∈ tags.tags, ∃ c key, .condition c ∈ t.rule.leaves ∧
      c.transform = some key ∧ n.op = .transform c.field key := by
  obtain ⟨levels, nodes, -, -, rfl⟩ := build_ok h
  obtain ⟨a, column, ha, rfl⟩ := TransformTable.mem_nodes_iff.1 hn
  have hcolumn := List.mem_of_getElem? ha
  unfold tableOf at hcolumn
  split at hcolumn
  · obtain ⟨t, ht, c, hc, -, hfield, htransform⟩ := TransformTable.exists_reader hcolumn
    exact ⟨t, ht, c, column.transform, hc, htransform, by rw [hfield]⟩
  · cases hcolumn

/-- What a run keeps of a column: a transform has taken its values from the records. -/
def TakenFrom (reg : Registry) (records : RecordSet) (n : PlanNode) : Column → Prop
  | .mask _ => n.kind ≠ .transform
  | .values values => ∃ field key, n.op = .transform field key ∧
      ∀ v ∈ values, ∃ r ∈ records, reg.applyTransform (some key) (r.get field) = .ok v

theorem TakenFrom.isOfKind {n : PlanNode} {column : Column} (h : TakenFrom reg records n column) :
    IsOfKind n column := by
  cases column with
  | mask entries => exact h
  | values values =>
    obtain ⟨field, key, hop, -⟩ := h
    show n.op.kind = .transform
    rw [hop]
    rfl

/-- A transform of a plan takes its values from the records, or raises an error. -/
theorem ends_transform_raised (hvalid : tags.validate reg = .ok ())
    (h : build tags planner = .ok plan) {n : PlanNode} (hn : n ∈ plan.transforms) :
    ∃ field key, n.op = .transform field key ∧
      Ends (fun values => TakenFrom reg records n (.values values)) (StoppedBy tags reg records)
        (Execution.transformed reg records field key) := by
  obtain ⟨t, ht, c, key, hc, hkey, hop⟩ := reader_of_transform h hn
  have hknown : ∃ transform, Rule.transformOf reg c = .ok transform :=
    Rule.exists_transformOf (TagSet.validateNode_of_leaf hvalid ht hc)
  refine ⟨c.field, key, hop, Ends.stopped ?_⟩
  rw [RecordSet.column, List.mapM_map]
  have hrows : Ends (List.Forall₂ (fun r v => reg.applyTransform (some key) (r.get c.field) = .ok v)
      records) (RaisedBy tags reg records)
      (records.mapM fun r => reg.applyTransform (some key) (r.get c.field)) := by
    refine Ends.mapM fun r hr => ?_
    cases hvalue : reg.applyTransform (some key) (r.get c.field) with
    | ok v => exact rfl
    | error e =>
      rw [← hkey] at hvalue
      exact raisedBy_of_raises ht hc hr (Rule.raises_of_transform hknown hvalue)
  refine hrows.mono (fun values hvalues => ⟨c.field, key, hop, fun v hv => ?_⟩) fun _ he => he
  exact exists_of_mem_forall₂ hvalues hv

open Execution

/-- Testing a condition on some values, each of which a record has in the field of the condition. -/
theorem ends_testAll_raised {t : Tag} (ht : t ∈ tags.tags) {c : Condition}
    (hc : .condition c ∈ t.rule.leaves) (hvalid : reg.validateCondition c = .ok ())
    {predicate : Predicate} (hpredicate : reg.resolvePredicate c = .ok predicate)
    {values : List Value}
    (hvalues : ∀ v ∈ values, ∃ r ∈ records, ∃ x, r.AgreesOffTags x ∧ x.get c.field = v) :
    Ends (fun _ => True) (RaisedBy tags reg records)
      (testAll reg predicate c.transform values) := by
  refine Ends.mapM_of_error fun v hv e he => ?_
  obtain ⟨r, hr, x, hagree, rfl⟩ := hvalues v hv
  have htest : Ends (fun _ => True) (Rule.Raises reg x (.condition c))
      (Rule.testCondition reg c (x.get c.field)) := Rule.ends_testCondition hvalid
  rw [Rule.testCondition, hpredicate] at htest
  exact ⟨t, ht, .condition c, hc, r, hr, x, hagree, htest.error he⟩

/-- A condition with an input reads the values that its transform takes from the records. -/
theorem exists_valuesOf_taken (h : plan.WellFormed tags) {b : Batch} (hb : b ∈ plan.batches)
    {rest : List PlanNode} {columns : List (Alias × Column)}
    (hs : Stored (TakenFrom reg records) (plan.transforms ++ rest) columns) {n : PlanNode}
    (hn : n ∈ b.nodes) {c : Condition} {a : Alias} (hop : n.op = .condition c (some a)) :
    ∃ values, valuesOf columns a = .ok values ∧
      ∀ v ∈ values, ∃ r ∈ records, reg.applyTransform c.transform (r.get c.field) = .ok v := by
  obtain ⟨_, key, hop', -, hkey, m, hm, rfl, hmop⟩ | ⟨hkind, -⟩ :=
    h.inputs b hb n hn a (by simp [hop, NodeOp.inputs])
  · cases hop.symm.trans hop'
    obtain ⟨column, hcolumn, htaken⟩ := hs m (List.mem_append_left _ hm)
    cases column with
    | mask entries => exact absurd (by rw [PlanNode.kind, hmop]; rfl) htaken
    | values values =>
      obtain ⟨field, key', hmop', htaken⟩ := htaken
      cases hmop.symm.trans hmop'
      exact ⟨values, by rw [valuesOf, hcolumn], hkey ▸ htaken⟩
  · rw [PlanNode.kind, hop] at hkind
    cases href : c.isTagReference <;> simp [NodeOp.kind, href] at hkind

/-- **A condition of a plan** has its column, or raises an error on one of the records. -/
theorem ends_evaluateCondition_raised (hvalid : tags.validate reg = .ok ())
    (h : build tags planner = .ok plan) {b : Batch} (hb : b ∈ plan.batches) {rest : List PlanNode}
    {columns : List (Alias × Column)}
    (hs : Stored (TakenFrom reg records) (plan.transforms ++ rest) columns)
    {lists : List (List String)} (hlists : lists.length ≤ records.length) {n : PlanNode}
    (hn : n ∈ b.nodes) {c : Condition} {input : Option Alias} (hop : n.op = .condition c input) :
    Ends (fun _ => True) (StoppedBy tags reg records)
      (evaluateCondition reg records columns (liveTags b lists) c input) := by
  obtain ⟨t, ht, hc⟩ : ∃ t ∈ tags.tags, .condition c ∈ t.rule.leaves :=
    leaf_of_node h hb hn (by rw [hop]; rfl)
  have hcondition : reg.validateCondition c = .ok () := TagSet.validateNode_of_leaf hvalid ht hc
  obtain ⟨predicate, hpredicate⟩ := Rule.exists_resolvePredicate hcondition
  rw [evaluateCondition, hpredicate]
  cases input with
  | some a =>
    obtain ⟨values, hvalues, htaken⟩ :=
      exists_valuesOf_taken (wellFormed_of_build h) hb hs hn hop
    have htests : Ends (fun _ => True) (RaisedBy tags reg records) (values.mapM predicate.test) := by
      refine Ends.mapM_of_error fun v hv e htest => ?_
      obtain ⟨r, hr, hvalue⟩ := htaken v hv
      exact raisedBy_of_raises ht hc hr (Rule.raises_of_test hpredicate hvalue htest)
    simp only [hvalues]
    exact htests.stopped
  | none =>
    cases href : c.isTagReference with
    | true =>
      have hfield : c.field = tagsField := by simpa [Condition.isTagReference] using href
      have hkind : n.kind = .tagReference := by rw [PlanNode.kind, hop, NodeOp.kind, if_pos href]
      rw [liveTags_eq hn hkind]
      refine (ends_testAll_raised ht hc hcondition hpredicate fun v hv => ?_).stopped
      obtain ⟨list, hlist, rfl⟩ := List.mem_map.1 hv
      -- There are no more tag lists than records, so that there is a record for this one.
      obtain ⟨r, hr⟩ := List.exists_mem_of_length_pos
        (Nat.lt_of_lt_of_le (List.length_pos_of_mem hlist) hlists)
      exact ⟨r, hr, r.withTags list, r.agreesOffTags_withTags list, by
        rw [hfield, Record.get_withTags]⟩
    | false =>
      refine (ends_testAll_raised ht hc hcondition hpredicate fun v hv => ?_).stopped
      obtain ⟨r, hr, rfl⟩ := List.mem_map.1 hv
      exact ⟨r, hr, r, fun _ _ => rfl, rfl⟩

/-- **A node of a plan** has its column, or raises an error on one of the records. -/
theorem ends_evaluateNode_raised (hvalid : tags.validate reg = .ok ())
    (h : build tags planner = .ok plan) {pre post : List Batch} {b : Batch}
    (hsplit : plan.batches = pre ++ b :: post) {columns : List (Alias × Column)}
    (hs : Stored (TakenFrom reg records) (plan.transforms ++ pre.flatMap Batch.nodes) columns)
    {lists : List (List String)} (hlists : lists.length ≤ records.length) {n : PlanNode}
    (hn : n ∈ b.nodes) :
    Ends (fun _ => True) (StoppedBy tags reg records)
      (evaluateNode reg records columns (liveTags b lists) n) := by
  have hb : b ∈ plan.batches := by simp [hsplit]
  cases hop : n.op with
  | condition c input =>
    rw [evaluateNode, hop]
    exact ends_evaluateCondition_raised hvalid h hb hs hlists hn hop
  | custom key =>
    obtain ⟨t, ht, hkey⟩ : ∃ t ∈ tags.tags, .custom key ∈ t.rule.leaves :=
      leaf_of_node h hb hn (by rw [hop]; rfl)
    obtain ⟨f, hf⟩ := (Registry.failsAlike_resolveCustom key).exists_ok_iff.1
      ⟨(), TagSet.validateNode_of_leaf hvalid ht hkey⟩
    have hrows : Ends (fun _ => True) (RaisedBy tags reg records) (records.mapM f) := by
      refine Ends.mapM_of_error fun r hr e he => ?_
      exact raisedBy_of_raises ht hkey hr (.custom (Rule.customRule?_of_resolveCustom hf) he)
    rw [evaluateNode, hop]
    simp only [hf]
    exact hrows.stopped
  | _ =>
    have hkinds : Stored IsOfKind (plan.transforms ++ pre.flatMap Batch.nodes) columns :=
      fun m hm => (hs m hm).imp fun _ hcolumn => ⟨hcolumn.1, hcolumn.2.isOfKind⟩
    obtain ⟨mask, hmask⟩ := exists_evaluateNode reg records (wellFormed_of_build h) hsplit hkinds
      (liveTags b lists) hn (fun _ _ heq => by cases hop.symm.trans heq)
      (fun _ heq => by cases hop.symm.trans heq)
    rw [hmask]
    exact trivial

/-- Storing masks makes no more tag lists. -/
theorem length_lists_foldl_store (entries : List (PlanNode × List Bool)) (s : State) :
    (entries.foldl (fun s (n, mask) => store s n mask) s).lists.length ≤ s.lists.length := by
  induction entries generalizing s with
  | nil => exact Nat.le_refl _
  | cons entry entries ih =>
    obtain ⟨n, mask⟩ := entry
    refine Nat.le_trans (ih (store s n mask)) ?_
    rw [lists_store]
    split
    · rw [addTags, List.length_zipWith]
      exact Nat.min_le_left _ _
    · exact Nat.le_refl _

/-- **Every step of a run of a valid plan** succeeds, or a leaf raises an error on a record. -/
theorem steps_raised (records : RecordSet) (hvalid : tags.validate reg = .ok ()) (h : build tags planner = .ok plan) :
    Steps reg records plan (TakenFrom reg records)
      (fun _ lists => lists.length ≤ records.length) (StoppedBy tags reg records) := by
  have hwf := wellFormed_of_build h
  refine ⟨hwf.columns, fun n hn => ends_transform_raised hvalid h hn,
    fun pre b post s hsplit hs hlists n hn => ?_,
    fun pre b post s masks _ hlists _ => Nat.le_trans (length_lists_foldl_store _ s) hlists⟩
  refine (ends_evaluateNode_raised hvalid h hsplit hs hlists hn).mono (fun _ _ => ?_) fun _ he => he
  exact hwf.batched b (by simp [hsplit]) n hn

end ExecutionPlan

theorem length_startLists (records : RecordSet) (managed : List String) (removeOldTags : Bool) :
    (startLists records managed removeOldTags).length = records.length := by
  unfold startLists
  split <;> simp [RecordSet.tagLists]

/-- **A planned run fails with an error that a leaf of one of its tags raises.** -/
theorem PlannedEngine.ends_tagRecords_raised {engine : PlannedEngine} {planner : PlannerOptions}
    {options : TaggingOptions} (h : make tags reg planner options = .ok engine)
    (records : RecordSet) :
    Ends (fun _ => True) (StoppedBy tags reg records) (engine.tagRecords records) := by
  obtain ⟨hvalid, plan, hplan, rfl⟩ := make_ok h
  have hrun := Execution.ends_execute (ExecutionPlan.steps_raised records hvalid hplan)
    (Nat.le_of_eq (length_startLists records plan.tags options.removeOldTags))
  exact Ends.map (hrun.bind fun _ _ => trivial)

/-- **A run of either kind fails with an error that a leaf of one of its tags raises.** -/
theorem Engine.ends_tagRecords_raised {kind : EngineKind} {options : TaggingOptions}
    {engine : Engine} (h : make kind tags reg options = .ok engine) (records : RecordSet) :
    Ends (fun _ => True) (StoppedBy tags reg records) (engine.tagRecords records) := by
  cases kind with
  | linear =>
    obtain ⟨linear, hlinear, rfl⟩ := map_eq_ok_iff.1 h
    exact LinearEngine.ends_tagRecords_raised hlinear records
  | planned planner =>
    obtain ⟨planned, hplanned, rfl⟩ := map_eq_ok_iff.1 h
    exact PlannedEngine.ends_tagRecords_raised hplanned records

/-! ### What validation is for -/

/-- **Validation is exactly what a run needs.** A rule is valid when its form is sound and it can be
resolved; a rule of sound form that is not valid cannot be resolved for the same cause. Once there is
an engine, whatever stops a run is an error that a leaf of one of its tags raises. -/
theorem Registry.validate_exact (reg : Registry) :
    (∀ r : Rule, reg.validate r = .ok () ↔ r.checkShape = .ok () ∧ ∃ p, reg.resolve r = .ok p) ∧
    (∀ (r : Rule) (e : RuleError), r.checkShape = .ok () → reg.validate r = .error e →
      ∃ e', reg.resolve r = .error e' ∧ SameCause e e') ∧
    (∀ (kind : EngineKind) (tags : TagSet) (options : TaggingOptions) (engine : Engine),
      Engine.make kind tags reg options = .ok engine → ∀ (records : RecordSet) (e : TaggingError),
        engine.tagRecords records = .error e → StoppedBy tags reg records e) := by
  refine ⟨fun r => ⟨fun h => ?_, fun ⟨hshape, hresolve⟩ => ?_⟩, fun r e hshape h => ?_,
    fun kind tags options engine hmake records e h => ?_⟩
  · have hshape : r.checkShape = .ok () := by
      obtain ⟨⟨⟩, hshape, -⟩ := bind_eq_ok_iff.1 h
      exact mapError_eq_ok_iff.1 hshape
    exact ⟨hshape, (failsAlike_validate hshape).exists_ok_iff.1 ⟨(), h⟩⟩
  · obtain ⟨⟨⟩, hvalid⟩ := (failsAlike_validate hshape).exists_ok_iff.2 hresolve
    exact hvalid
  · exact (failsAlike_validate hshape).exists_error h
  · exact (Engine.ends_tagRecords_raised hmake records).error h

/-- A rule whose literal is no list. -/
def elderTag : Tag where
  name := "elder"
  rule := .any [.all [.condition ⟨"age", none, "in", .int 65⟩]]
  name_ne := by decide
  canonical := by decide +kernel

/-- Elders. -/
def elderTags : TagSet := ⟨[elderTag], by decide⟩

/-- An unknown transform shows when a rule is validated, and a literal of the wrong type only on a
record. -/
theorem Registry.validate_exact_elderTags :
    (∃ e', namedRegistry.resolve (.condition ⟨"age", some "round", "ge", .int 65⟩) = .error e' ∧
      SameCause (.unknownOperator .transform "round") e') ∧
    ∃ engine, Engine.make .linear elderTags namedRegistry ⟨true⟩ = .ok engine ∧
      StoppedBy elderTags namedRegistry [Record.empty.insert "age" (.int 70)]
        (.eval (.typeMismatch "in" ["int", "int"])) := by
  obtain ⟨-, hinvalid, hrun⟩ := validate_exact namedRegistry
  have hshape : (Rule.condition ⟨"age", some "round", "ge", .int 65⟩).IsSound := rfl
  let engine : Engine := .linear ⟨elderTags, namedRegistry, ⟨true⟩, LinearEngine.levelsOf [0]⟩
  have hmake : Engine.make .linear elderTags namedRegistry ⟨true⟩ = .ok engine := rfl
  refine ⟨hinvalid _ _ hshape rfl, engine, hmake, hrun _ _ _ _ hmake _ _ ?_⟩
  -- The sort does not reduce, but there is nothing to sort.
  have hsorted : LinearEngine.levelsOf [0] = [[0]] := by
    rw [LinearEngine.levelsOf, List.mergeSort_of_pairwise (by decide)]
    rfl
  simp only [engine, hsorted]
  rfl

end TagRules
