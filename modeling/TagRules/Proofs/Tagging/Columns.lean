import TagRules.Proofs.Plan.Columns
import TagRules.Proofs.Rule.Validation
import TagRules.Proofs.Tagging.Realized

/-!
# The columns of a planned run

When the nodes of a plan realize a course, the column of a node holds its truth value on every
record, and a leaf fails where it fails row by row.

* `Course.Fills`: what the column of a node has to hold.
* `combine_eq`: columns are combined row by row.
* `evaluateCondition_eq`: a condition on a column is the condition on every row.
* `ends_leaf`, `ends_condition`, `ends_custom`, `ends_evaluateNode`: a node fills its column, or some
  rule cannot be evaluated.
* `ends_transformed`: so does a transform.
-/

namespace TagRules

namespace Course

/-- A leaf can be evaluated on every row, as the level of its node sees it. -/
def LeafDefined (c : Course) (records : RecordSet) (n : PlanNode) : Prop :=
  ∀ l, n.op.leaf? = some l → ∀ r ∈ records, l.Defined c.registry (c.view n.level r)

/-- **What the column of a node holds**: the truth values of the node, or the values of a field after
a transform. -/
def Fills (c : Course) (records : RecordSet) (value : Record → Alias → Bool) (n : PlanNode) :
    Column → Prop
  | .mask entries => n.kind ≠ .transform ∧ entries = records.map (fun r => value r n.column) ∧
      c.LeafDefined records n
  | .values values => n.kind = .transform ∧ ∀ field key, n.op = .transform field key →
      List.Forall₂ (fun r v => c.registry.applyTransform (some key) (r.get field) = .ok v)
        records values

end Course

namespace Execution

open Outcome

variable {c : Course} {records : RecordSet} {value : Record → Alias → Bool}
  {columns : List (Alias × Column)}

/-! ### Columns that are there -/

theorem maskOf_eq {done : List PlanNode} (h : Stored (c.Fills records value) done columns)
    {m : PlanNode} (hm : m ∈ done) (hkind : m.kind ≠ .transform) :
    maskOf columns m.column = .ok (records.map fun r => value r m.column) := by
  obtain ⟨column, hcolumn, hfills⟩ := h m hm
  rw [maskOf, hcolumn]
  cases column with
  | mask entries => exact congrArg Except.ok hfills.2.1
  | values entries => exact absurd hfills.1 hkind

/-- **Columns are combined row by row.** -/
theorem combine_eq {inputs : List Alias} (all : Bool)
    (h : ∀ a ∈ inputs, maskOf columns a = .ok (records.map fun r => value r a)) :
    combine records columns all inputs = .ok (records.map fun r =>
      if all then inputs.all (value r) else inputs.any (value r)) := by
  suffices hfold : ∀ acc : Record → Bool,
      inputs.foldlM (fun acc a => do
        let mask ← maskOf columns a
        return List.zipWith (if all then and else or) acc mask) (records.map acc) =
      .ok (records.map fun r =>
        if all then acc r && inputs.all (value r) else acc r || inputs.any (value r)) by
    rw [combine, hfold]
    cases all <;> simp
  induction inputs with
  | nil =>
    intro acc
    cases all <;> simp <;> rfl
  | cons a inputs ih =>
    obtain ⟨ha, h⟩ := List.forall_mem_cons.1 h
    intro acc
    rw [List.foldlM_cons, ha]
    show inputs.foldlM _ (List.zipWith _ (records.map acc) (records.map fun r => value r a)) = _
    rw [List.zipWith_map, List.zipWith_self, ih h]
    cases all <;> simp [Bool.and_assoc, Bool.or_assoc]

/-! ### Conditions -/

/-- A column holds the values of the field of a condition, after its transform. -/
def Feeds (c : Course) (records : RecordSet) (columns : List (Alias × Column))
    (condition : Condition) (a : Alias) : Prop :=
  condition.isTagReference = false ∧ ∃ key values, condition.transform = some key ∧
    valuesOf columns a = .ok values ∧
    List.Forall₂ (fun r v => c.registry.applyTransform (some key) (r.get condition.field) = .ok v)
      records values

theorem feeds_of_stored {done : List PlanNode} (h : Stored (c.Fills records value) done columns)
    {m : PlanNode} (hm : m ∈ done) {condition : Condition} {key : String}
    (hop : m.op = .transform condition.field key) (href : condition.isTagReference = false)
    (htransform : condition.transform = some key) :
    Feeds c records columns condition m.column := by
  obtain ⟨column, hcolumn, hfills⟩ := h m hm
  cases column with
  | mask entries => exact absurd (by rw [PlanNode.kind, hop]; rfl) hfills.1
  | values values =>
    refine ⟨href, key, values, htransform, ?_, hfills.2 _ _ hop⟩
    rw [valuesOf, hcolumn]

/-- **A condition on columns is the condition on every row.** -/
theorem evaluateCondition_eq {condition : Condition} {input : Option Alias} {level : Nat}
    {live : Option (List Value)} {predicate : Predicate}
    (hpredicate : c.registry.resolvePredicate condition = .ok predicate)
    (hinput : ∀ a ∈ input, Feeds c records columns condition a)
    (hlive : condition.isTagReference = true →
      live = some ((c.lists records level).map Value.ofStrings)) :
    evaluateCondition c.registry records columns live condition input =
      liftEval (records.mapM fun r =>
        Rule.testCondition c.registry condition ((c.view level r).get condition.field)) := by
  have htest : Rule.testCondition c.registry condition = fun v =>
      c.registry.applyTransform condition.transform v >>= predicate.test := by
    funext v
    rw [Rule.testCondition, hpredicate]
    rfl
  have hfield : condition.isTagReference = false → ∀ r,
      (c.view level r).get condition.field = r.get condition.field := by
    intro href r
    refine Course.get_view_of_ne (fun hfield => ?_) level r
    simp [Condition.isTagReference, hfield] at href
  rw [evaluateCondition, hpredicate, htest]
  cases input with
  | some a =>
    obtain ⟨href, key, values, hkey, hvalues, hrows⟩ := hinput a rfl
    show valuesOf columns a >>= (fun values => liftEval (values.mapM predicate.test)) = _
    rw [hvalues, hkey]
    simp only [hfield href]
    exact congrArg liftEval (mapM_of_forall₂ hrows)
  | none =>
    cases href : condition.isTagReference with
    | true =>
      have htags : condition.field = tagsField := by simpa [Condition.isTagReference] using href
      simp only [hlive href, htags, Course.get_view_tagsField]
      show liftEval (testAll c.registry predicate condition.transform _) = _
      rw [testAll, Course.lists, List.map_map, List.mapM_map]
      rfl
    | false =>
      simp only [hfield href]
      show liftEval (testAll c.registry predicate condition.transform _) = _
      rw [testAll, RecordSet.column, List.mapM_map]
      rfl

end Execution

/-! ### Nodes -/

namespace Realizes

open Outcome Execution

variable {c : Course} {hreg : c.registry.IgnoresTags} {records : RecordSet}
  {table : TransformTable} {nodes : List PlanNode} {value : Record → Alias → Bool}
  {columns : List (Alias × Column)} {n : PlanNode} {l : Rule}

/-- The rules of a course are valid. -/
def Valid (c : Course) : Prop :=
  ∀ e ∈ c.ranked, ∀ s ∈ e.1.rule.subrules, c.registry.validateNode s = .ok ()

theorem validateNode_of_leaf? (h : Realizes c hreg table nodes value) (hvalid : Valid c)
    (hn : n ∈ nodes) (hl : n.op.leaf? = some l) : c.registry.validateNode l = .ok () := by
  obtain ⟨e, he, hel, -⟩ := h.leaf_of_node n hn l hl
  exact hvalid e he l ((Rule.mem_leaves_iff e.1.canonical).1 hel).1

/-- The level of a node and that of a tag show the same to a leaf, if they are equal or the leaf does
not read the tag list. -/
theorem defined_congr (hreg : c.registry.IgnoresTags) (hl : n.op.leaf? = some l) {level : Nat}
    (hlevel : n.kind = .tagReference → n.level = level) (r : Record) :
    l.Defined c.registry (c.view n.level r) ↔ l.Defined c.registry (c.view level r) := by
  obtain ⟨hleaf, href⟩ := NodeOp.isLeaf_of_leaf? hl
  by_cases hkind : n.kind = .tagReference
  · rw [hlevel hkind]
  · have hfree : l.isTagReference = false := Bool.eq_false_iff.2 fun h => hkind (href.1 h)
    have hsame := Rule.evaluate_congr hreg hleaf hfree (c.view_agreesOffTags n.level level r)
    rw [Rule.Defined, Rule.Defined, hsame]

/-- **When every rule can be evaluated, so can the leaves of the nodes.** -/
theorem leafDefined (h : Realizes c hreg table nodes value) (hdefined : c.Defined records)
    (hn : n ∈ nodes) : c.LeafDefined records n := by
  intro l hl r hr
  obtain ⟨e, he, hel, hlevel⟩ := h.leaf_of_node n hn l hl
  rw [defined_congr hreg hl hlevel]
  exact (Rule.defined_iff_forall_leaves e.1.canonical).1 (hdefined r hr e he) l hel

/-- **When the leaves of the nodes can be evaluated, so can every rule.** -/
theorem defined (h : Realizes c hreg table nodes value)
    (hleaves : ∀ n ∈ nodes, c.LeafDefined records n) : c.Defined records := by
  intro r hr e he
  refine (Rule.defined_iff_forall_leaves e.1.canonical).2 fun l hl => ?_
  obtain ⟨n, hn, hnl, hlevel⟩ := h.node_of_leaf e he l hl
  exact (defined_congr hreg hnl hlevel r).1 (hleaves n hn l hnl r hr)

/-- **A leaf fills its column**, or some rule cannot be evaluated. -/
theorem ends_leaf (h : Realizes c hreg table nodes value) (hn : n ∈ nodes)
    (hl : n.op.leaf? = some l) {f : Record → Except EvalError Bool}
    (hf : ∀ r b, f r = .ok b ↔ l.evaluate (c.view n.level r) c.registry = .ok b) :
    Ends (fun mask => c.Fills records value n (.mask mask)) (fun _ => ¬c.Defined records)
      (liftEval (records.mapM f)) := by
  have hvalue : ∀ r, value r n.column = l.holds c.registry (c.view n.level r) := by
    intro r
    rw [h.consistent r n hn, NodeOp.meaning_of_leaf? hl]
    rfl
  have hrows := Ends.rows (l := records) (f := f) (v := fun r => value r n.column)
    fun r _ b hb => by rw [hvalue, Rule.holds_of_evaluate ((hf r b).1 hb)]
  refine Ends.mapError (hrows.mono (fun mask hmask => ?_) fun _ hbad hdefined => ?_)
  · refine ⟨(h.supplied n hn).fits.kind_ne_transform, hmask.1, fun l' hl' r hr => ?_⟩
    cases hl.symm.trans hl'
    obtain ⟨b, hb⟩ := hmask.2 r hr
    exact ⟨b, (hf r b).1 hb⟩
  · -- A leaf that fails on a row is a leaf of some rule, which fails as well.
    obtain ⟨r, hr, hnot⟩ := hbad
    obtain ⟨b, hb⟩ := h.leafDefined hdefined hn l hl r hr
    exact hnot ⟨b, (hf r b).2 hb⟩

/-- A condition fills its column, or some rule cannot be evaluated. -/
theorem ends_condition (h : Realizes c hreg table nodes value) (hvalid : Valid c) (hn : n ∈ nodes)
    {condition : Condition} {input : Option Alias} (hop : n.op = .condition condition input)
    {live : Option (List Value)} (hfeeds : ∀ a ∈ input, Feeds c records columns condition a)
    (hlive : n.kind = .tagReference → live = some ((c.lists records n.level).map Value.ofStrings)) :
    Ends (fun mask => c.Fills records value n (.mask mask)) (fun _ => ¬c.Defined records)
      (evaluateCondition c.registry records columns live condition input) := by
  have hl : n.op.leaf? = some (.condition condition) := by rw [hop]; rfl
  obtain ⟨predicate, hpredicate⟩ := Rule.exists_resolvePredicate
    (h.validateNode_of_leaf? hvalid hn hl)
  have href : condition.isTagReference = true → n.kind = .tagReference :=
    (NodeOp.isLeaf_of_leaf? hl).2.1
  rw [evaluateCondition_eq hpredicate hfeeds fun hr => hlive (href hr)]
  exact h.ends_leaf hn hl fun r b => Rule.evaluate_condition_iff.symm

/-- A custom rule fills its column, or some rule cannot be evaluated. -/
theorem ends_custom (h : Realizes c hreg table nodes value) (hvalid : Valid c) (hn : n ∈ nodes)
    {key : String} (hop : n.op = .custom key) :
    Ends (fun mask => c.Fills records value n (.mask mask)) (fun _ => ¬c.Defined records)
      (do
        let f ← liftEval (c.registry.resolveCustom key)
        liftEval (records.mapM f)) := by
  have hl : n.op.leaf? = some (.custom key) := by rw [hop]; rfl
  have hkey := h.validateNode_of_leaf? hvalid hn hl
  cases hf : c.registry.customRule? key with
  | none => simp [Registry.validateNode, hf] at hkey
  | some f =>
    have hresolve : c.registry.resolveCustom key = .ok f := by rw [Registry.resolveCustom, hf]
    rw [hresolve]
    refine h.ends_leaf hn hl fun r b => ?_
    have heval : (Rule.custom key).evaluate (c.view n.level r) c.registry = f (c.view n.level r) := by
      rw [Rule.evaluate, Registry.resolve, hresolve]
      rfl
    -- The plan runs the custom rule on the record as it came in.
    have hsame : f r = f (c.view n.level r) := hreg key f hf _ _ (r.agreesOffTags_withTags _)
    rw [heval, hsame]

/-- **A node fills its column**, or some rule cannot be evaluated. -/
theorem ends_evaluateNode (h : Realizes c hreg table nodes value) (hvalid : Valid c) (hn : n ∈ nodes)
    {live : Option (List Value)}
    (hmasks : ∀ a ∈ n.op.masks, maskOf columns a = .ok (records.map fun r => value r a))
    (hfeeds : ∀ condition a, n.op = .condition condition (some a) →
      Feeds c records columns condition a)
    (hlive : n.kind = .tagReference → live = some ((c.lists records n.level).map Value.ofStrings)) :
    Ends (fun mask => c.Fills records value n (.mask mask)) (fun _ => ¬c.Defined records)
      (evaluateNode c.registry records columns live n) := by
  have hkind := (h.supplied n hn).fits.kind_ne_transform
  have hcomposite : n.op.leaf? = none → ∀ f : Record → Bool,
      (∀ r, n.op.meaning ((c.truth hreg r).value n.level) (value r) = f r) →
      c.Fills records value n (.mask (records.map f)) := by
    intro hnone f hf
    refine ⟨hkind, List.map_congr_left fun r _ => ?_, fun l hl => by rw [hnone] at hl; cases hl⟩
    rw [h.consistent r n hn, hf]
  unfold evaluateNode
  split
  · rename_i condition input hop
    exact h.ends_condition hvalid hn hop (fun a ha => hfeeds condition a (by rw [hop, ha])) hlive
  · rename_i key hop
    exact h.ends_custom hvalid hn hop
  · rename_i inputs hop
    rw [combine_eq true fun a ha => hmasks a (by rw [hop]; exact ha)]
    exact hcomposite (by rw [hop]; rfl) _ fun r => by rw [hop]; rfl
  · rename_i inputs hop
    rw [combine_eq false fun a ha => hmasks a (by rw [hop]; exact ha)]
    exact hcomposite (by rw [hop]; rfl) _ fun r => by rw [hop]; rfl
  · rename_i tag input hop
    rw [hmasks input (by rw [hop]; exact List.mem_singleton_self input)]
    exact hcomposite (by rw [hop]; rfl) _ fun r => by rw [hop]; rfl
  · rename_i field key hop
    exact absurd (by rw [hop]; rfl) hkind

/-- **A transform fills its column**, or some rule cannot be evaluated. -/
theorem ends_transformed (h : Realizes c hreg table nodes value) {column : TransformColumn}
    (hcolumn : column ∈ table) :
    Ends (fun values => List.Forall₂ (fun r v =>
        c.registry.applyTransform (some column.transform) (r.get column.field) = .ok v) records values)
      (fun _ => ¬c.Defined records)
      (transformed c.registry records column.field column.transform) := by
  rw [transformed, RecordSet.column, List.mapM_map]
  refine Ends.mapError (Ends.mapM fun r hr => ?_)
  show Ends _ _ (c.registry.applyTransform (some column.transform) (r.get column.field))
  cases hv : c.registry.applyTransform (some column.transform) (r.get column.field) with
  | ok v => exact rfl
  | error e =>
    -- A condition that reads the column fails on the same row.
    intro hdefined
    obtain ⟨e, he, condition, hl, href, hfield, htransform⟩ := h.reader column hcolumn
    obtain ⟨b, hb⟩ := (Rule.defined_iff_forall_leaves e.1.canonical).1 (hdefined r hr e he) _ hl
    have hne : condition.field ≠ tagsField := by simpa [Condition.isTagReference] using href
    rw [Rule.evaluate_condition_iff, Course.get_view_of_ne hne, Rule.testCondition, htransform,
      hfield] at hb
    obtain ⟨predicate, -, hb⟩ := bind_eq_ok_iff.1 hb
    obtain ⟨v, hv', -⟩ := bind_eq_ok_iff.1 hb
    rw [hv] at hv'
    cases hv'

end Realizes

end TagRules
