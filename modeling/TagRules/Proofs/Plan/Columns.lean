import TagRules.Proofs.Plan.Reported

/-!
# Columns of a run

A run stores a column for every node that it has computed.

* `Stored`: the columns of some nodes are stored, and are what they should be.
* `foldl_store`: storing the masks of a batch.
* `Steps`: what has to be known of every node and every batch of a plan.
* `ends_execute`: how a run ends for which this is known, and what it reports.
-/

namespace TagRules.Execution

open Outcome

variable {Q : PlanNode → Column → Prop} {done : List PlanNode} {columns : List (Alias × Column)}
  {n : PlanNode}

/-- **The columns of some nodes are stored**, and `Q` holds of each of them. -/
def Stored (Q : PlanNode → Column → Prop) (done : List PlanNode)
    (columns : List (Alias × Column)) : Prop :=
  ∀ n ∈ done, ∃ column, columns.lookup n.column = some column ∧ Q n column

theorem Stored.snoc {column : Column} (h : Stored Q done columns)
    (hnew : ∀ m ∈ done, m.column ≠ n.column) (hQ : Q n column) :
    Stored Q (done ++ [n]) ((n.column, column) :: columns) := by
  intro m hm
  rcases List.mem_append.1 hm with hm | hm
  · obtain ⟨c, hc, hQ'⟩ := h m hm
    have hb : (m.column == n.column) = false := by simpa using hnew m hm
    exact ⟨c, by simpa [List.lookup_cons, hb] using hc, hQ'⟩
  · rw [List.mem_singleton.1 hm]
    exact ⟨column, by simp, hQ⟩

theorem forall_ne_of_nodup {rest : List PlanNode}
    (h : ((done ++ n :: rest).map PlanNode.column).Nodup) : ∀ m ∈ done, m.column ≠ n.column := by
  intro m hm heq
  rw [List.map_append, List.nodup_append] at h
  exact h.2.2 m.column (List.mem_map_of_mem hm) n.column (by simp) heq

/-- The tag lists are there when a node of the batch reads them. -/
theorem liveTags_eq {b : Batch} (hn : n ∈ b.nodes) (hkind : n.kind = .tagReference)
    (lists : List (List String)) : liveTags b lists = some (lists.map Value.ofStrings) := by
  refine if_pos (List.any_eq_true.2 ⟨n, hn, ?_⟩)
  rw [decide_eq_true_eq]
  exact hkind

theorem lists_store (s : State) (n : PlanNode) (mask : List Bool) :
    (store s n mask).lists = match n.op with
      | .apply tag _ => addTags tag mask s.lists
      | _ => s.lists :=
  rfl

/-- **Storing the masks of a batch.** -/
theorem foldl_store {nodes : List PlanNode} {masks : List (List Bool)}
    (hQ : List.Forall₂ (fun n mask => Q n (.mask mask)) nodes masks) :
    ∀ {done : List PlanNode} {s : State}, Stored Q done s.columns →
      ((done ++ nodes).map PlanNode.column).Nodup →
      Stored Q (done ++ nodes)
        ((nodes.zip masks).foldl (fun s (n, mask) => store s n mask) s).columns := by
  induction hQ with
  | nil =>
    intro done s h _
    simpa using h
  | @cons n mask nodes masks hmask _ ih =>
    intro done s h hnodup
    have hsnoc : Stored Q (done ++ [n]) (store s n mask).columns :=
      h.snoc (forall_ne_of_nodup hnodup) hmask
    have := ih hsnoc (by simpa using hnodup)
    simpa using this

variable {reg : Registry} {records : RecordSet} {bad : TaggingError → Prop}

/-- The column of a transform. -/
def transformed (reg : Registry) (records : RecordSet) (field key : String) :
    Except TaggingError (List Value) :=
  liftEval ((records.column field).mapM (reg.applyTransform (some key)))

/-- **What is known of the steps of a run**: `Q` of the columns that are computed, and `inv` of the
tag lists after some batches. -/
structure Steps (reg : Registry) (records : RecordSet) (plan : ExecutionPlan)
    (Q : PlanNode → Column → Prop) (inv : List Batch → List (List String) → Prop)
    (bad : TaggingError → Prop) : Prop where
  nodup : (plan.nodes.map PlanNode.column).Nodup
  transforms : ∀ n ∈ plan.transforms, ∃ field key, n.op = .transform field key ∧
    Ends (fun values => Q n (.values values)) bad (transformed reg records field key)
  nodes : ∀ pre b post (s : State), plan.batches = pre ++ b :: post →
    Stored Q (plan.transforms ++ pre.flatMap Batch.nodes) s.columns → inv pre s.lists →
    ∀ n ∈ b.nodes, Ends (fun mask => Q n (.mask mask)) bad
      (evaluateNode reg records s.columns (liveTags b s.lists) n)
  lists : ∀ pre b post (s : State) masks, plan.batches = pre ++ b :: post → inv pre s.lists →
    List.Forall₂ (fun n mask => Q n (.mask mask)) b.nodes masks →
    inv (pre ++ [b]) ((b.nodes.zip masks).foldl (fun s (n, mask) => store s n mask) s).lists

variable {plan : ExecutionPlan} {inv : List Batch → List (List String) → Prop}

theorem Steps.runTransforms (h : Steps reg records plan Q inv bad) (lists : List (List String)) :
    Ends (fun s => Stored Q plan.transforms s.columns ∧ s.lists = lists ∧ s.report = []) bad
      (plan.transforms.foldlM (runTransform reg records) ⟨[], lists, []⟩) := by
  refine Ends.foldlM (fun pre (s : State) => Stored Q pre s.columns ∧ s.lists = lists ∧
    s.report = []) ⟨fun _ hn => absurd hn (by simp), rfl, rfl⟩ fun pre n post s hl hinv => ?_
  obtain ⟨field, key, hop, hends⟩ := h.transforms n (by simp [hl])
  have hnodup : ((pre ++ n :: post).map PlanNode.column).Nodup := by
    have := h.nodup
    rw [ExecutionPlan.nodes, List.map_append, hl] at this
    exact (List.nodup_append.1 this).1
  simp only [runTransform, hop]
  exact hends.bind fun values hQ => ⟨hinv.1.snoc (forall_ne_of_nodup hnodup) hQ, hinv.2⟩

theorem Steps.runBatch (h : Steps reg records plan Q inv bad) {pre post : List Batch} {b : Batch}
    {s : State} (hl : plan.batches = pre ++ b :: post)
    (hs : Stored Q (plan.transforms ++ pre.flatMap Batch.nodes) s.columns) (hinv : inv pre s.lists)
    (hreport : Reported Q (pre.flatMap Batch.nodes) s.report) :
    Ends (fun s' => Stored Q (plan.transforms ++ (pre ++ [b]).flatMap Batch.nodes) s'.columns ∧
      inv (pre ++ [b]) s'.lists ∧ Reported Q ((pre ++ [b]).flatMap Batch.nodes) s'.report) bad
      (runBatch reg records s b) := by
  refine Ends.bind (Ends.mapM (h.nodes pre b post s hl hs hinv)) fun masks hmasks => ?_
  refine ⟨?_, h.lists pre b post s masks hl hinv hmasks, by
    simpa using hreport.foldl_store hmasks⟩
  have hnodup : (((plan.transforms ++ pre.flatMap Batch.nodes) ++ b.nodes).map
      PlanNode.column).Nodup := by
    have := h.nodup
    rw [ExecutionPlan.nodes, hl, List.flatMap_append, List.flatMap_cons, ← List.append_assoc,
      ← List.append_assoc, List.map_append] at this
    exact (List.nodup_append.1 this).1
  simpa using foldl_store hmasks hs hnodup

/-- **How a run ends**: with the tag lists after all batches, and a report on the nodes of all
batches. -/
theorem ends_execute (h : Steps reg records plan Q inv bad) {lists : List (List String)}
    (h0 : inv [] lists) :
    Ends (fun out => inv plan.batches out.1 ∧
        Reported Q (plan.batches.flatMap Batch.nodes) out.2.nodes) bad
      (plan.execute reg records lists) := by
  refine (h.runTransforms lists).bind fun s ⟨hs, hlists, hreport⟩ => ?_
  -- The invariant of the loop: the columns of the transforms and of the batches so far are stored.
  have hloop : Ends (fun s' => Stored Q (plan.transforms ++ plan.batches.flatMap Batch.nodes)
      s'.columns ∧ inv plan.batches s'.lists ∧
      Reported Q (plan.batches.flatMap Batch.nodes) s'.report) bad
      (plan.batches.foldlM (runBatch reg records) s) := by
    refine Ends.foldlM (fun pre (s : State) =>
      Stored Q (plan.transforms ++ pre.flatMap Batch.nodes) s.columns ∧ inv pre s.lists ∧
      Reported Q (pre.flatMap Batch.nodes) s.report)
      ⟨by simpa using hs, hlists ▸ h0, hreport ▸ .nil⟩ fun pre b post s hl hinv => ?_
    exact h.runBatch hl hinv.1 hinv.2.1 hinv.2.2
  exact hloop.bind fun s' hs' => hs'.2

end TagRules.Execution
