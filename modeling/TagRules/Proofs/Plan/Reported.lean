import Mathlib.Data.List.Forall2
import TagRules.Plan.Execute
import TagRules.Proofs.Outcome

/-!
# The report on a run

A run reports on every node of a batch how many entries of its column are true.

* `NodeMatch.ofMask`: what is reported on a node with a column.
* `Reported`: a report lists some nodes with what is reported on their columns.
* `Reported.foldl_store`: storing the masks of a batch lists the nodes of the batch.
* `reported_execute`: a run lists the nodes of all batches.
* `Reported.isSome_find?`, `Reported.exists_find?`: what a report says on one of its nodes.
-/

namespace TagRules

/-- What is reported on a node, of the mask that is its column. -/
def NodeMatch.ofMask (n : PlanNode) (mask : List Bool) : NodeMatch :=
  ⟨n.column, n.tag, n.kind, mask.countP id⟩

namespace Execution

open Outcome

variable {Q : PlanNode → Column → Prop} {done : List PlanNode} {reported : List NodeMatch}

/-- **A report lists nodes in order**, each with a column of which `Q` holds. -/
def Reported (Q : PlanNode → Column → Prop) : List PlanNode → List NodeMatch → Prop :=
  List.Forall₂ fun n m => ∃ mask, Q n (.mask mask) ∧ m = .ofMask n mask

/-- **Storing the masks of a batch lists its nodes.** -/
theorem Reported.foldl_store {nodes : List PlanNode} {masks : List (List Bool)}
    (hQ : List.Forall₂ (fun n mask => Q n (.mask mask)) nodes masks) :
    ∀ {done : List PlanNode} {s : State}, Reported Q done s.report →
      Reported Q (done ++ nodes)
        ((nodes.zip masks).foldl (fun s (n, mask) => store s n mask) s).report := by
  induction hQ with
  | nil =>
    intro done s h
    rw [List.append_nil]
    exact h
  | @cons n mask nodes masks hmask _ ih =>
    intro done s h
    have hnew : Reported Q (done ++ [n]) (store s n mask).report :=
      List.rel_append h (.cons ⟨mask, hmask, rfl⟩ .nil)
    have := ih hnew
    rwa [List.append_assoc, List.singleton_append] at this

variable {reg : Registry} {records : RecordSet}

/-- A transform is not reported on. -/
theorem report_runTransform {s s' : State} {n : PlanNode}
    (h : runTransform reg records s n = .ok s') : s'.report = s.report := by
  unfold runTransform at h
  split at h
  · obtain ⟨values, -, h⟩ := bind_eq_ok_iff.1 h
    cases h
    rfl
  · cases h
    rfl

/-- **A run lists the nodes of all batches**, in order. -/
theorem reported_execute (plan : ExecutionPlan) (reg : Registry) (records : RecordSet)
    (lists : List (List String)) :
    Ends (fun out => Reported (fun _ _ => True) (plan.batches.flatMap Batch.nodes) out.2.nodes)
      (fun _ => True) (plan.execute reg records lists) := by
  refine Ends.bind (Ends.foldlM (fun _ (s : State) => s.report = []) rfl fun _ n _ s _ hs => ?_)
    fun s hs => ?_
  · cases h : runTransform reg records s n with
    | ok s' => exact (report_runTransform h).trans hs
    | error e => exact trivial
  refine Ends.bind (Ends.foldlM (fun pre (s : State) =>
    Reported (fun _ _ => True) (pre.flatMap Batch.nodes) s.report) ?_ fun pre b post s _ hs => ?_)
    fun s hs => hs
  · rw [hs]
    exact .nil
  · have hmasks : Ends (List.Forall₂ (fun _ _ => True) b.nodes) (fun _ => True)
        (b.nodes.mapM (evaluateNode reg records s.columns (liveTags b s.lists))) :=
      Ends.mapM fun n _ => by
        cases evaluateNode reg records s.columns (liveTags b s.lists) n <;> trivial
    refine hmasks.bind fun masks hmasks => ?_
    rw [List.flatMap_append, List.flatMap_singleton]
    exact hs.foldl_store hmasks

/-! ### What a report says on a node -/

/-- Every node that is listed is found by its column. -/
theorem Reported.isSome_find? (h : Reported Q done reported) {n : PlanNode} (hn : n ∈ done) :
    (reported.find? (·.column = n.column)).isSome := by
  rw [List.find?_isSome]
  induction h with
  | nil => cases hn
  | @cons m entry _ _ hentry _ ih =>
    rcases List.mem_cons.1 hn with rfl | hn
    · obtain ⟨mask, -, rfl⟩ := hentry
      exact ⟨_, List.mem_cons_self, decide_eq_true rfl⟩
    · obtain ⟨entry', hmem, hcolumn⟩ := ih hn
      exact ⟨entry', List.mem_cons_of_mem _ hmem, hcolumn⟩

/-- **What is found is what is reported on the column**, where a test picks one of the nodes. -/
theorem Reported.exists_find? (h : Reported Q done reported) {n : PlanNode} (hn : n ∈ done)
    (p : NodeMatch → Bool) (hp : ∀ m ∈ done, ∀ mask, p (.ofMask m mask) = true ↔ m = n) :
    ∃ mask, Q n (.mask mask) ∧ reported.find? p = some (.ofMask n mask) := by
  induction h with
  | nil => cases hn
  | @cons m entry _ _ hentry _ ih =>
    obtain ⟨hm, hrest⟩ := List.forall_mem_cons.1 hp
    obtain ⟨mask, hQ, rfl⟩ := hentry
    by_cases hmn : m = n
    · subst hmn
      exact ⟨mask, hQ, List.find?_cons_of_pos ((hm mask).2 rfl)⟩
    · have hnot : ¬p (.ofMask m mask) = true := fun hpm => hmn ((hm mask).1 hpm)
      rw [List.find?_cons_of_neg hnot]
      exact ih ((List.mem_cons.1 hn).resolve_left fun h => hmn h.symm) hrest

end Execution

end TagRules
