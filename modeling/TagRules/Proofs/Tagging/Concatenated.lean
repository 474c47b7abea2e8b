import TagRules.Proofs.Joined
import TagRules.Proofs.Plan.Reported
import TagRules.Proofs.Tagging.Engine

/-!
# Records are tagged independently

A run on the records of two sets, one set after the other, goes step by step with the runs on the
two sets: at every step, each column is that of the first set followed by that of the second.

* `Column.Concat`, `Execution.Concat`: the columns, tag lists and counts of the three runs.
* `Execution.concat_runBatch`, `PlannedEngine.joined_tagDetailed`: a batch, and a whole plan.
* `LinearEngine.joined_run`: a linear run.
* `Engine.tagRecords_append`: **the records of two sets are tagged as each set is alone**, and the
  nodes of a plan match as many records as in both sets together.
-/

namespace TagRules

open Outcome ExecutionPlan

/-! ### Tag lists -/

section

variable {size : Nat}

theorem Parted.addTags {mask mask₁ mask₂ : List Bool} {lists lists₁ lists₂ : List (List String)}
    (hmask : Parted size mask mask₁ mask₂) (hlists : Parted size lists lists₁ lists₂)
    (name : String) :
    Parted size (addTags name mask lists) (addTags name mask₁ lists₁) (addTags name mask₂ lists₂) :=
  hlists.zipWith _ hmask

theorem parted_startLists (a b : RecordSet) (managed : List String) (removeOldTags : Bool) :
    Parted a.length (startLists (a ++ b) managed removeOldTags)
      (startLists a managed removeOldTags) (startLists b managed removeOldTags) := by
  rw [startLists_eq, startLists_eq, startLists_eq]
  exact parted_map _ a b

end

/-! ### Planned runs -/

/-- A column over two record sets, the first of a known size. -/
inductive Column.Concat (size : Nat) : Column → Column → Column → Prop
  | mask {m m₁ m₂ : List Bool} : Parted size m m₁ m₂ → Concat size (.mask m) (.mask m₁) (.mask m₂)
  | values {v v₁ v₂ : List Value} :
    Parted size v v₁ v₂ → Concat size (.values v) (.values v₁) (.values v₂)

/-- A node in three runs, which matches as many records in the first run as in the other two. -/
def NodeMatch.IsSum (n n₁ n₂ : NodeMatch) : Prop :=
  n₁ = { n with count := n₁.count } ∧ n₂ = { n with count := n₂.count } ∧
    n.count = n₁.count + n₂.count

namespace Execution

/-- A numbered column in three runs. -/
def ConcatColumn (size : Nat) (e e₁ e₂ : Alias × Column) : Prop :=
  e.1 = e₁.1 ∧ e.1 = e₂.1 ∧ e.2.Concat size e₁.2 e₂.2

/-- **A run on two record sets, and the runs on each of them**, after the same steps. -/
structure Concat (size : Nat) (s s₁ s₂ : State) : Prop where
  columns : Threefold (ConcatColumn size) s.columns s₁.columns s₂.columns
  lists : Parted size s.lists s₁.lists s₂.lists
  report : Threefold NodeMatch.IsSum s.report s₁.report s₂.report

variable {reg : Registry} {a b : RecordSet} {size : Nat}
  {columns columns₁ columns₂ : List (Alias × Column)} {s s₁ s₂ : State}

/-- A column is there in all three runs or in none. -/
theorem lookup_concat (h : Threefold (ConcatColumn size) columns columns₁ columns₂) (i : Alias) :
    (columns.lookup i = none ∧ columns₁.lookup i = none ∧ columns₂.lookup i = none) ∨
      ∃ c c₁ c₂, columns.lookup i = some c ∧ columns₁.lookup i = some c₁ ∧
        columns₂.lookup i = some c₂ ∧ c.Concat size c₁ c₂ := by
  induction h with
  | nil => exact .inl ⟨rfl, rfl, rfl⟩
  | @cons e e₁ e₂ _ _ _ he _ ih =>
    obtain ⟨j, c⟩ := e
    obtain ⟨j₁, c₁⟩ := e₁
    obtain ⟨j₂, c₂⟩ := e₂
    obtain ⟨h₁, h₂, hc⟩ := he
    cases h₁
    cases h₂
    by_cases hij : i = j
    · subst hij
      rw [List.lookup_cons_self, List.lookup_cons_self, List.lookup_cons_self]
      exact .inr ⟨c, c₁, c₂, rfl, rfl, rfl, hc⟩
    · have hbeq : (i == j) = false := beq_eq_false_iff_ne.2 hij
      rw [List.lookup_cons, List.lookup_cons, List.lookup_cons, hbeq]
      exact ih

theorem joined_maskOf (h : Threefold (ConcatColumn size) columns columns₁ columns₂) (i : Alias) :
    Joined (Parted size) (maskOf columns i) (maskOf columns₁ i) (maskOf columns₂ i) := by
  unfold maskOf
  rcases lookup_concat h i with ⟨hc, hc₁, hc₂⟩ | ⟨c, c₁, c₂, hc, hc₁, hc₂, hcolumn⟩
  · rw [hc, hc₁, hc₂]
    exact .first _ _ _
  · rw [hc, hc₁, hc₂]
    cases hcolumn with
    | mask hm => exact .ok hm
    | values _ => exact .first _ _ _

theorem joined_valuesOf (h : Threefold (ConcatColumn size) columns columns₁ columns₂) (i : Alias) :
    Joined (Parted size) (valuesOf columns i) (valuesOf columns₁ i) (valuesOf columns₂ i) := by
  unfold valuesOf
  rcases lookup_concat h i with ⟨hc, hc₁, hc₂⟩ | ⟨c, c₁, c₂, hc, hc₁, hc₂, hcolumn⟩
  · rw [hc, hc₁, hc₂]
    exact .first _ _ _
  · rw [hc, hc₁, hc₂]
    cases hcolumn with
    | mask _ => exact .first _ _ _
    | values hv => exact .ok hv

theorem joined_combine (h : Threefold (ConcatColumn a.length) columns columns₁ columns₂)
    (all : Bool) (inputs : List Alias) :
    Joined (Parted a.length) (combine (a ++ b) columns all inputs) (combine a columns₁ all inputs)
      (combine b columns₂ all inputs) := by
  refine Joined.foldlM (parted_map _ a b) fun i acc acc₁ acc₂ hacc => ?_
  exact (joined_maskOf h i).bind fun _ _ _ hmask => .ok (hacc.zipWith _ hmask)

/-- The tag lists that the nodes of a batch read, in three runs. -/
inductive ConcatLive (size : Nat) : Option (List Value) → Option (List Value) →
    Option (List Value) → Prop
  | none : ConcatLive size none none none
  | some {v v₁ v₂ : List Value} :
    Parted size v v₁ v₂ → ConcatLive size (some v) (some v₁) (some v₂)

theorem concat_liveTags (batch : Batch) {lists lists₁ lists₂ : List (List String)}
    (h : Parted size lists lists₁ lists₂) :
    ConcatLive size (liveTags batch lists) (liveTags batch lists₁) (liveTags batch lists₂) := by
  obtain ⟨rfl, rfl⟩ := h
  unfold liveTags
  split
  · exact .some (parted_map _ lists₁ lists₂)
  · exact .none

variable {live live₁ live₂ : Option (List Value)}

theorem joined_evaluateCondition
    (h : Threefold (ConcatColumn a.length) columns columns₁ columns₂)
    (hlive : ConcatLive a.length live live₁ live₂) (c : Condition) (input : Option Alias) :
    Joined (Parted a.length) (evaluateCondition reg (a ++ b) columns live c input)
      (evaluateCondition reg a columns₁ live₁ c input)
      (evaluateCondition reg b columns₂ live₂ c input) := by
  refine (Joined.same (liftEval (reg.resolvePredicate c))).bind ?_
  rintro predicate _ _ ⟨rfl, rfl⟩
  cases input with
  | some i =>
    exact (joined_valuesOf h i).bind fun _ _ _ hvalues =>
      (hvalues.joined_mapM predicate.test).mapError TaggingError.eval
  | none =>
    show Joined _ (ite _ _ _) (ite _ _ _) (ite _ _ _)
    split
    · cases hlive with
      | none => exact .first _ _ _
      | some hvalues => exact (hvalues.joined_mapM _).mapError TaggingError.eval
    · exact ((parted_map (·.get c.field) a b).joined_mapM _).mapError TaggingError.eval

theorem joined_evaluateNode (h : Threefold (ConcatColumn a.length) columns columns₁ columns₂)
    (hlive : ConcatLive a.length live live₁ live₂) (n : PlanNode) :
    Joined (Parted a.length) (evaluateNode reg (a ++ b) columns live n)
      (evaluateNode reg a columns₁ live₁ n) (evaluateNode reg b columns₂ live₂ n) := by
  unfold evaluateNode
  cases n.op with
  | transform field key => exact .first _ _ _
  | condition c input => exact joined_evaluateCondition h hlive c input
  | custom key =>
    refine (Joined.same (liftEval (reg.resolveCustom key))).bind ?_
    rintro f _ _ ⟨rfl, rfl⟩
    exact (joined_mapM_append f a b).mapError TaggingError.eval
  | conjunction inputs => exact joined_combine h true inputs
  | disjunction inputs => exact joined_combine h false inputs
  | apply tag input => exact joined_maskOf h input

theorem Concat.store {mask mask₁ mask₂ : List Bool} (h : Concat size s s₁ s₂)
    (hmask : Parted size mask mask₁ mask₂) (n : PlanNode) :
    Concat size (store s n mask) (store s₁ n mask₁) (store s₂ n mask₂) where
  columns := .cons ⟨rfl, rfl, .mask hmask⟩ h.columns
  lists := by
    unfold Execution.store
    cases n.op with
    | apply tag _ => exact hmask.addTags h.lists tag
    | _ => exact h.lists
  report := by
    obtain ⟨rfl, -⟩ := hmask
    exact h.report.append (.cons ⟨rfl, rfl, List.countP_append⟩ .nil)

theorem Concat.foldl_store {masks masks₁ masks₂ : List (List Bool)} (h : Concat size s s₁ s₂)
    (hmasks : Threefold (Parted size) masks masks₁ masks₂) (nodes : List PlanNode) :
    Concat size ((nodes.zip masks).foldl (fun s (n, mask) => Execution.store s n mask) s)
      ((nodes.zip masks₁).foldl (fun s (n, mask) => Execution.store s n mask) s₁)
      ((nodes.zip masks₂).foldl (fun s (n, mask) => Execution.store s n mask) s₂) := by
  induction hmasks generalizing nodes s s₁ s₂ with
  | nil =>
    rw [List.zip_nil_right]
    exact h
  | cons hmask _ ih =>
    cases nodes with
    | nil => exact h
    | cons n nodes => exact ih (h.store hmask n) nodes

/-- **A batch goes alike in the three runs.** -/
theorem concat_runBatch (h : Concat a.length s s₁ s₂) (batch : Batch) :
    Joined (Concat a.length) (runBatch reg (a ++ b) s batch) (runBatch reg a s₁ batch)
      (runBatch reg b s₂ batch) :=
  (Joined.mapM (joined_evaluateNode h.columns (concat_liveTags batch h.lists))).bind
    fun _ _ _ hmasks => .ok (h.foldl_store hmasks batch.nodes)

theorem concat_runTransform (h : Concat a.length s s₁ s₂) (n : PlanNode) :
    Joined (Concat a.length) (runTransform reg (a ++ b) s n) (runTransform reg a s₁ n)
      (runTransform reg b s₂ n) := by
  unfold runTransform
  split
  · rename_i field key _
    have hvalues := ((parted_map (·.get field) a b).joined_mapM
      (reg.applyTransform (some key))).mapError TaggingError.eval
    exact hvalues.bind fun _ _ _ hvalues =>
      .ok ⟨.cons ⟨rfl, rfl, .values hvalues⟩ h.columns, h.lists, h.report⟩
  · exact .ok h

end Execution

/-- The report on a run, and the reports on the two parts of its records. -/
def PlanReport.IsSum (r r₁ r₂ : PlanReport) : Prop :=
  Threefold NodeMatch.IsSum r.nodes r₁.nodes r₂.nodes

/-- **A node matches as many records as in both parts.** -/
theorem PlanReport.IsSum.count?_eq {r r₁ r₂ : PlanReport} (h : r.IsSum r₁ r₂) (i : Alias) :
    r.count? i = Option.map₂ (· + ·) (r₁.count? i) (r₂.count? i) := by
  obtain ⟨nodes, _, _⟩ := r
  obtain ⟨nodes₁, _, _⟩ := r₁
  obtain ⟨nodes₂, _, _⟩ := r₂
  unfold PlanReport.IsSum at h
  unfold count?
  simp only at h ⊢
  induction h with
  | nil => rfl
  | @cons n n₁ n₂ _ _ _ hn _ ih =>
    obtain ⟨h₁, h₂, hcount⟩ := hn
    have hcolumn₁ : n₁.column = n.column := by rw [h₁]
    have hcolumn₂ : n₂.column = n.column := by rw [h₂]
    rw [List.find?_cons, List.find?_cons, List.find?_cons, hcolumn₁, hcolumn₂]
    cases decide (n.column = i) with
    | true => exact congrArg some hcount
    | false => exact ih

/-- **A plan goes alike in the three runs.** -/
theorem ExecutionPlan.joined_execute (plan : ExecutionPlan) (reg : Registry) {a b : RecordSet}
    {lists lists₁ lists₂ : List (List String)} (h : Parted a.length lists lists₁ lists₂) :
    Joined (fun x y z => Parted a.length x.1 y.1 z.1 ∧ x.2.IsSum y.2 z.2)
      (plan.execute reg (a ++ b) lists) (plan.execute reg a lists₁)
      (plan.execute reg b lists₂) := by
  have hstart : Execution.Concat a.length ⟨[], lists, []⟩ ⟨[], lists₁, []⟩ ⟨[], lists₂, []⟩ :=
    ⟨.nil, h, .nil⟩
  refine (Joined.foldlM hstart fun n _ _ _ hs => Execution.concat_runTransform hs n).bind ?_
  intro s s₁ s₂ hs
  refine (Joined.foldlM hs fun batch _ _ _ hs => Execution.concat_runBatch hs batch).bind ?_
  exact fun _ _ _ hs => .ok ⟨hs.lists, hs.report⟩

theorem Parted.withTagLists {a b : RecordSet} {lists lists₁ lists₂ : List (List String)}
    (h : Parted a.length lists lists₁ lists₂) :
    (a ++ b).withTagLists lists = a.withTagLists lists₁ ++ b.withTagLists lists₂ := by
  obtain ⟨rfl, hlength⟩ := h
  exact List.zipWith_append hlength.symm

/-- **A planned run on two record sets**, and the runs on each of them. -/
theorem PlannedEngine.joined_tagDetailed (engine : PlannedEngine) (a b : RecordSet) :
    Joined (fun x y z => x.1 = y.1 ++ z.1 ∧ x.2.IsSum y.2 z.2) (engine.tagDetailed (a ++ b))
      (engine.tagDetailed a) (engine.tagDetailed b) := by
  have hstart := parted_startLists a b engine.plan.tags engine.options.removeOldTags
  refine (engine.plan.joined_execute engine.registry hstart).bind ?_
  exact fun _ _ _ h => .ok ⟨h.1.withTagLists, h.2⟩

/-! ### Linear runs -/

namespace LinearEngine

variable {a b : RecordSet} {lists lists₁ lists₂ : List (List String)}

/-- The results of a tag in three runs. -/
def PartedRow {β : Type} (size : Nat) (x x₁ x₂ : Entry × List β) : Prop :=
  x.1 = x₁.1 ∧ x.1 = x₂.1 ∧ Parted size x.2 x₁.2 x₂.2

theorem parted_foldl_addTags {β : Type} {size : Nat} (outcome : β → Bool)
    {rows rows₁ rows₂ : List (Entry × List β)} (h : Threefold (PartedRow size) rows rows₁ rows₂)
    (hlists : Parted size lists lists₁ lists₂) :
    Parted size
      (rows.foldl (fun lists (e, row) => addTags e.name (row.map outcome) lists) lists)
      (rows₁.foldl (fun lists (e, row) => addTags e.name (row.map outcome) lists) lists₁)
      (rows₂.foldl (fun lists (e, row) => addTags e.name (row.map outcome) lists) lists₂) := by
  induction h generalizing lists lists₁ lists₂ with
  | nil => exact hlists
  | @cons x x₁ x₂ _ _ _ hx _ ih =>
    obtain ⟨e, row⟩ := x
    obtain ⟨_, row₁⟩ := x₁
    obtain ⟨_, row₂⟩ := x₂
    obtain ⟨rfl, rfl, hrow⟩ := hx
    exact ih ((hrow.map outcome).addTags hlists e.name)

/-- **A level goes alike in the three runs.** -/
theorem joined_runLevel {β : Type} (f : Record → Resolved → Except EvalError β) (outcome : β → Bool)
    (h : Parted a.length lists lists₁ lists₂) (level : List Entry) :
    Joined (fun x y z => Parted a.length x.1 y.1 z.1) (runLevel f outcome (a ++ b) lists level)
      (runLevel f outcome a lists₁ level) (runLevel f outcome b lists₂ level) := by
  have hworking : Parted a.length ((a ++ b).withTagLists lists) (a.withTagLists lists₁)
      (b.withTagLists lists₂) := Parted.zipWith Record.withTags ⟨rfl, rfl⟩ h
  unfold runLevel
  refine (Joined.mapM (R := PartedRow a.length) fun e => ?_).bind fun _ _ _ hrows =>
    .ok (parted_foldl_addTags outcome hrows h)
  exact (hworking.joined_mapM fun r => f r e.rule).bind fun _ _ _ hrow => .ok ⟨rfl, rfl, hrow⟩

theorem joined_runLevels {β : Type} (f : Record → Resolved → Except EvalError β)
    (outcome : β → Bool) (h : Parted a.length lists lists₁ lists₂) (levels : List (List Entry)) :
    Joined (fun x y z => Parted a.length x.1 y.1 z.1) (runLevels f outcome (a ++ b) lists levels)
      (runLevels f outcome a lists₁ levels) (runLevels f outcome b lists₂ levels) := by
  induction levels generalizing lists lists₁ lists₂ with
  | nil => exact .ok h
  | cons level levels ih =>
    refine (joined_runLevel f outcome h level).bind fun _ _ _ hlevel => ?_
    exact (ih hlevel).bind fun _ _ _ hrest => .ok hrest

/-- **A linear run on two record sets**, and the runs on each of them. -/
theorem joined_run {β : Type} (f : Record → Resolved → Except EvalError β) (outcome : β → Bool)
    (engine : LinearEngine) (a b : RecordSet) :
    Joined (fun x y z => x.1 = y.1 ++ z.1) (run f outcome engine (a ++ b)) (run f outcome engine a)
      (run f outcome engine b) := by
  unfold run
  refine (Joined.same _).bind ?_
  rintro rules _ _ ⟨rfl, rfl⟩
  have hstart := parted_startLists a b engine.tags.names engine.options.removeOldTags
  exact ((joined_runLevels f outcome hstart _).mapError TaggingError.eval).bind
    fun _ _ _ h => .ok h.withTagLists

end LinearEngine

/-! ### Engines -/

/-- A run on two record sets with either engine. -/
theorem Engine.joined_tagRecords (engine : Engine) (a b : RecordSet) :
    Joined (fun out outA outB => out = outA ++ outB) (engine.tagRecords (a ++ b))
      (engine.tagRecords a) (engine.tagRecords b) := by
  cases engine with
  | linear engine =>
    exact (LinearEngine.joined_run Resolved.evaluate id engine a b).map fun _ _ _ h => h
  | planned engine => exact (engine.joined_tagDetailed a b).map fun _ _ _ h => h.1

/-- A plan reports on every node of its batches. -/
theorem PlannedEngine.isSome_count? {engine : PlannedEngine} {records out : RecordSet}
    {report : PlanReport} (h : engine.tagDetailed records = .ok (out, report)) {n : PlanNode}
    (hn : n ∈ engine.plan.batches.flatMap Batch.nodes) : (report.count? n.column).isSome := by
  obtain ⟨⟨lists, report'⟩, hrun, h⟩ := bind_eq_ok_iff.1 h
  cases h
  rw [PlanReport.count?, Option.isSome_map]
  exact ((Execution.reported_execute _ _ _ _).ok hrun).isSome_find? hn

/-- **The records of two sets are tagged as each set is alone**: an engine succeeds on both sets
together just when it does on each of them, and then it gives the records of one after those of the
other. Every node of a plan is reported on, and matches as many records as in both sets. -/
theorem Engine.tagRecords_append (engine : Engine) (a b : RecordSet) :
    (∀ out, engine.tagRecords (a ++ b) = .ok out ↔ ∃ outA outB, engine.tagRecords a = .ok outA ∧
      engine.tagRecords b = .ok outB ∧ out = outA ++ outB) ∧
    ∀ planned, engine = .planned planned → ∀ outA reportA outB reportB,
      planned.tagDetailed a = .ok (outA, reportA) → planned.tagDetailed b = .ok (outB, reportB) →
      ∃ report, planned.tagDetailed (a ++ b) = .ok (outA ++ outB, report) ∧
        (∀ column, report.count? column =
          Option.map₂ (· + ·) (reportA.count? column) (reportB.count? column)) ∧
        ∀ n ∈ planned.plan.batches.flatMap Batch.nodes, (report.count? n.column).isSome := by
  refine ⟨fun out => ⟨fun h => (engine.joined_tagRecords a b).of_whole h, ?_⟩, ?_⟩
  · rintro ⟨outA, outB, hA, hB, rfl⟩
    obtain ⟨out, hout, rfl⟩ := (engine.joined_tagRecords a b).of_parts hA hB
    exact hout
  · rintro planned rfl outA reportA outB reportB hA hB
    obtain ⟨⟨out, report⟩, hout, rfl, hreport⟩ := (planned.joined_tagDetailed a b).of_parts hA hB
    exact ⟨report, hout, hreport.count?_eq, fun n hn => planned.isSome_count? hout hn⟩

/-- The tag of citizens, who are adults with a vote. -/
def citizenTag : Tag where
  name := "citizen"
  rule := .any [.all [.fieldIn "vote" [.bool true], .tagged "adult"]]
  name_ne := by decide
  canonical := by decide +kernel

/-- Adults and citizens, in the order of their levels. -/
def civicTags : TagSet := ⟨[adultTag, citizenTag], by decide⟩

/-- An adult with a vote. -/
def electorate : RecordSet := [(Record.empty.insert "age" (.int 18)).insert "vote" (.bool true)]

/-- An adult without a vote, and a child. -/
def others : RecordSet := [Record.empty.insert "age" (.int 40), Record.empty.insert "age" (.int 5)]

theorem Engine.tagRecords_append_civicTags : ∃ planned outA reportA outB reportB,
    PlannedEngine.make civicTags .standard .optimized ⟨true⟩ = .ok planned ∧
    planned.tagDetailed electorate = .ok (outA, reportA) ∧
    planned.tagDetailed others = .ok (outB, reportB) ∧
    ∃ report, planned.tagDetailed (electorate ++ others) = .ok (outA ++ outB, report) ∧
      (∀ column, report.count? column =
        Option.map₂ (· + ·) (reportA.count? column) (reportB.count? column)) ∧
      ∀ n ∈ planned.plan.batches.flatMap Batch.nodes, (report.count? n.column).isSome := by
  obtain ⟨plan, hplan, ⟨⟨outA, reportA⟩, hA⟩, ⟨outB, reportB⟩, hB⟩ : ∃ plan,
      build civicTags .optimized = .ok plan ∧
      (∃ out, PlannedEngine.tagDetailed ⟨plan, .standard, ⟨true⟩⟩ electorate = .ok out) ∧
      ∃ out, PlannedEngine.tagDetailed ⟨plan, .standard, ⟨true⟩⟩ others = .ok out := by
    refine ⟨_, rfl, ?_⟩
    -- The sort does not reduce, but there is nothing to sort.
    rw [batchesOf_eq, prioritiesOf, List.mergeSort_of_pairwise (by decide)]
    exact ⟨⟨_, rfl⟩, _, rfl⟩
  refine ⟨⟨plan, .standard, ⟨true⟩⟩, outA, reportA, outB, reportB, ?_, hA, hB,
    (Engine.tagRecords_append (.planned ⟨plan, .standard, ⟨true⟩⟩) electorate others).2 _ rfl outA
      reportA outB reportB hA hB⟩
  rw [PlannedEngine.make, hplan]
  rfl

end TagRules
