import TagRules.Proofs.Tagging.Concatenated
import TagRules.Proofs.Tagging.Observed

/-!
# Planned reports and match reports

The report of a planned run counts columns, and the match reports of a linear run count nodes of
rules. Both count the records on which a rule holds at the level of its tag.

* `Flatten.appliesOwn_ofTags`: an application is made for the tag that it applies.
* `Realizes.exists_application`: the application of a tag has the truth value of its rule.
* `WellFormed.eq_of_apply`: a tag is applied once.
* `count?_eq`, `applied_eq`: what the report of a planned run says on a node and on a tag.
* `PlannedEngine.report_agree`: planned reports agree with match reports.
-/

namespace TagRules

open Outcome Execution ExecutionPlan

/-! ### Applications -/

/-- A node that applies a tag is made for this tag. -/
def PlanNode.AppliesOwn (n : PlanNode) : Prop := ∀ tag input, n.op = .apply tag input → n.tag = tag

/-- **An application is made for the tag that it applies.** -/
theorem Flatten.appliesOwn_ofTags {table : TransformTable} {ranked : List (Tag × Nat)} :
    ∀ {first : Nat} {nodes : List PlanNode}, ofTags table first ranked = .ok nodes →
      ∀ n ∈ nodes, n.AppliesOwn := by
  induction ranked with
  | nil =>
    intro first nodes h
    cases h
    exact fun n hn => absurd hn List.not_mem_nil
  | cons e ranked ih =>
    obtain ⟨t, level⟩ := e
    intro first nodes h n hn tag input hop
    obtain ⟨head, tail, hhead, htail, rfl⟩ := ofTags_cons_ok h
    rcases List.mem_append.1 hn with hn | hn
    · obtain ⟨alternatives, body, inputs, -, hbody, rfl⟩ := ofRule_ok hhead
      rcases List.mem_append.1 hn with hn | hn
      · have hnone := List.filterMap_eq_nil_iff.1 (applications_ofAlternatives hbody) n hn
        rw [PlanNode.application?, hop] at hnone
        cases hnone
      · obtain ⟨k, op, hk, rfl⟩ := mem_number.1 hn
        have hmem := List.mem_of_getElem? hk
        simp only [List.mem_cons, List.not_mem_nil, or_false] at hmem
        rcases hmem with rfl | rfl
        · cases hop
        · cases hop
          rfl
    · exact ih htail n hn tag input hop

/-- Applications keep their tags when a plan is optimised. -/
theorem Optimize.appliesOwn_run {planner : PlannerOptions} {nodes : List PlanNode}
    (h : ∀ n ∈ nodes, n.AppliesOwn) : ∀ n ∈ run planner nodes, n.AppliesOwn := by
  have hredirect : ∀ (n : PlanNode) f, n.AppliesOwn →
      PlanNode.AppliesOwn { n with op := n.op.redirect f } := by
    intro n f hn tag input hop
    cases hkept : n.op <;> simp only [hkept, NodeOp.redirect] at hop <;> cases hop
    exact hn _ _ hkept
  exact forall_mem_run hredirect (fun _ _ hn => hn) h

/-- **The application of a tag has the truth value of its rule**, on every record at the level of
the tag. -/
theorem Realizes.exists_application {c : Course} {hreg : c.registry.IgnoresTags}
    {table : TransformTable} {nodes : List PlanNode} {value : Record → Alias → Bool}
    (h : Realizes c hreg table nodes value) {e : Tag × Nat} (he : e ∈ c.ranked) :
    ∃ n ∈ nodes, (∃ input, n.op = .apply e.1.name input) ∧
      ∀ r, value r n.column = e.1.rule.holds c.registry (c.view e.2 r) := by
  obtain ⟨i, hi⟩ := List.getElem?_of_mem he
  have hget : ∀ r, ((nodes.filterMap PlanNode.application?)[i]?).map
      (Flatten.appliedValue (value r)) =
      some (e.1.name, e.2, e.1.rule.holds c.registry (c.view e.2 r)) := by
    intro r
    rw [← List.getElem?_map, h.applications r, List.getElem?_map, hi]
    rfl
  obtain ⟨a, ha, hvalue⟩ := Option.map_eq_some_iff.1 (hget .empty)
  obtain ⟨n, hn, happly⟩ := List.mem_filterMap.1 (List.mem_of_getElem? ha)
  obtain ⟨tag, input, hop, rfl⟩ := PlanNode.application?_eq_some_iff.1 happly
  obtain ⟨rfl, -⟩ := Prod.mk.inj hvalue
  refine ⟨n, hn, ⟨input, hop⟩, fun r => ?_⟩
  have hr := hget r
  rw [ha, Option.map_some] at hr
  exact (Prod.mk.inj (Prod.mk.inj (Option.some.inj hr)).2).2

/-- **A tag is applied once.** -/
theorem ExecutionPlan.WellFormed.eq_of_apply {tags : TagSet} {plan : ExecutionPlan}
    (h : plan.WellFormed tags) {n m : PlanNode} (hn : n ∈ plan.nodes) (hm : m ∈ plan.nodes)
    {tag : String} {a b : Alias} (hop : n.op = .apply tag a) (hop' : m.op = .apply tag b) :
    n = m := by
  have hnodup : ((plan.nodes.filterMap PlanNode.application?).map Prod.fst).Nodup :=
    (h.applications.nodup_iff).2 tags.nodup
  have hmem : ∀ {k : PlanNode} {input : Alias}, k ∈ plan.nodes → k.op = .apply tag input →
      (tag, k.level, k.column) ∈ plan.nodes.filterMap PlanNode.application? :=
    fun hk hop => List.mem_filterMap.2 ⟨_, hk, PlanNode.application?_eq_some_iff.2 ⟨_, _, hop, rfl⟩⟩
  have hsame := List.inj_on_of_nodup_map hnodup (hmem hn hop) (hmem hm hop') rfl
  simp only [Prod.mk.injEq] at hsame
  exact List.inj_on_of_nodup_map h.columns hn hm hsame.2.2

/-! ### Reports of planned runs -/

namespace PlanReport

variable {c : Course} {records : RecordSet} {value : Record → Alias → Bool} {plan : ExecutionPlan}
  {report : PlanReport} {n : PlanNode}

/-- What is reported on a node is the number of records on which its column is true. -/
theorem count_ofMask {mask : List Bool} (h : c.Fills records value n (.mask mask)) :
    (NodeMatch.ofMask n mask).count = records.countP fun r => value r n.column := by
  show mask.countP id = _
  rw [h.2.1, List.countP_map]
  rfl

/-- **The count of a column.** -/
theorem count?_eq (hnodup : (plan.nodes.map PlanNode.column).Nodup)
    (h : Reported (c.Fills records value) (plan.batches.flatMap Batch.nodes) report.nodes)
    (hn : n ∈ plan.batches.flatMap Batch.nodes) :
    report.count? n.column = some (records.countP fun r => value r n.column) := by
  have hbatches : ((plan.batches.flatMap Batch.nodes).map PlanNode.column).Nodup := by
    rw [ExecutionPlan.nodes, List.map_append] at hnodup
    exact (List.nodup_append.1 hnodup).2.1
  have hpick : ∀ m ∈ plan.batches.flatMap Batch.nodes, ∀ mask,
      decide ((NodeMatch.ofMask m mask).column = n.column) = true ↔ m = n := by
    intro m hm mask
    rw [decide_eq_true_eq]
    refine ⟨fun hcolumn => List.inj_on_of_nodup_map hbatches hm hn hcolumn, ?_⟩
    rintro rfl
    rfl
  obtain ⟨mask, hfills, hfind⟩ := h.exists_find? hn (·.column = n.column) hpick
  rw [count?, hfind, Option.map_some, count_ofMask hfills]

/-- **The count of a tag** is that of the column of its application. -/
theorem applied_eq {tags : TagSet} (hplan : plan.WellFormed tags)
    (hown : ∀ m ∈ plan.batches.flatMap Batch.nodes, m.AppliesOwn)
    (h : Reported (c.Fills records value) (plan.batches.flatMap Batch.nodes) report.nodes)
    (hn : n ∈ plan.batches.flatMap Batch.nodes) {tag : String} {input : Alias}
    (hop : n.op = .apply tag input) :
    report.applied tag = records.countP fun r => value r n.column := by
  have hpick : ∀ m ∈ plan.batches.flatMap Batch.nodes, ∀ mask,
      ((NodeMatch.ofMask m mask).kind = .application && (NodeMatch.ofMask m mask).tag = tag) = true ↔
        m = n := by
    intro m hm mask
    rw [Bool.and_eq_true, decide_eq_true_eq, decide_eq_true_eq]
    constructor
    · rintro ⟨hkind, htag⟩
      obtain ⟨tag', input', hop'⟩ := PlanNode.exists_apply hkind
      have htag' : tag' = tag := (hown m hm tag' input' hop').symm.trans htag
      rw [htag'] at hop'
      exact hplan.eq_of_apply (List.mem_append_right _ hm) (List.mem_append_right _ hn) hop' hop
    · rintro rfl
      refine ⟨?_, hown m hn tag input hop⟩
      show m.op.kind = .application
      rw [hop]
      rfl
  obtain ⟨mask, hfills, hfind⟩ := h.exists_find? hn
    (fun m => m.kind = .application && m.tag = tag) hpick
  rw [applied, hfind, Option.map_some, Option.getD_some, count_ofMask hfills]

end PlanReport

/-! ### Agreement -/

namespace PlannedEngine

variable {tags : TagSet} {reg : Registry} {planner : PlannerOptions} {options : TaggingOptions}
  {planned : PlannedEngine} {linear : LinearEngine} {records out out' : RecordSet}
  {report : PlanReport} {reports : List (String × MatchReport)}

/-- **Planned reports agree with match reports**, on any records on which both engines succeed. A tag
is applied as often as the match report counts the root of its rule; where old tags were removed,
so many records carry the tag in the end. Without optimisation, there is a node of the plan for every
node of the rule, and its count is that of the match report. -/
theorem report_agree (hreg : reg.IgnoresTags)
    (hplanned : make tags reg planner options = .ok planned)
    (hlinear : LinearEngine.make tags reg options = .ok linear)
    (hrun : planned.tagDetailed records = .ok (out, report))
    (hmatch : linear.matchReports records = .ok (out', reports)) {t : Tag} (ht : t ∈ tags.tags) :
    ∃ m, reports.lookup t.name = some m ∧ report.applied t.name = m.matchCount [] ∧
      (options.removeOldTags = true → report.applied t.name = out.countP (·.hasTag t.name)) ∧
      (planner.collapseSingleChild = false → planner.deduplicate = false →
        ∃ root, (∃ n ∈ planned.plan.nodes, n.op = .apply t.name root) ∧
          ∀ path s, t.rule.atPath path = some s → ∃ n,
            nodeAt planned.plan.nodes root path = some n ∧ n.tag = t.name ∧ n.op.Computes s ∧
            report.count? n.column = some (m.matchCount path)) := by
  obtain ⟨hvalid, plan, hplan, rfl⟩ := make_ok hplanned
  have hwf := wellFormed_of_build hplan
  obtain ⟨levels, nodes, hlevels, hnodes, hparts⟩ := build_ok hplan
  obtain ⟨-, levels', hlevels', rfl⟩ := LinearEngine.make_ok hlinear
  cases (levels_removeCycles hlevels).symm.trans hlevels'
  have hlength := length_levels hlevels
  have hheight : ∀ level ∈ levels, level < LinearEngine.levelCount levels :=
    fun level hlevel => LinearEngine.lt_levelCount hlevel
  obtain ⟨e, he, rfl⟩ : ∃ e ∈ (tags.course reg options levels).ranked, e.1 = t :=
    TagSet.exists_mem_ranked hlength ht
  -- Both runs go through the same course.
  obtain ⟨value, hrealizes⟩ : ∃ value, Realizes (tags.course reg options levels) hreg
      (tableOf tags planner) (Optimize.run planner nodes) value :=
    realizes_of_build hreg hlength hnodes
  obtain ⟨hout, hreported, -⟩ : out = _ ∧ _ ∧ _ :=
    (ends_tagDetailed hrealizes hvalid hparts hwf.columns hheight records).ok hrun
  obtain ⟨-, hmatched⟩ := LinearEngine.matchReports_ok hvalid hlength hheight hmatch
  obtain ⟨m, hlookup, hcounts⟩ := hmatched e he
  have hbatched : ∀ n, n ∈ plan.batches.flatMap Batch.nodes ↔ n ∈ Optimize.run planner nodes := by
    rw [hparts]
    exact fun n => (perm_flatMap_batchesOf _).mem_iff
  have hown : ∀ n ∈ plan.batches.flatMap Batch.nodes, n.AppliesOwn := fun n hn =>
    Optimize.appliesOwn_run (Flatten.appliesOwn_ofTags hnodes) n ((hbatched n).1 hn)
  obtain ⟨n, hn, ⟨input, hop⟩, hvalue⟩ := hrealizes.exists_application he
  have happlied := PlanReport.applied_eq hwf hown hreported ((hbatched n).2 hn) hop
  simp only [hvalue] at happlied
  refine ⟨m, hlookup, happlied.trans (hcounts [] _ rfl).symm, fun hremove => ?_,
    fun hcollapse hdeduplicate => ?_⟩
  · rw [happlied, hout, List.countP_map]
    refine List.countP_congr fun r _ => ?_
    show _ ↔ ((tags.course reg options levels).view _ r).hasTag e.1.name = true
    rw [Record.hasTag, Course.tags_view, List.contains_iff_mem]
    exact (mem_tagsAt_iff_holds hremove hlength he (hheight _ (List.of_mem_zip he).2) r).symm
  · rw [Optimize.run_eq_self hcollapse hdeduplicate] at hrealizes hbatched
    have hsub : ∀ n ∈ nodes, n ∈ plan.nodes :=
      fun n hn => List.mem_append_right _ ((hbatched n).2 hn)
    obtain ⟨root, hroot, happly⟩ := Flatten.flattenedTo_ofTags hnodes (fun _ hn => hn) e he
    refine ⟨root, ⟨_, hsub _ happly, rfl⟩, fun path s hs => ?_⟩
    obtain ⟨k, hk, hpath, htag, -, hcomputes, hflat⟩ := hroot.exists_nodeAt hwf.columns hsub hs
    refine ⟨k, hpath, htag, hcomputes, ?_⟩
    rw [PlanReport.count?_eq hwf.columns hreported ((hbatched k).2 hk), hcounts path s hs]
    refine congrArg some (List.countP_congr fun r _ => ?_)
    rw [hflat.value_eq (hrealizes.consistent r)]
    exact Iff.rfl

theorem report_agree_civicTags : ∃ planned linear out out' report reports,
    make civicTags namedRegistry ⟨true, false, false, true⟩ ⟨true⟩ = .ok planned ∧
    LinearEngine.make civicTags namedRegistry ⟨true⟩ = .ok linear ∧
    planned.tagDetailed electorate = .ok (out, report) ∧
    linear.matchReports electorate = .ok (out', reports) ∧
    ∃ m, reports.lookup "citizen" = some m ∧ report.applied "citizen" = m.matchCount [] ∧
      report.applied "citizen" = out.countP (·.hasTag "citizen") ∧
      ∃ root, (∃ n ∈ planned.plan.nodes, n.op = .apply "citizen" root) ∧
        ∀ path s, citizenTag.rule.atPath path = some s → ∃ n,
          nodeAt planned.plan.nodes root path = some n ∧ n.tag = "citizen" ∧ n.op.Computes s ∧
          report.count? n.column = some (m.matchCount path) := by
  obtain ⟨plan, hplan, ⟨out, report⟩, hrun⟩ : ∃ plan,
      build civicTags ⟨true, false, false, true⟩ = .ok plan ∧
      ∃ out, tagDetailed ⟨plan, namedRegistry, ⟨true⟩⟩ electorate = .ok out := by
    refine ⟨_, rfl, ?_⟩
    -- The sort does not reduce, but there is nothing to sort.
    rw [batchesOf_eq, prioritiesOf, List.mergeSort_of_pairwise (by decide)]
    exact ⟨_, rfl⟩
  obtain ⟨linear, hlinear⟩ : ∃ linear,
      LinearEngine.make civicTags namedRegistry ⟨true⟩ = .ok linear := ⟨_, rfl⟩
  obtain ⟨-, levels, hlevels, rfl⟩ := LinearEngine.make_ok hlinear
  have htwo : (DependencyGraph.ofTags civicTags).removeCycles.1.levels = .ok [0, 1] := rfl
  cases hlevels.symm.trans htwo
  have hsorted : LinearEngine.levelsOf [0, 1] = [[0], [1]] := by
    rw [LinearEngine.levelsOf, List.mergeSort_of_pairwise (by decide)]
    rfl
  obtain ⟨⟨out', reports⟩, hmatch⟩ : ∃ out, LinearEngine.matchReports ⟨civicTags, namedRegistry,
      ⟨true⟩, LinearEngine.levelsOf [0, 1]⟩ electorate = .ok out := by
    rw [hsorted]
    exact ⟨_, rfl⟩
  have hplanned : make civicTags namedRegistry ⟨true, false, false, true⟩ ⟨true⟩ =
      .ok ⟨plan, namedRegistry, ⟨true⟩⟩ := by
    rw [make, hplan]
    rfl
  obtain ⟨m, hlookup, hroot, hcarry, hpaths⟩ :=
    report_agree ignoresTags_namedRegistry hplanned hlinear hrun hmatch
      (List.mem_cons_of_mem _ List.mem_cons_self : citizenTag ∈ civicTags.tags)
  exact ⟨_, _, out, out', report, reports, hplanned, hlinear, hrun, hmatch, m, hlookup, hroot,
    hcarry rfl, hpaths rfl rfl⟩

end PlannedEngine

end TagRules
