import TagRules.Proofs.Plan.WellFormed
import TagRules.Proofs.Tagging.Columns

/-!
# Planned tagging follows the course

A plan whose nodes realize a course takes the records through this course. The tag lists change in
the batches of applications only, and each of these takes them one level up.

* `Passed`: the applications that have run are those below a level.
* `lists_foldl_store`: what the applications of a batch do to the tag lists.
* `tagsAt_succ_eq`: the applications of a level add the tags of the level.
* `steps`: every batch keeps the columns and the tag lists right.
* `ends_tagDetailed`: how a run of a plan ends, and what it reports on the nodes of the plan.
* `ends_tagRecords`: an engine succeeds when every rule can be evaluated.
-/

namespace TagRules

open Outcome Execution ExecutionPlan

theorem NodeKind.weight_le (kind : NodeKind) : kind.weight ≤ 8 := by
  cases kind <;> decide

theorem NodeKind.weight_eq_iff {kind : NodeKind} : kind.weight = 8 ↔ kind = .application := by
  cases kind <;> decide

theorem PlanNode.application?_eq_some_iff {n : PlanNode} {a : String × Nat × Alias} :
    n.application? = some a ↔
      ∃ tag input, n.op = .apply tag input ∧ a = (tag, n.level, n.column) := by
  unfold application?
  cases n.op with
  | apply tag input => simp [eq_comm]
  | _ => simp

theorem PlanNode.exists_apply {n : PlanNode} (h : n.kind = .application) :
    ∃ tag input, n.op = .apply tag input := by
  unfold kind at h
  cases hop : n.op with
  | apply tag input => exact ⟨tag, input, rfl⟩
  | condition c input =>
    rw [hop] at h
    cases href : c.isTagReference <;> simp [NodeOp.kind, href] at h
  | _ =>
    rw [hop] at h
    cases h

theorem PlanNode.priority_eq_iff {n : PlanNode} (h : n.kind = .application) {p : Priority}
    (hweight : p.weight = 8) : n.priority = p ↔ n.level = p.level := by
  obtain ⟨level, weight⟩ := p
  simp only at hweight
  subst hweight
  simp [priority, h, NodeKind.weight]

/-! ### The applications of a batch -/

section

variable {nodes : List PlanNode} {b : Batch} {c : Course} {records : RecordSet}
  {value : Record → Alias → Bool}

/-- A batch of applications has those of its level. -/
theorem applications_batch (hb : b ∈ batchesOf nodes) (hweight : b.priority.weight = 8) :
    b.nodes.filterMap PlanNode.application? =
      (nodes.filterMap PlanNode.application?).filter (·.2.1 = b.priority.level) := by
  rw [(mem_batchesOf.1 hb).2, List.filterMap_filter, List.filter_filterMap]
  refine List.filterMap_congr fun n _ => ?_
  cases happly : n.application? with
  | none => simp
  | some a =>
    obtain ⟨tag, input, hop, rfl⟩ := PlanNode.application?_eq_some_iff.1 happly
    have hkind : n.kind = .application := by rw [PlanNode.kind, hop]; rfl
    have hprio := PlanNode.priority_eq_iff hkind hweight
    by_cases h : n.level = b.priority.level <;> simp [hprio, h, Option.filter]

/-- Any other batch has none. -/
theorem kind_ne_application (hb : b ∈ batchesOf nodes) (hweight : b.priority.weight ≠ 8)
    {n : PlanNode} (hn : n ∈ b.nodes) : n.kind ≠ .application := by
  intro hkind
  have hprio : n.priority = b.priority := ((mem_nodes_batchesOf hb).1 hn).2
  rw [← hprio] at hweight
  exact hweight (NodeKind.weight_eq_iff.2 hkind)

/-- A tag list after some applications. -/
def applyAll (value : Alias → Bool) (applications : List (String × Nat × Alias))
    (tags : List String) : List String :=
  applications.foldl (fun tags a => if value a.2.2 then addTag a.1 tags else tags) tags

/-- **What the applications of a batch do to the tag lists.** -/
theorem lists_foldl_store {masks : List (List Bool)} {batch : List PlanNode}
    (h : List.Forall₂ (fun n mask => c.Fills records value n (.mask mask)) batch masks) :
    ∀ {s : State} {tags : Record → List String}, s.lists = records.map tags →
      ((batch.zip masks).foldl (fun s (n, mask) => store s n mask) s).lists = records.map fun r =>
        applyAll (value r) (batch.filterMap PlanNode.application?) (tags r) := by
  induction h with
  | nil => exact fun hs => hs
  | @cons n mask batch masks hmask _ ih =>
    intro s tags hs
    rw [List.zip_cons_cons, List.foldl_cons]
    cases happly : n.application? with
    | none =>
      have hlists : (store s n mask).lists = s.lists := by
        rw [lists_store]
        unfold PlanNode.application? at happly
        split <;> simp_all
      rw [List.filterMap_cons_none happly]
      exact ih (hlists.trans hs)
    | some a =>
      obtain ⟨tag, input, hop, rfl⟩ := PlanNode.application?_eq_some_iff.1 happly
      rw [List.filterMap_cons_some happly]
      have hlists : (store s n mask).lists =
          records.map fun r => if value r n.column then addTag tag (tags r) else tags r := by
        rw [lists_store, hop, hs, hmask.2.1]
        exact addTags_map tag (fun r => value r n.column) tags
      exact ih hlists

end

/-! ### Levels -/

namespace Realizes

variable {c : Course} {hreg : c.registry.IgnoresTags} {records : RecordSet}
  {table : TransformTable} {nodes : List PlanNode} {value : Record → Alias → Bool}

/-- There are applications at the levels of tags, and at no others. -/
theorem exists_application_iff (h : Realizes c hreg table nodes value) {level : Nat} :
    (∃ n ∈ nodes, n.kind = .application ∧ n.level = level) ↔ ∃ e ∈ c.ranked, e.2 = level := by
  have hlevels : (nodes.filterMap PlanNode.application?).map (·.2.1) = c.ranked.map Prod.snd := by
    have := congrArg (List.map fun a : String × Nat × Bool => a.2.1) (h.applications .empty)
    rwa [List.map_map, List.map_map] at this
  have hmem : level ∈ (nodes.filterMap PlanNode.application?).map (·.2.1) ↔
      level ∈ c.ranked.map Prod.snd := by rw [hlevels]
  rw [List.mem_map, List.mem_map] at hmem
  rw [← hmem]
  constructor
  · rintro ⟨n, hn, hkind, rfl⟩
    obtain ⟨tag, input, hop⟩ := PlanNode.exists_apply hkind
    refine ⟨(tag, n.level, n.column), List.mem_filterMap.2 ⟨n, hn, ?_⟩, rfl⟩
    exact PlanNode.application?_eq_some_iff.2 ⟨tag, input, hop, rfl⟩
  · rintro ⟨a, ha, rfl⟩
    obtain ⟨n, hn, happly⟩ := List.mem_filterMap.1 ha
    obtain ⟨tag, input, hop, rfl⟩ := PlanNode.application?_eq_some_iff.1 happly
    exact ⟨n, hn, by rw [PlanNode.kind, hop]; rfl, rfl⟩

/-- **The applications of a level add the tags of the level.** -/
theorem tagsAt_succ_eq (h : Realizes c hreg table nodes value) (r : Record) (level : Nat) :
    c.tagsAt r (level + 1) = applyAll (value r)
      ((nodes.filterMap PlanNode.application?).filter (·.2.1 = level)) (c.tagsAt r level) := by
  have hvalues := congrArg (List.filter fun a : String × Nat × Bool => a.2.1 = level)
    (h.applications r)
  rw [List.filter_map, List.filter_map] at hvalues
  have hfold := congrArg (List.foldl (fun tags (a : String × Nat × Bool) =>
    if a.2.2 then addTag a.1 tags else tags) (c.tagsAt r level)) hvalues
  rw [List.foldl_map, List.foldl_map] at hfold
  rw [Course.tagsAt_succ, applyAll]
  refine Eq.trans (List.foldl_ext _ _ _ fun tags e he => ?_) hfold.symm
  have hlevel : e.2 = level := by simpa using (List.mem_filter.1 he).2
  simp only [hlevel]

/-- **The applications that have run are those below a level.** -/
def Passed (nodes : List PlanNode) (pre : List Batch) (level : Nat) : Prop :=
  ∀ n ∈ nodes, n.kind = .application → (n.level < level ↔ ∃ b ∈ pre, n ∈ b.nodes)

/-- Before a batch runs, all applications below its level have run. -/
theorem passed_pre {pre post : List Batch} {b : Batch}
    (hsplit : batchesOf nodes = pre ++ b :: post) : Passed nodes pre b.priority.level := by
  intro n hn hkind
  have hprio : n.priority = ⟨n.level, 8⟩ := by rw [PlanNode.priority, hkind]; rfl
  constructor
  · intro hlt
    refine mem_of_lt hsplit hn (Priority.lt_iff.2 (.inl ?_))
    rw [hprio]
    exact hlt
  · rintro ⟨b', hb', hnb⟩
    have hb'mem : b' ∈ batchesOf nodes := by simp [hsplit, hb']
    have hbmem : b ∈ batchesOf nodes := by simp [hsplit]
    have hlt := lt_of_mem_pre hsplit hb'
    rw [← ((mem_nodes_batchesOf hb'mem).1 hnb).2, hprio, Priority.lt_iff] at hlt
    -- No weight is above that of applications, so the level of the later batch is higher.
    obtain ⟨⟨m, -, hm⟩, -⟩ := mem_batchesOf.1 hbmem
    have hweight : b.priority.weight ≤ 8 := hm ▸ NodeKind.weight_le m.kind
    simp only at hlt
    omega

/-- After a batch of applications, those of its level have run as well. -/
theorem passed_snoc {pre post : List Batch} {b : Batch} (hsplit : batchesOf nodes = pre ++ b :: post)
    (hweight : b.priority.weight = 8) : Passed nodes (pre ++ [b]) (b.priority.level + 1) := by
  intro n hn hkind
  have hb : b ∈ batchesOf nodes := by simp [hsplit]
  have hbefore := passed_pre hsplit n hn hkind
  have hnb : n ∈ b.nodes ↔ n.level = b.priority.level := by
    rw [mem_nodes_batchesOf hb, PlanNode.priority_eq_iff hkind hweight]
    exact and_iff_right hn
  simp only [List.mem_append, List.mem_singleton, or_and_right, exists_or, exists_eq_left]
  rw [← hbefore, hnb]
  omega

/-- After any other batch, the same applications have run as before it. -/
theorem passed_snoc_of_ne {pre post : List Batch} {b : Batch}
    (hsplit : batchesOf nodes = pre ++ b :: post) (hweight : b.priority.weight ≠ 8) :
    Passed nodes (pre ++ [b]) b.priority.level := by
  intro n hn hkind
  have hb : b ∈ batchesOf nodes := by simp [hsplit]
  have hnb : n ∉ b.nodes := fun hnb => kind_ne_application hb hweight hnb hkind
  simp only [List.mem_append, List.mem_singleton, or_and_right, exists_or, exists_eq_left, hnb,
    or_false]
  exact passed_pre hsplit n hn hkind

/-- Levels below which the same applications run have the same tag list. -/
theorem tagsAt_eq_of_passed (h : Realizes c hreg table nodes value) {pre : List Batch}
    {level level' : Nat} (hpassed : Passed nodes pre level) (hpassed' : Passed nodes pre level')
    (r : Record) : c.tagsAt r level = c.tagsAt r level' := by
  have hsame : ∀ e ∈ c.ranked, e.2 < level ↔ e.2 < level' := by
    intro e he
    obtain ⟨n, hn, hkind, hlevel⟩ := h.exists_application_iff.2 ⟨e, he, rfl⟩
    rw [← hlevel, hpassed n hn hkind, hpassed' n hn hkind]
  rcases Nat.le_total level level' with hle | hle
  · refine (Course.tagsAt_eq_of_le hle (fun e he => ?_) r).symm
    rw [hsame e he]
    exact Nat.lt_or_ge e.2 level'
  · refine Course.tagsAt_eq_of_le hle (fun e he => ?_) r
    rw [← hsame e he]
    exact Nat.lt_or_ge e.2 level

/-! ### Runs -/

/-- **The tag lists after some batches** are those of the course, and the leaves of these batches
could be evaluated. -/
def Reached (c : Course) (records : RecordSet) (nodes : List PlanNode) (pre : List Batch)
    (lists : List (List String)) : Prop :=
  (∀ level, Passed nodes pre level → lists = c.lists records level) ∧
    ∀ n ∈ pre.flatMap Batch.nodes, c.LeafDefined records n

/-- A run starts at the bottom of the course. -/
theorem reached_nil (h : Realizes c hreg table nodes value) :
    Reached c records nodes [] (c.lists records 0) := by
  refine ⟨fun level hpassed => List.map_congr_left fun r _ => ?_, fun n hn => absurd hn (by simp)⟩
  have hbottom : Passed nodes [] 0 := fun n _ _ => by simp
  exact h.tagsAt_eq_of_passed hbottom hpassed r

/-- A run ends at the top of the course, where every rule could be evaluated. -/
theorem reached_all (h : Realizes c hreg table nodes value) {height : Nat}
    (hheight : ∀ e ∈ c.ranked, e.2 < height) {lists : List (List String)}
    (hreached : Reached c records nodes (batchesOf nodes) lists) :
    lists = c.lists records height ∧ c.Defined records := by
  have hmem : ∀ n, n ∈ (batchesOf nodes).flatMap Batch.nodes ↔ n ∈ nodes :=
    fun n => (perm_flatMap_batchesOf nodes).mem_iff
  refine ⟨hreached.1 height fun n hn hkind => ?_, h.defined fun n hn => hreached.2 n ((hmem n).2 hn)⟩
  obtain ⟨e, he, hlevel⟩ := h.exists_application_iff.1 ⟨n, hn, hkind, rfl⟩
  refine iff_of_true (hlevel ▸ hheight e he) ?_
  exact List.mem_flatMap.1 ((hmem n).2 hn)

/-- **A batch adds the tags of the course.** -/
theorem reached_snoc (h : Realizes c hreg table nodes value) {pre post : List Batch} {b : Batch}
    {s : State} {masks : List (List Bool)} (hsplit : batchesOf nodes = pre ++ b :: post)
    (hs : Reached c records nodes pre s.lists)
    (hmasks : List.Forall₂ (fun n mask => c.Fills records value n (.mask mask)) b.nodes masks) :
    Reached c records nodes (pre ++ [b])
      ((b.nodes.zip masks).foldl (fun s (n, mask) => store s n mask) s).lists := by
  have hb : b ∈ batchesOf nodes := by simp [hsplit]
  have hbefore := hs.1 _ (passed_pre hsplit)
  refine ⟨fun level hpassed => ?_, fun n hn => ?_⟩
  · -- A batch of applications takes the tag lists one level up, and any other one leaves them.
    rw [lists_foldl_store hmasks hbefore]
    refine List.map_congr_left fun r _ => ?_
    by_cases hweight : b.priority.weight = 8
    · rw [applications_batch hb hweight, ← h.tagsAt_succ_eq]
      exact h.tagsAt_eq_of_passed (passed_snoc hsplit hweight) hpassed r
    · have hnone : b.nodes.filterMap PlanNode.application? = [] :=
        List.filterMap_eq_nil_iff.2 fun n hn =>
          PlanNode.application?_eq_none (kind_ne_application hb hweight hn)
      rw [hnone]
      exact h.tagsAt_eq_of_passed (passed_snoc_of_ne hsplit hweight) hpassed r
  · rw [List.flatMap_append, List.mem_append] at hn
    rcases hn with hn | hn
    · exact hs.2 n hn
    · have hleaves := hmasks.imp fun n mask hmask => And.intro hmask.2.2 hmask
      rw [List.flatMap_singleton] at hn
      exact ((List.forall₂_and_left _ _).1 hleaves).1 n hn

/-- **What is known of the steps of a run** of a plan whose nodes realize a course. -/
theorem steps (h : Realizes c hreg table nodes value) (hvalid : Valid c) {plan : ExecutionPlan}
    (hnodup : (plan.nodes.map PlanNode.column).Nodup) (htransforms : plan.transforms = table.nodes)
    (hbatches : plan.batches = batchesOf nodes) :
    Steps c.registry records plan (c.Fills records value) (Reached c records nodes)
      (fun _ => ¬c.Defined records) := by
  refine ⟨hnodup, fun n hn => ?_, fun pre b post s hsplit hs hreached n hn => ?_,
    fun pre b post s masks hsplit hreached hmasks => ?_⟩
  · rw [htransforms] at hn
    obtain ⟨column, hcolumn, hop⟩ : ∃ column ∈ table,
        n.op = .transform column.field column.transform := by
      obtain ⟨a, column, ha, rfl⟩ := TransformTable.mem_nodes_iff.1 hn
      exact ⟨column, List.mem_of_getElem? ha, rfl⟩
    refine ⟨_, _, hop, (h.ends_transformed hcolumn).mono (fun values hvalues => ?_) fun _ he => he⟩
    refine ⟨by rw [PlanNode.kind, hop]; rfl, fun field key hop' => ?_⟩
    cases hop.symm.trans hop'
    exact hvalues
  · rw [hbatches] at hsplit
    have hb : b ∈ batchesOf nodes := by simp [hsplit]
    obtain ⟨hnmem, hprio⟩ := (mem_nodes_batchesOf hb).1 hn
    have hsupplied := h.supplied n hnmem
    -- Truth values come from earlier batches, values from transforms, and the tag lists from the
    -- applications of lower levels.
    refine h.ends_evaluateNode hvalid hnmem (fun a ha => ?_) (fun condition a hop => ?_) fun hkind => ?_
    · obtain ⟨m, hm, rfl, -, hlt⟩ := hsupplied.masks a ha
      obtain ⟨b', hb', hmb⟩ := mem_of_lt hsplit hm (hprio ▸ hlt)
      exact maskOf_eq hs (List.mem_append_right _ (List.mem_flatMap.2 ⟨b', hb', hmb⟩))
        (h.supplied m hm).fits.kind_ne_transform
    · have hfits := hsupplied.fits
      rw [hop] at hfits
      obtain ⟨href, column, hcolumn, hfield, htransform⟩ := hfits a rfl
      have hmem := TransformTable.mem_nodes_iff.2 ⟨a, column, hcolumn, rfl⟩
      rw [← htransforms] at hmem
      exact feeds_of_stored hs (List.mem_append_left _ hmem) (by rw [← hfield]) href htransform
    · have hlevel : n.level = b.priority.level := by rw [← hprio]; rfl
      rw [liveTags_eq hn hkind, hreached.1 _ (passed_pre hsplit), hlevel]
  · rw [hbatches] at hsplit
    exact h.reached_snoc hsplit hreached hmasks

end Realizes

/-! ### Engines -/

namespace PlannedEngine

variable {tags : TagSet} {reg : Registry} {options : TaggingOptions} {levels : List Nat}
  {height : Nat}

/-- **How a run ends whose nodes realize the course**: with the records at the top of the course,
and a report on the columns of all nodes. -/
theorem ends_tagDetailed {hreg : reg.IgnoresTags} {table : TransformTable} {nodes : List PlanNode}
    {value : Record → Alias → Bool} (h : Realizes (tags.course reg options levels) hreg table nodes value)
    (hvalid : tags.validate reg = .ok ()) {plan : ExecutionPlan} {removed : List RemovedEdge}
    (hplan : plan = ⟨table.nodes, batchesOf nodes, tags.names, removed⟩)
    (hnodup : (plan.nodes.map PlanNode.column).Nodup) (hheight : ∀ level ∈ levels, level < height)
    (records : RecordSet) :
    Ends (fun out => out.1 = records.map ((tags.course reg options levels).view height) ∧
        Reported ((tags.course reg options levels).Fills records value)
          (plan.batches.flatMap Batch.nodes) out.2.nodes ∧
        (tags.course reg options levels).Defined records)
      (fun _ => ¬(tags.course reg options levels).Defined records)
      (tagDetailed ⟨plan, reg, options⟩ records) := by
  subst hplan
  have hcourse : Realizes.Valid (tags.course reg options levels) := fun e he =>
    TagSet.validateNode_of_validate hvalid (List.of_mem_zip he).1
  have hranked : ∀ e ∈ (tags.course reg options levels).ranked, e.2 < height :=
    fun e he => hheight e.2 (List.of_mem_zip he).2
  refine Ends.bind (ends_execute (h.steps hcourse hnodup rfl rfl) ?_) fun out hout => ?_
  · rw [startLists_eq]
    exact h.reached_nil
  · obtain ⟨hlists, hdefined⟩ := h.reached_all hranked hout.1
    refine ⟨?_, hout.2, hdefined⟩
    show records.withTagLists out.1 = _
    rw [hlists, Course.withTagLists_lists]

/-- **An engine succeeds when every rule can be evaluated**, and then it takes the records through
the course. -/
theorem ends_tagRecords {planner : PlannerOptions} {plan : ExecutionPlan} (hreg : reg.IgnoresTags)
    (hvalid : tags.validate reg = .ok ()) (hplan : ExecutionPlan.build tags planner = .ok plan)
    (hlevels : (graphOf tags planner).1.levels = .ok levels)
    (hheight : ∀ level ∈ levels, level < height) (records : RecordSet) :
    Ends (fun out => out = records.map ((tags.course reg options levels).view height) ∧
        (tags.course reg options levels).Defined records)
      (fun _ => ¬(tags.course reg options levels).Defined records)
      (tagRecords ⟨plan, reg, options⟩ records) := by
  have hnodup := (wellFormed_of_build hplan).columns
  obtain ⟨levels', nodes, hlevels', hnodes, hparts⟩ := build_ok hplan
  cases hlevels.symm.trans hlevels'
  obtain ⟨value, hrealizes⟩ : ∃ value, Realizes (tags.course reg options levels) hreg
      (tableOf tags planner) (Optimize.run planner nodes) value :=
    realizes_of_build hreg (length_levels hlevels) hnodes
  have hrun := ends_tagDetailed hrealizes hvalid hparts hnodup hheight records
  exact Ends.map <| hrun.mono (fun _ hout => ⟨hout.1, hout.2.2⟩) fun _ he => he

end PlannedEngine

end TagRules
