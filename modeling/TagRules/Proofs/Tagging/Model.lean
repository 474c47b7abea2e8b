import TagRules.Proofs.Tag.Membership
import TagRules.Proofs.Tagging.Added
import TagRules.Proofs.Tagging.Agreement

/-!
# Tagging computes a model of its rules

A rule is evaluated at the level of its tag, but what it says also holds of the final tag lists: all
tags that it names have a lower level, so that no later level adds or removes any of them.

* `Course.mem_tagsAt`: what is in a tag list before a level.
* `level_lt_of_dependsOn`: a tag has a higher level than the tags that it names.
* `mem_tagsAt_iff_of_dependsOn`: no later level changes what a rule reads.
* `hasTag_iff_evaluate`: a record carries a tag just when the rule of the tag holds of it.
-/

namespace TagRules

open Outcome

/-! ### What is in a tag list -/

namespace Course

variable {c : Course} {r : Record} {name : String}

theorem mem_foldl_addTag {added : Tag × Nat → Bool} {l : List (Tag × Nat)} :
    ∀ {tags : List String},
      name ∈ l.foldl (fun tags e => if added e then addTag e.1.name tags else tags) tags ↔
        name ∈ tags ∨ ∃ e ∈ l, added e = true ∧ e.1.name = name := by
  induction l with
  | nil => simp
  | cons e l ih =>
    intro tags
    rw [List.foldl_cons, ih]
    by_cases h : added e = true
    · rw [if_pos h, mem_addTag, or_assoc]
      simp [h]
    · rw [if_neg h]
      simp [h]

/-- **What is in a tag list before a level**: what it starts with, and the tags of lower levels whose
rules hold for the tag list as their level sees it. -/
theorem mem_tagsAt {level : Nat} : name ∈ c.tagsAt r level ↔ name ∈ c.start r ∨
    ∃ e ∈ c.ranked, e.2 < level ∧ e.1.rule.holds c.registry (c.view e.2 r) = true ∧
      e.1.name = name := by
  induction level with
  | zero => simp [tagsAt]
  | succ level ih =>
    rw [tagsAt_succ, mem_foldl_addTag, ih, or_assoc]
    refine or_congr_right ?_
    constructor
    · rintro (⟨e, he, hlt, hholds⟩ | ⟨e, he, hholds⟩)
      · exact ⟨e, he, Nat.lt_succ_of_lt hlt, hholds⟩
      · obtain ⟨hmem, hlevel⟩ := List.mem_filter.1 he
        rw [decide_eq_true_eq] at hlevel
        exact ⟨e, hmem, by omega, hlevel ▸ hholds⟩
    · rintro ⟨e, he, hlt, hholds⟩
      rcases Nat.lt_succ_iff_lt_or_eq.1 hlt with hlt | rfl
      · exact .inl ⟨e, he, hlt, hholds⟩
      · exact .inr ⟨e, List.mem_filter.2 ⟨he, by simp⟩, hholds⟩

end Course

/-! ### Levels of what a rule reads -/

variable {tags : TagSet} {reg : Registry} {options : TaggingOptions} {levels : List Nat}
  {e e' : Tag × Nat}

/-- The number of a tag with its level. -/
theorem exists_index (he : e ∈ tags.tags.zip levels) :
    ∃ i, tags.tags[i]? = some e.1 ∧ DependencyGraph.level levels i = e.2 := by
  obtain ⟨i, hi, rfl⟩ := List.mem_iff_getElem.1 he
  rw [List.length_zip, Nat.lt_min] at hi
  refine ⟨i, ?_, ?_⟩
  · rw [List.getElem_zip, List.getElem?_eq_getElem hi.1]
  · rw [List.getElem_zip, DependencyGraph.level, List.getElem?_eq_getElem hi.2]
    rfl

/-- A name has one level. -/
theorem eq_of_name_eq (hlength : levels.length = tags.tags.length) (he : e ∈ tags.tags.zip levels)
    (he' : e' ∈ tags.tags.zip levels) (h : e.1.name = e'.1.name) : e = e' := by
  have hnodup := tags.nodup
  rw [← List.map_fst_zip (Nat.le_of_eq hlength.symm), List.map_map] at hnodup
  exact List.inj_on_of_nodup_map hnodup he he' h

/-- **A tag has a higher level than the tags that it names**, unless the dependency was dropped. -/
theorem level_lt_of_dependsOn
    (hlevels : (DependencyGraph.ofTags tags).removeCycles.1.levels = .ok levels)
    (he : e ∈ tags.tags.zip levels) (he' : e' ∈ tags.tags.zip levels)
    (hdepends : e.1.name ∈ e'.1.dependsOn)
    (hkept : ∀ x ∈ (DependencyGraph.ofTags tags).removeCycles.2, x.dependent ≠ e'.1.name) :
    e.2 < e'.2 := by
  obtain ⟨i, hi, hlevel⟩ := exists_index he
  obtain ⟨j, hj, hlevel'⟩ := exists_index he'
  have hedge : (DependencyGraph.ofTags tags).removeCycles.1.hasEdge i j = true := by
    rw [(DependencyGraph.removal_removeCycles _).1, DependencyGraph.hasEdge_without,
      DependencyGraph.hasEdge_iff, DependencyGraph.nameOf_ofTags hi,
      DependencyGraph.nameOf_ofTags hj, DependencyGraph.dependsOn_ofTags hj,
      DependencyGraph.size_ofTags]
    exact ⟨⟨(List.getElem?_eq_some_iff.1 hi).1, hdepends⟩, fun hlost => hkept _ hlost rfl⟩
  rw [← hlevel, ← hlevel']
  exact DependencyGraph.level_lt_of_hasEdge hlevels hedge

/-- **No later level changes what a rule reads.** -/
theorem mem_tagsAt_iff_of_dependsOn
    (hlevels : (DependencyGraph.ofTags tags).removeCycles.1.levels = .ok levels)
    (he : e ∈ tags.tags.zip levels) {name : String} (hdepends : name ∈ e.1.dependsOn)
    (hkept : ∀ x ∈ (DependencyGraph.ofTags tags).removeCycles.2, x.dependent ≠ e.1.name)
    {height : Nat} (hheight : e.2 ≤ height) (r : Record) :
    name ∈ (tags.course reg options levels).tagsAt r e.2 ↔
      name ∈ (tags.course reg options levels).tagsAt r height := by
  rw [Course.mem_tagsAt, Course.mem_tagsAt]
  refine or_congr_right ⟨?_, ?_⟩
  · rintro ⟨e', he', hlt, hadded⟩
    exact ⟨e', he', by omega, hadded⟩
  · rintro ⟨e', he', -, hholds, rfl⟩
    exact ⟨e', he', level_lt_of_dependsOn hlevels he' he hdepends hkept, hholds, rfl⟩

/-- **A tag is in the final tag list just when its rule held at its level**, where the tags of the run
were removed before. -/
theorem mem_tagsAt_iff_holds (hremove : options.removeOldTags = true)
    (hlength : levels.length = tags.tags.length) (he : e ∈ tags.tags.zip levels) {height : Nat}
    (hheight : e.2 < height) (r : Record) :
    e.1.name ∈ (tags.course reg options levels).tagsAt r height ↔
      e.1.rule.holds reg ((tags.course reg options levels).view e.2 r) = true := by
  have hstart : e.1.name ∉ (tags.course reg options levels).start r := by
    intro hmem
    have hname : e.1.name ∈ tags.names := List.mem_map_of_mem (List.of_mem_zip he).1
    have hmem : e.1.name ∈ startTags tags.names options.removeOldTags r := hmem
    rw [startTags, if_pos hremove, List.mem_filter] at hmem
    simp [hname] at hmem
  rw [Course.mem_tagsAt, or_iff_right hstart]
  constructor
  · rintro ⟨e', he', -, hholds, hname⟩
    rw [eq_of_name_eq hlength he' he hname] at hholds
    exact hholds
  · exact fun hholds => ⟨e, he, hheight, hholds, rfl⟩

/-! ### Tagged records -/

/-- **Records that one of the engines gives.** -/
inductive Tagged (tags : TagSet) (reg : Registry) (options : TaggingOptions) (records out : RecordSet) :
    Prop
  | linear {engine : LinearEngine} : LinearEngine.make tags reg options = .ok engine →
      engine.tagRecords records = .ok out → Tagged tags reg options records out
  | planned {planner : PlannerOptions} {engine : PlannedEngine} :
      PlannedEngine.make tags reg planner options = .ok engine →
      engine.tagRecords records = .ok out → Tagged tags reg options records out

variable {records out : RecordSet}

/-- Tagged records have gone through the course of their tags. -/
theorem Tagged.course (hreg : reg.IgnoresTags) (h : Tagged tags reg options records out) :
    ∃ levels, (DependencyGraph.ofTags tags).removeCycles.1.levels = .ok levels ∧
      out = records.map ((tags.course reg options levels).view (LinearEngine.levelCount levels)) ∧
      (tags.course reg options levels).Defined records := by
  have hheight : ∀ levels : List Nat, ∀ level ∈ levels, level < LinearEngine.levelCount levels :=
    fun _ _ hlevel => LinearEngine.lt_levelCount hlevel
  cases h with
  | linear hmake hrun =>
    obtain ⟨hvalid, levels, hlevels, rfl⟩ := LinearEngine.make_ok hmake
    have hlength := DependencyGraph.length_levels_ofTags hlevels
    exact ⟨levels, hlevels,
      (LinearEngine.ends_tagRecords hvalid hlength (hheight levels) records).ok hrun⟩
  | planned hmake hrun =>
    obtain ⟨hvalid, plan, hplan, rfl⟩ := PlannedEngine.make_ok hmake
    obtain ⟨levels, -, hlevels, -⟩ := ExecutionPlan.build_ok hplan
    exact ⟨levels, ExecutionPlan.levels_removeCycles hlevels,
      (PlannedEngine.ends_tagRecords hreg hvalid hplan hlevels (hheight levels) records).ok hrun⟩

/-- **Tagging computes a model of its rules.** When no dependency of a tag was dropped and its rule
only tests the membership of tags, a tagged record carries the tag just when the rule holds of this
very record. -/
theorem hasTag_iff_evaluate (hreg : reg.IgnoresTags) (hstandard : reg.HasStandardComparators)
    (hremove : options.removeOldTags = true) (h : Tagged tags reg options records out) {t : Tag}
    (ht : t ∈ tags.tags)
    (hkept : ∀ x ∈ (DependencyGraph.ofTags tags).removeCycles.2, x.dependent ≠ t.name)
    (hmembership : ∀ c, .condition c ∈ t.rule.subrules → c.isTagReference = true →
      c.TestsMembership) :
    ∀ r ∈ out, r.hasTag t.name = true ↔ t.rule.evaluate r reg = .ok true := by
  obtain ⟨levels, hlevels, rfl, hdefined⟩ := h.course hreg
  have hlength := DependencyGraph.length_levels_ofTags hlevels
  obtain ⟨e, he, rfl⟩ : ∃ e ∈ (tags.course reg options levels).ranked, e.1 = t :=
    TagSet.exists_mem_ranked hlength ht
  have hlt : e.2 < LinearEngine.levelCount levels :=
    LinearEngine.lt_levelCount (List.of_mem_zip he).2
  intro x hx
  obtain ⟨r, hr, rfl⟩ := List.mem_map.1 hx
  -- The rule was evaluated at the level of the tag; there it reads the same as at the end.
  have hsame : ∀ l ∈ e.1.rule.leaves,
      l.evaluate ((tags.course reg options levels).view e.2 r) reg =
        l.evaluate ((tags.course reg options levels).view (LinearEngine.levelCount levels) r) reg := by
    intro l hl
    obtain ⟨hsub, hleaf⟩ := (Rule.mem_leaves_iff e.1.canonical).1 hl
    cases href : l.isTagReference with
    | false => exact Rule.evaluate_congr hreg hleaf href (Course.view_agreesOffTags _ _ _ r)
    | true =>
      cases l with
      | condition c =>
        refine Rule.evaluate_eq_of_mem_iff hstandard href (hmembership c hsub href)
          (Course.get_view_tagsField _ r) (Course.get_view_tagsField _ r) fun name hname => ?_
        exact mem_tagsAt_iff_of_dependsOn hlevels he (mem_dependsOn hsub hname) hkept
          (Nat.le_of_lt hlt) r
      | _ => cases href
  rw [Record.hasTag, Course.tags_view, List.contains_iff_mem,
    mem_tagsAt_iff_holds hremove hlength he hlt,
    ← Rule.evaluate_eq_ok_of_leaves e.1.canonical hsame true, Rule.evaluate_eq_ok_iff]
  exact (and_iff_right (hdefined r hr e he)).symm

/-- The tag of those who are neither members nor guests. -/
def strangerTag : Tag where
  name := "stranger"
  rule := .any [.all [.condition ⟨tagsField, none, "not_in", .ofStrings ["member", "guest"]⟩]]
  name_ne := by decide
  canonical := by decide +kernel

/-- Members, guests and strangers. The dependencies of the first two are circular. -/
def partyTags : TagSet :=
  ⟨[memberTag, guestTag, strangerTag], by decide⟩

/-- A guest by age, and a record with an outdated tag. -/
def partyRecords : RecordSet :=
  [Record.empty.insert "age" (.int 18), Record.empty.insert tagsField (.ofStrings ["guest"])]

theorem hasTag_iff_evaluate_partyTags : ∃ out,
    Tagged partyTags namedRegistry ⟨true⟩ partyRecords out ∧
    ∀ r ∈ out, r.hasTag "stranger" = true ↔
      strangerTag.rule.evaluate r namedRegistry = .ok true := by
  obtain ⟨engine, hmake⟩ : ∃ engine,
      LinearEngine.make partyTags namedRegistry ⟨true⟩ = .ok engine := ⟨_, rfl⟩
  obtain ⟨-, levels, hlevels, rfl⟩ := LinearEngine.make_ok hmake
  have hthree : (DependencyGraph.ofTags partyTags).removeCycles.1.levels = .ok [0, 1, 2] := rfl
  cases hlevels.symm.trans hthree
  -- The sort does not reduce, but there is nothing to sort.
  have hsorted : LinearEngine.levelsOf [0, 1, 2] = [[0], [1], [2]] := by
    rw [LinearEngine.levelsOf, List.mergeSort_of_pairwise (by decide)]
    rfl
  obtain ⟨out, hrun⟩ : ∃ out, LinearEngine.tagRecords ⟨partyTags, namedRegistry, ⟨true⟩,
      LinearEngine.levelsOf [0, 1, 2]⟩ partyRecords = .ok out := by
    rw [hsorted]
    exact ⟨_, rfl⟩
  refine ⟨out, .linear hmake hrun, hasTag_iff_evaluate ignoresTags_namedRegistry
    ?_ rfl (.linear hmake hrun) (t := strangerTag) (by simp [partyTags]) (by decide) ?_⟩
  · exact Registry.hasStandardComparators_standard
  · intro c hc _
    obtain rfl : c = ⟨tagsField, none, "not_in", .ofStrings ["member", "guest"]⟩ := by
      simpa [strangerTag, Rule.subrules, Rule.subrulesList] using hc
    exact ⟨rfl, by decide⟩

end TagRules
