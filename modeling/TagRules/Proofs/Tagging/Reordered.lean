import TagRules.Proofs.Dependency.Part
import TagRules.Proofs.Tag.Membership
import TagRules.Proofs.Tagging.Added
import TagRules.Proofs.Tagging.Engine

/-!
# Tags that are declared in another order

Without cycles, the levels do not depend on the order in which the tags are declared. Where tags only
test membership, a level sees the same tags whatever the order, so that the same tags are added.

* `Course.Reordered`: two courses with the same tags in another order.
* `Course.Reordered.tagsAt_perm`: their tag lists hold the same tags.
* `Course.Reordered.defined_iff`: the same rules can be evaluated.
* `DependencyGraph.levelOf_eq_of_perm`: the levels do not depend on the order of declaration.
* `Engine.tagRecords_reordered`: tagging does not depend on the order of declaration.
-/

namespace TagRules

open Outcome

/-- Adding the same names, in another order, to the same tags gives the same tags. -/
theorem addAll_perm {names names' tags tags' : List String} (hnodup : names.Nodup)
    (hnames : names.Perm names') (htags : tags.Perm tags') :
    (addAll names tags).Perm (addAll names' tags') := by
  rw [addAll_eq_append hnodup, addAll_eq_append (hnames.nodup_iff.1 hnodup)]
  have hnew : (names.filter fun name => name ∉ tags) = names.filter fun name => name ∉ tags' :=
    List.filter_congr fun name _ => by simp only [htags.mem_iff]
  exact htags.append (hnew ▸ hnames.filter _)

/-! ### Courses -/

namespace Course

/-- **Two courses with the same tags in another order**, which test membership. -/
structure Reordered (c c' : Course) : Prop where
  registry : c'.registry = c.registry
  start : c'.start = c.start
  ranked : c.ranked.Perm c'.ranked
  nodup : (c.ranked.map (·.1.name)).Nodup
  ignoresTags : c.registry.IgnoresTags
  tests : ∀ e ∈ c.ranked, e.1.TestsStandardMembership c.registry

variable {c c' : Course}

/-- **The tag lists hold the same tags** before every level. -/
theorem Reordered.tagsAt_perm (h : Reordered c c') (r : Record) (level : Nat) :
    (c.tagsAt r level).Perm (c'.tagsAt r level) := by
  induction level with
  | zero =>
    show (c.start r).Perm (c'.start r)
    rw [h.start]
  | succ level ih =>
    have hholds : ∀ e ∈ c.ranked, e.1.rule.holds c.registry (c.view level r) =
        e.1.rule.holds c'.registry (c'.view level r) := by
      intro e he
      rw [h.registry]
      exact Tag.holds_withTags_eq h.ignoresTags (h.tests e he) (fun name _ => ih.mem_iff) r
    have hmatched : (c.matched r level).Perm (c'.matched r level) := by
      have hsame : c.matched r level = ((c.ranked.filter (·.2 = level)).filter fun e =>
          e.1.rule.holds c'.registry (c'.view level r)).map (·.1.name) :=
        congrArg _ (List.filter_congr fun e he => hholds e (List.mem_of_mem_filter he))
      rw [hsame, matched]
      exact ((h.ranked.filter _).filter _).map _
    rw [tagsAt_succ_eq_addAll, tagsAt_succ_eq_addAll]
    refine addAll_perm ?_ hmatched ih
    exact h.nodup.sublist ((List.filter_sublist.trans List.filter_sublist).map _)

/-- **The same rules can be evaluated.** -/
theorem Reordered.defined_iff (h : Reordered c c') (records : RecordSet) :
    c.Defined records ↔ c'.Defined records := by
  refine forall₂_congr fun r _ => ?_
  have hrule : ∀ e ∈ c.ranked, e.1.rule.Defined c.registry (c.view e.2 r) ↔
      e.1.rule.Defined c'.registry (c'.view e.2 r) := by
    intro e he
    rw [h.registry]
    exact Tag.defined_withTags_iff h.ignoresTags (h.tests e he)
      (fun name _ => (h.tagsAt_perm r e.2).mem_iff) r
  exact ⟨fun hall e he => (hrule e (h.ranked.mem_iff.2 he)).1 (hall e (h.ranked.mem_iff.2 he)),
    fun hall e he => (hrule e he).2 (hall e (h.ranked.mem_iff.1 he))⟩

end Course

/-! ### Levels -/

variable {tags tags' : TagSet} {reg : Registry} {options : TaggingOptions} {levels levels' : List Nat}

theorem DependencyGraph.nodes_perm (hperm : tags.tags.Perm tags'.tags) :
    (ofTags tags).nodes.Perm (ofTags tags').nodes := by
  rw [nodes_ofTags, nodes_ofTags]
  exact hperm.map _

/-- **The levels do not depend on the order of declaration.** -/
theorem DependencyGraph.levelOf_eq_of_perm (hperm : tags.tags.Perm tags'.tags)
    (hlevels : (ofTags tags).levels = .ok levels) (hlevels' : (ofTags tags').levels = .ok levels')
    (name : String) : (ofTags tags).levelOf levels name = (ofTags tags').levelOf levels' name := by
  by_cases hname : name ∈ (ofTags tags).names
  · exact (partOf_of_perm (nodes_perm hperm)).levelOf_eq hlevels hlevels' hname
  · have hname' : name ∉ (ofTags tags').names := fun hmem =>
      hname (((nodes_perm hperm).map TagNode.name).mem_iff.2 hmem)
    rw [levelOf_of_not_mem hname, levelOf_of_not_mem hname']

/-- The courses of tags in another order. -/
theorem reordered_course (hperm : tags.tags.Perm tags'.tags)
    (hlevels : (DependencyGraph.ofTags tags).levels = .ok levels)
    (hlevels' : (DependencyGraph.ofTags tags').levels = .ok levels') (hreg : reg.IgnoresTags)
    (htests : ∀ t ∈ tags.tags, t.TestsStandardMembership reg) :
    (tags.course reg options levels).Reordered (tags'.course reg options levels') := by
  have hnames : tags.names.Perm tags'.names := hperm.map _
  have hranked : tags.tags.zip levels =
      tags.tags.map fun t => (t, (DependencyGraph.ofTags tags).levelOf levels t.name) :=
    DependencyGraph.zip_levels_eq (DependencyGraph.names_ofTags tags)
      (DependencyGraph.length_levels hlevels)
  have hranked' : tags'.tags.zip levels' =
      tags'.tags.map fun t => (t, (DependencyGraph.ofTags tags).levelOf levels t.name) := by
    rw [DependencyGraph.zip_levels_eq (DependencyGraph.names_ofTags tags')
      (DependencyGraph.length_levels hlevels')]
    simp only [DependencyGraph.levelOf_eq_of_perm hperm hlevels hlevels']
  refine ⟨rfl, ?_, ?_, ?_, hreg, fun e he => htests e.1 (List.of_mem_zip he).1⟩
  · funext r
    show startTags tags'.names _ r = startTags tags.names _ r
    unfold startTags
    have hsame : (fun tag => !tags'.names.contains tag) = fun tag => !tags.names.contains tag := by
      funext tag
      rw [Bool.eq_iff_iff]
      simp [hnames.mem_iff]
    rw [hsame]
  · show (tags.tags.zip levels).Perm (tags'.tags.zip levels')
    rw [hranked, hranked']
    exact hperm.map _
  · show ((tags.tags.zip levels).map (·.1.name)).Nodup
    rw [hranked, List.map_map]
    exact tags.nodup

/-! ### Tagging -/

theorem validate_iff_of_perm (hperm : tags.tags.Perm tags'.tags) :
    tags.validate reg = .ok () ↔ tags'.validate reg = .ok () :=
  forM_eq_ok_iff.trans (Iff.trans (by simp only [hperm.mem_iff]) forM_eq_ok_iff.symm)

/-- **Two records carry the same tags**, and have the same other fields. -/
structure Record.SameTags (x y : Record) : Prop where
  fields : x.AgreesOffTags y
  tags : x.tags.Perm y.tags

/-- **Tagging does not depend on the order of declaration** where there are no cycles and the tags only
test membership: the tags have the same levels, there are engines for both orders or for none, and
these give records with the same tags, or both fail. -/
theorem Engine.tagRecords_reordered (hperm : tags.tags.Perm tags'.tags)
    (hacyclic : ∀ cycle, ¬(DependencyGraph.ofTags tags).IsCycle cycle) (hreg : reg.IgnoresTags)
    (htests : ∀ t ∈ tags.tags, t.TestsStandardMembership reg) :
    (∃ levels levels', (DependencyGraph.ofTags tags).levels = .ok levels ∧
      (DependencyGraph.ofTags tags').levels = .ok levels' ∧
      ∀ name, (DependencyGraph.ofTags tags).levelOf levels name =
        (DependencyGraph.ofTags tags').levelOf levels' name) ∧
    ∀ kind options, ((∃ engine, make kind tags reg options = .ok engine) ↔
        ∃ engine', make kind tags' reg options = .ok engine') ∧
      ∀ engine engine', make kind tags reg options = .ok engine →
        make kind tags' reg options = .ok engine' → ∀ records : RecordSet,
          AgreeUpTo (List.Forall₂ Record.SameTags) (engine.tagRecords records)
            (engine'.tagRecords records) := by
  obtain ⟨levels, hlevels⟩ := DependencyGraph.exists_levels hacyclic
  obtain ⟨levels', hlevels'⟩ :=
    (DependencyGraph.partOf_of_perm (DependencyGraph.nodes_perm hperm).symm).exists_levels hlevels
  have hacyclic' := DependencyGraph.not_isCycle_of_levels hlevels'
  refine ⟨⟨levels, levels', hlevels, hlevels',
    DependencyGraph.levelOf_eq_of_perm hperm hlevels hlevels'⟩, fun kind options => ⟨?_, ?_⟩⟩
  · rw [exists_make_iff hacyclic, exists_make_iff hacyclic', validate_iff_of_perm hperm]
  · intro engine engine' hmake hmake' records
    have hcourse : (tags.course reg options levels).Reordered (tags'.course reg options levels') :=
      reordered_course hperm hlevels hlevels' hreg htests
    obtain ⟨height, hheight, hheight'⟩ := exists_height levels levels'
    have hkept : (DependencyGraph.ofTags tags).removeCycles.1.levels = .ok levels := by
      rw [DependencyGraph.removeCycles_eq_self hacyclic]
      exact hlevels
    have hkept' : (DependencyGraph.ofTags tags').removeCycles.1.levels = .ok levels' := by
      rw [DependencyGraph.removeCycles_eq_self hacyclic']
      exact hlevels'
    refine Ends.agreeUpTo (ends_tagRecords hreg hmake hkept hheight records)
      (ends_tagRecords hreg hmake' hkept' hheight' records) (hcourse.defined_iff records) fun _ => ?_
    rw [List.forall₂_map_left_iff, List.forall₂_map_right_iff, List.forall₂_same]
    refine fun r _ => ⟨?_, ?_⟩
    · exact (r.agreesOffTags_withTags _).symm.trans (r.agreesOffTags_withTags _)
    · rw [Course.tags_view, Course.tags_view]
      exact hcourse.tagsAt_perm r height

/-- The tag of those with a name. -/
def residentTag : Tag where
  name := "resident"
  rule := .any [.all [.custom "named"]]
  name_ne := by decide
  canonical := by decide +kernel

/-- The tag of all others. -/
def visitorTag : Tag where
  name := "visitor"
  rule := .any [.all [.condition ⟨tagsField, none, "not_in", .ofStrings ["resident"]⟩]]
  name_ne := by decide
  canonical := by decide +kernel

/-- Visitors, who depend on the residents, and then residents. -/
def townTags : TagSet := ⟨[visitorTag, residentTag], by decide⟩

/-- Residents, and then visitors. -/
def townTagsReordered : TagSet := ⟨[residentTag, visitorTag], by decide⟩

theorem testsStandardMembership_townTags :
    ∀ t ∈ townTags.tags, t.TestsStandardMembership namedRegistry := by
  intro t ht c hc href
  obtain rfl | rfl : t = visitorTag ∨ t = residentTag := by simpa [townTags] using ht
  · obtain rfl : c = ⟨tagsField, none, "not_in", .ofStrings ["resident"]⟩ := by
      simpa [visitorTag, Rule.subrules, Rule.subrulesList] using hc
    exact ⟨⟨rfl, by decide⟩, rfl⟩
  · simp [residentTag, Rule.subrules, Rule.subrulesList] at hc

theorem Engine.tagRecords_reordered_townTags :
    ∃ engine engine', make (.planned .optimized) townTags namedRegistry ⟨false⟩ = .ok engine ∧
      make (.planned .optimized) townTagsReordered namedRegistry ⟨false⟩ = .ok engine' ∧
      ∀ records, AgreeUpTo (List.Forall₂ Record.SameTags) (engine.tagRecords records)
        (engine'.tagRecords records) := by
  obtain ⟨engine, hmake⟩ : ∃ engine,
      make (.planned .optimized) townTags namedRegistry ⟨false⟩ = .ok engine := ⟨_, rfl⟩
  obtain ⟨engine', hmake'⟩ : ∃ engine',
      make (.planned .optimized) townTagsReordered namedRegistry ⟨false⟩ = .ok engine' := ⟨_, rfl⟩
  have hlevels : (DependencyGraph.ofTags townTags).levels = .ok [1, 0] := rfl
  have hperm : townTags.tags.Perm townTagsReordered.tags := List.Perm.swap _ _ _
  refine ⟨engine, engine', hmake, hmake', ?_⟩
  exact ((tagRecords_reordered hperm (DependencyGraph.not_isCycle_of_levels hlevels)
    ignoresTags_namedRegistry testsStandardMembership_townTags).2 _ _).2 engine engine' hmake hmake'

end TagRules
