import TagRules.Proofs.Dependency.Congruence
import TagRules.Proofs.Tag.Reloaded
import TagRules.Proofs.Tagging.Agreement

/-!
# Tagging after storing and reading the tags

Tags that are stored and read again have the same names, and rules with the same leaves and truth
values. They depend on the same tags, so that they are taken at the same levels, and the course of
tagging stays the same.

* `TagSet.reloaded`, `TagSet.reload_eq`: the tags that are read again.
* `TagSet.sameDependencies_reloaded`: they depend on the same tags.
* `TagSet.tagsAt_reloaded`, `TagSet.defined_reloaded`: the course of tagging stays the same.
* `TagSet.reload_keeps_tagging`: storing and reading the tags does not change tagging.
-/

namespace TagRules

open Outcome

namespace TagSet

variable {tags : TagSet} {reg : Registry} {options : TaggingOptions} {levels : List Nat}

/-! ### The tags that are read again -/

theorem firstRepeated?_eq_none {seen names : List String} (hnodup : names.Nodup)
    (hseen : ∀ n ∈ names, n ∉ seen) : firstRepeated? seen names = none := by
  induction names generalizing seen with
  | nil => rfl
  | cons name rest ih =>
    obtain ⟨hname, hrest⟩ := List.nodup_cons.1 hnodup
    rw [firstRepeated?, if_neg (hseen name List.mem_cons_self)]
    refine ih hrest fun n hn hmem => ?_
    rcases List.mem_cons.1 hmem with rfl | hmem
    · exact hname hn
    · exact hseen n (List.mem_cons_of_mem _ hn) hmem

/-- Tags with different names are a tag set. -/
theorem ofTags_eq_ok {ts : List Tag} (h : (ts.map Tag.name).Nodup) : ofTags ts = .ok ⟨ts, h⟩ := by
  unfold ofTags
  split
  · rename_i name hrepeated
    rw [firstRepeated?_eq_none h (by simp)] at hrepeated
    cases hrepeated
  · rfl

/-- Stores the rules of all tags and reads them again. -/
def reload (tags : TagSet) (reg : Registry) : Except RuleError TagSet := do
  ofTags (← tags.tags.mapM fun t => t.reload reg)

theorem names_reloaded (ts : List Tag) : (ts.map Tag.reloaded).map Tag.name = ts.map Tag.name := by
  rw [List.map_map]
  rfl

/-- **The tags that are read again.** -/
def reloaded (tags : TagSet) : TagSet where
  tags := tags.tags.map Tag.reloaded
  nodup := by
    rw [names_reloaded]
    exact tags.nodup

/-- **Valid tags are read again** if their floats are finite. -/
theorem reload_eq (hvalid : tags.validate reg = .ok ())
    (hfinite : ∀ t ∈ tags.tags, t.rule.AllFinite) : tags.reload reg = .ok tags.reloaded := by
  have hread : tags.tags.mapM (fun t => t.reload reg) = .ok (tags.tags.map Tag.reloaded) :=
    mapM_eq_ok_map fun t ht => Tag.reload_eq (forM_eq_ok_iff.1 hvalid t ht) (hfinite t ht)
  exact bind_eq_ok_iff.2 ⟨_, hread, ofTags_eq_ok tags.reloaded.nodup⟩

theorem validate_reloaded (hvalid : tags.validate reg = .ok ()) :
    tags.reloaded.validate reg = .ok () :=
  forM_eq_ok_iff.2 (List.forall_mem_map.2 fun t ht =>
    Tag.validate_reloaded (forM_eq_ok_iff.1 hvalid t ht))

/-! ### Dependencies -/

/-- **The tags that are read again depend on the same tags**, though maybe in another order. -/
theorem sameDependencies_reloaded (tags : TagSet) :
    (DependencyGraph.ofTags tags).SameDependencies (DependencyGraph.ofTags tags.reloaded) := by
  refine ⟨?_, fun i name => ?_⟩
  · rw [DependencyGraph.names, DependencyGraph.names, DependencyGraph.nodes_ofTags,
      DependencyGraph.nodes_ofTags, reloaded, List.map_map, List.map_map, List.map_map]
    rfl
  · rw [DependencyGraph.dependsOn, DependencyGraph.dependsOn, DependencyGraph.nodes_ofTags,
      DependencyGraph.nodes_ofTags, reloaded, List.map_map, List.getElem?_map, List.getElem?_map]
    cases tags.tags[i]? with
    | none => rfl
    | some t => exact t.sameMeaning_reloaded.tagReferences name

/-! ### The course -/

theorem ranked_reloaded : (tags.reloaded.course reg options levels).ranked =
    (tags.course reg options levels).ranked.map fun e => (e.1.reloaded, e.2) :=
  List.zip_map_left

/-- **The tag lists stay the same**, at every level. -/
theorem tagsAt_reloaded (record : Record) (level : Nat) :
    (tags.reloaded.course reg options levels).tagsAt record level =
      (tags.course reg options levels).tagsAt record level := by
  induction level with
  | zero =>
    show startTags tags.reloaded.names _ _ = startTags tags.names _ _
    rw [names, reloaded, names_reloaded]
    rfl
  | succ level ih =>
    -- The same names are added at this level, as the rules have the truth values that they had.
    rw [Course.tagsAt_succ, Course.tagsAt_succ, ranked_reloaded, List.filter_map, List.foldl_map,
      Course.view, Course.view, ih]
    congr 1
    funext lists e
    rw [Tag.holds_reloaded]
    rfl

theorem view_reloaded (level : Nat) : (tags.reloaded.course reg options levels).view level =
    (tags.course reg options levels).view level := by
  funext record
  rw [Course.view, Course.view, tagsAt_reloaded]

/-- **The same rules can be evaluated**, on the same records. -/
theorem defined_reloaded (records : RecordSet) :
    (tags.reloaded.course reg options levels).Defined records ↔
      (tags.course reg options levels).Defined records := by
  refine forall₂_congr fun record _ => ?_
  rw [ranked_reloaded, List.forall_mem_map]
  refine forall₂_congr fun e _ => ?_
  rw [view_reloaded]
  exact e.1.sameMeaning_reloaded.defined_iff.symm

/-! ### Tagging -/

/-- Engines for the tags and for the tags that are read again give the same records, or both fail. -/
theorem agree_reloaded (hvalid : tags.validate reg = .ok ()) (options : TaggingOptions)
    (hlevels : (DependencyGraph.ofTags tags).removeCycles.1.levels = .ok levels)
    (records : RecordSet) :
    Agree (LinearEngine.tagRecords ⟨tags, reg, options, LinearEngine.levelsOf levels⟩ records)
      (LinearEngine.tagRecords ⟨tags.reloaded, reg, options, LinearEngine.levelsOf levels⟩
        records) := by
  have hlength := DependencyGraph.length_levels_ofTags hlevels
  have hlength' : levels.length = tags.reloaded.tags.length := by
    rw [hlength, reloaded, List.length_map]
  have hheight : ∀ level ∈ levels, level < LinearEngine.levelCount levels :=
    fun level hlevel => LinearEngine.lt_levelCount hlevel
  -- Both engines take the records through the same course.
  have hrun' : Ends (fun out => out = records.map ((tags.course reg options levels).view
      (LinearEngine.levelCount levels)) ∧ (tags.course reg options levels).Defined records)
      (fun _ => ¬(tags.course reg options levels).Defined records)
      (LinearEngine.tagRecords ⟨tags.reloaded, reg, options, LinearEngine.levelsOf levels⟩
        records) := by
    rw [← view_reloaded, ← defined_reloaded]
    exact LinearEngine.ends_tagRecords (validate_reloaded hvalid) hlength' hheight records
  exact (LinearEngine.ends_tagRecords hvalid hlength hheight records).agreement hrun'

/-- **Two tag sets tag alike** under a registry. -/
structure TagAlike (reg : Registry) (tags stored : TagSet) : Prop where
  /-- The names are the same, in the same order. -/
  names : stored.names = tags.names
  /-- The same dependencies are dropped to break the cycles, in the same order. -/
  removed : (DependencyGraph.ofTags stored).removeCycles.2 =
    (DependencyGraph.ofTags tags).removeCycles.2
  /-- The levels are the same when the cycles are broken. -/
  levels : ∃ levels, (DependencyGraph.ofTags tags).removeCycles.1.levels = .ok levels ∧
    (DependencyGraph.ofTags stored).removeCycles.1.levels = .ok levels
  /-- When the cycles are kept, the levels are the same or missing for both. -/
  levelsKept : Agree (DependencyGraph.ofTags tags).levels (DependencyGraph.ofTags stored).levels
  /-- There are engines for both, which give the same records, or both fail. -/
  tagging : ∀ options, ∃ engine engine', LinearEngine.make tags reg options = .ok engine ∧
    LinearEngine.make stored reg options = .ok engine' ∧
    ∀ records, Agree (engine.tagRecords records) (engine'.tagRecords records)

/-- **Storing and reading the tags does not change tagging.** Valid tags whose floats are finite are
all read again, and tag alike. -/
theorem reload_keeps_tagging (hvalid : tags.validate reg = .ok ())
    (hfinite : ∀ t ∈ tags.tags, t.rule.AllFinite) :
    ∃ stored, tags.reload reg = .ok stored ∧ TagAlike reg tags stored := by
  have hsame := sameDependencies_reloaded tags
  obtain ⟨hleft, hremoved⟩ := hsame.removeCycles
  obtain ⟨levels, hlevels⟩ := DependencyGraph.exists_levels
    (DependencyGraph.not_isCycle_removeCycles (DependencyGraph.ofTags tags))
  have hlevels' := hleft.levels_eq_ok hlevels
  refine ⟨tags.reloaded, reload_eq hvalid hfinite, names_reloaded _, hremoved.symm,
    ⟨levels, hlevels, hlevels'⟩, agree_of_forall fun _ => hsame.levels_eq_ok_iff, fun options => ?_⟩
  obtain ⟨engine, hengine⟩ := LinearEngine.exists_make hvalid options
  obtain ⟨engine', hengine'⟩ := LinearEngine.exists_make (validate_reloaded hvalid) options
  refine ⟨engine, engine', hengine, hengine', fun records => ?_⟩
  obtain ⟨-, _, hlevelsOf, rfl⟩ := LinearEngine.make_ok hengine
  obtain ⟨-, _, hlevelsOf', rfl⟩ := LinearEngine.make_ok hengine'
  cases hlevels.symm.trans hlevelsOf
  cases hlevels'.symm.trans hlevelsOf'
  exact agree_reloaded hvalid options hlevels records

theorem reload_keeps_tagging_circularTags :
    (DependencyGraph.ofTags circularTags).removeCycles.2 ≠ [] ∧
    ∃ stored, circularTags.reload namedRegistry = .ok stored ∧
      TagAlike namedRegistry circularTags stored := by
  have hvalid : circularTags.validate namedRegistry = .ok () := rfl
  have hfinite : ∀ t ∈ circularTags.tags, t.rule.AllFinite := by decide +kernel
  exact ⟨by decide +kernel, reload_keeps_tagging hvalid hfinite⟩

end TagSet

end TagRules
