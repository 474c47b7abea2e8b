import TagRules.Proofs.Dependency.Extension
import TagRules.Proofs.Tag.Membership
import TagRules.Proofs.Tagging.Added
import TagRules.Proofs.Tagging.Engine

/-!
# A further tag that no other tag depends on

Where tags only test membership, a further tag that none of them depends on changes nothing for
them, whatever it reads itself: not their levels, not the dependencies that they lose when cycles are
broken, and not the records that they are added to.

* `Course.Extended`: two courses, of which the second one has the further tag.
* `Course.Extended.filter_tagsAt`: the tag lists are the same but for the further tag.
* `DependencyGraph.extendedBy_ofTags`: the graph with the further tag.
* `Record.withoutTag`: a record without a tag.
* `Engine.tagRecords_extended`: the further tag does not interfere with the others.
-/

namespace TagRules

/-! ### Courses -/

namespace Course

/-- **A course extended by a further tag** with some name. The tags of the first course test
membership, and none depends on this name. -/
structure Extended (c c' : Course) (name : String) : Prop where
  registry : c'.registry = c.registry
  start : ∀ r, (c'.start r).filter (· ≠ name) = (c.start r).filter (· ≠ name)
  ranked : c'.ranked.filter (·.1.name ≠ name) = c.ranked
  independent : ∀ e ∈ c.ranked, name ∉ e.1.dependsOn
  ignoresTags : c.registry.IgnoresTags
  tests : ∀ e ∈ c.ranked, e.1.TestsStandardMembership c.registry

variable {c c' : Course} {name : String}

/-- A part of the names that a level adds is what a part of the tags adds. -/
theorem filter_matched (p : String → Bool) (r : Record) (level : Nat) :
    (c.matched r level).filter p = (((c.ranked.filter (p ·.1.name)).filter (·.2 = level)).filter
      fun e => e.1.rule.holds c.registry (c.view level r)).map (·.1.name) := by
  rw [matched, List.filter_map, List.filter_comm, List.filter_comm (p := p ∘ _)]
  rfl

theorem Extended.name_ne (h : Extended c c' name) : ∀ e ∈ c.ranked, e.1.name ≠ name := by
  intro e he
  rw [← h.ranked] at he
  exact of_decide_eq_true (List.mem_filter.1 he).2

/-- **The tag lists are the same but for the further tag**, before every level. -/
theorem Extended.filter_tagsAt (h : Extended c c' name) (r : Record) (level : Nat) :
    (c'.tagsAt r level).filter (· ≠ name) = (c.tagsAt r level).filter (· ≠ name) := by
  induction level with
  | zero => exact h.start r
  | succ level ih =>
    -- The other tags read nothing of the tag lists in which these differ.
    have hholds : ∀ e ∈ c.ranked, e.1.rule.holds c'.registry (c'.view level r) =
        e.1.rule.holds c.registry (c.view level r) := by
      intro e he
      rw [h.registry]
      refine Tag.holds_withTags_eq h.ignoresTags (h.tests e he) (fun d hd => ?_) r
      have hne : d ≠ name := fun heq => h.independent e he (heq ▸ hd)
      have hmem : d ∈ (c'.tagsAt r level).filter (· ≠ name) ↔
          d ∈ (c.tagsAt r level).filter (· ≠ name) := by rw [ih]
      simpa [hne] using hmem
    have hmatched : (c'.matched r level).filter (· ≠ name) =
        (c.matched r level).filter (· ≠ name) := by
      have hall : c.ranked.filter (·.1.name ≠ name) = c.ranked :=
        List.filter_eq_self.2 fun e he => decide_eq_true (h.name_ne e he)
      rw [filter_matched, filter_matched, h.ranked, hall]
      exact congrArg _ (List.filter_congr fun e he => hholds e (List.mem_of_mem_filter he))
    rw [tagsAt_succ_eq_addAll, tagsAt_succ_eq_addAll, filter_addAll, filter_addAll, hmatched, ih]

end Course

/-! ### Tag sets -/

variable {tags tags' : TagSet} {before after : List Tag} {further : Tag} {reg : Registry}
  {options : TaggingOptions} {levels levels' : List Nat}

/-- The tags in a course, with the levels of their names. -/
theorem TagSet.ranked_course
    (hlevels : (DependencyGraph.ofTags tags).removeCycles.1.levels = .ok levels) :
    (tags.course reg options levels).ranked = tags.tags.map fun t =>
      (t, (DependencyGraph.ofTags tags).removeCycles.1.levelOf levels t.name) :=
  DependencyGraph.zip_levels_eq
    ((DependencyGraph.names_removeCycles _).trans (DependencyGraph.names_ofTags tags))
    (DependencyGraph.length_levels hlevels)

/-- **The further tag does not change the levels** of the others. -/
theorem DependencyGraph.ExtendedBy.levelOf_eq (h : ExtendedBy (ofTags tags) (ofTags tags'))
    (hlevels : (ofTags tags).removeCycles.1.levels = .ok levels)
    (hlevels' : (ofTags tags').removeCycles.1.levels = .ok levels') {t : Tag} (ht : t ∈ tags.tags) :
    (ofTags tags).removeCycles.1.levelOf levels t.name =
      (ofTags tags').removeCycles.1.levelOf levels' t.name := by
  refine h.partOf_removeCycles.levelOf_eq hlevels hlevels' ?_
  rw [names_removeCycles, names_ofTags]
  exact List.mem_map_of_mem ht

section

variable (htags : tags.tags = before ++ after) (htags' : tags'.tags = before ++ further :: after)

include htags htags'

/-- The other tags, from all. -/
theorem TagSet.filter_tags :
    tags'.tags.filter (·.name ≠ further.name) = tags.tags := by
  have hne : ∀ t ∈ before ++ after, t.name ≠ further.name := by
    have hnodup : ((further :: (before ++ after)).map Tag.name).Nodup :=
      (List.perm_middle.map _).nodup_iff.1 (htags' ▸ tags'.nodup)
    rw [List.map_cons, List.nodup_cons] at hnodup
    exact fun t ht heq => hnodup.1 (heq ▸ List.mem_map_of_mem ht)
  rw [htags, htags', List.filter_append, List.filter_cons_of_neg (by simp), ← List.filter_append]
  exact List.filter_eq_self.2 fun t ht => decide_eq_true (hne t ht)

theorem TagSet.mem_names_iff_of_ne {name : String} (hne : name ≠ further.name) :
    name ∈ tags'.names ↔ name ∈ tags.names := by
  rw [names, names, htags, htags', List.map_append, List.map_append, List.map_cons]
  simp [hne]

/-- **The graph with the further tag** extends the graph. -/
theorem DependencyGraph.extendedBy_ofTags
    (hfree : ∀ t ∈ tags.tags, further.name ∉ t.dependsOn) :
    ExtendedBy (ofTags tags) (ofTags tags') where
  sublist := by
    rw [nodes_ofTags, nodes_ofTags, htags, htags']
    exact ((List.sublist_cons_self _ _).append_left _).map _
  closed := by
    intro node hnode name hname hmem
    rw [nodes_ofTags] at hnode
    obtain ⟨t, ht, rfl⟩ := List.mem_map.1 hnode
    have hne : name ≠ further.name := fun heq => hfree t ht (heq ▸ hname)
    rw [names_ofTags] at hmem ⊢
    exact (TagSet.mem_names_iff_of_ne htags htags' hne).1 hmem

/-- The tag lists start the same but for the further tag. -/
theorem filter_startTags (removeOldTags : Bool) (r : Record) :
    (startTags tags'.names removeOldTags r).filter (· ≠ further.name) =
      (startTags tags.names removeOldTags r).filter (· ≠ further.name) := by
  unfold startTags
  split
  · rw [List.filter_filter, List.filter_filter]
    refine List.filter_congr fun tag _ => ?_
    by_cases hne : tag = further.name
    · simp [hne]
    · simp [TagSet.mem_names_iff_of_ne htags htags' hne]
  · rfl

/-- The courses of the tags without and with the further one. -/
theorem extended_course (hfree : ∀ t ∈ tags.tags, further.name ∉ t.dependsOn)
    (hlevels : (DependencyGraph.ofTags tags).removeCycles.1.levels = .ok levels)
    (hlevels' : (DependencyGraph.ofTags tags').removeCycles.1.levels = .ok levels')
    (hreg : reg.IgnoresTags) (htests : ∀ t ∈ tags.tags, t.TestsStandardMembership reg) :
    (tags.course reg options levels).Extended (tags'.course reg options levels') further.name where
  registry := rfl
  start := filter_startTags htags htags' options.removeOldTags
  ranked := by
    have hextended := DependencyGraph.extendedBy_ofTags htags htags' hfree
    rw [TagSet.ranked_course hlevels, TagSet.ranked_course hlevels', List.filter_map,
      ← TagSet.filter_tags htags htags']
    refine List.map_congr_left fun t ht => ?_
    have ht' : t ∈ tags.tags := TagSet.filter_tags htags htags' ▸ ht
    rw [hextended.levelOf_eq hlevels hlevels' ht']
  independent e he := hfree e.1 (List.of_mem_zip he).1
  ignoresTags := hreg
  tests e he := htests e.1 (List.of_mem_zip he).1

end

/-! ### Tagging -/

/-- A record without a tag. -/
def Record.withoutTag (r : Record) (name : String) : Record :=
  r.withTags (r.tags.filter (· ≠ name))

/-- **The records are the same but for the further tag**, before every level. -/
theorem Course.Extended.withoutTag_view {c c' : Course} {name : String} (h : Extended c c' name)
    (r : Record) (level : Nat) :
    (c'.view level r).withoutTag name = (c.view level r).withoutTag name := by
  rw [Record.withoutTag, Record.withoutTag, tags_view, tags_view, h.filter_tagsAt]
  exact ((r.agreesOffTags_withTags _).symm.trans (r.agreesOffTags_withTags _)).withTags_eq _

/-- **A further tag that no other tag depends on does not interfere with the others**, wherever it is
declared and whatever it reads. The others have the same levels, they lose the same dependencies on
each other in the same order, and where both runs succeed, the records are the same but for the
further tag. -/
theorem Engine.tagRecords_extended (htags : tags.tags = before ++ after)
    (htags' : tags'.tags = before ++ further :: after)
    (hfree : ∀ t ∈ tags.tags, further.name ∉ t.dependsOn) (hreg : reg.IgnoresTags)
    (htests : ∀ t ∈ tags.tags, t.TestsStandardMembership reg) :
    (∃ levels levels', (DependencyGraph.ofTags tags).removeCycles.1.levels = .ok levels ∧
      (DependencyGraph.ofTags tags').removeCycles.1.levels = .ok levels' ∧
      ∀ t ∈ tags.tags, (DependencyGraph.ofTags tags).removeCycles.1.levelOf levels t.name =
        (DependencyGraph.ofTags tags').removeCycles.1.levelOf levels' t.name) ∧
    (DependencyGraph.ofTags tags').removeCycles.2.filter (·.Between tags.names) =
      (DependencyGraph.ofTags tags).removeCycles.2 ∧
    ∀ kind options engine engine', make kind tags reg options = .ok engine →
      make kind tags' reg options = .ok engine' → ∀ records out out' : RecordSet,
        engine.tagRecords records = .ok out → engine'.tagRecords records = .ok out' →
          out'.map (·.withoutTag further.name) = out.map (·.withoutTag further.name) := by
  have hextended := DependencyGraph.extendedBy_ofTags htags htags' hfree
  obtain ⟨levels, hlevels⟩ := DependencyGraph.exists_levels
    (DependencyGraph.not_isCycle_removeCycles (DependencyGraph.ofTags tags))
  obtain ⟨levels', hlevels'⟩ := DependencyGraph.exists_levels
    (DependencyGraph.not_isCycle_removeCycles (DependencyGraph.ofTags tags'))
  refine ⟨⟨levels, levels', hlevels, hlevels', ?_⟩, ?_, ?_⟩
  · exact fun t => hextended.levelOf_eq hlevels hlevels'
  · rw [← DependencyGraph.names_ofTags]
    exact hextended.filter_removed
  · intro kind options engine engine' hmake hmake' records out out' hrun hrun'
    have hcourse : (tags.course reg options levels).Extended (tags'.course reg options levels')
        further.name := extended_course htags htags' hfree hlevels hlevels' hreg htests
    obtain ⟨height, hheight, hheight'⟩ := exists_height levels levels'
    obtain ⟨rfl, -⟩ := (ends_tagRecords hreg hmake hlevels hheight records).ok hrun
    obtain ⟨rfl, -⟩ := (ends_tagRecords hreg hmake' hlevels' hheight' records).ok hrun'
    rw [List.map_map, List.map_map]
    exact List.map_congr_left fun r _ => hcourse.withoutTag_view r height

/-- A tag that reads itself and the tag of members, and that nobody reads. -/
def auditedTag : Tag where
  name := "audited"
  rule := .any [.all [.tagged "audited"], .all [.tagged "member"]]
  name_ne := by decide
  canonical := by decide +kernel

/-- Members and guests, who depend on each other, with audited ones between them. -/
def auditedTags : TagSet := ⟨[memberTag, auditedTag, guestTag], by decide⟩

/-- A guest by age who is audited. -/
def auditedGuest : Record := (Record.empty.insert "age" (.int 18)).withTags ["audited", "guest"]

theorem testsStandardMembership_tagged (name : String) :
    Condition.TestsStandardMembership namedRegistry
      ⟨tagsField, none, "contains", .string name⟩ := by
  refine ⟨⟨rfl, ?_⟩, rfl⟩
  show "contains" ∈ Comparator.membership
  decide

theorem testsStandardMembership_circularTags :
    ∀ t ∈ circularTags.tags, t.TestsStandardMembership namedRegistry := by
  intro t ht c hc href
  obtain rfl | rfl : t = memberTag ∨ t = guestTag := by simpa [circularTags] using ht
  · obtain rfl : c = ⟨tagsField, none, "contains", .string "guest"⟩ := by
      simpa [memberTag, Rule.subrules, Rule.subrulesList, Rule.tagged] using hc
    exact testsStandardMembership_tagged "guest"
  · obtain rfl | rfl | rfl : c = ⟨tagsField, none, "contains", .string "member"⟩ ∨
        c = ⟨tagsField, none, "contains", .string "guest"⟩ ∨
          c = ⟨"age", none, "in", .list [.int 18]⟩ := by
      simpa [guestTag, Rule.subrules, Rule.subrulesList, Rule.tagged, Rule.fieldIn] using hc
    · exact testsStandardMembership_tagged "member"
    · exact testsStandardMembership_tagged "guest"
    · exact absurd href (by decide)

theorem Engine.tagRecords_extended_auditedTags : ∃ engine engine' out out',
    make .linear circularTags namedRegistry ⟨false⟩ = .ok engine ∧
    make .linear auditedTags namedRegistry ⟨false⟩ = .ok engine' ∧
    engine.tagRecords [auditedGuest] = .ok out ∧ engine'.tagRecords [auditedGuest] = .ok out' ∧
    (∀ t ∈ circularTags.tags,
      (DependencyGraph.ofTags circularTags).removeCycles.1.levelOf [0, 1] t.name =
        (DependencyGraph.ofTags auditedTags).removeCycles.1.levelOf [0, 1, 1] t.name) ∧
    (DependencyGraph.ofTags auditedTags).removeCycles.2.filter (·.Between circularTags.names) =
      (DependencyGraph.ofTags circularTags).removeCycles.2 ∧
    out'.map (·.withoutTag "audited") = out.map (·.withoutTag "audited") := by
  let engine : Engine :=
    .linear ⟨circularTags, namedRegistry, ⟨false⟩, LinearEngine.levelsOf [0, 1]⟩
  let engine' : Engine :=
    .linear ⟨auditedTags, namedRegistry, ⟨false⟩, LinearEngine.levelsOf [0, 1, 1]⟩
  have hmake : make .linear circularTags namedRegistry ⟨false⟩ = .ok engine := rfl
  have hmake' : make .linear auditedTags namedRegistry ⟨false⟩ = .ok engine' := rfl
  -- The sorts do not reduce, but there is nothing to sort.
  have hsorted : LinearEngine.levelsOf [0, 1] = [[0], [1]] := by
    rw [LinearEngine.levelsOf, List.mergeSort_of_pairwise (by decide)]
    rfl
  have hsorted' : LinearEngine.levelsOf [0, 1, 1] = [[0], [1, 2]] := by
    rw [LinearEngine.levelsOf, List.mergeSort_of_pairwise (by decide)]
    rfl
  obtain ⟨out, hrun⟩ : ∃ out, engine.tagRecords [auditedGuest] = .ok out := by
    simp only [engine, hsorted]
    exact ⟨_, rfl⟩
  obtain ⟨out', hrun'⟩ : ∃ out', engine'.tagRecords [auditedGuest] = .ok out' := by
    simp only [engine', hsorted']
    exact ⟨_, rfl⟩
  have htags : circularTags.tags = [memberTag] ++ [guestTag] := rfl
  have htags' : auditedTags.tags = [memberTag] ++ auditedTag :: [guestTag] := rfl
  obtain ⟨⟨levels, levels', hlevels, hlevels', hlevel⟩, hremoved, hsame⟩ :=
    tagRecords_extended htags htags' (by decide) ignoresTags_namedRegistry
      testsStandardMembership_circularTags
  have htwo : (DependencyGraph.ofTags circularTags).removeCycles.1.levels = .ok [0, 1] := rfl
  have hthree : (DependencyGraph.ofTags auditedTags).removeCycles.1.levels = .ok [0, 1, 1] := rfl
  cases hlevels.symm.trans htwo
  cases hlevels'.symm.trans hthree
  exact ⟨engine, engine', out, out', hmake, hmake', hrun, hrun', hlevel, hremoved,
    hsame .linear ⟨false⟩ engine engine' hmake hmake' _ _ _ hrun hrun'⟩

end TagRules
