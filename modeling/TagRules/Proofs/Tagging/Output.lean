import TagRules.Proofs.Tagging.Added
import TagRules.Proofs.Tagging.Agreement

/-!
# The shape of the output

A tagged record has the fields of the record, and a tag list that goes on where the record starts.
The tags that are added stand in the order of their levels, and in the order of declaration inside a
level.

* `TagSet.InLevelOrder`: all tags of a set, each once, in the order of their levels.
* `TaggedAlong`: what becomes of a record when tags are added in some order.
* `Course.tagsAt_eq_append`: the tag list before a level, as one list.
* `LinearEngine.tagRecords_shape`: what a linear engine makes of records.
-/

namespace TagRules

open Outcome

/-! ### The tag list before a level -/

namespace Course

variable {c : Course} {r : Record} {level : Nat}

/-- The tags that a level adds to a record, which does not start with them. -/
def added (c : Course) (r : Record) (level : Nat) : List (Tag × Nat) :=
  (c.ranked.filter (·.2 = level)).filter fun e =>
    e.1.name ∉ c.start r ∧ e.1.rule.holds c.registry (c.view e.2 r)

theorem mem_added {e : Tag × Nat} : e ∈ c.added r level ↔
    (e ∈ c.ranked ∧ e.2 = level) ∧ e.1.name ∉ c.start r ∧
      e.1.rule.holds c.registry (c.view e.2 r) := by
  rw [added, List.mem_filter, List.mem_filter, decide_eq_true_eq, decide_eq_true_eq]

/-- **The tag list before a level**: the start, and behind it what the lower levels add. -/
theorem tagsAt_eq_append (hnodup : (c.ranked.map (·.1.name)).Nodup) (r : Record) (level : Nat) :
    c.tagsAt r level =
      c.start r ++ ((List.range level).flatMap (c.added r)).map (·.1.name) := by
  induction level with
  | zero => exact (List.append_nil _).symm
  | succ level ih =>
    have hmatched : (c.matched r level).Nodup :=
      hnodup.sublist ((List.filter_sublist.trans List.filter_sublist).map _)
    have hadded : ((c.matched r level).filter fun name => name ∉ c.tagsAt r level) =
        (c.added r level).map (·.1.name) := by
      rw [matched, List.filter_map, List.filter_filter, added]
      congr 1
      refine List.filter_congr fun e he => ?_
      obtain ⟨hmem, hlevel⟩ := List.mem_filter.1 he
      rw [decide_eq_true_eq] at hlevel
      -- The lower levels have added tags with other names only.
      have hnew : e.1.name ∉ ((List.range level).flatMap (c.added r)).map (·.1.name) := by
        intro hname
        obtain ⟨e', he', hname⟩ := List.mem_map.1 hname
        obtain ⟨k, hk, he'⟩ := List.mem_flatMap.1 he'
        obtain ⟨⟨hmem', hlevel'⟩, -⟩ := mem_added.1 he'
        have heq : e' = e := List.inj_on_of_nodup_map hnodup hmem' hmem hname
        rw [heq, hlevel] at hlevel'
        exact Nat.lt_irrefl _ (hlevel' ▸ List.mem_range.1 hk)
      rw [ih, Bool.eq_iff_iff]
      simp [hnew, hlevel]
    rw [tagsAt_succ_eq_addAll, addAll_eq_append hmatched, hadded, ih, List.range_succ,
      List.flatMap_append, List.map_append, List.append_assoc]
    simp

/-- All tags of a course, in the order of their levels. -/
def inOrder (c : Course) (height : Nat) : List (Tag × Nat) :=
  (List.range height).flatMap fun level => c.ranked.filter (·.2 = level)

theorem mem_inOrder {height : Nat} (h : ∀ e ∈ c.ranked, e.2 < height) {e : Tag × Nat} :
    e ∈ c.inOrder height ↔ e ∈ c.ranked := by
  rw [inOrder, List.mem_flatMap]
  constructor
  · rintro ⟨level, -, he⟩
    exact List.mem_of_mem_filter he
  · exact fun he => ⟨e.2, List.mem_range.2 (h e he), List.mem_filter.2 ⟨he, by simp⟩⟩

/-- The tags that are added stand in the order of their levels. -/
theorem filter_inOrder (height : Nat) : (c.inOrder height).filter (fun e =>
    e.1.name ∉ c.start r ∧ e.1.rule.holds c.registry (c.view e.2 r)) =
      (List.range height).flatMap (c.added r) :=
  List.filter_flatMap

/-- What the lower levels add, among all that is added. -/
theorem filter_flatMap_added {height : Nat} (hle : level ≤ height) :
    ((List.range height).flatMap (c.added r)).filter (·.2 < level) =
      (List.range level).flatMap (c.added r) := by
  induction height, hle using Nat.le_induction with
  | base =>
    refine List.filter_eq_self.2 fun e he => ?_
    obtain ⟨k, hk, he⟩ := List.mem_flatMap.1 he
    rw [(mem_added.1 he).1.2]
    simpa using hk
  | succ height hle ih =>
    have hnone : (c.added r height).filter (·.2 < level) = [] := by
      refine List.filter_eq_nil_iff.2 fun e he hlt => ?_
      rw [(mem_added.1 he).1.2, decide_eq_true_eq] at hlt
      omega
    rw [List.range_succ, List.flatMap_append, List.filter_append, ih, List.flatMap_singleton, hnone,
      List.append_nil]

end Course

/-! ### The output -/

/-- **All tags of a set, each once**, with their levels and in the order of these, the tags of a level
in the order of declaration. -/
structure TagSet.InLevelOrder (tags : TagSet) (levels : List Nat) (order : List (Tag × Nat)) :
    Prop where
  complete : (order.map Prod.fst).Perm tags.tags
  ranked : ∀ e ∈ order, e ∈ tags.tags.zip levels
  sorted : order.Pairwise fun e e' => e.2 < e'.2 ∨
    e.2 = e'.2 ∧ tags.names.idxOf e.1.name < tags.names.idxOf e'.1.name

/-- The tags that are added to a record, out of all tags in their order: those that it does not start
with, and whose rules hold of it with the tag list that the level of the tag sees. -/
def addedAlong (reg : Registry) (order : List (Tag × Nat)) (start : List String)
    (seen : Nat → List String) (r : Record) : List (Tag × Nat) :=
  order.filter fun e =>
    e.1.name ∉ start ∧ e.1.rule.evaluate (r.withTags (seen e.2)) reg = .ok true

/-- **What becomes of a record** that starts with some tags, where a level sees the tag list `seen`. -/
structure TaggedAlong (reg : Registry) (order : List (Tag × Nat)) (start : List String)
    (seen : Nat → List String) (r x : Record) : Prop where
  /-- The other fields stay as they are. -/
  fields : r.AgreesOffTags x
  /-- Every tag is considered: its rule has a truth value. -/
  considered : ∀ e ∈ order, ∃ b, e.1.rule.evaluate (r.withTags (seen e.2)) reg = .ok b
  /-- A level sees the start, and what the lower levels have added. -/
  seen_eq : ∀ e ∈ order, seen e.2 =
    start ++ ((addedAlong reg order start seen r).filter (·.2 < e.2)).map (·.1.name)
  /-- The tag list holds the start, and then all that was added. -/
  tags : x.get tagsField =
    .ofStrings (start ++ (addedAlong reg order start seen r).map (·.1.name))
  /-- No name is added twice. -/
  nodup : ((addedAlong reg order start seen r).map (·.1.name)).Nodup

variable {tags : TagSet} {reg : Registry} {options : TaggingOptions} {levels : List Nat}

theorem TagSet.nodup_ranked (hlength : levels.length = tags.tags.length) :
    ((tags.course reg options levels).ranked.map (·.1.name)).Nodup := by
  have hnodup := tags.nodup
  rwa [← List.map_fst_zip (Nat.le_of_eq hlength.symm), List.map_map] at hnodup

/-- The tags of a course stand in the order of declaration. -/
theorem TagSet.pairwise_ranked (hlength : levels.length = tags.tags.length) :
    (tags.course reg options levels).ranked.Pairwise fun e e' =>
      tags.names.idxOf e.1.name < tags.names.idxOf e'.1.name := by
  have hnames : (tags.course reg options levels).ranked.map (·.1.name) = tags.names := by
    rw [names, ← List.map_fst_zip (Nat.le_of_eq hlength.symm), List.map_map]
    rfl
  have hpairwise : tags.names.Pairwise fun n n' => tags.names.idxOf n < tags.names.idxOf n' := by
    refine List.pairwise_iff_getElem.2 fun i j hi hj hlt => ?_
    have hnodup : tags.names.Nodup := tags.nodup
    rwa [hnodup.idxOf_getElem, hnodup.idxOf_getElem]
  have hranked := hpairwise
  rw [← hnames, List.pairwise_map] at hranked
  exact hnames ▸ hranked

/-- The levels, one after the other, list all tags in the order of their levels. -/
theorem TagSet.inLevelOrder_inOrder (hlength : levels.length = tags.tags.length) {height : Nat}
    (hheight : ∀ level ∈ levels, level < height) :
    tags.InLevelOrder levels ((tags.course reg options levels).inOrder height) := by
  have hlt : ∀ e ∈ (tags.course reg options levels).ranked, e.2 < height :=
    fun e he => hheight e.2 (List.of_mem_zip he).2
  have hsorted : ((tags.course reg options levels).inOrder height).Pairwise fun e e' =>
      e.2 < e'.2 ∨ e.2 = e'.2 ∧ tags.names.idxOf e.1.name < tags.names.idxOf e'.1.name := by
    refine List.pairwise_flatMap.2 ⟨fun level _ => ?_, ?_⟩
    · refine ((pairwise_ranked hlength).filter _).imp_of_mem fun he he' hidx => .inr ⟨?_, hidx⟩
      have hlevel := (List.mem_filter.1 he).2
      have hlevel' := (List.mem_filter.1 he').2
      rw [decide_eq_true_eq] at hlevel hlevel'
      exact hlevel.trans hlevel'.symm
    · refine List.pairwise_lt_range.imp fun hlevels e he e' he' => .inl ?_
      have hlevel := (List.mem_filter.1 he).2
      have hlevel' := (List.mem_filter.1 he').2
      rw [decide_eq_true_eq] at hlevel hlevel'
      rwa [hlevel, hlevel']
  have hnodup : ((tags.course reg options levels).inOrder height).Nodup := by
    refine hsorted.imp fun {e e'} h heq => ?_
    subst heq
    omega
  have hperm : ((tags.course reg options levels).inOrder height).Perm
      (tags.course reg options levels).ranked :=
    (List.perm_ext_iff_of_nodup hnodup (List.Nodup.of_map _ (nodup_ranked hlength))).2
      fun _ => Course.mem_inOrder hlt
  refine ⟨?_, fun e he => (Course.mem_inOrder hlt).1 he, hsorted⟩
  have hfst := hperm.map Prod.fst
  rwa [show (tags.course reg options levels).ranked.map Prod.fst = tags.tags from
    List.map_fst_zip (Nat.le_of_eq hlength.symm)] at hfst

/-- **What becomes of a record on its course**, where every rule can be evaluated. -/
theorem TagSet.taggedAlong_view (hlength : levels.length = tags.tags.length) {height : Nat}
    (hheight : ∀ level ∈ levels, level < height) {r : Record}
    (hdefined : ∀ e ∈ (tags.course reg options levels).ranked,
      e.1.rule.Defined reg ((tags.course reg options levels).view e.2 r)) :
    TaggedAlong reg ((tags.course reg options levels).inOrder height)
      (startTags tags.names options.removeOldTags r) ((tags.course reg options levels).tagsAt r) r
      ((tags.course reg options levels).view height r) := by
  have hlt : ∀ e ∈ (tags.course reg options levels).ranked, e.2 < height :=
    fun e he => hheight e.2 (List.of_mem_zip he).2
  have hnodup : ((tags.course reg options levels).ranked.map (·.1.name)).Nodup :=
    nodup_ranked hlength
  -- Where a rule can be evaluated, it holds when its result is true.
  have hadded : addedAlong reg ((tags.course reg options levels).inOrder height)
      (startTags tags.names options.removeOldTags r) ((tags.course reg options levels).tagsAt r) r =
        (List.range height).flatMap ((tags.course reg options levels).added r) := by
    rw [← Course.filter_inOrder]
    refine List.filter_congr fun e he => ?_
    have hrule := hdefined e ((Course.mem_inOrder hlt).1 he)
    rw [Bool.eq_iff_iff, decide_eq_true_eq, decide_eq_true_eq]
    exact and_congr_right fun _ => Rule.evaluate_eq_ok_iff.trans (and_iff_right hrule)
  refine ⟨r.agreesOffTags_withTags _, fun e he => hdefined e ((Course.mem_inOrder hlt).1 he),
    fun e he => ?_, ?_, ?_⟩
  · have hle : e.2 ≤ height := Nat.le_of_lt (hlt e ((Course.mem_inOrder hlt).1 he))
    rw [hadded, Course.filter_flatMap_added hle]
    exact Course.tagsAt_eq_append hnodup r e.2
  · rw [hadded, Course.get_view_tagsField, Course.tagsAt_eq_append hnodup]
    rfl
  · have horder : tags.InLevelOrder levels ((tags.course reg options levels).inOrder height) :=
      inLevelOrder_inOrder hlength hheight
    have hnames := horder.complete.map Tag.name
    rw [List.map_map] at hnames
    exact (hnames.nodup_iff.2 tags.nodup).sublist (List.filter_sublist.map _)

namespace LinearEngine

variable {engine : LinearEngine} {records out : RecordSet}

/-- **The shape of the output.** A linear engine considers every tag once, in the order of the levels.
It gives as many records, with the same fields but for the tag list, which goes on with the tags whose
rules hold where the record starts. -/
theorem tagRecords_shape (hmake : make tags reg options = .ok engine)
    (hrun : engine.tagRecords records = .ok out) :
    ∃ levels order, (DependencyGraph.ofTags tags).removeCycles.1.levels = .ok levels ∧
      tags.InLevelOrder levels order ∧
      engine.levels.flatten.filterMap (tags.tags[·]?) = order.map Prod.fst ∧
      List.Forall₂ (fun r x => ∃ seen, TaggedAlong reg order
        (startTags tags.names options.removeOldTags r) seen r x) records out := by
  obtain ⟨hvalid, levels, hlevels, rfl⟩ := make_ok hmake
  have hlength := DependencyGraph.length_levels_ofTags hlevels
  have hheight : ∀ level ∈ levels, level < levelCount levels := fun level => lt_levelCount
  obtain ⟨rfl, hdefined⟩ := (ends_tagRecords hvalid hlength hheight records).ok hrun
  refine ⟨levels, (tags.course reg options levels).inOrder (levelCount levels), hlevels,
    TagSet.inLevelOrder_inOrder hlength hheight, ?_, ?_⟩
  · rw [List.filterMap_flatten, levelsOf_map hlength, Course.inOrder, List.map_flatMap,
      List.flatten_eq_flatMap, List.flatMap_map, List.range_eq_range']
    rfl
  · rw [List.forall₂_map_right_iff, List.forall₂_same]
    exact fun r hr => ⟨_, TagSet.taggedAlong_view hlength hheight (hdefined r hr)⟩

/-- A guest by age, and a member with a tag of somebody else and an outdated one. -/
def clubRecords : RecordSet :=
  [Record.empty.insert "age" (.int 18),
    (Record.empty.insert "name" (.string "Ada")).withTags ["vip", "guest", "vip"]]

theorem tagRecords_shape_clubRecords : ∃ engine out,
    make circularTags namedRegistry ⟨true⟩ = .ok engine ∧
    engine.tagRecords clubRecords = .ok out ∧
    ∃ levels order, (DependencyGraph.ofTags circularTags).removeCycles.1.levels = .ok levels ∧
      circularTags.InLevelOrder levels order ∧
      engine.levels.flatten.filterMap (circularTags.tags[·]?) = order.map Prod.fst ∧
      List.Forall₂ (fun r x => ∃ seen, TaggedAlong namedRegistry order
        (startTags circularTags.names true r) seen r x) clubRecords out := by
  obtain ⟨engine, hmake⟩ : ∃ engine,
      make circularTags namedRegistry ⟨true⟩ = .ok engine := ⟨_, rfl⟩
  obtain ⟨out, hrun⟩ : ∃ out, engine.tagRecords clubRecords = .ok out := by
    obtain ⟨-, levels, hlevels, rfl⟩ := make_ok hmake
    have htwo : (DependencyGraph.ofTags circularTags).removeCycles.1.levels = .ok [0, 1] := rfl
    cases hlevels.symm.trans htwo
    -- The sort does not reduce, but there is nothing to sort.
    have hsorted : levelsOf [0, 1] = [[0], [1]] := by
      rw [levelsOf, List.mergeSort_of_pairwise (by decide)]
      rfl
    rw [hsorted]
    exact ⟨_, rfl⟩
  exact ⟨engine, out, hmake, hrun, tagRecords_shape hmake hrun⟩

end LinearEngine

end TagRules
