import TagRules.Proofs.Tagging.Added
import TagRules.Proofs.Tagging.Engine

/-!
# Tagging again

When old tags are removed, a run starts from the tags that no rule of the set gives, and what an
earlier run has left is never read. So a run on tagged records gives the same records again.

* `Record.SameButResults`: two records differ in the results of earlier runs only.
* `Course.filter_tagsAt`: a level touches no tag but those of the set.
* `sameButResults_view`: a tagged record differs from the record in its results only.
* `Engine.tagRecords_ignores_results`: results of earlier runs do not matter.
-/

namespace TagRules

open Outcome

/-- **Two records are the same but for the results of earlier runs**: they have the same fields but
for the tag list, and the same tags in it, in the same order, once those of a set are deleted. -/
structure Record.SameButResults (managed : List String) (r s : Record) : Prop where
  fields : r.AgreesOffTags s
  tags : r.tags.filter (· ∉ managed) = s.tags.filter (· ∉ managed)

variable {kind : EngineKind} {tags : TagSet} {reg : Registry} {options : TaggingOptions}
  {engine : Engine} {levels : List Nat}

theorem startTags_of_remove (hremove : options.removeOldTags = true) (r : Record) :
    (tags.course reg options levels).start r = r.tags.filter (· ∉ tags.names) := by
  show startTags tags.names options.removeOldTags r = _
  rw [startTags, if_pos hremove]
  refine List.filter_congr fun tag _ => ?_
  simp

/-- **A level touches no tag but those of the set.** -/
theorem Course.filter_tagsAt {c : Course} {p : String → Bool}
    (hp : ∀ e ∈ c.ranked, p e.1.name = false) (r : Record) (level : Nat) :
    (c.tagsAt r level).filter p = (c.start r).filter p := by
  induction level with
  | zero => rfl
  | succ level ih =>
    have hnone : (c.matched r level).filter p = [] := by
      refine List.filter_eq_nil_iff.2 fun name hname hholds => ?_
      obtain ⟨e, he, rfl⟩ := exists_of_mem_matched hname
      rw [hp e he] at hholds
      cases hholds
    rw [tagsAt_succ_eq_addAll, filter_addAll, hnone, ih]
    rfl

/-- **A tagged record differs from the record in its results only.** -/
theorem sameButResults_view (hremove : options.removeOldTags = true) (r : Record) (level : Nat) :
    r.SameButResults tags.names ((tags.course reg options levels).view level r) := by
  refine ⟨r.agreesOffTags_withTags _, ?_⟩
  have hmanaged : ∀ e ∈ (tags.course reg options levels).ranked,
      decide (e.1.name ∉ tags.names) = false := by
    intro e he
    have hmem : e.1.name ∈ tags.names := List.mem_map_of_mem (List.of_mem_zip he).1
    simp [hmem]
  rw [Course.tags_view, Course.filter_tagsAt hmanaged, startTags_of_remove hremove, List.filter_filter]
  simp only [Bool.and_self]

/-- Records that are the same but for results are taken through the same course. -/
theorem Record.SameButResults.view_eq {r s : Record} (h : r.SameButResults tags.names s)
    (hremove : options.removeOldTags = true) (level : Nat) :
    (tags.course reg options levels).view level r =
      (tags.course reg options levels).view level s := by
  refine Course.view_congr h.fields ?_ level
  rw [startTags_of_remove hremove, startTags_of_remove hremove, h.tags]

/-- Rules can be evaluated on the one records when they can on the others. -/
theorem Course.defined_iff_of_view_eq {c : Course} {records records' : RecordSet}
    (h : List.Forall₂ (fun r s => ∀ level, c.view level r = c.view level s) records records') :
    c.Defined records ↔ c.Defined records' := by
  induction h with
  | nil => exact Iff.rfl
  | @cons r s records records' hrs _ ih =>
    rw [Defined, Defined, List.forall_mem_cons, List.forall_mem_cons]
    refine and_congr (forall₂_congr fun e _ => ?_) ih
    rw [hrs]

/-- **Results of earlier runs do not matter** when old tags are removed: engines give the same records
for records that are the same but for results, or fail on both. So tagging the tagged records again
leaves them as they are. -/
theorem Engine.tagRecords_ignores_results (hreg : reg.IgnoresTags)
    (hremove : options.removeOldTags = true) (h : make kind tags reg options = .ok engine) :
    (∀ records records' : RecordSet, List.Forall₂ (Record.SameButResults tags.names) records records' →
      Agree (engine.tagRecords records) (engine.tagRecords records')) ∧
    ∀ records out, engine.tagRecords records = .ok out → engine.tagRecords out = .ok out := by
  obtain ⟨-, levels, hlevels⟩ := make_ok h
  let c := tags.course reg options levels
  have hheight : ∀ level ∈ levels, level < LinearEngine.levelCount levels :=
    fun level hlevel => LinearEngine.lt_levelCount hlevel
  have hruns := ends_tagRecords hreg h hlevels hheight
  have hagree : ∀ records records' : RecordSet,
      List.Forall₂ (Record.SameButResults tags.names) records records' →
      Agree (engine.tagRecords records) (engine.tagRecords records') := by
    intro records records' hsame
    -- Both runs take their records through the same course, on which nothing tells them apart.
    have hview : List.Forall₂ (fun r s => ∀ level, c.view level r = c.view level s)
        records records' := hsame.imp fun r s hrs => hrs.view_eq hremove
    have hout : records.map (c.view (LinearEngine.levelCount levels)) =
        records'.map (c.view (LinearEngine.levelCount levels)) := by
      rw [← List.forall₂_eq_eq_eq, List.forall₂_map_left_iff, List.forall₂_map_right_iff]
      exact hview.imp fun r s hrs => hrs _
    have hrun' := hruns records'
    rw [← hout, ← Course.defined_iff_of_view_eq hview] at hrun'
    exact (hruns records).agreement hrun'
  refine ⟨hagree, fun records out hrun => ?_⟩
  have hsame : List.Forall₂ (Record.SameButResults tags.names) records out := by
    rw [((hruns records).ok hrun).1, List.forall₂_map_right_iff]
    exact List.forall₂_same.2 fun r _ => sameButResults_view hremove r _
  exact (hagree records out hsame).eq_ok_iff.1 hrun

/-- A guest of an earlier run, with a tag of somebody else and an entry that is no tag. -/
def formerGuest : Record :=
  Record.empty.insert tagsField (.list [.string "guest", .int 7, .string "vip"])

theorem Engine.tagRecords_ignores_results_formerGuest : ∃ engine,
    make (.planned .optimized) circularTags namedRegistry ⟨true⟩ = .ok engine ∧
    Agree (engine.tagRecords [formerGuest]) (engine.tagRecords [Record.empty.withTags ["vip"]]) ∧
    ∀ records out, engine.tagRecords records = .ok out → engine.tagRecords out = .ok out := by
  obtain ⟨engine, hmake⟩ : ∃ engine,
      make (.planned .optimized) circularTags namedRegistry ⟨true⟩ = .ok engine := ⟨_, rfl⟩
  have hsame : formerGuest.SameButResults circularTags.names (Record.empty.withTags ["vip"]) := by
    refine ⟨fun field hne => ?_, by decide +kernel⟩
    rw [formerGuest, Record.withTags, Record.get?_insert, Record.get?_insert, if_neg hne, if_neg hne]
  obtain ⟨hagree, hagain⟩ := tagRecords_ignores_results ignoresTags_namedRegistry rfl hmake
  exact ⟨engine, hmake, hagree _ _ (.cons hsame .nil), hagain⟩

end TagRules
