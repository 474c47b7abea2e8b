import TagRules.Proofs.Tagging.Matched
import TagRules.Proofs.Tagging.OneByOne

/-!
# Tagging with a single tag

To bring one tag up to date is to tag linearly with the set of this tag alone. The tag may read
itself, and then the engine breaks the cycle and can put it on a level above empty ones, which do
nothing. Errors are the same: first those of the rule, then those of its evaluation, row by row.

* `LinearEngine.make_single`: the engine of a single tag, which is on some level.
* `LinearEngine.fst_runLevels_replicate`: levels without tags do nothing.
* `LinearEngine.tagRecords_single`: what the engine of a single tag makes of records.
* `Record.retagged_retagged`: a tag that was brought up to date is up to date.
* `RecordSet.index_eq_ok_iff`, `RecordSet.tagWith_eq_ok_iff`: when a query gives a mask, and when a tag
  can be brought up to date, and what comes of it.
* `RecordSet.tagWith_eq_tagRecords`: tagging with a single tag is linear tagging.
-/

namespace TagRules

open Outcome

variable {t : Tag} {reg : Registry} {options : TaggingOptions}

/-- The set of a single tag. -/
def TagSet.single (t : Tag) : TagSet := ⟨[t], List.nodup_singleton t.name⟩

theorem TagSet.ofTags_singleton (t : Tag) : ofTags [t] = .ok (single t) :=
  rfl

theorem TagSet.validate_single (t : Tag) (reg : Registry) :
    (single t).validate reg = reg.validate t.rule := by
  show (reg.validate t.rule >>= fun _ => .ok ()) = reg.validate t.rule
  cases reg.validate t.rule <;> rfl

namespace LinearEngine

/-! ### The engine of a single tag -/

/-- **The engine of a single tag**, which is on some level. -/
theorem make_single (t : Tag) (reg : Registry) (options : TaggingOptions) : ∃ level : Nat,
    make (.single t) reg options = (reg.validate t.rule).mapError .rule >>= fun _ =>
      .ok ⟨.single t, reg, options, levelsOf [level]⟩ := by
  obtain ⟨levels, hlevels⟩ := DependencyGraph.exists_levels
    (DependencyGraph.not_isCycle_removeCycles (DependencyGraph.ofTags (.single t)))
  obtain ⟨level, rfl⟩ : ∃ level, levels = [level] :=
    List.length_eq_one_iff.1 (DependencyGraph.length_levels_ofTags hlevels)
  refine ⟨level, ?_⟩
  rw [make_eq, TagSet.validate_single, DependencyGraph.levelOrder, hlevels]
  have hsize := DependencyGraph.length_levels hlevels
  rw [← hsize]
  rfl

/-- A single tag is on the highest level, above levels without tags. -/
theorem levelsOf_singleton {α : Type} (x : α) (level : Nat) :
    (levelsOf [level]).map (·.filterMap ([x][·]?)) = List.replicate level [] ++ [[x]] := by
  have hlength : [level].length = [x].length := rfl
  have hcount : levelCount [level] = level + 1 := by
    simp [levelCount]
  have hbelow : ∀ below ∈ List.range' 0 level,
      (([x].zip [level]).filter (·.2 = below)).map Prod.fst = [] := by
    intro below hbelow
    have hlt : below < level := by simpa using hbelow
    simp [hlt.ne']
  rw [levelsOf_map hlength, hcount, List.range'_concat, List.map_append, List.map_congr_left hbelow,
    List.map_const', List.length_range']
  simp

/-! ### The run -/

section

variable {β : Type} (f : Record → Resolved → Except EvalError β) (outcome : β → Bool)
  (records : RecordSet)

/-- **Levels without tags do nothing.** -/
theorem fst_runLevels_replicate (lists : List (List String)) (levels : List (List Entry))
    (count : Nat) : Prod.fst <$> runLevels f outcome records lists
        (List.replicate count [] ++ levels) =
      Prod.fst <$> runLevels f outcome records lists levels := by
  induction count with
  | zero => rfl
  | succ count ih =>
    rw [List.replicate_succ, List.cons_append, fst_runLevels_cons, ← ih]
    rfl

/-- A level with one tag adds it where its rule holds. -/
theorem fst_runLevels_singleton (lists : List (List String)) (e : Entry) :
    Prod.fst <$> runLevels f outcome records lists [[e]] = do
      let mask ← (records.withTagLists lists).mapM fun r => outcome <$> f r e.rule
      return addTags e.name mask lists := by
  rw [fst_runLevels_cons, fst_runLevel_eq, List.mapM_cons]
  cases (records.withTagLists lists).mapM fun r => outcome <$> f r e.rule <;> rfl

end

/-- **What the engine of a single tag makes of records.** -/
theorem tagRecords_single (level : Nat) (records : RecordSet) :
    tagRecords ⟨.single t, reg, options, levelsOf [level]⟩ records = do
      let p ← (reg.resolve t.rule).mapError .eval
      let lists := startLists records [t.name] options.removeOldTags
      let mask ← ((records.withTagLists lists).mapM fun r => p.evaluate r).mapError .eval
      return records.withTagLists (addTags t.name mask lists) := by
  rw [tagRecords, fst_run_eq]
  show ((reg.resolve t.rule >>= fun p => .ok [p]).mapError TaggingError.eval >>= _) = _
  cases reg.resolve t.rule with
  | error e => rfl
  | ok p =>
    show records.withTagLists <$> (Prod.fst <$> runLevels _ id records
      (startLists records [t.name] options.removeOldTags)
      ((levelsOf [level]).map (·.filterMap ([⟨0, t.name, p⟩][·]?)))).mapError _ = _
    rw [levelsOf_singleton, fst_runLevels_replicate, fst_runLevels_singleton]
    generalize startLists records [t.name] options.removeOldTags = lists
    simp only [id_map]
    show records.withTagLists <$> Except.mapError _ _ =
      ((records.withTagLists lists).mapM fun r => p.evaluate r).mapError TaggingError.eval >>= _
    cases (records.withTagLists lists).mapM fun r => p.evaluate r <;> rfl

end LinearEngine

/-! ### Tagging again -/

theorem Record.withoutTag_withTags (r : Record) (tags : List String) (name : String) :
    (r.withTags tags).withoutTag name = r.withTags (tags.filter (· ≠ name)) := by
  rw [withoutTag, tags_withTags, withTags_withTags]

/-- What is left of a record without the tag does not depend on whether the tag is up to date. -/
theorem Record.withoutTag_retagged (r : Record) (reg : Registry) (t : Tag) :
    (r.retagged reg t).withoutTag t.name = r.withoutTag t.name := by
  have hadded : (if t.rule.holds reg (r.withoutTag t.name) then [t.name] else []).filter
      (· ≠ t.name) = [] := by
    split <;> simp
  rw [retagged, withoutTag_withTags, List.filter_append, hadded, tags_withoutTag, List.filter_filter,
    List.append_nil, withoutTag]
  simp only [Bool.and_self]

/-- **A tag that was brought up to date is up to date.** -/
theorem Record.retagged_retagged (r : Record) (reg : Registry) (t : Tag) :
    (r.retagged reg t).retagged reg t = r.retagged reg t := by
  rw [retagged, withoutTag_retagged]
  exact r.withTags_withTags _ _

/-- **When a query gives a mask**, and which one: the rule is valid, it can be evaluated on all records,
and the mask says of which ones it holds. -/
theorem RecordSet.index_eq_ok_iff {records : RecordSet} {r : Rule} {mask : List Bool} :
    records.index r reg = .ok mask ↔ reg.validate r = .ok () ∧
      (∀ x ∈ records, r.Defined reg x) ∧ mask = records.map (r.holds reg) := by
  constructor
  · intro h
    obtain ⟨⟨⟩, hvalidated, -⟩ := bind_eq_ok_iff.1 h
    have hvalid := mapError_eq_ok_iff.1 hvalidated
    exact ⟨hvalid, (ends_index hvalid).eq_ok_iff.1 h⟩
  · rintro ⟨hvalid, h⟩
    exact (ends_index hvalid).eq_ok_iff.2 h

/-- **When a tag can be brought up to date**, and what this makes of records: the tag is valid, and its
rule can be evaluated on all records without the tag. -/
theorem RecordSet.tagWith_eq_ok_iff {records out : RecordSet} :
    records.tagWith t reg true = .ok out ↔ reg.validate t.rule = .ok () ∧
      (∀ r ∈ records, t.rule.Defined reg (r.withoutTag t.name)) ∧
      out = records.map (Record.retagged reg t) := by
  constructor
  · intro h
    obtain ⟨mask, hmask, -⟩ := bind_eq_ok_iff.1 h
    have hvalid := (index_eq_ok_iff.1 hmask).1
    exact ⟨hvalid, (ends_tagWith hvalid records).eq_ok_iff.1 h⟩
  · rintro ⟨hvalid, h⟩
    exact (ends_tagWith hvalid records).eq_ok_iff.2 h

/-- Records with one tag up to date stay as they are when it is brought up to date again. -/
theorem RecordSet.tagWith_again {records out : RecordSet}
    (h : records.tagWith t reg true = .ok out) : out.tagWith t reg true = .ok out := by
  obtain ⟨hvalid, hdefined, rfl⟩ := tagWith_eq_ok_iff.1 h
  refine tagWith_eq_ok_iff.2 ⟨hvalid, List.forall_mem_map.2 fun r hr => ?_, ?_⟩
  · rw [Record.withoutTag_retagged]
    exact hdefined r hr
  · rw [List.map_map]
    exact List.map_congr_left fun r _ => (r.retagged_retagged reg t).symm

/-- **Tagging with a single tag is linear tagging** with the set of this tag alone, whatever the tag
reads and whether or not the registry knows its keys: both give the same records or fail with the
same error. When old tags are removed, tagging again changes nothing. -/
theorem RecordSet.tagWith_eq_tagRecords (t : Tag) (reg : Registry) :
    (∀ (removeOldTags : Bool) (records : RecordSet),
      records.tagWith t reg removeOldTags = do
        let tags ← (TagSet.ofTags [t]).mapError .rule
        let engine ← LinearEngine.make tags reg ⟨removeOldTags⟩
        engine.tagRecords records) ∧
    ∀ records : RecordSet, (do
        let out ← records.tagWith t reg true
        out.tagWith t reg true) = records.tagWith t reg true := by
  refine ⟨fun removeOldTags records => ?_, fun records => ?_⟩
  · obtain ⟨level, hmake⟩ := LinearEngine.make_single t reg ⟨removeOldTags⟩
    rw [TagSet.ofTags_singleton]
    show _ = LinearEngine.make (.single t) reg ⟨removeOldTags⟩ >>= _
    rw [hmake]
    show ((reg.validate t.rule).mapError TaggingError.rule >>= _) >>= _ =
      ((reg.validate t.rule).mapError TaggingError.rule >>= _) >>= _
    cases reg.validate t.rule with
    | error e => rfl
    | ok _ =>
      show _ = LinearEngine.tagRecords _ records
      rw [LinearEngine.tagRecords_single]
      show ((reg.resolve t.rule).mapError TaggingError.eval >>= _) >>= _ = _
      cases reg.resolve t.rule <;> rfl
  · cases h : records.tagWith t reg true with
    | error e => rfl
    | ok out => exact tagWith_again h

end TagRules
