import TagRules.Proofs.Rule.TagReference
import TagRules.Proofs.Tagging.Course

/-!
# The tags that a level adds

A level adds the names of the tags whose rules hold, each unless it is in the tag list already.

* `addAll`: a tag list with some names added.
* `filter_addAll`: a part of the tag list grows by a part of the names.
* `addAll_eq_append`: different names are added at the end, in their order.
* `Course.matched`, `Course.tagsAt_succ_eq_addAll`: the names that a level adds.
* `Course.tagsAt_congr`: a course reads nothing of a record but its start and the other fields.
-/

namespace TagRules

/-! ### Adding names -/

/-- A tag list with some names added, one after the other. -/
def addAll (names tags : List String) : List String :=
  names.foldl (fun tags name => addTag name tags) tags

theorem addAll_cons (name : String) (names tags : List String) :
    addAll (name :: names) tags = addAll names (addTag name tags) :=
  rfl

theorem addTag_of_mem {name : String} {tags : List String} (h : name ∈ tags) :
    addTag name tags = tags :=
  if_pos (List.contains_iff_mem.2 h)

theorem addTag_of_not_mem {name : String} {tags : List String} (h : name ∉ tags) :
    addTag name tags = tags ++ [name] :=
  if_neg fun hmem => h (List.contains_iff_mem.1 hmem)

theorem mem_addTag {name tag : String} {tags : List String} :
    name ∈ addTag tag tags ↔ name ∈ tags ∨ tag = name := by
  unfold addTag
  split
  · rename_i h
    refine ⟨.inl, fun hname => hname.elim id ?_⟩
    rintro rfl
    exact List.contains_iff_mem.1 h
  · rw [List.mem_append, List.mem_singleton, eq_comm (a := tag)]

theorem filter_addTag (p : String → Bool) (name : String) (tags : List String) :
    (addTag name tags).filter p =
      if p name then addTag name (tags.filter p) else tags.filter p := by
  by_cases hmem : name ∈ tags
  · rw [addTag_of_mem hmem]
    split
    · rename_i hp
      rw [addTag_of_mem (List.mem_filter.2 ⟨hmem, hp⟩)]
    · rfl
  · rw [addTag_of_not_mem hmem, List.filter_append, List.filter_singleton]
    cases p name with
    | true => exact (addTag_of_not_mem fun h => hmem (List.mem_of_mem_filter h)).symm
    | false => exact List.append_nil _

/-- **A part of the tag list grows by a part of the names.** -/
theorem filter_addAll (p : String → Bool) (names : List String) :
    ∀ tags, (addAll names tags).filter p = addAll (names.filter p) (tags.filter p) := by
  induction names with
  | nil => exact fun _ => rfl
  | cons name names ih =>
    intro tags
    rw [addAll_cons, ih, filter_addTag, List.filter_cons]
    split <;> rfl

/-- **Different names are added at the end**, in their order, unless they are there already. -/
theorem addAll_eq_append {names : List String} (h : names.Nodup) :
    ∀ tags, addAll names tags = tags ++ names.filter fun name => name ∉ tags := by
  induction names with
  | nil => exact fun tags => (List.append_nil tags).symm
  | cons name names ih =>
    obtain ⟨hname, hnames⟩ := List.nodup_cons.1 h
    intro tags
    rw [addAll_cons, ih hnames]
    by_cases hmem : name ∈ tags
    · rw [addTag_of_mem hmem, List.filter_cons_of_neg (by simpa using hmem)]
    · -- The name itself is none of those that follow.
      have hrest : (names.filter fun other => other ∉ tags ++ [name]) =
          names.filter fun other => other ∉ tags := by
        refine List.filter_congr fun other hother => ?_
        have hne : other ≠ name := fun heq => hname (heq ▸ hother)
        simp [hne]
      rw [addTag_of_not_mem hmem, hrest, List.filter_cons_of_pos (by simpa using hmem),
        List.append_assoc, List.singleton_append]

/-! ### Levels -/

theorem Record.AgreesOffTags.withTags_eq {r s : Record} (h : r.AgreesOffTags s)
    (tags : List String) : r.withTags tags = s.withTags tags := by
  refine Record.ext_get? fun field => ?_
  rw [Record.withTags, Record.withTags, Record.get?_insert, Record.get?_insert]
  split
  · rfl
  · rename_i hne
    exact h field hne

namespace Course

variable {c : Course} {r s : Record}

theorem tags_view (level : Nat) : (c.view level r).tags = c.tagsAt r level := by
  rw [Record.tags, get_view_tagsField, Value.strings_ofStrings]

/-- **The names that a level adds** to a record, in the order of declaration. -/
def matched (c : Course) (r : Record) (level : Nat) : List String :=
  ((c.ranked.filter (·.2 = level)).filter fun e =>
    e.1.rule.holds c.registry (c.view level r)).map (·.1.name)

theorem tagsAt_succ_eq_addAll (r : Record) (level : Nat) :
    c.tagsAt r (level + 1) = addAll (c.matched r level) (c.tagsAt r level) := by
  rw [addAll, matched, List.foldl_map, List.foldl_filter]
  rfl

/-- Every name that a level adds is that of a tag. -/
theorem exists_of_mem_matched {name : String} {level : Nat} (h : name ∈ c.matched r level) :
    ∃ e ∈ c.ranked, e.1.name = name := by
  obtain ⟨e, he, rfl⟩ := List.mem_map.1 h
  exact ⟨e, List.mem_of_mem_filter (List.mem_of_mem_filter he), rfl⟩

/-- **A course reads nothing of a record** but its start and the fields besides the tag list. -/
theorem tagsAt_congr (h : r.AgreesOffTags s) (hstart : c.start r = c.start s) (level : Nat) :
    c.tagsAt r level = c.tagsAt s level := by
  induction level with
  | zero => exact hstart
  | succ level ih =>
    rw [tagsAt_succ_eq_addAll, tagsAt_succ_eq_addAll, matched, matched, view, view, ih,
      h.withTags_eq]

theorem view_congr (h : r.AgreesOffTags s) (hstart : c.start r = c.start s) (level : Nat) :
    c.view level r = c.view level s := by
  rw [view, view, tagsAt_congr h hstart, h.withTags_eq]

end Course

end TagRules
