import Mathlib.Data.List.Basic
import TagRules.Proofs.Rule.Evaluation
import TagRules.Tagging.Planned

/-!
# The course of tagging, row by row

Both engines take every record through the same course: at each level, the tags of this level are
added whose rules hold for the tag list as it stands below the level.

* `Course.tagsAt`: the tag list of a record before a level.
* `Course.view`: the record with this tag list, which the rules of the level are evaluated on.
* `Course.Defined`: every rule can be evaluated on every record that it sees.
* `foldl_addTags`: adding tags to the tag lists of all rows.
* `Course.tagsAt_eq_of_le`: between two levels without tags, the tag list stays as it is.
-/

namespace TagRules

/-- Tags with their levels, what their keys stand for, and the tag lists to start from. -/
structure Course where
  registry : Registry
  ranked : List (Tag × Nat)
  start : Record → List String

namespace Course

variable {c : Course} {records : RecordSet}

/-- **The tag list of a record before a level.** -/
def tagsAt (c : Course) (record : Record) : Nat → List String
  | 0 => c.start record
  | level + 1 =>
    (c.ranked.filter (·.2 = level)).foldl
      (fun tags e =>
        if e.1.rule.holds c.registry (record.withTags (c.tagsAt record level)) then
          addTag e.1.name tags
        else tags)
      (c.tagsAt record level)

/-- The record as the rules of a level see it. -/
def view (c : Course) (level : Nat) (record : Record) : Record :=
  record.withTags (c.tagsAt record level)

/-- The tag lists of all rows before a level. -/
def lists (c : Course) (records : RecordSet) (level : Nat) : List (List String) :=
  records.map fun record => c.tagsAt record level

/-- **Every rule can be evaluated** on every record as the level of its tag sees it. -/
def Defined (c : Course) (records : RecordSet) : Prop :=
  ∀ record ∈ records, ∀ e ∈ c.ranked, e.1.rule.Defined c.registry (c.view e.2 record)

theorem tagsAt_succ (record : Record) (level : Nat) :
    c.tagsAt record (level + 1) = (c.ranked.filter (·.2 = level)).foldl
      (fun tags e => if e.1.rule.holds c.registry (c.view level record) then addTag e.1.name tags
        else tags) (c.tagsAt record level) :=
  rfl

theorem get_view_of_ne {field : String} (h : field ≠ tagsField) (level : Nat) (record : Record) :
    (c.view level record).get field = record.get field := by
  rw [Record.get, view, Record.withTags, Record.get?_insert, if_neg h]
  rfl

theorem get_view_tagsField (level : Nat) (record : Record) :
    (c.view level record).get tagsField = .ofStrings (c.tagsAt record level) :=
  record.get_withTags _

/-- A record looks the same at all levels but for its tag list. -/
theorem view_agreesOffTags (c : Course) (level level' : Nat) (record : Record) :
    (c.view level record).AgreesOffTags (c.view level' record) :=
  (record.agreesOffTags_withTags _).symm.trans (record.agreesOffTags_withTags _)

theorem withTagLists_lists (level : Nat) :
    records.withTagLists (c.lists records level) = records.map (c.view level) := by
  rw [RecordSet.withTagLists, lists, List.zipWith_map_right, List.zipWith_self]
  rfl

/-- **Between two levels without tags, the tag list stays as it is.** -/
theorem tagsAt_eq_of_le {height level : Nat} (hle : height ≤ level)
    (h : ∀ e ∈ c.ranked, e.2 < height ∨ level ≤ e.2) (record : Record) :
    c.tagsAt record level = c.tagsAt record height := by
  obtain ⟨k, rfl⟩ := Nat.exists_eq_add_of_le hle
  clear hle
  induction k with
  | zero => rfl
  | succ k ih =>
    have hnone : c.ranked.filter (·.2 = height + k) = [] := by
      refine List.filter_eq_nil_iff.2 fun e he heq => ?_
      have := h e he
      rw [decide_eq_true_eq] at heq
      omega
    rw [← Nat.add_assoc, tagsAt_succ, hnone]
    refine ih fun e he => ?_
    have := h e he
    omega

end Course

/-! ### Adding tags -/

section

variable {records : RecordSet}

theorem addTags_map (name : String) (holds : Record → Bool) (tags : Record → List String) :
    addTags name (records.map holds) (records.map tags) =
      records.map fun r => if holds r then addTag name (tags r) else tags r := by
  rw [addTags, List.zipWith_map, List.zipWith_self]

/-- **Adding tags to the tag lists of all rows** adds them row by row. -/
theorem foldl_addTags {α : Type} (name : α → String) (holds : α → Record → Bool) (l : List α) :
    ∀ tags : Record → List String,
      l.foldl (fun lists a => addTags (name a) (records.map (holds a)) lists) (records.map tags) =
        records.map fun r =>
          l.foldl (fun tags a => if holds a r then addTag (name a) tags else tags) (tags r) := by
  induction l with
  | nil => exact fun _ => rfl
  | cons a l ih =>
    intro tags
    rw [List.foldl_cons, addTags_map, ih]
    rfl

end

/-! ### Where the tag lists start -/

/-- The tag list of a record, without some tags if they are to be removed. -/
def startTags (managed : List String) (removeOldTags : Bool) (record : Record) : List String :=
  if removeOldTags then record.tags.filter fun tag => !managed.contains tag else record.tags

theorem startLists_eq (records : RecordSet) (managed : List String) (removeOldTags : Bool) :
    startLists records managed removeOldTags = records.map (startTags managed removeOldTags) := by
  unfold startLists startTags RecordSet.tagLists
  cases removeOldTags with
  | false => rfl
  | true =>
    rw [if_pos rfl, List.map_map]
    rfl

/-- The course of the tags of a set. -/
def TagSet.course (tags : TagSet) (reg : Registry) (options : TaggingOptions) (levels : List Nat) :
    Course where
  registry := reg
  ranked := tags.tags.zip levels
  start := startTags tags.names options.removeOldTags

/-- Every tag of a set has its place in the course. -/
theorem TagSet.exists_mem_ranked {tags : TagSet} {reg : Registry} {options : TaggingOptions}
    {levels : List Nat} (hlength : levels.length = tags.tags.length) {t : Tag}
    (ht : t ∈ tags.tags) : ∃ e ∈ (tags.course reg options levels).ranked, e.1 = t := by
  rw [← List.map_fst_zip (Nat.le_of_eq hlength.symm)] at ht
  exact List.mem_map.1 ht

end TagRules
