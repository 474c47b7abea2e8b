import TagRules.Proofs.Tagging.Single

/-!
# Queries pick the records that are tagged

A query evaluates a rule as it is written, and tagging evaluates the normal form of the rule on
records that were rebuilt without the tag. Both look at the same leaves of the same records, and so
they succeed together and pick the same records.

* `RecordSet.SplitBy`: a mask splits records into those that it keeps and the others.
* `RecordSet.filter_eq_ok_iff`: when records can be filtered, and what is kept.
* `Tag.validate_make`, `Tag.defined_make`, `Tag.holds_make`: the rule of a tag is as good as the rule
  that it was made from.
* `Record.LacksTag`: a record with a tag list of texts, without a tag.
* `RecordSet.index_agrees_with_tagWith`: a query picks the records that are tagged.
-/

namespace TagRules

open Outcome

variable {reg : Registry} {r : Rule} {records : RecordSet}

namespace RecordSet

/-! ### Masks -/

/-- **A mask splits records** into those that it keeps and those that it drops. Every record has an
entry, and it is in one of the two parts, in the order of the records. -/
inductive SplitBy : List Bool → RecordSet → RecordSet → RecordSet → Prop
  | nil : SplitBy [] [] [] []
  | keep (x : Record) {mask : List Bool} {records kept dropped : RecordSet} :
      SplitBy mask records kept dropped →
      SplitBy (true :: mask) (x :: records) (x :: kept) dropped
  | drop (x : Record) {mask : List Bool} {records kept dropped : RecordSet} :
      SplitBy mask records kept dropped →
      SplitBy (false :: mask) (x :: records) kept (x :: dropped)

/-- **Selecting by a mask and by its negation** splits the records. -/
theorem splitBy_select (holds : Record → Bool) (records : RecordSet) :
    SplitBy (records.map holds) records (records.select (records.map holds))
      (records.select ((records.map holds).map not)) := by
  induction records with
  | nil => exact .nil
  | cons x records ih =>
    rw [List.map_cons]
    cases hx : holds x with
    | true =>
      have hsplit := SplitBy.keep x ih
      simpa [select, hx] using hsplit
    | false =>
      have hsplit := SplitBy.drop x ih
      simpa [select, hx] using hsplit

theorem select_map (holds : Record → Bool) (records : RecordSet) :
    records.select (records.map holds) = List.filter holds records := by
  induction records with
  | nil => rfl
  | cons x records ih =>
    rw [List.filter_cons, ← ih]
    cases hx : holds x <;> simp [select, hx]

/-! ### Queries -/

/-- **When records can be filtered**, and what is kept: the records of which the rule holds. -/
theorem filter_eq_ok_iff {kept : RecordSet} : records.filter r reg = .ok kept ↔
    reg.validate r = .ok () ∧ (∀ x ∈ records, r.Defined reg x) ∧
      kept = List.filter (r.holds reg) records := by
  have hfilter : records.filter r reg = records.select <$> records.index r reg := rfl
  rw [hfilter, map_eq_ok_iff]
  constructor
  · rintro ⟨mask, hmask, rfl⟩
    obtain ⟨hvalid, hdefined, rfl⟩ := index_eq_ok_iff.1 hmask
    exact ⟨hvalid, hdefined, select_map _ records⟩
  · rintro ⟨hvalid, hdefined, rfl⟩
    exact ⟨_, index_eq_ok_iff.2 ⟨hvalid, hdefined, rfl⟩, select_map _ records⟩

/-- Filtering again changes nothing. -/
theorem filter_again {kept : RecordSet} (h : records.filter r reg = .ok kept) :
    kept.filter r reg = .ok kept := by
  obtain ⟨hvalid, hdefined, rfl⟩ := filter_eq_ok_iff.1 h
  refine filter_eq_ok_iff.2 ⟨hvalid, fun x hx => hdefined x (List.mem_of_mem_filter hx), ?_⟩
  rw [List.filter_filter]
  simp only [Bool.and_self]

end RecordSet

/-! ### The rule of a tag -/

namespace Tag

variable {name : String} {t : Tag}

/-- The rule of a tag has the meaning of the rule that it was made from. -/
theorem sameMeaning_make (h : make name r = .ok t) : r.IsSound ∧ t.rule.IsSound ∧
    Rule.SameMeaning r t.rule := by
  obtain ⟨-, hcanonical, -⟩ := make_eq_ok_iff.1 h
  obtain ⟨hsound, -, hrule⟩ := Rule.canonical_eq_ok_iff.1 hcanonical
  rw [hrule]
  exact ⟨hsound, Rule.isSound_ofAlternatives (Rule.toDnf_sound r hsound),
    Rule.sameMeaning_toDnf hsound⟩

theorem validate_make (h : make name r = .ok t) :
    reg.validate t.rule = .ok () ↔ reg.validate r = .ok () := by
  obtain ⟨hr, ht, hmeaning⟩ := sameMeaning_make h
  exact (hmeaning.validate_iff hr ht).symm

theorem defined_make (h : make name r = .ok t) (x : Record) :
    t.rule.Defined reg x ↔ r.Defined reg x :=
  (sameMeaning_make h).2.2.defined_iff.symm

theorem holds_make (h : make name r = .ok t) (x : Record) :
    t.rule.holds reg x = r.holds reg x := by
  obtain ⟨-, hcanonical, -⟩ := make_eq_ok_iff.1 h
  obtain ⟨-, -, hrule⟩ := Rule.canonical_eq_ok_iff.1 hcanonical
  rw [hrule, Rule.holds_ofAlternatives, Rule.holds_toDnf]

end Tag

/-! ### Records without the tag -/

/-- **A record lacks a tag**: its tag list consists of texts, and the tag is none of them. -/
def Record.LacksTag (name : String) (x : Record) : Prop :=
  ∃ texts, x.get tagsField = .ofStrings texts ∧ name ∉ texts

/-- Taking a tag away rebuilds the record as it was if it lacks the tag. -/
theorem Record.LacksTag.withoutTag_eq {name : String} {x : Record} (h : x.LacksTag name) :
    x.withoutTag name = x := by
  obtain ⟨texts, htexts, hname⟩ := h
  have htags : x.tags.filter (· ≠ name) = texts := by
    rw [tags, htexts, Value.strings_ofStrings]
    refine List.filter_eq_self.2 fun tag htag => decide_eq_true fun heq => hname (heq ▸ htag)
  have hget : x.get? tagsField = some (.ofStrings texts) := by
    unfold get at htexts
    cases hfield : x.get? tagsField with
    | none =>
      rw [hfield] at htexts
      cases htexts
    | some v =>
      rw [hfield] at htexts
      exact congrArg some htexts
  refine ext_get? fun field => ?_
  rw [withoutTag, withTags, get?_insert, htags]
  split
  · rename_i hfield
    rw [hfield, hget]
  · rfl

/-- A record that is up to date has the tag if the rule holds of the record without it. -/
theorem Record.hasTag_retagged (x : Record) (t : Tag) :
    (x.retagged reg t).hasTag t.name = t.rule.holds reg (x.withoutTag t.name) := by
  have hkept : t.name ∉ (x.withoutTag t.name).tags := by
    rw [tags_withoutTag]
    intro hmem
    simpa using (List.mem_filter.1 hmem).2
  rw [hasTag, retagged, tags_withTags, Bool.eq_iff_iff, List.contains_iff_mem, List.mem_append,
    or_iff_right hkept]
  split <;> simp [*]

/-- **A query picks the records that are tagged.** A rule gives a mask for records that lack a tag just
when the tag with this rule can be added to them, and then the tag is added where the mask is true.
The mask splits any records into those that the rule filters out and the others, and filtering what
was filtered changes nothing. -/
theorem RecordSet.index_agrees_with_tagWith (reg : Registry) (r : Rule) :
    (∀ (name : String) (t : Tag), Tag.make name r = .ok t → ∀ records : RecordSet,
      (∀ x ∈ records, x.LacksTag name) →
        ((∃ mask, records.index r reg = .ok mask) ↔ ∃ out, records.tagWith t reg true = .ok out) ∧
        ∀ mask out, records.index r reg = .ok mask → records.tagWith t reg true = .ok out →
          out.map (·.hasTag name) = mask) ∧
    ∀ (records : RecordSet) (mask : List Bool), records.index r reg = .ok mask →
      ∃ kept dropped, records.filter r reg = .ok kept ∧ records.filterNegated r reg = .ok dropped ∧
        SplitBy mask records kept dropped ∧ kept.filter r reg = .ok kept := by
  constructor
  · intro name t ht records hlacks
    obtain ⟨-, -, rfl⟩ := Tag.make_eq_ok_iff.1 ht
    -- The tag is evaluated on the records as they are, since there is nothing to take away.
    have hsame : ∀ x ∈ records, x.withoutTag t.name = x :=
      fun x hx => (hlacks x hx).withoutTag_eq
    have hdefined : (∀ x ∈ records, r.Defined reg x) ↔
        ∀ x ∈ records, t.rule.Defined reg (x.withoutTag t.name) :=
      forall₂_congr fun x hx => by rw [hsame x hx, Tag.defined_make ht]
    constructor
    · simp only [index_eq_ok_iff, tagWith_eq_ok_iff, Tag.validate_make ht, hdefined,
        exists_and_left, exists_eq, and_true]
    · intro mask out hmask hout
      obtain ⟨-, -, rfl⟩ := index_eq_ok_iff.1 hmask
      obtain ⟨-, -, rfl⟩ := tagWith_eq_ok_iff.1 hout
      rw [List.map_map]
      refine List.map_congr_left fun x hx => ?_
      rw [Function.comp, Record.hasTag_retagged, hsame x hx, Tag.holds_make ht]
  · intro records mask hmask
    have hkept : records.filter r reg = .ok (records.select mask) :=
      map_eq_ok_iff.2 ⟨mask, hmask, rfl⟩
    have hdropped : records.filterNegated r reg = .ok (records.select (mask.map not)) :=
      map_eq_ok_iff.2 ⟨mask, hmask, rfl⟩
    refine ⟨_, _, hkept, hdropped, ?_, filter_again hkept⟩
    rw [(index_eq_ok_iff.1 hmask).2.2]
    exact splitBy_select _ records

/-- Somebody with a name who is a guest or eighteen. -/
def welcomeRule : Rule :=
  .all [.custom "named", .any [.tagged "guest", .fieldIn "age" [.int 18]]]

/-- A guest with a name, and somebody of eighteen without a name. -/
def callers : RecordSet :=
  [(Record.empty.withTags ["guest"]).insert "name" (.string "Ada"),
    (Record.empty.withTags []).insert "age" (.int 18)]

theorem RecordSet.index_agrees_with_tagWith_callers : ∃ t out kept dropped,
    Tag.make "welcome" welcomeRule = .ok t ∧ t.rule ≠ welcomeRule ∧
    (∀ x ∈ callers, x.LacksTag "welcome") ∧
    callers.index welcomeRule namedRegistry = .ok [true, false] ∧
    callers.tagWith t namedRegistry true = .ok out ∧
    out.map (·.hasTag "welcome") = [true, false] ∧
    callers.filter welcomeRule namedRegistry = .ok kept ∧
    callers.filterNegated welcomeRule namedRegistry = .ok dropped ∧
    SplitBy [true, false] callers kept dropped ∧
    kept.filter welcomeRule namedRegistry = .ok kept := by
  obtain ⟨t, ht, hrule⟩ : ∃ t, Tag.make "welcome" welcomeRule = .ok t ∧ t.rule ≠ welcomeRule :=
    ⟨_, rfl, by decide⟩
  have hlacks : ∀ x ∈ callers, x.LacksTag "welcome" := by
    refine List.forall_mem_cons.2 ⟨⟨["guest"], by decide, by decide⟩, ?_⟩
    exact List.forall_mem_singleton.2 ⟨[], by decide, by decide⟩
  have hmask : callers.index welcomeRule namedRegistry = .ok [true, false] := rfl
  obtain ⟨htagged, hqueried⟩ := index_agrees_with_tagWith namedRegistry welcomeRule
  obtain ⟨hsucceeds, hsame⟩ := htagged "welcome" t ht callers hlacks
  obtain ⟨out, hout⟩ := hsucceeds.1 ⟨_, hmask⟩
  obtain ⟨kept, dropped, hkept, hdropped, hsplit, hagain⟩ := hqueried callers _ hmask
  exact ⟨t, out, kept, dropped, ht, hrule, hlacks, hmask, hout, hsame _ out hmask hout, hkept,
    hdropped, hsplit, hagain⟩

end TagRules
