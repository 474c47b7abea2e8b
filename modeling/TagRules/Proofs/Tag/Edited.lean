import TagRules.Proofs.Rule.NormalForm
import TagRules.Proofs.Rule.Size
import TagRules.Proofs.Stored.Key

/-!
# Edited tags

An edit puts a rule among the alternatives of a tag, and the whole is brought into normal form
again. The other alternatives are in normal form already, so that they stay as they are and count one
each, and only the rule is expanded in its place.

* `Rule.toDnf_of_isAlternative`: an alternative is its own normal form.
* `Rule.evaluate_and`: both of two rules that can be evaluated.
* `exists_make_iff`: a rule can be put between alternatives when it is sound and not too large.
* `Edited`: the tag that this gives.
* `exists_modifyAlternative_iff`, `edited_modifyAlternative`: an alternative is changed in place.
* `EditsExactly`, `PicksRecords`: what is promised of edits.
* `edits_exact`: the edits keep their promises.
-/

namespace TagRules

open Outcome

namespace Rule

variable {reg : Registry} {record : Record}

/-! ### Alternatives -/

theorem toDnf_any (rs : List Rule) : (Rule.any rs).toDnf = rs.flatMap toDnf := by
  rw [toDnf, dnfs_eq, List.flatMap_def]

/-- An alternative is the conjunction of sound leaves, of which there is one. -/
theorem isAlternative_iff {a : Rule} : a.isAlternative = true ↔
    ∃ leaves, a = .all leaves ∧ leaves ≠ [] ∧ ∀ l ∈ leaves, l.isSoundLeaf = true := by
  cases a <;> simp [isAlternative]

theorem isSound_of_isAlternative {a : Rule} (h : a.isAlternative = true) : a.IsSound := by
  obtain ⟨leaves, rfl, hne, hleaves⟩ := isAlternative_iff.1 h
  exact (isSound_all_iff leaves).2 ⟨hne, fun l hl => isSound_of_isSoundLeaf (hleaves l hl)⟩

/-- **An alternative is its own normal form.** -/
theorem toDnf_of_isAlternative {a : Rule} (h : a.isAlternative = true) :
    a.toDnf = [a.children] := by
  obtain ⟨leaves, rfl, -, hleaves⟩ := isAlternative_iff.1 h
  rw [toDnf, foldl_product_leaves fun l hl => isLeaf_of_isSoundLeaf (hleaves l hl)]
  rfl

/-- Alternatives that are expanded stay as they are. -/
theorem map_all_flatMap_toDnf {as : List Rule} (h : ∀ a ∈ as, a.isAlternative = true) :
    (as.flatMap toDnf).map .all = as := by
  induction as with
  | nil => rfl
  | cons a as ih =>
    obtain ⟨ha, has⟩ := List.forall_mem_cons.1 h
    have hself : Rule.all a.children = a := by
      obtain ⟨leaves, rfl, -⟩ := isAlternative_iff.1 ha
      rfl
    rw [List.flatMap_cons, toDnf_of_isAlternative ha, List.map_append, ih has, List.map_singleton,
      hself, List.singleton_append]

theorem length_flatMap_toDnf {as : List Rule} (h : ∀ a ∈ as, a.isAlternative = true) :
    (as.flatMap toDnf).length = as.length := by
  have hmap := congrArg List.length (map_all_flatMap_toDnf h)
  rwa [List.length_map] at hmap

/-! ### Composites of rules that can be evaluated -/

/-- The truth values of rules that can be evaluated are those that they evaluate to. -/
theorem any_holds_of_values {value : Rule → Bool} {rs : List Rule}
    (h : ∀ r ∈ rs, r.evaluate record reg = .ok (value r)) :
    rs.any (holds reg record) = rs.any value := by
  rw [Bool.eq_iff_iff, List.any_eq_true, List.any_eq_true]
  exact exists_congr fun r => and_congr_right fun hr => by rw [holds_of_evaluate (h r hr)]

/-- Both of two rules that can be evaluated. -/
theorem evaluate_and {r s : Rule} {b c : Bool} (hr : r.evaluate record reg = .ok b)
    (hs : s.evaluate record reg = .ok c) : (r.and s).evaluate record reg = .ok (b && c) := by
  rw [evaluate_eq_ok_iff] at hr hs ⊢
  obtain ⟨hdefined, rfl⟩ := hr
  obtain ⟨hdefined', rfl⟩ := hs
  cases r with
  | all rs =>
    rw [Rule.and, defined_all_iff, holds_all, List.all_append, holds_all]
    refine ⟨List.forall_mem_append.2 ⟨defined_all_iff.1 hdefined, ?_⟩, by simp⟩
    simpa using hdefined'
  | _ =>
    show (Rule.all [_, s]).Defined reg record ∧ (Rule.all [_, s]).holds reg record = _
    rw [defined_all_iff, holds_all]
    exact ⟨by simp [hdefined, hdefined'], by simp⟩

/-- A rule that is joined to an alternative is joined to each of its own alternatives. -/
theorem toDnf_and {a r : Rule} (h : a.isAlternative = true) :
    (a.and r).toDnf = r.toDnf.map (a.children ++ ·) := by
  obtain ⟨leaves, rfl, -, hleaves⟩ := isAlternative_iff.1 h
  rw [Rule.and, toDnf, dnfs_eq, List.map_append, List.foldl_append, ← dnfs_eq,
    foldl_product_leaves fun l hl => isLeaf_of_isSoundLeaf (hleaves l hl)]
  simp [product, children]

theorem isSound_and_iff {a r : Rule} (h : a.isAlternative = true) :
    (a.and r).IsSound ↔ r.IsSound := by
  have hsound := isSound_of_isAlternative h
  obtain ⟨leaves, rfl, -⟩ := isAlternative_iff.1 h
  rw [Rule.and, isSound_all_iff, List.forall_mem_append, List.forall_mem_singleton]
  exact ⟨fun hboth => hboth.2.2, fun hr => ⟨by simp, ((isSound_all_iff leaves).1 hsound).2, hr⟩⟩

theorem alternativeCount_and {a r : Rule} (h : a.isAlternative = true) :
    (a.and r).alternativeCount = r.alternativeCount := by
  rw [alternativeCount_eq_min, alternativeCount_eq_min, toDnf_and h, List.length_map]

end Rule

namespace Tag

variable {t t' : Tag}

theorem rule_eq_any (t : Tag) : t.rule = .any t.alternatives := by
  obtain ⟨as, hrule, -⟩ := Rule.exists_alternatives t.canonical
  rw [alternatives, hrule]
  rfl

theorem isAlternative_of_mem {a : Rule} (ha : a ∈ t.alternatives) : a.isAlternative = true := by
  obtain ⟨as, hrule, ⟨-, hsound⟩, -⟩ := Rule.exists_alternatives t.canonical
  rw [alternatives, hrule] at ha
  obtain ⟨leaves, hleaves, rfl⟩ := List.mem_map.1 ha
  exact Rule.isAlternative_iff.2 ⟨leaves, rfl, hsound leaves hleaves⟩

/-- The alternatives of a tag can be evaluated when its rule can. -/
theorem exists_values {reg : Registry} {record : Record} {b : Bool}
    (h : t.rule.evaluate record reg = .ok b) : ∃ value : Rule → Bool,
      (∀ a ∈ t.alternatives, a.evaluate record reg = .ok (value a)) ∧
        t.alternatives.any value = b := by
  rw [rule_eq_any, Rule.evaluate_eq_ok_iff, Rule.defined_any_iff, Rule.holds_any] at h
  exact ⟨Rule.holds reg record, fun a ha => Rule.evaluate_eq_ok_iff.2 ⟨h.1 a ha, rfl⟩, h.2⟩

/-! ### A rule between alternatives -/

section

variable {before after : List Rule} {s : Rule}

theorem length_toDnf_between (h : ∀ a ∈ before ++ after, a.isAlternative = true) :
    (Rule.any (before ++ s :: after)).toDnf.length = (before ++ after).length + s.toDnf.length := by
  obtain ⟨hbefore, hafter⟩ := List.forall_mem_append.1 h
  rw [Rule.toDnf_any, List.flatMap_append, List.flatMap_cons, List.length_append,
    List.length_append, Rule.length_flatMap_toDnf hbefore, Rule.length_flatMap_toDnf hafter,
    List.length_append]
  omega

/-- **When a rule can be put between alternatives**: it is sound, and with its alternatives there
are not too many. -/
theorem exists_make_iff (h : ∀ a ∈ before ++ after, a.isAlternative = true) :
    (∃ t', make t.name (.any (before ++ s :: after)) = .ok t') ↔
      s.IsSound ∧ (before ++ after).length + s.alternativeCount ≤ Rule.maxAlternatives := by
  have hsound : (Rule.any (before ++ s :: after)).IsSound ↔ s.IsSound := by
    rw [Rule.isSound_any_iff]
    refine ⟨fun hall => hall.2 s (by simp), fun hs => ⟨by simp, fun a ha => ?_⟩⟩
    obtain rfl | ha : a = s ∨ a ∈ before ++ after := by
      simp only [List.mem_append, List.mem_cons] at ha ⊢
      tauto
    · exact hs
    · exact Rule.isSound_of_isAlternative (h a ha)
  have hcount : (before ++ after).length + s.toDnf.length ≤ Rule.maxAlternatives ↔
      (before ++ after).length + s.alternativeCount ≤ Rule.maxAlternatives := by
    have hbelow : Rule.maxAlternatives < 2 ^ 64 - 1 := by decide
    rw [Rule.alternativeCount_eq_min]
    omega
  rw [← hsound, ← hcount, ← length_toDnf_between h]
  constructor
  · rintro ⟨t', ht'⟩
    obtain ⟨-, hcanonical, -⟩ := make_eq_ok_iff.1 ht'
    obtain ⟨hs, hlength, -⟩ := Rule.canonical_eq_ok_iff.1 hcanonical
    exact ⟨hs, hlength⟩
  · rintro ⟨hs, hlength⟩
    have hcanonical := Rule.canonical_eq_ok_iff.2 ⟨hs, hlength, rfl⟩
    exact ⟨⟨t.name, _, t.name_ne, Rule.isCanonical_of_canonical hcanonical⟩,
      make_eq_ok_iff.2 ⟨t.name_ne, hcanonical, rfl⟩⟩

/-- **A tag after an edit**: its name stays, and its alternatives are some that stay, with those of
a rule between them. It matches when one of these does, where all of them can be evaluated. -/
structure Edited (t t' : Tag) (before after : List Rule) (s : Rule) : Prop where
  name : t'.name = t.name
  alternatives : t'.alternatives = before ++ s.toDnf.map .all ++ after
  evaluate : ∀ reg record (value : Rule → Bool) b,
    (∀ a ∈ before ++ after, a.evaluate record reg = .ok (value a)) →
    s.evaluate record reg = .ok b →
    t'.rule.evaluate record reg = .ok ((before ++ after).any value || b)

theorem edited_of_make (h : ∀ a ∈ before ++ after, a.isAlternative = true)
    (ht' : make t.name (.any (before ++ s :: after)) = .ok t') : Edited t t' before after s := by
  obtain ⟨hbefore, hafter⟩ := List.forall_mem_append.1 h
  obtain ⟨-, hcanonical, hname⟩ := make_eq_ok_iff.1 ht'
  obtain ⟨hsound, -, hrule⟩ := Rule.canonical_eq_ok_iff.1 hcanonical
  refine ⟨hname, ?_, fun reg record value b hvalue hb => ?_⟩
  · rw [Tag.alternatives, hrule, Rule.toDnf_any, List.flatMap_append, List.flatMap_cons]
    show List.map Rule.all _ = _
    rw [List.map_append, List.map_append, Rule.map_all_flatMap_toDnf hbefore,
      Rule.map_all_flatMap_toDnf hafter, List.append_assoc]
  · rw [hrule, ← ((Rule.sameMeaning_toDnf hsound).evaluate record reg).eq_ok_iff,
      Rule.evaluate_eq_ok_iff, Rule.defined_any_iff, Rule.holds_any]
    obtain ⟨hvalue, hvalue'⟩ := List.forall_mem_append.1 hvalue
    constructor
    · refine List.forall_mem_append.2 ⟨fun a ha => ⟨_, hvalue a ha⟩, ?_⟩
      exact List.forall_mem_cons.2 ⟨⟨b, hb⟩, fun a ha => ⟨_, hvalue' a ha⟩⟩
    · rw [List.any_append, List.any_cons, Rule.any_holds_of_values hvalue,
        Rule.any_holds_of_values hvalue', Rule.holds_of_evaluate hb, List.any_append]
      cases before.any value <;> cases after.any value <;> cases b <;> rfl

end

/-! ### An alternative that is changed -/

section

variable {index : Nat} {f : Rule → Rule}

/-- The alternatives that stay when one of them is changed. -/
theorem take_append_drop_eq_eraseIdx (t : Tag) (index : Nat) :
    t.alternatives.take index ++ t.alternatives.drop (index + 1) = t.alternatives.eraseIdx index :=
  (List.eraseIdx_eq_take_drop_succ _ _).symm

theorem forall_mem_kept (t : Tag) (index : Nat) :
    ∀ a ∈ t.alternatives.take index ++ t.alternatives.drop (index + 1), a.isAlternative = true := by
  rw [take_append_drop_eq_eraseIdx]
  exact fun a ha => isAlternative_of_mem (List.mem_of_mem_eraseIdx ha)

theorem modifyAlternative_eq {a : Rule} (ha : t.alternatives[index]? = some a) :
    t.modifyAlternative index f = make t.name
      (.any (t.alternatives.take index ++ f a :: t.alternatives.drop (index + 1))) := by
  obtain ⟨hlt, -⟩ := List.getElem?_eq_some_iff.1 ha
  simp only [modifyAlternative, ha]
  rw [List.set_eq_take_append_cons_drop, if_pos hlt]

/-- **When an alternative can be changed**: there is one at the place, and what it becomes is sound
and not too large. -/
theorem exists_modifyAlternative_iff : (∃ t', t.modifyAlternative index f = .ok t') ↔
    ∃ a, t.alternatives[index]? = some a ∧ (f a).IsSound ∧
      t.alternatives.length - 1 + (f a).alternativeCount ≤ Rule.maxAlternatives := by
  cases ha : t.alternatives[index]? with
  | none => simp [modifyAlternative, ha]
  | some a =>
    obtain ⟨hlt, -⟩ := List.getElem?_eq_some_iff.1 ha
    rw [modifyAlternative_eq ha, exists_make_iff (t.forall_mem_kept index),
      take_append_drop_eq_eraseIdx, List.length_eraseIdx_of_lt hlt]
    simp

/-- A change that gives every alternative the same size and soundness asks only for the place. -/
theorem exists_modifyAlternative_iff_of_forall {r : Rule}
    (hsound : ∀ a ∈ t.alternatives, ((f a).IsSound ↔ r.IsSound))
    (hcount : ∀ a ∈ t.alternatives, (f a).alternativeCount = r.alternativeCount) :
    (∃ t', t.modifyAlternative index f = .ok t') ↔ index < t.alternatives.length ∧ r.IsSound ∧
      t.alternatives.length - 1 + r.alternativeCount ≤ Rule.maxAlternatives := by
  rw [exists_modifyAlternative_iff]
  constructor
  · rintro ⟨a, ha, hs, hlength⟩
    have hmem := List.mem_of_getElem? ha
    rw [hcount a hmem] at hlength
    exact ⟨(List.getElem?_eq_some_iff.1 ha).1, (hsound a hmem).1 hs, hlength⟩
  · rintro ⟨hlt, hs, hlength⟩
    have hmem := List.getElem_mem hlt
    refine ⟨_, List.getElem?_eq_getElem hlt, (hsound _ hmem).2 hs, ?_⟩
    rwa [hcount _ hmem]

theorem edited_modifyAlternative (h : t.modifyAlternative index f = .ok t') :
    ∃ a, t.alternatives[index]? = some a ∧
      Edited t t' (t.alternatives.take index) (t.alternatives.drop (index + 1)) (f a) := by
  obtain ⟨a, ha, -⟩ := exists_modifyAlternative_iff.1 ⟨t', h⟩
  rw [modifyAlternative_eq ha] at h
  exact ⟨a, ha, edited_of_make (t.forall_mem_kept index) h⟩

/-- What a changed alternative is worth, where all alternatives can be evaluated. -/
theorem evaluate_modifyAlternative (h : t.modifyAlternative index f = .ok t') {reg : Registry}
    {record : Record} {value : Rule → Bool} (changed : Bool → Bool)
    (hvalue : ∀ a ∈ t.alternatives, a.evaluate record reg = .ok (value a))
    (hchanged : ∀ a ∈ t.alternatives, (f a).evaluate record reg = .ok (changed (value a))) :
    ∃ a, t.alternatives[index]? = some a ∧ t'.rule.evaluate record reg =
      .ok ((t.alternatives.eraseIdx index).any value || changed (value a)) := by
  obtain ⟨a, ha, hedited⟩ := edited_modifyAlternative h
  refine ⟨a, ha, ?_⟩
  rw [← take_append_drop_eq_eraseIdx]
  refine hedited.evaluate reg record value _ (fun a ha => ?_) (hchanged a (List.mem_of_getElem? ha))
  rw [take_append_drop_eq_eraseIdx] at ha
  exact hvalue a (List.mem_of_mem_eraseIdx ha)

end

/-! ### Records that are picked by a value -/

/-- **A value is one of some values**: it is not null, and it equals one of them by the equality of
the comparators, or one of its items does if it is a list. -/
def IsOneOf (ids : List Value) : Value → Prop
  | .null => False
  | .list items => ∃ item ∈ items, ∃ id ∈ ids, id.looseEq? item = some true
  | v => ∃ id ∈ ids, id.looseEq? v = some true

/-- **A name that a condition may have as its field.** -/
def IsFieldName (field : String) : Prop := field ≠ "" ∧ '.' ∉ field.toList ∧ field ≠ customKey

theorem isSound_fieldIn_iff {field : String} {ids : List Value} :
    (Rule.fieldIn field ids).IsSound ↔ IsFieldName field := by
  have hcheck : (Rule.fieldIn field ids).IsSound ↔
      (⟨field, none, "in", .list ids⟩ : Condition).check = .ok () := Iff.rfl
  rw [hcheck, Condition.check_eq_ok_iff, Condition.isKeyPart_iff, IsFieldName, and_assoc]
  simp

/-- The condition on the picked values never fails. -/
theorem exists_evaluate_fieldIn {reg : Registry}
    (hreg : reg.comparator? "in" = some (.binary Comparison.isIn)) (record : Record)
    (field : String) (ids : List Value) : ∃ b, (Rule.fieldIn field ids).evaluate record reg = .ok b ∧
      (b = true ↔ IsOneOf ids (record.get field)) := by
  have hpredicate : reg.resolvePredicate ⟨field, none, "in", .list ids⟩ =
      .ok (.binary Comparison.isIn (.list ids)) := by
    rw [Registry.resolvePredicate, hreg]
    rfl
  have htest : ∀ v, Rule.testCondition reg ⟨field, none, "in", .list ids⟩ v =
      (Predicate.binary Comparison.isIn (.list ids)).test v := fun v => by
    rw [Rule.testCondition, hpredicate]
    rfl
  simp only [Rule.fieldIn, Rule.evaluate_condition_iff, htest]
  cases record.get field with
  | null => exact ⟨false, rfl, by simp [IsOneOf]⟩
  | list items => exact ⟨_, rfl, by simp [IsOneOf, Comparison.listHas]⟩
  | _ => exact ⟨_, rfl, by simp [IsOneOf, Comparison.listHas]⟩

/-! ### The edits -/

/-- **What is promised of the edits of a tag by a rule.** -/
structure EditsExactly (t : Tag) (r : Rule) : Prop where
  /-- When an alternative can be added. -/
  exists_withAlternative_iff : (∃ t', t.withAlternative r = .ok t') ↔
    r.IsSound ∧ t.alternatives.length + r.alternativeCount ≤ Rule.maxAlternatives
  /-- When a condition can be added to an alternative. -/
  exists_withCondition_iff : ∀ index, (∃ t', t.withCondition index r = .ok t') ↔
    index < t.alternatives.length ∧ r.IsSound ∧
      t.alternatives.length - 1 + r.alternativeCount ≤ Rule.maxAlternatives
  /-- When an alternative can be replaced. -/
  exists_replaceAlternative_iff : ∀ index, (∃ t', t.replaceAlternative index r = .ok t') ↔
    index < t.alternatives.length ∧ r.IsSound ∧
      t.alternatives.length - 1 + r.alternativeCount ≤ Rule.maxAlternatives
  /-- With one more alternative, the tag matches when it did before or when the rule holds. -/
  withAlternative : ∀ t', t.withAlternative r = .ok t' → t'.name = t.name ∧
    (∃ added, t'.alternatives = t.alternatives ++ added) ∧
    ∀ reg record b c, t.rule.evaluate record reg = .ok b → r.evaluate record reg = .ok c →
      t'.rule.evaluate record reg = .ok (b || c)
  /-- With one more condition in an alternative, the tag matches when another alternative does, or
  when this one does and the rule holds. -/
  withCondition : ∀ index t', t.withCondition index r = .ok t' → t'.name = t.name ∧
    (∃ added, t'.alternatives =
      t.alternatives.take index ++ added ++ t.alternatives.drop (index + 1)) ∧
    ∀ reg record (value : Rule → Bool) c,
      (∀ a ∈ t.alternatives, a.evaluate record reg = .ok (value a)) →
      r.evaluate record reg = .ok c →
      ∃ a, t.alternatives[index]? = some a ∧ t'.rule.evaluate record reg =
        .ok ((t.alternatives.eraseIdx index).any value || (value a && c))
  /-- With another rule in the place of an alternative, the tag matches when another alternative
  does, or when the rule holds. -/
  replaceAlternative : ∀ index t', t.replaceAlternative index r = .ok t' → t'.name = t.name ∧
    (∃ added, t'.alternatives =
      t.alternatives.take index ++ added ++ t.alternatives.drop (index + 1)) ∧
    ∀ reg record (value : Rule → Bool) c,
      (∀ a ∈ t.alternatives, a.evaluate record reg = .ok (value a)) →
      r.evaluate record reg = .ok c →
      t'.rule.evaluate record reg = .ok ((t.alternatives.eraseIdx index).any value || c)

/-- **What is promised of picking records by the values of a field.** -/
structure PicksRecords (t : Tag) (field : String) (ids : List Value) : Prop where
  /-- When records can be picked. -/
  exists_withRecordIds_iff : (∃ t', t.withRecordIds field ids = .ok t') ↔
    ids ≠ [] ∧ IsFieldName field ∧ t.alternatives.length < Rule.maxAlternatives
  /-- The tag matches when it did before or when the field is one of the values. -/
  withRecordIds : ∀ t', t.withRecordIds field ids = .ok t' → t'.name = t.name ∧
    (∃ added, t'.alternatives = t.alternatives ++ added) ∧
    ∀ reg record b, reg.comparator? "in" = some (.binary Comparison.isIn) →
      t.rule.evaluate record reg = .ok b →
      ∃ b', t'.rule.evaluate record reg = .ok b' ∧
        (b' = true ↔ b = true ∨ IsOneOf ids (record.get field))

theorem editsExactly (t : Tag) (r : Rule) : EditsExactly t r := by
  have hall : ∀ a ∈ t.alternatives ++ [], a.isAlternative = true := fun a ha =>
    isAlternative_of_mem (List.append_nil t.alternatives ▸ ha)
  refine ⟨?_, fun index => ?_, fun index => ?_, fun t' h => ?_, fun index t' h => ?_,
    fun index t' h => ?_⟩
  · rw [withAlternative, exists_make_iff hall, List.append_nil]
  · exact exists_modifyAlternative_iff_of_forall
      (fun a ha => Rule.isSound_and_iff (isAlternative_of_mem ha))
      fun a ha => Rule.alternativeCount_and (isAlternative_of_mem ha)
  · exact exists_modifyAlternative_iff_of_forall (fun _ _ => Iff.rfl) fun _ _ => rfl
  · obtain ⟨hname, halternatives, hevaluate⟩ := edited_of_make hall h
    refine ⟨hname, ⟨r.toDnf.map .all, by rw [halternatives, List.append_nil]⟩, ?_⟩
    intro reg record b c hb hc
    obtain ⟨value, hvalue, rfl⟩ := exists_values hb
    rw [List.append_nil] at hevaluate
    exact hevaluate reg record value c hvalue hc
  · obtain ⟨a, -, hname, halternatives, -⟩ := edited_modifyAlternative h
    refine ⟨hname, ⟨_, halternatives⟩, fun reg record value c hvalue hc => ?_⟩
    exact evaluate_modifyAlternative h (· && c) hvalue fun a ha =>
      Rule.evaluate_and (hvalue a ha) hc
  · obtain ⟨a, -, hname, halternatives, -⟩ := edited_modifyAlternative h
    refine ⟨hname, ⟨_, halternatives⟩, fun reg record value c hvalue hc => ?_⟩
    obtain ⟨a, -, heval⟩ := evaluate_modifyAlternative h (fun _ => c) hvalue fun _ _ => hc
    exact heval

theorem picksRecords (t : Tag) (field : String) (ids : List Value) : PicksRecords t field ids := by
  have hedits := t.editsExactly (.fieldIn field ids)
  constructor
  · unfold Tag.withRecordIds
    cases ids with
    | nil => simp
    | cons id ids =>
      show (∃ t', t.withAlternative (.fieldIn field (id :: ids)) = .ok t') ↔ _
      rw [hedits.exists_withAlternative_iff, isSound_fieldIn_iff]
      have hcount : (Rule.fieldIn field (id :: ids)).alternativeCount = 1 := rfl
      rw [hcount]
      exact (and_iff_right (List.cons_ne_nil id ids)).symm
  · intro t' h
    unfold Tag.withRecordIds at h
    split at h
    · cases h
    obtain ⟨hname, hadded, hevaluate⟩ := hedits.withAlternative t' h
    refine ⟨hname, hadded, fun reg record b hreg hb => ?_⟩
    obtain ⟨c, hc, hpicked⟩ := exists_evaluate_fieldIn hreg record field ids
    refine ⟨b || c, hevaluate reg record b c hb hc, ?_⟩
    rw [Bool.or_eq_true, hpicked]

/-- **The edits of a tag do what they say.** They succeed when the rule is sound, the place exists
and there are not too many alternatives afterwards; the name and the other alternatives stay, and the
tag matches what the edit says. -/
theorem edits_exact (t : Tag) :
    (∀ r, EditsExactly t r) ∧ ∀ field ids, PicksRecords t field ids :=
  ⟨t.editsExactly, t.picksRecords⟩

/-- The tag of customers, who are members or have a card. -/
def customerTag : Tag where
  name := "customer"
  rule := .any [.all [.tagged "member"], .all [.custom "card"]]
  name_ne := by decide
  canonical := rfl

theorem edits_exact_customerTag :
    (∀ index, (∃ t', customerTag.withCondition index (.custom "local") = .ok t') ↔ index < 2) ∧
      (¬∃ t', customerTag.withAlternative Rule.toggles = .ok t') ∧
      ∃ t', customerTag.withRecordIds "id" [.int 7, .int 9] = .ok t' ∧ t'.name = "customer" := by
  obtain ⟨hedits, hpicks⟩ := edits_exact customerTag
  have hlocal : (Rule.custom "local").IsSound := rfl
  have hlength : customerTag.alternatives.length = 2 := rfl
  refine ⟨fun index => ?_, ?_, ?_⟩
  · rw [(hedits _).exists_withCondition_iff, hlength]
    exact ⟨And.left, fun h => ⟨h, hlocal, by decide⟩⟩
  · rw [(hedits _).exists_withAlternative_iff]
    rintro ⟨-, hfew⟩
    exact absurd hfew (by decide +kernel)
  · have hname : IsFieldName "id" := ⟨by decide, by decide, by decide⟩
    have hids : [Value.int 7, .int 9] ≠ [] := by simp
    obtain ⟨t', ht'⟩ := (hpicks _ _).exists_withRecordIds_iff.2 ⟨hids, hname, by decide⟩
    exact ⟨t', ht', ((hpicks _ _).withRecordIds t' ht').1⟩

end Tag

end TagRules
