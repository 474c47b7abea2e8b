import Mathlib.Data.List.Basic
import TagRules.Plan.Execute
import TagRules.Proofs.Outcome
import TagRules.TagSet

/-!
# Evaluating rules leaf by leaf

A rule can be evaluated when all its leaves can, and its truth value is that of its leaves.

* `Defined`: a rule can be evaluated on a record.
* `holds`: the truth value of a rule, where a leaf that cannot be evaluated counts as false.
* `holds_of_evaluate`, `evaluate_eq_ok_iff`: the truth value of a rule that can be evaluated.
* `defined_all_iff`, `defined_any_iff`: a composite can be evaluated when its children can.
* `evaluate_condition_iff`: a condition tests the value of its field after its transform.
* `Registry.IgnoresTags`, `Rule.evaluate_congr`: leaves that do not read the tag list.
* `defined_iff_forall_leaves`, `mem_leaves_iff`: the leaves of a rule in normal form.
* `evaluate_eq_ok_of_leaves`: a rule in normal form depends on its leaves only.
-/

namespace TagRules

namespace Rule

open Outcome

variable {reg : Registry} {record : Record}

/-! ### Truth values -/

mutual

/-- The truth value of a rule, where a leaf that cannot be evaluated counts as false. -/
def holds (reg : Registry) (record : Record) : Rule → Bool
  | .condition c => ((Rule.condition c).evaluate record reg).toOption.getD false
  | .custom key => ((Rule.custom key).evaluate record reg).toOption.getD false
  | .all rs => (holdsList reg record rs).all id
  | .any rs => (holdsList reg record rs).any id

/-- The truth values of some rules. -/
def holdsList (reg : Registry) (record : Record) : List Rule → List Bool
  | [] => []
  | r :: rs => holds reg record r :: holdsList reg record rs

end

theorem holdsList_eq (rs : List Rule) : holdsList reg record rs = rs.map (holds reg record) := by
  induction rs with
  | nil => rfl
  | cons r rs ih => rw [holdsList, ih, List.map_cons]

theorem holds_all (rs : List Rule) :
    holds reg record (.all rs) = rs.all (holds reg record) := by
  rw [holds, holdsList_eq, List.all_map]
  rfl

theorem holds_any (rs : List Rule) :
    holds reg record (.any rs) = rs.any (holds reg record) := by
  rw [holds, holdsList_eq, List.any_map]
  rfl

/-- A rule can be evaluated on a record. -/
def Defined (reg : Registry) (record : Record) (r : Rule) : Prop :=
  ∃ b, r.evaluate record reg = .ok b

theorem evaluate_of_resolve {r : Rule} {p : Resolved} (h : reg.resolve r = .ok p) :
    r.evaluate record reg = p.evaluate record := by
  rw [evaluate, h]
  rfl

/-! ### Composites -/

/-- The truth values of some rules, all of which are resolved first. -/
def evaluateRules (reg : Registry) (record : Record) (rs : List Rule) :
    Except EvalError (List Bool) := do
  Resolved.evaluateList record (← reg.resolveList rs)

theorem evaluate_all (rs : List Rule) :
    (Rule.all rs).evaluate record reg = (·.all id) <$> evaluateRules reg record rs := by
  unfold evaluate evaluateRules
  rw [Registry.resolve]
  cases reg.resolveList rs <;> rfl

theorem evaluate_any (rs : List Rule) :
    (Rule.any rs).evaluate record reg = (·.any id) <$> evaluateRules reg record rs := by
  unfold evaluate evaluateRules
  rw [Registry.resolve]
  cases reg.resolveList rs <;> rfl

theorem evaluateRules_cons_iff {r : Rule} {rs : List Rule} {bs : List Bool} :
    evaluateRules reg record (r :: rs) = .ok bs ↔
      ∃ b bs', r.evaluate record reg = .ok b ∧ evaluateRules reg record rs = .ok bs' ∧
        bs = b :: bs' := by
  unfold evaluateRules evaluate
  rw [Registry.resolveList]
  cases reg.resolve r with
  | error e => simp [bind, Except.bind]
  | ok p =>
    cases reg.resolveList rs with
    | error e => simp [bind, Except.bind]
    | ok ps =>
      show (do
        let b ← p.evaluate record
        let bs ← Resolved.evaluateList record ps
        return b :: bs) = Except.ok bs ↔ _
      constructor
      · intro h
        obtain ⟨b, hb, h⟩ := bind_eq_ok_iff.1 h
        obtain ⟨bs', hbs', h⟩ := bind_eq_ok_iff.1 h
        cases h
        exact ⟨b, bs', hb, hbs', rfl⟩
      · rintro ⟨b, bs', hb, hbs', rfl⟩
        exact bind_eq_ok_iff.2 ⟨b, hb, bind_eq_ok_iff.2 ⟨bs', hbs', rfl⟩⟩

/-- Some rules can be evaluated when each of them can. -/
theorem exists_evaluateRules_iff {rs : List Rule} :
    (∃ bs, evaluateRules reg record rs = .ok bs) ↔ ∀ r ∈ rs, r.Defined reg record := by
  induction rs with
  | nil => exact ⟨fun _ r hr => absurd hr (by simp), fun _ => ⟨[], rfl⟩⟩
  | cons r rs ih =>
    rw [List.forall_mem_cons, ← ih]
    constructor
    · rintro ⟨bs, h⟩
      obtain ⟨b, bs', hb, hbs', -⟩ := evaluateRules_cons_iff.1 h
      exact ⟨⟨b, hb⟩, bs', hbs'⟩
    · rintro ⟨⟨b, hb⟩, bs', hbs'⟩
      exact ⟨b :: bs', evaluateRules_cons_iff.2 ⟨b, bs', hb, hbs', rfl⟩⟩

/-- A conjunction can be evaluated when its children can. -/
theorem defined_all_iff {rs : List Rule} :
    (Rule.all rs).Defined reg record ↔ ∀ r ∈ rs, r.Defined reg record := by
  rw [← exists_evaluateRules_iff, Defined, evaluate_all, exists_map_eq_ok_iff]

/-- A disjunction can be evaluated when its children can. -/
theorem defined_any_iff {rs : List Rule} :
    (Rule.any rs).Defined reg record ↔ ∀ r ∈ rs, r.Defined reg record := by
  rw [← exists_evaluateRules_iff, Defined, evaluate_any, exists_map_eq_ok_iff]

mutual

/-- **The truth value of a rule that can be evaluated.** -/
theorem holds_of_evaluate : ∀ {r : Rule} {b : Bool}, r.evaluate record reg = .ok b →
    r.holds reg record = b
  | .condition c, b, h => by
    rw [holds, h]
    rfl
  | .custom key, b, h => by
    rw [holds, h]
    rfl
  | .all rs, b, h => by
    rw [evaluate_all, map_eq_ok_iff] at h
    obtain ⟨bs, hbs, rfl⟩ := h
    rw [holds, holdsList_of_evaluateRules hbs]
  | .any rs, b, h => by
    rw [evaluate_any, map_eq_ok_iff] at h
    obtain ⟨bs, hbs, rfl⟩ := h
    rw [holds, holdsList_of_evaluateRules hbs]

theorem holdsList_of_evaluateRules : ∀ {rs : List Rule} {bs : List Bool},
    evaluateRules reg record rs = .ok bs → holdsList reg record rs = bs
  | [], bs, h => by
    cases h
    rfl
  | r :: rs, bs, h => by
    obtain ⟨b, bs', hb, hbs', rfl⟩ := evaluateRules_cons_iff.1 h
    rw [holdsList, holds_of_evaluate hb, holdsList_of_evaluateRules hbs']

end

/-- A rule has a result when it can be evaluated, and then this is its truth value. -/
theorem evaluate_eq_ok_iff {r : Rule} {b : Bool} :
    r.evaluate record reg = .ok b ↔ r.Defined reg record ∧ r.holds reg record = b := by
  constructor
  · exact fun h => ⟨⟨b, h⟩, holds_of_evaluate h⟩
  · rintro ⟨⟨b', h⟩, rfl⟩
    rw [holds_of_evaluate h, h]

/-! ### Conditions -/

/-- The transform of a condition, if it has one. -/
def transformOf (reg : Registry) (c : Condition) : Except EvalError (Option Transform) :=
  match c.transform with
  | some key => some <$> reg.resolveTransform key
  | none => .ok none

theorem resolveCondition_eq (c : Condition) :
    reg.resolveCondition c = (do
      let transform ← transformOf reg c
      return .condition c.field transform (← reg.resolvePredicate c)) := by
  unfold Registry.resolveCondition transformOf
  cases c.transform <;> rfl

theorem evaluate_condition (c : Condition) :
    (Rule.condition c).evaluate record reg = (do
      let transform ← transformOf reg c
      let predicate ← reg.resolvePredicate c
      Resolved.testValue transform predicate (record.get c.field)) := by
  unfold evaluate
  rw [Registry.resolve, resolveCondition_eq]
  cases transformOf reg c with
  | error e => rfl
  | ok transform => cases reg.resolvePredicate c <;> rfl

/-- Tests a value against the literal of a condition, after its transform. -/
def testCondition (reg : Registry) (c : Condition) (v : Value) : Except EvalError Bool := do
  let predicate ← reg.resolvePredicate c
  predicate.test (← reg.applyTransform c.transform v)

/-- **A condition tests the value of its field.** Only errors may differ, as the transform is looked
up first. -/
theorem evaluate_condition_iff {c : Condition} {b : Bool} :
    (Rule.condition c).evaluate record reg = .ok b ↔
      testCondition reg c (record.get c.field) = .ok b := by
  rw [evaluate_condition, testCondition, transformOf]
  generalize record.get c.field = v
  cases c.transform with
  | none => cases reg.resolvePredicate c <;> rfl
  | some key =>
    dsimp only [Registry.applyTransform]
    cases reg.resolveTransform key with
    | error e =>
      cases reg.resolvePredicate c <;> simp [bind, Except.bind, Functor.map, Except.map]
    | ok f =>
      cases reg.resolvePredicate c with
      | error e => exact Iff.rfl
      | ok predicate => cases v <;> rfl

end Rule

/-! ### Leaves that do not read the tag list -/

/-- Two records have the same fields but for the tag list. -/
def Record.AgreesOffTags (r s : Record) : Prop :=
  ∀ field, field ≠ tagsField → r.get? field = s.get? field

theorem Record.agreesOffTags_withTags (r : Record) (tags : List String) :
    r.AgreesOffTags (r.withTags tags) := by
  intro field hne
  rw [withTags, get?_insert, if_neg hne]

theorem Record.get_withTags (r : Record) (tags : List String) :
    (r.withTags tags).get tagsField = .ofStrings tags := by
  rw [get, withTags, get?_insert, if_pos rfl]
  rfl

theorem Record.AgreesOffTags.symm {r s : Record} (h : r.AgreesOffTags s) : s.AgreesOffTags r :=
  fun field hne => (h field hne).symm

theorem Record.AgreesOffTags.trans {r s t : Record} (h : r.AgreesOffTags s)
    (h' : s.AgreesOffTags t) : r.AgreesOffTags t :=
  fun field hne => (h field hne).trans (h' field hne)

/-- **The custom rules of a registry do not read the tag list.** -/
def Registry.IgnoresTags (reg : Registry) : Prop :=
  ∀ key f, reg.customRule? key = some f → ∀ r s : Record, r.AgreesOffTags s → f r = f s

namespace Rule

open Outcome

variable {reg : Registry}

/-- Whether a rule is a condition on the tag list. -/
def isTagReference : Rule → Bool
  | .condition c => c.isTagReference
  | _ => false

/-- **Leaves that do not read the tag list** do not tell records apart that differ in it only. -/
theorem evaluate_congr {l : Rule} (hreg : reg.IgnoresTags) (hleaf : l.isLeaf = true)
    (href : l.isTagReference = false) {r s : Record} (h : r.AgreesOffTags s) :
    l.evaluate r reg = l.evaluate s reg := by
  cases l with
  | condition c =>
    have hne : c.field ≠ tagsField := by simpa [isTagReference, Condition.isTagReference] using href
    have hget : r.get c.field = s.get c.field := by rw [Record.get, Record.get, h c.field hne]
    rw [evaluate_condition, evaluate_condition, hget]
  | custom key =>
    unfold evaluate
    rw [Registry.resolve, Registry.resolveCustom]
    cases hf : reg.customRule? key with
    | none => rfl
    | some f => exact hreg key f hf r s h
  | all rs => cases hleaf
  | any rs => cases hleaf

/-- A leaf with the same result on two records has the same truth value. -/
theorem holds_of_evaluate_eq {l : Rule} (hleaf : l.isLeaf = true) {r s : Record}
    (h : l.evaluate r reg = l.evaluate s reg) : l.holds reg r = l.holds reg s := by
  cases l with
  | condition c => rw [holds, holds, h]
  | custom key => rw [holds, holds, h]
  | all rs => cases hleaf
  | any rs => cases hleaf

theorem holds_congr {l : Rule} (hreg : reg.IgnoresTags) (hleaf : l.isLeaf = true)
    (href : l.isTagReference = false) {r s : Record} (h : r.AgreesOffTags s) :
    l.holds reg r = l.holds reg s :=
  holds_of_evaluate_eq hleaf (evaluate_congr hreg hleaf href h)

/-! ### Rules in normal form -/

/-- The leaves of a rule in normal form. -/
def leaves (r : Rule) : List Rule := r.children.flatMap children

/-- A rule in normal form is a disjunction of conjunctions of leaves. -/
theorem exists_of_isCanonical {r : Rule} (h : r.isCanonical = true) :
    ∃ alternatives, r = .any alternatives ∧ ∀ a ∈ alternatives, ∃ ls, a = .all ls ∧
      ∀ l ∈ ls, l.isLeaf = true := by
  cases r with
  | any alternatives =>
    refine ⟨alternatives, rfl, fun a ha => ?_⟩
    simp only [isCanonical, Bool.and_eq_true, List.all_eq_true] at h
    have ha' := h.2 a ha
    cases a with
    | all ls =>
      refine ⟨ls, rfl, fun l hl => ?_⟩
      simp only [isAlternative, Bool.and_eq_true, List.all_eq_true] at ha'
      have hl' := ha'.2 l hl
      rw [isSoundLeaf, Bool.and_eq_true] at hl'
      exact hl'.1
    | _ => cases ha'
  | _ => cases h

theorem isLeaf_of_mem_leaves {r l : Rule} (h : r.isCanonical = true) (hl : l ∈ r.leaves) :
    l.isLeaf = true := by
  obtain ⟨alternatives, rfl, halternatives⟩ := exists_of_isCanonical h
  obtain ⟨a, ha, hla⟩ := List.mem_flatMap.1 hl
  obtain ⟨ls, rfl, hls⟩ := halternatives a ha
  exact hls l hla

/-- A rule in normal form can be evaluated when its leaves can. -/
theorem defined_iff_forall_leaves {record : Record} {r : Rule} (h : r.isCanonical = true) :
    r.Defined reg record ↔ ∀ l ∈ r.leaves, l.Defined reg record := by
  obtain ⟨alternatives, rfl, halternatives⟩ := exists_of_isCanonical h
  rw [defined_any_iff]
  constructor
  · intro hdefined l hl
    obtain ⟨a, ha, hla⟩ := List.mem_flatMap.1 hl
    obtain ⟨ls, rfl, -⟩ := halternatives a ha
    exact defined_all_iff.1 (hdefined _ ha) l hla
  · intro hdefined a ha
    obtain ⟨ls, rfl, -⟩ := halternatives a ha
    exact defined_all_iff.2 fun l hl => hdefined l (List.mem_flatMap.2 ⟨.all ls, ha, hl⟩)

/-- A rule in normal form can be evaluated on two records alike if its leaves can. -/
theorem defined_iff_of_leaves {r : Rule} (h : r.isCanonical = true) {x y : Record}
    (hleaves : ∀ l ∈ r.leaves, l.evaluate x reg = l.evaluate y reg) :
    r.Defined reg x ↔ r.Defined reg y := by
  rw [defined_iff_forall_leaves h, defined_iff_forall_leaves h]
  refine forall₂_congr fun l hl => ?_
  rw [Defined, Defined, hleaves l hl]

/-- A rule in normal form has the same truth value on two records if its leaves have. -/
theorem holds_eq_of_leaves {r : Rule} (h : r.isCanonical = true) {x y : Record}
    (hleaves : ∀ l ∈ r.leaves, l.evaluate x reg = l.evaluate y reg) :
    r.holds reg x = r.holds reg y := by
  obtain ⟨alternatives, rfl, halternatives⟩ := exists_of_isCanonical h
  rw [holds_any, holds_any, Bool.eq_iff_iff, List.any_eq_true, List.any_eq_true]
  refine exists_congr fun a => and_congr_right fun ha => ?_
  obtain ⟨ls, rfl, hls⟩ := halternatives a ha
  rw [holds_all, holds_all, List.all_eq_true, List.all_eq_true]
  refine forall₂_congr fun l hl => ?_
  have hmem : l ∈ (Rule.any alternatives).leaves := List.mem_flatMap.2 ⟨.all ls, ha, hl⟩
  rw [holds_of_evaluate_eq (hls l hl) (hleaves l hmem)]

/-- **A rule in normal form tells two records apart only if one of its leaves does.** -/
theorem evaluate_eq_ok_of_leaves {r : Rule} (h : r.isCanonical = true) {x y : Record}
    (hleaves : ∀ l ∈ r.leaves, l.evaluate x reg = l.evaluate y reg) (b : Bool) :
    r.evaluate x reg = .ok b ↔ r.evaluate y reg = .ok b := by
  rw [evaluate_eq_ok_iff, evaluate_eq_ok_iff, defined_iff_of_leaves h hleaves,
    holds_eq_of_leaves h hleaves]

/-- The leaves among the nodes of a rule in normal form. -/
theorem mem_leaves_iff {r l : Rule} (h : r.isCanonical = true) :
    l ∈ r.leaves ↔ l ∈ r.subrules ∧ l.isLeaf = true := by
  obtain ⟨alternatives, rfl, halternatives⟩ := exists_of_isCanonical h
  have hleaf : ∀ l : Rule, l.isLeaf = true → l.subrules = [l] := by
    intro l hl
    cases l <;> first | rfl | cases hl
  constructor
  · intro hl
    refine ⟨?_, isLeaf_of_mem_leaves h hl⟩
    obtain ⟨a, ha, hla⟩ := List.mem_flatMap.1 hl
    obtain ⟨ls, rfl, hls⟩ := halternatives a ha
    rw [subrules_eq]
    refine List.mem_cons_of_mem _ (List.mem_flatMap.2 ⟨_, ha, ?_⟩)
    rw [subrules_eq]
    refine List.mem_cons_of_mem _ (List.mem_flatMap.2 ⟨l, hla, ?_⟩)
    rw [hleaf l (hls l hla)]
    exact List.mem_singleton_self l
  · rintro ⟨hl, hlleaf⟩
    rw [subrules_eq] at hl
    rcases List.mem_cons.1 hl with rfl | hl
    · cases hlleaf
    obtain ⟨a, ha, hla⟩ := List.mem_flatMap.1 hl
    obtain ⟨ls, rfl, hls⟩ := halternatives a ha
    rw [subrules_eq] at hla
    rcases List.mem_cons.1 hla with rfl | hla
    · cases hlleaf
    obtain ⟨k, hk, hlk⟩ := List.mem_flatMap.1 hla
    rw [hleaf k (hls k hk), List.mem_singleton] at hlk
    subst hlk
    exact List.mem_flatMap.2 ⟨_, ha, hk⟩

end Rule

end TagRules
