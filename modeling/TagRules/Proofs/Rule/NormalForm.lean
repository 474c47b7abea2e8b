import TagRules.Proofs.Rule.Evaluation
import TagRules.Tag

/-!
# What the normal form keeps of a rule

The alternatives of a rule are made by joining the alternatives of its children. Every leaf of a
sound rule gets into one of them, so that a rule and its normal form can be evaluated on the same
records, with the same truth value.

* `HasLeaf`: the leaves of a rule.
* `holds_toDnf`: the truth value of a rule is that of its alternatives.
* `occurs_toDnf_iff`: the leaves of the alternatives of a sound rule are the leaves of the rule.
* `defined_iff_hasLeaf`: a rule can be evaluated when its leaves can.
* `SameMeaning`: two rules with the same leaves and the same truth values.
* `SameMeaning.defined_iff`, `SameMeaning.validate_iff`: such rules can be evaluated on the same
  records, and sound ones are valid together.
* `exists_normalForm_sameMeaning`: the normal form has the meaning of the rule.
* `exists_alternatives`: what a rule in normal form is made of.
* `toDnf_ofAlternatives`, `canonical_ofAlternatives`: a rule in normal form stays as it is.
* `validate_eq_ok_iff`: a rule is valid when it is sound and its leaves are valid.
-/

namespace TagRules.Rule

open Outcome

variable {reg : Registry} {record : Record}

/-- What holds of a composite when it holds of its children holds of every rule. -/
@[elab_as_elim]
theorem induction {motive : Rule → Prop} (condition : ∀ c, motive (.condition c))
    (custom : ∀ key, motive (.custom key))
    (all : ∀ rs, (∀ r ∈ rs, motive r) → motive (.all rs))
    (any : ∀ rs, (∀ r ∈ rs, motive r) → motive (.any rs)) (r : Rule) : motive r :=
  @Rule.rec motive (fun rs => ∀ r ∈ rs, motive r) condition custom (fun rs ih => all rs ih)
    (fun rs ih => any rs ih) (fun r hr => by simp at hr)
    (fun _ _ hr hrs => List.forall_mem_cons.2 ⟨hr, hrs⟩) r

/-! ### Leaves -/

/-- **The leaves of a rule** are the nodes that are no composites. -/
def HasLeaf (r l : Rule) : Prop := l ∈ r.subrules ∧ l.isLeaf = true

theorem hasLeaf_of_isLeaf {r l : Rule} (h : r.isLeaf = true) : r.HasLeaf l ↔ l = r := by
  have hsub : r.subrules = [r] := by
    cases r <;> first | rfl | cases h
  rw [HasLeaf, hsub, List.mem_singleton]
  constructor
  · exact fun hl => hl.1
  · rintro rfl
    exact ⟨rfl, h⟩

/-- The leaves of a composite are those of its children. -/
theorem hasLeaf_of_not_isLeaf {r l : Rule} (h : r.isLeaf = false) :
    r.HasLeaf l ↔ ∃ child ∈ r.children, child.HasLeaf l := by
  unfold HasLeaf
  rw [subrules_eq, List.mem_cons, List.mem_flatMap]
  constructor
  · rintro ⟨rfl | ⟨child, hchild, hl⟩, hleaf⟩
    · rw [h] at hleaf
      cases hleaf
    · exact ⟨child, hchild, hl, hleaf⟩
  · rintro ⟨child, hchild, hl, hleaf⟩
    exact ⟨.inr ⟨child, hchild, hl⟩, hleaf⟩

theorem hasLeaf_all {rs : List Rule} {l : Rule} :
    (Rule.all rs).HasLeaf l ↔ ∃ r ∈ rs, r.HasLeaf l :=
  hasLeaf_of_not_isLeaf rfl

theorem hasLeaf_any {rs : List Rule} {l : Rule} :
    (Rule.any rs).HasLeaf l ↔ ∃ r ∈ rs, r.HasLeaf l :=
  hasLeaf_of_not_isLeaf rfl

/-- **A rule can be evaluated when its leaves can.** No leaf is passed over, even where the truth
value is already decided. -/
theorem defined_iff_hasLeaf (r : Rule) :
    r.Defined reg record ↔ ∀ l, r.HasLeaf l → l.Defined reg record := by
  induction r using Rule.induction with
  | condition c => simp [hasLeaf_of_isLeaf (r := .condition c) rfl]
  | custom key => simp [hasLeaf_of_isLeaf (r := .custom key) rfl]
  | all rs ih =>
    simp only [defined_all_iff, hasLeaf_all]
    constructor
    · rintro h l ⟨r, hr, hl⟩
      exact (ih r hr).1 (h r hr) l hl
    · exact fun h r hr => (ih r hr).2 fun l hl => h l ⟨r, hr, hl⟩
  | any rs ih =>
    simp only [defined_any_iff, hasLeaf_any]
    constructor
    · rintro h l ⟨r, hr, hl⟩
      exact (ih r hr).1 (h r hr) l hl
    · exact fun h r hr => (ih r hr).2 fun l hl => h l ⟨r, hr, hl⟩

/-- The tags that a rule names are those that its leaves name. -/
theorem mem_tagReferences {r : Rule} {name : String} :
    name ∈ r.tagReferences ↔ ∃ l, r.HasLeaf l ∧ name ∈ l.referencedTags := by
  rw [tagReferences, List.mem_eraseDups, List.mem_flatMap]
  constructor
  · rintro ⟨l, hl, hname⟩
    refine ⟨l, ⟨hl, ?_⟩, hname⟩
    -- A composite names no tags by itself.
    cases l <;> first | rfl | cases hname
  · rintro ⟨l, ⟨hl, -⟩, hname⟩
    exact ⟨l, hl, hname⟩

/-! ### Truth values of alternatives -/

/-- The truth value of some alternatives, of which one has to hold with all its leaves. -/
def holdsAny (reg : Registry) (record : Record) (as : List (List Rule)) : Bool :=
  as.any fun a => a.all (holds reg record)

theorem holdsAny_product (as bs : List (List Rule)) :
    holdsAny reg record (product as bs) = (holdsAny reg record as && holdsAny reg record bs) := by
  rw [Bool.eq_iff_iff, Bool.and_eq_true]
  simp only [holdsAny, List.any_eq_true, mem_product]
  constructor
  · rintro ⟨c, ⟨a, ha, b, hb, rfl⟩, hc⟩
    rw [List.all_append, Bool.and_eq_true] at hc
    exact ⟨⟨a, ha, hc.1⟩, ⟨b, hb, hc.2⟩⟩
  · rintro ⟨⟨a, ha, hholds⟩, ⟨b, hb, hholds'⟩⟩
    refine ⟨a ++ b, ⟨a, ha, b, hb, rfl⟩, ?_⟩
    rw [List.all_append, hholds, hholds']
    rfl

theorem holdsAny_foldl_product (ds : List (List (List Rule))) (as : List (List Rule)) :
    holdsAny reg record (ds.foldl product as) =
      (holdsAny reg record as && ds.all (holdsAny reg record)) := by
  induction ds generalizing as with
  | nil => simp
  | cons d ds ih => rw [List.foldl_cons, ih, holdsAny_product, List.all_cons, Bool.and_assoc]

theorem holdsAny_flatten (ds : List (List (List Rule))) :
    holdsAny reg record ds.flatten = ds.any (holdsAny reg record) :=
  List.any_flatten

/-- **The truth value of a rule is that of its alternatives.** -/
theorem holds_toDnf (r : Rule) : holdsAny reg record r.toDnf = r.holds reg record := by
  induction r using Rule.induction with
  | condition c => simp [holdsAny, toDnf]
  | custom key => simp [holdsAny, toDnf]
  | all rs ih =>
    -- The product starts from one alternative without leaves, which holds.
    have hempty : holdsAny reg record [[]] = true := rfl
    rw [toDnf, holdsAny_foldl_product, hempty, Bool.true_and, dnfs_eq, holds_all, List.all_map]
    rw [Bool.eq_iff_iff, List.all_eq_true, List.all_eq_true]
    exact forall₂_congr fun r hr => by rw [Function.comp, ih r hr]
  | any rs ih =>
    rw [toDnf, holdsAny_flatten, dnfs_eq, holds_any, List.any_map]
    rw [Bool.eq_iff_iff, List.any_eq_true, List.any_eq_true]
    exact exists_congr fun r => and_congr_right fun hr => by rw [Function.comp, ih r hr]

theorem holds_ofAlternatives (as : List (List Rule)) :
    (ofAlternatives as).holds reg record = holdsAny reg record as := by
  rw [ofAlternatives, holds_any, List.any_map, holdsAny]
  congr 1
  exact funext holds_all

/-! ### Leaves of alternatives -/

theorem product_ne_nil {as bs : List (List Rule)} (has : as ≠ []) (hbs : bs ≠ []) :
    product as bs ≠ [] := by
  obtain ⟨a, ha⟩ := List.exists_mem_of_ne_nil as has
  obtain ⟨b, hb⟩ := List.exists_mem_of_ne_nil bs hbs
  exact List.ne_nil_of_mem (mem_product.2 ⟨a, ha, b, hb, rfl⟩)

/-- A leaf is in one of some alternatives. -/
def Occurs (l : Rule) (as : List (List Rule)) : Prop := ∃ a ∈ as, l ∈ a

/-- Joining loses no leaf, as every alternative of one side meets one of the other side. -/
theorem occurs_product {as bs : List (List Rule)} (has : as ≠ []) (hbs : bs ≠ []) {l : Rule} :
    Occurs l (product as bs) ↔ Occurs l as ∨ Occurs l bs := by
  obtain ⟨a', ha'⟩ := List.exists_mem_of_ne_nil as has
  obtain ⟨b', hb'⟩ := List.exists_mem_of_ne_nil bs hbs
  simp only [Occurs, mem_product]
  constructor
  · rintro ⟨c, ⟨a, ha, b, hb, rfl⟩, hl⟩
    rcases List.mem_append.1 hl with hl | hl
    · exact .inl ⟨a, ha, hl⟩
    · exact .inr ⟨b, hb, hl⟩
  · rintro (⟨a, ha, hl⟩ | ⟨b, hb, hl⟩)
    · exact ⟨a ++ b', ⟨a, ha, b', hb', rfl⟩, List.mem_append_left _ hl⟩
    · exact ⟨a' ++ b, ⟨a', ha', b, hb, rfl⟩, List.mem_append_right _ hl⟩

theorem occurs_foldl_product {ds : List (List (List Rule))} {l : Rule} :
    ∀ {as : List (List Rule)}, as ≠ [] → (∀ d ∈ ds, d ≠ []) →
      (Occurs l (ds.foldl product as) ↔ Occurs l as ∨ ∃ d ∈ ds, Occurs l d) := by
  induction ds with
  | nil => simp
  | cons d ds ih =>
    intro as has hds
    obtain ⟨hd, hds⟩ := List.forall_mem_cons.1 hds
    rw [List.foldl_cons, ih (product_ne_nil has hd) hds, occurs_product has hd, or_assoc]
    simp

/-- **The leaves of the alternatives of a sound rule** are the leaves of the rule. -/
theorem occurs_toDnf_iff {r l : Rule} (h : r.IsSound) : Occurs l r.toDnf ↔ r.HasLeaf l := by
  induction r using Rule.induction with
  | condition c => simp [Occurs, toDnf, hasLeaf_of_isLeaf (r := .condition c) rfl]
  | custom key => simp [Occurs, toDnf, hasLeaf_of_isLeaf (r := .custom key) rfl]
  | all rs ih =>
    obtain ⟨-, hsound⟩ := (isSound_all_iff rs).1 h
    have hne : ∀ d ∈ rs.map toDnf, d ≠ [] := by
      rw [List.forall_mem_map]
      exact fun r hr => (toDnf_sound r (hsound r hr)).1
    have hempty : ¬Occurs l [[]] := by simp [Occurs]
    rw [toDnf, dnfs_eq, occurs_foldl_product (List.cons_ne_nil _ _) hne, or_iff_right hempty,
      hasLeaf_all]
    simp only [List.mem_map, exists_exists_and_eq_and]
    exact exists_congr fun r => and_congr_right fun hr => ih r hr (hsound r hr)
  | any rs ih =>
    obtain ⟨-, hsound⟩ := (isSound_any_iff rs).1 h
    have hflat : Occurs l (dnfs rs).flatten ↔ ∃ r ∈ rs, Occurs l r.toDnf := by
      simp only [Occurs, dnfs_eq, List.mem_flatten, List.mem_map]
      constructor
      · rintro ⟨a, ⟨d, ⟨r, hr, rfl⟩, ha⟩, hl⟩
        exact ⟨r, hr, a, ha, hl⟩
      · rintro ⟨r, hr, a, ha, hl⟩
        exact ⟨a, ⟨_, ⟨r, hr, rfl⟩, ha⟩, hl⟩
    rw [toDnf, hflat, hasLeaf_any]
    exact exists_congr fun r => and_congr_right fun hr => ih r hr (hsound r hr)

theorem hasLeaf_ofAlternatives {as : List (List Rule)} (h : ∀ a ∈ as, ∀ l ∈ a, l.isLeaf = true)
    {l : Rule} : (ofAlternatives as).HasLeaf l ↔ Occurs l as := by
  rw [ofAlternatives, hasLeaf_any]
  simp only [List.mem_map, exists_exists_and_eq_and]
  refine exists_congr fun a => and_congr_right fun ha => ?_
  rw [hasLeaf_all]
  constructor
  · rintro ⟨k, hk, hl⟩
    rwa [(hasLeaf_of_isLeaf (h a ha k hk)).1 hl]
  · exact fun hl => ⟨l, hl, (hasLeaf_of_isLeaf (h a ha l hl)).2 rfl⟩

/-! ### The meaning of a rule -/

/-- **Two rules have the same meaning**: they can be evaluated on the same records, with the same
truth value, and they have the same leaves, so that they name the same tags. -/
structure SameMeaning (r s : Rule) : Prop where
  /-- Both evaluations succeed with the same truth value, or both fail. -/
  evaluate : ∀ record reg, Agree (r.evaluate record reg) (s.evaluate record reg)
  /-- Both rules have the same leaves. -/
  leaves : ∀ l, r.HasLeaf l ↔ s.HasLeaf l
  /-- Both rules name the same tags. -/
  tagReferences : ∀ name, name ∈ r.tagReferences ↔ name ∈ s.tagReferences

/-- Two rules with the same leaves have the same meaning if they have the same truth values, where a
leaf that cannot be evaluated counts as false. -/
theorem SameMeaning.of_leaves {r s : Rule} (hleaves : ∀ l, r.HasLeaf l ↔ s.HasLeaf l)
    (hholds : ∀ reg record, r.holds reg record = s.holds reg record) : SameMeaning r s := by
  refine ⟨fun record reg => agree_of_forall fun b => ?_, hleaves, fun name => ?_⟩
  · have hdefined : r.Defined reg record ↔ s.Defined reg record := by
      rw [defined_iff_hasLeaf, defined_iff_hasLeaf]
      exact forall_congr' fun l => by rw [hleaves l]
    rw [evaluate_eq_ok_iff, evaluate_eq_ok_iff, hdefined, hholds]
  · rw [mem_tagReferences, mem_tagReferences]
    exact exists_congr fun l => by rw [hleaves l]

/-- Rules with the same meaning can be evaluated on the same records. -/
theorem SameMeaning.defined_iff {r s : Rule} (h : SameMeaning r s) :
    r.Defined reg record ↔ s.Defined reg record :=
  exists_congr fun _ => (h.evaluate record reg).eq_ok_iff

theorem isLeaf_of_isSoundLeaf {l : Rule} (h : l.isSoundLeaf = true) : l.isLeaf = true := by
  rw [isSoundLeaf, Bool.and_eq_true] at h
  exact h.1

/-- **The alternatives of a sound rule have the meaning of the rule.** -/
theorem sameMeaning_toDnf {r : Rule} (h : r.IsSound) : SameMeaning r (ofAlternatives r.toDnf) := by
  have hleaf : ∀ a ∈ r.toDnf, ∀ l ∈ a, l.isLeaf = true :=
    fun a ha l hl => isLeaf_of_isSoundLeaf (((toDnf_sound r h).2 a ha).2 l hl)
  refine .of_leaves (fun l => ?_) fun reg record => ?_
  · rw [hasLeaf_ofAlternatives hleaf, occurs_toDnf_iff h]
  · rw [holds_ofAlternatives, holds_toDnf]

/-- **The normal form has the meaning of the rule**, and the leaves of its alternatives are the leaves
of the rule. So a tag with the rule depends on the tags that the rule names. -/
theorem exists_normalForm_sameMeaning {r : Rule} (hsound : r.IsSound)
    (hcount : r.alternativeCount ≤ maxAlternatives) :
    ∃ alternatives, r.normalForm = .ok alternatives ∧ SameMeaning r (ofAlternatives alternatives) ∧
      (∀ l, r.HasLeaf l ↔ ∃ a ∈ alternatives, l ∈ a) ∧
      ∀ name, name ≠ "" → ∃ t, Tag.make name r = .ok t ∧ t.rule = ofAlternatives alternatives ∧
        ∀ dependency, dependency ∈ t.dependsOn ↔ dependency ∈ r.tagReferences := by
  have hlength : r.toDnf.length ≤ maxAlternatives := by
    have hexact := alternativeCount_eq r
    have hbound : maxAlternatives < countBound := by decide
    omega
  have hnormal : r.normalForm = .ok r.toDnf := normalForm_eq_ok_iff.2 ⟨hsound, hlength, rfl⟩
  have hmeaning := sameMeaning_toDnf hsound
  refine ⟨r.toDnf, hnormal, hmeaning, fun l => (occurs_toDnf_iff hsound).symm, fun name hname => ?_⟩
  have hcanonical : r.canonical = .ok (ofAlternatives r.toDnf) :=
    canonical_eq_ok_iff.2 ⟨hsound, hlength, rfl⟩
  let t : Tag := ⟨name, ofAlternatives r.toDnf, hname, isCanonical_of_canonical hcanonical⟩
  refine ⟨t, Tag.make_eq_ok_iff.2 ⟨hname, hcanonical, rfl⟩, rfl, fun dependency => ?_⟩
  exact (hmeaning.tagReferences dependency).symm

/-- Members who are adults or have a sponsor, and guests of a known age or name. -/
def admittedRule : Rule :=
  .any [.all [.any [.fieldIn "age" [.int 18, .int 19], .custom "sponsored"], .tagged "member"],
    .all [.tagged "guest", .any [.custom "named", .all [.fieldIn "age" [.null], .tagged "guest"]]]]

theorem exists_normalForm_sameMeaning_admittedRule :
    admittedRule.IsSound ∧ admittedRule.alternativeCount ≤ maxAlternatives ∧
      ∃ alternatives, admittedRule.normalForm = .ok alternatives ∧
        SameMeaning admittedRule (ofAlternatives alternatives) ∧
        (∀ l, admittedRule.HasLeaf l ↔ ∃ a ∈ alternatives, l ∈ a) ∧
        ∀ name, name ≠ "" → ∃ t, Tag.make name admittedRule = .ok t ∧
          t.rule = ofAlternatives alternatives ∧
          ∀ dependency, dependency ∈ t.dependsOn ↔ dependency ∈ admittedRule.tagReferences := by
  have hsound : admittedRule.IsSound := rfl
  have hcount : admittedRule.alternativeCount ≤ maxAlternatives := by decide +kernel
  exact ⟨hsound, hcount, exists_normalForm_sameMeaning hsound hcount⟩

/-! ### Rules in normal form -/

/-- A sound leaf is a condition with well-formed names, or a custom rule with a key. -/
theorem isSoundLeaf_iff {l : Rule} : l.isSoundLeaf = true ↔
    (∃ c : Condition, l = .condition c ∧ c.check = .ok ()) ∨ ∃ key, l = .custom key ∧ key ≠ "" := by
  cases l with
  | condition c =>
    cases h : c.check with
    | ok u => simp [isSoundLeaf, isLeaf, checkShape, h, Except.isOk, Except.toBool]
    | error m => simp [isSoundLeaf, isLeaf, checkShape, h, Except.isOk, Except.toBool]
  | custom key =>
    by_cases h : key = ""
    · simp [isSoundLeaf, isLeaf, checkShape, h, Except.isOk, Except.toBool]
    · simp [isSoundLeaf, isLeaf, checkShape, h, Except.isOk, Except.toBool]
  | all rs => simp [isSoundLeaf, isLeaf]
  | any rs => simp [isSoundLeaf, isLeaf]

theorem isSound_of_isSoundLeaf {l : Rule} (h : l.isSoundLeaf = true) : l.IsSound := by
  rcases isSoundLeaf_iff.1 h with ⟨c, rfl, hc⟩ | ⟨key, rfl, hkey⟩
  · exact hc
  · simp [IsSound, checkShape, hkey]

theorem toDnf_of_isLeaf {l : Rule} (h : l.isLeaf = true) : l.toDnf = [[l]] := by
  cases l <;> first | rfl | cases h

/-- A conjunction of leaves is one alternative. -/
theorem foldl_product_leaves {ls : List Rule} (h : ∀ l ∈ ls, l.isLeaf = true) :
    ∀ before : List Rule, (dnfs ls).foldl product [before] = [before ++ ls] := by
  induction ls with
  | nil => simp [dnfs]
  | cons l ls ih =>
    intro before
    obtain ⟨hl, hls⟩ := List.forall_mem_cons.1 h
    -- A leaf is the only alternative of itself, so the alternative so far grows by it.
    have hstep : product [before] [[l]] = [before ++ [l]] := by simp [product]
    rw [dnfs, List.foldl_cons, toDnf_of_isLeaf hl, hstep, ih hls, List.append_assoc]
    rfl

/-- **A rule in normal form** has the alternatives that it is made of. -/
theorem toDnf_ofAlternatives {as : List (List Rule)} (h : ∀ a ∈ as, ∀ l ∈ a, l.isLeaf = true) :
    (ofAlternatives as).toDnf = as := by
  have hmap : (as.map .all).map toDnf = as.map fun a => [a] := by
    rw [List.map_map]
    refine List.map_congr_left fun a ha => ?_
    rw [Function.comp, toDnf, foldl_product_leaves (h a ha), List.nil_append]
  rw [ofAlternatives, toDnf, dnfs_eq, hmap, ← List.flatMap_def, List.flatMap_singleton']

theorem isSound_ofAlternatives {as : List (List Rule)} (h : AreSound as) :
    (ofAlternatives as).IsSound := by
  obtain ⟨hne, has⟩ := h
  refine (isSound_any_iff _).2 ⟨by simp [hne], List.forall_mem_map.2 fun a ha => ?_⟩
  exact (isSound_all_iff a).2 ⟨(has a ha).1, fun l hl => isSound_of_isSoundLeaf ((has a ha).2 l hl)⟩

/-- **Bringing a rule into normal form again** changes nothing. -/
theorem canonical_ofAlternatives {as : List (List Rule)} (h : AreSound as)
    (hlength : as.length ≤ maxAlternatives) :
    (ofAlternatives as).canonical = .ok (ofAlternatives as) := by
  have hdnf := toDnf_ofAlternatives fun a ha l hl => isLeaf_of_isSoundLeaf ((h.2 a ha).2 l hl)
  refine canonical_eq_ok_iff.2 ⟨isSound_ofAlternatives h, ?_, ?_⟩
  · rwa [hdnf]
  · rw [hdnf]

/-- **The alternatives of a rule in normal form.** -/
theorem exists_alternatives {r : Rule} (h : r.isCanonical = true) :
    ∃ as, r = ofAlternatives as ∧ AreSound as ∧ as.length ≤ maxAlternatives := by
  cases r with
  | any alternatives =>
    simp only [isCanonical, Bool.and_eq_true, Bool.not_eq_true', List.isEmpty_eq_false_iff,
      decide_eq_true_eq, List.all_eq_true] at h
    obtain ⟨⟨hne, hlength⟩, hall⟩ := h
    have halternative : ∀ a ∈ alternatives,
        a = .all a.children ∧ a.children ≠ [] ∧ ∀ l ∈ a.children, l.isSoundLeaf = true := by
      intro a ha
      have ha' := hall a ha
      cases a with
      | all leaves => simpa [isAlternative, children] using ha'
      | _ => cases ha'
    refine ⟨alternatives.map children, ?_, ⟨by simpa using hne, ?_⟩, by simpa using hlength⟩
    · rw [ofAlternatives, List.map_map]
      congr 1
      exact (List.map_id _).symm.trans (List.map_congr_left fun a ha => (halternative a ha).1)
    · exact List.forall_mem_map.2 fun a ha => (halternative a ha).2
  | _ => cases h

/-! ### Valid rules -/

/-- **A rule is valid** when it is sound and its leaves are valid. -/
theorem validate_eq_ok_iff {r : Rule} : reg.validate r = .ok () ↔
    r.IsSound ∧ ∀ l, r.HasLeaf l → reg.validateNode l = .ok () := by
  have hnodes : (∀ s ∈ r.subrules, reg.validateNode s = .ok ()) ↔
      ∀ l, r.HasLeaf l → reg.validateNode l = .ok () := by
    -- Composites have no names of their own to look up.
    refine ⟨fun h l hl => h l hl.1, fun h s hs => ?_⟩
    cases s with
    | condition c => exact h _ ⟨hs, rfl⟩
    | custom key => exact h _ ⟨hs, rfl⟩
    | all rs => rfl
    | any rs => rfl
  rw [Registry.validate, bind_eq_ok_iff, ← hnodes, ← forM_eq_ok_iff]
  constructor
  · rintro ⟨⟨⟩, hshape, h⟩
    exact ⟨mapError_eq_ok_iff.1 hshape, h⟩
  · rintro ⟨hshape, h⟩
    exact ⟨(), mapError_eq_ok_iff.2 hshape, h⟩

/-- Sound rules with the same meaning are valid together. -/
theorem SameMeaning.validate_iff {r s : Rule} (h : SameMeaning r s) (hr : r.IsSound)
    (hs : s.IsSound) : reg.validate r = .ok () ↔ reg.validate s = .ok () := by
  rw [validate_eq_ok_iff, validate_eq_ok_iff, and_iff_right hr, and_iff_right hs]
  exact forall_congr' fun l => by rw [h.leaves l]

end TagRules.Rule
