import TagRules.Proofs.Plan.Failure
import TagRules.Proofs.Rule.NormalForm

/-!
# Tags that are made and edited

Every function that gives a tag goes through `Tag.make`, which checks the rule and expands it. An
edited rule is no normal form at first: a whole rule stands among the leaves of an alternative or
among the alternatives.

* `Tag.Built`: the tags that are made from rules and from stored rules, and edited.
* `Tag.Built.exists_make`: a built tag is made from some rule.
* `Tag.Canonical`: what a tag in normal form looks like.
* `Tag.built_canonical_and_plannable`: built tags are in normal form, so that a plan of them only fails
  because of a cycle.
-/

namespace TagRules.Tag

open Outcome

/-- **The tags that are made and edited**, by any sequence of operations. -/
inductive Built : Tag → Prop
  | make {name : String} {r : Rule} {t : Tag} : make name r = .ok t → Built t
  | ofJson {name : String} {j : Json} {reg : Registry} {t : Tag} : ofJson name j reg = .ok t → Built t
  | withAlternative {t t' : Tag} {r : Rule} : Built t → t.withAlternative r = .ok t' → Built t'
  | withCondition {t t' : Tag} {index : Nat} {r : Rule} :
      Built t → t.withCondition index r = .ok t' → Built t'
  | replaceAlternative {t t' : Tag} {index : Nat} {r : Rule} :
      Built t → t.replaceAlternative index r = .ok t' → Built t'
  | withRecordIds {t t' : Tag} {field : String} {ids : List Value} :
      Built t → t.withRecordIds field ids = .ok t' → Built t'

theorem exists_make_of_modifyAlternative {t t' : Tag} {index : Nat} {f : Rule → Rule}
    (h : t.modifyAlternative index f = .ok t') : ∃ r, Tag.make t.name r = .ok t' := by
  unfold modifyAlternative at h
  split at h
  · exact ⟨_, h⟩
  · cases h

/-- **A built tag is made from some rule**, whatever was done to the tag before. -/
theorem Built.exists_make {t : Tag} (h : Built t) : ∃ name r, Tag.make name r = .ok t := by
  cases h with
  | make h => exact ⟨_, _, h⟩
  | ofJson h =>
    obtain ⟨r, -, h⟩ := bind_eq_ok_iff.1 h
    obtain ⟨⟨⟩, -, h⟩ := bind_eq_ok_iff.1 h
    exact ⟨_, r, h⟩
  | withAlternative _ h => exact ⟨_, _, h⟩
  | withCondition _ h => exact ⟨_, exists_make_of_modifyAlternative h⟩
  | replaceAlternative _ h => exact ⟨_, exists_make_of_modifyAlternative h⟩
  | withRecordIds _ h =>
    unfold Tag.withRecordIds at h
    split at h
    · cases h
    · exact ⟨_, _, h⟩

/-- **What a tag in normal form looks like**: it has a name, and its rule is a disjunction of
conjunctions of conditions with well-formed names and of custom rules with keys. -/
structure Canonical (t : Tag) : Prop where
  /-- There is a name. -/
  name_ne : t.name ≠ ""
  /-- The rule is a disjunction of conjunctions, of which there is one and not too many. Each of them
  has a child, and its children are leaves. -/
  rule : ∃ alternatives : List (List Rule), t.rule = .any (alternatives.map .all) ∧
    1 ≤ alternatives.length ∧ alternatives.length ≤ Rule.maxAlternatives ∧
    ∀ leaves ∈ alternatives, 1 ≤ leaves.length ∧ ∀ l ∈ leaves,
      (∃ c : Condition, l = .condition c ∧ c.check = .ok ()) ∨ ∃ key, l = .custom key ∧ key ≠ ""
  /-- A tag that is made from the name and the rule again is the same. -/
  make_rule : Tag.make t.name t.rule = .ok t

/-- **A tag that is made is in normal form.** -/
theorem canonical_of_make {name : String} {r : Rule} {t : Tag} (h : Tag.make name r = .ok t) :
    Canonical t := by
  obtain ⟨hname, hcanonical, rfl⟩ := make_eq_ok_iff.1 h
  obtain ⟨hsound, hlength, hrule⟩ := Rule.canonical_eq_ok_iff.1 hcanonical
  obtain ⟨hne, hleaves⟩ := Rule.toDnf_sound r hsound
  refine ⟨hname, ⟨r.toDnf, hrule, List.length_pos_iff.2 hne, hlength, fun a ha => ?_⟩, ?_⟩
  · refine ⟨List.length_pos_iff.2 (hleaves a ha).1, fun l hl => ?_⟩
    exact Rule.isSoundLeaf_iff.1 ((hleaves a ha).2 l hl)
  · refine make_eq_ok_iff.2 ⟨hname, ?_, rfl⟩
    rw [hrule]
    exact Rule.canonical_ofAlternatives ⟨hne, hleaves⟩ hlength

/-- **Tags are always in normal form**, whatever was done to them. A tag set holds nothing but such
tags, so no plan fails because of the form of a rule: it fails when cycles are kept and there is
one. -/
theorem built_canonical_and_plannable :
    (∀ t, Built t → Canonical t) ∧
      ∀ (tags : TagSet) (options : PlannerOptions),
        (∀ tag kind, ExecutionPlan.build tags options ≠ .error (.unsupportedRuleKind tag kind)) ∧
        (∀ e, ExecutionPlan.build tags options = .error e → ∃ path, e = .cyclicDependency path) ∧
        ((∃ e, ExecutionPlan.build tags options = .error e) ↔
          options.removeCycles = false ∧ ∃ cycle, (DependencyGraph.ofTags tags).IsCycle cycle) := by
  refine ⟨fun t ht => ?_, fun tags options => ?_⟩
  · obtain ⟨name, r, hmake⟩ := ht.exists_make
    exact canonical_of_make hmake
  · have hcyclic : ∀ e, ExecutionPlan.build tags options = .error e →
        ∃ path, e = .cyclicDependency path := fun e he =>
      ExecutionPlan.exists_cyclicDependency (ExecutionPlan.build_eq_error_iff.1 he)
    refine ⟨fun tag kind he => ?_, hcyclic, ExecutionPlan.exists_build_error_iff⟩
    obtain ⟨path, hpath⟩ := hcyclic _ he
    cases hpath

/-- The tag of guests, which is made for members, then for some records too, and then restricted. -/
def editedTag : Except RuleError Tag := do
  let t ← Tag.make "guest" (.tagged "member")
  let t ← t.withRecordIds "id" [.int 7, .int 9]
  t.withCondition 0 (.any [.custom "named", .tagged "guest"])

theorem built_canonical_and_plannable_editedTag : ∃ t tags, editedTag = .ok t ∧
    Built t ∧ Canonical t ∧ tags.tags = [t] ∧
    ∃ e, ExecutionPlan.build tags ⟨false, false, false, false⟩ = .error e := by
  obtain ⟨t, hedited, hself⟩ : ∃ t, editedTag = .ok t ∧ t.name ∈ t.dependsOn :=
    ⟨_, rfl, by decide +kernel⟩
  have hbuilt : Built t := by
    obtain ⟨t₁, h₁, h⟩ := bind_eq_ok_iff.1 hedited
    obtain ⟨t₂, h₂, h₃⟩ := bind_eq_ok_iff.1 h
    exact .withCondition (.withRecordIds (.make h₁) h₂) h₃
  let tags : TagSet := ⟨[t], List.nodup_singleton _⟩
  have hnode : tags.tags[0]? = some t := rfl
  have hcycle : (DependencyGraph.ofTags tags).IsCycle [0] := by
    refine ⟨List.cons_ne_nil _ _, List.nodup_singleton _, fun e he => ?_⟩
    obtain rfl : e = (0, 0) := by simpa [DependencyGraph.edgesOf] using he
    rw [DependencyGraph.hasEdge_iff, DependencyGraph.size_ofTags,
      DependencyGraph.nameOf_ofTags hnode, DependencyGraph.dependsOn_ofTags hnode]
    exact ⟨Nat.zero_lt_one, hself⟩
  refine ⟨t, tags, hedited, hbuilt, built_canonical_and_plannable.1 t hbuilt, rfl, ?_⟩
  exact (built_canonical_and_plannable.2 tags _).2.2.2 ⟨rfl, [0], hcycle⟩

end TagRules.Tag
