import TagRules.Proofs.Rule.Evaluation

/-!
# Validation and resolution

A rule is validated node by node, and it is resolved along the tree. Both look the keys of a rule up
in the same order, so that they stop at the same key.

* `SameCause`: an error of validating and one of resolving that have the same cause.
* `failsAlike_resolveCondition`: a condition is valid when it can be resolved.
* `failsAlike_resolve`: so is a rule, node by node.
* `failsAlike_validate`: a sound rule is valid when it can be resolved.
* `exists_resolve_of_forall`: a rule whose nodes are valid can be resolved.
-/

namespace TagRules

open Outcome

/-- **The same cause** of an error of validating and of one of resolving: the same key of the same
kind, or the same pattern. -/
inductive SameCause : RuleError → EvalError → Prop
  | unknownOperator (kind : OperatorKind) (key : String) :
      SameCause (.unknownOperator kind key) (.unknownOperator kind key)
  | unknownRuleKey (key : String) : SameCause (.unknownRuleKey key) (.unknownRuleKey key)
  | invalidPattern (pattern : String) (fault : PatternFault) :
      SameCause (.invalidPattern pattern fault) (.invalidPattern pattern fault)

namespace Registry

variable {reg : Registry}

/-- The check of the transform of a condition. -/
def validateTransform (reg : Registry) (c : Condition) : Except RuleError Unit :=
  match c.transform with
  | some key => if (reg.transform? key).isNone then .error (.unknownOperator .transform key) else .ok ()
  | none => .ok ()

/-- The check of the comparator of a condition, and of its pattern. -/
def validatePredicate (reg : Registry) (c : Condition) : Except RuleError Unit :=
  match reg.comparator? c.comparator with
  | none => .error (.unknownOperator .comparator c.comparator)
  | some comparator =>
    match comparator.bind c.value with
    | .ok _ => .ok ()
    | .error e => .error (.invalidPattern e.pattern e.fault)

theorem validateCondition_eq (c : Condition) :
    reg.validateCondition c = reg.validateTransform c >>= fun _ => reg.validatePredicate c := by
  unfold validateCondition validateTransform
  cases c.transform with
  | none => rfl
  | some key => cases h : reg.transform? key <;> simp [h] <;> rfl

theorem failsAlike_transformOf (c : Condition) :
    FailsAlike SameCause (reg.validateTransform c) (Rule.transformOf reg c) := by
  unfold validateTransform Rule.transformOf
  cases c.transform with
  | none => exact .ok () none
  | some key =>
    simp only [resolveTransform]
    cases reg.transform? key with
    | none => exact .error (.unknownOperator .transform key)
    | some f => exact .ok () (some f)

theorem failsAlike_resolvePredicate (c : Condition) :
    FailsAlike SameCause (reg.validatePredicate c) (reg.resolvePredicate c) := by
  unfold validatePredicate resolvePredicate
  cases reg.comparator? c.comparator with
  | none => exact .error (.unknownOperator .comparator c.comparator)
  | some comparator =>
    simp only
    cases comparator.bind c.value with
    | ok predicate => exact .ok () predicate
    | error e => exact .error (.invalidPattern e.pattern e.fault)

/-- **A condition is valid when it can be resolved**, the transform first. -/
theorem failsAlike_resolveCondition (c : Condition) :
    FailsAlike SameCause (reg.validateCondition c) (reg.resolveCondition c) := by
  rw [validateCondition_eq, Rule.resolveCondition_eq]
  refine (failsAlike_transformOf c).bind fun _ transform => ?_
  exact (failsAlike_resolvePredicate c).map_right

theorem failsAlike_resolveCustom (key : String) :
    FailsAlike SameCause (reg.validateNode (.custom key)) (reg.resolveCustom key) := by
  simp only [validateNode, resolveCustom]
  cases reg.customRule? key with
  | none => exact .error (SameCause.unknownRuleKey key)
  | some f => exact .ok () f

mutual

/-- **The nodes of a rule are valid when it can be resolved**, and the first node that is not valid
is the one at which resolution stops: both visit a node before its children. -/
theorem failsAlike_resolve : ∀ r : Rule,
    FailsAlike SameCause (r.subrules.forM reg.validateNode) (reg.resolve r)
  | .condition c => by
    rw [Rule.subrules, resolve, List.forM_eq_forM, List.forM_cons, List.forM_nil, bind_pure_unit]
    exact failsAlike_resolveCondition c
  | .custom key => by
    rw [Rule.subrules, resolve, List.forM_eq_forM, List.forM_cons, List.forM_nil, bind_pure_unit]
    exact (failsAlike_resolveCustom key).map_right
  | .all rs => by
    rw [Rule.subrules, resolve, List.forM_eq_forM, List.forM_cons, ← List.forM_eq_forM]
    exact (failsAlike_resolveList rs).map_right
  | .any rs => by
    rw [Rule.subrules, resolve, List.forM_eq_forM, List.forM_cons, ← List.forM_eq_forM]
    exact (failsAlike_resolveList rs).map_right

theorem failsAlike_resolveList : ∀ rs : List Rule,
    FailsAlike SameCause ((Rule.subrulesList rs).forM reg.validateNode) (reg.resolveList rs)
  | [] => .ok () []
  | r :: rs => by
    rw [Rule.subrulesList, resolveList, List.forM_eq_forM, List.forM_append, ← List.forM_eq_forM]
    refine (failsAlike_resolve r).bind fun _ p => ?_
    exact (failsAlike_resolveList rs).map_right

end

/-- **A sound rule is valid when it can be resolved**, and otherwise both fail for the same cause. -/
theorem failsAlike_validate {r : Rule} (h : r.IsSound) :
    FailsAlike SameCause (reg.validate r) (reg.resolve r) := by
  have hvalidate : reg.validate r = r.subrules.forM reg.validateNode := by
    rw [validate, h]
    rfl
  rw [hvalidate]
  exact failsAlike_resolve r

end Registry

/-! ### Rules that are valid -/

namespace Rule

variable {reg : Registry}

theorem exists_resolvePredicate {c : Condition} (h : reg.validateCondition c = .ok ()) :
    ∃ predicate, reg.resolvePredicate c = .ok predicate := by
  rw [Registry.validateCondition_eq, bind_eq_ok_iff] at h
  obtain ⟨-, -, hpredicate⟩ := h
  exact (Registry.failsAlike_resolvePredicate c).exists_ok_iff.1 ⟨(), hpredicate⟩

theorem exists_transformOf {c : Condition} (h : reg.validateCondition c = .ok ()) :
    ∃ transform, transformOf reg c = .ok transform := by
  rw [Registry.validateCondition_eq, bind_eq_ok_iff] at h
  obtain ⟨⟨⟩, htransform, -⟩ := h
  exact (Registry.failsAlike_transformOf c).exists_ok_iff.1 ⟨(), htransform⟩

/-- A rule whose nodes are valid can be resolved. -/
theorem exists_resolve_of_forall (r : Rule) (h : ∀ s ∈ r.subrules, reg.validateNode s = .ok ()) :
    ∃ p, reg.resolve r = .ok p :=
  (Registry.failsAlike_resolve r).exists_ok_iff.1 ⟨(), forM_eq_ok_iff.2 h⟩

/-- What is valid in a rule. -/
theorem validateNode_of_validate {r : Rule} (h : reg.validate r = .ok ()) :
    ∀ s ∈ r.subrules, reg.validateNode s = .ok () := by
  obtain ⟨-, -, h⟩ := bind_eq_ok_iff.1 h
  exact forM_eq_ok_iff.1 h

end Rule

/-- The rules of tags that are valid are valid. -/
theorem TagSet.validateNode_of_validate {tags : TagSet} {reg : Registry}
    (h : tags.validate reg = .ok ()) {t : Tag} (ht : t ∈ tags.tags) :
    ∀ s ∈ t.rule.subrules, reg.validateNode s = .ok () :=
  Rule.validateNode_of_validate (Outcome.forM_eq_ok_iff.1 h t ht)

end TagRules
