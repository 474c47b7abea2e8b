import TagRules.Proofs.Rule.NormalForm
import TagRules.Proofs.Rule.Validation

/-!
# Why a rule cannot be evaluated

A rule whose keys are all known fails at one of its leaves, and a leaf fails because a function of
the registry does, or because a pattern is tested on something that is no text.

* `Raises`: the errors of a leaf on a record.
* `raises_of_transform`, `raises_of_test`: the two ways in which a condition fails.
* `ends_testCondition`: a valid condition has a truth value or raises an error.
* `exists_leaf_of_evaluate`: the error of a rule is one of its leaves.
* `exists_raises_of_evaluate`: a valid rule has a truth value, or one of its leaves raises an error.
-/

namespace TagRules.Rule

open Outcome

variable {reg : Registry} {record : Record} {c : Condition} {e : EvalError}

/-- **The errors of a leaf on a record**: those that its transform, its comparator or its custom rule
returns, and that of a pattern that is tested on a value of another type than text. Null is neither
transformed nor tested. -/
inductive Raises (reg : Registry) (record : Record) : Rule → EvalError → Prop
  | transform {c : Condition} {key : String} {f : Transform} {e : EvalError} :
      c.transform = some key → reg.transform? key = some f → record.get c.field ≠ .null →
      f (record.get c.field) = .error e → Raises reg record (.condition c) e
  | comparator {c : Condition} {f : Comparison} {v : Value} {e : EvalError} :
      reg.applyTransform c.transform (record.get c.field) = .ok v → v ≠ .null →
      reg.comparator? c.comparator = some (.binary f) → f v c.value = .error e →
      Raises reg record (.condition c) e
  | pattern {c : Condition} {v : Value} :
      reg.applyTransform c.transform (record.get c.field) = .ok v → v ≠ .null →
      (∀ s, v ≠ .string s) → reg.comparator? c.comparator = some .pattern →
      Raises reg record (.condition c) (.typeMismatch "regex" [v.typeName])
  | custom {key : String} {f : CustomRule} {e : EvalError} :
      reg.customRule? key = some f → f record = .error e → Raises reg record (.custom key) e

/-! ### Conditions -/

theorem transform?_of_resolveTransform {key : String} {f : Transform}
    (h : reg.resolveTransform key = .ok f) : reg.transform? key = some f := by
  unfold Registry.resolveTransform at h
  split at h <;> cases h
  assumption

theorem customRule?_of_resolveCustom {key : String} {f : CustomRule}
    (h : reg.resolveCustom key = .ok f) : reg.customRule? key = some f := by
  unfold Registry.resolveCustom at h
  split at h <;> cases h
  assumption

/-- A predicate is a comparison with the literal of its condition, or its pattern. -/
theorem resolvePredicate_ok {predicate : Predicate} (h : reg.resolvePredicate c = .ok predicate) :
    (∃ f, reg.comparator? c.comparator = some (.binary f) ∧ predicate = .binary f c.value) ∨
      ∃ p, reg.comparator? c.comparator = some .pattern ∧ predicate = .pattern p := by
  unfold Registry.resolvePredicate at h
  cases hc : reg.comparator? c.comparator with
  | none =>
    rw [hc] at h
    cases h
  | some comparator =>
    rw [hc] at h
    have hbind := mapError_eq_ok_iff.1 h
    cases comparator with
    | binary f =>
      cases hbind
      exact .inl ⟨f, rfl, rfl⟩
    | pattern =>
      obtain ⟨p, -, rfl⟩ := map_eq_ok_iff.1 hbind
      exact .inr ⟨p, rfl, rfl⟩

/-- A transform fails only on a value that is not null. -/
theorem raises_of_transform (htransform : ∃ transform, transformOf reg c = .ok transform)
    (h : reg.applyTransform c.transform (record.get c.field) = .error e) :
    Raises reg record (.condition c) e := by
  obtain ⟨transform, htransform⟩ := htransform
  unfold transformOf at htransform
  unfold Registry.applyTransform at h
  cases hkey : c.transform with
  | none =>
    rw [hkey] at h
    cases h
  | some key =>
    rw [hkey] at h htransform
    obtain ⟨f, hf, -⟩ := map_eq_ok_iff.1 htransform
    simp only [hf] at h
    by_cases hnull : (record.get c.field).isNull = true
    · simp [hnull, bind, Except.bind, pure, Except.pure] at h
    · refine .transform hkey (transform?_of_resolveTransform hf) (fun heq => hnull (by rw [heq]; rfl)) ?_
      simpa [hnull, bind, Except.bind] using h

/-- A predicate fails when its comparison does, or when a pattern gets no text. -/
theorem raises_of_test {predicate : Predicate} {v : Value}
    (hpredicate : reg.resolvePredicate c = .ok predicate)
    (hvalue : reg.applyTransform c.transform (record.get c.field) = .ok v)
    (h : predicate.test v = .error e) : Raises reg record (.condition c) e := by
  have hnull : v ≠ .null := by
    rintro rfl
    cases h
  have htest : predicate.testValue v = .error e := by
    rw [← h, Predicate.test, if_neg]
    cases v <;> simp_all [Value.isNull]
  obtain ⟨f, hc, rfl⟩ | ⟨p, hc, rfl⟩ := resolvePredicate_ok hpredicate
  · exact .comparator hvalue hnull hc htest
  · cases v with
    | string s => cases htest
    | null => exact absurd rfl hnull
    | _ =>
      cases htest
      exact .pattern hvalue hnull (fun s heq => nomatch heq) hc

/-- A valid condition tests the value of its field: its transform is known, so that nothing can fail
at its look-up. -/
theorem evaluate_condition_eq (h : reg.validateCondition c = .ok ()) :
    (Rule.condition c).evaluate record reg = testCondition reg c (record.get c.field) := by
  obtain ⟨predicate, hpredicate⟩ := exists_resolvePredicate h
  obtain ⟨transform, htransform⟩ := exists_transformOf h
  rw [evaluate_condition, testCondition, htransform, hpredicate]
  unfold transformOf at htransform
  generalize record.get c.field = v
  cases hkey : c.transform with
  | none =>
    rw [hkey] at htransform
    cases htransform
    rfl
  | some key =>
    rw [hkey] at htransform
    obtain ⟨f, hf, rfl⟩ := map_eq_ok_iff.1 htransform
    rw [Registry.applyTransform, hf]
    cases v <;> rfl

/-- **A valid condition** has a truth value, or raises an error. -/
theorem ends_testCondition (h : reg.validateCondition c = .ok ()) :
    Ends (fun _ => True) (Raises reg record (.condition c))
      (testCondition reg c (record.get c.field)) := by
  obtain ⟨predicate, hpredicate⟩ := exists_resolvePredicate h
  rw [testCondition, hpredicate]
  show Ends _ _ (reg.applyTransform c.transform (record.get c.field) >>= predicate.test)
  cases hvalue : reg.applyTransform c.transform (record.get c.field) with
  | error e => exact raises_of_transform (exists_transformOf h) hvalue
  | ok v =>
    show Ends _ _ (predicate.test v)
    cases htest : predicate.test v with
    | ok b => exact trivial
    | error e => exact raises_of_test hpredicate hvalue htest

/-! ### Rules -/

mutual

/-- **The error of a rule is one of its leaves.** -/
theorem exists_leaf_of_evaluate : ∀ {r : Rule} {p : Resolved}, reg.resolve r = .ok p →
    p.evaluate record = .error e → ∃ l, r.HasLeaf l ∧ l.evaluate record reg = .error e
  | .condition c, p, hp, h =>
    ⟨.condition c, (hasLeaf_of_isLeaf rfl).2 rfl, (evaluate_of_resolve hp).trans h⟩
  | .custom key, p, hp, h =>
    ⟨.custom key, (hasLeaf_of_isLeaf rfl).2 rfl, (evaluate_of_resolve hp).trans h⟩
  | .all rs, p, hp, h => by
    rw [Registry.resolve] at hp
    obtain ⟨ps, hps, rfl⟩ := map_eq_ok_iff.1 hp
    rw [Resolved.evaluate] at h
    obtain ⟨r, hr, l, hl, herror⟩ := exists_leaf_of_evaluateList hps (map_eq_error_iff.1 h)
    exact ⟨l, hasLeaf_all.2 ⟨r, hr, hl⟩, herror⟩
  | .any rs, p, hp, h => by
    rw [Registry.resolve] at hp
    obtain ⟨ps, hps, rfl⟩ := map_eq_ok_iff.1 hp
    rw [Resolved.evaluate] at h
    obtain ⟨r, hr, l, hl, herror⟩ := exists_leaf_of_evaluateList hps (map_eq_error_iff.1 h)
    exact ⟨l, hasLeaf_any.2 ⟨r, hr, hl⟩, herror⟩

theorem exists_leaf_of_evaluateList : ∀ {rs : List Rule} {ps : List Resolved},
    reg.resolveList rs = .ok ps → Resolved.evaluateList record ps = .error e →
      ∃ r ∈ rs, ∃ l, r.HasLeaf l ∧ l.evaluate record reg = .error e
  | [], ps, hps, h => by
    cases hps
    cases h
  | r :: rs, ps, hps, h => by
    rw [Registry.resolveList] at hps
    obtain ⟨p, hp, hps⟩ := bind_eq_ok_iff.1 hps
    obtain ⟨ps', hps', hps⟩ := bind_eq_ok_iff.1 hps
    cases hps
    rw [Resolved.evaluateList] at h
    rcases bind_eq_error_iff.1 h with h | ⟨b, -, h⟩
    · exact ⟨r, List.mem_cons_self, exists_leaf_of_evaluate hp h⟩
    · rcases bind_eq_error_iff.1 h with h | ⟨bs, -, h⟩
      · obtain ⟨s, hs, hleaf⟩ := exists_leaf_of_evaluateList hps' h
        exact ⟨s, List.mem_cons_of_mem _ hs, hleaf⟩
      · cases h

end

/-- The error of a valid leaf is one that it raises. -/
theorem raises_of_evaluate {l : Rule} (hleaf : l.isLeaf = true) (hvalid : reg.validateNode l = .ok ())
    (h : l.evaluate record reg = .error e) : Raises reg record l e := by
  cases l with
  | condition c =>
    have hvalid : reg.validateCondition c = .ok () := hvalid
    rw [evaluate_condition_eq hvalid] at h
    exact (ends_testCondition hvalid).error h
  | custom key =>
    obtain ⟨f, hf⟩ := (Registry.failsAlike_resolveCustom key).exists_ok_iff.1 ⟨(), hvalid⟩
    refine .custom (customRule?_of_resolveCustom hf) ?_
    rw [evaluate, Registry.resolve, hf] at h
    exact h
  | all rs => cases hleaf
  | any rs => cases hleaf

/-- **A valid rule fails because one of its leaves raises an error.** -/
theorem exists_raises_of_evaluate {r : Rule} {p : Resolved}
    (hvalid : ∀ s ∈ r.subrules, reg.validateNode s = .ok ()) (hp : reg.resolve r = .ok p)
    (h : p.evaluate record = .error e) : ∃ l, r.HasLeaf l ∧ Raises reg record l e := by
  obtain ⟨l, hl, herror⟩ := exists_leaf_of_evaluate hp h
  exact ⟨l, hl, raises_of_evaluate hl.2 (hvalid l hl.1) herror⟩

end TagRules.Rule
