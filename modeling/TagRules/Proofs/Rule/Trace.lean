import TagRules.Proofs.Rule.NormalForm
import TagRules.Proofs.Rule.Preorder

/-!
# Evaluation without short-circuit

Every leaf of a rule is evaluated, even where the truth value is already decided. So a rule fails with
the error of its first leaf that fails, and an observed evaluation leaves a trace of all nodes.

* `Rule.firstError?`: the error of the first leaf that cannot be evaluated.
* `Rule.error?_evaluate`: this is the error of the rule.
* `Rule.defined_of_atPath`: what can be evaluated in a rule that can.
* `PostOrder`: when a path comes before another one in post-order.
* `Rule.Traces`: a trace of all nodes, with their truth values.
* `Rule.evaluate_and_observe_exact`: how a rule is evaluated, with and without observations.
-/

namespace TagRules

open Outcome

/-! ### The first error -/

namespace Rule

variable {reg : Registry} {record : Record}

/-- The leaves of a rule, from the first to the last. -/
def leafNodes (r : Rule) : List Rule := r.subrules.filter isLeaf

/-- **The error of the first leaf that cannot be evaluated**, if there is one. -/
def firstError? (reg : Registry) (record : Record) (r : Rule) : Option EvalError :=
  r.leafNodes.findSome? fun l => error? (l.evaluate record reg)

theorem firstError?_of_isLeaf {l : Rule} (h : l.isLeaf = true) :
    l.firstError? reg record = error? (l.evaluate record reg) := by
  have hnodes : l.leafNodes = [l] := by
    cases l <;> first | rfl | cases h
  rw [firstError?, hnodes, List.findSome?_cons, List.findSome?_nil]
  cases error? (l.evaluate record reg) <;> rfl

mutual

/-- **A rule fails with the error of its first leaf that fails.** -/
theorem error?_evaluate : ∀ {r : Rule} {p : Resolved}, reg.resolve r = .ok p →
    error? (p.evaluate record) = r.firstError? reg record
  | .condition c, p, hp => by rw [firstError?_of_isLeaf rfl, evaluate_of_resolve hp]
  | .custom key, p, hp => by rw [firstError?_of_isLeaf rfl, evaluate_of_resolve hp]
  | .all rs, p, hp => by
    rw [Registry.resolve] at hp
    obtain ⟨ps, hps, rfl⟩ := map_eq_ok_iff.1 hp
    rw [Resolved.evaluate, error?_map]
    exact error?_evaluateList hps
  | .any rs, p, hp => by
    rw [Registry.resolve] at hp
    obtain ⟨ps, hps, rfl⟩ := map_eq_ok_iff.1 hp
    rw [Resolved.evaluate, error?_map]
    exact error?_evaluateList hps

theorem error?_evaluateList : ∀ {rs : List Rule} {ps : List Resolved},
    reg.resolveList rs = .ok ps → error? (Resolved.evaluateList record ps) =
      ((subrulesList rs).filter isLeaf).findSome? fun l => error? (l.evaluate record reg)
  | [], ps, hps => by
    cases hps
    rfl
  | r :: rs, ps, hps => by
    rw [Registry.resolveList] at hps
    obtain ⟨p, hp, hps⟩ := bind_eq_ok_iff.1 hps
    obtain ⟨ps', hps', hps⟩ := bind_eq_ok_iff.1 hps
    cases hps
    rw [Resolved.evaluateList, error?_seq, error?_evaluate hp, error?_evaluateList hps',
      subrulesList, List.filter_append, List.findSome?_append]
    rfl

end

/-- A rule that can be prepared fails with the error of its first leaf that fails, or has the truth
value of its tree. -/
theorem evaluate_eq_of_resolve {r : Rule} {p : Resolved} (hp : reg.resolve r = .ok p) :
    r.evaluate record reg = match r.firstError? reg record with
      | some e => .error e
      | none => .ok (r.holds reg record) := by
  have herror : error? (r.evaluate record reg) = r.firstError? reg record := by
    rw [evaluate_of_resolve hp]
    exact error?_evaluate hp
  rw [← herror]
  cases h : r.evaluate record reg with
  | error e => rfl
  | ok b => exact congrArg Except.ok (holds_of_evaluate h).symm

/-! ### What can be evaluated -/

/-- The children of a rule that can be evaluated can be evaluated. -/
theorem defined_of_mem_children {r child : Rule} (h : r.Defined reg record)
    (hchild : child ∈ r.children) : child.Defined reg record := by
  cases r with
  | condition c => cases hchild
  | custom key => cases hchild
  | all rs => exact defined_all_iff.1 h child hchild
  | any rs => exact defined_any_iff.1 h child hchild

/-- **The nodes of a rule that can be evaluated can be evaluated**, each by itself. -/
theorem defined_of_atPath {r s : Rule} {path : List Nat} (h : r.Defined reg record)
    (hs : r.atPath path = some s) : s.Defined reg record := by
  induction path generalizing r with
  | nil =>
    cases hs
    exact h
  | cons i path ih =>
    rw [atPath] at hs
    obtain ⟨child, hchild, hs⟩ := Option.bind_eq_some_iff.1 hs
    exact ih (defined_of_mem_children h (List.mem_of_getElem? hchild)) hs

/-- A rule that can be observed can be evaluated, and this is what is observed. -/
theorem observe_eq_ok {r : Rule} {e : Evaluation} (h : r.observe record reg = .ok e) :
    r.Defined reg record ∧ e = r.observed reg record := by
  obtain ⟨p, hp, h⟩ := bind_eq_ok_iff.1 h
  refine ⟨⟨e.outcome, ?_⟩, observeAt_eq hp h⟩
  rw [evaluate_of_resolve hp]
  exact Resolved.evaluate_of_observe h

/-- The outcome of a rule that is observed is that of the rule, and so is the error. -/
theorem outcome_observe (r : Rule) (record : Record) (reg : Registry) :
    Evaluation.outcome <$> r.observe record reg = r.evaluate record reg := by
  unfold observe evaluate
  cases reg.resolve r with
  | error e => rfl
  | ok p => exact Resolved.outcome_observeAt p []

end Rule

/-- A rule that can be evaluated can be observed. -/
theorem Rule.observe_of_defined {reg : Registry} {record : Record} {r : Rule}
    (h : r.Defined reg record) : r.observe record reg = .ok (r.observed reg record) := by
  obtain ⟨b, hb⟩ := h
  rw [← outcome_observe] at hb
  obtain ⟨e, he, -⟩ := map_eq_ok_iff.1 hb
  rw [he, (observe_eq_ok he).2]

/-! ### Traces -/

/-- **A path comes before another one in post-order**: it leads to a node below the other one, or to
one below an earlier child of the node at which they part. -/
inductive PostOrder : List Nat → List Nat → Prop
  | below (path : List Nat) (i : Nat) (rest : List Nat) : PostOrder (path ++ i :: rest) path
  | beside (path : List Nat) {i j : Nat} (rest rest' : List Nat) :
      i < j → PostOrder (path ++ i :: rest) (path ++ j :: rest')

namespace Rule

/-- What is below a composite comes before it. -/
theorem postOrder_append_singleton {r : Rule} {rs : List Rule} {path : List Nat}
    (h : ((locatedList path 0 rs).map Prod.fst).Pairwise PostOrder) :
    ((locatedList path 0 rs ++ [(path, r)]).map Prod.fst).Pairwise PostOrder := by
  rw [List.map_append, List.pairwise_append]
  refine ⟨h, List.pairwise_singleton _ _, fun q hq p hp => ?_⟩
  obtain ⟨⟨_, s⟩, hmem, rfl⟩ := List.mem_map.1 hq
  obtain ⟨k, _, rest, -, rfl, -⟩ := (mem_locatedList rs).1 hmem
  obtain rfl : p = path := by simpa using hp
  exact .below p (0 + k) rest

mutual

/-- **Nodes are located in post-order.** -/
theorem postOrder_located : ∀ (r : Rule) (path : List Nat),
    ((r.located path).map Prod.fst).Pairwise PostOrder
  | .condition _, _ => List.pairwise_singleton _ _
  | .custom _, _ => List.pairwise_singleton _ _
  | .all rs, path => by
    rw [located]
    exact postOrder_append_singleton (postOrder_locatedList rs path 0)
  | .any rs, path => by
    rw [located]
    exact postOrder_append_singleton (postOrder_locatedList rs path 0)

theorem postOrder_locatedList : ∀ (rs : List Rule) (path : List Nat) (index : Nat),
    ((locatedList path index rs).map Prod.fst).Pairwise PostOrder
  | [], _, _ => .nil
  | r :: rs, path, index => by
    rw [locatedList, List.map_append, List.pairwise_append]
    refine ⟨postOrder_located r _, postOrder_locatedList rs path (index + 1), fun p hp q hq => ?_⟩
    obtain ⟨⟨_, s⟩, hs, rfl⟩ := List.mem_map.1 hp
    obtain ⟨⟨_, s'⟩, hs', rfl⟩ := List.mem_map.1 hq
    obtain ⟨rest, rfl, -⟩ := (mem_located r).1 hs
    obtain ⟨k, _, rest', -, rfl, -⟩ := (mem_locatedList rs).1 hs'
    show PostOrder (path ++ [index] ++ rest) _
    rw [List.append_assoc]
    exact .beside path rest rest' (by omega)

end

/-- **An evaluation traces a rule**: it holds one observation for every node, in post-order. Its path
leads to the node, and its outcome is that of the node by itself. -/
structure Traces (reg : Registry) (record : Record) (r : Rule) (e : Evaluation) : Prop where
  /-- The nodes that paths lead to are observed, and nothing else. -/
  complete : ∀ path, path ∈ e.observations.map Observation.path ↔ ∃ s, r.atPath path = some s
  /-- No node is observed twice. -/
  nodup : (e.observations.map Observation.path).Nodup
  /-- There are as many observations as nodes. -/
  length : e.observations.length = r.subrules.length
  /-- A node comes after those below it, and children come in their order. -/
  postOrder : (e.observations.map Observation.path).Pairwise PostOrder
  /-- What is observed of a node is its truth value. -/
  outcomes : ∀ o ∈ e.observations, ∃ s, r.atPath o.path = some s ∧ s.evaluate record reg = .ok o.outcome

variable {reg : Registry} {record : Record}

theorem map_path_observed (r : Rule) :
    (r.observed reg record).observations.map Observation.path = (r.located []).map Prod.fst := by
  rw [observed, List.map_map]
  rfl

/-- **What is observed of a rule traces it.** -/
theorem traces_observed {r : Rule} (h : r.Defined reg record) :
    r.Traces reg record (r.observed reg record) := by
  refine ⟨fun path => ?_, ?_, ?_, ?_, fun o ho => ?_⟩
  · rw [map_path_observed, List.mem_map]
    constructor
    · rintro ⟨⟨_, s⟩, hs, rfl⟩
      obtain ⟨rest, rfl, hs⟩ := (mem_located r).1 hs
      exact ⟨s, hs⟩
    · rintro ⟨s, hs⟩
      exact ⟨(path, s), (mem_located r).2 ⟨path, rfl, hs⟩, rfl⟩
  · rw [map_path_observed]
    exact nodup_located r []
  · rw [observed, List.length_map, length_located]
  · rw [map_path_observed]
    exact postOrder_located r []
  · obtain ⟨⟨_, s⟩, hs, rfl⟩ := List.mem_map.1 ho
    obtain ⟨rest, rfl, hs⟩ := (mem_located r).1 hs
    exact ⟨s, hs, evaluate_eq_ok_iff.2 ⟨defined_of_atPath h hs, rfl⟩⟩

/-- **How a rule is evaluated** whose keys can be resolved. It fails with the error of its first leaf
that fails, wherever the leaf is, and has the truth value of its tree otherwise. It is observed with
the same outcome or the same error, and the observations trace the rule. -/
theorem evaluate_and_observe_exact {r : Rule} (hresolve : ∃ p, reg.resolve r = .ok p)
    (record : Record) :
    (r.evaluate record reg = match r.firstError? reg record with
      | some e => .error e
      | none => .ok (r.holds reg record)) ∧
    Evaluation.outcome <$> r.observe record reg = r.evaluate record reg ∧
    ∀ e, r.observe record reg = .ok e → r.Traces reg record e := by
  obtain ⟨p, hp⟩ := hresolve
  refine ⟨evaluate_eq_of_resolve hp, outcome_observe r record reg, fun e he => ?_⟩
  obtain ⟨hdefined, rfl⟩ := observe_eq_ok he
  exact traces_observed hdefined

/-- People of sixty-four, and members who have paid much or have a sponsor. -/
def discountedRule : Rule :=
  .any [.fieldIn "age" [.int 64], .all [.tagged "member",
    .any [.condition ⟨"paid", none, "gt", .int 100⟩, .fieldIn "sponsor" [.string "club"]]]]

/-- Somebody of sixty-four who has paid an amount that is no number. -/
def patron : Record := (Record.empty.insert "age" (.int 64)).insert "paid" (.string "much")

theorem evaluate_and_observe_exact_discountedRule :
    (∃ p, Registry.standard.resolve discountedRule = .ok p) ∧
    discountedRule.evaluate patron Registry.standard =
      .error (.typeMismatch "gt" ["string", "int"]) ∧
    (∃ e, discountedRule.observe .empty Registry.standard = .ok e) ∧
    ∀ e, discountedRule.observe .empty Registry.standard = .ok e →
      discountedRule.Traces Registry.standard .empty e := by
  have hresolve : ∃ p, Registry.standard.resolve discountedRule = .ok p := ⟨_, rfl⟩
  -- The rule is decided by the age, but a later leaf fails.
  have hfirst : discountedRule.firstError? Registry.standard patron =
      some (.typeMismatch "gt" ["string", "int"]) := rfl
  have hevaluate := (evaluate_and_observe_exact hresolve patron).1
  rw [hfirst] at hevaluate
  exact ⟨hresolve, hevaluate, ⟨_, rfl⟩, (evaluate_and_observe_exact hresolve .empty).2.2⟩

end Rule

end TagRules
