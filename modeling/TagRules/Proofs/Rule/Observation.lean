import TagRules.Proofs.Rule.Evaluation

/-!
# Observed evaluation

An observed evaluation gives the truth value of every node, a node after its children, under the
path that leads to the node.

* `Rule.located`: the nodes of a rule with their paths.
* `Rule.mem_located`, `Rule.nodup_located`: every path that leads to a node is there, once.
* `Rule.observed`: what is observed of a rule, from these nodes and their truth values.
* `Rule.observeAt_eq`: every observed evaluation that succeeds gives this.
* `Resolved.outcome_observeAt`: the outcome is that of the evaluation.
-/

namespace TagRules

open Outcome

namespace Rule

variable {reg : Registry} {record : Record}

/-! ### Nodes and paths -/

mutual

/-- **The nodes of a rule with their paths**, a node after its children, where a path leads to the
rule. -/
def located (path : List Nat) : Rule → List (List Nat × Rule)
  | .condition c => [(path, .condition c)]
  | .custom key => [(path, .custom key)]
  | .all rs => locatedList path 0 rs ++ [(path, .all rs)]
  | .any rs => locatedList path 0 rs ++ [(path, .any rs)]

/-- The nodes of some rules, which are children of one node from an index on. -/
def locatedList (path : List Nat) (index : Nat) : List Rule → List (List Nat × Rule)
  | [] => []
  | r :: rs => located (path ++ [index]) r ++ locatedList path (index + 1) rs

end

/-- The nodes below a composite, and the composite itself. -/
theorem atPath_iff_of_children {r s : Rule} {path : List Nat} {below : List (List Nat × Rule)}
    (hbelow : ∀ q s, (q, s) ∈ below ↔ ∃ k child rest, r.children[k]? = some child ∧
      q = path ++ k :: rest ∧ child.atPath rest = some s) {q : List Nat} :
    (q, s) ∈ below ++ [(path, r)] ↔ ∃ rest, q = path ++ rest ∧ r.atPath rest = some s := by
  rw [List.mem_append, List.mem_singleton, hbelow]
  constructor
  · rintro (⟨k, child, rest, hchild, rfl, hs⟩ | h)
    · exact ⟨k :: rest, rfl, by rw [atPath, hchild]; exact hs⟩
    · cases h
      exact ⟨[], (List.append_nil _).symm, rfl⟩
  · rintro ⟨rest, rfl, hs⟩
    cases rest with
    | nil =>
      cases hs
      exact .inr (by rw [List.append_nil])
    | cons k rest =>
      rw [atPath] at hs
      obtain ⟨child, hchild, hs⟩ := Option.bind_eq_some_iff.1 hs
      exact .inl ⟨k, child, rest, hchild, rfl, hs⟩

mutual

/-- **The nodes are those that paths lead to.** -/
theorem mem_located : ∀ (r : Rule) {path q : List Nat} {s : Rule},
    (q, s) ∈ r.located path ↔ ∃ rest, q = path ++ rest ∧ r.atPath rest = some s
  | .condition c, path, q, s => by
    rw [located]
    show (q, s) ∈ [] ++ [(path, .condition c)] ↔ _
    exact atPath_iff_of_children fun q s => by simp [children]
  | .custom key, path, q, s => by
    rw [located]
    show (q, s) ∈ [] ++ [(path, .custom key)] ↔ _
    exact atPath_iff_of_children fun q s => by simp [children]
  | .all rs, path, q, s => by
    rw [located]
    refine atPath_iff_of_children fun q s => ?_
    rw [mem_locatedList rs]
    simp only [Nat.zero_add]
    rfl
  | .any rs, path, q, s => by
    rw [located]
    refine atPath_iff_of_children fun q s => ?_
    rw [mem_locatedList rs]
    simp only [Nat.zero_add]
    rfl

theorem mem_locatedList : ∀ (rs : List Rule) {path : List Nat} {index : Nat} {q : List Nat}
    {s : Rule}, (q, s) ∈ locatedList path index rs ↔ ∃ k r rest, rs[k]? = some r ∧
      q = path ++ (index + k) :: rest ∧ r.atPath rest = some s
  | [], path, index, q, s => by simp [locatedList]
  | r :: rs, path, index, q, s => by
    rw [locatedList, List.mem_append, mem_located r, mem_locatedList rs]
    constructor
    · rintro (⟨rest, rfl, hs⟩ | ⟨k, r', rest, hr', rfl, hs⟩)
      · exact ⟨0, r, rest, rfl, by simp, hs⟩
      · exact ⟨k + 1, r', rest, hr', by rw [Nat.add_assoc, Nat.add_comm 1 k], hs⟩
    · rintro ⟨k, r', rest, hr', rfl, hs⟩
      cases k with
      | zero =>
        cases hr'
        exact .inl ⟨rest, by simp, hs⟩
      | succ k => exact .inr ⟨k, r', rest, hr', by rw [Nat.add_assoc, Nat.add_comm 1 k], hs⟩

end

/-- The nodes below a composite have longer paths than the composite. -/
theorem nodup_append_singleton {r : Rule} {rs : List Rule} {path : List Nat}
    (h : ((locatedList path 0 rs).map Prod.fst).Nodup) :
    ((locatedList path 0 rs ++ [(path, r)]).map Prod.fst).Nodup := by
  rw [List.map_append, List.nodup_append]
  refine ⟨h, by simp, fun q hq p hp heq => ?_⟩
  obtain ⟨⟨_, s⟩, hmem, rfl⟩ := List.mem_map.1 hq
  obtain ⟨k, _, rest, -, hq', -⟩ := (mem_locatedList rs).1 hmem
  have hp' : p = path := by simpa using hp
  have := congrArg List.length (hq'.symm.trans (heq.trans hp'))
  simp at this

mutual

/-- **Every path leads to one node.** -/
theorem nodup_located : ∀ (r : Rule) (path : List Nat), ((r.located path).map Prod.fst).Nodup
  | .condition _, path => by simp [located]
  | .custom _, path => by simp [located]
  | .all rs, path => by
    rw [located]
    exact nodup_append_singleton (nodup_locatedList rs path 0)
  | .any rs, path => by
    rw [located]
    exact nodup_append_singleton (nodup_locatedList rs path 0)

theorem nodup_locatedList : ∀ (rs : List Rule) (path : List Nat) (index : Nat),
    ((locatedList path index rs).map Prod.fst).Nodup
  | [], path, index => by simp [locatedList]
  | r :: rs, path, index => by
    rw [locatedList, List.map_append, List.nodup_append]
    refine ⟨nodup_located r _, nodup_locatedList rs path (index + 1), fun p hp q hq heq => ?_⟩
    -- The paths of different children part at the index of the child.
    obtain ⟨⟨_, s⟩, hs, rfl⟩ := List.mem_map.1 hp
    obtain ⟨⟨_, s'⟩, hs', rfl⟩ := List.mem_map.1 hq
    obtain ⟨rest, hpath, -⟩ := (mem_located r).1 hs
    obtain ⟨k, _, rest', -, hpath', -⟩ := (mem_locatedList rs).1 hs'
    have h := hpath.symm.trans (heq.trans hpath')
    rw [List.append_assoc] at h
    have := List.append_cancel_left h
    simp at this
    omega

end

/-! ### Observations -/

/-- What is observed of a rule whose nodes have truth values. -/
def observation (reg : Registry) (record : Record) (x : List Nat × Rule) : Observation :=
  ⟨x.1, x.2.holds reg record⟩

mutual

/-- **The observations are the truth values of the nodes.** -/
theorem observeAt_eq : ∀ {r : Rule} {p : Resolved} {path : List Nat} {e : Evaluation},
    reg.resolve r = .ok p → p.observeAt record path = .ok e →
      e = ⟨r.holds reg record, (r.located path).map (observation reg record)⟩
  | .condition c, p, path, e, hp, h => by
    have heval : (Rule.condition c).evaluate record reg = p.evaluate record :=
      evaluate_of_resolve hp
    rw [Registry.resolve, resolveCondition_eq] at hp
    obtain ⟨transform, -, hp⟩ := bind_eq_ok_iff.1 hp
    obtain ⟨predicate, -, hp⟩ := bind_eq_ok_iff.1 hp
    cases hp
    rw [Resolved.observeAt] at h
    obtain ⟨b, hb, h⟩ := bind_eq_ok_iff.1 h
    cases h
    rw [Resolved.evaluate, hb] at heval
    rw [located, List.map_singleton, observation, holds_of_evaluate heval]
    rfl
  | .custom key, p, path, e, hp, h => by
    have heval : (Rule.custom key).evaluate record reg = p.evaluate record := evaluate_of_resolve hp
    rw [Registry.resolve] at hp
    obtain ⟨f, -, rfl⟩ := map_eq_ok_iff.1 hp
    rw [Resolved.observeAt] at h
    obtain ⟨b, hb, h⟩ := bind_eq_ok_iff.1 h
    cases h
    rw [Resolved.evaluate, hb] at heval
    rw [located, List.map_singleton, observation, holds_of_evaluate heval]
    rfl
  | .all rs, p, path, e, hp, h => by
    rw [Registry.resolve] at hp
    obtain ⟨ps, hps, rfl⟩ := map_eq_ok_iff.1 hp
    rw [Resolved.observeAt] at h
    obtain ⟨es, hes, h⟩ := bind_eq_ok_iff.1 h
    cases h
    obtain ⟨houtcomes, hobservations⟩ := observeList_eq hps hes
    have houtcome : es.all Evaluation.outcome = (Rule.all rs).holds reg record := by
      rw [holds, ← houtcomes, List.all_map]
      rfl
    rw [Resolved.conclude, hobservations, houtcome, located, List.map_append]
    rfl
  | .any rs, p, path, e, hp, h => by
    rw [Registry.resolve] at hp
    obtain ⟨ps, hps, rfl⟩ := map_eq_ok_iff.1 hp
    rw [Resolved.observeAt] at h
    obtain ⟨es, hes, h⟩ := bind_eq_ok_iff.1 h
    cases h
    obtain ⟨houtcomes, hobservations⟩ := observeList_eq hps hes
    have houtcome : es.any Evaluation.outcome = (Rule.any rs).holds reg record := by
      rw [holds, ← houtcomes, List.any_map]
      rfl
    rw [Resolved.conclude, hobservations, houtcome, located, List.map_append]
    rfl

theorem observeList_eq : ∀ {rs : List Rule} {ps : List Resolved} {path : List Nat} {index : Nat}
    {es : List Evaluation}, reg.resolveList rs = .ok ps →
      Resolved.observeList record path index ps = .ok es →
      es.map Evaluation.outcome = holdsList reg record rs ∧
        es.flatMap Evaluation.observations =
          (locatedList path index rs).map (observation reg record)
  | [], ps, path, index, es, hps, h => by
    cases hps
    cases h
    exact ⟨rfl, rfl⟩
  | r :: rs, ps, path, index, es, hps, h => by
    rw [Registry.resolveList] at hps
    obtain ⟨p, hp, hps⟩ := bind_eq_ok_iff.1 hps
    obtain ⟨ps', hps', hps⟩ := bind_eq_ok_iff.1 hps
    cases hps
    rw [Resolved.observeList] at h
    obtain ⟨e, he, h⟩ := bind_eq_ok_iff.1 h
    obtain ⟨es', hes', h⟩ := bind_eq_ok_iff.1 h
    cases h
    obtain ⟨houtcomes, hobservations⟩ := observeList_eq hps' hes'
    cases observeAt_eq hp he
    refine ⟨?_, ?_⟩
    · rw [List.map_cons, houtcomes, holdsList]
    · rw [List.flatMap_cons, hobservations, locatedList, List.map_append]

end

/-- **What is observed of a rule**: its truth value, and those of its nodes. -/
def observed (reg : Registry) (r : Rule) (record : Record) : Evaluation :=
  ⟨r.holds reg record, (r.located []).map (observation reg record)⟩

end Rule

/-! ### Outcomes -/

namespace Resolved

variable {record : Record}

mutual

/-- **The outcome of an observed evaluation is that of the evaluation**, and so is the error. -/
theorem outcome_observeAt : ∀ (p : Resolved) (path : List Nat),
    Evaluation.outcome <$> p.observeAt record path = p.evaluate record
  | .condition field transform predicate, path => by
    rw [observeAt, evaluate]
    cases testValue transform predicate (record.get field) <;> rfl
  | .custom f, path => by
    rw [observeAt, evaluate]
    cases f record <;> rfl
  | .all ps, path => by
    rw [observeAt, evaluate, ← outcome_observeList ps path 0]
    cases observeList record path 0 ps with
    | error e => rfl
    | ok es =>
      have hall : (es.map Evaluation.outcome).all id = es.all Evaluation.outcome := List.all_map
      exact congrArg Except.ok hall.symm
  | .any ps, path => by
    rw [observeAt, evaluate, ← outcome_observeList ps path 0]
    cases observeList record path 0 ps with
    | error e => rfl
    | ok es =>
      have hany : (es.map Evaluation.outcome).any id = es.any Evaluation.outcome := List.any_map
      exact congrArg Except.ok hany.symm

theorem outcome_observeList : ∀ (ps : List Resolved) (path : List Nat) (index : Nat),
    List.map Evaluation.outcome <$> observeList record path index ps = evaluateList record ps
  | [], path, index => rfl
  | p :: ps, path, index => by
    rw [observeList, evaluateList, ← outcome_observeAt p (path ++ [index]),
      ← outcome_observeList ps path (index + 1)]
    cases observeAt record (path ++ [index]) p with
    | error e => rfl
    | ok e => cases observeList record path (index + 1) ps <;> rfl

end

theorem evaluate_of_observe {p : Resolved} {e : Evaluation} (h : p.observe record = .ok e) :
    p.evaluate record = .ok e.outcome := by
  rw [← outcome_observeAt p [], show p.observeAt record [] = .ok e from h]
  rfl

end Resolved

end TagRules
