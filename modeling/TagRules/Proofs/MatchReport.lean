import Mathlib.Algebra.GroupWithZero.Nat
import TagRules.MatchReport
import TagRules.Proofs.Rule.Observation

/-!
# What a match report counts

A match report on evaluations of one rule counts, for every node, the evaluations in which it was
true.

* `MatchReport.lookup_addCount`: what adding to one count does to all counts.
* `MatchReport.matchCount_record`: one more evaluation adds the observations that are true.
* `Rule.countP_observed`: an evaluation observes every node once.
* `MatchReport.matchCount_observed`: a node is counted for the records on which it holds.
-/

namespace TagRules

namespace MatchReport

/-- **Adding to one count** leaves the others as they are. -/
theorem lookup_addCount (path other : List Nat) (n : Nat) (counts : List (List Nat × Nat)) :
    ((addCount path n counts).lookup other).getD 0 =
      (counts.lookup other).getD 0 + if path = other then n else 0 := by
  induction counts with
  | nil =>
    rw [addCount, List.lookup_cons]
    by_cases h : path = other
    · simp [h]
    · have hbeq : (other == path) = false := beq_eq_false_iff_ne.2 (Ne.symm h)
      rw [hbeq, if_neg h]
      rfl
  | cons e counts ih =>
    obtain ⟨p, m⟩ := e
    rw [addCount]
    by_cases hp : p = path
    · subst hp
      rw [if_pos rfl, List.lookup_cons, List.lookup_cons]
      by_cases h : p = other
      · simp [h]
      · have hbeq : (other == p) = false := beq_eq_false_iff_ne.2 (Ne.symm h)
        rw [hbeq, if_neg h, Nat.add_zero]
    · rw [if_neg hp, List.lookup_cons, List.lookup_cons]
      by_cases h : other = p
      · subst h
        rw [if_neg (Ne.symm hp), beq_self_eq_true]
        rfl
      · rw [beq_eq_false_iff_ne.2 h]
        exact ih

/-- An observation that a node was true. -/
def isHit (path : List Nat) (o : Observation) : Bool := o.path = path && o.outcome

/-- **One more evaluation adds the observations that are true.** -/
theorem matchCount_record (report : MatchReport) (e : Evaluation) (path : List Nat) :
    (report.record e).matchCount path =
      report.matchCount path + e.observations.countP (isHit path) := by
  obtain ⟨evaluations, counts⟩ := report
  obtain ⟨outcome, observations⟩ := e
  show ((observations.foldl (fun counts o => addCount o.path o.outcome.toNat counts) counts).lookup
    path).getD 0 = (counts.lookup path).getD 0 + observations.countP (isHit path)
  induction observations generalizing counts with
  | nil => rfl
  | cons o observations ih =>
    rw [List.foldl_cons, ih, lookup_addCount, List.countP_cons, isHit, Nat.add_assoc,
      Nat.add_comm (observations.countP _)]
    by_cases h : o.path = path <;> cases o.outcome <;> simp [h]

theorem matchCount_foldl_record (evaluations : List Evaluation) (path : List Nat) :
    ∀ report : MatchReport, (evaluations.foldl record report).matchCount path =
      report.matchCount path +
        (evaluations.map fun e => e.observations.countP (isHit path)).sum := by
  induction evaluations with
  | nil => exact fun _ => rfl
  | cons e evaluations ih =>
    intro report
    rw [List.foldl_cons, ih, matchCount_record, List.map_cons, List.sum_cons, Nat.add_assoc]

end MatchReport

/-- In a list without repeated keys, a key is counted once. -/
theorem countP_of_nodup_keys {α β : Type} [DecidableEq α] {g : β → Bool} {l : List (α × β)}
    (hnodup : (l.map Prod.fst).Nodup) {a : α} {b : β} (hmem : (a, b) ∈ l) :
    l.countP (fun x => x.1 = a && g x.2) = (g b).toNat := by
  induction l with
  | nil => cases hmem
  | cons x l ih =>
    obtain ⟨hx, hl⟩ := List.nodup_cons.1 hnodup
    rw [List.countP_cons]
    rcases List.mem_cons.1 hmem with rfl | hmem
    · have hnone : l.countP (fun x => x.1 = a && g x.2) = 0 := by
        refine List.countP_eq_zero.2 fun y hy => ?_
        have hne : y.1 ≠ a := fun h => hx (List.mem_map.2 ⟨y, hy, h⟩)
        simp [hne]
      rw [hnone, Nat.zero_add]
      cases g b <;> simp
    · have hne : x.1 ≠ a := fun h => hx (List.mem_map.2 ⟨(a, b), hmem, h.symm⟩)
      rw [ih hl hmem]
      simp [hne]

/-- **An evaluation observes every node once.** -/
theorem Rule.countP_observed {reg : Registry} {record : Record} {r s : Rule} {path : List Nat}
    (h : r.atPath path = some s) :
    (r.observed reg record).observations.countP (MatchReport.isHit path) =
      (s.holds reg record).toNat := by
  have hmem : (path, s) ∈ r.located [] := (mem_located r).2 ⟨path, rfl, h⟩
  rw [observed, List.countP_map]
  exact countP_of_nodup_keys (nodup_located r []) hmem

/-- **A node is counted for the records on which it holds.** -/
theorem MatchReport.matchCount_observed (reg : Registry) (records : List Record) {r s : Rule}
    {path : List Nat} (h : r.atPath path = some s) :
    ((records.map (r.observed reg)).foldl record .empty).matchCount path =
      records.countP fun x => s.holds reg x := by
  have hsum : ((records.map (r.observed reg)).map fun e => e.observations.countP (isHit path)).sum =
      records.countP fun x => s.holds reg x := by
    induction records with
    | nil => rfl
    | cons x records ih =>
      rw [List.map_cons, List.map_cons, List.sum_cons, ih, Rule.countP_observed h, List.countP_cons,
        Nat.add_comm]
      cases s.holds reg x <;> rfl
  rw [matchCount_foldl_record, hsum]
  exact Nat.zero_add _

end TagRules
