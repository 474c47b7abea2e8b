import TagRules.Proofs.MatchReport
import TagRules.Proofs.Rule.Trace

/-!
# What a match report says of a rule

A match report on some evaluations of one rule does not depend on their order. It holds a count for
every node of the rule, so that the nodes that never matched can be read off it, in pre-order.

* `MatchReport.paths`: the nodes with a count.
* `MatchReport.neverMatched_eq`: the nodes that never matched are listed in pre-order.
* `Rule.observe_rows`: what is observed of a rule on some records.
* `MatchReport.CountsOn`: a report that counts a rule on some records.
* `MatchReport.countsOn_of_perm`: the evaluations on some records, in any order, give such a report.
-/

namespace TagRules

open Outcome

namespace MatchReport

/-! ### The nodes with a count -/

/-- The paths with a count, in the order in which they came up. -/
def paths (report : MatchReport) : List (List Nat) := report.counts.map Prod.fst

theorem map_fst_addCount (path : List Nat) (n : Nat) (counts : List (List Nat × Nat)) :
    (addCount path n counts).map Prod.fst =
      if path ∈ counts.map Prod.fst then counts.map Prod.fst
      else counts.map Prod.fst ++ [path] := by
  induction counts with
  | nil => rfl
  | cons e counts ih =>
    obtain ⟨p, m⟩ := e
    rw [addCount]
    by_cases hp : p = path
    · rw [if_pos hp, if_pos (by simp [hp])]
      rfl
    · rw [if_neg hp, List.map_cons, ih]
      simp only [List.map_cons, List.mem_cons, Ne.symm hp, false_or]
      split <;> rfl

theorem mem_map_fst_addCount {path other : List Nat} {n : Nat} {counts : List (List Nat × Nat)} :
    other ∈ (addCount path n counts).map Prod.fst ↔
      other ∈ counts.map Prod.fst ∨ other = path := by
  rw [map_fst_addCount]
  split
  · rename_i hmem
    refine ⟨.inl, ?_⟩
    rintro (h | rfl)
    · exact h
    · exact hmem
  · rw [List.mem_append, List.mem_singleton]

theorem nodup_map_fst_addCount {path : List Nat} {n : Nat} {counts : List (List Nat × Nat)}
    (h : (counts.map Prod.fst).Nodup) : ((addCount path n counts).map Prod.fst).Nodup := by
  rw [map_fst_addCount]
  split
  · exact h
  · rename_i hnew
    exact List.nodup_append.2 ⟨h, List.pairwise_singleton _ _, fun p hp q hq heq =>
      hnew (List.mem_singleton.1 hq ▸ heq ▸ hp)⟩

/-- **One more evaluation adds the nodes that it observes**, each once. -/
theorem paths_record (report : MatchReport) (e : Evaluation) :
    (∀ path, path ∈ (report.record e).paths ↔
      path ∈ report.paths ∨ path ∈ e.observations.map Observation.path) ∧
    (report.paths.Nodup → (report.record e).paths.Nodup) := by
  obtain ⟨evaluations, counts⟩ := report
  obtain ⟨outcome, observations⟩ := e
  simp only [paths, record]
  induction observations generalizing counts with
  | nil => simp
  | cons o observations ih =>
    obtain ⟨hmem, hnodup⟩ := ih (addCount o.path o.outcome.toNat counts)
    refine ⟨fun path => ?_, fun h => hnodup (nodup_map_fst_addCount h)⟩
    rw [List.foldl_cons, hmem, mem_map_fst_addCount, List.map_cons, List.mem_cons, or_assoc]

theorem nodup_paths_foldl (es : List Evaluation) :
    ∀ report : MatchReport, report.paths.Nodup → (es.foldl record report).paths.Nodup := by
  induction es with
  | nil => exact fun _ h => h
  | cons e es ih => exact fun report h => ih _ ((paths_record report e).2 h)

theorem mem_paths_foldl {path : List Nat} (es : List Evaluation) :
    ∀ report : MatchReport, path ∈ (es.foldl record report).paths ↔
      path ∈ report.paths ∨ ∃ e ∈ es, path ∈ e.observations.map Observation.path := by
  induction es with
  | nil => simp
  | cons e es ih =>
    intro report
    rw [List.foldl_cons, ih, (paths_record report e).1, or_assoc]
    simp only [List.mem_cons, exists_eq_or_imp]

theorem evaluations_foldl (es : List Evaluation) :
    ∀ report : MatchReport, (es.foldl record report).evaluations = report.evaluations + es.length := by
  induction es with
  | nil => exact fun _ => rfl
  | cons e es ih =>
    intro report
    rw [List.foldl_cons, ih, List.length_cons, record, Nat.add_assoc, Nat.add_comm 1]

/-- **The order of the evaluations does not matter** for the counts. -/
theorem matchCount_foldl_perm {es es' : List Evaluation} (h : es'.Perm es) (path : List Nat)
    (report : MatchReport) :
    (es'.foldl record report).matchCount path = (es.foldl record report).matchCount path := by
  rw [matchCount_foldl_record, matchCount_foldl_record, (h.map _).sum_nat]

/-! ### The nodes that never matched -/

/-- The entry of a path is its count. -/
theorem eq_matchCount_of_mem {report : MatchReport} (hnodup : report.paths.Nodup)
    {path : List Nat} {n : Nat} (h : (path, n) ∈ report.counts) : report.matchCount path = n := by
  obtain ⟨before, after, hsplit⟩ := List.append_of_mem h
  have hlookup : report.counts.lookup path = some n := by
    refine List.lookup_eq_some_iff.2 ⟨before, after, hsplit, fun x hx => ?_⟩
    rw [paths, hsplit, List.map_append, List.nodup_append] at hnodup
    have hne := hnodup.2.2 x.1 (List.mem_map_of_mem hx) path (by simp)
    exact bne_iff_ne.2 (Ne.symm hne)
  rw [matchCount, hlookup, Option.getD_some]

/-- The paths with a count of zero. -/
theorem mem_unmatched_iff {report : MatchReport} (hnodup : report.paths.Nodup) {path : List Nat} :
    path ∈ (report.counts.filter (·.2 = 0)).map Prod.fst ↔
      path ∈ report.paths ∧ report.matchCount path = 0 := by
  rw [paths, List.mem_map, List.mem_map]
  constructor
  · rintro ⟨⟨_, n⟩, hmem, rfl⟩
    obtain ⟨hmem, hzero⟩ := List.mem_filter.1 hmem
    obtain rfl : n = 0 := of_decide_eq_true hzero
    exact ⟨⟨_, hmem, rfl⟩, eq_matchCount_of_mem hnodup hmem⟩
  · rintro ⟨⟨⟨_, n⟩, hmem, rfl⟩, hzero⟩
    rw [eq_matchCount_of_mem hnodup hmem] at hzero
    exact ⟨_, List.mem_filter.2 ⟨hmem, decide_eq_true hzero⟩, rfl⟩

/-- **The nodes that never matched are listed in pre-order**, if every node has a count. -/
theorem neverMatched_eq {report : MatchReport} {r : Rule} {never : Rule → Bool}
    (hnodup : report.paths.Nodup)
    (hpaths : ∀ path, path ∈ report.paths ↔ ∃ s, r.atPath path = some s)
    (hnever : ∀ path s, r.atPath path = some s → (report.matchCount path = 0 ↔ never s = true)) :
    report.neverMatched r = r.subrules.filter never := by
  refine Rule.filterMap_atPath_sort (hnodup.sublist (List.filter_sublist.map _)) fun path => ?_
  rw [mem_unmatched_iff hnodup, hpaths]
  constructor
  · rintro ⟨⟨s, hs⟩, hzero⟩
    exact ⟨s, hs, (hnever path s hs).1 hzero⟩
  · rintro ⟨s, hs, hs'⟩
    exact ⟨⟨s, hs⟩, (hnever path s hs).2 hs'⟩

end MatchReport

/-! ### Evaluations on some records -/

/-- **What is observed of a rule on some records**, if this is possible. -/
theorem Rule.observe_rows {reg : Registry} {r : Rule} {records : RecordSet} {es : List Evaluation}
    (h : records.mapM (fun x => r.observe x reg) = .ok es) :
    es = records.map (r.observed reg) ∧ ∀ x ∈ records, r.Defined reg x := by
  have hrows := Ends.rows (l := records) (v := r.observed reg) (f := fun x => r.observe x reg)
    fun x _ e he => (observe_eq_ok he).2
  obtain ⟨hes, hall⟩ := hrows.ok h
  refine ⟨hes, fun x hx => ?_⟩
  obtain ⟨e, he⟩ := hall x hx
  exact (observe_eq_ok he).1

namespace MatchReport

/-- **A report counts a rule on some records**: there was one evaluation for each of them, every node
has the number of records on which it is true by itself, and the nodes that are true on none of them
can be told, in pre-order. -/
structure CountsOn (reg : Registry) (r : Rule) (records : RecordSet) (report : MatchReport) :
    Prop where
  evaluations : report.evaluations = records.length
  counts : ∀ path s, r.atPath path = some s →
    report.matchCount path = records.countP fun x => s.evaluate x reg = .ok true
  neverMatched : report.neverMatched r =
    r.subrules.filter fun s => ∀ x ∈ records, s.evaluate x reg ≠ .ok true

/-- **The evaluations on some records, in any order**, give a report that counts the rule on them. -/
theorem countsOn_of_perm {reg : Registry} {r : Rule} {records : RecordSet}
    {es es' : List Evaluation} (hne : records ≠ [])
    (h : records.mapM (fun x => r.observe x reg) = .ok es) (hperm : es'.Perm es) :
    (es'.foldl record .empty).CountsOn reg r records := by
  obtain ⟨rfl, hdefined⟩ := Rule.observe_rows h
  have hcounts : ∀ path s, r.atPath path = some s →
      (es'.foldl record .empty).matchCount path =
        records.countP fun x => s.evaluate x reg = .ok true := by
    intro path s hs
    rw [matchCount_foldl_perm hperm, matchCount_observed reg records hs]
    refine List.countP_congr fun x hx => ?_
    rw [decide_eq_true_eq, Rule.evaluate_eq_ok_iff]
    exact (and_iff_right (Rule.defined_of_atPath (hdefined x hx) hs)).symm
  refine ⟨?_, hcounts, neverMatched_eq ?_ (fun path => ?_) fun path s hs => ?_⟩
  · rw [evaluations_foldl, hperm.length_eq, List.length_map]
    exact Nat.zero_add _
  · exact nodup_paths_foldl es' .empty List.nodup_nil
  · have hempty : path ∉ MatchReport.empty.paths := List.not_mem_nil
    obtain ⟨x, hx⟩ := List.exists_mem_of_ne_nil records hne
    rw [mem_paths_foldl, or_iff_right hempty]
    constructor
    · rintro ⟨e, he, hpath⟩
      obtain ⟨y, hy, rfl⟩ := List.mem_map.1 (hperm.mem_iff.1 he)
      exact ((Rule.traces_observed (hdefined y hy)).complete path).1 hpath
    · intro hs
      exact ⟨r.observed reg x, hperm.mem_iff.2 (List.mem_map_of_mem hx),
        ((Rule.traces_observed (hdefined x hx)).complete path).2 hs⟩
  · rw [hcounts path s hs, List.countP_eq_zero, decide_eq_true_eq]
    simp only [decide_eq_true_eq, ne_eq]

end MatchReport

end TagRules
