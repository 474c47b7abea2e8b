import TagRules.Proofs.Dependency.Named

/-!
# Detecting cycles

A search along the edges, the list of all cycles and the levels each tell whether there is a cycle,
and they agree.

* `hasCycles_iff`: the search along the edges fails when there is a cycle.
* `cycles_ne_nil_iff`: the list of all cycles is not empty when there is one.
* `exists_levels_error_iff`, `resolve_eq_error_iff`: there are no levels when there is one.
* `ShowsCycle`: a path that repeats its first name at the end and shows a cycle.
* `detectors_agree`: all of this, and what the error of missing levels shows.
-/

namespace TagRules.DependencyGraph

open Outcome

variable {g : DependencyGraph}

/-- **A search that ends well excludes cycles**: it lists every tag before those that depend on it. -/
theorem not_isCycle_of_run {done : List Nat}
    (h : Search.run (lookupIn g.successorTable) g.size (List.range g.size) = .ok done)
    (cycle : List Nat) : ¬g.IsCycle cycle := by
  have hbound : ∀ x < g.size, ∀ y ∈ lookupIn g.successorTable x, y < g.size := fun x _ y hy =>
    (lt_size_of_hasEdge (mem_lookupIn_successorTable.1 hy)).2
  obtain ⟨hfinished, hmem⟩ := Search.run_ok hbound h
  have hrises : ∀ i j, g.hasEdge i j = true → done.idxOf i < done.idxOf j := fun i j hedge =>
    hfinished.idxOf_lt i ((hmem i).2 (lt_size_of_hasEdge hedge).1) j
      (mem_lookupIn_successorTable.2 hedge)
  exact not_isCycle_of_rank hrises cycle

theorem hasCycles_iff : g.hasCycles = true ↔ ∃ cycle, g.IsCycle cycle := by
  refine ⟨exists_isCycle_of_hasCycles, fun ⟨cycle, hcycle⟩ => ?_⟩
  unfold hasCycles
  cases hrun : Search.run (lookupIn g.successorTable) g.size (List.range g.size) with
  | ok done => exact absurd hcycle (not_isCycle_of_run hrun cycle)
  | error circle => simp [hrun]

theorem cycles_ne_nil_iff : g.cycles ≠ [] ↔ ∃ cycle, g.IsCycle cycle := by
  constructor
  · intro h
    obtain ⟨cycle, hcycle⟩ := List.exists_mem_of_ne_nil _ h
    obtain ⟨numbers, hnumbers, -⟩ := List.mem_map.1 hcycle
    exact ⟨numbers, isCycle_of_mem_indexCycles hnumbers⟩
  · rintro ⟨cycle, hcycle⟩
    obtain ⟨start, rest, -, hrotated, hlater⟩ := hcycle.exists_rotated
    have hlisted : start :: rest ∈ g.indexCycles :=
      mem_indexCycles.2 ⟨start, rest, rfl, hrotated, hlater⟩
    exact List.ne_nil_of_mem (List.mem_map_of_mem hlisted)

theorem levels_eq_error_iff {e : PlanError} : g.levels = .error e ↔ g.buildOrder = .error e := by
  rw [levels, bind_eq_error_iff]
  refine or_iff_left ?_
  rintro ⟨order, -, h⟩
  cases h

/-- **There are no levels when there is a cycle.** -/
theorem exists_levels_error_iff : (∃ e, g.levels = .error e) ↔ ∃ cycle, g.IsCycle cycle := by
  constructor
  · rintro ⟨e, he⟩
    obtain ⟨start, rest, hcycle, -⟩ := exists_isCycle_of_buildOrder (levels_eq_error_iff.1 he)
    exact ⟨start :: rest, hcycle⟩
  · rintro ⟨cycle, hcycle⟩
    cases hlevels : g.levels with
    | error e => exact ⟨e, rfl⟩
    | ok levels => exact absurd hcycle (not_isCycle_of_levels hlevels cycle)

theorem resolve_eq_error_iff {e : PlanError} : g.resolve = .error e ↔ g.levels = .error e := by
  rw [resolve, bind_eq_error_iff]
  refine or_iff_left ?_
  rintro ⟨levels, -, h⟩
  cases h

/-! ### The path of an error -/

variable {edges : List (String × List String)}

/-- **A path that shows a cycle**: it has at least two names, of which the first and the last are
equal and the others are different declared names, and each is a direct dependency of the name after
it. -/
structure ShowsCycle (edges : List (String × List String)) (path : List String) : Prop where
  length : 2 ≤ path.length
  ends : path.head? = path.getLast?
  nodup : path.dropLast.Nodup
  declared : ∀ name ∈ path.dropLast, name ∈ edges.map Prod.fst
  dependencies : path.IsChain (IsDependency edges)

/-- A simple cycle is shown by the path that repeats its first member. -/
theorem IsSimpleCycle.showsCycle {first : String} {rest : List String}
    (h : IsSimpleCycle edges (first :: rest)) : ShowsCycle edges (first :: (rest ++ [first])) := by
  obtain ⟨hdeclared, hnodup, hchain⟩ := isSimpleCycle_cons_iff.1 h
  have hdrop : (first :: (rest ++ [first])).dropLast = first :: rest := by
    rw [← List.cons_append, List.dropLast_concat]
  refine ⟨by simp, ?_, hdrop ▸ hnodup, hdrop ▸ hdeclared, hchain⟩
  rw [← List.cons_append, List.getLast?_concat, List.cons_append, List.head?_cons]

/-- **Levels are missing because of a cycle, and the error shows it.** -/
theorem showsCycle_of_levels {e : PlanError} (h : (ofEdges edges).levels = .error e) :
    ∃ path, e = .cyclicDependency path ∧ ShowsCycle edges path := by
  obtain ⟨start, rest, hcycle, rfl⟩ := exists_isCycle_of_buildOrder (levels_eq_error_iff.1 h)
  have hnames : IsSimpleCycle edges ((start :: rest).map (ofEdges edges).nameOf) :=
    (isSimpleCycle_ofEdges hcycle.lt_size).2 hcycle
  refine ⟨_, rfl, ?_⟩
  simpa using hnames.showsCycle

/-- **The detectors agree, and the error shows a real cycle.** -/
theorem detectors_agree (edges : List (String × List String)) :
    ((ofEdges edges).hasCycles = true ↔ ∃ cycle, IsSimpleCycle edges cycle) ∧
    ((ofEdges edges).hasCycles = true ↔ (ofEdges edges).cycles ≠ []) ∧
    ((ofEdges edges).hasCycles = true ↔ ∃ e, (ofEdges edges).levels = .error e) ∧
    ((ofEdges edges).hasCycles = true ↔ ∃ e, (ofEdges edges).resolve = .error e) ∧
    (∀ e, (ofEdges edges).levels = .error e →
      ∃ path, e = .cyclicDependency path ∧ ShowsCycle edges path) := by
  refine ⟨?_, ?_, ?_, ?_, fun e => showsCycle_of_levels⟩
  · rw [hasCycles_iff]
    constructor
    · rintro ⟨numbers, hcycle⟩
      exact ⟨_, (isSimpleCycle_ofEdges hcycle.lt_size).2 hcycle⟩
    · rintro ⟨cycle, hcycle⟩
      obtain ⟨numbers, hnumbers, -⟩ := hcycle.exists_isCycle
      exact ⟨numbers, hnumbers⟩
  · rw [hasCycles_iff, cycles_ne_nil_iff]
  · rw [hasCycles_iff, exists_levels_error_iff]
  · simp only [resolve_eq_error_iff, hasCycles_iff, exists_levels_error_iff]

/-- Two tags that depend on each other, and one that nobody declares. -/
def rivalEdges : List (String × List String) :=
  [("guest", ["ghost", "member"]), ("member", ["guest"])]

theorem detectors_agree_rivalEdges : (ofEdges rivalEdges).hasCycles = true ∧
    ∃ path, PlanError.cyclicDependency ["guest", "member", "guest"] = .cyclicDependency path ∧
      ShowsCycle rivalEdges path := by
  have hlevels : (ofEdges rivalEdges).levels =
      .error (.cyclicDependency ["guest", "member", "guest"]) := rfl
  obtain ⟨-, -, hdetected, -, hshows⟩ := detectors_agree rivalEdges
  exact ⟨hdetected.2 ⟨_, hlevels⟩, hshows _ hlevels⟩

end TagRules.DependencyGraph
