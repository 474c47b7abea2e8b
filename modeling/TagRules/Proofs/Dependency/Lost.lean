import TagRules.Proofs.Dependency.Removal

/-!
# The lost edges alone

The loop that breaks the cycles changes the graph as it goes on. The edges that are lost can be
worked out without it: a cycle of the graph at the start has lost an edge when one of its edges is
among those that are lost.

* `cut`: the lost edges after one more cycle is broken.
* `breakCycle_without`: this is what a step of the loop does.
* `removed_eq_foldl_cut`: the lost edges follow from the listed cycles.
-/

namespace TagRules.DependencyGraph

variable {g : DependencyGraph}

theorem names_without (removed : List RemovedEdge) : (g.without removed).names = g.names := by
  rw [names, without, List.map_map]
  rfl

theorem names_removeCycles (g : DependencyGraph) : g.removeCycles.1.names = g.names := by
  rw [(removal_removeCycles g).1, names_without]

/-- An edge, by the names of its ends. -/
def namedEdge (g : DependencyGraph) (e : Nat × Nat) : RemovedEdge := ⟨g.nameOf e.1, g.nameOf e.2⟩

/-- The lost edges after one more cycle is broken. -/
def cut (g : DependencyGraph) (removed : List RemovedEdge) (cycle : List Nat) : List RemovedEdge :=
  if ∀ e ∈ edgesOf cycle, g.namedEdge e ∉ removed then
    removed ++ ((lastEdge? cycle).map g.namedEdge).toList
  else removed

theorem breakCycle_without {removed : List RemovedEdge} {cycle : List Nat}
    (hcycle : g.IsCycle cycle) :
    breakCycle (g.without removed, removed) cycle =
      (g.without (g.cut removed cycle), g.cut removed cycle) := by
  -- The cycle was one at the start, so an edge is only missing when it is among the lost ones.
  have hkept : (∀ e ∈ edgesOf cycle, (g.without removed).hasEdge e.1 e.2 = true) ↔
      ∀ e ∈ edgesOf cycle, g.namedEdge e ∉ removed :=
    forall₂_congr fun e he =>
      hasEdge_without.trans ⟨And.right, fun hleft => ⟨hcycle.2.2 e he, hleft⟩⟩
  obtain ⟨i, j, hlast, -⟩ := exists_lastEdge? hcycle.1
  simp only [breakCycle, List.all_eq_true, hkept, cut]
  split
  · simp only [hlast, nameOf_without, dropEdge_without]
    rfl
  · rfl

theorem foldl_breakCycle_without {cycles : List (List Nat)} :
    ∀ {removed : List RemovedEdge}, (∀ cycle ∈ cycles, g.IsCycle cycle) →
      cycles.foldl breakCycle (g.without removed, removed) =
        (g.without (cycles.foldl g.cut removed), cycles.foldl g.cut removed) := by
  induction cycles with
  | nil => exact fun _ => rfl
  | cons cycle cycles ih =>
    intro removed hcycles
    obtain ⟨hcycle, hcycles⟩ := List.forall_mem_cons.1 hcycles
    rw [List.foldl_cons, breakCycle_without hcycle, ih hcycles, List.foldl_cons]

/-- **The lost edges follow from the listed cycles alone.** -/
theorem removed_eq_foldl_cut (g : DependencyGraph) :
    g.removeCycles.2 = g.indexCycles.foldl g.cut [] := by
  have hfold : g.indexCycles.foldl breakCycle (g.without [], []) = _ :=
    foldl_breakCycle_without fun _ => isCycle_of_mem_indexCycles
  rw [without_nil] at hfold
  rw [removeCycles, hfold]

end TagRules.DependencyGraph
