import TagRules.Dependency.Basic
import TagRules.Dependency.Search

/-!
# Cycles of dependencies

A cycle is a list of different tags of which each depends on the one before it, and the first one
on the last. It is listed from its earliest declared member on.

* `DependencyGraph.cycles`: all cycles.
* `DependencyGraph.hasCycles`: whether there is one, without listing them.
* `DependencyGraph.removeCycles`: the graph after one edge of every cycle is dropped.
-/

namespace TagRules

/-- A dependency that was dropped. -/
structure RemovedEdge where
  /-- The tag that is no longer depended on. -/
  dependency : String
  /-- The tag that no longer depends on it. -/
  dependent : String
deriving DecidableEq, Repr

namespace DependencyGraph

/-- The cycles that go on from a path. The path is listed from its last node `node` back to `start`,
and goes on over nodes of `free`, of which there are `fuel` at most. -/
def cyclesFrom (successors : Nat → List Nat) (start : Nat) : Nat → List Nat → List Nat → Nat →
    List (List Nat)
  | fuel, free, path, node =>
    (successors node).flatMap fun next =>
      if next = start then [path.reverse]
      else
        match fuel with
        | 0 => []
        | fuel + 1 =>
          if next ∈ free then
            cyclesFrom successors start fuel (free.erase next) (next :: path) next
          else []

/-- The cycles as lists of numbers, by their first member. -/
def indexCycles (g : DependencyGraph) : List (List Nat) :=
  let table := g.successorTable
  (List.range g.size).flatMap fun start =>
    let later := (List.range g.size).filter (start < ·)
    cyclesFrom (lookupIn table) start later.length later [start] start

/-- The cycles as lists of names. -/
def cycles (g : DependencyGraph) : List (List String) := g.indexCycles.map (·.map g.nameOf)

/-- Whether there is a cycle. -/
def hasCycles (g : DependencyGraph) : Bool :=
  let table := g.successorTable
  match Search.run (lookupIn table) g.size (List.range g.size) with
  | .ok _ => false
  | .error _ => true

/-- The edges of a cycle: each member with the one after it, and the last with the first. -/
def edgesOf : List Nat → List (Nat × Nat)
  | [] => []
  | i :: rest => (i :: rest).zip (rest ++ [i])

/-- The edge that leaves the last declared member of a cycle. -/
def lastEdge? (cycle : List Nat) : Option (Nat × Nat) :=
  (edgesOf cycle).find? (·.1 = cycle.foldl max 0)

/-- The graph in which a tag no longer depends on another one. -/
def dropEdge (g : DependencyGraph) (e : RemovedEdge) : DependencyGraph where
  nodes := g.nodes.map fun node =>
    if node.name = e.dependent then
      { node with dependsOn := node.dependsOn.filter (· ≠ e.dependency) }
    else node
  nodup := by
    have h : (g.nodes.map fun node =>
        if node.name = e.dependent then
          { node with dependsOn := node.dependsOn.filter (· ≠ e.dependency) }
        else node).map TagNode.name = g.nodes.map TagNode.name := by
      rw [List.map_map]
      refine List.map_congr_left fun node _ => ?_
      simp only [Function.comp]
      split <;> rfl
    rw [h]
    exact g.nodup

/-- Breaks a cycle, unless one of its edges is already dropped. -/
def breakCycle (state : DependencyGraph × List RemovedEdge) (cycle : List Nat) :
    DependencyGraph × List RemovedEdge :=
  let (g, removed) := state
  if (edgesOf cycle).all fun (i, j) => g.hasEdge i j then
    match lastEdge? cycle with
    | some (i, j) =>
      let e : RemovedEdge := ⟨g.nameOf i, g.nameOf j⟩
      (g.dropEdge e, removed ++ [e])
    | none => state
  else state

/-- The graph without cycles, and the dropped edges. The cycles are broken one after the other, each
at the edge that leaves its last declared member. -/
def removeCycles (g : DependencyGraph) : DependencyGraph × List RemovedEdge :=
  g.indexCycles.foldl breakCycle (g, [])

end DependencyGraph

end TagRules
