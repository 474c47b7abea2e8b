import TagRules.Dependency.Cycles

/-!
# Levels

A tag without dependencies has level 0, and any other tag one more than the highest level among
its dependencies, where a name that is not declared has level 0.

* `DependencyGraph.levels`: the level of every tag, or a circle of dependencies.
* `DependencyGraph.levelOrder`: the tags by level.
-/

namespace TagRules

/-- What a tag depends on, and its level. -/
structure DependencyInfo where
  /-- The names of the tags that it depends on. -/
  dependsOn : List String
  /-- The level. -/
  level : Nat
deriving DecidableEq, Repr

namespace DependencyGraph

/-- The level in a table; a tag that is not in it has level 0. -/
def levelIn (table : List (Nat × Nat)) (i : Nat) : Nat := (table.lookup i).getD 0

/-- The level of a tag whose dependencies have their levels in a table. -/
def levelAfter (g : DependencyGraph) (table : List (Nat × Nat)) (i : Nat) : Nat :=
  ((g.dependsOn i).map fun name => ((g.indexOf? name).map (levelIn table)).getD 0 + 1).foldl max 0

/-- The levels of tags that are listed with their dependencies before them. -/
def levelTable (g : DependencyGraph) (order : List Nat) : List (Nat × Nat) :=
  order.foldl (fun table i => (i, g.levelAfter table i) :: table) []

/-- The tags with their dependencies before them, or a circle of dependencies. -/
def buildOrder (g : DependencyGraph) : Except PlanError (List Nat) :=
  match Search.run g.dependencies g.size (List.range g.size) with
  | .ok done => .ok done.reverse
  | .error circle => .error (.cyclicDependency (circle.map g.nameOf))

/-- The levels of the tags, in the order of declaration. -/
def levels (g : DependencyGraph) : Except PlanError (List Nat) := do
  let order ← g.buildOrder
  let table := g.levelTable order
  return (List.range g.size).map (levelIn table)

/-- The tags with their levels, by level and then by declaration. -/
def levelOrder (g : DependencyGraph) : Except PlanError (List (Nat × Nat)) := do
  let levels ← g.levels
  return ((List.range g.size).zip levels).mergeSort fun a b => a.2 ≤ b.2

/-- The names of the tags with what they depend on and their levels. -/
def resolve (g : DependencyGraph) : Except PlanError (List (String × DependencyInfo)) := do
  let levels ← g.levels
  return List.zipWith (fun node level => (node.name, ⟨node.dependsOn, level⟩)) g.nodes levels

end DependencyGraph

end TagRules
