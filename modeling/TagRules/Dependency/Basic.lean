import TagRules.TagSet

/-!
# Dependencies between tags

A tag depends on the tags whose presence its rule tests. The nodes of the graph are the declared
tags, numbered in the order of declaration, and an edge leads from a tag to one that depends on it.
A dependency on a name that is not declared is kept, but is no edge.

* `DependencyGraph.ofEdges`, `DependencyGraph.ofTags`: the graph of some dependencies.
* `DependencyGraph.hasEdge`, `DependencyGraph.successors`: its edges.
-/

namespace TagRules

/-- A tag and what it depends on. -/
structure TagNode where
  /-- The name of the tag. -/
  name : String
  /-- The names of the tags that it depends on. -/
  dependsOn : List String
deriving DecidableEq, Repr

/-- The dependencies between tags. -/
structure DependencyGraph where
  /-- The tags in the order of declaration. -/
  nodes : List TagNode
  /-- No two nodes have the same name. -/
  nodup : (nodes.map TagNode.name).Nodup
deriving DecidableEq

namespace DependencyGraph

/-- Dropping what occurs again leaves each item once. -/
theorem nodup_eraseDups {α : Type} [BEq α] [LawfulBEq α] (l : List α) : l.eraseDups.Nodup := by
  match l with
  | [] => simp
  | a :: l =>
    rw [List.eraseDups_cons, List.nodup_cons]
    refine ⟨by simp [List.mem_eraseDups], nodup_eraseDups _⟩
termination_by l.length
decreasing_by
  have := List.length_filter_le (fun b => !b == a) l
  simp only [List.length_cons]
  omega

/-- What a name depends on in a list of dependencies, each once, in the order of first
occurrence. -/
def dependenciesOf (edges : List (String × List String)) (name : String) : List String :=
  ((edges.filter (·.1 = name)).flatMap Prod.snd).eraseDups

/-- The graph of names with what they depend on. A name that occurs again adds to its first
occurrence. -/
def ofEdges (edges : List (String × List String)) : DependencyGraph where
  nodes := (edges.map Prod.fst).eraseDups.map fun name => ⟨name, dependenciesOf edges name⟩
  nodup := by
    simpa [List.map_map, Function.comp_def] using nodup_eraseDups (edges.map Prod.fst)

/-- The graph of the tags of a set. -/
def ofTags (tags : TagSet) : DependencyGraph :=
  ofEdges (tags.tags.map fun t => (t.name, t.dependsOn))

/-- The number of tags. -/
def size (g : DependencyGraph) : Nat := g.nodes.length

/-- The names of the tags. -/
def names (g : DependencyGraph) : List String := g.nodes.map TagNode.name

/-- The number of the tag with a name. -/
def indexOf? (g : DependencyGraph) (name : String) : Option Nat := g.nodes.findIdx? (·.name = name)

/-- The name of a tag. -/
def nameOf (g : DependencyGraph) (i : Nat) : String := ((g.nodes[i]?).map TagNode.name).getD ""

/-- What a tag depends on, if it is declared. -/
def dependsOn? (g : DependencyGraph) (name : String) : Option (List String) :=
  (g.nodes.find? (·.name = name)).map TagNode.dependsOn

/-- What the tag with a number depends on. -/
def dependsOn (g : DependencyGraph) (i : Nat) : List String :=
  ((g.nodes[i]?).map TagNode.dependsOn).getD []

/-- The numbers of the declared tags that a tag depends on. -/
def dependencies (g : DependencyGraph) (i : Nat) : List Nat := (g.dependsOn i).filterMap g.indexOf?

/-- Whether the tag `j` depends on the tag `i`. -/
def hasEdge (g : DependencyGraph) (i j : Nat) : Bool :=
  i < g.size && (g.dependsOn j).contains (g.nameOf i)

/-- The tags that depend on the tag `i`, in the order of declaration. -/
def successors (g : DependencyGraph) (i : Nat) : List Nat :=
  (List.range g.size).filter (g.hasEdge i)

/-- The successors of every tag, worked out once. -/
def successorTable (g : DependencyGraph) : List (List Nat) := (List.range g.size).map g.successors

/-- The successors of a tag in a table. -/
def lookupIn (table : List (List Nat)) (i : Nat) : List Nat := (table[i]?).getD []

theorem lookupIn_successorTable (g : DependencyGraph) {i : Nat} (h : i < g.size) :
    lookupIn g.successorTable i = g.successors i := by
  simp [lookupIn, successorTable, h]

end DependencyGraph

end TagRules
