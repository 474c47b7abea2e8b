import TagRules.Proofs.Dependency.Declared

/-!
# Levels by name, and parts of a graph

The level of a tag depends on its dependencies, and on theirs, but not on the place at which a tag
is declared, and not on tags that it never leads to.

* `levelOf`: the level of a name, where a name that is not declared has level 0.
* `levelOf_eq`, `levelOf_lt`: the rule for levels, by name.
* `zip_levels_eq`: the tags of a set with their levels.
* `PartOf`: a graph whose tags depend on the same names in another graph.
* `PartOf.levelOf_eq`: the tags of a part have the same levels in the other graph.
-/

namespace TagRules.DependencyGraph

variable {g g' : DependencyGraph} {levels levels' : List Nat}

/-! ### Levels by name -/

/-- The level of a name: that of the tag with this name, and 0 if there is none. -/
def levelOf (g : DependencyGraph) (levels : List Nat) (name : String) : Nat :=
  ((g.indexOf? name).map (level levels)).getD 0

theorem mem_names_iff {name : String} : name ∈ g.names ↔ ∃ i < g.size, g.nameOf i = name := by
  rw [names, List.mem_map]
  constructor
  · rintro ⟨node, hnode, rfl⟩
    obtain ⟨i, hi, rfl⟩ := List.mem_iff_getElem.1 hnode
    exact ⟨i, hi, nameOf_eq (List.getElem?_eq_getElem hi)⟩
  · rintro ⟨i, hi, rfl⟩
    have hi' : g.nodes[i]? = some g.nodes[i] := List.getElem?_eq_getElem hi
    exact ⟨g.nodes[i], List.getElem_mem hi, (nameOf_eq hi').symm⟩

theorem levelOf_nameOf {i : Nat} (hi : i < g.size) :
    g.levelOf levels (g.nameOf i) = level levels i := by
  rw [levelOf, indexOf?_eq_some_iff.2 ⟨hi, rfl⟩]
  rfl

theorem levelOf_of_not_mem {name : String} (h : name ∉ g.names) : g.levelOf levels name = 0 := by
  have hnone : g.indexOf? name = none := by
    rw [Option.eq_none_iff_forall_ne_some]
    intro i hi
    exact h (mem_names_iff.2 ⟨i, indexOf?_eq_some_iff.1 hi⟩)
  rw [levelOf, hnone]
  rfl

/-- **The rule for levels, by name.** -/
theorem levelOf_eq (h : g.levels = .ok levels) {node : TagNode} (hnode : node ∈ g.nodes) :
    g.levelOf levels node.name =
      (node.dependsOn.map fun name => g.levelOf levels name + 1).foldl max 0 := by
  obtain ⟨i, hi, rfl⟩ := List.mem_iff_getElem.1 hnode
  have hi' : g.nodes[i]? = some g.nodes[i] := List.getElem?_eq_getElem hi
  rw [← nameOf_eq hi', levelOf_nameOf hi, level_eq h hi, dependsOn_eq hi']
  rfl

/-- A tag has a higher level than every name that it depends on. -/
theorem levelOf_lt (h : g.levels = .ok levels) {node : TagNode} (hnode : node ∈ g.nodes)
    {name : String} (hname : name ∈ node.dependsOn) :
    g.levelOf levels name < g.levelOf levels node.name := by
  have hmem : g.levelOf levels name + 1 ∈
      node.dependsOn.map fun name => g.levelOf levels name + 1 := List.mem_map_of_mem hname
  have hle := (le_foldl_max _ 0).2 _ hmem
  rw [levelOf_eq h hnode]
  omega

/-- The levels are listed in the order of declaration. -/
theorem map_levelOf_names (hlength : levels.length = g.size) :
    g.names.map (g.levelOf levels) = levels := by
  refine List.ext_getElem? fun i => ?_
  rw [List.getElem?_map]
  by_cases hi : i < g.size
  · rw [getElem?_names hi, Option.map_some, levelOf_nameOf hi, level,
      List.getElem?_eq_getElem (hlength ▸ hi)]
    rfl
  · rw [List.getElem?_eq_none (length_names g ▸ Nat.le_of_not_lt hi),
      List.getElem?_eq_none (hlength ▸ Nat.le_of_not_lt hi)]
    rfl

/-- The tags of a set with their levels. -/
theorem zip_levels_eq {tags : TagSet} (hnames : g.names = tags.names)
    (hlength : levels.length = g.size) :
    tags.tags.zip levels = tags.tags.map fun t => (t, g.levelOf levels t.name) := by
  have hlevels : levels = tags.tags.map fun t => g.levelOf levels t.name := by
    have hmap := map_levelOf_names hlength
    rw [hnames, TagSet.names, List.map_map] at hmap
    exact hmap.symm
  calc tags.tags.zip levels
      = (tags.tags.map id).zip (tags.tags.map fun t => g.levelOf levels t.name) := by
        rw [← hlevels, List.map_id]
    _ = tags.tags.map fun t => (t, g.levelOf levels t.name) := List.zip_map'

/-! ### Parts -/

theorem foldl_max_le {l m : List Nat} (h : ∀ n ∈ l, n ∈ m) : l.foldl max 0 ≤ m.foldl max 0 := by
  rcases foldl_max_mem l 0 with hzero | hmem
  · rw [hzero]
    exact Nat.zero_le _
  · exact (le_foldl_max m 0).2 _ (h _ hmem)

/-- The largest of some numbers does not depend on their order. -/
theorem foldl_max_congr {l m : List Nat} (h : ∀ n, n ∈ l ↔ n ∈ m) :
    l.foldl max 0 = m.foldl max 0 :=
  Nat.le_antisymm (foldl_max_le fun n => (h n).1) (foldl_max_le fun n => (h n).2)

/-- **A graph is part of another one**: the other one has its tags, which depend on the same names
there, and on no tag that only the other one has. -/
structure PartOf (g g' : DependencyGraph) : Prop where
  node : ∀ node ∈ g.nodes, ∃ node' ∈ g'.nodes, node'.name = node.name ∧
    ∀ name, name ∈ node'.dependsOn ↔ name ∈ node.dependsOn
  closed : ∀ node ∈ g.nodes, ∀ name ∈ node.dependsOn, name ∈ g'.names → name ∈ g.names

/-- **The tags of a part have the same levels in the other graph.** -/
theorem PartOf.levelOf_eq (h : PartOf g g') (hlevels : g.levels = .ok levels)
    (hlevels' : g'.levels = .ok levels') {name : String} (hname : name ∈ g.names) :
    g.levelOf levels name = g'.levelOf levels' name := by
  -- A dependency has a smaller level, so the levels of both graphs are compared from below.
  induction hn : g.levelOf levels name using Nat.strong_induction_on generalizing name with
  | _ n ih =>
    obtain ⟨node, hnode, rfl⟩ := List.mem_map.1 hname
    obtain ⟨node', hnode', hsame, hdepends⟩ := h.node node hnode
    have hlower : ∀ d ∈ node.dependsOn, g.levelOf levels d = g'.levelOf levels' d := by
      intro d hd
      by_cases hmem : d ∈ g.names
      · exact ih _ (hn ▸ levelOf_lt hlevels hnode hd) hmem rfl
      · rw [levelOf_of_not_mem hmem,
          levelOf_of_not_mem fun hmem' => hmem (h.closed node hnode d hd hmem')]
    rw [← hn, DependencyGraph.levelOf_eq hlevels hnode, ← hsame,
      DependencyGraph.levelOf_eq hlevels' hnode']
    refine foldl_max_congr fun m => ?_
    rw [List.mem_map, List.mem_map]
    refine exists_congr fun d => ?_
    rw [hdepends d]
    exact and_congr_right fun hd => by rw [hlower d hd]

/-- A part of a graph with levels has levels. -/
theorem PartOf.exists_levels (h : PartOf g g') (hlevels' : g'.levels = .ok levels') :
    ∃ levels, g.levels = .ok levels := by
  have hrises : ∀ i j, g.hasEdge i j = true →
      g'.levelOf levels' (g.nameOf i) < g'.levelOf levels' (g.nameOf j) := by
    intro i j hedge
    obtain ⟨node, hnode⟩ : ∃ node, g.nodes[j]? = some node :=
      ⟨_, List.getElem?_eq_getElem (lt_size_of_hasEdge hedge).2⟩
    obtain ⟨node', hnode', hname, hsame⟩ := h.node node (List.mem_of_getElem? hnode)
    have hdepends : g.nameOf i ∈ node'.dependsOn := by
      rw [hsame, ← dependsOn_eq hnode]
      exact (hasEdge_iff.1 hedge).2
    rw [nameOf_eq hnode, ← hname]
    exact levelOf_lt hlevels' hnode' hdepends
  exact DependencyGraph.exists_levels (not_isCycle_of_rank hrises)

/-- The order of declaration does not matter to be a part. -/
theorem partOf_of_perm (h : g.nodes.Perm g'.nodes) : PartOf g g' :=
  ⟨fun node hnode => ⟨node, h.mem_iff.1 hnode, rfl, fun _ => Iff.rfl⟩,
    fun _ _ _ _ hname => (h.map TagNode.name).mem_iff.2 hname⟩

end TagRules.DependencyGraph
