import TagRules.Proofs.Dependency.Lost
import TagRules.Proofs.Dependency.Named

/-!
# The order of dependencies does not matter

Two graphs with the same tags, of which each depends on the same names in one graph as in the other,
have the same edges. Cycles are enumerated along the order of declaration, so that the same edges are
dropped in the same order, and a level is a maximum over the dependencies.

* `SameDependencies`: the two graphs differ in the order of dependencies only.
* `SameDependencies.hasEdge_eq`, `SameDependencies.indexCycles_eq`: their edges and cycles.
* `SameDependencies.removeCycles`: the same edges are dropped.
* `SameDependencies.levels_eq_ok_iff`: the levels are the same.
* `SameDeclarations`: two lists of dependencies declare the same names with the same dependencies.
* `ofEdges_determined`: such lists have the same cycles, lose the same edges and get the same levels.
-/

namespace TagRules.DependencyGraph

/-- **Two graphs differ in the order of dependencies only.** -/
structure SameDependencies (g g' : DependencyGraph) : Prop where
  /-- The tags are the same, in the same order. -/
  names : g.names = g'.names
  /-- Each tag depends on the same names. -/
  dependsOn : ∀ i name, name ∈ g.dependsOn i ↔ name ∈ g'.dependsOn i

namespace SameDependencies

variable {g g' : DependencyGraph}

theorem symm (h : SameDependencies g g') : SameDependencies g' g :=
  ⟨h.names.symm, fun i name => (h.dependsOn i name).symm⟩

/-! ### Edges and cycles -/

theorem size_eq (h : SameDependencies g g') : g.size = g'.size := by
  have hlength := congrArg List.length h.names
  simpa [DependencyGraph.names, size] using hlength

theorem nameOf_eq (h : SameDependencies g g') (i : Nat) : g.nameOf i = g'.nameOf i := by
  have hname : ∀ k : DependencyGraph, k.nameOf i = (k.names[i]?).getD "" := fun k => by
    rw [nameOf, DependencyGraph.names, List.getElem?_map]
  rw [hname, hname, h.names]

theorem hasEdge_eq (h : SameDependencies g g') (i j : Nat) : g.hasEdge i j = g'.hasEdge i j := by
  rw [Bool.eq_iff_iff, hasEdge_iff, hasEdge_iff, h.size_eq, h.nameOf_eq, h.dependsOn]

theorem successorTable_eq (h : SameDependencies g g') : g.successorTable = g'.successorTable := by
  have hsuccessors : g.successors = g'.successors := by
    funext i
    rw [successors, successors, h.size_eq]
    exact List.filter_congr fun j _ => h.hasEdge_eq i j
  rw [successorTable, successorTable, h.size_eq, hsuccessors]

/-- The cycles are enumerated in the same order, as the successors of a tag are listed by
declaration. -/
theorem indexCycles_eq (h : SameDependencies g g') : g.indexCycles = g'.indexCycles := by
  rw [indexCycles, indexCycles, h.successorTable_eq, h.size_eq]

/-! ### Breaking cycles -/

theorem without (h : SameDependencies g g') (removed : List RemovedEdge) :
    SameDependencies (g.without removed) (g'.without removed) := by
  refine ⟨by rw [names_without, names_without, h.names], fun i name => ?_⟩
  rw [dependsOn_without, dependsOn_without, List.mem_filter, List.mem_filter, h.dependsOn,
    h.nameOf_eq]

theorem cut_eq (h : SameDependencies g g') : g.cut = g'.cut := by
  have hnamed : g.namedEdge = g'.namedEdge := funext fun e => by
    rw [namedEdge, namedEdge, h.nameOf_eq, h.nameOf_eq]
  funext removed cycle
  rw [cut, cut, hnamed]

/-- **The same edges are dropped**, in the same order. -/
theorem removeCycles (h : SameDependencies g g') :
    SameDependencies g.removeCycles.1 g'.removeCycles.1 ∧
      g.removeCycles.2 = g'.removeCycles.2 := by
  have hremoved : g.removeCycles.2 = g'.removeCycles.2 := by
    rw [removed_eq_foldl_cut, removed_eq_foldl_cut, h.indexCycles_eq, h.cut_eq]
  rw [(removal_removeCycles g).1, (removal_removeCycles g').1, hremoved]
  exact ⟨h.without _, rfl⟩

/-! ### Levels -/

theorem partOf (h : SameDependencies g g') : PartOf g g' := by
  refine ⟨fun node hnode => ?_, fun _ _ name _ hname => h.names ▸ hname⟩
  obtain ⟨i, hi, rfl⟩ := List.mem_iff_getElem.1 hnode
  have hi' : i < g'.nodes.length := Nat.lt_of_lt_of_eq hi h.size_eq
  have hnode := List.getElem?_eq_getElem hi
  have hnode' := List.getElem?_eq_getElem hi'
  refine ⟨g'.nodes[i], List.getElem_mem hi', ?_, fun name => ?_⟩
  · rw [← DependencyGraph.nameOf_eq hnode, ← DependencyGraph.nameOf_eq hnode', h.nameOf_eq]
  · rw [← dependsOn_eq hnode, ← dependsOn_eq hnode', h.dependsOn]

/-- A tag has the same level in both graphs, as its dependencies have. -/
theorem level_eq (h : SameDependencies g g') {levels levels' : List Nat}
    (hlevels : g.levels = .ok levels) (hlevels' : g'.levels = .ok levels') (i : Nat)
    (hi : i < g.size) : level levels i = level levels' i := by
  have hlevel := h.partOf.levelOf_eq hlevels hlevels' (mem_names_iff.2 ⟨i, hi, rfl⟩)
  rwa [levelOf_nameOf hi, h.nameOf_eq, levelOf_nameOf (h.size_eq ▸ hi)] at hlevel

theorem levels_eq_ok (h : SameDependencies g g') {levels : List Nat}
    (hlevels : g.levels = .ok levels) : g'.levels = .ok levels := by
  obtain ⟨levels', hlevels'⟩ := h.symm.partOf.exists_levels hlevels
  have hlength : levels.length = levels'.length := by
    rw [length_levels hlevels, length_levels hlevels', h.size_eq]
  have hsame : levels = levels' := by
    refine List.ext_getElem hlength fun i hi hi' => ?_
    have hlevel := h.level_eq hlevels hlevels' i (length_levels hlevels ▸ hi)
    simpa [level, hi, hi'] using hlevel
  rw [hlevels', hsame]

/-- **The levels are the same**, and are missing in both graphs or in none. -/
theorem levels_eq_ok_iff (h : SameDependencies g g') {levels : List Nat} :
    g.levels = .ok levels ↔ g'.levels = .ok levels :=
  ⟨h.levels_eq_ok, h.symm.levels_eq_ok⟩

end SameDependencies

/-! ### Lists of dependencies -/

variable {edges edges' : List (String × List String)}

/-- **Two lists declare the same dependencies**: the names first occur in the same order, and each
name has the same dependencies, however these are ordered, repeated or spread over entries. -/
structure SameDeclarations (edges edges' : List (String × List String)) : Prop where
  /-- The names first occur in the same order. -/
  names : (edges.map Prod.fst).eraseDups = (edges'.map Prod.fst).eraseDups
  /-- Each name has the same dependencies. -/
  dependencies : ∀ dependency name,
    IsDependency edges dependency name ↔ IsDependency edges' dependency name

theorem mem_dependsOn_ofEdges {i : Nat} {dependency : String} :
    dependency ∈ (ofEdges edges).dependsOn i ↔
      ∃ name, (ofEdges edges).names[i]? = some name ∧ IsDependency edges dependency name := by
  rw [dependsOn, DependencyGraph.names, List.getElem?_map]
  cases hnode : (ofEdges edges).nodes[i]? with
  | none => simp
  | some node =>
    simp only [Option.map_some, Option.getD_some, Option.some.injEq, exists_eq_left',
      dependsOn_of_mem_ofEdges (List.mem_of_getElem? hnode), mem_dependenciesOf]

/-- The graphs of such lists differ in the order of dependencies only. -/
theorem SameDeclarations.sameDependencies (h : SameDeclarations edges edges') :
    SameDependencies (ofEdges edges) (ofEdges edges') := by
  have hnames : (ofEdges edges).names = (ofEdges edges').names := by
    rw [names_ofEdges, names_ofEdges, h.names]
  refine ⟨hnames, fun i dependency => ?_⟩
  rw [mem_dependsOn_ofEdges, mem_dependsOn_ofEdges, hnames]
  exact exists_congr fun name => and_congr_right fun _ => h.dependencies dependency name

/-- **A graph depends on the order of declaration and on sets of dependencies only.** Lists that
agree in these give the same names and the same cycles, in the same order; the same edges are dropped,
in the same order; and then every name has the same level, as there are levels in any case. -/
theorem ofEdges_determined (h : SameDeclarations edges edges') :
    (ofEdges edges).names = (ofEdges edges').names ∧
    (ofEdges edges).cycles = (ofEdges edges').cycles ∧
    (ofEdges edges).removeCycles.2 = (ofEdges edges').removeCycles.2 ∧
    (ofEdges edges).removeCycles.1.names = (ofEdges edges').removeCycles.1.names ∧
    ∃ levels, (ofEdges edges).removeCycles.1.levels = .ok levels ∧
      (ofEdges edges').removeCycles.1.levels = .ok levels := by
  have hsame := h.sameDependencies
  obtain ⟨hleft, hremoved⟩ := hsame.removeCycles
  obtain ⟨levels, hlevels⟩ := exists_levels (not_isCycle_removeCycles (ofEdges edges))
  refine ⟨hsame.names, ?_, hremoved, hleft.names, levels, hlevels, hleft.levels_eq_ok hlevels⟩
  have hnameOf : (ofEdges edges).nameOf = (ofEdges edges').nameOf := funext hsame.nameOf_eq
  rw [cycles, cycles, hsame.indexCycles_eq, hnameOf]

/-- Two circles that meet in one name. -/
def loomEdges : List (String × List String) :=
  [("warp", ["weft", "yarn", "weft"]), ("weft", ["warp"]), ("yarn", ["warp", "wool"])]

/-- The same circles, where the first name is declared in two parts. -/
def spunEdges : List (String × List String) :=
  [("warp", ["yarn"]), ("weft", ["warp", "warp"]), ("warp", ["yarn", "weft"]),
    ("yarn", ["wool", "warp"])]

theorem ofEdges_determined_loomEdges : SameDeclarations loomEdges spunEdges ∧
    (ofEdges loomEdges).cycles = (ofEdges spunEdges).cycles ∧
    (ofEdges loomEdges).removeCycles.2 = (ofEdges spunEdges).removeCycles.2 ∧
    ∃ levels, (ofEdges loomEdges).removeCycles.1.levels = .ok levels ∧
      (ofEdges spunEdges).removeCycles.1.levels = .ok levels := by
  have hsame : SameDeclarations loomEdges spunEdges := by
    refine ⟨by decide, fun dependency name => ?_⟩
    simp only [IsDependency, loomEdges, spunEdges, List.mem_cons, List.not_mem_nil, or_false,
      or_and_right, exists_or, exists_eq_left]
    tauto
  obtain ⟨-, hcycles, hremoved, -, hlevels⟩ := ofEdges_determined hsame
  exact ⟨hsame, hcycles, hremoved, hlevels⟩

example : (ofEdges loomEdges).cycles = [["warp", "weft"], ["warp", "yarn"]] := by decide

end TagRules.DependencyGraph
