import TagRules.Proofs.Dependency.Part

/-!
# Dependencies by name

What a list of dependencies says of names. The graph that is made of it numbers the declared names
and drops what is listed again, and keeps all of this.

* `IsDependency`: a name is listed as a dependency of another one.
* `hasEdge_ofEdges`, `isChain_ofEdges`: the edges of the graph are the dependencies between declared
  names.
* `IsSimpleCycle`: a circle of different declared names.
* `isSimpleCycle_ofEdges`: these are the cycles of the graph.
-/

namespace TagRules.DependencyGraph

variable {edges : List (String × List String)}

/-- **A direct dependency**: an entry of a name lists the dependency. -/
def IsDependency (edges : List (String × List String)) (dependency name : String) : Prop :=
  ∃ e ∈ edges, e.1 = name ∧ dependency ∈ e.2

instance (edges : List (String × List String)) (dependency name : String) :
    Decidable (IsDependency edges dependency name) :=
  inferInstanceAs (Decidable (∃ e ∈ edges, e.1 = name ∧ dependency ∈ e.2))

/-- A name that depends on another one is declared. -/
theorem IsDependency.declared {dependency name : String} (h : IsDependency edges dependency name) :
    name ∈ edges.map Prod.fst := by
  obtain ⟨e, he, rfl, -⟩ := h
  exact List.mem_map_of_mem he

/-! ### The graph of a list of dependencies -/

theorem mem_dependenciesOf {dependency name : String} :
    dependency ∈ dependenciesOf edges name ↔ IsDependency edges dependency name := by
  simp only [dependenciesOf, List.mem_eraseDups, List.mem_flatMap, List.mem_filter,
    decide_eq_true_eq, IsDependency, and_assoc]

theorem names_ofEdges : (ofEdges edges).names = (edges.map Prod.fst).eraseDups := by
  simp [names, ofEdges, Function.comp_def]

theorem mem_names_ofEdges {name : String} :
    name ∈ (ofEdges edges).names ↔ name ∈ edges.map Prod.fst := by
  rw [names_ofEdges, List.mem_eraseDups]

theorem dependsOn_of_mem_ofEdges {node : TagNode} (h : node ∈ (ofEdges edges).nodes) :
    node.dependsOn = dependenciesOf edges node.name := by
  obtain ⟨name, -, rfl⟩ := List.mem_map.1 h
  rfl

/-- **The edges of the graph** are the dependencies between declared names. -/
theorem hasEdge_ofEdges {i j : Nat} (hi : i < (ofEdges edges).size) (hj : j < (ofEdges edges).size) :
    (ofEdges edges).hasEdge i j = true ↔
      IsDependency edges ((ofEdges edges).nameOf i) ((ofEdges edges).nameOf j) := by
  have hnode : (ofEdges edges).nodes[j]? = some (ofEdges edges).nodes[j] :=
    List.getElem?_eq_getElem hj
  rw [hasEdge_iff, dependsOn_eq hnode, dependsOn_of_mem_ofEdges (List.mem_of_getElem? hnode),
    ← nameOf_eq hnode, mem_dependenciesOf]
  exact and_iff_right hi

theorem isChain_ofEdges {l : List Nat} (hlt : ∀ i ∈ l, i < (ofEdges edges).size) :
    (l.IsChain fun i j => (ofEdges edges).hasEdge i j = true) ↔
      (l.map (ofEdges edges).nameOf).IsChain (IsDependency edges) := by
  rw [List.isChain_map]
  constructor
  · exact fun h => (List.IsChain.iff_mem.1 h).imp fun i j ⟨hi, hj, hedge⟩ =>
      (hasEdge_ofEdges (hlt i hi) (hlt j hj)).1 hedge
  · exact fun h => (List.IsChain.iff_mem.1 h).imp fun i j ⟨hi, hj, hdependency⟩ =>
      (hasEdge_ofEdges (hlt i hi) (hlt j hj)).2 hdependency

/-! ### Cycles -/

/-- **A simple cycle of names**: different declared names, each of which is a dependency of the next
one, and the last one of the first. -/
structure IsSimpleCycle (edges : List (String × List String)) (cycle : List String) : Prop where
  declared : ∀ name ∈ cycle, name ∈ edges.map Prod.fst
  nodup : cycle.Nodup
  closed : ∃ first rest, cycle = first :: rest ∧
    (first :: (rest ++ [first])).IsChain (IsDependency edges)

theorem isSimpleCycle_cons_iff {first : String} {rest : List String} :
    IsSimpleCycle edges (first :: rest) ↔ (∀ name ∈ first :: rest, name ∈ edges.map Prod.fst) ∧
      (first :: rest).Nodup ∧ (first :: (rest ++ [first])).IsChain (IsDependency edges) := by
  constructor
  · rintro ⟨hdeclared, hnodup, _, _, heq, hchain⟩
    cases heq
    exact ⟨hdeclared, hnodup, hchain⟩
  · rintro ⟨hdeclared, hnodup, hchain⟩
    exact ⟨hdeclared, hnodup, _, _, rfl, hchain⟩

/-- Declared names have numbers. -/
theorem exists_map_nameOf {g : DependencyGraph} {l : List String} (h : ∀ name ∈ l, name ∈ g.names) :
    ∃ numbers : List Nat, (∀ i ∈ numbers, i < g.size) ∧ numbers.map g.nameOf = l := by
  induction l with
  | nil => exact ⟨[], by simp, rfl⟩
  | cons name l ih =>
    obtain ⟨hname, hl⟩ := List.forall_mem_cons.1 h
    obtain ⟨i, hi, rfl⟩ := mem_names_iff.1 hname
    obtain ⟨numbers, hnumbers, rfl⟩ := ih hl
    exact ⟨i :: numbers, List.forall_mem_cons.2 ⟨hi, hnumbers⟩, rfl⟩

/-- Different numbers have different names. -/
theorem nodup_map_nameOf {g : DependencyGraph} {l : List Nat} (hlt : ∀ i ∈ l, i < g.size) :
    (l.map g.nameOf).Nodup ↔ l.Nodup :=
  ⟨List.Nodup.of_map _, List.Nodup.map_on fun i hi j hj => nameOf_inj (hlt i hi) (hlt j hj)⟩

/-- **The cycles of the graph are the simple cycles of names.** -/
theorem isSimpleCycle_ofEdges {cycle : List Nat} (hlt : ∀ i ∈ cycle, i < (ofEdges edges).size) :
    IsSimpleCycle edges (cycle.map (ofEdges edges).nameOf) ↔ (ofEdges edges).IsCycle cycle := by
  cases cycle with
  | nil =>
    constructor
    · rintro ⟨-, -, first, rest, heq, -⟩
      cases heq
    · exact fun h => absurd rfl h.1
  | cons start rest =>
    have hdeclared : ∀ name ∈ (start :: rest).map (ofEdges edges).nameOf, name ∈ edges.map Prod.fst := by
      intro name hname
      obtain ⟨i, hi, rfl⟩ := List.mem_map.1 hname
      exact mem_names_ofEdges.1 (mem_names_iff.2 ⟨i, hlt i hi, rfl⟩)
    have hround : ∀ i ∈ start :: (rest ++ [start]), i < (ofEdges edges).size := fun i hi =>
      hlt i (by simpa [or_comm, or_assoc] using hi)
    have hchain := isChain_ofEdges hround
    have hnodup := nodup_map_nameOf hlt
    simp only [List.map_cons, List.map_append, List.map_nil] at hchain hnodup hdeclared ⊢
    rw [isSimpleCycle_cons_iff, isCycle_cons_iff, hnodup, hchain]
    exact and_iff_right hdeclared

/-- A simple cycle of names, as a cycle of the graph. -/
theorem IsSimpleCycle.exists_isCycle {cycle : List String} (h : IsSimpleCycle edges cycle) :
    ∃ numbers, (ofEdges edges).IsCycle numbers ∧ numbers.map (ofEdges edges).nameOf = cycle := by
  obtain ⟨numbers, hlt, rfl⟩ :=
    exists_map_nameOf fun name hname => mem_names_ofEdges.2 (h.declared name hname)
  exact ⟨numbers, (isSimpleCycle_ofEdges hlt).1 h, rfl⟩

end TagRules.DependencyGraph
