import Mathlib.Data.List.NodupEquivFin
import Mathlib.Data.Set.List
import TagRules.Proofs.Dependency.Enumeration
import TagRules.Proofs.Dependency.Lost
import TagRules.Proofs.Dependency.Part

/-!
# Graphs that are extended by further tags

When further tags are declared on which none of the old ones depends, the numbers of the old tags
change, but not their order, and no cycle leads from an old tag to a further one. So the cycles of
the old tags are listed and broken as before.

* `ExtendedBy`: a graph, and the one with the further tags.
* `Places`: the numbers of the old tags in the extended graph.
* `Places.filter_indexCycles`: the cycles of old tags are listed as before, in the same order.
* `Places.filter_foldl_cut`: the loop over the cycles, as the old tags see it.
* `ExtendedBy.filter_removed`: between old tags, the same edges are lost in the same order.
* `ExtendedBy.partOf_removeCycles`: old tags depend on the same names when the cycles are broken.
-/

namespace TagRules

/-- Both ends of an edge have one of some names. -/
def RemovedEdge.Between (names : List String) (e : RemovedEdge) : Prop :=
  e.dependency ∈ names ∧ e.dependent ∈ names

instance (names : List String) (e : RemovedEdge) : Decidable (e.Between names) :=
  inferInstanceAs (Decidable (_ ∧ _))

namespace DependencyGraph

variable {g g' : DependencyGraph} {place : Nat → Nat}

/-! ### Further tags -/

/-- **A graph extended by further tags**, on which none of its own depends. They may stand anywhere,
and depend on anything. -/
structure ExtendedBy (g g' : DependencyGraph) : Prop where
  sublist : g.nodes.Sublist g'.nodes
  closed : ∀ node ∈ g.nodes, ∀ name ∈ node.dependsOn, name ∈ g'.names → name ∈ g.names

/-- **The places of the tags of a graph in another one**, which has the same tags there, and no edge
that leads to one of them from elsewhere. -/
structure Places (g g' : DependencyGraph) (place : Nat → Nat) : Prop where
  strictMono : StrictMono place
  node : ∀ i, g.nodes[i]? = g'.nodes[place i]?
  closed : ∀ i j, g'.hasEdge i (place j) = true → i ∈ Set.range place

namespace Places

variable (h : Places g g' place)

include h

theorem nameOf (i : Nat) : g'.nameOf (place i) = g.nameOf i := by
  rw [DependencyGraph.nameOf, DependencyGraph.nameOf, h.node]

theorem dependsOn (i : Nat) : g'.dependsOn (place i) = g.dependsOn i := by
  rw [DependencyGraph.dependsOn, DependencyGraph.dependsOn, h.node]

theorem lt_size {i : Nat} : place i < g'.size ↔ i < g.size := by
  rw [size, size, ← not_le, ← not_le, ← List.getElem?_eq_none_iff, ← List.getElem?_eq_none_iff,
    h.node]

theorem hasEdge {i j : Nat} : g'.hasEdge (place i) (place j) = true ↔ g.hasEdge i j = true := by
  rw [hasEdge_iff, hasEdge_iff, h.lt_size, h.nameOf, h.dependsOn]

/-- The names of the graph are those of the tags at these places. -/
theorem nameOf_mem_iff {i : Nat} (hi : i < g'.size) :
    g'.nameOf i ∈ g.names ↔ i ∈ Set.range place := by
  constructor
  · intro hmem
    obtain ⟨j, hj, hname⟩ := mem_names_iff.1 hmem
    refine ⟨j, nameOf_inj (h.lt_size.2 hj) hi ?_⟩
    rw [h.nameOf, hname]
  · rintro ⟨j, rfl⟩
    rw [h.nameOf]
    exact mem_names_iff.2 ⟨j, h.lt_size.1 hi, rfl⟩

end Places

theorem ExtendedBy.exists_places (h : ExtendedBy g g') : ∃ place, Places g g' place := by
  obtain ⟨place, hnode⟩ := List.sublist_iff_exists_orderEmbedding_getElem?_eq.1 h.sublist
  refine ⟨place, place.strictMono, hnode, fun i j hedge => ?_⟩
  obtain ⟨hi, hj⟩ := lt_size_of_hasEdge hedge
  obtain ⟨node, hget⟩ : ∃ node, g.nodes[j]? = some node := by
    rw [hnode]
    exact ⟨_, List.getElem?_eq_getElem hj⟩
  -- The edge comes from a name that the tag at `place j` depends on, so from one of the graph.
  have hdepends : g'.nameOf i ∈ node.dependsOn := by
    rw [← dependsOn_eq (hnode j ▸ hget)]
    exact (hasEdge_iff.1 hedge).2
  obtain ⟨k, hk, hname⟩ := mem_names_iff.1
    (h.closed node (List.mem_of_getElem? hget) _ hdepends (mem_names_iff.2 ⟨i, hi, rfl⟩))
  have hk' : g'.nodes[place k]? = some g.nodes[k] :=
    (hnode k).symm.trans (List.getElem?_eq_getElem hk)
  refine ⟨k, nameOf_inj (List.getElem?_eq_some_iff.1 hk').1 hi ?_⟩
  rw [← hname, nameOf_eq hk', nameOf_eq (List.getElem?_eq_getElem hk)]

/-! ### Cycles -/

theorem edgesOf_map (f : Nat → Nat) (cycle : List Nat) :
    edgesOf (cycle.map f) = (edgesOf cycle).map (Prod.map f f) := by
  cases cycle with
  | nil => rfl
  | cons i rest =>
    rw [edgesOf, ← List.zip_map, List.map_append]
    rfl

theorem foldl_max_map {f : Nat → Nat} (hf : Monotone f) (l : List Nat) (i : Nat) :
    (l.map f).foldl max (f i) = f (l.foldl max i) := by
  induction l generalizing i with
  | nil => rfl
  | cons j l ih => rw [List.map_cons, List.foldl_cons, List.foldl_cons, ← hf.map_max, ih]

/-- Renumbering in the same order leaves the latest member of a cycle the latest. -/
theorem lastEdge?_map {f : Nat → Nat} (hf : StrictMono f) (cycle : List Nat) :
    lastEdge? (cycle.map f) = (lastEdge? cycle).map (Prod.map f f) := by
  cases cycle with
  | nil => rfl
  | cons i rest =>
    have hmax : ∀ l : List Nat, ∀ j, (j :: l).foldl max 0 = l.foldl max j := fun l j => by
      rw [List.foldl_cons, Nat.zero_max]
    have hlatest : ((i :: rest).map f).foldl max 0 = f ((i :: rest).foldl max 0) := by
      rw [List.map_cons, hmax, hmax, foldl_max_map hf.monotone]
    rw [lastEdge?, lastEdge?, edgesOf_map, List.find?_map, hlatest]
    congr 2
    funext e
    simp [hf.injective.eq_iff]

namespace Places

variable (h : Places g g' place)

include h

/-- The cycles of the graph are cycles of the other one, at their places. -/
theorem isCycle_map_iff {cycle : List Nat} : g'.IsCycle (cycle.map place) ↔ g.IsCycle cycle := by
  unfold IsCycle
  rw [edgesOf_map, List.forall_mem_map, List.nodup_map_iff h.strictMono.injective]
  simp only [ne_eq, List.map_eq_nil_iff, Prod.map_fst, Prod.map_snd, h.hasEdge]

/-- **A cycle that passes one of the places stays at them**, as no edge leads there from
elsewhere. -/
theorem mem_range_of_isCycle {cycle : List Nat} (hcycle : g'.IsCycle cycle) {i : Nat}
    (hi : place i ∈ cycle) : ∀ j ∈ cycle, j ∈ Set.range place := by
  cases cycle with
  | nil => cases hi
  | cons start rest =>
    have hchain := (isCycle_cons_iff.1 hcycle).2
    have hcarries : ∀ x y, g'.hasEdge x y = true → y ∈ Set.range place → x ∈ Set.range place := by
      rintro x y hedge ⟨j, rfl⟩
      exact h.closed x j hedge
    -- The start leads to the place that is passed, and all members lead to the start.
    have hstart : start ∈ Set.range place := by
      rcases List.mem_cons.1 hi with hi | hi
      · exact ⟨i, hi⟩
      · obtain ⟨before, after, rfl⟩ := List.append_of_mem hi
        have hbefore : (start :: before ++ [place i]).IsChain fun x y => g'.hasEdge x y = true :=
          hchain.infix ⟨[], after ++ [start], by simp⟩
        exact hbefore.backwards_concat_induction _ _ hcarries ⟨i, rfl⟩ start List.mem_cons_self
    exact List.IsChain.backwards_concat_induction _ _ hchain hcarries hstart

/-- A cycle with an old tag has old tags only. -/
theorem nameOf_mem_of_isCycle {cycle : List Nat} (hcycle : g'.IsCycle cycle) {i : Nat}
    (hi : i ∈ cycle) (hname : g'.nameOf i ∈ g.names) : ∀ j ∈ cycle, g'.nameOf j ∈ g.names := by
  obtain ⟨k, rfl⟩ := (h.nameOf_mem_iff (hcycle.lt_size i hi)).1 hname
  exact fun j hj =>
    (h.nameOf_mem_iff (hcycle.lt_size j hj)).2 (h.mem_range_of_isCycle hcycle hi j hj)

theorem map_mem_indexCycles_iff {cycle : List Nat} :
    cycle.map place ∈ g'.indexCycles ↔ cycle ∈ g.indexCycles := by
  rw [mem_indexCycles, mem_indexCycles]
  cases cycle with
  | nil => simp
  | cons start rest =>
    have hcycle : g'.IsCycle ((start :: rest).map place) ↔ g.IsCycle (start :: rest) :=
      h.isCycle_map_iff
    rw [List.map_cons] at hcycle
    simp [hcycle, h.strictMono.lt_iff_lt]

/-- **The cycles of old tags are listed as before**, in the same order: both lists are in
lexicographic order, which the places keep, and have the same members. -/
theorem filter_indexCycles :
    g'.indexCycles.filter (fun cycle => ∀ i ∈ cycle, g'.nameOf i ∈ g.names) =
      g.indexCycles.map (List.map place) := by
  refine (g'.pairwise_indexCycles.filter _).eq_of_mem_iff ((g.pairwise_indexCycles).map _
    fun _ _ => List.map_lt fun _ _ => @h.strictMono _ _) fun cycle => ?_
  rw [List.mem_filter, decide_eq_true_eq, List.mem_map]
  constructor
  · rintro ⟨hlisted, hall⟩
    have hrange : cycle ∈ Set.range (List.map place) := by
      rw [Set.range_list_map]
      have hlt := (isCycle_of_mem_indexCycles hlisted).lt_size
      exact fun i hi => (h.nameOf_mem_iff (hlt i hi)).1 (hall i hi)
    obtain ⟨c, rfl⟩ := hrange
    exact ⟨c, h.map_mem_indexCycles_iff.1 hlisted, rfl⟩
  · rintro ⟨c, hc, rfl⟩
    refine ⟨h.map_mem_indexCycles_iff.2 hc, List.forall_mem_map.2 fun i hi => ?_⟩
    rw [h.nameOf]
    exact mem_names_iff.2 ⟨i, (isCycle_of_mem_indexCycles hc).lt_size i hi, rfl⟩

end Places

/-! ### Lost edges -/

namespace Places

variable (h : Places g g' place)

include h

theorem namedEdge (e : Nat × Nat) : g'.namedEdge (e.map place place) = g.namedEdge e := by
  rw [DependencyGraph.namedEdge, DependencyGraph.namedEdge, Prod.map_fst, Prod.map_snd, h.nameOf,
    h.nameOf]

/-- A cycle at the places loses the edge that it loses in the graph. -/
theorem cut_map (removed : List RemovedEdge) (cycle : List Nat) :
    g'.cut removed (cycle.map place) = g.cut removed cycle := by
  have hnamed : g'.namedEdge ∘ Prod.map place place = g.namedEdge := funext h.namedEdge
  rw [cut, cut, edgesOf_map, lastEdge?_map h.strictMono, Option.map_map, hnamed]
  simp only [List.forall_mem_map, h.namedEdge]

/-- **One step of the loop, as the old tags see it**: a cycle of old tags is broken as if there were
no others, and any other cycle loses an edge that does not lead from an old tag. -/
theorem filter_cut {cycle : List Nat} (hcycle : g'.IsCycle cycle) (removed : List RemovedEdge) :
    (g'.cut removed cycle).filter (·.Between g.names) =
      if ∀ i ∈ cycle, g'.nameOf i ∈ g.names then g'.cut (removed.filter (·.Between g.names)) cycle
      else removed.filter (·.Between g.names) := by
  obtain ⟨i, j, hlast, hmem, -⟩ := exists_lastEdge? hcycle.1
  split
  · rename_i hall
    have hbetween : ∀ e ∈ edgesOf cycle, (g'.namedEdge e).Between g.names := fun e he =>
      ⟨hall _ (mem_of_mem_edgesOf he).1, hall _ (mem_of_mem_edgesOf he).2⟩
    have hkept : (∀ e ∈ edgesOf cycle, g'.namedEdge e ∉ removed.filter (·.Between g.names)) ↔
        ∀ e ∈ edgesOf cycle, g'.namedEdge e ∉ removed := by
      refine forall₂_congr fun e he => not_congr ?_
      rw [List.mem_filter, decide_eq_true_eq, and_iff_left (hbetween e he)]
    simp only [cut, hkept, hlast]
    split
    · simp [hbetween _ hmem]
    · rfl
  · rename_i hsome
    -- The lost edge leads from a member of the cycle, and none of these is an old tag.
    have hnot : ¬(g'.namedEdge (i, j)).Between g.names := fun hbetween =>
      hsome (h.nameOf_mem_of_isCycle hcycle (mem_of_mem_edgesOf hmem).1 hbetween.1)
    simp only [cut, hlast]
    split
    · simp [hnot]
    · rfl

/-- **All steps of the loop**, as the old tags see them. -/
theorem filter_foldl_cut {cycles : List (List Nat)} :
    ∀ {removed : List RemovedEdge}, (∀ cycle ∈ cycles, g'.IsCycle cycle) →
      (cycles.foldl g'.cut removed).filter (·.Between g.names) =
        (cycles.filter fun cycle => ∀ i ∈ cycle, g'.nameOf i ∈ g.names).foldl g'.cut
          (removed.filter (·.Between g.names)) := by
  induction cycles with
  | nil => exact fun _ => rfl
  | cons cycle cycles ih =>
    intro removed hcycles
    obtain ⟨hcycle, hcycles⟩ := List.forall_mem_cons.1 hcycles
    rw [List.foldl_cons, ih hcycles, h.filter_cut hcycle, List.filter_cons]
    simp only [decide_eq_true_eq]
    split <;> rfl

end Places

/-- **Between old tags, the same edges are lost**, in the same order. -/
theorem ExtendedBy.filter_removed (h : ExtendedBy g g') :
    g'.removeCycles.2.filter (·.Between g.names) = g.removeCycles.2 := by
  obtain ⟨place, hplaces⟩ := h.exists_places
  calc g'.removeCycles.2.filter (·.Between g.names)
      = (g'.indexCycles.foldl g'.cut []).filter (·.Between g.names) := by rw [removed_eq_foldl_cut]
    _ = (g.indexCycles.map (List.map place)).foldl g'.cut [] := by
        rw [hplaces.filter_foldl_cut fun _ => isCycle_of_mem_indexCycles,
          hplaces.filter_indexCycles, List.filter_nil]
    _ = g.indexCycles.foldl g.cut [] := by
        rw [List.foldl_map]
        simp only [hplaces.cut_map]
    _ = g.removeCycles.2 := (removed_eq_foldl_cut g).symm

theorem dependency_mem_names {e : RemovedEdge} (h : e ∈ g.removeCycles.2) :
    e.dependency ∈ g.names := by
  obtain ⟨cycle, hc, i, j, hmem, -, rfl⟩ := (removal_removeCycles g).2.onCycle e h
  exact mem_names_iff.2
    ⟨i, (isCycle_of_mem_indexCycles hc).lt_size i (mem_of_mem_edgesOf hmem).1, rfl⟩

/-- **When the cycles are broken, the graph is part of the extended one**: old tags depend on the
same names in both. -/
theorem ExtendedBy.partOf_removeCycles (h : ExtendedBy g g') :
    PartOf g.removeCycles.1 g'.removeCycles.1 where
  node := by
    intro node hnode
    rw [(removal_removeCycles g).1] at hnode
    rw [(removal_removeCycles g').1]
    obtain ⟨old, hold, rfl⟩ := List.mem_map.1 hnode
    refine ⟨_, List.mem_map_of_mem (h.sublist.subset hold), rfl, fun name => ?_⟩
    simp only [List.mem_filter, decide_eq_true_eq]
    -- What an old tag loses in the extended graph has the name of an old tag.
    refine and_congr_right fun hname => not_congr ?_
    rw [← h.filter_removed, List.mem_filter, decide_eq_true_eq, iff_self_and]
    exact fun hlost => ⟨h.closed old hold name hname (dependency_mem_names hlost),
      List.mem_map_of_mem hold⟩
  closed := by
    intro node hnode name hname
    rw [(removal_removeCycles g).1] at hnode
    obtain ⟨old, hold, rfl⟩ := List.mem_map.1 hnode
    rw [names_removeCycles, names_removeCycles]
    exact h.closed old hold name (List.mem_of_mem_filter hname)

end DependencyGraph

end TagRules
