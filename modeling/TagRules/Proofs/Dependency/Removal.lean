import TagRules.Proofs.Dependency.Cycle

/-!
# Breaking the cycles

The cycles are listed once and then broken one after the other, while the graph loses edges.

* `without`: the graph that has lost some edges; every state of the loop is of this form.
* `Removal`: the invariant of the loop, kept by `breakCycle_spec` and shown by `removal_removeCycles`
  to hold at its end.
* `not_isCycle_removeCycles`: no cycle is left, as a cycle of what is left is one of those listed,
  and each of these has lost an edge.
-/

namespace TagRules.DependencyGraph

variable {g : DependencyGraph}

theorem eq_of_nodes_eq {g' : DependencyGraph} (h : g.nodes = g'.nodes) : g = g' := by
  cases g
  cases g'
  cases h
  rfl

/-! ### Graphs that have lost edges -/

/-- The graph that has lost some edges. -/
def without (g : DependencyGraph) (removed : List RemovedEdge) : DependencyGraph where
  nodes := g.nodes.map fun node =>
    ⟨node.name, node.dependsOn.filter fun d => (⟨d, node.name⟩ : RemovedEdge) ∉ removed⟩
  nodup := by
    rw [List.map_map]
    exact g.nodup

variable {removed : List RemovedEdge}

theorem without_nil : g.without [] = g :=
  eq_of_nodes_eq (by simp [without])

theorem size_without : (g.without removed).size = g.size := by
  simp [size, without]

theorem nameOf_without (i : Nat) : (g.without removed).nameOf i = g.nameOf i := by
  cases h : g.nodes[i]? <;> simp [nameOf, without, h]

theorem dependsOn_without (i : Nat) : (g.without removed).dependsOn i =
    (g.dependsOn i).filter fun d => (⟨d, g.nameOf i⟩ : RemovedEdge) ∉ removed := by
  cases h : g.nodes[i]? <;> simp [dependsOn, nameOf, without, h]

/-- **The edges that are left**: those of the graph but the lost ones. -/
theorem hasEdge_without {i j : Nat} : (g.without removed).hasEdge i j = true ↔
    g.hasEdge i j = true ∧ (⟨g.nameOf i, g.nameOf j⟩ : RemovedEdge) ∉ removed := by
  rw [hasEdge_iff, hasEdge_iff, size_without, nameOf_without, dependsOn_without, List.mem_filter,
    decide_eq_true_eq, and_assoc]

theorem dropEdge_without (e : RemovedEdge) :
    (g.without removed).dropEdge e = g.without (removed ++ [e]) := by
  refine eq_of_nodes_eq ?_
  simp only [dropEdge, without, List.map_map]
  refine List.map_congr_left fun node _ => ?_
  obtain ⟨dependency, dependent⟩ := e
  simp only [Function.comp, List.mem_append, List.mem_singleton, RemovedEdge.mk.injEq, not_or]
  split
  · rename_i heq
    subst heq
    simp [List.filter_filter, Bool.and_comm]
  · rename_i hne
    simp [hne]

/-! ### One cycle -/

theorem mem_of_mem_edgesOf {cycle : List Nat} {i j : Nat} (h : (i, j) ∈ edgesOf cycle) :
    i ∈ cycle ∧ j ∈ cycle := by
  cases cycle with
  | nil => simp [edgesOf] at h
  | cons k rest =>
    obtain ⟨hi, hj⟩ := List.of_mem_zip h
    refine ⟨hi, ?_⟩
    rcases List.mem_append.1 hj with hj | hj
    · exact List.mem_cons_of_mem _ hj
    · rw [List.mem_singleton.1 hj]
      exact List.mem_cons_self

theorem foldl_max_mem (l : List Nat) (a : Nat) : l.foldl max a = a ∨ l.foldl max a ∈ l := by
  induction l generalizing a with
  | nil => exact .inl rfl
  | cons b l ih =>
    rw [List.foldl_cons]
    rcases ih (max a b) with h | h
    · rcases Nat.le_total a b with hab | hab
      · exact .inr (by rw [h, Nat.max_eq_right hab]; exact List.mem_cons_self)
      · exact .inl (by rw [h, Nat.max_eq_left hab])
    · exact .inr (List.mem_cons_of_mem _ h)

/-- **The edge at which a cycle is broken** is one of its edges, and leads back to a tag that is not
declared later. -/
theorem exists_lastEdge? {cycle : List Nat} (h : cycle ≠ []) :
    ∃ i j, lastEdge? cycle = some (i, j) ∧ (i, j) ∈ edgesOf cycle ∧ j ≤ i := by
  -- Every member of a cycle is the dependency of one of its edges, the latest declared one too.
  have hmax : cycle.foldl max 0 ∈ (edgesOf cycle).map Prod.fst := by
    cases cycle with
    | nil => exact absurd rfl h
    | cons k rest =>
      rw [edgesOf, List.map_fst_zip (by simp)]
      rcases foldl_max_mem (k :: rest) 0 with h0 | hmem
      · have := (le_foldl_max (k :: rest) 0).2 k List.mem_cons_self
        have hk : (k :: rest).foldl max 0 = k := by omega
        rw [hk]
        exact List.mem_cons_self
      · exact hmem
  obtain ⟨⟨i, j⟩, hmem, hi⟩ := List.mem_map.1 hmax
  obtain ⟨e, he⟩ := Option.isSome_iff_exists.1 (List.find?_isSome.2
    ⟨(i, j), hmem, by simpa using hi⟩ :
      ((edgesOf cycle).find? (·.1 = cycle.foldl max 0)).isSome)
  have hmem' := List.mem_of_find?_eq_some he
  have hfst := List.find?_some he
  refine ⟨e.1, e.2, he, hmem', ?_⟩
  have hle := (le_foldl_max cycle 0).2 e.2 (mem_of_mem_edgesOf hmem').2
  rw [decide_eq_true_eq] at hfst
  omega

/-! ### The loop -/

/-- **The invariant of the loop**: what is known of the lost edges when some cycles are broken. -/
structure Removal (g : DependencyGraph) (broken : List (List Nat)) (removed : List RemovedEdge) :
    Prop where
  nodup : removed.Nodup
  length_le : removed.length ≤ broken.length
  onCycle : ∀ e ∈ removed, ∃ cycle ∈ broken, ∃ i j, (i, j) ∈ edgesOf cycle ∧ j ≤ i ∧
    e = ⟨g.nameOf i, g.nameOf j⟩
  breaks : ∀ cycle ∈ broken, ∃ i j, (i, j) ∈ edgesOf cycle ∧
    (⟨g.nameOf i, g.nameOf j⟩ : RemovedEdge) ∈ removed

/-- A cycle that has lost an edge already is skipped. -/
theorem Removal.skip {broken : List (List Nat)} (h : Removal g broken removed) {cycle : List Nat}
    {i j : Nat} (hmem : (i, j) ∈ edgesOf cycle)
    (hlost : (⟨g.nameOf i, g.nameOf j⟩ : RemovedEdge) ∈ removed) :
    Removal g (broken ++ [cycle]) removed where
  nodup := h.nodup
  length_le := by
    have := h.length_le
    rw [List.length_append]
    omega
  onCycle e he := by
    obtain ⟨c, hc, rest⟩ := h.onCycle e he
    exact ⟨c, List.mem_append_left _ hc, rest⟩
  breaks c hc := by
    rcases List.mem_append.1 hc with hc | hc
    · exact h.breaks c hc
    · rw [List.mem_singleton.1 hc]
      exact ⟨i, j, hmem, hlost⟩

/-- A cycle whose edges are all there loses one that leads back. -/
theorem Removal.cut {broken : List (List Nat)} (h : Removal g broken removed) {cycle : List Nat}
    {i j : Nat} (hmem : (i, j) ∈ edgesOf cycle) (hle : j ≤ i)
    (hnew : (⟨g.nameOf i, g.nameOf j⟩ : RemovedEdge) ∉ removed) :
    Removal g (broken ++ [cycle]) (removed ++ [⟨g.nameOf i, g.nameOf j⟩]) where
  nodup := by
    rw [List.nodup_append]
    refine ⟨h.nodup, List.nodup_singleton _, fun a ha b hb => ?_⟩
    rw [List.mem_singleton.1 hb]
    exact fun e => hnew (e ▸ ha)
  length_le := by
    have := h.length_le
    simp only [List.length_append, List.length_singleton]
    omega
  onCycle e he := by
    rcases List.mem_append.1 he with he | he
    · obtain ⟨c, hc, rest⟩ := h.onCycle e he
      exact ⟨c, List.mem_append_left _ hc, rest⟩
    · rw [List.mem_singleton.1 he]
      exact ⟨cycle, by simp, i, j, hmem, hle, rfl⟩
  breaks c hc := by
    rcases List.mem_append.1 hc with hc | hc
    · obtain ⟨k, l, hkl, hlost⟩ := h.breaks c hc
      exact ⟨k, l, hkl, List.mem_append_left _ hlost⟩
    · rw [List.mem_singleton.1 hc]
      exact ⟨i, j, hmem, by simp⟩

/-- **One step of the loop** keeps the invariant. -/
theorem breakCycle_spec {broken : List (List Nat)} (h : Removal g broken removed)
    {cycle : List Nat} (hcycle : g.IsCycle cycle) :
    ∃ removed', breakCycle (g.without removed, removed) cycle = (g.without removed', removed') ∧
      Removal g (broken ++ [cycle]) removed' := by
  simp only [breakCycle]
  split
  · rename_i hall
    obtain ⟨i, j, hlast, hmem, hle⟩ := exists_lastEdge? hcycle.1
    have hedge : (g.without removed).hasEdge i j = true := List.all_eq_true.1 hall (i, j) hmem
    simp only [hlast, nameOf_without, dropEdge_without]
    exact ⟨_, rfl, h.cut hmem hle (hasEdge_without.1 hedge).2⟩
  · -- An edge that is missing was one of the graph, so it has been lost before.
    rename_i hall
    refine ⟨removed, rfl, ?_⟩
    rw [List.all_eq_true] at hall
    push Not at hall
    obtain ⟨⟨i, j⟩, hmem, hnot⟩ := hall
    refine h.skip hmem ?_
    by_contra hkept
    exact hnot (hasEdge_without.2 ⟨hcycle.2.2 _ hmem, hkept⟩)

/-- **All steps of the loop** keep the invariant. -/
theorem foldl_breakCycle_spec {cycles : List (List Nat)} :
    ∀ {broken : List (List Nat)} {removed : List RemovedEdge}, Removal g broken removed →
      (∀ cycle ∈ cycles, g.IsCycle cycle) →
      ∃ removed', cycles.foldl breakCycle (g.without removed, removed) =
          (g.without removed', removed') ∧ Removal g (broken ++ cycles) removed' := by
  induction cycles with
  | nil => exact fun {_ removed} h _ => ⟨removed, rfl, by simpa using h⟩
  | cons cycle cycles ih =>
    intro broken removed h hall
    obtain ⟨removed', hstep, h'⟩ := breakCycle_spec h (hall cycle List.mem_cons_self)
    obtain ⟨removed'', hrest, h''⟩ := ih h' fun c hc => hall c (List.mem_cons_of_mem _ hc)
    refine ⟨removed'', ?_, by simpa using h''⟩
    rw [List.foldl_cons, hstep, hrest]

theorem isCycle_of_mem_indexCycles {cycle : List Nat} (h : cycle ∈ g.indexCycles) :
    g.IsCycle cycle := by
  obtain ⟨-, -, -, hcycle, -⟩ := mem_indexCycles.1 h
  exact hcycle

/-- **The result of the loop**: the graph has lost the returned edges and nothing else, and the
invariant holds for all listed cycles. -/
theorem removal_removeCycles (g : DependencyGraph) :
    g.removeCycles.1 = g.without g.removeCycles.2 ∧ Removal g g.indexCycles g.removeCycles.2 := by
  have h0 : Removal g [] [] := ⟨List.nodup_nil, le_rfl, by simp, by simp⟩
  obtain ⟨removed, hrun, h⟩ := foldl_breakCycle_spec h0 fun _ hc => isCycle_of_mem_indexCycles hc
  have : g.removeCycles = (g.without removed, removed) := by
    rw [removeCycles, ← hrun, without_nil]
  rw [this]
  exact ⟨rfl, by simpa using h⟩

/-! ### What is left -/

/-- **No cycle is left.** A cycle of what is left, told from its earliest declared member on, is one
of those that were listed, and so it has lost an edge. -/
theorem not_isCycle_removeCycles (g : DependencyGraph) (cycle : List Nat) :
    ¬g.removeCycles.1.IsCycle cycle := by
  obtain ⟨heq, h⟩ := removal_removeCycles g
  rw [heq]
  intro hcycle
  obtain ⟨start, rest, -, hrot, hlater⟩ := hcycle.exists_rotated
  have hlisted : start :: rest ∈ g.indexCycles :=
    mem_indexCycles.2 ⟨start, rest, rfl, hrot.mono fun i j he => (hasEdge_without.1 he).1, hlater⟩
  obtain ⟨i, j, hmem, hlost⟩ := h.breaks _ hlisted
  exact (hasEdge_without.1 (hrot.2.2 _ hmem)).2 hlost

theorem indexCycles_eq_nil (h : ∀ cycle, ¬g.IsCycle cycle) : g.indexCycles = [] :=
  List.eq_nil_iff_forall_not_mem.2 fun _ hc => h _ (isCycle_of_mem_indexCycles hc)

/-- A graph without cycles stays as it is. -/
theorem removeCycles_eq_self (h : ∀ cycle, ¬g.IsCycle cycle) : g.removeCycles = (g, []) := by
  rw [removeCycles, indexCycles_eq_nil h]
  rfl

theorem hasCycles_eq_false (h : ∀ cycle, ¬g.IsCycle cycle) : g.hasCycles = false := by
  rw [Bool.eq_false_iff]
  intro hc
  obtain ⟨cycle, hcycle⟩ := exists_isCycle_of_hasCycles hc
  exact h cycle hcycle

/-- A graph without cycles has levels. -/
theorem exists_levels (h : ∀ cycle, ¬g.IsCycle cycle) : ∃ levels, g.levels = .ok levels := by
  cases hb : g.buildOrder with
  | error e =>
    obtain ⟨start, rest, hcycle, -⟩ := exists_isCycle_of_buildOrder hb
    exact absurd hcycle (h (start :: rest))
  | ok order => exact ⟨_, by rw [levels, hb]; rfl⟩

/-- **What breaking the cycles of a graph promises**, of the graph before and after and of the edges
that it returns. -/
structure CyclesBroken (before after : DependencyGraph) (removed : List RemovedEdge) : Prop where
  /-- No cycle is found afterwards. -/
  hasCycles : after.hasCycles = false
  /-- No cycle is listed afterwards. -/
  cycles : after.cycles = []
  /-- There are levels afterwards. -/
  levels : ∃ levels, after.levels = .ok levels
  /-- No more edges are lost than there were cycles. -/
  length_le : removed.length ≤ before.cycles.length
  /-- The lost edges are different. -/
  nodup : removed.Nodup
  /-- Each lost edge is one of a cycle, and its dependency is not declared before its dependent. -/
  onCycle : ∀ e ∈ removed, ∃ cycle i j, before.IsCycle cycle ∧ (i, j) ∈ edgesOf cycle ∧
    e = ⟨before.nameOf i, before.nameOf j⟩ ∧ j ≤ i
  /-- The tags and all other dependencies stay as they are, in their order. -/
  nodes : after.nodes = before.nodes.map fun node =>
    ⟨node.name, node.dependsOn.filter fun d => (⟨d, node.name⟩ : RemovedEdge) ∉ removed⟩
  /-- Without cycles, nothing is lost. -/
  unchanged : (∀ cycle, ¬before.IsCycle cycle) → after = before ∧ removed = []

/-- **Breaking the cycles is sound and touches nothing else**, for every list of dependencies. -/
theorem removeCycles_ofEdges (edges : List (String × List String)) :
    CyclesBroken (ofEdges edges) (ofEdges edges).removeCycles.1 (ofEdges edges).removeCycles.2 := by
  have hleft := not_isCycle_removeCycles (ofEdges edges)
  obtain ⟨heq, h⟩ := removal_removeCycles (ofEdges edges)
  refine ⟨hasCycles_eq_false hleft, ?_, exists_levels hleft, ?_, h.nodup, ?_, ?_, ?_⟩
  · rw [cycles, indexCycles_eq_nil hleft, List.map_nil]
  · rw [cycles, List.length_map]
    exact h.length_le
  · intro e he
    obtain ⟨cycle, hc, i, j, hmem, hle, rfl⟩ := h.onCycle e he
    exact ⟨cycle, i, j, isCycle_of_mem_indexCycles hc, hmem, rfl, hle⟩
  · rw [heq]
    rfl
  · intro hno
    rw [removeCycles_eq_self hno]
    exact ⟨rfl, rfl⟩

end TagRules.DependencyGraph
