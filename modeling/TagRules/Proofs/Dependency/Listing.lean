import TagRules.Proofs.Dependency.Enumeration
import TagRules.Proofs.Dependency.Named

/-!
# The list of all cycles

A cycle can be told from each of its members on. The enumeration tells every cycle once, from its
earliest declared member on.

* `walk`, `indexCycles_eq_walk`: the enumeration needs no bound on its depth.
* `eq_of_isRotated`: two cycles that are told from their earliest declared member on are equal when
  one is a rotation of the other.
* `StartsEarliest`: no member of a cycle is declared before the first one.
* `cycles_ofEdges`: the simple cycles of names are listed, each once up to rotation.
-/

namespace TagRules.DependencyGraph

/-! ### The search without a bound -/

section

variable {successors : Nat → List Nat} {start : Nat}

/-- **The enumeration without a bound on its depth.** It ends, as a path that goes on has a free node
less. -/
def walk (successors : Nat → List Nat) (start : Nat) (free path : List Nat) (node : Nat) :
    List (List Nat) :=
  (successors node).flatMap fun next =>
    if next = start then [path.reverse]
    else if _h : next ∈ free then
      walk successors start (free.erase next) (next :: path) next
    else []
termination_by free.length
decreasing_by
  rw [List.length_erase_of_mem _h]
  exact Nat.sub_lt (List.length_pos_of_mem _h) Nat.one_pos

/-- The bound is never what ends the enumeration. -/
theorem cyclesFrom_eq_walk : ∀ {fuel : Nat} {free path : List Nat} {node : Nat},
    free.length ≤ fuel →
      cyclesFrom successors start fuel free path node = walk successors start free path node := by
  intro fuel
  induction fuel with
  | zero =>
    intro free path node hfuel
    obtain rfl : free = [] := List.eq_nil_of_length_eq_zero (Nat.le_zero.1 hfuel)
    rw [cyclesFrom_zero, walk]
    simp
  | succ fuel ih =>
    intro free path node hfuel
    rw [cyclesFrom_succ, walk]
    refine List.flatMap_congr fun next _ => ?_
    by_cases hnext : next ∈ free
    · have hlength : (free.erase next).length ≤ fuel := by
        rw [List.length_erase_of_mem hnext]
        omega
      simp only [hnext, if_true, dif_pos, ih hlength]
    · simp only [hnext, if_false, dif_neg, not_false_eq_true]

end

theorem indexCycles_eq_walk (g : DependencyGraph) :
    g.indexCycles = (List.range g.size).flatMap fun start =>
      walk (lookupIn g.successorTable) start ((List.range g.size).filter (start < ·)) [start]
        start :=
  List.flatMap_congr fun _ _ => cyclesFrom_eq_walk le_rfl

/-! ### Rotations -/

/-- A list without repetition is given by its first member among its rotations. -/
theorem eq_of_isRotated_cons {start : Nat} {rest rest' : List Nat} (hnodup : (start :: rest).Nodup)
    (h : (start :: rest).IsRotated (start :: rest')) : rest = rest' := by
  obtain ⟨n, hn, h⟩ := List.isRotated_iff_mod.1 h
  rw [List.rotate_eq_drop_append_take hn] at h
  cases n with
  | zero => simpa using h
  | succ n =>
    rw [List.drop_succ_cons, List.take_succ_cons] at h
    cases hdrop : rest.drop n with
    | nil =>
      have htake : rest.take n = rest := List.take_of_length_le (List.drop_eq_nil_iff.1 hdrop)
      rw [hdrop, htake, List.nil_append, List.cons_inj_right] at h
      exact h
    | cons x after =>
      -- The first member would occur a second time, after the cut.
      rw [hdrop, List.cons_append, List.cons.injEq] at h
      have hmem : x ∈ rest := List.mem_of_mem_drop (hdrop ▸ List.mem_cons_self)
      exact absurd (h.1 ▸ hmem) (List.nodup_cons.1 hnodup).1

variable {g : DependencyGraph}

/-- **Listed cycles are equal when one is a rotation of the other**, as both start with their
earliest declared member. -/
theorem eq_of_isRotated {cycle cycle' : List Nat} (h : cycle ∈ g.indexCycles)
    (h' : cycle' ∈ g.indexCycles) (hrot : cycle.IsRotated cycle') : cycle = cycle' := by
  obtain ⟨start, rest, rfl, hcycle, hlater⟩ := mem_indexCycles.1 h
  obtain ⟨start', rest', rfl, -, hlater'⟩ := mem_indexCycles.1 h'
  obtain rfl : start = start' := by
    have hmem : start ∈ start' :: rest' := hrot.mem_iff.1 List.mem_cons_self
    have hmem' : start' ∈ start :: rest := hrot.mem_iff.2 List.mem_cons_self
    rcases List.mem_cons.1 hmem with heq | hmem
    · exact heq
    · rcases List.mem_cons.1 hmem' with heq | hmem'
      · exact heq.symm
      · exact absurd (hlater _ hmem') (Nat.lt_asymm (hlater' _ hmem))
  rw [eq_of_isRotated_cons hcycle.2.1 hrot]

/-- Numbers can be read off their names. -/
theorem map_indexOf? {l : List Nat} (hlt : ∀ i ∈ l, i < g.size) :
    (l.map g.nameOf).map g.indexOf? = l.map some := by
  rw [List.map_map]
  exact List.map_congr_left fun i hi => indexOf?_eq_some_iff.2 ⟨hlt i hi, rfl⟩

theorem map_nameOf_inj {l l' : List Nat} (hlt : ∀ i ∈ l, i < g.size) (hlt' : ∀ i ∈ l', i < g.size)
    (h : l.map g.nameOf = l'.map g.nameOf) : l = l' := by
  have hmap := map_indexOf? hlt
  rw [h, map_indexOf? hlt'] at hmap
  exact (List.map_injective_iff.2 (Option.some_injective _) hmap).symm

theorem isRotated_map_nameOf {l l' : List Nat} (hlt : ∀ i ∈ l, i < g.size)
    (hlt' : ∀ i ∈ l', i < g.size) (h : (l.map g.nameOf).IsRotated (l'.map g.nameOf)) :
    l.IsRotated l' := by
  obtain ⟨n, h⟩ := h
  rw [← List.map_rotate] at h
  exact ⟨n, map_nameOf_inj (fun i hi => hlt i (List.mem_rotate.1 hi)) hlt' h⟩

theorem lt_size_of_mem_indexCycles {cycle : List Nat} (h : cycle ∈ g.indexCycles) :
    ∀ i ∈ cycle, i < g.size :=
  (isCycle_of_mem_indexCycles h).lt_size

/-- No cycle is listed twice. -/
theorem nodup_cycles (g : DependencyGraph) : g.cycles.Nodup := by
  have hnodup : g.indexCycles.Nodup := (pairwise_indexCycles g).imp fun h => ne_of_lt h
  exact hnodup.map_on fun _ h _ h' =>
    map_nameOf_inj (lt_size_of_mem_indexCycles h) (lt_size_of_mem_indexCycles h')

/-! ### The earliest declared member -/

variable {edges : List (String × List String)}

/-- **A cycle is told from its earliest declared member on**: no member is declared before the first
one. -/
def StartsEarliest (edges : List (String × List String)) (cycle : List String) : Prop :=
  ∃ first rest before after, cycle = first :: rest ∧
    edges.map Prod.fst = before ++ first :: after ∧ ∀ name ∈ cycle, name ∉ before

/-- A name that is declared before another one has the smaller number. -/
theorem lt_of_declared_before {before after : List String} {first : String}
    (hedges : edges.map Prod.fst = before ++ first :: after) (hfirst : first ∉ before) {i j : Nat}
    (hi : i < (ofEdges edges).size) (hj : j < (ofEdges edges).size)
    (hname : (ofEdges edges).nameOf i = first) (hbefore : (ofEdges edges).nameOf j ∈ before) :
    j < i := by
  obtain ⟨others, hnames⟩ : ∃ others, (ofEdges edges).names =
      before.eraseDups ++ first :: others := by
    rw [names_ofEdges, hedges, List.eraseDups_append, List.cons_removeAll,
      if_pos (by simpa using hfirst), List.eraseDups_cons]
    exact ⟨_, rfl⟩
  have hnodup : (ofEdges edges).names.Nodup := (ofEdges edges).nodup
  have hlength := length_names (ofEdges edges)
  obtain ⟨k, hk, hget⟩ := List.mem_iff_getElem.1 (List.mem_eraseDups.2 hbefore)
  have hki : i = before.eraseDups.length := by
    refine (List.getElem?_inj (hlength ▸ hi) hnodup).1 ?_
    rw [getElem?_names hi, hname, hnames]
    simp
  have hkj : j = k := by
    refine (List.getElem?_inj (hlength ▸ hj) hnodup).1 ?_
    rw [getElem?_names hj, hnames, List.getElem?_append_left hk, List.getElem?_eq_getElem hk, hget]
  omega

theorem startsEarliest_of_mem_indexCycles {cycle : List Nat}
    (h : cycle ∈ (ofEdges edges).indexCycles) :
    StartsEarliest edges (cycle.map (ofEdges edges).nameOf) := by
  have hlt := lt_size_of_mem_indexCycles h
  obtain ⟨start, rest, rfl, -, hlater⟩ := mem_indexCycles.1 h
  have hstart : start < (ofEdges edges).size := hlt start List.mem_cons_self
  have hdeclared : (ofEdges edges).nameOf start ∈ edges.map Prod.fst :=
    mem_names_ofEdges.1 (mem_names_iff.2 ⟨start, hstart, rfl⟩)
  obtain ⟨before, after, hedges, hfirst⟩ := List.eq_append_cons_of_mem hdeclared
  refine ⟨_, _, before, after, rfl, hedges, fun name hname hbefore => ?_⟩
  obtain ⟨j, hj, rfl⟩ := List.mem_map.1 hname
  have hlt := lt_of_declared_before hedges hfirst hstart (hlt j hj) rfl hbefore
  rcases List.mem_cons.1 hj with rfl | hj
  · exact Nat.lt_irrefl _ hlt
  · exact Nat.lt_asymm hlt (hlater j hj)

/-! ### The list -/

/-- A simple cycle of names is listed, from its earliest declared member on. -/
theorem IsSimpleCycle.exists_listed {cycle : List String} (h : IsSimpleCycle edges cycle) :
    ∃ listed ∈ (ofEdges edges).cycles, listed.IsRotated cycle := by
  obtain ⟨numbers, hcycle, rfl⟩ := h.exists_isCycle
  obtain ⟨start, rest, hrot, hrotated, hlater⟩ := hcycle.exists_rotated
  have hlisted : start :: rest ∈ (ofEdges edges).indexCycles :=
    mem_indexCycles.2 ⟨start, rest, rfl, hrotated, hlater⟩
  exact ⟨_, List.mem_map_of_mem hlisted, hrot.map _⟩

/-- No two rotations of a cycle are listed. -/
theorem eq_of_isRotated_of_mem_cycles {cycle cycle' : List String} (h : cycle ∈ g.cycles)
    (h' : cycle' ∈ g.cycles) (hrot : cycle.IsRotated cycle') : cycle = cycle' := by
  obtain ⟨numbers, hmem, rfl⟩ := List.mem_map.1 h
  obtain ⟨numbers', hmem', rfl⟩ := List.mem_map.1 h'
  rw [eq_of_isRotated hmem hmem' (isRotated_map_nameOf (lt_size_of_mem_indexCycles hmem)
    (lt_size_of_mem_indexCycles hmem') hrot)]

/-- **The enumeration is sound, complete and free of repeats.** Every list is a simple cycle of names,
told from its earliest declared member on; of every simple cycle one rotation is listed, once; and the
search ends by itself. -/
theorem cycles_ofEdges (edges : List (String × List String)) :
    (∀ cycle ∈ (ofEdges edges).cycles, IsSimpleCycle edges cycle ∧ StartsEarliest edges cycle) ∧
    (∀ cycle, IsSimpleCycle edges cycle →
      (ofEdges edges).cycles.countP (fun listed => decide (listed.IsRotated cycle)) = 1) ∧
    (ofEdges edges).indexCycles = (List.range (ofEdges edges).size).flatMap fun start =>
      walk (lookupIn (ofEdges edges).successorTable) start
        ((List.range (ofEdges edges).size).filter (start < ·)) [start] start := by
  refine ⟨fun cycle h => ?_, fun cycle h => ?_, indexCycles_eq_walk _⟩
  · obtain ⟨numbers, hmem, rfl⟩ := List.mem_map.1 h
    have hcycle := isCycle_of_mem_indexCycles hmem
    exact ⟨(isSimpleCycle_ofEdges hcycle.lt_size).2 hcycle, startsEarliest_of_mem_indexCycles hmem⟩
  · obtain ⟨listed, hlisted, hrot⟩ := h.exists_listed
    have hperm : ((ofEdges edges).cycles.filter fun other => decide (other.IsRotated cycle)).Perm
        [listed] := by
      refine (List.perm_ext_iff_of_nodup ((nodup_cycles _).filter _)
        (List.nodup_singleton listed)).2 fun other => ?_
      rw [List.mem_filter, decide_eq_true_eq, List.mem_singleton]
      constructor
      · exact fun ⟨hother, hrot'⟩ =>
          eq_of_isRotated_of_mem_cycles hother hlisted (hrot'.trans hrot.symm)
      · rintro rfl
        exact ⟨hlisted, hrot⟩
    rw [List.countP_eq_length_filter, hperm.length_eq]
    rfl

/-- A circle of three names, of which the last one also depends on itself. -/
def relayEdges : List (String × List String) :=
  [("ask", ["review"]), ("draft", ["ask"]), ("review", ["draft", "review"])]

theorem cycles_ofEdges_relayEdges : IsSimpleCycle relayEdges ["draft", "review", "ask"] ∧
    (ofEdges relayEdges).cycles.countP
      (fun listed => decide (listed.IsRotated ["draft", "review", "ask"])) = 1 := by
  have hcycle : IsSimpleCycle relayEdges ["draft", "review", "ask"] :=
    isSimpleCycle_cons_iff.2 (by decide)
  exact ⟨hcycle, (cycles_ofEdges relayEdges).2.1 _ hcycle⟩

example : (ofEdges relayEdges).cycles = [["ask", "draft", "review"], ["review"]] := by decide

end TagRules.DependencyGraph
