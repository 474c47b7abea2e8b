import Mathlib.Data.List.Chain
import Mathlib.Data.List.MinMax
import Mathlib.Data.List.Rotate
import TagRules.Dependency.Levels
import TagRules.Proofs.Dependency.Search

/-!
# Cycles and their enumeration

A cycle is a list of different tags of which each depends on the one before it, and the first one
on the last (`IsCycle`).

* `mem_indexCycles`: the enumeration lists exactly the cycles that start at their earliest declared
  member.
* `IsCycle.exists_rotated`: every cycle can be told from its earliest declared member on.
* `exists_isCycle_of_hasCycles`, `exists_isCycle_of_buildOrder`: a search that fails shows a cycle.
-/

namespace TagRules.DependencyGraph

variable {g : DependencyGraph}

/-! ### Names, numbers and edges -/

theorem nameOf_eq {i : Nat} {node : TagNode} (h : g.nodes[i]? = some node) :
    g.nameOf i = node.name := by
  simp [nameOf, h]

theorem dependsOn_eq {i : Nat} {node : TagNode} (h : g.nodes[i]? = some node) :
    g.dependsOn i = node.dependsOn := by
  simp [dependsOn, h]

theorem getElem?_names {i : Nat} (hi : i < g.size) : g.names[i]? = some (g.nameOf i) := by
  have hi' : g.nodes[i]? = some g.nodes[i] := List.getElem?_eq_getElem hi
  rw [names, List.getElem?_map, hi', nameOf_eq hi']
  rfl

theorem length_names (g : DependencyGraph) : g.names.length = g.size := List.length_map _

/-- The names of the tags are different. -/
theorem nameOf_inj {i j : Nat} (hi : i < g.size) (hj : j < g.size) (h : g.nameOf i = g.nameOf j) :
    i = j := by
  have hnodup : g.names.Nodup := g.nodup
  refine (List.getElem?_inj (length_names g ▸ hi) hnodup).1 ?_
  rw [getElem?_names hi, getElem?_names hj, h]

theorem indexOf?_eq_some_iff {name : String} {i : Nat} :
    g.indexOf? name = some i ↔ i < g.size ∧ g.nameOf i = name := by
  constructor
  · intro h
    obtain ⟨hi, hname, -⟩ := List.findIdx?_eq_some_iff_getElem.1 h
    refine ⟨hi, ?_⟩
    rw [nameOf_eq (List.getElem?_eq_getElem hi)]
    simpa using hname
  · rintro ⟨hi, rfl⟩
    refine List.findIdx?_eq_some_iff_getElem.2 ⟨hi, ?_, ?_⟩
    · simp [nameOf_eq (List.getElem?_eq_getElem hi)]
    · intro j hj
      have hj' : j < g.size := Nat.lt_trans hj hi
      -- Names are different, so no earlier tag has this one.
      have hne : g.nameOf j ≠ g.nameOf i := fun e => Nat.ne_of_lt hj (nameOf_inj hj' hi e)
      rw [nameOf_eq (List.getElem?_eq_getElem hj')] at hne
      rw [decide_eq_true_eq]
      exact hne

theorem hasEdge_iff {i j : Nat} :
    g.hasEdge i j = true ↔ i < g.size ∧ g.nameOf i ∈ g.dependsOn j := by
  simp [hasEdge]

/-- Edges lead to declared tags only. -/
theorem lt_size_of_hasEdge {i j : Nat} (h : g.hasEdge i j = true) : i < g.size ∧ j < g.size := by
  obtain ⟨hi, hj⟩ := hasEdge_iff.1 h
  refine ⟨hi, ?_⟩
  by_contra hn
  have : g.nodes[j]? = none := List.getElem?_eq_none (by simpa [size] using hn)
  simp [dependsOn, this] at hj

theorem mem_dependencies {i j : Nat} : i ∈ g.dependencies j ↔ g.hasEdge i j = true := by
  rw [dependencies, List.mem_filterMap, hasEdge_iff]
  constructor
  · rintro ⟨name, hname, h⟩
    obtain ⟨hi, rfl⟩ := indexOf?_eq_some_iff.1 h
    exact ⟨hi, hname⟩
  · rintro ⟨hi, hname⟩
    exact ⟨g.nameOf i, hname, indexOf?_eq_some_iff.2 ⟨hi, rfl⟩⟩

theorem mem_lookupIn_successorTable {i j : Nat} :
    j ∈ lookupIn g.successorTable i ↔ g.hasEdge i j = true := by
  by_cases hi : i < g.size
  · rw [lookupIn_successorTable g hi, successors, List.mem_filter, List.mem_range]
    exact ⟨fun h => h.2, fun h => ⟨(lt_size_of_hasEdge h).2, h⟩⟩
  · have hnone : lookupIn g.successorTable i = [] := by
      simp [lookupIn, successorTable, Nat.le_of_not_lt hi]
    rw [hnone]
    exact ⟨fun h => by simp at h, fun h => absurd (lt_size_of_hasEdge h).1 hi⟩

theorem le_foldl_max (l : List Nat) (a : Nat) : a ≤ l.foldl max a ∧ ∀ i ∈ l, i ≤ l.foldl max a := by
  induction l generalizing a with
  | nil => simp
  | cons b l ih =>
    obtain ⟨h1, h2⟩ := ih (max a b)
    rw [List.foldl_cons]
    refine ⟨by omega, fun i hi => ?_⟩
    rcases List.mem_cons.1 hi with rfl | hi
    · omega
    · exact h2 i hi

/-! ### Cycles -/

/-- **A cycle**: a list of different tags, of which each depends on the one before it, and the first
one on the last. -/
def IsCycle (g : DependencyGraph) (cycle : List Nat) : Prop :=
  cycle ≠ [] ∧ cycle.Nodup ∧ ∀ e ∈ edgesOf cycle, g.hasEdge e.1 e.2 = true

theorem forall_zip_iff_isChain {R : Nat → Nat → Prop} (i j : Nat) (rest : List Nat) :
    (∀ e ∈ (i :: rest).zip (rest ++ [j]), R e.1 e.2) ↔ (i :: (rest ++ [j])).IsChain R := by
  induction rest generalizing i with
  | nil => simp
  | cons k rest ih =>
    rw [List.cons_append, List.zip_cons_cons, List.forall_mem_cons, ih k, List.isChain_cons_cons]

/-- A cycle is a closed chain of edges. -/
theorem isCycle_cons_iff {i : Nat} {rest : List Nat} :
    g.IsCycle (i :: rest) ↔ (i :: rest).Nodup ∧
      (i :: (rest ++ [i])).IsChain fun x y => g.hasEdge x y = true := by
  rw [← forall_zip_iff_isChain]
  simp [IsCycle, edgesOf]

/-- A cycle of a graph with fewer edges is one of the graph. -/
theorem IsCycle.mono {g' : DependencyGraph}
    (hsub : ∀ i j, g.hasEdge i j = true → g'.hasEdge i j = true) {cycle : List Nat}
    (h : g.IsCycle cycle) : g'.IsCycle cycle :=
  ⟨h.1, h.2.1, fun e he => hsub _ _ (h.2.2 e he)⟩

theorem IsCycle.lt_size {cycle : List Nat} (h : g.IsCycle cycle) : ∀ i ∈ cycle, i < g.size := by
  intro i hi
  cases cycle with
  | nil => exact absurd rfl h.1
  | cons k rest =>
    have hfst : ((k :: rest).zip (rest ++ [k])).map Prod.fst = k :: rest :=
      List.map_fst_zip (by simp)
    rw [← hfst, List.mem_map] at hi
    obtain ⟨e, he, rfl⟩ := hi
    exact (lt_size_of_hasEdge (h.2.2 e he)).1

/-- **A cycle can be told from its earliest declared member on.** -/
theorem IsCycle.exists_rotated {cycle : List Nat} (h : g.IsCycle cycle) :
    ∃ start rest, (start :: rest).IsRotated cycle ∧ g.IsCycle (start :: rest) ∧
      ∀ x ∈ rest, start < x := by
  obtain ⟨start, hstart⟩ : ∃ m, cycle.min? = some m :=
    Option.isSome_iff_exists.1 (List.isSome_min?_of_ne_nil h.1)
  obtain ⟨hmem, hle⟩ := List.min?_eq_some_iff.1 hstart
  obtain ⟨before, after, rfl⟩ := List.append_of_mem hmem
  have hperm : (start :: after ++ before).Perm (before ++ start :: after) :=
    List.perm_append_comm
  have hnd : (start :: (after ++ before)).Nodup := hperm.nodup_iff.2 h.2.1
  refine ⟨start, after ++ before, List.isRotated_append (l := start :: after),
    isCycle_cons_iff.2 ⟨hnd, ?_⟩, fun x hx => ?_⟩
  · cases before with
    | nil => simpa using (isCycle_cons_iff.1 h).2
    | cons k before =>
      -- The chain is cut at `start`, and its two parts are put together at `k`.
      have hchain : (k :: (before ++ start :: (after ++ [k]))).IsChain
          fun x y => g.hasEdge x y = true := by
        simpa using (isCycle_cons_iff.1 h).2
      rw [List.isChain_cons_split] at hchain
      have := List.isChain_cons_split.2 ⟨hchain.2, hchain.1⟩
      simpa using this
  · have hx' : x ∈ before ++ start :: after := hperm.mem_iff.1 (List.mem_cons_of_mem _ hx)
    have hne : start ≠ x := fun e => (List.nodup_cons.1 hnd).1 (e ▸ hx)
    have := hle x hx'
    omega

/-! ### The enumeration -/

theorem cyclesFrom_zero (successors : Nat → List Nat) (start : Nat) (free path : List Nat)
    (node : Nat) : cyclesFrom successors start 0 free path node =
      (successors node).flatMap fun next => if next = start then [path.reverse] else [] :=
  rfl

theorem cyclesFrom_succ (successors : Nat → List Nat) (start fuel : Nat) (free path : List Nat)
    (node : Nat) : cyclesFrom successors start (fuel + 1) free path node =
      (successors node).flatMap fun next =>
        if next = start then [path.reverse]
        else if next ∈ free then
          cyclesFrom successors start fuel (free.erase next) (next :: path) next
        else [] :=
  rfl

/-- A way from a node back to `start` over different free nodes. -/
def IsWay (successors : Nat → List Nat) (start : Nat) (free : List Nat) (node : Nat)
    (way : List Nat) : Prop :=
  way.Nodup ∧ (∀ x ∈ way, x ∈ free) ∧
    (node :: (way ++ [start])).IsChain fun x y => y ∈ successors x

section

variable {successors : Nat → List Nat} {start node : Nat} {free : List Nat}

theorem isWay_nil_iff : IsWay successors start free node [] ↔ start ∈ successors node := by
  simp [IsWay]

theorem isWay_cons_iff {next : Nat} {way : List Nat} (hfree : free.Nodup) :
    IsWay successors start free node (next :: way) ↔
      next ∈ successors node ∧ next ∈ free ∧ IsWay successors start (free.erase next) next way := by
  have herase : (∀ x ∈ way, x ∈ free.erase next) ↔ next ∉ way ∧ ∀ x ∈ way, x ∈ free := by
    simp only [hfree.mem_erase_iff]
    constructor
    · exact fun h => ⟨fun hnext => (h next hnext).1 rfl, fun x hx => (h x hx).2⟩
    · exact fun h x hx => ⟨fun heq => h.1 (heq ▸ hx), h.2 x hx⟩
  unfold IsWay
  rw [List.nodup_cons, List.forall_mem_cons, List.cons_append, List.isChain_cons_cons, herase]
  tauto

/-- **What the enumeration lists from a path on**: the path with every way back to `start` over
different free nodes. -/
theorem mem_cyclesFrom {cycle : List Nat} :
    ∀ {fuel : Nat} {free path : List Nat} {node : Nat}, free.Nodup → start ∉ free →
      free.length ≤ fuel →
      (cycle ∈ cyclesFrom successors start fuel free path node ↔
        ∃ way, cycle = path.reverse ++ way ∧ IsWay successors start free node way) := by
  intro fuel
  induction fuel with
  | zero =>
    intro free path node hfree hstart hfuel
    have hnil : free = [] := List.eq_nil_of_length_eq_zero (by omega)
    subst hnil
    rw [cyclesFrom_zero, List.mem_flatMap]
    constructor
    · rintro ⟨next, hnext, hc⟩
      split at hc
      · rename_i he
        subst he
        exact ⟨[], by simpa using hc, isWay_nil_iff.2 hnext⟩
      · simp at hc
    · rintro ⟨way, rfl, hway⟩
      have hempty : way = [] :=
        List.eq_nil_iff_forall_not_mem.2 fun x hx => absurd (hway.2.1 x hx) (by simp)
      subst hempty
      exact ⟨start, isWay_nil_iff.1 hway, by simp⟩
  | succ fuel ih =>
    intro free path node hfree hstart hfuel
    -- The longer path has one free node less.
    have hstep : ∀ next, next ∈ free →
        (cycle ∈ cyclesFrom successors start fuel (free.erase next) (next :: path) next ↔
          ∃ way, cycle = (next :: path).reverse ++ way ∧
            IsWay successors start (free.erase next) next way) := by
      intro next hnext
      refine ih (hfree.erase next) (fun h => hstart (List.mem_of_mem_erase h)) ?_
      rw [List.length_erase_of_mem hnext]
      omega
    rw [cyclesFrom_succ, List.mem_flatMap]
    constructor
    · rintro ⟨next, hnext, hc⟩
      split at hc
      · rename_i he
        subst he
        exact ⟨[], by simpa using hc, isWay_nil_iff.2 hnext⟩
      · split at hc
        · rename_i hmem
          obtain ⟨way, rfl, hway⟩ := (hstep next hmem).1 hc
          exact ⟨next :: way, by simp, (isWay_cons_iff hfree).2 ⟨hnext, hmem, hway⟩⟩
        · simp at hc
    · rintro ⟨way, rfl, hway⟩
      cases way with
      | nil => exact ⟨start, isWay_nil_iff.1 hway, by simp⟩
      | cons next way =>
        obtain ⟨hnext, hmem, hway⟩ := (isWay_cons_iff hfree).1 hway
        refine ⟨next, hnext, ?_⟩
        rw [if_neg fun e : next = start => hstart (e ▸ hmem), if_pos hmem]
        exact (hstep next hmem).2 ⟨way, by simp, hway⟩

end

/-- **The enumeration is sound and complete.** It lists the cycles that start at their earliest
declared member. -/
theorem mem_indexCycles {cycle : List Nat} :
    cycle ∈ g.indexCycles ↔
      ∃ start rest, cycle = start :: rest ∧ g.IsCycle cycle ∧ ∀ x ∈ rest, start < x := by
  have hfrom : ∀ start,
      (cycle ∈ cyclesFrom (lookupIn g.successorTable) start
          ((List.range g.size).filter (start < ·)).length
          ((List.range g.size).filter (start < ·)) [start] start ↔
        ∃ way, cycle = start :: way ∧ IsWay (lookupIn g.successorTable) start
          ((List.range g.size).filter (start < ·)) start way) :=
    fun start => mem_cyclesFrom (List.nodup_range.filter _) (by simp) le_rfl
  simp only [indexCycles, List.mem_flatMap, List.mem_range]
  constructor
  · rintro ⟨start, hstart, hc⟩
    obtain ⟨way, rfl, hnd, hway, hchain⟩ := (hfrom start).1 hc
    have hlater : ∀ x ∈ way, start < x := fun x hx => by simpa using (List.mem_filter.1 (hway x hx)).2
    refine ⟨start, way, rfl, ?_, hlater⟩
    refine isCycle_cons_iff.2 ⟨List.nodup_cons.2 ⟨fun h => ?_, hnd⟩, ?_⟩
    · exact Nat.lt_irrefl _ (hlater start h)
    · simpa only [mem_lookupIn_successorTable] using hchain
  · rintro ⟨start, rest, rfl, hcycle, hlater⟩
    have hlt := hcycle.lt_size
    refine ⟨start, hlt start List.mem_cons_self, ?_⟩
    obtain ⟨hnd, hchain⟩ := isCycle_cons_iff.1 hcycle
    refine (hfrom start).2 ⟨rest, rfl, hnd.of_cons, fun x hx => ?_, ?_⟩
    · simpa using ⟨hlt x (List.mem_cons_of_mem _ hx), hlater x hx⟩
    · simpa only [mem_lookupIn_successorTable] using hchain

/-! ### Searches that fail -/

/-- The search along the successors that fails shows a cycle. -/
theorem exists_isCycle_of_hasCycles (h : g.hasCycles = true) : ∃ cycle, g.IsCycle cycle := by
  unfold hasCycles at h
  cases hrun : Search.run (lookupIn g.successorTable) g.size (List.range g.size) with
  | ok done => simp [hrun] at h
  | error circle =>
    obtain ⟨node, rest, rfl, hnd, hchain⟩ := Search.run_error hrun
    -- A circle is listed against the edges.
    refine ⟨node :: rest.reverse, isCycle_cons_iff.2 ⟨?_, ?_⟩⟩
    · simpa using hnd
    · have hrev : (node :: (rest.reverse ++ [node])).IsChain
          fun x y => y ∈ lookupIn g.successorTable x := by
        simpa using List.isChain_reverse.2 hchain
      simpa only [mem_lookupIn_successorTable] using hrev

/-- The search along the dependencies that fails shows a cycle, and the error is its path, which
repeats the first tag at the end. -/
theorem exists_isCycle_of_buildOrder {e : PlanError} (h : g.buildOrder = .error e) :
    ∃ start rest, g.IsCycle (start :: rest) ∧
      e = .cyclicDependency ((start :: (rest ++ [start])).map g.nameOf) := by
  unfold buildOrder at h
  cases hrun : Search.run g.dependencies g.size (List.range g.size) with
  | ok done => simp [hrun] at h
  | error circle =>
    obtain ⟨node, rest, rfl, hnd, hchain⟩ := Search.run_error hrun
    rw [hrun] at h
    cases h
    exact ⟨node, rest, isCycle_cons_iff.2 ⟨hnd, by simpa only [mem_dependencies] using hchain⟩, rfl⟩

end TagRules.DependencyGraph
