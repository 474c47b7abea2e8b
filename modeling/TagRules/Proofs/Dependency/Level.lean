import TagRules.Proofs.Dependency.Cycle

/-!
# Levels

The levels are worked out along an order in which every tag comes after its dependencies, from a
table that holds the levels found so far.

* `levelIn_levelTable`: an entry of the table is what the rule for levels says of the whole table.
* `level`: the level of a tag in a list of levels.
* `level_eq`: the rule for levels, of the result.
* `level_lt_of_hasEdge`: a tag has a higher level than each of its declared dependencies.
* `not_isCycle_of_rank`, `not_isCycle_of_levels`: a graph with levels has no cycles.
* `filter_mergeSort`, `pairwise_mergeSort_of_pairwise`: sorting by level keeps the order inside a level.
-/

namespace TagRules.DependencyGraph

variable {g : DependencyGraph}

/-! ### The table -/

theorem levelIn_cons (table : List (Nat × Nat)) (i j level : Nat) :
    levelIn ((i, level) :: table) j = if j = i then level else levelIn table j := by
  by_cases h : j = i
  · subst h
    simp [levelIn]
  · have hb : (j == i) = false := by simpa using h
    simp [levelIn, List.lookup_cons, hb, h]

/-- A level depends on those entries of the table only that belong to declared dependencies. -/
theorem levelAfter_congr {table table' : List (Nat × Nat)} {i : Nat}
    (h : ∀ j ∈ g.dependencies i, levelIn table j = levelIn table' j) :
    g.levelAfter table i = g.levelAfter table' i := by
  unfold levelAfter
  congr 1
  refine List.map_congr_left fun name hname => ?_
  cases hj : g.indexOf? name with
  | none => rfl
  | some j =>
    have hmem : j ∈ g.dependencies i := List.mem_filterMap.2 ⟨name, hname, hj⟩
    simp only [Option.map_some, Option.getD_some, h j hmem]

/-- The table is built from the earliest finished tag on. -/
theorem levelTable_reverse_cons (done : List Nat) (node : Nat) :
    g.levelTable (node :: done).reverse =
      (node, g.levelAfter (g.levelTable done.reverse) node) :: g.levelTable done.reverse := by
  simp [levelTable]

/-- **The rule for levels holds in the table**, as later entries do not change earlier ones. -/
theorem levelIn_levelTable {done : List Nat} (h : Search.Finished g.dependencies done) :
    ∀ i ∈ done, levelIn (g.levelTable done.reverse) i =
      g.levelAfter (g.levelTable done.reverse) i := by
  induction h with
  | nil => simp
  | @cons done node hdone hnew hdeps ih =>
    intro i hi
    rw [levelTable_reverse_cons]
    -- Neither tag depends on the new one, so the new entry is not read.
    have hsame : ∀ k, (∀ j ∈ g.dependencies k, j ∈ done) →
        g.levelAfter ((node, g.levelAfter (g.levelTable done.reverse) node) ::
          g.levelTable done.reverse) k = g.levelAfter (g.levelTable done.reverse) k := by
      intro k hk
      refine levelAfter_congr fun j hj => ?_
      rw [levelIn_cons, if_neg fun e : j = node => hnew (e ▸ hk j hj)]
    rw [levelIn_cons]
    by_cases he : i = node
    · rw [if_pos he, he, hsame node hdeps]
    · have hmem : i ∈ done := (List.mem_cons.1 hi).resolve_left he
      rw [if_neg he, ih i hmem, hsame i fun j hj => ?_]
      exact hdone.neighbours_mem i hmem j hj

/-! ### The levels -/

/-- The level of a tag in a list of levels. -/
def level (levels : List Nat) (i : Nat) : Nat := (levels[i]?).getD 0

theorem length_levels {levels : List Nat} (h : g.levels = .ok levels) : levels.length = g.size := by
  obtain ⟨order, -, h⟩ := Outcome.bind_eq_ok_iff.1 h
  cases h
  simp

/-- **The rule for levels**: one more than the highest level among the dependencies, where a name
that is not declared has level 0, and 0 without dependencies. -/
theorem level_eq {levels : List Nat} (h : g.levels = .ok levels) {i : Nat} (hi : i < g.size) :
    level levels i = ((g.dependsOn i).map fun name =>
      ((g.indexOf? name).map (level levels)).getD 0 + 1).foldl max 0 := by
  obtain ⟨order, horder, h⟩ := Outcome.bind_eq_ok_iff.1 h
  cases h
  unfold buildOrder at horder
  cases hrun : Search.run g.dependencies g.size (List.range g.size) with
  | error circle => simp [hrun] at horder
  | ok done =>
    have hdone : done.reverse = order := by simpa [hrun] using horder
    subst hdone
    have hbound : ∀ x < g.size, ∀ y ∈ g.dependencies x, y < g.size := fun x _ y hy =>
      (lt_size_of_hasEdge (mem_dependencies.1 hy)).1
    obtain ⟨hfin, hmem⟩ := Search.run_ok hbound hrun
    -- The levels are read off the table, in the order of declaration.
    have hlevel : ∀ j, j < g.size →
        level ((List.range g.size).map (levelIn (g.levelTable done.reverse))) j =
          levelIn (g.levelTable done.reverse) j := by
      intro j hj
      simp [level, hj]
    rw [hlevel i hi, levelIn_levelTable hfin i ((hmem i).2 hi), levelAfter]
    congr 1
    refine List.map_congr_left fun name _ => ?_
    cases hj : g.indexOf? name with
    | none => rfl
    | some j => simp only [Option.map_some, Option.getD_some, hlevel j (indexOf?_eq_some_iff.1 hj).1]

/-- **A tag has a higher level than each of its declared dependencies.** -/
theorem level_lt_of_hasEdge {levels : List Nat} (h : g.levels = .ok levels) {i j : Nat}
    (hedge : g.hasEdge i j = true) : level levels i < level levels j := by
  obtain ⟨hi, hj⟩ := lt_size_of_hasEdge hedge
  have hmem : level levels i + 1 ∈ (g.dependsOn j).map fun name =>
      ((g.indexOf? name).map (level levels)).getD 0 + 1 := by
    refine List.mem_map.2 ⟨g.nameOf i, (hasEdge_iff.1 hedge).2, ?_⟩
    rw [indexOf?_eq_some_iff.2 ⟨hi, rfl⟩]
    rfl
  have := (le_foldl_max _ 0).2 _ hmem
  rw [← level_eq h hj] at this
  omega

/-- Where ranks rise along the edges there are no cycles: the ranks would rise without end. -/
theorem not_isCycle_of_rank {rank : Nat → Nat}
    (h : ∀ i j, g.hasEdge i j = true → rank i < rank j) (cycle : List Nat) : ¬g.IsCycle cycle := by
  intro hcycle
  cases cycle with
  | nil => exact hcycle.1 rfl
  | cons start rest =>
    have hchain : (start :: (rest ++ [start])).IsChain fun i j => rank i < rank j :=
      (isCycle_cons_iff.1 hcycle).2.imp h
    have htrans : Trans (fun i j => rank i < rank j) (fun i j => rank i < rank j)
        (fun i j => rank i < rank j) := ⟨fun h1 h2 => Nat.lt_trans h1 h2⟩
    have := hchain.rel_cons (b := start) (by simp)
    exact Nat.lt_irrefl _ this

/-- A graph with levels has no cycles. -/
theorem not_isCycle_of_levels {levels : List Nat} (h : g.levels = .ok levels) (cycle : List Nat) :
    ¬g.IsCycle cycle :=
  not_isCycle_of_rank (fun _ _ => level_lt_of_hasEdge h) cycle

/-! ### Sorting by level -/

theorem pairwise_mergeSort (l : List (Nat × Nat)) :
    (l.mergeSort fun a b => a.2 ≤ b.2).Pairwise (·.2 ≤ ·.2) := by
  refine (List.pairwise_mergeSort (fun a b c hab hbc => ?_) (fun a b => ?_) l).imp of_decide_eq_true
  · simp only [decide_eq_true_eq] at *
    omega
  · simp only [Bool.or_eq_true, decide_eq_true_eq]
    omega

/-- Sorting by level keeps the order inside a level. -/
theorem filter_mergeSort (l : List (Nat × Nat)) (level : Nat) :
    (l.mergeSort fun a b => a.2 ≤ b.2).filter (·.2 = level) = l.filter (·.2 = level) := by
  have hsub : (l.filter (·.2 = level)).Sublist (l.mergeSort fun a b => a.2 ≤ b.2) := by
    refine List.sublist_mergeSort (fun a b c hab hbc => ?_) (fun a b => ?_) ?_ List.filter_sublist
    · simp only [decide_eq_true_eq] at *
      omega
    · simp only [Bool.or_eq_true, decide_eq_true_eq]
      omega
    · refine List.pairwise_of_forall_mem_list fun a ha b hb => ?_
      have ha' := (List.mem_filter.1 ha).2
      have hb' := (List.mem_filter.1 hb).2
      simp only [decide_eq_true_eq] at *
      omega
  -- Sorting moves items only, so both lists have as many items of the level.
  have hfilter := hsub.filter fun e => decide (e.2 = level)
  rw [List.filter_filter] at hfilter
  simp only [Bool.and_self] at hfilter
  refine (hfilter.eq_of_length ?_).symm
  exact ((List.mergeSort_perm l _).filter _).length_eq.symm

/-- **Numbered tags are sorted by level and then by number.** -/
theorem pairwise_mergeSort_of_pairwise {l : List (Nat × Nat)} (h : l.Pairwise (·.1 < ·.1)) :
    (l.mergeSort fun a b => a.2 ≤ b.2).Pairwise fun a b =>
      a.2 < b.2 ∨ a.2 = b.2 ∧ a.1 < b.1 := by
  have hsorted := pairwise_mergeSort l
  rw [List.pairwise_iff_forall_sublist] at hsorted h ⊢
  intro a b hab
  refine (Nat.lt_or_eq_of_le (hsorted hab)).imp_right fun heq => ⟨heq, ?_⟩
  -- Two tags of one level are among the tags of this level, which keep their order.
  have hlevel := hab.filter fun e => decide (e.2 = b.2)
  rw [filter_mergeSort] at hlevel
  have hboth : [a, b].filter (fun e => decide (e.2 = b.2)) = [a, b] := by simp [heq]
  rw [hboth] at hlevel
  exact h (hlevel.trans List.filter_sublist)

end TagRules.DependencyGraph
