import Mathlib.Algebra.Group.Nat.Defs
import Mathlib.Order.Bounds.Basic
import TagRules.Proofs.Dependency.Named

/-!
# Levels are the lengths of chains

A chain of dependencies leads from name to name, each a direct dependency of the next one. The level of
a tag is the number of dependencies of the longest chain that ends in it.

* `levelOf_lt_of_isDependency`, `exists_isDependency_of_pos`: what one dependency says of levels.
* `IsChainTo`: a chain that ends in a name.
* `length_le_levelOf`, `exists_chain`: no chain is longer than the level, and one is as long.
* `levelOf_le_size`: there are no more levels than tags.
* `Heights`: what is promised of the levels of names.
* `levels_ofEdges`: the levels of a graph keep the promise, and the tags are listed by level.
-/

namespace TagRules.DependencyGraph

variable {edges : List (String × List String)} {levels : List Nat}

/-! ### One dependency -/

theorem exists_node_ofEdges {name : String} (h : name ∈ edges.map Prod.fst) :
    (⟨name, dependenciesOf edges name⟩ : TagNode) ∈ (ofEdges edges).nodes :=
  List.mem_map.2 ⟨name, List.mem_eraseDups.2 h, rfl⟩

/-- **A dependency has a lower level**, even if it is not declared. -/
theorem levelOf_lt_of_isDependency (h : (ofEdges edges).levels = .ok levels)
    {dependency name : String} (hdependency : IsDependency edges dependency name) :
    (ofEdges edges).levelOf levels dependency < (ofEdges edges).levelOf levels name :=
  levelOf_lt h (exists_node_ofEdges hdependency.declared) (mem_dependenciesOf.2 hdependency)

theorem declared_of_pos {name : String} (hpos : 0 < (ofEdges edges).levelOf levels name) :
    name ∈ edges.map Prod.fst := by
  by_contra hnot
  rw [levelOf_of_not_mem fun hmem => hnot (mem_names_ofEdges.1 hmem)] at hpos
  exact Nat.lt_irrefl 0 hpos

/-- **A level above 0 is one more than that of a dependency.** -/
theorem exists_isDependency_of_pos (h : (ofEdges edges).levels = .ok levels) {name : String}
    (hpos : 0 < (ofEdges edges).levelOf levels name) :
    ∃ dependency, IsDependency edges dependency name ∧
      (ofEdges edges).levelOf levels name = (ofEdges edges).levelOf levels dependency + 1 := by
  have hrule := levelOf_eq h (exists_node_ofEdges (declared_of_pos hpos))
  rcases foldl_max_mem ((dependenciesOf edges name).map fun d =>
    (ofEdges edges).levelOf levels d + 1) 0 with hzero | hmem
  · exact absurd (hrule.trans hzero) (Nat.ne_of_gt hpos)
  · obtain ⟨dependency, hdependency, hlevel⟩ := List.mem_map.1 hmem
    exact ⟨dependency, mem_dependenciesOf.1 hdependency, hrule.trans hlevel.symm⟩

/-! ### Chains -/

/-- **A chain of dependencies that ends in a name**: each name is a direct dependency of the next one,
and the last one of `name`. Its first name need not be declared. -/
def IsChainTo (edges : List (String × List String)) (chain : List String) (name : String) : Prop :=
  (chain ++ [name]).IsChain (IsDependency edges)

theorem isChainTo_concat_iff {chain : List String} {dependency name : String} :
    IsChainTo edges (chain ++ [dependency]) name ↔
      IsChainTo edges chain dependency ∧ IsDependency edges dependency name := by
  unfold IsChainTo
  rw [List.isChain_append]
  simp

/-- No chain is longer than the level of the name in which it ends, as levels rise along it. -/
theorem length_le_levelOf (h : (ofEdges edges).levels = .ok levels) {chain : List String} :
    ∀ {name : String}, IsChainTo edges chain name →
      chain.length ≤ (ofEdges edges).levelOf levels name := by
  induction chain using List.reverseRecOn with
  | nil => exact fun _ => Nat.zero_le _
  | append_singleton chain dependency ih =>
    intro name hchain
    obtain ⟨hchain, hdependency⟩ := isChainTo_concat_iff.1 hchain
    rw [List.length_append, List.length_singleton]
    exact Nat.lt_of_le_of_lt (ih hchain) (levelOf_lt_of_isDependency h hdependency)

/-- There is a chain as long as the level: it goes down to a dependency of the next lower level. -/
theorem exists_chain (h : (ofEdges edges).levels = .ok levels) (name : String) :
    ∃ chain, IsChainTo edges chain name ∧
      chain.length = (ofEdges edges).levelOf levels name := by
  induction hn : (ofEdges edges).levelOf levels name generalizing name with
  | zero => exact ⟨[], List.isChain_singleton name, rfl⟩
  | succ n ih =>
    obtain ⟨dependency, hdependency, hlevel⟩ :=
      exists_isDependency_of_pos h (Nat.lt_of_lt_of_eq n.succ_pos hn.symm)
    obtain ⟨chain, hchain, hlength⟩ := ih dependency (by omega)
    refine ⟨chain ++ [dependency], isChainTo_concat_iff.2 ⟨hchain, hdependency⟩, ?_⟩
    rw [List.length_append, List.length_singleton, hlength]

/-- Below a tag, there is a declared tag of every level above 0. -/
theorem exists_levelOf_eq (h : (ofEdges edges).levels = .ok levels) {level : Nat}
    (hpos : 0 < level) (name : String) (hle : level ≤ (ofEdges edges).levelOf levels name) :
    ∃ below ∈ (ofEdges edges).names, (ofEdges edges).levelOf levels below = level := by
  induction hn : (ofEdges edges).levelOf levels name generalizing name with
  | zero => omega
  | succ n ih =>
    rcases Nat.lt_or_eq_of_le hle with hlt | heq
    · obtain ⟨dependency, -, hlevel⟩ := exists_isDependency_of_pos h (Nat.lt_of_le_of_lt hpos.le hlt)
      exact ih dependency (by omega) (by omega)
    · exact ⟨name, mem_names_ofEdges.2 (declared_of_pos (Nat.lt_of_lt_of_le hpos hle)), heq.symm⟩

/-- **There are no more levels than tags**, as every level but 0 has a tag of its own. -/
theorem levelOf_le_size (h : (ofEdges edges).levels = .ok levels) (name : String) :
    (ofEdges edges).levelOf levels name ≤ (ofEdges edges).size := by
  have hsub : List.range' 1 ((ofEdges edges).levelOf levels name) ⊆
      (ofEdges edges).names.map ((ofEdges edges).levelOf levels) := by
    intro level hlevel
    obtain ⟨hpos, hlt⟩ := List.mem_range'_1.1 hlevel
    obtain ⟨below, hbelow, heq⟩ := exists_levelOf_eq h hpos name (by omega)
    exact heq ▸ List.mem_map_of_mem hbelow
  have hle := (List.subperm_of_subset List.nodup_range' hsub).length_le
  simpa [names, size] using hle

/-! ### The promise -/

/-- **What is promised of the levels of names.** -/
structure Heights (edges : List (String × List String)) (level : String → Nat) : Prop where
  /-- A name that is not declared has level 0. -/
  undeclared : ∀ name, name ∉ edges.map Prod.fst → level name = 0
  /-- So have the names without dependencies, and no others that are declared. -/
  zero_iff : ∀ name ∈ edges.map Prod.fst,
    level name = 0 ↔ ∀ dependency, ¬IsDependency edges dependency name
  /-- Any other name has one more than the highest level among its dependencies. -/
  highest : ∀ name dependency, IsDependency edges dependency name → ∃ highest,
    IsGreatest {n | ∃ d, IsDependency edges d name ∧ level d = n} highest ∧
      level name = highest + 1
  /-- Levels rise along dependencies. -/
  rises : ∀ name dependency, IsDependency edges dependency name → level dependency < level name
  /-- A level is the length of the longest chain that ends in a name. -/
  longest : ∀ name, IsGreatest {n | ∃ chain, IsChainTo edges chain name ∧ chain.length = n}
    (level name)
  /-- There are no more levels than tags. -/
  bounded : ∀ name, level name ≤ (ofEdges edges).size

theorem heights_levelOf (h : (ofEdges edges).levels = .ok levels) :
    Heights edges ((ofEdges edges).levelOf levels) where
  undeclared name hnot := levelOf_of_not_mem fun hmem => hnot (mem_names_ofEdges.1 hmem)
  zero_iff name _ := by
    constructor
    · intro hzero dependency hdependency
      exact absurd (levelOf_lt_of_isDependency h hdependency) (by omega)
    · intro hnone
      by_contra hne
      obtain ⟨dependency, hdependency, -⟩ := exists_isDependency_of_pos h (Nat.pos_of_ne_zero hne)
      exact hnone dependency hdependency
  highest name dependency hdependency := by
    obtain ⟨top, htop, hlevel⟩ := exists_isDependency_of_pos h
      (Nat.lt_of_le_of_lt (Nat.zero_le _) (levelOf_lt_of_isDependency h hdependency))
    refine ⟨_, ⟨⟨top, htop, rfl⟩, ?_⟩, hlevel⟩
    rintro n ⟨d, hd, rfl⟩
    have hlt := levelOf_lt_of_isDependency h hd
    omega
  rises name dependency := levelOf_lt_of_isDependency h
  longest name := by
    refine ⟨exists_chain h name, ?_⟩
    rintro n ⟨chain, hchain, rfl⟩
    exact length_le_levelOf h hchain
  bounded := levelOf_le_size h

/-! ### The order of the levels -/

/-- A tag is numbered together with its own level. -/
theorem eq_levelOf_of_mem_zip {g : DependencyGraph} {e : Nat × Nat}
    (he : e ∈ (List.range g.size).zip levels) : e.2 = g.levelOf levels (g.nameOf e.1) := by
  have hi : e.1 < g.size := List.mem_range.1 (List.of_mem_zip he).1
  obtain ⟨i, hlt, rfl⟩ := List.mem_iff_getElem.1 he
  have hlevel : i < levels.length := by
    rw [List.length_zip] at hlt
    omega
  simp only [List.getElem_zip, List.getElem_range] at hi ⊢
  rw [levelOf_nameOf hi, level, List.getElem?_eq_getElem hlevel]
  rfl

/-- **Levels are longest chains of dependencies.** They are computed of names as promised, no number on
the way leaves 32 bits when there are fewer than 2 ^ 32 tags, and the order of the levels lists every
tag once, with its level, by level and then by declaration. -/
theorem levels_ofEdges (h : (ofEdges edges).levels = .ok levels) :
    Heights edges ((ofEdges edges).levelOf levels) ∧
    ((ofEdges edges).size < 2 ^ 32 → ∀ name, (ofEdges edges).levelOf levels name < 2 ^ 32) ∧
    ∃ order, (ofEdges edges).levelOrder = .ok order ∧
      (order.map Prod.fst).Perm (List.range (ofEdges edges).size) ∧
      (∀ e ∈ order, e.2 = (ofEdges edges).levelOf levels ((ofEdges edges).nameOf e.1)) ∧
      order.Pairwise fun a b => a.2 < b.2 ∨ a.2 = b.2 ∧ a.1 < b.1 := by
  refine ⟨heights_levelOf h, fun hsize name => Nat.lt_of_le_of_lt (levelOf_le_size h name) hsize,
    ((List.range (ofEdges edges).size).zip levels).mergeSort fun a b => a.2 ≤ b.2, ?_, ?_,
    fun e he => ?_, ?_⟩
  · rw [levelOrder, h]
    rfl
  · have hperm := (List.mergeSort_perm ((List.range (ofEdges edges).size).zip levels)
      fun a b => a.2 ≤ b.2).map Prod.fst
    rwa [List.map_fst_zip (by simp [length_levels h])] at hperm
  · exact eq_levelOf_of_mem_zip (List.mem_mergeSort.1 he)
  · refine pairwise_mergeSort_of_pairwise (List.Pairwise.of_map Prod.fst (fun _ _ hlt => hlt) ?_)
    rw [List.map_fst_zip (by simp [length_levels h])]
    exact List.pairwise_lt_range

/-- A chain of three tags, and a tag that depends on a name nobody declares. -/
def medalEdges : List (String × List String) :=
  [("gold", ["silver", "bronze"]), ("silver", ["bronze"]), ("bronze", []), ("tin", ["ore"])]

theorem levels_ofEdges_medalEdges : (ofEdges medalEdges).levels = .ok [2, 1, 0, 1] ∧
    Heights medalEdges ((ofEdges medalEdges).levelOf [2, 1, 0, 1]) ∧
    (ofEdges medalEdges).levelOf [2, 1, 0, 1] "gold" < 2 ^ 32 ∧
    ∃ order, (ofEdges medalEdges).levelOrder = .ok order ∧
      (order.map Prod.fst).Perm (List.range (ofEdges medalEdges).size) := by
  have hlevels : (ofEdges medalEdges).levels = .ok [2, 1, 0, 1] := rfl
  obtain ⟨hheights, hword, order, horder, hperm, -⟩ := levels_ofEdges hlevels
  exact ⟨hlevels, hheights, hword (by decide) "gold", order, horder, hperm⟩

end TagRules.DependencyGraph
