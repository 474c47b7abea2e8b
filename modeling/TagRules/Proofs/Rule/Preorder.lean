import TagRules.Proofs.Rule.Observation

/-!
# The nodes of a rule in pre-order

The paths of the nodes in pre-order ascend lexicographically: a path comes before those that go on
from it, and siblings come in the order of their indices. So sorting paths brings the nodes that they
lead to into pre-order.

* `Rule.places`: the nodes of a rule with their paths, a node before its children.
* `Rule.map_snd_places`: the nodes are those of `Rule.subrules`.
* `Rule.perm_places`: they are the nodes that are there in post-order, with the same paths.
* `Rule.ascending_places`: the paths ascend.
* `Rule.filterMap_atPath_sort`: sorting the paths of some nodes brings the nodes into pre-order.
-/

namespace TagRules.Rule

mutual

/-- **The nodes of a rule with their paths**, a node before its children, where a path leads to the
rule. -/
def places (path : List Nat) : Rule → List (List Nat × Rule)
  | .condition c => [(path, .condition c)]
  | .custom key => [(path, .custom key)]
  | .all rs => (path, .all rs) :: placesList path 0 rs
  | .any rs => (path, .any rs) :: placesList path 0 rs

/-- The nodes of some rules, which are children of one node from an index on. -/
def placesList (path : List Nat) (index : Nat) : List Rule → List (List Nat × Rule)
  | [] => []
  | r :: rs => places (path ++ [index]) r ++ placesList path (index + 1) rs

end

mutual

theorem map_snd_places : ∀ (r : Rule) (path : List Nat),
    (r.places path).map Prod.snd = r.subrules
  | .condition _, _ => rfl
  | .custom _, _ => rfl
  | .all rs, path => by rw [places, List.map_cons, map_snd_placesList rs, subrules]
  | .any rs, path => by rw [places, List.map_cons, map_snd_placesList rs, subrules]

theorem map_snd_placesList : ∀ (rs : List Rule) (path : List Nat) (index : Nat),
    (placesList path index rs).map Prod.snd = subrulesList rs
  | [], _, _ => rfl
  | r :: rs, path, index => by
    rw [placesList, List.map_append, map_snd_places r, map_snd_placesList rs, subrulesList]

end

mutual

/-- **Pre-order and post-order list the same nodes.** -/
theorem perm_places : ∀ (r : Rule) (path : List Nat), (r.places path).Perm (r.located path)
  | .condition _, _ => .refl _
  | .custom _, _ => .refl _
  | .all rs, path => by
    rw [places, located]
    exact ((perm_placesList rs path 0).cons _).trans (List.perm_append_singleton _ _).symm
  | .any rs, path => by
    rw [places, located]
    exact ((perm_placesList rs path 0).cons _).trans (List.perm_append_singleton _ _).symm

theorem perm_placesList : ∀ (rs : List Rule) (path : List Nat) (index : Nat),
    (placesList path index rs).Perm (locatedList path index rs)
  | [], _, _ => .refl _
  | r :: rs, path, index => by
    rw [placesList, locatedList]
    exact (perm_places r _).append (perm_placesList rs path (index + 1))

end

/-- There are as many nodes as observations of them. -/
theorem length_located (r : Rule) (path : List Nat) :
    (r.located path).length = r.subrules.length := by
  rw [← (perm_places r path).length_eq, ← map_snd_places r path, List.length_map]

/-! ### Ascending paths -/

/-- The paths of the nodes below a composite go on from that of the composite. -/
theorem lt_of_mem_placesList {rs : List Rule} {path q : List Nat}
    (h : q ∈ (placesList path 0 rs).map Prod.fst) : path < q := by
  obtain ⟨⟨_, s⟩, hmem, rfl⟩ := List.mem_map.1 h
  obtain ⟨k, _, rest, -, hq, -⟩ := (mem_locatedList rs).1 ((perm_placesList rs path 0).mem_iff.1 hmem)
  have hlt : path ++ [] < path ++ (0 + k) :: rest := List.append_left_lt (List.nil_lt_cons _ _)
  rwa [List.append_nil, ← hq] at hlt

mutual

/-- **The paths of the nodes in pre-order ascend.** -/
theorem ascending_places : ∀ (r : Rule) (path : List Nat),
    ((r.places path).map Prod.fst).Pairwise (· < ·)
  | .condition _, _ => List.pairwise_singleton _ _
  | .custom _, _ => List.pairwise_singleton _ _
  | .all rs, path => by
    rw [places, List.map_cons]
    exact .cons (fun _ hq => lt_of_mem_placesList hq) (ascending_placesList rs path 0)
  | .any rs, path => by
    rw [places, List.map_cons]
    exact .cons (fun _ hq => lt_of_mem_placesList hq) (ascending_placesList rs path 0)

theorem ascending_placesList : ∀ (rs : List Rule) (path : List Nat) (index : Nat),
    ((placesList path index rs).map Prod.fst).Pairwise (· < ·)
  | [], _, _ => .nil
  | r :: rs, path, index => by
    rw [placesList, List.map_append, List.pairwise_append]
    refine ⟨ascending_places r _, ascending_placesList rs path (index + 1), fun p hp q hq => ?_⟩
    -- The paths part at the index of the child, which is lower for the first one.
    obtain ⟨⟨_, s⟩, hs, rfl⟩ := List.mem_map.1 hp
    obtain ⟨⟨_, s'⟩, hs', rfl⟩ := List.mem_map.1 hq
    obtain ⟨rest, hp, -⟩ := (mem_located r).1 ((perm_places r _).mem_iff.1 hs)
    obtain ⟨k, _, rest', -, hq, -⟩ :=
      (mem_locatedList rs).1 ((perm_placesList rs path (index + 1)).mem_iff.1 hs')
    show (_ : List Nat) < _
    rw [hp, hq, List.append_assoc]
    exact List.append_left_lt (List.cons_lt_cons_iff.2 (.inl (by omega)))

end

/-! ### Sorting paths -/

theorem mem_places {r s : Rule} {path : List Nat} :
    (path, s) ∈ r.places [] ↔ r.atPath path = some s := by
  rw [(perm_places r []).mem_iff, mem_located]
  simp only [List.nil_append, exists_eq_left']

/-- The paths of some of the nodes. -/
theorem mem_map_fst_places {r : Rule} {p : Rule → Bool} {path : List Nat} :
    path ∈ ((r.places []).filter (p ·.2)).map Prod.fst ↔
      ∃ s, r.atPath path = some s ∧ p s = true := by
  rw [List.mem_map]
  constructor
  · rintro ⟨⟨_, s⟩, hmem, rfl⟩
    obtain ⟨hmem, hs⟩ := List.mem_filter.1 hmem
    exact ⟨s, mem_places.1 hmem, hs⟩
  · rintro ⟨s, hpath, hs⟩
    exact ⟨(path, s), List.mem_filter.2 ⟨mem_places.2 hpath, hs⟩, rfl⟩

theorem nodup_map_fst_places (r : Rule) (p : List Nat × Rule → Bool) :
    (((r.places []).filter p).map Prod.fst).Nodup :=
  (((perm_places r []).map Prod.fst).nodup_iff.2 (nodup_located r [])).sublist
    (List.filter_sublist.map _)

/-- The nodes that these paths lead to. -/
theorem filterMap_atPath_places (r : Rule) (p : Rule → Bool) :
    (((r.places []).filter (p ·.2)).map Prod.fst).filterMap r.atPath = r.subrules.filter p := by
  have hnodes : ((r.places []).filter (p ·.2)).filterMap (fun x => r.atPath x.1) =
      ((r.places []).filter (p ·.2)).filterMap (some ∘ Prod.snd) :=
    List.filterMap_congr fun x hx => mem_places.1 (List.mem_of_mem_filter hx)
  rw [List.filterMap_map, ← map_snd_places r [], List.filter_map, ← List.filterMap_eq_map]
  exact hnodes

/-- **Sorting the paths of some nodes** brings the nodes into pre-order. -/
theorem filterMap_atPath_sort {r : Rule} {p : Rule → Bool} {paths : List (List Nat)}
    (hnodup : paths.Nodup)
    (hmem : ∀ path, path ∈ paths ↔ ∃ s, r.atPath path = some s ∧ p s = true) :
    (paths.mergeSort fun p q => !q.lex p).filterMap r.atPath = r.subrules.filter p := by
  -- The order of the sort: no path comes before one that it is less than.
  have hle : ∀ p q : List Nat, (!q.lex p) = true ↔ ¬q < p := fun p q => by
    rw [Bool.not_eq_true', ← Bool.not_eq_true, List.lex_eq_true_iff_lt]
  have hsorted : (paths.mergeSort fun p q => !q.lex p).Pairwise fun p q => ¬q < p := by
    refine (List.pairwise_mergeSort (fun a b c hab hbc => ?_) (fun a b => ?_) paths).imp
      fun {a b} hab => (hle a b).1 hab
    · exact (hle a c).2 (List.le_trans ((hle a b).1 hab) ((hle b c).1 hbc))
    · rw [Bool.or_eq_true, hle, hle]
      exact List.le_total a b
  have hascending : (((r.places []).filter (p ·.2)).map Prod.fst).Pairwise fun p q => ¬q < p :=
    ((ascending_places r []).sublist (List.filter_sublist.map _)).imp fun hlt => List.le_of_lt hlt
  -- Both lists hold the same paths in ascending order.
  have hperm : (paths.mergeSort fun p q => !q.lex p).Perm
      (((r.places []).filter (p ·.2)).map Prod.fst) :=
    (List.mergeSort_perm paths _).trans <|
      (List.perm_ext_iff_of_nodup hnodup (nodup_map_fst_places r _)).2 fun path =>
        (hmem path).trans mem_map_fst_places.symm
  rw [hperm.eq_of_pairwise (fun _ _ _ _ hpq hqp => List.le_antisymm hpq hqp) hsorted hascending,
    filterMap_atPath_places]

end TagRules.Rule
