import TagRules.Proofs.Dependency.Level
import TagRules.Proofs.Dependency.Removal

/-!
# The graph of a tag set

The graph of a tag set has one node per tag, in the order of declaration.

* `nodes_ofTags`, `nameOf_ofTags`, `dependsOn_ofTags`: the nodes.
* `size_ofTags`, `size_removeCycles`: their number, which stays when cycles are broken.
-/

namespace TagRules.DependencyGraph

/-- Different items are all kept. -/
theorem eraseDups_eq_self {l : List String} (h : l.Nodup) : l.eraseDups = l := by
  induction l with
  | nil => rfl
  | cons a l ih =>
    obtain ⟨ha, h⟩ := List.nodup_cons.1 h
    have hfilter : (l.filter fun b => !b == a) = l := by
      refine List.filter_eq_self.2 fun b hb => ?_
      have hne : b ≠ a := fun heq => ha (heq ▸ hb)
      simpa using hne
    rw [List.eraseDups_cons, hfilter, ih h]

theorem dependenciesOf_of_mem {edges : List (String × List String)} {e : String × List String}
    (hnodup : (edges.map Prod.fst).Nodup) (he : e ∈ edges) :
    dependenciesOf edges e.1 = e.2.eraseDups := by
  induction edges with
  | nil => cases he
  | cons f edges ih =>
    rw [List.map_cons, List.nodup_cons] at hnodup
    obtain ⟨hf, hnodup⟩ := hnodup
    have hnot : ∀ name, name ∉ edges.map Prod.fst → edges.filter (·.1 = name) = [] := by
      intro name hname
      refine List.filter_eq_nil_iff.2 fun g hg heq => ?_
      rw [decide_eq_true_eq] at heq
      exact hname (heq ▸ List.mem_map_of_mem hg)
    rcases List.mem_cons.1 he with rfl | he
    · simp [dependenciesOf, hnot e.1 hf]
    · have hne : f.1 ≠ e.1 := fun heq => hf (heq ▸ List.mem_map_of_mem he)
      have : (f :: edges).filter (·.1 = e.1) = edges.filter (·.1 = e.1) := by
        simp [hne]
      rw [dependenciesOf, this]
      exact ih hnodup he

/-- **The nodes of the graph are the tags**, in the order of declaration. -/
theorem nodes_ofTags (tags : TagSet) :
    (ofTags tags).nodes = tags.tags.map fun t => ⟨t.name, t.dependsOn⟩ := by
  have hfst : (tags.tags.map fun t => (t.name, t.dependsOn)).map Prod.fst = tags.tags.map Tag.name := by
    rw [List.map_map]
    rfl
  have hnodup := tags.nodup
  rw [← hfst] at hnodup
  show ((tags.tags.map fun t => (t.name, t.dependsOn)).map Prod.fst).eraseDups.map _ = _
  rw [eraseDups_eq_self hnodup, hfst, List.map_map]
  refine List.map_congr_left fun t ht => ?_
  have hmem : (t.name, t.dependsOn) ∈ tags.tags.map fun t => (t.name, t.dependsOn) :=
    List.mem_map_of_mem ht
  have hdeps : t.dependsOn.eraseDups = t.dependsOn := eraseDups_eq_self (nodup_eraseDups _)
  simp only [Function.comp, TagNode.mk.injEq, true_and]
  rw [dependenciesOf_of_mem hnodup hmem, hdeps]

theorem node_ofTags {tags : TagSet} {i : Nat} {t : Tag} (h : tags.tags[i]? = some t) :
    (ofTags tags).nodes[i]? = some ⟨t.name, t.dependsOn⟩ := by
  rw [nodes_ofTags, List.getElem?_map, h]
  rfl

theorem nameOf_ofTags {tags : TagSet} {i : Nat} {t : Tag} (h : tags.tags[i]? = some t) :
    (ofTags tags).nameOf i = t.name :=
  nameOf_eq (node_ofTags h)

theorem dependsOn_ofTags {tags : TagSet} {i : Nat} {t : Tag} (h : tags.tags[i]? = some t) :
    (ofTags tags).dependsOn i = t.dependsOn :=
  dependsOn_eq (node_ofTags h)

theorem names_ofTags (tags : TagSet) : (ofTags tags).names = tags.names := by
  rw [names, nodes_ofTags, List.map_map]
  rfl

theorem size_ofTags (tags : TagSet) : (ofTags tags).size = tags.tags.length := by
  rw [size, nodes_ofTags, List.length_map]

theorem size_removeCycles (g : DependencyGraph) : g.removeCycles.1.size = g.size := by
  rw [(removal_removeCycles g).1, size_without]

/-- There is one level per tag. -/
theorem length_levels_ofTags {tags : TagSet} {levels : List Nat}
    (h : (ofTags tags).removeCycles.1.levels = .ok levels) : levels.length = tags.tags.length := by
  rw [length_levels h, size_removeCycles, size_ofTags]

end TagRules.DependencyGraph
