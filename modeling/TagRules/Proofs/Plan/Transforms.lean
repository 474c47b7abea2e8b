import Mathlib.Data.List.Nodup
import TagRules.Plan.Basic
import TagRules.Proofs.Rule.Evaluation

/-!
# Columns of transforms

A table has one column per field and transform that a condition of some tag compares.

* `TagSet.Transforms`: what the conditions of some tags compare.
* `TransformTable.pairs`, `TransformTable.mem_pairs_ofTags`: the columns of a table, and which
  columns there are.
* `TransformTable.mem_nodes_iff`, `TransformTable.existsUnique_node`: the nodes of the columns.
* `Flatten.transformInput_eq_some_iff`: the column that a condition reads.
-/

namespace TagRules

/-- A condition of some tag compares a field after a transform. -/
def TagSet.Transforms (tags : TagSet) (field key : String) : Prop :=
  ∃ t ∈ tags.tags, ∃ c, .condition c ∈ t.rule.leaves ∧ c.isTagReference = false ∧
    c.field = field ∧ c.transform = some key

namespace TransformTable

variable {table : TransformTable} {field key : String} {tags : TagSet}

/-- The fields and the transforms of the columns. -/
def pairs (table : TransformTable) : List (String × String) :=
  table.map fun c => (c.field, c.transform)

theorem isSome_find?_iff : (table.find? field key).isSome ↔ (field, key) ∈ table.pairs := by
  simp [find?, pairs, List.findIdx?_isSome]

/-- Where all pairs are different, each is found at its place. -/
theorem find?_eq_some_iff (h : table.pairs.Nodup) {a : Alias} :
    table.find? field key = some a ↔ table.pairs[a]? = some (field, key) := by
  have hplace : ∀ {b : Alias}, table.find? field key = some b →
      table.pairs[b]? = some (field, key) := by
    intro b hb
    obtain ⟨hlt, hmatch, -⟩ := List.findIdx?_eq_some_iff_getElem.1 hb
    rw [Bool.and_eq_true, decide_eq_true_eq, decide_eq_true_eq] at hmatch
    rw [pairs, List.getElem?_map, List.getElem?_eq_getElem hlt, ← hmatch.1, ← hmatch.2]
    rfl
  refine ⟨hplace, fun ha => ?_⟩
  obtain ⟨b, hb⟩ := Option.isSome_iff_exists.1 (isSome_find?_iff.2 (List.mem_of_getElem? ha))
  obtain ⟨hlt, -⟩ := List.getElem?_eq_some_iff.1 ha
  rw [hb, (List.getElem?_inj hlt h).1 (ha.trans (hplace hb).symm)]

/-- A column is added for a new pair only. -/
theorem pairs_add (table : TransformTable) (c : TransformColumn) : (table.add c).pairs =
    if (c.field, c.transform) ∈ table.pairs then table.pairs
    else table.pairs ++ [(c.field, c.transform)] := by
  unfold add
  simp only [isSome_find?_iff]
  split
  · rfl
  · exact List.map_append

/-- Columns are added for all new pairs, for each of them once. -/
theorem pairs_foldl_add {cs : List TransformColumn} : ∀ {table : TransformTable},
    table.pairs.Nodup → (cs.foldl add table).pairs.Nodup ∧
      ∀ p, p ∈ (cs.foldl add table).pairs ↔ p ∈ table.pairs ∨ p ∈ pairs cs := by
  induction cs with
  | nil => exact fun h => ⟨h, by simp [pairs]⟩
  | cons c cs ih =>
    intro table h
    have hadd : (table.add c).pairs.Nodup ∧
        ∀ p, p ∈ (table.add c).pairs ↔ p ∈ table.pairs ∨ p = (c.field, c.transform) := by
      rw [pairs_add]
      split
      · rename_i hold
        exact ⟨h, fun p => ⟨.inl, fun hp => hp.elim id fun heq => heq ▸ hold⟩⟩
      · rename_i hnew
        exact ⟨List.nodup_append_comm.1 (List.nodup_cons.2 ⟨hnew, h⟩), by simp⟩
    obtain ⟨hnodup, hmem⟩ := ih hadd.1
    refine ⟨hnodup, fun p => ?_⟩
    rw [List.foldl_cons, hmem, hadd.2, or_assoc]
    exact or_congr_right List.mem_cons.symm

theorem nodup_pairs_nil : (pairs []).Nodup := List.nodup_nil

theorem nodup_pairs_ofTags (tags : TagSet) : (ofTags tags).pairs.Nodup :=
  (pairs_foldl_add nodup_pairs_nil).1

theorem ofLeaf?_eq_some {tag : String} {r : Rule} {column : TransformColumn}
    (h : ofLeaf? tag r = some column) : ∃ c, r = .condition c ∧ c.isTagReference = false ∧
      column.field = c.field ∧ c.transform = some column.transform := by
  cases r with
  | condition c =>
    rw [ofLeaf?] at h
    split at h
    · cases h
    · rename_i href
      obtain ⟨key, hkey, rfl⟩ := Option.map_eq_some_iff.1 h
      exact ⟨c, rfl, by simpa using href, rfl, hkey⟩
  | _ => cases h

/-- **The columns of a tag set** are those that its conditions need. -/
theorem mem_pairs_ofTags : (field, key) ∈ (ofTags tags).pairs ↔ tags.Transforms field key := by
  rw [ofTags, (pairs_foldl_add nodup_pairs_nil).2]
  simp only [pairs, List.map_nil, List.not_mem_nil, false_or, List.mem_map, List.mem_flatMap,
    List.mem_filterMap]
  constructor
  · rintro ⟨column, ⟨t, ht, r, hr, hcolumn⟩, heq⟩
    obtain ⟨c, hc, href, hfield, hkey⟩ := ofLeaf?_eq_some hcolumn
    cases heq
    subst hc
    exact ⟨t, ht, c, (Rule.mem_leaves_iff t.canonical).2 ⟨hr, rfl⟩, href, hfield.symm, hkey⟩
  · rintro ⟨t, ht, c, hc, href, rfl, hkey⟩
    have hcolumn : ofLeaf? t.name (.condition c) = some ⟨t.name, c.field, key⟩ := by
      rw [ofLeaf?, if_neg (by rw [href]; decide), hkey]
      rfl
    exact ⟨_, ⟨t, ht, _, ((Rule.mem_leaves_iff t.canonical).1 hc).1, hcolumn⟩, rfl⟩

/-- Every column is read by a condition of a rule. -/
theorem exists_reader {column : TransformColumn} (h : column ∈ ofTags tags) :
    tags.Transforms column.field column.transform :=
  mem_pairs_ofTags.1 (List.mem_map_of_mem h)

/-! ### The nodes of columns -/

/-- The node of a column says its field and its transform. -/
theorem mem_nodes_iff {m : PlanNode} : m ∈ table.nodes ↔ ∃ a column, table[a]? = some column ∧
    m = ⟨column.tag, .transform column.field column.transform, a, 0⟩ := by
  rw [nodes, List.mem_map]
  constructor
  · rintro ⟨⟨column, a⟩, hmem, rfl⟩
    exact ⟨a, column, List.mk_mem_zipIdx_iff_getElem?.1 hmem, rfl⟩
  · rintro ⟨a, column, hcolumn, rfl⟩
    exact ⟨(column, a), List.mk_mem_zipIdx_iff_getElem?.2 hcolumn, rfl⟩

theorem pairs_column {m : PlanNode} (hm : m ∈ table.nodes) (hop : m.op = .transform field key) :
    table.pairs[m.column]? = some (field, key) := by
  obtain ⟨a, column, hcolumn, rfl⟩ := mem_nodes_iff.1 hm
  cases hop
  rw [pairs, List.getElem?_map, hcolumn]
  rfl

/-- **Every pair has one node.** -/
theorem existsUnique_node (h : table.pairs.Nodup) (hmem : (field, key) ∈ table.pairs) :
    ∃! m, m ∈ table.nodes ∧ m.op = .transform field key := by
  obtain ⟨column, hcolumn, heq⟩ := List.mem_map.1 hmem
  obtain ⟨a, ha⟩ := List.mem_iff_getElem?.1 hcolumn
  cases heq
  refine ⟨_, ⟨mem_nodes_iff.2 ⟨a, column, ha, rfl⟩, rfl⟩, fun m ⟨hm, hop⟩ => ?_⟩
  obtain ⟨b, column', hb, rfl⟩ := mem_nodes_iff.1 hm
  have hplace : table.pairs[a]? = some (column.field, column.transform) := by
    rw [pairs, List.getElem?_map, ha]
    rfl
  obtain ⟨hlt, -⟩ := List.getElem?_eq_some_iff.1 hplace
  obtain rfl : a = b := (List.getElem?_inj hlt h).1 (hplace.trans (pairs_column hm hop).symm)
  cases ha.symm.trans hb
  rfl

end TransformTable

/-- **The column that a condition reads** is that of its field and its transform. -/
theorem Flatten.transformInput_eq_some_iff {table : TransformTable} (h : table.pairs.Nodup)
    {c : Condition} {a : Alias} :
    Flatten.transformInput table c = some a ↔ c.isTagReference = false ∧
      ∃ key, c.transform = some key ∧ table.pairs[a]? = some (c.field, key) := by
  unfold Flatten.transformInput
  split
  · rename_i href
    simp [href]
  · rename_i href
    simp only [Option.bind_eq_some_iff, TransformTable.find?_eq_some_iff h]
    exact (and_iff_right (by simpa using href)).symm

end TagRules
