import Mathlib.Data.List.Basic
import TagRules.Plan.Basic
import TagRules.Proofs.Outcome

/-!
# Nodes in layers

The nodes of a tag set are listed so that each comes after the nodes that it reads, and runs at a
higher priority than they do.

* `Supplied`: what a node reads is there: columns of transforms for a condition, and columns of
  nodes of a lower priority for everything else.
* `Layered`: every node of a list is supplied by the nodes before it.
* `layered_ofTags`: the nodes of a tag set are layered.
-/

namespace TagRules

/-- One priority comes before another one: its level is lower, or its weight at the same level. -/
instance : LT Priority :=
  ⟨fun p q => p.level < q.level ∨ p.level = q.level ∧ p.weight < q.weight⟩

theorem Priority.lt_iff {p q : Priority} :
    p < q ↔ p.level < q.level ∨ p.level = q.level ∧ p.weight < q.weight :=
  Iff.rfl

theorem Priority.before_iff {p q : Priority} :
    p.before q = true ↔ p.level < q.level ∨ p.level = q.level ∧ p.weight ≤ q.weight := by
  simp [before]

theorem Priority.lt_of_before_of_lt {p q r : Priority} (h : p.before q = true) (h' : q < r) :
    p < r := by
  rw [before_iff] at h
  rw [lt_iff] at h' ⊢
  omega

/-- The columns of truth values that an operation reads. -/
def NodeOp.masks : NodeOp → List Alias
  | .transform _ _ | .custom _ | .condition _ _ => []
  | .conjunction inputs | .disjunction inputs => inputs
  | .apply _ input => [input]

/-- A column holds the values that a condition compares: those of its field, after its transform.
Conditions on the tag list have no such column. -/
def TransformTable.Feeds (table : TransformTable) (a : Alias) (c : Condition) : Prop :=
  c.isTagReference = false ∧
    ∃ column, table[a]? = some column ∧ column.field = c.field ∧
      c.transform = some column.transform

/-- An operation of a batch: no transform, and if a condition reads a column, one of its own field
and transform. -/
def NodeOp.Fits (table : TransformTable) : NodeOp → Prop
  | .transform _ _ => False
  | .condition c input => ∀ a ∈ input, table.Feeds a c
  | .custom _ | .conjunction _ | .disjunction _ | .apply _ _ => True

/-- An operation of a batch is no transform. -/
theorem NodeOp.Fits.kind_ne_transform {table : TransformTable} {op : NodeOp} (h : op.Fits table) :
    op.kind ≠ .transform := by
  cases op with
  | transform field key => exact h.elim
  | condition c input =>
    show (if c.isTagReference then NodeKind.tagReference else .condition) ≠ .transform
    split <;> decide
  | _ => exact fun hkind => nomatch hkind

/-- Some nodes compute a column of truth values before a priority. -/
def Supplies (nodes : List PlanNode) (p : Priority) (a : Alias) : Prop :=
  ∃ m ∈ nodes, m.column = a ∧ m.kind ≠ .application ∧ m.priority < p

/-- **What a node reads is there.** -/
structure Supplied (table : TransformTable) (nodes : List PlanNode) (n : PlanNode) : Prop where
  fits : n.op.Fits table
  masks : ∀ a ∈ n.op.masks, Supplies nodes n.priority a

/-- Every node of a list is in another one, where it runs no later. -/
def Advanced (kept kept' : List PlanNode) : Prop :=
  ∀ m ∈ kept, ∃ m' ∈ kept', m'.column = m.column ∧ m'.op = m.op ∧ m'.level ≤ m.level

theorem Advanced.of_subset {kept kept' : List PlanNode} (h : kept ⊆ kept') :
    Advanced kept kept' :=
  fun m hm => ⟨m, h hm, rfl, rfl, Nat.le_refl _⟩

theorem Supplied.advanced {table : TransformTable} {kept kept' : List PlanNode} {n : PlanNode}
    (hkept : Advanced kept kept') (h : Supplied table kept n) : Supplied table kept' n := by
  refine ⟨h.fits, fun a ha => ?_⟩
  obtain ⟨m, hm, rfl, hkind, hlt⟩ := h.masks a ha
  obtain ⟨m', hm', hcol, hop, hlevel⟩ := hkept m hm
  have hkind' : m'.kind = m.kind := by rw [PlanNode.kind, PlanNode.kind, hop]
  refine ⟨m', hm', hcol, by rwa [hkind'], ?_⟩
  rw [Priority.lt_iff] at hlt ⊢
  simp only [PlanNode.priority, hkind'] at hlt ⊢
  omega

/-- **Nodes in layers**: every node is supplied by those before it, and columns are numbered upwards
from the columns of transforms on. -/
inductive Layered (table : TransformTable) : List PlanNode → Prop
  | nil : Layered table []
  | snoc {nodes : List PlanNode} {n : PlanNode} : Layered table nodes → Supplied table nodes n →
      (∀ m ∈ nodes, m.column < n.column) → table.length ≤ n.column → Layered table (nodes ++ [n])

namespace Flatten

variable {table : TransformTable} {tag : String} {level first : Nat}

/-! ### Numbered operations -/

theorem number_nil : number tag level first [] = [] := rfl

theorem number_cons (op : NodeOp) (ops : List NodeOp) :
    number tag level first (op :: ops) =
      ⟨tag, op, first, level⟩ :: number tag level (first + 1) ops := by
  simp [number, List.zipIdx_cons]

theorem number_append (ops ops' : List NodeOp) :
    number tag level first (ops ++ ops') =
      number tag level first ops ++ number tag level (first + ops.length) ops' := by
  simp [number, List.zipIdx_append]

theorem length_number (ops : List NodeOp) : (number tag level first ops).length = ops.length := by
  simp [number]

theorem mem_number {ops : List NodeOp} {n : PlanNode} :
    n ∈ number tag level first ops ↔
      ∃ k op, ops[k]? = some op ∧ n = ⟨tag, op, first + k, level⟩ := by
  induction ops generalizing first with
  | nil => simp [number_nil]
  | cons op ops ih =>
    rw [number_cons, List.mem_cons, ih]
    constructor
    · rintro (rfl | ⟨k, op', hk, rfl⟩)
      · exact ⟨0, op, rfl, rfl⟩
      · exact ⟨k + 1, op', hk, by rw [Nat.add_assoc, Nat.add_comm 1 k]⟩
    · rintro ⟨k, op', hk, rfl⟩
      cases k with
      | zero =>
        cases hk
        exact .inl rfl
      | succ k => exact .inr ⟨k, op', hk, by rw [Nat.add_assoc, Nat.add_comm 1 k]⟩

/-! ### The nodes of a rule, case by case -/

theorem ofAlternative_ok {r : Rule} {nodes : List PlanNode}
    (h : ofAlternative table tag level first r = .ok nodes) :
    ∃ leaves ops, r = .all leaves ∧ leaves.mapM (ofLeaf table tag) = .ok ops ∧
      nodes = number tag level first (ops ++ [.conjunction (List.range' first ops.length)]) := by
  cases r with
  | all leaves =>
    obtain ⟨ops, hops, h⟩ := Outcome.bind_eq_ok_iff.1 h
    cases h
    exact ⟨leaves, ops, rfl, hops, rfl⟩
  | _ => cases h

theorem ofAlternatives_cons_ok {r : Rule} {rs : List Rule} {nodes : List PlanNode}
    {inputs : List Alias}
    (h : ofAlternatives table tag level first (r :: rs) = .ok (nodes, inputs)) :
    ∃ head rest inputs', ofAlternative table tag level first r = .ok head ∧
      ofAlternatives table tag level (first + head.length) rs = .ok (rest, inputs') ∧
      nodes = head ++ rest ∧ inputs = (first + head.length - 1) :: inputs' := by
  obtain ⟨head, hhead, h⟩ := Outcome.bind_eq_ok_iff.1 h
  obtain ⟨⟨rest, inputs'⟩, hrest, h⟩ := Outcome.bind_eq_ok_iff.1 h
  cases h
  exact ⟨head, rest, inputs', hhead, hrest, rfl, rfl⟩

theorem ofRule_ok {r : Rule} {nodes : List PlanNode}
    (h : ofRule table tag level first r = .ok nodes) :
    ∃ alternatives body inputs, r = .any alternatives ∧
      ofAlternatives table tag level first alternatives = .ok (body, inputs) ∧
      nodes = body ++ number tag level (first + body.length)
        [.disjunction inputs, .apply tag (first + body.length)] := by
  cases r with
  | any alternatives =>
    obtain ⟨⟨body, inputs⟩, hbody, h⟩ := Outcome.bind_eq_ok_iff.1 h
    cases h
    exact ⟨alternatives, body, inputs, rfl, hbody, rfl⟩
  | _ => cases h

theorem ofTags_cons_ok {t : Tag} {rest : List (Tag × Nat)} {nodes : List PlanNode}
    (h : ofTags table first ((t, level) :: rest) = .ok nodes) :
    ∃ head tail, ofRule table t.name level first t.rule = .ok head ∧
      ofTags table (first + head.length) rest = .ok tail ∧ nodes = head ++ tail := by
  obtain ⟨head, hhead, h⟩ := Outcome.bind_eq_ok_iff.1 h
  obtain ⟨tail, htail, h⟩ := Outcome.bind_eq_ok_iff.1 h
  cases h
  exact ⟨head, tail, hhead, htail, rfl⟩

/-! ### Leaves -/

theorem feeds_of_transformInput {c : Condition} {a : Alias} (h : transformInput table c = some a) :
    table.Feeds a c := by
  unfold transformInput at h
  split at h
  · cases h
  · rename_i href
    obtain ⟨key, hkey, hfind⟩ := Option.bind_eq_some_iff.1 h
    obtain ⟨ha, hmatch, -⟩ := List.findIdx?_eq_some_iff_getElem.1 hfind
    rw [Bool.and_eq_true, decide_eq_true_eq, decide_eq_true_eq] at hmatch
    refine ⟨by simpa using href, table[a], List.getElem?_eq_getElem ha, hmatch.1, ?_⟩
    rw [hkey, hmatch.2]

/-- The operation of a leaf reads no truth values. -/
theorem ofLeaf_ok {r : Rule} {op : NodeOp} (h : ofLeaf table tag r = .ok op) :
    op.Fits table ∧ op.masks = [] ∧ op.kind.weight < 2 := by
  cases r with
  | condition c =>
    cases h
    refine ⟨fun a ha => feeds_of_transformInput ha, rfl, ?_⟩
    show (if c.isTagReference then NodeKind.tagReference else NodeKind.condition).weight < 2
    split <;> decide
  | custom key =>
    cases h
    exact ⟨trivial, rfl, Nat.zero_lt_two⟩
  | _ => cases h

/-! ### The nodes are layered -/

/-- What the nodes of some rules are for the nodes before them: layered on top of these, and with
columns that are numbered from `first` on. -/
structure Grows (table : TransformTable) (first : Nat) (pre nodes : List PlanNode) : Prop where
  layered : Layered table (pre ++ nodes)
  column : ∀ n ∈ nodes, first ≤ n.column ∧ n.column < first + nodes.length

/-- Nodes on top of some nodes, all columns of which are numbered below `first`. -/
def Below (table : TransformTable) (first : Nat) (pre : List PlanNode) : Prop :=
  Layered table pre ∧ table.length ≤ first ∧ ∀ n ∈ pre, n.column < first

variable {pre nodes nodes' : List PlanNode}

theorem Grows.nil (h : Below table first pre) : Grows table first pre [] :=
  ⟨by simpa using h.1, by simp⟩

theorem Grows.below (h : Below table first pre) (hg : Grows table first pre nodes) :
    Below table (first + nodes.length) (pre ++ nodes) := by
  refine ⟨hg.layered, Nat.le_trans h.2.1 (Nat.le_add_right _ _), fun n hn => ?_⟩
  rcases List.mem_append.1 hn with hn | hn
  · exact Nat.lt_of_lt_of_le (h.2.2 n hn) (Nat.le_add_right _ _)
  · exact (hg.column n hn).2

theorem Grows.append (hg : Grows table first pre nodes)
    (hg' : Grows table (first + nodes.length) (pre ++ nodes) nodes') :
    Grows table first pre (nodes ++ nodes') := by
  refine ⟨by simpa using hg'.layered, fun n hn => ?_⟩
  rw [List.length_append]
  rcases List.mem_append.1 hn with hn | hn
  · obtain ⟨hle, hlt⟩ := hg.column n hn
    exact ⟨hle, Nat.lt_of_lt_of_le hlt (by omega)⟩
  · obtain ⟨hle, hlt⟩ := hg'.column n hn
    exact ⟨Nat.le_trans (Nat.le_add_right _ _) hle, by rwa [Nat.add_assoc] at hlt⟩

theorem Grows.cons {op : NodeOp} {ops : List NodeOp} (h : Below table first pre)
    (hs : Supplied table pre ⟨tag, op, first, level⟩)
    (hg : Below table (first + 1) (pre ++ [⟨tag, op, first, level⟩]) →
      Grows table (first + 1) (pre ++ [⟨tag, op, first, level⟩]) (number tag level (first + 1) ops)) :
    Grows table first pre (number tag level first (op :: ops)) := by
  have hone : Grows table first pre [⟨tag, op, first, level⟩] :=
    ⟨.snoc h.1 hs h.2.2 h.2.1, by simp⟩
  rw [number_cons]
  exact hone.append (hg (hone.below h))

/-- Leaves can be put on top of any nodes. -/
theorem grows_leaves {ops : List NodeOp} (hops : ∀ op ∈ ops, op.Fits table ∧ op.masks = []) :
    ∀ {first : Nat} {pre : List PlanNode}, Below table first pre →
      Grows table first pre (number tag level first ops) := by
  induction ops with
  | nil => exact fun h => Grows.nil h
  | cons op ops ih =>
    intro first pre h
    obtain ⟨hfits, hmasks⟩ := hops op List.mem_cons_self
    refine Grows.cons h ⟨hfits, by simp [hmasks]⟩ fun h' => ?_
    exact ih (fun op' hop' => hops op' (List.mem_cons_of_mem _ hop')) h'

/-- The nodes of an alternative, of which the last one is its conjunction. -/
theorem grows_ofAlternative {r : Rule} (hr : ofAlternative table tag level first r = .ok nodes)
    (h : Below table first pre) :
    Grows table first pre nodes ∧
      ∃ n ∈ nodes, n.column = first + nodes.length - 1 ∧ n.level = level ∧ n.kind = .conjunction := by
  obtain ⟨leaves, ops, -, hops, rfl⟩ := ofAlternative_ok hr
  have hleaf : ∀ op ∈ ops, op.Fits table ∧ op.masks = [] ∧ op.kind.weight < 2 := by
    intro op hop
    obtain ⟨leaf, -, hleaf⟩ := Outcome.exists_of_mem_mapM hops hop
    exact ofLeaf_ok hleaf
  have hg : Grows table first pre (number tag level first ops) :=
    grows_leaves (fun op hop => ⟨(hleaf op hop).1, (hleaf op hop).2.1⟩) h
  -- The conjunction reads the leaves right before it, which are of a lower weight.
  have hlast : Supplied table (pre ++ number tag level first ops)
      ⟨tag, .conjunction (List.range' first ops.length), first + ops.length, level⟩ := by
    refine ⟨trivial, fun a ha => ?_⟩
    obtain ⟨k, hk, rfl⟩ := List.mem_range'.1 ha
    have hget : ops[k]? = some ops[k] := List.getElem?_eq_getElem hk
    have hweight := (hleaf _ (List.getElem_mem hk)).2.2
    refine ⟨⟨tag, ops[k], first + k, level⟩, ?_, by simp, ?_, ?_⟩
    · exact List.mem_append_right _ (mem_number.2 ⟨k, _, hget, rfl⟩)
    · intro hkind
      have : ops[k].kind = .application := hkind
      rw [this] at hweight
      exact absurd hweight (by decide)
    · exact .inr ⟨rfl, hweight⟩
  have hlen : (number tag level first ops).length = ops.length := length_number ops
  rw [number_append]
  refine ⟨hg.append ?_, ?_⟩
  · rw [hlen]
    exact Grows.cons (hlen ▸ hg.below h) hlast fun h' => Grows.nil h'
  · refine ⟨⟨tag, .conjunction (List.range' first ops.length), first + ops.length, level⟩, ?_, ?_,
      rfl, rfl⟩
    · simp [number_cons]
    · simp [length_number]

/-- The nodes of some alternatives, with their conjunctions among them. -/
theorem grows_ofAlternatives {rs : List Rule} :
    ∀ {first : Nat} {pre nodes : List PlanNode} {inputs : List Alias},
      ofAlternatives table tag level first rs = .ok (nodes, inputs) → Below table first pre →
      Grows table first pre nodes ∧ ∀ a ∈ inputs, ∃ n ∈ nodes, n.column = a ∧ n.level = level ∧
        n.kind = .conjunction := by
  induction rs with
  | nil =>
    intro first pre nodes inputs hr h
    cases hr
    exact ⟨Grows.nil h, by simp⟩
  | cons r rs ih =>
    intro first pre nodes inputs hr h
    obtain ⟨head, rest, inputs', hhead, hrest, rfl, rfl⟩ := ofAlternatives_cons_ok hr
    obtain ⟨hg, n, hn, hcol, hlevel, hkind⟩ := grows_ofAlternative hhead h
    obtain ⟨hg', hin⟩ := ih hrest (hg.below h)
    refine ⟨hg.append hg', fun a ha => ?_⟩
    rcases List.mem_cons.1 ha with rfl | ha
    · exact ⟨n, List.mem_append_left _ hn, hcol, hlevel, hkind⟩
    · obtain ⟨m, hm, rest⟩ := hin a ha
      exact ⟨m, List.mem_append_right _ hm, rest⟩

/-- The nodes of a rule. The disjunction reads conjunctions, and the application reads the
disjunction. -/
theorem grows_ofRule {r : Rule} (hr : ofRule table tag level first r = .ok nodes)
    (h : Below table first pre) : Grows table first pre nodes := by
  obtain ⟨alternatives, body, inputs, -, hbody, rfl⟩ := ofRule_ok hr
  obtain ⟨hg, hin⟩ := grows_ofAlternatives hbody h
  refine hg.append (Grows.cons (hg.below h) ⟨trivial, fun a ha => ?_⟩ fun h' =>
    Grows.cons h' ⟨trivial, fun a ha => ?_⟩ fun h'' => Grows.nil h'')
  · obtain ⟨m, hm, rfl, hlevel, hkind⟩ := hin a ha
    refine ⟨m, List.mem_append_right _ hm, rfl, by simp [hkind], .inr ⟨hlevel, ?_⟩⟩
    show m.kind.weight < 4
    rw [hkind]
    decide
  · rw [List.mem_singleton.1 ha]
    refine ⟨_, List.mem_append_right _ (List.mem_singleton.2 rfl), rfl, ?_, .inr ⟨rfl, ?_⟩⟩
    · exact fun hkind => nomatch hkind
    · show (4 : Nat) < 8
      decide

theorem grows_ofTags {ranked : List (Tag × Nat)} :
    ∀ {first : Nat} {pre nodes : List PlanNode}, ofTags table first ranked = .ok nodes →
      Below table first pre → Grows table first pre nodes := by
  induction ranked with
  | nil =>
    intro first pre nodes hr h
    cases hr
    exact Grows.nil h
  | cons entry ranked ih =>
    obtain ⟨t, level⟩ := entry
    intro first pre nodes hr h
    obtain ⟨head, tail, hhead, htail, rfl⟩ := ofTags_cons_ok hr
    have hg := grows_ofRule hhead h
    exact hg.append (ih htail (hg.below h))

/-- **The nodes of a tag set are layered.** -/
theorem layered_ofTags {ranked : List (Tag × Nat)}
    (h : ofTags table table.length ranked = .ok nodes) : Layered table nodes := by
  simpa using (grows_ofTags h ⟨.nil, Nat.le_refl _, by simp⟩).layered

end Flatten

end TagRules
