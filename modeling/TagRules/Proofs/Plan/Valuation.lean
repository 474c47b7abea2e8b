import Mathlib.Data.List.Forall2
import TagRules.Proofs.Plan.Built
import TagRules.Proofs.Plan.Flattened
import TagRules.Proofs.Rule.Evaluation

/-!
# Truth values of columns

The truth values of the leaves on one record fix those of all columns, and the optimiser changes
neither.

* `Truth`: truth values of rules, level by level.
* `NodeOp.meaning`: the truth value of an operation.
* `Consistent`: every column has the truth value that its node says.
* `consistent_valuation`: layered nodes have consistent truth values.
* `consistent_after`: they stay consistent in the optimiser, and a dropped column has the same truth
  value as its target.
* `leaves_ofTags`, `sameLeaves_after`: the leaves of the nodes are those of the rules.
* `FlattenedTo.value_eq`: the column of a rule has the truth value of the rule.
* `applications_value`: the column of an application has the truth value of the rule of its tag.
-/

namespace TagRules

/-- **Truth values of rules**, level by level. Only conditions on the tag list tell levels apart. -/
structure Truth where
  /-- The truth value of a rule at a level. -/
  value : Nat → Rule → Bool
  all : ∀ level rs, value level (.all rs) = rs.all (value level)
  any : ∀ level rs, value level (.any rs) = rs.any (value level)
  free : ∀ level level' l, l.isLeaf = true → l.isTagReference = false →
    value level l = value level' l

namespace NodeOp

/-- The leaf of a rule that an operation stands for. -/
def leaf? : NodeOp → Option Rule
  | .condition c _ => some (.condition c)
  | .custom key => some (.custom key)
  | .transform _ _ | .conjunction _ | .disjunction _ | .apply _ _ => none

/-- **The truth value of an operation**, from those of leaves and of columns. -/
def meaning (leaf : Rule → Bool) (value : Alias → Bool) : NodeOp → Bool
  | .transform _ _ => false
  | .condition c _ => leaf (.condition c)
  | .custom key => leaf (.custom key)
  | .conjunction inputs => inputs.all value
  | .disjunction inputs => inputs.any value
  | .apply _ input => value input

variable {leaf leaf' : Rule → Bool} {value value' : Alias → Bool}

theorem leaf?_redirect (f : Alias → Alias) (op : NodeOp) : (op.redirect f).leaf? = op.leaf? := by
  cases op <;> rfl

theorem meaning_of_leaf? {op : NodeOp} {l : Rule} (h : op.leaf? = some l) :
    op.meaning leaf value = leaf l := by
  cases op <;> cases h <;> rfl

theorem isLeaf_of_leaf? {op : NodeOp} {l : Rule} (h : op.leaf? = some l) :
    l.isLeaf = true ∧ (l.isTagReference = true ↔ op.kind = .tagReference) := by
  cases op with
  | condition c input =>
    cases h
    refine ⟨rfl, ?_⟩
    show c.isTagReference = true ↔ (if c.isTagReference then NodeKind.tagReference else _) = _
    cases c.isTagReference <;> simp
  | custom key =>
    cases h
    exact ⟨rfl, by simp [Rule.isTagReference, kind]⟩
  | _ => cases h

theorem leaf?_of_onlyChild? {op : NodeOp} {child : Alias} (h : op.onlyChild? = some child) :
    op.leaf? = none := by
  unfold onlyChild? at h
  split at h <;> first | rfl | cases h

/-- The truth value depends on the columns that are read. -/
theorem meaning_congr {op : NodeOp} (h : ∀ a ∈ op.masks, value a = value' a) :
    op.meaning leaf value = op.meaning leaf value' := by
  cases op with
  | conjunction inputs =>
    have hmap : inputs.map value = inputs.map value' := List.map_congr_left h
    simpa [meaning, List.all_map] using congrArg (fun bs => bs.all id) hmap
  | disjunction inputs =>
    have hmap : inputs.map value = inputs.map value' := List.map_congr_left h
    simpa [meaning, List.any_map] using congrArg (fun bs => bs.any id) hmap
  | apply tag input => exact h input (List.mem_singleton.2 rfl)
  | _ => rfl

theorem meaning_redirect (f : Alias → Alias) (op : NodeOp) :
    (op.redirect f).meaning leaf value = op.meaning leaf (fun a => value (f a)) := by
  cases op with
  | conjunction inputs => exact List.all_map
  | disjunction inputs => exact List.any_map
  | _ => rfl

theorem meaning_of_onlyChild? {op : NodeOp} {child : Alias} (h : op.onlyChild? = some child) :
    op.meaning leaf value = value child := by
  unfold onlyChild? at h
  split at h <;> cases h <;> simp [meaning]

end NodeOp

/-- **Every column has the truth value that its node says.** -/
def Consistent (T : Truth) (value : Alias → Bool) (nodes : List PlanNode) : Prop :=
  ∀ n ∈ nodes, value n.column = n.op.meaning (T.value n.level) value

variable {T : Truth} {table : TransformTable} {nodes : List PlanNode} {value : Alias → Bool}

/-- Only conditions on the tag list tell levels apart. -/
theorem Truth.meaning_eq (T : Truth) {op : NodeOp} {level level' : Nat}
    (h : op.kind = .tagReference → level = level') :
    op.meaning (T.value level) value = op.meaning (T.value level') value := by
  cases hleaf : op.leaf? with
  | none => cases op <;> first | rfl | cases hleaf
  | some l =>
    obtain ⟨hl, href⟩ := NodeOp.isLeaf_of_leaf? hleaf
    rw [NodeOp.meaning_of_leaf? hleaf, NodeOp.meaning_of_leaf? hleaf]
    by_cases hkind : op.kind = .tagReference
    · rw [h hkind]
    · exact T.free level level' l hl (Bool.eq_false_iff.2 fun h => hkind (href.1 h))

/-! ### Consistent truth values -/

/-- The truth values of the columns of some nodes, one node after the other. -/
def valuation (T : Truth) (nodes : List PlanNode) : Alias → Bool :=
  nodes.foldl (fun value n a =>
    if a = n.column then n.op.meaning (T.value n.level) value else value a) fun _ => false

theorem valuation_snoc (n : PlanNode) (a : Alias) :
    valuation T (nodes ++ [n]) a = if a = n.column then
      n.op.meaning (T.value n.level) (valuation T nodes) else valuation T nodes a := by
  rw [valuation, List.foldl_append]
  rfl

/-- Layered nodes read columns of nodes among them. -/
theorem Layered.exists_of_mem_masks (h : Layered table nodes) :
    ∀ n ∈ nodes, ∀ a ∈ n.op.masks, ∃ m ∈ nodes, m.column = a := by
  induction h with
  | nil => simp
  | snoc _ hs _ _ ih =>
    intro n hn a ha
    rcases List.mem_append.1 hn with hn | hn
    · obtain ⟨m, hm, hcol⟩ := ih n hn a ha
      exact ⟨m, List.mem_append_left _ hm, hcol⟩
    · rw [List.mem_singleton.1 hn] at ha
      obtain ⟨m, hm, hcol, -⟩ := hs.masks a ha
      exact ⟨m, List.mem_append_left _ hm, hcol⟩

/-- **Layered nodes have consistent truth values.** -/
theorem consistent_valuation (T : Truth) (h : Layered table nodes) :
    Consistent T (valuation T nodes) nodes := by
  induction h with
  | nil => exact fun n hn => absurd hn (by simp)
  | @snoc nodes n hlayered hs hlt _ ih =>
    -- The columns that are read are older ones, and these keep their values.
    have hold : ∀ a, (∃ m ∈ nodes, m.column = a) →
        valuation T (nodes ++ [n]) a = valuation T nodes a := by
      rintro a ⟨m, hm, rfl⟩
      rw [valuation_snoc, if_neg (Nat.ne_of_lt (hlt m hm))]
    refine Optimize.forall_mem_snoc (fun m hm => ?_) ?_
    · rw [hold m.column ⟨m, hm, rfl⟩, ih m hm]
      exact (NodeOp.meaning_congr fun a ha =>
        hold a (hlayered.exists_of_mem_masks m hm a ha)).symm
    · rw [valuation_snoc, if_pos rfl]
      refine (NodeOp.meaning_congr fun a ha => hold a ?_).symm
      obtain ⟨m, hm, hcol, -⟩ := hs.masks a ha
      exact ⟨m, hm, hcol⟩

/-! ### The optimiser -/

namespace Optimize

variable {options : PlannerOptions} {s : State}

/-- A dropped column has the same truth value as its target. -/
def SameValues (value : Alias → Bool) (nodes : List PlanNode) (s : State) : Prop :=
  ∀ n ∈ nodes, n.kind ≠ .application → value (s.target n.column) = value n.column

/-- A redirected operation has the same truth value. -/
theorem meaning_redirect_target {n : PlanNode} (hn : Supplied table nodes n)
    (hsame : SameValues value nodes s) :
    (n.op.redirect s.target).meaning (T.value n.level) value =
      n.op.meaning (T.value n.level) value := by
  rw [NodeOp.meaning_redirect]
  refine NodeOp.meaning_congr fun a ha => ?_
  obtain ⟨m, hm, rfl, hkind, -⟩ := hn.masks a ha
  exact hsame m hm hkind

theorem SameValues.snoc {n : PlanNode} {target : Alias} {kept : List PlanNode}
    (hsame : SameValues value nodes s) (hlt : ∀ m ∈ nodes, m.column < n.column)
    (hvalue : value target = value n.column) :
    SameValues value (nodes ++ [n]) ⟨(n.column, target) :: s.redirects, kept⟩ := by
  refine forall_mem_snoc (fun m hm hkind => ?_) fun _ => ?_
  · rw [State.target_cons, if_neg (Nat.ne_of_lt (hlt m hm))]
    exact hsame m hm hkind
  · rw [State.target_cons, if_pos rfl, hvalue]

/-- **A visit keeps the truth values.** -/
theorem consistent_step {n : PlanNode} (hkept : Kept table nodes s)
    (hlt : ∀ m ∈ nodes, m.column < n.column) (hn : Supplied table nodes n)
    (hvalue : value n.column = n.op.meaning (T.value n.level) value)
    (hc : Consistent T value s.kept) (hsame : SameValues value nodes s) :
    Consistent T value (step options s n).kept ∧
      SameValues value (nodes ++ [n]) (step options s n) := by
  rw [← meaning_redirect_target hn hsame] at hvalue
  obtain ⟨child, -, hchild, heq⟩ | ⟨before, m, behind, -, hsplit, hop, hkind, href, heq⟩ |
    ⟨-, -, heq⟩ := step_cases options s n
  · rw [heq]
    rw [NodeOp.meaning_of_onlyChild? hchild] at hvalue
    exact ⟨hc, hsame.snoc hlt hvalue.symm⟩
  · -- Both nodes have the same operation, and the same level if they read the tag list.
    have hmkind : m.op.kind = n.kind := by rw [hop, NodeOp.kind_redirect]; rfl
    have hm : value m.column = m.op.meaning (T.value m.level) value := hc m (by simp [hsplit])
    have hcolumn : value m.column = value n.column := by
      rw [hm, hvalue, ← hop]
      exact T.meaning_eq fun h => href (hmkind ▸ h)
    rw [heq]
    refine ⟨fun k hk => ?_, hsame.snoc hlt hcolumn⟩
    rcases List.mem_append.1 hk with hk | hk
    · exact hc k (by simp [hsplit, hk])
    rcases List.mem_cons.1 hk with rfl | hk
    · refine hm.trans (T.meaning_eq fun h => ?_)
      have := href (hmkind ▸ h)
      simp only
      omega
    · exact hc k (by simp [hsplit, hk])
  · rw [heq]
    refine ⟨forall_mem_snoc hc hvalue, forall_mem_snoc hsame fun _ => ?_⟩
    refine congrArg value (State.target_of_forall_ne fun e he hcol => ?_)
    obtain ⟨k, hk, hk'⟩ := hkept.dropped e he
    exact Nat.ne_of_lt (hlt k hk) (by rw [hk', hcol])

/-- **The truth values stay consistent in the optimiser.** -/
theorem consistent_after (h : Layered table nodes) (hc : Consistent T value nodes) :
    Consistent T value (after options nodes).kept ∧
      SameValues value nodes (after options nodes) := by
  induction h with
  | nil => exact ⟨fun n hn => absurd hn (by simp [after]), fun n hn => absurd hn (by simp)⟩
  | @snoc nodes n hlayered hs hlt _ ih =>
    obtain ⟨hkept, hsame⟩ := ih fun m hm => hc m (List.mem_append_left _ hm)
    rw [after_snoc]
    exact consistent_step (kept_after hlayered) hlt hs (hc n (by simp)) hkept hsame

/-- **The kept leaves are the visited ones**, at the same level if they read the tag list. -/
structure SameLeaves (nodes kept : List PlanNode) : Prop where
  kept_of : ∀ n ∈ nodes, ∀ l, n.op.leaf? = some l →
    ∃ m ∈ kept, m.op.leaf? = some l ∧ (n.kind = .tagReference → m.level = n.level)
  of_kept : ∀ m ∈ kept, ∀ l, m.op.leaf? = some l →
    ∃ n ∈ nodes, n.op.leaf? = some l ∧ (m.kind = .tagReference → m.level = n.level)

/-- A visit that drops a node, for which a kept one stands if it is a leaf. -/
theorem SameLeaves.drop {kept : List PlanNode} {n : PlanNode} (h : SameLeaves nodes kept)
    (hn : ∀ l, n.op.leaf? = some l → ∃ m ∈ kept, m.op.leaf? = some l ∧
      (n.kind = .tagReference → m.level = n.level)) : SameLeaves (nodes ++ [n]) kept := by
  refine ⟨forall_mem_snoc h.kept_of hn, fun m hm l hl => ?_⟩
  obtain ⟨k, hk, rest⟩ := h.of_kept m hm l hl
  exact ⟨k, List.mem_append_left _ hk, rest⟩

/-- A kept leaf runs earlier, unless it reads the tag list. -/
theorem SameLeaves.advance {before behind : List PlanNode} {m : PlanNode} {level : Nat}
    (h : SameLeaves nodes (before ++ m :: behind)) (hlevel : m.kind = .tagReference → level = m.level) :
    SameLeaves nodes (before ++ { m with level := level } :: behind) := by
  refine ⟨fun n hn l hl => ?_, fun k hk l hl => ?_⟩
  · obtain ⟨k, hk, hkl, href⟩ := h.kept_of n hn l hl
    rcases List.mem_append.1 hk with hk | hk
    · exact ⟨k, by simp [hk], hkl, href⟩
    rcases List.mem_cons.1 hk with rfl | hk
    · refine ⟨{ k with level := level }, by simp, hkl, fun hkind => ?_⟩
      have hkk : k.kind = .tagReference := by
        rw [PlanNode.kind, ← (NodeOp.isLeaf_of_leaf? hkl).2, (NodeOp.isLeaf_of_leaf? hl).2]
        exact hkind
      rw [hlevel hkk, href hkind]
    · exact ⟨k, by simp [hk], hkl, href⟩
  · rcases List.mem_append.1 hk with hk | hk
    · exact h.of_kept k (by simp [hk]) l hl
    rcases List.mem_cons.1 hk with rfl | hk
    · obtain ⟨n, hn, hnl, href⟩ := h.of_kept m (by simp) l hl
      exact ⟨n, hn, hnl, fun hkind => (hlevel hkind).trans (href hkind)⟩
    · exact h.of_kept k (by simp [hk]) l hl

/-- **The optimiser keeps the leaves.** -/
theorem sameLeaves_after (h : Layered table nodes) :
    SameLeaves nodes (after options nodes).kept := by
  induction h with
  | nil => exact ⟨fun n hn => absurd hn (by simp), fun n hn => absurd hn (by simp [after])⟩
  | @snoc nodes n _ _ _ _ ih =>
    rw [after_snoc]
    generalize after options nodes = s at ih
    obtain ⟨child, -, hchild, heq⟩ | ⟨before, m, behind, -, hsplit, hop, -, href, heq⟩ |
      ⟨-, -, heq⟩ := step_cases options s n
    · rw [heq]
      refine ih.drop fun l hl => ?_
      rw [← NodeOp.leaf?_redirect s.target, NodeOp.leaf?_of_onlyChild? hchild] at hl
      cases hl
    · have hmkind : m.kind = n.kind := by rw [PlanNode.kind, hop, NodeOp.kind_redirect]; rfl
      rw [heq]
      refine (SameLeaves.advance (hsplit ▸ ih) fun hkind => ?_).drop fun l hl => ?_
      · have := href (hmkind ▸ hkind)
        omega
      · refine ⟨_, List.mem_append_right _ List.mem_cons_self, ?_, fun hkind => ?_⟩
        · show m.op.leaf? = some l
          rw [hop, NodeOp.leaf?_redirect, hl]
        · have := href hkind
          simp only
          omega
    · rw [heq]
      refine ⟨forall_mem_snoc (fun k hk l hl => ?_) fun l hl => ?_,
        forall_mem_snoc (fun k hk l hl => ?_) fun l hl => ?_⟩
      · obtain ⟨m, hm, rest⟩ := ih.kept_of k hk l hl
        exact ⟨m, List.mem_append_left _ hm, rest⟩
      · exact ⟨{ n with op := n.op.redirect s.target }, by simp,
          (NodeOp.leaf?_redirect _ _).trans hl, fun _ => rfl⟩
      · obtain ⟨m, hm, rest⟩ := ih.of_kept k hk l hl
        exact ⟨m, List.mem_append_left _ hm, rest⟩
      · exact ⟨n, by simp, (NodeOp.leaf?_redirect s.target n.op).symm.trans hl, fun _ => rfl⟩

end Optimize

/-! ### The nodes of rules -/

/-- **The column of a rule has the truth value of the rule.** -/
theorem FlattenedTo.value_eq {tag : String} {level : Nat} {r : Rule} {a : Alias}
    (h : FlattenedTo nodes tag level r a) (hc : Consistent T value nodes) :
    value a = T.value level r := by
  induction h with
  | @intro n r hn _ hlevel hop _ ih =>
    have hchildren : n.op.inputs.length = r.children.length →
        n.op.inputs.map value = r.children.map (T.value level) := by
      intro hlength
      refine List.ext_getElem (by simpa using hlength) fun i hi hi' => ?_
      rw [List.length_map] at hi hi'
      rw [List.getElem_map, List.getElem_map]
      exact ih i _ _ (List.getElem?_eq_getElem hi') (List.getElem?_eq_getElem hi)
    rw [hc n hn, hlevel]
    generalize n.op = op at hop hchildren
    cases r with
    | condition c =>
      cases op with
      | condition c' input =>
        cases hop
        rfl
      | _ => exact hop.elim
    | custom key =>
      cases op with
      | custom key' =>
        cases hop
        rfl
      | _ => exact hop.elim
    | all rs =>
      cases op with
      | conjunction inputs =>
        have hmap := congrArg (fun bs => bs.all id) (hchildren hop)
        simp only [List.all_map, Function.id_comp] at hmap
        exact hmap.trans (T.all level rs).symm
      | _ => exact hop.elim
    | any rs =>
      cases op with
      | disjunction inputs =>
        have hmap := congrArg (fun bs => bs.any id) (hchildren hop)
        simp only [List.any_map, Function.id_comp] at hmap
        exact hmap.trans (T.any level rs).symm
      | _ => exact hop.elim

namespace Flatten

variable {tag : String} {level first : Nat}

theorem leaf?_of_ofLeaf {r : Rule} {op : NodeOp} (h : ofLeaf table tag r = .ok op) :
    op.leaf? = some r := by
  cases r <;> cases h <;> rfl

/-- The leaf of a node with its level. -/
def levelLeaf? (n : PlanNode) : Option (Rule × Nat) := n.op.leaf?.map fun l => (l, n.level)

theorem levelLeaf?_number {leaves : List Rule} {ops : List NodeOp}
    (h : List.Forall₂ (fun l op => ofLeaf table tag l = .ok op) leaves ops) : ∀ first : Nat,
      (number tag level first ops).filterMap levelLeaf? = leaves.map fun l => (l, level) := by
  induction h with
  | nil => exact fun _ => rfl
  | @cons l op leaves ops hop _ ih =>
    intro first
    have hleaf : levelLeaf? ⟨tag, op, first, level⟩ = some (l, level) := by
      rw [levelLeaf?, leaf?_of_ofLeaf hop]
      rfl
    rw [number_cons, List.filterMap_cons, hleaf, ih, List.map_cons]

theorem leaves_ofAlternatives {rs : List Rule} :
    ∀ {first : Nat} {nodes : List PlanNode} {inputs : List Alias},
      ofAlternatives table tag level first rs = .ok (nodes, inputs) →
      nodes.filterMap levelLeaf? = (rs.flatMap Rule.children).map fun l => (l, level) := by
  induction rs with
  | nil =>
    intro first nodes inputs h
    cases h
    rfl
  | cons r rs ih =>
    intro first nodes inputs h
    obtain ⟨head, rest, inputs', hhead, hrest, rfl, -⟩ := ofAlternatives_cons_ok h
    obtain ⟨leaves, ops, rfl, hops, rfl⟩ := ofAlternative_ok hhead
    rw [List.filterMap_append, ih hrest, number_append, List.filterMap_append,
      levelLeaf?_number (Outcome.forall₂_of_mapM hops), List.flatMap_cons, List.map_append]
    simp [number_cons, number_nil, levelLeaf?, NodeOp.leaf?, Rule.children]

/-- **The leaves of the nodes are those of the rules**, at the levels of their tags. -/
theorem leaves_ofTags {ranked : List (Tag × Nat)} :
    ∀ {first : Nat} {nodes : List PlanNode}, ofTags table first ranked = .ok nodes →
      nodes.filterMap levelLeaf? =
        ranked.flatMap fun e => e.1.rule.leaves.map fun l => (l, e.2) := by
  induction ranked with
  | nil =>
    intro first nodes h
    cases h
    rfl
  | cons e ranked ih =>
    obtain ⟨t, level⟩ := e
    intro first nodes h
    obtain ⟨head, tail, hhead, htail, rfl⟩ := ofTags_cons_ok h
    obtain ⟨alternatives, body, inputs, hrule, hbody, rfl⟩ := ofRule_ok hhead
    rw [List.filterMap_append, ih htail, List.filterMap_append, leaves_ofAlternatives hbody,
      List.flatMap_cons]
    simp [number_cons, number_nil, levelLeaf?, NodeOp.leaf?, Rule.leaves, hrule, Rule.children]

/-- A leaf of a node at a level is one of the rule of a tag of this level. -/
theorem exists_leaf_iff {ranked : List (Tag × Nat)} (h : ofTags table first ranked = .ok nodes)
    {l : Rule} : (∃ n ∈ nodes, n.op.leaf? = some l ∧ n.level = level) ↔
      ∃ e ∈ ranked, l ∈ e.1.rule.leaves ∧ e.2 = level := by
  have hnode : (l, level) ∈ nodes.filterMap levelLeaf? ↔
      ∃ n ∈ nodes, n.op.leaf? = some l ∧ n.level = level := by
    simp [List.mem_filterMap, levelLeaf?]
  have hrule : (l, level) ∈ (ranked.flatMap fun e => e.1.rule.leaves.map fun l => (l, e.2)) ↔
      ∃ e ∈ ranked, l ∈ e.1.rule.leaves ∧ e.2 = level := by
    simp only [List.mem_flatMap, List.mem_map, Prod.mk.injEq]
    refine exists_congr fun e => and_congr_right fun _ => ?_
    exact ⟨fun ⟨l', hl', heq, hlevel⟩ => ⟨heq ▸ hl', hlevel⟩, fun ⟨hl, hlevel⟩ => ⟨l, hl, rfl, hlevel⟩⟩
  rw [← hnode, ← hrule, leaves_ofTags h]

/-! ### The values of applications -/

/-- The tag, the level and the truth value of an application. -/
def appliedValue (value : Alias → Bool) (a : String × Nat × Alias) : String × Nat × Bool :=
  (a.1, a.2.1, value a.2.2)

/-- **The column of an application has the truth value of the rule of its tag.** -/
theorem applications_value {ranked : List (Tag × Nat)} :
    ∀ {first : Nat} {nodes : List PlanNode}, ofTags table first ranked = .ok nodes →
      Consistent T value nodes →
      (nodes.filterMap PlanNode.application?).map (appliedValue value) =
        ranked.map fun e => (e.1.name, e.2, T.value e.2 e.1.rule) := by
  induction ranked with
  | nil =>
    intro first nodes h _
    cases h
    rfl
  | cons e ranked ih =>
    obtain ⟨t, level⟩ := e
    intro first nodes h hc
    obtain ⟨head, tail, hhead, htail, rfl⟩ := ofTags_cons_ok h
    obtain ⟨root, hroot, happly⟩ :=
      flattenedTo_ofRule hhead fun n hn => List.mem_append_left tail hn
    have hvalue : value (root + 1) = T.value level t.rule := by
      rw [← hroot.value_eq hc]
      exact hc _ (List.mem_append_left tail happly)
    obtain ⟨column, hcolumn⟩ := applications_ofRule hhead
    have hmem : (t.name, level, root + 1) ∈ head.filterMap PlanNode.application? :=
      List.mem_filterMap.2 ⟨_, happly, rfl⟩
    rw [hcolumn, List.mem_singleton] at hmem
    cases hmem
    rw [List.filterMap_append, hcolumn, List.map_append,
      ih htail fun n hn => hc n (List.mem_append_right _ hn)]
    show (t.name, level, value (root + 1)) :: _ = _
    rw [hvalue]
    rfl

end Flatten

end TagRules
