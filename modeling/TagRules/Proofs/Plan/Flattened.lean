import Mathlib.Data.List.Forall2
import Mathlib.Data.List.Nodup
import TagRules.Proofs.Plan.Optimized

/-!
# The nodes of a rule

Every node of a rule has a node of its own among those that the rule is flattened to, which reads
the nodes of its children in order.

* `NodeOp.Computes`: an operation stands for a node of a rule.
* `FlattenedTo`: the nodes of a rule, from the column of the rule on.
* `Flatten.flattenedTo_ofTags`: the application of a tag reads the column of the rule of the tag.
* `nodeAt`, `FlattenedTo.exists_nodeAt`: a path through a rule is one through its nodes.
* `Optimize.run_eq_self`: without optimisation, all nodes are kept as they are.
* `Optimize.forall_mem_run`: what a visit leaves as it is holds of all kept nodes.
-/

namespace TagRules

/-- **An operation stands for a node of a rule**: a leaf, or a composite of as many children. -/
def NodeOp.Computes : NodeOp → Rule → Prop
  | .condition c _, .condition c' => c = c'
  | .custom key, .custom key' => key = key'
  | .conjunction inputs, .all rs => inputs.length = rs.length
  | .disjunction inputs, .any rs => inputs.length = rs.length
  | _, _ => False

/-- There is an input for every child. -/
theorem NodeOp.Computes.exists_input {op : NodeOp} {r child : Rule} (h : op.Computes r) {i : Nat}
    (hchild : r.children[i]? = some child) : ∃ a, op.inputs[i]? = some a := by
  obtain ⟨hi, -⟩ := List.getElem?_eq_some_iff.1 hchild
  have hlength : i < op.inputs.length := by
    cases r with
    | condition c => nomatch hchild
    | custom key => nomatch hchild
    | all rs => cases op <;> first | exact h.elim | exact Nat.lt_of_lt_of_eq hi h.symm
    | any rs => cases op <;> first | exact h.elim | exact Nat.lt_of_lt_of_eq hi h.symm
  exact ⟨_, List.getElem?_eq_getElem hlength⟩

/-- **A rule is flattened to nodes of a tag**, from a column on: its node computes this column from
the columns that the children are flattened to. -/
inductive FlattenedTo (nodes : List PlanNode) (tag : String) (level : Nat) : Rule → Alias → Prop
  | intro {n : PlanNode} {r : Rule} : n ∈ nodes → n.tag = tag → n.level = level → n.op.Computes r →
      (∀ (i : Nat) child a, r.children[i]? = some child → n.op.inputs[i]? = some a →
        FlattenedTo nodes tag level child a) →
      FlattenedTo nodes tag level r n.column

/-! ### Flattening -/

namespace Flatten

variable {table : TransformTable} {tag : String} {level : Nat} {nodes : List PlanNode}

theorem rel_of_getElem? {α β : Type} {R : α → β → Prop} {xs : List α} {ys : List β}
    (h : List.Forall₂ R xs ys) : ∀ {i : Nat} {x : α} {y : β}, xs[i]? = some x → ys[i]? = some y →
      R x y := by
  induction h with
  | nil => exact fun hx => nomatch hx
  | @cons x y xs ys hxy _ ih =>
    intro i x' y' hx hy
    cases i with
    | zero =>
      cases hx
      cases hy
      exact hxy
    | succ i => exact ih hx hy

/-- A leaf is flattened to one node. -/
theorem flattenedTo_ofLeaf {r : Rule} {op : NodeOp} {column : Alias}
    (h : ofLeaf table tag r = .ok op) (hmem : ⟨tag, op, column, level⟩ ∈ nodes) :
    FlattenedTo nodes tag level r column := by
  cases r with
  | condition c =>
    cases h
    exact .intro hmem rfl rfl rfl fun i child a hchild => nomatch hchild
  | custom key =>
    cases h
    exact .intro hmem rfl rfl rfl fun i child a hchild => nomatch hchild
  | _ => cases h

/-- An alternative is flattened to its leaves and their conjunction, the last of its nodes. -/
theorem flattenedTo_ofAlternative {r : Rule} {first : Nat} {body : List PlanNode}
    (h : ofAlternative table tag level first r = .ok body) (hsub : ∀ n ∈ body, n ∈ nodes) :
    FlattenedTo nodes tag level r (first + body.length - 1) := by
  obtain ⟨leaves, ops, rfl, hops, rfl⟩ := ofAlternative_ok h
  have hleaves := Outcome.forall₂_of_mapM hops
  rw [number_append] at hsub ⊢
  have hlast : (⟨tag, .conjunction (List.range' first ops.length), first + ops.length, level⟩ :
      PlanNode) ∈ nodes := hsub _ (by simp [number_cons])
  have hcolumn : first + (number tag level first ops ++ number tag level (first + ops.length)
      [.conjunction (List.range' first ops.length)]).length - 1 = first + ops.length := by
    simp [length_number]
  rw [hcolumn]
  refine .intro hlast rfl rfl ?_ fun i leaf a hleaf ha => ?_
  · show (List.range' first ops.length).length = leaves.length
    rw [List.length_range', hleaves.length_eq]
  · have ha : (List.range' first ops.length)[i]? = some a := ha
    obtain ⟨hi, rfl⟩ := List.getElem?_eq_some_iff.1 ha
    rw [List.length_range'] at hi
    have hop : ops[i]? = some ops[i] := List.getElem?_eq_getElem hi
    refine flattenedTo_ofLeaf (rel_of_getElem? hleaves hleaf hop) (hsub _ ?_)
    exact List.mem_append_left _ (mem_number.2 ⟨i, _, hop, by simp⟩)

/-- Alternatives are flattened one after the other. -/
theorem flattenedTo_ofAlternatives {rs : List Rule} :
    ∀ {first : Nat} {body : List PlanNode} {inputs : List Alias},
      ofAlternatives table tag level first rs = .ok (body, inputs) → (∀ n ∈ body, n ∈ nodes) →
      List.Forall₂ (FlattenedTo nodes tag level) rs inputs := by
  induction rs with
  | nil =>
    intro first body inputs h _
    cases h
    exact .nil
  | cons r rs ih =>
    intro first body inputs h hsub
    obtain ⟨head, rest, inputs', hhead, hrest, rfl, rfl⟩ := ofAlternatives_cons_ok h
    have hhead' : ∀ n ∈ head, n ∈ nodes := fun n hn => hsub n (List.mem_append_left _ hn)
    refine .cons (flattenedTo_ofAlternative hhead hhead') (ih hrest fun n hn => ?_)
    exact hsub n (List.mem_append_right _ hn)

/-- The nodes of a tag end with the disjunction of the alternatives and the application. -/
theorem flattenedTo_ofRule {r : Rule} {first : Nat} {body : List PlanNode}
    (h : ofRule table tag level first r = .ok body) (hsub : ∀ n ∈ body, n ∈ nodes) :
    ∃ root, FlattenedTo nodes tag level r root ∧
      ⟨tag, .apply tag root, root + 1, level⟩ ∈ body := by
  obtain ⟨alternatives, body, inputs, rfl, hbody, rfl⟩ := ofRule_ok h
  have halternatives : List.Forall₂ (FlattenedTo nodes tag level) alternatives inputs :=
    flattenedTo_ofAlternatives hbody fun n hn => hsub n (List.mem_append_left _ hn)
  have hor : (⟨tag, .disjunction inputs, first + body.length, level⟩ : PlanNode) ∈ nodes :=
    hsub _ (by simp [number_cons])
  refine ⟨first + body.length, .intro hor rfl rfl halternatives.length_eq.symm ?_, ?_⟩
  · exact fun i child a hchild ha => rel_of_getElem? halternatives hchild ha
  · simp [number_cons]

/-- **The application of a tag reads the column of its rule.** -/
theorem flattenedTo_ofTags {ranked : List (Tag × Nat)} :
    ∀ {first : Nat} {body : List PlanNode}, ofTags table first ranked = .ok body →
      (∀ n ∈ body, n ∈ nodes) → ∀ e ∈ ranked, ∃ root,
        FlattenedTo nodes e.1.name e.2 e.1.rule root ∧
          ⟨e.1.name, .apply e.1.name root, root + 1, e.2⟩ ∈ nodes := by
  induction ranked with
  | nil => exact fun _ _ e he => nomatch he
  | cons e ranked ih =>
    intro first body h hsub
    obtain ⟨t, level⟩ := e
    obtain ⟨head, tail, hhead, htail, rfl⟩ := ofTags_cons_ok h
    refine List.forall_mem_cons.2 ⟨?_, ih htail fun n hn => hsub n (List.mem_append_right _ hn)⟩
    have hhead' : ∀ n ∈ head, n ∈ nodes := fun n hn => hsub n (List.mem_append_left _ hn)
    obtain ⟨root, hroot, happly⟩ := flattenedTo_ofRule hhead hhead'
    exact ⟨root, hroot, hhead' _ happly⟩

end Flatten

/-! ### Paths -/

/-- **The node that a path leads to** over the inputs of nodes, from a column on. -/
def nodeAt (nodes : List PlanNode) (a : Alias) : List Nat → Option PlanNode
  | [] => nodes.find? (·.column = a)
  | i :: path =>
    (nodes.find? (·.column = a)).bind fun n => n.op.inputs[i]?.bind fun b => nodeAt nodes b path

/-- Where all columns are different, a node is found by its column. -/
theorem find?_column {nodes : List PlanNode} (hnodup : (nodes.map PlanNode.column).Nodup)
    {n : PlanNode} (hn : n ∈ nodes) : nodes.find? (·.column = n.column) = some n := by
  have hsome : (nodes.find? (·.column = n.column)).isSome :=
    List.find?_isSome.2 ⟨n, hn, decide_eq_true rfl⟩
  obtain ⟨m, hm⟩ := Option.isSome_iff_exists.1 hsome
  have hcolumn : m.column = n.column := by simpa using List.find?_some hm
  rw [hm, List.inj_on_of_nodup_map hnodup (List.mem_of_find?_eq_some hm) hn hcolumn]

/-- **A path through a rule is one through its nodes.** -/
theorem FlattenedTo.exists_nodeAt {flat nodes : List PlanNode} {tag : String} {level : Nat}
    (hnodup : (nodes.map PlanNode.column).Nodup) (hsub : ∀ n ∈ flat, n ∈ nodes)
    {path : List Nat} : ∀ {r s : Rule} {a : Alias}, FlattenedTo flat tag level r a →
      r.atPath path = some s → ∃ n ∈ flat, nodeAt nodes a path = some n ∧ n.tag = tag ∧
        n.level = level ∧ n.op.Computes s ∧ FlattenedTo flat tag level s n.column := by
  induction path with
  | nil =>
    intro r s a h hs
    cases hs
    obtain ⟨hn, htag, hlevel, hop, hchildren⟩ := h
    exact ⟨_, hn, find?_column hnodup (hsub _ hn), htag, hlevel, hop,
      .intro hn htag hlevel hop hchildren⟩
  | cons i path ih =>
    intro r s a h hs
    rw [Rule.atPath] at hs
    obtain ⟨child, hchild, hs⟩ := Option.bind_eq_some_iff.1 hs
    obtain ⟨hn, -, -, hop, hchildren⟩ := h
    obtain ⟨b, hb⟩ := hop.exists_input hchild
    obtain ⟨m, hm, hpath, hrest⟩ := ih (hchildren i child b hchild hb) hs
    refine ⟨m, hm, ?_, hrest⟩
    rw [nodeAt, find?_column hnodup (hsub _ hn), Option.bind_some, hb]
    exact hpath

/-! ### What is kept of the nodes -/

namespace NodeOp

/-- Redirecting to the same columns changes nothing. -/
theorem redirect_id (op : NodeOp) : op.redirect id = op := by
  cases op <;> simp [redirect]

end NodeOp

namespace Optimize

variable {options : PlannerOptions} {nodes : List PlanNode}

/-- **Without optimisation, all nodes are kept as they are.** -/
theorem run_eq_self (hcollapse : options.collapseSingleChild = false)
    (hdeduplicate : options.deduplicate = false) (nodes : List PlanNode) :
    run options nodes = nodes := by
  have hstep : ∀ (kept : List PlanNode) n, step options ⟨[], kept⟩ n = ⟨[], kept ++ [n]⟩ := by
    intro kept n
    have htarget : State.target ⟨[], kept⟩ = id := rfl
    simp only [step, keep, hcollapse, hdeduplicate, htarget, NodeOp.redirect_id]
    rfl
  have hfold : ∀ kept : List PlanNode,
      nodes.foldl (step options) ⟨[], kept⟩ = ⟨[], kept ++ nodes⟩ := by
    induction nodes with
    | nil => simp
    | cons n nodes ih =>
      intro kept
      rw [List.foldl_cons, hstep, ih, List.append_assoc, List.singleton_append]
  rw [run, hfold, List.nil_append]

/-- **What a visit leaves as it is holds of all kept nodes**, where a visit redirects an operation
or lets a node run earlier. -/
theorem forall_mem_run {P : PlanNode → Prop}
    (hredirect : ∀ n f, P n → P { n with op := n.op.redirect f })
    (hlevel : ∀ n level, P n → P { n with level := level }) (h : ∀ n ∈ nodes, P n) :
    ∀ n ∈ run options nodes, P n := by
  have hstep : ∀ s n, (∀ m ∈ s.kept, P m) → P n → ∀ m ∈ (step options s n).kept, P m := by
    intro s n hs hn
    obtain ⟨child, -, -, heq⟩ | ⟨before, m, behind, -, hsplit, -, -, -, heq⟩ | ⟨-, -, heq⟩ :=
      step_cases options s n
    · rw [heq]
      exact hs
    · rw [heq]
      rw [hsplit] at hs
      intro k hk
      rcases List.mem_append.1 hk with hk | hk
      · exact hs k (List.mem_append_left _ hk)
      rcases List.mem_cons.1 hk with rfl | hk
      · exact hlevel m _ (hs m (by simp))
      · exact hs k (by simp [hk])
    · rw [heq]
      exact forall_mem_snoc hs (hredirect n _ hn)
  have hfold : ∀ s : State, (∀ m ∈ s.kept, P m) →
      ∀ m ∈ (nodes.foldl (step options) s).kept, P m := by
    induction nodes with
    | nil => exact fun s hs => hs
    | cons n nodes ih =>
      obtain ⟨hn, h⟩ := List.forall_mem_cons.1 h
      exact fun s hs => ih h _ (hstep s n hs hn)
  exact hfold ⟨[], []⟩ fun m hm => absurd hm List.not_mem_nil

end Optimize

end TagRules
