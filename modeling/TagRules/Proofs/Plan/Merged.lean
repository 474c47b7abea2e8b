import Mathlib.Data.List.Nodup
import Mathlib.Data.List.Pairwise
import TagRules.Proofs.Plan.Optimized

/-!
# What becomes of a node

The optimiser drops a node for its only child, or it finds a kept node that stands for it. Both are
final: what is visited later does not change what an earlier node reads, nor what stands for it.

* `PlanNode.Apart`: two nodes that are not merged.
* `Collapsed`, `StandsFor`: the two fates of a node.
* `Merged`: the invariant. Every node has met its fate, and the kept nodes are apart.
* `merged_after`: the invariant holds after any layered nodes.
* `Merged.target_eq_of_op_eq`: nodes that compute the same have the same target.
* `MergedInto`, `Merged.standsFor_of_mergedInto`: what is merged into a kept node.
-/

namespace TagRules

/-! ### Inputs -/

namespace NodeOp

variable {table : TransformTable} {f g : Alias → Alias} {op : NodeOp}

theorem redirect_congr (h : ∀ a ∈ op.inputs, f a = g a) : op.redirect f = op.redirect g := by
  cases op with
  | condition c input =>
    exact congrArg _ (Option.map_congr fun a ha => h a (Option.mem_toList.2 ha))
  | conjunction inputs => exact congrArg _ (List.map_congr_left h)
  | disjunction inputs => exact congrArg _ (List.map_congr_left h)
  | apply tag input => exact congrArg _ (h input (List.mem_singleton.2 rfl))
  | _ => rfl

theorem onlyChild?_redirect (f : Alias → Alias) (op : NodeOp) :
    (op.redirect f).onlyChild? = op.onlyChild?.map f := by
  unfold onlyChild? redirect
  cases op with
  | conjunction inputs => rcases inputs with _ | ⟨a, _ | ⟨b, inputs⟩⟩ <;> rfl
  | disjunction inputs => rcases inputs with _ | ⟨a, _ | ⟨b, inputs⟩⟩ <;> rfl
  | _ => rfl

theorem mem_inputs_of_onlyChild? {a : Alias} (h : op.onlyChild? = some a) : a ∈ op.inputs := by
  unfold onlyChild? at h
  split at h <;> cases h <;> exact List.mem_singleton.2 rfl

theorem mem_inputs_of_mem_masks {a : Alias} (h : a ∈ op.masks) : a ∈ op.inputs := by
  cases op with
  | condition c input => nomatch h
  | _ => exact h

/-- What an operation of a batch reads is a column of truth values, or one of a transform. -/
theorem Fits.mem_inputs {a : Alias} (h : op.Fits table) (ha : a ∈ op.inputs) :
    a ∈ op.masks ∨ a < table.length := by
  cases op with
  | condition c input => exact .inr (h.lt_length a (Option.mem_toList.1 ha))
  | transform field key => nomatch ha
  | custom key => nomatch ha
  | _ => exact .inl ha

end NodeOp

/-! ### Nodes that are not merged -/

namespace PlanNode

variable {n m n' m' : PlanNode}

theorem kind_eq (h : n.op = m.op) : n.kind = m.kind := by rw [kind, kind, h]

/-- **Two nodes are apart**: they compute different things, or they are applications, or conditions
on the tag list at different levels. -/
def Apart (n m : PlanNode) : Prop :=
  n.op = m.op → n.kind ≠ .application → n.kind = .tagReference ∧ n.level ≠ m.level

instance : Std.Symm Apart where
  symm n m h hop hkind := by
    obtain ⟨href, hlevel⟩ := h hop.symm (kind_eq hop ▸ hkind)
    exact ⟨(kind_eq hop).trans href, Ne.symm hlevel⟩

/-- A node that runs no later than another one, and is the same otherwise. -/
structure Earlier (n m : PlanNode) : Prop where
  column : n.column = m.column
  op : n.op = m.op
  level : n.level ≤ m.level
  reference : m.kind = .tagReference → n.level = m.level

theorem Earlier.refl (n : PlanNode) : Earlier n n := ⟨rfl, rfl, Nat.le_refl _, fun _ => rfl⟩

/-- Nodes that run earlier stay apart. -/
theorem Apart.mono (h : n.Apart m) (hn : Earlier n' n) (hm : Earlier m' m) : n'.Apart m' := by
  intro hop hkind
  rw [hn.op, hm.op] at hop
  rw [kind_eq hn.op] at hkind ⊢
  obtain ⟨href, hlevel⟩ := h hop hkind
  rw [hn.reference href, hm.reference (kind_eq hop ▸ href)]
  exact ⟨href, hlevel⟩

/-- Nodes of which one runs earlier stay apart. -/
theorem pairwise_apart_advance {before behind : List PlanNode}
    (h : (before ++ m :: behind).Pairwise Apart) (hm : Earlier m' m) :
    (before ++ m' :: behind).Pairwise Apart := by
  rw [List.pairwise_append, List.pairwise_cons] at h ⊢
  obtain ⟨hbefore, ⟨hm', hbehind⟩, hacross⟩ := h
  refine ⟨hbefore, ⟨fun k hk => (hm' k hk).mono hm (.refl k), hbehind⟩, fun k hk => ?_⟩
  rw [List.forall_mem_cons]
  obtain ⟨hkm, hkbehind⟩ := List.forall_mem_cons.1 (hacross k hk)
  exact ⟨hkm.mono (.refl k) hm, hkbehind⟩

end PlanNode

namespace Optimize

variable {options : PlannerOptions} {table : TransformTable} {nodes : List PlanNode}
  {s s' : State} {k k' m n : PlanNode}

/-- A node reads columns of lower numbers than its own. -/
def ReadsBelow (n : PlanNode) : Prop := ∀ a ∈ n.op.inputs, a < n.column

theorem readsBelow_of_supplied (hn : Supplied table nodes n)
    (hlt : ∀ m ∈ nodes, m.column < n.column) (hl : table.length ≤ n.column) : ReadsBelow n := by
  intro a ha
  rcases hn.fits.mem_inputs ha with hmask | htable
  · obtain ⟨m, hm, rfl, -⟩ := hn.masks a hmask
    exact hlt m hm
  · exact Nat.lt_of_lt_of_le htable hl

theorem Layered.readsBelow (h : Layered table nodes) : ∀ n ∈ nodes, ReadsBelow n := by
  induction h with
  | nil => simp
  | snoc _ hs hlt hl ih => exact forall_mem_snoc ih (readsBelow_of_supplied hs hlt hl)

/-! ### The two fates of a node -/

/-- **A kept node stands for a node**: it holds its column and computes the same, no later than the
node would. It is the node itself, unless nodes are merged. -/
structure StandsFor (options : PlannerOptions) (s : State) (k n : PlanNode) : Prop where
  column : s.target n.column = k.column
  op : n.op.redirect s.target = k.op
  level : k.level ≤ n.level
  reference : n.kind = .tagReference → k.level = n.level
  merged : k.column = n.column ∨
    options.deduplicate = true ∧ n.kind ≠ .application ∧ k.column < n.column

/-- **A node was dropped for its only child.** -/
structure Collapsed (options : PlannerOptions) (s : State) (n : PlanNode) : Prop where
  collapse : options.collapseSingleChild = true
  onlyChild : (n.op.redirect s.target).onlyChild? = some (s.target n.column)

/-- A node has met its fate. -/
def Settled (options : PlannerOptions) (s : State) (n : PlanNode) : Prop :=
  Collapsed options s n ∨ ∃ k ∈ s.kept, StandsFor options s k n

theorem StandsFor.kind (h : StandsFor options s k n) : k.kind = n.kind := by
  rw [PlanNode.kind, ← h.op, NodeOp.kind_redirect]
  rfl

/-- Targets of columns up to a number stay. -/
def SameTargets (s s' : State) (column : Alias) : Prop := ∀ a ≤ column, s'.target a = s.target a

theorem SameTargets.redirect_eq (h : SameTargets s s' n.column) (hn : ReadsBelow n) :
    n.op.redirect s'.target = n.op.redirect s.target :=
  NodeOp.redirect_congr fun a ha => h a (Nat.le_of_lt (hn a ha))

theorem StandsFor.mono (h : StandsFor options s k n) (hn : ReadsBelow n)
    (htarget : SameTargets s s' n.column) (hk : k'.Earlier k) : StandsFor options s' k' n where
  column := by rw [htarget _ (Nat.le_refl _), h.column, hk.column]
  op := by rw [htarget.redirect_eq hn, h.op, hk.op]
  level := Nat.le_trans hk.level h.level
  reference href := (hk.reference (h.kind ▸ href)).trans (h.reference href)
  merged := by
    rw [hk.column]
    exact h.merged

theorem Settled.mono (h : Settled options s n) (hn : ReadsBelow n)
    (htarget : SameTargets s s' n.column) (hkept : ∀ k ∈ s.kept, ∃ k' ∈ s'.kept, k'.Earlier k) :
    Settled options s' n := by
  rcases h with ⟨hcollapse, hchild⟩ | ⟨k, hk, hstands⟩
  · refine .inl ⟨hcollapse, ?_⟩
    rw [htarget.redirect_eq hn, htarget _ (Nat.le_refl _)]
    exact hchild
  · obtain ⟨k', hk', hearlier⟩ := hkept k hk
    exact .inr ⟨k', hk', hstands.mono hn htarget hearlier⟩

/-! ### The invariant -/

/-- **The invariant of merging.** -/
structure Merged (options : PlannerOptions) (nodes : List PlanNode) (s : State) : Prop where
  target_le : ∀ a, s.target a ≤ a
  settled : ∀ n ∈ nodes, Settled options s n
  origin : ∀ k ∈ s.kept, ∃ n ∈ nodes, n.column = k.column ∧ StandsFor options s k n
  earliest : ∀ k ∈ s.kept, ∃ n ∈ nodes, StandsFor options s k n ∧ n.level = k.level
  stays : options.collapseSingleChild = true → ∀ k ∈ s.kept, k.op.onlyChild? = none
  apart : options.deduplicate = true → s.kept.Pairwise PlanNode.Apart

theorem Merged.target_cons_le (h : Merged options nodes s) {a b : Alias} (hle : b ≤ a)
    (kept : List PlanNode) : ∀ c, State.target ⟨(a, b) :: s.redirects, kept⟩ c ≤ c := by
  intro c
  rw [State.target_cons]
  split
  · rename_i heq
    exact heq ▸ hle
  · exact h.target_le c

theorem sameTargets_cons (hlt : m.column < n.column) (target : Alias) (kept : List PlanNode) :
    SameTargets s ⟨(n.column, target) :: s.redirects, kept⟩ m.column := fun a ha => by
  rw [State.target_cons, if_neg (Nat.ne_of_lt (Nat.lt_of_le_of_lt ha hlt))]

/-- The operation of a new node is redirected as before when its own column is dropped. -/
theorem redirect_cons (hn : ReadsBelow n) (target : Alias) (kept : List PlanNode) :
    n.op.redirect (State.target ⟨(n.column, target) :: s.redirects, kept⟩) =
      n.op.redirect s.target :=
  NodeOp.redirect_congr fun a ha => by rw [State.target_cons, if_neg (Nat.ne_of_lt (hn a ha))]

/-- A node is dropped for its only child. -/
theorem Merged.collapse (h : Merged options nodes s) (hbelow : ∀ m ∈ nodes, ReadsBelow m)
    (hlt : ∀ m ∈ nodes, m.column < n.column) (hn : ReadsBelow n) {child : Alias}
    (hcollapse : options.collapseSingleChild = true)
    (hchild : (n.op.redirect s.target).onlyChild? = some child) :
    Merged options (nodes ++ [n]) ⟨(n.column, child) :: s.redirects, s.kept⟩ := by
  have hmono : ∀ k, ∀ m ∈ nodes, StandsFor options s k m →
      StandsFor options ⟨(n.column, child) :: s.redirects, s.kept⟩ k m := fun k m hm hstands =>
    hstands.mono (hbelow m hm) (sameTargets_cons (hlt m hm) _ _) (.refl k)
  have hle : child ≤ n.column := by
    rw [NodeOp.onlyChild?_redirect, Option.map_eq_some_iff] at hchild
    obtain ⟨a, ha, rfl⟩ := hchild
    exact Nat.le_trans (h.target_le a)
      (Nat.le_of_lt (hn a (NodeOp.mem_inputs_of_onlyChild? ha)))
  refine ⟨h.target_cons_le hle _, forall_mem_snoc (fun m hm => ?_) (.inl ⟨hcollapse, ?_⟩),
    fun k hk => ?_, fun k hk => ?_, h.stays, h.apart⟩
  · exact (h.settled m hm).mono (hbelow m hm) (sameTargets_cons (hlt m hm) _ _)
      fun k hk => ⟨k, hk, .refl k⟩
  · rw [redirect_cons hn, State.target_cons, if_pos rfl, hchild]
  · obtain ⟨m, hm, hcolumn, hstands⟩ := h.origin k hk
    exact ⟨m, List.mem_append_left _ hm, hcolumn, hmono k m hm hstands⟩
  · obtain ⟨m, hm, hstands, hlevel⟩ := h.earliest k hk
    exact ⟨m, List.mem_append_left _ hm, hmono k m hm hstands, hlevel⟩

/-- A node is merged with a kept one. -/
theorem Merged.merge {before behind : List PlanNode} (h : Merged options nodes s)
    (hbelow : ∀ m ∈ nodes, ReadsBelow m) (hlt : ∀ m ∈ nodes, m.column < n.column)
    (hn : ReadsBelow n) (hdeduplicate : options.deduplicate = true)
    (hkept : s.kept = before ++ m :: behind) (hop : m.op = n.op.redirect s.target)
    (hkind : n.kind ≠ .application) (href : n.kind = .tagReference → m.level = n.level) :
    Merged options (nodes ++ [n]) ⟨(n.column, m.column) :: s.redirects,
      before ++ { m with level := min m.level n.level } :: behind⟩ := by
  have hmkind : m.kind = n.kind := by rw [PlanNode.kind, hop, NodeOp.kind_redirect]; rfl
  have hm : m ∈ s.kept := by simp [hkept]
  have hmlt : m.column < n.column := by
    obtain ⟨k, hk, hcolumn, -⟩ := h.origin m hm
    exact hcolumn ▸ hlt k hk
  have hadvance : PlanNode.Earlier { m with level := min m.level n.level } m := by
    refine ⟨rfl, rfl, Nat.min_le_left _ _, fun hmref => ?_⟩
    have := href (hmkind ▸ hmref)
    simp only
    omega
  generalize hm' : ({ m with level := min m.level n.level } : PlanNode) = m' at hadvance ⊢
  -- Kept nodes are the same as before, but for the one that may run earlier.
  have hforth : ∀ k ∈ s.kept, ∃ k' ∈ before ++ m' :: behind, k'.Earlier k := by
    intro k hk
    obtain hk | rfl : k ∈ before ++ m' :: behind ∨ k = m := by
      simp only [hkept, List.mem_append, List.mem_cons] at hk ⊢
      tauto
    · exact ⟨k, hk, .refl k⟩
    · exact ⟨m', by simp, hadvance⟩
  have hback : ∀ k' ∈ before ++ m' :: behind, k' ∈ s.kept ∨ k' = m' := by
    intro k' hk'
    simp only [hkept, List.mem_append, List.mem_cons] at hk' ⊢
    tauto
  have hstands : StandsFor options ⟨(n.column, m.column) :: s.redirects, before ++ m' :: behind⟩ m'
      n := by
    refine ⟨?_, ?_, ?_, fun hnref => ?_, .inr ⟨hdeduplicate, hkind, hadvance.column ▸ hmlt⟩⟩
    · rw [State.target_cons, if_pos rfl, hadvance.column]
    · rw [redirect_cons hn, ← hop, hadvance.op]
    · exact hm' ▸ Nat.min_le_right _ _
    · exact (hadvance.reference (hmkind ▸ hnref)).trans (href hnref)
  have hmono : ∀ k' k, k'.Earlier k → ∀ k₀ ∈ nodes, StandsFor options s k k₀ → StandsFor options
      ⟨(n.column, m.column) :: s.redirects, before ++ m' :: behind⟩ k' k₀ :=
    fun k' k hk k₀ hk₀ hstands =>
      hstands.mono (hbelow k₀ hk₀) (sameTargets_cons (hlt k₀ hk₀) _ _) hk
  refine ⟨h.target_cons_le (Nat.le_of_lt hmlt) _,
    forall_mem_snoc (fun m hm => ?_) (.inr ⟨m', by simp, hstands⟩), fun k' hk' => ?_,
    fun k' hk' => ?_, fun hcollapse k' hk' => ?_, fun _ => ?_⟩
  · exact (h.settled m hm).mono (hbelow m hm) (sameTargets_cons (hlt m hm) _ _) hforth
  · obtain ⟨k, hk, hearlier⟩ : ∃ k ∈ s.kept, k'.Earlier k := by
      rcases hback k' hk' with hk | rfl
      · exact ⟨k', hk, .refl k'⟩
      · exact ⟨m, hm, hadvance⟩
    obtain ⟨k₀, hk₀, hcolumn, hstands⟩ := h.origin k hk
    exact ⟨k₀, List.mem_append_left _ hk₀, hcolumn.trans hearlier.column.symm,
      hmono k' k hearlier k₀ hk₀ hstands⟩
  · rcases hback k' hk' with hk | rfl
    · obtain ⟨k₀, hk₀, hstands, hlevel⟩ := h.earliest k' hk
      exact ⟨k₀, List.mem_append_left _ hk₀, hmono k' k' (.refl k') k₀ hk₀ hstands, hlevel⟩
    -- The earlier one of the two levels is that of an old node or that of the new one.
    rcases Nat.le_total m.level n.level with hle | hle
    · obtain ⟨k₀, hk₀, hstands, hlevel⟩ := h.earliest m hm
      refine ⟨k₀, List.mem_append_left _ hk₀, hmono k' m hadvance k₀ hk₀ hstands, ?_⟩
      rw [hlevel, ← hm', Nat.min_eq_left hle]
    · refine ⟨n, by simp, hstands, ?_⟩
      rw [← hm', Nat.min_eq_right hle]
  · rcases hback k' hk' with hk | rfl
    · exact h.stays hcollapse k' hk
    · rw [hadvance.op]
      exact h.stays hcollapse m hm
  · exact PlanNode.pairwise_apart_advance (hkept ▸ h.apart hdeduplicate) hadvance

/-- A node is kept. -/
theorem Merged.keep (h : Merged options nodes s) (hbelow : ∀ m ∈ nodes, ReadsBelow m)
    (hnew : s.target n.column = n.column)
    (hstays : options.collapseSingleChild = true → (n.op.redirect s.target).onlyChild? = none)
    (hapart : options.deduplicate = true → n.kind ≠ .application → ∀ m ∈ s.kept,
      m.op = n.op.redirect s.target → n.kind = .tagReference ∧ m.level ≠ n.level) :
    Merged options (nodes ++ [n])
      ⟨s.redirects, s.kept ++ [{ n with op := n.op.redirect s.target }]⟩ := by
  have hkind : ({ n with op := n.op.redirect s.target } : PlanNode).kind = n.kind :=
    NodeOp.kind_redirect _ _
  have hmono : ∀ k, ∀ m ∈ nodes, StandsFor options s k m → StandsFor options
      ⟨s.redirects, s.kept ++ [{ n with op := n.op.redirect s.target }]⟩ k m :=
    fun k m hm hstands => hstands.mono (hbelow m hm) (fun _ _ => rfl) (.refl k)
  have hstands : StandsFor options
      ⟨s.redirects, s.kept ++ [{ n with op := n.op.redirect s.target }]⟩
      { n with op := n.op.redirect s.target } n :=
    ⟨hnew, rfl, Nat.le_refl _, fun _ => rfl, .inl rfl⟩
  refine ⟨h.target_le, forall_mem_snoc (fun m hm => ?_) (.inr ⟨_, by simp, hstands⟩),
    forall_mem_snoc (fun k hk => ?_) ⟨n, by simp, rfl, hstands⟩,
    forall_mem_snoc (fun k hk => ?_) ⟨n, by simp, hstands, rfl⟩,
    fun hcollapse => forall_mem_snoc (h.stays hcollapse) (hstays hcollapse), fun hdeduplicate => ?_⟩
  · exact (h.settled m hm).mono (hbelow m hm) (fun _ _ => rfl)
      fun k hk => ⟨k, List.mem_append_left _ hk, .refl k⟩
  · obtain ⟨m, hm, hcolumn, hstands⟩ := h.origin k hk
    exact ⟨m, List.mem_append_left _ hm, hcolumn, hmono k m hm hstands⟩
  · obtain ⟨m, hm, hstands, hlevel⟩ := h.earliest k hk
    exact ⟨m, List.mem_append_left _ hm, hmono k m hm hstands, hlevel⟩
  · refine List.pairwise_append.2 ⟨h.apart hdeduplicate, List.pairwise_singleton _ _, ?_⟩
    intro m hm k hk hop hmkind
    rw [List.mem_singleton.1 hk] at hop ⊢
    rw [PlanNode.kind_eq hop, hkind] at hmkind ⊢
    exact hapart hdeduplicate hmkind m hm hop

/-- **A visit keeps the invariant.** -/
theorem Merged.step (h : Merged options nodes s) (hkept : Kept table nodes s)
    (hbelow : ∀ m ∈ nodes, ReadsBelow m) (hlt : ∀ m ∈ nodes, m.column < n.column)
    (hn : ReadsBelow n) : Merged options (nodes ++ [n]) (step options s n) := by
  obtain ⟨child, hcollapse, hchild, heq⟩ |
    ⟨before, m, behind, hdeduplicate, hsplit, hop, hkind, href, heq⟩ | ⟨hstays, hapart, heq⟩ :=
    step_cases options s n
  · rw [heq]
    exact h.collapse hbelow hlt hn hcollapse hchild
  · rw [heq]
    exact h.merge hbelow hlt hn hdeduplicate hsplit hop hkind href
  · have hnew : s.target n.column = n.column := by
      -- The column is new, so nothing was dropped for it yet.
      refine State.target_of_forall_ne fun e he heq => ?_
      obtain ⟨k, hk, hcolumn⟩ := hkept.dropped e he
      exact Nat.ne_of_lt (hlt k hk) (hcolumn.trans heq)
    rw [heq]
    exact h.keep hbelow hnew hstays hapart

/-- **The fates of layered nodes.** -/
theorem merged_after (h : Layered table nodes) : Merged options nodes (after options nodes) := by
  induction h with
  | nil =>
    refine ⟨fun a => Nat.le_refl a, by simp, by simp [after], by simp [after], by simp [after],
      fun _ => List.Pairwise.nil⟩
  | snoc hlayered hs hlt hl ih =>
    rw [after_snoc]
    exact ih.step (kept_after hlayered) (Layered.readsBelow hlayered) hlt
      (readsBelow_of_supplied hs hlt hl)

/-! ### What the fates say -/

/-- A node that has a lower target than its column was not kept. -/
theorem Collapsed.target_lt (h : Collapsed options s n) (hm : Merged options nodes s)
    (hn : ReadsBelow n) : s.target n.column < n.column := by
  have hchild := h.onlyChild
  rw [NodeOp.onlyChild?_redirect, Option.map_eq_some_iff] at hchild
  obtain ⟨a, ha, heq⟩ := hchild
  rw [← heq]
  exact Nat.lt_of_le_of_lt (hm.target_le a) (hn a (NodeOp.mem_inputs_of_onlyChild? ha))

/-- No kept node stands for a node with an only child, where such nodes are dropped. -/
theorem Merged.onlyChild?_eq_none (h : Merged options nodes s)
    (hcollapse : options.collapseSingleChild = true) (hk : k ∈ s.kept)
    (hstands : StandsFor options s k n) : (n.op.redirect s.target).onlyChild? = none := by
  rw [hstands.op]
  exact h.stays hcollapse k hk

/-- Where nodes with an only child are dropped, the child is the target. -/
theorem Merged.target_eq_onlyChild (h : Merged options nodes s)
    (hcollapse : options.collapseSingleChild = true) (hn : n ∈ nodes) {child : Alias}
    (hchild : (n.op.redirect s.target).onlyChild? = some child) : s.target n.column = child := by
  obtain ⟨-, heq⟩ | ⟨k, hk, hstands⟩ := h.settled n hn
  · exact Option.some.inj (heq.symm.trans hchild)
  · rw [h.onlyChild?_eq_none hcollapse hk hstands] at hchild
    cases hchild

/-- **Where nodes are merged, no two kept nodes compute the same.** -/
theorem Merged.eq_of_op_eq (h : Merged options nodes s) (hdeduplicate : options.deduplicate = true)
    (hk : k ∈ s.kept) (hm : m ∈ s.kept) (hop : k.op = m.op) (hkind : k.kind ≠ .application)
    (hlevel : k.kind = .tagReference → k.level = m.level) : k = m := by
  by_contra hne
  obtain ⟨href, hlevels⟩ :=
    (h.apart hdeduplicate).forall hk hm hne hop hkind
  exact hlevels (hlevel href)

/-- Where nodes are merged, those that compute the same have the same target. -/
theorem Merged.target_eq_of_op_eq (h : Merged options nodes s)
    (hdeduplicate : options.deduplicate = true) (hn : n ∈ nodes) (hm : m ∈ nodes)
    (hop : n.op.redirect s.target = m.op.redirect s.target) (hkind : n.kind ≠ .application)
    (hlevel : n.kind = .tagReference → n.level = m.level) :
    s.target n.column = s.target m.column := by
  obtain ⟨hcollapse, hchild⟩ | ⟨k, hk, hstands⟩ := h.settled n hn
  · exact (h.target_eq_onlyChild hcollapse hm (hop ▸ hchild)).symm
  obtain ⟨hcollapse, hchild⟩ | ⟨k', hk', hstands'⟩ := h.settled m hm
  · exact h.target_eq_onlyChild hcollapse hn (hop ▸ hchild)
  have hkop : k.op = k'.op := by rw [← hstands.op, hop, hstands'.op]
  have hkk' : k = k' := by
    refine h.eq_of_op_eq hdeduplicate hk hk' hkop (hstands.kind ▸ hkind) fun href => ?_
    have href' : m.kind = .tagReference := by
      rw [← hstands'.kind, ← PlanNode.kind_eq hkop, href]
    rw [hstands.reference (hstands.kind ▸ href), hstands'.reference href',
      hlevel (hstands.kind ▸ href)]
  rw [hstands.column, hstands'.column, hkk']

/-- **A node is merged into a kept one**, which holds its column and computes the same. -/
structure MergedInto (s : State) (n k : PlanNode) : Prop where
  column : s.target n.column = k.column
  op : n.op.redirect s.target = k.op

theorem StandsFor.mergedInto (h : StandsFor options s k n) : MergedInto s n k := ⟨h.column, h.op⟩

/-- What is merged into a kept node is what it stands for. -/
theorem Merged.standsFor_of_mergedInto (h : Merged options nodes s)
    (hnodup : (s.kept.map PlanNode.column).Nodup) (hn : n ∈ nodes) (hk : k ∈ s.kept)
    (hinto : MergedInto s n k) : StandsFor options s k n := by
  obtain ⟨hcollapse, hchild⟩ | ⟨k', hk', hstands⟩ := h.settled n hn
  · rw [hinto.op, h.stays hcollapse k hk] at hchild
    cases hchild
  · have hcolumn : k'.column = k.column := hstands.column.symm.trans hinto.column
    rwa [List.inj_on_of_nodup_map hnodup hk' hk hcolumn] at hstands

end Optimize

end TagRules
