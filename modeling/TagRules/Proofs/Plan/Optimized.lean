import Mathlib.Data.List.Basic
import TagRules.Plan.Optimize
import TagRules.Proofs.Plan.Layered

/-!
# What the optimiser keeps

The optimiser visits layered nodes in order. A visit drops the node for the column of its only
child, merges it with a kept node, or keeps it.

* `step_cases`: what a visit does, in closed form.
* `Kept`: the invariant. The kept nodes are supplied by each other, and for every node that was
  visited, a kept one that runs no later holds its column.
* `kept_after`: the invariant holds after any layered nodes.
-/

namespace TagRules

/-! ### Redirected operations -/

namespace NodeOp

variable {table : TransformTable} {f : Alias → Alias}

@[simp]
theorem kind_redirect (f : Alias → Alias) (op : NodeOp) : (op.redirect f).kind = op.kind := by
  cases op <;> rfl

theorem masks_redirect (f : Alias → Alias) (op : NodeOp) :
    (op.redirect f).masks = op.masks.map f := by
  cases op <;> rfl

theorem mem_masks_of_onlyChild? {op : NodeOp} {a : Alias} (h : op.onlyChild? = some a) :
    a ∈ op.masks ∧ op.kind ≠ .application := by
  unfold onlyChild? at h
  split at h <;> cases h <;> exact ⟨List.mem_singleton.2 rfl, fun hkind => nomatch hkind⟩

theorem Fits.lt_length {c : Condition} {input : Option Alias}
    (h : (NodeOp.condition c input).Fits table) : ∀ a ∈ input, a < table.length := by
  intro a ha
  obtain ⟨-, column, hcol, -⟩ := h a ha
  exact (List.getElem?_eq_some_iff.1 hcol).1

theorem Fits.redirect {op : NodeOp} (hfits : op.Fits table) (hf : ∀ a < table.length, f a = a) :
    (op.redirect f).Fits table := by
  cases op with
  | condition c input =>
    -- The columns of transforms are not redirected, so that a condition stays as it is.
    have hinput : input.map f = input := by
      cases input with
      | none => rfl
      | some a => exact congrArg some (hf a (hfits.lt_length a rfl))
    show (NodeOp.condition c (input.map f)).Fits table
    rw [hinput]
    exact hfits
  | _ => exact hfits

end NodeOp

/-- The tag, the level and the column of an application. -/
def PlanNode.application? (n : PlanNode) : Option (String × Nat × Alias) :=
  match n.op with
  | .apply tag _ => some (tag, n.level, n.column)
  | _ => none

theorem PlanNode.application?_eq_none {n : PlanNode} (h : n.kind ≠ .application) :
    n.application? = none := by
  unfold application?
  split
  · rename_i hop
    exact absurd (by rw [PlanNode.kind, hop]; rfl) h
  · rfl

namespace Optimize

variable {options : PlannerOptions} {table : TransformTable} {nodes : List PlanNode} {s : State}
  {n : PlanNode}

/-! ### Targets -/

theorem State.target_of_forall_ne {a : Alias} (h : ∀ e ∈ s.redirects, e.1 ≠ a) :
    s.target a = a := by
  have : s.redirects.lookup a = none :=
    List.lookup_eq_none_iff.2 fun e he => by simpa using (h e he).symm
  simp [target, this]

theorem State.target_cons (a b c : Alias) (kept : List PlanNode) :
    State.target ⟨(a, b) :: s.redirects, kept⟩ c = if c = a then b else s.target c := by
  by_cases h : c = a
  · subst h
    simp [target]
  · have hb : (c == a) = false := by simpa using h
    simp [target, List.lookup_cons, hb, h]

/-! ### What a visit does -/

theorem State.twin?_eq_some {n : PlanNode} {i : Nat} (h : s.twin? n = some i) :
    n.kind ≠ .application ∧ ∃ before m behind, s.kept = before ++ m :: behind ∧
      m.op = n.op ∧ (n.kind = .tagReference → m.level = n.level) ∧ s.columnAt i = m.column ∧
      ∀ f, s.kept.modify i f = before ++ f m :: behind := by
  unfold twin? at h
  split at h
  · cases h
  · rename_i hkind
    obtain ⟨hi, hsame, -⟩ := List.findIdx?_eq_some_iff_getElem.1 h
    simp only [isSame, Bool.and_eq_true, Bool.or_eq_true, decide_eq_true_eq] at hsame
    refine ⟨hkind, s.kept.take i, s.kept[i], s.kept.drop (i + 1), by simp, hsame.1.symm, ?_, ?_,
      fun f => List.modify_eq_take_cons_drop hi⟩
    · intro href
      rcases hsame.2 with hne | heq
      · exact absurd href hne
      · exact heq.symm
    · simp [columnAt, List.getElem?_eq_getElem hi]

/-- A node without a twin is an application, or no kept node computes the same. -/
theorem State.twin?_eq_none {n : PlanNode} (h : s.twin? n = none) (hkind : n.kind ≠ .application) :
    ∀ m ∈ s.kept, m.op = n.op → n.kind = .tagReference ∧ m.level ≠ n.level := by
  intro m hm hop
  rw [twin?, if_neg hkind, List.findIdx?_eq_none_iff] at h
  have hsame := h m hm
  simp only [isSame, hop, decide_true, Bool.true_and, Bool.or_eq_false_iff,
    decide_eq_false_iff_not, not_not] at hsame
  exact ⟨hsame.1, Ne.symm hsame.2⟩

/-- **What a visit does**: it drops the node for the column of its only child, merges it with a kept
node, or keeps it if neither is possible. -/
theorem step_cases (options : PlannerOptions) (s : State) (n : PlanNode) :
    (∃ child, options.collapseSingleChild = true ∧
      (n.op.redirect s.target).onlyChild? = some child ∧
      step options s n = ⟨(n.column, child) :: s.redirects, s.kept⟩) ∨
    (∃ before m behind, options.deduplicate = true ∧ s.kept = before ++ m :: behind ∧
      m.op = n.op.redirect s.target ∧ n.kind ≠ .application ∧
      (n.kind = .tagReference → m.level = n.level) ∧
      step options s n = ⟨(n.column, m.column) :: s.redirects,
        before ++ { m with level := min m.level n.level } :: behind⟩) ∨
    ((options.collapseSingleChild = true → (n.op.redirect s.target).onlyChild? = none) ∧
      (options.deduplicate = true → n.kind ≠ .application → ∀ m ∈ s.kept,
        m.op = n.op.redirect s.target → n.kind = .tagReference ∧ m.level ≠ n.level) ∧
      step options s n = ⟨s.redirects, s.kept ++ [{ n with op := n.op.redirect s.target }]⟩) := by
  have hkind : ({ n with op := n.op.redirect s.target } : PlanNode).kind = n.kind :=
    NodeOp.kind_redirect _ _
  simp only [step, keep]
  split
  · rename_i child hchild
    split at hchild
    · rename_i hcollapse
      exact .inl ⟨child, hcollapse, hchild, rfl⟩
    · cases hchild
  · rename_i hstays
    split
    · rename_i i htwin
      split at htwin
      · rename_i hdeduplicate
        obtain ⟨happlication, before, m, behind, hkept, hop, href, hcol, hmodify⟩ :=
          State.twin?_eq_some htwin
        rw [hkind] at happlication href
        refine .inr (.inl ⟨before, m, behind, hdeduplicate, hkept, hop, happlication, href, ?_⟩)
        rw [State.advance, State.drop, hcol, hmodify]
      · cases htwin
    · rename_i htwin
      refine .inr (.inr ⟨fun hcollapse => ?_, fun hdeduplicate happlication => ?_, rfl⟩)
      · rwa [if_pos hcollapse] at hstays
      · rw [if_pos hdeduplicate] at htwin
        have hnone := State.twin?_eq_none htwin (hkind ▸ happlication)
        rwa [hkind] at hnone

/-- A kept node holds the column of a node, and runs no later than this node. -/
def Held (s : State) (n : PlanNode) : Prop :=
  ∃ m ∈ s.kept, m.column = s.target n.column ∧ m.kind ≠ .application ∧
    m.priority.before n.priority = true

theorem Held.advanced {s' : State} (htarget : s'.target n.column = s.target n.column)
    (hkept : Advanced s.kept s'.kept) (h : Held s n) : Held s' n := by
  obtain ⟨m, hm, hcol, hkind, hle⟩ := h
  obtain ⟨m', hm', hcol', hop, hlevel⟩ := hkept m hm
  have hkind' : m'.kind = m.kind := by rw [PlanNode.kind, PlanNode.kind, hop]
  refine ⟨m', hm', by rw [hcol', hcol, htarget], by rwa [hkind'], ?_⟩
  rw [Priority.before_iff] at hle ⊢
  simp only [PlanNode.priority, hkind'] at hle ⊢
  omega

/-! ### The invariant -/

/-- **The invariant of the visits.** -/
structure Kept (table : TransformTable) (nodes : List PlanNode) (s : State) : Prop where
  nodup : (s.kept.map PlanNode.column).Nodup
  origin : ∀ m ∈ s.kept, ∃ n ∈ nodes, n.column = m.column
  dropped : ∀ e ∈ s.redirects, ∃ n ∈ nodes, n.column = e.1
  supplied : ∀ m ∈ s.kept, Supplied table s.kept m
  held : ∀ n ∈ nodes, n.kind ≠ .application → Held s n
  applications : s.kept.filterMap PlanNode.application? = nodes.filterMap PlanNode.application?

/-- The columns of transforms are their own targets. -/
theorem Kept.target_eq (h : Kept table nodes s) (hl : ∀ n ∈ nodes, table.length ≤ n.column) :
    ∀ a < table.length, s.target a = a := by
  intro a ha
  refine State.target_of_forall_ne fun e he heq => ?_
  obtain ⟨n, hn, hcol⟩ := h.dropped e he
  have := hl n hn
  rw [hcol, heq] at this
  exact Nat.not_lt.2 this ha

/-- A redirected node is supplied by the kept nodes. -/
theorem Kept.supplied_redirect (h : Kept table nodes s)
    (hl : ∀ n ∈ nodes, table.length ≤ n.column) (hn : Supplied table nodes n) :
    Supplied table s.kept { n with op := n.op.redirect s.target } := by
  refine ⟨hn.fits.redirect (h.target_eq hl), fun a ha => ?_⟩
  rw [NodeOp.masks_redirect, List.mem_map] at ha
  obtain ⟨b, hb, rfl⟩ := ha
  obtain ⟨m, hm, rfl, hkind, hlt⟩ := hn.masks b hb
  obtain ⟨m', hm', hcol, hkind', hle⟩ := h.held m hm hkind
  have hprio : ({ n with op := n.op.redirect s.target } : PlanNode).priority = n.priority := by
    simp [PlanNode.priority, PlanNode.kind]
  rw [hprio]
  exact ⟨m', hm', hcol, hkind', Priority.lt_of_before_of_lt hle hlt⟩

theorem forall_mem_snoc {p : PlanNode → Prop} (h : ∀ m ∈ nodes, p m) (hn : p n) :
    ∀ m ∈ nodes ++ [n], p m := by
  intro m hm
  rcases List.mem_append.1 hm with hm | hm
  · exact h m hm
  · rw [List.mem_singleton.1 hm]
    exact hn

/-- A node is dropped, as a kept one holds its column. -/
theorem Kept.drop (h : Kept table nodes s) (hlt : ∀ m ∈ nodes, m.column < n.column)
    (hkind : n.kind ≠ .application) {m : PlanNode} (hm : m ∈ s.kept)
    (hmkind : m.kind ≠ .application) (hle : m.priority.before n.priority = true) :
    Kept table (nodes ++ [n]) ⟨(n.column, m.column) :: s.redirects, s.kept⟩ where
  nodup := h.nodup
  origin m hm := by
    obtain ⟨k, hk, hcol⟩ := h.origin m hm
    exact ⟨k, List.mem_append_left _ hk, hcol⟩
  dropped e he := by
    rcases List.mem_cons.1 he with rfl | he
    · exact ⟨n, by simp, rfl⟩
    · obtain ⟨k, hk, hcol⟩ := h.dropped e he
      exact ⟨k, List.mem_append_left _ hk, hcol⟩
  supplied := h.supplied
  held := by
    refine forall_mem_snoc (fun k hk hkkind => ?_) fun _ => ?_
    · refine Held.advanced (s := s) ?_ (Advanced.of_subset fun _ hm => hm) (h.held k hk hkkind)
      rw [State.target_cons, if_neg (Nat.ne_of_lt (hlt k hk))]
    · exact ⟨m, hm, by rw [State.target_cons, if_pos rfl], hmkind, hle⟩
  applications := by
    rw [List.filterMap_append, h.applications]
    simp [PlanNode.application?_eq_none hkind]

/-- A kept node runs earlier, as early as what it reads allows. -/
theorem Kept.advance {before behind : List PlanNode} {m : PlanNode} {level : Nat}
    {redirects : List (Alias × Alias)}
    (h : Kept table nodes ⟨redirects, before ++ m :: behind⟩) (hkind : m.kind ≠ .application)
    (hlevel : level ≤ m.level)
    (hs : Supplied table (before ++ m :: behind) { m with level := level }) :
    Kept table nodes ⟨redirects, before ++ { m with level := level } :: behind⟩ := by
  have hmem : ∀ k ∈ before ++ { m with level := level } :: behind,
      k ∈ before ++ m :: behind ∨ k = { m with level := level } := by
    intro k hk
    simp only [List.mem_append, List.mem_cons] at hk ⊢
    tauto
  have hadv : Advanced (before ++ m :: behind) (before ++ { m with level := level } :: behind) := by
    intro k hk
    rcases List.mem_append.1 hk with hk | hk
    · exact ⟨k, List.mem_append_left _ hk, rfl, rfl, Nat.le_refl _⟩
    rcases List.mem_cons.1 hk with rfl | hk
    · exact ⟨{ k with level := level }, by simp, rfl, rfl, hlevel⟩
    · exact ⟨k, by simp [hk], rfl, rfl, Nat.le_refl _⟩
  refine ⟨?_, fun k hk => ?_, h.dropped, fun k hk => ?_, fun k hk hkkind => ?_, ?_⟩
  · simpa using h.nodup
  · rcases hmem k hk with hk | rfl
    · exact h.origin k hk
    · exact h.origin m (by simp)
  · rcases hmem k hk with hk | rfl
    · exact (h.supplied k hk).advanced hadv
    · exact hs.advanced hadv
  · exact Held.advanced (s := ⟨redirects, before ++ m :: behind⟩) rfl hadv (h.held k hk hkkind)
  · have hnone : ({ m with level := level } : PlanNode).application? = none :=
      PlanNode.application?_eq_none hkind
    rw [← h.applications]
    simp only [List.filterMap_append, List.filterMap_cons, hnone,
      PlanNode.application?_eq_none hkind]

/-- A node is kept with other inputs. -/
theorem Kept.keep (h : Kept table nodes s) (hlt : ∀ m ∈ nodes, m.column < n.column)
    (hs : Supplied table s.kept { n with op := n.op.redirect s.target }) :
    Kept table (nodes ++ [n])
      ⟨s.redirects, s.kept ++ [{ n with op := n.op.redirect s.target }]⟩ where
  nodup := by
    rw [List.map_append, List.nodup_append]
    refine ⟨h.nodup, by simp, fun a ha b hb => ?_⟩
    obtain ⟨m, hm, rfl⟩ := List.mem_map.1 ha
    obtain ⟨k, hk, hcol⟩ := h.origin m hm
    rw [List.mem_singleton.1 hb, ← hcol]
    exact Nat.ne_of_lt (hlt k hk)
  origin := by
    refine forall_mem_snoc (fun m hm => ?_) ⟨n, by simp, rfl⟩
    obtain ⟨k, hk, hcol⟩ := h.origin m hm
    exact ⟨k, List.mem_append_left _ hk, hcol⟩
  dropped e he := by
    obtain ⟨k, hk, hcol⟩ := h.dropped e he
    exact ⟨k, List.mem_append_left _ hk, hcol⟩
  supplied := by
    have hadv := Advanced.of_subset
      (List.subset_append_left s.kept [{ n with op := n.op.redirect s.target }])
    exact forall_mem_snoc (fun m hm => (h.supplied m hm).advanced hadv) (hs.advanced hadv)
  held := by
    refine forall_mem_snoc (fun k hk hkkind => ?_) fun hkind => ?_
    · exact Held.advanced (s := s) rfl (Advanced.of_subset (List.subset_append_left _ _))
        (h.held k hk hkkind)
    · refine ⟨{ n with op := n.op.redirect s.target }, by simp, ?_, ?_, ?_⟩
      · -- Its column is new, so nothing was dropped for it yet.
        refine (State.target_of_forall_ne fun e he heq => ?_).symm
        obtain ⟨k, hk, hcol⟩ := h.dropped e he
        exact Nat.ne_of_lt (hlt k hk) (by rw [hcol, heq])
      · simpa [PlanNode.kind] using hkind
      · simp [Priority.before_iff, PlanNode.priority, PlanNode.kind]
  applications := by
    have : ({ n with op := n.op.redirect s.target } : PlanNode).application? = n.application? := by
      cases n with
      | mk tag op column level => cases op <;> rfl
    simp [h.applications, this, List.filterMap_cons]

/-- **A visit keeps the invariant.** -/
theorem Kept.step (h : Kept table nodes s) (hl : ∀ m ∈ nodes, table.length ≤ m.column)
    (hlt : ∀ m ∈ nodes, m.column < n.column) (hn : Supplied table nodes n) :
    Kept table (nodes ++ [n]) (step options s n) := by
  have hs := h.supplied_redirect hl hn
  have hprio : ({ n with op := n.op.redirect s.target } : PlanNode).priority = n.priority := by
    simp [PlanNode.priority, PlanNode.kind]
  obtain ⟨child, -, hchild, heq⟩ | ⟨before, m, behind, -, hkept, hop, hkind, -, heq⟩ |
    ⟨-, -, heq⟩ := step_cases options s n
  · -- What reads the node can read its child, which runs even earlier.
    obtain ⟨hmask, hkind⟩ := NodeOp.mem_masks_of_onlyChild? hchild
    rw [NodeOp.kind_redirect] at hkind
    obtain ⟨m, hm, rfl, hmkind, hmlt⟩ := hs.masks child hmask
    rw [hprio, Priority.lt_iff] at hmlt
    rw [heq]
    exact h.drop hlt hkind hm hmkind (Priority.before_iff.2 (by omega))
  · -- The kept node reads the same, and this is there as early as either of the two needs it.
    have hmkind : m.kind = n.kind := by rw [PlanNode.kind, hop, NodeOp.kind_redirect]; rfl
    have hm : m ∈ s.kept := by simp [hkept]
    have hadv : Supplied table s.kept { m with level := min m.level n.level } := by
      rcases Nat.le_total m.level n.level with hle | hle
      · rw [Nat.min_eq_left hle]
        exact h.supplied m hm
      · rw [Nat.min_eq_right hle]
        refine ⟨(h.supplied m hm).fits, fun a ha => ?_⟩
        have := hs.masks a (hop ▸ ha)
        rw [hprio] at this
        have hprio' : ({ m with level := n.level } : PlanNode).priority = n.priority := by
          show (⟨n.level, m.kind.weight⟩ : Priority) = ⟨n.level, n.kind.weight⟩
          rw [hmkind]
        rwa [hprio']
    have hstate : s = ⟨s.redirects, before ++ m :: behind⟩ := by rw [← hkept]
    have hadvanced := Kept.advance (hstate ▸ h) (hmkind ▸ hkind) (Nat.min_le_left _ n.level)
      (hkept ▸ hadv)
    rw [heq]
    refine hadvanced.drop hlt hkind (m := { m with level := min m.level n.level }) (by simp) ?_ ?_
    · exact hmkind ▸ hkind
    · show (⟨min m.level n.level, m.kind.weight⟩ : Priority).before ⟨n.level, n.kind.weight⟩ = true
      rw [Priority.before_iff, hmkind]
      simp only
      omega
  · rw [heq]
    exact h.keep hlt hs

/-! ### All visits -/

/-- The state after some nodes were visited. -/
def after (options : PlannerOptions) (nodes : List PlanNode) : State :=
  nodes.foldl (step options) ⟨[], []⟩

theorem run_eq (options : PlannerOptions) (nodes : List PlanNode) :
    run options nodes = (after options nodes).kept :=
  rfl

theorem after_snoc (options : PlannerOptions) (nodes : List PlanNode) (n : PlanNode) :
    after options (nodes ++ [n]) = step options (after options nodes) n := by
  simp [after]

theorem Layered.length_le (h : Layered table nodes) : ∀ n ∈ nodes, table.length ≤ n.column := by
  induction h with
  | nil => simp
  | snoc _ _ _ hl ih => exact forall_mem_snoc ih hl

/-- **The kept nodes of layered ones** satisfy the invariant. -/
theorem kept_after (h : Layered table nodes) : Kept table nodes (after options nodes) := by
  induction h with
  | nil => exact ⟨List.nodup_nil, by simp [after], by simp [after], by simp [after], by simp, rfl⟩
  | snoc hlayered hs hlt _ ih =>
    rw [after_snoc]
    exact ih.step (Layered.length_le hlayered) hlt hs

end Optimize

end TagRules
