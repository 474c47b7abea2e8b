import Mathlib.Data.List.Chain
import Mathlib.Data.List.Perm.Subperm
import TagRules.Dependency.Search
import TagRules.Proofs.Outcome

/-!
# What a depth-first search finds

A search either lists every node after its neighbours, or it shows a circle of neighbours.

* `Finished`: every listed node comes after its neighbours.
* `run_ok`: a search that ends well has listed all nodes in such an order.
* `run_error`: a search that fails shows a circle without repetition.
-/

namespace TagRules.Search

variable {neighbours : Nat → List Nat} {size : Nat}

/-- The listed nodes are different and each comes after its neighbours, the latest node first. -/
inductive Finished (neighbours : Nat → List Nat) : List Nat → Prop
  | nil : Finished neighbours []
  | cons {done : List Nat} {node : Nat} : Finished neighbours done → node ∉ done →
      (∀ y ∈ neighbours node, y ∈ done) → Finished neighbours (node :: done)

/-- The neighbours of a listed node are listed. -/
theorem Finished.neighbours_mem {done : List Nat} (h : Finished neighbours done) :
    ∀ x ∈ done, ∀ y ∈ neighbours x, y ∈ done := by
  induction h with
  | nil => simp
  | cons _ _ hall ih =>
    intro x hx y hy
    rcases List.mem_cons.1 hx with rfl | hx
    · exact List.mem_cons_of_mem _ (hall y hy)
    · exact List.mem_cons_of_mem _ (ih x hx y hy)

/-- A listed node stands before its neighbours, as the latest node is the first one. -/
theorem Finished.idxOf_lt {done : List Nat} (h : Finished neighbours done) :
    ∀ x ∈ done, ∀ y ∈ neighbours x, done.idxOf x < done.idxOf y := by
  induction h with
  | nil => simp
  | @cons done node hdone hnew hall ih =>
    intro x hx y hy
    have hlater : ∀ z ∈ done, (node :: done).idxOf z = done.idxOf z + 1 := fun z hz =>
      List.idxOf_cons_ne _ fun heq : node = z => hnew (heq ▸ hz)
    rcases List.mem_cons.1 hx with rfl | hx
    · rw [List.idxOf_cons_self, hlater y (hall y hy)]
      exact Nat.succ_pos _
    · rw [hlater x hx, hlater y (hdone.neighbours_mem x hx y hy)]
      exact Nat.succ_lt_succ (ih x hx y hy)

/-- A circle: each node is a neighbour of the one after it, and none occurs twice but the first,
which is also the last. -/
def IsCircle (neighbours : Nat → List Nat) (circle : List Nat) : Prop :=
  ∃ node rest, circle = node :: (rest ++ [node]) ∧ (node :: rest).Nodup ∧
    circle.IsChain fun x y => x ∈ neighbours y

/-- What a search keeps of a list of finished nodes: nothing is lost, and the nodes on the way to it
are not added. -/
structure Progress (neighbours : Nat → List Nat) (size : Nat) (stack done done' : List Nat) :
    Prop where
  finished : Finished neighbours done'
  subset : done ⊆ done'
  bounded : ∀ x ∈ done', x < size
  avoids : ∀ x ∈ stack, x ∉ done → x ∉ done'

theorem Progress.trans {stack a b c : List Nat} (h : Progress neighbours size stack a b)
    (h' : Progress neighbours size stack b c) : Progress neighbours size stack a c :=
  ⟨h'.finished, fun _ hx => h'.subset (h.subset hx), h'.bounded,
    fun x hx hxa => h'.avoids x hx (h.avoids x hx hxa)⟩

theorem length_le_of_forall_lt {l : List Nat} (hl : l.Nodup) (h : ∀ x ∈ l, x < size) :
    l.length ≤ size := by
  have hsub : l ⊆ List.range size := fun x hx => List.mem_range.2 (h x hx)
  simpa using (List.subperm_of_subset hl hsub).length_le

/-- A loop of visits, of which each makes progress and lists its node. -/
theorem foldlM_progress {visit : List Nat → Nat → Except (List Nat) (List Nat)}
    (stack : List Nat) {nodes : List Nat}
    (hvisit : ∀ done done' node, node ∈ nodes → Finished neighbours done → (∀ x ∈ done, x < size) →
      visit done node = .ok done' → Progress neighbours size stack done done' ∧ node ∈ done')
    {done done' : List Nat} (hf : Finished neighbours done) (hb : ∀ x ∈ done, x < size)
    (h : nodes.foldlM visit done = .ok done') :
    Progress neighbours size stack done done' ∧ ∀ x ∈ nodes, x ∈ done' := by
  induction nodes generalizing done with
  | nil =>
    cases h
    exact ⟨⟨hf, fun _ hx => hx, hb, fun _ _ hx => hx⟩, by simp⟩
  | cons node nodes ih =>
    rw [List.foldlM_cons, Outcome.bind_eq_ok_iff] at h
    obtain ⟨mid, h1, h2⟩ := h
    obtain ⟨hp, hmem⟩ := hvisit done mid node List.mem_cons_self hf hb h1
    obtain ⟨hq, hall⟩ := ih (fun d d' x hx => hvisit d d' x (List.mem_cons_of_mem _ hx))
      hp.finished hp.bounded h2
    refine ⟨hp.trans hq, fun x hx => ?_⟩
    rcases List.mem_cons.1 hx with rfl | hx
    · exact hq.subset hmem
    · exact hall x hx

/-- **A visit that ends well** lists its node, after all of its neighbours. The fuel is enough, as
the nodes on the way are different. -/
theorem visit_ok (hn : ∀ x < size, ∀ y ∈ neighbours x, y < size) :
    ∀ (fuel : Nat) (stack done done' : List Nat) (node : Nat), stack.Nodup →
      (∀ x ∈ stack, x < size) → node < size → size < fuel + stack.length →
      Finished neighbours done → (∀ x ∈ done, x < size) →
      visit neighbours fuel stack done node = .ok done' →
      Progress neighbours size stack done done' ∧ node ∈ done' := by
  intro fuel
  induction fuel with
  | zero =>
    intro stack done done' node hnd hst hnode hfuel hf hb h
    -- All nodes would be on the way, and more.
    have := length_le_of_forall_lt hnd hst
    omega
  | succ fuel ih =>
    intro stack done done' node hnd hst hnode hfuel hf hb h
    unfold visit at h
    by_cases hdone : node ∈ done
    · rw [if_pos hdone] at h
      cases h
      exact ⟨⟨hf, fun _ hx => hx, hb, fun _ _ hx => hx⟩, hdone⟩
    rw [if_neg hdone] at h
    by_cases hstack : node ∈ stack
    · rw [if_pos hstack] at h
      cases h
    rw [if_neg hstack, Outcome.bind_eq_ok_iff] at h
    obtain ⟨mid, hmid, h⟩ := h
    cases h
    have hst' : ∀ x ∈ node :: stack, x < size := by
      intro x hx
      rcases List.mem_cons.1 hx with rfl | hx
      · exact hnode
      · exact hst x hx
    obtain ⟨hp, hall⟩ := foldlM_progress (node :: stack)
      (fun d d' y hy hd hdb => ih (node :: stack) d d' y (List.nodup_cons.2 ⟨hstack, hnd⟩) hst'
        (hn node hnode y hy) (by simp only [List.length_cons]; omega) hd hdb) hf hb hmid
    -- The neighbours were visited with the node on the way to them, so none of them has listed it.
    refine ⟨⟨?_, ?_, ?_, ?_⟩, List.mem_cons_self⟩
    · exact .cons hp.finished (hp.avoids node List.mem_cons_self hdone) hall
    · exact fun x hx => List.mem_cons_of_mem _ (hp.subset hx)
    · intro x hx
      rcases List.mem_cons.1 hx with rfl | hx
      · exact hnode
      · exact hp.bounded x hx
    · intro x hx hxd hx'
      rcases List.mem_cons.1 hx' with rfl | hx'
      · exact hstack hx
      · exact hp.avoids x (List.mem_cons_of_mem _ hx) hxd hx'

/-- The circle is cut out of the way to a node that lies on this way. -/
theorem isCircle_of_mem {stack : List Nat} {node : Nat} (hnd : stack.Nodup) (hmem : node ∈ stack)
    (hchain : (node :: stack).IsChain fun x y => x ∈ neighbours y) :
    IsCircle neighbours (node :: stack.takeWhile (· ≠ node) ++ [node]) := by
  obtain ⟨before, after, rfl⟩ := List.append_of_mem hmem
  obtain ⟨hb, -, hdisj⟩ := List.nodup_append.1 hnd
  have hbefore : node ∉ before := fun h => hdisj node h node List.mem_cons_self rfl
  have htake : (before ++ node :: after).takeWhile (· ≠ node) = before := by
    rw [List.takeWhile_append_of_pos]
    · simp
    · intro x hx
      simpa using fun e : x = node => hbefore (e ▸ hx)
  rw [htake]
  exact ⟨node, before, rfl, List.nodup_cons.2 ⟨hbefore, hb⟩, hchain.prefix ⟨after, by simp⟩⟩

/-- **A visit that fails** shows a circle. -/
theorem visit_error : ∀ (fuel : Nat) (stack done circle : List Nat) (node : Nat), stack.Nodup →
    (node :: stack).IsChain (fun x y => x ∈ neighbours y) →
    visit neighbours fuel stack done node = .error circle → IsCircle neighbours circle := by
  intro fuel
  induction fuel with
  | zero =>
    intro stack done circle node hnd hchain h
    unfold visit at h
    split at h
    · cases h
    · split at h
      · rename_i hmem
        cases h
        exact isCircle_of_mem hnd hmem hchain
      · cases h
  | succ fuel ih =>
    intro stack done circle node hnd hchain h
    unfold visit at h
    split at h
    · cases h
    · split at h
      · rename_i hmem
        cases h
        exact isCircle_of_mem hnd hmem hchain
      · rename_i hstack
        rw [Outcome.bind_eq_error_iff] at h
        rcases h with h | ⟨mid, -, h⟩
        · obtain ⟨y, hy, d, hv⟩ := Outcome.foldlM_eq_error h
          exact ih (node :: stack) d circle y (List.nodup_cons.2 ⟨hstack, hnd⟩)
            (List.isChain_cons_cons.2 ⟨hy, hchain⟩) hv
        · cases h

/-- **A search that ends well** has listed all nodes, each after its neighbours. -/
theorem run_ok (hn : ∀ x < size, ∀ y ∈ neighbours x, y < size) {done : List Nat}
    (h : run neighbours size (List.range size) = .ok done) :
    Finished neighbours done ∧ ∀ x, x ∈ done ↔ x < size := by
  obtain ⟨hp, hall⟩ := foldlM_progress []
    (fun d d' y hy hd hdb => visit_ok hn (size + 1) [] d d' y List.nodup_nil (by simp)
      (List.mem_range.1 hy) (by simp) hd hdb) (Finished.nil : Finished neighbours []) (by simp) h
  exact ⟨hp.finished, fun x => ⟨hp.bounded x, fun hx => hall x (List.mem_range.2 hx)⟩⟩

/-- **A search that fails** shows a circle. -/
theorem run_error {circle nodes : List Nat} (h : run neighbours size nodes = .error circle) :
    IsCircle neighbours circle := by
  obtain ⟨y, -, d, hv⟩ := Outcome.foldlM_eq_error h
  exact visit_error (size + 1) [] d circle y List.nodup_nil (List.isChain_singleton y) hv

end TagRules.Search
