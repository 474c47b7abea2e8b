import TagRules.Assoc
import TagRules.Proofs.Outcome

/-!
# Groups of neighbours

What neighbours with one key hold is collected under the key. Nothing is lost and the order stays, so
that the items are found again by reading group after group.

* `flatMap_group`: the groups hold the items in their order.
* `mem_group`: a group is not empty, and its items have its key and stand in their order.
* `ascending_group`: the groups of a sorted list have different keys, in ascending order.
* `group_map`: items can be replaced before or after they are grouped.
* `exists_mapM_group`: reading every group gives the items.
-/

namespace TagRules.Assoc

open Outcome

variable {α β γ ε : Type} {l : List (String × α)}

/-- An item joins the first group of the items after it, if it has the key of that group. -/
theorem group_cons (k : String) (v : α) (rest : List (String × α)) :
    (∃ vs groups, group rest = (k, vs) :: groups ∧
      group ((k, v) :: rest) = (k, v :: vs) :: groups) ∨
    (∀ g ∈ (group rest).head?, k ≠ g.1) ∧ group ((k, v) :: rest) = (k, [v]) :: group rest := by
  cases hrest : group rest with
  | nil => exact .inr ⟨by simp, by rw [group, hrest]⟩
  | cons g groups =>
    obtain ⟨k', vs⟩ := g
    by_cases hk : k = k'
    · subst hk
      exact .inl ⟨vs, groups, rfl, by simp [group, hrest]⟩
    · exact .inr ⟨by simpa using hk, by simp [group, hrest, hk]⟩

/-- **The groups hold the items in their order.** -/
theorem flatMap_group (l : List (String × α)) : (group l).flatMap Prod.snd = l.map Prod.snd := by
  induction l with
  | nil => rfl
  | cons p rest ih =>
    obtain ⟨k, v⟩ := p
    rw [List.map_cons, ← ih]
    rcases group_cons k v rest with ⟨vs, groups, hrest, hgroup⟩ | ⟨-, hgroup⟩
    · rw [hgroup, hrest]
      rfl
    · rw [hgroup]
      rfl

theorem group_ne_nil (h : l ≠ []) : group l ≠ [] := by
  intro hnil
  have hitems := flatMap_group l
  rw [hnil, List.flatMap_nil] at hitems
  exact h (List.map_eq_nil_iff.1 hitems.symm)

/-- **A group is not empty**, and its items have its key and stand in their order. -/
theorem mem_group :
    ∀ g ∈ group l, g.2 ≠ [] ∧ List.Sublist (g.2.map fun v => (g.1, v)) l := by
  induction l with
  | nil => simp [group]
  | cons p rest ih =>
    obtain ⟨k, v⟩ := p
    rcases group_cons k v rest with ⟨vs, groups, hrest, hgroup⟩ | ⟨-, hgroup⟩ <;> rw [hgroup]
    · rw [hrest] at ih
      obtain ⟨hfirst, hgroups⟩ := List.forall_mem_cons.1 ih
      refine List.forall_mem_cons.2 ⟨⟨List.cons_ne_nil _ _, hfirst.2.cons_cons _⟩, fun g hg => ?_⟩
      exact (hgroups g hg).imp_right fun hitems => hitems.cons _
    · refine List.forall_mem_cons.2 ⟨⟨List.cons_ne_nil _ _, ?_⟩, fun g hg => ?_⟩
      · exact (List.nil_sublist rest).cons_cons _
      · exact (ih g hg).imp_right fun hitems => hitems.cons _

/-- **The groups of a sorted list** have different keys, in ascending order. -/
theorem ascending_group (h : l.Pairwise fun a b => a.1 ≤ b.1) : Ascending (group l) := by
  induction l with
  | nil => exact .nil
  | cons p rest ih =>
    obtain ⟨k, v⟩ := p
    obtain ⟨hk, hrest⟩ := List.pairwise_cons.1 h
    have hasc := ih hrest
    -- An item comes before every group after it, as a group has the key of one of its items.
    have hle : ∀ g ∈ group rest, k ≤ g.1 := by
      intro g hg
      obtain ⟨hne, hitems⟩ := mem_group g hg
      obtain ⟨w, hw⟩ := List.exists_mem_of_ne_nil g.2 hne
      exact hk (g.1, w) (hitems.subset (List.mem_map_of_mem hw))
    rcases group_cons k v rest with ⟨vs, groups, heq, hgroup⟩ | ⟨hne, hgroup⟩ <;> rw [hgroup]
    · rw [heq] at hasc
      exact List.pairwise_cons.2 (List.pairwise_cons.1 hasc)
    · refine List.pairwise_cons.2 ⟨?_, hasc⟩
      cases heq : group rest with
      | nil => simp
      | cons first groups =>
        rw [heq] at hasc hle hne
        have hfirst : k < first.1 :=
          Std.lt_of_le_of_ne (hle first List.mem_cons_self) (hne first rfl)
        refine List.forall_mem_cons.2 ⟨hfirst, fun g hg => ?_⟩
        exact String.lt_trans hfirst ((List.pairwise_cons.1 hasc).1 g hg)

/-- Items can be replaced before or after they are grouped. -/
theorem group_map (f : α → β) (l : List (String × α)) :
    group (l.map fun p => (p.1, f p.2)) = (group l).map fun g => (g.1, g.2.map f) := by
  induction l with
  | nil => rfl
  | cons p rest ih =>
    obtain ⟨k, v⟩ := p
    rw [List.map_cons, group, ih, group]
    cases group rest with
    | nil => rfl
    | cons g groups =>
      by_cases hk : k = g.1
      · simp [hk]
      · simp [hk]

/-- **Reading every group gives the items**, if what a group of items is stored as is read back. -/
theorem exists_mapM_group (key : β → String) (stored : β → α) (field : String × List α → γ)
    (read : γ → Except ε (List β)) {items : List β} (hne : items ≠ [])
    (h : ∀ bs : List β, bs ≠ [] → (∀ b ∈ bs, b ∈ items) → ∀ k, (∀ b ∈ bs, key b = k) →
      read (field (k, bs.map stored)) = .ok bs) :
    ∃ first fields blocks,
      (group (items.map fun b => (key b, stored b))).map field = first :: fields ∧
      (first :: fields).mapM read = .ok blocks ∧ blocks.flatten = items := by
  -- Every item is grouped with its key, and what is stored for it is put in its place afterwards.
  have hgroup := group_map stored (items.map fun b => (key b, b))
  rw [List.map_map] at hgroup
  have hread : ((group (items.map fun b => (key b, stored b))).map field).mapM read =
      .ok ((group (items.map fun b => (key b, b))).map Prod.snd) := by
    rw [show group (items.map fun b => (key b, stored b)) = _ from hgroup, List.map_map,
      List.mapM_map]
    refine mapM_eq_ok_map fun g hg => ?_
    obtain ⟨hg, hitems⟩ := mem_group g hg
    have hitem : ∀ b ∈ g.2, b ∈ items ∧ key b = g.1 := by
      intro b hb
      obtain ⟨c, hc, heq⟩ := List.mem_map.1 (hitems.subset (List.mem_map_of_mem hb))
      obtain ⟨hkey, rfl⟩ := Prod.mk.inj heq
      exact ⟨hc, hkey⟩
    exact h g.2 hg (fun b hb => (hitem b hb).1) g.1 fun b hb => (hitem b hb).2
  have hflatten : ((group (items.map fun b => (key b, b))).map Prod.snd).flatten = items := by
    rw [← List.flatMap_def, flatMap_group, List.map_map]
    exact List.map_id _
  obtain ⟨first, fields, hfields⟩ := List.exists_cons_of_ne_nil
    (List.map_eq_nil_iff.not.2 (group_ne_nil (List.map_eq_nil_iff.not.2 hne)))
  exact ⟨first, fields, _, hfields, hfields ▸ hread, hflatten⟩

end TagRules.Assoc
