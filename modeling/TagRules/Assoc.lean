/-!
# Association lists in ascending key order

Fields of a record and of a JSON object are listed by key, each key once. Keys are ordered by code
point, which is the order of their UTF-8 bytes.

* `Assoc.Ascending`: the keys ascend, so each occurs once.
* `Assoc.insert`: writes a key, keeping the order.
* `Assoc.ascending_insert`, `Assoc.lookup_insert`: what writing does to the order and to look-ups.
* `Assoc.ext_lookup`: two lists with the same look-ups are equal.
* `Assoc.group`: collects what neighbours with one key hold.
-/

namespace TagRules.Assoc

variable {α : Type}

/-- The keys ascend strictly. -/
def Ascending (l : List (String × α)) : Prop := l.Pairwise fun a b => a.1 < b.1

/-- Writes `v` under the key `k`. -/
def insert (k : String) (v : α) : List (String × α) → List (String × α)
  | [] => [(k, v)]
  | (k', v') :: rest =>
    if k < k' then (k, v) :: (k', v') :: rest
    else if k = k' then (k, v) :: rest
    else (k', v') :: insert k v rest

theorem lt_of_not_lt_of_ne {k k' : String} (h : ¬k < k') (hne : k ≠ k') : k' < k :=
  Std.lt_of_le_of_ne (String.not_lt.1 h) (Ne.symm hne)

theorem lookup_cons (k k' : String) (v : α) (l : List (String × α)) :
    List.lookup k ((k', v) :: l) = if k = k' then some v else l.lookup k := by
  rw [List.lookup_cons]
  by_cases h : k = k'
  · simp [h]
  · have hb : (k == k') = false := by simpa using h
    rw [hb, if_neg h]

theorem mem_insert {k : String} {v : α} {l : List (String × α)} {p : String × α}
    (h : p ∈ insert k v l) : p = (k, v) ∨ p ∈ l := by
  induction l with
  | nil => simpa [insert] using h
  | cons q rest ih =>
    obtain ⟨k', v'⟩ := q
    unfold insert at h
    split at h
    · simpa using h
    · split at h
      · rcases List.mem_cons.1 h with h | h
        · exact .inl h
        · exact .inr (List.mem_cons_of_mem _ h)
      · rcases List.mem_cons.1 h with h | h
        · exact .inr (by simp [h])
        · exact (ih h).imp_right (List.mem_cons_of_mem _)

/-- **Writing keeps the order.** -/
theorem ascending_insert {k : String} {v : α} {l : List (String × α)} (h : Ascending l) :
    Ascending (insert k v l) := by
  induction l with
  | nil => exact List.pairwise_singleton _ _
  | cons q rest ih =>
    obtain ⟨k', v'⟩ := q
    obtain ⟨h1, h2⟩ := List.pairwise_cons.1 h
    unfold insert
    split
    · rename_i hlt
      refine List.pairwise_cons.2 ⟨fun p hp => ?_, h⟩
      rcases List.mem_cons.1 hp with rfl | hp
      · exact hlt
      · exact String.lt_trans hlt (h1 p hp)
    · rename_i hlt
      split
      · rename_i heq
        subst heq
        exact List.pairwise_cons.2 ⟨h1, h2⟩
      · rename_i hne
        refine List.pairwise_cons.2 ⟨fun p hp => ?_, ih h2⟩
        rcases mem_insert hp with rfl | hp
        · exact lt_of_not_lt_of_ne hlt hne
        · exact h1 p hp

/-- **A look-up after writing** gives what was written, and what was there under any other key. -/
theorem lookup_insert (k j : String) (v : α) (l : List (String × α)) :
    (insert k v l).lookup j = if j = k then some v else l.lookup j := by
  induction l with
  | nil => simp only [insert, lookup_cons]
  | cons q rest ih =>
    obtain ⟨k', v'⟩ := q
    unfold insert
    split
    · rw [lookup_cons]
    · split
      · rename_i heq
        subst heq
        simp only [lookup_cons]
        split <;> rfl
      · rename_i hne
        simp only [lookup_cons, ih]
        by_cases h : j = k'
        · subst h
          simp [Ne.symm hne]
        · simp [h]

theorem lookup_eq_none_of_lt {k : String} {l : List (String × α)} (h : ∀ p ∈ l, k < p.1) :
    l.lookup k = none := by
  induction l with
  | nil => rfl
  | cons q rest ih =>
    obtain ⟨k', v⟩ := q
    have hk : k ≠ k' := fun e => String.lt_irrefl k' (e ▸ h (k', v) (by simp))
    rw [lookup_cons, if_neg hk, ih fun p hp => h p (List.mem_cons_of_mem _ hp)]

/-- **Ascending lists are determined by their look-ups.** -/
theorem ext_lookup {l m : List (String × α)} (hl : Ascending l) (hm : Ascending m)
    (h : ∀ k, l.lookup k = m.lookup k) : l = m := by
  induction l generalizing m with
  | nil =>
    cases m with
    | nil => rfl
    | cons q m =>
      obtain ⟨k, v⟩ := q
      have := h k
      simp at this
  | cons p l ih =>
    obtain ⟨pk, pv⟩ := p
    obtain ⟨hl1, hl2⟩ := List.pairwise_cons.1 hl
    cases m with
    | nil =>
      have := h pk
      simp at this
    | cons q m =>
      obtain ⟨qk, qv⟩ := q
      obtain ⟨hm1, hm2⟩ := List.pairwise_cons.1 hm
      -- The first keys agree: the smaller of two different ones is missing in the other list.
      have hkey : pk = qk := by
        by_cases he : pk = qk
        · exact he
        · exfalso
          by_cases hlt : pk < qk
          · have := h pk
            rw [lookup_cons, lookup_cons, if_pos rfl, if_neg he,
              lookup_eq_none_of_lt fun r hr => String.lt_trans hlt (hm1 r hr)] at this
            contradiction
          · have hgt := lt_of_not_lt_of_ne hlt he
            have := h qk
            rw [lookup_cons, lookup_cons, if_pos rfl, if_neg (Ne.symm he),
              lookup_eq_none_of_lt fun r hr => String.lt_trans hgt (hl1 r hr)] at this
            contradiction
      subst hkey
      have hval : pv = qv := by simpa [lookup_cons] using h pk
      subst hval
      congr 1
      refine ih hl2 hm2 fun k => ?_
      by_cases hk : k = pk
      · subst hk
        rw [lookup_eq_none_of_lt hl1, lookup_eq_none_of_lt hm1]
      · simpa [lookup_cons, hk] using h k

/-- Collects what neighbours with one key hold. -/
def group : List (String × α) → List (String × List α)
  | [] => []
  | (k, v) :: rest =>
    match group rest with
    | [] => [(k, [v])]
    | (k', vs) :: groups =>
      if k = k' then (k, v :: vs) :: groups else (k, [v]) :: (k', vs) :: groups

end TagRules.Assoc
