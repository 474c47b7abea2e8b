import Mathlib.Data.List.Basic

/-!
# Computations that can fail

Sequences of steps, each of which gives a result or fails.

* `bind_eq_ok_iff`, `bind_eq_error_iff`: a sequence of two steps succeeds when both do, and fails
  at the first step that fails.
* `map_eq_ok_iff`, `forM_eq_ok_iff`: when a map, and a loop over checks, succeeds.
* `foldlM_eq_error`: a loop fails at one of its steps.
* `mapM_eq_ok_map`: a map whose steps are known to succeed.
* `exists_of_mem_mapM`, `exists_of_mem_forall₂`: what a map gives, it gives for one of the items.
* `exists_mapM_iff`, `mapM_read`: when there is a map, and a map that undoes another.
* `error?`, `error?_seq`: the error of a computation; two steps fail with the first error.
* `Ends`: a computation succeeds with a good result or fails with a permitted error.
* `Ends.eq_ok_iff`: when a computation with a known result succeeds.
* `Ends.foldlM`, `Ends.mapM`, `Ends.mapM_of_error`: loops end in this way when their steps do.
* `Agree`, `AgreeUpTo`: two computations succeed with the same, or with related, results, or both
  fail.
* `Ends.agree`, `Ends.agreement`: computations with the same known result agree.
* `FailsAlike`: two computations both succeed, or fail with related errors.
-/

namespace TagRules.Outcome

variable {ε α β σ : Type}

theorem bind_eq_ok_iff {x : Except ε α} {f : α → Except ε β} {b : β} :
    x >>= f = .ok b ↔ ∃ a, x = .ok a ∧ f a = .ok b := by
  cases x <;> simp [bind, Except.bind]

theorem bind_eq_error_iff {x : Except ε α} {f : α → Except ε β} {e : ε} :
    x >>= f = .error e ↔ x = .error e ∨ ∃ a, x = .ok a ∧ f a = .error e := by
  cases x <;> simp [bind, Except.bind]

theorem map_eq_ok_iff {x : Except ε α} {f : α → β} {b : β} :
    f <$> x = .ok b ↔ ∃ a, x = .ok a ∧ f a = b := by
  cases x <;> simp [Functor.map, Except.map]

theorem map_eq_error_iff {x : Except ε α} {f : α → β} {e : ε} :
    f <$> x = .error e ↔ x = .error e := by
  cases x <;> simp [Functor.map, Except.map]

theorem exists_map_eq_ok_iff {x : Except ε α} {f : α → β} :
    (∃ b, f <$> x = .ok b) ↔ ∃ a, x = .ok a := by
  simp [map_eq_ok_iff]

theorem mapError_eq_ok_iff {ε' : Type} {x : Except ε α} {f : ε → ε'} {a : α} :
    x.mapError f = .ok a ↔ x = .ok a := by
  cases x <;> simp [Except.mapError]

theorem forM_eq_ok_iff {f : α → Except ε Unit} {l : List α} :
    l.forM f = .ok () ↔ ∀ a ∈ l, f a = .ok () := by
  induction l with
  | nil => exact ⟨fun _ a ha => absurd ha (by simp), fun _ => rfl⟩
  | cons a l ih =>
    show (f a >>= fun _ => l.forM f) = .ok () ↔ _
    rw [bind_eq_ok_iff, List.forall_mem_cons, ← ih]
    constructor
    · rintro ⟨⟨⟩, ha, hl⟩
      exact ⟨ha, hl⟩
    · rintro ⟨ha, hl⟩
      exact ⟨(), ha, hl⟩

theorem foldlM_eq_error {f : σ → α → Except ε σ} {l : List α} {s : σ} {e : ε}
    (h : l.foldlM f s = .error e) : ∃ a ∈ l, ∃ t, f t a = .error e := by
  induction l generalizing s with
  | nil => cases h
  | cons a l ih =>
    rw [List.foldlM_cons, bind_eq_error_iff] at h
    rcases h with h | ⟨t, -, h⟩
    · exact ⟨a, List.mem_cons_self, s, h⟩
    · obtain ⟨b, hb, h⟩ := ih h
      exact ⟨b, List.mem_cons_of_mem _ hb, h⟩

theorem mapM_cons_eq_ok_iff {f : α → Except ε β} {a : α} {l : List α} {bs : List β} :
    (a :: l).mapM f = .ok bs ↔ ∃ b bs', f a = .ok b ∧ l.mapM f = .ok bs' ∧ bs = b :: bs' := by
  rw [List.mapM_cons, bind_eq_ok_iff]
  constructor
  · rintro ⟨b, hb, h⟩
    obtain ⟨bs', hbs', h⟩ := bind_eq_ok_iff.1 h
    cases h
    exact ⟨b, bs', hb, hbs', rfl⟩
  · rintro ⟨b, bs', hb, hbs', rfl⟩
    exact ⟨b, hb, bind_eq_ok_iff.2 ⟨bs', hbs', rfl⟩⟩

/-- A map succeeds with known results when each of its steps does. -/
theorem mapM_eq_ok_map {f : α → Except ε β} {v : α → β} {l : List α}
    (h : ∀ a ∈ l, f a = .ok (v a)) : l.mapM f = .ok (l.map v) := by
  induction l with
  | nil => rfl
  | cons a l ih =>
    obtain ⟨ha, hl⟩ := List.forall_mem_cons.1 h
    exact mapM_cons_eq_ok_iff.2 ⟨v a, l.map v, ha, ih hl, rfl⟩

/-- A map whose steps give their items back. -/
theorem mapM_eq_ok_self {f : α → Except ε α} {l : List α} (h : ∀ a ∈ l, f a = .ok a) :
    l.mapM f = .ok l := by
  have hmap : l.mapM f = .ok (l.map id) := mapM_eq_ok_map h
  rwa [List.map_id] at hmap

/-- What is done to the results of a map can be done to each of them. -/
theorem map_mapM {γ : Type} (g : β → γ) (f : α → Except ε β) (l : List α) :
    List.map g <$> l.mapM f = l.mapM fun a => g <$> f a := by
  induction l with
  | nil => rfl
  | cons a l ih =>
    rw [List.mapM_cons, List.mapM_cons, ← ih]
    cases f a with
    | error e => rfl
    | ok b => cases l.mapM f <;> rfl

theorem exists_of_mem_mapM {f : α → Except ε β} {l : List α} {bs : List β} {b : β}
    (h : l.mapM f = .ok bs) (hb : b ∈ bs) : ∃ a ∈ l, f a = .ok b := by
  induction l generalizing bs with
  | nil =>
    cases h
    cases hb
  | cons a l ih =>
    obtain ⟨b', bs', hb', hbs', rfl⟩ := mapM_cons_eq_ok_iff.1 h
    rcases List.mem_cons.1 hb with rfl | hb
    · exact ⟨a, List.mem_cons_self, hb'⟩
    · obtain ⟨a', ha', h'⟩ := ih hbs' hb
      exact ⟨a', List.mem_cons_of_mem _ ha', h'⟩

/-! ### Errors -/

/-- The error of a computation, if it fails. -/
def error? : Except ε α → Option ε
  | .ok _ => none
  | .error e => some e

theorem error?_map (f : α → β) (x : Except ε α) : error? (f <$> x) = error? x := by
  cases x <;> rfl

/-- Two steps fail with the error of the first one that fails. -/
theorem error?_seq (f : α → β → σ) (x : Except ε α) (y : Except ε β) :
    error? (do let a ← x; let b ← y; return f a b) = (error? x).or (error? y) := by
  cases x with
  | error e => rfl
  | ok a => cases y <;> rfl

/-! ### How a computation ends -/

/-- **How a computation ends**: with a good result, or with a permitted error. -/
def Ends (good : α → Prop) (bad : ε → Prop) : Except ε α → Prop
  | .ok a => good a
  | .error e => bad e

variable {good : α → Prop} {bad : ε → Prop}

theorem Ends.ok {x : Except ε α} {a : α} (h : Ends good bad x) (hx : x = .ok a) : good a := by
  subst hx
  exact h

theorem Ends.error {x : Except ε α} {e : ε} (h : Ends good bad x) (hx : x = .error e) : bad e := by
  subst hx
  exact h

/-- A computation with a known result, which succeeds just under a condition. -/
theorem Ends.eq_ok_iff {x : Except ε α} {a b : α} {p : Prop}
    (h : Ends (fun out => out = b ∧ p) (fun _ => ¬p) x) : x = .ok a ↔ p ∧ a = b := by
  cases x with
  | ok out =>
    obtain ⟨rfl, hp⟩ := h
    simp [hp, eq_comm]
  | error e =>
    have hp : ¬p := h
    simp [hp]

theorem Ends.mono {good' : α → Prop} {bad' : ε → Prop} {x : Except ε α} (h : Ends good bad x)
    (hgood : ∀ a, good a → good' a) (hbad : ∀ e, bad e → bad' e) : Ends good' bad' x := by
  cases x with
  | ok a => exact hgood a h
  | error e => exact hbad e h

theorem Ends.bind {good' : β → Prop} {x : Except ε α} {f : α → Except ε β} (h : Ends good bad x)
    (hf : ∀ a, good a → Ends good' bad (f a)) : Ends good' bad (x >>= f) := by
  cases x with
  | ok a => exact hf a h
  | error e => exact h

theorem Ends.map {x : Except ε α} {f : α → β} {good' : β → Prop}
    (h : Ends (fun a => good' (f a)) bad x) : Ends good' bad (f <$> x) := by
  cases x <;> exact h

theorem Ends.mapError {ε' : Type} {x : Except ε α} {f : ε → ε'} {bad' : ε' → Prop}
    (h : Ends good (fun e => bad' (f e)) x) : Ends good bad' (x.mapError f) := by
  cases x <;> exact h

/-- A loop with an invariant that speaks of the items that were visited. -/
theorem Ends.foldlM {f : σ → α → Except ε σ} {l : List α} (inv : List α → σ → Prop) {s : σ}
    (h0 : inv [] s)
    (hstep : ∀ pre a post s, l = pre ++ a :: post → inv pre s → Ends (inv (pre ++ [a])) bad (f s a)) :
    Ends (inv l) bad (l.foldlM f s) := by
  suffices h : ∀ pre post s, l = pre ++ post → inv pre s → Ends (inv l) bad (post.foldlM f s) from
    h [] l s rfl h0
  intro pre post
  induction post generalizing pre with
  | nil =>
    intro s hl hinv
    rw [List.append_nil] at hl
    exact hl ▸ hinv
  | cons a post ih =>
    intro s hl hinv
    rw [List.foldlM_cons]
    exact (hstep pre a post s hl hinv).bind fun t ht => ih (pre ++ [a]) t (by simp [hl]) ht

theorem Ends.mapM {f : α → Except ε β} {l : List α} {rel : α → β → Prop}
    (h : ∀ a ∈ l, Ends (rel a) bad (f a)) : Ends (List.Forall₂ rel l) bad (l.mapM f) := by
  induction l with
  | nil => exact .nil
  | cons a l ih =>
    rw [List.mapM_cons]
    refine (h a List.mem_cons_self).bind fun b hb => ?_
    refine Ends.bind (ih fun a' ha' => h a' (List.mem_cons_of_mem _ ha')) fun bs hbs => ?_
    exact .cons hb hbs

/-- A map fails with an error of one of its steps. -/
theorem Ends.mapM_of_error {f : α → Except ε β} {l : List α}
    (h : ∀ a ∈ l, ∀ e, f a = .error e → bad e) : Ends (fun _ => True) bad (l.mapM f) := by
  have hends : Ends (List.Forall₂ (fun _ _ => True) l) bad (l.mapM f) := by
    refine Ends.mapM fun a ha => ?_
    cases hf : f a with
    | ok b => exact trivial
    | error e => exact h a ha e hf
  exact hends.mono (fun _ _ => trivial) fun _ he => he

theorem forall₂_of_mapM {f : α → Except ε β} {l : List α} {bs : List β}
    (h : l.mapM f = .ok bs) : List.Forall₂ (fun a b => f a = .ok b) l bs := by
  refine Ends.ok (Ends.mapM fun a _ => (?_ : Ends _ (fun _ => True) (f a))) h
  cases hf : f a with
  | ok b => exact rfl
  | error e => exact trivial

/-- What a pointwise relation says of an item on its right. -/
theorem exists_of_mem_forall₂ {R : α → β → Prop} {l : List α} {bs : List β}
    (h : List.Forall₂ R l bs) {b : β} (hb : b ∈ bs) : ∃ a ∈ l, R a b := by
  induction h with
  | nil => cases hb
  | @cons a b' l bs hab _ ih =>
    rcases List.mem_cons.1 hb with rfl | hb
    · exact ⟨a, List.mem_cons_self, hab⟩
    · obtain ⟨a', ha', hab'⟩ := ih hb
      exact ⟨a', List.mem_cons_of_mem _ ha', hab'⟩

/-- A map over values that were computed before. -/
theorem mapM_of_forall₂ {γ : Type} {g : α → Except ε β} {f : β → Except ε γ} {l : List α}
    {bs : List β} (h : List.Forall₂ (fun a b => g a = .ok b) l bs) :
    bs.mapM f = l.mapM fun a => g a >>= f := by
  induction h with
  | nil => rfl
  | @cons a b l bs hb _ ih =>
    rw [List.mapM_cons, List.mapM_cons, hb, ih]
    rfl

theorem exists_mapM {f : α → Except ε β} {l : List α} (h : ∀ a ∈ l, ∃ b, f a = .ok b) :
    ∃ bs, l.mapM f = .ok bs := by
  have hends : Ends (List.Forall₂ (fun _ _ => True) l) (fun _ => False) (l.mapM f) := by
    refine Ends.mapM fun a ha => ?_
    obtain ⟨b, hb⟩ := h a ha
    rw [hb]
    exact trivial
  cases hl : l.mapM f with
  | ok bs => exact ⟨bs, rfl⟩
  | error e => exact (hends.error hl).elim

/-- When there is a map of some items: its step succeeds on each of them. -/
theorem exists_mapM_iff {f : α → Except ε β} {l : List α} :
    (∃ bs, l.mapM f = .ok bs) ↔ ∀ a ∈ l, ∃ b, f a = .ok b := by
  refine ⟨fun h => ?_, exists_mapM⟩
  induction l with
  | nil => simp
  | cons a l ih =>
    obtain ⟨bs, hbs⟩ := h
    obtain ⟨b, bs', hb, hbs', -⟩ := mapM_cons_eq_ok_iff.1 hbs
    exact List.forall_mem_cons.2 ⟨⟨b, hb⟩, ih ⟨bs', hbs'⟩⟩

/-- **Reading what was written**, item by item. -/
theorem mapM_read {ε' γ : Type} {f : α → Except ε β} {g : β → Except ε' γ} {v : α → γ} {l : List α}
    {bs : List β} (h : l.mapM f = .ok bs)
    (hread : ∀ a ∈ l, ∀ b, f a = .ok b → g b = .ok (v a)) : bs.mapM g = .ok (l.map v) := by
  induction l generalizing bs with
  | nil =>
    cases h
    rfl
  | cons a l ih =>
    obtain ⟨b, bs', hb, hbs', rfl⟩ := mapM_cons_eq_ok_iff.1 h
    obtain ⟨ha, hl⟩ := List.forall_mem_cons.1 hread
    exact mapM_cons_eq_ok_iff.2 ⟨v a, l.map v, ha b hb, ih hbs' hl, rfl⟩

/-- A map over rows whose results are known. -/
theorem Ends.rows {f : α → Except ε β} {l : List α} {v : α → β}
    (h : ∀ a ∈ l, ∀ b, f a = .ok b → b = v a) :
    Ends (fun bs => bs = l.map v ∧ ∀ a ∈ l, ∃ b, f a = .ok b)
      (fun _ => ∃ a ∈ l, ¬∃ b, f a = .ok b) (l.mapM f) := by
  have hends : Ends (List.Forall₂ (fun a b => f a = .ok b) l) (fun _ => ∃ a ∈ l, ¬∃ b, f a = .ok b)
      (l.mapM f) := by
    refine Ends.mapM fun a ha => ?_
    cases hf : f a with
    | ok b => exact rfl
    | error e => exact ⟨a, ha, by simp [hf]⟩
  refine hends.mono (fun bs hbs => ?_) fun e he => he
  clear hends
  induction hbs with
  | nil => exact ⟨rfl, by simp⟩
  | @cons a b l bs hb _ ih =>
    obtain ⟨hbs, hall⟩ := ih fun a ha => h a (List.mem_cons_of_mem _ ha)
    refine ⟨?_, List.forall_mem_cons.2 ⟨⟨b, hb⟩, hall⟩⟩
    rw [List.map_cons, ← hbs, h a List.mem_cons_self b hb]

/-! ### Computations that agree -/

/-- **Two computations agree**: they succeed with the same result, or both fail, each with an error
of its own. -/
inductive Agree {ε' : Type} : Except ε α → Except ε' α → Prop
  | ok (a : α) : Agree (.ok a) (.ok a)
  | error (e : ε) (e' : ε') : Agree (.error e) (.error e')

theorem agree_of_forall {ε' : Type} {x : Except ε α} {y : Except ε' α}
    (h : ∀ a, x = .ok a ↔ y = .ok a) : Agree x y := by
  cases x with
  | ok a =>
    have hy : y = .ok a := (h a).1 rfl
    rw [hy]
    exact .ok a
  | error e =>
    cases y with
    | ok a => cases (h a).2 rfl
    | error e' => exact .error e e'

theorem Agree.eq_ok_iff {ε' : Type} {x : Except ε α} {y : Except ε' α} (h : Agree x y) {a : α} :
    x = .ok a ↔ y = .ok a := by
  cases h <;> simp

/-- A computation that succeeds under the same condition, and with the same result, as another one
agrees with it. -/
theorem Ends.agree {ε' : Type} {x : Except ε α} {y : Except ε' α} {a : α} {p : Prop}
    (hx : Ends (fun out => out = a ∧ p) (fun _ => ¬p) x)
    (hy : Ends (fun out => out = a ∧ p) (fun _ => ¬p) y) :
    (∃ out, x = .ok out ∧ y = .ok out) ∨ ∃ e e', x = .error e ∧ y = .error e' := by
  cases x with
  | ok out =>
    obtain ⟨rfl, hp⟩ := hx
    cases y with
    | ok out' => exact .inl ⟨out, rfl, by rw [hy.1]⟩
    | error e' => exact absurd hp hy
  | error e =>
    cases y with
    | ok out' => exact absurd hy.2 hx
    | error e' => exact .inr ⟨e, e', rfl, rfl⟩

theorem Ends.agreement {ε' : Type} {x : Except ε α} {y : Except ε' α} {a : α} {p : Prop}
    (hx : Ends (fun out => out = a ∧ p) (fun _ => ¬p) x)
    (hy : Ends (fun out => out = a ∧ p) (fun _ => ¬p) y) : Agree x y := by
  rcases hx.agree hy with ⟨out, rfl, rfl⟩ | ⟨e, e', rfl, rfl⟩
  · exact .ok out
  · exact .error e e'

/-- **Two computations agree up to a relation**: they succeed with related results, or both fail. -/
inductive AgreeUpTo {ε' : Type} (R : α → β → Prop) : Except ε α → Except ε' β → Prop
  | ok {a : α} {b : β} : R a b → AgreeUpTo R (.ok a) (.ok b)
  | error (e : ε) (e' : ε') : AgreeUpTo R (.error e) (.error e')

/-- Computations that succeed under the same condition agree up to what relates their results. -/
theorem Ends.agreeUpTo {ε' : Type} {R : α → β → Prop} {x : Except ε α} {y : Except ε' β} {a : α}
    {b : β} {p q : Prop} (hx : Ends (fun out => out = a ∧ p) (fun _ => ¬p) x)
    (hy : Ends (fun out => out = b ∧ q) (fun _ => ¬q) y) (hpq : p ↔ q) (hR : p → R a b) :
    AgreeUpTo R x y := by
  cases x with
  | ok out =>
    obtain ⟨rfl, hp⟩ := hx
    cases y with
    | ok out' => exact .ok (hy.1 ▸ hR hp)
    | error e' => exact absurd (hpq.1 hp) hy
  | error e =>
    cases y with
    | ok out' => exact absurd (hpq.2 hy.2) hx
    | error e' => exact .error e e'

/-- **Two computations fail alike**: both succeed, each with a result of its own, or they fail with
related errors. -/
inductive FailsAlike {ε' : Type} (R : ε → ε' → Prop) : Except ε α → Except ε' β → Prop
  | ok (a : α) (b : β) : FailsAlike R (.ok a) (.ok b)
  | error {e : ε} {e' : ε'} : R e e' → FailsAlike R (.error e) (.error e')

section

variable {ε' γ δ : Type} {R : ε → ε' → Prop} {x : Except ε α} {y : Except ε' β}

theorem FailsAlike.bind {f : α → Except ε γ} {g : β → Except ε' δ} (h : FailsAlike R x y)
    (hf : ∀ a b, FailsAlike R (f a) (g b)) : FailsAlike R (x >>= f) (y >>= g) := by
  cases h with
  | ok a b => exact hf a b
  | error hR => exact .error hR

theorem FailsAlike.map_right {g : β → δ} (h : FailsAlike R x y) : FailsAlike R x (g <$> y) := by
  cases h with
  | ok a b => exact .ok a (g b)
  | error hR => exact .error hR

theorem FailsAlike.exists_ok_iff (h : FailsAlike R x y) :
    (∃ a, x = .ok a) ↔ ∃ b, y = .ok b := by
  cases h <;> simp

theorem FailsAlike.exists_error {e : ε} (h : FailsAlike R x y) (hx : x = .error e) :
    ∃ e', y = .error e' ∧ R e e' := by
  cases h with
  | ok a b => cases hx
  | error hR =>
    cases hx
    exact ⟨_, rfl, hR⟩

end

end TagRules.Outcome
