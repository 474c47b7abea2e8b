import TagRules.Proofs.Outcome

/-!
# A whole and its two parts

A computation on a whole is compared with the same computation on two parts of it.

* `Parted`: a list and its two parts.
* `Threefold`: three lists whose entries are related one by one.
* `Joined`: a computation succeeds on the whole just when it does on both parts, and the three
  results are related.
* `Joined.bind`, `Joined.foldlM`, `Joined.mapM`: sequences and loops keep this.
* `joined_mapM_append`: a map over a list and over its two parts.
-/

namespace TagRules

/-! ### Three related lists -/

section

variable {α β γ : Type}

/-- **Three lists of one length**, with related entries. -/
inductive Threefold (R : α → β → γ → Prop) : List α → List β → List γ → Prop
  | nil : Threefold R [] [] []
  | cons {a : α} {b : β} {c : γ} {as : List α} {bs : List β} {cs : List γ} :
    R a b c → Threefold R as bs cs → Threefold R (a :: as) (b :: bs) (c :: cs)

namespace Threefold

theorem append {R : α → β → γ → Prop} {as as' : List α} {bs bs' : List β} {cs cs' : List γ}
    (h : Threefold R as bs cs) (h' : Threefold R as' bs' cs') :
    Threefold R (as ++ as') (bs ++ bs') (cs ++ cs') := by
  induction h with
  | nil => exact h'
  | cons hhead _ ih => exact .cons hhead ih

end Threefold

end

/-! ### Lists in two parts -/

section

/-- **A list in two parts**, where the size of the first part is known. -/
def Parted {α : Type} (size : Nat) (whole first second : List α) : Prop :=
  whole = first ++ second ∧ first.length = size

variable {α β : Type} {size : Nat} {a b c : List α}

theorem parted_map (f : α → β) (a b : List α) :
    Parted a.length ((a ++ b).map f) (a.map f) (b.map f) :=
  ⟨List.map_append, List.length_map f⟩

theorem Parted.map (f : α → β) (h : Parted size a b c) :
    Parted size (a.map f) (b.map f) (c.map f) := by
  obtain ⟨rfl, rfl⟩ := h
  exact parted_map f b c

theorem Parted.zipWith {γ : Type} {a' b' c' : List β} (f : α → β → γ) (h : Parted size a b c)
    (h' : Parted size a' b' c') :
    Parted size (List.zipWith f a a') (List.zipWith f b b') (List.zipWith f c c') := by
  obtain ⟨rfl, hlength⟩ := h
  obtain ⟨rfl, hlength'⟩ := h'
  refine ⟨List.zipWith_append (hlength.trans hlength'.symm), ?_⟩
  rw [List.length_zipWith, hlength, hlength', Nat.min_self]

end

/-! ### Three related computations -/

namespace Outcome

variable {ε α β γ ι : Type}

/-- **A computation on a whole and on its two parts**: it succeeds on the whole, with related
results, when it does on both parts, and fails when it fails on one of them. -/
inductive Joined (R : α → β → γ → Prop) : Except ε α → Except ε β → Except ε γ → Prop
  | ok {a : α} {b : β} {c : γ} : R a b c → Joined R (.ok a) (.ok b) (.ok c)
  | first (e e' : ε) (z : Except ε γ) : Joined R (.error e) (.error e') z
  | second (e e' : ε) (y : Except ε β) : Joined R (.error e) y (.error e')

namespace Joined

variable {R : α → β → γ → Prop} {x : Except ε α} {y : Except ε β} {z : Except ε γ}

theorem of_whole (h : Joined R x y z) {a : α} (hx : x = .ok a) :
    ∃ b c, y = .ok b ∧ z = .ok c ∧ R a b c := by
  cases h with
  | ok hR =>
    cases hx
    exact ⟨_, _, rfl, rfl, hR⟩
  | first => cases hx
  | second => cases hx

theorem of_parts (h : Joined R x y z) {b : β} {c : γ} (hy : y = .ok b) (hz : z = .ok c) :
    ∃ a, x = .ok a ∧ R a b c := by
  cases h with
  | ok hR =>
    cases hy
    cases hz
    exact ⟨_, rfl, hR⟩
  | first => cases hy
  | second => cases hz

/-- A step that does not depend on the part. -/
theorem same (x : Except ε α) : Joined (fun a b c => a = b ∧ a = c) x x x := by
  cases x with
  | ok a => exact .ok ⟨rfl, rfl⟩
  | error e => exact .first e e _

theorem bind {α' β' γ' : Type} {S : α' → β' → γ' → Prop} {f : α → Except ε α'}
    {g : β → Except ε β'} {k : γ → Except ε γ'} (h : Joined R x y z)
    (hstep : ∀ a b c, R a b c → Joined S (f a) (g b) (k c)) :
    Joined S (x >>= f) (y >>= g) (z >>= k) := by
  cases h with
  | ok hR => exact hstep _ _ _ hR
  | first e e' _ => exact .first e e' _
  | second e e' _ => exact .second e e' _

theorem map {α' β' γ' : Type} {S : α' → β' → γ' → Prop} {f : α → α'} {g : β → β'} {k : γ → γ'}
    (h : Joined R x y z) (hstep : ∀ a b c, R a b c → S (f a) (g b) (k c)) :
    Joined S (f <$> x) (g <$> y) (k <$> z) := by
  cases h with
  | ok hR => exact .ok (hstep _ _ _ hR)
  | first e e' _ => exact .first e e' _
  | second e e' _ => exact .second e e' _

theorem mapError {ε' : Type} (h : Joined R x y z) (f : ε → ε') :
    Joined R (x.mapError f) (y.mapError f) (z.mapError f) := by
  cases h with
  | ok hR => exact .ok hR
  | first e e' _ => exact .first (f e) (f e') _
  | second e e' _ => exact .second (f e) (f e') _

/-- A loop over the same items keeps what each step keeps. -/
theorem foldlM {f : α → ι → Except ε α} {g : β → ι → Except ε β} {k : γ → ι → Except ε γ}
    {l : List ι} {a : α} {b : β} {c : γ} (h : R a b c)
    (hstep : ∀ i a b c, R a b c → Joined R (f a i) (g b i) (k c i)) :
    Joined R (l.foldlM f a) (l.foldlM g b) (l.foldlM k c) := by
  induction l generalizing a b c with
  | nil => exact .ok h
  | cons i l ih =>
    rw [List.foldlM_cons, List.foldlM_cons, List.foldlM_cons]
    exact (hstep i a b c h).bind fun a b c h => ih h

/-- A map over the same items. -/
theorem mapM {f : ι → Except ε α} {g : ι → Except ε β} {k : ι → Except ε γ} {l : List ι}
    (h : ∀ i, Joined R (f i) (g i) (k i)) :
    Joined (Threefold R) (l.mapM f) (l.mapM g) (l.mapM k) := by
  induction l with
  | nil => exact .ok .nil
  | cons i l ih =>
    rw [List.mapM_cons, List.mapM_cons, List.mapM_cons]
    refine (h i).bind fun a b c hR => ?_
    exact ih.bind fun as bs cs hlists => .ok (.cons hR hlists)

end Joined

/-- **A map over a list and over its two parts.** -/
theorem joined_mapM_append (f : ι → Except ε α) (l l' : List ι) :
    Joined (Parted l.length) ((l ++ l').mapM f) (l.mapM f) (l'.mapM f) := by
  induction l with
  | nil =>
    show Joined _ (l'.mapM f) (.ok []) (l'.mapM f)
    cases l'.mapM f with
    | ok cs => exact .ok ⟨rfl, rfl⟩
    | error e => exact .second e e _
  | cons i l ih =>
    rw [List.cons_append, List.mapM_cons, List.mapM_cons]
    cases f i with
    | error e => exact .first e e _
    | ok a =>
      show Joined _ ((l ++ l').mapM f >>= fun as => .ok (a :: as))
        (l.mapM f >>= fun bs => .ok (a :: bs)) (l'.mapM f)
      generalize (l ++ l').mapM f = x, l.mapM f = y, l'.mapM f = z at ih
      cases ih with
      | ok hR => exact .ok ⟨congrArg (a :: ·) hR.1, congrArg (· + 1) hR.2⟩
      | first e e' _ => exact .first e e' _
      | second e e' _ => exact .second e e' _

end Outcome

open Outcome in
theorem Parted.joined_mapM {ε ι α : Type} {size : Nat} {a b c : List ι} (h : Parted size a b c)
    (f : ι → Except ε α) : Joined (Parted size) (a.mapM f) (b.mapM f) (c.mapM f) := by
  obtain ⟨rfl, rfl⟩ := h
  exact joined_mapM_append f b c

end TagRules
