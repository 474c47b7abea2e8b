import Mathlib.Data.List.Forall2
import TagRules.Proofs.Outcome

/-!
# Exact readers

A reader of a format succeeds just on what is in the format, and what it gives can be relied on.

* `Exact`: a reader accepts just what is in a format, and what it gives is right.
* `Exact.exists_ok_iff`, `Exact.good_of_ok`: these two facts, one by one.
* `Exact.bind`, `Exact.map`, `Exact.mapM`: readers that are made of others.
* `forall_mem_flatten_of_forall₂`, `pairwise_flatten_of_forall₂`: what is read in blocks.
-/

namespace TagRules

open Outcome

/-- **A reader accepts just what is in a format**, and what it gives is right. -/
def Exact {ε α : Type} (format : Prop) (good : α → Prop) (x : Except ε α) : Prop :=
  Ends (fun a => format ∧ good a) (fun _ => ¬format) x

namespace Exact

variable {ε ε' α β : Type} {format format' : Prop} {good : α → Prop} {good' : β → Prop}
  {x : Except ε α}

theorem ok {a : α} (hformat : format) (hgood : good a) : Exact format good (.ok a : Except ε α) :=
  ⟨hformat, hgood⟩

theorem error {e : ε} (h : ¬format) : Exact format good (.error e : Except ε α) := h

theorem exists_ok_iff (h : Exact format good x) : (∃ a, x = .ok a) ↔ format := by
  cases x with
  | ok a => exact ⟨fun _ => h.1, fun _ => ⟨a, rfl⟩⟩
  | error e =>
    refine ⟨?_, fun hformat => absurd hformat h⟩
    rintro ⟨a, ha⟩
    cases ha

theorem good_of_ok (h : Exact format good x) {a : α} (hx : x = .ok a) : good a :=
  (Ends.ok h hx).2

/-- The same format in other words, and less to say of what is read. -/
theorem congr {good₂ : α → Prop} (h : Exact format good x) (hformat : format ↔ format')
    (hgood : format → ∀ a, good a → good₂ a) : Exact format' good₂ x :=
  Ends.mono h (fun a ha => ⟨hformat.1 ha.1, hgood ha.1 a ha.2⟩) fun _ he h' => he (hformat.2 h')

theorem bind {f : α → Except ε β} (h : Exact format good x)
    (hf : ∀ a, good a → Exact format' good' (f a)) : Exact (format ∧ format') good' (x >>= f) := by
  cases x with
  | ok a =>
    exact (hf a h.2).congr (iff_of_eq (by rw [eq_true h.1, true_and])) fun _ _ hb => hb
  | error e => exact fun hboth => h hboth.1

theorem map {f : α → β} (h : Exact format good x) (hf : ∀ a, good a → good' (f a)) :
    Exact format good' (f <$> x) := by
  cases x with
  | ok a => exact ⟨h.1, hf a h.2⟩
  | error e => exact h

theorem mapError (h : Exact format good x) (f : ε → ε') : Exact format good (x.mapError f) := by
  cases x <;> exact h

theorem mapM {f : α → Except ε β} {format : α → Prop} {rel : α → β → Prop} {l : List α}
    (h : ∀ a ∈ l, Exact (format a) (rel a) (f a)) :
    Exact (∀ a ∈ l, format a) (List.Forall₂ rel l) (l.mapM f) := by
  have hends : Ends (List.Forall₂ (fun a b => format a ∧ rel a b) l)
      (fun _ => ¬∀ a ∈ l, format a) (l.mapM f) :=
    Ends.mapM fun a ha => (h a ha).mono (fun _ hb => hb) fun _ hnot hall => hnot (hall a ha)
  refine hends.mono (fun bs hbs => ?_) fun _ he => he
  obtain ⟨hformat, hrel⟩ := (List.forall₂_and_left _ _).1 hbs
  exact ⟨hformat, hrel⟩

end Exact

/-! ### Blocks -/

variable {α β : Type}

/-- What holds of all that is read from an item holds of all that is read. -/
theorem forall_mem_flatten_of_forall₂ {R : α → List β → Prop} {P : β → Prop} {items : List α}
    {blocks : List (List β)} (h : List.Forall₂ R items blocks)
    (hblock : ∀ a bs, R a bs → ∀ b ∈ bs, P b) : ∀ b ∈ blocks.flatten, P b := by
  intro b hb
  obtain ⟨bs, hbs, hb⟩ := List.mem_flatten.1 hb
  obtain ⟨a, -, hread⟩ := exists_of_mem_forall₂ h hbs
  exact hblock a bs hread b hb

/-- Blocks that are read one after the other are sorted when each of them is and their items are. -/
theorem pairwise_flatten_of_forall₂ {R : α → List β → Prop} {S : β → β → Prop}
    {T : α → α → Prop} {items : List α} {blocks : List (List β)} (h : List.Forall₂ R items blocks)
    (hitems : items.Pairwise T) (hblock : ∀ a ∈ items, ∀ bs, R a bs → bs.Pairwise S)
    (hcross : ∀ a bs a' bs', R a bs → R a' bs' → T a a' → ∀ x ∈ bs, ∀ y ∈ bs', S x y) :
    blocks.flatten.Pairwise S := by
  induction h with
  | nil => exact .nil
  | @cons a bs items blocks ha hrest ih =>
    obtain ⟨hfirst, hitems⟩ := List.pairwise_cons.1 hitems
    rw [List.flatten_cons, List.pairwise_append]
    refine ⟨hblock a List.mem_cons_self bs ha, ih hitems fun a' ha' =>
      hblock a' (List.mem_cons_of_mem _ ha'), fun x hx y hy => ?_⟩
    obtain ⟨bs', hbs', hy⟩ := List.mem_flatten.1 hy
    obtain ⟨a', ha', hread⟩ := exists_of_mem_forall₂ hrest hbs'
    exact hcross a bs a' bs' ha hread (hfirst a' ha') x hx y hy

/-- Blocks that are read are not empty together when none of them is. -/
theorem flatten_ne_nil_of_forall₂ {R : α → List β → Prop} {items : List α}
    {blocks : List (List β)} (h : List.Forall₂ R items blocks) (hne : items ≠ [])
    (hblock : ∀ a bs, R a bs → bs ≠ []) : blocks.flatten ≠ [] := by
  cases h with
  | nil => exact absurd rfl hne
  | @cons a bs _ blocks ha _ =>
    rw [List.flatten_cons]
    exact List.append_ne_nil_of_left_ne_nil (hblock a bs ha) _

end TagRules
