import TagRules.Proofs.Calendar.Written
import TagRules.Stored.Literal

/-!
# Stored literals are read back

A literal can be stored when its floats are finite, those inside of lists included. The kinds of
literals are stored as different kinds of JSON values, so that each is read back as it was.

* `HoldsFloat`, `AllFinite`: the floats in a literal, and that all of them are finite.
* `exists_toJson_iff`: which literals can be stored.
* `ofJson_toJson`: a stored literal is read back.
* `wellFormed_toJson`: the keys of a stored literal ascend.
-/

namespace TagRules.Json

theorem wellFormed_array_iff {items : List Json} :
    (Json.array items).WellFormed ↔ ∀ j ∈ items, j.WellFormed := by
  rw [WellFormed]
  induction items with
  | nil => simp [WellFormedItems]
  | cons j rest ih => rw [WellFormedItems, ih, List.forall_mem_cons]

theorem wellFormed_object_iff {fields : List (String × Json)} :
    (Json.object fields).WellFormed ↔
      Assoc.Ascending fields ∧ ∀ field ∈ fields, field.2.WellFormed := by
  have hfields : WellFormedFields fields ↔ ∀ field ∈ fields, field.2.WellFormed := by
    induction fields with
    | nil => simp [WellFormedFields]
    | cons field rest ih => rw [WellFormedFields, ih, List.forall_mem_cons]
  rw [WellFormed, hfields]

end TagRules.Json

namespace TagRules.Value

open Outcome

/-- What holds of a list when it holds of its items holds of every literal. -/
@[elab_as_elim]
theorem induction {motive : Value → Prop} (null : motive .null) (int : ∀ n, motive (.int n))
    (float : ∀ x, motive (.float x)) (bool : ∀ b, motive (.bool b))
    (string : ∀ s, motive (.string s)) (date : ∀ d, motive (.date d))
    (list : ∀ items, (∀ v ∈ items, motive v) → motive (.list items)) (v : Value) : motive v :=
  @Value.rec motive (fun items => ∀ v ∈ items, motive v) null int float bool string date
    (fun items ih => list items ih) (fun v hv => by simp at hv)
    (fun _ _ hv hrest => List.forall_mem_cons.2 ⟨hv, hrest⟩) v

/-! ### Floats in literals -/

/-- A float is in a literal: it is the literal, or in an item of the list that the literal is. -/
inductive HoldsFloat (x : Binary64) : Value → Prop
  | float : HoldsFloat x (.float x)
  | item {v : Value} {items : List Value} (hv : v ∈ items) (hx : HoldsFloat x v) :
    HoldsFloat x (.list items)

/-- **Every float in a literal is finite.** -/
def AllFinite (v : Value) : Prop := ∀ x, HoldsFloat x v → x.isFinite = true

theorem allFinite_float_iff {x : Binary64} : (Value.float x).AllFinite ↔ x.isFinite = true := by
  constructor
  · exact fun h => h x .float
  · rintro h y ⟨⟩
    exact h

theorem allFinite_list_iff {items : List Value} :
    (Value.list items).AllFinite ↔ ∀ v ∈ items, v.AllFinite := by
  constructor
  · exact fun h v hv x hx => h x (.item hv hx)
  · rintro h x (_ | ⟨hv, hx⟩)
    exact h _ hv x hx

/-! ### Writing -/

theorem toJsonItems_eq (items : List Value) : toJsonItems items = items.mapM toJson := by
  induction items with
  | nil => rfl
  | cons v rest ih =>
    rw [toJsonItems, ih, List.mapM_cons]

theorem ofJsonItems_eq (js : List Json) : ofJsonItems js = js.mapM ofJson := by
  induction js with
  | nil => rfl
  | cons j rest ih =>
    rw [ofJsonItems, ih, List.mapM_cons]

/-- **Which literals can be stored**: those whose floats are finite. -/
theorem exists_toJson_iff (v : Value) : (∃ j, v.toJson = .ok j) ↔ v.AllFinite := by
  induction v using Value.induction with
  | float x =>
    rw [allFinite_float_iff, toJson]
    by_cases h : x.isFinite = true
    · simp [h]
    · simp [h]
  | list items ih =>
    have hitems : (∃ j, (Value.list items).toJson = .ok j) ↔ ∃ js, items.mapM toJson = .ok js := by
      rw [toJson, toJsonItems_eq, exists_map_eq_ok_iff]
    rw [allFinite_list_iff, hitems, exists_mapM_iff]
    exact forall₂_congr ih
  | _ => exact ⟨fun _ x hx => (nomatch hx), fun _ => ⟨_, rfl⟩⟩

instance (v : Value) : Decidable v.AllFinite :=
  decidable_of_iff (v.toJson.isOk = true) (by
    rw [← exists_toJson_iff]
    cases v.toJson <;> simp [Except.isOk, Except.toBool])

/-! ### Reading -/

theorem ofNumber_integer {n : Int64} (h : -0x8000000000000000 ≤ n.toInt ∧ n.toInt < 0x10000000000000000) :
    ofNumber (.integer n.toInt h) = .int n := by
  have hlt : n.toInt < 0x8000000000000000 := n.toInt_lt
  rw [ofNumber, if_pos hlt, Int64.ofInt_toInt]

/-- **A stored literal is read back.** -/
theorem ofJson_toJson {v : Value} : ∀ {j : Json}, v.toJson = .ok j → ofJson j = .ok v := by
  induction v using Value.induction with
  | int n =>
    -- Every integer literal fits 64 bits with a sign, so that it is not rounded to a float.
    rintro j ⟨⟩
    rw [ofJson, ofNumber_integer]
  | float x =>
    intro j hj
    rw [toJson] at hj
    split at hj <;> cases hj
    rfl
  | date d =>
    rintro j ⟨⟩
    simp [ofJson, Date.read_write]
  | list items ih =>
    intro j hj
    rw [toJson, toJsonItems_eq, map_eq_ok_iff] at hj
    obtain ⟨js, hjs, rfl⟩ := hj
    have hread : js.mapM ofJson = .ok (items.map id) := mapM_read hjs fun v hv j hj => ih v hv hj
    rw [ofJson, ofJsonItems_eq, hread, List.map_id]
    rfl
  | _ =>
    rintro j ⟨⟩
    rfl

/-- The keys of a stored literal ascend. -/
theorem wellFormed_toJson {v : Value} : ∀ {j : Json}, v.toJson = .ok j → j.WellFormed := by
  induction v using Value.induction with
  | float x =>
    intro j hj
    rw [toJson] at hj
    split at hj <;> cases hj
    trivial
  | date d =>
    rintro j ⟨⟩
    exact ⟨List.pairwise_singleton _ _, trivial, trivial⟩
  | list items ih =>
    intro j hj
    rw [toJson, toJsonItems_eq, map_eq_ok_iff] at hj
    obtain ⟨js, hjs, rfl⟩ := hj
    refine Json.wellFormed_array_iff.2 fun j hj => ?_
    obtain ⟨v, hv, hvj⟩ := exists_of_mem_mapM hjs hj
    exact ih v hv hvj
  | _ =>
    rintro j ⟨⟩
    trivial

end TagRules.Value
