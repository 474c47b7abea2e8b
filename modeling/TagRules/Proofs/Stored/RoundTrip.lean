import Mathlib
import TagRules.Proofs.Stored.Alternative

/-!
# Stored rules are read back

What is read back is the normal form of the rule, with the leaves of every alternative in the order of
storage. It is stored in the same way again.

* `AllFinite`: every float in the literals of a rule is finite.
* `reloaded`: the rule that is read back.
* `exists_toJson_iff`: which rules can be stored.
* `ofJson_toJson`: a stored rule is read back.
* `toJson_reloaded`: what is read back is stored in the same way.
* `sameMeaning_reloaded`: the order of leaves does not change the meaning.
* `storage_roundTrip`: storing and reading rules, put together.
-/

namespace TagRules.Rule

open Outcome

variable {r : Rule} {as : List (List Rule)} {j : Json} {reg : Registry} {record : Record}

/-- **Every float in the literals of a rule is finite.** -/
def AllFinite (r : Rule) : Prop := ∀ c, r.HasLeaf (.condition c) → c.value.AllFinite

theorem allFinite_iff_subrules : r.AllFinite ↔ ∀ s ∈ r.subrules, s.storedValue.AllFinite := by
  refine ⟨fun h s hs => ?_, fun h c hc => h _ hc.1⟩
  cases s with
  | condition c => exact h c ⟨hs, rfl⟩
  | _ => exact (Value.exists_toJson_iff _).1 ⟨_, rfl⟩

instance (r : Rule) : Decidable r.AllFinite := decidable_of_iff _ allFinite_iff_subrules.symm

/-- The alternatives of a rule, with their leaves in the order of storage. -/
def reloaded (as : List (List Rule)) : Rule := ofAlternatives (as.map sortStored)

/-- The stored form of some alternatives. -/
def storedForm (as : List (List Rule)) : Json :=
  .array (as.map fun a => .object (storedFields (sortStored a)))

/-! ### Writing -/

/-- Every leaf of some alternatives can be stored. -/
def AreStorable (as : List (List Rule)) : Prop := ∀ a ∈ as, ∀ l ∈ a, l.IsStorable

theorem mapM_storedAlternative (h : AreStorable as) :
    as.mapM storedAlternative = .ok (as.map fun a => .object (storedFields (sortStored a))) :=
  mapM_eq_ok_map fun a ha => storedAlternative_eq (h a ha)

theorem exists_mapM_storedAlternative_iff (h : AreSound as) :
    (∃ objects, as.mapM storedAlternative = .ok objects) ↔ AreStorable as := by
  rw [exists_mapM_iff]
  exact forall₂_congr fun a ha => exists_storedAlternative_iff (h.2 a ha).2

/-- **The stored form of a rule** is that of its alternatives, if their leaves can be stored. -/
theorem toJson_eq_ok_iff : r.toJson = .ok j ↔
    ∃ as, r.normalForm = .ok as ∧ AreStorable as ∧ j = storedForm as := by
  unfold toJson
  rw [bind_eq_ok_iff]
  refine exists_congr fun as => and_congr_right fun hnormal => ?_
  obtain ⟨hsound, -, rfl⟩ := normalForm_eq_ok_iff.1 hnormal
  constructor
  · intro h
    obtain ⟨objects, hobjects, h⟩ := bind_eq_ok_iff.1 h
    -- An alternative is stored only if its leaves can be, and then in the known form.
    have hstored := mapError_eq_ok_iff.1 hobjects
    have hall := (exists_mapM_storedAlternative_iff (toDnf_sound r hsound)).1 ⟨objects, hstored⟩
    cases hstored.symm.trans (mapM_storedAlternative hall)
    cases h
    exact ⟨hall, rfl⟩
  · rintro ⟨hall, rfl⟩
    exact bind_eq_ok_iff.2 ⟨_, mapError_eq_ok_iff.2 (mapM_storedAlternative hall), rfl⟩

/-- The leaves of the alternatives of a sound rule can be stored if the floats of the rule are
finite. -/
theorem areStorable_toDnf_iff (h : r.IsSound) : AreStorable r.toDnf ↔ r.AllFinite := by
  constructor
  · intro hall c hc
    obtain ⟨a, ha, hl⟩ := (occurs_toDnf_iff h).2 hc
    exact (hall a ha _ hl).finite
  · intro hfinite a ha l hl
    have hsound := ((toDnf_sound r h).2 a ha).2 l hl
    refine ⟨hsound, ?_⟩
    rcases isSoundLeaf_iff.1 hsound with ⟨c, rfl, -⟩ | ⟨key, rfl, -⟩
    · exact hfinite c ((occurs_toDnf_iff h).1 ⟨a, ha, hl⟩)
    · exact (Value.exists_toJson_iff _).1 ⟨_, rfl⟩

/-- **Which rules can be stored**: sound ones that do not expand too far and whose floats are
finite. -/
theorem exists_toJson_iff (r : Rule) : (∃ j, r.toJson = .ok j) ↔
    r.IsSound ∧ r.alternativeCount ≤ maxAlternatives ∧ r.AllFinite := by
  have hcount := alternativeCount_eq r
  have hbound : maxAlternatives < countBound := by decide
  simp only [toJson_eq_ok_iff, normalForm_eq_ok_iff]
  constructor
  · rintro ⟨-, as, ⟨hsound, hlength, rfl⟩, hall, -⟩
    exact ⟨hsound, by omega, (areStorable_toDnf_iff hsound).1 hall⟩
  · rintro ⟨hsound, hlength, hfinite⟩
    exact ⟨_, _, ⟨hsound, by omega, rfl⟩, (areStorable_toDnf_iff hsound).2 hfinite, rfl⟩

/-! ### Reading -/

/-- **The stored form of some alternatives is read back**, with their leaves in the order of
storage. -/
theorem ofJson_storedForm (hsound : AreSound as) (h : AreStorable as) :
    ofJson (storedForm as) = .ok (reloaded as) := by
  have hread : (as.map fun a => Json.object (storedFields (sortStored a))).mapM
      ofStoredAlternative = .ok ((as.map sortStored).map .all) := by
    rw [List.mapM_map, List.map_map]
    refine mapM_eq_ok_map fun a ha => ?_
    exact ofStoredAlternative_storedFields (sortStored_ne_nil (hsound.2 a ha).1) fun l hl =>
      h a ha l (mem_sortStored.1 hl)
  unfold storedForm
  cases as with
  | nil => exact absurd rfl hsound.1
  | cons a as => exact map_eq_ok_iff.2 ⟨_, hread, rfl⟩

/-- The order of storage keeps alternatives sound. -/
theorem areSound_sortStored (h : AreSound as) : AreSound (as.map sortStored) := by
  obtain ⟨hne, has⟩ := h
  refine ⟨by simpa using hne, List.forall_mem_map.2 fun a ha => ?_⟩
  exact ⟨sortStored_ne_nil (has a ha).1, fun l hl => (has a ha).2 l (mem_sortStored.1 hl)⟩

/-- The normal form of what is read back. -/
theorem normalForm_reloaded (hsound : AreSound as) (hlength : as.length ≤ maxAlternatives) :
    (reloaded as).normalForm = .ok (as.map sortStored) := by
  have hsorted := areSound_sortStored hsound
  have hdnf : (reloaded as).toDnf = as.map sortStored :=
    toDnf_ofAlternatives fun a ha l hl => isLeaf_of_isSoundLeaf ((hsorted.2 a ha).2 l hl)
  refine normalForm_eq_ok_iff.2 ⟨isSound_ofAlternatives hsorted, ?_, hdnf.symm⟩
  rwa [hdnf, List.length_map]

/-- **What is read back is stored in the same way.** -/
theorem toJson_reloaded (hsound : AreSound as) (hlength : as.length ≤ maxAlternatives)
    (h : AreStorable as) : (reloaded as).toJson = .ok (storedForm as) := by
  refine toJson_eq_ok_iff.2 ⟨_, normalForm_reloaded hsound hlength, ?_, ?_⟩
  · exact List.forall_mem_map.2 fun a ha l hl => h a ha l (mem_sortStored.1 hl)
  · unfold storedForm
    rw [List.map_map]
    congr 1
    exact List.map_congr_left fun a _ => by rw [Function.comp, sortStored_sortStored]

/-! ### What is kept -/

theorem holds_reloaded (as : List (List Rule)) :
    (reloaded as).holds reg record = (ofAlternatives as).holds reg record := by
  rw [reloaded, holds_ofAlternatives, holds_ofAlternatives, holdsAny, holdsAny, List.any_map]
  congr 1
  exact funext fun a => (sortStored_perm a).all_eq

/-- **The order of leaves does not change the meaning** of a rule in normal form. -/
theorem sameMeaning_reloaded (h : AreSound as) :
    SameMeaning (ofAlternatives as) (reloaded as) := by
  have hleaf : ∀ {as : List (List Rule)}, AreSound as → ∀ a ∈ as, ∀ l ∈ a, l.isLeaf = true :=
    fun has a ha l hl => isLeaf_of_isSoundLeaf ((has.2 a ha).2 l hl)
  refine .of_leaves (fun l => ?_) fun reg record => (holds_reloaded as).symm
  rw [reloaded, hasLeaf_ofAlternatives (hleaf h),
    hasLeaf_ofAlternatives (hleaf (areSound_sortStored h))]
  simp [Occurs, mem_sortStored]

/-- The keys of every object in a stored rule ascend. -/
theorem wellFormed_storedForm (h : AreStorable as) : (storedForm as).WellFormed :=
  Json.wellFormed_array_iff.2 (List.forall_mem_map.2 fun a ha => wellFormed_storedFields (h a ha))

/-- **Storing and reading rules.** Exactly the sound rules that do not expand too far and whose floats
are finite can be stored. What is read back is the normal form of the rule, with the leaves of every
alternative in the order of storage, and it is stored in the same way again. -/
theorem storage_roundTrip (r : Rule) :
    ((∃ j, r.toJson = .ok j) ↔
      r.IsSound ∧ r.alternativeCount ≤ maxAlternatives ∧ r.AllFinite) ∧
    ∀ j, r.toJson = .ok j → ∃ alternatives, r.normalForm = .ok alternatives ∧
      ofJson j = .ok (ofAlternatives (alternatives.map sortStored)) ∧
      (ofAlternatives (alternatives.map sortStored)).toJson = .ok j ∧ j.WellFormed := by
  refine ⟨exists_toJson_iff r, fun j hj => ?_⟩
  obtain ⟨as, hnormal, hall, rfl⟩ := toJson_eq_ok_iff.1 hj
  obtain ⟨hsound, hlength, rfl⟩ := normalForm_eq_ok_iff.1 hnormal
  have hareSound := toDnf_sound r hsound
  exact ⟨_, hnormal, ofJson_storedForm hareSound hall, toJson_reloaded hareSound hlength hall,
    wellFormed_storedForm hall⟩

/-- A payee out of two, one of which is a list. -/
def payeeCondition : Rule :=
  .condition ⟨"payee", none, "in", .list [.string "ACME", .list [.float (.ofInt 1)]]⟩

/-- A day after the leap day. -/
def dayCondition : Rule := .condition ⟨"day", none, "gt", .date ⟨2024, 2, 29, by decide⟩⟩

/-- A small amount, whatever its sign. -/
def amountCondition : Rule := .condition ⟨"amount", some "abs", "lt", .int 100⟩

/-- Small payments between the own accounts, to some payees or after some day. -/
def paymentRule : Rule :=
  .all [.custom "internal", .any [payeeCondition, dayCondition], amountCondition]

theorem storage_roundTrip_paymentRule :
    (∃ j, paymentRule.toJson = .ok j) ∧
    ∀ j, paymentRule.toJson = .ok j →
      ofJson j = .ok (.any [.all [amountCondition, .custom "internal", payeeCondition],
        .all [amountCondition, .custom "internal", dayCondition]]) := by
  obtain ⟨hstored, hread⟩ := storage_roundTrip paymentRule
  refine ⟨hstored.2 ⟨rfl, by decide +kernel, by decide +kernel⟩, fun j hj => ?_⟩
  obtain ⟨as, hnormal, hread, -⟩ := hread j hj
  obtain ⟨-, -, rfl⟩ := normalForm_eq_ok_iff.1 hnormal
  rw [hread]
  cbv

end TagRules.Rule
