import TagRules.Proofs.Exact
import TagRules.Proofs.Stored.Format
import TagRules.Proofs.Stored.RoundTrip

/-!
# The reader accepts just the stored format

What stands under a key is read as leaves that have the key and can be stored. Where keys ascend
they come in the order of storage, so that a rule that was read is stored and read back as it is.

* `Value.exact_ofJson`: literals.
* `Rule.exact_ofStoredConditions`, `Rule.exact_ofStoredCustoms`: conditions and custom rules.
* `Rule.exact_ofStoredField`, `Rule.exact_ofStoredAlternative`: fields and alternatives.
* `Rule.exact_ofJson`, `Rule.ofJson_exact`: rules.
-/

namespace TagRules

open Outcome

/-! ### Literals -/

theorem roundHalfEven_le (num den : Nat) : roundHalfEven num den ≤ num / den + 1 := by
  unfold roundHalfEven
  simp only
  split_ifs <;> omega

/-- An integer that fits 64 bits only without a sign is rounded to a finite number. -/
theorem Binary64.isFinite_ofInt {n : Int} (hle : 0x8000000000000000 ≤ n)
    (hlt : n < 0x10000000000000000) : (ofInt n).isFinite = true := by
  obtain ⟨k, rfl⟩ := Int.eq_ofNat_of_zero_le (by omega : 0 ≤ n)
  have hk : 0x8000000000000000 ≤ k ∧ k < 0x10000000000000000 := by omega
  have hlog : k.log2 = 63 := (Nat.log2_eq_iff (by omega)).2 (by omega)
  have hround := roundHalfEven_le k 2048
  have hquotient : k / 2048 < 0x20000000000000 := by omega
  have hone : Nat.log2 1 = 0 := by decide
  refine decide_eq_true ?_
  show magnitudeOfRatio (Int.natAbs k) 1 < infiniteMagnitude
  rw [Int.natAbs_natCast, magnitudeOfRatio, if_neg (by omega), hlog, hone]
  have hsmall : ¬k <<< (-(((63 : Nat) : Int) - ((0 : Nat) : Int))).toNat <
      1 <<< (((63 : Nat) : Int) - ((0 : Nat) : Int)).toNat := by
    show ¬k <<< 0 < 0x8000000000000000
    rw [Nat.shiftLeft_zero]
    omega
  simp only [if_neg hsmall]
  -- The significand has its 53 bits when the quotient is taken by `2 ^ 11`.
  show min (1085 * 0x10000000000000 + roundHalfEven (k <<< 0) 2048) (0x7FF * 0x10000000000000) <
    0x7FF * 0x10000000000000
  rw [Nat.shiftLeft_zero]
  omega

namespace Value

/-- The floats of a literal are finite. -/
theorem allFinite_ofNumber (n : Json.Number) : (ofNumber n).AllFinite := by
  cases n with
  | integer n h =>
    rw [ofNumber]
    split
    · exact fun x hx => by cases hx
    · exact allFinite_float_iff.2 (Binary64.isFinite_ofInt (by omega) h.2)
  | float x h => exact allFinite_float_iff.2 h

/-- **Literals are read**, and their floats are finite. -/
theorem exact_ofJson (j : Json) : Exact j.IsLiteral AllFinite (ofJson j) := by
  induction j using Json.induction with
  | array items ih =>
    rw [ofJson, ofJsonItems_eq]
    refine ((Exact.mapM ih).map fun vs hvs => ?_).congr Json.isLiteral_array_iff.symm fun _ _ h => h
    refine allFinite_list_iff.2 fun v hv => ?_
    obtain ⟨-, -, hfinite⟩ := exists_of_mem_forall₂ hvs hv
    exact hfinite
  | other j hj =>
    cases j with
    | null => exact .ok .null fun x hx => by cases hx
    | bool b => exact .ok (.bool b) fun x hx => by cases hx
    | number n => exact .ok (.number n) (allFinite_ofNumber n)
    | string s => exact .ok (.string s) fun x hx => by cases hx
    | array items => cases hj
    | object fields =>
      unfold ofJson
      split
      · rename_i key s
        split
        · rename_i hkey
          cases hread : Date.read s with
          | ok d => exact .ok (hkey ▸ .date hread) fun x hx => by cases hx
          | error fault =>
            refine .error fun h => ?_
            cases h with
            | date h => cases hread.symm.trans h
        · rename_i hkey
          refine .error fun h => ?_
          cases h with
          | date h => exact hkey rfl
      · rename_i hother
        refine .error fun h => ?_
        cases h with
        | date h => exact hother _ _ rfl

end Value

namespace Rule

variable {key : String}

/-! ### Conditions -/

/-- Operands are read as literals, one at least. -/
theorem exact_ofStoredLiterals (j : Json) :
    Exact j.IsOperand (fun vs => vs ≠ [] ∧ ∀ v ∈ vs, v.AllFinite) (ofStoredLiterals key j) := by
  have hsingle : j.isArray = false →
      Exact j.IsOperand (fun vs => vs ≠ [] ∧ ∀ v ∈ vs, v.AllFinite)
        ((fun v => [v]) <$> Value.ofJson j) := by
    intro hj
    refine ((Value.exact_ofJson j).map fun v hv => ?_).congr ⟨.single hj, fun h => ?_⟩
      fun _ _ h => h
    · exact ⟨List.cons_ne_nil _ _, List.forall_mem_singleton.2 hv⟩
    · cases h with
      | single _ h => exact h
      | several => cases hj
  cases j with
  | array items =>
    cases items with
    | nil =>
      refine .error fun h => ?_
      cases h with
      | single hj _ => cases hj
      | several hne _ => exact hne rfl
    | cons j items =>
      have hread := Exact.mapM fun (i : Json) (_ : i ∈ j :: items) => Value.exact_ofJson i
      refine hread.congr ⟨.several (List.cons_ne_nil _ _), fun h => ?_⟩ fun _ vs hvs => ⟨?_, ?_⟩
      · cases h with
        | single hj _ => cases hj
        | several _ h => exact h
      · rintro rfl
        cases hvs
      · intro v hv
        obtain ⟨-, -, hfinite⟩ := exists_of_mem_forall₂ hvs hv
        exact hfinite
  | _ => exact hsingle rfl

variable {parts : ConditionKey}

/-- **Conditions with one comparator** are read when their names are well formed. -/
theorem exact_ofStoredComparator (hparts : parts.IsSound) (comparator : String) (stored : Json) :
    Exact (stored.IsOperand ∧ parts.field ≠ customKey ∧ comparator ≠ "")
      (fun rs => rs ≠ [] ∧ ∀ l ∈ rs, l.IsStorable ∧ l.storedKey = parts.text ∧
        l.storedComparator = comparator)
      (ofStoredComparator key parts comparator stored) := by
  refine Exact.bind (exact_ofStoredLiterals stored) fun vs hvs => ?_
  have hcheck : ∀ v, (⟨parts.field, parts.transform, comparator, v⟩ : Condition).check = .ok () ↔
      parts.field ≠ customKey ∧ comparator ≠ "" := by
    intro v
    rw [Condition.check_eq_ok_iff]
    exact ⟨fun h => ⟨h.2.1, h.2.2.2⟩, fun h => ⟨hparts.1, h.1, hparts.2, h.2⟩⟩
  have hread : Exact (∀ v ∈ vs, parts.field ≠ customKey ∧ comparator ≠ "")
      (List.Forall₂ (fun v l => l = .condition ⟨parts.field, parts.transform, comparator, v⟩) vs)
      (vs.mapM fun v => do
        (⟨parts.field, parts.transform, comparator, v⟩ : Condition).check
        return Rule.condition ⟨parts.field, parts.transform, comparator, v⟩) := by
    refine Exact.mapM fun v _ => ?_
    rw [← hcheck v]
    cases hc : (⟨parts.field, parts.transform, comparator, v⟩ : Condition).check with
    | ok u => exact .ok rfl rfl
    | error e => exact .error fun h => nomatch h
  obtain ⟨v₀, hv₀⟩ := List.exists_mem_of_ne_nil vs hvs.1
  refine hread.congr ⟨fun h => h v₀ hv₀, fun h _ _ => h⟩ fun hnames rs hrs => ⟨?_, fun l hl => ?_⟩
  · rintro rfl
    cases hrs
    exact hvs.1 rfl
  · obtain ⟨v, hv, rfl⟩ := exists_of_mem_forall₂ hrs hl
    have hsound := isSoundLeaf_iff.2 (.inl ⟨_, rfl, (hcheck v).2 (hnames v hv)⟩)
    exact ⟨⟨hsound, hvs.2 v hv⟩, rfl, rfl⟩

/-- **What is read under a key**: leaves that have the key and can be stored, in the order of their
comparators where the keys ascend. -/
structure ReadUnder (key : String) (ascending : Prop) (leaves : List Rule) : Prop where
  ne_nil : leaves ≠ []
  storable : ∀ l ∈ leaves, l.IsStorable
  key : ∀ l ∈ leaves, l.storedKey = key
  sorted : ascending → leaves.Pairwise fun l m => l.storedComparator ≤ m.storedComparator

/-- **Conditions are read** under the key of their parts. -/
theorem exact_ofStoredConditions (hparts : parts.IsSound) (stored : Json) :
    Exact (parts.field ≠ customKey ∧ stored.IsConditions)
      (ReadUnder parts.text stored.WellFormed) (ofStoredConditions key parts stored) := by
  cases stored with
  | object comparators =>
    cases comparators with
    | nil =>
      refine .error fun h => ?_
      cases h.2 with
      | intro hne _ => exact hne rfl
    | cons e comparators =>
      have hread := Exact.mapM fun (c : String × Json) (_ : c ∈ e :: comparators) =>
        (exact_ofStoredComparator hparts c.1 c.2 : Exact _ _ (ofStoredComparator key parts c.1 c.2))
      show Exact _ _ (List.flatten <$> _)
      refine (hread.map fun blocks hblocks => ?_).congr ⟨fun h => ?_, fun h c hc => ?_⟩
        fun _ _ h => h
      · refine ⟨flatten_ne_nil_of_forall₂ hblocks (List.cons_ne_nil _ _) fun _ _ h => h.1, ?_, ?_,
          fun hwf => ?_⟩
        · exact forall_mem_flatten_of_forall₂ hblocks fun _ _ h l hl => (h.2 l hl).1
        · exact forall_mem_flatten_of_forall₂ hblocks fun _ _ h l hl => (h.2 l hl).2.1
        · -- Under one comparator all leaves are equal in the order.
          refine pairwise_flatten_of_forall₂ hblocks (Json.wellFormed_object_iff.1 hwf).1
            (fun c _ bs hbs => ?_) fun c bs c' bs' hbs hbs' hlt x hx y hy => ?_
          · refine List.pairwise_of_forall_mem_list fun x hx y hy => ?_
            rw [(hbs.2 x hx).2.2, (hbs.2 y hy).2.2]
          · rw [(hbs.2 x hx).2.2, (hbs'.2 y hy).2.2]
            exact Std.le_of_lt hlt
      · refine ⟨(h e List.mem_cons_self).2.1, .intro (List.cons_ne_nil _ _) fun c hc => ?_⟩
        exact ⟨(h c hc).2.2, (h c hc).1⟩
      · obtain ⟨hfield, hconditions⟩ := h
        cases hconditions with
        | intro _ hall => exact ⟨(hall c hc).2, hfield, (hall c hc).1⟩
  | _ => exact .error fun h => nomatch h.2

/-! ### Custom rules -/

/-- Custom rules are read under their key. -/
theorem exact_ofStoredCustoms (stored : Json) :
    Exact stored.IsCustoms (ReadUnder customKey True) (ofStoredCustoms stored) := by
  have hcustom : ∀ j, Exact (∃ key, j = .string key ∧ key ≠ "")
      (fun l => ∃ key, l = .custom key ∧ key ≠ "") (ofStoredCustom j) := by
    intro j
    cases j with
    | string key =>
      rw [ofStoredCustom]
      split
      · rename_i hempty
        refine .error ?_
        rintro ⟨_, h, hne⟩
        cases h
        exact hne (by simpa using hempty)
      · rename_i hempty
        have hne : key ≠ "" := by simpa using hempty
        exact .ok ⟨key, rfl, hne⟩ ⟨key, rfl, hne⟩
    | _ =>
      refine .error ?_
      rintro ⟨_, h, -⟩
      cases h
  have hunder : ∀ {rs : List Rule}, rs ≠ [] → (∀ l ∈ rs, ∃ key, l = .custom key ∧ key ≠ "") →
      ReadUnder customKey True rs := by
    intro rs hne hrs
    refine ⟨hne, fun l hl => ?_, fun l hl => ?_, fun _ => ?_⟩
    · obtain ⟨key, rfl, hkey⟩ := hrs l hl
      exact ⟨isSoundLeaf_iff.2 (.inr ⟨key, rfl, hkey⟩), fun x hx => nomatch hx⟩
    · obtain ⟨key, rfl, -⟩ := hrs l hl
      rfl
    · refine List.pairwise_of_forall_mem_list fun l hl m hm => ?_
      obtain ⟨_, rfl, -⟩ := hrs l hl
      obtain ⟨_, rfl, -⟩ := hrs m hm
      exact String.le_refl _
  cases stored with
  | string key =>
    show Exact _ _ ((fun l => [l]) <$> _)
    refine ((hcustom (.string key)).map fun l hl => ?_).congr ⟨?_, fun h => ?_⟩ fun _ _ h => h
    · exact hunder (List.cons_ne_nil _ _) (List.forall_mem_singleton.2 hl)
    · rintro ⟨_, h, hne⟩
      cases h
      exact .single hne
    · cases h with
      | single hne => exact ⟨key, rfl, hne⟩
  | array items =>
    cases items with
    | nil =>
      refine .error fun h => ?_
      cases h with
      | several hne _ => exact hne rfl
    | cons j items =>
      have hread := Exact.mapM fun (i : Json) (_ : i ∈ j :: items) => hcustom i
      refine hread.congr ⟨.several (List.cons_ne_nil _ _), fun h => ?_⟩ fun _ rs hrs => ?_
      · cases h with
        | several _ h => exact h
      · refine hunder ?_ fun l hl => ?_
        · rintro rfl
          cases hrs
        · obtain ⟨-, -, hl⟩ := exists_of_mem_forall₂ hrs hl
          exact hl
  | _ => exact .error fun h => nomatch h

/-! ### Fields and alternatives -/

/-- The keys of conditions spell parts, and the field is not the key of custom rules. -/
theorem isConditionKey_iff : Json.IsConditionKey key ↔
    ∃ p, ConditionKey.Spells key p ∧ p.field ≠ customKey := by
  constructor
  · intro h
    cases h with
    | plain hfield hne => exact ⟨⟨key, none⟩, .plain hfield, hne⟩
    | transformed hfield hne htransform => exact ⟨_, .transformed hfield htransform, hne⟩
  · rintro ⟨p, hp, hne⟩
    cases hp with
    | plain hfield => exact .plain hfield hne
    | transformed hfield htransform => exact .transformed hfield hne htransform

/-- The key of custom rules is no key of conditions. -/
theorem not_isConditionKey_customKey : ¬Json.IsConditionKey customKey := by
  intro h
  obtain ⟨p, hp, hne⟩ := isConditionKey_iff.1 h
  obtain ⟨hsound, htext⟩ := ConditionKey.spells_iff.1 hp
  have hcomparator : ("eq" : String) ≠ "" := by decide
  refine Condition.key_ne_customKey (c := ⟨p.field, p.transform, "eq", .null⟩) ?_ htext
  exact Condition.check_eq_ok_iff.2 ⟨hsound.1, hne, hsound.2, hcomparator⟩

/-- **What stands under a key is read.** -/
theorem exact_ofStoredField (field : String × Json) :
    Exact (Json.IsField field) (ReadUnder field.1 field.2.WellFormed) (ofStoredField field) := by
  obtain ⟨key, stored⟩ := field
  unfold ofStoredField
  dsimp only
  by_cases hkey : key = customKey
  · subst hkey
    rw [if_pos rfl]
    refine ((exact_ofStoredCustoms stored).mapError _).congr ⟨.customs, fun h => ?_⟩
      fun _ rs hrs => ?_
    · generalize hcustom : (customKey, stored) = field at h
      cases h with
      | customs h =>
        cases hcustom
        exact h
      | conditions hkey _ =>
        cases hcustom
        exact absurd hkey not_isConditionKey_customKey
    · exact ⟨hrs.ne_nil, hrs.storable, hrs.key, fun _ => hrs.sorted trivial⟩
  · rw [if_neg hkey]
    cases hread : ConditionKey.read key with
    | error e =>
      refine .error fun h => ?_
      cases h with
      | customs _ => exact hkey rfl
      | conditions h _ =>
        obtain ⟨p, hp, -⟩ := isConditionKey_iff.1 h
        cases hread.symm.trans (ConditionKey.read_of_spells hp)
    | ok p =>
      have hspells := ConditionKey.read_eq_ok_iff.1 hread
      obtain ⟨hp, htext⟩ := ConditionKey.spells_iff.1 hspells
      refine ((exact_ofStoredConditions hp stored).mapError _).congr ⟨fun h => ?_, fun h => ?_⟩
        fun _ rs hrs => htext ▸ hrs
      · exact .conditions (isConditionKey_iff.2 ⟨p, hspells, h.1⟩) h.2
      · cases h with
        | customs _ => exact absurd rfl hkey
        | conditions hkey' hstored =>
          obtain ⟨q, hq, hne⟩ := isConditionKey_iff.1 hkey'
          cases hread.symm.trans (ConditionKey.read_of_spells hq)
          exact ⟨hne, hstored⟩

/-- **An alternative is read** as leaves that can be stored, and in the order of storage where the
keys ascend. -/
theorem exact_ofStoredAlternative (j : Json) :
    Exact j.IsAlternative (fun r => ∃ a, r = .all a ∧ a ≠ [] ∧ (∀ l ∈ a, l.IsStorable) ∧
      (j.WellFormed → sortStored a = a)) (ofStoredAlternative j) := by
  cases j with
  | object fields =>
    cases fields with
    | nil =>
      refine .error fun h => ?_
      cases h with
      | intro hne _ => exact hne rfl
    | cons e fields =>
      have hread := Exact.mapM fun (f : String × Json) (_ : f ∈ e :: fields) =>
        exact_ofStoredField f
      show Exact _ _ ((fun leaves => Rule.all (List.flatten leaves)) <$> _)
      refine (hread.map fun blocks hblocks => ?_).congr ⟨.intro (List.cons_ne_nil _ _), fun h => ?_⟩
        fun _ _ h => h
      · refine ⟨_, rfl, ?_, ?_, fun hwf => ?_⟩
        · exact flatten_ne_nil_of_forall₂ hblocks (List.cons_ne_nil _ _) fun _ _ h => h.ne_nil
        · exact forall_mem_flatten_of_forall₂ hblocks fun _ _ h => h.storable
        · obtain ⟨hascending, hfields⟩ := Json.wellFormed_object_iff.1 hwf
          refine List.mergeSort_of_pairwise ?_
          refine pairwise_flatten_of_forall₂ hblocks hascending (fun f hf bs hbs => ?_)
            fun f bs f' bs' hbs hbs' hlt x hx y hy => ?_
          · refine (hbs.sorted (hfields f hf)).imp_of_mem fun {x y} hx hy hle => ?_
            rw [storedLe_eq, entryLe_iff]
            exact .inr ⟨(hbs.key x hx).trans (hbs.key y hy).symm, hle⟩
          · rw [storedLe_eq, entryLe_iff]
            refine .inl ?_
            show x.storedKey < y.storedKey
            rw [hbs.key x hx, hbs'.key y hy]
            exact hlt
      · cases h with
        | intro _ h => exact h
  | _ => exact .error fun h => nomatch h

/-! ### Rules -/

/-- **A rule is read** as its alternatives. -/
theorem exact_ofJson (j : Json) :
    Exact j.IsRule (fun r => ∃ as, r = ofAlternatives as ∧ AreSound as ∧ AreStorable as ∧
      (j.WellFormed → ∀ a ∈ as, sortStored a = a)) (ofJson j) := by
  cases j with
  | array alternatives =>
    cases alternatives with
    | nil =>
      refine .error fun h => ?_
      cases h with
      | intro hne _ => exact hne rfl
    | cons j alternatives =>
      have hread := Exact.mapM fun (i : Json) (_ : i ∈ j :: alternatives) =>
        exact_ofStoredAlternative i
      show Exact _ _ (Rule.any <$> _)
      refine (hread.map fun rs hrs => ?_).congr ⟨.intro (List.cons_ne_nil _ _), fun h => ?_⟩
        fun _ _ h => h
      · have hall : ∀ r ∈ rs, ∃ i ∈ j :: alternatives, ∃ a, r = .all a ∧ a ≠ [] ∧
            (∀ l ∈ a, l.IsStorable) ∧ (i.WellFormed → sortStored a = a) :=
          fun r hr => exists_of_mem_forall₂ hrs hr
        have hne : rs ≠ [] := by
          rintro rfl
          cases hrs
        refine ⟨rs.map children, ?_, ⟨by simpa using hne, List.forall_mem_map.2 fun r hr => ?_⟩,
          List.forall_mem_map.2 fun r hr => ?_, fun hwf => List.forall_mem_map.2 fun r hr => ?_⟩
        · refine congrArg Rule.any ?_
          rw [List.map_map]
          refine (List.map_id rs).symm.trans (List.map_congr_left fun r hr => ?_)
          obtain ⟨_, -, a, rfl, -⟩ := hall r hr
          rfl
        · obtain ⟨_, -, a, rfl, hne, hstorable, -⟩ := hall r hr
          exact ⟨hne, fun l hl => (hstorable l hl).sound⟩
        · obtain ⟨_, -, a, rfl, -, hstorable, -⟩ := hall r hr
          exact hstorable
        · obtain ⟨i, hi, a, rfl, -, -, hsorted⟩ := hall r hr
          exact hsorted (Json.wellFormed_array_iff.1 hwf i hi)
      · cases h with
        | intro _ h => exact h
  | _ => exact .error fun h => nomatch h

/-- **The reader accepts just the stored format.** What it gives is a disjunction of conjunctions of
leaves, none of them empty, with well-formed names. If the alternatives are not too many, it can be
stored, and is then read back as it is. -/
theorem ofJson_exact (j : Json) :
    ((∃ r, ofJson j = .ok r) ↔ j.IsRule) ∧
    ∀ r, ofJson j = .ok r → ∃ alternatives, r = ofAlternatives alternatives ∧ alternatives ≠ [] ∧
      (∀ a ∈ alternatives, a ≠ [] ∧ ∀ l ∈ a, l.isLeaf = true) ∧ r.checkShape = .ok () ∧
      (j.WellFormed → alternatives.length ≤ maxAlternatives →
        ∃ j', r.toJson = .ok j' ∧ ofJson j' = .ok r) := by
  have hexact := exact_ofJson j
  refine ⟨hexact.exists_ok_iff, fun r hr => ?_⟩
  obtain ⟨as, rfl, hsound, hstorable, hsorted⟩ := hexact.good_of_ok hr
  have hleaf : ∀ a ∈ as, ∀ l ∈ a, l.isLeaf = true :=
    fun a ha l hl => isLeaf_of_isSoundLeaf ((hsound.2 a ha).2 l hl)
  refine ⟨as, rfl, hsound.1, fun a ha => ⟨(hsound.2 a ha).1, hleaf a ha⟩,
    isSound_ofAlternatives hsound, fun hwf hlength => ⟨storedForm as, ?_, ?_⟩⟩
  · have hdnf : (ofAlternatives as).toDnf = as := toDnf_ofAlternatives hleaf
    refine toJson_eq_ok_iff.2 ⟨as, ?_, hstorable, rfl⟩
    exact normalForm_eq_ok_iff.2 ⟨isSound_ofAlternatives hsound, hdnf.symm ▸ hlength, hdnf.symm⟩
  · -- The leaves were read in the order of storage, so that storing them does not move them.
    have hsame : as.map sortStored = as :=
      (List.map_congr_left (hsorted hwf)).trans (List.map_id as)
    rw [ofJson_storedForm hsound hstorable, reloaded, hsame]

/-- Large payments after the leap day, and those of an account. -/
def largePayments : Json :=
  .array [
    .object [
      ("amount.abs", .object [("ge", .number (.integer 0xFFFFFFFFFFFFFFFF (by decide)))]),
      ("custom", .array [.string "internal"]),
      ("day", .object [("gt", .object [("date", .string "2024-02-29")])])],
    .object [("payee", .object [("in", .array [.array [.string "ACME", .null], .bool true])])]]

theorem ofJson_exact_largePayments : largePayments.IsRule ∧ ∃ r, ofJson largePayments = .ok r ∧
    r.checkShape = .ok () ∧ ∃ j', r.toJson = .ok j' ∧ ofJson j' = .ok r := by
  obtain ⟨a, b, hr⟩ : ∃ a b, ofJson largePayments = .ok (.any [a, b]) := ⟨_, _, rfl⟩
  obtain ⟨hformat, hread⟩ := ofJson_exact largePayments
  obtain ⟨as, has, -, -, hsound, hstored⟩ := hread _ hr
  have htwo : as.length = 2 := by
    have hlength := congrArg (fun r : Rule => r.children.length) has
    simpa [ofAlternatives, children] using hlength.symm
  refine ⟨hformat.1 ⟨_, hr⟩, _, hr, hsound, hstored ?_ (by rw [htwo]; decide)⟩
  simp only [largePayments, Json.WellFormed, Json.WellFormedItems, Json.WellFormedFields,
    Assoc.Ascending, and_true]
  decide

end Rule

end TagRules
