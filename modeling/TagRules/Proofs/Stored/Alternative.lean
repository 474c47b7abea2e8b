import TagRules.Proofs.Rule.NormalForm
import TagRules.Proofs.Stored.Group
import TagRules.Proofs.Stored.Key
import TagRules.Proofs.Stored.Literal
import TagRules.Proofs.Text.ByteOrder
import TagRules.Stored.Rule

/-!
# Stored alternatives are read back

The leaves of an alternative are stored in the order of their keys and comparators. Conditions are
grouped by key and then by comparator, and custom rules stand under a key that no condition has, so
that reading one group after the other gives the leaves in the order in which they were stored.

* `IsStorable`: the leaves that can be stored.
* `sortStored`: the leaves of an alternative in the order in which they are stored.
* `ofStoredComparator_collapse`, `ofStoredField_storedField`: groups of leaves are read back.
* `ofStoredAlternative_storedFields`: a stored alternative is read back in this order.
* `wellFormed_storedFields`: the keys of a stored alternative ascend.
-/

namespace TagRules.Rule

open Outcome Assoc

variable {l m : Rule} {a : List Rule} {j : Json}

/-! ### What is stored for a leaf -/

/-- The key under which a leaf is stored. -/
def storedKey : Rule → String
  | .condition c => c.key
  | .custom _ => customKey
  | .all _ | .any _ => ""

/-- The comparator under which a leaf is stored. -/
def storedComparator : Rule → String
  | .condition c => c.comparator
  | .custom _ | .all _ | .any _ => ""

/-- The value that is stored for a leaf: the literal of a condition or the key of a custom rule. -/
def storedValue : Rule → Value
  | .condition c => c.value
  | .custom key => .string key
  | .all _ | .any _ => .null

/-- The form in which the value of a leaf is stored. -/
def storedLiteral (l : Rule) : Json := l.storedValue.toJson.toOption.getD .null

/-- The entry of a leaf that can be stored. -/
def storedEntry (l : Rule) : Entry := (l.storedKey, l.storedComparator, l.storedLiteral)

/-- **A leaf can be stored** if its names are well formed and its floats are finite. -/
structure IsStorable (l : Rule) : Prop where
  /-- The leaf has well-formed names. -/
  sound : l.isSoundLeaf = true
  /-- The floats of the leaf are finite. -/
  finite : l.storedValue.AllFinite

theorem IsStorable.toJson_storedValue (h : l.IsStorable) :
    l.storedValue.toJson = .ok l.storedLiteral := by
  obtain ⟨j, hj⟩ := (Value.exists_toJson_iff _).2 h.finite
  rw [storedLiteral, hj]
  rfl

theorem IsStorable.entry_eq (h : l.IsStorable) : entry l = .ok [l.storedEntry] := by
  have hvalue := h.toJson_storedValue
  rcases isSoundLeaf_iff.1 h.sound with ⟨c, rfl, -⟩ | ⟨key, rfl, -⟩
  · exact bind_eq_ok_iff.2 ⟨_, hvalue, rfl⟩
  · rfl

/-- A sound leaf has an entry if its floats are finite. -/
theorem exists_entry_iff (h : l.isSoundLeaf = true) : (∃ es, entry l = .ok es) ↔ l.IsStorable := by
  refine ⟨fun ⟨es, hes⟩ => ⟨h, ?_⟩, fun hl => ⟨_, hl.entry_eq⟩⟩
  rcases isSoundLeaf_iff.1 h with ⟨c, rfl, -⟩ | ⟨key, rfl, -⟩
  · obtain ⟨j, hj, -⟩ := bind_eq_ok_iff.1 hes
    exact (Value.exists_toJson_iff _).1 ⟨j, hj⟩
  · exact (Value.exists_toJson_iff _).1 ⟨_, rfl⟩

/-! ### The order of storage -/

theorem entryLe_iff {e f : Entry} :
    entryLe e f = true ↔ e.1 < f.1 ∨ e.1 = f.1 ∧ e.2.1 ≤ f.2.1 := by
  simp [entryLe]

theorem entryLe_trans (e f g : Entry) (hef : entryLe e f = true) (hfg : entryLe f g = true) :
    entryLe e g = true := by
  rw [entryLe_iff] at *
  rcases hef with hef | ⟨hef, hle⟩ <;> rcases hfg with hfg | ⟨hfg, hle'⟩
  · exact .inl (String.lt_trans hef hfg)
  · exact .inl (hfg ▸ hef)
  · exact .inl (hef ▸ hfg)
  · exact .inr ⟨hef.trans hfg, String.le_trans hle hle'⟩

theorem entryLe_total (e f : Entry) : (entryLe e f || entryLe f e) = true := by
  rw [Bool.or_eq_true, entryLe_iff, entryLe_iff]
  by_cases heq : e.1 = f.1
  · rcases String.le_total e.2.1 f.2.1 with hle | hle
    · exact .inl (.inr ⟨heq, hle⟩)
    · exact .inr (.inr ⟨heq.symm, hle⟩)
  · rcases String.le_total e.1 f.1 with hle | hle
    · exact .inl (.inl (Std.lt_of_le_of_ne hle heq))
    · exact .inr (.inl (Std.lt_of_le_of_ne hle (Ne.symm heq)))

/-- Whether a leaf may be stored before another one: its key is smaller in bytes, or the keys are
equal and its comparator is not larger in bytes. -/
def storedLe (l m : Rule) : Bool :=
  Text.utf8 l.storedKey < Text.utf8 m.storedKey ||
    (l.storedKey = m.storedKey && !(Text.utf8 m.storedComparator < Text.utf8 l.storedComparator))

/-- **The leaves of an alternative as they are stored**: by key and then by comparator. Leaves that
have both in common keep their order. -/
def sortStored (a : List Rule) : List Rule := a.mergeSort storedLe

theorem storedLe_eq (l m : Rule) : storedLe l m = entryLe l.storedEntry m.storedEntry := by
  rw [Bool.eq_iff_iff, entryLe_iff]
  simp only [storedLe, storedEntry, Text.utf8_lt_iff, Bool.or_eq_true, Bool.and_eq_true,
    Bool.not_eq_true', decide_eq_true_eq, decide_eq_false_iff_not, String.not_lt]

theorem sortStored_perm (a : List Rule) : (sortStored a).Perm a := List.mergeSort_perm a storedLe

theorem mem_sortStored : l ∈ sortStored a ↔ l ∈ a := (sortStored_perm a).mem_iff

theorem sortStored_ne_nil (h : a ≠ []) : sortStored a ≠ [] := fun hnil =>
  h (List.perm_nil.1 (hnil ▸ (sortStored_perm a).symm))

/-- Entries are sorted as their leaves are. -/
theorem mergeSort_storedEntry (a : List Rule) :
    (a.map storedEntry).mergeSort entryLe = (sortStored a).map storedEntry :=
  (List.map_mergeSort fun l _ m _ => storedLe_eq l m).symm

theorem sortStored_pairwise (a : List Rule) :
    ((sortStored a).map storedEntry).Pairwise fun e f => entryLe e f = true := by
  rw [← mergeSort_storedEntry]
  exact List.pairwise_mergeSort entryLe_trans entryLe_total _

/-- Leaves in the order of storage stay in it. -/
theorem sortStored_sortStored (a : List Rule) : sortStored (sortStored a) = sortStored a := by
  refine List.mergeSort_of_pairwise ?_
  refine (List.pairwise_map.1 (sortStored_pairwise a)).imp fun h => ?_
  rwa [storedLe_eq]

/-! ### Writing an alternative -/

/-- The fields of the object of an alternative, whose leaves are in the order of storage. -/
def storedFields (a : List Rule) : List (String × Json) :=
  (group (a.map storedEntry)).map fun g => (g.1, storedField g.1 g.2)

theorem storedAlternative_eq (h : ∀ l ∈ a, l.IsStorable) :
    storedAlternative a = .ok (.object (storedFields (sortStored a))) := by
  have hentries : a.mapM entry = .ok (a.map fun l => [l.storedEntry]) :=
    mapM_eq_ok_map fun l hl => (h l hl).entry_eq
  have hflatten : (a.map fun l => [l.storedEntry]).flatten = a.map storedEntry := by
    rw [← List.flatMap_def, ← List.map_eq_flatMap]
  refine bind_eq_ok_iff.2 ⟨_, hentries, ?_⟩
  rw [hflatten, mergeSort_storedEntry]
  rfl

/-- **An alternative can be stored** if its leaves can. -/
theorem exists_storedAlternative_iff (h : ∀ l ∈ a, l.isSoundLeaf = true) :
    (∃ j, storedAlternative a = .ok j) ↔ ∀ l ∈ a, l.IsStorable := by
  refine ⟨fun ⟨j, hj⟩ l hl => ?_, fun hall => ⟨_, storedAlternative_eq hall⟩⟩
  obtain ⟨es, hes, -⟩ := bind_eq_ok_iff.1 hj
  exact (exists_entry_iff (h l hl)).1 (exists_mapM_iff.1 ⟨es, hes⟩ l hl)

/-! ### Reading an alternative -/

/-- A literal that stands alone is read as the only one. -/
theorem ofStoredLiterals_collapse {key : String} {js : List Json} (h : js ≠ []) :
    ofStoredLiterals key (collapse js) = js.mapM Value.ofJson := by
  match js with
  | [] => exact absurd rfl h
  | [.array items] => rfl
  | [.null] | [.bool _] | [.number _] | [.string _] | [.object _] =>
    rw [List.mapM_cons]
    rfl
  | _ :: _ :: _ => rfl

/-- Custom rules are read back. -/
theorem ofStoredCustoms_collapse {bs : List Rule} (hne : bs ≠ [])
    (h : ∀ b ∈ bs, ∃ key, b = .custom key ∧ key ≠ "") :
    ofStoredCustoms (collapse (bs.map storedLiteral)) = .ok bs := by
  have hread : ∀ b ∈ bs, ofStoredCustom b.storedLiteral = .ok b := by
    intro b hb
    obtain ⟨key, rfl, hkey⟩ := h b hb
    exact if_neg (by simpa using hkey)
  match bs with
  | [] => exact absurd rfl hne
  | [b] =>
    obtain ⟨key, rfl, hkey⟩ := h b List.mem_cons_self
    exact bind_eq_ok_iff.2 ⟨_, hread _ List.mem_cons_self, rfl⟩
  | b :: b' :: bs =>
    show ((b :: b' :: bs).map storedLiteral).mapM ofStoredCustom = _
    rw [List.mapM_map]
    exact mapM_eq_ok_self hread

variable {key : String} {parts : ConditionKey}

/-- Conditions with one key and one comparator are read back. -/
theorem ofStoredComparator_collapse {comparator : String} {bs : List Rule} (hne : bs ≠ [])
    (h : ∀ b ∈ bs, b.IsStorable ∧
      b = .condition ⟨parts.field, parts.transform, comparator, b.storedValue⟩) :
    ofStoredComparator key parts comparator (collapse (bs.map storedLiteral)) = .ok bs := by
  have hvalues : (bs.map storedLiteral).mapM Value.ofJson = .ok (bs.map storedValue) := by
    rw [List.mapM_map]
    exact mapM_eq_ok_map fun b hb => Value.ofJson_toJson (h b hb).1.toJson_storedValue
  unfold ofStoredComparator
  rw [ofStoredLiterals_collapse (by simpa using hne), hvalues]
  show (bs.map storedValue).mapM _ = _
  rw [List.mapM_map]
  refine mapM_eq_ok_self fun b hb => ?_
  obtain ⟨hstorable, hb⟩ := h b hb
  have hcheck := isSound_of_isSoundLeaf hstorable.sound
  rw [hb] at hcheck
  exact bind_eq_ok_iff.2 ⟨(), hcheck, congrArg Except.ok hb.symm⟩

/-- Conditions with one key are read back, one comparator after the other. -/
theorem ofStoredConditions_group {bs : List Rule} (hne : bs ≠ [])
    (h : ∀ b ∈ bs, b.IsStorable ∧ ∃ comparator,
      b = .condition ⟨parts.field, parts.transform, comparator, b.storedValue⟩) :
    ofStoredConditions key parts (.object ((group (bs.map fun b =>
      (b.storedComparator, b.storedLiteral))).map fun g => (g.1, collapse g.2))) = .ok bs := by
  -- In a group the comparator is fixed too, so that only the literals are left to tell.
  have hread : ∀ cs : List Rule, cs ≠ [] → (∀ b ∈ cs, b ∈ bs) → ∀ comparator,
      (∀ b ∈ cs, b.storedComparator = comparator) →
      ofStoredComparator key parts comparator (collapse (cs.map storedLiteral)) = .ok cs := by
    intro cs hcs hmem comparator hcomparator
    refine ofStoredComparator_collapse hcs fun b hb => ?_
    obtain ⟨hstorable, comparator', heq⟩ := h b (hmem b hb)
    have hsame : comparator' = comparator := by
      have hb' := hcomparator b hb
      rwa [heq] at hb'
    exact ⟨hstorable, hsame ▸ heq⟩
  obtain ⟨first, fields, blocks, hfields, hblocks, hflatten⟩ :=
    exists_mapM_group storedComparator storedLiteral (fun g => (g.1, collapse g.2))
      (fun field => ofStoredComparator key parts field.1 field.2) hne hread
  rw [hfields]
  exact bind_eq_ok_iff.2 ⟨blocks, hblocks, congrArg Except.ok hflatten⟩

/-- **What is stored under a key is read back.** -/
theorem ofStoredField_storedField {bs : List Rule} (hne : bs ≠ []) (h : ∀ b ∈ bs, b.IsStorable)
    (hkey : ∀ b ∈ bs, b.storedKey = key) :
    ofStoredField (key, storedField key (bs.map fun b => (b.storedComparator, b.storedLiteral))) =
      .ok bs := by
  unfold ofStoredField storedField
  by_cases hcustom : key = customKey
  · -- No condition has this key, so all leaves of the group are custom rules.
    have hbs : ∀ b ∈ bs, ∃ name, b = .custom name ∧ name ≠ "" := by
      intro b hb
      rcases isSoundLeaf_iff.1 (h b hb).sound with ⟨c, rfl, hc⟩ | hname
      · exact absurd ((hkey _ hb).trans hcustom) (Condition.key_ne_customKey hc)
      · exact hname
    rw [if_pos hcustom, List.map_map]
    dsimp only
    rw [if_pos hcustom]
    exact mapError_eq_ok_iff.2 (ofStoredCustoms_collapse hne hbs)
  · have hbs : ∀ b ∈ bs, ∃ c : Condition, b = .condition c ∧
        ConditionKey.read key = .ok ⟨c.field, c.transform⟩ := by
      intro b hb
      rcases isSoundLeaf_iff.1 (h b hb).sound with ⟨c, rfl, hc⟩ | ⟨name, rfl, -⟩
      · exact ⟨c, rfl, hkey _ hb ▸ ConditionKey.read_key hc⟩
      · exact absurd (hkey _ hb).symm hcustom
    -- All conditions have the field and the transform of the first one, which the key tells.
    obtain ⟨b₀, hb₀⟩ := List.exists_mem_of_ne_nil bs hne
    obtain ⟨c₀, -, hread⟩ := hbs b₀ hb₀
    rw [if_neg hcustom]
    dsimp only
    rw [if_neg hcustom]
    refine bind_eq_ok_iff.2 ⟨_, hread, mapError_eq_ok_iff.2 ?_⟩
    refine ofStoredConditions_group hne fun b hb => ⟨h b hb, ?_⟩
    obtain ⟨c, rfl, hc⟩ := hbs b hb
    rw [hread] at hc
    obtain ⟨hfield, htransform⟩ := ConditionKey.mk.inj (Except.ok.inj hc)
    exact ⟨c.comparator, by rw [hfield, htransform]; rfl⟩

/-- **A stored alternative is read back** in the order of storage. -/
theorem ofStoredAlternative_storedFields (hne : a ≠ []) (h : ∀ l ∈ a, l.IsStorable) :
    ofStoredAlternative (.object (storedFields a)) = .ok (.all a) := by
  obtain ⟨first, fields, blocks, hfields, hblocks, hflatten⟩ :=
    exists_mapM_group storedKey (fun l => (l.storedComparator, l.storedLiteral))
      (fun g => (g.1, storedField g.1 g.2)) ofStoredField hne fun bs hbs hmem k hkey =>
        ofStoredField_storedField hbs (fun b hb => h b (hmem b hb)) hkey
  rw [show storedFields a = _ from hfields]
  exact bind_eq_ok_iff.2 ⟨blocks, hblocks, by rw [hflatten]; rfl⟩

/-! ### The keys of an alternative -/

theorem wellFormed_collapse {js : List Json} (h : ∀ j ∈ js, j.WellFormed) :
    (collapse js).WellFormed := by
  unfold collapse
  split
  · rename_i j
    split
    · exact Json.wellFormed_array_iff.2 h
    · exact h j List.mem_cons_self
  · exact Json.wellFormed_array_iff.2 h

/-- The keys of what is stored under a key ascend, if the comparators of the leaves do. -/
theorem wellFormed_storedField {entries : List (String × Json)}
    (hsorted : entries.Pairwise fun e f => e.1 ≤ f.1) (h : ∀ e ∈ entries, e.2.WellFormed) :
    (storedField key entries).WellFormed := by
  unfold storedField
  split
  · exact wellFormed_collapse (List.forall_mem_map.2 h)
  · refine Json.wellFormed_object_iff.2 ⟨?_, List.forall_mem_map.2 fun g hg => ?_⟩
    · exact List.pairwise_map.2 (ascending_group hsorted)
    · refine wellFormed_collapse fun j hj => ?_
      exact h (g.1, j) ((mem_group g hg).2.subset (List.mem_map_of_mem hj))

/-- **The keys of a stored alternative ascend.** -/
theorem wellFormed_storedFields (h : ∀ l ∈ a, l.IsStorable) :
    (Json.object (storedFields (sortStored a))).WellFormed := by
  have hsorted := sortStored_pairwise a
  have hentry : ∀ e ∈ (sortStored a).map storedEntry, e.2.2.WellFormed := by
    refine List.forall_mem_map.2 fun l hl => ?_
    exact Value.wellFormed_toJson (h l (mem_sortStored.1 hl)).toJson_storedValue
  unfold storedFields
  generalize (sortStored a).map storedEntry = entries at hsorted hentry
  refine Json.wellFormed_object_iff.2 ⟨?_, List.forall_mem_map.2 fun g hg => ?_⟩
  · refine List.pairwise_map.2 (ascending_group (hsorted.imp fun hle => ?_))
    rcases entryLe_iff.1 hle with hlt | ⟨heq, -⟩
    · exact Std.le_of_lt hlt
    · exact Std.le_of_eq heq
  · -- The entries of a group have one key, so they are sorted by their comparators.
    obtain ⟨-, hsublist⟩ := mem_group g hg
    refine wellFormed_storedField ?_ fun e he => ?_
    · refine (List.pairwise_map.1 (hsorted.sublist hsublist)).imp fun hle => ?_
      rcases entryLe_iff.1 hle with hlt | ⟨-, hle⟩
      · exact absurd hlt (String.lt_irrefl _)
      · exact hle
    · exact hentry (g.1, e) (hsublist.subset (List.mem_map_of_mem he))

end TagRules.Rule
