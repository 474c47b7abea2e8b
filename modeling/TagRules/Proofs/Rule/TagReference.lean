import TagRules.Proofs.Rule.Evaluation

/-!
# Conditions on the tag list

With the standard comparators for membership, a condition on the tag list only tells which of the
tags that it names are in the list.

* `Registry.HasStandardComparators`: the standard comparators are registered, as by
  `Registry.addStandard`.
* `Condition.TestsMembership`: a condition on the tag list, without a transform, that compares by
  membership.
* `Condition.TestsStandardMembership`: such a condition whose comparator is the standard one.
* `evaluate_eq_of_mem_iff_of_standard`: this condition cannot tell tag lists apart with the same named
  tags.
-/

namespace TagRules

/-- **The standard comparators are registered.** -/
def Registry.HasStandardComparators (reg : Registry) : Prop :=
  ∀ e ∈ Comparator.standard, reg.comparator? e.1 = some e.2

namespace Registry

open Outcome

theorem hasStandardComparators_standard : standard.HasStandardComparators := by
  unfold HasStandardComparators Comparator.standard
  simp only [List.forall_mem_cons]
  exact ⟨rfl, rfl, rfl, rfl, rfl, rfl, rfl, rfl, rfl, rfl, rfl, rfl, fun e he => nomatch he⟩

/-- Registering a comparator keeps those that are there. -/
theorem comparator?_addComparator {reg reg' : Registry} {key : String} {c : Comparator}
    (h : reg.addComparator key c = .ok reg') :
    reg'.comparator? key = some c ∧
      ∀ key' c', reg.comparator? key' = some c' → reg'.comparator? key' = some c' := by
  obtain ⟨table, htable, h⟩ := bind_eq_ok_iff.1 h
  cases h
  unfold extend at htable
  split at htable
  · cases htable
  split at htable
  · cases htable
  · rename_i hnew
    cases htable
    have hnone : reg.comparators.lookup key = none := Option.not_isSome_iff_eq_none.1 hnew
    refine ⟨?_, fun key' c' hc' => ?_⟩
    · simp [comparator?, List.lookup_append, hnone]
    · rw [comparator?] at hc'
      simp [comparator?, List.lookup_append, hc']

theorem comparator?_foldlM {l : List (String × Comparator)} : ∀ {reg reg' : Registry},
    l.foldlM (fun reg (key, c) => reg.addComparator key c) reg = .ok reg' →
      (∀ e ∈ l, reg'.comparator? e.1 = some e.2) ∧
        ∀ key c, reg.comparator? key = some c → reg'.comparator? key = some c := by
  induction l with
  | nil =>
    intro reg reg' h
    cases h
    exact ⟨fun e he => (nomatch he), fun _ _ hc => hc⟩
  | cons e l ih =>
    intro reg reg' h
    rw [List.foldlM_cons] at h
    obtain ⟨reg₁, hadd, h⟩ := bind_eq_ok_iff.1 h
    obtain ⟨hnew, hkeep⟩ := comparator?_addComparator hadd
    obtain ⟨hrest, hkeep'⟩ := ih h
    refine ⟨List.forall_mem_cons.2 ⟨hkeep' _ _ hnew, hrest⟩, fun key c hc => ?_⟩
    exact hkeep' key c (hkeep key c hc)

/-- **Registering the standard operators** registers the standard comparators. -/
theorem hasStandardComparators_of_addStandard {reg reg' : Registry}
    (h : reg.addStandard = .ok reg') : reg'.HasStandardComparators := by
  obtain ⟨reg₁, -, h⟩ := bind_eq_ok_iff.1 h
  exact (comparator?_foldlM h).1

end Registry

/-- The comparators for membership in a list. -/
def Comparator.membership : List String := ["contains", "in", "not_in"]

/-- **A condition tests membership**: its field is compared as it is, by one of the comparators for
membership. -/
def Condition.TestsMembership (c : Condition) : Prop :=
  c.transform = none ∧ c.comparator ∈ Comparator.membership

/-- **A condition tests membership by a standard comparator**, which the registry knows by its key. -/
def Condition.TestsStandardMembership (reg : Registry) (c : Condition) : Prop :=
  c.TestsMembership ∧ reg.comparator? c.comparator = Registry.standard.comparator? c.comparator

theorem Registry.HasStandardComparators.testsStandardMembership {reg : Registry}
    (h : reg.HasStandardComparators) {c : Condition} (hc : c.TestsMembership) :
    c.TestsStandardMembership reg := by
  refine ⟨hc, ?_⟩
  have hmem : ∀ key ∈ Comparator.membership, ∃ e ∈ Comparator.standard, e.1 = key := by decide
  obtain ⟨e, he, hkey⟩ := hmem _ hc.2
  rw [← hkey, h e he, Registry.hasStandardComparators_standard e he]

/-! ### Lists of texts -/

namespace Value

theorem looseEq?_string_left {s : String} {v : Value} :
    (Value.string s).looseEq? v = some true ↔ v = .string s := by
  cases v with
  | string t =>
    rw [looseEq?, Option.some.injEq, beq_iff_eq, string.injEq]
    exact eq_comm
  | _ => simp [looseEq?, isNull]

theorem looseEq?_string_right {s : String} {v : Value} :
    v.looseEq? (.string s) = some true ↔ v = .string s := by
  cases v <;> simp [looseEq?, isNull]

theorem mem_strings {items : List Value} {s : String} :
    s ∈ (Value.list items).strings ↔ .string s ∈ items := by
  simp only [strings, List.mem_filterMap]
  constructor
  · rintro ⟨v, hv, htext⟩
    cases v <;> cases htext
    exact hv
  · exact fun h => ⟨.string s, h, rfl⟩

theorem strings_ofStrings (texts : List String) : (ofStrings texts).strings = texts := by
  rw [ofStrings, strings, List.filterMap_map]
  exact List.filterMap_some

end Value

namespace Comparison

/-- A list of texts has those as items, and nothing else. -/
theorem listHas_ofStrings {texts : List String} {v : Value} :
    listHas (texts.map .string) v = true ↔ ∃ s ∈ texts, v = .string s := by
  simp only [listHas, List.any_map, List.any_eq_true, Function.comp, beq_iff_eq,
    Value.looseEq?_string_left]

theorem listHas_string {items : List Value} {s : String} :
    listHas items (.string s) = true ↔ s ∈ (Value.list items).strings := by
  simp only [listHas, List.any_eq_true, beq_iff_eq, Value.looseEq?_string_right, Value.mem_strings]
  constructor
  · rintro ⟨v, hv, rfl⟩
    exact hv
  · exact fun h => ⟨_, h, rfl⟩

/-- The texts that a literal names. -/
def named : Value → List String
  | .string s => [s]
  | v => v.strings

/-- A list of texts contains one of those that the literal names. -/
theorem contains_ofStrings (texts : List String) (w : Value) :
    contains (.ofStrings texts) w = .ok ((named w).any fun s => decide (s ∈ texts)) := by
  cases w with
  | list wanted =>
    refine congrArg Except.ok (Bool.eq_iff_iff.2 ?_)
    simp only [List.any_eq_true, listHas_ofStrings, named, Value.mem_strings, decide_eq_true_eq]
    constructor
    · rintro ⟨v, hv, s, hs, rfl⟩
      exact ⟨s, hv, hs⟩
    · rintro ⟨s, hv, hs⟩
      exact ⟨.string s, hv, s, hs, rfl⟩
  | string s =>
    refine congrArg Except.ok (Bool.eq_iff_iff.2 ?_)
    rw [listHas_ofStrings]
    simp [named]
  | _ =>
    refine congrArg Except.ok (Bool.eq_iff_iff.2 ?_)
    rw [listHas_ofStrings]
    simp [named, Value.strings]

/-- One of a list of texts is in a list that names it. -/
theorem isIn_ofStrings (texts : List String) (w : Value) :
    isIn (.ofStrings texts) w = match w with
      | .list set => .ok ((named (.list set)).any fun s => decide (s ∈ texts))
      | w => .error (mismatch "in" (.list []) w) := by
  cases w with
  | list set =>
    refine congrArg Except.ok (Bool.eq_iff_iff.2 ?_)
    simp only [List.any_map, List.any_eq_true, Function.comp, listHas_string, named,
      decide_eq_true_eq]
    exact ⟨fun ⟨s, hs, hset⟩ => ⟨s, hset, hs⟩, fun ⟨s, hset, hs⟩ => ⟨s, hs, hset⟩⟩
  | _ => rfl

/-- Lists with the same named texts are not told apart. -/
theorem any_named_congr {w : Value} {texts texts' : List String}
    (h : ∀ s ∈ named w, s ∈ texts ↔ s ∈ texts') :
    ((named w).any fun s => decide (s ∈ texts)) = (named w).any fun s => decide (s ∈ texts') := by
  rw [Bool.eq_iff_iff]
  simp only [List.any_eq_true, decide_eq_true_eq]
  exact exists_congr fun s => and_congr_right (h s)

theorem contains_congr {w : Value} {texts texts' : List String}
    (h : ∀ s ∈ named w, s ∈ texts ↔ s ∈ texts') :
    contains (.ofStrings texts) w = contains (.ofStrings texts') w := by
  rw [contains_ofStrings, contains_ofStrings, any_named_congr h]

theorem isIn_congr {w : Value} {texts texts' : List String}
    (h : ∀ s ∈ named w, s ∈ texts ↔ s ∈ texts') :
    isIn (.ofStrings texts) w = isIn (.ofStrings texts') w := by
  rw [isIn_ofStrings, isIn_ofStrings]
  cases w with
  | list set => simp only [any_named_congr h]
  | _ => rfl

theorem isNotIn_congr {w : Value} {texts texts' : List String}
    (h : ∀ s ∈ named w, s ∈ texts ↔ s ∈ texts') :
    isNotIn (.ofStrings texts) w = isNotIn (.ofStrings texts') w := by
  unfold isNotIn
  rw [isIn_congr h]
  rfl

end Comparison

namespace Rule

variable {reg : Registry} {c : Condition}

theorem referencedTags_eq (href : c.isTagReference = true) :
    c.referencedTags = Comparison.named c.value := by
  rw [Condition.referencedTags, if_pos href]
  cases c.value <;> rfl

/-- A condition without a transform compares the tag list as it is. -/
theorem evaluate_of_comparator {f : Comparison} {record : Record} {texts : List String}
    (htransform : c.transform = none) (hf : reg.comparator? c.comparator = some (.binary f))
    (hget : record.get c.field = .ofStrings texts) :
    (Rule.condition c).evaluate record reg = f (.ofStrings texts) c.value := by
  have hpredicate : reg.resolvePredicate c = .ok (.binary f c.value) := by
    rw [Registry.resolvePredicate, hf]
    rfl
  rw [evaluate_condition, transformOf, htransform, hpredicate, hget]
  rfl

/-- **A condition that tests membership** cannot tell tag lists apart with the same named tags. -/
theorem evaluate_eq_of_mem_iff_of_standard (href : c.isTagReference = true)
    (hc : c.TestsStandardMembership reg) {r s : Record} {texts texts' : List String}
    (hr : r.get tagsField = .ofStrings texts) (hs : s.get tagsField = .ofStrings texts')
    (h : ∀ name ∈ c.referencedTags, name ∈ texts ↔ name ∈ texts') :
    (Rule.condition c).evaluate r reg = (Rule.condition c).evaluate s reg := by
  obtain ⟨⟨htransform, hmembership⟩, hstandard⟩ := hc
  have hfield : c.field = tagsField := by simpa [Condition.isTagReference] using href
  rw [← hfield] at hr hs
  rw [referencedTags_eq href] at h
  have hlookup : ∀ f, Registry.standard.comparator? c.comparator = some (.binary f) →
      f (.ofStrings texts) c.value = f (.ofStrings texts') c.value →
      (Rule.condition c).evaluate r reg = (Rule.condition c).evaluate s reg := by
    intro f hkey hf
    rw [← hstandard] at hkey
    rw [evaluate_of_comparator htransform hkey hr, evaluate_of_comparator htransform hkey hs, hf]
  obtain hkey | hkey | hkey : c.comparator = "contains" ∨ c.comparator = "in" ∨
      c.comparator = "not_in" := by simpa [Comparator.membership] using hmembership
  · exact hlookup Comparison.contains (hkey ▸ rfl) (Comparison.contains_congr h)
  · exact hlookup Comparison.isIn (hkey ▸ rfl) (Comparison.isIn_congr h)
  · exact hlookup Comparison.isNotIn (hkey ▸ rfl) (Comparison.isNotIn_congr h)

/-- Where all standard comparators are registered, a condition tests membership by them. -/
theorem evaluate_eq_of_mem_iff (hreg : reg.HasStandardComparators) (href : c.isTagReference = true)
    (hc : c.TestsMembership) {r s : Record} {texts texts' : List String}
    (hr : r.get tagsField = .ofStrings texts) (hs : s.get tagsField = .ofStrings texts')
    (h : ∀ name ∈ c.referencedTags, name ∈ texts ↔ name ∈ texts') :
    (Rule.condition c).evaluate r reg = (Rule.condition c).evaluate s reg :=
  evaluate_eq_of_mem_iff_of_standard href (hreg.testsStandardMembership hc) hr hs h

end Rule

end TagRules
