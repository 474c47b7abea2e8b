import TagRules.Rule.Basic

/-!
# The normal form of a rule

Every rule is equivalent to a disjunction of conjunctions of leaves. The alternatives are counted
before they are written out, in arithmetic that stops at a fixed bound, so that a rule that expands
too far is refused without being expanded.

* `Rule.toDnf`: the alternatives.
* `Rule.alternativeCount_eq`: the count is exact up to its bound.
* `Rule.normalForm`: the alternatives of a sound rule that does not expand too far.
* `Rule.isCanonical_of_canonical`: the rule made from the alternatives is in normal form.
-/

namespace TagRules.Rule

/-- The most alternatives that a normal form may have. -/
def maxAlternatives : Nat := 1024

/-- The bound of counts. -/
def countBound : Nat := UInt64.size - 1

/-- Every alternative of the first list joined with every one of the second. -/
def product (as bs : List (List Rule)) : List (List Rule) := as.flatMap fun a => bs.map (a ++ ·)

mutual

/-- The alternatives of a rule, each a list of leaves. -/
def toDnf : Rule → List (List Rule)
  | .condition c => [[.condition c]]
  | .custom key => [[.custom key]]
  | .all rs => (dnfs rs).foldl product [[]]
  | .any rs => (dnfs rs).flatten

/-- The alternatives of some rules. -/
def dnfs : List Rule → List (List (List Rule))
  | [] => []
  | r :: rs => toDnf r :: dnfs rs

end

theorem dnfs_eq (rs : List Rule) : dnfs rs = rs.map toDnf := by
  induction rs with
  | nil => rfl
  | cons r rs ih => simp [dnfs, ih]

/-- The sum of two counts, up to the bound. -/
def addCounts (m n : Nat) : Nat := min (m + n) countBound

/-- The product of two counts, up to the bound. -/
def mulCounts (m n : Nat) : Nat := min (m * n) countBound

mutual

/-- The number of alternatives, up to the bound. -/
def alternativeCount : Rule → Nat
  | .condition _ | .custom _ => 1
  | .all rs => (alternativeCounts rs).foldl mulCounts 1
  | .any rs => (alternativeCounts rs).foldl addCounts 0

/-- The numbers of alternatives of some rules, up to the bound. -/
def alternativeCounts : List Rule → List Nat
  | [] => []
  | r :: rs => alternativeCount r :: alternativeCounts rs

end

/-- The alternatives of a sound rule, unless there are too many. -/
def normalForm (r : Rule) : Except RuleError (List (List Rule)) := do
  r.checkShape.mapError .malformed
  if maxAlternatives < r.alternativeCount then
    throw (.tooManyAlternatives r.alternativeCount maxAlternatives)
  return r.toDnf

/-- The disjunction of the conjunctions of some alternatives. -/
def ofAlternatives (alternatives : List (List Rule)) : Rule := .any (alternatives.map .all)

/-- A leaf whose names are well formed. -/
def isSoundLeaf (r : Rule) : Bool := r.isLeaf && r.checkShape.isOk

/-- A conjunction of at least one sound leaf. -/
def isAlternative : Rule → Bool
  | .all leaves => !leaves.isEmpty && leaves.all isSoundLeaf
  | _ => false

/-- Whether a rule is in normal form: a disjunction of at least one alternative, and not of too
many. -/
def isCanonical : Rule → Bool
  | .any alternatives =>
    !alternatives.isEmpty && alternatives.length ≤ maxAlternatives && alternatives.all isAlternative
  | _ => false

/-- The rule in normal form. -/
def canonical (r : Rule) : Except RuleError Rule := ofAlternatives <$> r.normalForm

/-! ### The count -/

theorem length_product (as bs : List (List Rule)) :
    (product as bs).length = as.length * bs.length := by
  induction as with
  | nil => simp [product]
  | cons a as ih =>
    have h : product (a :: as) bs = bs.map (a ++ ·) ++ product as bs := rfl
    simp only [h, List.length_append, List.length_map, ih, List.length_cons]
    rw [Nat.add_mul, Nat.one_mul, Nat.add_comm]

theorem foldl_product_length (ds : List (List (List Rule))) (as : List (List Rule)) :
    (ds.foldl product as).length = ds.foldl (fun n d => n * d.length) as.length := by
  induction ds generalizing as with
  | nil => rfl
  | cons d ds ih => simp [ih, length_product]

theorem min_mul_min (m n b : Nat) : min (min m b * min n b) b = min (m * n) b := by
  rcases Nat.eq_zero_or_pos m with rfl | hm
  · simp
  rcases Nat.eq_zero_or_pos n with rfl | hn
  · simp
  rcases Nat.eq_zero_or_pos b with rfl | hb
  · simp
  have hmn : m ≤ m * n := Nat.le_mul_of_pos_right m hn
  have hnm : n ≤ m * n := Nat.le_mul_of_pos_left n hm
  rcases Nat.le_total m b with hmb | hmb <;> rcases Nat.le_total n b with hnb | hnb
  · rw [Nat.min_eq_left hmb, Nat.min_eq_left hnb]
  · rw [Nat.min_eq_left hmb, Nat.min_eq_right hnb,
      Nat.min_eq_right (Nat.le_mul_of_pos_left b hm), Nat.min_eq_right (Nat.le_trans hnb hnm)]
  · rw [Nat.min_eq_right hmb, Nat.min_eq_left hnb,
      Nat.min_eq_right (Nat.le_mul_of_pos_right b hn), Nat.min_eq_right (Nat.le_trans hmb hmn)]
  · rw [Nat.min_eq_right hmb, Nat.min_eq_right hnb,
      Nat.min_eq_right (Nat.le_mul_of_pos_right b hb), Nat.min_eq_right (Nat.le_trans hmb hmn)]

theorem foldl_mulCounts (ds : List (List (List Rule))) (n m : Nat) (h : m = min n countBound) :
    (ds.map fun d => min d.length countBound).foldl mulCounts m =
      min (ds.foldl (fun n d => n * d.length) n) countBound := by
  induction ds generalizing n m with
  | nil => exact h
  | cons d ds ih =>
    refine ih (n * d.length) _ ?_
    rw [mulCounts, h, min_mul_min]

theorem foldl_addCounts (ds : List (List (List Rule))) (n m : Nat) (h : m = min n countBound) :
    (ds.map fun d => min d.length countBound).foldl addCounts m =
      min (n + ds.flatten.length) countBound := by
  induction ds generalizing n m with
  | nil => simpa using h
  | cons d ds ih =>
    simp only [List.map_cons, List.foldl_cons, List.flatten_cons, List.length_append]
    rw [ih (n + d.length) _ (by rw [addCounts, h]; omega), Nat.add_assoc]

mutual

/-- **The count is exact up to its bound.** -/
theorem alternativeCount_eq : ∀ r : Rule, r.alternativeCount = min r.toDnf.length countBound
  | .condition _ => rfl
  | .custom _ => rfl
  | .all rs => by
    rw [alternativeCount, toDnf, alternativeCounts_eq rs, foldl_mulCounts _ 1 1 rfl,
      foldl_product_length]
    rfl
  | .any rs => by
    rw [alternativeCount, toDnf, alternativeCounts_eq rs, foldl_addCounts _ 0 0 (by simp)]
    simp

theorem alternativeCounts_eq : ∀ rs : List Rule,
    alternativeCounts rs = (dnfs rs).map fun d => min d.length countBound
  | [] => rfl
  | r :: rs => by
    rw [alternativeCounts, dnfs, List.map_cons, alternativeCount_eq r, alternativeCounts_eq rs]

end

/-! ### The alternatives -/

/-- Alternatives whose leaves are sound, of which there is one, and each of which has a leaf. -/
def AreSound (as : List (List Rule)) : Prop :=
  as ≠ [] ∧ ∀ a ∈ as, a ≠ [] ∧ ∀ r ∈ a, r.isSoundLeaf = true

theorem mem_product {as bs : List (List Rule)} {c : List Rule} :
    c ∈ product as bs ↔ ∃ a ∈ as, ∃ b ∈ bs, a ++ b = c := by
  simp [product]

theorem foldl_product_sound {ds : List (List (List Rule))} {as : List (List Rule)}
    (hds : ∀ d ∈ ds, AreSound d) (has : AreSound as) : AreSound (ds.foldl product as) := by
  induction ds generalizing as with
  | nil => exact has
  | cons d ds ih =>
    refine ih (fun e he => hds e (List.mem_cons_of_mem _ he)) ?_
    obtain ⟨hne, hd⟩ := hds d List.mem_cons_self
    obtain ⟨hne', ha⟩ := has
    constructor
    · intro h
      have := congrArg List.length h
      rw [length_product] at this
      rcases Nat.mul_eq_zero.1 this with h0 | h0
      · exact hne' (List.eq_nil_of_length_eq_zero h0)
      · exact hne (List.eq_nil_of_length_eq_zero h0)
    · intro c hc
      obtain ⟨a, hma, b, hmb, rfl⟩ := mem_product.1 hc
      refine ⟨by simp [(ha a hma).1], fun r hr => ?_⟩
      rcases List.mem_append.1 hr with h | h
      · exact (ha a hma).2 r h
      · exact (hd b hmb).2 r h

theorem product_nil_sound (d : List (List Rule)) : product [[]] d = d := by
  simp [product]

mutual

/-- **The alternatives of a sound rule** are not empty, and neither is any of them. -/
theorem toDnf_sound : ∀ r : Rule, r.IsSound → AreSound r.toDnf
  | .condition c, h => by
    have : c.check = .ok () := h
    simp [AreSound, toDnf, isSoundLeaf, isLeaf, checkShape, this, Except.isOk, Except.toBool]
  | .custom key, h => by
    have hk : checkShape (.custom key) = .ok () := h
    simp [AreSound, toDnf, isSoundLeaf, isLeaf, hk, Except.isOk, Except.toBool]
  | .all rs, h => by
    obtain ⟨hne, hrs⟩ := (isSound_all_iff rs).1 h
    have hds := dnfs_sound rs hrs
    rw [toDnf]
    cases rs with
    | nil => exact absurd rfl hne
    | cons r rs =>
      rw [dnfs, List.foldl_cons, product_nil_sound]
      exact foldl_product_sound (fun d hd => hds d (by simp [dnfs, hd])) (hds _ (by simp [dnfs]))
  | .any rs, h => by
    obtain ⟨hne, hrs⟩ := (isSound_any_iff rs).1 h
    have hds := dnfs_sound rs hrs
    rw [toDnf]
    constructor
    · cases rs with
      | nil => exact absurd rfl hne
      | cons r rs =>
        have := (hds (toDnf r) (by simp [dnfs])).1
        simp [dnfs, this]
    · intro a ha
      obtain ⟨d, hd, had⟩ := List.mem_flatten.1 ha
      exact (hds d hd).2 a had

theorem dnfs_sound : ∀ rs : List Rule, (∀ r ∈ rs, r.IsSound) → ∀ d ∈ dnfs rs, AreSound d
  | [], _, d, hd => by simp [dnfs] at hd
  | r :: rs, h, d, hd => by
    rw [dnfs] at hd
    rcases List.mem_cons.1 hd with rfl | hd
    · exact toDnf_sound r (h r List.mem_cons_self)
    · exact dnfs_sound rs (fun s hs => h s (List.mem_cons_of_mem _ hs)) d hd

end

/-- **When there is a normal form**: the rule is sound and does not expand too far. -/
theorem normalForm_eq_ok_iff {r : Rule} {as : List (List Rule)} :
    r.normalForm = .ok as ↔ r.IsSound ∧ r.toDnf.length ≤ maxAlternatives ∧ as = r.toDnf := by
  have hcount := alternativeCount_eq r
  have hb : maxAlternatives < countBound := by decide
  unfold normalForm IsSound
  cases h : r.checkShape with
  | error m => exact ⟨fun hx => (nomatch hx), fun hx => (nomatch hx.1)⟩
  | ok u =>
    show (if maxAlternatives < r.alternativeCount then
        Except.error (RuleError.tooManyAlternatives r.alternativeCount maxAlternatives)
      else Except.ok r.toDnf) = Except.ok as ↔ _
    split
    · exact ⟨fun hx => (nomatch hx), fun hx => by omega⟩
    · rw [Except.ok.injEq]
      exact ⟨fun hx => ⟨rfl, by omega, hx.symm⟩, fun hx => hx.2.2.symm⟩

/-- **When there is a rule in normal form**: the rule is sound and does not expand too far. -/
theorem canonical_eq_ok_iff {r s : Rule} :
    r.canonical = .ok s ↔
      r.IsSound ∧ r.toDnf.length ≤ maxAlternatives ∧ s = ofAlternatives r.toDnf := by
  unfold canonical
  cases h : r.normalForm with
  | error e =>
    constructor
    · intro hx
      cases hx
    · rintro ⟨hs, hlen, -⟩
      rw [normalForm_eq_ok_iff.2 ⟨hs, hlen, rfl⟩] at h
      cases h
  | ok as =>
    obtain ⟨hs, hlen, rfl⟩ := normalForm_eq_ok_iff.1 h
    constructor
    · intro hx
      cases hx
      exact ⟨hs, hlen, rfl⟩
    · rintro ⟨-, -, rfl⟩
      rfl

/-- **The normal form is in normal form.** -/
theorem isCanonical_of_canonical {r s : Rule} (h : r.canonical = .ok s) : s.isCanonical = true := by
  obtain ⟨hs, hlen, rfl⟩ := canonical_eq_ok_iff.1 h
  obtain ⟨hne, has⟩ := toDnf_sound r hs
  simp only [ofAlternatives, isCanonical, List.length_map, Bool.and_eq_true, List.all_map,
    List.all_eq_true, Function.comp, isAlternative, decide_eq_true_eq]
  refine ⟨⟨by simp [hne], hlen⟩, fun a ha => ⟨by simp [(has a ha).1], (has a ha).2⟩⟩

end TagRules.Rule
