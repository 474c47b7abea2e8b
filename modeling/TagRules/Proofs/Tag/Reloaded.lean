import TagRules.Proofs.Stored.RoundTrip
import TagRules.Tag

/-!
# Tags that are stored and read again

The rule of a tag is in normal form, so that reading it again only moves the leaves of its
alternatives. Neither the truth value of the rule depends on their order, nor whether it is valid.

* `rule_eq`: the rule of a tag, made from its alternatives.
* `reloaded`: the tag that is read again.
* `sameMeaning_reloaded`, `validate_reloaded`: its rule has the same meaning, and is valid too.
* `reload_eq`: a valid tag is read again.
-/

namespace TagRules.Tag

open Outcome

variable {reg : Registry}

/-- Stores the rule of a tag and reads it again. -/
def reload (t : Tag) (reg : Registry) : Except RuleError Tag := do
  ofJson t.name (← t.toJson) reg

/-- The alternatives of the rule of a tag, as lists of leaves. -/
theorem rule_eq (t : Tag) : t.rule = Rule.ofAlternatives t.rule.toDnf ∧
    Rule.AreSound t.rule.toDnf ∧ t.rule.toDnf.length ≤ Rule.maxAlternatives := by
  obtain ⟨as, hrule, hsound, hlength⟩ := Rule.exists_alternatives t.canonical
  have hdnf : t.rule.toDnf = as := by
    rw [hrule]
    exact Rule.toDnf_ofAlternatives fun a ha l hl =>
      Rule.isLeaf_of_isSoundLeaf ((hsound.2 a ha).2 l hl)
  rw [hdnf]
  exact ⟨hrule, hsound, hlength⟩

theorem canonical_reloaded (t : Tag) :
    (Rule.reloaded t.rule.toDnf).canonical = .ok (Rule.reloaded t.rule.toDnf) := by
  obtain ⟨-, hsound, hlength⟩ := t.rule_eq
  refine Rule.canonical_ofAlternatives (Rule.areSound_sortStored hsound) ?_
  rwa [List.length_map]

/-- **The tag that is read again**: its leaves stand in the order of storage. -/
def reloaded (t : Tag) : Tag where
  name := t.name
  rule := Rule.reloaded t.rule.toDnf
  name_ne := t.name_ne
  canonical := Rule.isCanonical_of_canonical t.canonical_reloaded

theorem sameMeaning_reloaded (t : Tag) : Rule.SameMeaning t.rule t.reloaded.rule := by
  obtain ⟨hrule, hsound, -⟩ := t.rule_eq
  have hsame := Rule.sameMeaning_reloaded hsound
  rwa [← hrule] at hsame

theorem holds_reloaded (t : Tag) {record : Record} :
    t.reloaded.rule.holds reg record = t.rule.holds reg record := by
  obtain ⟨hrule, -, -⟩ := t.rule_eq
  have hsame : (Rule.reloaded t.rule.toDnf).holds reg record =
      (Rule.ofAlternatives t.rule.toDnf).holds reg record := Rule.holds_reloaded _
  rwa [← hrule] at hsame

/-- A valid tag stays valid. -/
theorem validate_reloaded {t : Tag} (h : reg.validate t.rule = .ok ()) :
    reg.validate t.reloaded.rule = .ok () := by
  obtain ⟨-, hsound, -⟩ := t.rule_eq
  have hreloaded := Rule.isSound_ofAlternatives (Rule.areSound_sortStored hsound)
  exact (t.sameMeaning_reloaded.validate_iff (Rule.validate_eq_ok_iff.1 h).1 hreloaded).1 h

/-- **A valid tag is read again** if its floats are finite. -/
theorem reload_eq {t : Tag} (hvalid : reg.validate t.rule = .ok ()) (hfinite : t.rule.AllFinite) :
    t.reload reg = .ok t.reloaded := by
  obtain ⟨-, hsound, hlength⟩ := t.rule_eq
  obtain ⟨hrule, -⟩ := Rule.validate_eq_ok_iff.1 hvalid
  have hstorable := (Rule.areStorable_toDnf_iff hrule).2 hfinite
  have hwritten : t.toJson = .ok (Rule.storedForm t.rule.toDnf) :=
    Rule.toJson_eq_ok_iff.2 ⟨_, Rule.normalForm_eq_ok_iff.2 ⟨hrule, hlength, rfl⟩, hstorable, rfl⟩
  have hread := Rule.ofJson_storedForm hsound hstorable
  refine bind_eq_ok_iff.2 ⟨_, hwritten, bind_eq_ok_iff.2 ⟨_, hread, ?_⟩⟩
  refine bind_eq_ok_iff.2 ⟨(), validate_reloaded hvalid, ?_⟩
  exact make_eq_ok_iff.2 ⟨t.name_ne, t.canonical_reloaded, rfl⟩

end TagRules.Tag
