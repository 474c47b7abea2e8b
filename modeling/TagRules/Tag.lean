import TagRules.Registry
import TagRules.Stored.Rule

/-!
# Tags

A tag is a name for the records that a rule matches. Its rule is always in normal form, a
disjunction of conjunctions of leaves, so that it can be edited one alternative at a time.

* `Tag.make`: a tag with a name and a rule, which is brought into normal form.
* `Tag.make_eq_ok_iff`: when there is one, and what it is.
* `Tag.ofJson`, `Tag.toJson`: the stored form.
* `Tag.withAlternative`, `Tag.withCondition`, `Tag.replaceAlternative`, `Tag.withRecordIds`: the
  edited tag.
-/

namespace TagRules

/-- A tag. -/
structure Tag where
  /-- The name. -/
  name : String
  /-- The rule. -/
  rule : Rule
  /-- There is a name. -/
  name_ne : name ≠ ""
  /-- The rule is in normal form. -/
  canonical : rule.isCanonical = true
deriving DecidableEq

namespace Tag

/-- The tag with a name and a rule, which is brought into normal form. -/
def make (name : String) (r : Rule) : Except RuleError Tag :=
  if hn : name = "" then .error (.malformed .emptyTagName)
  else
    match h : r.canonical with
    | .ok s => .ok ⟨name, s, hn, Rule.isCanonical_of_canonical h⟩
    | .error e => .error e

/-- **When there is a tag** with a name and a rule: the name is not empty and the rule has a normal
form, which is the rule of the tag. -/
theorem make_eq_ok_iff {name : String} {r : Rule} {t : Tag} :
    make name r = .ok t ↔ name ≠ "" ∧ r.canonical = .ok t.rule ∧ t.name = name := by
  obtain ⟨tagName, rule, hname, hrule⟩ := t
  unfold make
  split
  · rename_i hempty
    simp [hempty]
  · rename_i hn
    split
    · rename_i s hs
      simp only [Except.ok.injEq, mk.injEq, hs]
      exact ⟨fun h => ⟨hn, h.2, h.1.symm⟩, fun h => ⟨h.2.2.symm, h.2.1⟩⟩
    · rename_i e he
      simp [he]

/-- The tag with a name and a stored rule, whose keys a registry has to know. -/
def ofJson (name : String) (j : Json) (reg : Registry) : Except RuleError Tag := do
  let r ← Rule.ofJson j
  reg.validate r
  make name r

/-- The stored form of the rule. -/
def toJson (t : Tag) : Except RuleError Json := t.rule.toJson

/-- The alternatives of the rule. -/
def alternatives (t : Tag) : List Rule := t.rule.children

/-- The tags whose presence the rule tests. -/
def dependsOn (t : Tag) : List String := t.rule.tagReferences

/-- The tag with one more alternative. -/
def withAlternative (t : Tag) (r : Rule) : Except RuleError Tag :=
  make t.name (.any (t.alternatives ++ [r]))

/-- The tag with one alternative changed. -/
def modifyAlternative (t : Tag) (index : Nat) (f : Rule → Rule) : Except RuleError Tag :=
  match t.alternatives[index]? with
  | some a => make t.name (.any (t.alternatives.set index (f a)))
  | none => .error (.malformed (.noSuchAlternative t.name index t.alternatives.length))

/-- The tag with one more condition in an alternative. -/
def withCondition (t : Tag) (index : Nat) (r : Rule) : Except RuleError Tag :=
  t.modifyAlternative index (·.and r)

/-- The tag with another rule in the place of an alternative. -/
def replaceAlternative (t : Tag) (index : Nat) (r : Rule) : Except RuleError Tag :=
  t.modifyAlternative index fun _ => r

/-- The tag that also matches the records with one of some values in a field. -/
def withRecordIds (t : Tag) (field : String) (ids : List Value) : Except RuleError Tag :=
  if ids.isEmpty then .error (.malformed .noRecordIds) else t.withAlternative (.fieldIn field ids)

/-- The written form of a tag. -/
def render (t : Tag) : String := t.name ++ " := " ++ t.rule.render

end Tag

end TagRules
