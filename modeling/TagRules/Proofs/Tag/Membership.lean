import TagRules.Proofs.Rule.TagReference

/-!
# Tags that only test membership

A tag reads the tag list through the conditions of its rule. Where these test membership with the
standard comparators, the tag cannot tell tag lists apart that hold the same of the tags it depends
on.

* `Tag.TestsStandardMembership`: all conditions of the rule on the tag list test membership.
* `Tag.defined_withTags_iff`, `Tag.holds_withTags_eq`: what the tag cannot tell apart.
-/

namespace TagRules

/-- A tag that a condition names is one that the tag of its rule depends on. -/
theorem mem_dependsOn {t : Tag} {condition : Condition} {name : String}
    (hmem : .condition condition ∈ t.rule.subrules) (hname : name ∈ condition.referencedTags) :
    name ∈ t.dependsOn := by
  rw [Tag.dependsOn, Rule.tagReferences, List.mem_eraseDups]
  exact List.mem_flatMap.2 ⟨_, hmem, hname⟩

namespace Tag

variable {reg : Registry} {t : Tag} {texts texts' : List String}

/-- **The rule of a tag tests membership**: all its conditions on the tag list do, by the standard
comparators. -/
def TestsStandardMembership (reg : Registry) (t : Tag) : Prop :=
  ∀ c, .condition c ∈ t.rule.subrules → c.isTagReference = true → c.TestsStandardMembership reg

/-- No leaf of the rule tells tag lists apart that hold the same of the tags it depends on. -/
theorem evaluate_leaf_withTags (hreg : reg.IgnoresTags) (ht : t.TestsStandardMembership reg)
    (h : ∀ name ∈ t.dependsOn, name ∈ texts ↔ name ∈ texts') (r : Record) :
    ∀ l ∈ t.rule.leaves, l.evaluate (r.withTags texts) reg = l.evaluate (r.withTags texts') reg := by
  intro l hl
  obtain ⟨hsub, hleaf⟩ := (Rule.mem_leaves_iff t.canonical).1 hl
  cases href : l.isTagReference with
  | false =>
    refine Rule.evaluate_congr hreg hleaf href ?_
    exact (r.agreesOffTags_withTags texts).symm.trans (r.agreesOffTags_withTags texts')
  | true =>
    cases l with
    | condition c =>
      exact Rule.evaluate_eq_of_mem_iff_of_standard href (ht c hsub href) (r.get_withTags texts)
        (r.get_withTags texts') fun name hname => h name (mem_dependsOn hsub hname)
    | _ => cases href

/-- Whether the rule can be evaluated depends on the other fields and on these tags only. -/
theorem defined_withTags_iff (hreg : reg.IgnoresTags) (ht : t.TestsStandardMembership reg)
    (h : ∀ name ∈ t.dependsOn, name ∈ texts ↔ name ∈ texts') (r : Record) :
    t.rule.Defined reg (r.withTags texts) ↔ t.rule.Defined reg (r.withTags texts') :=
  Rule.defined_iff_of_leaves t.canonical (evaluate_leaf_withTags hreg ht h r)

/-- So does its truth value. -/
theorem holds_withTags_eq (hreg : reg.IgnoresTags) (ht : t.TestsStandardMembership reg)
    (h : ∀ name ∈ t.dependsOn, name ∈ texts ↔ name ∈ texts') (r : Record) :
    t.rule.holds reg (r.withTags texts) = t.rule.holds reg (r.withTags texts') :=
  Rule.holds_eq_of_leaves t.canonical (evaluate_leaf_withTags hreg ht h r)

end Tag

end TagRules
