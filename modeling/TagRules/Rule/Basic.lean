import TagRules.Condition

/-!
# Rules

A rule is a tree of conjunctions and disjunctions over conditions and custom predicates. Functions
on rules come with a companion on lists of rules, which treats a list rule by rule.

* `Rule.subrules`: every node, a node before its children.
* `Rule.atPath`: the node that a path of child indices leads to.
* `Rule.checkShape`: whether composites have children and names are well formed.
* `Rule.tagReferences`: the tags whose presence the rule tests.
-/

namespace TagRules

/-- A rule. -/
inductive Rule where
  /-- A condition on one field. -/
  | condition (c : Condition)
  /-- A custom predicate on the whole record. -/
  | custom (key : String)
  /-- A conjunction. -/
  | all (children : List Rule)
  /-- A disjunction. -/
  | any (children : List Rule)
deriving Inhabited

namespace Rule

mutual

/-- Structural equality. -/
def same : Rule → Rule → Bool
  | .condition c, .condition d => c == d
  | .custom k, .custom l => k == l
  | .all rs, .all ss => sameList rs ss
  | .any rs, .any ss => sameList rs ss
  | _, _ => false

/-- Structural equality of lists. -/
def sameList : List Rule → List Rule → Bool
  | [], [] => true
  | r :: rs, s :: ss => same r s && sameList rs ss
  | _, _ => false

end

mutual

theorem same_iff_eq : ∀ r s : Rule, same r s = true ↔ r = s
  | .condition c, s => by cases s <;> simp [same]
  | .custom k, s => by cases s <;> simp [same]
  | .all rs, s => by
    cases s with
    | all ss => simp [same, sameList_iff_eq rs ss]
    | _ => simp [same]
  | .any rs, s => by
    cases s with
    | any ss => simp [same, sameList_iff_eq rs ss]
    | _ => simp [same]

theorem sameList_iff_eq : ∀ rs ss : List Rule, sameList rs ss = true ↔ rs = ss
  | [], ss => by cases ss <;> simp [sameList]
  | r :: rs, ss => by
    cases ss with
    | nil => simp [sameList]
    | cons s ss => simp [sameList, same_iff_eq r s, sameList_iff_eq rs ss]

end

instance : DecidableEq Rule := fun r s => decidable_of_iff _ (same_iff_eq r s)

/-- The conjunction of some rules, of which there has to be one. -/
def allOf (children : List Rule) : Except RuleError Rule :=
  if children.isEmpty then .error (.malformed .emptyConjunction) else .ok (.all children)

/-- The disjunction of some rules, of which there has to be one. -/
def anyOf (children : List Rule) : Except RuleError Rule :=
  if children.isEmpty then .error (.malformed .emptyDisjunction) else .ok (.any children)

/-- Both rules. A conjunction on the left takes the other rule in as its last child. -/
def and : Rule → Rule → Rule
  | .all children, s => .all (children ++ [s])
  | r, s => .all [r, s]

/-- One of two rules. A disjunction on the left takes the other rule in as its last child. -/
def or : Rule → Rule → Rule
  | .any children, s => .any (children ++ [s])
  | r, s => .any [r, s]

/-- The record has a tag. -/
def tagged (name : String) : Rule := .condition ⟨tagsField, none, "contains", .string name⟩

/-- The record has one of some tags. -/
def taggedAny (names : List String) : Rule :=
  .condition ⟨tagsField, none, "contains", .ofStrings names⟩

/-- The value of a field is one of some values. -/
def fieldIn (field : String) (values : List Value) : Rule :=
  .condition ⟨field, none, "in", .list values⟩

/-- The children of a composite. -/
def children : Rule → List Rule
  | .all rs | .any rs => rs
  | .condition _ | .custom _ => []

/-- Whether the rule is no composite. -/
def isLeaf : Rule → Bool
  | .condition _ | .custom _ => true
  | .all _ | .any _ => false

/-- The name of the kind of a rule. -/
def kindName : Rule → String
  | .condition c => if c.isTagReference then "tag reference" else "condition"
  | .custom _ => "custom rule"
  | .all _ => "conjunction"
  | .any _ => "disjunction"

mutual

/-- Every node of the rule: the rule itself, then the nodes of its children. -/
def subrules : Rule → List Rule
  | .condition c => [.condition c]
  | .custom key => [.custom key]
  | .all rs => .all rs :: subrulesList rs
  | .any rs => .any rs :: subrulesList rs

/-- Every node of some rules. -/
def subrulesList : List Rule → List Rule
  | [] => []
  | r :: rs => subrules r ++ subrulesList rs

end

theorem subrulesList_eq (rs : List Rule) : subrulesList rs = rs.flatMap subrules := by
  induction rs with
  | nil => rfl
  | cons r rs ih => simp [subrulesList, ih]

/-- **Pre-order.** A node comes first, then the nodes of its children. -/
theorem subrules_eq (r : Rule) : r.subrules = r :: r.children.flatMap subrules := by
  cases r <;> simp [subrules, children, subrulesList_eq]

/-- The tags that a node names by itself. -/
def referencedTags : Rule → List String
  | .condition c => c.referencedTags
  | _ => []

/-- The tags whose presence the rule tests, each once, in the order in which they first occur. -/
def tagReferences (r : Rule) : List String := (r.subrules.flatMap referencedTags).eraseDups

/-- The node at the end of a path, which names children by their positions. -/
def atPath : Rule → List Nat → Option Rule
  | r, [] => some r
  | r, i :: path => r.children[i]?.bind fun child => child.atPath path

mutual

/-- Checks the names in a rule, and that its composites have children. -/
def checkShape : Rule → Except Malformation Unit
  | .condition c => c.check
  | .custom key => if key.isEmpty then .error .emptyCustomKey else .ok ()
  | .all rs => if rs.isEmpty then .error .emptyConjunction else checkShapes rs
  | .any rs => if rs.isEmpty then .error .emptyDisjunction else checkShapes rs

/-- Checks some rules, one after the other. -/
def checkShapes : List Rule → Except Malformation Unit
  | [] => .ok ()
  | r :: rs => do
    checkShape r
    checkShapes rs

end

/-- The form of a rule is sound when none of the checks fails. -/
def IsSound (r : Rule) : Prop := r.checkShape = .ok ()

theorem checkShapes_ok_iff (rs : List Rule) : checkShapes rs = .ok () ↔ ∀ r ∈ rs, r.IsSound := by
  induction rs with
  | nil => simp [checkShapes]
  | cons r rs ih =>
    unfold checkShapes
    cases h : checkShape r with
    | error m => simp [IsSound, h, bind, Except.bind]
    | ok u => simpa [IsSound, h, bind, Except.bind] using ih

theorem isSound_all_iff (rs : List Rule) :
    (Rule.all rs).IsSound ↔ rs ≠ [] ∧ ∀ r ∈ rs, r.IsSound := by
  rw [IsSound, checkShape]
  split <;> simp_all [checkShapes_ok_iff]

theorem isSound_any_iff (rs : List Rule) :
    (Rule.any rs).IsSound ↔ rs ≠ [] ∧ ∀ r ∈ rs, r.IsSound := by
  rw [IsSound, checkShape]
  split <;> simp_all [checkShapes_ok_iff]

mutual

/-- The written form of a rule. -/
def render : Rule → String
  | .condition c => "(" ++ c.render ++ ")"
  | .custom key => "custom(" ++ key ++ ")"
  | .all rs => "(" ++ " AND ".intercalate (renderList rs) ++ ")"
  | .any rs => "(" ++ " OR ".intercalate (renderList rs) ++ ")"

/-- The written forms of some rules. -/
def renderList : List Rule → List String
  | [] => []
  | r :: rs => render r :: renderList rs

end

end Rule

end TagRules
