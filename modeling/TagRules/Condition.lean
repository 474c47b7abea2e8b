import TagRules.Error
import TagRules.Record

/-!
# Conditions

A condition compares a field of a record, taken as it is or after a transform, with a literal.

* `Condition.check`: whether the names of a condition are well formed.
* `Condition.key`: the key under which a condition is stored.
* `Condition.referencedTags`: the tags that a condition on the tag list names.
-/

namespace TagRules

/-- The key that stands for custom rules in stored rules. -/
def customKey : String := "custom"

/-- A condition. -/
structure Condition where
  /-- The field that is read. -/
  field : String
  /-- The name of the transform of the field, if there is one. -/
  transform : Option String
  /-- The name of the comparator. -/
  comparator : String
  /-- The literal. -/
  value : Value
deriving DecidableEq

namespace Condition

/-- Whether a text may be a field or a transform in a condition key: it is not empty and holds no
separator. -/
def isKeyPart (s : String) : Bool := !s.isEmpty && !s.toList.contains '.'

/-- Checks the names of a condition. -/
def check (c : Condition) : Except Malformation Unit :=
  if c.field.isEmpty then .error .emptyField
  else if c.field.toList.contains '.' then .error (.dottedField c.field)
  else if c.field = customKey then .error .reservedField
  else if !c.transform.all isKeyPart then .error (.transformName c.field)
  else if c.comparator.isEmpty then .error (.noComparator c.field)
  else .ok ()

/-- Whether the condition is one on the tag list. -/
def isTagReference (c : Condition) : Bool := c.field = tagsField

/-- The tags that a condition on the tag list names. -/
def referencedTags (c : Condition) : List String :=
  if c.isTagReference then
    match c.value with
    | .string name => [name]
    | v => v.strings
  else []

/-- The key under which the condition is stored: the field, and the transform after a separator. -/
def key (c : Condition) : String :=
  match c.transform with
  | some t => c.field ++ "." ++ t
  | none => c.field

/-- The written form of a condition. -/
def render (c : Condition) : String := c.key ++ " " ++ c.comparator ++ " " ++ c.value.render

end Condition

end TagRules
