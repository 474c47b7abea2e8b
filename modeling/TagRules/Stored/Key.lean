import TagRules.Condition

/-!
# Condition keys

A stored condition stands under a key: the name of a field, or the names of a field and of a
transform with a point between them.

* `ConditionKey.read`: the parts of a key, or where a part is missing.
-/

namespace TagRules

/-- The parts of a condition key. -/
structure ConditionKey where
  /-- The field. -/
  field : String
  /-- The transform, if there is one. -/
  transform : Option String
deriving DecidableEq, Repr

namespace ConditionKey

/-- Splits a list of characters before its first point. -/
def splitPart (cs : List Char) : List Char × List Char := cs.span (· ≠ '.')

/-- The length of a text in bytes. -/
def byteLength (cs : List Char) : Nat := (String.ofList cs).utf8ByteSize

/-- Reads a condition key. -/
def read (key : String) : Except RuleError ConditionKey :=
  let (field, rest) := splitPart key.toList
  if field.isEmpty then .error (.invalidKey key 0 .field)
  else
    match rest with
    | [] => .ok ⟨String.ofList field, none⟩
    | _ :: rest =>
      let (transform, rest) := splitPart rest
      let start := byteLength field + 1
      if transform.isEmpty then .error (.invalidKey key start .transform)
      else if !rest.isEmpty then .error (.invalidKey key (start + byteLength transform) .ending)
      else .ok ⟨String.ofList field, some (String.ofList transform)⟩

end ConditionKey

end TagRules
