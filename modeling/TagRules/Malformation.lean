import TagRules.Calendar.Written
import TagRules.Json.Writer

/-!
# Malformed rules

What can be wrong with the form of a rule, of a tag, of a registered key or of a stored rule. The
wording of every fault is in `Malformation.message`.
-/

namespace TagRules

/-- What is wrong with the form of something. -/
inductive Malformation where
  /-- A condition names no field. -/
  | emptyField
  /-- A field name holds the separator of condition keys. -/
  | dottedField (field : String)
  /-- A field name is the key of custom rules. -/
  | reservedField
  /-- A transform name is empty or holds the separator of condition keys. -/
  | transformName (field : String)
  /-- A condition names no comparator. -/
  | noComparator (field : String)
  /-- A conjunction is empty. -/
  | emptyConjunction
  /-- A disjunction is empty. -/
  | emptyDisjunction
  /-- The key of a custom rule is empty. -/
  | emptyCustomKey
  /-- A registered key is empty or holds the separator of condition keys. -/
  | operatorKey (key : String)
  /-- A tag has no name. -/
  | emptyTagName
  /-- No records are given to a tag. -/
  | noRecordIds
  /-- A tag has fewer alternatives than asked for. -/
  | noSuchAlternative (tag : String) (index count : Nat)
  /-- A float has no form in a stored rule. -/
  | unstorableFloat (x : Binary64)
  /-- A stored rule is no list. -/
  | storedRule
  /-- A stored rule is empty. -/
  | noAlternatives
  /-- A stored alternative is no object. -/
  | storedAlternative (found : Json)
  /-- A stored alternative is empty. -/
  | noConditions
  /-- What is stored under a condition key is no object. -/
  | storedConditions (key : String)
  /-- Nothing is stored under a condition key. -/
  | noStoredComparator (key : String)
  /-- What is stored under a comparator is an empty list. -/
  | noStoredValues (key : String)
  /-- Custom rules are stored neither as a text nor as a list with items. -/
  | storedCustoms
  /-- A stored custom rule is no text, or an empty one. -/
  | storedCustom (found : Json)
  /-- A stored date cannot be read. -/
  | storedDate (text : String) (fault : DateFault)
  /-- A stored literal is an object, but no date. -/
  | storedLiteral (found : Json)

/-- The wording of a fault. -/
def Malformation.message : Malformation → String
  | .emptyField => "condition field name is empty"
  | .dottedField field => "field name '" ++ field ++ "' must not contain '.'"
  | .reservedField => "'custom' is reserved for custom rules"
  | .transformName field => "invalid transform name on field '" ++ field ++ "'"
  | .noComparator field => "condition on '" ++ field ++ "' has no comparator"
  | .emptyConjunction => "conjunction has no children"
  | .emptyDisjunction => "disjunction has no children"
  | .emptyCustomKey => "custom rule key is empty"
  | .operatorKey key => "operator key '" ++ key ++ "' must be non-empty and contain no '.'"
  | .emptyTagName => "tag name is empty"
  | .noRecordIds => "no record ids given"
  | .noSuchAlternative tag index count =>
    "tag '" ++ tag ++ "' has no alternative " ++ toString index ++
      " (it has " ++ toString count ++ ")"
  | .unstorableFloat x => "float literal " ++ Json.floatLayout.write x ++ " has no JSON form"
  | .storedRule => "rule json must be an array"
  | .noAlternatives => "rule json has no alternatives"
  | .storedAlternative found => "alternative must be an object, found " ++ found.write
  | .noConditions => "alternative has no conditions"
  | .storedConditions key => "conditions for '" ++ key ++ "' must be an object"
  | .noStoredComparator key => "no comparator for '" ++ key ++ "'"
  | .noStoredValues key => "empty value list for '" ++ key ++ "'"
  | .storedCustoms => "'custom' must be a string or a non-empty array of strings"
  | .storedCustom found => "invalid custom rule key " ++ found.write
  | .storedDate text fault => "invalid date '" ++ text ++ "': " ++ fault.message
  | .storedLiteral found => "unsupported literal object " ++ found.write

end TagRules
