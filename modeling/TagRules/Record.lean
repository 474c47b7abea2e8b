import TagRules.Assoc
import TagRules.Value

/-!
# Records

A record is a finite map from field names to values, its fields listed in the order of their
names. The field `tags` holds the tag list.

* `Record.ext_get?`: records with the same fields are equal.
* `Record.get?_insert`: what writing a field does to the fields.
* `Record.tags`, `Record.withTags`: reading and replacing the tag list.
-/

namespace TagRules

/-- The field that holds the tag list. -/
def tagsField : String := "tags"

/-- A record. -/
structure Record where
  /-- The fields with their values, in the order of the names. -/
  fields : List (String × Value)
  /-- Each field is listed once, in order. -/
  ascending : Assoc.Ascending fields
deriving DecidableEq

namespace Record

/-- The record without fields. -/
def empty : Record := ⟨[], .nil⟩

instance : Inhabited Record := ⟨empty⟩

/-- The value of a field, if the record has the field. -/
def get? (r : Record) (field : String) : Option Value := r.fields.lookup field

/-- The value of a field. A missing field reads as null. -/
def get (r : Record) (field : String) : Value := (r.get? field).getD .null

/-- Whether the record has a field, even one that holds null. -/
def contains (r : Record) (field : String) : Bool := (r.get? field).isSome

/-- Writes a field. -/
def insert (r : Record) (field : String) (v : Value) : Record :=
  ⟨Assoc.insert field v r.fields, Assoc.ascending_insert r.ascending⟩

/-- The texts in the tag list, in its order; none if the field holds no list. -/
def tags (r : Record) : List String := (r.get tagsField).strings

/-- Whether a tag is in the tag list. -/
def hasTag (r : Record) (tag : String) : Bool := r.tags.contains tag

/-- Replaces the tag list. -/
def withTags (r : Record) (tags : List String) : Record := r.insert tagsField (.ofStrings tags)

/-- **Records with the same fields are equal.** -/
theorem ext_get? {r s : Record} (h : ∀ field, r.get? field = s.get? field) : r = s := by
  obtain ⟨fs, hf⟩ := r
  obtain ⟨gs, hg⟩ := s
  have : fs = gs := Assoc.ext_lookup hf hg h
  subst this
  rfl

theorem get?_insert (r : Record) (field g : String) (v : Value) :
    (r.insert field v).get? g = if g = field then some v else r.get? g :=
  Assoc.lookup_insert field g v r.fields

end Record

end TagRules
