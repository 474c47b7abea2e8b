import TagRules.Json.Reader
import TagRules.Tag

/-!
# Tag sets

The tags of one run, in the order in which they are declared, with different names.

* `TagSet.ofTags`, `TagSet.ofRules`, `TagSet.ofStored`: the tag set of some tags, of names with
  rules, and of names with stored rules.
* `TagSet.validate`: whether a registry knows the keys of all tags.
-/

namespace TagRules

/-- Tags with different names. -/
structure TagSet where
  /-- The tags in the order of declaration. -/
  tags : List Tag
  /-- No two tags have the same name. -/
  nodup : (tags.map Tag.name).Nodup

namespace TagSet

/-- The names of the tags. -/
def names (s : TagSet) : List String := s.tags.map Tag.name

/-- The first name in a list that stands there a second time. -/
def firstRepeated? (seen : List String) : List String → Option String
  | [] => none
  | name :: rest => if name ∈ seen then some name else firstRepeated? (name :: seen) rest

theorem nodup_of_firstRepeated?_eq_none {seen names : List String}
    (h : firstRepeated? seen names = none) : names.Nodup ∧ ∀ n ∈ names, n ∉ seen := by
  induction names generalizing seen with
  | nil => simp
  | cons name rest ih =>
    unfold firstRepeated? at h
    split at h
    · contradiction
    · rename_i hn
      obtain ⟨h1, h2⟩ := ih h
      refine ⟨List.nodup_cons.2 ⟨fun hm => h2 name hm List.mem_cons_self, h1⟩, fun n hm => ?_⟩
      rcases List.mem_cons.1 hm with rfl | hm
      · exact hn
      · exact fun hs => h2 n hm (List.mem_cons_of_mem _ hs)

/-- The tag set of some tags, unless a name occurs twice. -/
def ofTags (tags : List Tag) : Except RuleError TagSet :=
  match h : firstRepeated? [] (tags.map Tag.name) with
  | some name => .error (.duplicateTag name)
  | none => .ok ⟨tags, (nodup_of_firstRepeated?_eq_none h).1⟩

/-- The tag set of names with rules. -/
def ofRules (rules : List (String × Rule)) : Except RuleError TagSet := do
  ofTags (← rules.mapM fun (name, r) => Tag.make name r)

/-- The tag of a name with the text of a stored rule. -/
def readTag (reg : Registry) (name text : String) : Except RuleError Tag :=
  match Json.read? text with
  | some j => Tag.ofJson name j reg
  | none => .error .notJson

/-- The tag set of names with the texts of stored rules. -/
def ofStored (entries : List (String × String)) (reg : Registry) : Except RuleError TagSet := do
  ofTags (← entries.mapM fun (name, text) => readTag reg name text)

/-- The tag with a name. -/
def get? (s : TagSet) (name : String) : Option Tag := s.tags.find? (·.name = name)

/-- The place of a name in the order of declaration. -/
def position? (s : TagSet) (name : String) : Option Nat := s.tags.findIdx? (·.name = name)

/-- Whether a tag has a name. -/
def contains (s : TagSet) (name : String) : Bool := (s.get? name).isSome

/-- Checks the keys of the tags, one after the other. -/
def validate (s : TagSet) (reg : Registry) : Except RuleError Unit :=
  s.tags.forM fun t => reg.validate t.rule

end TagSet

end TagRules
