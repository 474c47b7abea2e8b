import TagRules.Tagging.Planned

/-!
# Queries

A rule picks records of a record set, and one tag can be brought up to date without a tag set.

* `RecordSet.index`: which records a rule matches.
* `RecordSet.filter`, `RecordSet.filterNegated`: the records that a rule matches, and the others.
* `RecordSet.tagWith`: the records with one tag brought up to date.
-/

namespace TagRules.RecordSet

/-- For each record, whether a rule matches it. -/
def index (records : RecordSet) (r : Rule) (reg : Registry) : Except TaggingError (List Bool) := do
  (reg.validate r).mapError .rule
  let p ← (reg.resolve r).mapError .eval
  (records.mapM fun record => p.evaluate record).mapError .eval

/-- The records that a rule matches. -/
def filter (records : RecordSet) (r : Rule) (reg : Registry) : Except TaggingError RecordSet := do
  return records.select (← records.index r reg)

/-- The records that a rule does not match. -/
def filterNegated (records : RecordSet) (r : Rule) (reg : Registry) :
    Except TaggingError RecordSet := do
  return records.select ((← records.index r reg).map not)

/-- The records with a tag added where its rule matches. If old tags are to be removed, the tag is
first taken from all records. -/
def tagWith (records : RecordSet) (t : Tag) (reg : Registry) (removeOldTags : Bool) :
    Except TaggingError RecordSet := do
  let lists := startLists records [t.name] removeOldTags
  let mask ← (records.withTagLists lists).index t.rule reg
  return records.withTagLists (addTags t.name mask lists)

end TagRules.RecordSet
