import TagRules.Record

/-!
# Record sets

A list of records, one per row.

* `RecordSet.column`, `RecordSet.tagLists`: one field of every row.
* `RecordSet.select`: the rows that a mask keeps.
* `RecordSet.withTagLists`: every row with a new tag list.
-/

namespace TagRules

/-- Records in row order. -/
abbrev RecordSet := List Record

namespace RecordSet

/-- The values of a field, row by row. -/
def column (records : RecordSet) (field : String) : List Value := records.map (·.get field)

/-- The tag lists, row by row. -/
def tagLists (records : RecordSet) : List (List String) := records.map Record.tags

/-- The rows whose entry in the mask is true. Rows without an entry are dropped. -/
def select (records : RecordSet) (mask : List Bool) : RecordSet :=
  (records.zip mask).filterMap fun (r, keep) => if keep then some r else none

/-- The rows with new tag lists. -/
def withTagLists (records : RecordSet) (lists : List (List String)) : RecordSet :=
  List.zipWith Record.withTags records lists

end RecordSet

end TagRules
