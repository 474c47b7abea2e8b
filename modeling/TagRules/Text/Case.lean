import TagRules.Text.Property
import TagRules.Unicode.CaseTable

/-!
# Capital and small forms of a text

One character may become several, and the small form of a capital sigma depends on its place in
the word.

* `upper`: every character in its capital form.
* `lower`: every character in its small form, with a final sigma at the end of a word.
* `strip`: the text without the white space at its ends.
-/

namespace TagRules.Text

open Unicode (CaseRun capitalExpansions capitalRuns smallExpansions smallRuns whiteSpace)

/-- The image of a character under a table of expansions and runs. -/
def mapCase (expansions : List (Nat × List Nat)) (runs : List CaseRun) (c : Char) : List Char :=
  match expansions.lookup c.toNat with
  | some ns => ns.map Char.ofNat
  | none => [((runs.findSome? (·.image? c.toNat)).map Char.ofNat).getD c]

/-- The capital form of a character. -/
def capital (c : Char) : List Char :=
  if c.toNat < 0x80 then [c.toUpper] else mapCase capitalExpansions capitalRuns c

/-- The small form of a character outside a word. -/
def small (c : Char) : List Char :=
  if c.toNat < 0x80 then [c.toLower] else mapCase smallExpansions smallRuns c

/-- Whether the first character that counts for case is a cased one. -/
def meetsCased (cs : List Char) : Bool :=
  match cs.dropWhile caseIgnorable.contains with
  | c :: _ => cased.contains c
  | [] => false

/-- The small forms of a text, given the characters before it from the nearest on. -/
def lowerAfter (before : List Char) : List Char → List Char
  | [] => []
  | c :: rest =>
    let form :=
      if c = 'Σ' then
        -- A sigma is final when a cased letter stands before it and none after it.
        [if meetsCased before && !meetsCased rest then 'ς' else 'σ']
      else small c
    form ++ lowerAfter (c :: before) rest

/-- A text in capital letters. -/
def upper (s : String) : String := String.ofList (s.toList.flatMap capital)

/-- A text in small letters. -/
def lower (s : String) : String := String.ofList (lowerAfter [] s.toList)

/-- Whether a character is white space. -/
def isBlank (c : Char) : Bool :=
  if c.toNat < 0x80 then c == ' ' || ('\t' ≤ c && c ≤ '\r') else whiteSpace.contains c

/-- A text without the white space at its ends. -/
def strip (s : String) : String :=
  String.ofList (((s.toList.dropWhile isBlank).reverse.dropWhile isBlank).reverse)

end TagRules.Text
