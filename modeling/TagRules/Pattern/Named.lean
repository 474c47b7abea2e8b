import TagRules.Unicode.Age
import TagRules.Unicode.Break
import TagRules.Unicode.Folding
import TagRules.Unicode.ScriptExtension
import TagRules.Unicode.Usage

/-!
# Named sets of characters

The sets that a pattern can name: general categories, scripts and properties, and the classes of
seven-bit characters. Names are compared without regard to case, blanks, hyphens and underscores.

* `CharSet.named?`: the set of a name, with or without the name of a property before it.
* `CharSet.posix?`: the classes of seven-bit characters.
-/

namespace TagRules.CharSet

open Unicode

/-- A name as it is compared. The letters `is` in front do not count, except in `isc`. -/
def looseName (cs : List Char) : List Char :=
  let strip (cs : List Char) : List Char :=
    (cs.filter fun c => c.toNat < 0x80 && c != ' ' && c != '-' && c != '_').map Char.toLower
  match cs with
  | a :: b :: rest =>
    if (a = 'i' ∨ a = 'I') ∧ (b = 's' ∨ b = 'S') then
      let rest := strip rest
      if rest = ['c'] then ['i', 's', 'c'] else rest
    else strip cs
  | _ => strip cs

/-- The properties, each with its names. -/
def properties : List (List String × CharSet) :=
  [(["alphabetic", "alpha"], alphabetic), (["lowercase", "lower"], lowercase),
    (["uppercase", "upper"], uppercase), (["whitespace", "wspace", "space"], whiteSpace),
    (["cased"], cased), (["caseignorable", "ci"], caseIgnorable),
    (["graphemeextend", "grext"], graphemeExtend), (["joincontrol", "joinc"], joinControl),
    (["hexdigit", "hex"], hexDigit), (["asciihexdigit", "ahex"], asciiHexDigit), (["dash"], dash),
    (["emoji"], emoji), (["emojipresentation", "epres"], emojiPresentation),
    (["extendedpictographic", "extpict"], extendedPictographic),
    (["ideographic", "ideo"], ideographic), (["math"], math),
    (["quotationmark", "qmark"], quotationMark), (["otheralphabetic", "oalpha"], otherAlphabetic),
    (["otherlowercase", "olower"], otherLowercase), (["otheruppercase", "oupper"], otherUppercase),
    (["othermath", "omath"], otherMath),
    (["othergraphemeextend", "ogrext"], otherGraphemeExtend)] ++ usageProperties

/-- The groups of general categories, each with its names. -/
def categoryGroups : List (List String × CharSet) :=
  [(["any"], full), (["assigned"], unassigned.compl), (["ascii"], range 0 0x7F),
    (["l", "letter"], letter),
    (["lc", "casedletter"], .unions [uppercaseLetter, lowercaseLetter, titlecaseLetter]),
    (["m", "mark", "combiningmark"], mark), (["n", "number"], number),
    (["p", "punctuation", "punct"], punctuation), (["s", "symbol"], symbol),
    (["z", "separator"], separator), (["c", "other"], other), (["cn", "unassigned"], unassigned),
    (["digit"], decimalNumber), (["cntrl"], control)]

/-- The set that has a name in a list. -/
def ofNames? (sets : List (List String × CharSet)) (name : String) : Option CharSet :=
  (sets.find? fun entry => entry.1.contains name).map Prod.snd

/-- The set that has a name in a list of sets with a short and a long name. -/
def ofTwoNames? (sets : List (String × String × CharSet)) (name : String) : Option CharSet :=
  (sets.find? fun entry => entry.1 = name || entry.2.1 = name).map (·.2.2)

/-- The script with a name, in a list of scripts. Two scripts have another short name. -/
def script? (sets : List (String × String × CharSet)) (name : String) : Option CharSet :=
  ofTwoNames? sets (if name = "qaac" then "copt" else if name = "qaai" then "zinh" else name)

/-- The general category with a name. -/
def category? (name : String) : Option CharSet :=
  (ofNames? categoryGroups name).or (ofTwoNames? categories name)

/-- The set with a name. A property goes before a category, and a category before a script. Three
names are always those of categories. -/
def plainNamed? (name : String) : Option CharSet :=
  let property := if name ∈ ["cf", "sc", "lc"] then none else ofNames? properties name
  (property.or (category? name)).or (script? scripts name)

/-- Splits a list of characters around the first place where a part stands. -/
def splitAround? (part : List Char) : List Char → Option (List Char × List Char)
  | [] => none
  | c :: cs =>
    if part.isPrefixOf (c :: cs) then some ([], (c :: cs).drop part.length)
    else (splitAround? part cs).map fun (a, b) => (c :: a, b)

/-- The set with the name of a value under the name of a property. -/
def valueNamed? (property value : String) : Option CharSet :=
  if property ∈ ["gc", "generalcategory"] then category? value
  else if property ∈ ["sc", "script"] then script? scripts value
  else if property ∈ ["scx", "scriptextensions"] then script? extendedScripts value
  else if property = "age" then age? value
  else if property ∈ ["gcb", "graphemeclusterbreak"] then ofNames? clusterBreaks value
  else if property ∈ ["wb", "wordbreak"] then ofNames? wordBreaks value
  else if property ∈ ["sb", "sentencebreak"] then ofNames? sentenceBreaks value
  else none

/-- The set with a name, or with the names of a property and a value, and whether the characters
outside of it are meant. -/
def named? (cs : List Char) : Option (CharSet × Bool) :=
  let loose (cs : List Char) : String := String.ofList (looseName cs)
  let marks := [(['!', '='], true), ([':'], false), (['='], false)]
  match marks.findSome? fun (mark, outside) => (splitAround? mark cs).map (·, outside) with
  | some ((property, value), outside) =>
    (valueNamed? (loose property) (loose value)).map (·, outside)
  | none => (plainNamed? (loose cs)).map (·, false)

/-- The classes of seven-bit characters. -/
def posix? : String → Option CharSet
  | "alnum" => some (ofHex "30-39 41-5A 61-7A")
  | "alpha" => some (ofHex "41-5A 61-7A")
  | "ascii" => some (ofHex "0-7F")
  | "blank" => some (ofHex "9 20")
  | "cntrl" => some (ofHex "0-1F 7F")
  | "digit" => some (ofHex "30-39")
  | "graph" => some (ofHex "21-7E")
  | "lower" => some (ofHex "61-7A")
  | "print" => some (ofHex "20-7E")
  | "punct" => some (ofHex "21-2F 3A-40 5B-60 7B-7E")
  | "space" => some (ofHex "9-D 20")
  | "upper" => some (ofHex "41-5A")
  | "word" => some (ofHex "30-39 41-5A 5F 61-7A")
  | "xdigit" => some (ofHex "30-39 41-46 61-66")
  | _ => none

end TagRules.CharSet
