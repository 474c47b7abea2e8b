import TagRules.Pattern.Named
import TagRules.Text.Case

/-!
# Flags of patterns

Flags change how the part of a pattern that follows them is read.

* `Flags.readGroup?`: the flags that are written at the start of a group.
* `Flags.skip`: what is ignored between the parts of a pattern.
* `Flags.close?`: a set of characters as the flags want it.
-/

namespace TagRules.Pattern

/-- How a pattern is read. -/
structure Flags where
  /-- Characters match without regard to case. -/
  caseless : Bool := false
  /-- Line ends are places for anchors. -/
  multiLine : Bool := false
  /-- The point matches line ends as well. -/
  dotAll : Bool := false
  /-- A carriage return is a line end as well. -/
  returns : Bool := false
  /-- Classes hold characters beyond those of seven bits. -/
  unicode : Bool := true
  /-- Blanks and comments in the pattern are ignored. -/
  verbose : Bool := false
  /-- Repetitions are reluctant unless they are marked, and greedy if they are. -/
  reluctant : Bool := false
deriving DecidableEq, Repr

namespace Flags

/-- Sets the flag of a letter. -/
def set? (f : Flags) (value : Bool) : Char → Option Flags
  | 'i' => some { f with caseless := value }
  | 'm' => some { f with multiLine := value }
  | 's' => some { f with dotAll := value }
  | 'R' => some { f with returns := value }
  | 'u' => some { f with unicode := value }
  | 'x' => some { f with verbose := value }
  | 'U' => some { f with reluctant := value }
  | _ => none

/-- Sets the flags of some letters. A hyphen before letters negates them; no letter and no hyphen
may be there twice, and a hyphen may not come last. -/
def setAll? (f : Flags) (value : Bool) (seen : List Char) : List Char → Option Flags
  | [] => if seen.head? = some '-' then none else some f
  | c :: cs =>
    if seen.contains c then none
    else if c = '-' then setAll? f false ('-' :: seen) cs
    else (f.set? value c).bind fun f => setAll? f value (c :: seen) cs

/-- Reads the flags at the start of a group, up to the colon or the parenthesis after them. Gives
the flags, that character, whether there were any flags, and the rest. -/
def readGroup? (f : Flags) (cs : List Char) : Option (Flags × Char × Bool × List Char) :=
  let (letters, rest) := cs.span fun c => c != ':' && c != ')'
  match rest with
  | [] => none
  | c :: rest => (f.setAll? true [] letters).map fun f => (f, c, !letters.isEmpty, rest)

/-- Drops blanks and comments. A comment begins with a number sign and ends with the line. -/
def dropIgnored (inComment : Bool) : List Char → List Char
  | [] => []
  | c :: cs =>
    if inComment then dropIgnored (c != '\n') cs
    else if Text.isBlank c then dropIgnored false cs
    else if c = '#' then dropIgnored true cs
    else c :: cs

/-- Drops blanks and comments, if they are to be ignored. -/
def skip (f : Flags) (cs : List Char) : List Char := if f.verbose then dropIgnored false cs else cs

/-- The character that is next after one of a class, as it is looked up before the rest is read: a
comment is taken for its contents there. -/
def peek? (f : Flags) (cs : List Char) : Option Char :=
  if !f.verbose then cs.head?
  else
    let cs' := match cs.dropWhile Text.isBlank with
      | '#' :: rest => rest.dropWhile Text.isBlank
      | rest => rest
    cs'.head?

/-- A set of characters, with those that differ from a member in case only if case does not
matter. -/
def fold (f : Flags) (s : CharSet) : CharSet :=
  if !f.caseless then s else if f.unicode then s.foldCase else s.foldAsciiCase

/-- A set of characters, or those outside of it. Without the characters beyond seven bits, none of
them may be in the result. -/
def close? (f : Flags) (negated : Bool) (s : CharSet) : Option CharSet :=
  let s := if negated then (f.fold s).compl else f.fold s
  if f.unicode || s.below 0x80 then some s else none

/-- The characters of words. -/
def word (f : Flags) : CharSet :=
  if f.unicode then Unicode.wordCharacter else (CharSet.posix? "word").getD .empty

/-- The characters that a point matches. -/
def dot? (f : Flags) : Option CharSet :=
  let lineEnds : CharSet :=
    if f.dotAll then .empty
    else if f.returns then .union (.singleton '\n') (.singleton '\r')
    else .singleton '\n'
  if f.unicode then some lineEnds.compl else none

end Flags

end TagRules.Pattern
