import TagRules.Text.CharSet
import TagRules.Unicode.Property

/-!
# Patterns

Regular expressions over characters, with conditions on the place between two characters.

* `Place.holds`: whether a condition holds at a place.
* `Pattern.consumes`, `Pattern.minLength`: how long the texts are that a pattern matches.
* `Pattern.beginsAt`, `Pattern.endsAt`: whether a pattern matches only where a condition holds.
-/

namespace TagRules

/-- A place in a text: the characters before and after it. -/
structure Gap where
  /-- The character before the place; none at the start. -/
  before : Option Char
  /-- The character after the place; none at the end. -/
  after : Option Char

/-- The places of a text, given the character before it. -/
def Gap.ofText (before : Option Char) : List Char → List Gap
  | [] => [⟨before, none⟩]
  | c :: cs => ⟨before, some c⟩ :: Gap.ofText (some c) cs

/-- How a place lies to the words around it. -/
inductive WordPlace where
  /-- At one end of a word. -/
  | boundary
  /-- At no end of a word. -/
  | noBoundary
  /-- At the start of a word. -/
  | start
  /-- At the end of a word. -/
  | finish
  /-- After no word. -/
  | noneBefore
  /-- Before no word. -/
  | noneAfter
deriving DecidableEq, Repr

/-- A condition on a place. -/
inductive Place where
  /-- The start of the text. -/
  | textStart
  /-- The end of the text. -/
  | textEnd
  /-- The start of a line. -/
  | lineStart
  /-- The end of a line. -/
  | lineEnd
  /-- The start of a line, where a carriage return ends a line as well. -/
  | returnLineStart
  /-- The end of a line, where a carriage return ends a line as well. -/
  | returnLineEnd
  /-- A place at words, made of the given characters. -/
  | word (kind : WordPlace) (characters : CharSet)
deriving DecidableEq, Repr

/-- Whether a condition holds at a place. -/
def Place.holds (g : Gap) : Place → Bool
  | .textStart => g.before.isNone
  | .textEnd => g.after.isNone
  | .lineStart => g.before.all (· == '\n')
  | .lineEnd => g.after.all (· == '\n')
  | .returnLineStart => g.before.all fun c => c == '\n' || (c == '\r' && g.after != some '\n')
  | .returnLineEnd => g.after.all fun c => c == '\r' || (c == '\n' && g.before != some '\r')
  | .word kind characters =>
    let before := g.before.any characters.contains
    let after := g.after.any characters.contains
    match kind with
    | .boundary => before != after
    | .noBoundary => before == after
    | .start => !before && after
    | .finish => before && !after
    | .noneBefore => !before
    | .noneAfter => !after

/-- A regular expression. -/
inductive Pattern where
  /-- The empty text. -/
  | empty
  /-- A text. -/
  | text (cs : List Char)
  /-- One character of a set. -/
  | one (characters : CharSet)
  /-- No character, at a place with a condition. -/
  | place (condition : Place)
  /-- One pattern and then another one. -/
  | seq (p q : Pattern)
  /-- One of two patterns. -/
  | alt (p q : Pattern)
  /-- A group, with its number. -/
  | group (index : Nat) (p : Pattern)
  /-- A pattern several times: at least as often as the first number says, and at most as often as
  the second one says, if there is one. A greedy repetition prefers to go on. -/
  | times (p : Pattern) (least : Nat) (most : Option Nat) (greedy : Bool)
deriving DecidableEq, Repr, Inhabited

namespace Pattern

/-- Whether the pattern may match a text that is not empty. A class without members counts as one
that might. -/
def consumes : Pattern → Bool
  | .empty | .place _ => false
  | .text cs => !cs.isEmpty
  | .one _ => true
  | .seq p q | .alt p q => p.consumes || q.consumes
  | .group _ p => p.consumes
  | .times p _ most _ => p.consumes && most != some 0

/-- A length that every matching text has at least. It is not known if a part matches no text. -/
def minLength : Pattern → Option Nat
  | .empty | .place _ => some 0
  | .text cs => some cs.length
  | .one s => if s.ranges.isEmpty then none else some 1
  | .seq p q => do return (← p.minLength) + (← q.minLength)
  | .alt p q => do return min (← p.minLength) (← q.minLength)
  | .group _ p => p.minLength
  | .times p least _ _ => p.minLength.map (least * ·)

/-- Whether a match begins at a place where the condition holds, as far as the form of the pattern
shows it. -/
def beginsAt (condition : Place) : Pattern → Bool
  | .empty | .text _ | .one _ => false
  | .place c => c = condition
  | .seq p q => p.beginsAt condition || (!p.consumes && q.beginsAt condition)
  | .alt p q => p.beginsAt condition && q.beginsAt condition
  | .group _ p => p.beginsAt condition
  | .times p least _ _ => 0 < least && p.beginsAt condition

/-- Whether a match ends at a place where the condition holds, as far as the form of the pattern
shows it. -/
def endsAt (condition : Place) : Pattern → Bool
  | .empty | .text _ | .one _ => false
  | .place c => c = condition
  | .seq p q => q.endsAt condition || (!q.consumes && p.endsAt condition)
  | .alt p q => p.endsAt condition && q.endsAt condition
  | .group _ p => p.endsAt condition
  | .times p least _ _ => 0 < least && p.endsAt condition

end Pattern

end TagRules
