import TagRules.Pattern.Bracket
import TagRules.Pattern.Compose
import TagRules.Pattern.Storage

/-!
# Reading patterns

A pattern is read from left to right. The state holds the flags in force, the parts of the group
under way and the groups around it.

* `Pattern.read?`: the pattern of a text, if the text is a regular expression, is not nested too
  deep and does not take too much storage.
-/

namespace TagRules.Pattern

/-- How deep a pattern may be nested. -/
def depthLimit : Nat := 250

/-- A part of a pattern. -/
structure Part where
  /-- The pattern. -/
  pattern : Pattern
  /-- How deep it is nested. -/
  depth : Nat
  /-- Whether it may be repeated, which flags by themselves may not. -/
  repeatable : Bool := true

/-- A group that is not yet complete. -/
structure Group where
  /-- The number of the group, if it has one. -/
  index : Option Nat
  /-- The flags in force before the group. -/
  outside : Flags
  /-- The alternatives before the one under way, in reverse order. -/
  alternatives : List Part
  /-- The parts of the alternative under way, in reverse order. -/
  parts : List Part

namespace Group

/-- The alternative under way. -/
def alternative (g : Group) : Part :=
  match g.parts with
  | [] => { pattern := .empty, depth := 0 }
  | [part] => part
  | parts =>
    { pattern := .sequence (parts.reverse.map Part.pattern)
      depth := 1 + (parts.map Part.depth).foldl max 0 }

/-- The contents of the group. -/
def total (g : Group) : Part :=
  match g.alternatives with
  | [] => g.alternative
  | alternatives =>
    let all := g.alternative :: alternatives
    { pattern := .choice (all.reverse.map Part.pattern)
      depth := 1 + (all.map Part.depth).foldl max 0 }

/-- Adds a part. -/
def push (g : Group) (part : Part) : Group := { g with parts := part :: g.parts }

/-- Ends an alternative and begins the next one. -/
def split (g : Group) : Group :=
  { g with alternatives := g.alternative :: g.alternatives, parts := [] }

/-- The whole group as a part of another one. -/
def part (g : Group) : Part :=
  let contents := g.total
  { pattern := match g.index with
      | some index => .group index contents.pattern
      | none => contents.pattern
    depth := 1 + contents.depth }

/-- Repeats the last part. -/
def repeatLast? (g : Group) (least : Nat) (most : Option Nat) (greedy : Bool) : Option Group :=
  match g.parts with
  | [] => none
  | part :: parts =>
    if part.repeatable then
      some { g with
        parts :=
          { pattern := part.pattern.repeated least most greedy, depth := 1 + part.depth } :: parts }
    else none

end Group

/-- What is read so far. -/
structure Progress where
  /-- The flags in force. -/
  flags : Flags
  /-- The group under way. -/
  current : Group
  /-- The groups around it, the innermost first. -/
  outer : List Group
  /-- How many groups with a number have begun. -/
  groups : Nat
  /-- The names of the groups. -/
  names : List String

/-- The pattern of a character, a class or a place. -/
def ofAtom? (f : Flags) : Atom → Option Pattern
  | .literal c byte =>
    if byte && !f.unicode && 0x80 ≤ c.toNat then none
    else some (.ofSet (f.fold (.singleton c)))
  | .group s => some (.ofSet s)
  | .place p => some (.place p)

/-- The place of an anchor at the start of a line. -/
def startAnchor (f : Flags) : Place :=
  if !f.multiLine then .textStart else if f.returns then .returnLineStart else .lineStart

/-- The place of an anchor at the end of a line. -/
def endAnchor (f : Flags) : Place :=
  if !f.multiLine then .textEnd else if f.returns then .returnLineEnd else .lineEnd

/-- Reads a number between blanks. -/
def readCount (f : Flags) (cs : List Char) : List Char × List Char :=
  go cs.length (cs.dropWhile Text.isBlank)
where
  /-- Reads at most `fuel` digits. -/
  go : Nat → List Char → List Char × List Char
    | 0, cs => ([], cs)
    | fuel + 1, cs =>
      match cs with
      | c :: rest =>
        if c.isDigit then
          let (digits, rest) := go fuel (f.skip rest)
          (c :: digits, rest)
        else ([], f.skip (cs.dropWhile Text.isBlank))
      | [] => ([], [])

/-- The count of some digits, which has to fit 32 bits. -/
def count? (digits : List Char) : Option Nat :=
  let n := digits.foldl (fun n c => 10 * n + (c.toNat - '0'.toNat)) 0
  if digits.isEmpty || UInt32.size ≤ n then none else some n

/-- Reads the mark that turns the greed of a repetition around. Tells whether the repetition is
greedy. -/
def readGreed (f : Flags) : List Char → Bool × List Char
  | '?' :: cs => (f.reluctant, cs)
  | cs => (!f.reluctant, cs)

/-- Reads the counts of a repetition, after the opening brace. -/
def readCounts? (f : Flags) (cs : List Char) : Option (Nat × Option Nat × List Char) := do
  let (first, rest) := readCount f (f.skip cs)
  let least ← count? first
  match rest with
  | ',' :: rest =>
    match f.skip rest with
    | '\x7d' :: rest => return (least, none, f.skip rest)
    | rest =>
      let (second, rest) := readCount f rest
      let most ← count? second
      match rest with
      | '\x7d' :: rest =>
        if least ≤ most then return (least, some most, f.skip rest) else none
      | _ => none
  | '\x7d' :: rest => return (least, some least, f.skip rest)
  | _ => none

/-- Whether a character may stand in the name of a group. -/
def isNameChar (first : Bool) (c : Char) : Bool :=
  c = '_' || Text.alphabetic.contains c ||
    (!first && (c = '.' || c = '[' || c = ']' || Text.numeric.contains c))

/-- Reads the name of a group, with the angle bracket after it. -/
def readName? (cs : List Char) : Option (String × List Char) :=
  let (name, rest) := cs.span (· != '>')
  match name, rest with
  | c :: more, '>' :: rest =>
    if isNameChar true c && more.all (isNameChar false) then some (String.ofList name, rest)
    else none
  | _, _ => none

namespace Progress

/-- Adds a part. -/
def push (s : Progress) (p : Pattern) (depth : Nat) : Progress :=
  { s with current := s.current.push { pattern := p, depth } }

/-- Begins a group without a number, with flags of its own. -/
def enter (s : Progress) (f : Flags) : Progress :=
  { s with flags := f, current := ⟨none, s.flags, [], []⟩, outer := s.current :: s.outer }

/-- Begins a group with the next number. -/
def enterNumbered (s : Progress) : Progress :=
  { s with
    current := ⟨some (s.groups + 1), s.flags, [], []⟩
    outer := s.current :: s.outer
    groups := s.groups + 1 }

/-- Begins a group with a name, which no other group has. -/
def enterNamed? (s : Progress) (cs : List Char) : Option (Progress × List Char) := do
  let (name, rest) ← readName? cs
  if s.names.contains name then none
  return ({ s.enterNumbered with names := name :: s.names }, rest)

/-- Ends a group. -/
def leave? (s : Progress) : Option Progress :=
  match s.outer with
  | [] => none
  | g :: outer =>
    some { s with flags := s.current.outside, current := g.push s.current.part, outer }

/-- Reads what follows an opening parenthesis. There is no look around a place. -/
def readGroup? (s : Progress) (cs : List Char) : Option (Progress × List Char) :=
  match s.flags.skip cs with
  | '?' :: '=' :: _ | '?' :: '!' :: _ | '?' :: '<' :: '=' :: _ | '?' :: '<' :: '!' :: _ => none
  | '?' :: 'P' :: '<' :: cs | '?' :: '<' :: cs => s.enterNamed? cs
  | '?' :: cs => do
    let (f, mark, any, rest) ← s.flags.readGroup? cs
    if mark = ':' then return (s.enter f, rest)
    if !any then none
    let flagsOnly : Part := { pattern := .empty, depth := 0, repeatable := false }
    return ({ s with flags := f, current := s.current.push flagsOnly }, rest)
  | cs => some (s.enterNumbered, cs)

/-- Repeats the last part. -/
def repeatLast? (s : Progress) (least : Nat) (most : Option Nat) (cs : List Char) :
    Option (Progress × List Char) :=
  let (greedy, rest) := readGreed s.flags cs
  (s.current.repeatLast? least most greedy).map fun current => ({ s with current }, rest)

/-- Reads one part of a pattern. -/
def step? (s : Progress) (c : Char) (cs : List Char) : Option (Progress × List Char) :=
  if c = '(' then s.readGroup? cs
  else if c = ')' then s.leave?.map (·, cs)
  else if c = '|' then some ({ s with current := s.current.split }, cs)
  else if c = '[' then do
    let (s', rest) ← Bracket.read? s.flags cs
    return (s.push (.ofSet s'.members) s'.depth, rest)
  else if c = '?' then s.repeatLast? 0 (some 1) cs
  else if c = '*' then s.repeatLast? 0 none cs
  else if c = '+' then s.repeatLast? 1 none cs
  else if c = '\x7b' then do
    let (least, most, rest) ← readCounts? s.flags cs
    s.repeatLast? least most rest
  else if c = '\\' then do
    let (a, rest) ← Atom.readEscape? s.flags cs
    return (s.push (← ofAtom? s.flags a) 0, rest)
  else if c = '.' then do return (s.push (.ofSet (← s.flags.dot?)) 0, cs)
  else if c = '^' then some (s.push (.place (startAnchor s.flags)) 0, cs)
  else if c = '$' then some (s.push (.place (endAnchor s.flags)) 0, cs)
  else do return (s.push (← ofAtom? s.flags (.literal c false)) 0, cs)

/-- Reads at most `fuel` parts, to the end of the text. -/
def run? : Nat → Progress → List Char → Option Progress
  | 0, _, _ => none
  | fuel + 1, s, cs =>
    match s.flags.skip cs with
    | [] => some s
    | c :: cs => do
      let (s, rest) ← s.step? c cs
      run? fuel s rest

end Progress

/-- The pattern of a text, if it is a regular expression. -/
def read? (s : String) : Option Pattern := do
  let cs := s.toList
  let state ← Progress.run? (cs.length + 1) ⟨{}, ⟨none, {}, [], []⟩, [], 0, []⟩ cs
  if !state.outer.isEmpty then none
  let part := state.current.total
  if depthLimit < part.depth || !part.pattern.fits then none
  return part.pattern

end TagRules.Pattern
