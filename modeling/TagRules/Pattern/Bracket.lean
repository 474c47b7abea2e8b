import TagRules.Pattern.Escape

/-!
# Bracketed classes

A class in brackets lists characters, ranges and further classes. Two classes can be intersected,
subtracted or compared by an operator of two equal characters; all operators bind alike, to the
left, and weaker than the listing.

* `Bracket.read?`: reads a class and how deep it is nested.
-/

namespace TagRules.Pattern

/-- An operator between two classes. -/
inductive ClassOp where
  /-- The common members. -/
  | inter
  /-- The members of the left class only. -/
  | diff
  /-- The members of one class only. -/
  | symmDiff

/-- The operator that a character, written twice, stands for. -/
def ClassOp.ofChar? : Char → Option ClassOp
  | '&' => some .inter
  | '-' => some .diff
  | '~' => some .symmDiff
  | _ => none

/-- The result of an operator. -/
def ClassOp.apply (f : Flags) (s t : CharSet) : ClassOp → CharSet
  | .inter => (f.fold s).inter (f.fold t)
  | .diff => (f.fold s).diff (f.fold t)
  | .symmDiff => (f.fold s).symmDiff (f.fold t)

/-- A class and the depth of its nesting. -/
structure Nested where
  /-- The class. -/
  members : CharSet
  /-- How deep it is nested. -/
  depth : Nat

/-- A class that is not yet complete. -/
structure Bracket where
  /-- Whether the class is to be negated. -/
  negated : Bool
  /-- The class and the operator before the listing under way, if there was an operator. -/
  left : Option (Nested × ClassOp)
  /-- The listing under way, in reverse order. -/
  items : List Nested

namespace Bracket

/-- The class of the listing under way. -/
def listing (b : Bracket) : Nested :=
  match b.items with
  | [] => ⟨.empty, 0⟩
  | [item] => ⟨.unions [item.members], item.depth⟩
  | items => ⟨.unions (items.map Nested.members), 1 + (items.map Nested.depth).foldl max 0⟩

/-- The class so far. -/
def total (f : Flags) (b : Bracket) : Nested :=
  match b.left with
  | none => b.listing
  | some (l, op) => ⟨op.apply f l.members b.listing.members, 1 + max l.depth b.listing.depth⟩

/-- Adds an item to the listing. -/
def push (b : Bracket) (item : Nested) : Bracket := { b with items := item :: b.items }

/-- The class, once it is complete. -/
def close? (f : Flags) (b : Bracket) : Option Nested :=
  let t := b.total f
  (f.close? b.negated t.members).map fun s => ⟨s, 1 + t.depth⟩

/-- Reads a hyphen or hyphens at the start of a listing, which stand for themselves. -/
def readHyphens (f : Flags) (b : Bracket) : Nat → List Char → Bracket × List Char
  | 0, cs => (b, cs)
  | fuel + 1, cs =>
    match cs with
    | '-' :: rest => readHyphens f (b.push ⟨.singleton '-', 0⟩) fuel (f.skip rest)
    | cs => (b, cs)

/-- Begins a class, after its opening bracket. A closing bracket that comes first stands for
itself. -/
def start? (f : Flags) (cs : List Char) : Option (Bracket × List Char) :=
  let (negated, cs) := match f.skip cs with
    | '^' :: cs => (true, f.skip cs)
    | cs => (false, cs)
  let (b, cs) := readHyphens f ⟨negated, none, []⟩ cs.length cs
  match cs with
  | [] => none
  | ']' :: rest =>
    if b.items.isEmpty then some (b.push ⟨.singleton ']', 0⟩, f.skip rest) else some (b, cs)
  | cs => some (b, cs)

/-- Reads a class of seven-bit characters with its name, after the opening bracket. -/
def readPosix? (f : Flags) (cs : List Char) : Option (Option CharSet × List Char) := do
  let cs ← match cs with
    | ':' :: cs => some cs
    | _ => none
  let (negated, cs) := match cs with
    | '^' :: cs => (true, cs)
    | cs => (false, cs)
  let (name, rest) := cs.span (· != ':')
  let rest ← match rest with
    | ':' :: ']' :: rest => some rest
    | _ => none
  let s ← CharSet.posix? (String.ofList name)
  return (f.close? negated s, rest)

/-- Reads one character, a class or a place of a listing. -/
def readAtom? (f : Flags) : List Char → Option (Atom × List Char)
  | [] => none
  | c :: cs => if c = '\\' then Atom.readEscape? f cs else some (.literal c false, cs)

/-- The character that a listing holds. Without the characters beyond seven bits, it is none of
them. -/
def character? (f : Flags) (c : Char) : Option Char :=
  if f.unicode || c.toNat < 0x80 then some c else none

/-- Reads an item of a listing: a character, a class or a range of characters. -/
def readItem? (f : Flags) (cs : List Char) : Option (CharSet × List Char) := do
  let (first, rest) ← readAtom? f cs
  let rest := f.skip rest
  let single : Option (CharSet × List Char) := match first with
    | .literal c _ => (character? f c).map fun c => (.singleton c, rest)
    | .group s => some (s, rest)
    | .place _ => none
  match rest with
  | [] => none
  | '-' :: after =>
    -- A hyphen before the closing bracket stands for itself, and two are an operator.
    if f.peek? after = some ']' ∨ f.peek? after = some '-' then single
    else
      let (last, rest) ← readAtom? f (f.skip after)
      match first, last with
      | .literal a _, .literal b _ =>
        let a ← character? f a
        let b ← character? f b
        if a ≤ b then return (.range a.toNat b.toNat, rest) else none
      | _, _ => none
  | _ => single

/-- Reads a class up to its end. The classes that it is nested in come after it. -/
def readRest? (f : Flags) : Nat → Bracket → List Bracket → List Char → Option (Nested × List Char)
  | 0, _, _, _ => none
  | fuel + 1, b, outer, cs =>
    match f.skip cs with
    | [] => none
    | '[' :: cs =>
      match readPosix? f cs with
      | some (s?, rest) => do readRest? f fuel (b.push ⟨← s?, 0⟩) outer rest
      | none => do
        let (inner, rest) ← start? f cs
        readRest? f fuel inner (b :: outer) rest
    | ']' :: cs => do
      let s ← b.close? f
      match outer with
      | [] => return (s, cs)
      | b :: outer => readRest? f fuel (b.push s) outer cs
    | c :: cs =>
      match if cs.head? = some c then ClassOp.ofChar? c else none with
      | some op =>
        readRest? f fuel { b with left := some (b.total f, op), items := [] } outer cs.tail
      | none => do
        let (s, rest) ← readItem? f (c :: cs)
        readRest? f fuel (b.push ⟨s, 0⟩) outer rest

/-- Reads a class, after its opening bracket. -/
def read? (f : Flags) (cs : List Char) : Option (Nested × List Char) := do
  let (b, rest) ← start? f cs
  readRest? f (cs.length + 1) b [] rest

end Bracket

end TagRules.Pattern
