import TagRules.Pattern.Basic
import TagRules.Pattern.Graph

/-!
# Storage of patterns

A pattern is followed along two graphs, one that reads texts from their start and one that reads
them from their end. Both have to fit the limit of storage, so that very long repetitions are
refused.

* `Pattern.layout`: how a pattern is laid out.
* `Pattern.fits`: whether both graphs of a pattern fit the limit.
-/

namespace TagRules.Pattern

namespace Layout

/-- Some states in a row. -/
def row (n : Nat) : Layout := fun s => (s.add? n 0).map (·, false)

/-- A part and then another one. -/
def andThen (f g : Layout) : Layout := fun s => do
  let (s, fork) ← f s
  let (s, fork') ← g s
  return (← s.leave? fork, fork')

/-- Further copies of a part, after a part that ends in a fork or not. -/
def copies (f : Layout) : Nat → Storage → Bool → Option (Storage × Bool)
  | 0, s, fork => some (s, fork)
  | n + 1, s, fork =>
    match f s with
    | none => none
    | some (s, fork') =>
      match s.leave? fork with
      | none => none
      | some s => copies f n s fork'

/-- A part so many times. -/
def exactly (f : Layout) : Nat → Layout
  | 0 => row 1
  | n + 1 => fun s => do
    let (s, fork) ← f s
    copies f n s fork

/-- Further copies of a part, each of which may be the first that is left out. -/
def options (f : Layout) : Nat → Storage → Bool → Option (Storage × Bool)
  | 0, s, fork => some (s, fork)
  | n + 1, s, fork =>
    match s.add? 1 (2 * Storage.linkSize) with
    | none => none
    | some s =>
      match f s with
      | none => none
      | some (s, fork') =>
        match s.leave? fork with
        | none => none
        | some s => options f n s fork'

/-- A part between two numbers of times. -/
def between (f : Layout) (least most : Nat) : Layout := fun s => do
  let (s, fork) ← exactly f least s
  if most ≤ least then return (s, fork)
  let s ← s.add? 1 0
  let (s, fork) ← options f (most - least) s fork
  return (← s.leave? fork, false)

/-- A part or nothing. -/
def optional (f : Layout) : Layout := fun s => do
  let (s, fork) ← f (← s.add? 1 (2 * Storage.linkSize))
  return (← (← s.add? 1 0).leave? fork, false)

/-- A part any number of times. If it matches some characters each time, one fork at which it may
begin again is enough. -/
def anyTimes (f : Layout) (consumes : Bool) : Layout := fun s => do
  if consumes then
    let (s, fork) ← f (← s.add? 1 Storage.linkSize)
    return (← s.leave? fork, true)
  else
    let (s, fork) ← f s
    return (← (← s.add? 3 (4 * Storage.linkSize)).leave? fork, false)

/-- A part, and then a fork at which it may begin again. -/
def andAgain (f : Layout) : Layout := fun s => do
  let (s, fork) ← f s
  return (← (← s.add? 1 Storage.linkSize).leave? fork, true)

/-- A part a number of times or more often. -/
def atLeast (f : Layout) (consumes : Bool) : Nat → Layout
  | 0 => anyTimes f consumes
  | 1 => andAgain f
  | n + 2 => andThen (exactly f (n + 1)) (andAgain f)

/-- The branches of a choice, after its fork and its end. -/
def branches : List Layout → Storage → Option Storage
  | [], s => some s
  | f :: fs, s => do
    let (s, fork) ← f s
    let s ← s.add? 0 Storage.linkSize
    branches fs (← s.leave? fork)

/-- A choice. Its fork and its end are laid out after the first two branches. -/
def choice : List Layout → Layout
  | [] => row 1
  | [f] => f
  | f :: g :: fs => fun s => do
    let (s, fork) ← f s
    let (s, fork') ← g s
    let s ← s.add? 2 (2 * Storage.linkSize)
    let s ← (← s.leave? fork).leave? fork'
    return (← branches fs s, false)

/-- A group. Only a graph that reads forward keeps where a group begins and ends. -/
def group (d : Direction) (f : Layout) : Layout := fun s =>
  match d with
  | .forward => do
    let (s, fork) ← f (← s.add? 1 0)
    return (← (← s.add? 1 0).leave? fork, false)
  | .backward => f s

end Layout

/-! ## Choices of texts

Texts to choose from are laid out as a tree of their bytes. The texts keep their order: where one of
them ends, the bytes of those before it and of those after it are kept in states of their own. -/

/-- Splits texts where one ends. A text that ends where others ended before any went on says nothing
new. -/
def splitEnds : List (List Nat) → List (List (List Nat))
  | words =>
    let begun := if words.head? = some [] then [] :: words.dropWhile List.isEmpty else words
    begun.splitOnP List.isEmpty

/-- The first bytes of texts, each once. -/
def firstBytes (words : List (List Nat)) : List Nat := (words.filterMap List.head?).eraseDups

/-- The texts that go on after a byte. -/
def after (byte : Nat) (words : List (List Nat)) : List (List Nat) :=
  words.filterMap fun
    | b :: rest => if b = byte then some rest else none
    | [] => none

/-- The states of the tree of some texts and the bytes of their steps and links. The tree is at most
`depth` bytes deep. -/
def treeSize : Nat → List (List Nat) → Nat × Nat
  | 0, _ => (0, 0)
  | depth + 1, words =>
    if words.all List.isEmpty then (0, 0)
    else
      let parts := splitEnds words
      let begun := parts.filter fun part => !part.isEmpty
      let links := begun.length + (parts.length - 1)
      begun.foldl (fun size part =>
        let bytes := firstBytes part
        let steps := if bytes.length = 1 then 0 else Storage.stepSize * bytes.length
        bytes.foldl (fun size byte =>
            let below := treeSize depth (after byte part)
            (size.1 + below.1, size.2 + below.2))
          (size.1 + 1, size.2 + steps))
        (1, Storage.linkSize * links)

/-- A choice of texts, given by their bytes. -/
def Layout.texts (words : List (List Nat)) : Layout :=
  let (states, bytes) := treeSize (1 + (words.map List.length).foldl max 0) words
  fun s => (s.add? (states + 1) bytes).map (·, false)

/-! ## Patterns -/

/-- The bytes of a text in the order in which they are read. -/
def textBytes (d : Direction) (cs : List Char) : List Nat :=
  let bytes := cs.flatMap fun c => utf8Bytes c.toNat
  match d with
  | .forward => bytes
  | .backward => bytes.reverse

/-- One branch of a choice: its bytes, if it is a text, and its layout. -/
abbrev Branch := Option (List Nat) × Layout

/-- The layout of a choice. -/
def Layout.ofBranches (branches : List Branch) : Layout :=
  match branches.mapM Prod.fst with
  | some (w :: w' :: words) => .texts (w :: w' :: words)
  | _ => .choice (branches.map Prod.snd)

/-- Some branches as one. -/
def Layout.branch : List Branch → Branch
  | [b] => b
  | bs => (none, .ofBranches bs)

/-- The branches of a pattern: those of a choice, and else the pattern by itself. -/
def layouts (d : Direction) : Pattern → List Branch
  | .empty | .place _ => [(none, .row 1)]
  | .text cs =>
    let bytes := textBytes d cs
    [(some bytes, .row bytes.length)]
  | .one s =>
    [(none, if s.below 0x80 then .anyByte s.ranges.length else .anyOf d s.byteRanges)]
  | .seq p q =>
    let f := Layout.ofBranches (layouts d p)
    let g := Layout.ofBranches (layouts d q)
    [(none, match d with
      | .forward => f.andThen g
      | .backward => g.andThen f)]
  | .alt p q => Layout.branch (layouts d p) :: layouts d q
  | .group _ p => [(none, .group d (.ofBranches (layouts d p)))]
  | .times p least most _ =>
    let f := Layout.ofBranches (layouts d p)
    let consumes := p.minLength.any (0 < ·)
    [(none, match most with
      | none => f.atLeast consumes least
      | some most => if least = 0 ∧ most = 1 then f.optional else f.between least most)]

/-- How a pattern is laid out. -/
def layout (d : Direction) (p : Pattern) : Layout := .ofBranches (layouts d p)

/-- Whether a pattern can be matched only at the place where the reading of a text begins. -/
def anchored (d : Direction) (p : Pattern) : Bool :=
  match d with
  | .forward => p.beginsAt .textStart
  | .backward => p.endsAt .textEnd

/-- The storage of the whole graph of a pattern. Before the pattern any characters may be read,
unless it is anchored. The whole match counts as a group, and a last state tells that there is
one. -/
def storage? (d : Direction) (p : Pattern) : Option Storage := do
  let s : Storage := {}
  let s ← if p.anchored d then s.add? 1 0
    else s.add? 3 (Storage.stepSize + 2 * Storage.linkSize)
  let (s, fork) ← Layout.group d (p.layout d) s
  (← s.add? 1 0).leave? fork

/-- Whether both graphs of a pattern fit the limit of storage. -/
def fits (p : Pattern) : Bool := (p.storage? .forward).isSome && (p.storage? .backward).isSome

end TagRules.Pattern
