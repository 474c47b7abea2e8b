import TagRules.Text.ByteRange

/-!
# Storage of graphs of states

A pattern can be followed through a text byte by byte along a graph of states. Here a graph is laid
out only as far as its storage goes: what counts is how many states there are and how many bytes
they take, and that these do not exceed a limit.

* `Storage.add?`: takes storage, if there is any left.
* `Layout`: how a part of a graph is laid out.
* `Layout.anyOf`: one character of a set.
-/

namespace TagRules.Pattern

/-- The storage that a graph takes so far. -/
structure Storage where
  /-- How many states there are. They are numbered in the order in which they are laid out. -/
  states : Nat := 0
  /-- How many bytes they take. -/
  bytes : Nat := 0
deriving DecidableEq, Repr

namespace Storage

/-- The bytes that a graph may take. -/
def limit : Nat := 10 * 1024 * 1024

/-- The bytes of a state, without its steps and links. -/
def stateSize : Nat := 32

/-- The bytes of one of several steps on bytes that a state has. -/
def stepSize : Nat := 8

/-- The bytes of a link to another state, which no byte is read for. -/
def linkSize : Nat := 4

/-- Takes the storage of states with further bytes. -/
def add? (s : Storage) (states bytes : Nat) : Option Storage :=
  let t : Storage := ⟨s.states + states, s.bytes + stateSize * states + bytes⟩
  if limit < t.bytes then none else some t

/-- Takes the storage to go on from the end of a part. Only a fork, a state with links, takes
any. -/
def leave? (s : Storage) (fork : Bool) : Option Storage :=
  if fork then s.add? 0 linkSize else some s

end Storage

/-- How a part of a graph is laid out: the storage after it, and whether it ends in a fork. -/
abbrev Layout := Storage → Option (Storage × Bool)

/-- The direction in which a graph reads texts. -/
inductive Direction where
  /-- From their start. -/
  | forward
  /-- From their end. -/
  | backward
deriving DecidableEq, Repr

/-! ## Shared states

The states of a set of characters are shared where they would be alike. A state is looked up in a
table by its key; each key has one slot in the table, and a slot holds the last state only. -/

/-- A table with numbered slots, as a binary tree over the digits of the numbers. -/
inductive SlotTable (α : Type) where
  /-- No slot is filled. -/
  | empty
  /-- A filled slot. -/
  | slot (a : α)
  /-- The slots with even and with odd numbers. -/
  | node (even odd : SlotTable α)

namespace SlotTable

/-- The contents of a slot. -/
def get? {α : Type} : SlotTable α → Nat → Option α
  | .empty, _ => none
  | .slot a, _ => some a
  | .node even odd, n => if n % 2 = 0 then even.get? (n / 2) else odd.get? (n / 2)

/-- The slots with even and with odd numbers. -/
def halves {α : Type} : SlotTable α → SlotTable α × SlotTable α
  | .node even odd => (even, odd)
  | _ => (.empty, .empty)

/-- Fills the slot with a number of so many binary digits. -/
def insert {α : Type} (a : α) : Nat → Nat → SlotTable α → SlotTable α
  | 0, _, _ => .slot a
  | digits + 1, n, t =>
    let (even, odd) := t.halves
    if n % 2 = 0 then .node (insert a digits (n / 2) even) odd
    else .node even (insert a digits (n / 2) odd)

end SlotTable

/-- The states of a set so far. -/
structure Shared where
  /-- The storage of the whole graph. -/
  storage : Storage
  /-- The states with their keys. -/
  table : SlotTable (List Nat × Nat)

namespace Shared

/-- The slot of a key among so many slots: the numbers of the key are mixed one after the other. -/
def slotOf (slots : Nat) (key : List Nat) : Nat :=
  (key.foldl (fun (h : UInt64) n => (h ^^^ n.toUInt64) * 0x100000001B3) 0xCBF29CE484222325).toNat
    % slots

/-- The number of the state with a key. It is laid out now if it is not found. -/
def state? (slots bytes : Nat) (key : List Nat) (s : Shared) : Option (Nat × Shared) :=
  let n := slotOf slots key
  match s.table.get? n with
  | some (key', state) => if key' = key then some (state, s) else new n
  | none => new n
where
  /-- Lays the state out and fills its slot. -/
  new (n : Nat) : Option (Nat × Shared) := do
    let state := s.storage.states
    return (state, ⟨← s.storage.add? 1 bytes, s.table.insert (key, state) slots.log2.succ n⟩)

end Shared

/-! ## Sets of characters, forward

The sequences of ranges of bytes come in ascending order. The states for the sequence under way are
open as long as the next one may begin with the same ranges. -/

/-- An open state: its steps, the newest first, and the range of bytes that the next step is for. -/
structure OpenState where
  /-- The steps, each with its range of bytes and the state it leads to. -/
  steps : List (Nat × Nat × Nat)
  /-- The range of bytes whose step is not yet known to lead anywhere. -/
  range : Nat × Nat

namespace OpenState

/-- How many slots the table has for states that read forward. -/
def slots : Nat := 10000

/-- The steps of a state once the last one leads to the state with a number. -/
def allSteps (s : OpenState) (target : Nat) : List (Nat × Nat × Nat) :=
  (s.range.1, s.range.2, target) :: s.steps

/-- Lays open states out, from the last one on, which leads to the state with number `target`. -/
def close? (target : Nat) : List OpenState → Shared → Option (Nat × Shared)
  | [], shared => some (target, shared)
  | s :: rest, shared => do
    let (next, shared) ← close? target rest shared
    let steps := (s.allSteps next).reverse
    shared.state? slots (Storage.stepSize * steps.length)
      (steps.flatMap fun (lo, hi, next) => [lo, hi, next])

/-- Goes on with a sequence of ranges. The open states are kept as far as the sequence agrees with
the last one, and laid out from there on. -/
def extend? (target : Nat) :
    List (Nat × Nat) → List OpenState → Shared → Option (List OpenState × Shared)
  | [], path, shared => some (path, shared)
  | ranges, [], shared => some (ranges.map (⟨[], ·⟩), shared)
  | r :: ranges, s :: rest, shared =>
    if r = s.range then do
      let (rest, shared) ← extend? target ranges rest shared
      return (s :: rest, shared)
    else do
      let (next, shared) ← close? target rest shared
      return (⟨s.allSteps next, r⟩ :: ranges.map (⟨[], ·⟩), shared)

/-- Lays out the states for sequences of ranges. -/
def layOut? (target : Nat) : List (List (Nat × Nat)) → List OpenState → Shared → Option Shared
  | [], path, shared => (close? target path shared).map Prod.snd
  | ranges :: rest, path, shared => do
    let (path, shared) ← extend? target ranges path shared
    layOut? target rest path shared

end OpenState

/-! ## Sets of characters, backward

Every sequence of ranges has a chain of states of its own, which ends where another one does. -/

/-- How many slots the table has for states that read backward. -/
def backwardSlots : Nat := 1000

/-- Lays out the chain for a sequence of ranges, from the state with number `target` on. -/
def layOutChain? : List (Nat × Nat) → Nat → Shared → Option Shared
  | [], _, shared => some shared
  | (lo, hi) :: ranges, target, shared => do
    let (state, shared) ← shared.state? backwardSlots 0 [target, lo, hi]
    layOutChain? ranges state shared

/-- Lays out the chains for sequences of ranges. A fork leads to each of them. -/
def layOutChains? (target : Nat) : List (List (Nat × Nat)) → Shared → Option Shared
  | [], shared => some shared
  | ranges :: rest, shared => do
    let shared ← layOutChain? ranges target shared
    let storage ← shared.storage.add? 0 Storage.linkSize
    layOutChains? target rest { shared with storage }

namespace Layout

/-- A set of seven-bit characters: a state with a step for each range, and the state it leads to. -/
def anyByte (ranges : Nat) : Layout := fun s =>
  (s.add? 2 (Storage.stepSize * ranges)).map (·, false)

/-- The set of the characters with some sequences of ranges of bytes. -/
def anyOf (d : Direction) (sequences : List (List (Nat × Nat))) : Layout := fun s =>
  match d with
  | .forward => do
    let target := s.states
    let shared ← OpenState.layOut? target sequences [] ⟨← s.add? 1 0, .empty⟩
    return (shared.storage, false)
  | .backward => do
    let target := s.states + 1
    let shared ← layOutChains? target sequences ⟨← s.add? 2 0, .empty⟩
    return (shared.storage, false)

end Layout

end TagRules.Pattern
