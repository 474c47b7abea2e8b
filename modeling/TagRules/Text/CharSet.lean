/-!
# Sets of characters

A set of code points is a list of closed ranges, ascending and with a gap between neighbours. The
tables of character properties are written in this form, in hexadecimal.

* `CharSet.contains`: membership.
* `CharSet.union`, `CharSet.compl`, `CharSet.inter`, `CharSet.diff`, `CharSet.symmDiff`: the
  Boolean operations; each result is again in normal form.
* `CharSet.ofHex`: reads a table.
-/

namespace TagRules

/-- A set of code points, as ascending closed ranges with gaps between them. -/
structure CharSet where
  /-- The first and the last code point of each range. -/
  ranges : List (Nat × Nat)
deriving DecidableEq, Repr, Inhabited

namespace CharSet

/-- The greatest code point. -/
def lastCodePoint : Nat := 0x10FFFF

/-- The set without members. -/
def empty : CharSet := ⟨[]⟩

/-- The set of all code points. -/
def full : CharSet := ⟨[(0, lastCodePoint)]⟩

/-- Whether the code point `n` is a member. -/
def containsNat (s : CharSet) (n : Nat) : Bool := s.ranges.any fun (lo, hi) => lo ≤ n && n ≤ hi

/-- Whether `c` is a member. -/
def contains (s : CharSet) (c : Char) : Bool := s.containsNat c.toNat

/-- Puts ranges in ascending order and joins those that touch. -/
def ofRanges (ranges : List (Nat × Nat)) : CharSet :=
  ⟨((ranges.mergeSort fun a b => a.1 ≤ b.1).foldl push []).reverse⟩
where
  /-- Adds a range that starts no earlier than the last one; the newest range stands first. -/
  push : List (Nat × Nat) → Nat × Nat → List (Nat × Nat)
    | (a, b) :: rest, (c, d) => if c ≤ b + 1 then (a, max b d) :: rest else (c, d) :: (a, b) :: rest
    | [], r => [r]

/-- The code points from `lo` to `hi`. -/
def range (lo hi : Nat) : CharSet := if lo ≤ hi then ⟨[(lo, hi)]⟩ else empty

/-- The set whose only member is `c`. -/
def singleton (c : Char) : CharSet := range c.toNat c.toNat

/-- The members of either set. -/
def union (s t : CharSet) : CharSet := ofRanges (s.ranges ++ t.ranges)

/-- The members of any of the sets. -/
def unions (sets : List CharSet) : CharSet := ofRanges (sets.flatMap ranges)

/-- The next code point of a character. The surrogates are none. -/
def next (n : Nat) : Nat := if n = 0xD7FF then 0xE000 else n + 1

/-- The code point of the character before. The surrogates are none. -/
def prev (n : Nat) : Nat := if n = 0xE000 then 0xD7FF else n - 1

/-- The code points that are no members. Where nothing but surrogates lies between two ranges, the
characters at both sides of them stand for the gap. -/
def compl (s : CharSet) : CharSet :=
  match s.ranges with
  | [] => full
  | (a, b) :: rest => ⟨(if 0 < a then [(0, prev a)] else []) ++ gaps b rest⟩
where
  /-- The range from one end to the other. -/
  between (a b : Nat) : Nat × Nat := (min a b, max a b)
  /-- The gaps after the code point `last`. -/
  gaps (last : Nat) : List (Nat × Nat) → List (Nat × Nat)
    | [] => if last < lastCodePoint then [(next last, lastCodePoint)] else []
    | (a, b) :: rest => between (next last) (prev a) :: gaps b rest

/-- The common members. -/
def inter (s t : CharSet) : CharSet := ⟨go s.ranges t.ranges⟩
where
  /-- The common part of two lists of ranges. The range that ends first is done with. -/
  go : List (Nat × Nat) → List (Nat × Nat) → List (Nat × Nat)
    | [], _ | _, [] => []
    | (a, b) :: rs, (c, d) :: ts =>
      let common := if max a c ≤ min b d then [(max a c, min b d)] else []
      if b < d then common ++ go rs ((c, d) :: ts) else common ++ go ((a, b) :: rs) ts
  termination_by rs ts => rs.length + ts.length

/-- The members of `s` that are not in `t`. -/
def diff (s t : CharSet) : CharSet := ⟨go s.ranges t.ranges⟩
where
  /-- What is left of the first list of ranges without the second one. -/
  go : List (Nat × Nat) → List (Nat × Nat) → List (Nat × Nat)
    | [], _ => []
    | rs, [] => rs
    | (a, b) :: rs, (c, d) :: ts =>
      if d < a then go ((a, b) :: rs) ts
      else if b < c then (a, b) :: go rs ((c, d) :: ts)
      else
        let before := if a < c then [(a, prev c)] else []
        if d < b then before ++ go ((next d, b) :: rs) ts
        else before ++ go rs ((c, d) :: ts)
  termination_by rs ts => rs.length + ts.length

/-- The members of exactly one of the two sets. -/
def symmDiff (s t : CharSet) : CharSet := (s.union t).diff (s.inter t)

/-- Whether every member is below `bound`. -/
def below (s : CharSet) (bound : Nat) : Bool := s.ranges.all fun r => r.2 < bound

/-- The value of a hexadecimal numeral. -/
def hexValue (s : String) : Nat :=
  s.foldl (fun n c => 16 * n + digit c) 0
where
  /-- The value of a digit. -/
  digit (c : Char) : Nat :=
    if c.isDigit then c.toNat - '0'.toNat else c.toNat - 'A'.toNat + 10

/-- Reads a table: words with blanks between them, each a code point or a range `first-last`, in
hexadecimal with capital letters. -/
def ofHex (table : String) : CharSet :=
  ofRanges <| ((table.splitOn "\n").flatMap (·.splitOn " ")).filterMap fun word =>
    match word.splitOn "-" with
    | [a] => if a.isEmpty then none else some (hexValue a, hexValue a)
    | [a, b] => some (hexValue a, hexValue b)
    | _ => none

end CharSet

end TagRules
