import TagRules.Pattern.Basic

/-!
# Composing patterns

Patterns are put together in a plain form: parts that match only the empty text are left out,
neighbouring texts are joined, a choice among characters is a class, and what all the alternatives
of a choice begin with stands before the choice.

* `Pattern.ofSet`: one character of a set.
* `Pattern.repeated`: a pattern several times.
* `Pattern.sequence`: patterns one after the other.
* `Pattern.choice`: one of some patterns.
-/

namespace TagRules.Pattern

/-- One character of a set. A set with one member is a text. -/
def ofSet (s : CharSet) : Pattern :=
  match s.ranges with
  | [(a, b)] => if a = b then .text [Char.ofNat a] else .one s
  | _ => .one s

/-- A pattern several times. What matches no character is needed once at most. -/
def repeated (p : Pattern) (least : Nat) (most : Option Nat) (greedy : Bool) : Pattern :=
  let (least, most) :=
    if p.consumes then (least, most) else (min least 1, some (min (most.getD 1) 1))
  if most = some 0 then .empty
  else if least = 1 ∧ most = some 1 then p
  else .times p least most greedy

/-! ## Sequences -/

/-- The parts of a sequence, without empty ones. -/
def factors : Pattern → List Pattern
  | .empty => []
  | .seq p q => p.factors ++ q.factors
  | p => [p]

/-- Joins texts that are neighbours. -/
def joinTexts : List Pattern → List Pattern
  | [] => []
  | .text cs :: ps =>
    match joinTexts ps with
    | .text ds :: qs => .text (cs ++ ds) :: qs
    | qs => .text cs :: qs
  | p :: ps => p :: joinTexts ps

/-- Parts one after the other, as they are. -/
def chain : List Pattern → Pattern
  | [] => .empty
  | [p] => p
  | p :: ps => .seq p (chain ps)

/-- Patterns one after the other. -/
def sequence (ps : List Pattern) : Pattern := chain (joinTexts (ps.flatMap factors))

/-! ## Choices -/

/-- The alternatives of a choice. -/
def alternatives : Pattern → List Pattern
  | .alt p q => p.alternatives ++ q.alternatives
  | p => [p]

/-- One of some alternatives, as they are. -/
def select : List Pattern → Pattern
  | [] => .one .empty
  | [p] => p
  | p :: ps => .alt p (select ps)

/-- The set of a text of one character. -/
def character? : Pattern → Option CharSet
  | .text [c] => some (.singleton c)
  | _ => none

/-- The set of a class. -/
def class? : Pattern → Option CharSet
  | .one s => some s
  | _ => none

/-- The parts of a sequence of several parts. -/
def severalFactors? : Pattern → Option (List Pattern)
  | .seq p q => some (factors (.seq p q))
  | _ => none

/-- What two lists begin with. -/
def commonStart : List Pattern → List Pattern → List Pattern
  | p :: ps, q :: qs => if p = q then p :: commonStart ps qs else []
  | _, _ => []

/-- What all lists begin with. -/
def commonStarts : List (List Pattern) → List Pattern
  | [] => []
  | ps :: rest => rest.foldl commonStart ps

/-- How many parts a pattern is built of. -/
def size : Pattern → Nat
  | .empty | .text _ | .one _ | .place _ => 1
  | .seq p q | .alt p q => p.size + q.size + 1
  | .group _ p | .times p _ _ _ => p.size + 1

/-- One of some patterns, brought into the plain form at most `fuel` times. -/
def choose : Nat → List Pattern → Pattern
  | 0, ps => select ps
  | fuel + 1, ps =>
    let ps := ps.flatMap alternatives
    match ps with
    | [p] => p
    | _ =>
      match (ps.mapM character?).or (ps.mapM class?) with
      | some sets => ofSet (.unions sets)
      | none =>
        match ps.mapM severalFactors? with
        | none => select ps
        | some lists =>
          let start := commonStarts lists
          if start.isEmpty then select ps
          else
            let rests := lists.map fun factors => sequence (factors.drop start.length)
            sequence (start ++ [choose fuel rests])

/-- One of some patterns. Each time the plain form is brought about, a start is split off, so that
the size of the patterns bounds how often this happens. -/
def choice (ps : List Pattern) : Pattern := choose (ps.foldl (fun n p => n + p.size) 1) ps

end TagRules.Pattern
