import TagRules.Pattern.Basic

/-!
# Matching

Whether a pattern occurs in a text is decided without backtracking. A set of places is a list with
one truth value per place, and a pattern maps the places where it may begin to those where it may
then end. A repetition is followed until the set of places no longer changes.

* `Pattern.image`: the places where a pattern may end.
* `Pattern.occursIn`: whether the pattern matches some part of a text.
-/

namespace TagRules.Pattern

/-- The places of either set. -/
def join (m n : List Bool) : List Bool := List.zipWith or m n

/-- Applies a map several times, as long as it changes anything. -/
def iterate (f : List Bool → List Bool) : Nat → List Bool → List Bool
  | 0, m => m
  | n + 1, m =>
    let m' := f m
    if m' = m then m else iterate f n m'

/-- The places after one character of a kind, from one of the places of `m` on. -/
def advance (gaps : List Gap) (kind : Char → Bool) (m : List Bool) : List Bool :=
  (false :: List.zipWith (fun g b => b && g.after.any kind) gaps m).dropLast

/-- The places where a pattern may end that begins at one of the places of `m`. -/
def image (gaps : List Gap) : Pattern → List Bool → List Bool
  | .empty, m => m
  | .text cs, m => cs.foldl (fun m c => advance gaps (· == c) m) m
  | .one s, m => advance gaps s.contains m
  | .place p, m => List.zipWith (fun g b => b && p.holds g) gaps m
  | .seq p q, m => image gaps q (image gaps p m)
  | .alt p q, m => join (image gaps p m) (image gaps q m)
  | .group _ p, m => image gaps p m
  | .times p least most _, m =>
    -- More rounds than there are places change nothing.
    let rounds := gaps.length
    let further := match most with
      | some n => min (n - least) rounds
      | none => rounds
    let m := iterate (image gaps p) (min least rounds) m
    iterate (fun m => join m (image gaps p m)) further m

/-- Whether a pattern matches some part of a text. -/
def occursIn (p : Pattern) (s : String) : Bool :=
  let gaps := Gap.ofText none s.toList
  (image gaps p (gaps.map fun _ => true)).any id

end TagRules.Pattern
