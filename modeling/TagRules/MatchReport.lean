import TagRules.Resolved

/-!
# Match reports

A match report counts over many evaluations of one rule how often each node was true.

* `MatchReport.record`: counts one more evaluation.
* `MatchReport.neverMatched`: the nodes that were never true, in pre-order.
-/

namespace TagRules

/-- Counts over evaluations of one rule. -/
structure MatchReport where
  /-- The number of evaluations. -/
  evaluations : Nat
  /-- For each node that was evaluated, how often it was true. -/
  counts : List (List Nat × Nat)
deriving DecidableEq, Repr

namespace MatchReport

/-- The report on no evaluation. -/
def empty : MatchReport := ⟨0, []⟩

instance : Inhabited MatchReport := ⟨empty⟩

/-- Adds to the count of a node. -/
def addCount (path : List Nat) (n : Nat) : List (List Nat × Nat) → List (List Nat × Nat)
  | [] => [(path, n)]
  | (p, m) :: rest => if p = path then (p, m + n) :: rest else (p, m) :: addCount path n rest

/-- Counts one more evaluation. -/
def record (report : MatchReport) (e : Evaluation) : MatchReport :=
  ⟨report.evaluations + 1,
    e.observations.foldl (fun counts o => addCount o.path o.outcome.toNat counts) report.counts⟩

/-- How often a node was true. -/
def matchCount (report : MatchReport) (path : List Nat) : Nat := (report.counts.lookup path).getD 0

/-- The nodes of a rule that were evaluated and never true, in pre-order, which is the order of the
paths. -/
def neverMatched (report : MatchReport) (r : Rule) : List Rule :=
  let paths := (report.counts.filter (·.2 = 0)).map Prod.fst
  (paths.mergeSort fun p q => !q.lex p).filterMap r.atPath

/-- The written form of a report. -/
def render (report : MatchReport) : String :=
  toString report.evaluations ++ " evaluations, " ++ toString report.counts.length ++
    " nodes, root matched " ++ toString (report.matchCount [])

end MatchReport

end TagRules
