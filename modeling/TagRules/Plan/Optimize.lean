import TagRules.Plan.Node
import TagRules.Plan.Options

/-!
# Optimising the nodes

The nodes are visited once, in an order in which each comes after the nodes that it reads. A node
that computes what another column already holds is dropped, and those that read it read the other
column. Applications are always kept. A condition on the tag list is only merged with one of the
same level: at different levels it reads different tag lists.

* `Optimize.step`: visits a node.
* `Optimize.run`: the nodes that are kept.
-/

namespace TagRules.Optimize

/-- What is left of the nodes so far. -/
structure State where
  /-- For each column whose node was dropped, the column that holds the same. -/
  redirects : List (Alias × Alias)
  /-- The nodes that are kept. -/
  kept : List PlanNode

namespace State

/-- The column that is read in the place of another one. -/
def target (s : State) (a : Alias) : Alias := (s.redirects.lookup a).getD a

/-- Drops a node whose column another one holds. -/
def drop (s : State) (a target : Alias) : State :=
  { s with redirects := (a, target) :: s.redirects }

/-- Whether a node computes the same as another one. -/
def isSame (n m : PlanNode) : Bool :=
  n.op = m.op && (n.kind ≠ .tagReference || n.level = m.level)

/-- The place of a kept node that computes the same as another node. -/
def twin? (s : State) (n : PlanNode) : Option Nat :=
  if n.kind = .application then none else s.kept.findIdx? (isSame n)

/-- Lets the node at a place run no later than at a level. -/
def advance (s : State) (i level : Nat) : State :=
  { s with kept := s.kept.modify i fun n => { n with level := min n.level level } }

/-- The column of the node at a place. -/
def columnAt (s : State) (i : Nat) : Alias := ((s.kept[i]?).map PlanNode.column).getD 0

end State

/-- Keeps a node, or merges it with a kept one. -/
def keep (options : PlannerOptions) (s : State) (n : PlanNode) : State :=
  match if options.deduplicate then s.twin? n else none with
  | some i => (s.advance i n.level).drop n.column (s.columnAt i)
  | none => { s with kept := s.kept ++ [n] }

/-- Visits a node. -/
def step (options : PlannerOptions) (s : State) (n : PlanNode) : State :=
  let n := { n with op := n.op.redirect s.target }
  match if options.collapseSingleChild then n.op.onlyChild? else none with
  | some child => s.drop n.column child
  | none => keep options s n

/-- The nodes that are kept. -/
def run (options : PlannerOptions) (nodes : List PlanNode) : List PlanNode :=
  (nodes.foldl (step options) ⟨[], []⟩).kept

end TagRules.Optimize
