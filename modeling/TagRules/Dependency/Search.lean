/-!
# Depth-first search

A search follows the neighbours of nodes and lists every node when all of its neighbours are
listed. It ends with a circle when it comes back to a node whose neighbours are still being
visited.

* `Search.visit`: the search from one node.
* `Search.run`: the search from several nodes.
-/

namespace TagRules.Search

/-- Visits a node. `stack` holds the nodes on the way to it, the nearest first, and `done` the nodes
that are listed, the latest first. The result is the new list, or the circle that was found: it
starts and ends with the same node, and each of its nodes is a neighbour of the one after it. -/
def visit (neighbours : Nat → List Nat) : Nat → List Nat → List Nat → Nat →
    Except (List Nat) (List Nat)
  | fuel, stack, done, node =>
    if node ∈ done then .ok done
    else if node ∈ stack then .error (node :: stack.takeWhile (· ≠ node) ++ [node])
    else
      match fuel with
      | 0 => .ok done
      | fuel + 1 => do
        let done ← (neighbours node).foldlM (visit neighbours fuel (node :: stack)) done
        return node :: done

/-- Visits some nodes of a graph with `size` nodes. -/
def run (neighbours : Nat → List Nat) (size : Nat) (nodes : List Nat) :
    Except (List Nat) (List Nat) :=
  nodes.foldlM (visit neighbours (size + 1) []) []

end TagRules.Search
