import Mathlib.Data.List.Sort
import TagRules.Proofs.Dependency.Cycle

/-!
# The order in which cycles are listed

The enumeration tries the successors of a tag in the order of declaration, and so it lists the
cycles, told from their earliest declared member on, in lexicographic order. With `mem_indexCycles`
this says which list it is.

* `pairwise_cyclesFrom`: the cycles that go on from a path are in order.
* `pairwise_indexCycles`: so are all cycles.
-/

namespace TagRules.DependencyGraph

variable {g : DependencyGraph} {successors : Nat → List Nat} {start : Nat}

theorem pairwise_lookupIn_successorTable (i : Nat) :
    (lookupIn g.successorTable i).Pairwise (· < ·) := by
  by_cases hi : i < g.size
  · rw [lookupIn_successorTable g hi]
    exact List.pairwise_lt_range.filter _
  · have hnone : lookupIn g.successorTable i = [] := by
      simp [lookupIn, successorTable, Nat.le_of_not_lt hi]
    rw [hnone]
    exact List.Pairwise.nil

/-- What is listed goes on from the path. -/
theorem prefix_of_mem_cyclesFrom {cycle : List Nat} :
    ∀ {fuel : Nat} {free path : List Nat} {node : Nat},
      cycle ∈ cyclesFrom successors start fuel free path node → path.reverse <+: cycle := by
  intro fuel
  induction fuel with
  | zero =>
    intro free path node hc
    obtain ⟨next, -, hc⟩ := List.mem_flatMap.1 (cyclesFrom_zero .. ▸ hc)
    split at hc
    · rw [List.mem_singleton.1 hc]
    · cases hc
  | succ fuel ih =>
    intro free path node hc
    obtain ⟨next, -, hc⟩ := List.mem_flatMap.1 (cyclesFrom_succ .. ▸ hc)
    split at hc
    · rw [List.mem_singleton.1 hc]
    · split at hc
      · refine List.IsPrefix.trans ?_ (ih hc)
        rw [List.reverse_cons]
        exact List.prefix_append _ _
      · cases hc

/-- A path that is closed comes before those that go on. -/
theorem lt_of_prefix {path cycle : List Nat} {next : Nat}
    (h : (next :: path).reverse <+: cycle) : path.reverse < cycle := by
  obtain ⟨way, rfl⟩ := h
  have hlt : path.reverse ++ [] < path.reverse ++ next :: way :=
    List.append_left_lt (List.nil_lt_cons next way)
  simpa using hlt

/-- A path that goes on with a smaller number comes first. -/
theorem lt_of_prefix_of_lt {path cycle cycle' : List Nat} {next next' : Nat} (hlt : next < next')
    (h : (next :: path).reverse <+: cycle) (h' : (next' :: path).reverse <+: cycle') :
    cycle < cycle' := by
  obtain ⟨way, rfl⟩ := h
  obtain ⟨way', rfl⟩ := h'
  simp only [List.reverse_cons, List.append_assoc, List.singleton_append]
  exact List.append_left_lt (List.cons_lt_cons_iff.2 (.inl hlt))

/-- **The cycles that go on from a path are in order**, as the successors of its last node are, and
the path is closed before it goes on to nodes after `start`. -/
theorem pairwise_cyclesFrom (hsuccessors : ∀ i, (successors i).Pairwise (· < ·)) :
    ∀ {fuel : Nat} {free path : List Nat} {node : Nat}, (∀ x ∈ free, start < x) →
      (cyclesFrom successors start fuel free path node).Pairwise (· < ·) := by
  intro fuel
  induction fuel with
  | zero =>
    intro free path node _
    rw [cyclesFrom_zero, List.pairwise_flatMap]
    refine ⟨fun next _ => ?_, (hsuccessors node).imp fun {next next'} hlt x hx y hy => ?_⟩
    · split
      · exact List.pairwise_singleton _ _
      · exact List.Pairwise.nil
    · -- Only `start` closes the path, and there is one successor of this number at most.
      split at hx
      · split at hy
        · omega
        · cases hy
      · cases hx
  | succ fuel ih =>
    intro free path node hfree
    rw [cyclesFrom_succ, List.pairwise_flatMap]
    refine ⟨fun next _ => ?_, (hsuccessors node).imp fun {next next'} hlt x hx y hy => ?_⟩
    · split
      · exact List.pairwise_singleton _ _
      · split
        · exact ih fun x hx => hfree x (List.mem_of_mem_erase hx)
        · exact List.Pairwise.nil
    · -- A successor closes the path, or the cycle goes on with it, and then it is after `start`.
      have hgoes : ∀ {next cycle}, (cycle ∈ if next = start then [path.reverse]
          else if next ∈ free then
            cyclesFrom successors start fuel (free.erase next) (next :: path) next
          else []) → next = start ∧ cycle = path.reverse ∨
            start < next ∧ (next :: path).reverse <+: cycle := by
        intro next cycle hc
        split at hc
        · exact .inl ⟨‹_›, List.mem_singleton.1 hc⟩
        · split at hc
          · exact .inr ⟨hfree next ‹_›, prefix_of_mem_cyclesFrom hc⟩
          · cases hc
      rcases hgoes hx with ⟨hnext, rfl⟩ | ⟨hnext, hx⟩
      · rcases hgoes hy with ⟨hnext', -⟩ | ⟨-, hy⟩
        · omega
        · exact lt_of_prefix hy
      · rcases hgoes hy with ⟨hnext', -⟩ | ⟨-, hy⟩
        · omega
        · exact lt_of_prefix_of_lt hlt hx hy

/-- **The cycles are listed in lexicographic order**, each once. -/
theorem pairwise_indexCycles (g : DependencyGraph) : g.indexCycles.Pairwise (· < ·) := by
  rw [indexCycles, List.pairwise_flatMap]
  refine ⟨fun start _ => ?_, List.pairwise_lt_range.imp fun {start start'} hlt x hx y hy => ?_⟩
  · exact pairwise_cyclesFrom pairwise_lookupIn_successorTable fun x hx => by
      simpa using (List.mem_filter.1 hx).2
  · exact lt_of_prefix_of_lt hlt (prefix_of_mem_cyclesFrom hx) (prefix_of_mem_cyclesFrom hy)

end TagRules.DependencyGraph
