import Mathlib.Data.Fintype.EquivFin
import Mathlib.Data.Fintype.Order
import Mathlib.Data.Fintype.Pigeonhole
import Mathlib.Order.WellFounded

/-!
# Bounded paths in a finite graph

In a finite graph the paths from a node are bounded in length unless one of them is infinite, and an
infinite path runs through a cycle.  The bound is what a recursion along the edges uses as its fuel.
-/

namespace PathBounds

variable {ν : Type*} {edge : ν → ν → Prop}

/-- Every path from the node visits at most `bound` nodes, itself included. -/
def PathsWithin (edge : ν → ν → Prop) : Nat → ν → Prop
  | 0, _ => False
  | bound + 1, node => ∀ next, edge node next → PathsWithin edge bound next

theorem PathsWithin.succ {bound : Nat} {node : ν} (within : PathsWithin edge bound node) :
    PathsWithin edge (bound + 1) node := by
  induction bound generalizing node with
  | zero => exact within.elim
  | succ bound ih => exact fun next step => ih (within next step)

theorem PathsWithin.mono {bound wider : Nat} {node : ν} (within : PathsWithin edge bound node)
    (le : bound ≤ wider) : PathsWithin edge wider node := by
  induction le with
  | refl => exact within
  | step _ ih => exact ih.succ

/-- The bound counts the node itself. -/
theorem PathsWithin.exists_eq_succ {bound : Nat} {node : ν} (within : PathsWithin edge bound node) :
    ∃ smaller, bound = smaller + 1 := by
  cases bound with
  | zero => exact within.elim
  | succ smaller => exact ⟨smaller, rfl⟩

/-- Along an edge a node of the bound is spent. -/
theorem PathsWithin.next {bound : Nat} {node next : ν} (within : PathsWithin edge bound node)
    (step : edge node next) : ∃ smaller, bound = smaller + 1 ∧ PathsWithin edge smaller next := by
  obtain ⟨smaller, rfl⟩ := within.exists_eq_succ
  exact ⟨smaller, rfl, within next step⟩

section Finite

variable [Finite ν]

theorem exists_pathsWithin_of_acc {node : ν} (grounded : Acc (Function.swap edge) node) :
    ∃ bound, PathsWithin edge bound node := by
  induction grounded with
  | intro node _ ih =>
      have each (next : ν) : ∃ bound, edge node next → PathsWithin edge bound next := by
        by_cases step : edge node next
        · obtain ⟨bound, within⟩ := ih next step
          exact ⟨bound, fun _ => within⟩
        · exact ⟨0, fun taken => absurd taken step⟩
      choose bounds within using each
      obtain ⟨bound, largest⟩ := Finite.exists_le bounds
      exact ⟨bound + 1, fun next step => (within next step).mono (largest next)⟩

variable (edge)

/-- One bound serves all nodes from which no path is infinite. -/
theorem exists_common_bound :
    ∃ bound, ∀ node, Acc (Function.swap edge) node → PathsWithin edge bound node := by
  have each (node : ν) : ∃ bound, Acc (Function.swap edge) node → PathsWithin edge bound node := by
    by_cases grounded : Acc (Function.swap edge) node
    · obtain ⟨bound, within⟩ := exists_pathsWithin_of_acc grounded
      exact ⟨bound, fun _ => within⟩
    · exact ⟨0, fun taken => absurd taken grounded⟩
  choose bounds within using each
  obtain ⟨bound, largest⟩ := Finite.exists_le bounds
  exact ⟨bound, fun node grounded => (within node grounded).mono (largest node)⟩

end Finite

/-- A node is grounded when no path from it is infinite. -/
theorem acc_of_no_infinite_path {node : ν}
    (ends : ¬ ∃ path : Nat → ν, path 0 = node ∧ ∀ step, edge (path step) (path (step + 1))) :
    Acc (Function.swap edge) node := by
  by_contra endless
  exact ends (not_acc_iff_exists_descending_chain.mp endless)

/-- In a finite graph without cycles every node is grounded. -/
theorem acc_of_no_cycle [Finite ν]
    (acyclic : ∀ (length : Nat) (path : Nat → ν), 0 < length → path length = path 0 →
      ¬ ∀ step < length, edge (path step) (path (step + 1))) (node : ν) :
    Acc (Function.swap edge) node := by
  refine acc_of_no_infinite_path fun ⟨path, _, steps⟩ => ?_
  obtain ⟨left, right, apart, same⟩ := Finite.exists_ne_map_eq_of_infinite path
  wlog before : left < right generalizing left right
  · exact this right left apart.symm same.symm (lt_of_le_of_ne (not_lt.mp before) apart.symm)
  refine acyclic (right - left) (fun step => path (left + step)) (Nat.sub_pos_of_lt before) ?_
    fun step _ => steps (left + step)
  change path (left + (right - left)) = path left
  rw [Nat.add_sub_of_le before.le, same]

end PathBounds
