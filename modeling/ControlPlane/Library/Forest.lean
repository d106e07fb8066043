import Mathlib.Tactic.ByContra
import Mathlib.Tactic.WLOG

/-!
# Forests given by a parent function

Steps from a node to its parent, counted. A node is rooted when the steps end
somewhere; from a rooted node no step leads in a circle, and the number of steps
to each ancestor is determined. Hanging a new leaf below a node changes nothing
for the nodes that were there.
-/

namespace Forest

variable {ι : Type} {parent later : ι → Option ι} {node ancestor other root : ι}
  {count more : Nat}

/-- The given number of steps leads from a node to an ancestor. -/
inductive Climbs (parent : ι → Option ι) : ι → Nat → ι → Prop
  | here (node : ι) : Climbs parent node 0 node
  | up {node above ancestor : ι} {count : Nat} :
      parent node = some above → Climbs parent above count ancestor →
      Climbs parent node (count + 1) ancestor

namespace Climbs

/-- The number of steps determines where they lead. -/
theorem unique (first : Climbs parent node count ancestor)
    (second : Climbs parent node count other) : ancestor = other := by
  induction first with
  | here node =>
      cases second
      rfl
  | up step _ inductionHypothesis =>
      cases second with
      | up again rest =>
          rw [step] at again
          cases again
          exact inductionHypothesis rest

/-- Steps follow steps. -/
theorem trans (first : Climbs parent node count ancestor)
    (second : Climbs parent ancestor more root) : Climbs parent node (count + more) root := by
  induction first with
  | here node => rwa [Nat.zero_add]
  | up step _ inductionHypothesis =>
      rw [Nat.add_right_comm]
      exact .up step (inductionHypothesis second)

/-- Fewer steps lead to somewhere on the way. -/
theorem split {steps : Nat} (climbs : Climbs parent node steps root) (le : count ≤ steps) :
    ∃ middle, Climbs parent node count middle ∧ Climbs parent middle (steps - count) root := by
  induction climbs generalizing count with
  | here node =>
      obtain rfl : count = 0 := by omega
      exact ⟨node, .here node, .here node⟩
  | @up node above root steps step rest inductionHypothesis =>
      cases count with
      | zero => exact ⟨node, .here node, .up step rest⟩
      | succ count =>
          obtain ⟨middle, early, late⟩ := inductionHypothesis (Nat.le_of_succ_le_succ le)
          exact ⟨middle, .up step early, by rwa [Nat.add_sub_add_right]⟩

/-- Nothing lies above a root. -/
theorem eq_zero (climbs : Climbs parent root count ancestor) (top : parent root = none) :
    count = 0 := by
  cases climbs with
  | here => rfl
  | up step => rw [top] at step; cases step

/-- From a rooted node, no ancestor lies beyond the root. -/
theorem le_root (climbs : Climbs parent node count ancestor)
    (rooted : Climbs parent node more root) (top : parent root = none) : count ≤ more := by
  by_contra beyond
  obtain ⟨middle, early, late⟩ := climbs.split (Nat.le_of_lt (Nat.lt_of_not_le beyond))
  rw [early.unique rooted] at late
  have none := late.eq_zero top
  omega

/-- A root is reached in one number of steps only. -/
theorem root_unique {otherRoot : ι} (first : Climbs parent node count root)
    (top : parent root = none) (second : Climbs parent node more otherRoot)
    (otherTop : parent otherRoot = none) : count = more ∧ root = otherRoot := by
  have same : count = more :=
    Nat.le_antisymm (first.le_root second otherTop) (second.le_root first top)
  subst same
  exact ⟨rfl, first.unique second⟩

/-- From a rooted node no steps lead in a circle. -/
theorem no_cycle (rooted : Climbs parent node more root) (top : parent root = none)
    (cycle : Climbs parent node count node) : count = 0 := by
  have further := (cycle.trans rooted).le_root rooted top
  omega

/-- What is above a node stays above it when the parents of the nodes stay the same. -/
theorem mono (climbs : Climbs parent node count ancestor)
    (extends' : ∀ node above, parent node = some above → later node = some above) :
    Climbs later node count ancestor := by
  induction climbs with
  | here node => exact .here node
  | up step _ inductionHypothesis => exact .up (extends' _ _ step) inductionHypothesis

/-- When all new steps start from a node that is nobody's parent, nothing changes for others. -/
theorem restrict {leaf : ι} (climbs : Climbs later node count ancestor) (different : node ≠ leaf)
    (same : ∀ node, node ≠ leaf → later node = parent node)
    (childless : ∀ node, parent node ≠ some leaf) : Climbs parent node count ancestor := by
  induction climbs with
  | here node => exact .here node
  | up step _ inductionHypothesis =>
      rw [same _ different] at step
      refine .up step (inductionHypothesis ?_)
      rintro rfl
      exact childless _ step

end Climbs

/-- The steps from a node end at a root. -/
def Rooted (parent : ι → Option ι) (node : ι) : Prop :=
  ∃ count root, Climbs parent node count root ∧ parent root = none

/-- Below a rooted node everything is rooted. -/
theorem Rooted.up {above : ι} (rooted : Rooted parent above) (step : parent node = some above) :
    Rooted parent node := by
  obtain ⟨count, root, climbs, top⟩ := rooted
  exact ⟨count + 1, root, .up step climbs, top⟩

end Forest
