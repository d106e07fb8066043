import Mathlib.Algebra.GroupWithZero.Nat
import Mathlib.Data.List.Basic
import Mathlib.Data.List.Count
import Mathlib.Order.Lattice
import Mathlib.Tactic.Common

/-!
# Histograms

Values are counted in the first interval whose bound they do not exceed; a
value above all bounds is counted in the last interval. The counts of the
first intervals add up to the number of values that fall into one of them,
which is the number of values up to a bound for all bounds but the last.
-/

namespace Histogram

section Intervals

variable {Value : Type} [LinearOrder Value]

/-- The interval of a value: the first whose bound it does not exceed, or else the last. -/
def slot (bounds : List Value) (value : Value) : Nat :=
  (bounds.findIdx? fun bound => value ≤ bound).getD (bounds.length - 1)

theorem slot_lt {bounds : List Value} (some' : 0 < bounds.length) (value : Value) :
    slot bounds value < bounds.length := by
  unfold slot
  cases found : bounds.findIdx? fun bound => value ≤ bound with
  | none => exact Nat.sub_lt some' Nat.one_pos
  | some index => exact (List.findIdx?_eq_some_iff_getElem.mp found).1

/-- Up to an interval that is not the last, there are the values that do not exceed its bound. -/
theorem slot_le_iff {bounds : List Value} (ascending : bounds.Pairwise (· ≤ ·)) {index : Nat}
    (inner : index + 1 < bounds.length) (value : Value) :
    slot bounds value ≤ index ↔ value ≤ bounds[index] := by
  unfold slot
  cases found : bounds.findIdx? fun bound => value ≤ bound with
  | none =>
      have above := List.findIdx?_eq_none_iff.mp found bounds[index] (List.getElem_mem _)
      constructor
      · intro last
        exact absurd last (by rw [Option.getD_none]; omega)
      · intro below
        exact absurd below (of_decide_eq_false above)
  | some first =>
      obtain ⟨inside, below, above⟩ := List.findIdx?_eq_some_iff_getElem.mp found
      rw [Option.getD_some]
      constructor
      · intro early
        rcases Nat.eq_or_lt_of_le early with rfl | early
        · exact of_decide_eq_true below
        · exact le_trans (of_decide_eq_true below)
            (List.pairwise_iff_getElem.mp ascending _ _ inside (by omega) early)
      · intro small
        by_contra late
        exact absurd (decide_eq_true small) (above index (by omega))

/-- How many values there are in each interval. -/
def hits (bounds values : List Value) : List Nat :=
  (List.range bounds.length).map fun index => values.countP fun value => slot bounds value = index

theorem length_hits (bounds values : List Value) : (hits bounds values).length = bounds.length := by
  rw [hits, List.length_map, List.length_range]

theorem hits_nil (bounds : List Value) : hits bounds [] = List.replicate bounds.length 0 := by
  rw [hits, List.eq_replicate_iff]
  constructor
  · rw [List.length_map, List.length_range]
  · intro count member
    obtain ⟨index, -, rfl⟩ := List.mem_map.mp member
    rfl

/-- One more value is one more hit of its interval. -/
theorem hits_append (bounds values : List Value) (value : Value) :
    hits bounds (values ++ [value]) = (hits bounds values).modify (slot bounds value) (· + 1) := by
  apply List.ext_getElem
  · rw [List.length_modify, length_hits, length_hits]
  · intro index _ _
    rw [List.getElem_modify]
    simp only [hits, List.getElem_map, List.getElem_range, List.countP_append, List.countP_singleton,
      decide_eq_true_eq]
    split <;> rfl

theorem countP_lt_succ (bounds values : List Value) (count : Nat) :
    (values.countP fun value => slot bounds value < count) +
        (values.countP fun value => slot bounds value = count) =
      values.countP fun value => slot bounds value < count + 1 := by
  induction values with
  | nil => rfl
  | cons value values inductionHypothesis =>
      simp only [List.countP_cons, decide_eq_true_eq] at inductionHypothesis ⊢
      rw [← inductionHypothesis]
      rcases Nat.lt_trichotomy (slot bounds value) count with less | same | more
      · rw [if_pos less, if_neg (Nat.ne_of_lt less), if_pos (by omega)]
        omega
      · rw [if_neg (by omega), if_pos same, if_pos (by omega)]
        omega
      · rw [if_neg (by omega), if_neg (by omega), if_neg (by omega)]
        omega

/-- The hits of the first intervals are the values in one of them. -/
theorem sum_take_hits (bounds values : List Value) {index : Nat} (inside : index < bounds.length) :
    ((hits bounds values).take (index + 1)).sum =
      values.countP fun value => slot bounds value ≤ index := by
  have split : ∀ count, ((List.range count).map fun index =>
      values.countP fun value => slot bounds value = index).sum =
        values.countP fun value => slot bounds value < count := by
    intro count
    induction count with
    | zero =>
        exact (List.countP_eq_zero.mpr fun value _ below =>
          Nat.not_lt_zero _ (of_decide_eq_true below)).symm
    | succ count inductionHypothesis =>
        rw [List.range_succ, List.map_append, List.sum_append, inductionHypothesis, List.map_singleton,
          List.sum_singleton]
        exact countP_lt_succ bounds values count
  rw [hits, ← List.map_take, List.take_range, Nat.min_eq_left inside, split]
  refine List.countP_congr fun value _ => ?_
  rw [decide_eq_true_eq, decide_eq_true_eq]
  exact Nat.lt_succ_iff

end Intervals

end Histogram
