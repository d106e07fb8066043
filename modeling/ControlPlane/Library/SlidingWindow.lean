import Mathlib.Algebra.Order.Group.Defs
import Mathlib.Algebra.Order.Group.Basic
import Mathlib.Data.List.Basic
import Mathlib.Tactic.Common

/-!
# Sliding windows over a log of times

A queue that drops its oldest times as they leave the window answers, for every
later moment, how many times of the whole log are in the window. Times are
elements of any ordered group.
-/

namespace SlidingWindow

variable {Time : Type} [AddCommGroup Time] [LinearOrder Time]

/-- A time is in the closed window that ends at a moment. -/
def Within (window moment time : Time) : Prop := moment - window ≤ time ∧ time ≤ moment

instance (window moment time : Time) : Decidable (Within window moment time) :=
  inferInstanceAs (Decidable (_ ∧ _))

/-- How many times of a log are in the window. -/
def countWithin (window moment : Time) (log : List Time) : Nat :=
  log.countP fun time => Within window moment time

/-- Drop the times at the front that are older than the window. -/
def recent (window moment : Time) (queue : List Time) : List Time :=
  queue.dropWhile fun time => window < moment - time

/-! ## Counting in windows -/

@[simp] theorem countWithin_nil (window moment : Time) : countWithin window moment [] = 0 := rfl

@[simp] theorem countWithin_append (window moment : Time) (first second : List Time) :
    countWithin window moment (first ++ second) =
      countWithin window moment first + countWithin window moment second :=
  List.countP_append

@[simp] theorem countWithin_singleton (window moment time : Time) :
    countWithin window moment [time] = if Within window moment time then 1 else 0 := by
  simp [countWithin]

/-- Times outside the window are not counted. -/
theorem countWithin_eq_zero {window moment : Time} {log : List Time}
    (outside : ∀ time ∈ log, ¬Within window moment time) : countWithin window moment log = 0 := by
  apply List.countP_eq_zero.mpr
  intro time member
  simpa using outside time member

section

variable [IsOrderedAddMonoid Time]

/-- Of past times, a window that ends later has no more than the window that ends now. -/
theorem countWithin_le {window now moment : Time} {log : List Time}
    (past : ∀ time ∈ log, time ≤ now) (later : now ≤ moment) :
    countWithin window moment log ≤ countWithin window now log := by
  apply List.countP_mono_left
  intro time member inside
  have inside := of_decide_eq_true inside
  exact decide_eq_true ⟨(sub_le_sub_right later window).trans inside.1, past time member⟩

/-! ## Pruned queues -/

/-- In an ascending log the recent times are those that the window has not left behind. -/
theorem recent_eq_filter {log : List Time} (ascending : log.Pairwise (· ≤ ·))
    (window moment : Time) :
    recent window moment log = log.filter fun time => moment - window ≤ time := by
  unfold recent
  induction log with
  | nil => rfl
  | cons time log inductionHypothesis =>
      obtain ⟨least, ascending⟩ := List.pairwise_cons.mp ascending
      by_cases old : window < moment - time
      · have outside : ¬moment - window ≤ time := not_le.mpr (lt_sub_comm.mp old)
        rw [List.dropWhile_cons_of_pos (by simpa using old),
          List.filter_cons_of_neg (by simpa using outside)]
        exact inductionHypothesis ascending
      · have inside : moment - window ≤ time := sub_le_comm.mp (not_lt.mp old)
        rw [List.dropWhile_cons_of_neg (by simpa using old), eq_comm, List.filter_eq_self]
        intro other member
        apply decide_eq_true
        rcases List.mem_cons.mp member with rfl | later
        · exact inside
        · exact inside.trans (least other later)

/-- The number of recent times is the number of times in the window. -/
theorem length_recent {log : List Time} (ascending : log.Pairwise (· ≤ ·)) {moment : Time}
    (past : ∀ time ∈ log, time ≤ moment) (window : Time) :
    (recent window moment log).length = countWithin window moment log := by
  rw [recent_eq_filter ascending, ← List.countP_eq_length_filter]
  apply List.countP_congr
  intro time member
  simp [Within, past time member]

/-- Dropping more, after some of it is dropped already. -/
theorem dropWhile_dropWhile_append {Item : Type} {first second : Item → Bool}
    (more : ∀ item, first item = true → second item = true) (items rest : List Item) :
    (items.dropWhile first ++ rest).dropWhile second = (items ++ rest).dropWhile second := by
  induction items with
  | nil => rfl
  | cons item items inductionHypothesis =>
      cases dropped : first item with
      | false => rw [List.dropWhile_cons_of_neg (by simp [dropped])]
      | true =>
          rw [List.dropWhile_cons_of_pos dropped, inductionHypothesis, List.cons_append,
            List.dropWhile_cons_of_pos (more item dropped)]

theorem recent_recent_append {window earlier later : Time} (passes : earlier ≤ later)
    (queue rest : List Time) :
    recent window later (recent window earlier queue ++ rest) =
      recent window later (queue ++ rest) := by
  apply dropWhile_dropWhile_append
  intro time old
  have old := of_decide_eq_true old
  exact decide_eq_true (old.trans_le (sub_le_sub_right passes time))

end

/-! ## Queues that stand for logs -/

/-- From a moment on, a queue has the recent times of a log, also after more times are added. -/
def Represents (window moment : Time) (queue log : List Time) : Prop :=
  ∀ later, moment ≤ later → ∀ rest,
    recent window later (queue ++ rest) = recent window later (log ++ rest)

namespace Represents

variable {window moment later : Time} {queue log : List Time}

theorem refl (window moment : Time) (log : List Time) : Represents window moment log log :=
  fun _ _ _ => rfl

theorem mono (represents : Represents window moment queue log) (passes : moment ≤ later) :
    Represents window later queue log :=
  fun last after rest => represents last (passes.trans after) rest

theorem recent_eq (represents : Represents window moment queue log) (passes : moment ≤ later) :
    recent window later queue = recent window later log := by
  simpa using represents later passes []

/-- Pruning keeps what the queue stands for. -/
theorem pruned [IsOrderedAddMonoid Time] (represents : Represents window moment queue log)
    (passes : moment ≤ later) : Represents window later (recent window later queue) log := by
  intro last after rest
  rw [recent_recent_append after, represents last (passes.trans after)]

theorem append (represents : Represents window moment queue log) (times : List Time) :
    Represents window moment (queue ++ times) (log ++ times) := by
  intro last after rest
  rw [List.append_assoc, List.append_assoc]
  exact represents last after (times ++ rest)

/-- An empty queue stands for a log that has left the window. -/
theorem nil [IsOrderedAddMonoid Time] (past : ∀ time ∈ log, time ≤ moment)
    (expired : countWithin window moment log = 0) : Represents window moment [] log := by
  intro last after rest
  refine (List.dropWhile_append_of_pos fun time member => ?_).symm
  have outside : ¬Within window moment time := by
    simpa using List.countP_eq_zero.mp expired time member
  have old : time < moment - window := lt_of_not_ge fun recent => outside ⟨recent, past time member⟩
  exact decide_eq_true (lt_sub_comm.mp (old.trans_le (sub_le_sub_right after window)))

end Represents

end SlidingWindow
