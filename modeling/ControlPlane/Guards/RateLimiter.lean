import ControlPlane.Library.SlidingWindow
import Mathlib.Data.List.AList
import Mathlib.Data.List.Induction
import Mathlib.Data.List.Dedup
import Mathlib.Data.Int.Order.Basic
import Mathlib.Algebra.Order.Ring.Int
import Mathlib.Tactic.Linarith
import Mathlib.Tactic.Zify

/-!
# The rate limiter

A queue of times for each key, pruned as the times leave the window. All queues
are dropped at once when there are too many keys, so the budget of a key holds
between two such clean-ups.
-/

namespace ControlPlane

namespace Guards

open SlidingWindow

/-- The settings of a `RateLimiter`. -/
structure RateLimiter (Time : Type) where
  limit : Int
  window : Time

/-- `_hits`: the queue of each key. -/
abbrev Hits (Time : Type) := AList fun _ : String => List Time

/-- The queue of a key; a `defaultdict` has an empty one for a new key. -/
def Hits.queue {Time : Type} (hits : Hits Time) (key : String) : List Time :=
  (hits.lookup key).getD []

/-- There are too many keys. -/
def Hits.crowded {Time : Type} (hits : Hits Time) : Bool := 50000 < hits.keys.length

/-- A call of `allow`, with what the clock says. -/
structure Call (Time : Type) where
  key : String
  time : Time

/-- A call and its outcome. -/
structure Event (Time : Type) extends Call Time where
  allowed : Bool
  /-- The call dropped all queues. -/
  cleaned : Bool

variable {Time : Type} [AddCommGroup Time] [LinearOrder Time]

namespace RateLimiter

variable (limiter : RateLimiter Time)

/-- The queue of the key of a call, pruned. -/
def pruned (hits : Hits Time) (call : Call Time) : List Time :=
  recent limiter.window call.time (hits.queue call.key)

/-- The queues with a call added. -/
def filled (hits : Hits Time) (call : Call Time) : Hits Time :=
  hits.insert call.key (limiter.pruned hits call ++ [call.time])

/-- `allow`: the answer, and the queues that are left. -/
def allow (hits : Hits Time) (call : Call Time) : Bool × Hits Time :=
  if limiter.limit ≤ 0 then (true, hits)
  else if limiter.limit ≤ (limiter.pruned hits call).length then
    (false, hits.insert call.key (limiter.pruned hits call))
  else if (limiter.filled hits call).crowded then (true, ∅)
  else (true, limiter.filled hits call)

/-- A call reaches the clean-up. -/
def cleans (hits : Hits Time) (call : Call Time) : Bool :=
  0 < limiter.limit && (limiter.allow hits call).1 && (limiter.filled hits call).crowded

def event (hits : Hits Time) (call : Call Time) : Event Time :=
  { call with
    allowed := (limiter.allow hits call).1
    cleaned := limiter.cleans hits call }

/-- The calls, one after the other. -/
def history : Hits Time → List (Call Time) → List (Event Time)
  | _, [] => []
  | hits, call :: rest =>
      limiter.event hits call :: history (limiter.allow hits call).2 rest

/-- The queues after the calls. -/
def after (hits : Hits Time) (calls : List (Call Time)) : Hits Time :=
  calls.foldl (fun hits call => (limiter.allow hits call).2) hits

end RateLimiter

/-! ## What one call does -/

namespace Hits

omit [AddCommGroup Time] [LinearOrder Time]

@[simp] theorem queue_empty (key : String) : (∅ : Hits Time).queue key = [] := rfl

@[simp] theorem queue_insert (hits : Hits Time) (key : String) (times : List Time) :
    Hits.queue (hits.insert key times) key = times := by
  simp [Hits.queue]

theorem queue_insert_of_ne {key other : String} (different : other ≠ key) (hits : Hits Time)
    (times : List Time) : Hits.queue (hits.insert key times) other = hits.queue other := by
  simp [Hits.queue, AList.lookup_insert_ne different]

end Hits

namespace RateLimiter

variable {limiter : RateLimiter Time} {hits : Hits Time} {call : Call Time}

/-- A denied call is one of a full queue, which it prunes. -/
theorem denied_spec (denied : (limiter.allow hits call).1 = false) :
    0 < limiter.limit ∧ limiter.limit ≤ (limiter.pruned hits call).length ∧
      limiter.cleans hits call = false ∧
      (limiter.allow hits call).2 = hits.insert call.key (limiter.pruned hits call) := by
  have kept : limiter.cleans hits call = false := by simp [cleans, denied]
  unfold allow at denied ⊢
  split_ifs at denied ⊢ with disabled full crowded
  exact ⟨not_le.mp disabled, full, kept, rfl⟩

/-- An allowed call finds room in the queue, and drops all queues or adds to its own. -/
theorem allowed_spec (positive : 0 < limiter.limit)
    (allowed : (limiter.allow hits call).1 = true) :
    ((limiter.pruned hits call).length : Int) < limiter.limit ∧
      (limiter.cleans hits call = true ∧ (limiter.filled hits call).crowded = true ∧
          (limiter.allow hits call).2 = ∅ ∨
        limiter.cleans hits call = false ∧
          (limiter.allow hits call).2 = limiter.filled hits call) := by
  have cleans : limiter.cleans hits call = (limiter.filled hits call).crowded := by
    simp [RateLimiter.cleans, allowed, positive]
  rw [cleans]
  unfold allow at allowed ⊢
  split_ifs at allowed ⊢ with disabled full crowded
  · exact absurd positive (not_lt.mpr disabled)
  · exact ⟨not_le.mp full, .inl ⟨crowded, crowded, rfl⟩⟩
  · exact ⟨not_le.mp full, .inr ⟨by simpa using crowded, rfl⟩⟩

/-- A clean-up leaves no queue. -/
theorem left_of_cleaned (cleaned : limiter.cleans hits call = true) :
    (limiter.allow hits call).2 = ∅ := by
  unfold cleans at cleaned
  obtain ⟨⟨positive, answer⟩, crowded⟩ := by
    simpa only [Bool.and_eq_true, decide_eq_true_eq] using cleaned
  obtain ⟨_, ⟨_, _, left⟩ | ⟨kept, _⟩⟩ := allowed_spec positive answer
  · exact left
  · simp [cleans, positive, answer, crowded] at kept

/-- A call without a clean-up leaves the queues of other keys. -/
theorem queue_of_ne (kept : limiter.cleans hits call = false) {key : String}
    (different : key ≠ call.key) : (limiter.allow hits call).2.queue key = hits.queue key := by
  by_cases positive : 0 < limiter.limit
  · cases answer : (limiter.allow hits call).1 with
    | false =>
        rw [(denied_spec answer).2.2.2]
        exact Hits.queue_insert_of_ne different _ _
    | true =>
        obtain ⟨_, ⟨cleaned, _⟩ | ⟨_, after⟩⟩ := allowed_spec positive answer
        · cases kept.symm.trans cleaned
        · rw [after]
          exact Hits.queue_insert_of_ne different _ _
  · have same : limiter.allow hits call = (true, hits) := if_pos (not_lt.mp positive)
    rw [same]

/-- A call adds no other key than its own. -/
theorem keys_allow {key : String} (member : key ∈ (limiter.allow hits call).2.keys) :
    key = call.key ∨ key ∈ hits.keys := by
  unfold allow at member
  split_ifs at member
  · exact .inr member
  · exact (AList.mem_insert _).mp (AList.mem_keys.mpr member)
  · simp at member
  · exact (AList.mem_insert _).mp (AList.mem_keys.mpr member)

end RateLimiter

/-! ## What a history tells -/

/-- The times at which a key was allowed. -/
def admitted (key : String) (events : List (Event Time)) : List Time :=
  (events.filter fun event => event.allowed && event.key = key).map fun event => event.time

/-- The times of the clean-ups. -/
def cleanings (events : List (Event Time)) : List Time :=
  (events.filter fun event => event.cleaned).map fun event => event.time

/-- The events after the last clean-up. -/
def sinceCleaning (events : List (Event Time)) : List (Event Time) :=
  events.foldl (fun since event => if event.cleaned then [] else since ++ [event]) []

section

omit [AddCommGroup Time] [LinearOrder Time]

theorem admitted_append (key : String) (first second : List (Event Time)) :
    admitted key (first ++ second) = admitted key first ++ admitted key second := by
  simp [admitted]

theorem sinceCleaning_append (past : List (Event Time)) (event : Event Time) :
    sinceCleaning (past ++ [event]) =
      if event.cleaned then [] else sinceCleaning past ++ [event] := by
  simp [sinceCleaning]

/-- The events after the last clean-up are the last ones. -/
theorem sinceCleaning_suffix (events : List (Event Time)) : sinceCleaning events <:+ events := by
  induction events using List.reverseRec with
  | nil => exact List.suffix_refl _
  | append_singleton past event inductionHypothesis =>
      rw [sinceCleaning_append]
      split_ifs
      · exact List.nil_suffix
      · obtain ⟨before, same⟩ := inductionHypothesis
        exact ⟨before, by rw [← List.append_assoc, same]⟩

/-- A call with another key admits nothing. -/
theorem admitted_singleton_of_ne {key : String} {event : Event Time} (other : event.key ≠ key) :
    admitted key [event] = [] := by
  simp [admitted, other]

theorem admitted_sublist (key : String) (events : List (Event Time)) :
    (admitted key events).Sublist (events.map fun event => event.time) :=
  List.filter_sublist.map _

end

/-- A queue that stands for the admitted times of its key still does after a call that cleans
nothing up. -/
theorem RateLimiter.represents_allow [IsOrderedAddMonoid Time] {limiter : RateLimiter Time}
    {hits : Hits Time} {call : Call Time} (positive : 0 < limiter.limit)
    (kept : limiter.cleans hits call = false) {key : String} {moment : Time} {log : List Time}
    (represents : Represents limiter.window moment (hits.queue key) log)
    (passes : moment ≤ call.time) :
    Represents limiter.window call.time ((limiter.allow hits call).2.queue key)
      (log ++ admitted key [limiter.event hits call]) := by
  by_cases own : call.key = key
  · subst own
    cases answer : (limiter.allow hits call).1 with
    | false =>
        have none : admitted call.key [limiter.event hits call] = [] := by
          simp [admitted, event, answer]
        rw [(denied_spec answer).2.2.2, Hits.queue_insert, none, List.append_nil]
        exact represents.pruned passes
    | true =>
        have one : admitted call.key [limiter.event hits call] = [call.time] := by
          simp [admitted, event, answer]
        obtain ⟨_, ⟨cleaned, _⟩ | ⟨_, left⟩⟩ := allowed_spec positive answer
        · cases kept.symm.trans cleaned
        · rw [left, filled, Hits.queue_insert, one]
          exact (represents.pruned passes).append _
  · rw [queue_of_ne kept (Ne.symm own), admitted_singleton_of_ne own, List.append_nil]
    exact represents.mono passes

/-! ## The accounts of a run -/

/-- What the queues and the clean-ups tell of the events so far. -/
structure Accounted (limiter : RateLimiter Time) (moment : Time) (past : List (Event Time))
    (hits : Hits Time) : Prop where
  ascending : (past.map fun event => event.time).Pairwise (· ≤ ·)
  earlier : ∀ time ∈ past.map (fun event => event.time), time ≤ moment
  represents : ∀ key,
    Represents limiter.window moment (hits.queue key) (admitted key (sinceCleaning past))
  used : ∀ key ∈ hits.keys, key ∈ (sinceCleaning past).map fun event => event.key
  /-- No window has more than the limit for itself and for each clean-up in it. -/
  bounded : ∀ key other, countWithin limiter.window other (admitted key past) ≤
    limiter.limit.toNat * (countWithin limiter.window other (cleanings past) + 1)
  /-- In the windows from now on, those before the last clean-up are paid for by the clean-ups. -/
  paid : ∀ key later, moment ≤ later →
    countWithin limiter.window later (admitted key past) ≤
      limiter.limit.toNat * countWithin limiter.window later (cleanings past) +
        countWithin limiter.window later (admitted key (sinceCleaning past))

namespace Accounted

variable {limiter : RateLimiter Time} {moment : Time} {past : List (Event Time)} {hits : Hits Time}

/-- Nothing has been called yet. -/
theorem initial (limiter : RateLimiter Time) (moment : Time) :
    Accounted limiter moment [] ∅ where
  ascending := List.Pairwise.nil
  earlier _ member := by cases member
  represents _ := Represents.refl _ _ _
  used _ member := by simp at member
  bounded _ _ := Nat.zero_le _
  paid _ _ _ := Nat.zero_le _

/-- The number of recent times in a queue is the number of calls since the last clean-up that the
window of the call has. -/
theorem length_pruned [IsOrderedAddMonoid Time] (accounted : Accounted limiter moment past hits)
    {call : Call Time} (passes : moment ≤ call.time) :
    (limiter.pruned hits call).length =
      countWithin limiter.window call.time (admitted call.key (sinceCleaning past)) := by
  have times := (admitted_sublist call.key (sinceCleaning past)).trans
    ((sinceCleaning_suffix past).sublist.map fun event => event.time)
  unfold RateLimiter.pruned
  rw [(accounted.represents call.key).recent_eq passes,
    length_recent (accounted.ascending.sublist times) fun time member =>
      (accounted.earlier time (times.subset member)).trans passes]

/-- Times later than a window are not in it. -/
theorem countWithin_later (window : Time) {moment other : Time} {times : List Time}
    (later : ∀ time ∈ times, moment < time) (past : other ≤ moment) :
    countWithin window other times = 0 :=
  countWithin_eq_zero fun time member inside =>
    absurd (inside.2.trans past) (not_le.mpr (later time member))

/-- The times of a run stay in order. -/
theorem times_step (accounted : Accounted limiter moment past hits) (event : Event Time)
    (passes : moment ≤ event.time) :
    ((past ++ [event]).map fun event => event.time).Pairwise (· ≤ ·) ∧
      ∀ time ∈ (past ++ [event]).map (fun event => event.time), time ≤ event.time := by
  have earlier : ∀ time ∈ past.map (fun event => event.time), time ≤ event.time :=
    fun time member => (accounted.earlier time member).trans passes
  rw [List.map_append, List.pairwise_append]
  refine ⟨⟨accounted.ascending, List.pairwise_singleton .., fun time member last here => ?_⟩,
    fun time member => ?_⟩
  · rw [List.mem_singleton.mp here]
    exact earlier time member
  · rcases List.mem_append.mp member with old | new
    · exact earlier time old
    · exact le_of_eq (List.mem_singleton.mp new)

/-- The keys in the table are those of the calls since the last clean-up. -/
theorem used_step (accounted : Accounted limiter moment past hits) {call : Call Time}
    (kept : limiter.cleans hits call = false) :
    ∀ key ∈ (limiter.allow hits call).2.keys,
      key ∈ (sinceCleaning (past ++ [limiter.event hits call])).map fun event => event.key := by
  intro key member
  rw [sinceCleaning_append, if_neg (by simp [RateLimiter.event, kept]), List.map_append,
    List.mem_append]
  rcases RateLimiter.keys_allow member with own | old
  · exact .inr (List.mem_singleton.mpr own)
  · exact .inl (accounted.used key old)

/-- A call cleans up when it makes too many keys since the last clean-up. -/
theorem crowded_of_cleaned (accounted : Accounted limiter moment past hits) {call : Call Time}
    (cleaned : limiter.cleans hits call = true) :
    50000 < ((sinceCleaning past ++ [limiter.event hits call]).map fun event =>
      event.key).dedup.length := by
  have crowded : 50000 < (limiter.filled hits call).keys.length := by
    simp only [RateLimiter.cleans, Hits.crowded, Bool.and_eq_true, decide_eq_true_eq] at cleaned
    exact cleaned.2
  refine crowded.trans_le (List.Subperm.length_le ?_)
  refine List.subperm_of_subset (AList.keys_nodup _) fun key member => List.mem_dedup.mpr ?_
  rw [List.map_append, List.mem_append]
  rcases (AList.mem_insert _).mp (AList.mem_keys.mpr member) with own | old
  · exact .inr (List.mem_singleton.mpr own)
  · exact .inl (accounted.used key old)

variable [IsOrderedAddMonoid Time]

/-- A denied call keeps the accounts. -/
theorem denied (accounted : Accounted limiter moment past hits) {call : Call Time}
    (passes : moment ≤ call.time) (answer : (limiter.allow hits call).1 = false) :
    Accounted limiter call.time (past ++ [limiter.event hits call])
      (limiter.allow hits call).2 := by
  obtain ⟨positive, _, kept, _⟩ := RateLimiter.denied_spec answer
  have sameAdmitted : ∀ key events,
      admitted key (events ++ [limiter.event hits call]) = admitted key events := by
    intro key events
    simp [admitted, RateLimiter.event, answer]
  have sameCleanings : cleanings (past ++ [limiter.event hits call]) = cleanings past := by
    simp [cleanings, RateLimiter.event, kept]
  have since : sinceCleaning (past ++ [limiter.event hits call]) =
      sinceCleaning past ++ [limiter.event hits call] := by
    simp [sinceCleaning_append, RateLimiter.event, kept]
  refine ⟨(accounted.times_step _ passes).1, (accounted.times_step _ passes).2, ?_,
    accounted.used_step kept, ?_, ?_⟩
  · intro key
    rw [since, admitted_append]
    exact RateLimiter.represents_allow positive kept (accounted.represents key) passes
  · intro key other
    rw [sameAdmitted, sameCleanings]
    exact accounted.bounded key other
  · intro key later after
    rw [sameAdmitted, sameCleanings, since, sameAdmitted]
    exact accounted.paid key later (passes.trans after)

/-- After an allowed call the windows have no more than before, or one more in a queue that had
room for it. -/
theorem bounded_allowed (accounted : Accounted limiter moment past hits) {call : Call Time}
    (passes : moment ≤ call.time)
    (room : (limiter.pruned hits call).length < limiter.limit.toNat) (key : String) (other : Time) :
    countWithin limiter.window other (admitted key past) +
        countWithin limiter.window other (if call.key = key then [call.time] else []) ≤
      limiter.limit.toNat * (countWithin limiter.window other (cleanings past) + 1) := by
  by_cases own : call.key = key
  · rw [if_pos own]
    by_cases later : call.time ≤ other
    · have paid := accounted.paid key other (passes.trans later)
      have fewer : countWithin limiter.window other (admitted key (sinceCleaning past)) ≤
          (limiter.pruned hits call).length := by
        rw [accounted.length_pruned passes, own]
        refine countWithin_le (fun time member => ?_) later
        exact (accounted.earlier time (((sinceCleaning_suffix past).sublist.map _).subset
          ((admitted_sublist key _).subset member))).trans passes
      have one : countWithin limiter.window other [call.time] ≤ 1 := List.countP_le_length
      rw [Nat.mul_succ]
      omega
    · have none : countWithin limiter.window other [call.time] = 0 :=
        countWithin_later limiter.window (by simpa using later) le_rfl
      rw [none]
      exact accounted.bounded key other
  · rw [if_neg own, countWithin_nil]
    exact accounted.bounded key other

/-- An allowed call keeps the accounts. -/
theorem allowed (positive : 0 < limiter.limit) (accounted : Accounted limiter moment past hits)
    {call : Call Time} (passes : moment ≤ call.time)
    (answer : (limiter.allow hits call).1 = true) :
    Accounted limiter call.time (past ++ [limiter.event hits call])
      (limiter.allow hits call).2 := by
  obtain ⟨room, outcome⟩ := RateLimiter.allowed_spec positive answer
  have admittedAppend : ∀ key events, admitted key (events ++ [limiter.event hits call]) =
      admitted key events ++ if call.key = key then [call.time] else [] := by
    intro key events
    rw [admitted_append]
    by_cases own : call.key = key <;> simp [admitted, RateLimiter.event, answer, own]
  have bounded := accounted.bounded_allowed passes (by omega : _ < limiter.limit.toNat)
  obtain ⟨ascending, latest⟩ := accounted.times_step (limiter.event hits call) passes
  rcases outcome with ⟨cleaned, _, left⟩ | ⟨kept, _⟩
  · have cleaningsAppend : cleanings (past ++ [limiter.event hits call]) =
        cleanings past ++ [call.time] := by
      simp [cleanings, RateLimiter.event, cleaned]
    have since : sinceCleaning (past ++ [limiter.event hits call]) = [] := by
      simp [sinceCleaning_append, RateLimiter.event, cleaned]
    have boundedAfter : ∀ key other,
        countWithin limiter.window other (admitted key (past ++ [limiter.event hits call])) ≤
          limiter.limit.toNat * (countWithin limiter.window other (cleanings past) + 1) := by
      intro key other
      rw [admittedAppend, countWithin_append]
      exact bounded key other
    refine ⟨ascending, latest, ?_, ?_, ?_, ?_⟩
    · intro key
      rw [since, left]
      exact Represents.refl _ _ _
    · intro key member
      rw [left] at member
      simp at member
    · intro key other
      refine (boundedAfter key other).trans (Nat.mul_le_mul_left _ ?_)
      rw [cleaningsAppend, countWithin_append]
      omega
    · intro key later after
      rw [since]
      by_cases inside : Within limiter.window later call.time
      · rw [cleaningsAppend, countWithin_append, countWithin_singleton, if_pos inside]
        exact boundedAfter key later
      · rw [countWithin_eq_zero]
        · exact Nat.zero_le _
        · intro time member within
          have before := latest time ((admitted_sublist key _).subset member)
          exact inside ⟨within.1.trans before, after⟩
  · have sameCleanings : cleanings (past ++ [limiter.event hits call]) = cleanings past := by
      simp [cleanings, RateLimiter.event, kept]
    have since : sinceCleaning (past ++ [limiter.event hits call]) =
        sinceCleaning past ++ [limiter.event hits call] := by
      simp [sinceCleaning_append, RateLimiter.event, kept]
    refine ⟨ascending, latest, ?_, accounted.used_step kept, ?_, ?_⟩
    · intro key
      rw [since, admitted_append]
      exact RateLimiter.represents_allow positive kept (accounted.represents key) passes
    · intro key other
      rw [admittedAppend, sameCleanings, countWithin_append]
      exact bounded key other
    · intro key later after
      rw [admittedAppend, sameCleanings, since, admittedAppend, countWithin_append,
        countWithin_append, ← Nat.add_assoc]
      exact Nat.add_le_add_right (accounted.paid key later (passes.trans after)) _

/-- One call keeps the accounts. -/
theorem step (positive : 0 < limiter.limit) (accounted : Accounted limiter moment past hits)
    {call : Call Time} (passes : moment ≤ call.time) :
    Accounted limiter call.time (past ++ [limiter.event hits call])
      (limiter.allow hits call).2 := by
  cases answer : (limiter.allow hits call).1 with
  | false => exact accounted.denied passes answer
  | true => exact accounted.allowed positive passes answer

/-- A denied call has the limit of allowed calls with its key behind it. -/
theorem limit_le_of_denied (accounted : Accounted limiter moment past hits) {call : Call Time}
    (passes : moment ≤ call.time) (answer : (limiter.allow hits call).1 = false) :
    limiter.limit ≤ countWithin limiter.window call.time (admitted call.key past) := by
  obtain ⟨_, full, _⟩ := RateLimiter.denied_spec answer
  rw [accounted.length_pruned passes] at full
  have fewer : countWithin limiter.window call.time (admitted call.key (sinceCleaning past)) ≤
      countWithin limiter.window call.time (admitted call.key past) :=
    (((sinceCleaning_suffix past).sublist.filter _).map _).countP_le
  omega

/-- A run keeps the accounts. -/
theorem run (positive : 0 < limiter.limit) (accounted : Accounted limiter moment past hits)
    {calls : List (Call Time)}
    (ordered : calls.Pairwise fun first second => first.time ≤ second.time)
    (passes : ∀ call ∈ calls, moment ≤ call.time) :
    ∃ last, Accounted limiter last (past ++ limiter.history hits calls)
        (limiter.after hits calls) ∧
      ∀ later, moment ≤ later → (∀ call ∈ calls, call.time ≤ later) → last ≤ later := by
  induction calls generalizing moment past hits with
  | nil => exact ⟨moment, by simpa [RateLimiter.history, RateLimiter.after] using accounted,
      fun _ after _ => after⟩
  | cons call calls inductionHypothesis =>
      obtain ⟨first, ordered⟩ := List.pairwise_cons.mp ordered
      obtain ⟨last, accounted, least⟩ := inductionHypothesis
        (accounted.step positive (passes call List.mem_cons_self)) ordered first
      rw [List.append_assoc] at accounted
      refine ⟨last, accounted, fun later _ latest => least later ?_ ?_⟩
      · exact latest call List.mem_cons_self
      · exact fun other member => latest other (List.mem_cons_of_mem _ member)

end Accounted

/-! ## Budgets -/

namespace RateLimiter

variable {limiter : RateLimiter Time}

omit [AddCommGroup Time] in
/-- Ordered calls do not begin before some moment. -/
theorem exists_start [Nonempty Time] {calls : List (Call Time)}
    (ordered : calls.Pairwise fun first second => first.time ≤ second.time) :
    ∃ start, ∀ call ∈ calls, start ≤ call.time := by
  cases calls with
  | nil => exact ⟨Classical.arbitrary Time, fun _ member => by cases member⟩
  | cons call calls =>
      refine ⟨call.time, fun other member => ?_⟩
      rcases List.mem_cons.mp member with rfl | later
      · exact le_rfl
      · exact (List.pairwise_cons.mp ordered).1 other later

/-- An event of a history is the outcome of one of the calls, after the ones before it. -/
theorem history_eq_append {hits : Hits Time} {calls : List (Call Time)}
    {before later : List (Event Time)} {event : Event Time}
    (split : limiter.history hits calls = before ++ event :: later) :
    ∃ first call rest, calls = first ++ call :: rest ∧ before = limiter.history hits first ∧
      event = limiter.event (limiter.after hits first) call := by
  induction calls generalizing hits before with
  | nil => simp [history] at split
  | cons call calls inductionHypothesis =>
      cases before with
      | nil =>
          have same := (List.cons.inj split).1
          exact ⟨[], call, calls, rfl, rfl, same.symm⟩
      | cons head before =>
          obtain ⟨same, split⟩ := List.cons.inj split
          obtain ⟨first, other, rest, rfl, rfl, rfl⟩ := inductionHypothesis split
          exact ⟨call :: first, other, rest, rfl, by rw [← same]; rfl, rfl⟩

/-- Every event of an ordered history happens in an accounted state. -/
theorem accounted_event [IsOrderedAddMonoid Time] (positive : 0 < limiter.limit)
    {calls : List (Call Time)}
    (ordered : calls.Pairwise fun first second => first.time ≤ second.time)
    {before later : List (Event Time)} {event : Event Time}
    (split : limiter.history ∅ calls = before ++ event :: later) :
    ∃ moment hits, Accounted limiter moment before hits ∧ moment ≤ event.time ∧
      event = limiter.event hits event.toCall := by
  obtain ⟨start, starts⟩ := exists_start ordered
  obtain ⟨first, call, rest, rfl, rfl, rfl⟩ := history_eq_append split
  have inOrder := List.pairwise_append.mp ordered
  obtain ⟨last, accounted, least⟩ := (Accounted.initial limiter start).run positive inOrder.1
    fun other member => starts other (List.mem_append_left _ member)
  refine ⟨last, _, accounted, least _ ?_ ?_, rfl⟩
  · exact starts call (List.mem_append_right _ List.mem_cons_self)
  · exact fun other member => inOrder.2.2 other member call List.mem_cons_self

/-- The events of a history are those of its calls. -/
theorem history_map (hits : Hits Time) (calls : List (Call Time)) :
    (limiter.history hits calls).map Event.toCall = calls := by
  induction calls generalizing hits with
  | nil => rfl
  | cons call calls inductionHypothesis => exact congrArg (call :: ·) (inductionHypothesis _)

section

variable [IsOrderedAddMonoid Time] {calls : List (Call Time)}

omit [IsOrderedAddMonoid Time] in
theorem mem_calls {hits : Hits Time} {event : Event Time}
    (member : event ∈ limiter.history hits calls) : event.toCall ∈ calls := by
  rw [← limiter.history_map hits calls]
  exact List.mem_map_of_mem member

/-- As few keys as there is room for are never cleaned up. -/
theorem kept_of_few (positive : 0 < limiter.limit)
    (ordered : calls.Pairwise fun first second => first.time ≤ second.time) (keys : List String)
    (few : keys.length ≤ 50000) (known : ∀ call ∈ calls, call.key ∈ keys) :
    ∀ event ∈ limiter.history ∅ calls, event.cleaned = false := by
  intro event member
  obtain ⟨before, later, split⟩ := List.append_of_mem member
  obtain ⟨moment, hits, accounted, passes, outcome⟩ := accounted_event positive ordered split
  rw [Bool.eq_false_iff]
  intro cleaned
  rw [outcome] at cleaned
  have crowd := accounted.crowded_of_cleaned cleaned
  refine absurd crowd (not_lt.mpr (le_trans (List.Subperm.length_le
    (List.subperm_of_subset (List.nodup_dedup _) fun key used => ?_)) few))
  obtain ⟨other, among, rfl⟩ := List.mem_map.mp (List.mem_dedup.mp used)
  have here : other ∈ limiter.history ∅ calls := by
    rw [split, List.mem_append]
    rcases List.mem_append.mp among with old | new
    · exact .inl ((sinceCleaning_suffix before).subset old)
    · rw [List.mem_singleton.mp new, ← outcome]
      exact .inr List.mem_cons_self
  exact known _ (mem_calls here)

/-- If no key is used more often than the limit, all calls are allowed. -/
theorem allowed_of_few (positive : 0 < limiter.limit)
    (ordered : calls.Pairwise fun first second => first.time ≤ second.time)
    (few : ∀ key, ((calls.countP fun call => call.key = key) : Int) ≤ limiter.limit) :
    ∀ event ∈ limiter.history ∅ calls, event.allowed = true := by
  intro event member
  obtain ⟨before, later, split⟩ := List.append_of_mem member
  obtain ⟨moment, hits, accounted, passes, outcome⟩ := accounted_event positive ordered split
  rw [← Bool.not_eq_false]
  intro denied
  rw [outcome] at denied
  have full := accounted.limit_le_of_denied passes denied
  have admitted_le : countWithin limiter.window event.time (admitted event.key before) ≤
      before.countP fun other => other.key = event.key := by
    refine List.countP_le_length.trans ?_
    rw [admitted, List.length_map, ← List.countP_eq_length_filter]
    exact List.countP_mono_left fun other _ chosen => (Bool.and_eq_true_iff.mp chosen).2
  have total : (calls.countP fun call => call.key = event.key) =
      (before.countP fun other => other.key = event.key) +
        ((later.countP fun other => other.key = event.key) + 1) := by
    rw [← limiter.history_map ∅ calls, List.countP_map, split, List.countP_append,
      List.countP_cons_of_pos (by simp)]
    rfl
  have room := few event.key
  rw [total] at room
  omega

end

/-- A call whose pruned queue is the same has the same outcome, if it does not clean up. -/
theorem event_of_pruned {hits alone : Hits Time} {call : Call Time}
    (same : limiter.pruned alone call = limiter.pruned hits call)
    (kept : limiter.cleans hits call = false) (small : limiter.cleans alone call = false) :
    limiter.event alone call = limiter.event hits call := by
  have answer : (limiter.allow alone call).1 = (limiter.allow hits call).1 := by
    simp only [allow, same]
    split_ifs <;> rfl
  simp only [event, answer, kept, small]

/-- A call whose queue is the same has the same outcome and leaves the same queue, if it does not
clean up. -/
theorem event_congr {hits alone : Hits Time} {call : Call Time}
    (same : alone.queue call.key = hits.queue call.key)
    (kept : limiter.cleans hits call = false) (small : limiter.cleans alone call = false) :
    limiter.event alone call = limiter.event hits call ∧
      (limiter.allow alone call).2.queue call.key = (limiter.allow hits call).2.queue call.key := by
  have pruned : limiter.pruned alone call = limiter.pruned hits call := by
    rw [RateLimiter.pruned, RateLimiter.pruned, same]
  have outcome := event_of_pruned pruned kept small
  have answer : (limiter.allow alone call).1 = (limiter.allow hits call).1 :=
    congrArg Event.allowed outcome
  constructor
  · exact outcome
  · by_cases positive : 0 < limiter.limit
    · cases allowed : (limiter.allow hits call).1 with
      | false =>
          rw [(denied_spec allowed).2.2.2, (denied_spec (answer.trans allowed)).2.2.2, pruned]
          simp
      | true =>
          obtain ⟨_, ⟨cleaned, _⟩ | ⟨_, left⟩⟩ := allowed_spec positive allowed
          · cases kept.symm.trans cleaned
          · obtain ⟨_, ⟨cleaned, _⟩ | ⟨_, leftAlone⟩⟩ :=
              allowed_spec positive (answer.trans allowed)
            · cases small.symm.trans cleaned
            · rw [left, leftAlone, filled, filled, pruned]
              simp
    · have disabled := not_lt.mp positive
      have left : limiter.allow hits call = (true, hits) := if_pos disabled
      have leftAlone : limiter.allow alone call = (true, alone) := if_pos disabled
      rw [left, leftAlone]
      exact same

/-- A table with one key is not cleaned up. -/
theorem cleans_alone {alone : Hits Time} {call : Call Time}
    (own : ∀ key ∈ alone.keys, key = call.key) : limiter.cleans alone call = false := by
  have few : (limiter.filled alone call).keys.length ≤ [call.key].length := by
    refine List.Subperm.length_le
      (List.subperm_of_subset (AList.keys_nodup _) fun key member => List.mem_singleton.mpr ?_)
    rcases (AList.mem_insert _).mp (AList.mem_keys.mpr member) with same | old
    · exact same
    · exact own key old
  have calm : (limiter.filled alone call).crowded = false := by
    simp only [Hits.crowded, decide_eq_false_iff_not]
    rw [List.length_singleton] at few
    omega
  simp [cleans, calm]

/-- The calls with a key have the outcomes that they have alone, if every clean-up is by a call
with another key and finds no time of the key in its window. -/
theorem history_filter [IsOrderedAddMonoid Time] (positive : 0 < limiter.limit) (key : String)
    {calls : List (Call Time)}
    (ordered : calls.Pairwise fun first second => first.time ≤ second.time)
    {hits alone : Hits Time} {moment : Time} {log : List Time}
    (passes : ∀ call ∈ calls, moment ≤ call.time) (past : ∀ time ∈ log, time ≤ moment)
    (queued : Represents limiter.window moment (hits.queue key) log)
    (queuedAlone : Represents limiter.window moment (alone.queue key) log)
    (own : ∀ other ∈ alone.keys, other = key)
    (spared : ∀ before event later, limiter.history hits calls = before ++ event :: later →
      event.cleaned = true → event.key ≠ key ∧
        countWithin limiter.window event.time (log ++ admitted key before) = 0) :
    ((limiter.history hits calls).filter fun event => event.key = key) =
      limiter.history alone (calls.filter fun call => call.key = key) := by
  induction calls generalizing hits alone moment log with
  | nil => rfl
  | cons call calls inductionHypothesis =>
      obtain ⟨first, ordered⟩ := List.pairwise_cons.mp ordered
      have passed := passes call List.mem_cons_self
      have sparedRest : ∀ before event later,
          limiter.history (limiter.allow hits call).2 calls = before ++ event :: later →
            event.cleaned = true → event.key ≠ key ∧ countWithin limiter.window event.time
              ((log ++ admitted key [limiter.event hits call]) ++ admitted key before) = 0 := by
        intro before event later split cleaned
        rw [List.append_assoc, ← admitted_append]
        exact spared (limiter.event hits call :: before) event later
          (congrArg (limiter.event hits call :: ·) split) cleaned
      have pastRest : ∀ time ∈ log ++ admitted key [limiter.event hits call],
          time ≤ call.time := by
        intro time member
        rcases List.mem_append.mp member with old | new
        · exact (past time old).trans passed
        · exact le_of_eq (List.mem_singleton.mp ((admitted_sublist key _).subset new))
      by_cases mine : call.key = key
      · have keeps : limiter.cleans hits call = false := by
          rw [Bool.eq_false_iff]
          exact fun cleaned => (spared [] (limiter.event hits call) _ rfl cleaned).1 mine
        subst mine
        have small : limiter.cleans alone call = false := cleans_alone own
        have outcome := event_of_pruned
          ((queuedAlone.recent_eq passed).trans (queued.recent_eq passed).symm) keeps small
        have queuedRest := represents_allow positive small queuedAlone passed
        rw [outcome] at queuedRest
        rw [history, List.filter_cons_of_pos (by simp [event]),
          List.filter_cons_of_pos (by simp), history, outcome,
          inductionHypothesis ordered first pastRest
            (represents_allow positive keeps queued passed) queuedRest ?_ sparedRest]
        intro other member
        rcases keys_allow member with new | old
        · exact new
        · exact own other old
      · have none : admitted key [limiter.event hits call] = [] := admitted_singleton_of_ne mine
        rw [none, List.append_nil] at pastRest sparedRest
        rw [history, List.filter_cons_of_neg (by simp [event, mine]),
          List.filter_cons_of_neg (by simp [mine])]
        refine inductionHypothesis ordered first pastRest ?_ (queuedAlone.mono passed) own
          sparedRest
        cases cleaned : limiter.cleans hits call with
        | false =>
            have queuedRest := represents_allow positive cleaned queued passed
            rwa [none, List.append_nil] at queuedRest
        | true =>
            have expired : countWithin limiter.window call.time (log ++ admitted key []) = 0 :=
              (spared [] (limiter.event hits call) _ rfl cleaned).2
            rw [left_of_cleaned cleaned]
            exact Represents.nil pastRest (by simpa [admitted] using expired)

/-- After a clean-up the calls have the outcomes that they have from the start. -/
theorem history_of_cleaned {hits : Hits Time} {calls : List (Call Time)}
    {before later : List (Event Time)} {event : Event Time}
    (split : limiter.history hits calls = before ++ event :: later)
    (cleaned : event.cleaned = true) :
    later = limiter.history ∅ (later.map Event.toCall) := by
  induction calls generalizing hits before with
  | nil => simp [history] at split
  | cons call calls inductionHypothesis =>
      cases before with
      | nil =>
          obtain ⟨same, rest⟩ := List.cons.inj split
          have cleans : limiter.cleans hits call = true :=
            (congrArg Event.cleaned same).trans cleaned
          rw [← rest, history_map, left_of_cleaned cleans]
      | cons head before => exact inductionHypothesis (List.cons.inj split).2

/-- Of ordered calls, no key is allowed more often in a window than the limit for the window and
for each clean-up in it; a clean-up takes more than 50 000 keys since the last one; a denied call
has the limit of allowed calls of its key in its window; the calls with a key have the outcomes
that they have alone, if every clean-up is by a call with another key and finds no allowed call of
the key in its window; and after a clean-up the calls have the outcomes of a new limiter. -/
theorem allow_budget [IsOrderedAddMonoid Time] (limiter : RateLimiter Time)
    (positive : 0 < limiter.limit) (calls : List (Call Time))
    (ordered : calls.Pairwise fun first second => first.time ≤ second.time) :
    (∀ key moment,
      (countWithin limiter.window moment (admitted key (limiter.history ∅ calls)) : Int) ≤
        limiter.limit *
          (countWithin limiter.window moment (cleanings (limiter.history ∅ calls)) + 1)) ∧
    (∀ before event later, limiter.history ∅ calls = before ++ event :: later →
      event.cleaned = true → 50000 <
        ((sinceCleaning before ++ [event]).map fun event => event.key).dedup.length) ∧
    (∀ before event later, limiter.history ∅ calls = before ++ event :: later →
      event.allowed = false →
        limiter.limit ≤ countWithin limiter.window event.time (admitted event.key before)) ∧
    (∀ key, (∀ before event later, limiter.history ∅ calls = before ++ event :: later →
        event.cleaned = true → event.key ≠ key ∧
          countWithin limiter.window event.time (admitted key before) = 0) →
      ((limiter.history ∅ calls).filter fun event => event.key = key) =
        limiter.history ∅ (calls.filter fun call => call.key = key)) ∧
    (∀ before event later, limiter.history ∅ calls = before ++ event :: later →
      event.cleaned = true → later = limiter.history ∅ (later.map Event.toCall)) := by
  obtain ⟨start, starts⟩ := exists_start ordered
  refine ⟨fun key moment => ?_, fun before event later split cleaned => ?_,
    fun before event later split denied => ?_, fun key spared => ?_,
    fun before event later split cleaned => history_of_cleaned split cleaned⟩
  · obtain ⟨last, accounted, _⟩ := (Accounted.initial limiter start).run positive ordered starts
    have bounded := accounted.bounded key moment
    zify at bounded
    rwa [Int.toNat_of_nonneg positive.le] at bounded
  · obtain ⟨moment, hits, accounted, passes, outcome⟩ := accounted_event positive ordered split
    rw [outcome] at cleaned ⊢
    exact accounted.crowded_of_cleaned cleaned
  · obtain ⟨moment, hits, accounted, passes, outcome⟩ := accounted_event positive ordered split
    rw [outcome] at denied
    exact accounted.limit_le_of_denied passes denied
  · exact history_filter positive key ordered starts (by simp) (Represents.refl _ _ _)
      (Represents.refl _ _ _) (by simp) spared

/-- Calls of two keys, with two calls of a key in a minute. -/
def sampleCalls : List (Call Int) := [⟨"a", 0⟩, ⟨"a", 10⟩, ⟨"a", 20⟩, ⟨"b", 20⟩, ⟨"a", 61⟩]

/-- The third call in a minute is denied, and none of another key is. -/
theorem allow_budget_sample :
    ((history ⟨2, 60⟩ ∅ sampleCalls).map fun event => event.allowed) =
        [true, true, false, true, true] ∧
      (countWithin 60 61 (admitted "a" (history ⟨2, 60⟩ ∅ sampleCalls)) : Int) ≤
        2 * (countWithin 60 61 (cleanings (history ⟨2, 60⟩ ∅ sampleCalls)) + 1) ∧
      ((history ⟨2, 60⟩ ∅ sampleCalls).filter fun event => event.key = "b") =
        history ⟨2, 60⟩ ∅ (sampleCalls.filter fun call => call.key = "b") := by
  obtain ⟨bounded, _, _, alone, _⟩ := allow_budget ⟨2, 60⟩ (by decide) sampleCalls (by decide)
  have kept : ∀ event ∈ history ⟨2, 60⟩ ∅ sampleCalls, event.cleaned = false := by decide +kernel
  refine ⟨by decide +kernel, bounded "a" 61, alone "b" fun before event later split cleaned => ?_⟩
  have member : event ∈ history ⟨2, 60⟩ ∅ sampleCalls := by simp [split]
  exact absurd ((kept event member).symm.trans cleaned) (by decide)

/-! ## Too many keys -/

theorem history_append (hits : Hits Time) (first second : List (Call Time)) :
    limiter.history hits (first ++ second) =
      limiter.history hits first ++ limiter.history (limiter.after hits first) second := by
  induction first generalizing hits with
  | nil => rfl
  | cons call first inductionHypothesis => exact congrArg _ (inductionHypothesis _)

/-- A call with a new key is allowed. -/
theorem allow_new (positive : 0 < limiter.limit) (call : Call Time) {hits : Hits Time}
    (fresh : call.key ∉ hits.keys) :
    limiter.allow hits call =
      (true, if (limiter.filled hits call).crowded then ∅ else limiter.filled hits call) ∧
      (limiter.filled hits call).keys.length = hits.keys.length + 1 := by
  have unknown : hits.lookup call.key = none := AList.lookup_eq_none.mpr fresh
  have pruned : limiter.pruned hits call = [] := by
    simp [RateLimiter.pruned, Hits.queue, unknown, recent]
  constructor
  · unfold allow
    rw [if_neg (not_le.mpr positive), pruned, if_neg (by simpa using positive)]
    split_ifs <;> rfl
  · rw [filled, AList.keys_insert, List.erase_of_not_mem fresh, List.length_cons]

/-- As many new keys as there is room for are all in the table. -/
theorem after_new (positive : 0 < limiter.limit) (time : Time) (hits : Hits Time)
    {keys : List String} (different : keys.Nodup) (fresh : ∀ key ∈ keys, key ∉ hits.keys)
    (room : hits.keys.length + keys.length ≤ 50000) :
    (limiter.after hits (keys.map fun key => ⟨key, time⟩)).keys.length =
        hits.keys.length + keys.length ∧
      ∀ key ∈ (limiter.after hits (keys.map fun key => ⟨key, time⟩)).keys,
        key ∈ keys ∨ key ∈ hits.keys := by
  induction keys generalizing hits with
  | nil => exact ⟨rfl, fun key member => .inr member⟩
  | cons key keys inductionHypothesis =>
      obtain ⟨other, different⟩ := List.nodup_cons.mp different
      obtain ⟨answer, length⟩ := allow_new positive ⟨key, time⟩
        (fresh key List.mem_cons_self)
      have calm : (limiter.filled hits ⟨key, time⟩).crowded = false := by
        simp only [Hits.crowded, decide_eq_false_iff_not, length]
        rw [List.length_cons] at room
        omega
      have next : limiter.after hits ((key :: keys).map fun key => ⟨key, time⟩) =
          limiter.after (limiter.filled hits ⟨key, time⟩) (keys.map fun key => ⟨key, time⟩) := by
        rw [List.map_cons, after, List.foldl_cons, answer, calm]
        rfl
      have known : ∀ name ∈ (limiter.filled hits ⟨key, time⟩).keys, name = key ∨ name ∈ hits.keys :=
        fun name member => (AList.mem_insert _).mp (AList.mem_keys.mpr member)
      have apart : ∀ name ∈ keys, name ∉ (limiter.filled hits ⟨key, time⟩).keys := by
        intro name member old
        rcases known name old with same | old
        · exact other (same ▸ member)
        · exact fresh name (List.mem_cons_of_mem _ member) old
      rw [List.length_cons] at room
      obtain ⟨size, members⟩ := inductionHypothesis (limiter.filled hits ⟨key, time⟩) different
        apart (by omega)
      rw [next]
      refine ⟨?_, fun name member => ?_⟩
      · rw [size, length, List.length_cons]
        omega
      · rcases members name member with new | old
        · exact .inl (List.mem_cons_of_mem _ new)
        · rcases known name old with same | old
          · exact .inl (same ▸ List.mem_cons_self)
          · exact .inr old

/-- Once one key too many has been used, all queues are gone. -/
theorem after_crowd (positive : 0 < limiter.limit) (time : Time) {keys : List String}
    (different : keys.Nodup) (many : keys.length = 50001) :
    limiter.after ∅ (keys.map fun key => ⟨key, time⟩) = ∅ := by
  obtain ⟨front, last, rfl⟩ : ∃ front last, keys = front ++ [last] :=
    ⟨_, _, (List.dropLast_append_getLast (List.ne_nil_of_length_eq_add_one many)).symm⟩
  have front_length : front.length = 50000 := by simpa using many
  obtain ⟨distinct, _, apart⟩ := List.nodup_append.mp different
  obtain ⟨size, members⟩ := after_new positive time ∅ distinct
    (by simp) (by simp [front_length])
  have fresh : last ∉ (limiter.after ∅ (front.map fun key => ⟨key, time⟩)).keys := by
    intro old
    rcases members last old with same | none
    · exact apart last same last (List.mem_singleton.mpr rfl) rfl
    · simp at none
  obtain ⟨answer, length⟩ := allow_new positive ⟨last, time⟩ fresh
  have crowded : (limiter.filled (limiter.after ∅ (front.map fun key => ⟨key, time⟩))
      ⟨last, time⟩).crowded = true := by
    simp only [Hits.crowded, decide_eq_true_eq, length, size, front_length]
    simp
  have next : limiter.after ∅ ((front ++ [last]).map fun key => ⟨key, time⟩) =
      (limiter.allow (limiter.after ∅ (front.map fun key => ⟨key, time⟩)) ⟨last, time⟩).2 := by
    simp [after]
  rw [next, answer, if_pos crowded]

/-- Different keys, one more than the table holds. -/
def spoofedKeys : List String :=
  (List.range 50001).map fun count => String.ofList (List.replicate count 'x')

theorem spoofedKeys_nodup : spoofedKeys.Nodup := by
  refine List.Nodup.map (fun first second same => ?_) List.nodup_range
  have lengths := congrArg List.length (String.ofList_injective same)
  simpa using lengths

theorem spoofedKeys_length : spoofedKeys.length = 50001 := by simp [spoofedKeys]

theorem spoofedKeys_cons : ∃ others, spoofedKeys = "" :: others := by
  unfold spoofedKeys
  rw [List.range_succ_eq_map]
  exact ⟨_, rfl⟩

/-- A key that has used up its budget has a new one after enough calls with other keys. -/
theorem allow_budget_fails :
    ¬∀ (limiter : RateLimiter Int) (calls : List (Call Int)), 0 < limiter.limit →
      calls.Pairwise (fun first second => first.time ≤ second.time) →
      (∀ key moment,
        (countWithin limiter.window moment (admitted key (limiter.history ∅ calls)) : Int) ≤
          limiter.limit) ∧
      (∀ before event later, limiter.history ∅ calls = before ++ event :: later →
        event.allowed = false →
          limiter.limit ≤ countWithin limiter.window event.time (admitted event.key before)) ∧
      (∀ key, ((limiter.history ∅ calls).filter fun event => event.key = key) =
        limiter.history ∅ (calls.filter fun call => call.key = key)) := by
  intro budget
  have bound : (countWithin 60 0 (admitted "" (history ⟨1, (60 : Int)⟩ ∅
      ((spoofedKeys ++ [""]).map fun key => ⟨key, 0⟩))) : Int) ≤ (1 : Nat) :=
    (budget ⟨1, 60⟩ ((spoofedKeys ++ [""]).map fun key => ⟨key, 0⟩) Int.one_pos
      (List.pairwise_map.mpr (List.pairwise_of_forall fun _ _ => le_rfl))).1 "" 0
  have crowd : after ⟨1, 60⟩ ∅ (spoofedKeys.map fun key => ⟨key, (0 : Int)⟩) = ∅ :=
    after_crowd Int.one_pos 0 spoofedKeys_nodup spoofedKeys_length
  obtain ⟨others, split⟩ := spoofedKeys_cons
  have again : countWithin 60 0 (admitted "" (history ⟨1, (60 : Int)⟩ ∅ [⟨"", 0⟩])) = 1 := by
    decide +kernel
  have once : 1 ≤ countWithin 60 0 (admitted "" (history ⟨1, (60 : Int)⟩ ∅
      (spoofedKeys.map fun key => ⟨key, 0⟩))) := by
    rw [split, List.map_cons, ← List.singleton_append, history_append, admitted_append,
      countWithin_append, again]
    exact Nat.le_add_right ..
  have joined : history ⟨1, (60 : Int)⟩ ∅ ((spoofedKeys ++ [""]).map fun key => ⟨key, 0⟩) =
      history ⟨1, 60⟩ ∅ (spoofedKeys.map fun key => ⟨key, 0⟩) ++
        history ⟨1, 60⟩ ∅ [⟨"", 0⟩] := by
    rw [List.map_append, history_append, crowd]
    rfl
  rw [joined, admitted_append, countWithin_append] at bound
  have atMost := Int.ofNat_le.mp bound
  rw [again] at atMost
  omega

end RateLimiter

end Guards

end ControlPlane
