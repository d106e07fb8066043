import ControlPlane.Delivery.Waiting

/-!
# Runs of the fleet

When every event can go back into the queue and every claim is respected, and
the two runs of the sample workspace in which that fails: an event queued while
another one of its aggregate is claimed, and a worker slower than the timeout
of its claims.
-/

namespace ControlPlane

open ReadCommitted Orm

/-! ## Runs of the sample workspace -/

namespace Sample

open Fleet

/-- A hold of the sample binding, as `enqueue` inserts it. -/
def hold (id : Id) : Database.Write :=
  .insert .outbox ⟨id, "billing.hold_required", "binding", .hold "shop" 0, .pending, 0, 0, none,
    none, none⟩

/-- An outside world in which Telegram cannot be reached. -/
def silent : Answers Database
  | .sendMessage _, _ => false
  | query, count => answers query count

/-- A hold is queued, and a process is about to look for stale claims. -/
def queueing : List (Action ℕ) := [.commit [hold "first"], .opens 0 "slow" 10]

/-- The process claims the hold and starts to handle it. -/
def claiming : List (Action ℕ) := [.reclaims 0, .claims 0 [], .takes 0]

/-- A worker that opens a pass, claims what waits and starts to handle it. -/
def working : List (Action ℕ) := .opens 0 "worker" 10 :: claiming

/-- Its handler returns. -/
def delivering : List (Action ℕ) := [.finishes 0 answers "", .completes 0 ""]

/-- Its handler fails, and it is about to retry. -/
def failing : List (Action ℕ) := [.finishes 0 silent "telegram unreachable", .reloads 0]

/-- Meanwhile the claim times out, and another process delivers the event. -/
def overtaking : List (Action ℕ) :=
  [.tick 301000000, .opens 1 "fast" 10, .reclaims 1, .claims 1 [], .takes 1,
    .finishes 1 answers "", .completes 1 ""]

end Sample

namespace Fleet

variable {ι : Type} [DecidableEq ι] {env : Env} {db : Db} {time : Time}

/-- While nothing is queued for an aggregate whose event is claimed or in the hands of a pass,
the unique index lets every event go back into the queue. -/
theorem returns_to_queue (integrity : Integrity db) (empty : db.outbox = []) {last : Fleet ι}
    (reached : Reachable env QueuesIdle (initial db time) last) {process : ι} {pass : Pass}
    (found : last.passes process = some pass) :
    unoccupiedAll (pass.phase.putsBack env last.time) last.db = true := by
  have orderly := (Orderly.initial integrity empty time).reachable reached
  obtain ⟨workerId, limit, phase⟩ := pass
  cases phase with
  | reclaiming stale =>
      exact orderly.lone.unoccupiedAll _ fun row member =>
        ⟨process, _, found, .inr (List.mem_map_of_mem member)⟩
  | retrying event error rest =>
      refine orderly.lone.unoccupiedAll _ fun row member => ⟨process, _, found, .inl ?_⟩
      rw [List.mem_singleton.mp member]
      exact List.mem_cons_self
  | claiming | ready | handling | handled | failed => rfl

open Sample in
/-- A hold of an idle binding that could not be delivered goes back. -/
theorem returns_to_queue_hold :
    ∃ (last : Fleet ℕ) (pass : Pass), last.passes 0 = some pass ∧
      (pass.phase.putsBack Sample.env last.time).length = 1 ∧
      unoccupiedAll (pass.phase.putsBack Sample.env last.time) last.db = true := by
  have queues : Moves Sample.env QueuesIdle (initial workspace 0)
      { (initial workspace 0 : Fleet ℕ) with
        db := replay (S := Database) [hold "first"] workspace } :=
    ⟨.commit [hold "first"], fun _ _ _ member => absurd member List.not_mem_nil,
      by rw [step]; exact if_pos ⟨by decide, by decide⟩⟩
  obtain ⟨last, reached, holds⟩ := exists_run Sample.env QueuesIdle
    (.opens 0 "slow" 10 :: claiming ++ failing)
    { (initial workspace 0 : Fleet ℕ) with
      db := replay (S := Database) [hold "first"] workspace }
    (fun last => (last.passes 0).any fun pass =>
      (pass.phase.putsBack Sample.env last.time).length = 1)
    (by simp [claiming, failing, QueuesIdle]) (by decide)
  simp only [Option.any_eq_true, decide_eq_true_eq] at holds
  obtain ⟨pass, found, length⟩ := holds
  exact ⟨last, pass, found, length,
    returns_to_queue Sample.integrity rfl (.head queues reached) found⟩

/-- While only abandoned claims are reclaimed, what is done or dead stays so, and only the
worker that a claimed event names works on it. -/
theorem claims_respected (integrity : Integrity db) {middle last : Fleet ι}
    (early : Reachable env ReclaimsAbandoned (initial db time) middle)
    (late : Reachable env ReclaimsAbandoned middle last) :
    KeepsFinal middle.db last.db ∧
      ∀ action process id, middle.worksOn action = some (process, id) →
        ∃ pass row, middle.passes process = some pass ∧
          middle.db.find .outbox id = some row ∧ row.status = .claimed ∧
          row.claimedBy = some pass.workerId := by
  have exclusive := (Exclusive.initial integrity time).reachable early
  refine ⟨exclusive.keepsFinal_reachable late, fun action process id works => ?_⟩
  obtain ⟨pass, found, member⟩ := mem_batch_of_worksOn works
  obtain ⟨row, foundRow, claimed, mine⟩ := exclusive.claimed process pass found id member
  exact ⟨pass, row, found, foundRow, claimed, mine⟩

open Sample in
/-- A second hold is queued while the first one is claimed; when delivery fails, the first one
cannot go back into the queue, and the pass aborts. -/
theorem returns_to_queue_fails :
    ∃ (last aborted : Fleet ℕ) (pass : Pass),
      Reachable Sample.env (fun _ _ => True) (initial workspace 0) last ∧
      last.passes 0 = some pass ∧
      unoccupiedAll (pass.phase.putsBack Sample.env last.time) last.db = false ∧
      last.step Sample.env (.retries 0) = some aborted ∧ (aborted.passes 0).isNone = true := by
  obtain ⟨last, reached, holds⟩ := exists_run Sample.env (fun _ _ => True)
    (queueing ++ claiming ++ [.commit [hold "second"]] ++ failing) (initial workspace 0)
    (fun last => (last.passes 0).any (fun pass =>
      !unoccupiedAll (pass.phase.putsBack Sample.env last.time) last.db) &&
      (last.step Sample.env (.retries 0)).any fun aborted => (aborted.passes 0).isNone)
    (fun _ _ _ => trivial) (by decide)
  simp only [Bool.and_eq_true, Option.any_eq_true, Bool.not_eq_true'] at holds
  obtain ⟨⟨pass, found, refused⟩, aborted, aborts, exhausted⟩ := holds
  exact ⟨last, aborted, pass, reached, found, refused, aborts, exhausted⟩

open Sample in
/-- A worker that is as quick as its claims respects them. -/
theorem claims_respected_hold :
    ∃ (middle last : Fleet ℕ) (pass : Pass) (row : Outbox),
      KeepsFinal middle.db last.db ∧ middle.passes 0 = some pass ∧
      middle.db.find .outbox "first" = some row ∧ row.status = .claimed ∧
      row.claimedBy = some pass.workerId := by
  obtain ⟨before, opened, holds⟩ := exists_run Sample.env ReclaimsAbandoned queueing
    (initial workspace 0)
    (fun before => (before.passes 0).any (fun pass => pass.phase.stale = []) &&
      (run Sample.env [.reclaims 0, .claims 0 []] before).any fun middle =>
        middle.worksOn (.takes 0) = some (0, "first") &&
          (run Sample.env [.takes 0, .finishes 0 answers "", .completes 0 ""] middle).isSome)
    (by simp [queueing, ReclaimsAbandoned]) (by decide)
  simp only [Bool.and_eq_true, Option.any_eq_true, decide_eq_true_eq] at holds
  obtain ⟨⟨opening, found, fresh⟩, middle, runs, works, delivered⟩ := holds
  obtain ⟨last, delivers⟩ := Option.isSome_iff_exists.mp delivered
  have abandoned : before.ReclaimsAbandoned (.reclaims 0) := by
    intro workerId limit stale same row member
    rw [found, Option.some.injEq] at same
    rw [same] at fresh
    have listed : row.id ∈ stale.map Outbox.id := List.mem_map_of_mem member
    rw [show stale.map Outbox.id = [] from fresh] at listed
    exact absurd listed List.not_mem_nil
  obtain ⟨next, reclaims, claims⟩ := Option.bind_eq_some_iff.mp runs
  have early : Reachable Sample.env ReclaimsAbandoned (initial workspace 0) middle :=
    (opened.tail ⟨.reclaims 0, abandoned, reclaims⟩).trans
      (reachable_run (by simp [ReclaimsAbandoned]) claims)
  obtain ⟨kept, mine⟩ := claims_respected Sample.integrity early
    (reachable_run (by simp [ReclaimsAbandoned]) delivers)
  obtain ⟨pass, row, foundPass, foundRow, claimed, holder⟩ := mine (.takes 0) 0 "first" works
  exact ⟨middle, last, pass, row, kept, foundPass, foundRow, claimed, holder⟩

open Sample in
/-- The hold is done, and then pending again: a slow worker retries what it no longer holds. -/
theorem claims_respected_fails :
    ∃ (middle last : Fleet ℕ) (finished again : Outbox),
      Reachable Sample.env (fun _ _ => True) (initial workspace 0) middle ∧
      Reachable Sample.env (fun _ _ => True) middle last ∧
      middle.db.find .outbox "first" = some finished ∧ finished.status = .done ∧
      last.db.find .outbox "first" = some again ∧ again.status = .pending := by
  obtain ⟨middle, early, holds⟩ := exists_run Sample.env (fun _ _ => True)
    (queueing ++ claiming ++ overtaking) (initial workspace 0)
    (fun middle => (middle.db.find .outbox "first").any (fun row => row.status = .done) &&
      (run Sample.env (failing ++ [.retries 0]) middle).any fun last =>
        (last.db.find .outbox "first").any fun row => row.status = .pending)
    (fun _ _ _ => trivial) (by decide)
  simp only [Bool.and_eq_true, Option.any_eq_true, decide_eq_true_eq] at holds
  obtain ⟨⟨finished, found, done⟩, last, runs, again, foundAgain, pending⟩ := holds
  exact ⟨middle, last, finished, again, early, reachable_run (fun _ _ _ => trivial) runs, found,
    done, foundAgain, pending⟩

end Fleet

end ControlPlane
