import ControlPlane.Delivery.Handlers
import ControlPlane.Library.PythonText

/-!
# The outbox worker

Any number of processes run `run_once`: they put stale claims back into the
queue, claim a batch, and handle its events one after the other. A pass is a
sequence of short transactions, and other passes, other sessions and the clock
move between any two of them; a pass may end anywhere in a crash.

A session keeps the attributes of an event as it loaded them and writes only
those that it changes. A rollback expires the attributes of all its events,
which are then loaded again when they are needed.
-/

namespace ControlPlane

open ReadCommitted Orm PythonText

/-! ## Transactions -/

/-- The unit of work sends an attribute only when its value changed. -/
def assigned {α : Type} [DecidableEq α] (loaded value : α) : Option α :=
  if loaded = value then none else some value

/-- Either way the attribute ends with the assigned value, where it is as it was loaded. -/
@[simp] theorem assigned_getD {α : Type} [DecidableEq α] (loaded value : α) :
    (assigned loaded value).getD loaded = value := by
  unfold assigned
  split
  · exact ‹_›
  · rfl

namespace Outbox

/-- What `claim` assigns. -/
def claim (workerId : String) (time : Time) (event : Outbox) : OutboxColumns :=
  { status := assigned event.status .claimed
    claimedBy := assigned event.claimedBy (some workerId)
    claimedAt := assigned event.claimedAt (some time) }

/-- What `complete` assigns. -/
def complete (event : Outbox) : OutboxColumns :=
  { status := assigned event.status .done, lastError := assigned event.lastError none }

/-- Seconds until the next attempt. -/
def backoffSeconds (env : Env) (attempts : Nat) : Int :=
  min (env.baseBackoffSeconds * Nat.pow 2 (attempts - 1)) env.maxBackoffSeconds

/-- Another failed attempt is the last one. -/
def exhausted (env : Env) (event : Outbox) : Bool :=
  env.maxAttempts ≤ (event.attempts + 1 : Nat)

/-- What `retry` assigns. -/
def retry (env : Env) (time : Time) (error : String) (event : Outbox) : OutboxColumns :=
  { attempts := some (event.attempts + 1)
    lastError := assigned event.lastError (some (truncate 2000 error))
    claimedBy := assigned event.claimedBy none
    claimedAt := assigned event.claimedAt none
    status := assigned event.status (if event.exhausted env then .dead else .pending)
    nextAttemptAt := if event.exhausted env then none
      else assigned event.nextAttemptAt
        (time + backoffSeconds env (event.attempts + 1) * 1000000) }

/-- What `reclaim_stale` assigns. -/
def reclaim (event : Outbox) : OutboxColumns :=
  { status := assigned event.status .pending
    claimedBy := assigned event.claimedBy none
    claimedAt := assigned event.claimedAt none }

/-- `ORDER BY next_attempt_at, id`. -/
def dueLe (first second : Outbox) : Prop :=
  first.nextAttemptAt < second.nextAttemptAt ∨
    first.nextAttemptAt = second.nextAttemptAt ∧ first.id ≤ second.id

instance : DecidableRel dueLe := fun _ _ => inferInstanceAs (Decidable (_ ∨ _ ∧ _))

/-- The row that `enqueue` inserts. -/
def Queued (row : Outbox) : Prop :=
  row = ⟨row.id, row.topic, row.aggregateId, row.payload, .pending, 0, row.nextAttemptAt, none,
    none, none⟩

instance (row : Outbox) : Decidable row.Queued := inferInstanceAs (Decidable (_ = _))

end Outbox

/-- The statements of the other sessions: of the queue they only insert new events. -/
def Queues : Database.Write → Prop
  | .insert .outbox row => row.Queued
  | .update .outbox _ _ | .delete .outbox _ => False
  | _ => True

instance (statement : Database.Write) : Decidable (Queues statement) := by
  unfold Queues
  split <;> infer_instance

namespace Db

/-- What `reclaim_stale` reads. -/
def staleClaims (env : Env) (time : Time) (db : Db) : List Outbox :=
  db.outbox.filter fun row => row.status = .claimed &&
    row.claimedAt.any fun claimedAt => claimedAt ≤ time - env.claimTimeoutSeconds * 1000000

/-- What `claim` reads, when the rows in `skipped` are locked by others. -/
def claimable (time : Time) (skipped : List Id) (limit : Nat) (db : Db) : List Outbox :=
  ((db.outbox.filter fun row => row.status = .pending && row.nextAttemptAt ≤ time &&
    row.id ∉ skipped).insertionSort Outbox.dueLe).take limit

end Db

/-! ## Passes -/

/-- An event in the hands of a pass, with its attributes as far as they are loaded. -/
structure Event where
  id : Id
  loaded : Option Outbox
  own : ∀ row, loaded = some row → row.id = id

/-- A rollback expires what was loaded. -/
def Event.expire (event : Event) : Event := ⟨event.id, none, by simp⟩

@[simp] theorem Event.expire_id (event : Event) : event.expire.id = event.id := rfl

/-- A row that was just claimed, with what was assigned. -/
def Event.ofClaim (workerId : String) (time : Time) (row : Outbox) : Event :=
  ⟨row.id, some (@Table.change .outbox (row.claim workerId time) row), by rintro _ ⟨⟩; rfl⟩

/-- Where a pass is. -/
inductive Phase
  /-- `reclaim_stale` has read stale claims and is about to put them back. -/
  | reclaiming (stale : List Outbox)
  | claiming
  /-- At the head of the loop over the claimed events. -/
  | ready (batch : List Event)
  | handling (event : Outbox) (rest : List Event)
  /-- The handler has returned. -/
  | handled (event : Outbox) (rest : List Event)
  /-- The handler has raised, and the transaction is rolled back. -/
  | failed (id : Id) (error : String) (rest : List Event)
  /-- `retry` has the attributes of the event and is about to write. -/
  | retrying (event : Outbox) (error : String) (rest : List Event)

/-- One call of `run_once`. -/
structure Pass where
  workerId : String
  limit : Nat
  phase : Phase

/-- The database, the clock and the running passes; `ι` names the processes. -/
structure Fleet (ι : Type) where
  db : Db
  time : Time
  passes : ι → Option Pass

/-- What can happen next. -/
inductive Action (ι : Type)
  | tick (later : Time)
  /-- Another session commits. -/
  | commit (log : List Database.Write)
  | opens (process : ι) (workerId : String) (limit : Nat)
  | reclaims (process : ι)
  /-- `skipped` are the rows that others have locked. -/
  | claims (process : ι) (skipped : List Id)
  | takes (process : ι)
  /-- The handler ends, by what the outside world answers. -/
  | finishes (process : ι) (answers : Answers Database) (error : String)
  | completes (process : ι) (error : String)
  | reloads (process : ι)
  | retries (process : ι)
  | crashes (process : ι)

namespace Fleet

variable {ι : Type}

/-- No process runs yet. -/
def initial (db : Db) (time : Time) : Fleet ι := ⟨db, time, fun _ => none⟩

variable [DecidableEq ι]

/-- Replace one pass. -/
def put (fleet : Fleet ι) (process : ι) (pass : Option Pass) : Fleet ι :=
  { fleet with passes := Function.update fleet.passes process pass }

/-- One transaction of a pass, which goes on in one phase or another. -/
def transact (fleet : Fleet ι) (process : ι) (log : List Database.Write)
    (committed refused : Option Pass) : Fleet ι :=
  if acceptsAll (S := Database) log fleet.db then
    { (fleet.put process committed) with db := replay (S := Database) log fleet.db }
  else fleet.put process refused

/-- The next event of a batch: its handler starts, or there is none. -/
def take (env : Env) (pass : Pass) (db : Db) : List Event → Option Pass
  | [] => none
  | event :: rest =>
      (event.loaded.or (db.find .outbox event.id)).map fun row =>
        { pass with
          phase := if (handlers env row.topic).isSome then .handling row rest
            else .retrying row ("no handler for topic " ++ row.topic) rest }

/-- The end of a handler. -/
def finish (env : Env) (answers : Answers Database) (error : String) (pass : Pass)
    (event : Outbox) (rest : List Event) (db : Db) : Db × Pass :=
  match handlers env event.topic with
  | none => (db, pass)
  | some handler =>
      match (handler event).serve answers db with
      | (.ok _, later) => (later, { pass with phase := .handled event rest })
      | (.error _, later) =>
          (later, { pass with phase := .failed event.id error (rest.map Event.expire) })

/-- One step of one process, or of the world around. -/
def step (env : Env) (fleet : Fleet ι) : Action ι → Option (Fleet ι)
  | .tick later => if fleet.time ≤ later then some { fleet with time := later } else none
  | .commit log =>
      if (∀ statement ∈ log, Queues statement) ∧
          acceptsAll (S := Database) log fleet.db = true then
        some { fleet with db := replay (S := Database) log fleet.db }
      else none
  | .opens process workerId limit =>
      match fleet.passes process with
      | none => some (fleet.put process
          (some ⟨workerId, limit, .reclaiming (fleet.db.staleClaims env fleet.time)⟩))
      | some _ => none
  | .reclaims process =>
      match fleet.passes process with
      | some ⟨workerId, limit, .reclaiming stale⟩ =>
          some (fleet.transact process (stale.map fun row => .update .outbox row.id row.reclaim)
            (some ⟨workerId, limit, .claiming⟩) none)
      | _ => none
  | .claims process skipped =>
      match fleet.passes process with
      | some ⟨workerId, limit, .claiming⟩ =>
          let rows := fleet.db.claimable fleet.time skipped limit
          some (fleet.transact process
            (rows.map fun row => .update .outbox row.id (row.claim workerId fleet.time))
            (some ⟨workerId, limit, .ready (rows.map (Event.ofClaim workerId fleet.time))⟩) none)
      | _ => none
  | .takes process =>
      match fleet.passes process with
      | some ⟨workerId, limit, .ready batch⟩ =>
          some (fleet.put process (take env ⟨workerId, limit, .ready batch⟩ fleet.db batch))
      | _ => none
  | .finishes process answers error =>
      match fleet.passes process with
      | some ⟨workerId, limit, .handling event rest⟩ =>
          let outcome := finish env answers error ⟨workerId, limit, .handling event rest⟩ event
            rest fleet.db
          some { (fleet.put process (some outcome.2)) with db := outcome.1 }
      | _ => none
  | .completes process error =>
      match fleet.passes process with
      | some ⟨workerId, limit, .handled event rest⟩ =>
          some (fleet.transact process [.update .outbox event.id event.complete]
            (some ⟨workerId, limit, .ready rest⟩)
            (some ⟨workerId, limit, .failed event.id error (rest.map Event.expire)⟩))
      | _ => none
  | .reloads process =>
      match fleet.passes process with
      | some ⟨workerId, limit, .failed id error rest⟩ =>
          some (fleet.put process ((fleet.db.find .outbox id).map fun row =>
            ⟨workerId, limit, .retrying row error rest⟩))
      | _ => none
  | .retries process =>
      match fleet.passes process with
      | some ⟨workerId, limit, .retrying event error rest⟩ =>
          some (fleet.transact process
            [.update .outbox event.id (event.retry env fleet.time error)]
            (some ⟨workerId, limit, .ready rest⟩) none)
      | _ => none
  | .crashes process =>
      match fleet.passes process with
      | some _ => some (fleet.put process none)
      | none => none

/-- The steps that are possible while a condition is met. -/
def Moves (env : Env) (condition : Fleet ι → Action ι → Prop) (fleet later : Fleet ι) : Prop :=
  ∃ action, condition fleet action ∧ fleet.step env action = some later

/-- The states that steps under a condition lead to. -/
def Reachable (env : Env) (condition : Fleet ι → Action ι → Prop) (first last : Fleet ι) : Prop :=
  Relation.ReflTransGen (Moves env condition) first last

/-- Take several steps. -/
def run (env : Env) : List (Action ι) → Fleet ι → Option (Fleet ι)
  | [], fleet => some fleet
  | action :: actions, fleet => (fleet.step env action).bind (run env actions)

/-- Two runs in a row. -/
theorem run_append (env : Env) (early late : List (Action ι)) (fleet : Fleet ι) :
    run env (early ++ late) fleet = (run env early fleet).bind (run env late) := by
  induction early generalizing fleet with
  | nil => rfl
  | cons action early inductionHypothesis =>
      rw [List.cons_append, run, run, Option.bind_assoc]
      exact congrArg _ (funext inductionHypothesis)

/-- A list of steps that are allowed anywhere is a run. -/
theorem reachable_run {env : Env} {condition : Fleet ι → Action ι → Prop}
    {actions : List (Action ι)} {first last : Fleet ι}
    (allowed : ∀ action ∈ actions, ∀ fleet, condition fleet action)
    (runs : run env actions first = some last) : Reachable env condition first last := by
  induction actions generalizing first with
  | nil =>
      cases runs
      exact .refl
  | cons action actions inductionHypothesis =>
      obtain ⟨next, taken, rest⟩ := Option.bind_eq_some_iff.mp runs
      refine .head ⟨action, allowed action List.mem_cons_self first, taken⟩ ?_
      exact inductionHypothesis
        (fun other member => allowed other (List.mem_cons_of_mem _ member)) rest

/-- Some run satisfies what a list of steps leads to. -/
theorem exists_run (env : Env) (condition : Fleet ι → Action ι → Prop)
    (actions : List (Action ι)) (first : Fleet ι) (property : Fleet ι → Bool)
    (allowed : ∀ action ∈ actions, ∀ fleet, condition fleet action)
    (runs : (run env actions first).any property = true) :
    ∃ last, Reachable env condition first last ∧ property last = true := by
  cases outcome : run env actions first with
  | none => simp [outcome] at runs
  | some last => exact ⟨last, reachable_run allowed outcome, by simpa [outcome] using runs⟩

end Fleet

end ControlPlane
