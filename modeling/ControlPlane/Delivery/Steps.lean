import ControlPlane.Delivery.Worker
import ControlPlane.Library.RunningAlone

/-!
# What a step of the fleet does

The steps that are possible, one by one, and what their transactions do to the
queue.
-/

namespace ControlPlane

open ReadCommitted Orm

namespace Fleet

variable {ι : Type} [DecidableEq ι] {env : Env} {fleet later : Fleet ι}

/-- Every possible step, with what enables it. -/
inductive Stepped (env : Env) (fleet : Fleet ι) : Action ι → Fleet ι → Prop
  | tick (time : Time) : fleet.time ≤ time →
      Stepped env fleet (.tick time) { fleet with time := time }
  | commit (log : List Database.Write) : (∀ statement ∈ log, Queues statement) →
      acceptsAll (S := Database) log fleet.db = true →
      Stepped env fleet (.commit log) { fleet with db := replay (S := Database) log fleet.db }
  | opens (process workerId limit) : fleet.passes process = none →
      Stepped env fleet (.opens process workerId limit) (fleet.put process
        (some ⟨workerId, limit, .reclaiming (fleet.db.staleClaims env fleet.time)⟩))
  | reclaims (process workerId limit stale) :
      fleet.passes process = some ⟨workerId, limit, .reclaiming stale⟩ →
      Stepped env fleet (.reclaims process) (fleet.transact process
        (stale.map fun row => .update .outbox row.id row.reclaim)
        (some ⟨workerId, limit, .claiming⟩) none)
  | claims (process skipped workerId limit) :
      fleet.passes process = some ⟨workerId, limit, .claiming⟩ →
      Stepped env fleet (.claims process skipped) (fleet.transact process
        ((fleet.db.claimable fleet.time skipped limit).map fun row =>
          .update .outbox row.id (row.claim workerId fleet.time))
        (some ⟨workerId, limit, .ready ((fleet.db.claimable fleet.time skipped limit).map
          (Event.ofClaim workerId fleet.time))⟩) none)
  | takes (process workerId limit batch) :
      fleet.passes process = some ⟨workerId, limit, .ready batch⟩ →
      Stepped env fleet (.takes process) (fleet.put process
        (take env ⟨workerId, limit, .ready batch⟩ fleet.db batch))
  | finishes (process answers error workerId limit event rest) :
      fleet.passes process = some ⟨workerId, limit, .handling event rest⟩ →
      Stepped env fleet (.finishes process answers error)
        { (fleet.put process (some (finish env answers error
            ⟨workerId, limit, .handling event rest⟩ event rest fleet.db).2)) with
          db := (finish env answers error ⟨workerId, limit, .handling event rest⟩ event rest
            fleet.db).1 }
  | completes (process error workerId limit event rest) :
      fleet.passes process = some ⟨workerId, limit, .handled event rest⟩ →
      Stepped env fleet (.completes process error) (fleet.transact process
        [.update .outbox event.id event.complete] (some ⟨workerId, limit, .ready rest⟩)
        (some ⟨workerId, limit, .failed event.id error (rest.map Event.expire)⟩))
  | reloads (process workerId limit id error rest) :
      fleet.passes process = some ⟨workerId, limit, .failed id error rest⟩ →
      Stepped env fleet (.reloads process) (fleet.put process
        ((fleet.db.find .outbox id).map fun row => ⟨workerId, limit, .retrying row error rest⟩))
  | retries (process workerId limit event error rest) :
      fleet.passes process = some ⟨workerId, limit, .retrying event error rest⟩ →
      Stepped env fleet (.retries process) (fleet.transact process
        [.update .outbox event.id (event.retry env fleet.time error)]
        (some ⟨workerId, limit, .ready rest⟩) none)
  | crashes (process pass) : fleet.passes process = some pass →
      Stepped env fleet (.crashes process) (fleet.put process none)

/-- There are no other steps. -/
theorem stepped {action : Action ι} (taken : fleet.step env action = some later) :
    Stepped env fleet action later := by
  unfold step at taken
  split at taken
  · split at taken
    · cases taken
      exact .tick _ ‹_›
    · cases taken
  · split at taken
    · rename_i holds
      cases taken
      exact .commit _ holds.1 holds.2
    · cases taken
  all_goals
    split at taken
    all_goals cases taken
  · exact .opens _ _ _ ‹_›
  · exact .reclaims _ _ _ _ ‹_›
  · exact .claims _ _ _ _ ‹_›
  · exact .takes _ _ _ _ ‹_›
  · exact .finishes _ _ _ _ _ _ _ ‹_›
  · exact .completes _ _ _ _ _ _ ‹_›
  · exact .reloads _ _ _ _ _ _ ‹_›
  · exact .retries _ _ _ _ _ _ ‹_›
  · exact .crashes _ _ ‹_›

/-- A transaction commits or is refused. -/
theorem transact_cases {motive : Fleet ι → Prop} {process : ι} {log : List Database.Write}
    {committed refused : Option Pass}
    (commits : acceptsAll (S := Database) log fleet.db = true →
      motive { (fleet.put process committed) with db := replay (S := Database) log fleet.db })
    (aborts : motive (fleet.put process refused)) :
    motive (fleet.transact process log committed refused) := by
  unfold transact
  split
  · exact commits ‹_›
  · exact aborts

@[simp] theorem put_passes_self (process : ι) (pass : Option Pass) :
    (fleet.put process pass).passes process = pass :=
  Function.update_self ..

theorem put_passes_of_ne {process other : ι} (pass : Option Pass) (different : other ≠ process) :
    (fleet.put process pass).passes other = fleet.passes other :=
  Function.update_of_ne different ..

end Fleet

/-! ## Handlers leave the queue alone -/

/-- Statements on other tables than the queue. -/
def OffQueue (statement : Database.Write) : Prop := Table.outbox ≠ Layout.Statement.table statement

/-- Handlers write other tables only. -/
abbrev handlerAgreement : Agreement Database := solo (fun _ => OffQueue) fun _ => True

instance : OffPanel handlerAgreement := ⟨fun _ _ => trivial⟩

instance (query : Query) : handlerAgreement.Asks query := ⟨trivial⟩

instance : Admitted (fun write => ∀ _ : Db, OffQueue write) .bindings where
  insert _ _ := by simp [OffQueue, Layout.Statement.table]
  update _ _ _ := by simp [OffQueue, Layout.Statement.table]

/-- Statements off the queue do not change it. -/
theorem outbox_replay_offQueue {log : List Database.Write} (off : ∀ write ∈ log, OffQueue write)
    (db : Db) : (replay (S := Database) log db).outbox = db.outbox := by
  induction log generalizing db with
  | nil => rfl
  | cons statement log inductionHypothesis =>
      rw [replay_cons, inductionHypothesis fun write member =>
        off write (List.mem_cons_of_mem _ member)]
      exact Layout.Statement.rows_apply_of_ne (L := layout) db (off statement List.mem_cons_self)

/-- A handler does not change the queue. -/
theorem outbox_finish (env : Env) (answers : Answers Database) (error : String) (pass : Pass)
    (event : Outbox) (rest : List Event) (db : Db) :
    (Fleet.finish env answers error pass event rest db).1.outbox = db.outbox := by
  unfold Fleet.finish
  split
  · rfl
  · rename_i handler handles
    have kept : Keeps handlerAgreement (fun write => ∀ _ : Db, OffQueue write) (handler event) :=
      keeps_handlers handles event
    have opened : handlerAgreement.inv db := trivial
    obtain ⟨_, ⟨new, _, fine, store⟩, _⟩ := kept.run answers opened
    have unchanged : ((handler event).serve answers db).2.outbox = db.outbox := by
      change Db.outbox ((handler event).run answers (.opened db)).2.store = _
      rw [store]
      refine outbox_replay_offQueue (fun write member => ?_) db
      obtain ⟨entry, entryMember, written⟩ := List.mem_flatMap.mp member
      obtain ⟨_, permitted⟩ := fine entry entryMember
      exact permitted write written
    split <;> rename_i same <;> rw [same] at unchanged <;> exact unchanged

theorem Integrity.finish {db : Db} (integrity : Integrity db) (env : Env)
    (answers : Answers Database) (error : String) (pass : Pass) (event : Outbox)
    (rest : List Event) : Integrity (Fleet.finish env answers error pass event rest db).1 := by
  unfold Fleet.finish
  split
  · exact integrity
  · rename_i handler handles
    have kept := integrity.serve (handler event) answers
    split <;> rename_i same <;> rw [same] at kept <;> exact kept

theorem Integrity.transact {ι : Type} [DecidableEq ι] {fleet : Fleet ι} (integrity : Integrity fleet.db)
    (process : ι) (log : List Database.Write) (committed refused : Option Pass) :
    Integrity (fleet.transact process log committed refused).db := by
  unfold Fleet.transact
  split
  · exact Layout.Integrity.replay integrity ‹_›
  · exact integrity

/-- No step breaks the constraints of the database. -/
theorem Fleet.Stepped.integrity {ι : Type} [DecidableEq ι] {env : Env} {fleet later : Fleet ι}
    {action : Action ι} (stepped : Stepped env fleet action later) (integrity : Integrity fleet.db) :
    Integrity later.db := by
  cases stepped with
  | tick => exact integrity
  | commit log _ accepted => exact Layout.Integrity.replay integrity accepted
  | opens => exact integrity
  | reclaims => exact integrity.transact ..
  | claims => exact integrity.transact ..
  | takes => exact integrity
  | finishes => exact integrity.finish ..
  | completes => exact integrity.transact ..
  | reloads => exact integrity
  | retries => exact integrity.transact ..
  | crashes => exact integrity

end ControlPlane
