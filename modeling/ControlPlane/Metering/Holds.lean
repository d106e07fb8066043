import ControlPlane.Decisions.Adjustments
import ControlPlane.Metering.Cascades
import ControlPlane.Worker

/-!
# The amount of a billing hold

A reading that is refused for lack of credit queues a `billing.hold_required`
event, whose amount the reseller is told as the outstanding settlement. The
routes forward what was paid before the cascade stopped, and the worker
forwards nothing.
-/

namespace ControlPlane

open ReadCommitted Orm

/-- The billing holds that were queued between two states. -/
def newHolds (before after : Db) : List Outbox :=
  after.outbox.filter fun row => row ∉ before.outbox ∧ row.topic = "billing.hold_required"

/-- All billing holds that were queued carry an amount. -/
def HoldsCarry (before after : Db) (amountIrr : Int) : Prop :=
  ∀ row ∈ newHolds before after, ∃ organizationId, row.payload = .hold organizationId amountIrr

variable {answers : Answers Database} {alone later : Alone Database}

/-- A state without new rows in the outbox. -/
theorem HoldsCarry.same {before after : Db} (same : after.outbox = before.outbox)
    (amountIrr : Int) : HoldsCarry before after amountIrr := by
  intro row member
  rw [newHolds, same, List.mem_filter, decide_eq_true_eq] at member
  exact absurd member.1 member.2.1

/-- A statement that queues no hold: one on another table, or the insertion of another event. -/
def Unheld (write : Database.Write) : Prop :=
  Layout.Statement.table (L := layout) write ≠ .outbox ∨
    ∃ row : Outbox, write = .insert .outbox row ∧ row.topic ≠ "billing.hold_required"

/-- A statement that queues a hold with an amount. -/
def QueuesHold (organizationId : Id) (amountIrr : Int) (write : Database.Write) : Prop :=
  ∃ row : Outbox, write = .insert .outbox row ∧ row.payload = .hold organizationId amountIrr

/-- The holds that come up are those with the amount. -/
theorem outbox_grown {organizationId : Id} {amountIrr : Int} {writes : List Database.Write}
    (known : ∀ write ∈ writes, Unheld write ∨ QueuesHold organizationId amountIrr write)
    {db : Db} {row : Outbox} (member : row ∈ (replay writes db).outbox)
    (hold : row.topic = "billing.hold_required") :
    row ∈ db.outbox ∨ row.payload = .hold organizationId amountIrr := by
  induction writes generalizing db with
  | nil => exact .inl member
  | cons write writes inductionHypothesis =>
      rw [List.forall_mem_cons] at known
      rw [replay_cons] at member
      rcases inductionHypothesis known.2 member with old | queued
      · have inserted : ∀ other : Outbox, row ∈ db.outbox ++ [other] →
            row ∈ db.outbox ∨ row = other := by
          intro other among
          rcases List.mem_append.mp among with kept | added
          · exact .inl kept
          · exact .inr (List.mem_singleton.mp added)
        rcases known.1 with (off | ⟨other, rfl, topic⟩) | ⟨other, rfl, payload⟩
        · left
          rwa [show (write.apply db).outbox = db.outbox from
            Layout.Statement.rows_apply_of_ne (L := layout) db (Ne.symm off)] at old
        · rcases inserted other old with kept | rfl
          · exact .inl kept
          · exact absurd hold topic
        · rcases inserted other old with kept | rfl
          · exact .inl kept
          · exact .inr payload
      · exact .inr queued

/-- After statements that queue no hold but those with an amount, new holds carry it. -/
theorem HoldsCarry.replay {organizationId : Id} {amountIrr : Int} {writes : List Database.Write}
    (known : ∀ write ∈ writes, Unheld write ∨ QueuesHold organizationId amountIrr write)
    (db : Db) : HoldsCarry db (ReadCommitted.replay writes db) amountIrr := by
  intro row member
  rw [newHolds, List.mem_filter, decide_eq_true_eq] at member
  rcases outbox_grown known member.1 member.2.2 with old | queued
  · exact absurd old member.2.1
  · exact ⟨organizationId, queued⟩

variable (answers) in
/-- Recording a hold records one event, unless one is waiting. -/
theorem run_recordHold (bindingId organizationId : Id) (amountIrr : Int) :
    ∃ asked rows, (recordHold bindingId organizationId amountIrr).run answers alone =
        (.ok (), { alone with asked := asked, pending := alone.pending ++ rows }) ∧
      ∀ write ∈ rows, QueuesHold organizationId amountIrr write := by
  unfold recordHold enqueue
  rw [run_scalar_bind]
  generalize Db.first alone.view .outbox _ = waiting
  cases waiting with
  | some row =>
      refine ⟨alone.asked, [], ?_, by simp⟩
      rw [List.append_nil]
      rfl
  | none =>
      refine ⟨alone.asked ++ [.uid] ++ [.now], [.insert .outbox ⟨_, _, _,
        .hold organizationId amountIrr, _, _, _, _, _, _⟩], rfl, ?_⟩
      intro write member
      rw [List.mem_singleton.mp member]
      exact ⟨_, rfl, rfl⟩

/-- A session on a committed state that has queued no hold. -/
structure Holdless (db : Db) (alone : Alone Database) : Prop where
  store : alone.store = db
  log : ∀ write ∈ alone.log, Unheld write
  pending : ∀ write ∈ alone.pending, Unheld write

variable (answers) in
/-- Committing such a session queues no hold. -/
theorem Holdless.commit {db : Db} (holdless : Holdless db alone) (amountIrr : Int) :
    HoldsCarry db ((Orm.commit : Op Unit).run answers alone).2.store amountIrr := by
  obtain ⟨rfl, log, pending⟩ := holdless
  rw [run_commit]
  split
  · have known : ∀ write ∈ alone.log ++ alone.pending,
        Unheld write ∨ QueuesHold "" amountIrr write := by
      intro write member
      exact .inl ((List.mem_append.mp member).elim (log write) (pending write))
    have carried := HoldsCarry.replay known alone.store
    rwa [replay_append] at carried
  · exact HoldsCarry.same rfl amountIrr

variable (answers) in
/-- What is committed after recording a hold has no other new holds. -/
theorem Holdless.recordHold {db : Db} (holdless : Holdless db alone)
    (bindingId organizationId : Id) (amountIrr : Int) :
    ∃ next, (ControlPlane.recordHold bindingId organizationId amountIrr).run answers alone =
        (.ok (), next) ∧
      HoldsCarry db ((Orm.commit : Op Unit).run answers next).2.store amountIrr := by
  obtain ⟨rfl, log, pending⟩ := holdless
  obtain ⟨asked, rows, recorded, queues⟩ :=
    @run_recordHold answers alone bindingId organizationId amountIrr
  refine ⟨_, recorded, ?_⟩
  rw [run_commit]
  split
  · have known : ∀ write ∈ alone.log ++ (alone.pending ++ rows),
        Unheld write ∨ QueuesHold organizationId amountIrr write := by
      intro write member
      rcases List.mem_append.mp member with written | member
      · exact .inl (log write written)
      · exact (List.mem_append.mp member).imp (pending write) (queues write)
    have carried := HoldsCarry.replay known alone.store
    rwa [replay_append] at carried
  · exact HoldsCarry.same rfl amountIrr

/-- What does not commit does not change the committed state. -/
theorem run_bind_store (program : Op α) (rest : α → Op β)
    [tentative : ∀ value, Tentative (rest value)] :
    ((program >>= rest).run answers alone).2.store = (program.run answers alone).2.store := by
  rw [run_bind]
  cases program.run answers alone with
  | mk result next =>
      cases result with
      | ok value => exact ((tentative value).same answers next).1
      | error exception => rfl

/-! ## Metering queues no hold by itself -/

/-- A session that runs alone and queues no hold. -/
abbrev unheld : Agreement Database := solo (fun _ => Unheld) fun _ => True

instance : unheld.Admits Unheld where
  commit_nil _ _ member := absurd member List.not_mem_nil
  commit_held _ _ committed := committed
  commit_write _ benign committed _ write member := by
    rcases List.mem_append.mp member with old | new
    · exact committed write old
    · rw [List.mem_singleton.mp new]
      exact benign

instance (query : Query) : unheld.Asks query := ⟨trivial⟩

/-- The tables that are no outbox. -/
theorem admitted_of_ne {table : Table} (off : table ≠ .outbox) : Admitted Unheld table :=
  ⟨fun _ => .inl off, fun _ _ => .inl off⟩

instance : Admitted Unheld .accounts := admitted_of_ne (by decide)
instance : Admitted Unheld .transactions := admitted_of_ne (by decide)
instance : Admitted Unheld .entries := admitted_of_ne (by decide)
instance : Admitted Unheld .checkpoints := admitted_of_ne (by decide)
instance : Admitted Unheld .usages := admitted_of_ne (by decide)

instance (owner : String) : Keeps unheld Unheld (account owner) := by
  have created : ∀ id : Id, Keeps unheld Unheld
      (execute (.insert .accounts ⟨id, owner, 0⟩) : Op Bool) := fun id =>
    Keeps.execute (.inl (by change Table.accounts ≠ .outbox; decide))
  unfold account
  infer_instance

instance (accountId : Id) (columns : Table.Change .accounts) :
    Keeps unheld Unheld (send (.update .accounts accountId columns)) := by
  have sent : Keeps unheld Unheld (execute (.update .accounts accountId columns) : Op Bool) :=
    Keeps.execute (.inl (by change Table.accounts ≠ .outbox; decide))
  unfold send
  infer_instance

instance (source : String) (balanceIrr amountIrr : Int) :
    Keeps unheld Unheld (checkPayer source balanceIrr amountIrr) := by
  unfold checkPayer
  infer_instance

set_option synthInstance.maxSize 100000 in
instance (source target : Account) (amountIrr : Int) (key kind reference : String)
    (actorId : Option Id) :
    Keeps unheld Unheld (post source target amountIrr key kind reference actorId) := by
  unfold post
  infer_instance

set_option synthInstance.maxSize 100000 in
instance (source target : String) (amountIrr : Int) (key kind reference : String) (enforce : Bool)
    (actorId : Option Id) :
    Keeps unheld Unheld (transfer source target amountIrr key kind reference enforce actorId) := by
  unfold transfer transferFresh
  infer_instance

instance (binding : Binding) (old new : Nat) (rows : List Settlement) (pending : Int) :
    Keeps unheld Unheld (payCascade binding old new rows pending) := by
  induction rows generalizing pending with
  | nil => exact Keeps.pure ()
  | cons settled rows inductionHypothesis =>
      unfold payCascade
      infer_instance

instance (aggregateId : Id) (payload : Payload) :
    Keeps unheld Unheld (enqueue "usage.reset_detected" aggregateId payload) := by
  have queued : ∀ (id : Id) (time : Time), Keeps unheld Unheld (insert .outbox
      ⟨id, "usage.reset_detected", aggregateId, payload, .pending, 0, time, none, none, none⟩) :=
    fun id time => Keeps.add (.inr ⟨_, rfl, (by decide :
      "usage.reset_detected" ≠ "billing.hold_required")⟩)
  unfold enqueue
  infer_instance

instance (env : Env) (binding : Binding) (checkpoint : Checkpoint) (data : UsageIn) :
    Keeps unheld Unheld (observeRegression env binding checkpoint data) := by
  unfold observeRegression
  infer_instance

instance (binding : Binding) (checkpoint : Checkpoint) (data : UsageIn) :
    Keeps unheld Unheld (observeAdvance binding checkpoint data) := by
  unfold observeAdvance
  infer_instance

instance (env : Env) (data : UsageIn) : Keeps unheld Unheld (observe env data) := by
  unfold observe
  infer_instance

/-! ## Metering commits nothing by itself -/

instance (value : Except Failure α) : Tentative (attempt value : Op α) := by
  unfold attempt
  split <;> infer_instance

instance : Tentative (α := no_index (List Database.Write)) (recorded : Op _) := ⟨fun _ _ => rfl⟩

instance (bindingId : Id) : Tentative (lockedCheckpoint bindingId) := by
  unfold lockedCheckpoint
  infer_instance

instance (fuel : Nat) (current : Option Organization) (seen : List Id) :
    Tentative (climb fuel current seen) := by
  induction fuel generalizing current seen with
  | zero => exact Tentative.throw _
  | succ fuel inductionHypothesis =>
      unfold climb
      infer_instance

instance (organizationId : Id) : Tentative (edges organizationId) := by
  unfold edges
  infer_instance

instance (binding : Binding) (old new : Nat) (rows : List Settlement) (pending : Int) :
    Tentative (payCascade binding old new rows pending) := by
  induction rows generalizing pending with
  | nil => exact Tentative.pure ()
  | cons settled rows inductionHypothesis =>
      unfold payCascade
      infer_instance

instance (env : Env) (binding : Binding) (checkpoint : Checkpoint) (data : UsageIn) :
    Tentative (observeRegression env binding checkpoint data) := by
  unfold observeRegression
  infer_instance

instance (binding : Binding) (checkpoint : Checkpoint) (data : UsageIn) :
    Tentative (observeAdvance binding checkpoint data) := by
  unfold observeAdvance
  infer_instance

instance (env : Env) (data : UsageIn) : Tentative (observe env data) := by
  unfold observe observeBaseline
  infer_instance

/-! ## The three routes -/

variable (answers) in
/-- A session that meters one reading. -/
theorem holdless_observe (env : Env) (data : UsageIn) (asked : List Query) (db : Db) :
    Holdless db ((observe env data).run answers ⟨⟨db, [], asked, []⟩, []⟩).2 := by
  have ready : Ready unheld Unheld (⟨[], [], [], db⟩ : Point Database) := Ready.fresh trivial
  obtain ⟨_, _, held, ends⟩ := wp_run answers (⟨⟨db, [], asked, []⟩, []⟩ : Alone Database) trivial
    ((inferInstance : Keeps unheld Unheld (observe env data)).keeps _ ready)
  exact ⟨(Tentative.same answers _).1, ends.commit _ (.refl trivial), ends.benign⟩

section

variable {env : Env} {data : UsageIn} {db : Db} {bindingId organizationId : Id} {amountIrr : Int}

/-- The usage route forwards the amount of the exception. -/
theorem usage_carries
    (refused : (observe env data).run answers (.opened db) =
      (.error (.billingHold bindingId organizationId amountIrr), later)) :
    HoldsCarry db ((usage env data).serve answers db).2 amountIrr := by
  have holdless : Holdless db later := by
    have metered := holdless_observe answers env data [] db
    rwa [show (⟨⟨db, [], [], []⟩, []⟩ : Alone Database) = .opened db from rfl, refused] at metered
  have cleared : Holdless db { later with log := [], pending := [] } :=
    ⟨holdless.store, by simp, by simp⟩
  obtain ⟨next, recorded, carries⟩ :=
    cleared.recordHold answers bindingId organizationId amountIrr
  change HoldsCarry db ((usage env data).run answers (.opened db)).2.store amountIrr
  unfold usage usageFailed
  rw [run_tryCatch, run_bind, refused]
  dsimp only
  rw [run_bind, run_rollback]
  dsimp only
  rw [run_bind, recorded]
  dsimp only
  rw [run_bind_store]
  exact carries

/-- So does the batch route, without rolling back what was paid. -/
theorem usageBatch_carries
    (refused : (observe env data).run answers (.opened db) =
      (.error (.billingHold bindingId organizationId amountIrr), later)) :
    HoldsCarry db ((usageBatch env [data]).serve answers db).2 amountIrr := by
  have holdless : Holdless db later := by
    have metered := holdless_observe answers env data [] db
    rwa [show (⟨⟨db, [], [], []⟩, []⟩ : Alone Database) = .opened db from rfl, refused] at metered
  obtain ⟨next, recorded, carries⟩ :=
    holdless.recordHold answers bindingId organizationId amountIrr
  have outcomes : (observeItems env [data]).run answers (.opened db) =
      (.ok [.inr (bindingId, organizationId)], next) := by
    unfold observeItems observeItems observeItem
    simp only [run_bind, run_tryCatch, refused, recorded, run_pure]
  change HoldsCarry db ((usageBatch env [data]).run answers (.opened db)).2.store amountIrr
  unfold usageBatch
  rw [run_bind, outcomes]
  dsimp only
  rw [run_bind_store]
  exact carries

/-- The worker forwards no amount. -/
theorem pollBinding_carries (env : Env) (admins : List PanelAdmin) (binding : Binding) (db : Db) :
    HoldsCarry db ((pollBinding env admins binding).serve answers db).2 0 := by
  change HoldsCarry db ((pollBinding env admins binding).run answers (.opened db)).2.store 0
  unfold pollBinding
  cases admins.reverse.find? fun admin => admin.id = some binding.pgAdminId with
  | none => exact HoldsCarry.same rfl 0
  | some admin =>
      rw [run_branch_some]
      cases admin.lifetimeUsedTraffic with
      | none => exact HoldsCarry.same rfl 0
      | some reading =>
          rw [run_branch_some, run_tryCatch]
          have now_bind : ∀ rest : Time → Op Unit, (now >>= rest).run answers (.opened db) =
              (rest (answers .now 0)).run answers ⟨⟨db, [], [.now], []⟩, []⟩ := fun _ => rfl
          rw [now_bind, run_require_bind]
          by_cases known : 0 ≤ reading
          · rw [if_pos known, run_bind]
            have holdless := holdless_observe answers env
              ⟨binding.id, reading.toNat, answers .now 0⟩ [.now] db
            cases metered : (observe env ⟨binding.id, reading.toNat, answers .now 0⟩).run answers
                ⟨⟨db, [], [.now], []⟩, []⟩ with
            | mk result later =>
                rw [metered] at holdless
                cases result with
                | ok settlements =>
                    have carries := holdless.commit answers 0
                    dsimp only
                    cases committed : (commit : Op Unit).run answers later with
                    | mk result last =>
                        rw [committed] at carries
                        cases result with
                        | ok done => exact carries
                        | error exception =>
                            rw [run_commit] at committed
                            split at committed
                            · cases committed
                            · cases committed
                              exact carries
                | error exception =>
                    cases exception with
                    | billingHold bindingId organizationId amountIrr =>
                        have cleared : Holdless db { later with log := [], pending := [] } :=
                          ⟨holdless.store, by simp, by simp⟩
                        obtain ⟨next, recorded, carries⟩ := cleared.recordHold
                          answers bindingId organizationId 0
                        dsimp only
                        rw [run_bind, run_rollback]
                        dsimp only
                        rw [run_bind, recorded]
                        exact carries
                    | _ => exact HoldsCarry.same (congrArg Db.outbox holdless.store) 0
          · rw [if_neg known]
            exact HoldsCarry.same rfl 0

/-- One of the holds that were queued carries an amount. -/
def QueuesDebt (before after : Db) (amountIrr : Int) : Prop :=
  ∃ row ∈ newHolds before after, ∃ organizationId, row.payload = .hold organizationId amountIrr

/-- Holds that carry one amount do not carry another one. -/
theorem HoldsCarry.not_queues {before after : Db} {amountIrr other : Int}
    (carries : HoldsCarry before after amountIrr) (different : amountIrr ≠ other) :
    ¬QueuesDebt before after other := by
  rintro ⟨row, member, organizationId, payload⟩
  obtain ⟨own, carried⟩ := carries row member
  rw [carried] at payload
  injection payload with _ same
  exact different same

/-- No reading that is refused for lack of credit queues what it owes, whichever way it arrived. -/
theorem hold_never_owed
    (refused : ((observe env data).serve answers db).1 =
      .error (.billingHold bindingId organizationId amountIrr)) :
    ∃ rows, ((settlementsOf data).serve answers db).1 = .ok rows ∧
      ¬QueuesDebt db ((usage env data).serve answers db).2 (owed rows) ∧
      ¬QueuesDebt db ((usageBatch env [data]).serve answers db).2 (owed rows) ∧
      ∀ admins binding,
        ¬QueuesDebt db ((pollBinding env admins binding).serve answers db).2 (owed rows) := by
  have ran : (observe env data).run answers (.opened db) =
      (.error (.billingHold bindingId organizationId amountIrr),
        ((observe env data).run answers (.opened db)).2) := Prod.ext refused rfl
  obtain ⟨rows, owing, least, most⟩ := observe_hold_lt ran
  refine ⟨rows, owing, ?_, ?_, fun admins binding => ?_⟩
  · exact (usage_carries ran).not_queues most.ne
  · exact (usageBatch_carries ran).not_queues most.ne
  · exact (pollBinding_carries env admins binding db).not_queues (by omega)

end

namespace Sample

/-- A reading that costs more than the credit of the shop. -/
def costly : UsageIn := ⟨"binding", 100 * gib, 0⟩

end Sample

/-- The refused reading of the sample workspace. -/
theorem hold_never_owed_sample :
    ∃ rows, ((settlementsOf Sample.costly).serve Sample.answers Sample.metered).1 = .ok rows ∧
      ¬QueuesDebt Sample.metered ((usage Sample.env Sample.costly).serve Sample.answers
        Sample.metered).2 (owed rows) ∧
      ¬QueuesDebt Sample.metered ((usageBatch Sample.env [Sample.costly]).serve Sample.answers
        Sample.metered).2 (owed rows) ∧
      ∀ admins binding, ¬QueuesDebt Sample.metered ((pollBinding Sample.env admins binding).serve
        Sample.answers Sample.metered).2 (owed rows) :=
  @hold_never_owed Sample.answers Sample.env Sample.costly Sample.metered "binding" "shop" 0
    (by decide +kernel)

/-- A hold is queued that does not carry what the reading owes. -/
theorem hold_owed_fails :
    ¬∀ (env : Env) (answers : Answers Database) (db : Db) (data : UsageIn)
      (bindingId organizationId : Id) (amountIrr : Int),
      ((observe env data).serve answers db).1 =
        .error (.billingHold bindingId organizationId amountIrr) →
      ∀ rows, ((settlementsOf data).serve answers db).1 = .ok rows →
        ∀ row ∈ newHolds db ((usage env data).serve answers db).2,
          row.payload = .hold organizationId (owed rows) := by
  intro claim
  have queued := claim Sample.env Sample.answers Sample.metered Sample.costly "binding" "shop" 0
    (by decide +kernel) [⟨"shop", "root", 100 * gib, 100, 10000⟩] (by decide +kernel)
  revert queued
  decide +kernel

end ControlPlane
