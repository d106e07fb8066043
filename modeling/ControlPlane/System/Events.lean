import ControlPlane.Metering.Cascades
import ControlPlane.System.Discipline

/-!
# The events that sessions queue

A session queues an event about something that the handler of its topic looks up: a
hold names a binding, a usage reset the organization of a binding. The binding is
found before, maybe in an earlier transaction of the session, and bindings are never
deleted: what an event is about is there in every store that comes later.
-/

namespace ControlPlane

open ReadCommitted Orm

/-- An organization has a binding. -/
def Db.Binds (db : Db) (bindingId organizationId : Id) : Prop :=
  ∃ row ∈ db.bindings, row.id = bindingId ∧ row.organizationId = organizationId

/-- No binding is lost. -/
def Db.BindsOn (db later : Db) : Prop :=
  ∀ bindingId organizationId, db.Binds bindingId organizationId →
    later.Binds bindingId organizationId

/-- The topics of decisions. -/
def decisionTopics : List String := ["panel_order.approved", "approval.granted"]

/-- What an event is about is there: a hold names a binding, and a usage reset the organization of
one. -/
inductive Addressed (db : Db) : String → Id → Payload → Prop
  | hold {bindingId organizationId : Id} {payload : Payload} : db.Binds bindingId organizationId →
      Addressed db "billing.hold_required" bindingId payload
  | reset {aggregateId bindingId organizationId : Id} {payload : Payload} :
      payload.organizationId = some organizationId → db.Binds bindingId organizationId →
        Addressed db "usage.reset_detected" aggregateId payload
  | decision {topic : String} {aggregateId : Id} {payload : Payload} : topic ∈ decisionTopics →
      Addressed db topic aggregateId payload

/-- What is there stays there. -/
theorem Addressed.since {db later : Db} {topic : String} {aggregateId : Id} {payload : Payload}
    (addressed : Addressed db topic aggregateId payload) (kept : db.BindsOn later) :
    Addressed later topic aggregateId payload := by
  cases addressed with
  | hold binds => exact .hold (kept _ _ binds)
  | reset own binds => exact .reset own (kept _ _ binds)
  | decision decided => exact .decision decided

/-- What a session writes: of the queue it only inserts events about something that is there. -/
def Mailing (db : Db) : Database.Write → Prop
  | .insert .outbox row => row.Queued ∧ Addressed db row.topic row.aggregateId row.payload
  | .update .outbox _ _ => False
  | .insert .panels row => row.vendor ∈ supportedVendors
  | .delete table _ => table = .planCategories ∨ table = .plans
  | _ => True

/-- What the worker of the outbox writes of the queue. -/
def Moving (statement : Database.Write) : Prop :=
  ∃ key columns, statement = .update .outbox key columns

/-- Deleting only from the catalog loses no binding. -/
theorem Db.BindsOn.replay {log : List Database.Write}
    (catalog : ∀ table key, .delete table key ∈ log → table = .planCategories ∨ table = .plans)
    (db : Db) : db.BindsOn (replay (S := Database) log db) := by
  rintro bindingId organizationId ⟨row, member, rfl, rfl⟩
  obtain ⟨kept, present, same⟩ :=
    @Db.Retained.replay _ db catalog .bindings (by decide) (by decide) row member
  obtain ⟨id, organization, _⟩ := Binding.mk.inj same
  exact ⟨kept, present, id, organization⟩

/-- A session inserts events about something that is there, or it is the worker of the outbox and
moves events. -/
def postal : Agreement Database where
  inv := Integrity
  le := Db.BindsOn
  commit _ log db := acceptsAll (S := Database) log db = true ∧
    ((∀ statement ∈ log, Mailing db statement) ∨ ∀ statement ∈ log, Moving statement)
  le_refl _ _ _ := id
  le_trans early late _ _ := late _ _ ∘ early _ _
  inv_replay integrity committed _ := Layout.Integrity.replay integrity committed.1

/-- Neither kind of transaction deletes anything but parts of the catalog. -/
theorem postal_catalog {log : List Database.Write} {db : Db}
    (kinds : (∀ statement ∈ log, Mailing db statement) ∨ ∀ statement ∈ log, Moving statement) :
    ∀ table key, .delete table key ∈ log → table = .planCategories ∨ table = .plans := by
  intro table key deleted
  rcases kinds with mailing | moving
  · exact mailing _ deleted
  · obtain ⟨_, _, same⟩ := moving _ deleted
    cases same

instance : postal.Shared where
  le_replay _ committed _ := .replay (postal_catalog committed.2) _

instance : postal.Unrestricted := ⟨id⟩

instance : OffPanel postal := ⟨fun _ _ => trivial⟩

instance (query : Query) : postal.Asks query := ⟨trivial⟩

/-- The law of a session that writes about bindings only if it may. -/
def mailing (bindings : Prop) : Law Database := fun _ log db =>
  ∀ statement ∈ log, Mailing db statement ∧
    (Table.bindings = Layout.Statement.table statement → bindings)

/-- Statements that do not depend on what is there. -/
def Plain (bindings : Prop) (statement : Database.Write) : Prop :=
  (∀ db, Mailing db statement) ∧ (Table.bindings = Layout.Statement.table statement → bindings)

/-- The law of the worker of the outbox. -/
def moving : Law Database := fun _ log _ => ∀ statement ∈ log, Moving statement

instance (bindings : Prop) : postal.Sanctions (Plain bindings) (mailing bindings) where
  held _ lawful := lawful
  benign {_ first last statement store} plain lawful := by
    intro other member
    rcases List.mem_append.mp member with early | late
    · exact lawful other (List.mem_append_left _ early)
    · rcases List.mem_cons.mp late with rfl | late
      · exact ⟨plain.1 store, plain.2⟩
      · exact lawful other (List.mem_append_right _ late)
  nil _ := by rintro _ ⟨⟩
  commit _ accepted lawful := ⟨accepted, .inl fun statement member => (lawful statement member).1⟩

instance : postal.Sanctions Moving moving where
  held _ lawful := lawful
  benign {_ first last statement _} moves lawful := by
    intro other member
    rcases List.mem_append.mp member with early | late
    · exact lawful other (List.mem_append_left _ early)
    · rcases List.mem_cons.mp late with rfl | late
      · exact moves
      · exact lawful other (List.mem_append_right _ late)
  nil _ := by rintro _ ⟨⟩
  commit _ accepted lawful := ⟨accepted, .inr lawful⟩

section

variable {bindings : Prop}

instance : Everyday (Plain bindings) where
  daily statement daily := by
    cases statement with
    | insert table row =>
        replace daily : table ∈ dailyTables := daily
        cases table with
        | outbox | panels | bindings => exact absurd daily (by decide)
        | _ => exact ⟨fun _ => trivial, nofun⟩
    | update table key columns =>
        cases table with
        | outbox | bindings => exact absurd (show _ ∨ _ from daily) (by decide)
        | _ => exact ⟨fun _ => trivial, nofun⟩
    | delete table key =>
        refine ⟨fun _ => daily, fun same => ?_⟩
        subst same
        exact absurd (show _ ∨ _ from daily) (by decide)

instance : Insertable (Plain bindings) .contracts := ⟨fun _ => ⟨fun _ => trivial, nofun⟩⟩
instance : Admitted (Plain bindings) .transactions := ⟨fun _ => ⟨fun _ => trivial, nofun⟩, nofun⟩
instance : Admitted (Plain bindings) .entries := ⟨fun _ => ⟨fun _ => trivial, nofun⟩, nofun⟩
instance : Admitted (Plain bindings) .usages := ⟨fun _ => ⟨fun _ => trivial, nofun⟩, nofun⟩
instance : Insertable (Plain bindings) .organizations := ⟨fun _ => ⟨fun _ => trivial, nofun⟩⟩
instance : Insertable (Plain bindings) .planCategories := ⟨fun _ => ⟨fun _ => trivial, nofun⟩⟩
instance : Insertable (Plain bindings) .plans := ⟨fun _ => ⟨fun _ => trivial, nofun⟩⟩
instance : Insertable (Plain bindings) .fundingRequests := ⟨fun _ => ⟨fun _ => trivial, nofun⟩⟩
instance : Insertable (Plain bindings) .orders := ⟨fun _ => ⟨fun _ => trivial, nofun⟩⟩
instance : Amended (Plain bindings) .organizations := ⟨fun _ _ => ⟨fun _ => trivial, nofun⟩⟩
instance : Amended (Plain bindings) .panels := ⟨fun _ _ => ⟨fun _ => trivial, nofun⟩⟩
instance : Amended (Plain bindings) .orders := ⟨fun _ _ => ⟨fun _ => trivial, nofun⟩⟩
instance : Admitted (Plain bindings) .approvals :=
  ⟨fun _ => ⟨fun _ => trivial, nofun⟩, fun _ _ => ⟨fun _ => trivial, nofun⟩⟩
instance (role : Role) : Enrolls (Plain bindings) role :=
  ⟨fun _ _ _ _ => ⟨fun _ => trivial, nofun⟩⟩
instance (packages : Packages) : Registers (Plain bindings) packages :=
  ⟨fun _ _ supported => ⟨fun _ => supported, nofun⟩⟩
instance : Insertable (Plain True) .bindings :=
  ⟨fun _ => ⟨fun _ => trivial, fun _ => trivial⟩⟩
instance : Suspends (Plain True) := ⟨fun _ => ⟨fun _ => trivial, fun _ => trivial⟩⟩

/-- The event of a decision has no other addressee than its topic. -/
theorem announces_decision {topic : String} (decided : topic ∈ decisionTopics) :
    Announces postal (Plain bindings) (mailing bindings) topic where
  announces aggregateId payload := by
    have queued : ∀ (id : Id) (time : Time), Sustains postal (Plain bindings) (mailing bindings)
        (insert .outbox ⟨id, topic, aggregateId, payload, .pending, 0, time, none, none, none⟩) := by
      exact fun id time => Sustains.add ⟨fun db => ⟨rfl, .decision decided⟩, nofun⟩
    unfold enqueue
    infer_instance

instance : Announces postal (Plain bindings) (mailing bindings) "approval.granted" :=
  announces_decision (by decide)

instance : Announces postal (Plain bindings) (mailing bindings) "panel_order.approved" :=
  announces_decision (by decide)

end

/-! ## Readings -/

/-- A session of the meter. -/
abbrev Meter (point : Point Database) : Prop := Due postal (mailing False) point

variable {point : Point Database}

/-- Queueing an event about something that is there. -/
theorem mails_enqueue (topic : String) (aggregateId : Id) (payload : Payload) (due : Meter point)
    (addressed : Addressed point.store topic aggregateId payload) :
    (enqueue topic aggregateId payload).wp postal (fun _ last => Meter last) point := by
  unfold enqueue
  rw [wp_scalar_bind]
  intro seen rely
  have kept := due.rely rely
  rw [wp_branch]
  refine ⟨fun _ => ?_, fun _ _ => kept⟩
  rw [wp_uid_bind]
  intro id
  rw [wp_now_bind]
  intro time
  refine kept.add fun later moved lawful => ?_
  intro statement member
  rw [← List.append_assoc] at member
  rcases List.mem_append.mp member with old | new
  · exact lawful statement old
  · rw [List.mem_singleton.mp new]
    exact ⟨⟨rfl, addressed.since (postal.le_trans rely.le moved.le)⟩, nofun⟩

/-- Queueing the hold of a binding. -/
theorem wp_recordHold {bindingId organizationId : Id} (amountIrr : Int) (due : Meter point)
    (binds : point.store.Binds bindingId organizationId) :
    (recordHold bindingId organizationId amountIrr).wp postal (fun _ last => Meter last) point :=
  mails_enqueue _ _ _ due (.hold binds)

/-- A billing hold names this binding. -/
def HoldOf (bindingId organizationId : Id) (exception : Failure) : Prop :=
  ∀ named branch amountIrr, exception = .billingHold named branch amountIrr →
    named = bindingId ∧ branch = organizationId

theorem NoHold.holdOf {bindingId organizationId : Id} (exception : Failure)
    (other : NoHold exception) : HoldOf bindingId organizationId exception :=
  fun named branch amountIrr same => absurd same (other named branch amountIrr)

theorem raises_payCascade (binding : Binding) (old new : Nat) (rows : List Settlement)
    (pending : Int) : Raises (HoldOf binding.id binding.organizationId)
      (payCascade binding old new rows pending) := by
  induction rows generalizing pending with
  | nil => exact Raises.pure ()
  | cons settled rows inductionHypothesis =>
      unfold payCascade
      have translated : ∀ exception, NoHold exception →
          Raises (HoldOf binding.id binding.organizationId)
            (throw (holdFor binding pending exception) : Op Transaction) := by
        intro exception other
        refine @Raises.throw _ _ _ _ _ ⟨?_⟩
        intro named branch amountIrr same
        unfold holdFor at same
        split at same
        · cases same
          exact ⟨rfl, rfl⟩
        · exact absurd same (other named branch amountIrr)
      have paid : Raises (HoldOf binding.id binding.organizationId)
          (tryCatch (transfer settled.childId settled.parentId settled.amountIrr
            (usageKey binding.id old new settled.childId) "usage" binding.id true none)
            fun exception => throw (holdFor binding pending exception)) :=
        Raises.guarded (inferInstance : Raises NoHold _) translated
      infer_instance

theorem raises_observeAdvance (binding : Binding) (checkpoint : Checkpoint) (data : UsageIn) :
    Raises (HoldOf binding.id binding.organizationId) (observeAdvance binding checkpoint data) := by
  have climbed : Raises (HoldOf binding.id binding.organizationId) (edges binding.organizationId) :=
    Raises.mono (inferInstance : Raises NoHold _) NoHold.holdOf
  have computed : ∀ panel path, Raises (HoldOf binding.id binding.organizationId)
      (attempt (cascade (data.lifetimeBytes - checkpoint.lifetimeBytes : Nat) path
        (coefficientOf panel)) : Op (List Settlement)) := by
    intro panel path
    cases outcome : cascade (data.lifetimeBytes - checkpoint.lifetimeBytes : Nat) path
        (coefficientOf panel) with
    | ok rows => exact Raises.pure rows
    | error exception => exact @Raises.throw _ _ _ _ _ ⟨(cascade_noHold outcome).holdOf⟩
  have paid := fun rows => raises_payCascade binding checkpoint.lifetimeBytes data.lifetimeBytes
    rows 0
  unfold observeAdvance
  infer_instance

/-- A regression queues its reset about the organization of the binding. -/
theorem mails_observeRegression (env : Env) {binding : Binding} (checkpoint : Checkpoint)
    (data : UsageIn) (due : Meter point)
    (binds : point.store.Binds binding.id binding.organizationId) :
    (observeRegression env binding checkpoint data).wp postal (fun _ last => Meter last) point := by
  unfold observeRegression
  dsimp only
  rw [wp_assign_bind, wp_insert_bind]
  have plain : ∀ {log pending : List Database.Write}, ∀ {held store}, ∀ row : Database.Write,
      Plain False row → Meter ⟨pending, held, log, store⟩ →
        Meter ⟨pending ++ [row], held, log, store⟩ := fun _ benign due => due.record benign
  have begun := plain (.insert .usages ⟨binding.id, data.lifetimeBytes, 0, .regression,
    data.observedAt⟩) ⟨fun _ => trivial, nofun⟩ (plain (.update .checkpoints binding.id
      { anomalyCount := some (checkpoint.anomalyCount + 1) }) ⟨fun _ => trivial, nofun⟩ due)
  refine wp_seq _ (?_ : wp postal (when _ _) (fun _ last => Meter last) _)
    (fun _ _ kept => kept) fun _ _ kept => kept
  rw [wp_when]
  refine ⟨fun _ => ?_, fun _ => begun⟩
  rw [wp_assign_bind, wp_insert_bind]
  exact mails_enqueue _ _ _ (plain _ ⟨fun _ => trivial, nofun⟩ (plain _ ⟨fun _ => trivial, nofun⟩
    begun)) (.reset rfl binds)

/-- A session that was interrupted by a hold knows the binding of the hold. -/
def Interrupted (result : Except Failure α) (point : Point Database) : Prop :=
  Meter point ∧ ∀ bindingId organizationId amountIrr,
    result = .error (.billingHold bindingId organizationId amountIrr) →
      point.store.Binds bindingId organizationId

/-- A step of the meter that raises no hold. -/
theorem Interrupted.of_noHold {result : Except Failure α} (due : Meter point)
    (other : ∀ exception, result = .error exception → NoHold exception) :
    Interrupted result point :=
  ⟨due, fun _ _ _ raised => absurd rfl (other _ raised _ _ _)⟩

/-- A step of the meter that keeps the law, with the exceptions it raises. -/
theorem wp_metering {kind : Failure → Prop} {program : Op α}
    [Sustains postal (Plain False) (mailing False) program] (raises : Raises kind program)
    (due : Meter point) : program.wp postal (fun result last =>
      (Meter last ∧ Db.BindsOn point.store last.store) ∧
        ∀ exception, result = .error exception → kind exception) point :=
  raises.wp (wp_le (wp_sustains (Plain False) program due))

/-- A reading is interrupted by a hold of the binding that it found. -/
theorem mails_observe (env : Env) (data : UsageIn) (due : Meter point) :
    (observe env data).wp postal Interrupted point := by
  unfold observe
  rw [wp_get_bind]
  intro seen rely
  have kept := due.rely rely
  rw [wp_found_bind]
  refine ⟨fun binding stored => ?_, fun _ => ⟨kept, nofun⟩⟩
  have binds : Db.Binds seen binding.id binding.organizationId := by
    have lawful := kept.law seen (.refl rely.inv)
    rw [Db.find_replay_of_ne fun statement member =>
      (lawful statement (List.mem_append_left _ member)).2] at stored
    exact ⟨binding, (Db.find_mem stored).1, rfl, rfl⟩
  refine wp_seq _ (wp_metering (inferInstance : Raises NoHold _) kept)
    (fun stored later locked => ?_)
    fun exception later failed => .of_noHold failed.1.1 fun _ raised => ?_
  · obtain ⟨⟨due, moved⟩, _⟩ := locked
    rw [wp_branch]
    refine ⟨fun _ => ?_, fun checkpoint _ => ?_⟩
    · exact wp_mono _ (wp_metering (inferInstance : Raises NoHold _) due) fun _ _ ended =>
        .of_noHold ended.1.1 ended.2
    · split
      · exact wp_mono _
          (Raises.wp (mails_observeRegression env checkpoint data due (moved _ _ binds)))
          fun _ _ ended => .of_noHold ended.1 ended.2
      · refine wp_mono _ (wp_metering (raises_observeAdvance binding checkpoint data) due)
          fun _ _ ended => ⟨ended.1.1, fun bindingId organizationId amountIrr raised => ?_⟩
        obtain ⟨rfl, rfl⟩ := ended.2 _ raised _ _ _ rfl
        exact ended.1.2 _ _ (moved _ _ binds)
  · cases raised
    exact failed.2 _ rfl

/-- What comes after a reading raises no hold. -/
theorem wp_interrupted_bind {program : Op α} {rest : α → Op β}
    [∀ value, Sustains postal (Plain False) (mailing False) (rest value)]
    [∀ value, Raises NoHold (rest value)] (first : program.wp postal Interrupted point) :
    (program >>= rest).wp postal Interrupted point :=
  wp_seq _ first (fun _ _ later => wp_mono _ (wp_metering inferInstance later.1)
    fun _ _ ended => .of_noHold ended.1.1 ended.2)
    fun _ _ failed => ⟨failed.1, fun _ _ _ raised => by
      cases raised
      exact failed.2 _ _ _ rfl⟩

/-- A reading with a handler of its hold. -/
theorem wp_handled {program : Op α} {handler : Failure → Op α}
    (first : program.wp postal Interrupted point)
    (handled : ∀ exception later, Interrupted (.error exception : Except Failure α) later →
      (handler exception).wp postal (fun _ last => Meter last) later) :
    (tryCatch program handler).wp postal (fun _ last => Meter last) point := by
  change Orm.wp postal (tryCatchThe Failure program handler) _ _
  refine (wp_tryCatch postal program handler).mpr (wp_mono _ first fun result later ended => ?_)
  cases result with
  | ok value => exact ended.1
  | error exception => exact handled exception later ended

/-- The hold of a reading is recorded after the session started over. -/
theorem wp_rollback_recordHold {bindingId organizationId : Id} (amountIrr : Int)
    {rest : Op α} [Sustains postal (Plain False) (mailing False) rest]
    (binds : point.store.Binds bindingId organizationId) :
    (do
      rollback
      recordHold bindingId organizationId amountIrr
      rest : Op α).wp postal (fun _ last => Meter last) point := by
  rw [wp_bind, wp_rollback]
  intro later rely
  refine wp_seq _ (wp_recordHold amountIrr (.fresh (Plain False) rely.inv) (rely.le _ _ binds))
    (fun _ last kept => wp_sustains (Plain False) rest kept) fun _ _ kept => kept

instance (env : Env) (data : UsageIn) :
    Sustains postal (Plain False) (mailing False) (usage env data) where
  sustains point due := by
    unfold usage
    refine wp_handled (wp_interrupted_bind (mails_observe env data due))
      fun exception later failed => ?_
    unfold usageFailed
    split
    · exact wp_rollback_recordHold _ (failed.2 _ _ _ rfl)
    · exact wp_sustains (Plain False) _ failed.1
    · exact wp_sustains (Plain False) _ failed.1

instance (env : Env) (item : UsageIn) :
    Sustains postal (Plain False) (mailing False) (observeItem env item) where
  sustains point due := by
    unfold observeItem
    refine wp_handled (wp_interrupted_bind (mails_observe env item due))
      fun exception later failed => ?_
    split
    · refine wp_seq _ (wp_recordHold _ failed.1 (failed.2 _ _ _ rfl)) (fun _ _ kept => kept)
        fun _ _ kept => kept
    · exact wp_sustains (Plain False) _ failed.1

instance (env : Env) (items : List UsageIn) :
    Sustains postal (Plain False) (mailing False) (observeItems env items) := by
  induction items with
  | nil => exact Sustains.pure []
  | cons item items inductionHypothesis =>
      unfold observeItems
      infer_instance

instance (env : Env) (observations : List UsageIn) :
    Sustains postal (Plain False) (mailing False) (usageBatch env observations) := by
  unfold usageBatch
  infer_instance

instance (env : Env) (admins : List PanelAdmin) (binding : Binding) :
    Sustains postal (Plain False) (mailing False) (pollBinding env admins binding) := by
  have metered : ∀ reading : Int, Sustains postal (Plain False) (mailing False) (tryCatch
      (do
        let time ← now
        require (0 ≤ reading) (.valueError "Input should be greater than or equal to 0")
        let _ ← observe env ⟨binding.id, reading.toNat, time⟩
        commit)
      fun exception =>
        match exception with
        | .billingHold bindingId organizationId _ => do
            rollback
            recordHold bindingId organizationId 0
            commit
        | _ => rollback : Op Unit) := by
    refine fun reading => ⟨fun point due => wp_handled ?_ fun exception later failed => ?_⟩
    · rw [wp_now_bind]
      intro time
      rw [wp_require_bind]
      exact ⟨fun _ => wp_interrupted_bind (mails_observe env _ due), fun _ => ⟨due, nofun⟩⟩
    · split
      · exact wp_rollback_recordHold _ (failed.2 _ _ _ rfl)
      · exact wp_sustains (Plain False) _ failed.1
  unfold pollBinding
  infer_instance

instance (env : Env) (panelId : Id) (bindings : List Binding) :
    Sustains postal (Plain False) (mailing False) (pollPanel env panelId bindings) := by
  unfold pollPanel panelAdmins resolveSecrets
  infer_instance

instance (env : Env) : Sustains postal (Plain False) (mailing False) (poll env) := by
  unfold poll
  infer_instance

/-! ## Sessions -/

theorem postal_meets (bindings : Prop) (program : Op α)
    [Sustains postal (Plain bindings) (mailing bindings) program] : postal.Meets (served program) :=
  Sustains.meets _ (Plain bindings) (mailing bindings) _

/-- The worker of the outbox only moves events. -/
theorem postal_meets_moveEvents (changes : List (Id × OutboxColumns)) :
    postal.Meets (served (moveEvents changes)) := by
  have moved : ∀ change : Id × OutboxColumns, Sustains postal Moving moving
      (assign .outbox change.1 change.2) := fun change => Sustains.add ⟨_, _, rfl⟩
  have whole : Sustains postal Moving moving (moveEvents changes) := by
    unfold moveEvents
    infer_instance
  exact Sustains.meets _ Moving moving _

/-- Every session of the system keeps to the agreement. -/
theorem SystemOperation.meets_postal {env : Env} {packages : Packages} {traffic : Traffic}
    {program : Prog Database (Except Failure Unit)}
    (operation : SystemOperation env packages traffic program) : postal.Meets program := by
  cases operation with
  | usage data => exact postal_meets False (ControlPlane.usage env data)
  | usageBatch observations => exact postal_meets False (ControlPlane.usageBatch env observations)
  | poll => exact postal_meets False (ControlPlane.poll env)
  | moveEvents changes => exact postal_meets_moveEvents changes
  | confirmOrder identity orderId => exact postal_meets True (customerRoute env identity orderId _)
  | declarePayment identity orderId =>
      exact postal_meets True (customerRoute env identity orderId _)
  | cancelOrder identity orderId => exact postal_meets True (customerRoute env identity orderId _)
  | webCategoryStatus identity categoryId status =>
      exact postal_meets True (catalogStatusRoute env identity .category categoryId status)
  | webPlanStatus identity planId status =>
      exact postal_meets True (catalogStatusRoute env identity .plan planId status)
  | handle handler event handles =>
      have kept : Sustains postal (Plain True) (mailing True) (handler event) :=
        sustains_handler handles event
      exact postal_meets True (handler event)
  | _ => exact postal_meets True _

/-- Every commit of a session inserts events about something that is there and deletes nothing but
parts of the catalog, or moves events. -/
theorem events_addressed {ι : Type} [DecidableEq ι] {env : Env} {packages : Packages}
    {traffic : Traffic} {store : Db} {world : World Database ι (Except Failure Unit)}
    (opening : Integrity store)
    (reached : World.Reachable (SystemOperation env packages traffic) store world)
    {committed : Committed Database} (member : committed ∈ world.commits) :
    (∀ statement ∈ committed.log, Mailing committed.before statement) ∨
      ∀ statement ∈ committed.log, Moving statement := by
  have sound : postal.Sound world :=
    Agreement.Sound.reachable (fun _ operation => operation.meets_postal) opening reached
  exact (sound.commits committed member).2.2

end ControlPlane
