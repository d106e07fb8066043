import ControlPlane.Decisions.Runs
import ControlPlane.Delivery.Histories
import ControlPlane.Identity.Customers
import ControlPlane.Metering.Acceptance
import ControlPlane.Metering.Holds
import ControlPlane.System.Events

/-!
# Deliveries without trouble

When every call on the outside world succeeds and no worker crashes, the holds and
the usage resets that the sessions of the system queue are delivered the first time,
to all active members of the organization. The events of approved orders have no
handler and are retried, and those of decided requests name nobody to write to.
-/

namespace ControlPlane

open ReadCommitted Orm

/-! ## Updates that nothing refuses -/

/-- An update that takes no entries and refers to nothing new is accepted. -/
theorem Integrity.accepts_update {db : Db} (integrity : Integrity db) {table : Table}
    {key : table.Key} {row : table.Row} (found : db.find table key = some row)
    {columns : table.Change} (valid : Table.valid (Table.change columns row) = true)
    (entries : Layout.gained (L := layout) Table.uniqueEntries columns row = [])
    (parents : Layout.gained (L := layout) Table.foreignKeys columns row = []) :
    Database.accepts (.update table key columns) db = true := by
  obtain ⟨member, own⟩ := Db.find_mem found
  change Layout.Statement.accepts (L := layout) (.update table key columns) db = true
  rw [Layout.Statement.accepts, Bool.and_eq_true, List.all_eq_true]
  refine ⟨Layout.has_eq_true.mpr ⟨row, member, own⟩, fun other keyed => ?_⟩
  obtain ⟨otherMember, otherKey⟩ := Layout.mem_keyed.mp keyed
  obtain rfl := integrity.eq_of_key table otherMember otherKey member own
  rw [Bool.and_eq_true, Bool.and_eq_true]
  refine ⟨⟨valid, Layout.vacant_iff.mpr fun entry gained => ?_⟩, ?_⟩
  · rw [show Layout.gained layout.entries columns other = [] from entries] at gained
    exact absurd gained List.not_mem_nil
  · rw [show Layout.gained layout.parents columns other = [] from parents]
    rfl

/-- A handled event can be completed. -/
theorem Integrity.accepts_complete {db : Db} (integrity : Integrity db) {event row : Outbox}
    (found : db.find .outbox event.id = some row) :
    Database.accepts (.update .outbox event.id event.complete) db = true := by
  refine integrity.accepts_update found (integrity.valid .outbox row (Db.find_mem found).1) ?_ rfl
  unfold Layout.gained
  split
  · rfl
  · next changed =>
      rcases Fleet.assigned_getD_cases event.status .done row.status with done | same
      · change @Table.uniqueEntries .outbox
          { row with status := (assigned event.status .done).getD row.status, lastError := _ } = []
        rw [done]
        rfl
      · refine absurd ?_ changed
        change @Table.uniqueEntries .outbox
          { row with status := (assigned event.status .done).getD row.status, lastError := _ } =
            @Table.uniqueEntries .outbox row
        rw [same]
        rfl

/-- A binding can be suspended. -/
theorem Integrity.accepts_suspend {db : Db} (integrity : Integrity db) {key : Id}
    {binding : Binding} (found : db.find .bindings key = some binding) :
    Database.accepts (.update .bindings binding.id { status := some .suspended }) db = true := by
  obtain ⟨member, own⟩ := Db.find_mem found
  exact integrity.accepts_update (integrity.find_eq_some member rfl)
    (integrity.valid .bindings binding member) (if_pos rfl) (if_pos rfl)

/-! ## Handlers in a world without failures -/

/-- Every call on the outside world succeeds. -/
structure Succeeds (env : Env) (answers : Answers Database) : Prop where
  token : env.telegramBotToken ≠ ""
  secrets : ∀ reference index, answers (.resolveSecret reference) index = true
  calls : ∀ panel call index, (answers (.panel panel call) index).isOk = true
  messages : ∀ chatId index, answers (.sendMessage chatId) index = true

theorem Sample.succeeds : Succeeds Sample.env Sample.answers where
  token := by decide
  secrets _ _ := rfl
  calls _ call _ := by cases call <;> rfl
  messages _ _ := rfl

/-- The chats that were written to. -/
def chats (asked : List Query) : List Int :=
  asked.filterMap fun
    | .sendMessage chatId => some chatId
    | _ => none

/-- The active members of an organization, by their Telegram ids. -/
def Db.audience (db : Db) (organizationId : Id) : List Int :=
  db.actors.flatMap fun actor =>
    (db.memberships.filter fun row =>
      row.actorId = actor.id && row.organizationId = organizationId && row.status = .active &&
        actor.status = .active).map fun _ => actor.telegramId

theorem chats_append (asked new : List Query) : chats (asked ++ new) = chats asked ++ chats new :=
  List.filterMap_append

@[simp] theorem chats_sends (chatIds : List Int) : chats (chatIds.map .sendMessage) = chatIds := by
  induction chatIds with
  | nil => rfl
  | cons chatId chatIds inductionHypothesis => exact congrArg (chatId :: ·) inductionHypothesis

section

variable {env : Env} {answers : Answers Database} (succeeds : Succeeds env answers)
  (alone : Alone Database)

include succeeds

theorem run_sends (chatIds : List Int) :
    (forEach chatIds fun chatId => do
      let sent ← consult (.sendMessage chatId)
      require (sent = true) .unexpected : Op Unit).run answers alone =
        (.ok (), { alone with asked := alone.asked ++ chatIds.map .sendMessage }) := by
  induction chatIds generalizing alone with
  | nil => simp
  | cons chatId chatIds inductionHypothesis =>
      unfold consult at inductionHypothesis ⊢
      rw [run_forEach_cons, run_bind, run_ask]
      dsimp only
      rw [run_require, if_pos (succeeds.messages _ _)]
      dsimp only
      rw [inductionHypothesis, List.map_cons, List.append_assoc]
      rfl

theorem run_notify (chatIds : List Int) :
    (notify env chatIds).run answers alone =
      (.ok (), { alone with asked := alone.asked ++ chatIds.map .sendMessage }) := by
  unfold notify
  rw [run_bind, run_require, if_pos succeeds.token]
  exact run_sends succeeds alone chatIds

theorem run_panelClient {panel : Panel} (supported : panel.vendor ∈ supportedVendors) :
    (panelClient panel).run answers alone = (.ok (), { alone with
      asked := alone.asked ++ [.resolveSecret panel.apiKeyRef, .resolveSecret panel.ownerUserRef,
        .resolveSecret panel.ownerPassRef] }) := by
  unfold panelClient resolveSecrets consult
  rw [run_bind, run_require, if_pos supported]
  dsimp only
  rw [run_bind, run_ask]
  dsimp only
  rw [run_bind, run_require, if_pos (succeeds.secrets _ _)]
  dsimp only
  rw [run_bind, run_ask]
  dsimp only
  rw [run_bind, run_require, if_pos (succeeds.secrets _ _)]
  dsimp only
  rw [run_bind, run_ask]
  dsimp only
  rw [run_require, if_pos (succeeds.secrets _ _)]
  simp

omit succeeds in
/-- What a handler that returns has done: it may have assigned to bindings, and it has written to
the audience. -/
def Delivers (answers : Answers Database) (program : Op Unit) (db : Db) (organizationId : Id) :
    Prop :=
  ∃ log later, program.run answers (.opened db) = (.ok (), later) ∧
    later.store = replay (S := Database) log db ∧
      (∀ statement ∈ log, ∃ key columns, statement = .update .bindings key columns) ∧
        ∀ chatId ∈ db.audience organizationId, chatId ∈ chats later.asked

omit succeeds in
/-- The end of a handler: the audience is told, and the session commits. -/
def announce (env : Env) (organizationId : Id) : Op Unit := do
  let chatIds ← audience organizationId
  notify env chatIds
  commit

theorem run_announce (db : Db) (alone : Alone Database) (opened : alone.store = db ∧ alone.log = [])
    (organizationId : Id)
    (accepted : acceptsAll alone.pending db = true) :
    ∃ later, (announce env organizationId).run answers alone = (.ok (), later) ∧
      later.store = replay (S := Database) alone.pending db ∧
        ∀ chatId ∈ db.audience organizationId, chatId ∈ chats later.asked := by
  have view : alone.view = db := by
    unfold Connection.view
    rw [opened.1, opened.2]
    rfl
  unfold announce
  rw [run_bind, show (audience organizationId).run answers alone =
    (.ok (alone.view.audience organizationId), alone) from rfl, view]
  dsimp only
  rw [run_bind, run_notify succeeds]
  dsimp only
  rw [run_commit, if_pos (by rw [← view] at accepted; exact accepted)]
  refine ⟨_, rfl, ?_, fun chatId member => ?_⟩
  · exact congrArg (replay (S := Database) alone.pending) view
  · dsimp only
    rw [chats_append, chats_sends]
    exact List.mem_append_right _ member

/-- A hold of a binding is delivered, whether the binding is still to be suspended or not. -/
theorem delivers_handleBillingHold {db : Db} (integrity : Integrity db)
    (supported : ∀ panel ∈ db.panels, panel.vendor ∈ supportedVendors) {event : Outbox}
    {binding : Binding} (stored : db.find .bindings event.aggregateId = some binding) :
    Delivers answers (handleBillingHold env event) db binding.organizationId := by
  have view : (Alone.opened db : Alone Database).view = db := rfl
  unfold Delivers handleBillingHold
  rw [run_get_bind, run_found_bind, view, stored]
  dsimp only
  rw [run_get_bind, run_bind, run_branch, view]
  cases found : (db.find .panels binding.panelId).filter fun panel =>
      panel.status = .active && binding.status = .active with
  | none =>
      obtain ⟨later, ran, store, told⟩ := run_announce succeeds db (.opened db)
        ⟨rfl, rfl⟩ binding.organizationId rfl
      exact ⟨[], later, ran, store, List.forall_mem_nil _, told⟩
  | some panel =>
      have vendor := supported panel (Db.find_mem (Option.filter_eq_some_iff.mp found).1).1
      dsimp only
      rw [run_bind, run_panelClient succeeds _ vendor]
      dsimp only
      unfold consult assign
      rw [run_bind, run_ask]
      dsimp only
      rw [run_bind, run_require, if_pos (succeeds.calls _ _ _)]
      dsimp only
      rw [run_add]
      dsimp only
      have accepted : acceptsAll (S := Database)
          [.update .bindings binding.id { status := some .suspended }] db = true := by
        rw [acceptsAll_cons, integrity.accepts_suspend stored]
        rfl
      obtain ⟨later, ran, store, told⟩ := run_announce succeeds db
        ⟨⟨db, [], _, []⟩, [.update .bindings binding.id { status := some .suspended }]⟩
        ⟨rfl, rfl⟩ binding.organizationId accepted
      exact ⟨_, later, ran, store, List.forall_mem_singleton.mpr ⟨_, _, rfl⟩, told⟩

/-- A usage reset of an organization is delivered. -/
theorem delivers_handleUsageReset {db : Db} {event : Outbox} {organizationId : Id}
    {organization : Organization} (payload : event.payload.organizationId = some organizationId)
    (stored : db.find .organizations organizationId = some organization) :
    Delivers answers (handleUsageReset env event) db organization.id := by
  have view : (Alone.opened db : Alone Database).view = db := rfl
  unfold Delivers handleUsageReset
  rw [run_found_bind, payload]
  dsimp only
  rw [run_get_bind, run_found_bind, view, stored]
  obtain ⟨later, ran, store, told⟩ := run_announce succeeds db (.opened db)
    ⟨rfl, rfl⟩ organization.id rfl
  exact ⟨[], later, ran, store, List.forall_mem_nil _, told⟩

end

/-! ## Events that a handler can deliver -/

/-- The organization that an event is about, as its handler finds it. -/
def Outbox.subject (db : Db) (event : Outbox) : Option Id :=
  if event.topic = "billing.hold_required" then
    (db.find .bindings event.aggregateId).map Binding.organizationId
  else if event.topic = "usage.reset_detected" then
    (event.payload.organizationId.bind (db.find .organizations)).map Organization.id
  else none

section

variable {db : Db} {event : Outbox} {env : Env}

/-- An event about an organization has a handler, which delivers it. -/
theorem delivers_of_subject {answers : Answers Database} (succeeds : Succeeds env answers)
    (integrity : Integrity db) (supported : ∀ panel ∈ db.panels, panel.vendor ∈ supportedVendors)
    {organizationId : Id} (about : event.subject db = some organizationId) :
    ∃ handler, handlers env event.topic = some handler ∧
      Delivers answers (handler event) db organizationId := by
  unfold Outbox.subject at about
  unfold handlers
  split_ifs at about with hold reset
  · rw [if_pos hold]
    obtain ⟨binding, stored, rfl⟩ := Option.map_eq_some_iff.mp about
    exact ⟨_, rfl, delivers_handleBillingHold succeeds integrity supported stored⟩
  · rw [if_neg hold, if_pos reset]
    obtain ⟨organization, stored, rfl⟩ := Option.map_eq_some_iff.mp about
    obtain ⟨key, payload, stored⟩ := Option.bind_eq_some_iff.mp stored
    exact ⟨_, rfl, delivers_handleUsageReset succeeds payload stored⟩

/-- A row stays where nothing of its table is deleted. -/
theorem Db.find_isSome_replay (table : Table) {log : List Database.Write}
    (kept : ∀ key, .delete table key ∉ log) {key : table.Key}
    (stored : (db.find table key).isSome) :
    (Db.find (replay (S := Database) log db) table key).isSome := by
  induction log generalizing db with
  | nil => exact stored
  | cons statement log inductionHypothesis =>
      rw [replay_cons]
      refine inductionHypothesis (fun other member => kept other (List.mem_cons_of_mem _ member)) ?_
      by_cases own : table = Layout.Statement.table statement
      · cases statement with
        | insert other row =>
            subst own
            rw [show Db.find (Database.apply (.insert _ row) db) _ key = _ from
              Db.find_apply_insert _ db row key, Option.isSome_or, stored]
            rfl
        | update other changed columns =>
            subst own
            rw [show Db.find (Database.apply (.update _ changed columns) db) _ key = _ from
              Db.find_apply_update _ db changed columns key, Option.isSome_map]
            exact stored
        | delete other gone =>
            subst own
            exact absurd List.mem_cons_self (kept gone)
      · rw [show Db.find (Database.apply statement db) table key = _ from
          Db.find_apply_of_ne db own key]
        exact stored

/-- An event stays about an organization where no bindings and organizations are deleted. -/
theorem Outbox.subject_replay {log : List Database.Write}
    (kept : ∀ table key, .delete table key ∈ log → table ≠ .bindings ∧ table ≠ .organizations)
    (about : (event.subject db).isSome) :
    (event.subject (replay (S := Database) log db)).isSome := by
  have bindings {key : Id} : (db.find .bindings key).isSome →
      (Db.find (replay (S := Database) log db) .bindings key).isSome :=
    Db.find_isSome_replay .bindings fun key member => (kept _ key member).1 rfl
  have organizations {key : Id} : (db.find .organizations key).isSome →
      (Db.find (replay (S := Database) log db) .organizations key).isSome :=
    Db.find_isSome_replay .organizations fun key member => (kept _ key member).2 rfl
  unfold Outbox.subject at about ⊢
  split_ifs at about ⊢
  · rw [Option.isSome_map] at about ⊢
    exact bindings about
  · rw [Option.isSome_map] at about ⊢
    cases payload : event.payload.organizationId with
    | none => rw [payload] at about; exact about
    | some key =>
        rw [payload] at about
        exact organizations about
  · exact about

/-- What a session queues is about an organization, unless it is a decision. -/
theorem Outbox.subject_of_addressed (integrity : Integrity db)
    (addressed : Addressed db event.topic event.aggregateId event.payload)
    (undecided : event.topic ∉ decisionTopics) : (event.subject db).isSome := by
  unfold Outbox.subject
  generalize event.topic = topic, event.aggregateId = aggregateId, event.payload = payload
    at addressed undecided ⊢
  cases addressed with
  | hold binds =>
      obtain ⟨row, member, rfl, _⟩ := binds
      rw [if_pos rfl, Option.isSome_map, integrity.find_eq_some member rfl]
      rfl
  | reset own binds =>
      obtain ⟨row, member, _, rfl⟩ := binds
      obtain ⟨organization, present, its⟩ := Layout.has_eq_true.mp
        (integrity.parents .bindings row member ⟨.organizations, row.organizationId⟩ (by
          simp [Table.foreignKeys]))
      rw [if_neg (by decide), if_pos rfl, own, Option.isSome_map, Option.bind_some,
        integrity.find_eq_some present its]
      rfl
  | decision decided => exact absurd decided undecided

/-- The contents of an event decide what it is about. -/
theorem Outbox.subject_eq {other : Outbox} (same : Fleet.SameEvent event other) :
    other.subject db = event.subject db := by
  unfold Outbox.subject
  rw [same.2.1, same.2.2.1, same.2.2.2]

end

/-- An event is about an organization, and in the queue with its contents. -/
def Outbox.Known (db : Db) (event : Outbox) : Prop :=
  (event.subject db).isSome ∧
    ∃ row, db.find .outbox event.id = some row ∧ Fleet.SameEvent row event

/-- The events of a pass are loaded and known. -/
def Event.AllKnown (db : Db) (events : List Event) : Prop :=
  ∀ event ∈ events, ∃ row, event.loaded = some row ∧ row.Known db

/-- A pass in which nothing has gone wrong. -/
def Phase.Smooth (db : Db) : Phase → Prop
  | .reclaiming _ | .claiming => True
  | .ready batch => Event.AllKnown db batch
  | .handling event rest | .handled event rest => event.Known db ∧ Event.AllKnown db rest
  | .failed _ _ _ | .retrying _ _ _ => False

theorem Event.AllKnown.mono {db later : Db} {events : List Event}
    (known : ∀ event : Outbox, event.Known db → event.Known later)
    (allKnown : Event.AllKnown db events) : Event.AllKnown later events := by
  intro event member
  obtain ⟨row, loaded, knows⟩ := allKnown event member
  exact ⟨row, loaded, known row knows⟩

/-- What a pass knows stays known while events and what they are about stay. -/
theorem Phase.Smooth.mono {db later : Db}
    (known : ∀ event : Outbox, event.Known db → event.Known later) {phase : Phase}
    (smooth : phase.Smooth db) : phase.Smooth later := by
  cases phase with
  | reclaiming | claiming => trivial
  | ready batch => exact Event.AllKnown.mono known smooth
  | handling event rest => exact ⟨known event smooth.1, smooth.2.mono known⟩
  | handled event rest => exact ⟨known event smooth.1, smooth.2.mono known⟩
  | failed | retrying => exact smooth

namespace Fleet

variable {ι : Type}

/-- The other sessions commit what sessions of the system commit. -/
def Joins (history : List (Db × List Database.Write)) (fleet : Fleet ι) : Action ι → Prop
  | .commit log => (fleet.db, log) ∈ history
  | _ => True

/-- The outside world succeeds, and nobody crashes. -/
def Fortunate (env : Env) : Action ι → Prop
  | .finishes _ answers _ => Succeeds env answers
  | .crashes _ => False
  | _ => True

/-- A statement that queues the event of an approved order or of a decided request. -/
def decides : Database.Write → Bool
  | .insert .outbox row => row.topic ∈ decisionTopics
  | _ => false

/-- No order is approved and no request decided in a step. -/
def Undecided : Action ι → Prop
  | .commit log => ∀ statement ∈ log, decides statement = false
  | _ => True

/-- Nothing goes wrong in a step: other sessions queue only events about something that is there,
none of them about a decision, every call succeeds and nobody crashes. -/
def Untroubled (env : Env) (fleet : Fleet ι) : Action ι → Prop
  | .commit log => ∀ statement ∈ log, Mailing fleet.db statement ∧ decides statement = false
  | action => Fortunate env action

/-- No event is dead and no pass is about to retry. -/
structure Smooth (fleet : Fleet ι) : Prop where
  integrity : Integrity fleet.db
  panels : ∀ panel ∈ fleet.db.panels, panel.vendor ∈ supportedVendors
  events : ∀ id row, fleet.db.find .outbox id = some row →
    row.status ≠ .dead ∧ (row.subject fleet.db).isSome
  passes : ∀ process pass, fleet.passes process = some pass → pass.phase.Smooth fleet.db

/-- Statements of the queue only update it. -/
theorem delete_notMem_updates (columns : Outbox → OutboxColumns) (rows : List Outbox)
    (table : Table) (key : table.Key) : .delete table key ∉ updates columns rows := by
  intro member
  obtain ⟨_, _, same⟩ := List.mem_map.mp member
  exact nomatch same

theorem SameEvent.trans {first second third : Outbox} (early : SameEvent first second)
    (late : SameEvent second third) : SameEvent first third :=
  ⟨late.1.trans early.1, late.2.1.trans early.2.1, late.2.2.1.trans early.2.2.1,
    late.2.2.2.trans early.2.2.2⟩

theorem SameEvent.symm {first second : Outbox} (same : SameEvent first second) :
    SameEvent second first :=
  ⟨same.1.symm, same.2.1.symm, same.2.2.1.symm, same.2.2.2.symm⟩

/-- What is known stays known while nothing is deleted. -/
theorem known_replay {db : Db} {log : List Database.Write}
    (kept : ∀ table key, .delete table key ∈ log → table ≠ .bindings ∧ table ≠ .organizations)
    (stays : ∀ id row, db.find .outbox id = some row →
      ∃ last, Db.find (replay (S := Database) log db) .outbox id = some last ∧ SameEvent row last)
    (event : Outbox) (known : event.Known db) : event.Known (replay (S := Database) log db) := by
  obtain ⟨about, row, found, same⟩ := known
  obtain ⟨last, foundLast, kept'⟩ := stays _ row found
  exact ⟨Outbox.subject_replay kept about, last, foundLast, kept'.symm.trans same⟩

variable {env : Env} {fleet later : Fleet ι} {action : Action ι}

/-- What sessions write deletes neither bindings nor organizations. -/
theorem keeps_of_mailing {db : Db} {log : List Database.Write}
    (mailing : ∀ statement ∈ log, Mailing db statement) (table : Table) (key : table.Key)
    (deleted : .delete table key ∈ log) : table ≠ .bindings ∧ table ≠ .organizations := by
  have catalog : table = .planCategories ∨ table = .plans := mailing _ deleted
  rcases catalog with rfl | rfl <;> decide

/-- Assignments to bindings delete nothing. -/
theorem delete_notMem_assigned {log : List Database.Write}
    (assigned : ∀ statement ∈ log, ∃ key columns,
      statement = (.update .bindings key columns : Database.Write))
    (table : Table) (key : table.Key) : .delete table key ∉ log := by
  intro member
  obtain ⟨_, _, same⟩ := assigned _ member
  exact nomatch same

/-- A transaction of updates that make nothing dead. -/
theorem Smooth.amended (smooth : Smooth fleet) (columns : Outbox → OutboxColumns)
    (rows : List Outbox) (alive : ∀ update ∈ rows, ∀ row : Outbox, row.status ≠ .dead →
      (@Table.change .outbox (columns update) row).status ≠ .dead) :
    (∀ id row, Db.find (replay (S := Database) (updates columns rows) fleet.db) .outbox id =
      some row → row.status ≠ .dead ∧
        (row.subject (replay (S := Database) (updates columns rows) fleet.db)).isSome) ∧
      ∀ event : Outbox, event.Known fleet.db →
        event.Known (replay (S := Database) (updates columns rows) fleet.db) := by
  have kept : ∀ table key, .delete table key ∈ updates columns rows →
      table ≠ .bindings ∧ table ≠ .organizations := fun table key member =>
    absurd member (delete_notMem_updates columns rows table key)
  have treats : ∀ update ∈ rows, ∀ row : Outbox, update.id = row.id →
      SameEvent row (@Table.change .outbox (columns update) row) ∧ (row.status ≠ .dead →
        (@Table.change .outbox (columns update) row).status ≠ .dead) :=
    fun update member row _ => ⟨⟨rfl, rfl, rfl, rfl⟩, alive update member row⟩
  have stays : ∀ id row, fleet.db.find .outbox id = some row →
      ∃ last, Db.find (replay (S := Database) (updates columns rows) fleet.db) .outbox id =
        some last ∧ SameEvent row last ∧ (row.status ≠ .dead → last.status ≠ .dead) := by
    intro id row found
    obtain ⟨last, foundLast, treated⟩ := find_replay_treated (motive := fun row last =>
      SameEvent row last ∧ (row.status ≠ .dead → last.status ≠ .dead)) columns treats found
    refine ⟨last, foundLast, ?_⟩
    clear foundLast
    induction treated with
    | refl => exact ⟨⟨rfl, rfl, rfl, rfl⟩, fun living => living⟩
    | tail _ change inductionHypothesis =>
        exact ⟨inductionHypothesis.1.trans change.1, change.2 ∘ inductionHypothesis.2⟩
  constructor
  · intro id row found
    cases before : fleet.db.find .outbox id with
    | none =>
        exact absurd ((find_replay_updates_none columns rows before).symm.trans found) (by simp)
    | some old =>
        obtain ⟨last, foundLast, same, living⟩ := stays id old before
        rw [found, Option.some.injEq] at foundLast
        subst foundLast
        obtain ⟨alive, about⟩ := smooth.events id old before
        refine ⟨living alive, ?_⟩
        rw [Outbox.subject_eq same]
        exact Outbox.subject_replay kept about
  · refine known_replay kept fun id row found => ?_
    obtain ⟨last, foundLast, same, _⟩ := stays id row found
    exact ⟨last, foundLast, same⟩

/-- The handler of a known event returns and tells everybody it should. -/
theorem Smooth.finish (smooth : Smooth fleet) {answers : Answers Database}
    (succeeds : Succeeds env answers) {event : Outbox} {organizationId : Id}
    (about : event.subject fleet.db = some organizationId) (error : String)
    (pass : Pass) (rest : List Event) :
    (Fleet.finish env answers error pass event rest fleet.db).2 =
        { pass with phase := .handled event rest } ∧
      ∃ log, (∀ statement ∈ log, ∃ key columns,
          statement = (.update .bindings key columns : Database.Write)) ∧
        (Fleet.finish env answers error pass event rest fleet.db).1 =
          replay (S := Database) log fleet.db := by
  obtain ⟨handler, handles, log, last, ran, store, kept, _⟩ :=
    delivers_of_subject succeeds smooth.integrity smooth.panels about
  have served : (handler event).serve answers fleet.db = (.ok (), last.store) := by
    unfold serve
    rw [ran]
  unfold Fleet.finish
  rw [handles]
  dsimp only
  rw [served]
  exact ⟨rfl, log, kept, store⟩

/-- The end of a handler keeps what is known. -/
theorem Smooth.known_finish (smooth : Smooth fleet) {answers : Answers Database}
    (succeeds : Succeeds env answers) {event : Outbox} {organizationId : Id}
    (about : event.subject fleet.db = some organizationId) (error : String)
    (pass : Pass) (rest : List Event) {other : Outbox} (known : other.Known fleet.db) :
    other.Known (Fleet.finish env answers error pass event rest fleet.db).1 := by
  obtain ⟨_, log, assigned, store⟩ := smooth.finish succeeds about error pass rest
  have kept := delete_notMem_assigned assigned
  have queue := outbox_finish env answers error pass event rest fleet.db
  rw [store] at queue ⊢
  refine known_replay (fun table key member => absurd member (kept table key))
    (fun id row found => ⟨row, ?_, rfl, rfl, rfl, rfl⟩) other known
  unfold Db.find
  rw [show Db.rows (replay (S := Database) log fleet.db) .outbox = fleet.db.outbox from queue]
  exact found

/-- The events of a claim are known. -/
theorem Smooth.claimed (smooth : Smooth fleet) (workerId : String) {skipped : List Id} {limit : Nat}
    {db : Db} (mono : ∀ event : Outbox, event.Known fleet.db → event.Known db) :
    Event.AllKnown db ((fleet.db.claimable fleet.time skipped limit).map
      (Event.ofClaim workerId fleet.time)) := by
  intro event member
  obtain ⟨row, claimed, rfl⟩ := List.mem_map.mp member
  have found : fleet.db.find .outbox row.id = some row :=
    smooth.integrity.find_eq_some (Db.mem_claimable claimed).1 rfl
  refine ⟨_, rfl, ?_⟩
  obtain ⟨about, last, stays, kept⟩ := mono row
    ⟨(smooth.events _ row found).2, row, found, rfl, rfl, rfl, rfl⟩
  have same : SameEvent row (@Table.change .outbox (row.claim workerId fleet.time) row) :=
    ⟨rfl, rfl, rfl, rfl⟩
  exact ⟨(congrArg Option.isSome (Outbox.subject_eq same)).trans about, last, stays,
    kept.trans same⟩

/-- An assignment of another status makes nothing dead. -/
theorem assigned_alive (loaded : OutboxStatus) {value current : OutboxStatus}
    (fine : value ≠ .dead) (living : current ≠ .dead) :
    (assigned loaded value).getD current ≠ .dead := by
  rcases assigned_getD_cases loaded value current with same | same
  · rwa [same]
  · rwa [same]

variable [DecidableEq ι]

/-- A transaction of updates that make nothing dead keeps what the passes know. -/
theorem Smooth.transacted (smooth : Smooth fleet) {process : ι} (columns : Outbox → OutboxColumns)
    (rows : List Outbox) (alive : ∀ update ∈ rows, ∀ row : Outbox, row.status ≠ .dead →
      (@Table.change .outbox (columns update) row).status ≠ .dead) {committed : Option Pass}
    (own : ∀ db, (∀ event : Outbox, event.Known fleet.db → event.Known db) →
      ∀ pass, committed = some pass → pass.phase.Smooth db) :
    ∀ other pass, (fleet.transact process (updates columns rows) committed none).passes other =
      some pass →
        pass.phase.Smooth (fleet.transact process (updates columns rows) committed none).db := by
  have mono := (smooth.amended columns rows alive).2
  refine transact_cases (motive := fun next => ∀ other pass, next.passes other = some pass →
    pass.phase.Smooth next.db) (fun _ => ?_) (passes_put (by rintro _ ⟨⟩) smooth.passes)
  exact passes_put (own _ mono) fun other pass running =>
    (smooth.passes other pass running).mono mono

/-- The queue stays free of dead events. -/
theorem Smooth.step_events (smooth : Smooth fleet) (untroubled : Untroubled env fleet action)
    (stepped : Stepped env fleet action later) {id : Id} {row : Outbox}
    (found : later.db.find .outbox id = some row) :
    row.status ≠ .dead ∧ (row.subject later.db).isSome := by
  have transacted : ∀ {process} (columns : Outbox → OutboxColumns) (rows : List Outbox)
      {committed refused}, (∀ update ∈ rows, ∀ row : Outbox, row.status ≠ .dead →
        (@Table.change .outbox (columns update) row).status ≠ .dead) →
      (fleet.transact process (updates columns rows) committed refused).db.find .outbox id =
        some row →
      row.status ≠ .dead ∧ (row.subject
        (fleet.transact process (updates columns rows) committed refused).db).isSome := by
    intro process columns rows committed refused alive
    exact transact_cases (motive := fun next => next.db.find .outbox id = some row →
      row.status ≠ .dead ∧ (row.subject next.db).isSome)
      (fun _ => (smooth.amended columns rows alive).1 id row) (smooth.events id row)
  cases stepped with
  | commit log queued accepted =>
      have kept := keeps_of_mailing fun statement member => (untroubled statement member).1
      cases before : fleet.db.find .outbox id with
      | none =>
          have inserted := find_replay_queues_new queued before found
          have mailed : row.Queued ∧ Addressed fleet.db row.topic row.aggregateId row.payload :=
            (untroubled _ inserted).1
          refine ⟨?_, ?_⟩
          · rw [mailed.1]
            exact nofun
          · refine Outbox.subject_replay kept
              (Outbox.subject_of_addressed smooth.integrity mailed.2 ?_)
            exact of_decide_eq_false (untroubled _ inserted).2
      | some old =>
          have same := (find_replay_queues queued before).symm.trans found
          rw [Option.some.injEq] at same
          subst same
          obtain ⟨living, about⟩ := smooth.events id old before
          exact ⟨living, Outbox.subject_replay kept about⟩
  | reclaims process workerId limit stale running =>
      exact transacted Outbox.reclaim stale
        (fun update _ row living => assigned_alive _ (by decide) living) found
  | claims process skipped workerId limit running =>
      exact transacted (·.claim workerId fleet.time) _
        (fun update _ row living => assigned_alive _ (by decide) living) found
  | finishes process answers error workerId limit event rest running =>
      have pass := smooth.passes process _ running
      obtain ⟨organizationId, about⟩ := Option.isSome_iff_exists.mp pass.1.1
      obtain ⟨_, log, assigned, store⟩ := smooth.finish untroubled about error
        ⟨workerId, limit, .handling event rest⟩ rest
      have kept := delete_notMem_assigned assigned
      have same : fleet.db.find .outbox id = some row := by
        unfold Db.find at found ⊢
        rw [show Db.rows (Fleet.finish env answers error _ event rest fleet.db).1 .outbox =
          fleet.db.outbox from outbox_finish ..] at found
        exact found
      obtain ⟨living, about⟩ := smooth.events id row same
      refine ⟨living, ?_⟩
      change (row.subject (Fleet.finish env answers error _ event rest fleet.db).1).isSome
      rw [store]
      exact Outbox.subject_replay (fun table key member => absurd member (kept table key)) about
  | completes process error workerId limit event rest running =>
      exact transacted Outbox.complete [event]
        (fun update _ row living => assigned_alive _ (by decide) living) found
  | retries process workerId limit event error rest running =>
      exact (smooth.passes process _ running).elim
  | _ => exact smooth.events id row found

/-- No pass comes to a retry. -/
theorem Smooth.step_passes (smooth : Smooth fleet) (untroubled : Untroubled env fleet action)
    (stepped : Stepped env fleet action later) :
    ∀ process pass, later.passes process = some pass → pass.phase.Smooth later.db := by
  have others {db : Db} (mono : ∀ event : Outbox, event.Known fleet.db → event.Known db) :
      ∀ process pass, fleet.passes process = some pass → pass.phase.Smooth db :=
    fun process pass running => (smooth.passes process pass running).mono mono
  cases stepped with
  | tick => exact smooth.passes
  | commit log queued accepted =>
      have kept := keeps_of_mailing fun statement member => (untroubled statement member).1
      exact others (known_replay kept fun id row found =>
        ⟨row, find_replay_queues queued found, rfl, rfl, rfl, rfl⟩)
  | opens process workerId limit free =>
      exact passes_put (by rintro _ ⟨⟩; trivial) smooth.passes
  | reclaims process workerId limit stale running =>
      refine smooth.transacted Outbox.reclaim stale
        (fun update _ row living => assigned_alive _ (by decide) living) ?_
      rintro _ _ _ ⟨⟩
      trivial
  | claims process skipped workerId limit running =>
      refine smooth.transacted (·.claim workerId fleet.time)
        (fleet.db.claimable fleet.time skipped limit)
        (fun update _ row living => assigned_alive _ (by decide) living) ?_
      rintro db mono _ ⟨⟩
      exact smooth.claimed workerId mono
  | takes process workerId limit batch running =>
      refine passes_put (fun pass taken => ?_) smooth.passes
      have batchKnown : Event.AllKnown fleet.db batch := smooth.passes process _ running
      cases batch with
      | nil => exact nomatch taken
      | cons event rest =>
          obtain ⟨row, loaded, known⟩ := batchKnown event List.mem_cons_self
          rw [take, loaded, Option.some_or, Option.map_some, Option.some.injEq] at taken
          subst taken
          obtain ⟨organizationId, about⟩ := Option.isSome_iff_exists.mp known.1
          have handled : (handlers env row.topic).isSome = true := by
            unfold Outbox.subject at about
            unfold handlers
            split_ifs at about with hold reset
            · rw [if_pos hold]
              rfl
            · rw [if_neg hold, if_pos reset]
              rfl
          dsimp only
          rw [if_pos handled]
          exact ⟨known, fun other member => batchKnown other (List.mem_cons_of_mem _ member)⟩
  | finishes process answers error workerId limit event rest running =>
      obtain ⟨known, restKnown⟩ := smooth.passes process _ running
      obtain ⟨organizationId, about⟩ := Option.isSome_iff_exists.mp known.1
      obtain ⟨phase, _⟩ := smooth.finish untroubled about error
        ⟨workerId, limit, .handling event rest⟩ rest
      have mono : ∀ other : Outbox, other.Known fleet.db → other.Known
          (Fleet.finish env answers error ⟨workerId, limit, .handling event rest⟩ event rest
            fleet.db).1 := fun other =>
        smooth.known_finish untroubled about error _ rest
      generalize Fleet.finish env answers error ⟨workerId, limit, .handling event rest⟩ event rest
        fleet.db = outcome at phase mono ⊢
      refine passes_put (motive := fun pass => pass.phase.Smooth outcome.1) ?_ (others mono)
      rintro _ ⟨⟩
      rw [phase]
      exact ⟨mono event known, restKnown.mono mono⟩
  | completes process error workerId limit event rest running =>
      obtain ⟨known, restKnown⟩ := smooth.passes process _ running
      obtain ⟨_, row, found, _⟩ := known
      have accepted : acceptsAll (S := Database) [.update .outbox event.id event.complete]
          fleet.db = true := by
        rw [acceptsAll_cons, smooth.integrity.accepts_complete found]
        rfl
      rw [show fleet.transact process [.update .outbox event.id event.complete] _ _ =
        fleet.transact process [.update .outbox event.id event.complete]
          (some ⟨workerId, limit, .ready rest⟩) none by
            unfold transact
            rw [if_pos accepted, if_pos accepted]]
      refine smooth.transacted Outbox.complete [event]
        (fun update _ row living => assigned_alive _ (by decide) living) ?_
      rintro db mono _ ⟨⟩
      exact restKnown.mono mono
  | reloads process workerId limit id error rest running =>
      exact (smooth.passes process _ running).elim
  | retries process workerId limit event error rest running =>
      exact (smooth.passes process _ running).elim
  | crashes process pass running => exact False.elim untroubled

/-- Servers stay with supported vendors. -/
theorem Smooth.step_panels (smooth : Smooth fleet) (untroubled : Untroubled env fleet action)
    (stepped : Stepped env fleet action later) :
    ∀ panel ∈ later.db.panels, panel.vendor ∈ supportedVendors := by
  have replayed : ∀ {log : List Database.Write},
      (∀ row : Panel, .insert .panels row ∈ log → row.vendor ∈ supportedVendors) →
        ∀ panel ∈ Db.panels (replay (S := Database) log fleet.db),
          panel.vendor ∈ supportedVendors := fun {log} inserted =>
    @Layout.every_replay layout Table.panels Query Query.Answer
      (fun panel : Panel => panel.vendor ∈ supportedVendors) log inserted
      (fun _ _ _ _ _ supported => supported) fleet.db smooth.panels
  have transacted : ∀ {process} (columns : Outbox → OutboxColumns) (rows : List Outbox)
      {committed refused}, ∀ panel ∈ (fleet.transact process (updates columns rows) committed
        refused).db.panels, panel.vendor ∈ supportedVendors := by
    intro process columns rows committed refused
    refine transact_cases (motive := fun next => ∀ panel ∈ next.db.panels,
      panel.vendor ∈ supportedVendors) (fun _ => replayed fun row inserted => ?_) smooth.panels
    obtain ⟨_, _, same⟩ := List.mem_map.mp inserted
    cases same
  cases stepped with
  | commit log queued accepted =>
      exact replayed fun row inserted => (untroubled _ inserted).1
  | reclaims process workerId limit stale running => exact transacted Outbox.reclaim stale
  | claims process skipped workerId limit running =>
      exact transacted (·.claim workerId fleet.time) _
  | finishes process answers error workerId limit event rest running =>
      obtain ⟨organizationId, about⟩ :=
        Option.isSome_iff_exists.mp (smooth.passes process _ running).1.1
      obtain ⟨_, log, assigned, store⟩ := smooth.finish untroubled about error
        ⟨workerId, limit, .handling event rest⟩ rest
      change ∀ panel ∈ Db.panels (Fleet.finish env answers error _ event rest fleet.db).1, _
      rw [store]
      refine replayed fun row inserted => ?_
      obtain ⟨_, _, same⟩ := assigned _ inserted
      cases same
  | completes process error workerId limit event rest running =>
      exact transacted Outbox.complete [event]
  | retries process workerId limit event error rest running =>
      exact (smooth.passes process _ running).elim
  | _ => exact smooth.panels

/-- Nothing goes wrong from one state to the next. -/
theorem Smooth.step (smooth : Smooth fleet) (untroubled : Untroubled env fleet action)
    (stepped : Stepped env fleet action later) : Smooth later where
  integrity := stepped.integrity smooth.integrity
  panels := smooth.step_panels untroubled stepped
  events _ _ := smooth.step_events untroubled stepped
  passes := smooth.step_passes untroubled stepped

/-! ## Whole runs -/

omit [DecidableEq ι] in
/-- At the start nothing is queued and no pass runs. -/
theorem Smooth.initial {db : Db} (integrity : Integrity db)
    (supported : ∀ panel ∈ db.panels, panel.vendor ∈ supportedVendors) (empty : db.outbox = [])
    (time : Time) : Smooth (Fleet.initial db time : Fleet ι) where
  integrity := integrity
  panels := supported
  events id row found := by
    have member : row ∈ db.outbox := (Db.find_mem found).1
    rw [empty] at member
    exact absurd member List.not_mem_nil
  passes _ _ found := nomatch found

omit [DecidableEq ι] in
/-- Every step of a run was possible. -/
theorem History.taken {first last : Fleet ι} {steps : List (Fleet ι × Action ι)} [DecidableEq ι]
    (history : History env first steps last) {step : Fleet ι × Action ι} (member : step ∈ steps) :
    ∃ next, step.1.step env step.2 = some next := by
  induction history with
  | stop => exact absurd member List.not_mem_nil
  | step action taken _ inductionHypothesis =>
      rcases List.mem_cons.mp member with rfl | rest
      · exact ⟨_, taken⟩
      · exact inductionHypothesis rest

/-- While nothing goes wrong, nothing has gone wrong in any state of a run. -/
theorem History.smooth {first last : Fleet ι} {steps : List (Fleet ι × Action ι)}
    (history : History env first steps last)
    (untroubled : ∀ step ∈ steps, Untroubled env step.1 step.2) (opening : Smooth first) :
    Smooth last ∧ ∀ step ∈ steps, Smooth step.1 := by
  induction history with
  | stop => exact ⟨opening, fun _ member => absurd member List.not_mem_nil⟩
  | step action taken _ inductionHypothesis =>
      have next := opening.step (untroubled _ List.mem_cons_self) (stepped taken)
      obtain ⟨ended, before⟩ := inductionHypothesis
        (fun step member => untroubled step (List.mem_cons_of_mem _ member)) next
      refine ⟨ended, fun step member => ?_⟩
      rcases List.mem_cons.mp member with rfl | rest
      · exact opening
      · exact before step rest

omit [DecidableEq ι] in
/-- The chats that the handler of a step writes to. -/
def told (env : Env) (step : Fleet ι × Action ι) : List Int :=
  match step.2 with
  | .finishes process answers _ =>
      match step.1.passes process with
      | some ⟨_, _, .handling event _⟩ =>
          match handlers env event.topic with
          | some handler => chats ((handler event).run answers (.opened step.1.db)).2.asked
          | none => []
      | _ => []
  | _ => []

omit [DecidableEq ι] in
/-- The end of a handler tells the chats it wrote to. -/
theorem told_finishes {process : ι} {workerId : String} {limit : Nat} {event : Outbox}
    {rest : List Event} {handler : Outbox → Op Unit} (answers : Answers Database) (error : String)
    (running : fleet.passes process = some ⟨workerId, limit, .handling event rest⟩)
    (handles : handlers env event.topic = some handler) :
    told env (fleet, .finishes process answers error) =
      chats ((handler event).run answers (.opened fleet.db)).2.asked := by
  unfold told
  dsimp only
  rw [running]
  dsimp only
  rw [handles]

omit [DecidableEq ι] in
/-- Where nothing has gone wrong, no step retries an event. -/
theorem Smooth.retries (smooth : Smooth fleet) (id : Id) :
    retriesEvent env id (fleet, action) = false := by
  unfold retriesEvent
  dsimp only
  split
  · split
    · next running => exact (smooth.passes _ _ running).elim
    · rfl
  · rfl

omit [DecidableEq ι] in
/-- A handler that returns tells all active members of the organization its event is about. -/
theorem Smooth.told (smooth : Smooth fleet) (untroubled : Untroubled env fleet action) {id : Id}
    (returned : returnsEvent env id (fleet, action) = true) :
    ∃ row organizationId, fleet.db.find .outbox id = some row ∧
      row.subject fleet.db = some organizationId ∧
        ∀ chatId ∈ fleet.db.audience organizationId, chatId ∈ Fleet.told env (fleet, action) := by
  cases action with
  | finishes process answers error =>
      unfold returnsEvent at returned
      dsimp only at returned
      split at returned
      · next workerId limit event rest running =>
          simp only [Bool.and_eq_true, decide_eq_true_eq] at returned
          obtain ⟨⟨about, row, found, same⟩, _⟩ := smooth.passes process _ running
          obtain ⟨organizationId, subject⟩ := Option.isSome_iff_exists.mp about
          obtain ⟨handler, handles, log, last, ran, _, _, told⟩ :=
            delivers_of_subject untroubled smooth.integrity smooth.panels subject
          refine ⟨row, organizationId, returned.1 ▸ found, ?_, ?_⟩
          · rw [Outbox.subject_eq same] at subject
            exact subject
          · rw [told_finishes answers error running handles, ran]
            exact told
      · cases returned
  | _ => cases returned

omit [DecidableEq ι] in
/-- A step beside sessions of the system is untroubled where no call fails, nobody crashes, and
nothing is decided. -/
theorem untroubled_of_joins {packages : Packages} {traffic : Traffic} {κ : Type} [DecidableEq κ]
    {db : Db} {world : World Database κ (Except Failure Unit)} (integrity : Integrity db)
    (reached : World.Reachable (SystemOperation env packages traffic) db world)
    (joins : Joins world.history fleet action) (fortunate : Fortunate env action)
    (undecided : Undecided action) (queued : ∀ log, action = .commit log →
      ∀ statement ∈ log, Queues statement) : Untroubled env fleet action := by
  cases action with
  | commit log =>
      obtain ⟨committed, member, same⟩ := List.mem_map.mp joins
      obtain ⟨before, rfl⟩ := Prod.mk.inj same
      refine fun statement sent => ⟨?_, undecided statement sent⟩
      rcases events_addressed integrity reached member with mailing | moving
      · rw [← before]
        exact mailing statement sent
      · obtain ⟨key, columns, rfl⟩ := moving statement sent
        exact (queued _ rfl _ sent).elim
  | _ => exact fortunate

/-- Of a commit only new events are allowed of the queue. -/
theorem queues_of_step {log : List Database.Write}
    (taken : fleet.step env (.commit log) = some later) : ∀ statement ∈ log, Queues statement := by
  rw [step] at taken
  split at taken
  · next queued => exact queued.1
  · cases taken

/-- The workers run beside sessions of the system, from an empty queue; every call succeeds, and
nobody crashes. -/
structure Calm (env : Env) (packages : Packages) (traffic : Traffic) {κ : Type} [DecidableEq κ]
    (db : Db) (world : World Database κ (Except Failure Unit)) (steps : List (Fleet ι × Action ι))
    (last : Fleet ι) : Prop where
  integrity : Integrity db
  empty : db.outbox = []
  supported : ∀ panel ∈ db.panels, panel.vendor ∈ supportedVendors
  reached : World.Reachable (SystemOperation env packages traffic) db world
  history : ∃ time, History env (Fleet.initial db time) steps last
  joins : ∀ step ∈ steps, Joins world.history step.1 step.2
  fortunate : ∀ step ∈ steps, Fortunate env step.2

/-- As long as no order is approved and no request decided, no event is retried or dead, and each
that is done was told to all active members of its organization. -/
theorem delivered_untroubled {packages : Packages} {traffic : Traffic} {κ : Type} [DecidableEq κ]
    {db : Db} {world : World Database κ (Except Failure Unit)} {steps : List (Fleet ι × Action ι)}
    {last : Fleet ι} (calm : Calm env packages traffic db world steps last)
    (undecided : ∀ step ∈ steps, Undecided step.2) :
    (∀ step ∈ steps, ∀ id, retriesEvent env id step = false) ∧
    (∀ id row, last.db.find .outbox id = some row → row.status ≠ .dead) ∧
    (∀ step ∈ steps, ∀ id, returnsEvent env id step = true →
      ∃ row organizationId, step.1.db.find .outbox id = some row ∧
        row.subject step.1.db = some organizationId ∧
          ∀ chatId ∈ step.1.db.audience organizationId, chatId ∈ told env step) ∧
    ∀ id row, last.db.find .outbox id = some row → row.status = .done →
      ∃ step ∈ steps, returnsEvent env id step = true := by
  obtain ⟨integrity, empty, supported, reached, ⟨time, history⟩, joins, fortunate⟩ := calm
  have untroubled : ∀ step ∈ steps, Untroubled env step.1 step.2 := fun step member =>
    untroubled_of_joins integrity reached (joins step member) (fortunate step member)
      (undecided step member) fun log own => by
        obtain ⟨next, taken⟩ := history.taken member
        rw [own] at taken
        exact queues_of_step taken
  obtain ⟨ended, smooth⟩ := history.smooth untroubled (.initial integrity supported empty time)
  have fresh : ∀ row ∈ db.outbox, row.Queued := by
    intro row member
    rw [empty] at member
    exact absurd member List.not_mem_nil
  refine ⟨fun step member id => (smooth step member).retries id,
    fun id row found => (ended.events id row found).1,
    fun step member id returned => (smooth step member).told (untroubled step member) returned, ?_⟩
  exact (delivered_in_turn integrity fresh history).2.1

/-! ## Runs of the sample workspace -/

/-- A run passes through the states of its beginnings. -/
theorem History.mem_of_run {first middle last : Fleet ι} {steps : List (Fleet ι × Action ι)}
    (history : History env first steps last) {before after : List (Action ι)} {action : Action ι}
    (same : steps.map Prod.snd = before ++ action :: after)
    (runs : run env before first = some middle) : (middle, action) ∈ steps := by
  induction history generalizing before with
  | stop => simp at same
  | step next taken _ inductionHypothesis =>
      cases before with
      | nil =>
          cases runs
          rw [List.map_cons, List.nil_append, List.cons.injEq] at same
          rw [← show next = action from same.1]
          exact List.mem_cons_self
      | cons =>
          rw [List.map_cons, List.cons_append, List.cons.injEq] at same
          rw [run, ← same.1, taken] at runs
          exact List.mem_cons_of_mem _ (inductionHypothesis same.2 runs)

omit [DecidableEq ι] in
/-- A session that commits once commits all it writes in one transaction. -/
theorem commits_eq_singleton {commits : List (Db × List Database.Write)} {before : Db}
    (once : commits.length = 1 ∧ ∀ entry ∈ commits, entry.1 = before) :
    commits = [(before, commits.flatMap Prod.snd)] := by
  obtain ⟨⟨store, log⟩, rfl⟩ := List.length_eq_one_iff.mp once.1
  have same : store = before := once.2 _ List.mem_cons_self
  rw [same, List.flatMap_singleton]

omit [DecidableEq ι] in
/-- Steps meet a condition that their actions meet in all states. -/
theorem holds_of_actions {motive : Fleet ι → Action ι → Prop} {actions : List (Action ι)}
    {steps : List (Fleet ι × Action ι)} (same : steps.map Prod.snd = actions)
    (plain : ∀ action ∈ actions, ∀ fleet, motive fleet action) :
    ∀ step ∈ steps, motive step.1 step.2 := fun step member =>
  plain step.2 (same ▸ List.mem_map_of_mem member) step.1

/-- A run beside one session of the system, which commits once. -/
theorem joins_of_session {commits : List (Db × List Database.Write)} {db : Db}
    (once : commits.length = 1 ∧ ∀ entry ∈ commits, entry.1 = db) {time : Time}
    {rest : List (Action ℕ)} (others : ∀ action ∈ rest, ∀ log, action ≠ .commit log)
    {last : Fleet ℕ}
    (runs : run Sample.env (.commit (commits.flatMap Prod.snd) :: rest) (initial db time) =
      some last) :
    ∃ steps, History Sample.env (initial db time) steps last ∧
      steps.map Prod.snd = .commit (commits.flatMap Prod.snd) :: rest ∧
        ∀ step ∈ steps, Joins commits step.1 step.2 := by
  obtain ⟨next, taken, runs⟩ := Option.bind_eq_some_iff.mp runs
  obtain ⟨steps, history, same⟩ := History.exists_of_run runs
  refine ⟨_, .step _ taken history, congrArg (_ :: ·) same, fun step member => ?_⟩
  rcases List.mem_cons.mp member with rfl | later
  · change (db, commits.flatMap Prod.snd) ∈ commits
    rw [commits_eq_singleton once, List.flatMap_singleton]
    exact List.mem_singleton_self _
  · have among : step.2 ∈ rest := same ▸ List.mem_map_of_mem later
    obtain ⟨fleet, action⟩ := step
    cases action with
    | commit log => exact absurd rfl (others _ among log)
    | _ => trivial

open Sample in
/-- A run beside one session of the system, in which nothing fails. -/
theorem calm_of_session {program : Prog Database (Except Failure Unit)} {own : Answers Database}
    (operation : SystemOperation Sample.env packages (.ofCallers fun _ => True) program) {db : Db}
    (integrity : Integrity db) (empty : db.outbox = [])
    (supported : ∀ panel ∈ db.panels, panel.vendor ∈ supportedVendors)
    {commits : List (Db × List Database.Write)}
    (committed : (program.run own ⟨db, [], [], []⟩).2.commits = commits)
    (once : commits.length = 1 ∧ ∀ entry ∈ commits, entry.1 = db)
    {rest : List (Action ℕ)} (others : ∀ action ∈ rest, ∀ log, action ≠ .commit log)
    (lucky : ∀ action ∈ rest, Fortunate Sample.env action) {last : Fleet ℕ}
    (runs : run Sample.env (.commit (commits.flatMap Prod.snd) :: rest) (initial db 0) =
      some last) :
    ∃ (world : World Database Unit (Except Failure Unit)) (steps : List (Fleet ℕ × Action ℕ)),
      Calm Sample.env packages (.ofCallers fun _ => True) db world steps last ∧
        History Sample.env (initial db 0) steps last ∧
          steps.map Prod.snd = .commit (commits.flatMap Prod.snd) :: rest := by
  obtain ⟨world, reached, _, history⟩ :
      ∃ world : World Database Unit (Except Failure Unit), World.Reachable _ db world ∧ _ ∧ _ :=
    World.reachable_history () own operation db
  rw [committed] at history
  obtain ⟨steps, run, same, joins⟩ := joins_of_session once others runs
  refine ⟨world, steps, ⟨integrity, empty, supported, reached, ⟨0, run⟩, ?_, ?_⟩, run, same⟩
  · rw [history]
    exact joins
  · refine holds_of_actions (motive := fun _ action => Fortunate Sample.env action) same ?_
    intro action member _
    rcases List.mem_cons.mp member with rfl | later
    · trivial
    · exact lucky action later

open Sample in
/-- The hold of a reading that the shop cannot pay is delivered at once, to all its members. -/
theorem delivered_untroubled_hold :
    ∃ (world : World Database Unit (Except Failure Unit)) (steps : List (Fleet ℕ × Action ℕ))
      (last : Fleet ℕ) (row : Outbox),
      Calm Sample.env packages (.ofCallers fun _ => True) metered world steps last ∧
        row ∈ last.db.outbox ∧ row.topic = "billing.hold_required" ∧ row.status = .done ∧
          ∃ step ∈ steps, returnsEvent Sample.env row.id step = true ∧
            ∃ organizationId, ∀ chatId ∈ step.1.db.audience organizationId,
              chatId ∈ told Sample.env step := by
  let commits := ((served (usage Sample.env costly)).run answers ⟨metered, [], [], []⟩).2.commits
  obtain ⟨once, undecided, runs⟩ :
      (commits.length = 1 ∧ ∀ entry ∈ commits, entry.1 = metered) ∧
      (∀ statement ∈ commits.flatMap Prod.snd, decides statement = false) ∧
      (run Sample.env (.commit (commits.flatMap Prod.snd) :: (working ++ delivering))
        (initial metered 0)).any (fun last => last.db.outbox.any fun row =>
          row.topic = "billing.hold_required" ∧ row.status = .done ∧
            last.db.find .outbox row.id = some row) = true := by
    decide +kernel
  simp only [Option.any_eq_true, List.any_eq_true, decide_eq_true_eq] at runs
  obtain ⟨last, runs, row, queued, hold, done, found⟩ := runs
  obtain ⟨world, steps, calm, _, same⟩ := calm_of_session (.usage costly) metered_integrity rfl
    (by decide) rfl once (by simp [working, claiming, delivering])
    (by simp [working, claiming, delivering, Fortunate, succeeds]) runs
  have quiet : ∀ step ∈ steps, Undecided step.2 := by
    refine holds_of_actions (motive := fun _ action => Undecided action) same ?_
    intro action member _
    rcases List.mem_cons.mp member with rfl | later
    · exact undecided
    · simp only [working, claiming, delivering, List.cons_append, List.nil_append, List.mem_cons,
        List.not_mem_nil, or_false] at later
      rcases later with rfl | rfl | rfl | rfl | rfl | rfl <;> trivial
  obtain ⟨_, _, tells, returns⟩ := delivered_untroubled calm quiet
  obtain ⟨step, member, returned⟩ := returns row.id row found done
  obtain ⟨_, organizationId, _, _, told⟩ := tells step member row.id returned
  exact ⟨world, steps, last, row, calm, queued, hold, done, step, member, returned, organizationId,
    told⟩

open Sample in
/-- Without a failure or a crash, the event that an approved order queues is retried, and the
event that a decided request queues is done without a word to its active requester. -/
theorem delivered_untroubled_fails :
    (∃ (world : World Database Unit (Except Failure Unit)) (steps : List (Fleet ℕ × Action ℕ))
      (last : Fleet ℕ),
      Calm Sample.env packages (.ofCallers fun _ => True) (paid 9 hired) world steps last ∧
        ∃ step ∈ steps, ∃ id, retriesEvent Sample.env id step = true) ∧
    ∃ (world : World Database Unit (Except Failure Unit)) (steps : List (Fleet ℕ × Action ℕ))
      (last : Fleet ℕ) (row : Outbox),
      Calm Sample.env packages (.ofCallers fun _ => True) requested world steps last ∧
      row ∈ last.db.outbox ∧ row.status = .done ∧
      ∃ step ∈ steps, returnsEvent Sample.env row.id step = true ∧ told Sample.env step = [] ∧
        ∃ approval ∈ step.1.db.approvals, approval.id = row.aggregateId ∧
          ∃ actor ∈ step.1.db.actors, actor.id = approval.requesterId ∧
            actor.status = .active := by
  constructor
  · let commits := ((served (approveOrder Sample.env ⟨11, "Seller"⟩ orderId ⟨some 8, none⟩)).run
      (answersFrom 20) ⟨paid 9 hired, [], [], []⟩).2.commits
    obtain ⟨once, supported, empty, retried⟩ :
        (commits.length = 1 ∧ ∀ entry ∈ commits, entry.1 = paid 9 hired) ∧
        (∀ panel ∈ (paid 9 hired).panels, panel.vendor ∈ supportedVendors) ∧
        (paid 9 hired).outbox = [] ∧
        (run Sample.env (.commit (commits.flatMap Prod.snd) :: working)
          (initial (paid 9 hired) 0)).any (fun middle =>
            (middle.step Sample.env (.retries 0)).isSome && middle.db.outbox.any fun row =>
              retriesEvent Sample.env row.id (middle, .retries 0)) = true := by
      decide +kernel
    simp only [Option.any_eq_true, Bool.and_eq_true, List.any_eq_true] at retried
    obtain ⟨middle, runs, moves, row, _, retried⟩ := retried
    obtain ⟨last, moves⟩ := Option.isSome_iff_exists.mp moves
    have whole : run Sample.env (.commit (commits.flatMap Prod.snd) :: (working ++ [.retries 0]))
        (initial (paid 9 hired) 0) = some last := by
      rw [← List.cons_append, run_append, runs, Option.bind_some, run, moves]
      rfl
    have integrity : Integrity (paid 9 hired) := by
      rw [paid, hired]
      exact ((((Sample.integrity.serve _ _).serve _ _).serve _ _).serve _ _).serve _ _
    obtain ⟨world, steps, calm, history, same⟩ := calm_of_session
      (.approveOrder ⟨11, "Seller"⟩ orderId ⟨some 8, none⟩ trivial) integrity empty supported
      rfl once (by simp [working, claiming]) (by simp [working, claiming, Fortunate]) whole
    exact ⟨world, steps, last, calm, _, history.mem_of_run same runs, row.id, retried⟩
  · let commits := ((served (decideApproval Sample.env ⟨1, "Admin"⟩ "approval" "approve")).run
      answers ⟨requested, [], [], []⟩).2.commits
    obtain ⟨once, runs⟩ :
        (commits.length = 1 ∧ ∀ entry ∈ commits, entry.1 = requested) ∧
        (run Sample.env (.commit (commits.flatMap Prod.snd) :: working)
          (initial requested 0)).any (fun middle =>
          (run Sample.env delivering middle).any fun last => last.db.outbox.any fun row =>
            returnsEvent Sample.env row.id (middle, .finishes 0 answers "") &&
            told Sample.env (middle, .finishes 0 answers "") = [] && row.status = .done &&
            middle.db.approvals.any fun approval => approval.id = row.aggregateId &&
              middle.db.actors.any fun actor =>
                actor.id = approval.requesterId && actor.status = .active) = true := by
      decide +kernel
    simp only [Option.any_eq_true, Bool.and_eq_true, List.any_eq_true, decide_eq_true_eq] at runs
    obtain ⟨middle, runs, last, delivers, row, member, ⟨⟨returned, told⟩, done⟩, requester⟩ := runs
    have whole : run Sample.env (.commit (commits.flatMap Prod.snd) :: (working ++ delivering))
        (initial requested 0) = some last := by
      rw [← List.cons_append, run_append, runs, Option.bind_some, delivers]
    obtain ⟨world, steps, calm, history, same⟩ := calm_of_session
      (.decideApproval ⟨1, "Admin"⟩ "approval" "approve" trivial) Sample.undecided.integrity rfl
      (by decide) rfl once (by simp [working, claiming, delivering])
      (by simp [working, claiming, delivering, Fortunate, succeeds]) whole
    exact ⟨world, steps, last, row, calm, member, done, _, history.mem_of_run same runs, returned,
      told, requester⟩

end Fleet

end ControlPlane
