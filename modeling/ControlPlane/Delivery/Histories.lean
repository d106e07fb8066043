import ControlPlane.Delivery.Runs

/-!
# What becomes of an event

Whatever the processes do, and wherever they crash, an event stays in the queue
with its contents. It is done only after a handler has returned for it, dead only
after as many retries as are allowed, and a claim takes it only when it is due
and was released since the last claim.
-/

namespace ControlPlane

open ReadCommitted

/-- The events whose attributes a pass has loaded to work on them. -/
def Phase.events : Phase → List Outbox
  | .reclaiming _ | .claiming => []
  | .ready batch => batch.filterMap Event.loaded
  | .handling event rest | .handled event rest | .retrying event _ rest =>
      event :: rest.filterMap Event.loaded
  | .failed _ _ rest => rest.filterMap Event.loaded

namespace Fleet

variable {ι : Type}

/-! ## Steps about an event -/

section

variable (env : Env) (id : Id) (step : Fleet ι × Action ι)

/-- A claim of the event commits. -/
def claimsEvent : Bool :=
  match step.2 with
  | .claims process skipped =>
      match step.1.passes process with
      | some ⟨workerId, limit, .claiming⟩ =>
          let rows := step.1.db.claimable step.1.time skipped limit
          id ∈ rows.map Outbox.id &&
            acceptsAll (S := Database) (updates (·.claim workerId step.1.time) rows) step.1.db
      | _ => false
  | _ => false

/-- A handler of the event returns. -/
def returnsEvent : Bool :=
  match step.2 with
  | .finishes process answers _ =>
      match step.1.passes process with
      | some ⟨_, _, .handling event _⟩ =>
          event.id = id && (handlers env event.topic).any fun handler =>
            ((handler event).serve answers step.1.db).1.isOk
      | _ => false
  | _ => false

/-- A retry of the event commits. -/
def retriesEvent : Bool :=
  match step.2 with
  | .retries process =>
      match step.1.passes process with
      | some ⟨_, _, .retrying event error _⟩ =>
          event.id = id &&
            acceptsAll (S := Database) (updates (·.retry env step.1.time error) [event]) step.1.db
      | _ => false
  | _ => false

/-- Putting a stale claim of the event back commits. -/
def reclaimsEvent : Bool :=
  match step.2 with
  | .reclaims process =>
      match step.1.passes process with
      | some ⟨_, _, .reclaiming stale⟩ =>
          id ∈ stale.map Outbox.id &&
            acceptsAll (S := Database) (updates Outbox.reclaim stale) step.1.db
      | _ => false
  | _ => false

end

/-! ## One step -/

/-- The contents of an event. -/
def SameEvent (row later : Outbox) : Prop :=
  later.id = row.id ∧ later.topic = row.topic ∧ later.aggregateId = row.aggregateId ∧
    later.payload = row.payload

/-- What a step does to a row of the queue. -/
inductive Treated [DecidableEq ι] (env : Env) (fleet : Fleet ι) : Action ι → Outbox → Outbox → Prop
  | claimed (process skipped workerId limit) (claim row : Outbox) :
      fleet.passes process = some ⟨workerId, limit, .claiming⟩ →
      claim ∈ fleet.db.claimable fleet.time skipped limit → claim.id = row.id →
      Treated env fleet (.claims process skipped) row
        (@Table.change .outbox (claim.claim workerId fleet.time) row)
  | completed (process error workerId limit event rest) (row : Outbox) :
      fleet.passes process = some ⟨workerId, limit, .handled event rest⟩ → event.id = row.id →
      Treated env fleet (.completes process error) row (@Table.change .outbox event.complete row)
  | retried (process workerId limit event error rest) (row : Outbox) :
      fleet.passes process = some ⟨workerId, limit, .retrying event error rest⟩ →
      retriesEvent env row.id (fleet, .retries process) = true → event.id = row.id →
      Treated env fleet (.retries process) row
        (@Table.change .outbox (event.retry env fleet.time error) row)
  | reclaimed (process) (claim row : Outbox) : claim.id = row.id →
      reclaimsEvent row.id (fleet, .reclaims process) = true →
      Treated env fleet (.reclaims process) row (@Table.change .outbox claim.reclaim row)

/-- An attribute that is sent only when it changed ends assigned or as it was. -/
theorem assigned_getD_cases {α : Type} [DecidableEq α] (loaded value current : α) :
    (assigned loaded value).getD current = value ∨
      (assigned loaded value).getD current = current := by
  unfold assigned
  split
  · exact .inr rfl
  · exact .inl rfl

/-- What a list of updates makes of a row. -/
theorem find_replay_treated (columns : Outbox → OutboxColumns) {motive : Outbox → Outbox → Prop}
    {rows : List Outbox} (treats : ∀ update ∈ rows, ∀ row : Outbox, update.id = row.id →
      motive row (@Table.change .outbox (columns update) row)) {db : Db} {id : Id} {row : Outbox}
    (found : db.find .outbox id = some row) :
    ∃ later, Db.find (replay (S := Database) (updates columns rows) db) .outbox id = some later ∧
      Relation.ReflTransGen motive row later := by
  induction rows generalizing db row with
  | nil => exact ⟨row, found, .refl⟩
  | cons update rows inductionHypothesis =>
      have rest := fun other member => treats other (List.mem_cons_of_mem _ member)
      have own : row.id = id := Option.some.inj (Db.find_mem found).2
      have step := Db.find_apply_update .outbox db update.id (columns update) id
      rw [found, Option.map_some] at step
      by_cases same : update.id = row.id
      · obtain ⟨later, last, treated⟩ := inductionHypothesis rest
          (step.trans (congrArg some (if_pos (congrArg some same.symm))))
        exact ⟨later, last, .head (treats update List.mem_cons_self row same) treated⟩
      · exact inductionHypothesis rest (step.trans (congrArg some
          (if_neg fun equal => same (Option.some.inj equal).symm)))

/-- Updates add no rows. -/
theorem find_replay_updates_none (columns : Outbox → OutboxColumns) (rows : List Outbox) {db : Db}
    {id : Id} (absent : db.find .outbox id = none) :
    Db.find (replay (S := Database) (updates columns rows) db) .outbox id = none := by
  induction rows generalizing db with
  | nil => exact absent
  | cons update rows inductionHypothesis =>
      refine inductionHypothesis
        ((Db.find_apply_update .outbox db update.id (columns update) id).trans ?_)
      rw [absent]
      rfl

/-- What others queue is inserted. -/
theorem find_replay_queues_new {log : List Database.Write}
    (queued : ∀ statement ∈ log, Queues statement) {db : Db} {id : Id} {row : Outbox}
    (absent : db.find .outbox id = none)
    (found : Db.find (replay (S := Database) log db) .outbox id = some row) :
    .insert .outbox row ∈ log := by
  induction log generalizing db with
  | nil =>
      rw [replay_nil, absent] at found
      cases found
  | cons statement log inductionHypothesis =>
      have tail : ∀ other ∈ log, Queues other := fun other member =>
        queued other (List.mem_cons_of_mem _ member)
      rw [replay_cons] at found
      cases first : Db.find (Database.apply statement db) .outbox id with
      | none => exact List.mem_cons_of_mem _ (inductionHypothesis tail first found)
      | some new =>
          rw [find_replay_queues tail first, Option.some.injEq] at found
          subst found
          by_cases off : Table.outbox = Layout.Statement.table statement
          · have own := queued statement List.mem_cons_self
            cases statement with
            | insert table inserted =>
                subst off
                rw [show Db.find (Database.apply (.insert .outbox inserted) db) .outbox id = _ from
                  Db.find_apply_insert .outbox db inserted id, absent, Option.none_or] at first
                split at first
                · cases first
                  exact List.mem_cons_self
                · cases first
            | update table key columns =>
                subst off
                exact own.elim
            | delete table key =>
                subst off
                exact own.elim
          · rw [show Db.find (Database.apply statement db) .outbox id = _ from
              Db.find_apply_of_ne db off id, absent] at first
            cases first

variable [DecidableEq ι] {env : Env} {fleet later : Fleet ι} {action : Action ι}

/-- A transaction of updates treats the rows of the queue when it commits. -/
theorem find_transact {process : ι} (columns : Outbox → OutboxColumns) (rows : List Outbox)
    (committed refused : Option Pass) {treat : Outbox → Outbox → Prop}
    (treats : acceptsAll (S := Database) (updates columns rows) fleet.db = true →
      ∀ update ∈ rows, ∀ row : Outbox, update.id = row.id →
        treat row (@Table.change .outbox (columns update) row)) {id : Id} {row : Outbox}
    (found : fleet.db.find .outbox id = some row) :
    ∃ last, (fleet.transact process (updates columns rows) committed refused).db.find .outbox id =
      some last ∧ Relation.ReflTransGen treat row last := by
  refine transact_cases (motive := fun next => ∃ last, next.db.find .outbox id = some last ∧
    Relation.ReflTransGen treat row last) (fun accepted => ?_) ⟨row, found, .refl⟩
  exact find_replay_treated columns (treats accepted) found

/-- The database after a transaction that commits. -/
theorem transact_db {process : ι} {log : List Database.Write}
    {committed refused : Option Pass}
    (accepted : acceptsAll (S := Database) log fleet.db = true) :
    (fleet.transact process log committed refused).db = replay (S := Database) log fleet.db := by
  unfold transact
  rw [if_pos accepted]

/-- A row stays in the queue, and a step does to it what steps of its kind do. -/
theorem Stepped.treats (stepped : Stepped env fleet action later) {id : Id} {row : Outbox}
    (found : fleet.db.find .outbox id = some row) :
    ∃ last, later.db.find .outbox id = some last ∧
      Relation.ReflTransGen (Treated env fleet action) row last := by
  cases stepped with
  | commit log queued accepted => exact ⟨row, find_replay_queues queued found, .refl⟩
  | reclaims process workerId limit stale running =>
      refine find_transact Outbox.reclaim stale _ _ (fun accepted claim member row same => ?_) found
      refine .reclaimed process claim row same ?_
      simp only [reclaimsEvent, running, accepted, Bool.and_true, decide_eq_true_eq]
      exact same ▸ List.mem_map_of_mem member
  | claims process skipped workerId limit running =>
      exact find_transact (fun claim => claim.claim workerId fleet.time) _ _ _
        (fun _ claim member row same => .claimed process skipped workerId limit claim row running
          member same) found
  | finishes process answers error workerId limit event rest running =>
      refine ⟨row, ?_, .refl⟩
      unfold Db.find
      rw [show Db.rows (finish env answers error _ event rest fleet.db).1 .outbox =
        fleet.db.outbox from outbox_finish ..]
      exact found
  | completes process error workerId limit event rest running =>
      refine find_transact Outbox.complete [event] _ _ (fun _ claim member row same => ?_) found
      obtain rfl := List.mem_singleton.mp member
      exact .completed process error workerId limit claim rest row running same
  | retries process workerId limit event error rest running =>
      refine find_transact (fun event => event.retry env fleet.time error) [event] _ _
        (fun accepted claim member row same => ?_) found
      obtain rfl := List.mem_singleton.mp member
      refine .retried process workerId limit claim error rest row running ?_ same
      simp [retriesEvent, running, accepted, same]
  | _ => exact ⟨row, found, .refl⟩

/-- A step keeps the contents of a row. -/
theorem Stepped.keeps (stepped : Stepped env fleet action later) {id : Id} {row : Outbox}
    (found : fleet.db.find .outbox id = some row) :
    ∃ kept, later.db.find .outbox id = some kept ∧ SameEvent row kept := by
  obtain ⟨last, foundLast, treated⟩ := stepped.treats found
  refine ⟨last, foundLast, ?_⟩
  clear foundLast
  induction treated with
  | refl => exact ⟨rfl, rfl, rfl, rfl⟩
  | tail _ change same => cases change <;> exact same

/-- A row that was not there before was queued by another session. -/
theorem Stepped.queued (stepped : Stepped env fleet action later) {id : Id} {row : Outbox}
    (absent : fleet.db.find .outbox id = none) (found : later.db.find .outbox id = some row) :
    row.Queued := by
  have updated : ∀ process (columns : Outbox → OutboxColumns) rows committed refused,
      (fleet.transact process (updates columns rows) committed refused).db.find .outbox id =
        none := by
    intro process columns rows committed refused
    exact transact_cases (motive := fun next => next.db.find .outbox id = none)
      (fun _ => find_replay_updates_none columns rows absent) absent
  cases stepped with
  | commit log queued accepted => exact queued _ (find_replay_queues_new queued absent found)
  | reclaims process workerId limit stale running =>
      exact absurd ((updated process Outbox.reclaim stale _ _).symm.trans found) (by simp)
  | claims process skipped workerId limit running =>
      exact absurd ((updated process (·.claim workerId fleet.time) _ _ _).symm.trans found) (by simp)
  | finishes process answers error workerId limit event rest running =>
      unfold Db.find at found absent
      rw [show Db.rows (finish env answers error _ event rest fleet.db).1 .outbox =
        fleet.db.outbox from outbox_finish ..] at found
      exact absurd (absent.symm.trans found) (by simp)
  | completes process error workerId limit event rest running =>
      exact absurd ((updated process Outbox.complete [event] _ _).symm.trans found) (by simp)
  | retries process workerId limit event error rest running =>
      exact absurd ((updated process (·.retry env fleet.time error) [event] _ _).symm.trans found)
        (by simp)
  | _ => exact absurd (absent.symm.trans found) (by simp)

/-! ## Events in memory -/

/-- An event in memory was there before, or is loaded from its row. -/
def Loads (fleet : Fleet ι) (pass : Pass) : Prop :=
  ∀ event ∈ pass.phase.events,
    (∃ process before, fleet.passes process = some before ∧ event ∈ before.phase.events) ∨
      ∃ row, fleet.db.find .outbox event.id = some row ∧ event.attempts = row.attempts ∧
        SameEvent row event

/-- What holds of every pass holds after one of them was replaced. -/
theorem passes_put {motive : Pass → Prop} {process : ι} {next : Option Pass}
    (own : ∀ pass, next = some pass → motive pass)
    (others : ∀ other pass, fleet.passes other = some pass → motive pass) :
    ∀ other pass, (fleet.put process next).passes other = some pass → motive pass := by
  intro other pass found
  by_cases same : other = process
  · subst same
    rw [put_passes_self] at found
    exact own pass found
  · rw [put_passes_of_ne _ same] at found
    exact others other pass found

/-- What holds of every pass holds after a transaction of one of them. -/
theorem passes_transact {holds : Pass → Prop} {process : ι} {log : List Database.Write}
    {committed refused : Option Pass} (commits : ∀ pass, committed = some pass → holds pass)
    (aborts : ∀ pass, refused = some pass → holds pass)
    (others : ∀ other pass, fleet.passes other = some pass → holds pass) :
    ∀ other pass, (fleet.transact process log committed refused).passes other = some pass →
      holds pass := by
  refine transact_cases (motive := fun next => ∀ other pass, next.passes other = some pass →
    holds pass) (fun _ => ?_) (passes_put aborts others)
  exact passes_put commits others

theorem filterMap_loaded_expire (rest : List Event) :
    (rest.map Event.expire).filterMap Event.loaded = [] := by
  rw [List.filterMap_map]
  exact List.filterMap_eq_nil_iff.mpr fun _ _ => rfl

/-- A step loads events from their rows only. -/
theorem Stepped.loads (stepped : Stepped env fleet action later) (integrity : Integrity fleet.db) :
    ∀ process pass, later.passes process = some pass → Loads fleet pass := by
  have kept : ∀ process pass, fleet.passes process = some pass → Loads fleet pass :=
    fun process pass found event member => .inl ⟨process, pass, found, member⟩
  have fewer : ∀ {process : ι} {before pass : Pass}, fleet.passes process = some before →
      pass.phase.events ⊆ before.phase.events → Loads fleet pass :=
    fun found subset event member => .inl ⟨_, _, found, subset member⟩
  have none : ∀ pass, (Option.none : Option Pass) = some pass → Loads fleet pass := by
    rintro _ ⟨⟩
  have expired : ∀ {pass : Pass} {id : Id} {error : String} {rest : List Event},
      pass.phase = .failed id error (rest.map Event.expire) → Loads fleet pass := by
    intro pass id error rest phase event member
    rw [phase] at member
    change event ∈ (rest.map Event.expire).filterMap Event.loaded at member
    rw [filterMap_loaded_expire] at member
    cases member
  cases stepped with
  | tick | commit => exact kept
  | opens process workerId limit idle =>
      refine passes_put ?_ kept
      rintro _ ⟨⟩ event member
      cases member
  | reclaims process workerId limit stale running =>
      refine passes_transact ?_ none kept
      rintro _ ⟨⟩ event member
      cases member
  | claims process skipped workerId limit running =>
      refine passes_transact ?_ none kept
      rintro _ ⟨⟩ event member
      obtain ⟨claimed, claimedMember, loaded⟩ := List.mem_filterMap.mp member
      obtain ⟨row, rowMember, rfl⟩ := List.mem_map.mp claimedMember
      cases loaded
      exact .inr ⟨row, integrity.find_eq_some (Db.mem_claimable rowMember).1 rfl, rfl,
        rfl, rfl, rfl, rfl⟩
  | takes process workerId limit batch running =>
      refine passes_put ?_ kept
      intro pass taken
      cases batch with
      | nil => cases taken
      | cons event rest =>
          obtain ⟨row, loaded, rfl⟩ := Option.map_eq_some_iff.mp taken
          have events : ∀ other ∈ row :: rest.filterMap Event.loaded, (∃ process before,
              fleet.passes process = some before ∧ other ∈ before.phase.events) ∨
                ∃ row, fleet.db.find .outbox other.id = some row ∧
                  other.attempts = row.attempts ∧ SameEvent row other := by
            intro other member
            rcases List.mem_cons.mp member with rfl | later
            · rcases Option.or_eq_some_iff.mp loaded with known | ⟨_, stored⟩
              · exact .inl ⟨process, _, running,
                  List.mem_filterMap.mpr ⟨event, List.mem_cons_self, known⟩⟩
              · rw [← show other.id = event.id from Option.some.inj (Db.find_mem stored).2] at stored
                exact .inr ⟨other, stored, rfl, rfl, rfl, rfl, rfl⟩
            · refine .inl ⟨process, _, running, ?_⟩
              exact (List.Sublist.filterMap _ (List.sublist_cons_self _ _)).subset later
          intro other member
          refine events other ?_
          split at member <;> exact member
  | finishes process answers error workerId limit event rest running =>
      refine passes_put ?_ kept
      rintro _ ⟨⟩
      unfold finish
      split
      · exact kept process _ running
      · split
        · exact fewer running (List.Subset.refl _)
        · exact expired rfl
  | completes process error workerId limit event rest running =>
      refine passes_transact ?_ ?_ kept
      · rintro _ ⟨⟩
        exact fewer running (List.subset_cons_self _ _)
      · rintro _ ⟨⟩
        exact expired rfl
  | reloads process workerId limit id error rest running =>
      refine passes_put ?_ kept
      intro pass reloaded
      obtain ⟨row, stored, rfl⟩ := Option.map_eq_some_iff.mp reloaded
      intro event member
      rcases List.mem_cons.mp member with rfl | later
      · rw [← show event.id = id from Option.some.inj (Db.find_mem stored).2] at stored
        exact .inr ⟨event, stored, rfl, rfl, rfl, rfl, rfl⟩
      · exact .inl ⟨process, _, running, later⟩
  | retries process workerId limit event error rest running =>
      refine passes_transact ?_ none kept
      rintro _ ⟨⟩
      exact fewer running (List.subset_cons_self _ _)
  | crashes process pass running => exact passes_put none kept

/-- Only where a handler returns does an event count as handled. -/
theorem Stepped.handles (stepped : Stepped env fleet action later) :
    ∀ process pass, later.passes process = some pass → ∀ event rest,
      pass.phase = .handled event rest →
        (∃ process before, fleet.passes process = some before ∧
          before.phase = .handled event rest) ∨
          returnsEvent env event.id (fleet, action) = true := by
  have kept : ∀ process pass, fleet.passes process = some pass → ∀ event rest,
      pass.phase = .handled event rest →
        (∃ process before, fleet.passes process = some before ∧
          before.phase = .handled event rest) ∨
          returnsEvent env event.id (fleet, action) = true :=
    fun process pass found event rest phase => .inl ⟨process, pass, found, phase⟩
  cases stepped with
  | tick | commit => exact kept
  | opens => exact passes_put (by rintro _ ⟨⟩ _ _ ⟨⟩) kept
  | reclaims | claims | retries =>
      exact passes_transact (by rintro _ ⟨⟩ _ _ ⟨⟩) (by rintro _ ⟨⟩) kept
  | takes process workerId limit batch running =>
      refine passes_put ?_ kept
      intro pass taken event rest phase
      cases batch with
      | nil => cases taken
      | cons first batch =>
          obtain ⟨row, loaded, rfl⟩ := Option.map_eq_some_iff.mp taken
          dsimp only at phase
          split at phase <;> cases phase
  | finishes process answers error workerId limit event rest running =>
      refine passes_put ?_ kept
      rintro _ ⟨⟩ other others phase
      unfold finish at phase
      split at phase
      · cases phase
      · rename_i handler handles
        split at phase
        · rename_i value last served
          cases phase
          refine .inr ?_
          simp [returnsEvent, running, handles, served, Except.isOk, Except.toBool]
        · cases phase
  | completes =>
      exact passes_transact (by rintro _ ⟨⟩ _ _ ⟨⟩) (by rintro _ ⟨⟩ _ _ ⟨⟩) kept
  | reloads process workerId limit id error rest running =>
      refine passes_put ?_ kept
      intro pass reloaded event others phase
      obtain ⟨row, stored, rfl⟩ := Option.map_eq_some_iff.mp reloaded
      cases phase
  | crashes => exact passes_put (by rintro _ ⟨⟩) kept

/-! ## Accounts -/

/-- The steps so far account for the queue and for what the passes have loaded. -/
structure Accounted (env : Env) (past : List (Fleet ι × Action ι)) (fleet : Fleet ι) : Prop where
  integrity : Integrity fleet.db
  attempts : ∀ id row, fleet.db.find .outbox id = some row →
    row.attempts ≤ past.countP (retriesEvent env id)
  delivered : ∀ id row, fleet.db.find .outbox id = some row → row.status = .done →
    ∃ step ∈ past, returnsEvent env id step = true
  exhausted : ∀ id row, fleet.db.find .outbox id = some row → row.status = .dead →
    env.maxAttempts ≤ (past.countP (retriesEvent env id) : Nat)
  loaded : ∀ process pass, fleet.passes process = some pass → ∀ event ∈ pass.phase.events,
    event.attempts ≤ past.countP (retriesEvent env event.id)
  handled : ∀ process pass, fleet.passes process = some pass → ∀ event rest,
    pass.phase = .handled event rest → ∃ step ∈ past, returnsEvent env event.id step = true

omit [DecidableEq ι] in
/-- Before the first step all events are as they were queued. -/
theorem Accounted.initial {db : Db} (integrity : Integrity db)
    (fresh : ∀ row ∈ db.outbox, row.Queued) (time : Time) :
    Accounted env [] (Fleet.initial db time : Fleet ι) where
  integrity := integrity
  attempts id row found := by
    rw [fresh row (Db.find_mem found).1]
    exact Nat.zero_le _
  delivered id row found done := by
    rw [fresh row (Db.find_mem found).1] at done
    cases done
  exhausted id row found dead := by
    rw [fresh row (Db.find_mem found).1] at dead
    cases dead
  loaded process pass found := by cases found
  handled process pass found := by cases found

/-- What the steps so far say of a row. -/
structure RowAccounted (env : Env) (past : List (Fleet ι × Action ι)) (id : Id) (row : Outbox) :
    Prop where
  own : row.id = id
  attempts : row.attempts ≤ past.countP (retriesEvent env id)
  delivered : row.status = .done → ∃ step ∈ past, returnsEvent env id step = true
  exhausted : row.status = .dead → env.maxAttempts ≤ (past.countP (retriesEvent env id) : Nat)

variable {past : List (Fleet ι × Action ι)}

/-- A change of a row is accounted for. -/
theorem Accounted.treated (accounted : Accounted env past fleet) {id : Id} {row last : Outbox}
    (before : RowAccounted env (past ++ [(fleet, action)]) id row)
    (treated : Treated env fleet action row last) :
    RowAccounted env (past ++ [(fleet, action)]) id last := by
  cases treated with
  | claimed process skipped workerId limit claim _ running member same =>
      refine ⟨before.own, before.attempts, fun done => ?_, fun dead => ?_⟩
      · rcases assigned_getD_cases claim.status .claimed row.status with status | status
        · exact absurd (status.symm.trans done) (by decide)
        · exact before.delivered (status.symm.trans done)
      · rcases assigned_getD_cases claim.status .claimed row.status with status | status
        · exact absurd (status.symm.trans dead) (by decide)
        · exact before.exhausted (status.symm.trans dead)
  | completed process error workerId limit event rest _ running same =>
      refine ⟨before.own, before.attempts, fun _ => ?_, fun dead => ?_⟩
      · obtain ⟨step, member, returned⟩ := accounted.handled process _ running event rest rfl
        rw [same, before.own] at returned
        exact ⟨step, List.mem_append_left _ member, returned⟩
      · rcases assigned_getD_cases event.status .done row.status with status | status
        · exact absurd (status.symm.trans dead) (by decide)
        · exact before.exhausted (status.symm.trans dead)
  | retried process workerId limit event error rest _ running committed same =>
      have early := accounted.loaded process _ running event List.mem_cons_self
      rw [same, before.own] at early
      rw [before.own] at committed
      have count : (past ++ [(fleet, Action.retries process)]).countP (retriesEvent env id) =
          past.countP (retriesEvent env id) + 1 := by
        rw [List.countP_append, List.countP_singleton, if_pos committed]
      refine ⟨before.own, ?_, fun done => ?_, fun dead => ?_⟩
      · rw [count]
        exact Nat.succ_le_succ early
      · rcases assigned_getD_cases event.status (if event.exhausted env then .dead else .pending)
          row.status with status | status
        · refine absurd (status.symm.trans done) ?_
          split <;> decide
        · exact before.delivered (status.symm.trans done)
      · rcases assigned_getD_cases event.status (if event.exhausted env then .dead else .pending)
          row.status with status | status
        · have spent : event.exhausted env = true := by
            by_contra left
            exact absurd ((status.trans (if_neg left)).symm.trans dead) (by decide)
          have limit : env.maxAttempts ≤ (event.attempts + 1 : Nat) := of_decide_eq_true spent
          rw [count]
          exact limit.trans (Int.ofNat_le.mpr (Nat.succ_le_succ early))
        · exact before.exhausted (status.symm.trans dead)
  | reclaimed process claim _ same committed =>
      refine ⟨before.own, before.attempts, fun done => ?_, fun dead => ?_⟩
      · rcases assigned_getD_cases claim.status .pending row.status with status | status
        · exact absurd (status.symm.trans done) (by decide)
        · exact before.delivered (status.symm.trans done)
      · rcases assigned_getD_cases claim.status .pending row.status with status | status
        · exact absurd (status.symm.trans dead) (by decide)
        · exact before.exhausted (status.symm.trans dead)

omit [DecidableEq ι] in
/-- Retries only add up. -/
theorem countP_le (past : List (Fleet ι × Action ι)) (step : Fleet ι × Action ι) (id : Id) :
    past.countP (retriesEvent env id) ≤ (past ++ [step]).countP (retriesEvent env id) :=
  (List.sublist_append_left past [step]).countP_le

/-- The rows of the queue stay accounted for. -/
theorem Accounted.row (accounted : Accounted env past fleet)
    (stepped : Stepped env fleet action later) {id : Id} {row : Outbox}
    (found : later.db.find .outbox id = some row) :
    RowAccounted env (past ++ [(fleet, action)]) id row := by
  cases before : fleet.db.find .outbox id with
  | none =>
      have queued := stepped.queued before found
      have own : row.id = id := Option.some.inj (Db.find_mem found).2
      rw [queued]
      exact ⟨own, Nat.zero_le _, by rintro ⟨⟩, by rintro ⟨⟩⟩
  | some old =>
      obtain ⟨last, same, treated⟩ := stepped.treats before
      rw [found, Option.some.injEq] at same
      subst same
      have opening : RowAccounted env (past ++ [(fleet, action)]) id old := by
        refine ⟨Option.some.inj (Db.find_mem before).2,
          (accounted.attempts id old before).trans (countP_le past _ id), fun done => ?_,
          fun dead => ?_⟩
        · obtain ⟨step, member, returned⟩ := accounted.delivered id old before done
          exact ⟨step, List.mem_append_left _ member, returned⟩
        · exact (accounted.exhausted id old before dead).trans
            (Int.ofNat_le.mpr (countP_le past _ id))
      clear found
      induction treated with
      | refl => exact opening
      | tail _ change inductionHypothesis => exact accounted.treated inductionHypothesis change

/-- One more step. -/
theorem Accounted.step (accounted : Accounted env past fleet)
    (stepped : Stepped env fleet action later) :
    Accounted env (past ++ [(fleet, action)]) later where
  integrity := stepped.integrity accounted.integrity
  attempts _ _ found := (accounted.row stepped found).attempts
  delivered _ _ found := (accounted.row stepped found).delivered
  exhausted _ _ found := (accounted.row stepped found).exhausted
  loaded process pass found event member := by
    rcases stepped.loads accounted.integrity process pass found event member with
      ⟨other, before, running, had⟩ | ⟨row, stored, same, _⟩
    · exact (accounted.loaded other before running event had).trans (countP_le past _ _)
    · rw [same]
      exact (accounted.attempts event.id row stored).trans (countP_le past _ _)
  handled process pass found event rest phase := by
    rcases stepped.handles process pass found event rest phase with
      ⟨other, before, running, same⟩ | returned
    · obtain ⟨step, member, returned⟩ := accounted.handled other before running event rest same
      exact ⟨step, List.mem_append_left _ member, returned⟩
    · exact ⟨_, List.mem_append_right _ (List.mem_singleton_self _), returned⟩

/-! ## Whole runs -/

/-- A run with its steps, each with the state that it was taken in. -/
inductive History (env : Env) : Fleet ι → List (Fleet ι × Action ι) → Fleet ι → Prop
  | stop (fleet : Fleet ι) : History env fleet [] fleet
  | step {fleet next last : Fleet ι} {steps : List (Fleet ι × Action ι)} (action : Action ι) :
      fleet.step env action = some next → History env next steps last →
      History env fleet ((fleet, action) :: steps) last

namespace History

variable {first last : Fleet ι} {steps early late : List (Fleet ι × Action ι)}

/-- A run in two parts. -/
theorem split (history : History env first (early ++ late) last) :
    ∃ middle, History env first early middle ∧ History env middle late last := by
  induction early generalizing first with
  | nil => exact ⟨first, .stop first, history⟩
  | cons entry early inductionHypothesis =>
      cases history with
      | step action taken rest =>
          obtain ⟨middle, begun, ended⟩ := inductionHypothesis rest
          exact ⟨middle, .step action taken begun, ended⟩

/-- The steps of a run that is given by its actions. -/
theorem exists_of_run {actions : List (Action ι)} (runs : run env actions first = some last) :
    ∃ steps, History env first steps last ∧ steps.map Prod.snd = actions := by
  induction actions generalizing first with
  | nil =>
      cases runs
      exact ⟨[], .stop _, rfl⟩
  | cons action actions inductionHypothesis =>
      obtain ⟨next, taken, rest⟩ := Option.bind_eq_some_iff.mp runs
      obtain ⟨steps, history, same⟩ := inductionHypothesis rest
      exact ⟨_, .step action taken history, congrArg (action :: ·) same⟩

/-- A run keeps the accounts. -/
theorem accounted (history : History env first steps last)
    (opening : Accounted env past first) : Accounted env (past ++ steps) last := by
  induction history generalizing past with
  | stop fleet => rwa [List.append_nil]
  | step action taken _ inductionHypothesis =>
      have next := inductionHypothesis (opening.step (stepped taken))
      rwa [List.append_assoc] at next

/-- A run keeps the constraints of the database. -/
theorem integrity (history : History env first steps last) (opening : Integrity first.db) :
    Integrity last.db := by
  induction history with
  | stop => exact opening
  | step action taken _ inductionHypothesis =>
      exact inductionHypothesis ((stepped taken).integrity opening)

/-- A row stays in the queue, with its contents. -/
theorem keeps (history : History env first steps last) {id : Id} {row : Outbox}
    (found : first.db.find .outbox id = some row) :
    ∃ kept, last.db.find .outbox id = some kept ∧ SameEvent row kept := by
  induction history generalizing row with
  | stop => exact ⟨row, found, rfl, rfl, rfl, rfl⟩
  | step action taken _ inductionHypothesis =>
      obtain ⟨next, foundNext, same⟩ := (stepped taken).keeps found
      obtain ⟨kept, foundKept, id, topic, aggregate, payload⟩ := inductionHypothesis foundNext
      exact ⟨kept, foundKept, id.trans same.1, topic.trans same.2.1,
        aggregate.trans same.2.2.1, payload.trans same.2.2.2⟩

end History

/-! ## Claims in turn -/

omit [DecidableEq ι] in
/-- What is claimed is pending and due at that moment. -/
theorem due_of_claimsEvent {id : Id} {step : Fleet ι × Action ι} (integrity : Integrity step.1.db)
    (claims : claimsEvent id step = true) :
    ∃ row, step.1.db.find .outbox id = some row ∧ row.status = .pending ∧
      row.nextAttemptAt ≤ step.1.time := by
  unfold claimsEvent at claims
  split at claims
  · split at claims
    · simp only [Bool.and_eq_true, decide_eq_true_eq] at claims
      obtain ⟨row, member, rfl⟩ := List.mem_map.mp claims.1
      obtain ⟨present, pending, due, _⟩ := Db.mem_claimable member
      exact ⟨row, integrity.find_eq_some present rfl, pending, due⟩
    · cases claims
  · cases claims

/-- What was claimed is not pending. -/
theorem Stepped.claimed (stepped : Stepped env fleet action later) (integrity : Integrity fleet.db)
    {id : Id} (claims : claimsEvent id (fleet, action) = true) :
    ∃ row, later.db.find .outbox id = some row ∧ row.status ≠ .pending := by
  cases stepped with
  | claims process skipped workerId limit running =>
      simp only [claimsEvent, running, Bool.and_eq_true, decide_eq_true_eq] at claims
      obtain ⟨listed, accepted⟩ := claims
      obtain ⟨row, member, rfl⟩ := List.mem_map.mp listed
      have present : ∀ row ∈ fleet.db.claimable fleet.time skipped limit,
          fleet.db.find .outbox row.id = some row := fun row member =>
        integrity.find_eq_some (Db.mem_claimable member).1 rfl
      have found := find_replay_updates (fun row => row.claim workerId fleet.time)
        (integrity.claimable_distinct fleet.time skipped limit) present row member
      refine ⟨@Table.change .outbox (row.claim workerId fleet.time) row, ?_, ?_⟩
      · have committed : (fleet.transact process _ (some ⟨workerId, limit,
            .ready ((fleet.db.claimable fleet.time skipped limit).map
              (Event.ofClaim workerId fleet.time))⟩) none).db = _ := transact_db accepted
        exact (congrArg (fun db : Db => db.find .outbox row.id) committed).trans found
      · rw [show (@Table.change .outbox (row.claim workerId fleet.time) row).status = .claimed from
          assigned_getD row.status .claimed]
        decide
  | _ => cases claims

/-- Until an event is released, it does not become pending. -/
theorem Treated.unreleased {id : Id} {row last : Outbox}
    (treated : Treated env fleet action row last) (own : row.id = id)
    (kept : retriesEvent env id (fleet, action) = false ∧ reclaimsEvent id (fleet, action) = false)
    (taken : row.status ≠ .pending) : last.id = id ∧ last.status ≠ .pending := by
  cases treated with
  | claimed process skipped workerId limit claim _ running member same =>
      refine ⟨own, fun pending => ?_⟩
      rcases assigned_getD_cases claim.status .claimed row.status with status | status
      · exact absurd (status.symm.trans pending) (by decide)
      · exact taken (status.symm.trans pending)
  | completed process error workerId limit event rest _ running same =>
      refine ⟨own, fun pending => ?_⟩
      rcases assigned_getD_cases event.status .done row.status with status | status
      · exact absurd (status.symm.trans pending) (by decide)
      · exact taken (status.symm.trans pending)
  | retried process workerId limit event error rest _ running committed same =>
      rw [own, kept.1] at committed
      cases committed
  | reclaimed process claim _ same committed =>
      rw [own, kept.2] at committed
      cases committed

/-- Without a release, what is not pending stays so. -/
theorem History.unreleased {first last : Fleet ι} {steps : List (Fleet ι × Action ι)}
    (history : History env first steps last) {id : Id} {row : Outbox}
    (found : first.db.find .outbox id = some row) (taken : row.status ≠ .pending)
    (kept : ∀ step ∈ steps, retriesEvent env id step = false ∧ reclaimsEvent id step = false) :
    ∃ later, last.db.find .outbox id = some later ∧ later.status ≠ .pending := by
  induction history generalizing row with
  | stop => exact ⟨row, found, taken⟩
  | @step fleet next last steps action moved _ inductionHypothesis =>
      obtain ⟨last, foundLast, treated⟩ := (stepped moved).treats found
      have still : last.id = id ∧ last.status ≠ .pending := by
        have own : row.id = id := Option.some.inj (Db.find_mem found).2
        clear foundLast
        induction treated with
        | refl => exact ⟨own, taken⟩
        | tail _ change before =>
            exact change.unreleased before.1 (kept _ List.mem_cons_self) before.2
      exact inductionHypothesis foundLast still.2
        fun step member => kept step (List.mem_cons_of_mem _ member)

/-- Between two claims of an event it was released. -/
theorem History.claims_in_turn {first last : Fleet ι}
    {early between late : List (Fleet ι × Action ι)} {one two : Fleet ι × Action ι}
    (history : History env first (early ++ one :: (between ++ two :: late)) last)
    (integrity : Integrity first.db) {id : Id} (claims : claimsEvent id one = true)
    (again : claimsEvent id two = true) :
    ∃ step ∈ between, retriesEvent env id step = true ∨ reclaimsEvent id step = true := by
  by_contra kept
  obtain ⟨start, begun, rest⟩ := history.split
  have opened := begun.integrity integrity
  cases rest with
  | @step _ next _ _ action moved rest =>
      obtain ⟨row, found, taken⟩ := (stepped moved).claimed opened claims
      obtain ⟨middle, between', rest⟩ := rest.split
      obtain ⟨later, foundLater, still⟩ := between'.unreleased found taken fun step member => by
        rw [← Bool.not_eq_true, ← Bool.not_eq_true, ← not_or]
        exact fun released => kept ⟨step, member, released⟩
      have sound := between'.integrity ((stepped moved).integrity opened)
      cases rest with
      | step action moved rest =>
          obtain ⟨due, foundDue, pending, _⟩ := due_of_claimsEvent sound again
          rw [foundLater, Option.some.injEq] at foundDue
          exact still (foundDue ▸ pending)

/-- Whatever the workers do: events stay in the queue with their contents, an event is done only
after a handler returned for it, dead only after as many committed retries as are allowed, a claim
takes only what is due, and two claims of one event have a release between them. -/
theorem delivered_in_turn {db : Db} (integrity : Integrity db)
    (fresh : ∀ row ∈ db.outbox, row.Queued) {time : Time} {steps : List (Fleet ι × Action ι)}
    {last : Fleet ι} (history : History env (Fleet.initial db time) steps last) :
    (∀ step ∈ steps, ∀ id row, step.1.db.find .outbox id = some row →
      ∃ kept, last.db.find .outbox id = some kept ∧ SameEvent row kept) ∧
    (∀ id row, last.db.find .outbox id = some row → row.status = .done →
      ∃ step ∈ steps, returnsEvent env id step = true) ∧
    (∀ id row, last.db.find .outbox id = some row → row.status = .dead →
      env.maxAttempts ≤ (steps.countP (retriesEvent env id) : Nat)) ∧
    (∀ step ∈ steps, ∀ id, claimsEvent id step = true →
      ∃ row, step.1.db.find .outbox id = some row ∧ row.nextAttemptAt ≤ step.1.time) ∧
    (∀ id early one between two late, steps = early ++ one :: (between ++ two :: late) →
      claimsEvent id one = true → claimsEvent id two = true →
        ∃ step ∈ between, retriesEvent env id step = true ∨ reclaimsEvent id step = true) := by
  have accounted := history.accounted (Accounted.initial integrity fresh time)
  rw [List.nil_append] at accounted
  have parts : ∀ step ∈ steps, ∃ early late, History env (Fleet.initial db time) early step.1 ∧
      History env step.1 late last := by
    intro step member
    obtain ⟨early, late, rfl⟩ := List.append_of_mem member
    obtain ⟨middle, begun, rest⟩ := history.split
    cases rest with
    | step action moved rest => exact ⟨early, _, begun, .step action moved rest⟩
  refine ⟨?_, accounted.delivered, accounted.exhausted, ?_, ?_⟩
  · intro step member id row found
    obtain ⟨_, _, _, ended⟩ := parts step member
    exact ended.keeps found
  · intro step member id claims
    obtain ⟨_, _, begun, _⟩ := parts step member
    obtain ⟨row, found, _, due⟩ := due_of_claimsEvent (begun.integrity integrity) claims
    exact ⟨row, found, due⟩
  · rintro id early one between two late rfl claims again
    exact history.claims_in_turn integrity claims again

open Sample in
/-- A hold that is done was handed to a handler, which returned. -/
theorem delivered_in_turn_hold :
    ∃ (last : Fleet ℕ) (steps : List (Fleet ℕ × Action ℕ)) (row : Outbox),
      History Sample.env (initial workspace 0) steps last ∧
        last.db.find .outbox "first" = some row ∧ row.status = .done ∧
          ∃ step ∈ steps, returnsEvent Sample.env "first" step = true := by
  have runs : (run Sample.env (queueing ++ claiming ++ [.finishes 0 answers "", .completes 0 ""])
      (initial workspace 0)).any (fun last =>
        (last.db.find .outbox "first").any fun row => row.status = .done) = true := by decide
  simp only [Option.any_eq_true, decide_eq_true_eq] at runs
  obtain ⟨last, runs, row, found, done⟩ := runs
  obtain ⟨steps, history, _⟩ := History.exists_of_run runs
  exact ⟨last, steps, row, history, found, done,
    (delivered_in_turn Sample.integrity (by decide) history).2.1 "first" row found done⟩

end Fleet

end ControlPlane
