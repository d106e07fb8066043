import ControlPlane.Delivery.Claims

/-!
# One waiting event for each aggregate

`enqueue` looks for a duplicate among the pending events only, while a claimed
event may become pending again. As long as nothing is queued for an aggregate
whose event is claimed or still in the hands of a pass, at most one event of
each aggregate can ever become pending, and the unique index lets every event
go back into the queue.
-/

namespace ControlPlane

open ReadCommitted

/-- The stale claims that a pass is about to put back. -/
def Phase.stale : Phase → List Id
  | .reclaiming stale => stale.map Outbox.id
  | _ => []

/-- What a pass is about to write, where that returns events to the queue. -/
def Phase.putsBack (env : Env) (time : Time) : Phase → List Database.Write
  | .reclaiming stale => updates Outbox.reclaim stale
  | .retrying event error _ => updates (Outbox.retry env time error) [event]
  | _ => []

/-- No unique index refuses any of the statements, one after the other. -/
def unoccupiedAll : List Database.Write → Db → Bool
  | [], _ => true
  | statement :: log, db =>
      Layout.Statement.unoccupied (L := layout) statement db &&
        unoccupiedAll log (Database.apply statement db)

namespace Fleet

variable {ι : Type}

/-- A running pass may still put an event back. -/
def InHand (fleet : Fleet ι) (id : Id) : Prop :=
  ∃ process pass, fleet.passes process = some pass ∧
    (id ∈ pass.phase.batch ∨ id ∈ pass.phase.stale)

/-- Nothing is queued for an aggregate whose event is claimed or in the hands of a pass. -/
def QueuesIdle (fleet : Fleet ι) : Action ι → Prop
  | .commit log => ∀ row : Outbox, .insert .outbox row ∈ log → ∀ other ∈ fleet.db.outbox,
      other.topic = row.topic → other.aggregateId = row.aggregateId →
      other.status ≠ .claimed ∧ ¬fleet.InHand other.id
  | _ => True

end Fleet

/-! ## Events that may become pending -/

/-- An event that is pending, or that may become so again. -/
def Live (hand : Id → Prop) (row : Outbox) : Prop :=
  row.status = .pending ∨ row.status = .claimed ∨ hand row.id

/-- At most one live event for each topic and aggregate. -/
def LoneLive (hand : Id → Prop) (outbox : List Outbox) : Prop :=
  ∀ row ∈ outbox, ∀ other ∈ outbox, row.topic = other.topic →
    row.aggregateId = other.aggregateId → Live hand row → Live hand other → row.id = other.id

/-- The key of a new event was not in use. -/
theorem absent_of_accepts {db : Db} {row : Outbox}
    (accepted : Layout.Statement.accepts (L := layout) (.insert .outbox row) db = true) :
    ∀ other ∈ db.outbox, other.id ≠ row.id := fun other member same =>
  Layout.Statement.unused_of_accepts accepted rfl other member (congrArg some same)

namespace LoneLive

variable {hand : Id → Prop} {db : Db}

/-- Whoever holds only what was live before changes nothing. -/
theorem mono {held : Id → Prop} {outbox : List Outbox} (lone : LoneLive hand outbox)
    (live : ∀ row ∈ outbox, held row.id → Live hand row) : LoneLive held outbox := by
  have before : ∀ row ∈ outbox, Live held row → Live hand row := by
    intro row member isLive
    rcases isLive with pending | claimed | inHand
    · exact .inl pending
    · exact .inr (.inl claimed)
    · exact live row member inHand
  intro row member other otherMember topic aggregate rowLive otherLive
  exact lone row member other otherMember topic aggregate (before row member rowLive)
    (before other otherMember otherLive)

/-- Whatever is assigned to an event in hand. -/
theorem update (lone : LoneLive hand db.outbox) {key : Id} (inHand : hand key)
    (columns : OutboxColumns) :
    LoneLive hand (Db.outbox (Database.apply (.update .outbox key columns) db)) := by
  have before : ∀ row ∈ Db.outbox (Database.apply (.update .outbox key columns) db),
      Live hand row → ∃ old ∈ db.outbox, old.id = row.id ∧ old.topic = row.topic ∧
        old.aggregateId = row.aggregateId ∧ Live hand old := by
    intro row member live
    obtain ⟨old, oldMember, rfl⟩ := List.mem_map.mp member
    refine ⟨old, oldMember, ?_⟩
    unfold Layout.amend at live ⊢
    split
    · rename_i same
      exact ⟨rfl, rfl, rfl, .inr (.inr ((Option.some.inj same).symm ▸ inHand))⟩
    · rename_i different
      rw [if_neg different] at live
      exact ⟨rfl, rfl, rfl, live⟩
  intro row member other otherMember topic aggregate rowLive otherLive
  obtain ⟨first, firstMember, firstId, firstTopic, firstAggregate, firstLive⟩ :=
    before row member rowLive
  obtain ⟨second, secondMember, secondId, secondTopic, secondAggregate, secondLive⟩ :=
    before other otherMember otherLive
  rw [← firstId, ← secondId]
  exact lone first firstMember second secondMember
    (firstTopic.trans (topic.trans secondTopic.symm))
    (firstAggregate.trans (aggregate.trans secondAggregate.symm)) firstLive secondLive

theorem updates (columns : Outbox → OutboxColumns) {rows : List Outbox}
    (lone : LoneLive hand db.outbox) (inHand : ∀ row ∈ rows, hand row.id) :
    LoneLive hand (replay (S := Database) (ControlPlane.updates columns rows) db).outbox := by
  induction rows generalizing db with
  | nil => exact lone
  | cons row rows inductionHypothesis =>
      exact inductionHypothesis (lone.update (inHand row List.mem_cons_self) (columns row))
        fun other member => inHand other (List.mem_cons_of_mem _ member)

/-- The unique index lets an event in hand become whatever it becomes. -/
theorem unoccupied (lone : LoneLive hand db.outbox) {key : Id} (inHand : hand key)
    (columns : OutboxColumns) :
    Layout.Statement.unoccupied (L := layout) (.update .outbox key columns) db = true := by
  rw [Layout.Statement.unoccupied, List.all_eq_true]
  intro row member
  obtain ⟨rowMember, rowKey⟩ := Layout.mem_keyed.mp member
  have own : row.id = key := Option.some.inj rowKey
  rw [Layout.vacant_iff]
  rintro entry gained other ⟨holder, holderMember, holderKey, occupied⟩
  have entries : ∀ {event : Outbox}, entry ∈ @Table.uniqueEntries .outbox event →
      event.status = .pending ∧ entry = (event.topic, event.aggregateId) := by
    intro event within
    simp only [Table.uniqueEntries] at within
    split at within
    · exact ⟨‹_›, List.mem_singleton.mp within⟩
    · exact absurd within List.not_mem_nil
  obtain ⟨pending, sameEntry⟩ := entries occupied
  have rowEntry : entry = (row.topic, row.aggregateId) := by
    unfold Layout.gained at gained
    split at gained
    · exact absurd gained List.not_mem_nil
    · exact (entries gained).2
  have pair := rowEntry.symm.trans sameEntry
  have same := lone row rowMember holder holderMember (congrArg Prod.fst pair)
    (congrArg Prod.snd pair) (.inr (.inr (own ▸ inHand))) (.inl pending)
  exact congrArg some (own.symm.trans (same.trans (Option.some.inj holderKey)))

theorem unoccupiedAll (columns : Outbox → OutboxColumns) {rows : List Outbox}
    (lone : LoneLive hand db.outbox) (inHand : ∀ row ∈ rows, hand row.id) :
    unoccupiedAll (ControlPlane.updates columns rows) db = true := by
  induction rows generalizing db with
  | nil => rfl
  | cons row rows inductionHypothesis =>
      have own := inHand row List.mem_cons_self
      rw [ControlPlane.updates, List.map_cons, ControlPlane.unoccupiedAll,
        lone.unoccupied own (columns row)]
      exact inductionHypothesis (lone.update own (columns row))
        fun other member => inHand other (List.mem_cons_of_mem _ member)

/-- A new event for an aggregate that has no live one but perhaps a pending one, which the
unique index excludes. -/
theorem insert (lone : LoneLive hand db.outbox) {row : Outbox}
    (idle : ∀ other ∈ db.outbox, other.topic = row.topic → other.aggregateId = row.aggregateId →
      other.status ≠ .claimed ∧ ¬hand other.id)
    (pending : row.status = .pending)
    (accepted : Layout.Statement.accepts (L := layout) (.insert .outbox row) db = true) :
    LoneLive hand (db.outbox ++ [row]) := by
  have alone : ∀ other ∈ db.outbox, other.topic = row.topic →
      other.aggregateId = row.aggregateId → ¬Live hand other := by
    rintro other member topic aggregate (waiting | claimed | inHand)
    · have free := Layout.Statement.unoccupied_of_accepts accepted
      rw [Layout.Statement.unoccupied, Layout.vacant_iff] at free
      have entry : (row.topic, row.aggregateId) ∈ @Table.uniqueEntries .outbox row := by
        simp [Table.uniqueEntries, pending]
      have taken := free _ entry other.id ⟨other, member, rfl, by
        simp [Table.uniqueEntries, waiting, topic, aggregate]⟩
      exact absent_of_accepts accepted other member (Option.some.inj taken).symm
    · exact (idle other member topic aggregate).1 claimed
    · exact (idle other member topic aggregate).2 inHand
  intro first firstMember second secondMember topic aggregate firstLive secondLive
  rcases List.mem_append.mp firstMember with firstOld | firstNew
  · rcases List.mem_append.mp secondMember with secondOld | secondNew
    · exact lone first firstOld second secondOld topic aggregate firstLive secondLive
    · rw [List.mem_singleton.mp secondNew] at topic aggregate
      exact absurd firstLive (alone first firstOld topic aggregate)
  · rcases List.mem_append.mp secondMember with secondOld | secondNew
    · rw [List.mem_singleton.mp firstNew] at topic aggregate
      exact absurd secondLive (alone second secondOld topic.symm aggregate.symm)
    · rw [List.mem_singleton.mp firstNew, List.mem_singleton.mp secondNew]

/-- The new events of a whole transaction. -/
theorem queue {log : List Database.Write} (lone : LoneLive hand db.outbox)
    (present : ∀ id, hand id → ∃ row ∈ db.outbox, row.id = id)
    (idle : ∀ row : Outbox, .insert .outbox row ∈ log → ∀ other ∈ db.outbox,
      other.topic = row.topic → other.aggregateId = row.aggregateId →
      other.status ≠ .claimed ∧ ¬hand other.id)
    (queued : ∀ statement ∈ log, Queues statement)
    (accepted : acceptsAll (S := Database) log db = true) :
    LoneLive hand (replay (S := Database) log db).outbox ∧
      ∀ id, hand id → ∃ row ∈ (replay (S := Database) log db).outbox, row.id = id := by
  induction log generalizing db with
  | nil => exact ⟨lone, present⟩
  | cons statement log inductionHypothesis =>
      rw [acceptsAll_cons, Bool.and_eq_true] at accepted
      have own := queued statement List.mem_cons_self
      have rest : ∀ other ∈ log, Queues other :=
        fun other member => queued other (List.mem_cons_of_mem _ member)
      have unchanged : Table.outbox ≠ Layout.Statement.table statement →
          Db.outbox (Database.apply statement db) = db.outbox :=
        Layout.Statement.rows_apply_of_ne (L := layout) db
      rw [replay_cons]
      by_cases off : Table.outbox = Layout.Statement.table statement
      · cases statement with
        | insert table row =>
            subst off
            have pending : row.status = .pending := congrArg Outbox.status own
            have absent := absent_of_accepts accepted.1
            refine inductionHypothesis ?_ ?_ ?_ rest accepted.2
            · exact lone.insert (idle row List.mem_cons_self) pending accepted.1
            · intro id held
              obtain ⟨old, member, same⟩ := present id held
              exact ⟨old, List.mem_append_left _ member, same⟩
            · intro new newMember other otherMember topic aggregate
              rcases List.mem_append.mp otherMember with old | fresh
              · exact idle new (List.mem_cons_of_mem _ newMember) other old topic aggregate
              · rw [List.mem_singleton.mp fresh]
                refine ⟨by simp [pending], fun held => ?_⟩
                obtain ⟨old, member, same⟩ := present _ held
                exact absent old member same
        | update table key columns =>
            subst off
            exact own.elim
        | delete table key =>
            subst off
            exact own.elim
      · refine inductionHypothesis ?_ ?_ ?_ rest accepted.2 <;> rw [unchanged off]
        · exact lone
        · exact present
        · exact fun row member => idle row (List.mem_cons_of_mem _ member)

end LoneLive

/-! ## The invariant of the fleet -/

/-- Updates keep the keys. -/
theorem ids_replay_updates (columns : Outbox → OutboxColumns) (rows : List Outbox) (db : Db) :
    (replay (S := Database) (updates columns rows) db).outbox.map Outbox.id =
      db.outbox.map Outbox.id := by
  induction rows generalizing db with
  | nil => rfl
  | cons row rows inductionHypothesis =>
      refine (inductionHypothesis _).trans ?_
      change List.map Outbox.id (List.map _ db.outbox) = _
      rw [List.map_map]
      refine List.map_congr_left fun event _ => Option.some.inj ?_
      exact @Layout.key_amend layout .outbox row.id (columns row) event

namespace Fleet

variable {ι : Type}

/-- Live events are alone, and what is in hand exists. -/
structure Orderly (fleet : Fleet ι) : Prop where
  integrity : Integrity fleet.db
  lone : LoneLive fleet.InHand fleet.db.outbox
  present : ∀ id, fleet.InHand id → ∃ row ∈ fleet.db.outbox, row.id = id

variable {env : Env} {fleet : Fleet ι}

theorem Orderly.initial {db : Db} (integrity : Integrity db) (empty : db.outbox = [])
    (time : Time) : Orderly (Fleet.initial db time : Fleet ι) where
  integrity := integrity
  lone := by simp [LoneLive, Fleet.initial, empty]
  present := by simp [InHand, Fleet.initial]

/-- Events in hand are updated. -/
theorem Orderly.updates (orderly : Orderly fleet) (columns : Outbox → OutboxColumns)
    {rows : List Outbox} (inHand : ∀ row ∈ rows, fleet.InHand row.id)
    (accepted : acceptsAll (S := Database) (updates columns rows) fleet.db = true) :
    Orderly { fleet with db := replay (S := Database) (updates columns rows) fleet.db } where
  integrity := Layout.Integrity.replay orderly.integrity accepted
  lone := orderly.lone.updates columns inHand
  present := by
    intro id held
    obtain ⟨row, member, same⟩ := orderly.present id held
    have listed : id ∈ fleet.db.outbox.map Outbox.id := same ▸ List.mem_map_of_mem member
    rw [← ids_replay_updates columns rows fleet.db] at listed
    obtain ⟨later, laterMember, laterSame⟩ := List.mem_map.mp listed
    exact ⟨later, laterMember, laterSame⟩

/-- The stale claims that a pass reads are claimed. -/
theorem mem_staleClaims {time : Time} {db : Db} {row : Outbox}
    (member : row ∈ db.staleClaims env time) : row ∈ db.outbox ∧ row.status = .claimed := by
  obtain ⟨stored, stale⟩ := List.mem_filter.mp member
  simp only [Bool.and_eq_true, decide_eq_true_eq] at stale
  exact ⟨stored, stale.1⟩

variable [DecidableEq ι]

/-- A pass may drop events, and take events that are pending or claimed. -/
theorem Orderly.put (orderly : Orderly fleet) {process : ι} {next : Option Pass}
    (gains : ∀ later, next = some later → ∀ id,
      id ∈ later.phase.batch ∨ id ∈ later.phase.stale →
      fleet.InHand id ∨ ∃ row ∈ fleet.db.outbox, row.id = id ∧
        (row.status = .pending ∨ row.status = .claimed)) :
    Orderly (fleet.put process next) := by
  have before : ∀ id, (fleet.put process next).InHand id → fleet.InHand id ∨
      ∃ row ∈ fleet.db.outbox, row.id = id ∧
        (row.status = .pending ∨ row.status = .claimed) := by
    rintro id ⟨other, later, found, held⟩
    by_cases own : other = process
    · subst own
      rw [put_passes_self] at found
      exact gains later found id held
    · rw [put_passes_of_ne _ own] at found
      exact .inl ⟨other, later, found, held⟩
  refine ⟨orderly.integrity, orderly.lone.mono fun row member held => ?_, fun id held => ?_⟩
  · rcases before row.id held with inHand | ⟨other, otherMember, same, live⟩
    · exact .inr (.inr inHand)
    · have equal := orderly.integrity.eq_of_key .outbox member rfl otherMember
        (congrArg some same)
      rw [← equal] at live
      rcases live with pending | claimed
      · exact .inl pending
      · exact .inr (.inl claimed)
  · rcases before id held with inHand | ⟨row, member, same, _⟩
    · exact orderly.present id inHand
    · exact ⟨row, member, same⟩

/-- Passes that only drop events. -/
theorem Orderly.shrink (orderly : Orderly fleet) {process : ι} {next : Option Pass}
    (shrinks : fleet.Shrinks process next)
    (fresh : ∀ later, next = some later → later.phase.stale = []) :
    Orderly (fleet.put process next) := by
  refine orderly.put fun later equal id held => .inl ?_
  rw [fresh later equal, or_iff_left List.not_mem_nil] at held
  rcases shrinks later equal with empty | ⟨pass, found, _, fewer⟩
  · rw [empty] at held
    exact absurd held List.not_mem_nil
  · exact ⟨process, pass, found, .inl (fewer.subset held)⟩

/-- A pass updates events that it has in hand, and goes on with what it keeps of them. -/
theorem Orderly.transact (orderly : Orderly fleet) {process : ι} {pass : Pass}
    (found : fleet.passes process = some pass) (columns : Outbox → OutboxColumns)
    (rows : List Outbox)
    (inHand : ∀ row ∈ rows, row.id ∈ pass.phase.batch ∨ row.id ∈ pass.phase.stale)
    {committed refused : Option Pass} (commits : fleet.Shrinks process committed)
    (aborts : fleet.Shrinks process refused)
    (fresh : ∀ later, committed = some later ∨ refused = some later → later.phase.stale = []) :
    Orderly (fleet.transact process (ControlPlane.updates columns rows) committed refused) := by
  refine transact_cases (fun accepted => ?_)
    (orderly.shrink aborts fun later equal => fresh later (.inr equal))
  have updated := orderly.updates columns
    (fun row member => ⟨process, pass, found, inHand row member⟩) accepted
  exact updated.shrink commits fun later equal => fresh later (.inl equal)

/-- While events are queued for idle aggregates only, a step keeps the queue orderly. -/
theorem Orderly.step {later : Fleet ι} {action : Action ι} (orderly : Orderly fleet)
    (idle : fleet.QueuesIdle action) (stepped : Stepped env fleet action later) :
    Orderly later := by
  cases stepped with
  | tick => exact ⟨orderly.integrity, orderly.lone, orderly.present⟩
  | commit log queued accepted =>
      obtain ⟨lone, present⟩ := orderly.lone.queue orderly.present idle queued accepted
      exact ⟨Layout.Integrity.replay orderly.integrity accepted, lone, present⟩
  | opens =>
      refine orderly.put ?_
      rintro _ ⟨⟩ id (none | stale)
      · exact absurd none List.not_mem_nil
      · obtain ⟨row, member, rfl⟩ := List.mem_map.mp stale
        obtain ⟨stored, claimed⟩ := mem_staleClaims member
        exact .inr ⟨row, stored, rfl, .inr claimed⟩
  | reclaims process workerId limit stale found =>
      refine orderly.transact found Outbox.reclaim stale
        (fun row member => .inr (List.mem_map_of_mem member)) ?_ (by rintro _ ⟨⟩) ?_
      · rintro _ ⟨⟩
        exact .inl rfl
      · rintro later (equal | equal) <;> cases equal
        rfl
  | claims process skipped workerId limit found =>
      refine transact_cases (fun accepted => ?_) (orderly.shrink (by rintro _ ⟨⟩) (by rintro _ ⟨⟩))
      have ids : ((fleet.db.claimable fleet.time skipped limit).map
          (Event.ofClaim workerId fleet.time)).map Event.id =
          (fleet.db.claimable fleet.time skipped limit).map Outbox.id := by
        rw [List.map_map]
        rfl
      have taken : Orderly (fleet.put process (some ⟨workerId, limit, .ready
          ((fleet.db.claimable fleet.time skipped limit).map
            (Event.ofClaim workerId fleet.time))⟩)) := by
        refine orderly.put ?_
        rintro _ ⟨⟩ id (member | none)
        · change id ∈ List.map Event.id (List.map _ _) at member
          rw [ids] at member
          obtain ⟨row, rowMember, rfl⟩ := List.mem_map.mp member
          obtain ⟨stored, pending, _⟩ := Db.mem_claimable rowMember
          exact .inr ⟨row, stored, rfl, .inl pending⟩
        · exact absurd none List.not_mem_nil
      refine taken.updates (fun row => row.claim workerId fleet.time) (fun row member => ?_) accepted
      refine ⟨process, _, put_passes_self _ _, .inl ?_⟩
      change row.id ∈ List.map Event.id (List.map _ _)
      rw [ids]
      exact List.mem_map_of_mem member
  | takes process workerId limit batch found =>
      refine orderly.shrink (take_shrinks found) fun later equal => ?_
      cases batch with
      | nil => cases equal
      | cons event rest =>
          obtain ⟨row, _, rfl⟩ := Option.map_eq_some_iff.mp equal
          dsimp only
          split <;> rfl
  | finishes process answers error workerId limit event rest found =>
      have outbox := outbox_finish env answers error ⟨workerId, limit, .handling event rest⟩ event
        rest fleet.db
      have moved : Orderly { fleet with
          db := (finish env answers error ⟨workerId, limit, .handling event rest⟩ event rest
            fleet.db).1 } := by
        refine ⟨orderly.integrity.finish .., ?_, ?_⟩
        · change LoneLive fleet.InHand _
          rw [outbox]
          exact orderly.lone
        · intro id held
          dsimp only
          rw [outbox]
          exact orderly.present id held
      refine moved.shrink (finish_shrinks answers error found) ?_
      rintro _ ⟨⟩
      unfold finish
      split
      · rfl
      · split <;> rfl
  | completes process error workerId limit event rest found =>
      refine orderly.transact found Outbox.complete [event]
        (fun row member => .inl ?_) ?_ ?_ ?_
      · rw [List.mem_singleton.mp member]
        exact List.mem_cons_self
      · rintro _ ⟨⟩
        exact .inr ⟨_, found, rfl, List.sublist_cons_self _ _⟩
      · rintro _ ⟨⟩
        refine .inr ⟨_, found, rfl, ?_⟩
        simp [Phase.batch, Function.comp_def]
      · rintro later (equal | equal) <;> cases equal <;> rfl
  | reloads process workerId limit id error rest found =>
      refine orderly.shrink ?_ ?_
      · intro later reloaded
        obtain ⟨row, stored, rfl⟩ := Option.map_eq_some_iff.mp reloaded
        refine .inr ⟨_, found, rfl, ?_⟩
        change List.Sublist (row.id :: rest.map Event.id) (id :: rest.map Event.id)
        rw [Option.some.inj (Db.find_mem stored).2]
      · intro later reloaded
        obtain ⟨row, _, rfl⟩ := Option.map_eq_some_iff.mp reloaded
        rfl
  | retries process workerId limit event error rest found =>
      refine orderly.transact found (Outbox.retry env fleet.time error) [event]
        (fun row member => .inl ?_) ?_ (by rintro _ ⟨⟩) ?_
      · rw [List.mem_singleton.mp member]
        exact List.mem_cons_self
      · rintro _ ⟨⟩
        exact .inr ⟨_, found, rfl, List.sublist_cons_self _ _⟩
      · rintro later (equal | equal) <;> cases equal
        rfl
  | crashes => exact orderly.shrink (by rintro _ ⟨⟩) (by rintro _ ⟨⟩)

/-- A run that queues events for idle aggregates only keeps the queue orderly. -/
theorem Orderly.reachable {last : Fleet ι} (orderly : Orderly fleet)
    (reached : Reachable env QueuesIdle fleet last) : Orderly last := by
  induction reached with
  | refl => exact orderly
  | tail _ moved inductionHypothesis =>
      obtain ⟨action, idle, taken⟩ := moved
      exact inductionHypothesis.step idle (stepped taken)

end Fleet

end ControlPlane
