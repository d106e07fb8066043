import ControlPlane.Delivery.Steps
import ControlPlane.Sample

/-!
# Who holds a claim

While nobody takes a claim away from a running pass, the events of a batch are
claimed by the pass that handles them, no two passes handle one event, and what
is done or dead stays so. `reclaim_stale` does not look whether the claimant is
still at work, so a slow worker can bring back what another one has finished.
-/

namespace ControlPlane

open ReadCommitted

/-! ## The rows that updates leave alone -/

/-- An update leaves the events with other keys alone. -/
theorem Db.find_update_of_ne {db : Db} {id key : Id} (columns : OutboxColumns)
    (different : id ≠ key) :
    Db.find (Database.apply (.update .outbox key columns) db) .outbox id =
      db.find .outbox id := by
  refine (Db.find_apply_update .outbox db key columns id).trans ?_
  cases found : db.find .outbox id with
  | none => rfl
  | some row =>
      have own := (Db.find_mem found).2
      refine congrArg some (if_neg fun same => different ?_)
      exact Option.some.inj (own.symm.trans same)

/-- Assignments to each of several events. -/
def updates (columns : Outbox → OutboxColumns) (rows : List Outbox) : List Database.Write :=
  rows.map fun row => .update .outbox row.id (columns row)

theorem find_replay_updates_of_notMem (columns : Outbox → OutboxColumns) {rows : List Outbox}
    {id : Id} (other : id ∉ rows.map Outbox.id) (db : Db) :
    Db.find (replay (S := Database) (updates columns rows) db) .outbox id =
      db.find .outbox id := by
  induction rows generalizing db with
  | nil => rfl
  | cons row rows inductionHypothesis =>
      rw [List.map_cons, List.mem_cons, not_or] at other
      exact (inductionHypothesis other.2 _).trans (Db.find_update_of_ne _ other.1)

/-- Each of several distinct events gets its assignments. -/
theorem find_replay_updates (columns : Outbox → OutboxColumns) {rows : List Outbox}
    (distinct : (rows.map Outbox.id).Nodup) {db : Db}
    (present : ∀ row ∈ rows, db.find .outbox row.id = some row) :
    ∀ row ∈ rows, Db.find (replay (S := Database) (updates columns rows) db) .outbox row.id =
      some (@Table.change .outbox (columns row) row) := by
  induction rows generalizing db with
  | nil => exact fun row member => absurd member List.not_mem_nil
  | cons first rows inductionHypothesis =>
      rw [List.map_cons, List.nodup_cons] at distinct
      have here : Db.find (Database.apply (.update .outbox first.id (columns first)) db) .outbox
          first.id = some (@Table.change .outbox (columns first) first) := by
        refine (Db.find_apply_update .outbox db first.id (columns first) _).trans ?_
        rw [present first List.mem_cons_self]
        exact congrArg some (if_pos rfl)
      intro row member
      rcases List.mem_cons.mp member with rfl | later
      · exact (find_replay_updates_of_notMem columns distinct.1 _).trans here
      · refine inductionHypothesis distinct.2 (fun other otherMember => ?_) row later
        refine (Db.find_update_of_ne _ fun same => distinct.1 ?_).trans
          (present other (List.mem_cons_of_mem _ otherMember))
        exact same ▸ List.mem_map_of_mem otherMember

/-- New events do not hide the old ones. -/
theorem find_replay_queues {log : List Database.Write}
    (queued : ∀ statement ∈ log, Queues statement) {db : Db} {id : Id} {row : Outbox}
    (found : db.find .outbox id = some row) :
    Db.find (replay (S := Database) log db) .outbox id = some row := by
  induction log generalizing db with
  | nil => exact found
  | cons statement log inductionHypothesis =>
      rw [replay_cons]
      refine inductionHypothesis (fun other member => queued other (List.mem_cons_of_mem _ member)) ?_
      have own := queued statement List.mem_cons_self
      by_cases off : Table.outbox = Layout.Statement.table statement
      · cases statement with
        | insert table new =>
            subst off
            refine (Db.find_apply_insert .outbox db new id).trans ?_
            rw [found]
            rfl
        | update table key columns =>
            subst off
            exact own.elim
        | delete table key =>
            subst off
            exact own.elim
      · exact (Db.find_apply_of_ne db off id).trans found

/-- What is claimed is pending and due. -/
theorem Db.mem_claimable {db : Db} {time : Time} {skipped : List Id} {limit : Nat} {row : Outbox}
    (member : row ∈ db.claimable time skipped limit) :
    row ∈ db.outbox ∧ row.status = .pending ∧ row.nextAttemptAt ≤ time ∧ row.id ∉ skipped := by
  have sorted := List.mem_of_mem_take member
  rw [List.mem_insertionSort, List.mem_filter] at sorted
  simpa [and_assoc] using sorted

/-- No event is claimed twice at once. -/
theorem Integrity.claimable_distinct {db : Db} (integrity : Integrity db) (time : Time)
    (skipped : List Id) (limit : Nat) :
    ((db.claimable time skipped limit).map Outbox.id).Nodup := by
  have ids := integrity.keys .outbox
  change (db.outbox.filterMap (some ∘ Outbox.id)).Nodup at ids
  rw [List.filterMap_eq_map] at ids
  refine List.Nodup.sublist ((List.take_sublist _ _).map _) ?_
  refine (List.Perm.nodup_iff ((List.perm_insertionSort _ _).map _)).mpr ?_
  exact ids.sublist (List.filter_sublist.map _)

/-! ## Events in the hands of passes -/

/-- The events of a pass that are claimed and not finished. -/
def Phase.batch : Phase → List Id
  | .reclaiming _ | .claiming => []
  | .ready batch => batch.map Event.id
  | .handling event rest | .handled event rest | .retrying event _ rest =>
      event.id :: rest.map Event.id
  | .failed id _ rest => id :: rest.map Event.id

/-- A running pass has an event in its batch. -/
def Fleet.Holds {ι : Type} (fleet : Fleet ι) (id : Id) : Prop :=
  ∃ process pass, fleet.passes process = some pass ∧ id ∈ pass.phase.batch

/-- The statuses that are meant to be final. -/
def OutboxStatus.Final : OutboxStatus → Prop
  | .done | .dead => True
  | .pending | .claimed => False

/-- The event that a step starts to handle, completes or retries. -/
def Fleet.worksOn {ι : Type} (fleet : Fleet ι) : Action ι → Option (ι × Id)
  | .takes process =>
      match fleet.passes process with
      | some ⟨_, _, .ready (event :: _)⟩ => some (process, event.id)
      | _ => none
  | .completes process _ =>
      match fleet.passes process with
      | some ⟨_, _, .handled event _⟩ => some (process, event.id)
      | _ => none
  | .retries process =>
      match fleet.passes process with
      | some ⟨_, _, .retrying event _ _⟩ => some (process, event.id)
      | _ => none
  | _ => none

/-- `reclaim_stale` writes only rows that are still claimed, by passes that are over. -/
def Fleet.ReclaimsAbandoned {ι : Type} (fleet : Fleet ι) : Action ι → Prop
  | .reclaims process => ∀ workerId limit stale,
      fleet.passes process = some ⟨workerId, limit, .reclaiming stale⟩ → ∀ row ∈ stale,
        (∃ current, fleet.db.find .outbox row.id = some current ∧ current.status = .claimed) ∧
          ¬fleet.Holds row.id
  | _ => True

namespace Fleet

variable {ι : Type}

/-- Every event in a batch is claimed by its pass, and in no other batch. -/
structure Exclusive (fleet : Fleet ι) : Prop where
  integrity : Integrity fleet.db
  claimed : ∀ process pass, fleet.passes process = some pass → ∀ id ∈ pass.phase.batch,
    ∃ row, fleet.db.find .outbox id = some row ∧ row.status = .claimed ∧
      row.claimedBy = some pass.workerId
  apart : ∀ first second left right, first ≠ second → fleet.passes first = some left →
    fleet.passes second = some right → ∀ id ∈ left.phase.batch, id ∉ right.phase.batch
  distinct : ∀ process pass, fleet.passes process = some pass → pass.phase.batch.Nodup

/-- What is done or dead in one database is so in another one. -/
def KeepsFinal (db later : Db) : Prop :=
  ∀ id row, db.find .outbox id = some row → row.status.Final →
    ∃ kept, later.find .outbox id = some kept ∧ kept.status = row.status

theorem KeepsFinal.refl (db : Db) : KeepsFinal db db :=
  fun _ row found _ => ⟨row, found, rfl⟩

theorem KeepsFinal.trans {first second third : Db} (early : KeepsFinal first second)
    (late : KeepsFinal second third) : KeepsFinal first third := by
  intro id row found final
  obtain ⟨kept, foundKept, same⟩ := early id row found final
  obtain ⟨last, foundLast, sameLast⟩ := late id kept foundKept (same ▸ final)
  exact ⟨last, foundLast, sameLast.trans same⟩

variable {env : Env} {fleet : Fleet ι}

/-- The queue may move elsewhere. -/
theorem Exclusive.move (exclusive : Exclusive fleet) {db : Db} (integrity : Integrity db)
    (kept : ∀ id row, fleet.Holds id → fleet.db.find .outbox id = some row →
      db.find .outbox id = some row) : Exclusive { fleet with db := db } where
  integrity := integrity
  claimed process pass found id member :=
    let ⟨row, foundRow, holds⟩ := exclusive.claimed process pass found id member
    ⟨row, kept id row ⟨process, pass, found, member⟩ foundRow, holds⟩
  apart := exclusive.apart
  distinct := exclusive.distinct

/-- What is held is claimed. -/
theorem Exclusive.claimed_of_holds (exclusive : Exclusive fleet) {id : Id}
    (holds : fleet.Holds id) :
    ∃ row, fleet.db.find .outbox id = some row ∧ row.status = .claimed := by
  obtain ⟨process, pass, found, member⟩ := holds
  obtain ⟨row, foundRow, claimed, _⟩ := exclusive.claimed process pass found id member
  exact ⟨row, foundRow, claimed⟩

/-- No pass holds anything before the first one opens. -/
theorem Exclusive.initial {db : Db} (integrity : Integrity db) (time : Time) :
    Exclusive (Fleet.initial db time : Fleet ι) where
  integrity := integrity
  claimed := by simp [Fleet.initial]
  apart := by simp [Fleet.initial]
  distinct := by simp [Fleet.initial]

/-- Whoever works on an event has it in the batch. -/
theorem mem_batch_of_worksOn {action : Action ι} {process : ι} {id : Id}
    (works : fleet.worksOn action = some (process, id)) :
    ∃ pass, fleet.passes process = some pass ∧ id ∈ pass.phase.batch := by
  unfold worksOn at works
  split at works
  all_goals first
    | cases works
    | (split at works
       all_goals cases works
       exact ⟨_, ‹_›, List.mem_cons_self⟩)

/-- What becomes of a pass holds no more than before. -/
def Shrinks (fleet : Fleet ι) (process : ι) (next : Option Pass) : Prop :=
  ∀ later, next = some later → later.phase.batch = [] ∨
    ∃ pass, fleet.passes process = some pass ∧ later.workerId = pass.workerId ∧
      later.phase.batch.Sublist pass.phase.batch

/-- What a pass takes next it had in its batch. -/
theorem take_shrinks {process : ι} {workerId : String} {limit : Nat} {batch : List Event}
    (found : fleet.passes process = some ⟨workerId, limit, .ready batch⟩) :
    fleet.Shrinks process (take env ⟨workerId, limit, .ready batch⟩ fleet.db batch) := by
  intro later taken
  cases batch with
  | nil => cases taken
  | cons event rest =>
      obtain ⟨row, loaded, rfl⟩ := Option.map_eq_some_iff.mp taken
      have own : row.id = event.id := by
        rcases Option.or_eq_some_iff.mp loaded with known | ⟨_, stored⟩
        · exact event.own row known
        · exact Option.some.inj (Db.find_mem stored).2
      refine .inr ⟨_, found, rfl, ?_⟩
      split <;>
      · change List.Sublist (row.id :: rest.map Event.id) (event.id :: rest.map Event.id)
        rw [own]

/-- A handler ends with the batch it started with. -/
theorem finish_shrinks (answers : Answers Database) (error : String) {process : ι}
    {workerId : String} {limit : Nat} {event : Outbox} {rest : List Event}
    (found : fleet.passes process = some ⟨workerId, limit, .handling event rest⟩) :
    fleet.Shrinks process (some (finish env answers error
      ⟨workerId, limit, .handling event rest⟩ event rest fleet.db).2) := by
  rintro later ⟨⟩
  refine .inr ⟨_, found, ?_⟩
  unfold finish
  split
  · exact ⟨rfl, List.Sublist.refl _⟩
  · split
    · exact ⟨rfl, List.Sublist.refl _⟩
    · refine ⟨rfl, ?_⟩
      simp [Phase.batch, Function.comp_def]

/-- Updates of events that are not final. -/
theorem keepsFinal_updates (columns : Outbox → OutboxColumns) {rows : List Outbox} {db : Db}
    (unfinished : ∀ row ∈ rows, ∃ current, db.find .outbox row.id = some current ∧
      ¬current.status.Final) :
    KeepsFinal db (replay (S := Database) (updates columns rows) db) := by
  intro id row found final
  refine ⟨row, (find_replay_updates_of_notMem columns ?_ db).trans found, rfl⟩
  intro member
  obtain ⟨other, otherMember, rfl⟩ := List.mem_map.mp member
  obtain ⟨current, foundCurrent, notFinal⟩ := unfinished other otherMember
  rw [found, Option.some.injEq] at foundCurrent
  exact notFinal (foundCurrent ▸ final)

/-- The event at the head of a batch is not final. -/
theorem Exclusive.keepsFinal_head (exclusive : Exclusive fleet) {process : ι} {pass : Pass}
    (found : fleet.passes process = some pass) {event : Outbox} {rest : List Id}
    (batch : pass.phase.batch = event.id :: rest) (columns : Outbox → OutboxColumns) :
    KeepsFinal fleet.db
      (replay (S := Database) [.update .outbox event.id (columns event)] fleet.db) := by
  refine @keepsFinal_updates columns [event] fleet.db fun row member => ?_
  rw [List.mem_singleton.mp member]
  obtain ⟨current, foundCurrent, claimed, _⟩ := exclusive.claimed process pass found event.id
    (batch ▸ List.mem_cons_self)
  exact ⟨current, foundCurrent, by simp [claimed, OutboxStatus.Final]⟩

variable [DecidableEq ι]

/-- Passes may drop events. -/
theorem Exclusive.put (exclusive : Exclusive fleet) {process : ι} {next : Option Pass}
    (shrinks : fleet.Shrinks process next) : Exclusive (fleet.put process next) := by
  have before : ∀ other later, (fleet.put process next).passes other = some later →
      later.phase.batch = [] ∨ ∃ pass, fleet.passes other = some pass ∧
        later.workerId = pass.workerId ∧ later.phase.batch.Sublist pass.phase.batch := by
    intro other later found
    by_cases own : other = process
    · subst own
      rw [put_passes_self] at found
      exact shrinks later found
    · rw [put_passes_of_ne _ own] at found
      exact .inr ⟨later, found, rfl, List.Sublist.refl _⟩
  refine ⟨exclusive.integrity, ?_, ?_, ?_⟩
  · intro other later found id member
    rcases before other later found with empty | ⟨pass, foundPass, same, fewer⟩
    · rw [empty] at member
      exact absurd member List.not_mem_nil
    · rw [same]
      exact exclusive.claimed other pass foundPass id (fewer.subset member)
  · intro first second left right different foundLeft foundRight id member inRight
    rcases before first left foundLeft with empty | ⟨leftPass, oldLeft, _, leftFewer⟩
    · rw [empty] at member
      exact absurd member List.not_mem_nil
    rcases before second right foundRight with empty | ⟨rightPass, oldRight, _, rightFewer⟩
    · rw [empty] at inRight
      exact absurd inRight List.not_mem_nil
    exact exclusive.apart first second leftPass rightPass different oldLeft oldRight id
      (leftFewer.subset member) (rightFewer.subset inRight)
  · intro other later found
    rcases before other later found with empty | ⟨pass, foundPass, _, fewer⟩
    · rw [empty]
      exact List.nodup_nil
    · exact (exclusive.distinct other pass foundPass).sublist fewer

/-- After a pass dropped the head of its batch, nobody holds that event. -/
theorem Exclusive.not_holds_head (exclusive : Exclusive fleet) {process : ι} {pass : Pass}
    (found : fleet.passes process = some pass) {id : Id} {rest : List Id}
    (batch : pass.phase.batch = id :: rest) {next : Option Pass}
    (dropped : ∀ later, next = some later → later.phase.batch = rest) :
    ¬(fleet.put process next).Holds id := by
  rintro ⟨other, later, foundOther, member⟩
  by_cases own : other = process
  · subst own
    rw [put_passes_self] at foundOther
    rw [dropped later foundOther] at member
    have distinct := exclusive.distinct other pass found
    rw [batch, List.nodup_cons] at distinct
    exact distinct.1 member
  · rw [put_passes_of_ne _ own] at foundOther
    refine exclusive.apart other process later pass own foundOther found id member ?_
    rw [batch]
    exact List.mem_cons_self

/-- A pass finishes the event at the head of its batch: it updates the row and goes on. -/
theorem Exclusive.finishHead (exclusive : Exclusive fleet) {process : ι} {pass : Pass}
    (found : fleet.passes process = some pass) {id : Id} {rest : List Id}
    (batch : pass.phase.batch = id :: rest) (columns : OutboxColumns) {next : Option Pass}
    (shrinks : fleet.Shrinks process next)
    (dropped : ∀ later, next = some later → later.phase.batch = rest)
    (accepted : acceptsAll (S := Database) [.update .outbox id columns] fleet.db = true) :
    Exclusive { (fleet.put process next) with
      db := replay (S := Database) [.update .outbox id columns] fleet.db } := by
  have free := exclusive.not_holds_head found batch dropped
  refine (exclusive.put shrinks).move (Layout.Integrity.replay exclusive.integrity accepted) ?_
  intro other row holds foundRow
  refine (Db.find_update_of_ne columns fun same => ?_).trans foundRow
  exact free (same ▸ holds)

/-- Claimed events are new to everybody. -/
theorem Exclusive.claim (exclusive : Exclusive fleet) {process : ι} {workerId : String}
    {limit : Nat} (found : fleet.passes process = some ⟨workerId, limit, .claiming⟩)
    (skipped : List Id)
    (accepted : acceptsAll (S := Database) (updates (fun row => row.claim workerId fleet.time)
      (fleet.db.claimable fleet.time skipped limit)) fleet.db = true) :
    Exclusive { (fleet.put process (some ⟨workerId, limit, .ready
        ((fleet.db.claimable fleet.time skipped limit).map
          (Event.ofClaim workerId fleet.time))⟩)) with
      db := replay (S := Database) (updates (fun row => row.claim workerId fleet.time)
        (fleet.db.claimable fleet.time skipped limit)) fleet.db } := by
  have ids : ((fleet.db.claimable fleet.time skipped limit).map
      (Event.ofClaim workerId fleet.time)).map Event.id =
      (fleet.db.claimable fleet.time skipped limit).map Outbox.id := by
    rw [List.map_map]
    rfl
  have integrity := exclusive.integrity
  have distinct := integrity.claimable_distinct fleet.time skipped limit
  have present : ∀ row ∈ fleet.db.claimable fleet.time skipped limit,
      fleet.db.find .outbox row.id = some row := fun row member =>
    integrity.find_eq_some (Db.mem_claimable member).1 rfl
  have fresh : ∀ id, fleet.Holds id →
      id ∉ (fleet.db.claimable fleet.time skipped limit).map Outbox.id := by
    intro id holds member
    obtain ⟨row, rowMember, rfl⟩ := List.mem_map.mp member
    obtain ⟨current, foundCurrent, claimed⟩ := exclusive.claimed_of_holds holds
    rw [present row rowMember, Option.some.injEq] at foundCurrent
    rw [← foundCurrent, (Db.mem_claimable rowMember).2.1] at claimed
    cases claimed
  have mine : ∀ other current id, other ≠ process → fleet.passes other = some current →
      id ∈ current.phase.batch → id ∉ ((fleet.db.claimable fleet.time skipped limit).map
        (Event.ofClaim workerId fleet.time)).map Event.id := by
    intro other current id different foundOther member
    rw [ids]
    exact fresh id ⟨other, current, foundOther, member⟩
  refine ⟨Layout.Integrity.replay integrity accepted, ?_, ?_, ?_⟩
  · intro other current foundOther id member
    by_cases own : other = process
    · subst own
      rw [put_passes_self, Option.some.injEq] at foundOther
      subst foundOther
      change id ∈ List.map Event.id (List.map _ _) at member
      rw [ids] at member
      obtain ⟨row, rowMember, rfl⟩ := List.mem_map.mp member
      refine ⟨_, find_replay_updates _ distinct present row rowMember, ?_, ?_⟩
      · exact assigned_getD row.status .claimed
      · exact assigned_getD row.claimedBy (some workerId)
    · rw [put_passes_of_ne _ own] at foundOther
      obtain ⟨row, foundRow, holds⟩ := exclusive.claimed other current foundOther id member
      refine ⟨row, ?_, holds⟩
      rw [find_replay_updates_of_notMem _ (fresh id ⟨other, current, foundOther, member⟩)]
      exact foundRow
  · intro first second left right different foundLeft foundRight id member inRight
    by_cases firstOwn : first = process
    · subst firstOwn
      rw [put_passes_self, Option.some.injEq] at foundLeft
      rw [put_passes_of_ne _ different.symm] at foundRight
      subst foundLeft
      exact mine second right id different.symm foundRight inRight member
    · rw [put_passes_of_ne _ firstOwn] at foundLeft
      by_cases secondOwn : second = process
      · subst secondOwn
        rw [put_passes_self, Option.some.injEq] at foundRight
        subst foundRight
        exact mine first left id different foundLeft member inRight
      · rw [put_passes_of_ne _ secondOwn] at foundRight
        exact exclusive.apart first second left right different foundLeft foundRight id member
          inRight
  · intro other current foundOther
    by_cases own : other = process
    · subst own
      rw [put_passes_self, Option.some.injEq] at foundOther
      subst foundOther
      change (List.map Event.id (List.map _ _)).Nodup
      rw [ids]
      exact distinct
    · rw [put_passes_of_ne _ own] at foundOther
      exact exclusive.distinct other current foundOther

/-- While only abandoned claims are reclaimed, a step keeps the claims exclusive. -/
theorem Exclusive.step {later : Fleet ι} {action : Action ι} (exclusive : Exclusive fleet)
    (abandoned : fleet.ReclaimsAbandoned action) (stepped : Stepped env fleet action later) :
    Exclusive later := by
  cases stepped with
  | tick => exact ⟨exclusive.integrity, exclusive.claimed, exclusive.apart, exclusive.distinct⟩
  | commit log queued accepted =>
      exact exclusive.move (Layout.Integrity.replay exclusive.integrity accepted)
        fun id row _ found => find_replay_queues queued found
  | opens =>
      refine exclusive.put ?_
      rintro _ ⟨⟩
      exact .inl rfl
  | reclaims process workerId limit stale found =>
      refine transact_cases (fun accepted => ?_) (exclusive.put (by rintro _ ⟨⟩))
      have dropped : Exclusive (fleet.put process (some ⟨workerId, limit, .claiming⟩)) := by
        refine exclusive.put ?_
        rintro _ ⟨⟩
        exact .inl rfl
      refine dropped.move (Layout.Integrity.replay exclusive.integrity accepted) ?_
      rintro id row ⟨other, pass, foundOther, member⟩ foundRow
      have free : id ∉ stale.map Outbox.id := by
        intro reclaimed
        obtain ⟨current, currentMember, rfl⟩ := List.mem_map.mp reclaimed
        refine (abandoned workerId limit stale found current currentMember).2 ?_
        by_cases own : other = process
        · subst own
          rw [put_passes_self, Option.some.injEq] at foundOther
          subst foundOther
          exact absurd member List.not_mem_nil
        · rw [put_passes_of_ne _ own] at foundOther
          exact ⟨other, pass, foundOther, member⟩
      exact (find_replay_updates_of_notMem Outbox.reclaim free fleet.db).trans foundRow
  | claims process skipped workerId limit found =>
      exact transact_cases (fun accepted => exclusive.claim found skipped accepted)
        (exclusive.put (by rintro _ ⟨⟩))
  | takes process workerId limit batch found => exact exclusive.put (take_shrinks found)
  | finishes process answers error workerId limit event rest found =>
      refine (exclusive.put (finish_shrinks answers error found)).move
        (exclusive.integrity.finish ..) fun id row _ foundRow => ?_
      unfold Db.find
      rw [show Db.rows (finish env answers error _ event rest fleet.db).1 .outbox =
        fleet.db.outbox from outbox_finish ..]
      exact foundRow
  | completes process error workerId limit event rest found =>
      refine transact_cases (fun accepted => ?_) (exclusive.put ?_)
      · refine exclusive.finishHead found rfl _ ?_ (by rintro _ ⟨⟩; rfl) accepted
        rintro _ ⟨⟩
        exact .inr ⟨_, found, rfl, List.sublist_cons_self _ _⟩
      · rintro _ ⟨⟩
        refine .inr ⟨_, found, rfl, ?_⟩
        simp [Phase.batch, Function.comp_def]
  | reloads process workerId limit id error rest found =>
      refine exclusive.put ?_
      intro later reloaded
      obtain ⟨row, stored, rfl⟩ := Option.map_eq_some_iff.mp reloaded
      refine .inr ⟨_, found, rfl, ?_⟩
      change List.Sublist (row.id :: rest.map Event.id) (id :: rest.map Event.id)
      rw [Option.some.inj (Db.find_mem stored).2]
  | retries process workerId limit event error rest found =>
      refine transact_cases (fun accepted => ?_) (exclusive.put (by rintro _ ⟨⟩))
      refine exclusive.finishHead found rfl _ ?_ (by rintro _ ⟨⟩; rfl) accepted
      rintro _ ⟨⟩
      exact .inr ⟨_, found, rfl, List.sublist_cons_self _ _⟩
  | crashes => exact exclusive.put (by rintro _ ⟨⟩)

/-! ## What is final -/

/-- A transaction keeps what is final when its commit does. -/
theorem KeepsFinal.transact (process : ι) {log : List Database.Write}
    (committed refused : Option Pass)
    (kept : KeepsFinal fleet.db (replay (S := Database) log fleet.db)) :
    KeepsFinal fleet.db (fleet.transact process log committed refused).db := by
  unfold Fleet.transact
  split
  · exact kept
  · exact .refl _

/-- While only abandoned claims are reclaimed, a step keeps what is final. -/
theorem Exclusive.keepsFinal {later : Fleet ι} {action : Action ι} (exclusive : Exclusive fleet)
    (abandoned : fleet.ReclaimsAbandoned action) (stepped : Stepped env fleet action later) :
    KeepsFinal fleet.db later.db := by
  cases stepped with
  | tick => exact .refl _
  | commit log queued accepted =>
      exact fun id row found _ => ⟨row, find_replay_queues queued found, rfl⟩
  | opens => exact .refl _
  | reclaims process workerId limit stale found =>
      refine KeepsFinal.transact process _ _ ?_
      refine keepsFinal_updates Outbox.reclaim fun row member => ?_
      obtain ⟨current, foundCurrent, claimed⟩ := (abandoned workerId limit stale found row member).1
      exact ⟨current, foundCurrent, by simp [claimed, OutboxStatus.Final]⟩
  | claims process skipped workerId limit found =>
      refine KeepsFinal.transact process _ _ ?_
      refine keepsFinal_updates (fun row => row.claim workerId fleet.time) fun row member => ?_
      obtain ⟨stored, waiting, _⟩ := Db.mem_claimable member
      refine ⟨row, exclusive.integrity.find_eq_some stored rfl, ?_⟩
      simp [waiting, OutboxStatus.Final]
  | takes => exact .refl _
  | finishes process answers error workerId limit event rest found =>
      intro id row foundRow _
      refine ⟨row, ?_, rfl⟩
      unfold Db.find
      rw [show Db.rows (finish env answers error _ event rest fleet.db).1 .outbox =
        fleet.db.outbox from outbox_finish ..]
      exact foundRow
  | completes process error workerId limit event rest found =>
      exact KeepsFinal.transact process _ _ (exclusive.keepsFinal_head found rfl Outbox.complete)
  | reloads => exact .refl _
  | retries process workerId limit event error rest found =>
      exact KeepsFinal.transact process _ _
        (exclusive.keepsFinal_head found rfl (Outbox.retry env fleet.time error))
  | crashes => exact .refl _

/-! ## Whole runs -/

/-- A run that reclaims only abandoned claims keeps the claims exclusive. -/
theorem Exclusive.reachable {last : Fleet ι} (exclusive : Exclusive fleet)
    (reached : Reachable env ReclaimsAbandoned fleet last) : Exclusive last := by
  induction reached with
  | refl => exact exclusive
  | tail _ moved inductionHypothesis =>
      obtain ⟨action, abandoned, taken⟩ := moved
      exact inductionHypothesis.step abandoned (stepped taken)

/-- A run that reclaims only abandoned claims keeps what is final. -/
theorem Exclusive.keepsFinal_reachable {last : Fleet ι} (exclusive : Exclusive fleet)
    (reached : Reachable env ReclaimsAbandoned fleet last) : KeepsFinal fleet.db last.db := by
  induction reached with
  | refl => exact .refl _
  | tail earlier moved inductionHypothesis =>
      obtain ⟨action, abandoned, taken⟩ := moved
      exact inductionHypothesis.trans
        ((exclusive.reachable earlier).keepsFinal abandoned (stepped taken))

end Fleet

end ControlPlane
