import ControlPlane.Ledger.Runs
import ControlPlane.Metering.Traces
import ControlPlane.Upholding

/-!
# Sessions that observe readings

A session that finds a checkpoint locks its row, so what it read of the row and
assigned to it is what its commit writes. The rows of one observation are due
together: the checkpoint and the usage rows agree again after the last of them.
-/

namespace ControlPlane

open ReadCommitted Orm

/-! ## The agreement -/

/-- Every commit leaves the metering of each binding proper. -/
def meteringAgreement (proper : Gauge → Prop) : Agreement Database where
  inv db := ∀ bindingId, proper (gaugeOf bindingId db)
  le _ _ := True
  commit _ log db := acceptsAll (S := Database) log db = true ∧
    ∀ bindingId, proper (gaugeOf bindingId (replay (S := Database) log db))
  le_refl _ := trivial
  le_trans _ _ := trivial
  inv_replay _ committed _ := committed.2

/-- A statement that is not about checkpoints or usage rows. -/
def Unmetered (statement : Database.Write) : Prop := meters statement = false

/-- No checkpoint is deleted. -/
def KeepsCheckpoints (log : List Database.Write) : Prop :=
  ∀ key : Id, .delete .checkpoints key ∉ log

/-- The law of a session: what it wrote and recorded leaves the metering of each binding proper, if
the database accepts it. -/
def meteringLaw (proper : Gauge → Prop) : Law Database := fun _ log db =>
  KeepsCheckpoints log ∧ ∀ bindingId gauge,
    log.foldlM (Gauge.step bindingId) (gaugeOf bindingId db) = some gauge → proper gauge

/-- The law of a session that knows the checkpoint of a binding. -/
def seenLaw (bindingId : Id) (checkpoint : Checkpoint) : Law Database := fun _ log db =>
  ∀ gauge, log.foldlM (Gauge.step bindingId) (gaugeOf bindingId db) = some gauge →
    gauge.checkpoints = [checkpoint]

variable {proper : Gauge → Prop} {confirm : Int}

instance : (meteringAgreement proper).Shared where
  le_replay _ _ _ := trivial

instance : (meteringAgreement proper).Unrestricted := ⟨id⟩

instance : OffPanel (meteringAgreement proper) := ⟨fun _ _ => trivial⟩

instance (query : Query) : (meteringAgreement proper).Asks query := ⟨trivial⟩

instance : (meteringAgreement proper).Sanctions Unmetered (meteringLaw proper) where
  held _ lawful := lawful
  benign {_ first last statement _} unmetered lawful := by
    refine ⟨fun key member => ?_, fun bindingId gauge folded => ?_⟩
    · rcases List.mem_append.mp member with early | late
      · exact lawful.1 key (List.mem_append_left _ early)
      · rcases List.mem_cons.mp late with rfl | late
        · cases unmetered
        · exact lawful.1 key (List.mem_append_right _ late)
    · rw [Gauge.foldlM_meters bindingId first last unmetered] at folded
      exact lawful.2 bindingId gauge folded
  nil inv := by
    refine ⟨fun _ => List.not_mem_nil, fun bindingId gauge folded => ?_⟩
    rw [← Option.some.inj folded]
    exact inv bindingId
  commit _ accepted lawful :=
    ⟨accepted, fun bindingId => lawful.2 bindingId _ (Gauge.foldlM_replay bindingId accepted)⟩

instance (bindingId : Id) (checkpoint : Checkpoint) :
    (seenLaw bindingId checkpoint).Tolerates Unmetered where
  held _ seen := seen
  benign unmetered seen gauge folded := by
    rw [Gauge.foldlM_meters bindingId _ _ unmetered] at folded
    exact seen gauge folded

instance : Admitted Unmetered .accounts := ⟨fun _ => rfl, fun _ _ => rfl⟩
instance : Admitted Unmetered .transactions := ⟨fun _ => rfl, fun _ _ => rfl⟩
instance : Admitted Unmetered .entries := ⟨fun _ => rfl, fun _ _ => rfl⟩
instance : Admitted Unmetered .outbox := ⟨fun _ => rfl, fun _ _ => rfl⟩

/-! ## The checkpoint that a session reads -/

/-- A binding has no second checkpoint. -/
theorem Gauge.step_single {bindingId : Id} {gauge next : Gauge} {statement : Database.Write}
    (single : gauge.checkpoints.length ≤ 1)
    (stepped : gauge.step bindingId statement = some next) : next.checkpoints.length ≤ 1 := by
  cases statement with
  | insert table row =>
      cases table with
      | checkpoints =>
          rw [Gauge.step_insert_checkpoint] at stepped
          split at stepped
          · split at stepped
            · rw [← Option.some.inj stepped]
              exact le_refl 1
            · cases stepped
          · rwa [← Option.some.inj stepped]
      | usages =>
          rw [Gauge.step_insert_usage] at stepped
          split at stepped <;> rwa [← Option.some.inj stepped]
      | _ => rwa [← Option.some.inj stepped]
  | update table key columns =>
      cases table with
      | checkpoints =>
          rw [Gauge.step_update_checkpoint] at stepped
          split at stepped
          · rw [← Option.some.inj stepped, List.length_map]
            exact single
          · rwa [← Option.some.inj stepped]
      | _ => rwa [← Option.some.inj stepped]
  | delete table key =>
      cases table with
      | checkpoints =>
          rw [Gauge.step_delete_checkpoint] at stepped
          rw [← Option.some.inj stepped]
          exact (List.length_filter_le _ _).trans single
      | _ => rwa [← Option.some.inj stepped]

theorem Gauge.foldlM_single {bindingId : Id} {gauge next : Gauge} {log : List Database.Write}
    (single : gauge.checkpoints.length ≤ 1)
    (folded : log.foldlM (Gauge.step bindingId) gauge = some next) :
    next.checkpoints.length ≤ 1 := by
  induction log generalizing gauge with
  | nil => rwa [← Option.some.inj folded]
  | cons statement log inductionHypothesis =>
      rw [List.foldlM_cons] at folded
      obtain ⟨middle, stepped, rest⟩ := Option.bind_eq_some_iff.mp folded
      exact inductionHypothesis (step_single single stepped) rest

/-- Assigning attributes leaves a checkpoint with its binding. -/
theorem dirtyCheckpoint_bindingId {rows : List Database.Write} {row : Checkpoint} {bindingId : Id}
    (own : row.bindingId = bindingId) : (dirtyCheckpoint rows row).bindingId = bindingId := by
  unfold dirtyCheckpoint
  refine List.foldlRecOn (motive := fun current : Checkpoint => current.bindingId = bindingId)
    rows _ own fun current same statement _ => ?_
  dsimp only
  split
  · split
    · exact same
    · exact same
  · exact same

/-- The attributes that a session assigned are those that its rows assign. -/
theorem Gauge.foldlM_dirty {rows : List Database.Write} (keeps : KeepsCheckpoints rows)
    {row : Checkpoint} {readings : List Usage} {gauge : Gauge}
    (folded : rows.foldlM (Gauge.step row.bindingId) ⟨[row], readings⟩ = some gauge) :
    gauge.checkpoints = [dirtyCheckpoint rows row] := by
  generalize own : row.bindingId = bindingId at folded
  induction rows generalizing row readings with
  | nil =>
      rw [← Option.some.inj folded]
      rfl
  | cons statement rows inductionHypothesis =>
      have later : KeepsCheckpoints rows := fun key member =>
        keeps key (List.mem_cons_of_mem _ member)
      rw [List.foldlM_cons] at folded
      obtain ⟨middle, stepped, rest⟩ := Option.bind_eq_some_iff.mp folded
      cases statement with
      | insert table other =>
          cases table with
          | checkpoints =>
              rw [Gauge.step_insert_checkpoint] at stepped
              split at stepped
              · rw [if_neg (List.cons_ne_nil _ _)] at stepped
                cases stepped
              · obtain rfl := Option.some.inj stepped
                exact inductionHypothesis later own rest
          | usages =>
              rw [Gauge.step_insert_usage] at stepped
              split at stepped
              · obtain rfl := Option.some.inj stepped
                exact inductionHypothesis later own rest
              · obtain rfl := Option.some.inj stepped
                exact inductionHypothesis later own rest
          | _ =>
              obtain rfl := Option.some.inj stepped
              exact inductionHypothesis later own rest
      | update table key columns =>
          cases table with
          | checkpoints =>
              rw [Gauge.step_update_checkpoint] at stepped
              unfold dirtyCheckpoint
              rw [List.foldl_cons]
              dsimp only
              rw [own]
              split at stepped
              · next same =>
                  obtain rfl := Option.some.inj stepped
                  rw [if_pos same]
                  refine inductionHypothesis later ?_ rest
                  exact own
              · next other =>
                  obtain rfl := Option.some.inj stepped
                  rw [if_neg other]
                  exact inductionHypothesis later own rest
          | _ =>
              obtain rfl := Option.some.inj stepped
              exact inductionHypothesis later own rest
      | delete table key =>
          cases table with
          | checkpoints => exact absurd List.mem_cons_self (keeps key)
          | _ =>
              obtain rfl := Option.some.inj stepped
              exact inductionHypothesis later own rest

section

variable {point : Point Database} {bindingId : Id}

/-- A session that holds the lock of a checkpoint knows what it will be. -/
theorem due_seen (tracked : Tracked confirm proper) {stored : Checkpoint}
    (due : Due (meteringAgreement proper) (meteringLaw proper) point)
    (locked : Locked point.held .checkpoints bindingId)
    (found : Db.find point.view .checkpoints bindingId = some stored) :
    stored.bindingId = bindingId ∧ Due (meteringAgreement proper) ((meteringLaw proper).both
      (seenLaw bindingId (dirtyCheckpoint point.pending stored))) point := by
  have own : stored.bindingId = bindingId := Option.some.inj (Db.find_mem found).2
  refine ⟨own, due.inv, due.covered, due.accepted, fun later rely => ⟨due.law later rely, ?_⟩⟩
  intro gauge folded
  rw [List.foldlM_append, Gauge.foldlM_replay bindingId (due.accepted later rely)] at folded
  have pending : KeepsCheckpoints point.pending := fun key member =>
    (due.law later rely).1 key (List.mem_append_right _ member)
  have single : (gaugeOf bindingId (replay (S := Database) point.log later)).checkpoints.length ≤ 1 :=
    Gauge.foldlM_single (tracked.single (rely.inv bindingId))
      (Gauge.foldlM_replay bindingId (due.accepted later rely))
  have there : stored ∈
      (gaugeOf bindingId (replay (S := Database) point.log later)).checkpoints := by
    have same := locked.find_eq due.covered rely
    refine List.mem_filter.mpr ⟨?_, decide_eq_true own⟩
    exact (Db.find_mem (same.trans found)).1
  have only : (gaugeOf bindingId (replay (S := Database) point.log later)).checkpoints =
      [stored] := by
    generalize (gaugeOf bindingId (replay (S := Database) point.log later)).checkpoints = rows
      at single there
    match rows, single, there with
    | [row], _, there => rw [List.mem_singleton.mp there]
    | first :: second :: rows, single, _ => exact absurd single (by simp)
  have shape : gaugeOf bindingId (replay (S := Database) point.log later) =
      ⟨[stored], (gaugeOf bindingId (replay (S := Database) point.log later)).readings⟩ := by
    rw [← only]
  rw [shape] at folded
  subst own
  exact Gauge.foldlM_dirty pending folded

/-- Reading a checkpoint for an update. -/
theorem wp_lockedCheckpoint_bind (tracked : Tracked confirm proper) {rest : Option Checkpoint → Op α}
    {post : Except Failure α → Point Database → Prop}
    (due : Due (meteringAgreement proper) (meteringLaw proper) point)
    (absent : ∀ later, Due (meteringAgreement proper) (meteringLaw proper) later →
      (rest none).wp (meteringAgreement proper) post later)
    (present : ∀ later checkpoint, checkpoint.bindingId = bindingId →
      Due (meteringAgreement proper)
        ((meteringLaw proper).both (seenLaw bindingId checkpoint)) later →
        (rest (some checkpoint)).wp (meteringAgreement proper) post later) :
    (lockedCheckpoint bindingId >>= rest).wp (meteringAgreement proper) post point := by
  unfold lockedCheckpoint
  rw [wp_bind, wp_getForUpdate_bind]
  intro seen rely
  refine ⟨fun _ => absent _ (due.rely rely), fun _ _ granted moved later last => ?_⟩
  have locked := (((due.rely rely).rely moved).acquire Unmetered
    (rowLocks .checkpoints bindingId (replay (S := Database) point.log granted))).rely last
  cases found : Db.find (replay (S := Database) point.log later) .checkpoints bindingId with
  | none => exact absent _ locked
  | some stored =>
      obtain ⟨own, known⟩ := due_seen tracked locked (.forUpdate ..) found
      exact present _ (dirtyCheckpoint point.pending stored) (dirtyCheckpoint_bindingId own) known

/-! ## One observation -/

/-- The rows that an observation records for a binding that has a checkpoint. -/
def observed (bindingId : Id) (columns : CheckpointColumns) (row : Usage) : List Database.Write :=
  [.update .checkpoints bindingId columns, .insert .usages row]

/-- Two statements, one after the other. -/
theorem Gauge.foldlM_pair (other : Id) (gauge : Gauge) (first second : Database.Write) :
    [first, second].foldlM (Gauge.step other) gauge =
      (gauge.step other first).bind fun middle => middle.step other second := by
  rw [List.foldlM_cons]
  congr 1
  funext middle
  rw [List.foldlM_cons]
  exact bind_pure _

/-- What the rows of an observation do to the metering of a binding. -/
theorem Gauge.foldlM_observed {columns : CheckpointColumns} {row : Usage}
    (own : row.bindingId = bindingId) (other : Id) (gauge : Gauge) :
    (observed bindingId columns row).foldlM (Gauge.step other) gauge =
      some (if bindingId = other then
        ⟨gauge.checkpoints.map (@Table.change .checkpoints columns), gauge.readings ++ [row]⟩
      else gauge) := by
  rw [observed, Gauge.foldlM_pair, Gauge.step_update_checkpoint]
  by_cases same : bindingId = other
  · rw [if_pos same, if_pos same, Option.bind_some, Gauge.step_insert_usage,
      if_pos (own.trans same)]
  · rw [if_neg same, if_neg same, Option.bind_some, Gauge.step_insert_usage,
      if_neg fun equal => same (own.symm.trans equal)]

/-- A session records rows about one binding that keep its metering proper. -/
theorem due_moves {law : Law Database} {rows : List Database.Write}
    (due : Due (meteringAgreement proper) ((meteringLaw proper).both law) point)
    (keeps : KeepsCheckpoints rows)
    (elsewhere : ∀ other ≠ bindingId, ∀ gauge, rows.foldlM (Gauge.step other) gauge = some gauge)
    (here : ∀ later gauge next,
      law point.held (point.log ++ point.pending) later → proper gauge →
      (point.log ++ point.pending).foldlM (Gauge.step bindingId) (gaugeOf bindingId later) =
        some gauge →
      rows.foldlM (Gauge.step bindingId) gauge = some next → proper next) :
    Due (meteringAgreement proper) (meteringLaw proper)
      { point with pending := point.pending ++ rows } := by
  refine due.extend rows fun later _ kept => ⟨fun key member => ?_, fun other next folded => ?_⟩
  · rcases List.mem_append.mp member with old | new
    · exact kept.1.1 key old
    · exact keeps key new
  · rw [List.foldlM_append] at folded
    obtain ⟨gauge, before, moved⟩ := Option.bind_eq_some_iff.mp folded
    have well := kept.1.2 other gauge before
    by_cases same : other = bindingId
    · subst same
      exact here later gauge next kept.2 well before moved
    · rw [elsewhere other same] at moved
      rwa [← Option.some.inj moved]

/-- The same where the session knows the checkpoint of the binding. -/
theorem due_moves_seen {checkpoint : Checkpoint} {rows : List Database.Write}
    (due : Due (meteringAgreement proper)
      ((meteringLaw proper).both (seenLaw bindingId checkpoint)) point)
    (keeps : KeepsCheckpoints rows)
    (elsewhere : ∀ other ≠ bindingId, ∀ gauge, rows.foldlM (Gauge.step other) gauge = some gauge)
    (here : ∀ readings next, proper ⟨[checkpoint], readings⟩ →
      rows.foldlM (Gauge.step bindingId) ⟨[checkpoint], readings⟩ = some next →
        proper next) :
    Due (meteringAgreement proper) (meteringLaw proper)
      { point with pending := point.pending ++ rows } := by
  refine due_moves due keeps elsewhere fun later gauge next seen kept before moved => ?_
  have shape : gauge = ⟨[checkpoint], gauge.readings⟩ := by
    rw [← seen gauge before]
  rw [shape] at kept moved
  exact here gauge.readings next kept moved

theorem keepsCheckpoints_observed (columns : CheckpointColumns) (row : Usage) :
    KeepsCheckpoints (observed bindingId columns row) := by
  intro key member
  simp [observed] at member

/-- The first reading of a binding. -/
theorem wp_observeBaseline (tracked : Tracked confirm proper) (data : UsageIn)
    (due : Due (meteringAgreement proper) (meteringLaw proper) point) :
    (observeBaseline data).wp (meteringAgreement proper)
      (fun _ later => Due (meteringAgreement proper) (meteringLaw proper) later) point := by
  unfold observeBaseline
  rw [wp_insert_bind, wp_insert_bind]
  have both : Due (meteringAgreement proper)
      ((meteringLaw proper).both fun _ _ _ => True) point :=
    ⟨due.inv, due.covered, due.accepted, fun later rely => ⟨due.law later rely, trivial⟩⟩
  change Due _ _ { point with pending := point.pending ++ [_] ++ [_] }
  rw [List.append_assoc, List.singleton_append]
  refine @due_moves _ _ data.bindingId _ _ both ?_ ?_ ?_
  · intro key member
    simp at member
  · intro other different gauge
    rw [Gauge.foldlM_pair, Gauge.step_insert_checkpoint, if_neg fun same => different same.symm,
      Option.bind_some, Gauge.step_insert_usage, if_neg fun same => different same.symm]
  · intro _ gauge next _ kept _ moved
    rw [Gauge.foldlM_pair, Gauge.step_insert_checkpoint, if_pos rfl] at moved
    split at moved
    · next vacant =>
        rw [Option.bind_some, Gauge.step_insert_usage, if_pos rfl, tracked.unmetered kept vacant]
          at moved
        rw [← Option.some.inj moved]
        exact tracked.baseline rfl rfl rfl
    · cases moved

/-- A value is returned after the last step. -/
theorem wp_return {law : Law Database} {program : Op Unit}
    (kept : program.wp (meteringAgreement proper)
      (fun _ later => Due (meteringAgreement proper) law later) point) (value : α) :
    (program >>= fun _ => pure value).wp (meteringAgreement proper)
      (fun _ later => Due (meteringAgreement proper) law later) point :=
  wp_seq _ kept (fun _ _ kept => kept) fun _ _ kept => kept

/-- A reading below the checkpoint. -/
theorem wp_observeRegression {env : Env} (tracked : Tracked env.resetConfirmReadings proper)
    {binding : Binding} {checkpoint : Checkpoint} (data : UsageIn)
    (below : data.lifetimeBytes < checkpoint.lifetimeBytes)
    (due : Due (meteringAgreement proper)
      ((meteringLaw proper).both (seenLaw binding.id checkpoint)) point) :
    (observeRegression env binding checkpoint data).wp
      (meteringAgreement proper)
      (fun _ later => Due (meteringAgreement proper)
        (meteringLaw proper) later) point := by
  let lower : Usage := ⟨binding.id, data.lifetimeBytes, 0, .regression, data.observedAt⟩
  let reset : Usage := ⟨binding.id, data.lifetimeBytes, 0, .resetBaseline, data.observedAt⟩
  let count : CheckpointColumns := { anomalyCount := some (checkpoint.anomalyCount + 1) }
  let start : CheckpointColumns :=
    { lifetimeBytes := some data.lifetimeBytes, observedAt := some data.observedAt
      anomalyCount := some 0 }
  have lowerOwn : lower.bindingId = binding.id := rfl
  have resetOwn : reset.bindingId = binding.id := rfl
  unfold observeRegression
  dsimp only
  rw [wp_assign_bind, wp_insert_bind]
  by_cases enough : env.resetConfirmReadings ≤ ((checkpoint.anomalyCount + 1 : Nat) : Int)
  · have recorded : Due (meteringAgreement proper)
        (meteringLaw proper)
        { point with pending := point.pending ++
            (observed binding.id count lower ++ observed binding.id start reset) } := by
      refine due_moves_seen due ?_ ?_ ?_
      · intro key member
        rcases List.mem_append.mp member with first | second
        · exact keepsCheckpoints_observed count lower key first
        · exact keepsCheckpoints_observed start reset key second
      · intro other different gauge
        rw [List.foldlM_append, Gauge.foldlM_observed lowerOwn, if_neg different.symm]
        change List.foldlM _ _ _ = _
        rw [Gauge.foldlM_observed resetOwn, if_neg different.symm]
      · intro readings next kept moved
        rw [List.foldlM_append, Gauge.foldlM_observed lowerOwn, if_pos rfl] at moved
        change List.foldlM _ _ _ = _ at moved
        rw [Gauge.foldlM_observed resetOwn, if_pos rfl] at moved
        rw [← Option.some.inj moved]
        exact tracked.reset kept rfl below rfl enough rfl rfl
    refine wp_return ?_ []
    refine (wp_when _ _ _).mpr ⟨fun _ => ?_, fun few => absurd enough few⟩
    rw [wp_assign_bind, wp_insert_bind]
    refine wp_sustains Unmetered _ ?_
    simpa [observed] using recorded
  · have recorded : Due (meteringAgreement proper)
        (meteringLaw proper)
        { point with pending := point.pending ++ observed binding.id count lower } := by
      refine due_moves_seen due (keepsCheckpoints_observed count lower) ?_ ?_
      · intro other different gauge
        rw [Gauge.foldlM_observed lowerOwn, if_neg different.symm]
      · intro readings next kept moved
        rw [Gauge.foldlM_observed lowerOwn, if_pos rfl] at moved
        rw [← Option.some.inj moved]
        exact tracked.regression kept rfl below rfl rfl (not_le.mp enough)
    refine wp_return ?_ []
    refine (wp_when _ _ _).mpr ⟨fun many => absurd many enough, fun _ => ?_⟩
    simpa [observed] using recorded

/-- A reading at or above the checkpoint. -/
theorem wp_observeAdvance (tracked : Tracked confirm proper) {binding : Binding}
    {checkpoint : Checkpoint}
    (data : UsageIn) (above : checkpoint.lifetimeBytes ≤ data.lifetimeBytes)
    (due : Due (meteringAgreement proper)
      ((meteringLaw proper).both (seenLaw binding.id checkpoint)) point) :
    (observeAdvance binding checkpoint data).wp (meteringAgreement proper)
      (fun _ later => Due (meteringAgreement proper) (meteringLaw proper) later) point := by
  unfold observeAdvance
  dsimp only
  refine wp_seq _ (wp_upholds Unmetered _ due) (fun panel _ due => ?_) fun _ _ kept => kept
  refine wp_seq _ (wp_upholds Unmetered _ due) (fun path _ due => ?_) fun _ _ kept => kept
  refine wp_seq _ (wp_upholds Unmetered _ due) (fun rows _ due => ?_) fun _ _ kept => kept
  refine wp_seq _ (wp_upholds Unmetered _ due) (fun _ later due => ?_) fun _ _ kept => kept
  rw [wp_assign_bind, wp_insert_bind]
  let start : CheckpointColumns :=
    { lifetimeBytes := some data.lifetimeBytes, observedAt := some data.observedAt
      anomalyCount := some 0 }
  let accepted : Usage := ⟨binding.id, data.lifetimeBytes,
    data.lifetimeBytes - checkpoint.lifetimeBytes, .accepted, data.observedAt⟩
  have own : accepted.bindingId = binding.id := rfl
  have recorded : Due (meteringAgreement proper) (meteringLaw proper)
      { later with pending := later.pending ++ observed binding.id start accepted } := by
    refine due_moves_seen due (keepsCheckpoints_observed start accepted) ?_ ?_
    · intro other different gauge
      rw [Gauge.foldlM_observed own, if_neg different.symm]
    · intro readings next kept moved
      rw [Gauge.foldlM_observed own, if_pos rfl] at moved
      rw [← Option.some.inj moved]
      exact tracked.accepted kept rfl above rfl rfl rfl
  unfold observed at recorded
  rw [← List.singleton_append, ← List.append_assoc] at recorded
  exact recorded

/-- An observation leaves the metering of each binding proper. -/
theorem observe_sustains {env : Env} (tracked : Tracked env.resetConfirmReadings proper)
    (data : UsageIn) :
    Sustains (meteringAgreement proper) Unmetered
      (meteringLaw proper) (observe env data) where
  sustains point due := by
    unfold observe
    refine wp_seq _ (wp_sustains Unmetered _ due) (fun row _ due => ?_) fun _ _ kept => kept
    refine wp_seq _ (wp_sustains Unmetered _ due) (fun binding _ due => ?_) fun _ _ kept => kept
    refine wp_lockedCheckpoint_bind tracked due (fun _ due => ?_) fun _ checkpoint _ due => ?_
    · exact wp_observeBaseline tracked data due
    · change wp _ (if data.lifetimeBytes < checkpoint.lifetimeBytes then _ else _) _ _
      split
      · next below => exact wp_observeRegression tracked data below due
      · next above => exact wp_observeAdvance tracked data (not_lt.mp above) due

end

end ControlPlane
