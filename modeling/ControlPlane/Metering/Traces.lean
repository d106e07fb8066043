import ControlPlane.Metering.Gauges

/-!
# The gauge of a binding in the database

The checkpoint and the usage rows of a binding follow the statements that the
database accepts. It accepts one checkpoint for a binding, usage rows are only
added, and statements about other tables do not matter.
-/

namespace ControlPlane

open ReadCommitted

/-- The metering of a binding in a database. -/
def gaugeOf (bindingId : Id) (db : Db) : Gauge :=
  ⟨db.checkpoints.filter fun row => row.bindingId = bindingId,
    db.usages.filter fun row => row.bindingId = bindingId⟩

/-- Statements about checkpoints and usage rows. Nothing deletes a usage row by its key. -/
def meters : Database.Write → Bool
  | .insert .checkpoints _ | .update .checkpoints _ _ | .delete .checkpoints _ => true
  | .insert .usages _ => true
  | _ => false

/-- What an accepted statement does to the metering of a binding. -/
def Gauge.step (bindingId : Id) (gauge : Gauge) : Database.Write → Option Gauge
  | .insert .checkpoints row =>
      if row.bindingId = bindingId then
        if gauge.checkpoints = [] then some { gauge with checkpoints := [row] } else none
      else some gauge
  | .update .checkpoints key columns =>
      if key = bindingId then
        some { gauge with
          checkpoints := gauge.checkpoints.map (@Table.change .checkpoints columns) }
      else some gauge
  | .delete .checkpoints key =>
      some { gauge with checkpoints := gauge.checkpoints.filter fun row => row.bindingId ≠ key }
  | .insert .usages row =>
      if row.bindingId = bindingId then some { gauge with readings := gauge.readings ++ [row] }
      else some gauge
  | _ => some gauge

theorem Gauge.step_insert_checkpoint (bindingId : Id) (gauge : Gauge) (row : Checkpoint) :
    gauge.step bindingId (.insert .checkpoints row) =
      if row.bindingId = bindingId then
        if gauge.checkpoints = [] then some { gauge with checkpoints := [row] } else none
      else some gauge := rfl

theorem Gauge.step_update_checkpoint (bindingId key : Id) (gauge : Gauge)
    (columns : CheckpointColumns) :
    gauge.step bindingId (.update .checkpoints key columns) =
      if key = bindingId then
        some { gauge with
          checkpoints := gauge.checkpoints.map (@Table.change .checkpoints columns) }
      else some gauge := rfl

theorem Gauge.step_delete_checkpoint (bindingId key : Id) (gauge : Gauge) :
    gauge.step bindingId (.delete .checkpoints key) =
      some { gauge with checkpoints := gauge.checkpoints.filter fun row => row.bindingId ≠ key } :=
  rfl

theorem Gauge.step_insert_usage (bindingId : Id) (gauge : Gauge) (row : Usage) :
    gauge.step bindingId (.insert .usages row) =
      if row.bindingId = bindingId then some { gauge with readings := gauge.readings ++ [row] }
      else some gauge := rfl

/-- Other statements leave the metering alone. -/
theorem Gauge.step_of_unmetered {statement : Database.Write}
    (unmetered : meters statement = false) (bindingId : Id) (gauge : Gauge) :
    gauge.step bindingId statement = some gauge := by
  cases statement with
  | insert table row =>
      cases table with
      | checkpoints => cases unmetered
      | usages => cases unmetered
      | _ => rfl
  | update table key columns =>
      cases table with
      | checkpoints => cases unmetered
      | _ => rfl
  | delete table key =>
      cases table with
      | checkpoints => cases unmetered
      | _ => rfl

/-- Only the statements about checkpoints and usage rows count. -/
theorem Gauge.foldlM_meters (bindingId : Id) (first last : List Database.Write)
    {statement : Database.Write} (unmetered : meters statement = false) (gauge : Gauge) :
    (first ++ statement :: last).foldlM (Gauge.step bindingId) gauge =
      (first ++ last).foldlM (Gauge.step bindingId) gauge := by
  rw [List.foldlM_append, List.foldlM_append]
  congr 1
  funext middle
  rw [List.foldlM_cons, step_of_unmetered unmetered]
  rfl

/-- The first checkpoint of a binding is the only one. -/
theorem unmetered_of_accepts {row : Checkpoint} {db : Db}
    (accepted : Layout.Statement.accepts (L := layout) (.insert .checkpoints row) db = true) :
    (gaugeOf row.bindingId db).checkpoints = [] := by
  refine List.filter_eq_nil_iff.mpr fun other member same => ?_
  exact Layout.Statement.unused_of_accepts accepted rfl other member
    (congrArg some (of_decide_eq_true same))

/-- Assigning columns of a checkpoint leaves it with its binding. -/
theorem gaugeOf_update (bindingId key : Id) (columns : CheckpointColumns) (db : Db) :
    (gaugeOf bindingId
      ((Layout.Statement.update (L := layout) .checkpoints key columns).apply db)).checkpoints =
      if key = bindingId then
        (gaugeOf bindingId db).checkpoints.map (@Table.change .checkpoints columns)
      else (gaugeOf bindingId db).checkpoints := by
  change (db.checkpoints.map (@Layout.amend layout .checkpoints key
    columns)).filter _ = _
  rw [List.filter_map]
  have kept : ∀ row : Checkpoint,
      (@Layout.amend layout .checkpoints key columns row).bindingId =
        row.bindingId := by
    intro row
    unfold Layout.amend
    split <;> rfl
  have same : ((fun row : Checkpoint => decide (row.bindingId = bindingId)) ∘
      @Layout.amend layout .checkpoints key columns) =
        fun row => decide (row.bindingId = bindingId) := by
    funext row
    exact congrArg (fun own => decide (own = bindingId)) (kept row)
  rw [same]
  split
  · next own =>
      refine List.map_congr_left fun row member => ?_
      have its := of_decide_eq_true (List.mem_filter.mp member).2
      exact if_pos (congrArg some (its.trans own.symm))
  · next other =>
      conv_rhs => rw [← List.map_id (gaugeOf bindingId db).checkpoints]
      refine List.map_congr_left fun row member => ?_
      have its := of_decide_eq_true (List.mem_filter.mp member).2
      exact if_neg fun own => other ((Option.some.inj own).symm.trans its)

/-- Deleting checkpoints. -/
theorem gaugeOf_delete (bindingId key : Id) (db : Db) :
    (gaugeOf bindingId
      ((Layout.Statement.delete (L := layout) .checkpoints key).apply db)).checkpoints =
      (gaugeOf bindingId db).checkpoints.filter fun row => row.bindingId ≠ key := by
  have rows : Db.checkpoints ((Layout.Statement.delete (L := layout) .checkpoints key).apply db) =
      db.checkpoints.filter fun row => row.bindingId ≠ key := by
    refine Eq.trans (Layout.Statement.rows_apply_delete (L := layout) .checkpoints key db) ?_
    exact List.filter_congr fun row _ => by simp [layout, Table.primaryKey]
  unfold gaugeOf
  rw [show Db.checkpoints _ = _ from rows, List.filter_filter, List.filter_filter]
  exact List.filter_congr fun row _ => Bool.and_comm _ _

/-- A usage row has no key to be deleted by. -/
theorem usages_delete (key : Table.usages.Key) (db : Db) :
    Db.usages ((Layout.Statement.delete (L := layout) .usages key).apply db) = db.usages :=
  Eq.trans (Layout.Statement.rows_apply_delete (L := layout) .usages key db)
    (List.filter_eq_self.mpr fun _ _ => rfl)

/-- The metering follows the statements that are accepted. -/
theorem Gauge.step_gaugeOf {statement : Database.Write} {db : Db} (bindingId : Id)
    (accepted : Database.accepts statement db = true) :
    (gaugeOf bindingId db).step bindingId statement =
      some (gaugeOf bindingId (statement.apply db)) := by
  cases statement with
  | insert table row =>
      cases table with
      | checkpoints =>
          have rows : (gaugeOf bindingId ((Layout.Statement.insert (L := layout) .checkpoints
              row).apply db)).checkpoints = (gaugeOf bindingId db).checkpoints ++
                if row.bindingId = bindingId then [row] else [] := by
            refine (List.filter_append ..).trans ?_
            rw [List.filter_singleton, Bool.cond_decide]
            rfl
          rw [Gauge.step_insert_checkpoint]
          split
          · next own =>
              have vacant := unmetered_of_accepts accepted
              rw [own] at vacant
              rw [vacant, if_pos own] at rows
              rw [if_pos vacant]
              exact congrArg some (congrArg (Gauge.mk · _) rows.symm)
          · next other =>
              rw [if_neg other, List.append_nil] at rows
              exact congrArg some (congrArg (Gauge.mk · _) rows.symm)
      | usages =>
          have rows : (gaugeOf bindingId ((Layout.Statement.insert (L := layout) .usages
              row).apply db)).readings = (gaugeOf bindingId db).readings ++
                if row.bindingId = bindingId then [row] else [] := by
            refine (List.filter_append ..).trans ?_
            rw [List.filter_singleton, Bool.cond_decide]
            rfl
          rw [Gauge.step_insert_usage]
          split
          · next own =>
              rw [if_pos own] at rows
              exact congrArg some (congrArg (Gauge.mk _) rows.symm)
          · next other =>
              rw [if_neg other, List.append_nil] at rows
              exact congrArg some (congrArg (Gauge.mk _) rows.symm)
      | _ => rfl
  | update table key columns =>
      cases table with
      | checkpoints =>
          have rows := gaugeOf_update bindingId key columns db
          rw [Gauge.step_update_checkpoint]
          split
          · next own =>
              rw [if_pos own] at rows
              exact congrArg some (congrArg (Gauge.mk · _) rows.symm)
          · next other =>
              rw [if_neg other] at rows
              exact congrArg some (congrArg (Gauge.mk · _) rows.symm)
      | usages => exact columns.elim
      | _ => rfl
  | delete table key =>
      cases table with
      | checkpoints => exact congrArg some (congrArg (Gauge.mk · _) (gaugeOf_delete ..).symm)
      | usages =>
          refine congrArg some (congrArg (Gauge.mk _) ?_)
          rw [usages_delete]
      | _ => rfl

theorem Gauge.foldlM_replay {log : List Database.Write} {db : Db} (bindingId : Id)
    (accepted : acceptsAll (S := Database) log db = true) :
    log.foldlM (Gauge.step bindingId) (gaugeOf bindingId db) =
      some (gaugeOf bindingId (replay (S := Database) log db)) := by
  induction log generalizing db with
  | nil => rfl
  | cons statement log inductionHypothesis =>
      rw [acceptsAll_cons, Bool.and_eq_true] at accepted
      rw [List.foldlM_cons, step_gaugeOf bindingId accepted.1, replay_cons]
      exact inductionHypothesis accepted.2

/-- Usage rows are only added. -/
theorem Gauge.step_readings {bindingId : Id} {gauge next : Gauge} {statement : Database.Write}
    (stepped : gauge.step bindingId statement = some next) : gauge.readings <+: next.readings := by
  cases statement with
  | insert table row =>
      cases table with
      | checkpoints =>
          rw [Gauge.step_insert_checkpoint] at stepped
          split at stepped
          · split at stepped
            · obtain rfl := Option.some.inj stepped
              exact List.prefix_rfl
            · cases stepped
          · obtain rfl := Option.some.inj stepped
            exact List.prefix_rfl
      | usages =>
          rw [Gauge.step_insert_usage] at stepped
          split at stepped
          · obtain rfl := Option.some.inj stepped
            exact List.prefix_append _ _
          · obtain rfl := Option.some.inj stepped
            exact List.prefix_rfl
      | _ =>
          obtain rfl := Option.some.inj stepped
          exact List.prefix_rfl
  | update table key columns =>
      cases table with
      | checkpoints =>
          rw [Gauge.step_update_checkpoint] at stepped
          split at stepped
          · obtain rfl := Option.some.inj stepped
            exact List.prefix_rfl
          · obtain rfl := Option.some.inj stepped
            exact List.prefix_rfl
      | _ =>
          obtain rfl := Option.some.inj stepped
          exact List.prefix_rfl
  | delete table key =>
      cases table <;>
        (obtain rfl := Option.some.inj stepped
         exact List.prefix_rfl)

theorem Gauge.foldlM_readings {bindingId : Id} {gauge next : Gauge} {log : List Database.Write}
    (folded : log.foldlM (Gauge.step bindingId) gauge = some next) :
    gauge.readings <+: next.readings := by
  induction log generalizing gauge with
  | nil =>
      obtain rfl := Option.some.inj folded
      exact List.prefix_rfl
  | cons statement log inductionHypothesis =>
      rw [List.foldlM_cons] at folded
      obtain ⟨middle, stepped, rest⟩ := Option.bind_eq_some_iff.mp folded
      exact (step_readings stepped).trans (inductionHypothesis rest)

end ControlPlane
