import ControlPlane.Library.Fates
import ControlPlane.Library.Growth

/-!
# What the statements about a table make of its rows

The rows of a table after a log depend on the statements of the log that write
the table. Where these assign columns of one row, or insert one row, the rows
afterwards are known.
-/

namespace ReadCommitted.Layout

variable {L : Layout} {Query : Type} {Answer : Query → Type}

/-- The statements of a log that write a table. -/
def about (table : L.Table) (log : List L.Statement) : List L.Statement :=
  log.filter fun statement => statement.table = table

variable {table : L.Table}

/-- Assign the columns of several statements, oldest first. -/
def changes (assigned : List (L.Change table)) (row : L.Row table) : L.Row table :=
  assigned.foldl (fun row columns => L.change columns row) row

@[simp] theorem changes_nil (row : L.Row table) : changes [] row = row := rfl

@[simp] theorem changes_cons (columns : L.Change table) (assigned : List (L.Change table))
    (row : L.Row table) :
    changes (columns :: assigned) row = changes assigned (L.change columns row) := rfl

theorem changes_append (early late : List (L.Change table)) (row : L.Row table) :
    changes (early ++ late) row = changes late (changes early row) :=
  List.foldl_append ..

/-- A table that a log does not write stays as it is. -/
theorem rows_replay_of_untouched {log : List L.Statement} (untouched : about table log = [])
    (store : L.Store) : L.rows (replay (S := L.schema Query Answer) log store) table =
      L.rows store table := by
  have off : ∀ statement ∈ log, table ≠ statement.table := fun statement member own =>
    List.filter_eq_nil_iff.mp untouched statement member (decide_eq_true own.symm)
  have grows : Grows table log := fun statement member own => absurd own (off statement member)
  rw [grows.rows_replay store, insertedRows_eq_nil table off, List.append_nil]

/-- A table into which a log inserts one row. -/
theorem rows_replay_of_insert {log : List L.Statement} {row : L.Row table}
    (inserts : about table log = [.insert table row]) (store : L.Store) :
    L.rows (replay (S := L.schema Query Answer) log store) table =
      L.rows store table ++ [row] := by
  have picks : ∀ statement : L.Statement, table = statement.table →
      decide (statement.table = table) = true := fun _ own => decide_eq_true own.symm
  have grows : Grows table (about table log) := by
    rw [inserts]
    intro statement member _
    exact ⟨row, List.mem_singleton.mp member⟩
  have inserted := insertedRows_filter picks log
  unfold about at inserts
  rw [inserts, insertedRows, List.filterMap_cons, insertedRow_insert] at inserted
  rw [(grows.of_filter picks).rows_replay store, ← inserted]
  rfl

/-- A table of which a log assigns columns of one row. -/
theorem rows_replay_of_updates {log : List L.Statement} {key : L.Key table}
    {assigned : List (L.Change table)}
    (updates : about table log = assigned.map (.update table key ·)) (store : L.Store) :
    L.rows (replay (S := L.schema Query Answer) log store) table =
      (L.rows store table).map fun row =>
        if L.key row = some key then changes assigned row else row := by
  induction log generalizing assigned store with
  | nil =>
      obtain rfl := List.map_eq_nil_iff.mp updates.symm
      simp only [changes_nil, ite_self, List.map_id']
      rfl
  | cons statement log inductionHypothesis =>
      unfold about at updates
      by_cases own : statement.table = table
      · rw [List.filter_cons, if_pos (decide_eq_true own)] at updates
        cases assigned with
        | nil => exact absurd updates (List.cons_ne_nil _ _)
        | cons columns assigned =>
            obtain ⟨rfl, rest⟩ := List.cons.inj updates
            refine (inductionHypothesis rest
              ((Statement.update table key columns).apply store)).trans ?_
            rw [Statement.rows_apply_update, List.map_map]
            refine List.map_congr_left fun row _ => ?_
            unfold Function.comp amend
            by_cases its : L.key row = some key
            · simp only [if_pos its, L.key_change, changes_cons]
            · simp only [if_neg its]
      · rw [List.filter_cons, if_neg (by simpa using own)] at updates
        refine (inductionHypothesis updates (statement.apply store)).trans ?_
        rw [Statement.rows_apply_of_ne store (Ne.symm own)]

/-- A row that a log inserts is there afterwards, related to how it was inserted. -/
theorem fate_inserted {motive : L.Row table → L.Row table → Prop} (refl : ∀ row, motive row row)
    (trans : ∀ {first second third}, motive first second → motive second third →
      motive first third)
    {log : List L.Statement} {row : L.Row table} (inserted : .insert table row ∈ log)
    (lasting : ∀ key, .delete table key ∉ log)
    (moves : ∀ key columns, .update table key columns ∈ log → ∀ row, L.key row = some key →
      motive row (L.change columns row)) (store : L.Store) :
    ∃ later ∈ L.rows (replay (S := L.schema Query Answer) log store) table, motive row later := by
  obtain ⟨first, last, rfl⟩ := List.append_of_mem inserted
  have here : row ∈ L.rows ((Statement.insert table row).apply
      (replay (S := L.schema Query Answer) first store)) table := by
    rw [Statement.rows_apply_insert]
    exact List.mem_append_right _ (List.mem_singleton_self row)
  rw [replay_append, replay_cons]
  exact fate_replay refl trans
    (fun key among => absurd
      (List.mem_append_right first (List.mem_cons_of_mem _ among)) (lasting key))
    (fun key columns among => moves key columns
      (List.mem_append_right first (List.mem_cons_of_mem _ among))) here

end ReadCommitted.Layout
