import ControlPlane.Library.Relational

/-!
# Tables that only grow

Where a log only inserts rows into a table, the table grows by what the log
inserts.
-/

namespace ReadCommitted.Layout

variable {L : Layout} (table : L.Table)

/-- The row that a statement inserts into a table. -/
def insertedRow : L.Statement → Option (L.Row table)
  | .insert other row => if same : other = table then some (same ▸ row) else none
  | _ => none

/-- The rows that a log inserts into a table, oldest first. -/
def insertedRows (log : List L.Statement) : List (L.Row table) :=
  log.filterMap (insertedRow table)

@[simp] theorem insertedRow_insert (row : L.Row table) :
    insertedRow table (.insert table row) = some row := by
  simp [insertedRow]

theorem insertedRow_of_ne {statement : L.Statement} (different : table ≠ statement.table) :
    insertedRow table statement = none := by
  cases statement with
  | insert other row =>
      unfold insertedRow
      exact dif_neg (Ne.symm different)
  | update other key columns => rfl
  | delete other key => rfl

/-- The statements of a log that write a table insert rows into it. -/
def Grows (log : List L.Statement) : Prop :=
  ∀ statement ∈ log, table = statement.table → ∃ row, statement = .insert table row

@[simp] theorem insertedRows_append (first last : List L.Statement) :
    insertedRows table (first ++ last) = insertedRows table first ++ insertedRows table last :=
  List.filterMap_append

@[simp] theorem insertedRows_map (rows : List (L.Row table)) :
    insertedRows table (rows.map (.insert table ·)) = rows := by
  simp [insertedRows, List.filterMap_map]

theorem insertedRows_eq_nil {log : List L.Statement}
    (off : ∀ statement ∈ log, table ≠ statement.table) : insertedRows table log = [] :=
  List.filterMap_eq_nil_iff.mpr fun statement member =>
    insertedRow_of_ne table (off statement member)

variable {table}

/-- What a log inserts into a table stands among the statements that are picked, where these
include all statements that write the table. -/
theorem insertedRows_filter {picked : L.Statement → Bool}
    (picks : ∀ statement, table = statement.table → picked statement = true)
    (log : List L.Statement) : insertedRows table (log.filter picked) = insertedRows table log := by
  unfold insertedRows
  rw [List.filterMap_filter]
  refine List.filterMap_congr fun statement _ => ?_
  by_cases written : table = statement.table
  · rw [if_pos (picks statement written)]
  · rw [insertedRow_of_ne table written]
    exact ite_self none

/-- A table grows where the picked statements only insert rows into it. -/
theorem Grows.of_filter {picked : L.Statement → Bool}
    (picks : ∀ statement, table = statement.table → picked statement = true)
    {log : List L.Statement} (grows : Grows table (log.filter picked)) : Grows table log :=
  fun statement member written =>
    grows statement (List.mem_filter.mpr ⟨member, picks statement written⟩) written

variable {Query : Type} {Answer : Query → Type}

/-- A table grows by what a log inserts. -/
theorem Grows.rows_replay {log : List L.Statement} (grows : Grows table log) (store : L.Store) :
    L.rows (replay (S := L.schema Query Answer) log store) table =
      L.rows store table ++ insertedRows table log := by
  induction log generalizing store with
  | nil => exact (List.append_nil _).symm
  | cons statement log inductionHypothesis =>
      have tail : Grows table log := fun other member => grows other (List.mem_cons_of_mem _ member)
      have step : L.rows (statement.apply store) table =
          L.rows store table ++ insertedRows table [statement] := by
        by_cases written : table = statement.table
        · obtain ⟨row, rfl⟩ := grows statement List.mem_cons_self written
          rw [Statement.rows_apply_insert, insertedRows, List.filterMap_cons, insertedRow_insert]
          rfl
        · rw [Statement.rows_apply_of_ne store written, insertedRows, List.filterMap_cons,
            insertedRow_of_ne table written]
          exact (List.append_nil _).symm
      have split := insertedRows_append table [statement] log
      rw [List.singleton_append] at split
      rw [split, ← List.append_assoc, ← step]
      exact inductionHypothesis tail (statement.apply store)

end ReadCommitted.Layout
