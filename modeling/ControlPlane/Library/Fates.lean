import ControlPlane.Library.Relational

/-!
# What becomes of a row

A statement leaves a row as it is, assigns some of its columns, or deletes it;
a row that is there after a statement was there before, was assigned, or was
inserted. What relates a row to what becomes of it is followed through a log.
-/

namespace ReadCommitted.Layout

variable {L : Layout} {table : L.Table}

namespace Statement

/-- What becomes of a row that is not deleted. -/
theorem fate {statement : L.Statement} {store : L.Store} {row : L.Row table}
    (member : row ∈ L.rows store table)
    (kept : ∀ key, statement = .delete table key → L.key row ≠ some key) :
    ∃ later ∈ L.rows (statement.apply store) table, later = row ∨
      ∃ key columns, statement = .update table key columns ∧ L.key row = some key ∧
        later = L.change columns row := by
  by_cases own : table = statement.table
  · cases statement with
    | insert other new =>
        obtain rfl : table = other := own
        refine ⟨row, ?_, .inl rfl⟩
        rw [rows_apply_insert]
        exact List.mem_append_left _ member
    | update other key columns =>
        obtain rfl : table = other := own
        refine ⟨amend key columns row, ?_, ?_⟩
        · rw [rows_apply_update]
          exact List.mem_map_of_mem member
        · unfold amend
          split
          · next same => exact .inr ⟨key, columns, rfl, same, rfl⟩
          · exact .inl rfl
    | delete other key =>
        obtain rfl : table = other := own
        refine ⟨row, ?_, .inl rfl⟩
        rw [rows_apply_delete]
        exact List.mem_filter.mpr ⟨member, decide_eq_true (kept key rfl)⟩
  · refine ⟨row, ?_, .inl rfl⟩
    rwa [rows_apply_of_ne store own]

/-- Where a row comes from. -/
theorem origin {statement : L.Statement} {store : L.Store} {later : L.Row table}
    (member : later ∈ L.rows (statement.apply store) table) :
    later ∈ L.rows store table ∨ statement = .insert table later ∨
      ∃ key columns, ∃ row ∈ L.rows store table, statement = .update table key columns ∧
        L.key row = some key ∧ later = L.change columns row := by
  by_cases own : table = statement.table
  · cases statement with
    | insert other new =>
        obtain rfl : table = other := own
        rw [rows_apply_insert] at member
        rcases List.mem_append.mp member with old | added
        · exact .inl old
        · rw [List.mem_singleton.mp added]
          exact .inr (.inl rfl)
    | update other key columns =>
        obtain rfl : table = other := own
        rw [rows_apply_update] at member
        obtain ⟨row, before, rfl⟩ := List.mem_map.mp member
        unfold amend
        split
        · next same => exact .inr (.inr ⟨key, columns, row, before, rfl, same, rfl⟩)
        · exact .inl before
    | delete other key =>
        obtain rfl : table = other := own
        rw [rows_apply_delete] at member
        exact .inl (List.mem_filter.mp member).1
  · rw [rows_apply_of_ne store own] at member
    exact .inl member

end Statement

section

variable {Query : Type} {Answer : Query → Type} {motive : L.Row table → L.Row table → Prop}

/-- A row that a log does not delete, and changes in no way that matters, is related to a row that
is there afterwards. -/
theorem fate_replay (refl : ∀ row, motive row row)
    (trans : ∀ {first second third}, motive first second → motive second third →
      motive first third)
    {log : List L.Statement} {store : L.Store} {row : L.Row table}
    (lasting : ∀ key, .delete table key ∈ log → L.key row ≠ some key)
    (changes : ∀ key columns, .update table key columns ∈ log → ∀ row, L.key row = some key →
      motive row (L.change columns row))
    (member : row ∈ L.rows store table) :
    ∃ later ∈ L.rows (replay (S := L.schema Query Answer) log store) table, motive row later := by
  induction log generalizing store row with
  | nil => exact ⟨row, member, refl row⟩
  | cons statement log inductionHypothesis =>
      obtain ⟨middle, present, moved⟩ := statement.fate member fun key same =>
        lasting key (same ▸ List.mem_cons_self)
      have own : L.key middle = L.key row := by
        rcases moved with rfl | ⟨key, columns, rfl, _, rfl⟩
        · rfl
        · exact L.key_change columns row
      obtain ⟨later, last, related⟩ := inductionHypothesis
        (fun key among => own ▸ lasting key (List.mem_cons_of_mem _ among))
        (fun key columns among => changes key columns (List.mem_cons_of_mem _ among)) present
      refine ⟨later, last, trans ?_ related⟩
      rcases moved with rfl | ⟨key, columns, rfl, its, rfl⟩
      · exact refl _
      · exact changes key columns List.mem_cons_self row its

/-- What holds of every row, of those that a log inserts, and of what it makes of a row for which
it holds, holds of every row that is there afterwards. -/
theorem every_replay {proper : L.Row table → Prop} {log : List L.Statement}
    (insertions : ∀ row, .insert table row ∈ log → proper row)
    (changes : ∀ key columns, .update table key columns ∈ log → ∀ row, L.key row = some key →
      proper row → proper (L.change columns row))
    {store : L.Store} (before : ∀ row ∈ L.rows store table, proper row) {later : L.Row table}
    (member : later ∈ L.rows (replay (S := L.schema Query Answer) log store) table) :
    proper later := by
  induction log generalizing store with
  | nil => exact before later member
  | cons statement log inductionHypothesis =>
      refine @inductionHypothesis
        (fun row among => insertions row (List.mem_cons_of_mem _ among))
        (fun key columns among => changes key columns (List.mem_cons_of_mem _ among))
        (statement.apply store) (fun row present => ?_) member
      rcases statement.origin present with old | rfl | ⟨key, columns, row, there, rfl, own, rfl⟩
      · exact before row old
      · exact insertions row List.mem_cons_self
      · exact changes key columns List.mem_cons_self row own (before row there)

/-- Rows that are there after a log whose statements do not insert rows are related to rows that
were there before. -/
theorem origin_replay (refl : ∀ row, motive row row)
    (trans : ∀ {first second third}, motive first second → motive second third →
      motive first third)
    {log : List L.Statement} (insertions : ∀ row, .insert table row ∉ log)
    (changes : ∀ key columns, .update table key columns ∈ log → ∀ row, L.key row = some key →
      motive row (L.change columns row))
    {store : L.Store} {later : L.Row table}
    (member : later ∈ L.rows (replay (S := L.schema Query Answer) log store) table) :
    ∃ row ∈ L.rows store table, motive row later := by
  induction log generalizing store with
  | nil => exact ⟨later, member, refl later⟩
  | cons statement log inductionHypothesis =>
      obtain ⟨middle, present, related⟩ := @inductionHypothesis
        (fun row among => insertions row (List.mem_cons_of_mem _ among))
        (fun key columns among => changes key columns (List.mem_cons_of_mem _ among))
        (statement.apply store) member
      rcases statement.origin present with old | rfl | ⟨key, columns, row, before, rfl, own, rfl⟩
      · exact ⟨middle, old, related⟩
      · exact absurd List.mem_cons_self (insertions middle)
      · exact ⟨row, before, trans (changes key columns List.mem_cons_self row own) related⟩

end

end ReadCommitted.Layout
