import ControlPlane.Library.ReadCommitted
import Mathlib.Data.List.Nodup
import Mathlib.Data.Sigma.Basic

/-!
# Relational layouts

A relational database is a family of tables with primary keys, unique indexes,
foreign keys and row checks, and three statements: insert a row, change the
columns of the rows with a given key, delete a row. Every layout gives a schema
for READ COMMITTED transactions: statements lock the rows they replace, the
entries of the unique indexes they occupy or vacate, and the keys they refer
to, so that what a constraint check has seen cannot change before the commit.
-/

namespace ReadCommitted

/-- The tables of a relational database with their columns and constraints. -/
structure Layout where
  Store : Type
  Table : Type
  Row : Table → Type
  /-- Values of the primary key. -/
  Key : Table → Type
  /-- Values of the further unique indexes. -/
  Entry : Table → Type
  /-- Assignments to columns. -/
  Change : Table → Type
  tables : List Table
  [decidableTable : DecidableEq Table]
  [decidableKey : (table : Table) → DecidableEq (Key table)]
  [decidableEntry : (table : Table) → DecidableEq (Entry table)]
  rows : Store → (table : Table) → List (Row table)
  put : (table : Table) → List (Row table) → Store → Store
  /-- The primary key, for the tables where it is modelled. -/
  key : {table : Table} → Row table → Option (Key table)
  /-- What a row occupies in the unique indexes; a partial index skips rows. -/
  entries : {table : Table} → Row table → List (Entry table)
  /-- The rows that a row refers to by foreign keys. -/
  parents : {table : Table} → Row table → List (Σ parent : Table, Key parent)
  /-- Column ranges and check constraints. -/
  valid : {table : Table} → Row table → Bool
  change : {table : Table} → Change table → Row table → Row table
  mem_tables : ∀ table, table ∈ tables
  rows_put_self : ∀ table list store, rows (put table list store) table = list
  rows_put_of_ne : ∀ {table other} list store, other ≠ table →
    rows (put table list store) other = rows store other
  key_change : ∀ {table} (columns : Change table) (row : Row table),
    key (change columns row) = key row

namespace Layout

variable {L : Layout}

instance : DecidableEq L.Table := L.decidableTable
instance (table : L.Table) : DecidableEq (L.Key table) := L.decidableKey table
instance (table : L.Table) : DecidableEq (L.Entry table) := L.decidableEntry table

/-- A writing statement. -/
inductive Statement (L : Layout)
  | insert (table : L.Table) (row : L.Row table)
  | update (table : L.Table) (key : L.Key table) (columns : L.Change table)
  | delete (table : L.Table) (key : L.Key table)

/-- What can be locked. -/
inductive Resource (L : Layout)
  /-- The columns of a row. -/
  | row (table : L.Table) (key : L.Key table)
  /-- The existence of a row, which foreign keys rely on. -/
  | key (table : L.Table) (key : L.Key table)
  /-- A value of a unique index. -/
  | unique (table : L.Table) (entry : L.Entry table)
  /-- The rows that refer to a row. -/
  | referrers (table : L.Table) (key : L.Key table)

/-- The rows with a given primary key; at most one in a database that keeps its constraints. -/
def keyed (L : Layout) (store : L.Store) (table : L.Table) (key : L.Key table) :
    List (L.Row table) :=
  (L.rows store table).filter fun row => L.key row = some key

/-- A row with the given primary key exists. -/
def has (L : Layout) (store : L.Store) (table : L.Table) (key : L.Key table) : Bool :=
  (L.rows store table).any fun row => L.key row = some key

/-- A row with the given key occupies an entry of the unique indexes. -/
def Occupies (L : Layout) (store : L.Store) (table : L.Table) (entry : L.Entry table)
    (key : L.Key table) : Prop :=
  ∃ row ∈ L.rows store table, L.key row = some key ∧ entry ∈ L.entries row

/-- A row with the given key refers to a row. -/
def Refers (L : Layout) (store : L.Store) (table : L.Table) (key : L.Key table)
    (child : Σ child : L.Table, Option (L.Key child)) : Prop :=
  ∃ row ∈ L.rows store child.1, L.key row = child.2 ∧ ⟨table, key⟩ ∈ L.parents row

/-- The protected content of a resource. -/
def Content (L : Layout) : L.Resource → Type
  | .row table _ => List (L.Row table)
  | .key _ _ => Bool
  | .unique table _ => L.Key table → Prop
  | .referrers _ _ => (Σ child : L.Table, Option (L.Key child)) → Prop

/-- The protected content of a resource in a store. -/
def content (L : Layout) : (resource : L.Resource) → L.Store → L.Content resource
  | .row table key, store => L.keyed store table key
  | .key table key, store => L.has store table key
  | .unique table entry, store => L.Occupies store table entry
  | .referrers table key, store => L.Refers store table key

section

variable {table : L.Table} {α : Type} [DecidableEq α]

/-- Assign columns in the rows with a given key. -/
def amend (key : L.Key table) (columns : L.Change table) (row : L.Row table) : L.Row table :=
  if L.key row = some key then L.change columns row else row

/-- What an assignment adds to a list derived from the row, if it changes that list. -/
def gained (derived : L.Row table → List α) (columns : L.Change table) (row : L.Row table) :
    List α :=
  if derived (L.change columns row) = derived row then [] else derived (L.change columns row)

/-- What an assignment removes from a list derived from the row, if it changes that list. -/
def lost (derived : L.Row table → List α) (columns : L.Change table) (row : L.Row table) :
    List α :=
  if derived (L.change columns row) = derived row then [] else derived row

/-- No other row than the own one occupies one of the entries. -/
def vacant (store : L.Store) (own : Option (L.Key table)) (entries : List (L.Entry table)) :
    Bool :=
  (L.rows store table).all fun row =>
    match L.key row with
    | none => true
    | some key => own = some key || entries.all fun entry => entry ∉ L.entries row

end

/-- Nothing refers to a row. -/
def unreferenced (store : L.Store) (table : L.Table) (key : L.Key table) : Bool :=
  L.tables.all fun child =>
    (L.rows store child).all fun row => ⟨table, key⟩ ∉ L.parents row

namespace Statement

/-- The effect of a statement. -/
def apply : L.Statement → L.Store → L.Store
  | .insert table row, store => L.put table (L.rows store table ++ [row]) store
  | .update table key columns, store =>
      L.put table ((L.rows store table).map (amend key columns)) store
  | .delete table key, store =>
      L.put table ((L.rows store table).filter fun row => L.key row ≠ some key) store

/-- The resources that a statement replaces. -/
def footprint : L.Statement → L.Store → List L.Resource
  | .insert table row, _ =>
      (L.key row).toList.flatMap (fun key => [.row table key, .key table key]) ++
        (L.entries row).map (.unique table)
  | .update table key columns, store =>
      .row table key :: ((L.keyed store table key).flatMap fun row =>
        lost L.entries columns row ++ gained L.entries columns row).map (.unique table)
  | .delete table key, store =>
      [.row table key, .key table key, .referrers table key] ++
        ((L.keyed store table key).flatMap L.entries).map (.unique table)

/-- The keys that a statement relies on. -/
def references : L.Statement → L.Store → List L.Resource
  | .insert _ row, _ => (L.parents row).map fun parent => .key parent.1 parent.2
  | .update table key columns, store =>
      ((L.keyed store table key).flatMap (gained L.parents columns)).map fun parent =>
        .key parent.1 parent.2
  | .delete _ _, _ => []

/-- The rows that a statement refers to in a new way, or no longer. -/
def additions : L.Statement → L.Store → List L.Resource
  | .insert _ row, _ => (L.parents row).map fun parent => .referrers parent.1 parent.2
  | .update table key columns, store =>
      ((L.keyed store table key).flatMap fun row =>
        lost L.parents columns row ++ gained L.parents columns row).map fun parent =>
          .referrers parent.1 parent.2
  | .delete table key, store =>
      ((L.keyed store table key).flatMap L.parents).map fun parent =>
        .referrers parent.1 parent.2

/-- The constraints that are checked when a statement is executed. -/
def accepts : L.Statement → L.Store → Bool
  | .insert table row, store =>
      L.valid row && (L.key row).all (fun key => !L.has store table key) &&
        vacant store (L.key row) (L.entries row) &&
        (L.parents row).all fun parent => L.has store parent.1 parent.2
  | .update table key columns, store =>
      L.has store table key && (L.keyed store table key).all fun row =>
        L.valid (L.change columns row) &&
          vacant store (some key) (gained L.entries columns row) &&
          (gained L.parents columns row).all fun parent => L.has store parent.1 parent.2
  | .delete table key, store => L.has store table key && unreferenced store table key

/-- The part of the constraints that unique indexes check. -/
def unoccupied : L.Statement → L.Store → Bool
  | .insert _ row, store => vacant store (L.key row) (L.entries row)
  | .update table key columns, store =>
      (L.keyed store table key).all fun row =>
        vacant store (some key) (gained L.entries columns row)
  | .delete _ _, _ => true

end Statement

/-! ## The schema of a layout -/

@[simp] theorem key_amend {table : L.Table} (key : L.Key table) (columns : L.Change table)
    (row : L.Row table) : L.key (amend key columns row) = L.key row := by
  unfold amend
  split
  · exact L.key_change columns row
  · rfl

theorem vacant_iff {table : L.Table} {store : L.Store} {own : Option (L.Key table)}
    {entries : List (L.Entry table)} :
    vacant store own entries = true ↔
      ∀ entry ∈ entries, ∀ key, L.Occupies store table entry key → own = some key := by
  simp only [vacant, List.all_eq_true, Occupies]
  constructor
  · rintro free entry member key ⟨row, rowMember, rowKey, occupied⟩
    have checked := free row rowMember
    simp only [rowKey, Bool.or_eq_true, decide_eq_true_eq, List.all_eq_true] at checked
    exact checked.resolve_right fun none => none entry member occupied
  · intro free row rowMember
    cases rowKey : L.key row with
    | none => rfl
    | some key =>
        simp only [Bool.or_eq_true, decide_eq_true_eq, List.all_eq_true]
        by_cases same : own = some key
        · exact .inl same
        · exact .inr fun entry member occupied =>
            same (free entry member key ⟨row, rowMember, rowKey, occupied⟩)

/-- The key of a row that may be inserted is not in use. -/
theorem Statement.unused_of_accepts {store : L.Store} {table : L.Table} {row : L.Row table}
    (accepted : (insert table row : L.Statement).accepts store = true) {key : L.Key table}
    (own : L.key row = some key) : ∀ other ∈ L.rows store table, L.key other ≠ some key := by
  simp only [accepts, Bool.and_eq_true, Option.all_eq_true, Bool.not_eq_true'] at accepted
  have absent := accepted.1.1.2 key own
  simp only [has, List.any_eq_false, decide_eq_true_eq] at absent
  exact absent

/-- An accepted statement violates no unique index. -/
theorem Statement.unoccupied_of_accepts {statement : L.Statement} {store : L.Store}
    (accepted : statement.accepts store = true) : statement.unoccupied store = true := by
  cases statement with
  | insert table row =>
      simp only [accepts, Bool.and_eq_true] at accepted
      exact accepted.1.2
  | update table key columns =>
      simp only [accepts, Bool.and_eq_true, List.all_eq_true] at accepted
      simp only [unoccupied, List.all_eq_true]
      exact fun row member => (accepted.2 row member).1.2
  | delete table key => rfl

theorem unreferenced_iff {store : L.Store} {table : L.Table} {key : L.Key table} :
    unreferenced store table key = true ↔ ∀ child, ¬L.Refers store table key child := by
  simp only [unreferenced, List.all_eq_true, decide_eq_true_eq, Refers, not_exists, not_and]
  constructor
  · exact fun none child row member _ => none child.1 (L.mem_tables _) row member
  · exact fun none child _ row member => none ⟨child, L.key row⟩ row member rfl

theorem mem_keyed {store : L.Store} {table : L.Table} {key : L.Key table} {row : L.Row table} :
    row ∈ L.keyed store table key ↔ row ∈ L.rows store table ∧ L.key row = some key := by
  simp [keyed]

theorem has_eq_true {store : L.Store} {table : L.Table} {key : L.Key table} :
    L.has store table key = true ↔ ∃ row ∈ L.rows store table, L.key row = some key := by
  simp [has]

namespace Statement

/-- The table that a statement writes. -/
def table : L.Statement → L.Table
  | .insert table _ => table
  | .update table _ _ => table
  | .delete table _ => table

theorem rows_apply_of_ne {statement : L.Statement} {other : L.Table} (store : L.Store)
    (different : other ≠ statement.table) :
    L.rows (statement.apply store) other = L.rows store other := by
  cases statement <;> exact L.rows_put_of_ne _ _ different

@[simp] theorem rows_apply_insert (table : L.Table) (row : L.Row table) (store : L.Store) :
    L.rows ((insert table row).apply store) table = L.rows store table ++ [row] :=
  L.rows_put_self _ _ _

@[simp] theorem rows_apply_update (table : L.Table) (key : L.Key table) (columns : L.Change table)
    (store : L.Store) :
    L.rows ((update table key columns).apply store) table =
      (L.rows store table).map (amend key columns) :=
  L.rows_put_self _ _ _

@[simp] theorem rows_apply_delete (table : L.Table) (key : L.Key table) (store : L.Store) :
    L.rows ((delete table key).apply store) table =
      (L.rows store table).filter fun row => L.key row ≠ some key :=
  L.rows_put_self _ _ _

/-- The rows with a key after a statement. -/
theorem keyed_apply_insert (table : L.Table) (row : L.Row table) (store : L.Store)
    (key : L.Key table) :
    L.keyed ((insert table row).apply store) table key =
      L.keyed store table key ++ [row].filter fun row => L.key row = some key := by
  simp [keyed, List.filter_append]

theorem keyed_apply_update (table : L.Table) (key other : L.Key table)
    (columns : L.Change table) (store : L.Store) :
    L.keyed ((update table key columns).apply store) table other =
      (L.keyed store table other).map (amend key columns) := by
  simp [keyed, List.filter_map, Function.comp_def]

theorem keyed_apply_delete (table : L.Table) (key other : L.Key table) (store : L.Store) :
    L.keyed ((delete table key).apply store) table other =
      if other = key then [] else L.keyed store table other := by
  simp only [keyed, rows_apply_delete, List.filter_filter]
  split
  · subst other
    simp
  · refine List.filter_congr fun row _ => ?_
    by_cases same : L.key row = some other <;> simp_all

/-- A key exists when a row with it does. -/
theorem has_eq (store : L.Store) (table : L.Table) (key : L.Key table) :
    L.has store table key = !(L.keyed store table key).isEmpty := by
  rw [Bool.eq_iff_iff, has_eq_true]
  simp [keyed]

@[simp] theorem has_apply_insert (table : L.Table) (row : L.Row table) (store : L.Store)
    (key : L.Key table) :
    L.has ((insert table row).apply store) table key =
      (L.has store table key || decide (L.key row = some key)) := by
  simp [has]

/-- Statements on other tables leave the entries of a table alone. -/
theorem occupies_apply_of_ne {statement : L.Statement} {other : L.Table} (store : L.Store)
    (different : other ≠ statement.table) :
    L.Occupies (statement.apply store) other = L.Occupies store other := by
  unfold Occupies
  rw [rows_apply_of_ne store different]

theorem occupies_apply_insert (table : L.Table) (row : L.Row table) (store : L.Store)
    (entry : L.Entry table) (key : L.Key table) :
    L.Occupies ((insert table row).apply store) table entry key ↔
      L.Occupies store table entry key ∨ L.key row = some key ∧ entry ∈ L.entries row := by
  simp [Occupies, or_and_right, exists_or]

theorem occupies_apply_update (table : L.Table) (key : L.Key table) (columns : L.Change table)
    (store : L.Store) (entry : L.Entry table) (other : L.Key table) :
    L.Occupies ((update table key columns).apply store) table entry other ↔
      if other = key then
        ∃ row ∈ L.keyed store table key, entry ∈ L.entries (L.change columns row)
      else L.Occupies store table entry other := by
  simp only [Occupies, rows_apply_update, List.mem_map, exists_exists_and_eq_and, key_amend,
    mem_keyed, and_assoc]
  split
  · subst other
    refine exists_congr fun row => and_congr_right fun _ => and_congr_right fun same => ?_
    rw [amend, if_pos same]
  · refine exists_congr fun row => and_congr_right fun _ => and_congr_right fun same => ?_
    rw [amend, if_neg (by simp_all)]

theorem occupies_apply_delete (table : L.Table) (key : L.Key table) (store : L.Store)
    (entry : L.Entry table) (other : L.Key table) :
    L.Occupies ((delete table key).apply store) table entry other ↔
      other ≠ key ∧ L.Occupies store table entry other := by
  simp only [Occupies, rows_apply_delete, List.mem_filter, decide_eq_true_eq, ne_eq]
  constructor
  · rintro ⟨row, ⟨member, different⟩, same, occupied⟩
    exact ⟨fun equal => different (equal ▸ same), row, member, same, occupied⟩
  · rintro ⟨different, row, member, same, occupied⟩
    refine ⟨row, ⟨member, fun equal => different ?_⟩, same, occupied⟩
    rw [same] at equal
    exact Option.some.inj equal

/-- Statements on other tables leave the references from a table alone. -/
theorem refers_apply_of_ne {statement : L.Statement} {child : L.Table} (store : L.Store)
    (different : child ≠ statement.table) (table : L.Table) (key : L.Key table)
    (own : Option (L.Key child)) :
    L.Refers (statement.apply store) table key ⟨child, own⟩ ↔
      L.Refers store table key ⟨child, own⟩ := by
  unfold Refers
  rw [rows_apply_of_ne store different]

theorem refers_apply_insert (child : L.Table) (row : L.Row child) (store : L.Store)
    (table : L.Table) (key : L.Key table) (own : Option (L.Key child)) :
    L.Refers ((insert child row).apply store) table key ⟨child, own⟩ ↔
      L.Refers store table key ⟨child, own⟩ ∨
        L.key row = own ∧ ⟨table, key⟩ ∈ L.parents row := by
  simp [Refers, or_and_right, exists_or]

theorem refers_apply_update (child : L.Table) (changed : L.Key child) (columns : L.Change child)
    (store : L.Store) (table : L.Table) (key : L.Key table) (own : Option (L.Key child)) :
    L.Refers ((update child changed columns).apply store) table key ⟨child, own⟩ ↔
      if own = some changed then
        ∃ row ∈ L.keyed store child changed, ⟨table, key⟩ ∈ L.parents (L.change columns row)
      else L.Refers store table key ⟨child, own⟩ := by
  simp only [Refers, rows_apply_update, List.mem_map, exists_exists_and_eq_and, key_amend,
    mem_keyed, and_assoc]
  split
  · subst own
    refine exists_congr fun row => and_congr_right fun _ => and_congr_right fun same => ?_
    rw [amend, if_pos same]
  · refine exists_congr fun row => and_congr_right fun _ => and_congr_right fun same => ?_
    rw [amend, if_neg (by simp_all)]

theorem refers_apply_delete (child : L.Table) (removed : L.Key child) (store : L.Store)
    (table : L.Table) (key : L.Key table) (own : Option (L.Key child)) :
    L.Refers ((delete child removed).apply store) table key ⟨child, own⟩ ↔
      own ≠ some removed ∧ L.Refers store table key ⟨child, own⟩ := by
  simp only [Refers, rows_apply_delete, List.mem_filter, decide_eq_true_eq, ne_eq]
  constructor
  · rintro ⟨row, ⟨member, different⟩, same, refers⟩
    exact ⟨fun equal => different (same.trans equal), row, member, same, refers⟩
  · rintro ⟨different, row, member, same, refers⟩
    exact ⟨row, ⟨member, fun equal => different (same.symm.trans equal)⟩, same, refers⟩

end Statement

/-- An assignment that neither adds to nor removes from a derived list keeps its members. -/
theorem mem_change_iff {table : L.Table} {α : Type} [DecidableEq α]
    {derived : L.Row table → List α} {columns : L.Change table} {row : L.Row table} {value : α}
    (kept : value ∉ lost derived columns row)
    (alone : value ∉ gained derived columns row) :
    value ∈ derived (L.change columns row) ↔ value ∈ derived row := by
  unfold lost at kept
  unfold gained at alone
  split at kept
  · next same => rw [same]
  · next different =>
      rw [if_neg different] at alone
      exact ⟨fun member => absurd member alone, fun member => absurd member kept⟩

namespace Statement

/-- A statement writes a given table in one of three ways, or leaves it alone. -/
@[elab_as_elim]
theorem writing {motive : L.Statement → Prop} (table : L.Table)
    (insert : ∀ row, motive (.insert table row))
    (update : ∀ key columns, motive (.update table key columns))
    (delete : ∀ key, motive (.delete table key))
    (apart : ∀ statement, table ≠ statement.table → motive statement)
    (statement : L.Statement) : motive statement := by
  by_cases same : table = statement.table
  · subst same
    cases statement with
    | insert table row => exact insert row
    | update table key columns => exact update key columns
    | delete table key => exact delete key
  · exact apart statement same

variable {statement : L.Statement} {store other : L.Store}

theorem keyed_apply_of_notMem {table : L.Table} {key : L.Key table}
    (kept : .row table key ∉ statement.footprint store) :
    L.keyed (statement.apply store) table key = L.keyed store table key := by
  induction statement using writing table with
  | insert row =>
      have different : L.key row ≠ some key := by
        intro equal
        simp [footprint, equal] at kept
      simp [keyed_apply_insert, different]
  | update changed columns =>
      have different : key ≠ changed := by
        intro equal
        simp [footprint, equal] at kept
      rw [keyed_apply_update]
      refine (List.map_congr_left fun row member => ?_).trans (List.map_id _)
      have own := (mem_keyed.mp member).2
      rw [amend, if_neg (by simp [own, different]), id]
  | delete removed =>
      have different : key ≠ removed := by
        intro equal
        simp [footprint, equal] at kept
      rw [keyed_apply_delete, if_neg different]
  | apart statement different => rw [keyed, rows_apply_of_ne store different, ← keyed]

theorem has_apply_of_notMem {table : L.Table} {key : L.Key table}
    (kept : .key table key ∉ statement.footprint store) :
    L.has (statement.apply store) table key = L.has store table key := by
  induction statement using writing table with
  | insert row =>
      have different : L.key row ≠ some key := by
        intro equal
        simp [footprint, equal] at kept
      simp [has_eq, keyed_apply_insert, different]
  | update changed columns => simp [has_eq, keyed_apply_update]
  | delete removed =>
      have different : key ≠ removed := by
        intro equal
        simp [footprint, equal] at kept
      rw [has_eq, has_eq, keyed_apply_delete, if_neg different]
  | apart statement different => rw [has, rows_apply_of_ne store different, ← has]

theorem occupies_apply_of_notMem {table : L.Table} {entry : L.Entry table}
    (kept : .unique table entry ∉ statement.footprint store) :
    L.Occupies (statement.apply store) table entry = L.Occupies store table entry := by
  induction statement using writing table with
  | insert row =>
      have different : entry ∉ L.entries row := by
        intro member
        simp [footprint, member] at kept
      funext key
      simp [occupies_apply_insert, different]
  | update changed columns =>
      funext key
      apply propext
      rw [occupies_apply_update]
      split
      · subst changed
        refine exists_congr fun row => ?_
        rw [mem_keyed, and_assoc]
        refine and_congr_right fun member => and_congr_right fun own => ?_
        refine mem_change_iff (fun found => kept ?_) (fun found => kept ?_)
        all_goals
          refine List.mem_cons_of_mem _ (List.mem_map_of_mem (List.mem_flatMap.mpr
            ⟨row, mem_keyed.mpr ⟨member, own⟩, List.mem_append.mpr ?_⟩))
        · exact .inl found
        · exact .inr found
      · rfl
  | delete removed =>
      funext key
      apply propext
      rw [occupies_apply_delete]
      refine ⟨And.right, fun occupied => ⟨?_, occupied⟩⟩
      rintro rfl
      obtain ⟨row, member, own, occupies⟩ := occupied
      refine kept (List.mem_append_right _ (List.mem_map_of_mem ?_))
      exact List.mem_flatMap.mpr ⟨row, mem_keyed.mpr ⟨member, own⟩, occupies⟩
  | apart statement different => rw [occupies_apply_of_ne store different]

theorem refers_apply_of_notMem {table : L.Table} {key : L.Key table}
    (alone : .referrers table key ∉ statement.additions store) :
    L.Refers (statement.apply store) table key = L.Refers store table key := by
  funext ⟨child, own⟩
  apply propext
  induction statement using writing child with
  | insert row =>
      have different : ⟨table, key⟩ ∉ L.parents row := by
        intro member
        refine alone ?_
        simp only [additions, List.mem_map]
        exact ⟨⟨table, key⟩, member, rfl⟩
      simp [refers_apply_insert, different]
  | update changed columns =>
      rw [refers_apply_update]
      split
      · subst own
        refine exists_congr fun row => ?_
        rw [mem_keyed, and_assoc]
        refine and_congr_right fun member => and_congr_right fun own => ?_
        refine mem_change_iff (fun found => alone ?_) (fun found => alone ?_)
        all_goals
          simp only [additions, List.mem_map, List.mem_flatMap, List.mem_append]
          refine ⟨⟨table, key⟩, ⟨row, mem_keyed.mpr ⟨member, own⟩, ?_⟩, rfl⟩
        · exact .inl found
        · exact .inr found
      · rfl
  | delete removed =>
      rw [refers_apply_delete]
      refine ⟨And.right, fun refers => ⟨?_, refers⟩⟩
      rintro rfl
      obtain ⟨row, member, own, parent⟩ := refers
      refine alone ?_
      simp only [additions, List.mem_map, List.mem_flatMap]
      exact ⟨⟨table, key⟩, ⟨row, mem_keyed.mpr ⟨member, own⟩, parent⟩, rfl⟩
  | apart statement different => exact refers_apply_of_ne store different table key own

/-- A statement changes no other resource than it replaces or adds to. -/
theorem content_apply_of_notMem {resource : L.Resource}
    (kept : resource ∉ statement.footprint store)
    (alone : resource ∉ statement.additions store) :
    L.content resource (statement.apply store) = L.content resource store := by
  cases resource with
  | row table key => exact keyed_apply_of_notMem kept
  | key table key => exact has_apply_of_notMem kept
  | unique table entry => exact occupies_apply_of_notMem kept
  | referrers table key => exact refers_apply_of_notMem alone

/-- The rows that an update or a deletion touches are part of its footprint. -/
theorem keyed_congr
    (agree : ∀ used ∈ statement.footprint store, L.content used store = L.content used other) :
    match statement with
    | .insert _ _ => True
    | .update table key _ => L.keyed store table key = L.keyed other table key
    | .delete table key => L.keyed store table key = L.keyed other table key := by
  cases statement with
  | insert table row => trivial
  | update table key columns => exact agree (.row table key) (by simp [footprint])
  | delete table key => exact agree (.row table key) (by simp [footprint])

theorem footprint_congr
    (agree : ∀ used ∈ statement.footprint store, L.content used store = L.content used other) :
    statement.footprint store = statement.footprint other := by
  have keyed := keyed_congr agree
  cases statement with
  | insert table row => rfl
  | update table key columns => rw [footprint, footprint, keyed]
  | delete table key => rw [footprint, footprint, keyed]

theorem additions_congr
    (agree : ∀ used ∈ statement.footprint store, L.content used store = L.content used other) :
    statement.additions store = statement.additions other := by
  have keyed := keyed_congr agree
  cases statement with
  | insert table row => rfl
  | update table key columns => rw [additions, additions, keyed]
  | delete table key => rw [additions, additions, keyed]

/-- The content that a statement leaves behind depends on its footprint only. -/
theorem content_apply_congr {resource : L.Resource}
    (agree : ∀ used ∈ statement.footprint store, L.content used store = L.content used other)
    (same : L.content resource store = L.content resource other) :
    L.content resource (statement.apply store) = L.content resource (statement.apply other) := by
  have touched := keyed_congr agree
  cases resource with
  | row table key =>
      change L.keyed _ table key = L.keyed _ table key
      change L.keyed _ table key = L.keyed _ table key at same
      induction statement using writing table with
      | insert row => simp only [keyed_apply_insert, same]
      | update changed columns => simp only [keyed_apply_update, same]
      | delete removed => simp only [keyed_apply_delete, same]
      | apart statement different =>
          simp only [keyed, rows_apply_of_ne _ different] at same ⊢
          exact same
  | key table key =>
      change L.has _ table key = L.has _ table key
      change L.has _ table key = L.has _ table key at same
      induction statement using writing table with
      | insert row => simp only [has_apply_insert, same]
      | update changed columns => simpa only [has_eq, keyed_apply_update, List.isEmpty_map] using same
      | delete removed =>
          simp only [has_eq, keyed_apply_delete] at same ⊢
          split
          · rfl
          · exact same
      | apart statement different =>
          simp only [has, rows_apply_of_ne _ different] at same ⊢
          exact same
  | unique table entry =>
      change L.Occupies _ table entry = L.Occupies _ table entry
      change L.Occupies _ table entry = L.Occupies _ table entry at same
      funext key
      apply propext
      induction statement using writing table with
      | insert row => simp only [occupies_apply_insert, same]
      | update changed columns =>
          simp only at touched
          simp only [occupies_apply_update, same, touched]
      | delete removed => simp only [occupies_apply_delete, same]
      | apart statement different => simp only [occupies_apply_of_ne _ different, same]
  | referrers table key =>
      change L.Refers _ table key = L.Refers _ table key
      change L.Refers _ table key = L.Refers _ table key at same
      funext ⟨child, own⟩
      apply propext
      induction statement using writing child with
      | insert row => simp only [refers_apply_insert, same]
      | update changed columns =>
          simp only at touched
          simp only [refers_apply_update, same, touched]
      | delete removed => simp only [refers_apply_delete, same]
      | apart statement different => simp only [refers_apply_of_ne _ different, same]

/-- Vacancy of entries depends on the index entries only. -/
theorem vacant_congr {table : L.Table} {own : Option (L.Key table)}
    {entries : List (L.Entry table)}
    (agree : ∀ entry ∈ entries, L.Occupies store table entry = L.Occupies other table entry) :
    vacant store own entries = vacant other own entries := by
  rw [Bool.eq_iff_iff, vacant_iff, vacant_iff]
  refine forall₂_congr fun entry member => ?_
  rw [agree entry member]

/-- Constraint checks look at the locked resources only. -/
theorem accepts_congr
    (agree : ∀ used ∈ statement.footprint store, L.content used store = L.content used other)
    (refer : ∀ used ∈ statement.references store, L.content used store = L.content used other) :
    statement.accepts store = statement.accepts other := by
  have touched := keyed_congr agree
  cases statement with
  | insert table row =>
      have absent : ∀ key, L.key row = some key → L.has store table key = L.has other table key :=
        fun key equal => agree (.key table key) (by simp [footprint, equal])
      have free : vacant store (L.key row) (L.entries row) =
          vacant other (L.key row) (L.entries row) :=
        vacant_congr fun entry member => agree (.unique table entry) (by simp [footprint, member])
      have present : ∀ parent ∈ L.parents row,
          L.has store parent.1 parent.2 = L.has other parent.1 parent.2 :=
        fun parent member => refer (.key parent.1 parent.2) (List.mem_map_of_mem member)
      simp only [accepts, free]
      congr 1
      · congr 2
        cases keyed : L.key row with
        | none => rfl
        | some key => simp [absent key keyed]
      · rw [Bool.eq_iff_iff, List.all_eq_true, List.all_eq_true]
        refine forall₂_congr fun parent member => ?_
        rw [present parent member]
  | update table key columns =>
      have exists_ : L.has store table key = L.has other table key := by
        rw [has_eq, has_eq, touched]
      simp only [accepts, exists_, ← touched]
      congr 1
      rw [Bool.eq_iff_iff, List.all_eq_true, List.all_eq_true]
      refine forall₂_congr fun row member => ?_
      have free : vacant store (some key) (gained L.entries columns row) =
          vacant other (some key) (gained L.entries columns row) := by
        refine vacant_congr fun entry gains => agree (.unique table entry) ?_
        simp only [footprint, List.mem_cons, List.mem_map, List.mem_flatMap, List.mem_append]
        exact .inr ⟨entry, ⟨row, member, .inr gains⟩, rfl⟩
      have present : ∀ parent ∈ gained L.parents columns row,
          L.has store parent.1 parent.2 = L.has other parent.1 parent.2 := by
        refine fun parent gains => refer (.key parent.1 parent.2) ?_
        simp only [references, List.mem_map, List.mem_flatMap]
        exact ⟨parent, ⟨row, member, gains⟩, rfl⟩
      rw [free, Bool.and_eq_true, Bool.and_eq_true (_ && _)]
      refine and_congr_right fun _ => ?_
      rw [List.all_eq_true, List.all_eq_true]
      refine forall₂_congr fun parent gains => ?_
      rw [present parent gains]
  | delete table key =>
      have exists_ : L.has store table key = L.has other table key := by
        rw [has_eq, has_eq, touched]
      have refers : L.Refers store table key = L.Refers other table key :=
        agree (.referrers table key) (by simp [footprint])
      simp only [accepts, exists_]
      congr 1
      rw [Bool.eq_iff_iff, unreferenced_iff, unreferenced_iff, refers]

end Statement

/-- The transactions of a database with a layout, and the questions its sessions ask. -/
abbrev schema (L : Layout) (Query : Type) (Answer : Query → Type) : Schema where
  Store := L.Store
  Write := L.Statement
  Lock := L.Resource
  Content := L.Content
  Query := Query
  Answer := Answer
  content := L.content
  apply := Statement.apply
  accepts := Statement.accepts
  footprint := Statement.footprint
  references := Statement.references
  additions := Statement.additions
  content_apply_of_notMem := Statement.content_apply_of_notMem
  content_apply_congr := Statement.content_apply_congr
  accepts_congr := Statement.accepts_congr
  footprint_congr := Statement.footprint_congr
  additions_congr := Statement.additions_congr

end Layout

end ReadCommitted
