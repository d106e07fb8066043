import ControlPlane.Library.Relational
import ControlPlane.Library.SessionLogic

/-!
# Integrity constraints under concurrency

The checks that a relational database makes at every single statement add up to
its constraints on every committed store: primary keys and unique entries occur
once, rows satisfy their checks, and foreign keys lead to existing rows. No
session program can break them, in whatever way the sessions interleave.
-/

namespace ReadCommitted

namespace Layout

variable {L : Layout}

/-- The constraints of a layout hold in a store. -/
structure Integrity (L : Layout) (store : L.Store) : Prop where
  keys : ∀ table, ((L.rows store table).filterMap L.key).Nodup
  entries : ∀ table entry first second,
    L.Occupies store table entry first → L.Occupies store table entry second → first = second
  valid : ∀ table, ∀ row ∈ L.rows store table, L.valid row = true
  parents : ∀ table, ∀ row ∈ L.rows store table, ∀ parent ∈ L.parents row,
    L.has store parent.1 parent.2 = true

/-- What an assignment leaves in a derived list was there before, or is gained. -/
theorem mem_change {table : L.Table} {α : Type} [DecidableEq α]
    {derived : L.Row table → List α} {columns : L.Change table} {row : L.Row table} {value : α}
    (member : value ∈ derived (L.change columns row)) :
    value ∈ derived row ∨ value ∈ gained derived columns row := by
  unfold gained
  split
  · next same => exact .inl (same ▸ member)
  · exact .inr member

namespace Integrity

variable {store : L.Store}

/-- A key leads to one row. -/
theorem keyed_eq (integrity : L.Integrity store) {table : L.Table} {key : L.Key table}
    {row : L.Row table} (member : row ∈ L.rows store table) (own : L.key row = some key) :
    L.keyed store table key = [row] := by
  have unique := integrity.keys table
  unfold keyed
  generalize L.rows store table = rows at member unique
  induction rows with
  | nil => simp at member
  | cons head rows inductionHypothesis =>
      rcases List.mem_cons.mp member with rfl | later
      · rw [List.filter_cons_of_pos (by simp [own])]
        congr 1
        rw [List.filter_eq_nil_iff]
        intro other otherMember
        rw [List.filterMap_cons_some own, List.nodup_cons] at unique
        simp only [decide_eq_true_eq]
        exact fun same => unique.1 (List.mem_filterMap.mpr ⟨other, otherMember, same⟩)
      · cases headKey : L.key head with
        | none =>
            rw [List.filterMap_cons_none headKey] at unique
            rw [List.filter_cons_of_neg (by simp [headKey])]
            exact inductionHypothesis later unique
        | some other =>
            rw [List.filterMap_cons_some headKey, List.nodup_cons] at unique
            have different : other ≠ key := by
              rintro rfl
              exact unique.1 (List.mem_filterMap.mpr ⟨row, later, own⟩)
            rw [List.filter_cons_of_neg (by simp [headKey, different])]
            exact inductionHypothesis later unique.2

/-- Two rows with one key are the same row. -/
theorem eq_of_key (integrity : L.Integrity store) (table : L.Table) {key : L.Key table}
    {first second : L.Row table}
    (firstMember : first ∈ L.rows store table) (firstKey : L.key first = some key)
    (secondMember : second ∈ L.rows store table) (secondKey : L.key second = some key) :
    first = second := by
  have equal := integrity.keyed_eq firstMember firstKey
  rw [integrity.keyed_eq secondMember secondKey] at equal
  exact (List.singleton_inj.mp equal).symm

/-- Two rows with one unique entry are the same row. -/
theorem eq_of_entry (integrity : L.Integrity store) (table : L.Table) {entry : L.Entry table}
    {firstKey secondKey : L.Key table} {first second : L.Row table}
    (firstMember : first ∈ L.rows store table) (firstOwn : L.key first = some firstKey)
    (firstHolds : entry ∈ L.entries first)
    (secondMember : second ∈ L.rows store table) (secondOwn : L.key second = some secondKey)
    (secondHolds : entry ∈ L.entries second) : first = second := by
  obtain rfl := integrity.entries table entry firstKey secondKey
    ⟨first, firstMember, firstOwn, firstHolds⟩ ⟨second, secondMember, secondOwn, secondHolds⟩
  exact integrity.eq_of_key table firstMember firstOwn secondMember secondOwn

/-- Inserting a row that passes its checks keeps the constraints. -/
theorem insert (integrity : L.Integrity store) {table : L.Table} {row : L.Row table}
    (accepted : (Statement.insert table row).accepts store = true) :
    L.Integrity ((Statement.insert table row).apply store) := by
  simp only [Statement.accepts, Bool.and_eq_true, List.all_eq_true, Option.all_eq_true,
    Bool.not_eq_true', vacant_iff] at accepted
  obtain ⟨⟨⟨valid, absent⟩, free⟩, present⟩ := accepted
  have keeps : ∀ other key, L.has store other key = true →
      L.has ((Statement.insert table row).apply store) other key = true := by
    intro other key found
    by_cases same : other = table
    · subst same
      simp [found]
    · rwa [has, Statement.rows_apply_of_ne store same, ← has]
  constructor
  · intro other
    by_cases same : other = table
    · subst same
      rw [Statement.rows_apply_insert, List.filterMap_append, List.nodup_append']
      refine ⟨integrity.keys other, ?_, ?_⟩
      · cases own : L.key row <;> simp [own]
      · intro key member added
        obtain ⟨old, oldMember, oldKey⟩ := List.mem_filterMap.mp member
        obtain ⟨new, newMember, newKey⟩ := List.mem_filterMap.mp added
        rw [List.mem_singleton.mp newMember] at newKey
        have missing := absent key newKey
        simp only [has, List.any_eq_false, decide_eq_true_eq] at missing
        exact missing old oldMember oldKey
    · rw [Statement.rows_apply_of_ne store same]
      exact integrity.keys other
  · intro other entry first second
    by_cases same : other = table
    · subst same
      rw [Statement.occupies_apply_insert, Statement.occupies_apply_insert]
      rintro (firstOld | ⟨firstKey, firstEntry⟩) (secondOld | ⟨secondKey, secondEntry⟩)
      · exact integrity.entries other entry first second firstOld secondOld
      · have taken := free entry secondEntry first firstOld
        exact Option.some.inj (taken.symm.trans secondKey)
      · have taken := free entry firstEntry second secondOld
        exact Option.some.inj (firstKey.symm.trans taken)
      · exact Option.some.inj (firstKey.symm.trans secondKey)
    · rw [Statement.occupies_apply_of_ne store same]
      exact integrity.entries other entry first second
  · intro other current member
    by_cases same : other = table
    · subst same
      rw [Statement.rows_apply_insert, List.mem_append, List.mem_singleton] at member
      rcases member with old | rfl
      · exact integrity.valid other current old
      · exact valid
    · rw [Statement.rows_apply_of_ne store same] at member
      exact integrity.valid other current member
  · intro other current member parent refers
    refine keeps _ _ ?_
    by_cases same : other = table
    · subst same
      rw [Statement.rows_apply_insert, List.mem_append, List.mem_singleton] at member
      rcases member with old | rfl
      · exact integrity.parents other current old parent refers
      · exact present parent refers
    · rw [Statement.rows_apply_of_ne store same] at member
      exact integrity.parents other current member parent refers

/-- Assigning columns in a row that passes its checks keeps the constraints. -/
theorem update (integrity : L.Integrity store) {table : L.Table} {key : L.Key table}
    {columns : L.Change table}
    (accepted : (Statement.update table key columns).accepts store = true) :
    L.Integrity ((Statement.update table key columns).apply store) := by
  simp only [Statement.accepts, Bool.and_eq_true, List.all_eq_true, vacant_iff] at accepted
  obtain ⟨_, checked⟩ := accepted
  have keeps : ∀ other key', L.has store other key' = true →
      L.has ((Statement.update table key columns).apply store) other key' = true := by
    intro other key' found
    by_cases same : other = table
    · subst same
      rw [has_eq_true] at found ⊢
      obtain ⟨row, member, own⟩ := found
      exact ⟨amend key columns row, by simp [List.mem_map_of_mem member], by simpa using own⟩
    · rwa [has, Statement.rows_apply_of_ne store same, ← has]
  have before : ∀ {other : L.Table} {current : L.Row other},
      current ∈ L.rows ((Statement.update table key columns).apply store) other →
      current ∈ L.rows store other ∨ ∃ row, ∃ same : other = table,
        row ∈ L.keyed store table key ∧ same ▸ current = L.change columns row := by
    intro other current member
    by_cases same : other = table
    · subst same
      rw [Statement.rows_apply_update] at member
      obtain ⟨row, rowMember, rfl⟩ := List.mem_map.mp member
      by_cases own : L.key row = some key
      · exact .inr ⟨row, rfl, mem_keyed.mpr ⟨rowMember, own⟩, by simp [amend, own]⟩
      · exact .inl (by simpa [amend, own] using rowMember)
    · rw [Statement.rows_apply_of_ne store same] at member
      exact .inl member
  constructor
  · intro other
    by_cases same : other = table
    · subst same
      rw [Statement.rows_apply_update, List.filterMap_map]
      simpa [Function.comp_def] using integrity.keys other
    · rw [Statement.rows_apply_of_ne store same]
      exact integrity.keys other
  · intro other entry first second
    by_cases same : other = table
    · subst same
      have moved : ∀ row ∈ L.keyed store other key, entry ∈ L.entries (L.change columns row) →
          ∀ current, L.Occupies store other entry current → current = key := by
        intro row member occupied current holds
        rcases mem_change occupied with old | new
        · have own := mem_keyed.mp member
          exact integrity.entries other entry current key holds ⟨row, own.1, own.2, old⟩
        · exact (Option.some.inj ((checked row member).1.2 entry new current holds)).symm
      rw [Statement.occupies_apply_update, Statement.occupies_apply_update]
      split <;> split
      · intro _ _
        simp_all
      · rintro ⟨row, member, occupied⟩ holds
        exact absurd (moved row member occupied second holds) (by assumption)
      · rintro holds ⟨row, member, occupied⟩
        exact absurd (moved row member occupied first holds) (by assumption)
      · exact integrity.entries other entry first second
    · rw [Statement.occupies_apply_of_ne store same]
      exact integrity.entries other entry first second
  · intro other current member
    rcases before member with old | ⟨row, rfl, rowMember, changed⟩
    · exact integrity.valid other current old
    · have equal : current = L.change columns row := changed
      rw [equal]
      exact (checked row rowMember).1.1
  · intro other current member parent refers
    refine keeps _ _ ?_
    rcases before member with old | ⟨row, rfl, rowMember, changed⟩
    · exact integrity.parents other current old parent refers
    · have equal : current = L.change columns row := changed
      rw [equal] at refers
      rcases mem_change refers with old | new
      · exact integrity.parents other row (mem_keyed.mp rowMember).1 parent old
      · exact (checked row rowMember).2 parent new

/-- Deleting a row that nothing refers to keeps the constraints. -/
theorem delete (integrity : L.Integrity store) {table : L.Table} {key : L.Key table}
    (accepted : (Statement.delete table key).accepts store = true) :
    L.Integrity ((Statement.delete table key).apply store) := by
  simp only [Statement.accepts, Bool.and_eq_true, unreferenced_iff] at accepted
  obtain ⟨_, free⟩ := accepted
  have before : ∀ {other : L.Table} {current : L.Row other},
      current ∈ L.rows ((Statement.delete table key).apply store) other →
      current ∈ L.rows store other := by
    intro other current member
    by_cases same : other = table
    · subst same
      rw [Statement.rows_apply_delete] at member
      exact List.mem_of_mem_filter member
    · rwa [Statement.rows_apply_of_ne store same] at member
  constructor
  · intro other
    by_cases same : other = table
    · subst same
      rw [Statement.rows_apply_delete]
      exact (integrity.keys other).sublist (List.Sublist.filterMap _ List.filter_sublist)
    · rw [Statement.rows_apply_of_ne store same]
      exact integrity.keys other
  · intro other entry first second
    by_cases same : other = table
    · subst same
      rw [Statement.occupies_apply_delete, Statement.occupies_apply_delete]
      exact fun firstHolds secondHolds =>
        integrity.entries other entry first second firstHolds.2 secondHolds.2
    · rw [Statement.occupies_apply_of_ne store same]
      exact integrity.entries other entry first second
  · exact fun other current member => integrity.valid other current (before member)
  · intro other current member parent refers
    have found := integrity.parents other current (before member) parent refers
    by_cases same : parent.1 = table
    · obtain ⟨parentTable, parentKey⟩ := parent
      simp only at same
      subst same
      have different : parentKey ≠ key := by
        rintro rfl
        exact free ⟨other, L.key current⟩ ⟨current, before member, rfl, refers⟩
      rw [Statement.has_eq] at found ⊢
      rwa [Statement.keyed_apply_delete, if_neg different]
    · rwa [has, Statement.rows_apply_of_ne store same, ← has]

/-- A statement that passes its checks keeps the constraints. -/
theorem apply (integrity : L.Integrity store) {statement : L.Statement}
    (accepted : statement.accepts store = true) : L.Integrity (statement.apply store) := by
  cases statement with
  | insert table row => exact integrity.insert accepted
  | update table key columns => exact integrity.update accepted
  | delete table key => exact integrity.delete accepted

/-- A list of accepted statements keeps the constraints. -/
theorem replay {Query : Type} {Answer : Query → Type}
    {log : List (L.schema Query Answer).Write} (integrity : L.Integrity store)
    (accepted : acceptsAll log store = true) :
    L.Integrity (ReadCommitted.replay log store) := by
  induction log generalizing store with
  | nil => exact integrity
  | cons statement log inductionHypothesis =>
      rw [acceptsAll_cons, Bool.and_eq_true] at accepted
      exact inductionHypothesis (integrity.apply accepted.1) accepted.2

/-- A store with the same rows in another order satisfies the constraints as well. -/
theorem reorder (integrity : L.Integrity store) {other : L.Store}
    (same : ∀ table, (L.rows other table).Perm (L.rows store table)) : L.Integrity other where
  keys table := ((same table).filterMap L.key).nodup_iff.mpr (integrity.keys table)
  entries := by
    rintro table entry first second ⟨left, leftMember, left_key⟩ ⟨right, rightMember, right_key⟩
    exact integrity.entries table entry first second
      ⟨left, (same table).subset leftMember, left_key⟩
      ⟨right, (same table).subset rightMember, right_key⟩
  valid table row member := integrity.valid table row ((same table).subset member)
  parents table row member parent referenced := by
    have present := integrity.parents table row ((same table).subset member) parent referenced
    rw [has, List.any_eq_true] at present ⊢
    obtain ⟨found, foundMember, own⟩ := present
    exact ⟨found, (same parent.1).symm.subset foundMember, own⟩

end Integrity

section

variable (L) (Query : Type) (Answer : Query → Type)

/-- Every commit consists of statements that passed their checks. -/
def integrity : Agreement (L.schema Query Answer) where
  inv := L.Integrity
  le _ _ := True
  commit _ log store := acceptsAll log store = true
  le_refl _ := trivial
  le_trans _ _ := trivial
  inv_replay invariant accepted _ := invariant.replay accepted

instance : (L.integrity Query Answer).Shared where
  le_replay _ _ _ := trivial

instance : (L.integrity Query Answer).Unrestricted := ⟨id⟩

instance (query : Query) : (L.integrity Query Answer).Asks query where
  asks := trivial

instance : (L.integrity Query Answer).Admits fun _ => True where
  commit_nil _ := rfl
  commit_held _ _ accepted := accepted
  commit_write _ _ accepted last := by
    change acceptsAll _ _ = true at accepted
    change acceptsAll (_ ++ [_]) _ = true
    rw [acceptsAll_append, accepted, acceptsAll_cons, last]
    rfl

/-- No program can break the constraints of the layout. -/
theorem integrity_meets {ρ : Type} (program : Prog (L.schema Query Answer) ρ) :
    (L.integrity Query Answer).Meets program :=
  Agreement.meets_of_admits program

end

end Layout

end ReadCommitted
