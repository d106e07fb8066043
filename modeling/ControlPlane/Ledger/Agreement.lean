import ControlPlane.Ledger.Books

/-!
# The ledger agreement

What all sessions of the system agree on: the database keeps its constraints,
the books are sound, wallets are never taken away from their owners, and a
commit debits an organization only under the lock of its row, which showed the
organization active when it was taken.
-/

namespace ControlPlane

open ReadCommitted

/-- Which wallet belongs to whom. -/
def Db.owners (db : Db) : List (Id × String) :=
  db.accounts.map fun account => (account.id, account.ownerKey)

/-- The wallets that a log of statements opens. -/
def opened (log : List Database.Write) : List (Id × String) :=
  log.filterMap fun statement =>
    match statement with
    | .insert .accounts row => some (row.id, row.ownerKey)
    | _ => none

/-- Wallets are opened and never taken away. -/
theorem owners_replay {log : List Database.Write} (kept : ∀ id, .delete .accounts id ∉ log)
    (db : Db) : (replay (S := Database) log db).owners = db.owners ++ opened log := by
  induction log generalizing db with
  | nil => exact (List.append_nil _).symm
  | cons statement log inductionHypothesis =>
      rw [replay_cons, inductionHypothesis fun id member => kept id (List.mem_cons_of_mem _ member)]
      have head : Db.owners (Database.apply statement db) = db.owners ++ opened [statement] := by
        by_cases written : Table.accounts = Layout.Statement.table statement
        · cases statement with
          | insert table row =>
              subst written
              exact List.map_append
          | update table key columns =>
              subst written
              change ((db.accounts.map _).map _) = db.accounts.map _ ++ []
              rw [amend_accounts, List.append_nil, List.map_map]
              exact List.map_congr_left fun account _ => by simp
          | delete table key =>
              subst written
              exact absurd (List.mem_cons_self ..) (kept key)
        · have none : opened [statement] = [] := by
            cases statement with
            | insert table row => cases table <;> first | rfl | exact absurd rfl written
            | update table key columns => rfl
            | delete table key => rfl
          rw [none, List.append_nil]
          unfold Db.owners
          rw [show (Database.apply statement db).accounts = db.accounts from
            Layout.Statement.rows_apply_of_ne (L := layout) db written]
      have split : opened (statement :: log) = opened [statement] ++ opened log :=
        List.filterMap_append (l := [statement])
      rw [head, List.append_assoc, split]

/-- The session holds the lock of an organization's row, which showed it active. -/
def LockedActive (held : List (Held Database)) (organizationId : Id) : Prop :=
  ∃ lock ∈ held, lock.resource = .row .organizations organizationId ∧ lock.mode = .exclusive ∧
    ∃ organization, Db.find lock.since .organizations organizationId = some organization ∧
      organization.status = .active

/-- Every debit of an organization that a commit adds was made under the lock of its row. -/
def DebitsLocked (held : List (Held Database)) (before after : Db) : Prop :=
  ∀ entry ∈ after.entries, entry.side = .debit →
    (∀ transaction ∈ before.transactions, transaction.id ≠ entry.transactionId) →
    ∀ account ∈ after.accounts, account.id = entry.accountId →
      account.ownerKey ≠ systemOwner → LockedActive held account.ownerKey

/-- The invariant of the committed store. Consistent books do not depend on solvency, which
is a part of the invariant for those who ask for it. -/
structure LedgerInvariant (solvency : Prop) (db : Db) : Prop where
  integrity : Integrity db
  balanced : Balanced db
  solvent : solvency → Solvent db

/-- What a transaction leaves behind when it commits. -/
structure LedgerCommit (solvency : Prop) (held : List (Held Database))
    (log : List Database.Write) (db : Db) : Prop where
  accepted : acceptsAll (S := Database) log db = true
  balanced : Balanced (replay (S := Database) log db)
  solvent : solvency → Solvent (replay (S := Database) log db)
  kept : ∀ id, .delete .accounts id ∉ log
  debits : DebitsLocked held db (replay (S := Database) log db)

/-- A commit of the ledger agreement keeps the constraints of the database. -/
theorem LedgerCommit.integrity {solvency : Prop} {held : List (Held Database)}
    {log : List Database.Write} {db : Db} (committed : LedgerCommit solvency held log db)
    (integrity : Integrity db) :
    Integrity (replay (S := Database) log db) :=
  Layout.Integrity.replay integrity committed.accepted

/-- The agreement of all sessions. -/
def ledgerAgreement (solvency : Prop) : Agreement Database where
  inv := LedgerInvariant solvency
  le db later := db.owners ⊆ later.owners
  commit := LedgerCommit solvency
  le_refl _ := List.Subset.refl _
  le_trans := List.Subset.trans
  inv_replay invariant committed _ :=
    ⟨committed.integrity invariant.integrity, committed.balanced, committed.solvent⟩

instance (solvency : Prop) : (ledgerAgreement solvency).Shared where
  le_replay {_ log store} _ committed _ := by
    change Db.owners store ⊆ Db.owners (replay (S := Database) log store)
    rw [owners_replay committed.kept]
    exact List.subset_append_left _ _

instance (solvency : Prop) : (ledgerAgreement solvency).Unrestricted := ⟨id⟩

instance (solvency : Prop) : OffPanel (ledgerAgreement solvency) where
  asks _ _ := trivial

instance (solvency : Prop) (panel : Panel) (call : PanelCall) :
    (ledgerAgreement solvency).Asks (.panel panel call) where
  asks := trivial

theorem LockedActive.mono {held more : List (Held Database)} {organizationId : Id}
    (locked : LockedActive held organizationId) (subset : held ⊆ more) :
    LockedActive more organizationId := by
  obtain ⟨lock, member, property⟩ := locked
  exact ⟨lock, subset member, property⟩

/-- A neutral statement takes no wallet away. -/
theorem LedgerNeutral.ne_delete {statement : Database.Write} (neutral : LedgerNeutral statement)
    (id : Id) : .delete .accounts id ≠ statement := by
  rintro rfl
  exact neutral

/-- Neutral statements add no debits. -/
theorem DebitsLocked.apply {held : List (Held Database)} {before after : Db}
    (locked : DebitsLocked held before after) (integrity : Integrity after)
    {statement : Database.Write} (neutral : LedgerNeutral statement)
    (accepted : statement.accepts after = true) :
    DebitsLocked held before (statement.apply after) := by
  intro entry member side fresh account accountMember same owned
  rw [(neutral.rows_eq after).2] at member
  rcases neutral.accounts_cases after with unchanged | ⟨row, rfl, _⟩
  · rw [unchanged] at accountMember
    exact locked entry member side fresh account accountMember same owned
  · rcases List.mem_append.mp accountMember with old | new
    · exact locked entry member side fresh account old same owned
    · obtain ⟨holder, holderMember, holds⟩ := integrity.account_of_entry member
      rw [List.mem_singleton.mp new] at same
      exact absurd (congrArg some (holds.trans same.symm))
        (Layout.Statement.unused_of_accepts accepted rfl holder holderMember)

instance (solvency : Prop) : (ledgerAgreement solvency).Admits LedgerNeutral where
  commit_nil {db} invariant :=
    { accepted := rfl
      balanced := invariant.balanced
      solvent := invariant.solvent
      kept := by simp
      debits := by
        intro entry member _ fresh
        obtain ⟨transaction, transactionMember, same⟩ :=
          invariant.integrity.transaction_of_entry member
        exact absurd same (fresh transaction transactionMember) }
  commit_held _ subset committed :=
    { committed with
      debits := fun entry member side fresh account accountMember same owned =>
        (committed.debits entry member side fresh account accountMember same owned).mono subset }
  commit_write {held log db write} invariant neutral committed accepted := by
    have integrity := committed.integrity invariant.integrity
    have replayed : replay (S := Database) (log ++ [write]) db =
        write.apply (replay (S := Database) log db) := by
      rw [replay_append]
      rfl
    constructor
    · rw [acceptsAll_append, committed.accepted]
      change (true && (Database.accepts write _ && true)) = true
      rw [accepted]
      rfl
    · rw [replayed]
      exact committed.balanced.apply integrity neutral accepted
    · rw [replayed]
      exact fun asked => (committed.solvent asked).apply neutral accepted
    · intro id member
      rcases List.mem_append.mp member with old | new
      · exact committed.kept id old
      · exact neutral.ne_delete id (List.mem_singleton.mp new)
    · rw [replayed]
      exact committed.debits.apply integrity neutral accepted

end ControlPlane
