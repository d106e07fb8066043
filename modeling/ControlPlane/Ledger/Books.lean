import ControlPlane.App
import Mathlib.Algebra.Ring.Int.Defs

/-!
# The books

What a sound ledger is: every transaction is one debit and one credit of the
same positive amount, every balance is the signed sum of its entries, all
balances sum to zero, and no organization owes more than its credit limit. The
five statements of a transfer keep the books sound, and so does every statement
that leaves the ledger alone.
-/

namespace ControlPlane

open ReadCommitted

/-- Credits count positive, debits negative. -/
def Entry.signed (entry : Entry) : Int :=
  match entry.side with
  | .debit => -entry.amountIrr
  | .credit => entry.amountIrr

namespace Db

/-- `SUM(CASE WHEN side='credit' THEN amount_irr ELSE -amount_irr END)` for one account. -/
def entriesBalance (db : Db) (accountId : Id) : Int :=
  ((db.entries.filter fun entry => entry.accountId = accountId).map Entry.signed).sum

/-- The accounts that the view `ledger_imbalance` reports. -/
def ledgerImbalance (db : Db) : List Account :=
  db.accounts.filter fun account => account.balanceIrr ≠ db.entriesBalance account.id

/-- The sum of all cached balances. -/
def totalBalance (db : Db) : Int := (db.accounts.map Account.balanceIrr).sum

/-- The credit limit of an owner; who is no organization has none. -/
def creditLimit (db : Db) (owner : String) : Int :=
  ((db.find .organizations owner).map Organization.creditLimitIrr).getD 0

end Db

/-- The credit limit of an organization. -/
theorem Db.creditLimit_eq {db : Db} {organizationId : Id} {organization : Organization}
    (found : db.find .organizations organizationId = some organization) :
    db.creditLimit organizationId = organization.creditLimitIrr :=
  congrArg (fun row : Option Organization => (row.map Organization.creditLimitIrr).getD 0) found

/-- A transaction consists of one debit and one credit of the same positive amount. -/
def DoubleEntry (db : Db) (transaction : Transaction) : Prop :=
  ∃ source target : Id, ∃ amountIrr : Int, 0 < amountIrr ∧
    (db.entries.filter fun entry => entry.transactionId = transaction.id) =
      [⟨transaction.id, source, .debit, amountIrr⟩, ⟨transaction.id, target, .credit, amountIrr⟩]

/-- The ledger is consistent. -/
structure Balanced (db : Db) : Prop where
  doubleEntry : ∀ transaction ∈ db.transactions, DoubleEntry db transaction
  balances : ∀ account ∈ db.accounts, account.balanceIrr = db.entriesBalance account.id
  total : db.totalBalance = 0

/-- An organization is not the system account, and its credit limit is no debt. -/
structure Organization.Creditworthy (organization : Organization) : Prop where
  owner : organization.id ≠ systemOwner
  limit : 0 ≤ organization.creditLimitIrr

/-- Nobody but the system account owes more than the agreed credit. -/
structure Solvent (db : Db) : Prop where
  limits : ∀ organization ∈ db.organizations, organization.Creditworthy
  bounded : ∀ account ∈ db.accounts, account.ownerKey ≠ systemOwner →
    -db.creditLimit account.ownerKey ≤ account.balanceIrr

/-- The ledger is consistent exactly when the view reports nothing, besides the transactions. -/
theorem ledgerImbalance_eq_nil {db : Db} :
    db.ledgerImbalance = [] ↔
      ∀ account ∈ db.accounts, account.balanceIrr = db.entriesBalance account.id := by
  simp [Db.ledgerImbalance, List.filter_eq_nil_iff]

/-! ## Postings -/

/-- The five statements of a transfer. -/
def posting (source target : Id) (amountIrr : Int) (transaction : Transaction) :
    List Database.Write :=
  [.update .accounts source ⟨-amountIrr⟩, .update .accounts target ⟨amountIrr⟩,
    .insert .transactions transaction,
    .insert .entries ⟨transaction.id, source, .debit, amountIrr⟩,
    .insert .entries ⟨transaction.id, target, .credit, amountIrr⟩]

/-- Add to the balance of one account. -/
def Account.shift (id : Id) (delta : Int) (account : Account) : Account :=
  if account.id = id then { account with balanceIrr := account.balanceIrr + delta } else account

namespace Account

@[simp] theorem shift_id (id : Id) (delta : Int) (account : Account) :
    (account.shift id delta).id = account.id := by
  unfold shift
  split <;> rfl

@[simp] theorem shift_ownerKey (id : Id) (delta : Int) (account : Account) :
    (account.shift id delta).ownerKey = account.ownerKey := by
  unfold shift
  split <;> rfl

theorem shift_balanceIrr (id : Id) (delta : Int) (account : Account) :
    (account.shift id delta).balanceIrr =
      account.balanceIrr + if account.id = id then delta else 0 := by
  unfold shift
  split <;> simp

end Account

/-- An update of a balance, row by row. -/
theorem amend_accounts (id : Id) (delta : Int) :
    @Layout.amend layout .accounts id ⟨delta⟩ = Account.shift id delta := by
  funext account
  unfold Layout.amend Account.shift
  simp only [Table.primaryKey, Option.some.injEq]
  rfl

/-- What a posting does to the tables. -/
theorem replay_posting (source target : Id) (amountIrr : Int) (transaction : Transaction)
    (db : Db) :
    replay (S := Database) (posting source target amountIrr transaction) db =
      { db with
        accounts := (db.accounts.map (Account.shift source (-amountIrr))).map
          (Account.shift target amountIrr)
        transactions := db.transactions ++ [transaction]
        entries := db.entries ++ [⟨transaction.id, source, .debit, amountIrr⟩,
          ⟨transaction.id, target, .credit, amountIrr⟩] } := by
  rw [← amend_accounts, ← amend_accounts, ← List.singleton_append (l := [_]), ← List.append_assoc]
  rfl

/-- The signed sum of an account's entries after a posting. -/
theorem entriesBalance_posting (source target : Id) (amountIrr : Int) (transaction : Transaction)
    (db : Db) (accountId : Id) :
    (replay (S := Database) (posting source target amountIrr transaction) db).entriesBalance
        accountId =
      db.entriesBalance accountId + (if accountId = source then -amountIrr else 0) +
        if accountId = target then amountIrr else 0 := by
  rw [replay_posting]
  unfold Db.entriesBalance
  simp only [List.filter_append, List.map_append, List.sum_append, List.filter_cons,
    List.filter_nil, decide_eq_true_eq, Int.add_assoc, eq_comm (a := accountId)]
  congr 1
  by_cases fromSource : source = accountId <;> by_cases toTarget : target = accountId <;>
    simp [fromSource, toTarget, Entry.signed]

/-- Shifting the balance of one account shifts the sum of all balances. -/
theorem sum_map_shift {accounts : List Account} (unique : (accounts.map Account.id).Nodup)
    {id : Id} (member : id ∈ accounts.map Account.id) (delta : Int) :
    ((accounts.map (Account.shift id delta)).map Account.balanceIrr).sum =
      (accounts.map Account.balanceIrr).sum + delta := by
  induction accounts with
  | nil => simp at member
  | cons account accounts inductionHypothesis =>
      simp only [List.map_cons, List.sum_cons, List.nodup_cons, List.mem_cons] at unique member ⊢
      rw [Account.shift_balanceIrr]
      by_cases same : account.id = id
      · have others : accounts.map (Account.shift id delta) = accounts := by
          refine (List.map_congr_left fun other otherMember => ?_).trans (List.map_id _)
          have different : other.id ≠ id := by
            intro equal
            exact unique.1 (same ▸ equal ▸ List.mem_map_of_mem otherMember)
          rw [Account.shift, if_neg different, id_eq]
        rw [others, if_pos same]
        omega
      · rw [if_neg same, inductionHypothesis unique.2 (member.resolve_left (Ne.symm same))]
        omega

/-! ## Integrity of the database, by table -/

namespace Integrity

variable {db : Db}

/-- Account ids are unique. -/
theorem accountIds (integrity : Integrity db) : (db.accounts.map Account.id).Nodup := by
  have unique := integrity.keys .accounts
  change (db.accounts.filterMap (some ∘ Account.id)).Nodup at unique
  rwa [List.filterMap_eq_map] at unique

/-- An idempotency key belongs to one transaction. -/
theorem transaction_eq (integrity : Integrity db) {first second : Transaction}
    (firstMember : first ∈ db.transactions) (secondMember : second ∈ db.transactions)
    (same : first.idempotencyKey = second.idempotencyKey) : first = second := by
  exact integrity.eq_of_entry .transactions firstMember rfl (List.mem_singleton_self _)
    secondMember rfl (by simp [Table.uniqueEntries, same])

/-- An account is determined by its id. -/
theorem account_eq (integrity : Integrity db) {first second : Account}
    (firstMember : first ∈ db.accounts) (secondMember : second ∈ db.accounts)
    (same : first.id = second.id) : first = second :=
  integrity.eq_of_key .accounts firstMember rfl secondMember
    (congrArg some same.symm)

end Integrity

/-! ## Postings keep the books -/

/-- Entries of a transaction exist only along with the transaction. -/
theorem Integrity.transaction_of_entry {db : Db} (integrity : Integrity db) {entry : Entry}
    (member : entry ∈ db.entries) :
    ∃ transaction ∈ db.transactions, transaction.id = entry.transactionId := by
  have present := integrity.parents .entries entry member ⟨.transactions, entry.transactionId⟩
    (List.mem_cons_self ..)
  obtain ⟨transaction, transactionMember, same⟩ := Layout.has_eq_true.mp present
  exact ⟨transaction, transactionMember, Option.some.inj same⟩

/-- Entries of an account exist only along with the account. -/
theorem Integrity.account_of_entry {db : Db} (integrity : Integrity db) {entry : Entry}
    (member : entry ∈ db.entries) : ∃ account ∈ db.accounts, account.id = entry.accountId := by
  have present := integrity.parents .entries entry member ⟨.accounts, entry.accountId⟩
    (List.mem_cons_of_mem _ (List.mem_cons_self ..))
  obtain ⟨account, accountMember, same⟩ := Layout.has_eq_true.mp present
  exact ⟨account, accountMember, Option.some.inj same⟩

/-- A posting between existing accounts keeps the ledger consistent. -/
theorem Balanced.posting {db : Db} (balanced : Balanced db) (integrity : Integrity db)
    {source target : Id} {amountIrr : Int} {transaction : Transaction}
    (positive : 0 < amountIrr)
    (sourceMember : source ∈ db.accounts.map Account.id)
    (targetMember : target ∈ db.accounts.map Account.id)
    (fresh : ∀ other ∈ db.transactions, other.id ≠ transaction.id) :
    Balanced (replay (S := Database) (posting source target amountIrr transaction) db) where
  doubleEntry := by
    have unused : ∀ entry ∈ db.entries, entry.transactionId ≠ transaction.id := by
      intro entry member equal
      obtain ⟨owner, ownerMember, same⟩ := integrity.transaction_of_entry member
      exact fresh owner ownerMember (same.trans equal)
    rw [replay_posting]
    intro other member
    simp only [List.mem_append, List.mem_singleton] at member
    rcases member with old | rfl
    · obtain ⟨debited, credited, moved, movedPositive, pair⟩ := balanced.doubleEntry other old
      refine ⟨debited, credited, moved, movedPositive, ?_⟩
      have different := (fresh other old).symm
      simp [List.filter_append, pair, different]
    · refine ⟨source, target, amountIrr, positive, ?_⟩
      have none : (db.entries.filter fun entry => entry.transactionId = other.id) = [] := by
        simpa [List.filter_eq_nil_iff] using unused
      simp [List.filter_append, none]
  balances := by
    intro account member
    rw [entriesBalance_posting]
    rw [replay_posting] at member
    obtain ⟨shifted, shiftedMember, rfl⟩ := List.mem_map.mp member
    obtain ⟨before, beforeMember, rfl⟩ := List.mem_map.mp shiftedMember
    rw [Account.shift_balanceIrr, Account.shift_balanceIrr, balanced.balances before beforeMember]
    simp
  total := by
    unfold Db.totalBalance
    rw [replay_posting]
    have ids : (db.accounts.map (Account.shift source (-amountIrr))).map Account.id =
        db.accounts.map Account.id := by
      simp [Function.comp_def]
    have before : (db.accounts.map Account.balanceIrr).sum = 0 := balanced.total
    rw [sum_map_shift (by rw [ids]; exact integrity.accountIds) (by rw [ids]; exact targetMember),
      sum_map_shift integrity.accountIds sourceMember, before]
    omega

/-- A posting keeps everybody within the credit limits when the payer stays within its own. -/
theorem Solvent.posting {db : Db} (solvent : Solvent db) (integrity : Integrity db)
    {source : Account} {target : Id} {amountIrr : Int} {transaction : Transaction}
    (positive : 0 < amountIrr)
    (sourceMember : source ∈ db.accounts)
    (affordable : source.ownerKey ≠ systemOwner →
      amountIrr ≤ source.balanceIrr + db.creditLimit source.ownerKey) :
    Solvent (replay (S := Database) (posting source.id target amountIrr transaction) db) where
  limits := by
    rw [replay_posting]
    exact solvent.limits
  bounded := by
    intro account member owned
    have limit : (replay (S := Database) (ControlPlane.posting source.id target amountIrr
        transaction) db).creditLimit account.ownerKey = db.creditLimit account.ownerKey := by
      rw [replay_posting]
      rfl
    rw [limit]
    rw [replay_posting] at member
    obtain ⟨shifted, shiftedMember, rfl⟩ := List.mem_map.mp member
    obtain ⟨before, beforeMember, rfl⟩ := List.mem_map.mp shiftedMember
    simp only [Account.shift_ownerKey] at owned ⊢
    rw [Account.shift_balanceIrr, Account.shift_balanceIrr, Account.shift_id]
    have bound := solvent.bounded before beforeMember owned
    by_cases paying : before.id = source.id
    · have same := integrity.account_eq beforeMember sourceMember paying
      subst same
      have enough := affordable owned
      rw [if_pos rfl]
      split <;> omega
    · rw [if_neg paying]
      split <;> omega

/-! ## Statements that leave the ledger alone -/

/-- Statements that may be mixed freely with transfers: they touch neither balances nor
ledger rows, new wallets are empty and new organizations have a credit limit. -/
def LedgerNeutral : Database.Write → Prop
  | .insert .accounts row => row.balanceIrr = 0
  | .insert .organizations row => row.Creditworthy
  | .insert .transactions _ | .insert .entries _ | .update .accounts _ _ => False
  | .delete .accounts _ | .delete .transactions _ | .delete .entries _
  | .delete .organizations _ => False
  | _ => True

namespace LedgerNeutral

variable {statement : Database.Write}

/-- The tables of the ledger other than the wallets are not written. -/
theorem rows_eq (neutral : LedgerNeutral statement) (db : Db) :
    (statement.apply db).transactions = db.transactions ∧
      (statement.apply db).entries = db.entries := by
  cases statement with
  | insert table row => cases table <;> first | exact ⟨rfl, rfl⟩ | exact neutral.elim
  | update table key columns => cases table <;> first | exact ⟨rfl, rfl⟩ | exact columns.elim
  | delete table key => cases table <;> first | exact ⟨rfl, rfl⟩ | exact neutral.elim

/-- Wallets stay as they are, or an empty one is opened. -/
theorem accounts_cases (neutral : LedgerNeutral statement) (db : Db) :
    (statement.apply db).accounts = db.accounts ∨
      ∃ row : Account, statement = .insert .accounts row ∧ row.balanceIrr = 0 := by
  cases statement with
  | insert table row =>
      cases table with
      | accounts => exact .inr ⟨row, rfl, neutral⟩
      | _ => exact .inl rfl
  | update table key columns =>
      cases table with
      | accounts => exact neutral.elim
      | _ => exact .inl rfl
  | delete table key =>
      cases table with
      | accounts => exact neutral.elim
      | _ => exact .inl rfl

end LedgerNeutral

/-- Whether the ledger is consistent depends on its three tables. -/
theorem Balanced.congr {db other : Db} (balanced : Balanced db)
    (accounts : other.accounts = db.accounts) (transactions : other.transactions = db.transactions)
    (entries : other.entries = db.entries) : Balanced other where
  doubleEntry := by
    unfold DoubleEntry
    rw [transactions, entries]
    exact balanced.doubleEntry
  balances := by
    unfold Db.entriesBalance
    rw [accounts, entries]
    exact balanced.balances
  total := by
    unfold Db.totalBalance
    rw [accounts]
    exact balanced.total

/-- A neutral statement keeps the ledger consistent. -/
theorem Balanced.apply {db : Db} (balanced : Balanced db) (integrity : Integrity db)
    {statement : Database.Write} (neutral : LedgerNeutral statement)
    (accepted : statement.accepts db = true) : Balanced (statement.apply db) := by
  obtain ⟨transactions, entries⟩ := neutral.rows_eq db
  rcases neutral.accounts_cases db with same | ⟨row, rfl, empty⟩
  · exact balanced.congr same transactions entries
  · constructor
    · exact balanced.doubleEntry
    · intro account member
      rcases List.mem_append.mp member with old | new
      · exact balanced.balances account old
      · rw [List.mem_singleton.mp new, empty]
        have unused : (db.entries.filter fun entry => entry.accountId = row.id) = [] := by
          rw [List.filter_eq_nil_iff]
          intro entry entryMember
          obtain ⟨holder, holderMember, same⟩ := integrity.account_of_entry entryMember
          intro its
          exact Layout.Statement.unused_of_accepts accepted rfl holder holderMember
            (congrArg some (same.trans (of_decide_eq_true its)))
        change 0 = db.entriesBalance row.id
        rw [Db.entriesBalance, unused]
        rfl
    · change ((db.accounts ++ [row]).map Account.balanceIrr).sum = 0
      have before : (db.accounts.map Account.balanceIrr).sum = 0 := balanced.total
      simp [before, empty]

/-- A neutral statement never lowers a credit limit. -/
theorem LedgerNeutral.creditLimit_le {statement : Database.Write}
    (neutral : LedgerNeutral statement) {db : Db} (accepted : statement.accepts db = true)
    (owner : String) : db.creditLimit owner ≤ (statement.apply db).creditLimit owner := by
  by_cases written : Table.organizations = Layout.Statement.table statement
  · cases statement with
    | insert table row =>
        subst written
        unfold Db.creditLimit
        rw [Db.find_apply_insert]
        cases found : db.find .organizations owner with
        | some organization => simp
        | none =>
            have limit : 0 ≤ row.creditLimitIrr := neutral.limit
            split <;> simp [limit]
    | update table key columns =>
        subst written
        unfold Db.creditLimit
        rw [Db.find_apply_update, Option.map_map]
        refine le_of_eq (congrArg (Option.getD · 0) ?_)
        refine Option.map_congr fun row _ => ?_
        simp only [Function.comp_apply, Layout.amend]
        split <;> rfl
    | delete table key =>
        subst written
        exact neutral.elim
  · unfold Db.creditLimit
    rw [Db.find_apply_of_ne db written]

/-- A neutral statement keeps everybody within the credit limits. -/
theorem Solvent.apply {db : Db} (solvent : Solvent db) {statement : Database.Write}
    (neutral : LedgerNeutral statement) (accepted : statement.accepts db = true) :
    Solvent (statement.apply db) where
  limits := by
    by_cases written : Table.organizations = Layout.Statement.table statement
    · cases statement with
      | insert table row =>
          subst written
          intro organization member
          rcases List.mem_append.mp member with old | new
          · exact solvent.limits organization old
          · rw [List.mem_singleton.mp new]
            exact neutral
      | update table key columns =>
          subst written
          intro organization member
          obtain ⟨before, beforeMember, rfl⟩ := List.mem_map.mp member
          have limit := solvent.limits before beforeMember
          unfold Layout.amend
          split <;> exact ⟨limit.owner, limit.limit⟩
      | delete table key =>
          subst written
          exact neutral.elim
    · rw [show (statement.apply db).organizations = db.organizations from
        Layout.Statement.rows_apply_of_ne (L := layout) db written]
      exact solvent.limits
  bounded := by
    intro account member owned
    have limit := neutral.creditLimit_le accepted account.ownerKey
    rcases neutral.accounts_cases db with same | ⟨row, rfl, empty⟩
    · rw [same] at member
      have bound := solvent.bounded account member owned
      omega
    · rcases List.mem_append.mp member with old | new
      · have bound := solvent.bounded account old owned
        omega
      · have nonneg : 0 ≤ db.creditLimit account.ownerKey := by
          unfold Db.creditLimit
          cases found : db.find .organizations account.ownerKey with
          | none => simp
          | some organization => exact (solvent.limits organization (Db.find_mem found).1).limit
        rw [List.mem_singleton.mp new] at nonneg limit ⊢
        rw [empty]
        omega

end ControlPlane
