import ControlPlane.Ledger.Payments

/-!
# Decisions about money

A funding request or an adjustment stays open until it is decided, and causes
one payment when it is granted. The key of its transaction is derived from its
id, so that the ledger shows which decisions were paid.
-/

namespace ControlPlane

open ReadCommitted Orm

/-! ## Payments -/

/-- What a granted decision pays. -/
structure Payment where
  source : String
  target : String
  amountIrr : Int
  key : String

/-- The payment of an approved funding request. -/
def FundingRequest.payment (request : FundingRequest) : Payment :=
  ⟨systemOwner, request.organizationId, request.amountIrr, "funding-request:" ++ request.id⟩

/-- The payment of an executed adjustment, in the direction of its sign. -/
def ApprovalRequest.payment (approval : ApprovalRequest) : Payment :=
  if 0 < approval.amountIrr then
    ⟨systemOwner, approval.targetId, approval.amountIrr, "approval:" ++ approval.id⟩
  else ⟨approval.targetId, systemOwner, -approval.amountIrr, "approval:" ++ approval.id⟩

/-- The key of an adjustment does not depend on its direction. -/
@[simp] theorem ApprovalRequest.payment_key (approval : ApprovalRequest) :
    approval.payment.key = "approval:" ++ approval.id := by
  unfold payment
  split <;> rfl

/-- Keys that are derived from decisions. -/
def Derived (key : String) : Prop :=
  ∃ id, key = "funding-request:" ++ id ∨ key = "approval:" ++ id

/-- The keys of the two kinds of decisions are different. -/
theorem derived_ne (request approval : Id) :
    "funding-request:" ++ request ≠ "approval:" ++ approval := by
  intro same
  have first := congrArg (fun text : String => text.toList.head?) same
  simp at first

namespace Db

variable (db : Db)

/-- The payments of the decisions that were granted. -/
def payments : List Payment :=
  (db.fundingRequests.filter fun row => row.status = .approved).map FundingRequest.payment ++
    (db.approvals.filter fun row => row.status = .executed).map ApprovalRequest.payment

/-- A payment is in the ledger: the entries of its transaction are a debit of the source and a
credit of the target. -/
def Settled (payment : Payment) : Prop :=
  ∃ transaction ∈ db.transactions, transaction.idempotencyKey = payment.key ∧
    ∃ source target, (source, payment.source) ∈ db.owners ∧ (target, payment.target) ∈ db.owners ∧
      db.entries.filter (fun entry => entry.transactionId = transaction.id) =
        [⟨transaction.id, source, .debit, payment.amountIrr⟩,
          ⟨transaction.id, target, .credit, payment.amountIrr⟩]

end Db

/-! ## Decisive statements -/

/-- Statements that write decisions or the ledger, deletions, and system administrators. -/
def decisive : Database.Write → Bool
  | .insert .transactions _ | .insert .entries _ | .insert .fundingRequests _
  | .update .fundingRequests _ _ | .insert .approvals _ | .update .approvals _ _
  | .delete _ _ => true
  | .insert .memberships row => row.role = .systemAdmin
  | _ => false

instance : Tallies decisive where
  transaction _ := rfl
  entry _ := rfl
  delete _ _ := rfl
  wallet _ := rfl
  balance _ _ := rfl

/-- The tables that decisions are about. -/
structure Docket where
  fundingRequests : List FundingRequest
  approvals : List ApprovalRequest
  transactions : List Transaction
  entries : List Entry

/-- The docket of a database. -/
def Db.docket (db : Db) : Docket :=
  ⟨db.fundingRequests, db.approvals, db.transactions, db.entries⟩

/-- What a statement does to a table depends on the rows of the table only. -/
theorem rows_congr (statement : Database.Write) (table : Table) {db other : Db}
    (same : db.rows table = other.rows table) :
    Db.rows (statement.apply db) table = Db.rows (statement.apply other) table := by
  by_cases written : table = Layout.Statement.table statement
  · subst written
    cases statement with
    | insert table row =>
        exact (Layout.Statement.rows_apply_insert (L := layout) ..).trans
          ((congrArg (· ++ [row]) same).trans
            (Layout.Statement.rows_apply_insert (L := layout) ..).symm)
    | update table key columns =>
        exact (Layout.Statement.rows_apply_update (L := layout) ..).trans
          ((congrArg (List.map _) same).trans
            (Layout.Statement.rows_apply_update (L := layout) ..).symm)
    | delete table key =>
        exact (Layout.Statement.rows_apply_delete (L := layout) ..).trans
          ((congrArg (List.filter _) same).trans
            (Layout.Statement.rows_apply_delete (L := layout) ..).symm)
  · exact (Layout.Statement.rows_apply_of_ne (L := layout) _ written).trans
      (same.trans (Layout.Statement.rows_apply_of_ne (L := layout) _ written).symm)

/-- The docket consists of four tables. -/
theorem docket_ext {db other : Db}
    (same : ∀ table ∈ [Table.fundingRequests, .approvals, .transactions, .entries],
      db.rows table = other.rows table) : db.docket = other.docket := by
  have requests : db.fundingRequests = other.fundingRequests := same .fundingRequests (by decide)
  have approvals : db.approvals = other.approvals := same .approvals (by decide)
  have transactions : db.transactions = other.transactions := same .transactions (by decide)
  have entries : db.entries = other.entries := same .entries (by decide)
  unfold Db.docket
  rw [requests, approvals, transactions, entries]

/-- Other statements leave the docket alone. -/
theorem docket_apply {statement : Database.Write} (other : decisive statement = false) (db : Db) :
    Db.docket (statement.apply db) = db.docket := by
  refine docket_ext fun table member => ?_
  by_cases written : table = Layout.Statement.table statement
  · subst written
    cases statement with
    | insert table row =>
        cases table <;> first
          | simp [decisive] at other; done
          | simp [Layout.Statement.table] at member
    | update table key columns =>
        cases table <;> first
          | exact columns.elim
          | simp [decisive] at other; done
          | simp [Layout.Statement.table] at member
    | delete table key => simp [decisive] at other
  · exact Layout.Statement.rows_apply_of_ne (L := layout) db written

/-- What a statement does to the docket depends on the docket only. -/
theorem docket_congr (statement : Database.Write) {db other : Db}
    (same : db.docket = other.docket) :
    Db.docket (statement.apply db) = Db.docket (statement.apply other) := by
  refine docket_ext fun table member => rows_congr statement table ?_
  simp only [List.mem_cons, List.not_mem_nil, or_false] at member
  rcases member with rfl | rfl | rfl | rfl
  · exact congrArg Docket.fundingRequests same
  · exact congrArg Docket.approvals same
  · exact congrArg Docket.transactions same
  · exact congrArg Docket.entries same

/-- The docket only depends on the decisive statements. -/
theorem docket_replay (log : List Database.Write) {db other : Db} (same : db.docket = other.docket) :
    Db.docket (replay (S := Database) log db) =
      Db.docket (replay (S := Database) (log.filter decisive) other) := by
  induction log generalizing db other with
  | nil => exact same
  | cons statement log inductionHypothesis =>
      rw [replay_cons]
      by_cases written : decisive statement = true
      · rw [List.filter_cons_of_pos written, replay_cons]
        exact inductionHypothesis (docket_congr statement same)
      · rw [List.filter_cons_of_neg written]
        exact inductionHypothesis ((docket_apply (by simpa using written) db).trans same)

/-! ## Rows that are replaced -/

/-- A row was added, or took the place of a row that was open. -/
structure Replaces {α : Type} (id : α → Id) (isOpen : α → Prop) (rows later : List α) (new : α) :
    Prop where
  mem : ∀ row, row ∈ later ↔ row = new ∨ row ∈ rows ∧ id row ≠ id new
  replaced : ∀ row ∈ rows, id row = id new → isOpen row

/-- The rows after an update of one of them. -/
theorem Integrity.mem_amend {db : Db} (integrity : Integrity db) {table : Table} {key : table.Key}
    {row : table.Row} (member : row ∈ db.rows table) (own : Table.primaryKey row = some key)
    (columns : table.Change) (other : table.Row) :
    other ∈ (db.rows table).map (Layout.amend (L := layout) key columns) ↔
      other = Table.change columns row ∨
        other ∈ db.rows table ∧ Table.primaryKey other ≠ some key := by
  rw [List.mem_map]
  constructor
  · rintro ⟨before, beforeMember, rfl⟩
    unfold Layout.amend
    by_cases same : layout.key before = some key
    · rw [if_pos same]
      exact .inl (congrArg _ (integrity.eq_of_key table beforeMember same member own))
    · rw [if_neg same]
      exact .inr ⟨beforeMember, same⟩
  · rintro (rfl | ⟨kept, different⟩)
    · exact ⟨row, member, if_pos own⟩
    · exact ⟨other, kept, if_neg different⟩

/-- Which payments the decisions call for. -/
theorem Db.mem_payments {db : Db} {payment : Payment} :
    payment ∈ db.payments ↔
      (∃ request ∈ db.fundingRequests, request.status = .approved ∧ request.payment = payment) ∨
        ∃ approval ∈ db.approvals, approval.status = .executed ∧ approval.payment = payment := by
  simp [payments, and_assoc]

end ControlPlane
