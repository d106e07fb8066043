import ControlPlane.Library.Relational
import ControlPlane.Tables

/-!
# The database layout

The tables with their primary keys, unique indexes, foreign keys, column ranges
and check constraints, as the models and the migrations declare them, and the
schema of transactions that they give. The questions that operations ask the
outside world are listed here as well: fresh identifiers, the clock, panels,
Telegram and the dialogue store.
-/

namespace ControlPlane

open ReadCommitted

inductive Table
  | organizations
  | closures
  | contracts
  | accounts
  | transactions
  | entries
  | panels
  | panelOwners
  | planCategories
  | plans
  | bindings
  | checkpoints
  | usages
  | outbox
  | actors
  | memberships
  | fundingRequests
  | orders
  | settings
  | auditLogs
  | approvals
  deriving DecidableEq, Repr

namespace Table

/-- Every table. -/
def all : List Table :=
  [.organizations, .closures, .contracts, .accounts, .transactions, .entries, .panels,
    .panelOwners, .planCategories, .plans, .bindings, .checkpoints, .usages, .outbox, .actors,
    .memberships, .fundingRequests, .orders, .settings, .auditLogs, .approvals]

abbrev Row : Table → Type
  | .organizations => Organization
  | .closures => Closure
  | .contracts => Contract
  | .accounts => Account
  | .transactions => Transaction
  | .entries => Entry
  | .panels => Panel
  | .panelOwners => PanelOwner
  | .planCategories => PlanCategory
  | .plans => Plan
  | .bindings => Binding
  | .checkpoints => Checkpoint
  | .usages => Usage
  | .outbox => Outbox
  | .actors => Actor
  | .memberships => Membership
  | .fundingRequests => FundingRequest
  | .orders => PanelOrder
  | .settings => SystemSetting
  | .auditLogs => AuditLog
  | .approvals => ApprovalRequest

/-- Values of the primary keys. -/
abbrev Key : Table → Type
  | .closures => Id × Id
  | _ => Id

/-- The unique indexes of `bindings`. -/
inductive BindingEntry
  | organization (organizationId : Id)
  | admin (panelId : Id) (pgAdminId : Int)
  deriving DecidableEq, Repr

/-- Values of the unique indexes. -/
abbrev Entry : Table → Type
  | .organizations => String
  | .contracts => Id
  | .accounts => String
  | .transactions => String
  | .planCategories => Id × String
  | .bindings => BindingEntry
  | .outbox => String × Id
  | .actors => Int
  | .memberships => Id × Id
  | .orders => String
  | _ => Empty

/-- Assignments to columns. -/
abbrev Change : Table → Type
  | .organizations => OrganizationColumns
  | .accounts => AccountColumns
  | .panels => PanelColumns
  | .planCategories => PlanCategoryColumns
  | .plans => PlanColumns
  | .bindings => BindingColumns
  | .checkpoints => CheckpointColumns
  | .outbox => OutboxColumns
  | .actors => ActorColumns
  | .fundingRequests => FundingRequestColumns
  | .orders => PanelOrderColumns
  | .settings => SystemSettingColumns
  | .approvals => ApprovalRequestColumns
  | _ => Empty

instance decidableKey : (table : Table) → DecidableEq table.Key
  | .closures => inferInstanceAs (DecidableEq (Id × Id))
  | .organizations | .contracts | .accounts | .transactions | .entries | .panels
  | .panelOwners | .planCategories | .plans | .bindings | .checkpoints | .usages | .outbox
  | .actors | .memberships | .fundingRequests | .orders | .settings | .auditLogs
  | .approvals => inferInstanceAs (DecidableEq Id)

instance decidableEntry : (table : Table) → DecidableEq table.Entry
  | .organizations | .contracts | .accounts | .transactions | .orders =>
      inferInstanceAs (DecidableEq String)
  | .planCategories => inferInstanceAs (DecidableEq (Id × String))
  | .bindings => inferInstanceAs (DecidableEq BindingEntry)
  | .outbox => inferInstanceAs (DecidableEq (String × Id))
  | .actors => inferInstanceAs (DecidableEq Int)
  | .memberships => inferInstanceAs (DecidableEq (Id × Id))
  | .closures | .entries | .panels | .panelOwners | .plans | .checkpoints | .usages
  | .fundingRequests | .settings | .auditLogs | .approvals =>
      inferInstanceAs (DecidableEq Empty)

end Table

namespace Db

/-- The rows of a table. -/
abbrev rows (db : Db) : (table : Table) → List table.Row
  | .organizations => db.organizations
  | .closures => db.closures
  | .contracts => db.contracts
  | .accounts => db.accounts
  | .transactions => db.transactions
  | .entries => db.entries
  | .panels => db.panels
  | .panelOwners => db.panelOwners
  | .planCategories => db.planCategories
  | .plans => db.plans
  | .bindings => db.bindings
  | .checkpoints => db.checkpoints
  | .usages => db.usages
  | .outbox => db.outbox
  | .actors => db.actors
  | .memberships => db.memberships
  | .fundingRequests => db.fundingRequests
  | .orders => db.orders
  | .settings => db.settings
  | .auditLogs => db.auditLogs
  | .approvals => db.approvals

/-- Replace the rows of a table. -/
def put (db : Db) : (table : Table) → List table.Row → Db
  | .organizations, rows => { db with organizations := rows }
  | .closures, rows => { db with closures := rows }
  | .contracts, rows => { db with contracts := rows }
  | .accounts, rows => { db with accounts := rows }
  | .transactions, rows => { db with transactions := rows }
  | .entries, rows => { db with entries := rows }
  | .panels, rows => { db with panels := rows }
  | .panelOwners, rows => { db with panelOwners := rows }
  | .planCategories, rows => { db with planCategories := rows }
  | .plans, rows => { db with plans := rows }
  | .bindings, rows => { db with bindings := rows }
  | .checkpoints, rows => { db with checkpoints := rows }
  | .usages, rows => { db with usages := rows }
  | .outbox, rows => { db with outbox := rows }
  | .actors, rows => { db with actors := rows }
  | .memberships, rows => { db with memberships := rows }
  | .fundingRequests, rows => { db with fundingRequests := rows }
  | .orders, rows => { db with orders := rows }
  | .settings, rows => { db with settings := rows }
  | .auditLogs, rows => { db with auditLogs := rows }
  | .approvals, rows => { db with approvals := rows }

theorem rows_put_self (db : Db) (table : Table) (rows : List table.Row) :
    (db.put table rows).rows table = rows := by
  cases table <;> rfl

theorem rows_put_of_ne (db : Db) {table other : Table} (rows : List table.Row)
    (different : other ≠ table) : (db.put table rows).rows other = db.rows other := by
  cases table <;> cases other <;> first | rfl | exact absurd rfl different

end Db

namespace Table

/-- The primary keys; nothing refers to the keys of entries, usage rows and audit rows. -/
def primaryKey : {table : Table} → table.Row → Option table.Key
  | .organizations, row => some row.id
  | .closures, row => some (row.ancestorId, row.descendantId)
  | .contracts, row => some row.id
  | .accounts, row => some row.id
  | .transactions, row => some row.id
  | .entries, _ => none
  | .panels, row => some row.id
  | .panelOwners, row => some row.panelId
  | .planCategories, row => some row.id
  | .plans, row => some row.id
  | .bindings, row => some row.id
  | .checkpoints, row => some row.bindingId
  | .usages, _ => none
  | .outbox, row => some row.id
  | .actors, row => some row.id
  | .memberships, row => some row.id
  | .fundingRequests, row => some row.id
  | .orders, row => some row.id
  | .settings, row => some row.key
  | .auditLogs, _ => none
  | .approvals, row => some row.id

/-- What a row occupies in the unique indexes of its table. -/
def uniqueEntries : {table : Table} → table.Row → List table.Entry
  | .organizations, row => [row.slug]
  | .contracts, row => [row.childId]
  | .accounts, row => [row.ownerKey]
  | .transactions, row => [row.idempotencyKey]
  | .planCategories, row => [(row.organizationId, row.name)]
  | .bindings, row => [.organization row.organizationId, .admin row.panelId row.pgAdminId]
  -- uq_outbox_pending_per_aggregate is a partial index
  | .outbox, row => if row.status = .pending then [(row.topic, row.aggregateId)] else []
  | .actors, row => [row.telegramId]
  | .memberships, row => [(row.organizationId, row.actorId)]
  | .orders, row => [row.slug]
  | .closures, _ | .entries, _ | .panels, _ | .panelOwners, _ | .plans, _ | .checkpoints, _
  | .usages, _ | .fundingRequests, _ | .settings, _ | .auditLogs, _ | .approvals, _ => []

/-- The rows that a row refers to by foreign keys. -/
def foreignKeys : {table : Table} → table.Row → List (Σ parent : Table, parent.Key)
  | .organizations, row => row.parentId.toList.map (⟨.organizations, ·⟩)
  | .closures, row => [⟨.organizations, row.ancestorId⟩, ⟨.organizations, row.descendantId⟩]
  | .contracts, row => [⟨.organizations, row.parentId⟩, ⟨.organizations, row.childId⟩]
  | .entries, row => [⟨.transactions, row.transactionId⟩, ⟨.accounts, row.accountId⟩]
  | .panelOwners, row => [⟨.panels, row.panelId⟩, ⟨.organizations, row.organizationId⟩]
  | .planCategories, row => [⟨.organizations, row.organizationId⟩]
  | .plans, row =>
      [⟨.organizations, row.organizationId⟩, ⟨.panels, row.panelId⟩] ++
        row.categoryId.toList.map (⟨.planCategories, ·⟩)
  | .bindings, row => [⟨.organizations, row.organizationId⟩, ⟨.panels, row.panelId⟩]
  | .checkpoints, row => [⟨.bindings, row.bindingId⟩]
  | .usages, row => [⟨.bindings, row.bindingId⟩]
  | .memberships, row => [⟨.organizations, row.organizationId⟩, ⟨.actors, row.actorId⟩]
  | .fundingRequests, row => [⟨.organizations, row.organizationId⟩, ⟨.actors, row.actorId⟩]
  | .orders, row =>
      [⟨.actors, row.actorId⟩, ⟨.panels, row.panelId⟩] ++
        row.planId.toList.map (⟨.plans, ·⟩) ++
        row.organizationId.toList.map (⟨.organizations, ·⟩)
  | .accounts, _ | .transactions, _ | .panels, _ | .outbox, _ | .actors, _ | .settings, _
  | .auditLogs, _ | .approvals, _ => []

/-- `bigint`. -/
def bigint (value : Int) : Bool := -9223372036854775808 ≤ value && value ≤ 9223372036854775807

/-- `integer`. -/
def integer (value : Int) : Bool := -2147483648 ≤ value && value ≤ 2147483647

/-- `varchar(n)`. -/
def varchar (length : Nat) (value : String) : Bool := value.length ≤ length

/-- Column types and check constraints. -/
def valid : {table : Table} → table.Row → Bool
  | .organizations, row =>
      varchar 36 row.id && varchar 160 row.name && varchar 80 row.slug &&
        bigint row.creditLimitIrr && integer row.maxDepth
  | .closures, row => integer row.depth
  | .contracts, row => varchar 36 row.id && bigint row.pricePerGibIrr
  | .accounts, row => varchar 36 row.id && varchar 80 row.ownerKey && bigint row.balanceIrr
  | .transactions, row =>
      varchar 36 row.id && varchar 180 row.idempotencyKey && varchar 40 row.kind &&
        varchar 180 row.reference && row.actorId.all (varchar 36)
  | .entries, row => bigint row.amountIrr && 0 < row.amountIrr
  | .panels, row =>
      varchar 36 row.id && varchar 120 row.name && varchar 500 row.baseUrl &&
        varchar 32 row.vendor && 0 < row.usageCoefficient && row.usageCoefficient ≤ 10000000
  | .panelOwners, _ => true
  | .planCategories, row =>
      varchar 36 row.id && varchar 80 row.name && varchar 500 row.description
  | .plans, row =>
      varchar 36 row.id && varchar 120 row.name && varchar 1000 row.description &&
        bigint row.pricePerGibIrr && integer row.dailyGib && integer row.durationDays &&
        integer row.userCount && bigint row.creditLimitIrr && 0 < row.pricePerGibIrr &&
        0 < row.dailyGib && 0 < row.durationDays && 0 < row.userCount && 0 ≤ row.creditLimitIrr
  | .bindings, row => varchar 36 row.id && integer row.pgAdminId && varchar 80 row.username
  | .checkpoints, row => bigint row.lifetimeBytes && integer row.anomalyCount
  | .usages, row => bigint row.lifetimeBytes && bigint row.deltaBytes
  | .outbox, row =>
      varchar 36 row.id && varchar 80 row.topic && varchar 80 row.aggregateId &&
        integer row.attempts && row.claimedBy.all (varchar 80)
  | .actors, row =>
      varchar 36 row.id && bigint row.telegramId && varchar 160 row.displayName
  | .memberships, row => varchar 36 row.id
  | .fundingRequests, row =>
      varchar 36 row.id && bigint row.amountIrr && row.decidedBy.all (varchar 36)
  | .orders, row =>
      varchar 36 row.id && varchar 160 row.businessName && varchar 80 row.slug &&
        integer row.userCount && integer row.dailyGib && varchar 500 row.note &&
        bigint row.creditLimitIrr && bigint row.pricePerGibIrr && bigint row.amountIrr &&
        varchar 80 row.adminUsername && row.pgAdminId.all integer &&
        row.decidedBy.all (varchar 36) && varchar 500 row.rejectionReason &&
        0 < row.userCount && 0 < row.dailyGib && 0 ≤ row.creditLimitIrr &&
        0 ≤ row.pricePerGibIrr
  | .settings, row => varchar 100 row.key
  | .auditLogs, row =>
      row.actorId.all (varchar 36) && row.organizationId.all (varchar 36) &&
        varchar 100 row.action && varchar 80 row.targetType && varchar 100 row.targetId
  | .approvals, row =>
      varchar 36 row.requesterId && row.approverId.all (varchar 36) &&
        varchar 100 row.action && varchar 80 row.targetType && varchar 100 row.targetId

/-- Assign columns. -/
def change : {table : Table} → table.Change → table.Row → table.Row
  | .organizations, columns, row => { row with status := columns.status.getD row.status }
  | .accounts, columns, row => { row with balanceIrr := row.balanceIrr + columns.balanceDelta }
  | .panels, columns, row => { row with
      usageCoefficient := columns.usageCoefficient.getD row.usageCoefficient
      saleable := columns.saleable.getD row.saleable }
  | .planCategories, columns, row => { row with
      name := columns.name.getD row.name
      description := columns.description.getD row.description
      status := columns.status.getD row.status }
  | .plans, columns, row => { row with
      panelId := columns.panelId.getD row.panelId
      categoryId := columns.categoryId.getD row.categoryId
      name := columns.name.getD row.name
      description := columns.description.getD row.description
      pricePerGibIrr := columns.pricePerGibIrr.getD row.pricePerGibIrr
      dailyGib := columns.dailyGib.getD row.dailyGib
      durationDays := columns.durationDays.getD row.durationDays
      userCount := columns.userCount.getD row.userCount
      creditLimitIrr := columns.creditLimitIrr.getD row.creditLimitIrr
      paymentInstructions := columns.paymentInstructions.getD row.paymentInstructions
      status := columns.status.getD row.status }
  | .bindings, columns, row => { row with status := columns.status.getD row.status }
  | .checkpoints, columns, row => { row with
      lifetimeBytes := columns.lifetimeBytes.getD row.lifetimeBytes
      observedAt := columns.observedAt.getD row.observedAt
      anomalyCount := columns.anomalyCount.getD row.anomalyCount }
  | .outbox, columns, row => { row with
      status := columns.status.getD row.status
      attempts := columns.attempts.getD row.attempts
      nextAttemptAt := columns.nextAttemptAt.getD row.nextAttemptAt
      claimedBy := columns.claimedBy.getD row.claimedBy
      claimedAt := columns.claimedAt.getD row.claimedAt
      lastError := columns.lastError.getD row.lastError }
  | .actors, columns, row => { row with
      displayName := columns.displayName.getD row.displayName
      status := columns.status.getD row.status }
  | .fundingRequests, columns, row => { row with
      status := columns.status.getD row.status
      decidedBy := columns.decidedBy.getD row.decidedBy
      decidedAt := columns.decidedAt.getD row.decidedAt }
  | .orders, columns, row => { row with
      status := columns.status.getD row.status
      creditLimitIrr := columns.creditLimitIrr.getD row.creditLimitIrr
      pricePerGibIrr := columns.pricePerGibIrr.getD row.pricePerGibIrr
      amountIrr := columns.amountIrr.getD row.amountIrr
      paymentInstructions := columns.paymentInstructions.getD row.paymentInstructions
      adminUsername := columns.adminUsername.getD row.adminUsername
      pgAdminId := columns.pgAdminId.getD row.pgAdminId
      organizationId := columns.organizationId.getD row.organizationId
      decidedBy := columns.decidedBy.getD row.decidedBy
      decidedAt := columns.decidedAt.getD row.decidedAt
      rejectionReason := columns.rejectionReason.getD row.rejectionReason }
  | .settings, columns, row => { row with value := columns.value.getD row.value }
  | .approvals, columns, row => { row with
      status := columns.status.getD row.status
      approverId := columns.approverId.getD row.approverId
      decidedAt := columns.decidedAt.getD row.decidedAt
      decisionNote := columns.decisionNote.getD row.decisionNote }

theorem key_change : ∀ {table : Table} (columns : table.Change) (row : table.Row),
    primaryKey (change columns row) = primaryKey row := by
  intro table columns row
  cases table <;> first | rfl | cases columns

end Table

/-- The tables of the control plane. -/
abbrev layout : Layout where
  Store := Db
  Table := Table
  Row := Table.Row
  Key := Table.Key
  Entry := Table.Entry
  Change := Table.Change
  tables := Table.all
  rows := Db.rows
  put table rows db := db.put table rows
  key := Table.primaryKey
  entries := Table.uniqueEntries
  parents := Table.foreignKeys
  valid := Table.valid
  change := Table.change
  mem_tables table := by cases table <;> simp [Table.all]
  rows_put_self table rows db := db.rows_put_self table rows
  rows_put_of_ne rows db different := db.rows_put_of_ne rows different
  key_change := Table.key_change

end ControlPlane
