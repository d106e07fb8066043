import ControlPlane.Library.Decimal
import Mathlib.Tactic.Common

/-!
# Rows and tables

The rows that the control plane keeps in PostgreSQL, with the columns its
operations read or write, and the database as one list of rows per table. The
order of a list is the physical order in which an unordered query meets the
rows. Display columns and timestamps that no operation reads are left out. An
update names the columns it assigns; the others keep their value.
-/

namespace ControlPlane

open DecimalArithmetic

/-- Primary keys and other opaque identifiers. -/
abbrev Id := String

/-- Instants in microseconds since the epoch. -/
abbrev Time := Int

/-- Owner key of the account that money enters and leaves the workspace through. -/
abbrev systemOwner : String := "SYSTEM"

/-- `ck_org_status`. -/
inductive OrganizationStatus
  | active
  | suspended
  | closed
  deriving DecidableEq, Repr

structure Organization where
  id : Id
  parentId : Option Id
  name : String
  slug : String
  status : OrganizationStatus
  creditLimitIrr : Int
  maxDepth : Int
  deriving DecidableEq, Repr

structure OrganizationColumns where
  status : Option OrganizationStatus := none
  deriving DecidableEq, Repr

structure Closure where
  ancestorId : Id
  descendantId : Id
  depth : Nat
  deriving DecidableEq, Repr

/-- Statuses that only distinguish what is in use from what is not. -/
inductive Switch
  | active
  | inactive
  deriving DecidableEq, Repr

structure Contract where
  id : Id
  parentId : Id
  childId : Id
  pricePerGibIrr : Int
  status : Switch
  deriving DecidableEq, Repr

/-- A wallet; every account has the code `wallet`. -/
structure Account where
  id : Id
  ownerKey : String
  balanceIrr : Int
  deriving DecidableEq, Repr

/-- Balances only move by relative updates. -/
structure AccountColumns where
  balanceDelta : Int
  deriving DecidableEq, Repr

structure Transaction where
  id : Id
  idempotencyKey : String
  kind : String
  reference : String
  actorId : Option Id
  deriving DecidableEq, Repr

/-- `ck_entry_side`. -/
inductive Side
  | debit
  | credit
  deriving DecidableEq, Repr

structure Entry where
  transactionId : Id
  accountId : Id
  side : Side
  amountIrr : Int
  deriving DecidableEq, Repr

structure Panel where
  id : Id
  name : String
  baseUrl : String
  vendor : String
  apiKeyRef : Option String
  ownerUserRef : Option String
  ownerPassRef : Option String
  /-- `numeric(10,4)`, in ten-thousandths. -/
  usageCoefficient : Nat
  verifyTls : Bool
  /-- `ck_panel_status`: active or disabled. -/
  status : Switch
  saleable : Bool
  deriving DecidableEq, Repr

structure PanelColumns where
  usageCoefficient : Option Nat := none
  saleable : Option Bool := none
  deriving DecidableEq, Repr

structure PanelOwner where
  panelId : Id
  organizationId : Id
  deriving DecidableEq, Repr

structure PlanCategory where
  id : Id
  organizationId : Id
  name : String
  description : String
  status : Switch
  deriving DecidableEq, Repr

structure PlanCategoryColumns where
  name : Option String := none
  description : Option String := none
  status : Option Switch := none
  deriving DecidableEq, Repr

structure Plan where
  id : Id
  organizationId : Id
  panelId : Id
  categoryId : Option Id
  name : String
  description : String
  pricePerGibIrr : Int
  dailyGib : Int
  durationDays : Int
  userCount : Int
  creditLimitIrr : Int
  paymentInstructions : String
  status : Switch
  deriving DecidableEq, Repr

structure PlanColumns where
  panelId : Option Id := none
  categoryId : Option (Option Id) := none
  name : Option String := none
  description : Option String := none
  pricePerGibIrr : Option Int := none
  dailyGib : Option Int := none
  durationDays : Option Int := none
  userCount : Option Int := none
  creditLimitIrr : Option Int := none
  paymentInstructions : Option String := none
  status : Option Switch := none
  deriving DecidableEq, Repr

/-- The price of a plan is recomputed on every read. -/
def Plan.amountIrr (plan : Plan) : Int :=
  plan.pricePerGibIrr * plan.dailyGib * plan.durationDays

/-- `ck_binding_status`. -/
inductive BindingStatus
  | active
  | suspended
  | disabled
  deriving DecidableEq, Repr

structure Binding where
  id : Id
  organizationId : Id
  panelId : Id
  pgAdminId : Int
  username : String
  status : BindingStatus
  deriving DecidableEq, Repr

structure BindingColumns where
  status : Option BindingStatus := none
  deriving DecidableEq, Repr

structure Checkpoint where
  bindingId : Id
  lifetimeBytes : Nat
  observedAt : Time
  anomalyCount : Nat
  deriving DecidableEq, Repr

structure CheckpointColumns where
  lifetimeBytes : Option Nat := none
  observedAt : Option Time := none
  anomalyCount : Option Nat := none
  deriving DecidableEq, Repr

/-- The four kinds of usage rows that `observe` writes. -/
inductive UsageStatus
  | baseline
  | regression
  | resetBaseline
  | accepted
  deriving DecidableEq, Repr

structure Usage where
  bindingId : Id
  lifetimeBytes : Nat
  deltaBytes : Nat
  status : UsageStatus
  observedAt : Time
  deriving DecidableEq, Repr

/-- `ck_outbox_status`. -/
inductive OutboxStatus
  | pending
  | claimed
  | done
  | dead
  deriving DecidableEq, Repr

/-- The JSON payloads that the operations queue. -/
inductive Payload
  | hold (organizationId : Id) (amountIrr : Int)
  | usageReset (organizationId : Id) (lifetimeBytes : Nat)
  | decision (action status : String)
  | orderApproved (organizationId telegramActorId : Id)
  deriving DecidableEq, Repr

structure Outbox where
  id : Id
  topic : String
  aggregateId : Id
  payload : Payload
  status : OutboxStatus
  attempts : Nat
  nextAttemptAt : Time
  claimedBy : Option String
  claimedAt : Option Time
  lastError : Option String
  deriving DecidableEq, Repr

structure OutboxColumns where
  status : Option OutboxStatus := none
  attempts : Option Nat := none
  nextAttemptAt : Option Time := none
  claimedBy : Option (Option String) := none
  claimedAt : Option (Option Time) := none
  lastError : Option (Option String) := none
  deriving DecidableEq, Repr

structure Actor where
  id : Id
  telegramId : Int
  displayName : String
  status : Switch
  deriving DecidableEq, Repr

structure ActorColumns where
  displayName : Option String := none
  status : Option Switch := none
  deriving DecidableEq, Repr

/-- `ck_membership_role`. -/
inductive Role
  | systemAdmin
  | resellerAdmin
  | operator
  | finance
  | support
  | viewer
  | customer
  deriving DecidableEq, Repr

structure Membership where
  id : Id
  organizationId : Id
  actorId : Id
  role : Role
  status : Switch
  createdAt : Time
  deriving DecidableEq, Repr

/-- The statuses a funding request is written with. -/
inductive FundingStatus
  | pending
  | approved
  | rejected
  deriving DecidableEq, Repr

structure FundingRequest where
  id : Id
  organizationId : Id
  actorId : Id
  amountIrr : Int
  status : FundingStatus
  decidedBy : Option Id
  decidedAt : Option Time
  deriving DecidableEq, Repr

structure FundingRequestColumns where
  status : Option FundingStatus := none
  decidedBy : Option (Option Id) := none
  decidedAt : Option (Option Time) := none
  deriving DecidableEq, Repr

/-- `ORDER_STATES`. -/
inductive OrderStatus
  | pending
  | quoted
  | confirmed
  | paymentDeclared
  | approved
  | rejected
  | cancelled
  deriving DecidableEq, Repr

structure PanelOrder where
  id : Id
  actorId : Id
  panelId : Id
  planId : Option Id
  businessName : String
  slug : String
  userCount : Int
  dailyGib : Int
  note : String
  status : OrderStatus
  creditLimitIrr : Int
  pricePerGibIrr : Int
  amountIrr : Int
  paymentInstructions : String
  adminUsername : String
  pgAdminId : Option Int
  organizationId : Option Id
  decidedBy : Option Id
  decidedAt : Option Time
  rejectionReason : String
  deriving DecidableEq, Repr

/-- The requester, the server, the plan and the slug of an order never change. -/
structure PanelOrderColumns where
  status : Option OrderStatus := none
  creditLimitIrr : Option Int := none
  pricePerGibIrr : Option Int := none
  amountIrr : Option Int := none
  paymentInstructions : Option String := none
  adminUsername : Option String := none
  pgAdminId : Option (Option Int) := none
  organizationId : Option (Option Id) := none
  decidedBy : Option (Option Id) := none
  decidedAt : Option (Option Time) := none
  rejectionReason : Option String := none
  deriving DecidableEq, Repr

structure SystemSetting where
  key : String
  value : String
  deriving DecidableEq, Repr

structure SystemSettingColumns where
  value : Option String := none
  deriving DecidableEq, Repr

/-- The details of an audit row about a binding. -/
structure BindingDetails where
  telegramId : Int
  role : Role
  deriving DecidableEq, Repr

/-- An audit row; its free-form details are left out, but for those about a binding. -/
structure AuditLog where
  actorId : Option Id
  organizationId : Option Id
  action : String
  targetType : String
  targetId : String
  binding : Option BindingDetails
  deriving DecidableEq, Repr

/-- `ck_approval_status`. -/
inductive ApprovalStatus
  | pending
  | approved
  | rejected
  | expired
  | executed
  deriving DecidableEq, Repr

structure ApprovalRequest where
  id : Id
  requesterId : Id
  approverId : Option Id
  action : String
  targetType : String
  targetId : Id
  /-- `payload["amount_irr"]`. -/
  amountIrr : Int
  /-- `payload["note"]`. -/
  note : String
  status : ApprovalStatus
  expiresAt : Time
  decidedAt : Option Time
  decisionNote : Option String
  deriving DecidableEq, Repr

structure ApprovalRequestColumns where
  status : Option ApprovalStatus := none
  approverId : Option (Option Id) := none
  decidedAt : Option (Option Time) := none
  decisionNote : Option (Option String) := none
  deriving DecidableEq, Repr

/-- The database. -/
structure Db where
  organizations : List Organization := []
  closures : List Closure := []
  contracts : List Contract := []
  accounts : List Account := []
  transactions : List Transaction := []
  entries : List Entry := []
  panels : List Panel := []
  panelOwners : List PanelOwner := []
  planCategories : List PlanCategory := []
  plans : List Plan := []
  bindings : List Binding := []
  checkpoints : List Checkpoint := []
  usages : List Usage := []
  outbox : List Outbox := []
  actors : List Actor := []
  memberships : List Membership := []
  fundingRequests : List FundingRequest := []
  orders : List PanelOrder := []
  settings : List SystemSetting := []
  auditLogs : List AuditLog := []
  approvals : List ApprovalRequest := []
  deriving DecidableEq, Repr

end ControlPlane
