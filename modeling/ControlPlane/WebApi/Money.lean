import ControlPlane.WebApi.Access

/-!
# Funding requests, wallet adjustments and approvals

The decisions of the WebApp that move money.
-/

namespace ControlPlane

open ReadCommitted Orm

/-! ## Funding requests -/

structure FundingRequestIn where
  /-- `gt=0`. -/
  amountIrr : Int
  deriving DecidableEq, Repr

/-- `POST /v1/webapp/funding-requests`. -/
def webFundingRequest (env : Env) (identity : TelegramIdentity) (data : FundingRequestIn) :
    Op Id := do
  let caller ← manager env identity.userId .requestFunding
  let id ← uid
  insert .fundingRequests
    ⟨id, caller.organization.id, caller.actor.id, data.amountIrr, .pending, none, none⟩
  audit "funding_request.create" "funding_request" unflushedId (some caller.actor.id)
    (some caller.organization.id)
  commit
  pure id

/-- Release the credit of an approved request. -/
def payFundingRequest (actorId : Id) (request : FundingRequest) : Op Unit := do
  let _ ← transfer systemOwner request.organizationId request.amountIrr
    ("funding-request:" ++ request.id) "fund" request.id false (some actorId)
  pure ()

def decideFundingRequest (actorId branchId requestId : Id) (decision : String)
    (allowRootless : Bool) : Op FundingStatus := do
  require (decision = "approve" ∨ decision = "reject")
    (.http 422 "decision must be approve or reject")
  let row ← getForUpdate .fundingRequests requestId
  let request ← found row (.http 404 "funding request not found")
  require (request.status = .pending) (.http 409 "funding request is already processed")
  let stored ← get .organizations request.organizationId
  let child ← found stored (.http 404 "organization not found")
  -- Only the direct parent releases the credit.
  require (child.parentId = some branchId ∨ allowRootless = true ∧ child.parentId = none)
    (.http 403 "this request belongs to another reseller branch")
  when (decision = "approve") (payFundingRequest actorId request)
  let status := if decision = "approve" then FundingStatus.approved else .rejected
  let time ← now
  assign .fundingRequests request.id
    { status := some status, decidedBy := some (some actorId), decidedAt := some (some time) }
  audit ("funding_request." ++ decision) "funding_request" request.id (some actorId)
    (some request.organizationId)
  commit
  pure status

/-- `POST /v1/webapp/funding-requests/{request_id}/{decision}`. -/
def branchDecideFunding (env : Env) (identity : TelegramIdentity) (requestId : Id)
    (decision : String) : Op FundingStatus := do
  let caller ← manager env identity.userId .decideFunding
  decideFundingRequest caller.actor.id caller.organization.id requestId decision false

/-- `POST /v1/webapp/admin/funding-requests/{request_id}/{decision}`. -/
def adminDecideFunding (env : Env) (identity : TelegramIdentity) (requestId : Id)
    (decision : String) : Op FundingStatus := do
  let caller ← membershipFor env identity.userId
  requireRoot env identity
  decideFundingRequest caller.actor.id caller.organization.id requestId decision true

/-! ## Wallet adjustments -/

/-- `ADJUST`. -/
def adjust : String := "wallet.adjust"

structure AdjustmentIn where
  organizationId : Id
  /-- `ne=0`. -/
  amountIrr : Int
  note : String
  deriving DecidableEq, Repr

/-- `HTTPException(409, str(exc))` for a `ValueError`. -/
def conflictOf : Failure → Failure
  | .valueError message => .http 409 message
  | .billingHold _ _ _ => .http 409 "insufficient credit; billing hold required"
  | other => other

/-- Move the amount of an adjustment; taking money away checks what the organization may owe. -/
def moveAdjustment (organizationId : Id) (amountIrr : Int) (approvalId actorId : Id) :
    Op Transaction :=
  if 0 < amountIrr then
    transfer systemOwner organizationId amountIrr ("approval:" ++ approvalId) "adjustment"
      approvalId false (some actorId)
  else
    transfer organizationId systemOwner (-amountIrr) ("approval:" ++ approvalId) "adjustment"
      approvalId true (some actorId)

def applyWalletAdjustment (approval : ApprovalRequest) (actorId : Id) : Op Unit := do
  let row ← get .organizations approval.targetId
  let organization ← found row (.http 404 "organization not found")
  let _ ← tryCatch (moveAdjustment organization.id approval.amountIrr approval.id actorId)
    fun exception => throw (conflictOf exception)
  audit "adjustment.apply" "organization" organization.id (some actorId) (some organization.id)

/-- The root administrator is the approver, so the adjustment is applied directly. -/
def adjustDirectly (env : Env) (actorId targetId : Id) (data : AdjustmentIn) :
    Op ApprovalStatus := do
  let time ← now
  let id ← uid
  let approval : ApprovalRequest :=
    { id, requesterId := actorId, approverId := some actorId, action := adjust
      targetType := "organization", targetId, amountIrr := data.amountIrr, note := data.note
      status := .pending, expiresAt := time + env.approvalTtl, decidedAt := none
      decisionNote := none }
  insert .approvals approval
  flush
  applyWalletAdjustment approval actorId
  let decided ← now
  assign .approvals id
    { status := some .executed, decidedAt := some (some decided)
      decisionNote := some (some data.note) }
  commit
  let _ ← balance targetId
  pure .executed

/-- Leave an adjustment to the root administrator. -/
def adjustLater (env : Env) (actorId organizationId targetId : Id) (data : AdjustmentIn) :
    Op ApprovalStatus := do
  let time ← now
  let id ← uid
  insert .approvals
    { id, requesterId := actorId, approverId := none, action := adjust
      targetType := "organization", targetId, amountIrr := data.amountIrr, note := data.note
      status := .pending, expiresAt := time + env.approvalTtl, decidedAt := none
      decisionNote := none }
  audit "adjustment.request" "organization" targetId (some actorId) (some organizationId)
  commit
  pure .pending

/-- `POST /v1/webapp/admin/adjustments`. -/
def requestAdjustment (env : Env) (identity : TelegramIdentity) (data : AdjustmentIn) :
    Op ApprovalStatus := do
  let caller ← membershipFor env identity.userId
  require (can (effectiveRole env.rootTelegramId identity.userId caller.membership.role)
    .requestAdjustment) (.http 403 (denialFa .requestAdjustment))
  let row ← get .organizations data.organizationId
  let target ← found row (.http 404 "organization not found")
  require (caller.organization.id = target.id ∨ target.parentId = some caller.organization.id)
    (.http 403 "adjustment is limited to your own subtree")
  if some identity.userId = env.rootTelegramId then
    adjustDirectly env caller.actor.id target.id data
  else adjustLater env caller.actor.id caller.organization.id target.id data

/-! ## Approvals -/

/-- An approval that is still open, with its row locked; one that is too old expires. -/
def lockedPendingApproval (approvalId : Id) (time : Time) : Op ApprovalRequest := do
  let row ← getForUpdate .approvals approvalId
  let approval ← found row (.http 404 "approval request not found")
  require (approval.status = .pending) (.http 409 "approval request is already decided")
  when (approval.expiresAt ≤ time) do
    assign .approvals approval.id { status := some .expired, decidedAt := some (some time) }
    commit
    throw (.http 410 "approval request expired")
  pure approval

/-- What an approved request causes; wallet adjustments are the only ones there are. -/
def applicator (approval : ApprovalRequest) (actorId : Id) : Op Unit :=
  if approval.action = adjust then applyWalletAdjustment approval actorId
  else throw (.http 422 s!"no applicator registered for {approval.action}")

/-- `POST /v1/webapp/admin/approvals/{approval_id}/{decision}`. -/
def decideApproval (env : Env) (identity : TelegramIdentity) (approvalId : Id)
    (decision : String) : Op ApprovalStatus := do
  let caller ← membershipFor env identity.userId
  requireRoot env identity
  require (decision = "approve" ∨ decision = "reject")
    (.http 422 "decision must be approve or reject")
  let time ← now
  let approval ← lockedPendingApproval approvalId time
  when (decision = "approve") (applicator approval caller.actor.id)
  let status := if decision = "reject" then ApprovalStatus.rejected else .executed
  let decided ← now
  assign .approvals approval.id
    { status := some status, approverId := some (some caller.actor.id)
      decidedAt := some (some decided)
      decisionNote := some (some (if decision = "reject" then "rejected by system administrator"
        else "approved by system administrator")) }
  audit ("approval." ++ decision) "approval_request" approval.id (some caller.actor.id) none
  enqueue "approval.granted" approval.id
    (.decision approval.action (if decision = "reject" then "rejected" else "executed"))
  commit
  pure status

end ControlPlane
