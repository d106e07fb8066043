import ControlPlane.Library.Json
import ControlPlane.WebApi.Catalog
import ControlPlane.WebApi.Money
import ControlPlane.WebApi.Orders

/-!
# What the bot does in the database

The helpers behind the Telegram bot. Each opens its own session, resolves the
chat to a context, and runs the same core functions as the WebApp routes. What
a list or a card shows is no effect and is left out; what a helper checks
before it shows something is kept.
-/

namespace ControlPlane.Bot

open ReadCommitted Orm PythonText

/-! ## Messages -/

/-- A message to a chat. A request that Telegram refuses raises. -/
def send (chatId : Int) : Op Unit := do
  let sent ← consult (.sendMessage chatId)
  require (sent = true) .unexpected

/-- The short notice that closes a callback. -/
def answerCallback : Op Unit := do
  let answered ← consult .answerCallback
  require (answered = true) .unexpected

/-- Messages to several chats, except one. -/
def notifyChats (chats : List Int) (exceptChat : Option Int) : Op Unit :=
  forEach chats fun chat => when (some chat ≠ exceptChat) (send chat)

/-! ## The caller -/

/-- `context`: what a chat acts with. -/
structure Context where
  actorId : Id
  organizationId : Id
  role : Role
  deriving DecidableEq, Repr

/-- The first active membership that the database returns decides. -/
def context (env : Env) (chatId : Int) : Op (Option Context) := withSession do
  let linked ← optionalMembership chatId
  pure (linked.map fun caller =>
    ⟨caller.actor.id, caller.organization.id,
      effectiveRole env.rootTelegramId chatId caller.membership.role⟩)

def requireContext (env : Env) (chatId : Int) : Op Context := do
  let value ← context env chatId
  found value (.permissionError
    "برای این بخش نیاز به حساب متصل دارید؛ سفارش خود را ثبت کنید تا حساب ساخته شود.")

/-- The context of a caller who holds a permission. -/
def permitted (env : Env) (chatId : Int) (permission : Permission) : Op Context := do
  let caller ← requireContext env chatId
  require (can caller.role permission) (.permissionError (denialFa permission))
  pure caller

/-- Staff roles come from the active membership; everyone else is a prospective customer. -/
def currentRole (env : Env) (chatId : Int) : Op Role := do
  let value ← context env chatId
  pure (match value with
    | some caller => caller.role
    | none => .customer)

/-- `raise PermissionError(str(exc.detail)) from exc`. -/
def deniedOf : Failure → Failure
  | .http _ detail => .permissionError detail
  | other => other

/-- A core function whose HTTP errors turn into replies. -/
def replying (body : Op α) : Op α := tryCatch body fun exception => throw (deniedOf exception)

/-- What pydantic raises for invalid data. -/
abbrev validationError : Failure := .valueError "validation error"

/-! ## Servers -/

def setSaleable (env : Env) (chatId : Int) (panelId : Id) (saleable : Bool) : Op Unit := do
  let caller ← permitted env chatId .manageServers
  withSession do
    let link ← scalar .panelOwners fun row =>
      row.panelId = panelId ∧ row.organizationId = caller.organizationId
    let row ← branch link (pure none) fun _ => get .panels panelId
    let panel ← found row (.permissionError "سرور پیدا نشد یا متعلق به شما نیست.")
    assign .panels panel.id { saleable := some saleable }
    audit "panel.saleable" "panel" panel.id (some caller.actorId) (some caller.organizationId)
    commit

/-- Resolve a panel the caller owns, in the session that goes on with it. -/
def botPanel (panelId organizationId : Id) : Op Panel := do
  let link ← scalar .panelOwners fun row =>
    row.panelId = panelId ∧ row.organizationId = organizationId
  let row ← branch link (pure none) fun _ => get .panels panelId
  found (row.filter fun panel => panel.status = .active)
    (.permissionError "سرور پیدا نشد یا غیرفعال است.")

/-- Share one audited code path with the WebApp and turn its errors into replies. -/
def runPanelOperation (caller : Context) (panel : Panel) (action : String) (call : PanelCall) :
    Op Unit := do
  let _ ← replying (panelOperation panel caller.organizationId action call (some caller.actorId))
  pure ()

def nodeList (env : Env) (chatId : Int) (panelId : Id) : Op Unit := do
  let caller ← requireContext env chatId
  withSession do
    let panel ← botPanel panelId caller.organizationId
    runPanelOperation caller panel "panel.nodes.read" .nodes

/-- `NODE_OPERATIONS`: the audit action and the call of a node operation. -/
def nodeOperation (action : String) : Option (String × (Int → PanelCall)) :=
  if action = "enable" then some ("node.enable", fun id => .setNodeEnabled id true)
  else if action = "disable" then some ("node.disable", fun id => .setNodeEnabled id false)
  else if action = "reconnect" then some ("node.reconnect", .reconnectNode)
  else if action = "reset" then some ("node.reset", .resetNode)
  else none

/-- One node operation on a panel of the caller. -/
def runNode (env : Env) (chatId : Int) (panelId : Id) (nodeId auditAction : String)
    (call : Int → PanelCall) : Op Unit := do
  let caller ← requireContext env chatId
  withSession do
    let panel ← botPanel panelId caller.organizationId
    let id ← found (int? nodeId) (.valueError "invalid literal for int() with base 10")
    runPanelOperation caller panel auditAction (call id)

def nodeAction (env : Env) (chatId : Int) (panelId : Id) (nodeId action : String) : Op Unit :=
  if action = "status" then runNode env chatId panelId nodeId "node.status.read" .nodeStatus
  else
    branch (nodeOperation action) (throw (.permissionError "عملیات نامعتبر است."))
      fun operation => runNode env chatId panelId nodeId operation.1 operation.2

/-! ## The catalog -/

/-- Catalog writes are the seller's decision, as in the WebApp. -/
def catalogCtx (env : Env) (chatId : Int) : Op Context := permitted env chatId .manageCatalog

/-- The status a click on the toggle of a catalog row asks for. -/
def toggled (kind : CatalogKind) (targetId : Id) : Op String := do
  let status ← match kind with
    | .category => do
        let row ← get .planCategories targetId
        pure (row.map PlanCategory.status)
    | .plan => do
        let row ← get .plans targetId
        pure (row.map Plan.status)
  let current ← found status (.permissionError "مورد موردنظر در کاتالوگ شما نیست.")
  pure (if current = .active then "inactive" else "active")

def toggleCatalog (env : Env) (chatId : Int) (kind : CatalogKind) (targetId : Id) : Op Unit := do
  let caller ← catalogCtx env chatId
  withSession do
    let status ← toggled kind targetId
    replying do
      setCatalogStatus caller.organizationId caller.actorId kind targetId status
      commit

/-- The validation of `PlanCategoryIn`. -/
def validCategory (data : PlanCategoryIn) : Bool :=
  2 ≤ data.name.length && data.name.length ≤ 80 && data.description.length ≤ 500

def createShelf (env : Env) (chatId : Int) (data : PlanCategoryIn) : Op Unit := do
  let caller ← catalogCtx env chatId
  withSession <| replying do
    require (validCategory data) validationError
    let _ ← createPlanCategory caller.organizationId caller.actorId data
    commit

/-- The validation of `PlanIn`. -/
def validPlan (data : PlanIn) : Bool :=
  2 ≤ data.name.length && data.name.length ≤ 120 && data.description.length ≤ 1000 &&
    0 < data.pricePerGibIrr && data.pricePerGibIrr ≤ 10000000000000 &&
    0 < data.dailyGib && data.dailyGib ≤ 100000 &&
    0 < data.durationDays && data.durationDays ≤ 3650 &&
    0 < data.userCount && data.userCount ≤ 100000 &&
    0 ≤ data.creditLimitIrr && data.paymentInstructions.length ≤ 2000

def savePlan (env : Env) (chatId : Int) (data : PlanIn) : Op Unit := do
  let caller ← catalogCtx env chatId
  withSession <| replying do
    require (validPlan data) validationError
    let _ ← createCatalogPlan caller.organizationId caller.actorId data
    commit

/-- The servers a plan may sit on; without any there is nothing to choose. -/
def catalogPanels (env : Env) (chatId : Int) : Op Unit := do
  let caller ← catalogCtx env chatId
  withSession do
    let rows ← select fun db => db.panelOwners.filter fun link =>
      link.organizationId = caller.organizationId &&
        db.panels.any fun panel => panel.id = link.panelId && panel.status = .active
    require (rows ≠ []) (.permissionError
      "اول روی وب‌اپ یک سرور ثبت کنید؛ پلن فقط روی سرور خودتان می‌نشیند.")

/-- The published plans whose category and server are open. -/
def saleablePlans (db : Db) : List Plan :=
  db.plans.filter fun plan =>
    plan.status = .active &&
      (db.panels.any fun panel =>
        panel.id = plan.panelId && panel.status = .active && panel.saleable) &&
      (plan.categoryId.filter (· ≠ "")).all fun categoryId =>
        db.planCategories.any fun shelf => shelf.id = categoryId && shelf.status = .active

/-- A plan the customer may buy right now, or nothing. -/
def pickPlan (planId : Id) : Op (Option Plan) := withSession do
  select fun db => (saleablePlans db).find? fun plan => plan.id = planId

/-! ## Money -/

def decideFunding (env : Env) (chatId : Int) (requestId : Id) (approve : Bool) :
    Op (Option Int) := do
  let caller ← permitted env chatId .decideFunding
  withSession do
    let row ← getForUpdate .fundingRequests requestId
    branch (row.filter fun request => request.status = .pending) (pure none) fun request => do
      let stored ← get .organizations request.organizationId
      let _ ← found (stored.filter fun child => child.parentId = some caller.organizationId)
        (.permissionError "این درخواست به شاخهٔ دیگری تعلق دارد.")
      when (approve = true) (payFundingRequest caller.actorId request)
      let time ← now
      assign .fundingRequests request.id
        { status := some (if approve then .approved else .rejected)
          decidedBy := some (some caller.actorId), decidedAt := some (some time) }
      audit (if approve then "funding_request.approve" else "funding_request.reject")
        "funding_request" request.id (some caller.actorId) (some request.organizationId)
      commit
      let actor ← get .actors request.actorId
      pure (actor.map Actor.telegramId)

/-- `APPROVAL_APPLICATORS.get(approval.action)`, with the reply of the bot. -/
def botApplicator (approval : ApprovalRequest) (actorId : Id) : Op Unit :=
  if approval.action = adjust then applyWalletAdjustment approval actorId
  else throw (.permissionError "این نوع درخواست قابل اجرا نیست.")

def decideApproval (env : Env) (chatId : Int) (approvalId : Id) (approve : Bool) : Op Unit := do
  let caller ← permitted env chatId .decideAdjustment
  withSession do
    let time ← now
    let approval ← lockedPendingApproval approvalId time
    when (approve = true) (botApplicator approval caller.actorId)
    let decided ← now
    assign .approvals approval.id
      { status := some (if approve then .executed else .rejected)
        approverId := some (some caller.actorId), decidedAt := some (some decided) }
    audit (if approve then "approval.approve" else "approval.reject") "approval_request"
      approval.id (some caller.actorId) (some caller.organizationId)
    enqueue "approval.granted" approval.id
      (.decision approval.action (if approve then "executed" else "rejected"))
    commit

/-- The request row at the end of the credit dialogue. -/
def requestCredit (env : Env) (chatId : Int) (amountIrr : Int) : Op Context := do
  let caller ← requireContext env chatId
  withSession do
    let id ← uid
    insert .fundingRequests
      ⟨id, caller.organizationId, caller.actorId, amountIrr, .pending, none, none⟩
    commit
  pure caller

/-! ## Resellers -/

/-- The collected answers of the reseller dialogue, as text. -/
structure ResellerData where
  name : String
  slug : String
  telegramId : String
  price : String
  credit : String
  deriving DecidableEq, Repr

/-- `int(text)`, which refuses texts of more than 4300 digits. -/
def parseInt (text : String) : Op Int :=
  found (PythonText.int? text) (.valueError "invalid literal for int() with base 10")

def createReseller (env : Env) (chatId : Int) (data : ResellerData) : Op Unit := do
  let caller ← permitted env chatId .manageResellers
  withSession do
    let taken ← scalar .organizations fun row => row.slug = data.slug
    require (taken = none) (.valueError "این شناسه قبلاً استفاده شده است.")
    let credit ← parseInt data.credit
    let price ← parseInt data.price
    let id ← openChild caller.organizationId data.name data.slug credit price
    let telegramId ← parseInt data.telegramId
    let actorId ← requesterActorCreated telegramId data.name
    addMembership id actorId .resellerAdmin
    commit

/-! ## Orders -/

def placeOrder (chatId : Int) (data : OrderIn) : Op PanelOrder :=
  withSession <| replying do
    let order ← createPanelOrder chatId data.businessName data
    commit
    pure order

/-- Whoever may see an order: its requester, or a reviewer of its server. -/
def orderDetail (env : Env) (chatId : Int) (orderId : Id) : Op Unit := do
  let stored ← withSession (get .orders orderId)
  let order ← found stored (.permissionError "سفارش پیدا نشد.")
  let requester ← withSession (scalar .actors fun row =>
    row.id = order.actorId ∧ row.telegramId = chatId)
  let caller ← context env chatId
  let reviewer ← withSession (select fun db =>
    caller.any fun caller => can caller.role .decideOrders &&
      db.panelOwners.any fun link =>
        link.panelId = order.panelId && link.organizationId = caller.organizationId)
  require (requester ≠ none ∨ reviewer = true) (.permissionError "این سفارش به حساب شما نیست.")

/-- `CUSTOMER_ACTIONS`. -/
def customerAction (action : String) : Option OrderStatus :=
  if action = "confirm" then some .confirmed
  else if action = "pay" then some .paymentDeclared
  else if action = "cancel" then some .cancelled
  else none

/-- One of the three steps the requester owns; returns the seller to notify. -/
def customerOrderAction (chatId : Int) (orderId : Id) (status : OrderStatus) :
    Op (Option Id) :=
  withSession do
    let order ← replying (lockedOrder orderId status)
    let actor ← requesterActor chatId
    require (actor.any fun actor => order.actorId = actor.id)
      (.permissionError "این سفارش به حساب شما نیست.")
    let seller ← scalar .panelOwners fun row => row.panelId = order.panelId
    advanceCustomerOrder order status
    commit
    pure (seller.map PanelOwner.organizationId)

/-- Approve or reject a declared payment. -/
def reviewerOrderAction (env : Env) (chatId : Int) (orderId : Id) (approve : Bool)
    (reason : String) (attach : Option OrderApproveIn) : Op Unit := do
  let caller ← permitted env chatId .decideOrders
  withSession do
    replying do
      let order ← lockedOrder orderId (if approve then .approved else .rejected)
      if approve then do
        let _ ← approvePanelOrder env order caller.actorId caller.organizationId attach
        pure ()
      else rejectPanelOrder order caller.actorId caller.organizationId reason
    commit

/-- A plan order never passes through the quoting questions. -/
def orderNeedsAdmin (orderId : Id) : Op Bool := withSession do
  let order ← get .orders orderId
  pure (order.any fun order =>
    (truthy order.pgAdminId).isNone && order.status = .paymentDeclared)

/-- The validation of `OrderQuoteIn`. -/
def validQuote (data : OrderQuoteIn) : Bool :=
  0 < data.amountIrr && data.amountIrr ≤ 10000000000000 && 0 ≤ data.creditLimitIrr &&
    0 < data.pricePerGibIrr && 3 ≤ data.paymentInstructions.length &&
    data.paymentInstructions.length ≤ 2000 && data.pgAdminId.all fun id => 0 < id

/-- Turn the collected answers into a validated quote. -/
def applyQuote (env : Env) (chatId : Int) (orderId : Id) (data : OrderQuoteIn) : Op Unit := do
  require (validQuote data) validationError
  let caller ← permitted env chatId .decideOrders
  withSession do
    replying do
      let order ← lockedOrder orderId .quoted
      quotePanelOrder order data caller.actorId caller.organizationId
    commit

def orderOwnerTelegramId (orderId : Id) : Op (Option Int) := withSession do
  let order ← get .orders orderId
  branch order (pure none) fun order => do
    let actor ← get .actors order.actorId
    pure (actor.map Actor.telegramId)

/-- Telegram ids of the people who can act for one organization. -/
def staffChats (organizationId : Option Id) (roles : List Role) : Op (List Int) :=
  branch (organizationId.filter (· ≠ "")) (pure []) fun organizationId => withSession do
    select fun db => db.memberships.flatMap fun row =>
      if row.organizationId = organizationId ∧ row.status = .active ∧ row.role ∈ roles then
        (db.actors.filter fun actor => actor.id = row.actorId).map Actor.telegramId
      else []

/-- Who has to review an order placed against one server. -/
def orderReviewerChats (panelId : Id) : Op (List Int) := do
  let seller ← withSession (scalar .panelOwners fun row => row.panelId = panelId)
  staffChats (seller.map PanelOwner.organizationId) [.systemAdmin, .resellerAdmin]

end ControlPlane.Bot
