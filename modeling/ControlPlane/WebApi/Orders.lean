import ControlPlane.Library.PythonText
import ControlPlane.WebApi.Network

/-!
# The order funnel

A Telegram account's request to become a customer, from the first touch to a
paid account: order a panel, get quoted, confirm, declare the payment, and be
approved. Rows are locked before their status is read.
-/

namespace ControlPlane

open ReadCommitted Orm PythonText

/-- The `ORDER_STATES` as the texts that the database holds. -/
def OrderStatus.text : OrderStatus → String
  | .pending => "pending"
  | .quoted => "quoted"
  | .confirmed => "confirmed"
  | .paymentDeclared => "payment_declared"
  | .approved => "approved"
  | .rejected => "rejected"
  | .cancelled => "cancelled"

/-- `ORDER_FLOW`. -/
def orderFlow : OrderStatus → List OrderStatus
  | .pending => [.quoted, .rejected, .cancelled]
  | .quoted => [.confirmed, .rejected, .cancelled]
  | .confirmed => [.paymentDeclared, .rejected, .cancelled]
  | .paymentDeclared => [.approved, .rejected]
  | .approved => []
  | .rejected => []
  | .cancelled => []

structure OrderIn where
  panelId : Id
  planId : Option Id
  businessName : String
  userCount : Int
  dailyGib : Int
  note : String
  deriving DecidableEq, Repr

structure OrderQuoteIn where
  amountIrr : Int
  creditLimitIrr : Int
  pricePerGibIrr : Int
  paymentInstructions : String
  pgAdminId : Option Int
  deriving DecidableEq, Repr

structure OrderApproveIn where
  pgAdminId : Option Int
  adminUsername : Option String
  deriving DecidableEq, Repr

/-- A linked account obeys the matrix; an unlinked one may only knock on the door. -/
def orderPermission (env : Env) (identity : TelegramIdentity) (permission : Permission) :
    Op Unit := do
  let linked ← optionalMembership identity.userId
  branch linked (pure ()) fun caller =>
    require
      (can (effectiveRole env.rootTelegramId identity.userId caller.membership.role) permission)
      (.http 403 (denialFa permission))

/-! ## Placing an order -/

def requesterActor (telegramId : Int) : Op (Option Actor) :=
  scalar .actors fun row => row.telegramId = telegramId

/-- `requester_actor(..., create=True)`. -/
def requesterActorCreated (telegramId : Int) (displayName : String) : Op Id := do
  let known ← requesterActor telegramId
  branch known
    (do
      let id ← uid
      insert .actors ⟨id, telegramId, displayName, .active⟩
      flush
      pure id)
    fun actor => pure actor.id

/-- The attempts of `unique_order_slug`: orders and organizations both have to be free of it. -/
def orderSlug : Nat → Op String
  | 0 => throw (.http 500 "unable to allocate an order slug")
  | attempts + 1 => do
      let token ← consult .tokenHex
      let ordered ← scalar .orders fun row => row.slug = "panel-" ++ token
      let opened ← scalar .organizations fun row => row.slug = "panel-" ++ token
      if ordered = none ∧ opened = none then pure ("panel-" ++ token) else orderSlug attempts

def uniqueOrderSlug : Op String := orderSlug 20

/-- The category of a plan is open and belongs to the same organization. -/
def requireOpenShelf (plan : Plan) (categoryId : Id) : Op Unit := do
  let shelf ← get .planCategories categoryId
  require
    (shelf.any fun shelf => shelf.status = .active && shelf.organizationId = plan.organizationId)
    (.http 422 "این پلن برای فروش باز نیست")

def pricedPlan (panel : Panel) (planId : Option Id) : Op (Option Plan) :=
  branch (planId.filter (· ≠ "")) (pure none) fun planId => do
    let row ← get .plans planId
    let plan ← found
      (row.filter fun plan => plan.status = .active && plan.panelId = panel.id)
      (.http 422 "این پلن برای فروش روی این سرور باز نیست")
    branch (plan.categoryId.filter (· ≠ "")) (pure ()) (requireOpenShelf plan)
    pure (some plan)

/-- A server that is on sale. -/
def saleablePanel (panelId : Id) : Op Panel := do
  let row ← get .panels panelId
  found (row.filter fun panel => panel.status = .active && panel.saleable)
    (.http 422 "این سرور برای سفارش باز نیست")

/-- A new order; a published plan prices it, and what the client sent is discarded. -/
def orderRow (id actorId : Id) (panel : Panel) (slug : String) (data : OrderIn)
    (plan : Option Plan) : PanelOrder :=
  let order : PanelOrder :=
    { id, actorId, panelId := panel.id, planId := none, businessName := data.businessName, slug
      userCount := data.userCount, dailyGib := data.dailyGib, note := data.note
      status := .pending, creditLimitIrr := 0, pricePerGibIrr := 0, amountIrr := 0
      paymentInstructions := "", adminUsername := "", pgAdminId := none, organizationId := none
      decidedBy := none, decidedAt := none, rejectionReason := "" }
  match plan with
  | none => order
  | some plan =>
      { order with
        planId := some plan.id
        userCount := plan.userCount
        dailyGib := plan.dailyGib
        pricePerGibIrr := plan.pricePerGibIrr
        amountIrr := plan.amountIrr
        creditLimitIrr := if plan.creditLimitIrr = 0 then plan.amountIrr else plan.creditLimitIrr
        paymentInstructions := plan.paymentInstructions
        status := .quoted }

/-- Register a request for a panel. -/
def createPanelOrder (telegramId : Int) (displayName : String) (data : OrderIn) :
    Op PanelOrder := do
  let panel ← saleablePanel data.panelId
  let plan ← pricedPlan panel data.planId
  let actorId ← requesterActorCreated telegramId
    (if data.businessName = "" then displayName else data.businessName)
  let slug ← uniqueOrderSlug
  let id ← uid
  let order := orderRow id actorId panel slug data plan
  insert .orders order
  audit "panel_order.create" "panel_order" unflushedId (some actorId) none
  pure order

/-- `POST /v1/webapp/orders`. -/
def createOrder (env : Env) (identity : TelegramIdentity) (data : OrderIn) : Op Id := do
  orderPermission env identity .orderPanel
  let order ← createPanelOrder identity.userId identity.firstName data
  commit
  pure order.id

/-! ## Transitions -/

def requireTransition (order : PanelOrder) (toStatus : OrderStatus) : Op Unit :=
  require (toStatus ∈ orderFlow order.status)
    (.http 409 ("سفارش در وضعیت «" ++ order.status.text ++ "» قابل «" ++ toStatus.text ++ "» نیست"))

def lockedOrder (orderId : Id) (toStatus : OrderStatus) : Op PanelOrder := do
  let row ← getForUpdate .orders orderId
  let order ← found row (.http 404 "order not found")
  requireTransition order toStatus
  pure order

def ownedOrder (orderId : Id) (identity : TelegramIdentity) (toStatus : OrderStatus) :
    Op PanelOrder := do
  let order ← lockedOrder orderId toStatus
  let actor ← requesterActor identity.userId
  require (actor.any fun actor => order.actorId = actor.id)
    (.http 403 "این سفارش به حساب شما نیست")
  pure order

/-- `CUSTOMER_TRANSITIONS`. -/
def customerTransition : OrderStatus → Option String
  | .confirmed => some "panel_order.confirm"
  | .paymentDeclared => some "panel_order.payment_declared"
  | .cancelled => some "panel_order.cancel"
  | _ => none

/-- The three steps the requester owns; the row is already locked by the caller. -/
def advanceCustomerOrder (order : PanelOrder) (toStatus : OrderStatus) : Op Unit := do
  requireTransition order toStatus
  assign .orders order.id { status := some toStatus }
  let action ← found (customerTransition toStatus) .unexpected
  audit action "panel_order" order.id (some order.actorId) order.organizationId

/-- A step of the requester through the WebApp. -/
def customerRoute (env : Env) (identity : TelegramIdentity) (orderId : Id)
    (toStatus : OrderStatus) : Op OrderStatus := do
  orderPermission env identity .orderPanel
  let order ← ownedOrder orderId identity toStatus
  advanceCustomerOrder order toStatus
  commit
  pure toStatus

/-- `POST /v1/webapp/orders/{order_id}/confirm`. -/
def confirmOrder (env : Env) (identity : TelegramIdentity) (orderId : Id) : Op OrderStatus :=
  customerRoute env identity orderId .confirmed

/-- `POST /v1/webapp/orders/{order_id}/payment`. -/
def declarePayment (env : Env) (identity : TelegramIdentity) (orderId : Id) : Op OrderStatus :=
  customerRoute env identity orderId .paymentDeclared

/-- `POST /v1/webapp/orders/{order_id}/cancel`. -/
def cancelOrder (env : Env) (identity : TelegramIdentity) (orderId : Id) : Op OrderStatus :=
  customerRoute env identity orderId .cancelled

/-! ## Reviewing -/

def assertOrderSeller (order : PanelOrder) (organizationId : Id) : Op Unit := do
  let link ← scalar .panelOwners fun row =>
    row.panelId = order.panelId ∧ row.organizationId = organizationId
  require (link ≠ none) (.http 403 "این سفارش روی سرور دیگری ثبت شده است")

/-- Attach the commercial terms a customer was quoted; the row is already locked. -/
def quotePanelOrder (order : PanelOrder) (data : OrderQuoteIn) (reviewerId organizationId : Id) :
    Op Unit := do
  assertOrderSeller order organizationId
  requireTransition order .quoted
  assign .orders order.id
    { creditLimitIrr := some data.creditLimitIrr, pricePerGibIrr := some data.pricePerGibIrr
      amountIrr := some data.amountIrr, paymentInstructions := some data.paymentInstructions
      adminUsername :=
        some (if order.adminUsername = "" then "admin-" ++ order.slug else order.adminUsername)
      pgAdminId := some data.pgAdminId, status := some .quoted }
  audit "panel_order.quote" "panel_order" order.id (some reviewerId) (some organizationId)

/-- `POST /v1/webapp/orders/{order_id}/quote`. -/
def quoteOrder (env : Env) (identity : TelegramIdentity) (orderId : Id) (data : OrderQuoteIn) :
    Op OrderStatus := do
  let caller ← manager env identity.userId .decideOrders
  let order ← lockedOrder orderId .quoted
  quotePanelOrder order data caller.actor.id caller.organization.id
  commit
  pure .quoted

def rejectPanelOrder (order : PanelOrder) (reviewerId organizationId : Id) (reason : String) :
    Op Unit := do
  assertOrderSeller order organizationId
  requireTransition order .rejected
  let time ← now
  assign .orders order.id
    { status := some .rejected, rejectionReason := some reason
      decidedBy := some (some reviewerId), decidedAt := some (some time) }
  audit "panel_order.reject" "panel_order" order.id (some reviewerId) (some organizationId)

/-- `POST /v1/webapp/orders/{order_id}/reject`. -/
def rejectOrder (env : Env) (identity : TelegramIdentity) (orderId : Id) (reason : String) :
    Op OrderStatus := do
  let caller ← manager env identity.userId .decideOrders
  let order ← lockedOrder orderId .rejected
  rejectPanelOrder order caller.actor.id caller.organization.id reason
  commit
  pure .rejected

/-! ## Approval -/

/-- A present and nonzero number. -/
def truthy (number : Option Int) : Option Int := number.filter (· ≠ 0)

/-- The panel account that arrives with the approval, unless the order has one already. -/
def attachAdmin (order : PanelOrder) (attach : Option OrderApproveIn) : Op PanelOrder :=
  branch (attach.filter fun attach => (truthy attach.pgAdminId).isSome &&
      (truthy order.pgAdminId).isNone)
    (pure order)
    fun attach => do
      let username := truncate 80 (strip (attach.adminUsername.getD ""))
      assign .orders order.id
        { pgAdminId := some attach.pgAdminId, adminUsername := some username }
      pure { order with pgAdminId := attach.pgAdminId, adminUsername := username }

/-- The customer gains the admin account that the reviewer created on the panel. -/
def bindCustomer (order : PanelOrder) (childId panelId : Id) (pgAdminId : Int) : Op Unit := do
  let id ← uid
  insert .bindings ⟨id, childId, panelId, pgAdminId,
    if order.adminUsername = "" then toString pgAdminId else order.adminUsername, .active⟩

structure OrderApproved where
  orderId : Id
  organizationId : Id
  bound : Bool
  balanceIrr : Int
  deriving DecidableEq, Repr

/-- Turn a paid order into a real account: organization, contract, wallet funding and access. -/
def approvePanelOrder (env : Env) (locked : PanelOrder) (reviewerId sellerId : Id)
    (attach : Option OrderApproveIn) : Op OrderApproved := do
  assertOrderSeller locked sellerId
  requireTransition locked .approved
  let order ← attachAdmin locked attach
  let panelRow ← get .panels order.panelId
  let panel ← found panelRow .unexpected
  let parentRow ← get .organizations sellerId
  let parent ← found parentRow .unexpected
  assertDepthAllowed env parent
  requireFreeSlug order.slug "slug already exists"
  let childId ← openChild parent.id order.businessName order.slug order.creditLimitIrr
    order.pricePerGibIrr
  addMembership childId order.actorId .customer
  branch (truthy order.pgAdminId) (pure ()) (bindCustomer order childId panel.id)
  let _ ← transfer systemOwner childId order.amountIrr ("panel-order:" ++ order.id) "order-funded"
    order.id false (some reviewerId)
  let time ← now
  assign .orders order.id
    { status := some .approved, organizationId := some (some childId)
      decidedBy := some (some reviewerId), decidedAt := some (some time) }
  audit "panel_order.approve" "panel_order" order.id (some reviewerId) (some childId)
  enqueue "panel_order.approved" order.id (.orderApproved childId order.actorId)
  let funds ← balance childId
  pure ⟨order.id, childId, (truthy order.pgAdminId).isSome, funds⟩

/-- `POST /v1/webapp/orders/{order_id}/approve`. -/
def approveOrder (env : Env) (identity : TelegramIdentity) (orderId : Id)
    (attach : OrderApproveIn) : Op OrderApproved := do
  let caller ← manager env identity.userId .decideOrders
  let order ← lockedOrder orderId .approved
  let approved ← approvePanelOrder env order caller.actor.id caller.organization.id (some attach)
  commit
  pure approved

end ControlPlane
