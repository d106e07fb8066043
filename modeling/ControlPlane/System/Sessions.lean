import ControlPlane.Delivery.Worker
import ControlPlane.System.Operations

/-!
# The sessions of the system

Every session that may write: the routes of the control API and of the WebApp,
the actions of the bot, the billing worker and the outbox worker.
-/

namespace ControlPlane

open ReadCommitted Orm

/-- `ROLES`. -/
def roles : List Role :=
  [.systemAdmin, .resellerAdmin, .operator, .finance, .support, .viewer, .customer]

/-- `ASSIGNABLE_ROLES`: every role except the root administrator identity. -/
def assignableRoles : List Role := roles.tail

/-- The root identity is the only one that holds the remaining role. -/
theorem mem_assignableRoles {role : Role} : role ∈ assignableRoles ↔ role ≠ .systemAdmin := by
  cases role <;> decide

/-- The transactions of a pass over the outbox: it puts stale claims back, claims events,
completes one, or schedules one again. -/
def moveEvents (changes : List (Id × OutboxColumns)) : Op Unit := do
  forEach changes fun change => assign .outbox change.1 change.2
  commit

/-- What the sessions of a run carry. -/
structure Traffic where
  /-- The Telegram ids of routes and chats. -/
  Caller : Int → Prop
  /-- The idempotency keys of deposits. -/
  Deposit : String → Prop

/-- Any deposits. -/
def Traffic.ofCallers (Caller : Int → Prop) : Traffic :=
  ⟨Caller, fun _ => True⟩

/-- The sessions of the system. -/
inductive SystemOperation (env : Env) (packages : Packages) (traffic : Traffic) :
    Prog Database (Except Failure Unit) → Prop
  -- The control API.
  | createOrg (data : OrgIn) : SystemOperation env packages traffic (served (createOrg env data))
  | bindActor (data : ActorBindIn) : data.role ∈ assignableRoles →
      SystemOperation env packages traffic (served (bindActor data))
  | createPanel (data : PanelIn) :
      SystemOperation env packages traffic (served (createPanel packages data))
  | createBinding (data : BindingIn) :
      SystemOperation env packages traffic (served (createBinding data))
  | fund (organizationId : Id) (data : FundIn) : traffic.Deposit data.idempotencyKey →
      SystemOperation env packages traffic (served (fund organizationId data))
  | usage (data : UsageIn) : SystemOperation env packages traffic (served (usage env data))
  | usageBatch (observations : List UsageIn) :
      SystemOperation env packages traffic (served (usageBatch env observations))
  -- The WebApp.
  | bootstrapWorkspace (identity : TelegramIdentity) (data : BootstrapIn) :
      traffic.Caller identity.userId →
        SystemOperation env packages traffic (served (bootstrapWorkspace env identity data))
  | webCreateChild (identity : TelegramIdentity) (data : WebChildIn) :
      traffic.Caller identity.userId →
        SystemOperation env packages traffic (served (webCreateChild env identity data))
  | webCreatePanel (identity : TelegramIdentity) (data : WebPanelIn) :
      traffic.Caller identity.userId →
        SystemOperation env packages traffic (served (webCreatePanel env packages identity data))
  | webSetAdminLimit (identity : TelegramIdentity) (panelId : Id) (limitUseInBytes : Int) :
      traffic.Caller identity.userId → SystemOperation env packages traffic
        (served (webSetAdminLimit env identity panelId limitUseInBytes))
  | webSetUsageCoefficient (identity : TelegramIdentity) (panelId : Id) (usageCoefficient : Nat) :
      traffic.Caller identity.userId → SystemOperation env packages traffic
        (served (webSetUsageCoefficient env identity panelId usageCoefficient))
  | setPanelSaleable (identity : TelegramIdentity) (panelId : Id) (saleable : Bool) :
      traffic.Caller identity.userId → SystemOperation env packages traffic
        (served (setPanelSaleable env identity panelId saleable))
  | webPanelNodes (identity : TelegramIdentity) (panelId : Id) : traffic.Caller identity.userId →
      SystemOperation env packages traffic (served (webPanelNodes env identity panelId))
  | webNodeStatus (identity : TelegramIdentity) (panelId : Id) (nodeId : Int) :
      traffic.Caller identity.userId → SystemOperation env packages traffic
        (served (webNodeStatus env identity panelId nodeId))
  | webReconnectNode (identity : TelegramIdentity) (panelId : Id) (nodeId : Int) :
      traffic.Caller identity.userId → SystemOperation env packages traffic
        (served (webReconnectNode env identity panelId nodeId))
  | webResetNode (identity : TelegramIdentity) (panelId : Id) (nodeId : Int) :
      traffic.Caller identity.userId → SystemOperation env packages traffic
        (served (webResetNode env identity panelId nodeId))
  | webSetNodeEnabled (identity : TelegramIdentity) (panelId : Id) (nodeId : Int)
      (enabled : String) : traffic.Caller identity.userId → SystemOperation env packages traffic
        (served (webSetNodeEnabled env identity panelId nodeId enabled))
  | webPanelUsers (identity : TelegramIdentity) (panelId : Id) (offset limit : Int) :
      traffic.Caller identity.userId → SystemOperation env packages traffic
        (served (webPanelUsers env identity panelId offset limit))
  | webResetUserData (identity : TelegramIdentity) (panelId : Id) (userId : Int) :
      traffic.Caller identity.userId → SystemOperation env packages traffic
        (served (webResetUserData env identity panelId userId))
  | webSetUserEnabled (identity : TelegramIdentity) (panelId : Id) (userId : Int)
      (enabled : String) : traffic.Caller identity.userId → SystemOperation env packages traffic
        (served (webSetUserEnabled env identity panelId userId enabled))
  | webFundingRequest (identity : TelegramIdentity) (data : FundingRequestIn) :
      traffic.Caller identity.userId → SystemOperation env packages traffic
        (served (webFundingRequest env identity data))
  | branchDecideFunding (identity : TelegramIdentity) (requestId : Id) (decision : String) :
      traffic.Caller identity.userId → SystemOperation env packages traffic
        (served (branchDecideFunding env identity requestId decision))
  | adminDecideFunding (identity : TelegramIdentity) (requestId : Id) (decision : String) :
      traffic.Caller identity.userId → SystemOperation env packages traffic
        (served (adminDecideFunding env identity requestId decision))
  | adminCreateReseller (identity : TelegramIdentity) (data : AdminResellerIn) :
      traffic.Caller identity.userId → SystemOperation env packages traffic
        (served (adminCreateReseller env identity data))
  | adminSetResellerStatus (identity : TelegramIdentity) (organizationId : Id) :
      traffic.Caller identity.userId → SystemOperation env packages traffic
        (served (adminSetResellerStatus env identity organizationId))
  | requestAdjustment (identity : TelegramIdentity) (data : AdjustmentIn) :
      traffic.Caller identity.userId → SystemOperation env packages traffic
        (served (requestAdjustment env identity data))
  | decideApproval (identity : TelegramIdentity) (approvalId : Id) (decision : String) :
      traffic.Caller identity.userId → SystemOperation env packages traffic
        (served (decideApproval env identity approvalId decision))
  | createOrder (identity : TelegramIdentity) (data : OrderIn) : traffic.Caller identity.userId →
      SystemOperation env packages traffic (served (createOrder env identity data))
  | confirmOrder (identity : TelegramIdentity) (orderId : Id) : traffic.Caller identity.userId →
      SystemOperation env packages traffic (served (confirmOrder env identity orderId))
  | declarePayment (identity : TelegramIdentity) (orderId : Id) : traffic.Caller identity.userId →
      SystemOperation env packages traffic (served (declarePayment env identity orderId))
  | cancelOrder (identity : TelegramIdentity) (orderId : Id) : traffic.Caller identity.userId →
      SystemOperation env packages traffic (served (cancelOrder env identity orderId))
  | quoteOrder (identity : TelegramIdentity) (orderId : Id) (data : OrderQuoteIn) :
      traffic.Caller identity.userId → SystemOperation env packages traffic
        (served (quoteOrder env identity orderId data))
  | approveOrder (identity : TelegramIdentity) (orderId : Id) (attach : OrderApproveIn) :
      traffic.Caller identity.userId → SystemOperation env packages traffic
        (served (approveOrder env identity orderId attach))
  | rejectOrder (identity : TelegramIdentity) (orderId : Id) (reason : String) :
      traffic.Caller identity.userId → SystemOperation env packages traffic
        (served (rejectOrder env identity orderId reason))
  | webCreateCategory (identity : TelegramIdentity) (data : PlanCategoryIn) :
      traffic.Caller identity.userId → SystemOperation env packages traffic
        (served (webCreateCategory env identity data))
  | webUpdateCategory (identity : TelegramIdentity) (categoryId : Id) (data : PlanCategoryIn) :
      traffic.Caller identity.userId → SystemOperation env packages traffic
        (served (webUpdateCategory env identity categoryId data))
  | webCategoryStatus (identity : TelegramIdentity) (categoryId : Id) (status : String) :
      traffic.Caller identity.userId → SystemOperation env packages traffic
        (served (webCategoryStatus env identity categoryId status))
  | webDeleteCategory (identity : TelegramIdentity) (categoryId : Id) :
      traffic.Caller identity.userId → SystemOperation env packages traffic
        (served (webDeleteCategory env identity categoryId))
  | webCreatePlan (identity : TelegramIdentity) (data : PlanIn) : traffic.Caller identity.userId →
      SystemOperation env packages traffic (served (webCreatePlan env identity data))
  | webUpdatePlan (identity : TelegramIdentity) (planId : Id) (data : PlanIn) :
      traffic.Caller identity.userId → SystemOperation env packages traffic
        (served (webUpdatePlan env identity planId data))
  | webPlanStatus (identity : TelegramIdentity) (planId : Id) (status : String) :
      traffic.Caller identity.userId → SystemOperation env packages traffic
        (served (webPlanStatus env identity planId status))
  | webDeletePlan (identity : TelegramIdentity) (planId : Id) : traffic.Caller identity.userId →
      SystemOperation env packages traffic (served (webDeletePlan env identity planId))
  -- The bot.
  | botSetSaleable (chatId : Int) (panelId : Id) (saleable : Bool) : traffic.Caller chatId →
      SystemOperation env packages traffic (served (Bot.setSaleable env chatId panelId saleable))
  | botNodeList (chatId : Int) (panelId : Id) : traffic.Caller chatId →
      SystemOperation env packages traffic (served (Bot.nodeList env chatId panelId))
  | botNodeAction (chatId : Int) (panelId : Id) (nodeId action : String) : traffic.Caller chatId →
      SystemOperation env packages traffic
        (served (Bot.nodeAction env chatId panelId nodeId action))
  | botCreateShelf (chatId : Int) (data : PlanCategoryIn) : traffic.Caller chatId →
      SystemOperation env packages traffic (served (Bot.createShelf env chatId data))
  | botSavePlan (chatId : Int) (data : PlanIn) : traffic.Caller chatId →
      SystemOperation env packages traffic (served (Bot.savePlan env chatId data))
  | botToggleCatalog (chatId : Int) (kind : CatalogKind) (targetId : Id) : traffic.Caller chatId →
      SystemOperation env packages traffic (served (Bot.toggleCatalog env chatId kind targetId))
  | botRequestCredit (chatId : Int) (amountIrr : Int) : traffic.Caller chatId →
      SystemOperation env packages traffic (served (Bot.requestCredit env chatId amountIrr))
  | botDecideFunding (chatId : Int) (requestId : Id) (approve : Bool) : traffic.Caller chatId →
      SystemOperation env packages traffic (served (Bot.decideFunding env chatId requestId approve))
  | botDecideApproval (chatId : Int) (approvalId : Id) (approve : Bool) : traffic.Caller chatId →
      SystemOperation env packages traffic
        (served (Bot.decideApproval env chatId approvalId approve))
  | botCreateReseller (chatId : Int) (data : Bot.ResellerData) : traffic.Caller chatId →
      SystemOperation env packages traffic (served (Bot.createReseller env chatId data))
  | botPlaceOrder (chatId : Int) (data : OrderIn) : traffic.Caller chatId →
      SystemOperation env packages traffic (served (Bot.placeOrder chatId data))
  | botCustomerOrder (chatId : Int) (orderId : Id) (toStatus : OrderStatus) :
      (customerTransition toStatus).isSome = true → traffic.Caller chatId →
      SystemOperation env packages traffic
        (served (Bot.customerOrderAction chatId orderId toStatus))
  | botApplyQuote (chatId : Int) (orderId : Id) (data : OrderQuoteIn) : traffic.Caller chatId →
      SystemOperation env packages traffic (served (Bot.applyQuote env chatId orderId data))
  | botReviewOrder (chatId : Int) (orderId : Id) (approve : Bool) (reason : String)
      (attach : Option OrderApproveIn) : traffic.Caller chatId →
      SystemOperation env packages traffic
        (served (Bot.reviewerOrderAction env chatId orderId approve reason attach))
  -- The workers.
  | poll : SystemOperation env packages traffic (served (poll env))
  | handle (handler : Outbox → Op Unit) (event : Outbox) :
      handlers env event.topic = some handler →
        SystemOperation env packages traffic (served (handler event))
  | moveEvents (changes : List (Id × OutboxColumns)) :
      SystemOperation env packages traffic (served (moveEvents changes))

/-- Stand-ins for the packages: one address is understood, and a token is the text reversed. -/
def Sample.packages : Packages where
  urlsplit url := if url = "https://two" then some ⟨"https", some "two", none, none⟩ else none
  encrypt value := some (String.ofList value.toList.reverse)

end ControlPlane
