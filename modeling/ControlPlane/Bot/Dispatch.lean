import ControlPlane.Bot.Dialogue

/-!
# Messages and callbacks

How the bot finds out what a message or a button asks for. Callbacks carry
arbitrary payloads; whatever they raise is answered and forgotten.
-/

namespace ControlPlane.Bot

open ReadCommitted Orm PythonText

/-! ## Sections -/

inductive Audience
  | staff
  | customer
  | both
  deriving DecidableEq, Repr

/-- One row of `SECTIONS`. -/
structure Section where
  name : String
  label : String
  permission : Permission
  audience : Audience
  deriving DecidableEq, Repr

/-- `SECTIONS`. -/
def sections : List Section :=
  [⟨"dashboard", "📊 داشبورد", .viewDashboard, .staff⟩,
    ⟨"orders", "🧾 سفارش‌های پنل", .decideOrders, .staff⟩,
    ⟨"servers", "🖥 سرورها", .manageServers, .staff⟩,
    ⟨"catalog", "🛍 کاتالوگ پلن", .manageCatalog, .staff⟩,
    ⟨"resellers", "👥 نمایندگان", .manageResellers, .staff⟩,
    ⟨"finance", "💰 مرکز مالی", .viewFinance, .staff⟩,
    ⟨"approvals", "✅ تأیید اصلاحات", .decideAdjustment, .staff⟩,
    ⟨"system", "⚙️ مدیریت سیستم", .viewAudit, .staff⟩,
    ⟨"webapp", "🌐 وب‌اپ", .viewDashboard, .staff⟩,
    ⟨"transactions", "📜 تراکنش‌ها", .viewFinance, .staff⟩,
    ⟨"funding", "💴 درخواست‌های مالی", .decideFunding, .staff⟩,
    ⟨"credit", "➕ درخواست اعتبار", .requestFunding, .staff⟩,
    ⟨"new_reseller", "➕ نماینده جدید", .manageResellers, .staff⟩,
    ⟨"new_order", "➕ سفارش پنل", .orderPanel, .customer⟩,
    ⟨"my_orders", "🧾 سفارش‌های من", .orderPanel, .customer⟩,
    ⟨"my_panel", "🖥 پنل و مشترکان", .viewDashboard, .customer⟩,
    ⟨"usage", "📈 مصرف و تراکنش", .viewFinance, .customer⟩,
    ⟨"topup", "💳 درخواست شارژ", .requestFunding, .customer⟩,
    ⟨"my_webapp", "🌐 پنل کاربری", .viewDashboard, .customer⟩,
    ⟨"support", "🛟 پشتیبانی", .createSupportTicket, .both⟩]

def audienceFor (role : Role) : Audience := if role = .customer then .customer else .staff

/-- Every section this role may open, staff and customer kept apart. -/
def sectionsFor (role : Role) : List String :=
  (sections.filter fun row =>
    (row.audience = audienceFor role || row.audience = .both) && can role row.permission).map
      Section.name

def labelToSection (label : String) : Option String :=
  (sections.find? fun row => row.label = label).map Section.name

/-- `ALIASES`. -/
def aliases (command : String) : Option String :=
  if command = "/dashboard" then some "dashboard"
  else if command = "/servers" then some "servers"
  else if command = "/support" then some "support"
  else if command = "/resellers" then some "resellers"
  else if command = "/finance" then some "finance"
  else if command = "/orders" then some "orders"
  else if command = "/menu" then some "menu"
  else none

/-- A section that shows what the caller's context gives access to. -/
def viewSection (env : Env) (chatId : Int) : Op Unit := do
  let _ ← requireContext env chatId
  send chatId

/-- A section behind a permission of its own. -/
def permittedSection (env : Env) (chatId : Int) (permission : Permission) : Op Unit := do
  let _ ← permitted env chatId permission
  send chatId

/-- A section of a customer who has an account already. -/
def accountSection (env : Env) (chatId : Int) (target : String) : Op Unit := do
  let caller ← context env chatId
  branch caller (send chatId) fun _ =>
    if target = "my_panel" ∨ target = "usage" then viewSection env chatId
    else if target = "topup" then beginCredit chatId
    else send chatId

/-- What an open section does. -/
def showSection (env : Env) (chatId : Int) (target : String) : Op Unit :=
  if target ∈ ["dashboard", "servers", "resellers", "finance", "transactions"] then
    viewSection env chatId
  else if target = "orders" then permittedSection env chatId .decideOrders
  else if target = "catalog" then permittedSection env chatId .manageCatalog
  else if target ∈ ["my_panel", "usage", "topup", "my_webapp"] then
    accountSection env chatId target
  else if target = "new_reseller" then beginReseller chatId
  else if target = "funding" then permittedSection env chatId .decideFunding
  else if target = "credit" then beginCredit chatId
  else if target = "approvals" then permittedSection env chatId .decideAdjustment
  else send chatId

/-- The role decides both the entry and the refusal. -/
def openSection (env : Env) (chatId : Int) (target : String) : Op Unit := do
  let role ← currentRole env chatId
  if target ∈ sectionsFor role then showSection env chatId target else send chatId

/-! ## Messages -/

/-- The greeting, followed by the first section of the role. -/
def start (env : Env) (chatId : Int) (role : Role) : Op Unit := do
  let _ ← context env chatId
  send chatId
  openSection env chatId (if role = .customer then "new_order" else "dashboard")

/-- A message outside of any dialogue. -/
def freshMessage (env : Env) (chatId : Int) (value : String) : Op Unit := do
  let role ← currentRole env chatId
  if value = "/start" then start env chatId role
  else
    branch (aliases value)
      (branch ((labelToSection value).filter fun name => name ∈ sectionsFor role) (send chatId)
        (openSection env chatId))
      fun target => if target = "menu" then send chatId else openSection env chatId target

def handleMessage (env : Env) (chatId : Int) (message : String) : Op Unit :=
  let value := strip message
  if value = "/id" then send chatId
  else do
    let state ← getState chatId
    branch state (freshMessage env chatId value) (continueState env chatId value)

/-! ## Callbacks -/

/-- A step of the requester, reported to the requester and, for a payment, to the seller. -/
def customerCallback (env : Env) (chatId : Int) (orderId : Id) (status : OrderStatus) :
    Op Unit := do
  let seller ← customerOrderAction chatId orderId status
  answerCallback
  send chatId
  orderDetail env chatId orderId
  send chatId
  when (status = .paymentDeclared) do
    let chats ← staffChats seller [.systemAdmin, .resellerAdmin]
    notifyChats chats none

/-- An approval, which first asks for the panel account where it is missing. -/
def approveCallback (env : Env) (chatId : Int) (orderId : Id) : Op Unit := do
  let needed ← orderNeedsAdmin orderId
  if needed = true then do
    answerCallback
    begin chatId "attach" "pg_admin_id" [("order_id", .text orderId)]
  else applyApproval env chatId orderId true true none

def orderCallback (env : Env) (chatId : Int) (orderId : Id) (action : String) : Op Unit :=
  if action = "view" then do
    orderDetail env chatId orderId
    answerCallback
    send chatId
  else if action = "quote" then do
    answerCallback
    beginQuote chatId orderId
  else
    branch (customerAction action)
      (if action = "ok" then approveCallback env chatId orderId
      else if action = "no" then applyApproval env chatId orderId false true none
      else pure ())
      (customerCallback env chatId orderId)

/-- A choice in the plan dialogue: the next step, unless the dialogue is somewhere else. -/
def choose (env : Env) (chatId : Int) (step key : String) (value : Value) (next : String) :
    Op Unit := do
  let state ← getState chatId
  branch (state.filter fun state => state.flow = "plan" && state.step = step) answerCallback
    fun state => do
      setState chatId (state.answer key value next)
      answerCallback
      when (step = "panel") (catalogList env chatId)
      send chatId

/-- What a funding decision tells the two sides. -/
def fundingCallback (env : Env) (chatId : Int) (requestId : Id) (approve : Bool) : Op Unit := do
  let customer ← decideFunding env chatId requestId approve
  answerCallback
  sendMenu env chatId
  branch (truthy customer) (pure ()) send

/-- The branches of `handle_callback`, by the pieces of the payload. -/
def dispatch (env : Env) (chatId : Int) (data : String) : Op Unit :=
  match split '|' data with
  | ["section", target] => do
      answerCallback
      if target = "menu" then sendMenu env chatId else openSection env chatId target
  | ["nodes", panelId] => do
      nodeList env chatId panelId
      answerCallback
      send chatId
  | ["node", panelId, nodeId, action] => do
      nodeAction env chatId panelId nodeId action
      answerCallback
      when (action = "status") (send chatId)
  | ["fundok", requestId] => fundingCallback env chatId requestId true
  | ["fundno", requestId] => fundingCallback env chatId requestId false
  | ["appr", approvalId, decision] => do
      decideApproval env chatId approvalId (decision = "ok")
      answerCallback
      sendMenu env chatId
  | ["sale", panelId, saleable] => do
      setSaleable env chatId panelId (saleable = "1")
      answerCallback
      viewSection env chatId
  | ["ctog", categoryId] => do
      toggleCatalog env chatId .category categoryId
      answerCallback
      catalogList env chatId
      send chatId
  | ["ptog", planId] => do
      toggleCatalog env chatId .plan planId
      answerCallback
      catalogList env chatId
      send chatId
  | ["catnew"] => do
      answerCallback
      beginShelf chatId
  | ["plnew"] => do
      answerCallback
      beginPlan env chatId
  | ["plsel", panelId] => choose env chatId "panel" "panel_id" (.text panelId) "shelf"
  | ["plsh", categoryId] =>
      choose env chatId "shelf" "category_id"
        (if categoryId = "" then .null else .text categoryId) "name"
  | ["oplan", planId] => do
      answerCallback
      beginPlanOrder chatId planId
  | ["onew", panelId] => do
      answerCallback
      beginOrder chatId panelId
  | ["q", _] => do
      let _ ← permitted env chatId .decideOrders
      answerCallback
      send chatId
  | ["o", orderId, action] => orderCallback env chatId orderId action
  | _ => answerCallback

def handleCallback (env : Env) (chatId : Int) (data : String) : Op Unit :=
  tryCatch (dispatch env chatId data) fun _ => answerCallback

end ControlPlane.Bot
