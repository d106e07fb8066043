import ControlPlane.Bot.Actions

/-!
# Chat dialogues

The multi-step dialogues of the bot. What was answered so far is stored outside
the database; each message continues the stored dialogue by one step, and the
last step runs an action.
-/

namespace ControlPlane

/-! ## The collected answers -/

namespace Dialogue

/-- `data.get(key)`. -/
def lookup (dialogue : Dialogue) (key : String) : Option Value :=
  (dialogue.data.find? fun entry => entry.1 = key).map Prod.snd

/-- `data[key] = value` and `state["step"] = step`. -/
def answer (dialogue : Dialogue) (key : String) (value : Value) (step : String) : Dialogue :=
  { dialogue with
    step
    data := dialogue.data.filter (fun entry => entry.1 ≠ key) ++ [(key, value)] }

end Dialogue

namespace Value

def text? : Value → Option String
  | .text value => some value
  | _ => none

def int? : Value → Option Int
  | .int value => some value
  | _ => none

end Value

namespace Bot

open ReadCommitted Orm PythonText

def getState (chatId : Int) : Op (Option Dialogue) := consult (.getState chatId)

def setState (chatId : Int) (dialogue : Dialogue) : Op Unit := consult (.setState chatId dialogue)

def clearState (chatId : Int) : Op Unit := consult (.clearState chatId)

/-- `data[key]`, used as a text. -/
def textEntry (dialogue : Dialogue) (key : String) : Op String :=
  found ((dialogue.lookup key).bind Value.text?) .unexpected

/-- `data[key]`, used as a number. -/
def intEntry (dialogue : Dialogue) (key : String) : Op Int :=
  found ((dialogue.lookup key).bind Value.int?) .unexpected

/-- A message along with the menu of the caller's role. -/
def sendMenu (env : Env) (chatId : Int) : Op Unit := do
  let _ ← currentRole env chatId
  send chatId

def abortFlow (env : Env) (chatId : Int) : Op Unit := do
  clearState chatId
  sendMenu env chatId

def isPermissionError : Failure → Bool
  | .permissionError _ => true
  | _ => false

/-- `try: ... except PermissionError: ...; return`. -/
def unlessDenied (body : Op α) (denied : Op Unit) (next : α → Op Unit) : Op Unit := do
  let outcome ← tryCatch
    (do
      let value ← body
      pure (some value))
    fun exception => if isPermissionError exception = true then pure none else throw exception
  branch outcome denied next

/-- What a user sends to leave an answer out. -/
def skips (value : String) : Bool := value ∈ ["بعد", "-", "0"]

/-- A Persian digit as an ASCII digit. -/
def latinDigit (char : Char) : Char :=
  if 0x6f0 ≤ char.toNat ∧ char.toNat ≤ 0x6f9 then Char.ofNat (char.toNat - 0x6f0 + 48) else char

/-- Accept Persian digits and thousands separators, because that is what people type. -/
def number (value : String) : String :=
  strip (String.ofList ((value.toList.map latinDigit).filter (· ≠ ',')))

/-! ## Lists that need a permission -/

def catalogList (env : Env) (chatId : Int) : Op Unit := do
  let _ ← catalogCtx env chatId
  pure ()

/-! ## Beginning a dialogue -/

def begin (chatId : Int) (flow step : String) (data : List (String × Value)) : Op Unit := do
  setState chatId ⟨flow, step, data⟩
  send chatId

def beginReseller (chatId : Int) : Op Unit := begin chatId "reseller" "name" []

def beginOrder (chatId : Int) (panelId : Id) : Op Unit :=
  begin chatId "order" "business_name" [("panel_id", .text panelId)]

def beginPlanOrder (chatId : Int) (planId : Id) : Op Unit := do
  let row ← pickPlan planId
  branch row (send chatId) fun plan =>
    begin chatId "order" "business_name"
      [("panel_id", .text plan.panelId), ("plan_id", .text plan.id),
        ("user_count", .int plan.userCount), ("daily_gib", .int plan.dailyGib)]

def beginQuote (chatId : Int) (orderId : Id) : Op Unit :=
  begin chatId "quote" "amount" [("order_id", .text orderId)]

def beginShelf (chatId : Int) : Op Unit := begin chatId "category" "name" []

def beginPlan (env : Env) (chatId : Int) : Op Unit := do
  catalogPanels env chatId
  begin chatId "plan" "panel" []

def beginCredit (chatId : Int) : Op Unit := begin chatId "credit" "amount" []

/-- Store an answer and ask the next question. -/
def proceed (chatId : Int) (dialogue : Dialogue) : Op Unit := do
  setState chatId dialogue
  send chatId

/-! ## A new category -/

def continueCategory (env : Env) (chatId : Int) (value : String) (state : Dialogue) : Op Unit :=
  if state.step = "name" then
    if 2 ≤ value.length ∧ value.length ≤ 80 then
      proceed chatId (state.answer "name" (.text value) "description")
    else send chatId
  else do
    let name ← textEntry state "name"
    let description := if skips value then "" else truncate 500 value
    unlessDenied (createShelf env chatId ⟨name, description⟩) (abortFlow env chatId) fun _ => do
      clearState chatId
      catalogList env chatId
      send chatId

/-! ## A new plan -/

/-- `PLAN_QUESTIONS`: the fields in the order in which they are asked. -/
def planQuestions : List String :=
  ["name", "price_per_gib_irr", "daily_gib", "duration_days", "user_count", "credit_limit_irr",
    "instructions"]

/-- `PLAN_LIMITS`. -/
def planLimit (field : String) : Option Int :=
  if field = "price_per_gib_irr" then some 10000000000000
  else if field = "daily_gib" then some 100000
  else if field = "duration_days" then some 3650
  else if field = "user_count" then some 100000
  else none

/-- A number that the user typed, unless it is none. -/
def typedNumber (digits : String) : Op (Option Int) :=
  if isDigit digits = true then do
    let value ← parseInt digits
    pure (some value)
  else pure none

/-- The value of an answer in the plan dialogue, unless the answer is refused. -/
def planAnswer (field value : String) : Op (Option Value) :=
  if field = "name" then
    pure (if 2 ≤ value.length ∧ value.length ≤ 120 then some (.text value) else none)
  else if field = "instructions" then
    pure (if value.length < 3 then none else some (.text (truncate 2000 value)))
  else if field = "credit_limit_irr" then do
    let typed ← typedNumber (if strip value = "خودکار" then "0" else number value)
    pure (typed.map .int)
  else do
    let typed ← typedNumber (number value)
    branch typed (pure none) fun amount => do
      let limit ← found (planLimit field) .unexpected
      pure (if 0 < amount ∧ amount ≤ limit then some (.int amount) else none)

/-- `PlanIn(...)` of the collected answers. -/
def planOf (state : Dialogue) : Op PlanIn := do
  let panelId ← textEntry state "panel_id"
  let name ← textEntry state "name"
  let price ← intEntry state "price_per_gib_irr"
  let daily ← intEntry state "daily_gib"
  let duration ← intEntry state "duration_days"
  let users ← intEntry state "user_count"
  let credit ← intEntry state "credit_limit_irr"
  let instructions ← textEntry state "instructions"
  pure ⟨panelId, (state.lookup "category_id").bind Value.text?, name,
    ((state.lookup "description").bind Value.text?).getD "", price, daily, duration, users,
    credit, instructions⟩

def continuePlan (env : Env) (chatId : Int) (value : String) (state : Dialogue) : Op Unit :=
  if state.step = "panel" ∨ state.step = "shelf" then send chatId
  else do
    let answer ← planAnswer state.step value
    branch answer (send chatId) fun answer =>
      branch (planQuestions.dropWhile (· ≠ state.step)).tail.head?
        (do
          let data ← planOf (state.answer state.step answer state.step)
          unlessDenied (savePlan env chatId data) (abortFlow env chatId) fun _ => do
            clearState chatId
            catalogList env chatId
            send chatId
            sendMenu env chatId)
        fun next => proceed chatId (state.answer state.step answer next)

/-! ## Reviewing an order -/

/-- Finish a review, then tell both sides. -/
def applyApproval (env : Env) (chatId : Int) (orderId : Id) (approve : Bool) (callback : Bool)
    (attach : Option OrderApproveIn) : Op Unit :=
  unlessDenied
    (reviewerOrderAction env chatId orderId approve
      (if approve then "" else "رد توسط مدیر مجموعه") attach)
    (do
      clearState chatId
      when (callback = true) answerCallback
      sendMenu env chatId)
    fun _ => do
      clearState chatId
      when (callback = true) answerCallback
      sendMenu env chatId
      let customer ← orderOwnerTelegramId orderId
      branch (truthy customer) (pure ()) send

/-- The last question of a review: which admin on the mother server belongs to this customer. -/
def continueAttach (env : Env) (chatId : Int) (value : String) (state : Dialogue) : Op Unit :=
  if skips (strip value) = true then do
    let orderId ← textEntry state "order_id"
    applyApproval env chatId orderId true false none
  else do
    let typed ← typedNumber (number value)
    branch typed (send chatId) fun pgAdminId => do
      require (0 < pgAdminId) validationError
      let orderId ← textEntry state "order_id"
      applyApproval env chatId orderId true false (some ⟨some pgAdminId, none⟩)

/-! ## Quoting an order -/

/-- `QUOTE_STEPS`: the field an answer goes to and the next step. -/
def quoteStep (step : String) : Option (Option String × String) :=
  if step = "amount" then some (some "amount_irr", "credit")
  else if step = "credit" then some (some "credit_limit_irr", "price")
  else if step = "price" then some (some "price_per_gib_irr", "instructions")
  else if step = "instructions" then some (none, "pg_admin_id")
  else if step = "pg_admin_id" then some (none, "")
  else none

/-- `OrderQuoteIn(...)` of the collected answers. -/
def quoteOf (state : Dialogue) (pgAdminId : Option Int) : Op OrderQuoteIn := do
  let amount ← intEntry state "amount_irr"
  let credit ← intEntry state "credit_limit_irr"
  let price ← intEntry state "price_per_gib_irr"
  let instructions ← textEntry state "instructions"
  pure ⟨amount, credit, price, instructions, pgAdminId⟩

/-- The end of the quote dialogue: quote the order and tell the customer. -/
def finishQuote (env : Env) (chatId : Int) (state : Dialogue) (pgAdminId : Option Int) :
    Op Unit := do
  let data ← quoteOf state pgAdminId
  let orderId ← textEntry state "order_id"
  unlessDenied (applyQuote env chatId orderId data) (abortFlow env chatId) fun _ => do
    clearState chatId
    sendMenu env chatId
    let customer ← orderOwnerTelegramId orderId
    branch (truthy customer) (pure ()) send

/-- An answer of the quote dialogue that is a number; only the credit may be zero. -/
def quoteNumber (chatId : Int) (value : String) (state : Dialogue) (field next : String) :
    Op Unit := do
  let typed ← typedNumber (number value)
  branch (typed.filter fun amount => 0 < amount || field = "credit_limit_irr") (send chatId)
    fun amount => proceed chatId (state.answer field (.int amount) next)

def continueQuote (env : Env) (chatId : Int) (value : String) (state : Dialogue) : Op Unit := do
  let step ← found (quoteStep state.step) .unexpected
  branch step.1
    (if state.step = "instructions" then
      if value.length < 3 then send chatId
      else proceed chatId (state.answer "instructions" (.text (truncate 2000 value)) step.2)
    else if skips value = true then finishQuote env chatId state none
    else do
      let typed ← typedNumber (number value)
      branch typed (send chatId) fun pgAdminId => finishQuote env chatId state (some pgAdminId))
    fun field => quoteNumber chatId value state field step.2

/-! ## Placing an order -/

/-- The end of the order dialogue: place the order and tell the reviewers. -/
def finishOrder (env : Env) (chatId : Int) (value : String) (state : Dialogue) : Op Unit := do
  let panelId ← textEntry state "panel_id"
  let businessName ← textEntry state "business_name"
  let userCount ← intEntry state "user_count"
  let dailyGib ← intEntry state "daily_gib"
  let data : OrderIn :=
    ⟨panelId, (state.lookup "plan_id").bind Value.text?, businessName, userCount, dailyGib,
      if skips value then "" else truncate 500 value⟩
  unlessDenied (placeOrder chatId data) (abortFlow env chatId) fun order => do
    clearState chatId
    send chatId
    let chats ← orderReviewerChats order.panelId
    notifyChats chats (some chatId)
    when (order.status = .quoted) (send chatId)
    send chatId

/-- An answer of the order dialogue that is a size. -/
def orderNumber (chatId : Int) (value : String) (state : Dialogue) (field next : String) :
    Op Unit := do
  let typed ← typedNumber (number value)
  branch (typed.filter fun amount => 0 < amount && amount ≤ 100000) (send chatId)
    fun amount => proceed chatId (state.answer field (.int amount) next)

def continueOrder (env : Env) (chatId : Int) (value : String) (state : Dialogue) : Op Unit :=
  if state.step = "business_name" then
    if value.length < 2 then send chatId
    else
      -- A plan already fixes the size and the price, so only the note is left to ask for.
      let planned := ((state.lookup "plan_id").bind Value.text?).any (· ≠ "")
      proceed chatId (state.answer "business_name" (.text (truncate 160 value))
        (if planned then "note" else "user_count"))
  else if state.step = "user_count" then
    orderNumber chatId value state "user_count" "daily_gib"
  else if state.step = "daily_gib" then
    orderNumber chatId value state "daily_gib" "note"
  else if state.step = "note" then finishOrder env chatId value state
  else pure ()

/-! ## Asking for credit -/

def continueCredit (env : Env) (chatId : Int) (value : String) : Op Unit := do
  let typed ← typedNumber (number value)
  branch (typed.filter (0 < ·)) (send chatId) fun amount => do
    let caller ← requestCredit env chatId amount
    clearState chatId
    sendMenu env chatId
    let chats ← staffChats (some caller.organizationId) [.systemAdmin, .resellerAdmin, .finance]
    notifyChats chats (some chatId)

/-! ## A new reseller -/

/-- `[a-z0-9]`. -/
def slugChar (char : Char) : Bool :=
  ('a' ≤ char && char ≤ 'z') || ('0' ≤ char && char ≤ '9')

/-- `[a-z0-9][a-z0-9-]{1,78}[a-z0-9]`. -/
def isSlug (value : String) : Bool :=
  3 ≤ value.length && value.length ≤ 80 &&
    (value.toList.head?.any slugChar) && (value.toList.getLast?.any slugChar) &&
    value.toList.all fun char => slugChar char || char = '-'

/-- The end of the reseller dialogue; every failure is reported to the chat. -/
def finishReseller (env : Env) (chatId : Int) (state : Dialogue) : Op Unit :=
  tryCatch
    (do
      let name ← textEntry state "name"
      let slug ← textEntry state "slug"
      let telegramId ← textEntry state "telegram_id"
      let price ← textEntry state "price"
      let credit ← textEntry state "credit"
      createReseller env chatId ⟨name, slug, telegramId, price, credit⟩
      clearState chatId
      sendMenu env chatId)
    fun _ => do
      clearState chatId
      sendMenu env chatId

def continueReseller (env : Env) (chatId : Int) (value : String) (state : Dialogue) : Op Unit :=
  if state.step = "name" then
    if value.length < 2 then send chatId
    else proceed chatId (state.answer "name" (.text value) "slug")
  else if state.step = "slug" then
    if isSlug value = true then proceed chatId (state.answer "slug" (.text value) "telegram_id")
    else send chatId
  else if state.step = "telegram_id" then
    if isDigit value = true then
      proceed chatId (state.answer "telegram_id" (.text value) "price")
    else send chatId
  else if state.step = "price" then do
    let typed ← typedNumber (number value)
    branch (typed.filter (0 < ·)) (send chatId)
      fun _ => proceed chatId (state.answer "price" (.text (number value)) "credit")
  else if state.step = "credit" then
    if isDigit (number value) = true then
      finishReseller env chatId (state.answer "credit" (.text (number value)) "credit")
    else send chatId
  else pure ()

/-! ## Continuing a dialogue -/

def continueState (env : Env) (chatId : Int) (value : String) (state : Dialogue) : Op Unit :=
  if value = "/cancel" then do
    clearState chatId
    sendMenu env chatId
  else if state.flow = "order" then continueOrder env chatId value state
  else if state.flow = "quote" then continueQuote env chatId value state
  else if state.flow = "category" then continueCategory env chatId value state
  else if state.flow = "plan" then continuePlan env chatId value state
  else if state.flow = "attach" then continueAttach env chatId value state
  else if state.flow = "credit" then continueCredit env chatId value
  else continueReseller env chatId value state

end Bot

end ControlPlane
