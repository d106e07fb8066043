import ControlPlane.Bot.Bounds
import ControlPlane.Library.Rules

/-!
# Actions that keep the bounds

What the actions behind the bot write and raise, given that the stored plans
and dialogues are within their bounds. Actions that take data from a dialogue
keep the bounds when the data does.
-/

namespace ControlPlane.Bot

open ReadCommitted Orm PythonText

set_option synthInstance.maxSize 100000

/-- The rules of the bot: it stores nothing that a model of the WebApp would refuse, and builds no
model that fails, where the stored dialogues were answered in a given way. -/
def rules (answered : Int → Dialogue → Prop) : Rules Database Failure where
  inv := PlansFit
  writes := Fits
  asks
    | .setState _ dialogue => Collected dialogue
    | _ => True
  told
    | .getState chatId, state => ∀ dialogue ∈ state, Collected dialogue ∧ answered chatId dialogue
    | _, _ => True
  raises exception := exception ≠ validationError

variable {answered : Int → Dialogue → Prop}

/-! ## Exceptions -/

instance (status : Nat) (detail : String) : OfKind (rules answered).raises (.http status detail) :=
  ⟨by rintro ⟨⟩⟩

instance (message : String) : OfKind (rules answered).raises (.permissionError message) :=
  ⟨by rintro ⟨⟩⟩

instance (bindingId organizationId : Id) (amountIrr : Int) :
    OfKind (rules answered).raises (.billingHold bindingId organizationId amountIrr) :=
  ⟨by rintro ⟨⟩⟩

instance : OfKind (rules answered).raises .unexpected := ⟨by rintro ⟨⟩⟩

instance : OfKind (rules answered).raises .database := ⟨by rintro ⟨⟩⟩

instance : OfKind (rules answered).raises (DatabaseFailure.failure : Failure) := ⟨by rintro ⟨⟩⟩

/-- A `ValueError` with another message. -/
theorem ofKind_valueError {message : String} (other : message ≠ "validation error") :
    OfKind (rules answered).raises (.valueError message) :=
  ⟨fun same => other (Failure.valueError.inj same)⟩

instance : OfKind (rules answered).raises (.valueError "paying organization not found") :=
  ofKind_valueError (by decide)
instance : OfKind (rules answered).raises (.valueError "organization suspended") :=
  ofKind_valueError (by decide)
instance : OfKind (rules answered).raises (.valueError "insufficient credit") :=
  ofKind_valueError (by decide)
instance : OfKind (rules answered).raises (.valueError "amount must be positive") :=
  ofKind_valueError (by decide)
instance : OfKind (rules answered).raises
    (.valueError "invalid literal for int() with base 10") :=
  ofKind_valueError (by decide)
instance : OfKind (rules answered).raises (.valueError "این شناسه قبلاً استفاده شده است.") :=
  ofKind_valueError (by decide)

instance (exception : Failure) [known : OfKind (rules answered).raises exception] :
    OfKind (rules answered).raises (deniedOf exception) := by
  cases exception with
  | http status detail => exact ⟨by rintro ⟨⟩⟩
  | _ => exact known

instance (exception : Failure) [known : OfKind (rules answered).raises exception] :
    OfKind (rules answered).raises (conflictOf exception) := by
  cases exception with
  | valueError message => exact ⟨by rintro ⟨⟩⟩
  | billingHold bindingId organizationId amountIrr => exact ⟨by rintro ⟨⟩⟩
  | _ => exact known

instance (failure : PanelFailure) : OfKind (rules answered).raises failure.failure := by
  cases failure with
  | status code =>
      unfold PanelFailure.failure
      dsimp only
      split <;> infer_instance
  | unreachable => exact ⟨by rintro ⟨⟩⟩

/-! ## Statements -/

/-- A table about whose rows no dialogue decides. -/
class Free (table : Table) : Prop where
  insert : ∀ row : table.Row, Fits (.insert table row)
  update : ∀ (key : table.Key) (columns : table.Change), Fits (.update table key columns)

instance : Free .organizations := ⟨fun _ => trivial, fun _ _ => trivial⟩
instance : Free .closures := ⟨fun _ => trivial, fun _ _ => trivial⟩
instance : Free .contracts := ⟨fun _ => trivial, fun _ _ => trivial⟩
instance : Free .accounts := ⟨fun _ => trivial, fun _ _ => trivial⟩
instance : Free .transactions := ⟨fun _ => trivial, fun _ _ => trivial⟩
instance : Free .entries := ⟨fun _ => trivial, fun _ _ => trivial⟩
instance : Free .panels := ⟨fun _ => trivial, fun _ _ => trivial⟩
instance : Free .bindings := ⟨fun _ => trivial, fun _ _ => trivial⟩
instance : Free .outbox := ⟨fun _ => trivial, fun _ _ => trivial⟩
instance : Free .actors := ⟨fun _ => trivial, fun _ _ => trivial⟩
instance : Free .memberships := ⟨fun _ => trivial, fun _ _ => trivial⟩
instance : Free .auditLogs := ⟨fun _ => trivial, fun _ _ => trivial⟩
instance : Free .approvals := ⟨fun _ => trivial, fun _ _ => trivial⟩

instance (table : Table) (key : table.Key) :
    Obedient (α := no_index (Option table.Row)) (rules answered) (get table key) :=
  inferInstanceAs (Obedient (rules answered) (select _))

instance (table : Table) (condition : table.Row → Bool) :
    Obedient (α := no_index (Option table.Row)) (rules answered) (scalar table condition) :=
  inferInstanceAs (Obedient (rules answered) (select _))

instance (table : Table) (condition : table.Row → Bool) :
    Obedient (α := no_index (List table.Row)) (rules answered) (scalars table condition) :=
  inferInstanceAs (Obedient (rules answered) (select _))

instance (query : Query) [MayAsk (rules answered) query] :
    Obedient (α := no_index query.Answer) (rules answered) (consult query) :=
  inferInstanceAs (Obedient (rules answered) (ask (S := Database) query))

instance : MayAsk (rules answered) .uid := ⟨trivial⟩
instance : MayAsk (rules answered) .now := ⟨trivial⟩
instance : MayAsk (rules answered) .tokenHex := ⟨trivial⟩
instance (reference : Option String) : MayAsk (rules answered) (.resolveSecret reference) :=
  ⟨trivial⟩
instance (panel : Panel) (call : PanelCall) : MayAsk (rules answered) (.panel panel call) :=
  ⟨trivial⟩
instance (chatId : Int) : MayAsk (rules answered) (.sendMessage chatId) := ⟨trivial⟩
instance : MayAsk (rules answered) .answerCallback := ⟨trivial⟩
instance (chatId : Int) : MayAsk (rules answered) (.getState chatId) := ⟨trivial⟩
instance (chatId : Int) : MayAsk (rules answered) (.clearState chatId) := ⟨trivial⟩

instance : Obedient (rules answered) uid := by
  unfold uid
  infer_instance

instance : Obedient (rules answered) now :=
  inferInstanceAs (Obedient (rules answered) (ask (S := Database) .now))

instance (table : Table) [free : Free table] (row : table.Row) :
    Obedient (rules answered) (insert table row) :=
  Obedient.add (free.insert row)

instance (table : Table) [free : Free table] (key : table.Key) (columns : table.Change) :
    Obedient (rules answered) (assign table key columns) :=
  Obedient.add (free.update key columns)

instance (table : Table) [free : Free table] (row : table.Row) :
    Obedient (rules answered) (execute (.insert table row) : Op Bool) :=
  Obedient.execute (free.insert row)

instance (table : Table) [free : Free table] (key : table.Key) (columns : table.Change) :
    Obedient (rules answered) (execute (.update table key columns) : Op Bool) :=
  Obedient.execute (free.update key columns)

instance (table : Table) (key : table.Key) :
    Obedient (α := no_index (Option table.Row)) (rules answered) (getForUpdate table key) := by
  unfold getForUpdate
  infer_instance

/-- What a session returns is what its body returns. -/
theorem withSession_obeys {body : Op α} {post : α → Prop}
    (obeys : body.Obeys (rules answered) post) :
    (withSession body).Obeys (rules answered) post := by
  unfold withSession
  refine .bind (.tryCatch obeys fun exception raised => ?_) fun value holds => ?_
  · exact .bind Obedient.rollback.obeys fun _ _ => .throw raised
  · exact .bind Obedient.rollback.obeys fun _ _ => .pure holds

instance (body : Op α) [Obedient (rules answered) body] :
    Obedient (rules answered) (withSession body) :=
  ⟨withSession_obeys Obedient.obeys⟩

instance (table : Table) [Free table] (row : table.Row) :
    Obedient (rules answered) (ControlPlane.send (.insert table row)) := by
  unfold ControlPlane.send
  infer_instance

instance (table : Table) [Free table] (key : table.Key) (columns : table.Change) :
    Obedient (rules answered) (ControlPlane.send (.update table key columns)) := by
  unfold ControlPlane.send
  infer_instance

/-! ## Core operations -/

instance (key default : String) : Obedient (rules answered) (setting key default) := by
  unfold setting
  infer_instance

instance (action targetType targetId : String) (actorId organizationId : Option Id) :
    Obedient (rules answered) (audit action targetType targetId actorId organizationId) := by
  unfold audit
  infer_instance

instance (owner : String) : Obedient (rules answered) (account owner) := by
  unfold account
  infer_instance

instance (organizationId : Id) : Obedient (rules answered) (balance organizationId) := by
  unfold balance
  infer_instance

instance (source : String) (balanceIrr amountIrr : Int) :
    Obedient (rules answered) (checkPayer source balanceIrr amountIrr) := by
  unfold checkPayer
  infer_instance

instance (source target : Account) (amountIrr : Int) (key kind reference : String)
    (actorId : Option Id) :
    Obedient (rules answered) (post source target amountIrr key kind reference actorId) := by
  unfold post
  infer_instance

instance (source target : String) (amountIrr : Int) (key kind reference : String) (enforce : Bool)
    (actorId : Option Id) :
    Obedient (rules answered)
      (transferFresh source target amountIrr key kind reference enforce actorId) := by
  unfold transferFresh
  infer_instance

instance (source target : String) (amountIrr : Int) (key kind reference : String) (enforce : Bool)
    (actorId : Option Id) :
    Obedient (rules answered)
      (transfer source target amountIrr key kind reference enforce actorId) := by
  unfold transfer
  infer_instance

instance (organizationId : Id) : Obedient (rules answered) (depthOf organizationId) := by
  unfold depthOf
  infer_instance

instance (env : Env) (parent : Organization) :
    Obedient (rules answered) (effectiveDepthLimit env parent) := by
  unfold effectiveDepthLimit
  infer_instance

instance (env : Env) (parent : Organization) :
    Obedient (rules answered) (assertDepthAllowed env parent) := by
  unfold assertDepthAllowed
  infer_instance

instance (topic : String) (aggregateId : Id) (payload : Payload) :
    Obedient (rules answered) (enqueue topic aggregateId payload) := by
  unfold enqueue
  infer_instance

instance (env : Env) (actorId : Id) (telegramId : Int) :
    Obedient (rules answered) (pickMembership env actorId telegramId) := by
  unfold pickMembership
  infer_instance

instance (telegramId : Int) : Obedient (rules answered) (optionalMembership telegramId) := by
  unfold optionalMembership
  infer_instance

instance (panelId organizationId : Id) :
    Obedient (rules answered) (ownedPanel panelId organizationId) := by
  unfold ownedPanel
  infer_instance

instance (slug message : String) : Obedient (rules answered) (requireFreeSlug slug message) := by
  unfold requireFreeSlug
  infer_instance

instance (organizationId actorId : Id) (role : Role) :
    Obedient (rules answered) (addMembership organizationId actorId role) := by
  unfold addMembership
  infer_instance

instance (parentId : Id) (name slug : String) (creditLimitIrr pricePerGibIrr : Int) :
    Obedient (rules answered) (openChild parentId name slug creditLimitIrr pricePerGibIrr) := by
  unfold openChild
  infer_instance

/-! ## Panels -/

instance (panel : Panel) : Obedient (rules answered) (panelClient panel) := by
  unfold panelClient resolveSecrets
  infer_instance

instance (panel : Panel) (call : PanelCall) :
    Obedient (rules answered) (panelAnswer panel call) := by
  unfold panelAnswer
  infer_instance

instance (outcome : Except PanelFailure α) :
    Obedient (rules answered) (attempt (outcome.mapError PanelFailure.failure)) := by
  cases outcome with
  | ok value => exact Obedient.pure value
  | error failure => exact Obedient.throw failure.failure

instance (panel : Panel) (organizationId : Id) (action : String) (call : PanelCall)
    (actorId : Option Id) : Obedient (α := no_index call.Reply) (rules answered)
      (panelOperation panel organizationId action call actorId) := by
  unfold panelOperation
  infer_instance

/-! ## Orders -/

instance (telegramId : Int) : Obedient (rules answered) (requesterActor telegramId) := by
  unfold requesterActor
  infer_instance

instance (telegramId : Int) (displayName : String) :
    Obedient (rules answered) (requesterActorCreated telegramId displayName) := by
  unfold requesterActorCreated
  infer_instance

instance (attempts : Nat) : Obedient (rules answered) (orderSlug attempts) := by
  induction attempts with
  | zero => exact Obedient.throw _
  | succ attempts inductionHypothesis =>
      unfold orderSlug
      infer_instance

instance : Obedient (rules answered) uniqueOrderSlug := by
  unfold uniqueOrderSlug
  infer_instance

instance (panelId : Id) : Obedient (rules answered) (saleablePanel panelId) := by
  unfold saleablePanel
  infer_instance

instance (plan : Plan) (categoryId : Id) :
    Obedient (rules answered) (requireOpenShelf plan categoryId) := by
  unfold requireOpenShelf
  infer_instance

/-- A plan that prices an order is a stored one. -/
theorem pricedPlan_obeys (panel : Panel) (planId : Option Id) :
    (pricedPlan panel planId).Obeys (rules answered) fun priced =>
      ∀ plan ∈ priced, validPlan (planTerms plan) = true := by
  unfold pricedPlan
  refine .branch (.pure (by rintro _ ⟨⟩)) fun planId _ => ?_
  have stored : (get .plans planId).Obeys (rules answered) fun row =>
      ∀ plan ∈ row, validPlan (planTerms plan) = true :=
    .select fun db plans plan found => plans plan (Db.find_mem found).1
  refine stored.bind fun row fits => .bind (.found (by rintro ⟨⟩)) fun plan found => ?_
  have shelved : Obedient (rules answered)
      (branch (plan.categoryId.filter (· ≠ "")) (pure ()) (requireOpenShelf plan)) := inferInstance
  refine .bind shelved.obeys fun _ _ => .pure ?_
  rintro _ ⟨⟩
  exact fits plan (Option.filter_eq_some_iff.mp found).1

/-- An order fits when the request does; the size of a plan replaces the one of the request. -/
theorem orderRow_fits {data : OrderIn} (valid : validOrder data = true) (id actorId : Id)
    (panel : Panel) (slug : String) {priced : Option Plan}
    (plans : ∀ plan ∈ priced, validPlan (planTerms plan) = true) :
    validOrder (orderTerms (orderRow id actorId panel slug data priced)) = true := by
  cases priced with
  | none => exact valid
  | some plan =>
      have terms := plans plan rfl
      simp only [validPlan, validOrder, Bool.and_eq_true, decide_eq_true_eq] at terms valid ⊢
      dsimp only [planTerms, orderTerms, orderRow] at terms ⊢
      omega

variable (answered) in
/-- Placing an order whose request fits. -/
theorem createPanelOrder_obedient (telegramId : Int) (displayName : String) {data : OrderIn}
    (valid : validOrder data = true) :
    Obedient (rules answered) (createPanelOrder telegramId displayName data) := by
  have inserted : ∀ (id actorId : Id) (panel : Panel) (slug : String) (priced : Option Plan),
      (∀ plan ∈ priced, validPlan (planTerms plan) = true) →
      Obedient (rules answered)
        (insert .orders (orderRow id actorId panel slug data priced)) :=
    fun id actorId panel slug priced plans =>
      Obedient.add (orderRow_fits valid id actorId panel slug plans)
  unfold createPanelOrder
  refine ⟨.bind Obedient.obeys fun panel _ =>
    .bind (pricedPlan_obeys panel data.planId) fun priced plans => ?_⟩
  have ordered := fun id actorId slug => inserted id actorId panel slug priced plans
  exact Obedient.obeys

instance (order : PanelOrder) (toStatus : OrderStatus) :
    Obedient (rules answered) (requireTransition order toStatus) := by
  unfold requireTransition
  infer_instance

instance (orderId : Id) (toStatus : OrderStatus) :
    Obedient (rules answered) (lockedOrder orderId toStatus) := by
  unfold lockedOrder
  infer_instance

instance (order : PanelOrder) (organizationId : Id) :
    Obedient (rules answered) (assertOrderSeller order organizationId) := by
  unfold assertOrderSeller
  infer_instance

/-- Columns without terms fit. -/
theorem TermsFit.unpriced {columns : PanelOrderColumns} (amount : columns.amountIrr = none)
    (credit : columns.creditLimitIrr = none) (price : columns.pricePerGibIrr = none)
    (instructions : columns.paymentInstructions = none) (account : columns.pgAdminId = none) :
    TermsFit columns := by
  constructor
  · simp [amount]
  · simp [credit]
  · simp [price]
  · simp [instructions]
  · simp [account]

/-- Assigning terms that fit to an order. -/
theorem assignOrder (orderId : Id) {columns : PanelOrderColumns} (terms : TermsFit columns) :
    Obedient (rules answered) (assign .orders orderId columns) :=
  Obedient.add terms

instance (order : PanelOrder) (toStatus : OrderStatus) :
    Obedient (rules answered) (advanceCustomerOrder order toStatus) := by
  have assigned : Obedient (rules answered)
      (assign .orders order.id { status := some toStatus }) :=
    assignOrder order.id (.unpriced rfl rfl rfl rfl rfl)
  unfold advanceCustomerOrder
  infer_instance

variable (answered) in
/-- Quoting an order with terms that fit. -/
theorem quotePanelOrder_obedient (order : PanelOrder) {data : OrderQuoteIn}
    (valid : validQuote data = true) (reviewerId organizationId : Id) :
    Obedient (rules answered) (quotePanelOrder order data reviewerId organizationId) := by
  simp only [validQuote, Bool.and_eq_true, decide_eq_true_eq] at valid
  obtain ⟨⟨⟨⟨⟨⟨positive, most⟩, credit⟩, price⟩, least⟩, length⟩, valid⟩ := valid
  have account : ∀ id ∈ data.pgAdminId, 0 < id := by
    intro id given
    rw [Option.mem_def.mp given] at valid
    exact of_decide_eq_true valid
  have assigned : ∀ username : String, Obedient (rules answered) (assign .orders order.id
      { creditLimitIrr := some data.creditLimitIrr, pricePerGibIrr := some data.pricePerGibIrr
        amountIrr := some data.amountIrr, paymentInstructions := some data.paymentInstructions
        adminUsername := some username, pgAdminId := some data.pgAdminId
        status := some .quoted }) := by
    refine fun username => assignOrder order.id ⟨?_, ?_, ?_, ?_, ?_⟩
    · rintro _ ⟨⟩
      exact ⟨positive, most⟩
    · rintro _ ⟨⟩
      exact credit
    · rintro _ ⟨⟩
      exact price
    · rintro _ ⟨⟩
      exact ⟨least, length⟩
    · rintro _ ⟨⟩ id given
      exact account id given
  unfold quotePanelOrder
  infer_instance

instance (order : PanelOrder) (reviewerId organizationId : Id) (reason : String) :
    Obedient (rules answered) (rejectPanelOrder order reviewerId organizationId reason) := by
  have assigned : ∀ time : Time, Obedient (rules answered) (assign .orders order.id
      { status := some .rejected, rejectionReason := some reason
        decidedBy := some (some reviewerId), decidedAt := some (some time) }) :=
    fun _ => assignOrder order.id (.unpriced rfl rfl rfl rfl rfl)
  unfold rejectPanelOrder
  infer_instance

/-- A panel account that arrives with an approval is none or positive. -/
def AttachFits (attach : Option OrderApproveIn) : Prop :=
  ∀ data ∈ attach, ∀ id ∈ data.pgAdminId, 0 < id

variable (answered) in
theorem attachAdmin_obedient (order : PanelOrder) {attach : Option OrderApproveIn}
    (fits : AttachFits attach) : Obedient (rules answered) (attachAdmin order attach) := by
  unfold attachAdmin
  refine ⟨.branch (.pure trivial) fun data given => ?_⟩
  have assigned : ∀ username : String, Obedient (rules answered) (assign .orders order.id
      { pgAdminId := some data.pgAdminId, adminUsername := some username }) := by
    refine fun username => assignOrder order.id ⟨by rintro _ ⟨⟩, by rintro _ ⟨⟩, by rintro _ ⟨⟩,
      by rintro _ ⟨⟩, ?_⟩
    rintro _ ⟨⟩
    exact fits data (Option.filter_eq_some_iff.mp given).1
  exact Obedient.obeys

instance (order : PanelOrder) (childId panelId : Id) (pgAdminId : Int) :
    Obedient (rules answered) (bindCustomer order childId panelId pgAdminId) := by
  unfold bindCustomer
  infer_instance

variable (answered) in
theorem approvePanelOrder_obedient (env : Env) (locked : PanelOrder) (reviewerId sellerId : Id)
    {attach : Option OrderApproveIn} (fits : AttachFits attach) :
    Obedient (rules answered) (approvePanelOrder env locked reviewerId sellerId attach) := by
  have attached := attachAdmin_obedient answered locked fits
  have assigned : ∀ (orderId childId : Id) (time : Time),
      Obedient (rules answered) (assign .orders orderId
        { status := some .approved, organizationId := some (some childId)
          decidedBy := some (some reviewerId), decidedAt := some (some time) }) :=
    fun orderId _ _ => assignOrder orderId (.unpriced rfl rfl rfl rfl rfl)
  unfold approvePanelOrder
  infer_instance

/-! ## The catalog -/

instance (categoryId organizationId : Id) :
    Obedient (rules answered) (catalogShelf categoryId organizationId) := by
  unfold catalogShelf
  infer_instance

instance (planId organizationId : Id) :
    Obedient (rules answered) (catalogPlan planId organizationId) := by
  unfold catalogPlan
  infer_instance

instance (data : PlanIn) (organizationId : Id) :
    Obedient (rules answered) (validatedPlan data organizationId) := by
  unfold validatedPlan
  infer_instance

variable (answered) in
/-- Creating a category whose fields fit. -/
theorem createPlanCategory_obedient (organizationId actorId : Id) {data : PlanCategoryIn}
    (valid : validCategory data = true) :
    Obedient (rules answered) (createPlanCategory organizationId actorId data) := by
  have inserted : ∀ id : Id, Obedient (rules answered)
      (insert .planCategories ⟨id, organizationId, data.name, data.description, .active⟩) :=
    fun _ => Obedient.add valid
  unfold createPlanCategory
  infer_instance

variable (answered) in
/-- Creating a plan whose fields fit. -/
theorem createCatalogPlan_obedient (organizationId actorId : Id) {data : PlanIn}
    (valid : validPlan data = true) :
    Obedient (rules answered) (createCatalogPlan organizationId actorId data) := by
  have inserted : ∀ (id : Id) (panel : Panel), Obedient (rules answered) (insert .plans
      ⟨id, organizationId, panel.id, data.categoryId, data.name, data.description,
        data.pricePerGibIrr, data.dailyGib, data.durationDays, data.userCount,
        data.creditLimitIrr, data.paymentInstructions, .active⟩) :=
    fun _ _ => Obedient.add valid
  unfold createCatalogPlan
  infer_instance

instance (categoryId : Id) (status : Switch) :
    Obedient (rules answered) (assign .planCategories categoryId { status := some status }) := by
  refine Obedient.add fun category valid => ?_
  unfold Layout.amend
  split <;> exact valid

instance (planId : Id) (status : Switch) :
    Obedient (rules answered) (assign .plans planId { status := some status }) := by
  refine Obedient.add fun plan valid => ?_
  unfold Layout.amend
  split <;> exact valid

instance (organizationId actorId : Id) (kind : CatalogKind) (targetId : Id) (status : String) :
    Obedient (rules answered) (setCatalogStatus organizationId actorId kind targetId status) := by
  unfold setCatalogStatus
  cases kind <;> infer_instance

/-! ## Money -/

instance (requestId : Id) (columns : FundingRequestColumns) :
    Obedient (rules answered) (assign .fundingRequests requestId columns) :=
  Obedient.add trivial

instance (actorId : Id) (request : FundingRequest) :
    Obedient (rules answered) (payFundingRequest actorId request) := by
  unfold payFundingRequest
  infer_instance

instance (organizationId : Id) (amountIrr : Int) (approvalId actorId : Id) :
    Obedient (rules answered) (moveAdjustment organizationId amountIrr approvalId actorId) := by
  unfold moveAdjustment
  infer_instance

variable (answered) in
/-- Translating what a program raises. -/
theorem translated {body : Op α} [obedient : Obedient (rules answered) body]
    (translate : Failure → Failure)
    (kept : ∀ exception [OfKind (rules answered).raises exception],
      OfKind (rules answered).raises (translate exception)) :
    Obedient (rules answered) (tryCatch body fun exception => throw (translate exception)) :=
  ⟨.tryCatch obedient.obeys fun exception raised => .throw (@kept exception ⟨raised⟩).holds⟩

instance (approval : ApprovalRequest) (actorId : Id) :
    Obedient (rules answered) (applyWalletAdjustment approval actorId) := by
  have moved : ∀ organizationId : Id, Obedient (rules answered) (tryCatch
      (moveAdjustment organizationId approval.amountIrr approval.id actorId)
      fun exception => throw (conflictOf exception)) :=
    fun _ => translated _ conflictOf fun _ => inferInstance
  unfold applyWalletAdjustment
  infer_instance

instance (approvalId : Id) (time : Time) :
    Obedient (rules answered) (lockedPendingApproval approvalId time) := by
  unfold lockedPendingApproval
  infer_instance

/-! ## The bot -/

instance (chatId : Int) : Obedient (rules answered) (send chatId) := by
  unfold send
  infer_instance

instance : Obedient (rules answered) answerCallback := by
  unfold answerCallback
  infer_instance

instance (chats : List Int) (exceptChat : Option Int) :
    Obedient (rules answered) (notifyChats chats exceptChat) := by
  unfold notifyChats
  infer_instance

instance (env : Env) (chatId : Int) : Obedient (rules answered) (context env chatId) := by
  unfold context
  infer_instance

instance (env : Env) (chatId : Int) : Obedient (rules answered) (requireContext env chatId) := by
  unfold requireContext
  infer_instance

instance (env : Env) (chatId : Int) (permission : Permission) :
    Obedient (rules answered) (permitted env chatId permission) := by
  unfold permitted
  infer_instance

instance (env : Env) (chatId : Int) : Obedient (rules answered) (currentRole env chatId) := by
  unfold currentRole
  infer_instance

instance (body : Op α) [Obedient (rules answered) body] :
    Obedient (rules answered) (replying body) := by
  unfold replying
  exact translated _ deniedOf fun _ => inferInstance

instance (env : Env) (chatId : Int) (panelId : Id) (saleable : Bool) :
    Obedient (rules answered) (setSaleable env chatId panelId saleable) := by
  unfold setSaleable
  infer_instance

instance (panelId organizationId : Id) :
    Obedient (rules answered) (botPanel panelId organizationId) := by
  unfold botPanel
  infer_instance

instance (caller : Context) (panel : Panel) (action : String) (call : PanelCall) :
    Obedient (rules answered) (runPanelOperation caller panel action call) := by
  unfold runPanelOperation
  infer_instance

instance (env : Env) (chatId : Int) (panelId : Id) :
    Obedient (rules answered) (nodeList env chatId panelId) := by
  unfold nodeList
  infer_instance

instance (env : Env) (chatId : Int) (panelId : Id) (nodeId auditAction : String)
    (call : Int → PanelCall) :
    Obedient (rules answered) (runNode env chatId panelId nodeId auditAction call) := by
  unfold runNode
  infer_instance

instance (env : Env) (chatId : Int) (panelId : Id) (nodeId action : String) :
    Obedient (rules answered) (nodeAction env chatId panelId nodeId action) := by
  unfold nodeAction
  infer_instance

instance (env : Env) (chatId : Int) : Obedient (rules answered) (catalogCtx env chatId) := by
  unfold catalogCtx
  infer_instance

instance (kind : CatalogKind) (targetId : Id) :
    Obedient (rules answered) (toggled kind targetId) := by
  unfold toggled
  cases kind <;> infer_instance

instance (env : Env) (chatId : Int) (kind : CatalogKind) (targetId : Id) :
    Obedient (rules answered) (toggleCatalog env chatId kind targetId) := by
  unfold toggleCatalog
  infer_instance

variable (answered) in
theorem createShelf_obedient (env : Env) (chatId : Int) {data : PlanCategoryIn}
    (valid : validCategory data = true) :
    Obedient (rules answered) (createShelf env chatId data) := by
  have checked : Obedient (rules answered) (require (validCategory data = true) validationError) :=
    Obedient.satisfied valid
  have created := fun organizationId actorId : Id =>
    createPlanCategory_obedient answered organizationId actorId valid
  unfold createShelf
  infer_instance

variable (answered) in
theorem savePlan_obedient (env : Env) (chatId : Int) {data : PlanIn}
    (valid : validPlan data = true) : Obedient (rules answered) (savePlan env chatId data) := by
  have checked : Obedient (rules answered) (require (validPlan data = true) validationError) :=
    Obedient.satisfied valid
  have created := fun organizationId actorId : Id =>
    createCatalogPlan_obedient answered organizationId actorId valid
  unfold savePlan
  infer_instance

instance (env : Env) (chatId : Int) : Obedient (rules answered) (catalogPanels env chatId) := by
  unfold catalogPanels
  infer_instance

/-- A plan that is picked is a stored one. -/
theorem pickPlan_obeys (planId : Id) : (pickPlan planId).Obeys (rules answered) fun picked =>
    ∀ plan ∈ picked, validPlan (planTerms plan) = true :=
  withSession_obeys <| .select fun _ plans plan found =>
    plans plan (List.mem_of_mem_filter (List.mem_of_find?_eq_some found))

instance (env : Env) (chatId : Int) (requestId : Id) (approve : Bool) :
    Obedient (rules answered) (decideFunding env chatId requestId approve) := by
  unfold decideFunding
  infer_instance

instance (approval : ApprovalRequest) (actorId : Id) :
    Obedient (rules answered) (botApplicator approval actorId) := by
  unfold botApplicator
  infer_instance

instance (env : Env) (chatId : Int) (approvalId : Id) (approve : Bool) :
    Obedient (rules answered) (decideApproval env chatId approvalId approve) := by
  unfold decideApproval
  infer_instance

variable (answered) in
theorem requestCredit_obedient (env : Env) (chatId : Int) {amountIrr : Int}
    (positive : 0 < amountIrr) (most : amountIrr ≤ 10000000000000) :
    Obedient (rules answered) (requestCredit env chatId amountIrr) := by
  have inserted : ∀ (id : Id) (caller : Context), Obedient (rules answered)
      (insert .fundingRequests
        ⟨id, caller.organizationId, caller.actorId, amountIrr, .pending, none, none⟩) :=
    fun _ _ => Obedient.add ⟨positive, most⟩
  unfold requestCredit
  infer_instance

instance (text : String) : Obedient (rules answered) (parseInt text) := by
  unfold parseInt
  infer_instance

instance (env : Env) (chatId : Int) (data : ResellerData) :
    Obedient (rules answered) (createReseller env chatId data) := by
  unfold createReseller
  infer_instance

variable (answered) in
theorem placeOrder_obedient (chatId : Int) {data : OrderIn} (valid : validOrder data = true) :
    Obedient (rules answered) (placeOrder chatId data) := by
  have created := createPanelOrder_obedient answered chatId data.businessName valid
  unfold placeOrder
  infer_instance

instance (env : Env) (chatId : Int) (orderId : Id) :
    Obedient (rules answered) (orderDetail env chatId orderId) := by
  unfold orderDetail
  infer_instance

instance (chatId : Int) (orderId : Id) (status : OrderStatus) :
    Obedient (rules answered) (customerOrderAction chatId orderId status) := by
  unfold customerOrderAction
  infer_instance

variable (answered) in
theorem reviewerOrderAction_obedient (env : Env) (chatId : Int) (orderId : Id) (approve : Bool)
    (reason : String) {attach : Option OrderApproveIn} (fits : AttachFits attach) :
    Obedient (rules answered) (reviewerOrderAction env chatId orderId approve reason attach) := by
  have approved := fun (order : PanelOrder) (reviewerId sellerId : Id) =>
    approvePanelOrder_obedient answered env order reviewerId sellerId fits
  unfold reviewerOrderAction
  infer_instance

instance (orderId : Id) : Obedient (rules answered) (orderNeedsAdmin orderId) := by
  unfold orderNeedsAdmin
  infer_instance

variable (answered) in
theorem applyQuote_obedient (env : Env) (chatId : Int) (orderId : Id) {data : OrderQuoteIn}
    (valid : validQuote data = true) :
    Obedient (rules answered) (applyQuote env chatId orderId data) := by
  have checked : Obedient (rules answered) (require (validQuote data = true) validationError) :=
    Obedient.satisfied valid
  have quoted := fun (order : PanelOrder) (reviewerId organizationId : Id) =>
    quotePanelOrder_obedient answered order valid reviewerId organizationId
  unfold applyQuote
  infer_instance

instance (orderId : Id) : Obedient (rules answered) (orderOwnerTelegramId orderId) := by
  unfold orderOwnerTelegramId
  infer_instance

instance (organizationId : Option Id) (roles : List Role) :
    Obedient (rules answered) (staffChats organizationId roles) := by
  unfold staffChats
  infer_instance

instance (panelId : Id) : Obedient (rules answered) (orderReviewerChats panelId) := by
  unfold orderReviewerChats
  infer_instance

end ControlPlane.Bot
