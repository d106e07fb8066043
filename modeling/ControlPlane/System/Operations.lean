import ControlPlane.Delivery.Handlers
import ControlPlane.Sustaining
import ControlPlane.WebApi.Secrets
import ControlPlane.Worker

/-!
# Everyday operations

The operations of the API, of the WebApp, of the bot and of the workers sustain
every law that says nothing about the rows they write. Rows of most tables are
written freely; new organizations, memberships, servers and bindings, rows of
orders and of the ledger are asked for one by one, as the classes of the
instances.
-/

namespace ControlPlane

open ReadCommitted Orm

set_option synthInstance.maxSize 1000000

/-- Inserting rows of a table is benign. -/
class Insertable (Benign : Database.Write → Prop) (table : Table) : Prop where
  insert : ∀ row : table.Row, Benign (.insert table row)

/-- A new member with a role is benign. -/
class Enrolls (Benign : Database.Write → Prop) (role : Role) : Prop where
  insert : ∀ (id organizationId actorId : Id) (time : Time),
    Benign (.insert .memberships ⟨id, organizationId, actorId, role, .active, time⟩)

/-- Registering a server of a supported vendor, with sealed credentials and a billing coefficient,
is benign. -/
class Registers (Benign : Database.Write → Prop) (packages : Packages) : Prop where
  insert : ∀ row : Panel, row.Guarded packages → row.vendor ∈ supportedVendors →
    Benign (.insert .panels row)

/-- Binding an account under a generated id is benign. -/
class Binds (Benign : Database.Write → Prop) : Prop where
  insert : ∀ row : Binding, row.id.length = 36 → Benign (.insert .bindings row)

/-- Suspending a binding is benign. -/
class Suspends (Benign : Database.Write → Prop) : Prop where
  update : ∀ key : Id, Benign (.update .bindings key { status := some .suspended })

instance (Benign : Database.Write → Prop) [insertable : Insertable Benign .bindings] :
    Binds Benign :=
  ⟨fun row _ => insertable.insert row⟩

/-- Transfers under a key and of a kind sustain a law. -/
class Pays (A : Agreement Database) (Benign : Database.Write → Prop) (law : Law Database)
    (key kind : String) : Prop where
  pays : ∀ (source target : String) (amountIrr : Int) (reference : String) (enforce : Bool)
    (actorId : Option Id), Sustains A Benign law
      (transfer source target amountIrr key kind reference enforce actorId)

/-- Queueing events of a topic sustains a law. -/
class Announces (A : Agreement Database) (Benign : Database.Write → Prop) (law : Law Database)
    (topic : String) : Prop where
  announces : ∀ (aggregateId : Id) (payload : Payload),
    Sustains A Benign law (enqueue topic aggregateId payload)

/-- Observations sustain a law. -/
class Meters (A : Agreement Database) (Benign : Database.Write → Prop) (law : Law Database) :
    Prop where
  meters : ∀ (env : Env) (data : UsageIn), Sustains A Benign law (observe env data)

/-- The tables whose rows are written freely. -/
def dailyTables : List Table :=
  [.closures, .accounts, .panelOwners, .checkpoints, .actors, .settings, .auditLogs]

/-- The statements that nearly every operation may send. -/
def Daily : Database.Write → Prop
  | .insert table _ => table ∈ dailyTables
  -- Servers are offered to customers, and withdrawn.
  | .update .panels _ columns => columns.usageCoefficient = none
  | .update table _ _ =>
      table ∈ dailyTables ∨ table ∈ [.planCategories, .plans, .fundingRequests]
  -- Only the catalog deletes rows.
  | .delete table _ => table = .planCategories ∨ table = .plans

/-- These statements are benign. -/
class Everyday (Benign : Database.Write → Prop) : Prop where
  daily : ∀ statement, Daily statement → Benign statement

section

variable {Benign : Database.Write → Prop} [everyday : Everyday Benign]

theorem Everyday.admitted {table : Table} (free : table ∈ dailyTables) :
    Admitted Benign table where
  insert row := everyday.daily _ free
  update key columns := everyday.daily _ (by
    cases table <;> first | exact .inl free | exact absurd free (by decide))

theorem Everyday.amended {table : Table}
    (free : table ∈ [.planCategories, .plans, .fundingRequests]) :
    Amended Benign table where
  update key columns := everyday.daily _ (by
    cases table <;> first | exact .inr free | exact absurd free (by decide))

instance : Admitted Benign .closures := Everyday.admitted (by decide)
instance : Admitted Benign .accounts := Everyday.admitted (by decide)
instance : Admitted Benign .panelOwners := Everyday.admitted (by decide)
instance : Admitted Benign .checkpoints := Everyday.admitted (by decide)
instance : Admitted Benign .actors := Everyday.admitted (by decide)
instance : Admitted Benign .settings := Everyday.admitted (by decide)
instance : Admitted Benign .auditLogs := Everyday.admitted (by decide)
instance : Amended Benign .planCategories := Everyday.amended (by decide)
instance : Amended Benign .plans := Everyday.amended (by decide)
instance : Amended Benign .fundingRequests := Everyday.amended (by decide)

end

variable {A : Agreement Database} {Benign : Database.Write → Prop} {law : Law Database}
  [A.Sanctions Benign law] [OffPanel A] [∀ query, A.Asks query]

instance (table : Table) [insertable : Insertable Benign table] (row : table.Row) :
    Sustains A Benign law (insert table row) :=
  Sustains.add (insertable.insert row)

section

variable [everyday : Everyday Benign]

instance (key : Id) : Sustains A Benign law (delete .planCategories key) :=
  Sustains.add (everyday.daily _ (.inl rfl))

instance (key : Id) : Sustains A Benign law (delete .plans key) :=
  Sustains.add (everyday.daily _ (.inr rfl))

instance (key : Id) (saleable : Bool) : Sustains A Benign law
    (assign .panels key { saleable := some saleable }) :=
  Sustains.add (everyday.daily _ rfl)

/-! ### Transfers -/

instance [Admitted Benign .transactions] [Admitted Benign .entries] (key kind : String) :
    Pays A Benign law key kind :=
  ⟨fun _ _ _ _ _ _ => inferInstance⟩

omit [A.Sanctions Benign law] [OffPanel A] [∀ query, A.Asks query] everyday in
instance (source target : String) (amountIrr : Int) (key kind reference : String) (enforce : Bool)
    (actorId : Option Id) [pays : Pays A Benign law key kind] :
    Sustains A Benign law (transfer source target amountIrr key kind reference enforce actorId) :=
  pays.pays source target amountIrr reference enforce actorId

instance (organizationId : Id) (data : FundIn) [Pays A Benign law data.idempotencyKey "fund"] :
    Sustains A Benign law (fund organizationId data) := by
  unfold fund
  infer_instance

instance (actorId : Id) (request : FundingRequest)
    [Pays A Benign law ("funding-request:" ++ request.id) "fund"] :
    Sustains A Benign law (payFundingRequest actorId request) := by
  unfold payFundingRequest
  infer_instance

instance (organizationId : Id) (amountIrr : Int) (approvalId actorId : Id)
    [Pays A Benign law ("approval:" ++ approvalId) "adjustment"] :
    Sustains A Benign law (moveAdjustment organizationId amountIrr approvalId actorId) := by
  unfold moveAdjustment
  infer_instance

instance (approval : ApprovalRequest) (actorId : Id)
    [Pays A Benign law ("approval:" ++ approval.id) "adjustment"] :
    Sustains A Benign law (applyWalletAdjustment approval actorId) := by
  unfold applyWalletAdjustment
  infer_instance

instance (approval : ApprovalRequest) (actorId : Id)
    [Pays A Benign law ("approval:" ++ approval.id) "adjustment"] :
    Sustains A Benign law (Bot.botApplicator approval actorId) := by
  unfold Bot.botApplicator
  infer_instance

/-! ### Events -/

omit everyday in
instance [Admitted Benign .outbox] (topic : String) : Announces A Benign law topic :=
  ⟨fun _ _ => inferInstance⟩

omit [A.Sanctions Benign law] [OffPanel A] [∀ query, A.Asks query] everyday in
instance (topic : String) (aggregateId : Id) (payload : Payload)
    [announces : Announces A Benign law topic] :
    Sustains A Benign law (enqueue topic aggregateId payload) :=
  announces.announces aggregateId payload

/-! ### Metering -/

instance (fuel : Nat) (current : Option Organization) (seen : List Id) :
    Sustains A Benign law (climb fuel current seen) := by
  induction fuel generalizing current seen with
  | zero => exact Sustains.throw _
  | succ fuel inductionHypothesis =>
      unfold climb
      infer_instance

instance (organizationId : Id) : Sustains A Benign law (edges organizationId) := by
  unfold edges
  infer_instance

instance (bindingId organizationId : Id) (amountIrr : Int)
    [Announces A Benign law "billing.hold_required"] :
    Sustains A Benign law (recordHold bindingId organizationId amountIrr) := by
  unfold recordHold
  infer_instance

instance (bindingId : Id) : Sustains A Benign law (lockedCheckpoint bindingId) := by
  unfold lockedCheckpoint
  infer_instance

section

variable [Admitted Benign .usages]

instance (data : UsageIn) : Sustains A Benign law (observeBaseline data) := by
  unfold observeBaseline
  infer_instance

instance (env : Env) (binding : Binding) (checkpoint : Checkpoint) (data : UsageIn)
    [Announces A Benign law "usage.reset_detected"] :
    Sustains A Benign law (observeRegression env binding checkpoint data) := by
  unfold observeRegression
  infer_instance

variable [Admitted Benign .transactions] [Admitted Benign .entries]

instance (binding : Binding) (old new : Nat) (rows : List Settlement) (pending : Int) :
    Sustains A Benign law (payCascade binding old new rows pending) := by
  induction rows generalizing pending with
  | nil => exact Sustains.pure ()
  | cons settled rows inductionHypothesis =>
      unfold payCascade
      infer_instance

instance (binding : Binding) (checkpoint : Checkpoint) (data : UsageIn) :
    Sustains A Benign law (observeAdvance binding checkpoint data) := by
  unfold observeAdvance
  infer_instance

instance [Announces A Benign law "usage.reset_detected"] : Meters A Benign law where
  meters env data := by
    unfold observe
    infer_instance

end

section

variable [meters : Meters A Benign law]

omit [A.Sanctions Benign law] [OffPanel A] [∀ query, A.Asks query] everyday in
instance (env : Env) (data : UsageIn) : Sustains A Benign law (observe env data) :=
  meters.meters env data

variable [Announces A Benign law "billing.hold_required"]

instance (exception : Failure) : Sustains A Benign law (usageFailed exception) := by
  unfold usageFailed
  split <;> infer_instance

instance (env : Env) (data : UsageIn) : Sustains A Benign law (usage env data) := by
  unfold usage
  infer_instance

instance (env : Env) (item : UsageIn) : Sustains A Benign law (observeItem env item) := by
  have failed : ∀ exception : Failure, Sustains A Benign law (match exception with
      | .billingHold bindingId organizationId amountIrr => do
          recordHold bindingId organizationId amountIrr
          pure (.inr (bindingId, organizationId))
      | other => throw other : Op (Id × List Settlement ⊕ Id × Id)) := by
    intro exception
    split <;> infer_instance
  unfold observeItem
  infer_instance

instance (env : Env) (items : List UsageIn) : Sustains A Benign law (observeItems env items) := by
  induction items with
  | nil => exact Sustains.pure []
  | cons item items inductionHypothesis =>
      unfold observeItems
      infer_instance

instance (env : Env) (observations : List UsageIn) :
    Sustains A Benign law (usageBatch env observations) := by
  unfold usageBatch
  infer_instance

instance (admins : List PanelAdmin) (binding : Binding) (env : Env) :
    Sustains A Benign law (pollBinding env admins binding) := by
  have failed : ∀ exception : Failure, Sustains A Benign law (match exception with
      | .billingHold bindingId organizationId _ => do
          rollback
          recordHold bindingId organizationId 0
          commit
      | _ => rollback : Op Unit) := by
    intro exception
    split <;> infer_instance
  unfold pollBinding
  infer_instance

instance (env : Env) (panelId : Id) (bindings : List Binding) :
    Sustains A Benign law (pollPanel env panelId bindings) := by
  unfold pollPanel panelAdmins resolveSecrets
  infer_instance

instance (env : Env) : Sustains A Benign law (poll env) := by
  unfold poll
  infer_instance

end

/-! ### Servers and subscribers -/

instance (panel : Panel) (call : PanelCall) : Sustains A Benign law (panelAnswer panel call) := by
  unfold panelAnswer panelClient resolveSecrets
  infer_instance

instance (panel : Panel) (organizationId : Id) (action : String) (call : PanelCall)
    (actorId : Option Id) : Sustains (α := no_index call.Reply) A Benign law
      (panelOperation panel organizationId action call actorId) := by
  unfold panelOperation
  infer_instance

instance (env : Env) (identity : TelegramIdentity) (panelId : Id) (saleable : Bool) :
    Sustains A Benign law (setPanelSaleable env identity panelId saleable) := by
  unfold setPanelSaleable
  infer_instance

instance (env : Env) (identity : TelegramIdentity) (panelId : Id) (usageCoefficient : Nat)
    [Amended Benign .panels] :
    Sustains A Benign law (webSetUsageCoefficient env identity panelId usageCoefficient) := by
  unfold webSetUsageCoefficient
  infer_instance

instance (organizationId panelId : Id) :
    Sustains A Benign law (orgBinding organizationId panelId) := by
  unfold orgBinding
  infer_instance

instance (env : Env) (identity : TelegramIdentity) (panelId : Id) (limitUseInBytes : Int) :
    Sustains A Benign law (webSetAdminLimit env identity panelId limitUseInBytes) := by
  unfold webSetAdminLimit
  infer_instance

instance (env : Env) (identity : TelegramIdentity) (panelId : Id) :
    Sustains A Benign law (webPanelNodes env identity panelId) := by
  unfold webPanelNodes
  infer_instance

instance (env : Env) (identity : TelegramIdentity) (panelId : Id) (nodeId : Int) :
    Sustains A Benign law (webNodeStatus env identity panelId nodeId) := by
  unfold webNodeStatus
  infer_instance

instance (env : Env) (identity : TelegramIdentity) (panelId : Id) (nodeId : Int) :
    Sustains A Benign law (webReconnectNode env identity panelId nodeId) := by
  unfold webReconnectNode controlNode
  infer_instance

instance (env : Env) (identity : TelegramIdentity) (panelId : Id) (nodeId : Int) :
    Sustains A Benign law (webResetNode env identity panelId nodeId) := by
  unfold webResetNode controlNode
  infer_instance

instance (value : String) : Sustains A Benign law (enabledFlag value) := by
  unfold enabledFlag
  infer_instance

instance (env : Env) (identity : TelegramIdentity) (panelId : Id) (nodeId : Int)
    (enabled : String) :
    Sustains A Benign law (webSetNodeEnabled env identity panelId nodeId enabled) := by
  unfold webSetNodeEnabled
  infer_instance

instance (panelId organizationId : Id) :
    Sustains A Benign law (accessiblePanel panelId organizationId) := by
  unfold accessiblePanel
  infer_instance

instance (panelId organizationId : Id) :
    Sustains A Benign law (panelIsMine panelId organizationId) := by
  unfold panelIsMine
  infer_instance

instance (panel : Panel) (organizationId : Id) (binding : Binding) (userId : Int)
    (actorId : Option Id) :
    Sustains A Benign law (assertBoundSubscriber panel organizationId binding userId actorId) := by
  unfold assertBoundSubscriber
  infer_instance

instance (caller : Identity) (panel : Panel) (userId : Int) (action : String) (call : PanelCall) :
    Sustains (α := no_index call.Reply) A Benign law
      (changeSubscriber caller panel userId action call) := by
  unfold changeSubscriber
  infer_instance

instance (env : Env) (identity : TelegramIdentity) (panelId : Id) (offset limit : Int) :
    Sustains A Benign law (webPanelUsers env identity panelId offset limit) := by
  unfold webPanelUsers
  infer_instance

instance (env : Env) (identity : TelegramIdentity) (panelId : Id) (userId : Int) :
    Sustains A Benign law (webResetUserData env identity panelId userId) := by
  unfold webResetUserData
  infer_instance

instance (env : Env) (identity : TelegramIdentity) (panelId : Id) (userId : Int)
    (enabled : String) :
    Sustains A Benign law (webSetUserEnabled env identity panelId userId enabled) := by
  unfold webSetUserEnabled
  infer_instance

/-! ### Money -/

section

variable [∀ id : Id, Pays A Benign law ("funding-request:" ++ id) "fund"]

instance (actorId branchId requestId : Id) (decision : String) (allowRootless : Bool) :
    Sustains A Benign law
      (decideFundingRequest actorId branchId requestId decision allowRootless) := by
  unfold decideFundingRequest
  infer_instance

instance (env : Env) (identity : TelegramIdentity) (requestId : Id) (decision : String) :
    Sustains A Benign law (branchDecideFunding env identity requestId decision) := by
  unfold branchDecideFunding
  infer_instance

instance (env : Env) (identity : TelegramIdentity) (requestId : Id) (decision : String) :
    Sustains A Benign law (adminDecideFunding env identity requestId decision) := by
  unfold adminDecideFunding
  infer_instance

instance (env : Env) (chatId : Int) (requestId : Id) (approve : Bool) :
    Sustains A Benign law (Bot.decideFunding env chatId requestId approve) := by
  unfold Bot.decideFunding
  infer_instance

end

instance (env : Env) (identity : TelegramIdentity) (organizationId : Id)
    [Amended Benign .organizations] :
    Sustains A Benign law (adminSetResellerStatus env identity organizationId) := by
  unfold adminSetResellerStatus
  infer_instance

section

variable [Admitted Benign .approvals]
  [∀ id : Id, Pays A Benign law ("approval:" ++ id) "adjustment"]

instance (env : Env) (actorId targetId : Id) (data : AdjustmentIn) :
    Sustains A Benign law (adjustDirectly env actorId targetId data) := by
  unfold adjustDirectly
  infer_instance

instance (env : Env) (actorId organizationId targetId : Id) (data : AdjustmentIn) :
    Sustains A Benign law (adjustLater env actorId organizationId targetId data) := by
  unfold adjustLater
  infer_instance

instance (env : Env) (identity : TelegramIdentity) (data : AdjustmentIn) :
    Sustains A Benign law (requestAdjustment env identity data) := by
  unfold requestAdjustment
  infer_instance

instance (approval : ApprovalRequest) (actorId : Id) :
    Sustains A Benign law (applicator approval actorId) := by
  unfold applicator
  infer_instance

instance (env : Env) (identity : TelegramIdentity) (approvalId : Id) (decision : String)
    [Announces A Benign law "approval.granted"] :
    Sustains A Benign law (decideApproval env identity approvalId decision) := by
  unfold decideApproval
  infer_instance

instance (env : Env) (chatId : Int) (approvalId : Id) (approve : Bool)
    [Announces A Benign law "approval.granted"] :
    Sustains A Benign law (Bot.decideApproval env chatId approvalId approve) := by
  unfold Bot.decideApproval
  infer_instance

end

/-! ### The catalog -/

instance (env : Env) (identity : TelegramIdentity) (categoryId : Id) (data : PlanCategoryIn) :
    Sustains A Benign law (webUpdateCategory env identity categoryId data) := by
  unfold webUpdateCategory
  infer_instance

instance (env : Env) (identity : TelegramIdentity) (categoryId : Id) :
    Sustains A Benign law (webDeleteCategory env identity categoryId) := by
  unfold webDeleteCategory
  infer_instance

instance (data : PlanIn) (organizationId : Id) :
    Sustains A Benign law (validatedPlan data organizationId) := by
  unfold validatedPlan
  infer_instance

instance (env : Env) (identity : TelegramIdentity) (planId : Id) (data : PlanIn) :
    Sustains A Benign law (webUpdatePlan env identity planId data) := by
  unfold webUpdatePlan
  infer_instance

instance (env : Env) (identity : TelegramIdentity) (planId : Id) :
    Sustains A Benign law (webDeletePlan env identity planId) := by
  unfold webDeletePlan
  infer_instance

instance (env : Env) (identity : TelegramIdentity) (kind : CatalogKind) (targetId : Id)
    (status : String) :
    Sustains A Benign law (catalogStatusRoute env identity kind targetId status) := by
  unfold catalogStatusRoute
  infer_instance

/-! ### The bot -/

instance (caller : Bot.Context) (panel : Panel) (action : String) (call : PanelCall) :
    Sustains A Benign law (Bot.runPanelOperation caller panel action call) := by
  unfold Bot.runPanelOperation
  infer_instance

instance (env : Env) (chatId : Int) (panelId : Id) :
    Sustains A Benign law (Bot.nodeList env chatId panelId) := by
  unfold Bot.nodeList
  infer_instance

instance (env : Env) (chatId : Int) (panelId : Id) (nodeId action : String) :
    Sustains A Benign law (Bot.nodeAction env chatId panelId nodeId action) := by
  unfold Bot.nodeAction Bot.runNode
  infer_instance

instance (env : Env) (chatId : Int) (panelId : Id) (saleable : Bool) :
    Sustains A Benign law (Bot.setSaleable env chatId panelId saleable) := by
  unfold Bot.setSaleable
  infer_instance

/-! ### The outbox -/

instance (env : Env) (chatIds : List Int) : Sustains A Benign law (notify env chatIds) := by
  unfold notify
  infer_instance

instance (organizationId : Id) : Sustains A Benign law (audience organizationId) := by
  unfold audience
  infer_instance

instance (panel : Panel) : Sustains A Benign law (panelClient panel) := by
  unfold panelClient resolveSecrets
  infer_instance

instance (env : Env) (event : Outbox) [suspends : Suspends Benign] :
    Sustains A Benign law (handleBillingHold env event) := by
  have suspended : ∀ key : Id, Sustains A Benign law
      (assign .bindings key { status := some .suspended }) := fun key =>
    Sustains.add (suspends.update key)
  unfold handleBillingHold
  infer_instance

instance (env : Env) (event : Outbox) : Sustains A Benign law (handleUsageReset env event) := by
  unfold handleUsageReset
  infer_instance

instance (env : Env) (event : Outbox) :
    Sustains A Benign law (handleApprovalGranted env event) := by
  unfold handleApprovalGranted
  infer_instance

instance (env : Env) (event : Outbox) : Sustains A Benign law (handleSupportTicket env event) := by
  unfold handleSupportTicket
  infer_instance

omit [OffPanel A] everyday in
/-- Every handler of the outbox. -/
theorem sustains_handler [Suspends Benign] {env : Env} {topic : String}
    {handler : Outbox → Op Unit} (handles : handlers env topic = some handler) (event : Outbox) :
    Sustains A Benign law (handler event) := by
  unfold handlers at handles
  split at handles
  · cases handles
    infer_instance
  split at handles
  · cases handles
    infer_instance
  split at handles
  · cases handles
    infer_instance
  split at handles
  · cases handles
    infer_instance
  · cases handles

/-! ### New rows of the catalog, and requests -/

section

variable [Insertable Benign .planCategories]

instance (organizationId actorId : Id) (data : PlanCategoryIn) :
    Sustains A Benign law (createPlanCategory organizationId actorId data) := by
  unfold createPlanCategory
  infer_instance

instance (env : Env) (identity : TelegramIdentity) (data : PlanCategoryIn) :
    Sustains A Benign law (webCreateCategory env identity data) := by
  unfold webCreateCategory
  infer_instance

instance (env : Env) (chatId : Int) (data : PlanCategoryIn) :
    Sustains A Benign law (Bot.createShelf env chatId data) := by
  unfold Bot.createShelf
  infer_instance

end

section

variable [Insertable Benign .plans]

instance (organizationId actorId : Id) (data : PlanIn) :
    Sustains A Benign law (createCatalogPlan organizationId actorId data) := by
  unfold createCatalogPlan
  infer_instance

instance (env : Env) (identity : TelegramIdentity) (data : PlanIn) :
    Sustains A Benign law (webCreatePlan env identity data) := by
  unfold webCreatePlan
  infer_instance

instance (env : Env) (chatId : Int) (data : PlanIn) :
    Sustains A Benign law (Bot.savePlan env chatId data) := by
  unfold Bot.savePlan
  infer_instance

end

section

variable [Insertable Benign .fundingRequests]

instance (env : Env) (identity : TelegramIdentity) (data : FundingRequestIn) :
    Sustains A Benign law (webFundingRequest env identity data) := by
  unfold webFundingRequest
  infer_instance

instance (env : Env) (chatId : Int) (amountIrr : Int) :
    Sustains A Benign law (Bot.requestCredit env chatId amountIrr) := by
  unfold Bot.requestCredit
  infer_instance

end

/-! ### New organizations -/

section

variable [Insertable Benign .organizations] [Insertable Benign .contracts]

instance (parentId : Id) (name slug : String) (creditLimitIrr pricePerGibIrr : Int) :
    Sustains A Benign law (openChild parentId name slug creditLimitIrr pricePerGibIrr) := by
  unfold openChild
  infer_instance

instance (env : Env) (data : OrgIn) : Sustains A Benign law (createOrg env data) := by
  unfold createOrg orgParent
  infer_instance

instance (env : Env) (identity : TelegramIdentity) (data : WebChildIn) :
    Sustains A Benign law (webCreateChild env identity data) := by
  unfold webCreateChild
  infer_instance

instance (organizationId actorId : Id) (role : Role) [enrolls : Enrolls Benign role] :
    Sustains A Benign law (addMembership organizationId actorId role) := by
  have enrolled : ∀ (id : Id) (time : Time), Sustains A Benign law
      (insert .memberships ⟨id, organizationId, actorId, role, .active, time⟩) :=
    fun id time => Sustains.add (enrolls.insert id organizationId actorId time)
  unfold addMembership
  infer_instance

instance (data : ActorBindIn) [Enrolls Benign data.role] :
    Sustains A Benign law (bindActor data) := by
  unfold bindActor
  infer_instance

section

variable [Enrolls Benign .resellerAdmin]

instance (env : Env) (identity : TelegramIdentity) (data : BootstrapIn) :
    Sustains A Benign law (bootstrapWorkspace env identity data) := by
  unfold bootstrapWorkspace
  infer_instance

instance (env : Env) (identity : TelegramIdentity) (data : AdminResellerIn) :
    Sustains A Benign law (adminCreateReseller env identity data) := by
  unfold adminCreateReseller
  infer_instance

instance (env : Env) (chatId : Int) (data : Bot.ResellerData) :
    Sustains A Benign law (Bot.createReseller env chatId data) := by
  unfold Bot.createReseller
  infer_instance

end

end

/-! ### New bindings -/

section

variable [binds : Binds Benign]

omit [A.Sanctions Benign law] [OffPanel A] everyday binds in
/-- Generated ids have a length. -/
theorem sustains_uid_bind {rest : Id → Op α}
    (next : ∀ id : Id, id.length = 36 → Sustains A Benign law (rest id)) :
    Sustains A Benign law (uid >>= rest) where
  sustains point due := by
    rw [wp_uid_bind]
    exact fun fresh => (next fresh.1 fresh.2).sustains point due

omit [OffPanel A] [∀ query, A.Asks query] everyday in
theorem sustains_bind (id organizationId panelId : Id) (pgAdminId : Int) (username : String)
    (generated : id.length = 36) : Sustains A Benign law
      (insert .bindings ⟨id, organizationId, panelId, pgAdminId, username, .active⟩) :=
  Sustains.add (binds.insert _ generated)

instance (data : BindingIn) : Sustains A Benign law (createBinding data) := by
  unfold createBinding
  refine Sustains.andThen fun _ => Sustains.andThen fun _ => Sustains.andThen fun _ => ?_
  refine sustains_uid_bind fun id generated => ?_
  have bound : Sustains A Benign law (insert .bindings
      ⟨id, data.organizationId, data.panelId, data.pgAdminId, data.username, .active⟩) :=
    sustains_bind id _ _ _ _ generated
  infer_instance

instance (organizationId panelId : Id) (adminUsername : Option String) (pgAdminId : Int) :
    Sustains A Benign law (bindSeller organizationId panelId adminUsername pgAdminId) := by
  unfold bindSeller
  refine Sustains.andThen fun _ => Sustains.andThen fun _ => ?_
  exact sustains_uid_bind fun id generated => sustains_bind id _ _ _ _ generated

instance (order : PanelOrder) (childId panelId : Id) (pgAdminId : Int) :
    Sustains A Benign law (bindCustomer order childId panelId pgAdminId) := by
  unfold bindCustomer
  exact sustains_uid_bind fun id generated => sustains_bind id _ _ _ _ generated

end

/-! ### New servers -/

omit [A.Sanctions Benign law] [OffPanel A] [∀ query, A.Asks query] everyday in
/-- What comes of a secret is sealed. -/
theorem sustains_encryptSecret_bind {packages : Packages} {value : Option String}
    {rest : Option String → Op α}
    (next : ∀ reference, Sealed packages reference → Sustains A Benign law (rest reference)) :
    Sustains A Benign law (encryptSecret packages value >>= rest) where
  sustains point due := by
    unfold encryptSecret
    rw [wp_bind, wp_branch]
    refine ⟨fun _ => (next none (sealed_none packages)).sustains point due, fun text _ => ?_⟩
    rw [wp_found_bind]
    refine ⟨fun token encrypts => (next (some ("enc://" ++ token)) ?_).sustains point due,
      fun _ => due⟩
    rintro _ ⟨⟩
    exact ⟨text, token, encrypts, rfl⟩

instance (packages : Packages) (url : String) :
    Sustains A Benign law (validatePanelUrl packages url) := by
  unfold validatePanelUrl
  infer_instance

instance (packages : Packages) (data : PanelIn)
    [registers : Registers Benign packages] :
    Sustains A Benign law (createPanel packages data) := by
  have registered : ∀ id : Id, Sustains A Benign law (insert .panels
      { id, name := data.name, baseUrl := rstrip '/' data.baseUrl, vendor := "pasarguard"
        apiKeyRef := none, ownerUserRef := none, ownerPassRef := none
        usageCoefficient := data.usageCoefficient, verifyTls := true, status := .active
        saleable := false }) := fun id =>
    Sustains.add (registers.insert _
      ⟨sealed_none packages, sealed_none packages, sealed_none packages⟩ List.mem_cons_self)
  unfold createPanel
  infer_instance

instance (env : Env) (packages : Packages) (identity : TelegramIdentity) (data : WebPanelIn)
    [registers : Registers Benign packages] [Binds Benign] :
    Sustains A Benign law (webCreatePanel env packages identity data) := by
  unfold webCreatePanel
  refine Sustains.andThen fun caller => Sustains.andThen fun _ => Sustains.andThen fun _ => ?_
  refine Sustains.andThen fun probe => Sustains.andThen fun _ => ?_
  refine sustains_encryptSecret_bind fun apiKeyRef apiKey => ?_
  refine sustains_encryptSecret_bind fun ownerUserRef ownerUser => ?_
  refine sustains_encryptSecret_bind fun ownerPassRef ownerPass => ?_
  have registered : ∀ id : Id, Sustains A Benign law (insert .panels
      (panelRow id data apiKeyRef ownerUserRef ownerPassRef)) := fun id =>
    Sustains.add (registers.insert _ ⟨apiKey, ownerUser, ownerPass⟩ List.mem_cons_self)
  infer_instance

/-! ### Orders -/

section

variable [Amended Benign .orders]

instance (env : Env) (identity : TelegramIdentity) (permission : Permission) :
    Sustains A Benign law (orderPermission env identity permission) := by
  unfold orderPermission
  infer_instance

instance (orderId : Id) (identity : TelegramIdentity) (toStatus : OrderStatus) :
    Sustains A Benign law (ownedOrder orderId identity toStatus) := by
  unfold ownedOrder
  infer_instance

instance (env : Env) (identity : TelegramIdentity) (orderId : Id) (toStatus : OrderStatus) :
    Sustains A Benign law (customerRoute env identity orderId toStatus) := by
  unfold customerRoute
  infer_instance

instance (order : PanelOrder) (data : OrderQuoteIn) (reviewerId organizationId : Id) :
    Sustains A Benign law (quotePanelOrder order data reviewerId organizationId) := by
  unfold quotePanelOrder
  infer_instance

instance (env : Env) (identity : TelegramIdentity) (orderId : Id) (data : OrderQuoteIn) :
    Sustains A Benign law (quoteOrder env identity orderId data) := by
  unfold quoteOrder
  infer_instance

instance (env : Env) (identity : TelegramIdentity) (orderId : Id) (reason : String) :
    Sustains A Benign law (rejectOrder env identity orderId reason) := by
  unfold rejectOrder
  infer_instance

instance (env : Env) (chatId : Int) (orderId : Id) (data : OrderQuoteIn) :
    Sustains A Benign law (Bot.applyQuote env chatId orderId data) := by
  unfold Bot.applyQuote
  infer_instance

variable [Insertable Benign .organizations] [Insertable Benign .contracts]
  [Enrolls Benign .customer]
  [Binds Benign] [∀ id : Id, Pays A Benign law ("panel-order:" ++ id) "order-funded"]
  [Announces A Benign law "panel_order.approved"]

instance (env : Env) (order : PanelOrder) (reviewerId sellerId : Id)
    (attach : Option OrderApproveIn) :
    Sustains A Benign law (approvePanelOrder env order reviewerId sellerId attach) := by
  unfold approvePanelOrder
  infer_instance

instance (env : Env) (identity : TelegramIdentity) (orderId : Id) (attach : OrderApproveIn) :
    Sustains A Benign law (approveOrder env identity orderId attach) := by
  unfold approveOrder
  infer_instance

instance (env : Env) (chatId : Int) (orderId : Id) (approve : Bool) (reason : String)
    (attach : Option OrderApproveIn) :
    Sustains A Benign law (Bot.reviewerOrderAction env chatId orderId approve reason attach) := by
  unfold Bot.reviewerOrderAction
  infer_instance

end

section

variable [Insertable Benign .orders]

instance (attempts : Nat) : Sustains A Benign law (orderSlug attempts) := by
  induction attempts with
  | zero => exact Sustains.throw _
  | succ attempts inductionHypothesis =>
      unfold orderSlug
      infer_instance

instance (telegramId : Int) (displayName : String) (data : OrderIn) :
    Sustains A Benign law (createPanelOrder telegramId displayName data) := by
  unfold createPanelOrder saleablePanel pricedPlan requireOpenShelf uniqueOrderSlug
  infer_instance

instance (env : Env) (identity : TelegramIdentity) (data : OrderIn) :
    Sustains A Benign law (createOrder env identity data) := by
  unfold createOrder
  infer_instance

instance (chatId : Int) (data : OrderIn) :
    Sustains A Benign law (Bot.placeOrder chatId data) := by
  unfold Bot.placeOrder
  infer_instance

end

end

end ControlPlane
