import ControlPlane.Api
import ControlPlane.Bot.Actions
import ControlPlane.Library.Dues

/-!
# What sessions sustain

Operations that only write tables about which a law says nothing sustain the
law. The tables an operation writes appear as the classes of its instance.
-/

namespace ControlPlane

open ReadCommitted Orm

set_option synthInstance.maxSize 100000

variable {A : Agreement Database} {Benign : Database.Write → Prop} {law : Law Database}

/-! ## Statements -/

/-- Assignments to the columns of a table are benign. -/
class Amended (Benign : Database.Write → Prop) (table : Table) : Prop where
  update : ∀ (key : table.Key) (columns : table.Change), Benign (.update table key columns)

instance (table : Table) [admitted : Admitted Benign table] : Amended Benign table :=
  ⟨admitted.update⟩

section

instance (table : Table) (key : table.Key) :
    Sustains (α := no_index (Option table.Row)) A Benign law (get table key) :=
  inferInstanceAs (Sustains A Benign law (select _))

instance (table : Table) (condition : table.Row → Bool) :
    Sustains (α := no_index (Option table.Row)) A Benign law (scalar table condition) :=
  inferInstanceAs (Sustains A Benign law (select _))

instance (table : Table) (condition : table.Row → Bool) :
    Sustains (α := no_index (List table.Row)) A Benign law (scalars table condition) :=
  inferInstanceAs (Sustains A Benign law (select _))

instance (query : Query) [A.Asks query] :
    Sustains (α := no_index query.Answer) A Benign law (consult query) :=
  inferInstanceAs (Sustains A Benign law (ask (S := Database) query))

instance [A.Asks .uid] : Sustains A Benign law uid where
  sustains _ due := ⟨Agreement.Asks.asks, fun _ => due⟩

instance [A.Asks .now] : Sustains A Benign law now :=
  inferInstanceAs (Sustains A Benign law (ask (S := Database) .now))

variable [A.Starts Benign law]

instance (table : Table) [admitted : Admitted Benign table] (row : table.Row) :
    Sustains A Benign law (insert table row) :=
  Sustains.add (admitted.insert row)

instance (table : Table) [amended : Amended Benign table] (key : table.Key)
    (columns : table.Change) : Sustains A Benign law (assign table key columns) :=
  Sustains.add (amended.update key columns)

instance (table : Table) [admitted : Admitted Benign table] (row : table.Row) :
    Sustains A Benign law (execute (.insert table row) : Op Bool) :=
  Sustains.execute (admitted.insert row)

instance (table : Table) [amended : Amended Benign table] (key : table.Key)
    (columns : table.Change) :
    Sustains A Benign law (execute (.update table key columns) : Op Bool) :=
  Sustains.execute (amended.update key columns)

instance (table : Table) (key : table.Key) :
    Sustains (α := no_index (Option table.Row)) A Benign law (getForUpdate table key) := by
  unfold getForUpdate
  infer_instance

instance (body : Op α) [Sustains A Benign law body] :
    Sustains A Benign law (withSession body) := by
  unfold withSession
  infer_instance

instance (table : Table) [Admitted Benign table] (row : table.Row) :
    Sustains A Benign law (send (.insert table row)) := by
  unfold send
  infer_instance

instance (table : Table) [Amended Benign table] (key : table.Key) (columns : table.Change) :
    Sustains A Benign law (send (.update table key columns)) := by
  unfold send
  infer_instance

/-! ## Sequences -/

variable {point : Point Database}

/-- Steps that leave a law, and then steps that sustain it. -/
theorem wp_after (Benign : Database.Write → Prop) [A.Starts Benign law] {program : Op α}
    (settled : program.wp A (fun _ last => Due A law last) point) (rest : α → Op β)
    [∀ value, Sustains A Benign law (rest value)] :
    (program >>= rest).wp A (fun _ last => Due A law last) point :=
  wp_seq _ settled (fun value _ due => wp_sustains Benign (rest value) due) fun _ _ due => due

/-- A session leaves a law if its body does. -/
theorem wp_withSession (Benign : Database.Write → Prop) [A.Starts Benign law] {body : Op α}
    (settled : body.wp A (fun _ last => Due A law last) point) :
    (withSession body).wp A (fun _ last => Due A law last) point := by
  refine wp_after Benign ((wp_tryCatch _ _ _).mpr (wp_mono _ settled fun result last due => ?_)) _
  cases result with
  | ok value => exact due
  | error exception =>
      exact wp_sustains Benign (rollback >>= fun _ => throw exception) due

/-- Turning exceptions into replies changes nothing in the database. -/
theorem wp_replying {body : Op α} (settled : body.wp A (fun _ last => Due A law last) point) :
    (Bot.replying body).wp A (fun _ last => Due A law last) point :=
  (wp_tryCatch _ _ _).mpr (wp_mono _ settled fun result last due => by
    cases result <;> exact due)

end

/-! ## Core operations -/

section

variable [A.Starts Benign law] [OffPanel A]

instance (key default : String) : Sustains A Benign law (setting key default) := by
  unfold setting
  infer_instance

instance (key value : String) [Admitted Benign .settings] :
    Sustains A Benign law (putSetting key value) := by
  unfold putSetting
  infer_instance

instance (action targetType targetId : String) (actorId organizationId : Option Id)
    [Admitted Benign .auditLogs] :
    Sustains A Benign law (audit action targetType targetId actorId organizationId) := by
  unfold audit
  infer_instance

instance (actorId organizationId : Id) (details : BindingDetails) [Admitted Benign .auditLogs] :
    Sustains A Benign law (auditBinding actorId organizationId details) := by
  unfold auditBinding
  infer_instance

instance (owner : String) [Admitted Benign .accounts] :
    Sustains A Benign law (account owner) := by
  unfold account
  infer_instance

instance (organizationId : Id) [Admitted Benign .accounts] :
    Sustains A Benign law (balance organizationId) := by
  unfold balance
  infer_instance

instance (source : String) (balanceIrr amountIrr : Int) :
    Sustains A Benign law (checkPayer source balanceIrr amountIrr) := by
  unfold checkPayer
  infer_instance

section

variable [Admitted Benign .accounts] [Admitted Benign .transactions] [Admitted Benign .entries]

instance (source target : Account) (amountIrr : Int) (key kind reference : String)
    (actorId : Option Id) :
    Sustains A Benign law (post source target amountIrr key kind reference actorId) := by
  unfold post
  infer_instance

instance (source target : String) (amountIrr : Int) (key kind reference : String) (enforce : Bool)
    (actorId : Option Id) :
    Sustains A Benign law
      (transferFresh source target amountIrr key kind reference enforce actorId) := by
  unfold transferFresh
  infer_instance

instance (source target : String) (amountIrr : Int) (key kind reference : String) (enforce : Bool)
    (actorId : Option Id) :
    Sustains A Benign law
      (transfer source target amountIrr key kind reference enforce actorId) := by
  unfold transfer
  infer_instance

end

instance (organizationId : Id) : Sustains A Benign law (depthOf organizationId) := by
  unfold depthOf
  infer_instance

instance (env : Env) (parent : Organization) :
    Sustains A Benign law (effectiveDepthLimit env parent) := by
  unfold effectiveDepthLimit
  infer_instance

instance (env : Env) (parent : Organization) :
    Sustains A Benign law (assertDepthAllowed env parent) := by
  unfold assertDepthAllowed
  infer_instance

instance (topic : String) (aggregateId : Id) (payload : Payload) [Admitted Benign .outbox] :
    Sustains A Benign law (enqueue topic aggregateId payload) := by
  unfold enqueue
  infer_instance

instance (env : Env) (actorId : Id) (telegramId : Int) :
    Sustains A Benign law (pickMembership env actorId telegramId) := by
  unfold pickMembership
  infer_instance

instance (env : Env) (telegramId : Int) : Sustains A Benign law (membershipFor env telegramId) := by
  unfold membershipFor
  infer_instance

/-! ## Access -/

instance (env : Env) (identity : TelegramIdentity) :
    Sustains A Benign law (requireRoot env identity) := by
  unfold requireRoot
  infer_instance

instance (telegramId : Int) : Sustains A Benign law (optionalMembership telegramId) := by
  unfold optionalMembership
  infer_instance

instance (env : Env) (telegramId : Int) (permission : Permission) :
    Sustains A Benign law (manager env telegramId permission) := by
  unfold manager
  infer_instance

instance (panelId organizationId : Id) :
    Sustains A Benign law (ownedPanel panelId organizationId) := by
  unfold ownedPanel
  infer_instance

/-! ## The network -/

instance (slug message : String) : Sustains A Benign law (requireFreeSlug slug message) := by
  unfold requireFreeSlug
  infer_instance

instance (organizationId actorId : Id) (role : Role) [Admitted Benign .memberships] :
    Sustains A Benign law (addMembership organizationId actorId role) := by
  unfold addMembership
  infer_instance

instance (telegramId : Int) (displayName : String) [Admitted Benign .actors] :
    Sustains A Benign law (accountFor telegramId displayName) := by
  unfold accountFor
  infer_instance

instance (env : Env) (setupToken : String) :
    Sustains A Benign law (requireSetupToken env setupToken) := by
  unfold requireSetupToken
  infer_instance

instance (telegramId : Int) : Sustains A Benign law (resellerTarget telegramId) := by
  unfold resellerTarget
  infer_instance

instance (target : Option Actor) (telegramId : Int) (name : String) [Admitted Benign .actors] :
    Sustains A Benign law (enlistTarget target telegramId name) := by
  unfold enlistTarget
  infer_instance

/-! ## The order funnel -/

instance (telegramId : Int) : Sustains A Benign law (requesterActor telegramId) := by
  unfold requesterActor
  infer_instance

instance (telegramId : Int) (displayName : String) [Admitted Benign .actors] :
    Sustains A Benign law (requesterActorCreated telegramId displayName) := by
  unfold requesterActorCreated
  infer_instance

instance (order : PanelOrder) (toStatus : OrderStatus) :
    Sustains A Benign law (requireTransition order toStatus) := by
  unfold requireTransition
  infer_instance

instance (orderId : Id) (toStatus : OrderStatus) :
    Sustains A Benign law (lockedOrder orderId toStatus) := by
  unfold lockedOrder
  infer_instance

instance (order : PanelOrder) (organizationId : Id) :
    Sustains A Benign law (assertOrderSeller order organizationId) := by
  unfold assertOrderSeller
  infer_instance

instance (order : PanelOrder) (attach : Option OrderApproveIn) [Amended Benign .orders] :
    Sustains A Benign law (attachAdmin order attach) := by
  unfold attachAdmin
  infer_instance

instance (order : PanelOrder) (childId panelId : Id) (pgAdminId : Int)
    [Admitted Benign .bindings] :
    Sustains A Benign law (bindCustomer order childId panelId pgAdminId) := by
  unfold bindCustomer
  infer_instance

instance (order : PanelOrder) (reviewerId organizationId : Id) (reason : String)
    [Amended Benign .orders] [Admitted Benign .auditLogs] :
    Sustains A Benign law (rejectPanelOrder order reviewerId organizationId reason) := by
  unfold rejectPanelOrder
  infer_instance

instance (order : PanelOrder) (toStatus : OrderStatus) [Amended Benign .orders]
    [Admitted Benign .auditLogs] :
    Sustains A Benign law (advanceCustomerOrder order toStatus) := by
  unfold advanceCustomerOrder
  infer_instance

/-! ## The catalog -/

instance (categoryId organizationId : Id) :
    Sustains A Benign law (catalogShelf categoryId organizationId) := by
  unfold catalogShelf
  infer_instance

instance (planId organizationId : Id) :
    Sustains A Benign law (catalogPlan planId organizationId) := by
  unfold catalogPlan
  infer_instance

instance (organizationId actorId : Id) (kind : CatalogKind) (targetId : Id) (status : String)
    [Amended Benign .planCategories] [Amended Benign .plans] [Admitted Benign .auditLogs] :
    Sustains A Benign law (setCatalogStatus organizationId actorId kind targetId status) := by
  unfold setCatalogStatus
  cases kind <;> infer_instance

/-! ## Money -/

section

variable [Admitted Benign .accounts] [Admitted Benign .transactions] [Admitted Benign .entries]

instance (actorId : Id) (request : FundingRequest) :
    Sustains A Benign law (payFundingRequest actorId request) := by
  unfold payFundingRequest
  infer_instance

instance (organizationId : Id) (amountIrr : Int) (approvalId actorId : Id) :
    Sustains A Benign law (moveAdjustment organizationId amountIrr approvalId actorId) := by
  unfold moveAdjustment
  infer_instance

instance (approval : ApprovalRequest) (actorId : Id) [Admitted Benign .auditLogs] :
    Sustains A Benign law (applyWalletAdjustment approval actorId) := by
  unfold applyWalletAdjustment
  infer_instance

instance (approval : ApprovalRequest) (actorId : Id) [Admitted Benign .auditLogs] :
    Sustains A Benign law (Bot.botApplicator approval actorId) := by
  unfold Bot.botApplicator
  infer_instance

end

/-! ## The bot -/

instance (env : Env) (chatId : Int) : Sustains A Benign law (Bot.context env chatId) := by
  unfold Bot.context
  infer_instance

instance (env : Env) (chatId : Int) : Sustains A Benign law (Bot.requireContext env chatId) := by
  unfold Bot.requireContext
  infer_instance

instance (env : Env) (chatId : Int) (permission : Permission) :
    Sustains A Benign law (Bot.permitted env chatId permission) := by
  unfold Bot.permitted
  infer_instance

instance (body : Op α) [Sustains A Benign law body] : Sustains A Benign law (Bot.replying body) := by
  unfold Bot.replying
  infer_instance

instance (text : String) : Sustains A Benign law (Bot.parseInt text) := by
  unfold Bot.parseInt
  infer_instance

instance (panelId organizationId : Id) :
    Sustains A Benign law (Bot.botPanel panelId organizationId) := by
  unfold Bot.botPanel
  infer_instance

instance (env : Env) (chatId : Int) : Sustains A Benign law (Bot.catalogCtx env chatId) := by
  unfold Bot.catalogCtx
  infer_instance

instance (kind : CatalogKind) (targetId : Id) :
    Sustains A Benign law (Bot.toggled kind targetId) := by
  unfold Bot.toggled
  cases kind <;> infer_instance

end

/-! ## Operations that commit -/

section

variable [A.Sanctions Benign law] [OffPanel A]

instance (approvalId : Id) (time : Time) [Amended Benign .approvals] :
    Sustains A Benign law (lockedPendingApproval approvalId time) := by
  unfold lockedPendingApproval
  infer_instance

instance (env : Env) (chatId : Int) (panelId : Id) (saleable : Bool) [Amended Benign .panels]
    [Admitted Benign .auditLogs] :
    Sustains A Benign law (Bot.setSaleable env chatId panelId saleable) := by
  unfold Bot.setSaleable
  infer_instance

instance (env : Env) (chatId : Int) (kind : CatalogKind) (targetId : Id)
    [Amended Benign .planCategories] [Amended Benign .plans] [Admitted Benign .auditLogs] :
    Sustains A Benign law (Bot.toggleCatalog env chatId kind targetId) := by
  unfold Bot.toggleCatalog
  infer_instance

instance (chatId : Int) (orderId : Id) (status : OrderStatus) [Amended Benign .orders]
    [Admitted Benign .auditLogs] :
    Sustains A Benign law (Bot.customerOrderAction chatId orderId status) := by
  unfold Bot.customerOrderAction
  infer_instance

variable [Admitted Benign .accounts] [Admitted Benign .transactions] [Admitted Benign .entries]

instance (env : Env) (chatId : Int) (requestId : Id) (approve : Bool)
    [Amended Benign .fundingRequests] [Admitted Benign .auditLogs] :
    Sustains A Benign law (Bot.decideFunding env chatId requestId approve) := by
  unfold Bot.decideFunding
  infer_instance

instance (env : Env) (chatId : Int) (approvalId : Id) (approve : Bool)
    [Amended Benign .approvals] [Admitted Benign .outbox] [Admitted Benign .auditLogs] :
    Sustains A Benign law (Bot.decideApproval env chatId approvalId approve) := by
  unfold Bot.decideApproval
  infer_instance

end

end ControlPlane
