import ControlPlane.Api
import ControlPlane.Bot.Actions
import ControlPlane.Ledger.Transfer
import ControlPlane.Worker

/-!
# Money operations keep the ledger agreement

The routes, the worker and the bot move money through transfers only, out of
the system account or with a check of the payer, and leave wallets alone
otherwise.
-/

namespace ControlPlane

open ReadCommitted Orm

set_option synthInstance.maxSize 100000

variable {solvency : Prop}

/-! ## Tables without money -/

instance : Admitted LedgerNeutral .closures := ⟨fun _ => trivial, fun _ _ => trivial⟩
instance : Admitted LedgerNeutral .contracts := ⟨fun _ => trivial, fun _ _ => trivial⟩
instance : Admitted LedgerNeutral .bindings := ⟨fun _ => trivial, fun _ _ => trivial⟩
instance : Admitted LedgerNeutral .checkpoints := ⟨fun _ => trivial, fun _ _ => trivial⟩
instance : Admitted LedgerNeutral .usages := ⟨fun _ => trivial, fun _ _ => trivial⟩
instance : Admitted LedgerNeutral .outbox := ⟨fun _ => trivial, fun _ _ => trivial⟩
instance : Admitted LedgerNeutral .memberships := ⟨fun _ => trivial, fun _ _ => trivial⟩
instance : Admitted LedgerNeutral .fundingRequests := ⟨fun _ => trivial, fun _ _ => trivial⟩
instance : Admitted LedgerNeutral .orders := ⟨fun _ => trivial, fun _ _ => trivial⟩
instance : Admitted LedgerNeutral .auditLogs := ⟨fun _ => trivial, fun _ _ => trivial⟩
instance : Admitted LedgerNeutral .approvals := ⟨fun _ => trivial, fun _ _ => trivial⟩

/-- Suspending an organization does not touch its wallet. -/
instance (key : Id) (columns : OrganizationColumns) :
    Keeps (ledgerAgreement solvency) LedgerNeutral (assign .organizations key columns) :=
  Keeps.add trivial

/-! ## Wallets -/

instance (owner : String) : Keeps (ledgerAgreement solvency) LedgerNeutral (account owner) where
  keeps _ ready := wp_mono _ (wp_account owner ready) fun _ _ resolved => resolved.1.ready

instance (organizationId : Id) :
    Keeps (ledgerAgreement solvency) LedgerNeutral (balance organizationId) := by
  unfold balance
  infer_instance

instance (target : String) (amountIrr : Int) (key kind reference : String) (enforce : Bool)
    (actorId : Option Id) : Keeps (ledgerAgreement solvency) LedgerNeutral
      (transfer systemOwner target amountIrr key kind reference enforce actorId) :=
  keeps_transfer target amountIrr key kind reference actorId (.inl rfl)

instance (source target : String) (amountIrr : Int) (key kind reference : String)
    (actorId : Option Id) : Keeps (ledgerAgreement solvency) LedgerNeutral
      (transfer source target amountIrr key kind reference true actorId) :=
  keeps_transfer target amountIrr key kind reference actorId (.inr rfl)

/-! ## Metering -/

instance (binding : Binding) (old new : Nat) (rows : List Settlement) (pending : Int) :
    Keeps (ledgerAgreement solvency) LedgerNeutral (payCascade binding old new rows pending) := by
  induction rows generalizing pending with
  | nil => exact Keeps.pure ()
  | cons settled rest inductionHypothesis =>
      unfold payCascade
      infer_instance

instance (binding : Binding) (checkpoint : Checkpoint) (data : UsageIn) :
    Keeps (ledgerAgreement solvency) LedgerNeutral (observeAdvance binding checkpoint data) := by
  unfold observeAdvance
  infer_instance

instance (env : Env) (data : UsageIn) :
    Keeps (ledgerAgreement solvency) LedgerNeutral (observe env data) := by
  unfold observe
  infer_instance

/-! ## The control API and the worker -/

instance (organizationId : Id) (data : FundIn) :
    Keeps (ledgerAgreement solvency) LedgerNeutral (fund organizationId data) := by
  unfold fund
  infer_instance

instance (exception : Failure) :
    Keeps (ledgerAgreement solvency) LedgerNeutral (usageFailed exception) := by
  cases exception <;> (unfold usageFailed; infer_instance)

instance (env : Env) (data : UsageIn) :
    Keeps (ledgerAgreement solvency) LedgerNeutral (usage env data) := by
  unfold usage
  infer_instance

instance (env : Env) (item : UsageIn) :
    Keeps (ledgerAgreement solvency) LedgerNeutral (observeItem env item) := by
  unfold observeItem
  refine @Keeps.tryCatch _ _ _ _ _ _ _ inferInstance fun exception => ?_
  cases exception <;> infer_instance

instance (env : Env) (items : List UsageIn) :
    Keeps (ledgerAgreement solvency) LedgerNeutral (observeItems env items) := by
  induction items with
  | nil => exact Keeps.pure []
  | cons item items inductionHypothesis =>
      unfold observeItems
      infer_instance

instance (env : Env) (observations : List UsageIn) :
    Keeps (ledgerAgreement solvency) LedgerNeutral (usageBatch env observations) := by
  unfold usageBatch
  infer_instance

instance (env : Env) (admins : List PanelAdmin) (binding : Binding) :
    Keeps (ledgerAgreement solvency) LedgerNeutral (pollBinding env admins binding) := by
  unfold pollBinding
  have handled : ∀ exception : Failure, Keeps (ledgerAgreement solvency) LedgerNeutral
      (match exception with
        | .billingHold bindingId organizationId _ => do
            rollback
            recordHold bindingId organizationId 0
            commit
        | _ => rollback : Op Unit) := by
    intro exception
    cases exception <;> infer_instance
  infer_instance

instance (panel : Panel) : Keeps (ledgerAgreement solvency) LedgerNeutral (panelAdmins panel) := by
  unfold panelAdmins
  infer_instance

instance (env : Env) (panelId : Id) (bindings : List Binding) :
    Keeps (ledgerAgreement solvency) LedgerNeutral (pollPanel env panelId bindings) := by
  unfold pollPanel
  infer_instance

instance (env : Env) : Keeps (ledgerAgreement solvency) LedgerNeutral (poll env) := by
  unfold poll
  infer_instance

/-! ## Decisions of the WebApp -/

instance (actorId : Id) (request : FundingRequest) :
    Keeps (ledgerAgreement solvency) LedgerNeutral (payFundingRequest actorId request) := by
  unfold payFundingRequest
  infer_instance

instance (actorId branchId requestId : Id) (decision : String) (allowRootless : Bool) :
    Keeps (ledgerAgreement solvency) LedgerNeutral
      (decideFundingRequest actorId branchId requestId decision allowRootless) := by
  unfold decideFundingRequest
  infer_instance

instance (env : Env) (identity : TelegramIdentity) (requestId : Id) (decision : String) :
    Keeps (ledgerAgreement solvency) LedgerNeutral
      (branchDecideFunding env identity requestId decision) := by
  unfold branchDecideFunding
  infer_instance

instance (env : Env) (identity : TelegramIdentity) (requestId : Id) (decision : String) :
    Keeps (ledgerAgreement solvency) LedgerNeutral
      (adminDecideFunding env identity requestId decision) := by
  unfold adminDecideFunding
  infer_instance

instance (organizationId : Id) (amountIrr : Int) (approvalId actorId : Id) :
    Keeps (ledgerAgreement solvency) LedgerNeutral
      (moveAdjustment organizationId amountIrr approvalId actorId) := by
  unfold moveAdjustment
  infer_instance

instance (approval : ApprovalRequest) (actorId : Id) :
    Keeps (ledgerAgreement solvency) LedgerNeutral (applyWalletAdjustment approval actorId) := by
  unfold applyWalletAdjustment
  infer_instance

instance (env : Env) (actorId targetId : Id) (data : AdjustmentIn) :
    Keeps (ledgerAgreement solvency) LedgerNeutral (adjustDirectly env actorId targetId data) := by
  unfold adjustDirectly
  infer_instance

instance (env : Env) (actorId organizationId targetId : Id) (data : AdjustmentIn) :
    Keeps (ledgerAgreement solvency) LedgerNeutral
      (adjustLater env actorId organizationId targetId data) := by
  unfold adjustLater
  infer_instance

instance (env : Env) (identity : TelegramIdentity) (data : AdjustmentIn) :
    Keeps (ledgerAgreement solvency) LedgerNeutral (requestAdjustment env identity data) := by
  unfold requestAdjustment
  infer_instance

instance (approvalId : Id) (time : Time) :
    Keeps (ledgerAgreement solvency) LedgerNeutral (lockedPendingApproval approvalId time) := by
  unfold lockedPendingApproval
  infer_instance

instance (approval : ApprovalRequest) (actorId : Id) :
    Keeps (ledgerAgreement solvency) LedgerNeutral (applicator approval actorId) := by
  unfold applicator
  infer_instance

instance (env : Env) (identity : TelegramIdentity) (approvalId : Id) (decision : String) :
    Keeps (ledgerAgreement solvency) LedgerNeutral
      (decideApproval env identity approvalId decision) := by
  unfold decideApproval
  infer_instance

instance (env : Env) (identity : TelegramIdentity) (organizationId : Id) :
    Keeps (ledgerAgreement solvency) LedgerNeutral
      (adminSetResellerStatus env identity organizationId) := by
  unfold adminSetResellerStatus
  infer_instance

/-! ## Approved orders -/

/-- Fresh identifiers are no owner keys of the system. -/
instance : Yields (ledgerAgreement solvency) LedgerNeutral (· ≠ systemOwner) uid where
  yields point ready := by
    refine ⟨Agreement.Asks.asks, fun fresh => ⟨ready, ?_⟩⟩
    rintro _ ⟨⟩ same
    have length := fresh.2
    rw [same] at length
    exact absurd length (by decide)

/-- A new organization with a credit limit. -/
theorem keeps_openChild (parentId : Id) (name slug : String) {creditLimitIrr : Int}
    (pricePerGibIrr : Int) (limit : 0 ≤ creditLimitIrr) :
    Keeps (ledgerAgreement solvency) LedgerNeutral
      (openChild parentId name slug creditLimitIrr pricePerGibIrr) := by
  unfold openChild
  refine Yields.bind fun id owner => ?_
  have opened : Keeps (ledgerAgreement solvency) LedgerNeutral
      (insert .organizations ⟨id, some parentId, name, slug, .active, creditLimitIrr, 5⟩) :=
    Keeps.add ⟨owner, limit⟩
  infer_instance

/-- The database keeps the credit limit of an order from being negative. -/
theorem Integrity.order_creditLimit {db : Db} (integrity : Integrity db) {order : PanelOrder}
    (member : order ∈ db.orders) : 0 ≤ order.creditLimitIrr := by
  have valid := integrity.valid .orders order member
  simp only [Table.valid, Bool.and_eq_true, decide_eq_true_eq] at valid
  exact valid.1.2

instance (orderId : Id) (toStatus : OrderStatus) :
    Yields (ledgerAgreement solvency) LedgerNeutral (fun order => 0 ≤ order.creditLimitIrr)
      (lockedOrder orderId toStatus) where
  yields point ready := by
    unfold lockedOrder
    rw [wp_getForUpdate_bind]
    intro seen moved
    have here := Ready.rely ready moved
    refine ⟨fun _ => ⟨here, by rintro _ ⟨⟩⟩, fun _ _ granted grantedMoved later laterMoved => ?_⟩
    have there := Ready.rely ((here.rely grantedMoved).acquire _) laterMoved
    rw [wp_found_bind]
    refine ⟨fun order present => ?_, fun _ => ⟨there, by rintro _ ⟨⟩⟩⟩
    unfold requireTransition
    rw [wp_require_bind]
    refine ⟨fun _ => ⟨there, ?_⟩, fun _ => ⟨there, by rintro _ ⟨⟩⟩⟩
    rintro _ ⟨⟩
    exact (LedgerReady.integrity there).order_creditLimit (Db.find_mem present).1

instance (order : PanelOrder) (attach : Option OrderApproveIn) :
    Yields (ledgerAgreement solvency) LedgerNeutral
      (fun attached => attached.creditLimitIrr = order.creditLimitIrr)
      (attachAdmin order attach) where
  yields point ready := by
    unfold attachAdmin
    refine (wp_branch ..).mpr ⟨fun _ => ⟨ready, ?_⟩, fun account _ => ?_⟩
    · rintro _ ⟨⟩
      rfl
    · refine wp_seq _ (Keeps.keeps _ ready) (fun _ later kept => ⟨kept, ?_⟩)
        (fun _ _ kept => ⟨kept, by rintro _ ⟨⟩⟩)
      rintro _ ⟨⟩
      rfl

instance (order : PanelOrder) (organizationId : Id) :
    Keeps (ledgerAgreement solvency) LedgerNeutral (assertOrderSeller order organizationId) := by
  unfold assertOrderSeller
  infer_instance

instance (order : PanelOrder) (toStatus : OrderStatus) :
    Keeps (ledgerAgreement solvency) LedgerNeutral (requireTransition order toStatus) := by
  unfold requireTransition
  infer_instance

instance (slug message : String) :
    Keeps (ledgerAgreement solvency) LedgerNeutral (requireFreeSlug slug message) := by
  unfold requireFreeSlug
  infer_instance

instance (organizationId actorId : Id) (role : Role) :
    Keeps (ledgerAgreement solvency) LedgerNeutral (addMembership organizationId actorId role) := by
  unfold addMembership
  infer_instance

instance (order : PanelOrder) (childId panelId : Id) (pgAdminId : Int) :
    Keeps (ledgerAgreement solvency) LedgerNeutral
      (bindCustomer order childId panelId pgAdminId) := by
  unfold bindCustomer
  infer_instance

/-- Approving an order with a credit limit. -/
theorem keeps_approvePanelOrder (solvency : Prop) (env : Env) {locked : PanelOrder}
    (reviewerId sellerId : Id)
    (attach : Option OrderApproveIn) (limit : 0 ≤ locked.creditLimitIrr) :
    Keeps (ledgerAgreement solvency) LedgerNeutral
      (approvePanelOrder env locked reviewerId sellerId attach) := by
  have rest : ∀ order : PanelOrder, order.creditLimitIrr = locked.creditLimitIrr →
      ∀ parentId : Id, Keeps (ledgerAgreement solvency) LedgerNeutral
        (openChild parentId order.businessName order.slug order.creditLimitIrr
          order.pricePerGibIrr) :=
    fun order same parentId => keeps_openChild _ _ _ _ (same ▸ limit)
  unfold approvePanelOrder
  refine Keeps.andThen fun _ => Keeps.andThen fun _ => Yields.bind fun order same => ?_
  have opened := rest order same
  infer_instance

instance (env : Env) (identity : TelegramIdentity) (orderId : Id) (attach : OrderApproveIn) :
    Keeps (ledgerAgreement solvency) LedgerNeutral (approveOrder env identity orderId attach) := by
  unfold approveOrder
  refine Keeps.andThen fun caller => Yields.bind fun order limit => ?_
  have approved := keeps_approvePanelOrder solvency env caller.actor.id
    caller.organization.id (some attach) limit
  infer_instance

/-! ## Decisions of the bot -/

instance (env : Env) (chatId : Int) :
    Keeps (ledgerAgreement solvency) LedgerNeutral (Bot.context env chatId) := by
  unfold Bot.context
  infer_instance

instance (env : Env) (chatId : Int) :
    Keeps (ledgerAgreement solvency) LedgerNeutral (Bot.requireContext env chatId) := by
  unfold Bot.requireContext
  infer_instance

instance (env : Env) (chatId : Int) (permission : Permission) :
    Keeps (ledgerAgreement solvency) LedgerNeutral (Bot.permitted env chatId permission) := by
  unfold Bot.permitted
  infer_instance

instance (body : Op α) [Keeps (ledgerAgreement solvency) LedgerNeutral body] :
    Keeps (ledgerAgreement solvency) LedgerNeutral (Bot.replying body) := by
  unfold Bot.replying
  infer_instance

instance (env : Env) (chatId : Int) (requestId : Id) (approve : Bool) :
    Keeps (ledgerAgreement solvency) LedgerNeutral
      (Bot.decideFunding env chatId requestId approve) := by
  unfold Bot.decideFunding
  infer_instance

instance (approval : ApprovalRequest) (actorId : Id) :
    Keeps (ledgerAgreement solvency) LedgerNeutral (Bot.botApplicator approval actorId) := by
  unfold Bot.botApplicator
  infer_instance

instance (env : Env) (chatId : Int) (approvalId : Id) (approve : Bool) :
    Keeps (ledgerAgreement solvency) LedgerNeutral
      (Bot.decideApproval env chatId approvalId approve) := by
  unfold Bot.decideApproval
  infer_instance

instance (order : PanelOrder) (reviewerId organizationId : Id) (reason : String) :
    Keeps (ledgerAgreement solvency) LedgerNeutral
      (rejectPanelOrder order reviewerId organizationId reason) := by
  unfold rejectPanelOrder
  infer_instance

instance (env : Env) (chatId : Int) (orderId : Id) (approve : Bool) (reason : String)
    (attach : Option OrderApproveIn) : Keeps (ledgerAgreement solvency) LedgerNeutral
      (Bot.reviewerOrderAction env chatId orderId approve reason attach) := by
  have decided : ∀ caller : Bot.Context, Keeps (ledgerAgreement solvency) LedgerNeutral
      (do
        let order ← lockedOrder orderId (if approve then .approved else .rejected)
        if approve then do
          let _ ← approvePanelOrder env order caller.actorId caller.organizationId attach
          pure ()
        else rejectPanelOrder order caller.actorId caller.organizationId reason : Op Unit) := by
    refine fun caller => Yields.bind fun order limit => ?_
    have approved := keeps_approvePanelOrder solvency env caller.actorId
      caller.organizationId attach limit
    infer_instance
  unfold Bot.reviewerOrderAction
  infer_instance

end ControlPlane
