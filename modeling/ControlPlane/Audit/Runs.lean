import ControlPlane.Audit.Traces
import ControlPlane.Library.Histories
import ControlPlane.System.Operations

/-!
# Creations of a run

The operations of the API, of the WebApp and of the bot, and the runs in which
any number of them work at the same time. The log of a commit names what the
commit created, as long as the operations are not among those that write the
audit row before the id is there, or no audit row.
-/

namespace ControlPlane

open ReadCommitted Orm PythonText

/-! ## Operations that create nothing -/

/-- A program that creates nothing. -/
abbrev Creationless (program : Op α) : Prop :=
  Sustains auditAgreement Uncreating (tracedLaw none) program

theorem Creationless.traces {program : Op α} (creationless : Creationless program) :
    Traces program :=
  fun point due => wp_mono _ (creationless.sustains point due) fun _ _ _ => trivial

instance : Everyday Uncreating where
  daily statement daily := by
    cases statement with
    | insert table row =>
        cases table <;> first
          | rfl
          | exact absurd (show _ ∈ dailyTables from daily) (by decide)
    | update table key columns => rfl
    | delete table key => rfl

instance : Admitted Uncreating .transactions := ⟨fun _ => rfl, nofun⟩
instance : Admitted Uncreating .entries := ⟨fun _ => rfl, nofun⟩
instance : Admitted Uncreating .usages := ⟨fun _ => rfl, nofun⟩
instance (role : Role) : Enrolls Uncreating role := ⟨fun _ _ _ _ => rfl⟩

/-- A rejection creates nothing. -/
theorem creationless_reject (env : Env) (chatId : Int) (orderId : Id) (reason : String)
    (attach : Option OrderApproveIn) :
    Creationless (Bot.reviewerOrderAction env chatId orderId false reason attach) := by
  unfold Bot.reviewerOrderAction
  simp only [Bool.false_eq_true, ↓reduceIte]
  infer_instance

/-! ## Operations -/

/-- The sessions of the API, of the WebApp and of the bot that write the audit row of a creation
once its id is there, and the ones that create nothing. -/
inductive NamingOperation (env : Env) : Prog Database (Except Failure Unit) → Prop
  | createOrg (data : OrgIn) : NamingOperation env (served (createOrg env data))
  | bindActor (data : ActorBindIn) : NamingOperation env (served (bindActor data))
  | fund (organizationId : Id) (data : FundIn) :
      NamingOperation env (served (fund organizationId data))
  | usage (data : UsageIn) : NamingOperation env (served (usage env data))
  | usageBatch (observations : List UsageIn) :
      NamingOperation env (served (usageBatch env observations))
  | bootstrapWorkspace (identity : TelegramIdentity) (data : BootstrapIn) :
      NamingOperation env (served (bootstrapWorkspace env identity data))
  | webCreateChild (identity : TelegramIdentity) (data : WebChildIn) :
      NamingOperation env (served (webCreateChild env identity data))
  | webCreatePanel (packages : Packages) (identity : TelegramIdentity) (data : WebPanelIn) :
      truthy data.pgAdminId = none →
        NamingOperation env (served (webCreatePanel env packages identity data))
  | webSetAdminLimit (identity : TelegramIdentity) (panelId : Id) (limitUseInBytes : Int) :
      NamingOperation env (served (webSetAdminLimit env identity panelId limitUseInBytes))
  | webSetUsageCoefficient (identity : TelegramIdentity) (panelId : Id) (usageCoefficient : Nat) :
      NamingOperation env (served (webSetUsageCoefficient env identity panelId usageCoefficient))
  | setPanelSaleable (identity : TelegramIdentity) (panelId : Id) (saleable : Bool) :
      NamingOperation env (served (setPanelSaleable env identity panelId saleable))
  | webPanelNodes (identity : TelegramIdentity) (panelId : Id) :
      NamingOperation env (served (webPanelNodes env identity panelId))
  | webNodeStatus (identity : TelegramIdentity) (panelId : Id) (nodeId : Int) :
      NamingOperation env (served (webNodeStatus env identity panelId nodeId))
  | webReconnectNode (identity : TelegramIdentity) (panelId : Id) (nodeId : Int) :
      NamingOperation env (served (webReconnectNode env identity panelId nodeId))
  | webResetNode (identity : TelegramIdentity) (panelId : Id) (nodeId : Int) :
      NamingOperation env (served (webResetNode env identity panelId nodeId))
  | webSetNodeEnabled (identity : TelegramIdentity) (panelId : Id) (nodeId : Int)
      (enabled : String) :
      NamingOperation env (served (webSetNodeEnabled env identity panelId nodeId enabled))
  | webPanelUsers (identity : TelegramIdentity) (panelId : Id) (offset limit : Int) :
      NamingOperation env (served (webPanelUsers env identity panelId offset limit))
  | webResetUserData (identity : TelegramIdentity) (panelId : Id) (userId : Int) :
      NamingOperation env (served (webResetUserData env identity panelId userId))
  | webSetUserEnabled (identity : TelegramIdentity) (panelId : Id) (userId : Int)
      (enabled : String) :
      NamingOperation env (served (webSetUserEnabled env identity panelId userId enabled))
  | branchDecideFunding (identity : TelegramIdentity) (requestId : Id) (decision : String) :
      NamingOperation env (served (branchDecideFunding env identity requestId decision))
  | adminDecideFunding (identity : TelegramIdentity) (requestId : Id) (decision : String) :
      NamingOperation env (served (adminDecideFunding env identity requestId decision))
  | adminCreateReseller (identity : TelegramIdentity) (data : AdminResellerIn) :
      NamingOperation env (served (adminCreateReseller env identity data))
  | adminSetResellerStatus (identity : TelegramIdentity) (organizationId : Id) :
      NamingOperation env (served (adminSetResellerStatus env identity organizationId))
  | requestAdjustment (identity : TelegramIdentity) (data : AdjustmentIn) :
      NamingOperation env (served (requestAdjustment env identity data))
  | decideApproval (identity : TelegramIdentity) (approvalId : Id) (decision : String) :
      NamingOperation env (served (decideApproval env identity approvalId decision))
  | confirmOrder (identity : TelegramIdentity) (orderId : Id) :
      NamingOperation env (served (confirmOrder env identity orderId))
  | declarePayment (identity : TelegramIdentity) (orderId : Id) :
      NamingOperation env (served (declarePayment env identity orderId))
  | cancelOrder (identity : TelegramIdentity) (orderId : Id) :
      NamingOperation env (served (cancelOrder env identity orderId))
  | quoteOrder (identity : TelegramIdentity) (orderId : Id) (data : OrderQuoteIn) :
      NamingOperation env (served (quoteOrder env identity orderId data))
  | rejectOrder (identity : TelegramIdentity) (orderId : Id) (reason : String) :
      NamingOperation env (served (rejectOrder env identity orderId reason))
  | webUpdateCategory (identity : TelegramIdentity) (categoryId : Id) (data : PlanCategoryIn) :
      NamingOperation env (served (webUpdateCategory env identity categoryId data))
  | webCategoryStatus (identity : TelegramIdentity) (categoryId : Id) (status : String) :
      NamingOperation env (served (webCategoryStatus env identity categoryId status))
  | webDeleteCategory (identity : TelegramIdentity) (categoryId : Id) :
      NamingOperation env (served (webDeleteCategory env identity categoryId))
  | webUpdatePlan (identity : TelegramIdentity) (planId : Id) (data : PlanIn) :
      NamingOperation env (served (webUpdatePlan env identity planId data))
  | webPlanStatus (identity : TelegramIdentity) (planId : Id) (status : String) :
      NamingOperation env (served (webPlanStatus env identity planId status))
  | webDeletePlan (identity : TelegramIdentity) (planId : Id) :
      NamingOperation env (served (webDeletePlan env identity planId))
  | botSetSaleable (chatId : Int) (panelId : Id) (saleable : Bool) :
      NamingOperation env (served (Bot.setSaleable env chatId panelId saleable))
  | botNodeList (chatId : Int) (panelId : Id) :
      NamingOperation env (served (Bot.nodeList env chatId panelId))
  | botNodeAction (chatId : Int) (panelId : Id) (nodeId action : String) :
      NamingOperation env (served (Bot.nodeAction env chatId panelId nodeId action))
  | botToggleCatalog (chatId : Int) (kind : CatalogKind) (targetId : Id) :
      NamingOperation env (served (Bot.toggleCatalog env chatId kind targetId))
  | botDecideFunding (chatId : Int) (requestId : Id) (approve : Bool) :
      NamingOperation env (served (Bot.decideFunding env chatId requestId approve))
  | botDecideApproval (chatId : Int) (approvalId : Id) (approve : Bool) :
      NamingOperation env (served (Bot.decideApproval env chatId approvalId approve))
  | botCustomerOrder (chatId : Int) (orderId : Id) (toStatus : OrderStatus) :
      NamingOperation env (served (Bot.customerOrderAction chatId orderId toStatus))
  | botRejectOrder (chatId : Int) (orderId : Id) (reason : String)
      (attach : Option OrderApproveIn) :
      NamingOperation env (served (Bot.reviewerOrderAction env chatId orderId false reason attach))
  | botApplyQuote (chatId : Int) (orderId : Id) (data : OrderQuoteIn) :
      NamingOperation env (served (Bot.applyQuote env chatId orderId data))

/-- The sessions of the API, of the WebApp and of the bot that may write. -/
inductive WritingOperation (env : Env) : Prog Database (Except Failure Unit) → Prop
  | naming {program : Prog Database (Except Failure Unit)} :
      NamingOperation env program → WritingOperation env program
  | createPanel (packages : Packages) (data : PanelIn) :
      WritingOperation env (served (createPanel packages data))
  | createBinding (data : BindingIn) : WritingOperation env (served (createBinding data))
  | webCreatePanel (packages : Packages) (identity : TelegramIdentity) (data : WebPanelIn) :
      WritingOperation env (served (webCreatePanel env packages identity data))
  | webFundingRequest (identity : TelegramIdentity) (data : FundingRequestIn) :
      WritingOperation env (served (webFundingRequest env identity data))
  | createOrder (identity : TelegramIdentity) (data : OrderIn) :
      WritingOperation env (served (createOrder env identity data))
  | approveOrder (identity : TelegramIdentity) (orderId : Id) (attach : OrderApproveIn) :
      WritingOperation env (served (approveOrder env identity orderId attach))
  | webCreateCategory (identity : TelegramIdentity) (data : PlanCategoryIn) :
      WritingOperation env (served (webCreateCategory env identity data))
  | webCreatePlan (identity : TelegramIdentity) (data : PlanIn) :
      WritingOperation env (served (webCreatePlan env identity data))
  | botCreateShelf (chatId : Int) (data : PlanCategoryIn) :
      WritingOperation env (served (Bot.createShelf env chatId data))
  | botSavePlan (chatId : Int) (data : PlanIn) :
      WritingOperation env (served (Bot.savePlan env chatId data))
  | botRequestCredit (chatId : Int) (amountIrr : Int) :
      WritingOperation env (served (Bot.requestCredit env chatId amountIrr))
  | botCreateReseller (chatId : Int) (data : Bot.ResellerData) :
      WritingOperation env (served (Bot.createReseller env chatId data))
  | botPlaceOrder (chatId : Int) (data : OrderIn) :
      WritingOperation env (served (Bot.placeOrder chatId data))
  | botReviewOrder (chatId : Int) (orderId : Id) (approve : Bool) (reason : String)
      (attach : Option OrderApproveIn) :
      WritingOperation env
        (served (Bot.reviewerOrderAction env chatId orderId approve reason attach))

/-- These sessions meet the agreement. -/
theorem NamingOperation.meets {env : Env} {program : Prog Database (Except Failure Unit)}
    (operation : NamingOperation env program) : auditAgreement.Meets program := by
  have creationless : ∀ {α : Type} (body : Op α) [Creationless body],
      auditAgreement.Meets (served body) := fun body created =>
    (Creationless.traces created).meets
  cases operation with
  | createOrg data => exact (createOrg_traces env data).meets
  | bootstrapWorkspace identity data => exact (bootstrapWorkspace_traces env identity data).meets
  | webCreateChild identity data => exact (webCreateChild_traces env identity data).meets
  | webCreatePanel packages identity data unbound =>
      exact (webCreatePanel_traces env packages identity data unbound).meets
  | adminCreateReseller identity data => exact (adminCreateReseller_traces env identity data).meets
  | botRejectOrder chatId orderId reason attach =>
      exact (creationless_reject env chatId orderId reason attach).traces.meets
  | confirmOrder identity orderId => exact creationless (customerRoute env identity orderId _)
  | declarePayment identity orderId => exact creationless (customerRoute env identity orderId _)
  | cancelOrder identity orderId => exact creationless (customerRoute env identity orderId _)
  | webCategoryStatus identity categoryId status =>
      exact creationless (catalogStatusRoute env identity .category categoryId status)
  | webPlanStatus identity planId status =>
      exact creationless (catalogStatusRoute env identity .plan planId status)
  | _ => exact creationless _

/-! ## Runs -/

/-- Each creation that was committed is named by an audit row that was committed with it, and that
is still in the audit log. -/
def AuditedCreations {ι : Type} (world : World Database ι (Except Failure Unit)) : Prop :=
  ∀ committed ∈ world.commits, ∀ statement ∈ committed.log, ∀ target,
    created statement = some target → ∃ entry : AuditLog,
      .insert .auditLogs entry ∈ committed.log ∧ entry ∈ world.store.auditLogs ∧
        (entry.targetType, entry.targetId) = target

/-- What an audit row is about can be read from the row. -/
theorem audited_eq_some {statement : Database.Write} {target : String × Id}
    (names : audited statement = some target) : ∃ entry : AuditLog,
      statement = .insert .auditLogs entry ∧ (entry.targetType, entry.targetId) = target := by
  cases statement with
  | insert table row =>
      cases table with
      | auditLogs => exact ⟨row, rfl, Option.some.inj names⟩
      | _ => exact absurd names (by rintro ⟨⟩)
  | update table key columns => exact absurd names (by rintro ⟨⟩)
  | delete table key => exact absurd names (by rintro ⟨⟩)

section

variable {ι : Type} [DecidableEq ι] {store : Db} {world : World Database ι (Except Failure Unit)}
  {Allowed : Prog Database (Except Failure Unit) → Prop}

/-- A committed audit row stays. -/
theorem auditLogs_kept (reached : World.Reachable Allowed store world)
    {committed : Committed Database} (member : committed ∈ world.commits) {entry : AuditLog}
    (written : .insert .auditLogs entry ∈ committed.log) : entry ∈ world.store.auditLogs :=
  World.holds_since (motive := fun db : Db => entry ∈ db.auditLogs) reached
    (fun _ _ before => mem_auditLogs_replay (.inl before)) member
    (mem_auditLogs_replay (.inr written))

/-- In a run of sessions that write the audit row of a creation once its id is there, every
creation can be found in the audit log by its id. -/
theorem creations_audited {env : Env}
    (reached : World.Reachable (NamingOperation env) store world) : AuditedCreations world := by
  intro committed member statement written target creates
  have sound : auditAgreement.Sound world :=
    Agreement.Sound.reachable (fun _ operation => operation.meets) trivial reached
  have traced : Traced none committed.log := (sound.commits committed member).2
  obtain ⟨other, present, names⟩ :=
    (traced statement written target creates).resolve_left (by rintro ⟨⟩)
  obtain ⟨entry, rfl, own⟩ := audited_eq_some names
  exact ⟨entry, present, auditLogs_kept reached member present, own⟩

/-- The audit row of a new organization names it. -/
theorem creations_audited_organization :
    ∃ world : World Database Unit (Except Failure Unit),
      World.Reachable (NamingOperation Sample.env) Sample.workspace world ∧
        (world.store.organizations.map Organization.name = ["Root", "Shop", "Branch"] ∧
          world.history.map (fun entry => entry.2.filterMap created) =
            [[("organization", "aaaaaaaaaaaaaaaaaaaaaaaaaaaaaaaaaaaa")]]) ∧
        AuditedCreations world := by
  obtain ⟨world, reached, same, history⟩ := World.reachable_history () Sample.answers
    (NamingOperation.createOrg ⟨"Branch", "branch", some "shop", some 100, 0⟩ :
      NamingOperation Sample.env _) Sample.workspace
  refine ⟨world, reached, ?_, creations_audited reached⟩
  rw [same, history]
  decide +kernel

/-- The audit row of a new binding does not name it. -/
theorem creations_audited_fails :
    ¬∀ world : World Database Unit (Except Failure Unit),
      World.Reachable (WritingOperation Sample.env) Sample.workspace world →
        AuditedCreations world := by
  intro audited
  obtain ⟨world, reached, same, history⟩ := World.reachable_history () Sample.answers
    (WritingOperation.createBinding ⟨"root", "panel", 8, "root"⟩ : WritingOperation Sample.env _)
    Sample.workspace
  let target : String × Id := ("binding", "aaaaaaaaaaaaaaaaaaaaaaaaaaaaaaaaaaaa")
  have creates : (world.history.any fun entry => entry.2.any fun statement =>
      created statement = some target) = true := by
    rw [history]
    decide +kernel
  have unnamed : ∀ entry ∈ Db.auditLogs world.store,
      (entry.targetType, entry.targetId) ≠ target := by
    rw [same]
    decide +kernel
  rw [World.history, List.any_map, List.any_eq_true] at creates
  obtain ⟨committed, member, creates⟩ := creates
  obtain ⟨statement, written, creates⟩ := List.any_eq_true.mp creates
  obtain ⟨entry, _, present, names⟩ :=
    audited world reached committed member statement written target (of_decide_eq_true creates)
  exact unnamed entry present names

end

end ControlPlane
