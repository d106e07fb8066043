import ControlPlane.Decisions.Sessions
import ControlPlane.Identity.Customers
import ControlPlane.System.Funnel
import ControlPlane.Upholding

/-!
# Sessions about orders

A session that places an order writes one row of its own. One that moves an order
locks its row first and checks its status then, so that what it writes is a step
of what is stored when it commits.
-/

namespace ControlPlane

open ReadCommitted Orm

namespace Funnel

open Concern

instance : OffPanel funnel.agreement := ⟨fun _ _ => trivial⟩

instance : Everyday funnel.Untouched where
  daily statement daily := by
    cases statement with
    | insert table row =>
        cases table with
        | orders => exact absurd (show _ ∈ dailyTables from daily) (by decide)
        | _ => rfl
    | update table key columns =>
        cases table with
        | orders => exact absurd (show _ ∨ _ from daily) (by decide)
        | _ => rfl
    | delete table key => exact decide_eq_false (not_not.mpr daily)

instance : Admitted funnel.Untouched .outbox := ⟨fun _ => rfl, fun _ _ => rfl⟩
instance : Admitted funnel.Untouched .contracts := ⟨fun _ => rfl, nofun⟩
instance : Insertable funnel.Untouched .contracts := ⟨fun _ => rfl⟩
instance : Admitted funnel.Untouched .transactions := ⟨fun _ => rfl, nofun⟩
instance : Admitted funnel.Untouched .entries := ⟨fun _ => rfl, nofun⟩
instance : Admitted funnel.Untouched .usages := ⟨fun _ => rfl, nofun⟩
instance : Insertable funnel.Untouched .organizations := ⟨fun _ => rfl⟩
instance : Insertable funnel.Untouched .planCategories := ⟨fun _ => rfl⟩
instance : Insertable funnel.Untouched .plans := ⟨fun _ => rfl⟩
instance : Insertable funnel.Untouched .bindings := ⟨fun _ => rfl⟩
instance : Insertable funnel.Untouched .fundingRequests := ⟨fun _ => rfl⟩
instance : Amended funnel.Untouched .organizations := ⟨fun _ _ => rfl⟩
instance : Amended funnel.Untouched .panels := ⟨fun _ _ => rfl⟩
instance : Admitted funnel.Untouched .approvals := ⟨fun _ => rfl, fun _ _ => rfl⟩
instance : Admitted funnel.Untouched .memberships := ⟨fun _ => rfl, nofun⟩
instance : Admitted funnel.Untouched .bindings := ⟨fun _ => rfl, fun _ _ => rfl⟩
instance (role : Role) : Enrolls funnel.Untouched role := ⟨fun _ _ _ _ => rfl⟩
instance (packages : Packages) : Registers funnel.Untouched packages := ⟨fun _ _ _ => rfl⟩
instance : Suspends funnel.Untouched := ⟨fun _ => rfl⟩

variable {point : Point Database} {known : Law Database}

/-- A session of the bot ends with its body. -/
theorem settles_withSession {body : Op α} (settles : funnel.Settles body point) :
    funnel.Settles (withSession body) point := by
  have guarded : funnel.Settles (tryCatch body fun exception => do
      rollback
      throw exception) point :=
    (wp_tryCatch _ _ _).mpr (wp_mono _ settles fun result last kept => by
      cases result with
      | ok value => exact kept
      | error exception => exact fun _ rely => .fresh (fun _ => False) rely.inv)
  exact settles_after guarded _

/-! ## Placing an order -/

theorem settles_createPanelOrder (telegramId : Int) (displayName : String) (data : OrderIn)
    (due : Due funnel.agreement Law.unwritten point) :
    funnel.Settles (createPanelOrder telegramId displayName data) point := by
  have panelled : Sustains funnel.agreement (fun _ => False) Law.unwritten
      (saleablePanel data.panelId) := by
    unfold saleablePanel
    infer_instance
  have priced : ∀ panel, Sustains funnel.agreement (fun _ => False) Law.unwritten
      (pricedPlan panel data.planId) := by
    intro panel
    unfold pricedPlan requireOpenShelf
    infer_instance
  have slugged : Sustains funnel.agreement funnel.Untouched funnel.idle uniqueOrderSlug := by
    unfold uniqueOrderSlug
    generalize 20 = attempts
    induction attempts with
    | zero => exact Sustains.throw _
    | succ attempts inductionHypothesis =>
        unfold orderSlug
        infer_instance
  have introduced : Sustains funnel.agreement funnel.Untouched funnel.idle
      (requesterActorCreated telegramId
        (if data.businessName = "" then displayName else data.businessName)) := by
    unfold requesterActorCreated requesterActor
    infer_instance
  unfold createPanelOrder
  refine settles_reading _ _ due fun panel _ due => ?_
  refine settles_reading _ _ due fun plan _ due => ?_
  refine settles_idle _ _ (due_of_unwritten due) fun actorId _ due => ?_
  refine settles_idle _ _ due fun slug _ due => ?_
  rw [Settles, wp_uid_bind]
  intro id
  dsimp only
  rw [wp_insert_bind]
  have none : Due funnel.agreement ((funnel.marked []).both Law.anything) _ :=
    due.weaken fun _ _ _ _ nothing => ⟨nothing, trivial⟩
  refine settles_last _ (due_touch none ?_ fun _ _ _ => .place id.1 actorId panel slug data plan)
  rintro row member
  rw [List.mem_singleton.mp member]
  rfl

theorem createOrder_meets (env : Env) (identity : TelegramIdentity) (data : OrderIn) :
    funnel.agreement.Meets (served (createOrder env identity data)) := by
  have permitted : Sustains funnel.agreement (fun _ => False) Law.unwritten
      (orderPermission env identity .orderPanel) := by
    unfold orderPermission
    infer_instance
  refine meets_of_settles fun store due => settles_after ?_ _
  unfold createOrder
  refine settles_reading _ _ due fun _ _ due => ?_
  exact settles_after (settles_createPanelOrder identity.userId identity.firstName data due) _

theorem placeOrder_meets (chatId : Int) (data : OrderIn) :
    funnel.agreement.Meets (served (Bot.placeOrder chatId data)) := by
  refine meets_of_settles fun store due => settles_after ?_ _
  unfold Bot.placeOrder
  refine settles_withSession (settles_translated ?_ _)
  exact settles_after (settles_createPanelOrder chatId data.businessName data due) _

/-! ## Moving an order -/

/-- A session locks an order that may go on to a status. -/
theorem wp_lockedOrder {post : Except Failure PanelOrder → Point Database → Prop} (orderId : Id)
    (toStatus : OrderStatus) (due : Due funnel.agreement Law.unwritten point)
    (next : ∀ order later, order.id = orderId →
      Due funnel.agreement (Law.unwritten.both (held .orders order.id order)) later →
        post (.ok order) later)
    (raised : ∀ exception later, Due funnel.agreement Law.anything later →
      post (.error exception) later) :
    (lockedOrder orderId toStatus).wp funnel.agreement post point := by
  have nothing : point.log = [] := (List.append_eq_nil_iff.mp due.now).1
  have marked : Due funnel.agreement ((Law.fact fun _ => True).marks (fun _ => true) []) point :=
    due.weaken fun _ _ _ _ (empty : _ = []) => ⟨trivial, by rw [empty]; rfl⟩
  unfold lockedOrder requireTransition
  refine wp_getForUpdate_due .orders orderId _ marked nothing
    fun result later _ absent present => ?_
  rw [wp_found_bind]
  refine ⟨fun order found => ?_, fun missing => raised _ _ (absent missing).free⟩
  have locked : Due funnel.agreement (Law.unwritten.both (held .orders orderId order)) later := by
    refine (present order found).weaken fun _ log _ _ kept => ⟨?_, kept.1.2⟩
    have none := kept.2
    rwa [List.filter_eq_self.mpr fun _ _ => rfl] at none
  obtain rfl : order.id = orderId := Option.some.inj (Db.find_mem locked.now.2.2).2
  rw [wp_require_bind]
  exact ⟨fun _ => next order later rfl locked, fun _ => raised _ _ locked.free⟩

theorem settles_lockedOrder (orderId : Id) (toStatus : OrderStatus) (rest : PanelOrder → Op β)
    (due : Due funnel.agreement Law.unwritten point)
    (next : ∀ order later,
      Due funnel.agreement (Law.unwritten.both (held .orders order.id order)) later →
        funnel.Settles (rest order) later) :
    funnel.Settles (lockedOrder orderId toStatus >>= rest) point := by
  rw [Settles, wp_bind]
  exact wp_lockedOrder orderId toStatus due (fun order later _ due => next order later due)
    fun _ _ free => free

/-- The requester of an order locks it. -/
theorem settles_ownedOrder (orderId : Id) (identity : TelegramIdentity) (toStatus : OrderStatus)
    (rest : PanelOrder → Op β) (due : Due funnel.agreement Law.unwritten point)
    (next : ∀ order later,
      Due funnel.agreement (Law.unwritten.both (held .orders order.id order)) later →
        funnel.Settles (rest order) later) :
    funnel.Settles (ownedOrder orderId identity toStatus >>= rest) point := by
  unfold ownedOrder requesterActor
  rw [Settles, wp_bind, wp_bind]
  refine wp_lockedOrder orderId toStatus due (fun order later _ due => ?_) fun _ _ free => free
  refine wp_seq _ (wp_upholds (fun _ => False) _ due) (fun actor last due => ?_)
    fun _ _ kept => kept.free
  rw [wp_require_bind]
  exact ⟨fun _ => next order last due, fun _ => due.free⟩

/-- A server belongs to an organization. -/
def Sells (panelId organizationId : Id) (db : Db) : Prop :=
  ∃ owner ∈ db.panelOwners, owner.panelId = panelId ∧ owner.organizationId = organizationId

/-- A server stays with its owner. -/
theorem Sells.moves {panelId organizationId : Id} {db later : Db}
    (sells : Sells panelId organizationId db) (moves : FunnelMoves db later) :
    Sells panelId organizationId later := by
  obtain ⟨owner, member, its⟩ := sells
  exact ⟨owner, (moves.retained .panelOwners (by decide) (by decide) owner member).fixed
    fun _ => rfl, its⟩

/-- Only the seller of its server reviews an order. -/
theorem settles_assertOrderSeller (order : PanelOrder) (sellerId : Id) (rest : Unit → Op β)
    (due : Due funnel.agreement (Law.unwritten.both known) point)
    (next : ∀ later, Due funnel.agreement
      (Law.unwritten.both (known.both (Law.fact (Sells order.panelId sellerId)))) later →
        funnel.Settles (rest ()) later) :
    funnel.Settles (assertOrderSeller order sellerId >>= rest) point := by
  unfold assertOrderSeller
  rw [Settles, wp_bind, wp_scalar_bind]
  intro later rely
  have moved := due.rely rely
  have nothing : point.log = [] := (List.append_eq_nil_iff.mp moved.now.1).1
  rw [wp_require]
  refine ⟨fun linked => next _ ⟨moved.inv, moved.covered, moved.accepted, fun last further => ?_⟩,
    fun _ => moved.free⟩
  obtain ⟨unwritten, knows⟩ := moved.law last further
  obtain ⟨owner, found⟩ := Option.ne_none_iff_exists'.mp linked
  rw [nothing] at found
  have its := List.find?_some found
  exact ⟨unwritten, knows, Sells.moves ⟨owner, List.mem_of_find?_eq_some found,
    of_decide_eq_true its⟩ further.le⟩

/-- A step of the order that is locked. -/
theorem due_step {order : PanelOrder} {assigned : List PanelOrderColumns}
    (due : Due funnel.agreement
      ((funnel.marked (assigned.map (.update .orders order.id ·))).both
        ((held .orders order.id order).both known)) point)
    (columns : PanelOrderColumns)
    (step : ∀ later, FunnelHolds later → known point.held (point.log ++ point.pending) later →
      OrderStep (point.log ++ point.pending) later order
        (@Layout.changes layout .orders (assigned ++ [columns]) order)) :
    Due funnel.agreement funnel.law { point with
      pending := point.pending ++ [.update .orders order.id columns] } := by
  refine due_touch due ?_ fun later rely knows => ?_
  · rintro row member
    rw [List.mem_singleton.mp member]
    rfl
  · have lawful : FunnelLawful (point.log ++ point.pending) later _ :=
      .step order (assigned ++ [columns]) (Db.find_mem knows.1.2).1 (step later rely.inv knows.2)
    rw [List.map_append] at lawful
    exact lawful.grow (List.subset_append_left _ _)

/-- What was read of a locked order, before anything is written about orders. -/
theorem unmarked {order : PanelOrder}
    (due : Due funnel.agreement (Law.unwritten.both (held .orders order.id order)) point) :
    Due funnel.agreement ((funnel.marked
      (([] : List PanelOrderColumns).map (.update .orders order.id ·))).both
        ((held .orders order.id order).both Law.anything)) point :=
  due.weaken fun _ _ _ _ kept => ⟨by rw [Concern.marked, kept.1]; rfl, kept.2, trivial⟩

/-- The steps of the requester. -/
theorem settles_advanceCustomerOrder {order : PanelOrder} {toStatus : OrderStatus}
    (own : (customerTransition toStatus).isSome = true)
    (due : Due funnel.agreement (Law.unwritten.both (held .orders order.id order)) point) :
    funnel.Settles (advanceCustomerOrder order toStatus) point := by
  unfold advanceCustomerOrder requireTransition
  rw [Settles, wp_require_bind]
  refine ⟨fun allowed => ?_, fun _ => due.free⟩
  rw [wp_assign_bind]
  exact settles_last _ (due_step (unmarked due) _ fun _ _ _ => .advanced toStatus allowed own)

theorem customerRoute_meets (env : Env) (identity : TelegramIdentity) (orderId : Id)
    {toStatus : OrderStatus} (own : (customerTransition toStatus).isSome = true) :
    funnel.agreement.Meets (served (customerRoute env identity orderId toStatus)) := by
  have permitted : Sustains funnel.agreement (fun _ => False) Law.unwritten
      (orderPermission env identity .orderPanel) := by
    unfold orderPermission
    infer_instance
  refine meets_of_settles fun store due => settles_after ?_ _
  unfold customerRoute
  refine settles_reading _ _ due fun _ _ due => ?_
  refine settles_ownedOrder orderId identity toStatus _ due fun order _ due => ?_
  exact settles_after (settles_advanceCustomerOrder own due) _

theorem customerOrderAction_meets (chatId : Int) (orderId : Id) {status : OrderStatus}
    (own : (customerTransition status).isSome = true) :
    funnel.agreement.Meets (served (Bot.customerOrderAction chatId orderId status)) := by
  refine meets_of_settles fun store due => settles_after (settles_withSession ?_) _
  rw [Settles, wp_bind]
  refine (wp_tryCatch _ _ _).mpr ?_
  refine wp_lockedOrder orderId status due (fun order later _ due => ?_) fun _ _ free => free
  unfold requesterActor
  refine wp_seq _ (wp_upholds (fun _ => False) _ due) (fun actor last due => ?_)
    fun _ _ kept => kept.free
  rw [wp_require_bind]
  refine ⟨fun _ => ?_, fun _ => due.free⟩
  refine wp_seq _ (wp_upholds (fun _ => False) _ due) (fun actor last due => ?_)
    fun _ _ kept => kept.free
  exact settles_after (settles_advanceCustomerOrder own due) _

/-! ## Reviewing an order -/

theorem settles_quotePanelOrder {order : PanelOrder} (data : OrderQuoteIn)
    (reviewerId sellerId : Id)
    (due : Due funnel.agreement (Law.unwritten.both (held .orders order.id order)) point) :
    funnel.Settles (quotePanelOrder order data reviewerId sellerId) point := by
  unfold quotePanelOrder requireTransition
  refine settles_assertOrderSeller order sellerId _ due fun _ due => ?_
  rw [Settles, wp_require_bind]
  refine ⟨fun allowed => ?_, fun _ => due.free⟩
  rw [wp_assign_bind]
  exact settles_last _ (due_step
    (unmarked (due.weaken fun _ _ _ _ kept => ⟨kept.1, kept.2.1⟩)) _
    fun _ _ _ => .quoted data.creditLimitIrr data.pricePerGibIrr data.amountIrr
      data.paymentInstructions _ data.pgAdminId allowed)

theorem settles_rejectPanelOrder {order : PanelOrder} (reviewerId sellerId : Id) (reason : String)
    (due : Due funnel.agreement (Law.unwritten.both (held .orders order.id order)) point) :
    funnel.Settles (rejectPanelOrder order reviewerId sellerId reason) point := by
  unfold rejectPanelOrder requireTransition
  refine settles_assertOrderSeller order sellerId _ due fun _ due => ?_
  rw [Settles, wp_require_bind]
  refine ⟨fun allowed => ?_, fun _ => due.free⟩
  rw [wp_now_bind]
  intro time
  rw [wp_assign_bind]
  exact settles_last _ (due_step
    (unmarked (due.weaken fun _ _ _ _ kept => ⟨kept.1, kept.2.1⟩)) _
    fun _ _ _ => .rejected reviewerId time reason allowed)

theorem quoteOrder_meets (env : Env) (identity : TelegramIdentity) (orderId : Id)
    (data : OrderQuoteIn) :
    funnel.agreement.Meets (served (quoteOrder env identity orderId data)) := by
  refine meets_of_settles fun store due => settles_after ?_ _
  unfold quoteOrder
  refine settles_reading _ _ due fun caller _ due => ?_
  refine settles_lockedOrder orderId .quoted _ due fun order _ due => ?_
  exact settles_after (settles_quotePanelOrder data _ _ due) _

theorem applyQuote_meets (env : Env) (chatId : Int) (orderId : Id) (data : OrderQuoteIn) :
    funnel.agreement.Meets (served (Bot.applyQuote env chatId orderId data)) := by
  refine meets_of_settles fun store due => settles_after ?_ _
  unfold Bot.applyQuote
  refine settles_reading _ _ due fun _ _ due => ?_
  refine settles_reading _ _ due fun caller _ due => ?_
  refine settles_withSession (settles_after (settles_translated ?_ _) _)
  refine settles_lockedOrder orderId .quoted _ due fun order _ due => ?_
  exact settles_quotePanelOrder data _ _ due

theorem rejectOrder_meets (env : Env) (identity : TelegramIdentity) (orderId : Id)
    (reason : String) :
    funnel.agreement.Meets (served (rejectOrder env identity orderId reason)) := by
  refine meets_of_settles fun store due => settles_after ?_ _
  unfold rejectOrder
  refine settles_reading _ _ due fun caller _ due => ?_
  refine settles_lockedOrder orderId .rejected _ due fun order _ due => ?_
  exact settles_after (settles_rejectPanelOrder _ _ reason due) _

/-! ## Approving an order -/

/-- The organization that is opened for an order stays on record, and its contract. -/
theorem wp_openChild_records {post : Except Failure Id → Point Database → Prop}
    [known.Tolerates funnel.Untouched] (parentId : Id) (name slug : String)
    (creditLimitIrr pricePerGibIrr : Int)
    (due : Due funnel.agreement (Law.anything.both known) point)
    (next : ∀ id contractId later, Due funnel.agreement (Law.anything.both ((known.both
      (.records (.insert .organizations
        ⟨id, some parentId, name, slug, .active, creditLimitIrr, 5⟩))).both
      (.records (.insert .contracts ⟨contractId, parentId, id, pricePerGibIrr, .active⟩)))) later →
        post (.ok id) later)
    (raised : ∀ exception later, Due funnel.agreement Law.anything later →
      post (.error exception) later) :
    (openChild parentId name slug creditLimitIrr pricePerGibIrr).wp funnel.agreement post
      point := by
  unfold openChild
  rw [wp_uid_bind]
  intro id
  rw [wp_insert_bind]
  have opened := due.noted funnel.Untouched (.insert .organizations
    ⟨id.1, some parentId, name, slug, .active, creditLimitIrr, 5⟩) rfl
  refine wp_seq _ (wp_upholds funnel.Untouched _ opened) (fun _ _ due => ?_) raised
  refine wp_seq _ (wp_upholds funnel.Untouched _ due) (fun _ _ due => ?_) raised
  refine wp_seq _ (wp_upholds funnel.Untouched _ due) (fun _ _ due => ?_) raised
  refine wp_seq _ (wp_upholds funnel.Untouched _ due) (fun _ _ due => ?_) raised
  rw [wp_uid_bind]
  intro contractId
  rw [wp_insert_bind]
  have agreed := due.noted funnel.Untouched (.insert .contracts
    ⟨contractId.1, parentId, id.1, pricePerGibIrr, .active⟩) rfl
  refine wp_seq _ (wp_upholds funnel.Untouched _ agreed) (fun _ _ due => ?_) raised
  exact next id.1 contractId.1 _ due

/-- The membership that is opened for the requester stays on record. -/
theorem wp_addMembership_records {post : Except Failure Unit → Point Database → Prop}
    [known.Tolerates funnel.Untouched] (organizationId actorId : Id) (role : Role)
    (due : Due funnel.agreement (Law.anything.both known) point)
    (next : ∀ id time later, Due funnel.agreement (Law.anything.both (known.both
      (.records (.insert .memberships ⟨id, organizationId, actorId, role, .active, time⟩)))) later →
        post (.ok ()) later) :
    (addMembership organizationId actorId role).wp funnel.agreement post point := by
  unfold addMembership
  rw [wp_uid_bind]
  intro id
  rw [wp_now_bind]
  intro time
  exact next id.1 time _ (due.noted funnel.Untouched
    (.insert .memberships ⟨id.1, organizationId, actorId, role, .active, time⟩) rfl)

/-- An order with another panel account. -/
abbrev Attached (order attached : PanelOrder) : Prop :=
  attached = { order with
    adminUsername := attached.adminUsername, pgAdminId := attached.pgAdminId }

/-- The panel account that arrives with the approval is written with the order. -/
theorem settles_attachAdmin [known.Steady] (order : PanelOrder) (attach : Option OrderApproveIn)
    (rest : PanelOrder → Op β)
    (due : Due funnel.agreement (Law.anything.both ((funnel.marked []).both known)) point)
    (next : ∀ (assigned : List PanelOrderColumns) (attached : PanelOrder)
      (later : Point Database), Attached order attached →
      @Layout.changes layout .orders assigned order = attached →
      Due funnel.agreement (Law.anything.both
        ((funnel.marked (assigned.map (.update .orders order.id ·))).both known)) later →
        funnel.Settles (rest attached) later) :
    funnel.Settles (attachAdmin order attach >>= rest) point := by
  unfold attachAdmin
  rw [Settles, wp_bind, wp_branch]
  refine ⟨fun _ => next [] order point rfl rfl due, fun attach _ => ?_⟩
  dsimp only
  rw [wp_assign_bind]
  let columns : PanelOrderColumns :=
    { pgAdminId := some attach.pgAdminId
      adminUsername := some (PythonText.truncate 80
        (PythonText.strip (attach.adminUsername.getD ""))) }
  refine next [columns] _ _ rfl rfl (due.add fun later _ kept => ⟨trivial, ?_, ?_⟩)
  · have nothing := kept.2.1
    unfold Concern.marked at nothing ⊢
    rw [← List.append_assoc, List.filter_append, nothing]
    rfl
  · exact Law.Steady.grow (List.Subset.refl _)
      (by rw [← List.append_assoc]; exact List.sublist_append_left _ _) kept.2.2

/-- Approving an order together with its account. -/
theorem due_approve {order attached : PanelOrder} {assigned : List PanelOrderColumns}
    {childId contractId membershipId reviewerId sellerId : Id} {joined time : Time}
    (same : Attached order attached)
    (changed : @Layout.changes layout .orders assigned order = attached)
    (allowed : .approved ∈ orderFlow order.status)
    (due : Due funnel.agreement (Law.anything.both
      (((((funnel.marked (assigned.map (.update .orders order.id ·))).both
        ((held .orders order.id order).both (.fact (Sells order.panelId sellerId)))).both
      (.records (.insert .organizations ⟨childId, some sellerId, attached.businessName,
        attached.slug, .active, attached.creditLimitIrr, 5⟩))).both
      (.records (.insert .contracts
        ⟨contractId, sellerId, childId, attached.pricePerGibIrr, .active⟩))).both
      (.records (.insert .memberships
        ⟨membershipId, childId, attached.actorId, .customer, .active, joined⟩)))) point) :
    Due funnel.agreement funnel.law { point with
      pending := point.pending ++ [.update .orders attached.id
        { status := some .approved, organizationId := some (some childId)
          decidedBy := some (some reviewerId), decidedAt := some (some time) }] } := by
  obtain ⟨adminUsername, pgAdminId, rfl⟩ : ∃ (adminUsername : String) (pgAdminId : Option Int),
      attached = { order with adminUsername, pgAdminId } := ⟨_, _, same⟩
  have ready : Due funnel.agreement
      ((funnel.marked (assigned.map (.update .orders order.id ·))).both
        ((held .orders order.id order).both _)) point :=
    due.weaken fun _ _ _ _ kept => ⟨kept.2.1.1.1.1, kept.2.1.1.1.2.1, kept⟩
  refine due_step ready _ fun later holds knows => ?_
  obtain ⟨_, ⟨⟨⟨_, _, sells⟩, opened⟩, agreed⟩, enrolled⟩ := knows
  rw [Layout.changes_append, changed]
  exact .approved _ reviewerId time adminUsername pgAdminId allowed
    { organization := opened, name := rfl, slug := rfl, credit := rfl
      contract := ⟨_, agreed, rfl, rfl, sells⟩, membership := ⟨_, enrolled, rfl, rfl, rfl⟩ }

/-- The order becomes an account: its organization, its contract and its requester's membership
are written together with its approval. -/
theorem settles_approvePanelOrder (env : Env) {order : PanelOrder} (reviewerId sellerId : Id)
    (attach : Option OrderApproveIn)
    (due : Due funnel.agreement (Law.unwritten.both (held .orders order.id order)) point) :
    funnel.Settles (approvePanelOrder env order reviewerId sellerId attach) point := by
  unfold approvePanelOrder requireTransition
  refine settles_assertOrderSeller order sellerId _ due fun _ due => ?_
  rw [Settles, wp_require_bind]
  refine ⟨fun allowed => ?_, fun _ => due.free⟩
  have unmarked : Due funnel.agreement (Law.anything.both ((funnel.marked []).both
      ((held .orders order.id order).both (.fact (Sells order.panelId sellerId))))) _ :=
    due.weaken fun _ _ _ _ kept => ⟨trivial, by rw [Concern.marked, kept.1]; rfl, kept.2⟩
  refine settles_attachAdmin order attach _ unmarked fun assigned attached _ same changed due => ?_
  refine settles_knowing _ _ due fun _ _ due => ?_
  refine settles_knowing _ _ due fun panel _ due => ?_
  rw [Settles, wp_get_bind]
  intro _ rely
  have moved := due.rely rely
  rw [wp_found_bind]
  refine ⟨fun parent stored => ?_, fun _ => moved.free⟩
  obtain rfl : parent.id = sellerId := Option.some.inj (Db.find_mem stored).2
  refine settles_knowing _ _ moved fun _ _ due => ?_
  refine settles_knowing _ _ due fun _ _ due => ?_
  rw [Settles, wp_bind]
  refine wp_openChild_records parent.id _ _ _ _ due (fun childId contractId _ due => ?_)
    fun _ _ free => free
  refine (wp_bind _ _ _).mpr (wp_addMembership_records childId attached.actorId .customer due
    fun membershipId joined _ due => ?_)
  refine settles_knowing _ _ due fun _ _ due => ?_
  refine settles_knowing _ _ due fun _ _ due => ?_
  refine settles_knowing _ _ due fun time _ due => ?_
  rw [Settles, wp_assign_bind]
  exact settles_last _ (due_approve same changed allowed due)

theorem approveOrder_meets (env : Env) (identity : TelegramIdentity) (orderId : Id)
    (attach : OrderApproveIn) :
    funnel.agreement.Meets (served (approveOrder env identity orderId attach)) := by
  refine meets_of_settles fun store due => settles_after ?_ _
  unfold approveOrder
  refine settles_reading _ _ due fun caller _ due => ?_
  refine settles_lockedOrder orderId .approved _ due fun order _ due => ?_
  exact settles_after (settles_approvePanelOrder env _ _ _ due) _

theorem reviewerOrderAction_meets (env : Env) (chatId : Int) (orderId : Id) (approve : Bool)
    (reason : String) (attach : Option OrderApproveIn) :
    funnel.agreement.Meets
      (served (Bot.reviewerOrderAction env chatId orderId approve reason attach)) := by
  refine meets_of_settles fun store due => settles_after ?_ _
  unfold Bot.reviewerOrderAction
  refine settles_reading _ _ due fun caller _ due => ?_
  refine settles_withSession (settles_after (settles_translated ?_ _) _)
  refine settles_lockedOrder orderId _ _ due fun order _ due => ?_
  cases approve with
  | true => exact settles_after (settles_approvePanelOrder env _ _ _ due) _
  | false => exact settles_rejectPanelOrder _ _ reason due

/-! ## Every session -/

instance (changes : List (Id × OutboxColumns)) :
    Sustains funnel.agreement funnel.Untouched funnel.law (moveEvents changes) := by
  unfold moveEvents
  infer_instance

theorem meets_of_keeps (program : Op α)
    [Sustains funnel.agreement funnel.Untouched funnel.law program] :
    funnel.agreement.Meets (served program) :=
  meets_of_sustains _

end Funnel

open Funnel in
/-- Every session of the system writes lawfully about orders. -/
theorem SystemOperation.meets_funnel {env : Env} {packages : Packages} {traffic : Traffic}
    {program : Prog Database (Except Failure Unit)}
    (operation : SystemOperation env packages traffic program) :
    funnel.agreement.Meets program := by
  cases operation with
  | createOrder identity data => exact createOrder_meets env identity data
  | botPlaceOrder chatId data => exact placeOrder_meets chatId data
  | confirmOrder identity orderId => exact customerRoute_meets env identity orderId rfl
  | declarePayment identity orderId => exact customerRoute_meets env identity orderId rfl
  | cancelOrder identity orderId => exact customerRoute_meets env identity orderId rfl
  | botCustomerOrder chatId orderId toStatus own =>
      exact customerOrderAction_meets chatId orderId own
  | quoteOrder identity orderId data => exact quoteOrder_meets env identity orderId data
  | botApplyQuote chatId orderId data => exact applyQuote_meets env chatId orderId data
  | rejectOrder identity orderId reason => exact rejectOrder_meets env identity orderId reason
  | approveOrder identity orderId attach => exact approveOrder_meets env identity orderId attach
  | botReviewOrder chatId orderId approve reason attach =>
      exact reviewerOrderAction_meets env chatId orderId approve reason attach
  | webCategoryStatus identity categoryId status =>
      exact meets_of_keeps (catalogStatusRoute env identity .category categoryId status)
  | webPlanStatus identity planId status =>
      exact meets_of_keeps (catalogStatusRoute env identity .plan planId status)
  | handle handler event handles =>
      have kept : Sustains funnel.agreement funnel.Untouched funnel.law (handler event) :=
        sustains_handler handles event
      exact meets_of_keeps (handler event)
  | _ => exact meets_of_keeps _

/-! ## Runs -/

section

variable {ι : Type} [DecidableEq ι] {env : Env} {packages : Packages} {traffic : Traffic}
  {store : Db} {world : World Database ι (Except Failure Unit)}

theorem FunnelHolds.reachable (opening : FunnelHolds store)
    (reached : World.Reachable (SystemOperation env packages traffic) store world) :
    FunnelHolds world.store :=
  funnel.inv_reachable (fun _ operation => operation.meets_funnel) opening reached

/-- Orders proceed along the flow from any time on: what was asked for stays, what was quoted stays
once the order has left its first status, and a decided order stays as it is. -/
theorem orders_proceed (opening : FunnelHolds store)
    (reached : World.Reachable (SystemOperation env packages traffic) store world)
    {earlier : Db} (past : World.Past store world earlier) :
    ∀ order ∈ earlier.orders, ∃ kept ∈ Db.orders world.store, order.Proceeds kept :=
  (funnel.le_since (fun _ operation => operation.meets_funnel) opening reached past).orders

/-- An order is approved exactly if it has become an organization with the terms of the order, and
no two orders become the same one. -/
theorem accounts_of_orders (opening : FunnelHolds store)
    (reached : World.Reachable (SystemOperation env packages traffic) store world)
    {order : PanelOrder} (member : order ∈ Db.orders world.store) :
    (order.status = .approved ↔ ∃ child, order.Opened world.store child) ∧
      ∀ child, order.Opened world.store child → ∀ other ∈ Db.orders world.store,
        other.organizationId = some child.id → other = order := by
  have holds := opening.reachable reached
  refine ⟨⟨(holds.accounted order member).approved, ?_⟩, ?_⟩
  · rintro ⟨child, opened⟩
    by_contra other
    have nothing := (holds.accounted order member).unopened other
    rw [opened.own] at nothing
    cases nothing
  · intro child opened other present same
    have approved : other.status = .approved := by
      by_contra unopened
      have nothing := (holds.accounted other present).unopened unopened
      rw [same] at nothing
      cases nothing
    obtain ⟨its, theirs⟩ := (holds.accounted other present).approved approved
    have own : its.id = child.id := Option.some.inj (theirs.own.symm.trans same)
    obtain rfl := holds.integrity.eq_of_key Table.organizations theirs.organization
      (congrArg some own) opened.organization rfl
    have slug : other.slug = order.slug := theirs.slug.symm.trans opened.slug
    exact holds.integrity.eq_of_entry Table.orders present rfl (List.mem_singleton_self _)
      member rfl (slug ▸ List.mem_singleton_self _)

/-! ### A sale -/

/-- The sample workspace has no orders yet. -/
theorem Sample.funnelHolds : FunnelHolds Sample.workspace where
  integrity := Sample.integrity
  accounted := by
    unfold Sample.workspace
    exact fun order member => absurd member List.not_mem_nil

/-- A seller is hired, and an order is placed, quoted and confirmed, and its payment declared. -/
theorem Sample.paid_reachable : ∃ last : World Database Unit (Except Failure Unit), last.Quiet ∧
    World.Reachable (SystemOperation Sample.env Sample.packages (.ofCallers fun _ => True))
      Sample.workspace last ∧ last.store = Sample.paid 9 Sample.hired := by
  have quiet : (World.initial Sample.workspace : World Database Unit (Except Failure Unit)).Quiet :=
    fun _ => rfl
  obtain ⟨first, reached, quiet, hired⟩ := quiet_served quiet .refl () Sample.answers
    (SystemOperation.bindActor ⟨11, "Seller", "shop", .resellerAdmin⟩ (by decide) :
      SystemOperation Sample.env Sample.packages (.ofCallers fun _ => True) _)
  obtain ⟨second, reached, quiet, placed⟩ := quiet_served quiet reached () (Sample.answersFrom 9)
    (SystemOperation.createOrder ⟨12, "Buyer"⟩ ⟨"panel", none, "Corner", 10, 5, ""⟩ trivial)
  obtain ⟨third, reached, quiet, quoted⟩ := quiet_served quiet reached () Sample.answers
    (SystemOperation.quoteOrder ⟨11, "Seller"⟩ Sample.orderId ⟨500, 0, 100, "card", none⟩ trivial)
  obtain ⟨fourth, reached, quiet, confirmed⟩ := quiet_served quiet reached () Sample.answers
    (SystemOperation.confirmOrder ⟨12, "Buyer"⟩ Sample.orderId trivial)
  obtain ⟨last, reached, quiet, paid⟩ := quiet_served quiet reached () Sample.answers
    (SystemOperation.declarePayment ⟨12, "Buyer"⟩ Sample.orderId trivial)
  refine ⟨last, quiet, reached, ?_⟩
  rw [paid, confirmed, quoted, placed, show Sample.hired = first.store from hired.symm]
  rfl

/-- The only order of the sample is paid, then approved. -/
theorem Sample.sold_statuses :
    (paid 9 hired).orders.map PanelOrder.status = [.paymentDeclared] ∧
      (Db.orders ((approveOrder Sample.env ⟨11, "Seller"⟩ orderId ⟨some 8, none⟩).serve
        (answersFrom 20) (paid 9 hired)).2).map PanelOrder.status = [.approved] := by
  decide +kernel

/-- The paid order of the sample is approved. -/
theorem orders_proceed_approved :
    ∃ world : World Database Unit (Except Failure Unit),
      World.Reachable (SystemOperation Sample.env Sample.packages (.ofCallers fun _ => True))
          (Sample.paid 9 Sample.hired) world ∧
        ∃ order ∈ (Sample.paid 9 Sample.hired).orders, order.status = .paymentDeclared ∧
          ∃ kept ∈ Db.orders world.store, order.Proceeds kept ∧ kept.status = .approved := by
  obtain ⟨before, _, paid, same⟩ := Sample.paid_reachable
  have holds := Sample.funnelHolds.reachable paid
  rw [same] at holds
  obtain ⟨world, reached, sold⟩ := World.reachable_run () (Sample.answersFrom 20)
    (SystemOperation.approveOrder ⟨11, "Seller"⟩ Sample.orderId ⟨some 8, none⟩ trivial :
      SystemOperation Sample.env Sample.packages (.ofCallers fun _ => True) _)
    (Sample.paid 9 Sample.hired)
  rw [served_run] at sold
  obtain ⟨declared, approved⟩ := Sample.sold_statuses
  rw [← sold] at approved
  obtain ⟨order, member, status⟩ : ∃ order ∈ (Sample.paid 9 Sample.hired).orders,
      order.status = .paymentDeclared := by
    rw [← List.mem_map, declared]
    exact List.mem_singleton_self _
  obtain ⟨kept, present, proceeds⟩ := orders_proceed holds reached (.inl rfl) order member
  refine ⟨world, reached, order, member, status, kept, present, proceeds, ?_⟩
  have listed := List.mem_map_of_mem (f := PanelOrder.status) present
  rw [approved] at listed
  exact List.mem_singleton.mp listed

/-- The approved order of the sample is an organization. -/
theorem accounts_of_orders_approved :
    ∃ world : World Database Unit (Except Failure Unit),
      World.Reachable (SystemOperation Sample.env Sample.packages (.ofCallers fun _ => True))
          Sample.workspace world ∧
        ∃ order ∈ Db.orders world.store, ∃ child, order.Opened world.store child := by
  obtain ⟨before, quiet, reached, paid⟩ := Sample.paid_reachable
  obtain ⟨world, reached, _, sold⟩ := quiet_served quiet reached () (Sample.answersFrom 20)
    (SystemOperation.approveOrder ⟨11, "Seller"⟩ Sample.orderId ⟨some 8, none⟩ trivial)
  have approved : (Db.orders world.store).map PanelOrder.status = [.approved] := by
    rw [sold, paid]
    exact Sample.sold_statuses.2
  obtain ⟨order, member, status⟩ : ∃ order ∈ Db.orders world.store, order.status = .approved := by
    rw [← List.mem_map, approved]
    exact List.mem_singleton_self _
  exact ⟨world, reached, order, member,
    (accounts_of_orders Sample.funnelHolds reached member).1.mp status⟩

end

end ControlPlane
