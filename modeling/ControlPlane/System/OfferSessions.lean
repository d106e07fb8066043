import ControlPlane.Decisions.Sessions
import ControlPlane.Identity.Customers
import ControlPlane.System.Discipline
import ControlPlane.Upholding
import ControlPlane.WebApi.Offers

/-!
# Sessions about the orders of a plan

A session that places an order reads the plan first, and one that prices or
approves an order locks its row first. What each of them writes is lawful.
-/

namespace ControlPlane

open ReadCommitted Orm

namespace Offer

/-! ## The agreement -/

/-- Every commit is lawful, and leads to one of the stores of the run. -/
def agreement (offer : Offer) : Agreement Database where
  inv := offer.Holds
  le := Orders
  commit _ log db := acceptsAll (S := Database) log db = true ∧
    offer.Lawful log db (log.filter touches)
  excluded log db := ¬offer.past (replay (S := Database) log db)
  le_refl := .refl
  le_trans := .trans
  inv_replay holds committed permitted :=
    holds.replay committed.1 committed.2 (not_not.mp permitted)

/-- A statement that does not change what an order gets. -/
def Untouched (statement : Database.Write) : Prop := touches statement = false

/-- The law of a session at its commit. -/
def law (offer : Offer) : Law Database := fun _ log db =>
  offer.Lawful log db (log.filter touches)

/-- The law of a session that has touched nothing yet. -/
def idle : Law Database := fun _ log _ => log.filter touches = []

/-- The law of a session that has written nothing yet. -/
def unwritten : Law Database := fun _ log _ => log = []

variable {offer : Offer} {point : Point Database}

theorem filter_untouched {statement : Database.Write} (untouched : Untouched statement)
    (first last : List Database.Write) :
    (first ++ statement :: last).filter touches = (first ++ last).filter touches := by
  rw [List.filter_append, List.filter_cons_of_neg (by simpa [Untouched] using untouched),
    ← List.filter_append]

instance : offer.agreement.Shared where
  le_replay _ committed _ := orders_stay committed.2 _

instance : OffPanel offer.agreement := ⟨fun _ _ => trivial⟩

instance (query : Query) : offer.agreement.Asks query := ⟨trivial⟩

instance : offer.agreement.Sanctions Untouched offer.law where
  held _ lawful := lawful
  benign {_ first last statement _} untouched lawful := by
    unfold law at *
    rw [filter_untouched untouched]
    refine lawful.grow fun other member => ?_
    rcases List.mem_append.mp member with early | late
    · exact List.mem_append_left _ early
    · exact List.mem_append_right _ (List.mem_cons_of_mem _ late)
  nil _ := .none
  commit _ accepted lawful := ⟨accepted, lawful⟩

instance : idle.Tolerates Untouched where
  held _ nothing := nothing
  benign untouched nothing := by
    unfold idle at *
    rwa [filter_untouched untouched]

instance : offer.agreement.Starts Untouched idle where
  nil _ := rfl

instance : offer.agreement.Starts (fun _ => False) unwritten where
  held _ nothing := nothing
  benign benign := benign.elim
  nil _ := rfl

instance (known : Law Database) [known.Steady] : known.Tolerates Untouched :=
  Law.Steady.tolerates known Untouched

instance : Everyday Untouched where
  daily statement daily := by
    cases statement with
    | insert table row =>
        cases table with
        | orders => exact absurd (show _ ∈ dailyTables from daily) (by decide)
        | _ => rfl
    | update table key columns =>
        cases table with
        | orders => exact absurd (show _ ∨ _ from daily) (by decide)
        | _ => rfl
    | delete table key =>
        rcases (show table = .planCategories ∨ table = .plans from daily) with rfl | rfl <;> rfl

instance : Admitted Untouched .outbox := ⟨fun _ => rfl, fun _ _ => rfl⟩
instance : Admitted Untouched .contracts := ⟨fun _ => rfl, fun _ _ => rfl⟩
instance : Admitted Untouched .transactions := ⟨fun _ => rfl, fun _ _ => rfl⟩
instance : Admitted Untouched .entries := ⟨fun _ => rfl, fun _ _ => rfl⟩
instance : Admitted Untouched .usages := ⟨fun _ => rfl, fun _ _ => rfl⟩
instance : Admitted Untouched .organizations := ⟨fun _ => rfl, fun _ _ => rfl⟩
instance : Admitted Untouched .approvals := ⟨fun _ => rfl, fun _ _ => rfl⟩
instance : Admitted Untouched .memberships := ⟨fun _ => rfl, fun _ _ => rfl⟩
instance : Admitted Untouched .bindings := ⟨fun _ => rfl, fun _ _ => rfl⟩
instance : Insertable Untouched .contracts := ⟨fun _ => rfl⟩
instance : Insertable Untouched .organizations := ⟨fun _ => rfl⟩
instance : Insertable Untouched .planCategories := ⟨fun _ => rfl⟩
instance : Insertable Untouched .plans := ⟨fun _ => rfl⟩
instance : Insertable Untouched .bindings := ⟨fun _ => rfl⟩
instance : Insertable Untouched .fundingRequests := ⟨fun _ => rfl⟩
instance : Amended Untouched .organizations := ⟨fun _ _ => rfl⟩
instance : Amended Untouched .panels := ⟨fun _ _ => rfl⟩
instance (role : Role) : Enrolls Untouched role := ⟨fun _ _ _ _ => rfl⟩
instance (packages : Packages) : Registers Untouched packages := ⟨fun _ _ _ => rfl⟩
instance : Suspends Untouched := ⟨fun _ => rfl⟩

/-- A session that has touched nothing may commit. -/
theorem due_of_idle (due : Due offer.agreement idle point) :
    Due offer.agreement offer.law point :=
  due.weaken fun _ log _ _ (nothing : log.filter touches = []) => by
    unfold law
    rw [nothing]
    exact .none

/-- A session that has written nothing has touched nothing. -/
theorem due_of_unwritten (due : Due offer.agreement unwritten point) :
    Due offer.agreement idle point :=
  due.weaken fun _ log _ _ (nothing : log = []) => by
    rw [nothing]
    rfl

/-- A program after which the session may commit. -/
abbrev Settles (offer : Offer) (program : Op α) (point : Point Database) : Prop :=
  program.wp offer.agreement (fun _ last => Due offer.agreement offer.law last) point

/-! ## Sequences -/

/-- Steps that only read. -/
theorem settles_reading (program : Op α)
    [Sustains offer.agreement (fun _ => False) unwritten program] (rest : α → Op β)
    (due : Due offer.agreement unwritten point)
    (next : ∀ value later, Due offer.agreement unwritten later → offer.Settles (rest value) later) :
    offer.Settles (program >>= rest) point :=
  wp_seq _ (wp_sustains (fun _ => False) program due) next
    fun _ _ kept => due_of_idle (due_of_unwritten kept)

/-- Steps that touch nothing, while something is known. -/
theorem settles_knowing {known : Law Database} (program : Op α)
    [Upholds offer.agreement Untouched idle known program] (rest : α → Op β)
    (due : Due offer.agreement (idle.both known) point)
    (next : ∀ value later, Due offer.agreement (idle.both known) later →
      offer.Settles (rest value) later) : offer.Settles (program >>= rest) point :=
  wp_seq _ (wp_upholds Untouched program due) next fun _ _ kept => due_of_idle kept

/-- A session that settles from its beginning meets the agreement. -/
theorem meets_of_settles {program : Op α}
    (settles : ∀ store, Due offer.agreement unwritten ⟨[], [], [], store⟩ →
      offer.Settles program ⟨[], [], [], store⟩) :
    offer.agreement.Meets (served program) :=
  Agreement.meets_session fun store holds =>
    wp_seq _ (settles store (.fresh (fun _ => False) holds)) (fun _ _ _ => trivial)
      fun _ _ _ => trivial

/-- A session that touches nothing meets the agreement. -/
theorem meets_of_sustains (program : Op α)
    [Sustains offer.agreement Untouched offer.law program] :
    offer.agreement.Meets (served program) :=
  Sustains.meets _ Untouched offer.law (program >>= fun _ => pure ())

/-! ## Placing an order -/

/-- Since a moment no order is forgotten. -/
abbrev since (moment : Db) : Law Database := Law.fact (Orders moment)

/-- Whatever is read stands in a committed store. -/
theorem due_since {law : Law Database} (due : Due offer.agreement law point) :
    Due offer.agreement (law.both (since point.store)) point :=
  ⟨due.inv, due.covered, due.accepted, fun later rely => ⟨due.law later rely, rely.le⟩⟩

/-- The plan of an order is read before anything is written, as it stands in a committed store. -/
theorem settles_pricedPlan (panel : Panel) (planId : Option Id) (rest : Option Plan → Op β)
    (due : Due offer.agreement unwritten point)
    (next : ∀ plan moment later, Due offer.agreement (idle.both (since moment)) later →
      (∀ known, plan = some known → known.id = offer.planId →
        offer.past moment ∧ known ∈ moment.plans) → offer.Settles (rest plan) later) :
    offer.Settles (pricedPlan panel planId >>= rest) point := by
  unfold pricedPlan
  rw [Settles, wp_bind, wp_branch]
  refine ⟨fun _ => next none _ point (due_since (due_of_unwritten due)) (by rintro _ ⟨⟩),
    fun own _ => ?_⟩
  rw [wp_get_bind]
  intro later rely
  have moved := due.rely rely
  rw [wp_found_bind]
  refine ⟨fun plan found => ?_, fun _ => due_of_idle (due_of_unwritten moved)⟩
  have stood : offer.past later ∧ plan ∈ later.plans := by
    have nothing : point.log = [] := (List.append_eq_nil_iff.mp moved.now).1
    have stored := (Option.filter_eq_some_iff.mp found).1
    rw [nothing] at stored
    exact ⟨rely.inv.past, (Db.find_mem stored).1⟩
  have shelf : Upholds offer.agreement Untouched idle (since later)
      (branch (plan.categoryId.filter (· ≠ "")) (pure ()) (requireOpenShelf plan)) := by
    unfold requireOpenShelf
    infer_instance
  refine wp_seq _ (wp_upholds Untouched _ (due_since (due_of_unwritten moved)))
    (fun _ last kept => ?_) fun _ _ kept => due_of_idle kept
  refine next (some plan) later last kept fun known same _ => ?_
  rw [← Option.some.inj same]
  exact stood

/-- A new order is lawful. -/
theorem due_place {id actorId : Id} {panel : Panel} {slug : String} {data : OrderIn}
    {plan : Option Plan} {moment : Db} (due : Due offer.agreement (idle.both (since moment)) point)
    (stood : ∀ known, plan = some known → known.id = offer.planId →
      offer.past moment ∧ known ∈ moment.plans) :
    Due offer.agreement offer.law { point with
      pending := point.pending ++ [.insert .orders (orderRow id actorId panel slug data plan)] } :=
  due.add fun _ _ kept => by
    obtain ⟨nothing, lasting⟩ := kept
    unfold idle at nothing
    unfold law
    rw [← List.append_assoc, List.filter_append, nothing, List.nil_append,
      List.filter_cons_of_pos rfl]
    refine .place id actorId panel slug data plan fun known same own =>
      ⟨own, moment, ?_, ?_, lasting⟩
    · exact (stood known same own).1
    · exact (stood known same own).2

section

variable {known : Law Database} [known.Steady]

instance (telegramId : Int) (displayName : String) : Upholds offer.agreement Untouched idle known
    (requesterActorCreated telegramId displayName) := by
  unfold requesterActorCreated requesterActor
  infer_instance

instance (attempts : Nat) : Upholds offer.agreement Untouched idle known (orderSlug attempts) := by
  induction attempts with
  | zero => exact Upholds.throw _
  | succ attempts inductionHypothesis =>
      have consulted : Upholds (α := no_index String) offer.agreement Untouched idle known
          (consult .tokenHex) :=
        ⟨fun _ due => ⟨trivial, fun _ => due⟩⟩
      have tried : ∀ (token : String) (ordered : Option PanelOrder) (opened : Option Organization),
          Upholds offer.agreement Untouched idle known
            (if ordered = none ∧ opened = none then pure ("panel-" ++ token) else
              orderSlug attempts) := by
        intro token ordered opened
        split <;> infer_instance
      unfold orderSlug
      infer_instance

instance : Upholds offer.agreement Untouched idle known uniqueOrderSlug :=
  inferInstanceAs (Upholds offer.agreement Untouched idle known (orderSlug 20))

end

theorem settles_createPanelOrder (telegramId : Int) (displayName : String) (data : OrderIn)
    (due : Due offer.agreement unwritten point) :
    offer.Settles (createPanelOrder telegramId displayName data) point := by
  have panelled : Sustains offer.agreement (fun _ => False) unwritten
      (saleablePanel data.panelId) := by
    unfold saleablePanel
    infer_instance
  unfold createPanelOrder
  refine settles_reading _ _ due fun panel _ due => ?_
  refine settles_pricedPlan panel data.planId _ due fun plan moment _ due stood => ?_
  refine settles_knowing _ _ due fun actorId _ due => ?_
  refine settles_knowing _ _ due fun slug _ due => ?_
  rw [Settles, wp_uid_bind]
  intro id
  dsimp only
  rw [wp_insert_bind]
  exact wp_sustains Untouched _ (due_place due stood)

theorem createOrder_meets (env : Env) (identity : TelegramIdentity) (data : OrderIn) :
    offer.agreement.Meets (served (createOrder env identity data)) := by
  have permitted : Sustains offer.agreement (fun _ => False) unwritten
      (orderPermission env identity .orderPanel) := by
    unfold orderPermission
    infer_instance
  refine meets_of_settles fun store due => ?_
  unfold createOrder
  refine settles_reading _ _ due fun _ _ due => ?_
  exact wp_after Untouched (settles_createPanelOrder identity.userId identity.firstName data due) _

theorem placeOrder_meets (chatId : Int) (data : OrderIn) :
    offer.agreement.Meets (served (Bot.placeOrder chatId data)) := by
  refine meets_of_settles fun store due => ?_
  unfold Bot.placeOrder
  refine wp_withSession Untouched (wp_replying ?_)
  exact wp_after Untouched (settles_createPanelOrder chatId data.businessName data due) _

/-! ## Locked orders -/

/-- Assigning a status that is not the first one touches nothing. -/
theorem untouched_columns {key : Id} {columns : PanelOrderColumns}
    (credit : columns.creditLimitIrr = none) (amount : columns.amountIrr = none)
    (organization : columns.organizationId = none) (status : columns.status ≠ some .pending) :
    Untouched (.update .orders key columns) := by
  change (columns.creditLimitIrr.isSome || columns.amountIrr.isSome ||
    columns.organizationId.isSome || decide (columns.status = some .pending)) = false
  rw [credit, amount, organization, decide_eq_false status]
  rfl

/-- A session locks an order that may go on to a status, and has touched nothing. -/
theorem settles_lockedOrder (orderId : Id) (toStatus : OrderStatus) (rest : PanelOrder → Op β)
    (due : Due offer.agreement unwritten point)
    (next : ∀ order later, toStatus ∈ orderFlow order.status → order.id = orderId →
      Due offer.agreement (idle.both (held .orders orderId order)) later →
        offer.Settles (rest order) later) :
    offer.Settles (lockedOrder orderId toStatus >>= rest) point := by
  have nothing : point.log = [] := (List.append_eq_nil_iff.mp due.now).1
  have marked : Due offer.agreement ((Law.fact fun _ => True).marks touches []) point :=
    (due_of_unwritten due).weaken fun _ _ _ _ idle => ⟨trivial, idle⟩
  unfold lockedOrder requireTransition
  rw [Settles, wp_bind]
  refine wp_getForUpdate_due .orders orderId _ marked nothing
    fun result later _ absent present => ?_
  rw [wp_found_bind]
  refine ⟨fun order found => ?_, fun missing => ?_⟩
  · have known : Due offer.agreement (idle.both (held .orders orderId order)) later :=
      (present order found).weaken fun _ _ _ _ kept => ⟨kept.2, kept.1.2⟩
    have own : order.id = orderId := Option.some.inj (Db.find_mem known.now.2.2).2
    rw [wp_require_bind]
    exact ⟨fun allowed => next order later allowed own known, fun _ => due_of_idle known.plain⟩
  · refine due_of_idle ((absent missing).weaken fun _ _ _ _ kept => kept.2)

/-- The later steps of the requester. -/
theorem sustains_advance (order : PanelOrder) {toStatus : OrderStatus}
    (other : toStatus ≠ .pending) :
    Sustains offer.agreement Untouched offer.law (advanceCustomerOrder order toStatus) := by
  have assigned : Sustains offer.agreement Untouched offer.law
      (assign .orders order.id { status := some toStatus }) :=
    Sustains.add (untouched_columns rfl rfl rfl fun same => other (Option.some.inj same))
  unfold advanceCustomerOrder
  infer_instance

instance (order : PanelOrder) (reviewerId organizationId : Id) (reason : String) :
    Sustains offer.agreement Untouched offer.law
      (rejectPanelOrder order reviewerId organizationId reason) := by
  have assigned : ∀ time, Sustains offer.agreement Untouched offer.law
      (assign .orders order.id
        { status := some .rejected, rejectionReason := some reason
          decidedBy := some (some reviewerId), decidedAt := some (some time) }) := fun time =>
    Sustains.add (untouched_columns rfl rfl rfl (by rintro ⟨⟩))
  unfold rejectPanelOrder
  infer_instance

theorem customerRoute_meets (env : Env) (identity : TelegramIdentity) (orderId : Id)
    {toStatus : OrderStatus} (other : toStatus ≠ .pending) :
    offer.agreement.Meets (served (customerRoute env identity orderId toStatus)) := by
  have advanced : ∀ order, Sustains offer.agreement Untouched offer.law
      (advanceCustomerOrder order toStatus) := fun order => sustains_advance order other
  have body : Sustains offer.agreement Untouched offer.law
      (customerRoute env identity orderId toStatus) := by
    unfold customerRoute orderPermission ownedOrder
    infer_instance
  exact meets_of_sustains _

theorem customerOrderAction_meets (chatId : Int) (orderId : Id) {status : OrderStatus}
    (other : status ≠ .pending) :
    offer.agreement.Meets (served (Bot.customerOrderAction chatId orderId status)) := by
  have advanced : ∀ order, Sustains offer.agreement Untouched offer.law
      (advanceCustomerOrder order status) := fun order => sustains_advance order other
  have body : Sustains offer.agreement Untouched offer.law
      (Bot.customerOrderAction chatId orderId status) := by
    unfold Bot.customerOrderAction
    infer_instance
  exact meets_of_sustains _

/-! ## Pricing an order -/

/-- An order that may be priced is not of the plan. -/
theorem due_quote {order : PanelOrder} (allowed : .quoted ∈ orderFlow order.status)
    (due : Due offer.agreement (idle.both (held .orders order.id order)) point)
    (columns : PanelOrderColumns) :
    Due offer.agreement offer.law { point with
      pending := point.pending ++ [.update .orders order.id columns] } := by
  refine ⟨due.inv, due.covered, due.accepted, fun later rely => ?_⟩
  obtain ⟨nothing, _, stored⟩ := due.law later rely
  have lawful : offer.Lawful (point.log ++ point.pending ++ [.update .orders order.id columns])
      later [.update .orders order.id columns] := by
    refine .quote order.id columns fun other member same own => ?_
    have found := Db.find_mem stored
    obtain rfl :=
      rely.inv.integrity.eq_of_key Table.orders member (congrArg some same) found.1 found.2
    have started : other.status = .pending := by
      cases status : other.status <;> rw [status] at allowed <;> simp [orderFlow] at allowed ⊢
    exact (rely.inv.priced other member own).2 started
  unfold idle at nothing
  unfold law
  rw [← List.append_assoc, List.filter_append, nothing, List.nil_append]
  cases touched : touches (.update .orders order.id columns) with
  | true =>
      rw [List.filter_cons_of_pos touched]
      exact lawful
  | false =>
      rw [List.filter_cons_of_neg (by simp [touched])]
      exact .none

theorem settles_quotePanelOrder {order : PanelOrder} (allowed : .quoted ∈ orderFlow order.status)
    (data : OrderQuoteIn) (reviewerId organizationId : Id)
    (due : Due offer.agreement (idle.both (held .orders order.id order)) point) :
    offer.Settles (quotePanelOrder order data reviewerId organizationId) point := by
  unfold quotePanelOrder
  refine settles_knowing _ _ due fun _ _ due => ?_
  refine settles_knowing _ _ due fun _ _ due => ?_
  rw [Settles, wp_assign_bind]
  exact wp_sustains Untouched _ (due_quote allowed due _)

theorem quoteOrder_meets (env : Env) (identity : TelegramIdentity) (orderId : Id)
    (data : OrderQuoteIn) :
    offer.agreement.Meets (served (quoteOrder env identity orderId data)) := by
  refine meets_of_settles fun store due => ?_
  unfold quoteOrder
  refine settles_reading _ _ due fun caller _ due => ?_
  refine settles_lockedOrder orderId .quoted _ due fun order _ allowed own due => ?_
  subst own
  exact wp_after Untouched (settles_quotePanelOrder allowed data _ _ due) _

theorem applyQuote_meets (env : Env) (chatId : Int) (orderId : Id) (data : OrderQuoteIn) :
    offer.agreement.Meets (served (Bot.applyQuote env chatId orderId data)) := by
  refine meets_of_settles fun store due => ?_
  unfold Bot.applyQuote
  refine settles_reading _ _ due fun _ _ due => ?_
  refine settles_reading _ _ due fun caller _ due => ?_
  refine wp_withSession Untouched (wp_after Untouched (wp_replying ?_) _)
  refine settles_lockedOrder orderId .quoted _ due fun order _ allowed own due => ?_
  subst own
  exact settles_quotePanelOrder allowed data _ _ due

theorem rejectOrder_meets (env : Env) (identity : TelegramIdentity) (orderId : Id)
    (reason : String) :
    offer.agreement.Meets (served (rejectOrder env identity orderId reason)) := by
  have body : Sustains offer.agreement Untouched offer.law
      (rejectOrder env identity orderId reason) := by
    unfold rejectOrder
    infer_instance
  exact meets_of_sustains _

/-! ## Approving an order -/

/-- An organization is inserted. -/
def inserts (child : Organization) : Law Database := fun _ log _ =>
  .insert .organizations child ∈ log

instance (child : Organization) : (inserts child).Steady where
  grow _ longer inserted := longer.subset inserted

/-- The organization that is opened for an order stays on record. -/
theorem wp_openChild_inserts {known : Law Database} [known.Steady]
    {post : Except Failure Id → Point Database → Prop} (parentId : Id) (name slug : String)
    (creditLimitIrr pricePerGibIrr : Int)
    (due : Due offer.agreement (idle.both known) point)
    (next : ∀ id later, Due offer.agreement (idle.both (known.both
      (inserts ⟨id, some parentId, name, slug, .active, creditLimitIrr, 5⟩))) later →
        post (.ok id) later)
    (raised : ∀ exception later, Due offer.agreement idle later →
      post (.error exception) later) :
    (openChild parentId name slug creditLimitIrr pricePerGibIrr).wp offer.agreement post point := by
  unfold openChild
  rw [wp_uid_bind]
  intro id
  rw [wp_insert_bind]
  have opened : Due offer.agreement (idle.both (known.both
      (inserts ⟨id.1, some parentId, name, slug, .active, creditLimitIrr, 5⟩))) { point with
        pending := point.pending ++ [.insert .organizations
          ⟨id.1, some parentId, name, slug, .active, creditLimitIrr, 5⟩] } := by
    have untouched : Untouched (.insert .organizations
        ⟨id.1, some parentId, name, slug, .active, creditLimitIrr, 5⟩) := rfl
    have recorded := due.record untouched
    refine ⟨recorded.inv, recorded.covered, recorded.accepted, fun later rely => ?_⟩
    obtain ⟨nothing, kept⟩ := recorded.law later rely
    refine ⟨nothing, kept, ?_⟩
    exact List.mem_append_right _ (List.mem_append_right _ (List.mem_singleton_self _))
  refine wp_seq _ (wp_upholds Untouched _ opened) (fun _ _ due => ?_) raised
  refine wp_seq _ (wp_upholds Untouched _ due) (fun _ _ due => ?_) raised
  refine wp_seq _ (wp_upholds Untouched _ due) (fun _ _ due => ?_) raised
  refine wp_seq _ (wp_upholds Untouched _ due) (fun _ _ due => ?_) raised
  refine wp_seq _ (wp_upholds Untouched _ due) (fun _ _ due => ?_) raised
  refine wp_seq _ (wp_upholds Untouched _ due) (fun _ _ due => ?_) raised
  refine wp_seq _ (wp_upholds Untouched _ due) (fun _ _ due => ?_) raised
  exact next id.1 _ due

/-- The panel account that arrives with the approval is no price. -/
theorem settles_attachAdmin {known : Law Database} [known.Steady]
    (order : PanelOrder) (attach : Option OrderApproveIn) (rest : PanelOrder → Op β)
    (due : Due offer.agreement (idle.both known) point)
    (next : ∀ attached later, attached.id = order.id →
      attached.creditLimitIrr = order.creditLimitIrr →
      Due offer.agreement (idle.both known) later → offer.Settles (rest attached) later) :
    offer.Settles (attachAdmin order attach >>= rest) point := by
  unfold attachAdmin
  rw [Settles, wp_bind, wp_branch]
  refine ⟨fun _ => next order point rfl rfl due, fun attach _ => ?_⟩
  dsimp only
  rw [wp_assign_bind]
  have untouched : Untouched (.update .orders order.id
      { pgAdminId := some attach.pgAdminId
        adminUsername := some (PythonText.truncate 80
          (PythonText.strip (attach.adminUsername.getD ""))) }) :=
    untouched_columns rfl rfl rfl (by rintro ⟨⟩)
  exact next _ _ rfl rfl (due.record untouched)

/-- Approving an order with the organization that was opened for it. -/
theorem due_approve {order : PanelOrder} {child : Organization} {columns : PanelOrderColumns}
    (due : Due offer.agreement
      (idle.both ((held .orders order.id order).both (inserts child))) point)
    (credit : columns.creditLimitIrr = none) (amount : columns.amountIrr = none)
    (status : columns.status = some .approved)
    (organization : columns.organizationId = some (some child.id))
    (same : child.creditLimitIrr = order.creditLimitIrr) :
    Due offer.agreement offer.law { point with
      pending := point.pending ++ [.update .orders order.id columns] } :=
  due.add fun _ _ kept => by
    obtain ⟨nothing, ⟨_, stored⟩, inserted⟩ := kept
    have touched : touches (.update .orders order.id columns) = true := by
      change (columns.creditLimitIrr.isSome || columns.amountIrr.isSome ||
        columns.organizationId.isSome || decide (columns.status = some .pending)) = true
      rw [organization]
      simp
    unfold idle at nothing
    unfold law
    rw [← List.append_assoc, List.filter_append, nothing, List.nil_append,
      List.filter_cons_of_pos touched]
    exact .approve order columns child (Db.find_mem stored).1 credit amount status organization
      (List.mem_append_left _ inserted) same

theorem settles_approvePanelOrder (env : Env) (order : PanelOrder) (reviewerId sellerId : Id)
    (attach : Option OrderApproveIn)
    (due : Due offer.agreement (idle.both (held .orders order.id order)) point) :
    offer.Settles (approvePanelOrder env order reviewerId sellerId attach) point := by
  unfold approvePanelOrder
  refine settles_knowing _ _ due fun _ _ due => ?_
  refine settles_knowing _ _ due fun _ _ due => ?_
  refine settles_attachAdmin order attach _ due fun attached _ sameId sameCredit due => ?_
  refine settles_knowing _ _ due fun _ _ due => ?_
  refine settles_knowing _ _ due fun panel _ due => ?_
  refine settles_knowing _ _ due fun _ _ due => ?_
  refine settles_knowing _ _ due fun parent _ due => ?_
  refine settles_knowing _ _ due fun _ _ due => ?_
  refine settles_knowing _ _ due fun _ _ due => ?_
  rw [Settles, wp_bind]
  refine wp_openChild_inserts parent.id _ _ _ _ due (fun childId _ due => ?_) fun _ _ due =>
    due_of_idle due
  refine settles_knowing _ _ due fun _ _ due => ?_
  refine settles_knowing _ _ due fun _ _ due => ?_
  refine settles_knowing _ _ due fun _ _ due => ?_
  refine settles_knowing _ _ due fun time _ due => ?_
  rw [Settles, wp_assign_bind, sameId]
  exact wp_sustains Untouched _ (due_approve due rfl rfl rfl rfl sameCredit)

theorem approveOrder_meets (env : Env) (identity : TelegramIdentity) (orderId : Id)
    (attach : OrderApproveIn) :
    offer.agreement.Meets (served (approveOrder env identity orderId attach)) := by
  refine meets_of_settles fun store due => ?_
  unfold approveOrder
  refine settles_reading _ _ due fun caller _ due => ?_
  refine settles_lockedOrder orderId .approved _ due fun order _ _ own due => ?_
  subst own
  exact wp_after Untouched (settles_approvePanelOrder env order _ _ _ due) _

theorem reviewerOrderAction_meets (env : Env) (chatId : Int) (orderId : Id) (approve : Bool)
    (reason : String) (attach : Option OrderApproveIn) :
    offer.agreement.Meets
      (served (Bot.reviewerOrderAction env chatId orderId approve reason attach)) := by
  refine meets_of_settles fun store due => ?_
  unfold Bot.reviewerOrderAction
  refine settles_reading _ _ due fun caller _ due => ?_
  refine wp_withSession Untouched (wp_after Untouched (wp_replying ?_) _)
  refine settles_lockedOrder orderId _ _ due fun order _ _ own due => ?_
  subst own
  cases approve with
  | true => exact wp_after Untouched (settles_approvePanelOrder env order _ _ _ due) _
  | false =>
      rw [if_neg Bool.false_ne_true]
      exact wp_sustains Untouched _ (due_of_idle due.plain)

/-! ## Every session -/

instance (changes : List (Id × OutboxColumns)) :
    Sustains offer.agreement Untouched offer.law (moveEvents changes) := by
  unfold moveEvents
  infer_instance

end Offer

open Offer in
/-- Every session of the system writes lawfully about the orders of a plan. -/
theorem SystemOperation.meets_offer {env : Env} {packages : Packages} {traffic : Traffic}
    {offer : Offer} {program : Prog Database (Except Failure Unit)}
    (operation : SystemOperation env packages traffic program) :
    offer.agreement.Meets program := by
  cases operation with
  | createOrder identity data => exact createOrder_meets env identity data
  | botPlaceOrder chatId data => exact placeOrder_meets chatId data
  | confirmOrder identity orderId => exact customerRoute_meets env identity orderId (by rintro ⟨⟩)
  | declarePayment identity orderId => exact customerRoute_meets env identity orderId (by rintro ⟨⟩)
  | cancelOrder identity orderId => exact customerRoute_meets env identity orderId (by rintro ⟨⟩)
  | botCustomerOrder chatId orderId toStatus own =>
      refine customerOrderAction_meets chatId orderId ?_
      rintro rfl
      exact absurd own (by decide)
  | quoteOrder identity orderId data => exact quoteOrder_meets env identity orderId data
  | botApplyQuote chatId orderId data => exact applyQuote_meets env chatId orderId data
  | rejectOrder identity orderId reason => exact rejectOrder_meets env identity orderId reason
  | approveOrder identity orderId attach => exact approveOrder_meets env identity orderId attach
  | botReviewOrder chatId orderId approve reason attach =>
      exact reviewerOrderAction_meets env chatId orderId approve reason attach
  | webCategoryStatus identity categoryId status =>
      exact meets_of_sustains (catalogStatusRoute env identity .category categoryId status)
  | webPlanStatus identity planId status =>
      exact meets_of_sustains (catalogStatusRoute env identity .plan planId status)
  | handle handler event handles =>
      have kept : Sustains offer.agreement Untouched offer.law (handler event) :=
        sustains_handler handles event
      exact meets_of_sustains (handler event)
  | _ => exact meets_of_sustains _

end ControlPlane
