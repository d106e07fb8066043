import ControlPlane.Library.Concerns
import ControlPlane.System.Discipline

/-!
# The life of an order

One commit writes about one order at most: it places it, or takes it one step
along the flow. The terms of an order stay once it is quoted, a final status
stays with everything else, and an approved order has an organization with its
terms.
-/

namespace ControlPlane

open ReadCommitted

/-! ## Steps -/

/-- What is opened for an order: an organization with its name, slug and credit, a contract at its
price with the owner of the server, and the membership of the requester. -/
structure OpensFor (log : List Database.Write) (db : Db) (order : PanelOrder)
    (child : Organization) : Prop where
  organization : .insert .organizations child ∈ log
  name : child.name = order.businessName
  slug : child.slug = order.slug
  credit : child.creditLimitIrr = order.creditLimitIrr
  contract : ∃ contract : Contract, .insert .contracts contract ∈ log ∧
    contract.childId = child.id ∧ contract.pricePerGibIrr = order.pricePerGibIrr ∧
      ∃ owner ∈ db.panelOwners, owner.panelId = order.panelId ∧
        owner.organizationId = contract.parentId
  membership : ∃ membership : Membership, .insert .memberships membership ∈ log ∧
    membership.organizationId = child.id ∧ membership.actorId = order.actorId ∧
      membership.role = .customer

/-- What one commit makes of an order; `log` is all that it writes. -/
inductive OrderStep (log : List Database.Write) (db : Db) (order : PanelOrder) :
    PanelOrder → Prop
  | quoted (creditLimitIrr pricePerGibIrr amountIrr : Int) (paymentInstructions : String)
      (adminUsername : String) (pgAdminId : Option Int) :
      .quoted ∈ orderFlow order.status →
      OrderStep log db order { order with
        status := .quoted, creditLimitIrr, pricePerGibIrr, amountIrr, paymentInstructions
        adminUsername, pgAdminId }
  | advanced (toStatus : OrderStatus) : toStatus ∈ orderFlow order.status →
      (customerTransition toStatus).isSome = true →
      OrderStep log db order { order with status := toStatus }
  | rejected (reviewerId : Id) (time : Time) (reason : String) :
      .rejected ∈ orderFlow order.status →
      OrderStep log db order { order with
        status := .rejected, rejectionReason := reason, decidedBy := some reviewerId
        decidedAt := some time }
  | approved (child : Organization) (reviewerId : Id) (time : Time) (adminUsername : String)
      (pgAdminId : Option Int) : .approved ∈ orderFlow order.status →
      OpensFor log db order child →
      OrderStep log db order { order with
        status := .approved, organizationId := some child.id, decidedBy := some reviewerId
        decidedAt := some time, adminUsername, pgAdminId }

/-- Further statements do not undo a step. -/
theorem OrderStep.grow {log longer : List Database.Write} {db : Db} {order later : PanelOrder}
    (subset : log ⊆ longer) (step : OrderStep log db order later) :
    OrderStep longer db order later := by
  cases step with
  | quoted credit price amount instructions username pgAdminId allowed =>
      exact .quoted credit price amount instructions username pgAdminId allowed
  | advanced toStatus allowed own => exact .advanced toStatus allowed own
  | rejected reviewerId time reason allowed => exact .rejected reviewerId time reason allowed
  | approved child reviewerId time username pgAdminId allowed opening =>
      refine .approved child reviewerId time username pgAdminId allowed
        { opening with
          organization := subset opening.organization, contract := ?_, membership := ?_ }
      · exact opening.contract.imp fun _ written => ⟨subset written.1, written.2⟩
      · exact opening.membership.imp fun _ written => ⟨subset written.1, written.2⟩

/-- A step leads along the flow. -/
theorem OrderStep.flows {log : List Database.Write} {db : Db} {order later : PanelOrder}
    (step : OrderStep log db order later) : later.status ∈ orderFlow order.status := by
  cases step <;> assumption

/-! ## Lives -/

/-- Going along the flow. -/
abbrev FlowsTo (first last : OrderStatus) : Prop :=
  Relation.ReflTransGen (fun status next => next ∈ orderFlow status) first last

/-- No order becomes pending again. -/
theorem FlowsTo.pending {first last : OrderStatus} (flows : FlowsTo first last)
    (pending : last = .pending) : first = .pending := by
  cases flows with
  | refl => exact pending
  | @tail middle _ _ step =>
      subst pending
      cases middle <;> simp [orderFlow] at step

/-- What may become of an order. -/
structure PanelOrder.Proceeds (order later : PanelOrder) : Prop where
  /-- What was asked for stays. -/
  request : later = { order with
    status := later.status, creditLimitIrr := later.creditLimitIrr
    pricePerGibIrr := later.pricePerGibIrr, amountIrr := later.amountIrr
    paymentInstructions := later.paymentInstructions, adminUsername := later.adminUsername
    pgAdminId := later.pgAdminId, organizationId := later.organizationId
    decidedBy := later.decidedBy, decidedAt := later.decidedAt
    rejectionReason := later.rejectionReason }
  flows : FlowsTo order.status later.status
  /-- What was quoted stays. -/
  terms : order.status ≠ .pending → later.creditLimitIrr = order.creditLimitIrr ∧
    later.pricePerGibIrr = order.pricePerGibIrr ∧ later.amountIrr = order.amountIrr ∧
      later.paymentInstructions = order.paymentInstructions
  /-- What was decided stays. -/
  final : orderFlow order.status = [] → later = order

namespace PanelOrder.Proceeds

theorem refl (order : PanelOrder) : order.Proceeds order :=
  ⟨rfl, .refl, fun _ => ⟨rfl, rfl, rfl, rfl⟩, fun _ => rfl⟩

theorem trans {first second third : PanelOrder} (early : first.Proceeds second)
    (late : second.Proceeds third) : first.Proceeds third where
  request := by
    rw [late.request, early.request]
  flows := early.flows.trans late.flows
  terms started := by
    obtain ⟨credit, price, amount, instructions⟩ := early.terms started
    obtain ⟨itsCredit, itsPrice, itsAmount, itsInstructions⟩ :=
      late.terms fun pending => started (early.flows.pending pending)
    exact ⟨itsCredit.trans credit, itsPrice.trans price, itsAmount.trans amount,
      itsInstructions.trans instructions⟩
  final decided := by
    obtain rfl := early.final decided
    exact late.final decided

/-- One step. -/
theorem step {log : List Database.Write} {db : Db} {order later : PanelOrder}
    (step : OrderStep log db order later) : order.Proceeds later where
  request := by cases step <;> rfl
  flows := .single step.flows
  terms started := by
    cases step with
    | quoted _ _ _ _ _ _ allowed =>
        refine absurd ?_ started
        cases status : order.status <;> rw [status] at allowed <;> simp [orderFlow] at allowed ⊢
    | _ => exact ⟨rfl, rfl, rfl, rfl⟩
  final decided := by
    have flows := step.flows
    rw [decided] at flows
    exact absurd flows List.not_mem_nil

end PanelOrder.Proceeds

/-! ## Accounts -/

/-- An order has become an organization with its terms. -/
structure PanelOrder.Opened (order : PanelOrder) (db : Db) (child : Organization) : Prop where
  organization : child ∈ db.organizations
  own : order.organizationId = some child.id
  name : child.name = order.businessName
  slug : child.slug = order.slug
  credit : child.creditLimitIrr = order.creditLimitIrr
  contract : ∃ contract ∈ db.contracts, contract.childId = child.id ∧
    contract.pricePerGibIrr = order.pricePerGibIrr ∧
      ∃ owner ∈ db.panelOwners, owner.panelId = order.panelId ∧
        owner.organizationId = contract.parentId
  membership : ∃ membership ∈ db.memberships, membership.organizationId = child.id ∧
    membership.actorId = order.actorId ∧ membership.role = .customer

/-- Exactly the approved orders have an account. -/
structure PanelOrder.Accounted (order : PanelOrder) (db : Db) : Prop where
  approved : order.status = .approved → ∃ child, order.Opened db child
  unopened : order.status ≠ .approved → order.organizationId = none

section

variable {log : List Database.Write} {db later : Db} {order : PanelOrder}

/-- An account stays with its order. -/
theorem PanelOrder.Opened.retained {child : Organization} (opened : order.Opened db child)
    (retained : db.Retained later) : ∃ child, order.Opened later child := by
  obtain ⟨kept, member, same⟩ :=
    (retained .organizations (by decide) (by decide) child opened.organization).organization
  obtain ⟨contract, agreed, its, price, owner, owns, server, seller⟩ := opened.contract
  obtain ⟨membership, present, customer⟩ := opened.membership
  refine ⟨kept, member, ?_, ?_, ?_, ?_, ⟨contract, ?_, ?_, price, owner, ?_, server, seller⟩,
    membership, ?_, ?_⟩
  · rw [same]
    exact opened.own
  · rw [same]
    exact opened.name
  · rw [same]
    exact opened.slug
  · rw [same]
    exact opened.credit
  · exact (retained .contracts (by decide) (by decide) contract agreed).fixed fun _ => rfl
  · rw [same]
    exact its
  · exact (retained .panelOwners (by decide) (by decide) owner owns).fixed fun _ => rfl
  · exact (retained .memberships (by decide) (by decide) membership present).fixed fun _ => rfl
  · rw [same]
    exact customer

end

/-! ## Commits -/

/-- The statements about orders, and those that delete anything but a part of the catalog. -/
def funnelTouches : Database.Write → Bool
  | .insert .orders _ | .update .orders _ _ => true
  | .delete table _ => decide ¬(table = .planCategories ∨ table = .plans)
  | _ => false

/-- What one transaction may write about orders. -/
inductive FunnelLawful (log : List Database.Write) (db : Db) : List Database.Write → Prop
  | none : FunnelLawful log db []
  /-- It places an order. -/
  | place (id actorId : Id) (panel : Panel) (slug : String) (data : OrderIn) (plan : Option Plan) :
      FunnelLawful log db [.insert .orders (orderRow id actorId panel slug data plan)]
  /-- It takes an order one step along the flow. -/
  | step (order : PanelOrder) (assigned : List PanelOrderColumns) : order ∈ db.orders →
      OrderStep log db order (@Layout.changes layout .orders assigned order) →
      FunnelLawful log db (assigned.map (.update .orders order.id ·))

namespace FunnelLawful

variable {log longer marks : List Database.Write} {db : Db}

/-- Statements about something else do not matter. -/
theorem grow (subset : log ⊆ longer) (lawful : FunnelLawful log db marks) :
    FunnelLawful longer db marks := by
  cases lawful with
  | none => exact .none
  | place id actorId panel slug data plan => exact .place id actorId panel slug data plan
  | step order assigned present step => exact .step order assigned present (step.grow subset)

/-- Nothing but a part of the catalog is deleted. -/
theorem catalog (lawful : FunnelLawful log db (log.filter funnelTouches)) (table : Table)
    (key : table.Key) (deletes : .delete table key ∈ log) :
    table = .planCategories ∨ table = .plans := by
  by_contra other
  have among : .delete table key ∈ log.filter funnelTouches :=
    List.mem_filter.mpr ⟨deletes, decide_eq_true other⟩
  generalize log.filter funnelTouches = marks at lawful among
  cases lawful with
  | none => exact absurd among List.not_mem_nil
  | place => exact nomatch List.mem_singleton.mp among
  | step =>
      obtain ⟨_, _, same⟩ := List.mem_map.mp among
      exact nomatch same

/-- The statements about orders are among those that matter. -/
theorem about_orders (log : List Database.Write) :
    Layout.about (L := layout) Table.orders log =
      Layout.about (L := layout) Table.orders (log.filter funnelTouches) := by
  unfold Layout.about
  rw [List.filter_filter]
  refine List.filter_congr fun statement _ => ?_
  by_cases own : statement.table = .orders
  · have touched : funnelTouches statement = true := by
      cases statement <;> obtain rfl := own <;> rfl
    rw [touched, Bool.and_true]
  · rw [decide_eq_false own, Bool.false_and]

/-- What becomes of the orders: they stay, one more is placed, or one takes a step. -/
theorem orders (lawful : FunnelLawful log db (log.filter funnelTouches)) :
    Db.orders (replay (S := Database) log db) = db.orders ∨
    (∃ id actorId panel slug data plan, Db.orders (replay (S := Database) log db) =
      db.orders ++ [orderRow id actorId panel slug data plan]) ∨
    ∃ order ∈ db.orders, ∃ stepped, OrderStep log db order stepped ∧
      ∃ move : PanelOrder → PanelOrder, move order = stepped ∧
        (∀ other, other.id ≠ order.id → move other = other) ∧
        Db.orders (replay (S := Database) log db) = db.orders.map move := by
  have about := about_orders log
  generalize marked : log.filter funnelTouches = marks at lawful about
  cases lawful with
  | none =>
      exact .inl (@Layout.rows_replay_of_untouched layout Query Query.Answer .orders log about db)
  | place id actorId panel slug data plan =>
      exact .inr (.inl ⟨id, actorId, panel, slug, data, plan,
        @Layout.rows_replay_of_insert layout Query Query.Answer .orders log _ about db⟩)
  | step order assigned present step =>
      have updates : Layout.about (L := layout) Table.orders log =
          assigned.map (.update .orders order.id ·) := by
        rw [about]
        exact List.filter_eq_self.mpr fun statement member => by
          obtain ⟨columns, _, rfl⟩ := List.mem_map.mp member
          rfl
      refine .inr (.inr ⟨order, present, _, step,
        fun row => if row.id = order.id then @Layout.changes layout .orders assigned row else row,
        if_pos rfl, fun other differs => if_neg differs, ?_⟩)
      refine (@Layout.rows_replay_of_updates layout Query Query.Answer .orders log order.id assigned
          updates db).trans (List.map_congr_left fun row _ => ?_)
      exact if_congr Option.some_inj rfl rfl

end FunnelLawful

/-! ## The concern -/

/-- The store is sound, and exactly the approved orders have an account. -/
structure FunnelHolds (db : Db) : Prop where
  integrity : layout.Integrity db
  accounted : ∀ order ∈ db.orders, order.Accounted db

/-- Orders proceed, and everything but the catalog stays on record. -/
structure FunnelMoves (db later : Db) : Prop where
  orders : ∀ order ∈ db.orders, ∃ kept ∈ later.orders, order.Proceeds kept
  retained : db.Retained later

theorem FunnelMoves.refl (db : Db) : FunnelMoves db db where
  orders order member := ⟨order, member, .refl order⟩
  retained := .refl db

theorem FunnelMoves.trans {first second third : Db} (early : FunnelMoves first second)
    (late : FunnelMoves second third) : FunnelMoves first third where
  orders order member := by
    obtain ⟨middle, present, proceeds⟩ := early.orders order member
    obtain ⟨last, there, further⟩ := late.orders middle present
    exact ⟨last, there, proceeds.trans further⟩
  retained := early.retained.trans late.retained

section

variable {log : List Database.Write} {db : Db}

/-- Everything that is opened for an order is there after the transaction. -/
theorem OpensFor.opened {order stepped : PanelOrder} {child : Organization}
    (opening : OpensFor log db order child)
    (catalog : ∀ table key, .delete table key ∈ log → table = .planCategories ∨ table = .plans)
    (request : stepped = { order with
      status := stepped.status, adminUsername := stepped.adminUsername
      pgAdminId := stepped.pgAdminId, organizationId := some child.id
      decidedBy := stepped.decidedBy, decidedAt := stepped.decidedAt }) :
    ∃ child, stepped.Opened (replay (S := Database) log db) child := by
  obtain ⟨kept, member, same⟩ :=
    (Remembered.inserted catalog (by decide) (by decide) opening.organization).organization
  obtain ⟨contract, agreed, its, price, owner, owns, server, seller⟩ := opening.contract
  obtain ⟨membership, present, customer⟩ := opening.membership
  refine ⟨kept, member, ?_, ?_, ?_, ?_, ⟨contract, ?_, ?_, ?_, owner, ?_, ?_, seller⟩,
    membership, ?_, ?_⟩
  · rw [request, same]
  · rw [request, same]
    exact opening.name
  · rw [request, same]
    exact opening.slug
  · rw [request, same]
    exact opening.credit
  · exact (Remembered.inserted catalog (by decide) (by decide) agreed).fixed fun _ => rfl
  · rw [same]
    exact its
  · rw [request]
    exact price
  · exact (Db.Retained.replay catalog .panelOwners (by decide) (by decide) owner owns).fixed
      fun _ => rfl
  · rw [request]
    exact server
  · exact (Remembered.inserted catalog (by decide) (by decide) present).fixed fun _ => rfl
  · rw [request, same]
    exact customer

/-- An order that took a step has an account exactly if it was approved. -/
theorem OrderStep.accounted {order stepped : PanelOrder} (step : OrderStep log db order stepped)
    (before : order.Accounted db)
    (catalog : ∀ table key, .delete table key ∈ log → table = .planCategories ∨ table = .plans) :
    stepped.Accounted (replay (S := Database) log db) := by
  have unopened : order.organizationId = none := before.unopened fun approved => by
    have flows := step.flows
    rw [approved] at flows
    exact absurd flows List.not_mem_nil
  cases step with
  | quoted => exact ⟨nofun, fun _ => unopened⟩
  | advanced toStatus _ own =>
      refine ⟨fun approved => ?_, fun _ => unopened⟩
      obtain rfl : toStatus = .approved := approved
      exact absurd own Bool.false_ne_true
  | rejected => exact ⟨nofun, fun _ => unopened⟩
  | approved child _ _ _ _ _ opening =>
      exact ⟨fun _ => opening.opened catalog rfl, fun other => absurd rfl other⟩

/-- Lawful transactions keep the funnel. -/
theorem FunnelHolds.replay (holds : FunnelHolds db)
    (accepted : acceptsAll (S := Database) log db = true)
    (lawful : FunnelLawful log db (log.filter funnelTouches)) :
    FunnelHolds (replay (S := Database) log db) where
  integrity := holds.integrity.replay accepted
  accounted later member := by
    have kept : ∀ order : PanelOrder, order.Accounted db →
        order.Accounted (ReadCommitted.replay (S := Database) log db) := fun order accounted =>
      ⟨fun approved => (accounted.approved approved).elim fun _ opened =>
        opened.retained (.replay lawful.catalog), accounted.unopened⟩
    rcases lawful.orders with same | ⟨id, actorId, panel, slug, data, plan, placed⟩ |
      ⟨order, present, stepped, step, move, moved, others, steps⟩
    · rw [same] at member
      exact kept later (holds.accounted later member)
    · rw [placed, List.mem_append, List.mem_singleton] at member
      rcases member with old | rfl
      · exact kept later (holds.accounted later old)
      · cases plan <;> exact ⟨nofun, fun _ => rfl⟩
    · rw [steps] at member
      obtain ⟨other, there, rfl⟩ := List.mem_map.mp member
      by_cases own : other.id = order.id
      · obtain rfl := holds.integrity.eq_of_key Table.orders there (congrArg some own) present rfl
        rw [moved]
        exact step.accounted (holds.accounted other there) lawful.catalog
      · rw [others other own]
        exact kept other (holds.accounted other there)

/-- Lawful transactions let orders proceed. -/
theorem FunnelMoves.replay (holds : FunnelHolds db)
    (lawful : FunnelLawful log db (log.filter funnelTouches)) :
    FunnelMoves db (replay (S := Database) log db) where
  retained := .replay lawful.catalog
  orders order member := by
    rcases lawful.orders with same | ⟨id, actorId, panel, slug, data, plan, placed⟩ |
      ⟨moving, present, stepped, step, move, moved, others, steps⟩
    · exact ⟨order, same ▸ member, .refl order⟩
    · exact ⟨order, placed ▸ List.mem_append_left _ member, .refl order⟩
    · refine ⟨move order, steps ▸ List.mem_map_of_mem member, ?_⟩
      by_cases own : order.id = moving.id
      · obtain rfl := holds.integrity.eq_of_key Table.orders member (congrArg some own) present rfl
        rw [moved]
        exact .step step
      · rw [others order own]
        exact .refl order

end

/-- What sessions may write about orders. -/
def funnel : Concern Database where
  touches := funnelTouches
  Lawful := FunnelLawful
  inv := FunnelHolds
  le := FunnelMoves
  lawful_nil _ _ := .none
  lawful_grow := FunnelLawful.grow
  le_refl := FunnelMoves.refl
  le_trans := FunnelMoves.trans
  inv_replay := FunnelHolds.replay
  le_replay holds _ lawful := .replay holds lawful

end ControlPlane
