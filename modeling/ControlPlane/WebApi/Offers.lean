import ControlPlane.Library.Fates
import ControlPlane.WebApi.Orders

/-!
# The credit that comes with a plan

An order of a plan takes its amount and its credit from the plan, and the
organization that is opened for the order takes the credit from the order.
Statements about other tables and the later steps of an order do not change
them.
-/

namespace ControlPlane

open ReadCommitted

/-- A plan that is on offer, and the stores that are committed at some time of a run. -/
structure Offer where
  planId : Id
  past : Db → Prop

/-- The credit that comes with an order of a plan. -/
def Plan.grants (plan : Plan) : Int :=
  if plan.creditLimitIrr = 0 then plan.amountIrr else plan.creditLimitIrr

/-- What may become of an order while its credit stays. -/
structure Evolves (order later : PanelOrder) : Prop where
  id : later.id = order.id
  planId : later.planId = order.planId
  creditLimitIrr : later.creditLimitIrr = order.creditLimitIrr
  amountIrr : later.amountIrr = order.amountIrr
  organizationId : later.organizationId = order.organizationId
  status : later.status = .pending → order.status = .pending

theorem Evolves.refl (order : PanelOrder) : Evolves order order :=
  ⟨rfl, rfl, rfl, rfl, rfl, fun pending => pending⟩

theorem Evolves.trans {first second third : PanelOrder} (early : Evolves first second)
    (late : Evolves second third) : Evolves first third where
  id := late.id.trans early.id
  planId := late.planId.trans early.planId
  creditLimitIrr := late.creditLimitIrr.trans early.creditLimitIrr
  amountIrr := late.amountIrr.trans early.amountIrr
  organizationId := late.organizationId.trans early.organizationId
  status pending := early.status (late.status pending)

namespace Offer

/-- No order is forgotten. -/
def Orders (db later : Db) : Prop := ∀ order ∈ db.orders, ∃ kept ∈ later.orders, kept.id = order.id

theorem Orders.refl (db : Db) : Orders db db := fun order member => ⟨order, member, rfl⟩

theorem Orders.trans {first second third : Db} (early : Orders first second)
    (late : Orders second third) : Orders first third := by
  intro order member
  obtain ⟨middle, present, same⟩ := early order member
  obtain ⟨last, there, its⟩ := late middle present
  exact ⟨last, there, its.trans same⟩

/-- The plan stood like this when no order of this id was there. -/
def Offers (offer : Offer) (plan : Plan) (orderId : Id) : Prop :=
  plan.id = offer.planId ∧ ∃ moment, offer.past moment ∧ plan ∈ moment.plans ∧
    ∀ order ∈ moment.orders, order.id ≠ orderId

/-- The plan stood like this at some time before. -/
def Offered (offer : Offer) (plan : Plan) (db : Db) : Prop :=
  plan.id = offer.planId ∧ ∃ moment, offer.past moment ∧ plan ∈ moment.plans ∧ Orders moment db

/-- An order has the amount and the credit that the plan had before the order was placed. -/
def Priced (offer : Offer) (orderId : Id) (creditLimitIrr amountIrr : Int) : Prop :=
  ∃ plan, offer.Offers plan orderId ∧ creditLimitIrr = plan.grants ∧ amountIrr = plan.amountIrr

/-- The orders of the plan have taken its amount and its credit, and their organizations have taken
theirs. -/
structure Holds (offer : Offer) (db : Db) : Prop where
  integrity : Integrity db
  past : offer.past db
  priced : ∀ order ∈ db.orders, order.planId = some offer.planId →
    offer.Priced order.id order.creditLimitIrr order.amountIrr ∧ order.status ≠ .pending
  opened : ∀ order ∈ db.orders, order.planId = some offer.planId →
    ∀ organization ∈ db.organizations, order.organizationId = some organization.id →
      organization.creditLimitIrr = order.creditLimitIrr

/-- The statements that can change what an order or its organization gets: new orders, prices and
organizations of orders, orders that start over, and what is deleted of both. -/
def touches : Database.Write → Bool
  | .insert .orders _ | .delete .orders _ | .delete .organizations _ => true
  | .update .orders _ columns =>
      columns.creditLimitIrr.isSome || columns.amountIrr.isSome || columns.organizationId.isSome ||
        columns.status = some .pending
  | _ => false

/-- What a session may write about orders: a new order, which a plan may price; terms for an order
that is not of the plan; or the organization of an order, with the credit of the order. -/
inductive Lawful (offer : Offer) (log : List Database.Write) (db : Db) :
    List Database.Write → Prop
  | none : Lawful offer log db []
  | place (id actorId : Id) (panel : Panel) (slug : String) (data : OrderIn) (plan : Option Plan) :
      (∀ known, plan = some known → known.id = offer.planId → offer.Offered known db) →
      Lawful offer log db [.insert .orders (orderRow id actorId panel slug data plan)]
  | quote (key : Id) (columns : PanelOrderColumns) :
      (∀ order ∈ db.orders, order.id = key → order.planId ≠ some offer.planId) →
      Lawful offer log db [.update .orders key columns]
  | approve (order : PanelOrder) (columns : PanelOrderColumns) (child : Organization) :
      order ∈ db.orders → columns.creditLimitIrr = Option.none →
      columns.amountIrr = Option.none → columns.status = some .approved →
      columns.organizationId = some (some child.id) → .insert .organizations child ∈ log →
      child.creditLimitIrr = order.creditLimitIrr →
      Lawful offer log db [.update .orders order.id columns]

variable {offer : Offer} {log longer marks : List Database.Write} {db : Db}

/-- Further statements do not make an order unlawful. -/
theorem Lawful.grow (subset : log ⊆ longer) (lawful : offer.Lawful log db marks) :
    offer.Lawful longer db marks := by
  cases lawful with
  | none => exact .none
  | place id actorId panel slug data plan known =>
      exact .place id actorId panel slug data plan known
  | quote key columns other => exact .quote key columns other
  | approve order columns child member credit amount status organization inserted same =>
      exact .approve order columns child member credit amount status organization
        (subset inserted) same

/-- Nothing that would be touched is deleted. -/
theorem Lawful.undeleted (lawful : offer.Lawful longer db (log.filter touches)) (table : Table)
    (key : table.Key) (touched : touches (.delete table key) = true) : .delete table key ∉ log := by
  intro member
  have among := List.mem_filter.mpr ⟨member, touched⟩
  generalize log.filter touches = marks at among lawful
  cases lawful with
  | none => exact absurd among List.not_mem_nil
  | place => exact absurd (List.mem_singleton.mp among) (by rintro ⟨⟩)
  | quote => exact absurd (List.mem_singleton.mp among) (by rintro ⟨⟩)
  | approve => exact absurd (List.mem_singleton.mp among) (by rintro ⟨⟩)

/-- Before the plan is there, no order is one of its orders. -/
theorem Holds.beginning (integrity : Integrity db) (past : offer.past db)
    (fresh : ∀ plan ∈ db.plans, plan.id ≠ offer.planId) : offer.Holds db := by
  have unordered : ∀ order ∈ db.orders, order.planId ≠ some offer.planId := by
    intro order member own
    have listed : (⟨Table.plans, offer.planId⟩ : Σ parent : Table, parent.Key) ∈
        @Table.foreignKeys .orders order := by
      simp [Table.foreignKeys, own]
    obtain ⟨plan, present, same⟩ := Layout.has_eq_true.mp
      (integrity.parents Table.orders order member _ listed)
    exact fresh plan present (Option.some.inj same)
  exact ⟨integrity, past, fun order member own => absurd own (unordered order member),
    fun order member own => absurd own (unordered order member)⟩

/-! ## Organizations -/

/-- An organization stays, with its credit. -/
theorem organization_stays (lawful : offer.Lawful longer db (log.filter touches)) {store : Db}
    {organization : Organization} (member : organization ∈ store.organizations) :
    ∃ later ∈ Db.organizations (replay (S := Database) log store), later.id = organization.id ∧
      later.creditLimitIrr = organization.creditLimitIrr := by
  refine @Layout.fate_replay layout Table.organizations Query Query.Answer
    (fun row later => later.id = row.id ∧ later.creditLimitIrr = row.creditLimitIrr)
    (fun _ => ⟨rfl, rfl⟩) (fun first second => ⟨second.1.trans first.1, second.2.trans first.2⟩)
    log store organization (fun key among _ => lawful.undeleted .organizations key rfl among)
    (fun _ _ _ _ _ => ⟨rfl, rfl⟩) member

/-- An organization that a log inserts is there afterwards. -/
theorem organization_inserted (lawful : offer.Lawful longer db (log.filter touches))
    {child : Organization} (inserted : .insert .organizations child ∈ log) (store : Db) :
    ∃ later ∈ Db.organizations (replay (S := Database) log store), later.id = child.id ∧
      later.creditLimitIrr = child.creditLimitIrr := by
  obtain ⟨first, last, rfl⟩ := List.append_of_mem inserted
  have lasting : ∀ key : Id, .delete .organizations key ∉ last := fun key among =>
    lawful.undeleted .organizations key rfl
      (List.mem_append_right first (List.mem_cons_of_mem _ among))
  have here : child ∈ Db.organizations ((Layout.Statement.insert (L := layout) .organizations
      child).apply (replay (S := Database) first store)) := by
    rw [show Db.organizations _ = _ from
      Layout.Statement.rows_apply_insert (L := layout) .organizations child _]
    exact List.mem_append_right _ (List.mem_singleton_self child)
  rw [replay_append, replay_cons]
  exact @Layout.fate_replay layout Table.organizations Query Query.Answer
    (fun row later => later.id = row.id ∧ later.creditLimitIrr = row.creditLimitIrr)
    (fun _ => ⟨rfl, rfl⟩) (fun first second => ⟨second.1.trans first.1, second.2.trans first.2⟩)
    last _ child (fun key among _ => lasting key among) (fun _ _ _ _ _ => ⟨rfl, rfl⟩) here

/-! ## Orders -/

/-- Later steps of an order leave its credit. -/
theorem evolves_change {key : Id} {columns : PanelOrderColumns}
    (untouched : touches (.update .orders key columns) = false) (row : PanelOrder) :
    Evolves row (@Table.change .orders columns row) := by
  change (columns.creditLimitIrr.isSome || columns.amountIrr.isSome ||
    columns.organizationId.isSome || decide (columns.status = some .pending)) = false at untouched
  simp only [Bool.or_eq_false_iff, Option.isSome_eq_false_iff, Option.isNone_iff_eq_none,
    decide_eq_false_iff_not] at untouched
  obtain ⟨⟨⟨credit, amount⟩, organization⟩, status⟩ := untouched
  refine ⟨rfl, rfl, ?_, ?_, ?_, fun pending => ?_⟩
  · change columns.creditLimitIrr.getD row.creditLimitIrr = _
    rw [credit]
    rfl
  · change columns.amountIrr.getD row.amountIrr = _
    rw [amount]
    rfl
  · change columns.organizationId.getD row.organizationId = _
    rw [organization]
    rfl
  · change columns.status.getD row.status = .pending at pending
    cases assigned : columns.status with
    | none =>
        rw [assigned] at pending
        exact pending
    | some value =>
        rw [assigned] at pending status
        exact absurd (congrArg some pending) status

/-- Orders stay. -/
theorem orders_stay (lawful : offer.Lawful longer db (log.filter touches)) (store : Db) :
    Orders store (replay (S := Database) log store) := fun order member =>
  @Layout.fate_replay layout Table.orders Query Query.Answer (fun row later => later.id = row.id)
    (fun _ => rfl) (fun early late => late.trans early) log store order
    (fun key among _ => lawful.undeleted .orders key rfl among) (fun _ _ _ _ _ => rfl) member

/-- A new order was not there before. -/
theorem order_fresh (accepted : acceptsAll (S := Database) log db = true)
    (lawful : offer.Lawful longer db (log.filter touches)) {order : PanelOrder}
    (inserted : .insert .orders order ∈ log) : ∀ other ∈ db.orders, other.id ≠ order.id := by
  obtain ⟨first, last, rfl⟩ := List.append_of_mem inserted
  intro other member same
  rw [acceptsAll_append, acceptsAll_cons, Bool.and_eq_true, Bool.and_eq_true] at accepted
  obtain ⟨kept, present, its⟩ := @Layout.fate_replay layout Table.orders Query Query.Answer
    (fun row later => later.id = row.id) (fun _ => rfl) (fun early late => late.trans early)
    first db other
    (fun key among _ => lawful.undeleted .orders key rfl (List.mem_append_left _ among))
    (fun _ _ _ _ _ => rfl) member
  exact Layout.Statement.unused_of_accepts accepted.2.1 rfl kept present
    (congrArg some (its.trans same))

/-- Where nothing is touched, an order was there before. -/
theorem order_origin (untouched : ∀ statement ∈ log, touches statement = false) {store : Db}
    {later : PanelOrder} (member : later ∈ Db.orders (replay (S := Database) log store)) :
    ∃ order ∈ store.orders, Evolves order later :=
  @Layout.origin_replay layout Table.orders Query Query.Answer Evolves Evolves.refl
    (fun early late => early.trans late) log
    (fun row among => Bool.false_ne_true
      ((untouched _ among).symm.trans (rfl : touches (.insert .orders row) = true)))
    (fun _ _ among row _ => evolves_change (untouched _ among) row) store later member

/-- Where one statement is touched, an order was there before, was inserted, or was assigned. -/
theorem order_origin_single {mark : Database.Write}
    (single : log.filter touches = [mark]) {store : Db} {later : PanelOrder}
    (member : later ∈ Db.orders (replay (S := Database) log store)) :
    (∃ order ∈ store.orders, Evolves order later) ∨
      (∃ order, mark = .insert .orders order ∧ Evolves order later) ∨
        ∃ order ∈ store.orders, ∃ columns middle, mark = .update .orders order.id columns ∧
          Evolves order middle ∧ Evolves (@Table.change .orders columns middle) later := by
  obtain ⟨first, last, rfl, early, _, late⟩ := List.filter_eq_cons_iff.mp single
  have firstUntouched : ∀ statement ∈ first, touches statement = false :=
    fun statement among => Bool.eq_false_iff.mpr (early statement among)
  have lastUntouched : ∀ statement ∈ last, touches statement = false :=
    fun statement among => Bool.eq_false_iff.mpr (List.filter_eq_nil_iff.mp late statement among)
  rw [replay_append, replay_cons] at member
  obtain ⟨middle, present, evolved⟩ := order_origin lastUntouched member
  rcases @Layout.Statement.origin layout Table.orders mark _ middle present with
    old | rfl | ⟨key, columns, row, before, rfl, own, rfl⟩
  · obtain ⟨order, there, earlier⟩ := order_origin firstUntouched old
    exact .inl ⟨order, there, earlier.trans evolved⟩
  · exact .inr (.inl ⟨middle, rfl, evolved⟩)
  · obtain ⟨order, there, earlier⟩ := order_origin firstUntouched before
    refine .inr (.inr ⟨order, there, columns, row, ?_, earlier, evolved⟩)
    rw [← earlier.id, ← Option.some.inj own]

/-! ## Commits -/

/-- Where an order of the plan comes from: it was there, it was placed at the price of the plan, or
it was approved with an organization that has its credit. -/
inductive Origin (offer : Offer) (log : List Database.Write) (db : Db) (later : PanelOrder) : Prop
  | kept (order : PanelOrder) : order ∈ db.orders → Evolves order later → Origin offer log db later
  | placed : offer.Priced later.id later.creditLimitIrr later.amountIrr →
      later.status ≠ .pending → later.organizationId = none → Origin offer log db later
  | approved (order : PanelOrder) (child : Organization) : order ∈ db.orders →
      later.id = order.id → later.planId = order.planId →
        later.creditLimitIrr = order.creditLimitIrr →
      later.amountIrr = order.amountIrr → later.status ≠ .pending →
      later.organizationId = some child.id → .insert .organizations child ∈ log →
      child.creditLimitIrr = order.creditLimitIrr → Origin offer log db later

/-- What is lawful to write gives an order of the plan one of these origins. -/
theorem Lawful.origin (accepted : acceptsAll (S := Database) log db = true)
    (lawful : offer.Lawful log db (log.filter touches))
    (keys : ∀ first ∈ db.orders, ∀ second ∈ db.orders, first.id = second.id → first = second)
    {later : PanelOrder} (member : later ∈ Db.orders (replay (S := Database) log db))
    (own : later.planId = some offer.planId) : Origin offer log db later := by
  have fresh : ∀ order, .insert .orders order ∈ log → ∀ other ∈ db.orders, other.id ≠ order.id :=
    fun order inserted => order_fresh accepted lawful inserted
  generalize marked : log.filter touches = marks at lawful
  cases lawful with
  | none =>
      obtain ⟨order, present, evolves⟩ := order_origin (fun statement among =>
        Bool.eq_false_iff.mpr (List.filter_eq_nil_iff.mp marked statement among)) member
      exact .kept order present evolves
  | place id actorId panel slug data plan known =>
      rcases order_origin_single marked member with
        ⟨order, present, evolves⟩ | ⟨order, same, evolves⟩ | ⟨_, _, _, _, same, _⟩
      · exact .kept order present evolves
      · obtain rfl : orderRow id actorId panel slug data plan = order := by injection same
        cases plan with
        | none => exact absurd (own.symm.trans evolves.planId) (by rintro ⟨⟩)
        | some plan =>
            have its : plan.id = offer.planId := Option.some.inj (evolves.planId.symm.trans own)
            refine .placed ?_ (fun pending => ?_) evolves.organizationId
            · obtain ⟨_, moment, past, stood, kept⟩ := known plan rfl its
              have inserted : .insert .orders (orderRow id actorId panel slug data (some plan)) ∈
                  log := by
                refine List.mem_of_mem_filter (p := touches) ?_
                rw [marked]
                exact List.mem_singleton_self _
              rw [evolves.id, evolves.creditLimitIrr, evolves.amountIrr]
              refine ⟨plan, ⟨its, moment, past, stood, fun order member same => ?_⟩, rfl, rfl⟩
              obtain ⟨other, present, own⟩ := kept order member
              exact fresh _ inserted other present (own.trans same)
            · exact absurd (evolves.status pending) (by rintro ⟨⟩)
      · exact absurd same (by rintro ⟨⟩)
  | quote key columns other =>
      rcases order_origin_single marked member with
        ⟨order, present, evolves⟩ | ⟨order, same, evolves⟩ |
          ⟨order, present, _, _, same, early, late⟩
      · exact .kept order present evolves
      · exact absurd same (by rintro ⟨⟩)
      · have its : key = order.id := by injection same
        exact absurd ((early.planId.symm.trans late.planId.symm).trans own)
          (other order present its.symm)
  | approve locked columns child among credit amount status organization inserted same =>
      rcases order_origin_single marked member with
        ⟨order, present, evolves⟩ | ⟨order, equal, _⟩ |
          ⟨order, present, _, middle, equal, early, late⟩
      · exact .kept order present evolves
      · exact absurd equal (by rintro ⟨⟩)
      · injection equal with _ its assigned
        obtain rfl := assigned
        obtain rfl := keys locked among order present its
        refine .approved locked child among (late.id.trans early.id)
          (late.planId.trans early.planId)
          ?_ ?_ ?_ ?_ inserted same
        · refine late.creditLimitIrr.trans (Eq.trans ?_ early.creditLimitIrr)
          change columns.creditLimitIrr.getD _ = _
          rw [credit]
          rfl
        · refine late.amountIrr.trans (Eq.trans ?_ early.amountIrr)
          change columns.amountIrr.getD _ = _
          rw [amount]
          rfl
        · intro pending
          have before := late.status pending
          change columns.status.getD _ = _ at before
          rw [status] at before
          exact absurd before (by rintro ⟨⟩)
        · refine late.organizationId.trans ?_
          change columns.organizationId.getD _ = _
          rw [organization]
          rfl

/-- The organization of an order that was there. -/
theorem Holds.opened_later (holds : offer.Holds db)
    (lawful : offer.Lawful longer db (log.filter touches))
    (integrity : Integrity (replay (S := Database) log db)) {order : PanelOrder}
    (member : order ∈ db.orders) (own : order.planId = some offer.planId)
    {organization : Organization}
    (present : organization ∈ Db.organizations (replay (S := Database) log db))
    (opened : order.organizationId = some organization.id) :
    organization.creditLimitIrr = order.creditLimitIrr := by
  have listed : (⟨Table.organizations, organization.id⟩ : Σ parent : Table, parent.Key) ∈
      @Table.foreignKeys .orders order := by
    simp [Table.foreignKeys, opened]
  obtain ⟨earlier, there, same⟩ := Layout.has_eq_true.mp
    (holds.integrity.parents Table.orders order member _ listed)
  obtain ⟨later, kept, id, credit⟩ := organization_stays lawful there
  have its : earlier.id = organization.id := Option.some.inj same
  obtain rfl := integrity.eq_of_key Table.organizations present rfl kept
    (congrArg some (id.trans its))
  rw [credit]
  exact holds.opened order member own earlier there (opened.trans (congrArg some its.symm))

/-- A lawful commit leaves the orders of the plan and their organizations with its credit. -/
theorem Holds.replay (holds : offer.Holds db) (accepted : acceptsAll (S := Database) log db = true)
    (lawful : offer.Lawful log db (log.filter touches))
    (past : offer.past (ReadCommitted.replay (S := Database) log db)) :
    offer.Holds (ReadCommitted.replay (S := Database) log db) := by
  have integrity : Integrity (ReadCommitted.replay (S := Database) log db) :=
    holds.integrity.replay accepted
  have keys : ∀ first ∈ db.orders, ∀ second ∈ db.orders, first.id = second.id → first = second :=
    fun first firstMember second secondMember same =>
      holds.integrity.eq_of_key Table.orders firstMember rfl secondMember (congrArg some same.symm)
  refine ⟨integrity, past, fun later member own => ?_,
    fun later member own organization there opened => ?_⟩
  · cases lawful.origin accepted keys member own with
    | kept order among evolves =>
        obtain ⟨priced, status⟩ := holds.priced order among (evolves.planId.symm.trans own)
        rw [evolves.id, evolves.creditLimitIrr, evolves.amountIrr]
        exact ⟨priced, fun pending => status (evolves.status pending)⟩
    | placed priced status _ => exact ⟨priced, status⟩
    | approved order child among id planId credit amount status _ _ _ =>
        rw [id, credit, amount]
        exact ⟨(holds.priced order among (planId.symm.trans own)).1, status⟩
  · cases lawful.origin accepted keys member own with
    | kept order among evolves =>
        rw [evolves.creditLimitIrr]
        exact holds.opened_later lawful integrity among (evolves.planId.symm.trans own) there
          (evolves.organizationId.symm.trans opened)
    | placed _ _ unopened => exact absurd (unopened.symm.trans opened) (by rintro ⟨⟩)
    | approved order child _ _ _ credit _ _ organizationId inserted given =>
        obtain ⟨known, kept, id, its⟩ := organization_inserted lawful inserted db
        have named : child.id = organization.id :=
          Option.some.inj (organizationId.symm.trans opened)
        obtain rfl := integrity.eq_of_key Table.organizations there rfl kept
          (congrArg some (id.trans named))
        rw [its, given, credit]

end Offer

end ControlPlane
