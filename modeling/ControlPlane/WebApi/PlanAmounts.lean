import ControlPlane.Bot.Actions
import Mathlib.Algebra.Group.Int.Defs

/-!
# The amounts of a plan

The price of a plan is a product of three columns that are checked one by one.
It is written to the order, to the wallet and, where the plan has no credit of
its own, to the organization; each of these columns has its own range.
-/

namespace ControlPlane

open ReadCommitted Orm

/-- The row of a plan that is created from validated data. -/
def planRow (id organizationId : Id) (data : PlanIn) : Plan :=
  { id, organizationId, panelId := data.panelId, categoryId := data.categoryId, name := data.name
    description := data.description, pricePerGibIrr := data.pricePerGibIrr
    dailyGib := data.dailyGib, durationDays := data.durationDays, userCount := data.userCount
    creditLimitIrr := data.creditLimitIrr, paymentInstructions := data.paymentInstructions
    status := .active }

/-- Creating a plan inserts its row. -/
theorem createCatalogPlan_eq (organizationId actorId : Id) (data : PlanIn) :
    createCatalogPlan organizationId actorId data = (do
      let panel ← validatedPlan data organizationId
      let id ← uid
      insert .plans (planRow id organizationId { data with panelId := panel.id })
      audit "plan.create" "plan" unflushedId (some actorId) (some organizationId)
      pure (planRow id organizationId { data with panelId := panel.id })) :=
  rfl

/-- A statement is accepted wherever another one is. -/
def AcceptedLike (placeholder statement : Database.Write) : Prop :=
  ∀ db : Db, Database.accepts placeholder db = true → Database.accepts statement db = true

/-- The numbers of an order of a plan are no reason to refuse what is written for it: the order
itself, and on approval the organization, its contract, the entries of the transfer and the new
wallet. -/
structure AmountsFit (plan : Plan) : Prop where
  order : ∀ id actorId panel slug data,
    AcceptedLike
      (.insert .orders { orderRow id actorId panel slug data (some plan) with
        creditLimitIrr := 0, pricePerGibIrr := 0, amountIrr := 0 })
      (.insert .orders (orderRow id actorId panel slug data (some plan)))
  organization : ∀ id actorId panel slug data (childId parentId : Id) (name childSlug : String),
    AcceptedLike
      (.insert .organizations ⟨childId, some parentId, name, childSlug, .active, 0, 5⟩)
      (.insert .organizations ⟨childId, some parentId, name, childSlug, .active,
        (orderRow id actorId panel slug data (some plan)).creditLimitIrr, 5⟩)
  contract : ∀ id actorId panel slug data (contractId parentId childId : Id),
    AcceptedLike
      (.insert .contracts ⟨contractId, parentId, childId, 0, .active⟩)
      (.insert .contracts ⟨contractId, parentId, childId,
        (orderRow id actorId panel slug data (some plan)).pricePerGibIrr, .active⟩)
  entry : ∀ id actorId panel slug data (transactionId accountId : Id) (side : Side),
    AcceptedLike
      (.insert .entries ⟨transactionId, accountId, side, 1⟩)
      (.insert .entries ⟨transactionId, accountId, side,
        (orderRow id actorId panel slug data (some plan)).amountIrr⟩)
  wallet : ∀ id actorId panel slug data (accountId : Id) (db : Db),
    (∀ wallet ∈ db.accounts, wallet.id = accountId → wallet.balanceIrr = 0) →
    Database.accepts (.update .accounts accountId ⟨1⟩) db = true →
    Database.accepts (.update .accounts accountId
      ⟨(orderRow id actorId panel slug data (some plan)).amountIrr⟩) db = true

/-- The insertion of a row is accepted like that of another one with its keys. -/
theorem acceptedLike_insert {table : Table} {row other : table.Row}
    (key : Table.primaryKey other = Table.primaryKey row)
    (entries : Table.uniqueEntries other = Table.uniqueEntries row)
    (parents : Table.foreignKeys other = Table.foreignKeys row)
    (valid : Table.valid other = true → Table.valid row = true) :
    AcceptedLike (.insert table other) (.insert table row) := by
  intro db accepted
  change Layout.Statement.accepts (L := layout) (.insert table other) db = true at accepted
  change Layout.Statement.accepts (L := layout) (.insert table row) db = true
  simp only [Layout.Statement.accepts, Bool.and_eq_true] at accepted ⊢
  obtain ⟨⟨⟨fits, absent⟩, vacant⟩, present⟩ := accepted
  refine ⟨⟨⟨valid fits, ?_⟩, ?_⟩, ?_⟩
  · exact key ▸ absent
  · rwa [key, entries] at vacant
  · rwa [parents] at present

/-- A change of the balance is accepted like another one. -/
theorem accepts_balance {accountId : Id} {delta other : Int} {db : Db}
    (accepted : Database.accepts (.update .accounts accountId ⟨other⟩) db = true)
    (fits : ∀ wallet ∈ db.accounts, wallet.id = accountId →
      Table.bigint (wallet.balanceIrr + other) = true →
        Table.bigint (wallet.balanceIrr + delta) = true) :
    Database.accepts (.update .accounts accountId ⟨delta⟩) db = true := by
  change Layout.Statement.accepts (L := layout) (.update .accounts accountId ⟨other⟩) db = true
    at accepted
  change Layout.Statement.accepts (L := layout) (.update .accounts accountId ⟨delta⟩) db = true
  simp only [Layout.Statement.accepts, Bool.and_eq_true, List.all_eq_true] at accepted ⊢
  refine ⟨accepted.1, fun wallet member => ?_⟩
  obtain ⟨⟨valid, vacant⟩, present⟩ := accepted.2 wallet member
  have known : wallet ∈ db.accounts ∧ wallet.id = accountId := by
    obtain ⟨among, own⟩ := List.mem_filter.mp member
    exact ⟨among, Option.some.inj (of_decide_eq_true own)⟩
  have fits := fits wallet known.1 known.2
  refine ⟨⟨?_, vacant⟩, present⟩
  simp only [Table.valid, Table.change, Bool.and_eq_true] at valid ⊢
  exact ⟨valid.1, fits valid.2⟩

theorem bigint_iff {value : Int} :
    Table.bigint value = true ↔ -2 ^ 63 ≤ value ∧ value < 2 ^ 63 := by
  simp only [Table.bigint, Bool.and_eq_true, decide_eq_true_eq]
  omega

/-- The numbers of a plan that was accepted and stored. -/
theorem plan_bounds {id organizationId : Id} {data : PlanIn}
    (accepted : Bot.validPlan data = true)
    (stored : @Table.valid .plans (planRow id organizationId data) = true) :
    0 < data.pricePerGibIrr ∧ data.pricePerGibIrr < 2 ^ 63 ∧ 0 ≤ data.creditLimitIrr ∧
      data.creditLimitIrr < 2 ^ 63 ∧ 0 < (planRow id organizationId data).amountIrr := by
  simp only [Bot.validPlan, Bool.and_eq_true, decide_eq_true_eq] at accepted
  simp only [Table.valid, planRow, Bool.and_eq_true, bigint_iff] at stored
  obtain ⟨⟨⟨⟨⟨⟨⟨⟨⟨_, price⟩, atMost⟩, daily⟩, _⟩, duration⟩, _⟩, _⟩, _⟩, credit⟩ := accepted.1
  refine ⟨price, by omega, credit, by omega, ?_⟩
  exact Int.mul_pos (Int.mul_pos price daily) duration

/-- The amount and the credit of an order of a plan. -/
theorem orderRow_numbers (id actorId : Id) (panel : Panel) (slug : String) (data : OrderIn)
    (plan : Plan) :
    (orderRow id actorId panel slug data (some plan)).amountIrr = plan.amountIrr ∧
      (orderRow id actorId panel slug data (some plan)).pricePerGibIrr = plan.pricePerGibIrr ∧
      (orderRow id actorId panel slug data (some plan)).creditLimitIrr =
        if plan.creditLimitIrr = 0 then plan.amountIrr else plan.creditLimitIrr :=
  ⟨rfl, rfl, rfl⟩

/-- An amount that fits its column fits everywhere. -/
theorem amountsFit_of_lt {id organizationId : Id} {data : PlanIn}
    (accepted : Bot.validPlan data = true)
    (stored : @Table.valid .plans (planRow id organizationId data) = true)
    (fits : (planRow id organizationId data).amountIrr < 2 ^ 63) :
    AmountsFit (planRow id organizationId data) := by
  obtain ⟨price, priceFits, credit, creditFits, positive⟩ := plan_bounds accepted stored
  generalize plan_eq : planRow id organizationId data = plan at *
  have numbers : plan.pricePerGibIrr = data.pricePerGibIrr ∧
      plan.creditLimitIrr = data.creditLimitIrr := by
    rw [← plan_eq]
    exact ⟨rfl, rfl⟩
  have creditBounds : 0 ≤ (if plan.creditLimitIrr = 0 then plan.amountIrr else plan.creditLimitIrr) ∧
      (if plan.creditLimitIrr = 0 then plan.amountIrr else plan.creditLimitIrr) < 2 ^ 63 := by
    split_ifs <;> omega
  refine ⟨?_, ?_, ?_, ?_, ?_⟩
  · intro id actorId panel slug data
    refine acceptedLike_insert rfl rfl rfl fun valid => ?_
    obtain ⟨amount, priced, credited⟩ := orderRow_numbers id actorId panel slug data plan
    simp only [Table.valid, Bool.and_eq_true, decide_eq_true_eq, bigint_iff, amount, priced,
      credited] at valid ⊢
    simp only [and_assoc] at valid ⊢
    obtain ⟨key, name, slugFits, users, daily, note, _, _, _, _, _, _, username, admin, decided,
      reason, someUsers, someDaily, _⟩ := valid
    exact ⟨key, name, slugFits, users, daily, note, by omega, creditBounds.2, by omega, by omega,
      by omega, fits, username, admin, decided, reason, someUsers, someDaily, creditBounds.1,
      by omega⟩
  · intro id actorId panel slug data childId parentId name childSlug
    refine acceptedLike_insert rfl rfl rfl fun valid => ?_
    obtain ⟨amount, priced, credited⟩ := orderRow_numbers id actorId panel slug data plan
    simp only [Table.valid, Bool.and_eq_true, bigint_iff, credited] at valid ⊢
    exact ⟨⟨valid.1.1, by omega⟩, valid.2⟩
  · intro id actorId panel slug data contractId parentId childId
    refine acceptedLike_insert rfl rfl rfl fun valid => ?_
    obtain ⟨amount, priced, credited⟩ := orderRow_numbers id actorId panel slug data plan
    simp only [Table.valid, Bool.and_eq_true, bigint_iff, priced] at valid ⊢
    exact ⟨valid.1, by omega⟩
  · intro id actorId panel slug data transactionId accountId side
    refine acceptedLike_insert rfl rfl rfl fun valid => ?_
    obtain ⟨amount, priced, credited⟩ := orderRow_numbers id actorId panel slug data plan
    simp only [Table.valid, Bool.and_eq_true, decide_eq_true_eq, bigint_iff, amount] at valid ⊢
    omega
  · intro id actorId panel slug data accountId db empty acceptedOne
    refine accepts_balance acceptedOne fun wallet member own _ => ?_
    obtain ⟨amount, priced, credited⟩ := orderRow_numbers id actorId panel slug data plan
    rw [empty wallet member own, amount, bigint_iff]
    omega

namespace Sample

/-- A plan of the sample server with a price for each GiB. -/
def planData (pricePerGibIrr dailyGib durationDays : Int) : PlanIn :=
  ⟨"panel", none, "monthly", "", pricePerGibIrr, dailyGib, durationDays, 5, 0, ""⟩

end Sample

/-- An amount that is too large for a column cannot be put into a new wallet. -/
theorem AmountsFit.lt {plan : Plan} (fits : AmountsFit plan) : plan.amountIrr < 2 ^ 63 := by
  let panel : Panel := ⟨"", "", "", "", none, none, none, 0, false, .active, false⟩
  have accepted := fits.wallet "" "" panel "" ⟨"", none, "", 0, 0, ""⟩ "wallet"
    { accounts := [⟨"wallet", "owner", 0⟩] } (by simp) (by decide)
  change Layout.Statement.accepts (L := layout) (.update .accounts "wallet" ⟨plan.amountIrr⟩)
    { accounts := [⟨"wallet", "owner", 0⟩] } = true at accepted
  simp only [Layout.Statement.accepts, Bool.and_eq_true, List.all_eq_true] at accepted
  have valid := (accepted.2 ⟨"wallet", "owner", 0⟩ (by decide)).1.1
  simp only [Table.valid, Table.change, Bool.and_eq_true, bigint_iff] at valid
  omega

/-- What is written for the orders of a stored plan fits exactly if the price of the plan does. -/
theorem amountsFit_iff (id organizationId : Id) (data : PlanIn)
    (accepted : Bot.validPlan data = true)
    (stored : @Table.valid .plans (planRow id organizationId data) = true) :
    AmountsFit (planRow id organizationId data) ↔
      data.pricePerGibIrr * data.dailyGib * data.durationDays < 2 ^ 63 :=
  ⟨fun fits => fits.lt, amountsFit_of_lt accepted stored⟩

/-- A plan of thirty days fits. -/
theorem amountsFit_month :
    AmountsFit (planRow "plan" "org" (Sample.planData 25000 3 30)) ↔
      (25000 : Int) * 3 * 30 < 2 ^ 63 :=
  amountsFit_iff "plan" "org" (Sample.planData 25000 3 30) (by decide) (by decide)

/-- The largest price that the form takes, for the largest size and the longest time. -/
theorem amountsFit_fails :
    ¬∀ (id organizationId : Id) (data : PlanIn), Bot.validPlan data = true →
      @Table.valid .plans (planRow id organizationId data) = true →
      AmountsFit (planRow id organizationId data) := by
  intro fits
  have small := (fits "plan" "org" (Sample.planData 10000000000000 100000 3650) (by decide)
    (by decide)).lt
  exact absurd small (by decide)

end ControlPlane
