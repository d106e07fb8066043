import ControlPlane.WebApi.Access

/-!
# The plan catalog

Published prices a customer can buy without negotiating, and the list of
servers that are on sale.
-/

namespace ControlPlane

open ReadCommitted Orm

/-- `POST /v1/webapp/panels/{panel_id}/saleable`. -/
def setPanelSaleable (env : Env) (identity : TelegramIdentity) (panelId : Id) (saleable : Bool) :
    Op Bool := do
  let caller ← manager env identity.userId .manageServers
  let panel ← ownedPanel panelId caller.organization.id
  assign .panels panel.id { saleable := some saleable }
  audit "panel.saleable" "panel" panel.id (some caller.actor.id) (some caller.organization.id)
  commit
  pure saleable

structure PlanCategoryIn where
  name : String
  description : String
  deriving DecidableEq, Repr

structure PlanIn where
  panelId : Id
  categoryId : Option Id
  name : String
  description : String
  pricePerGibIrr : Int
  dailyGib : Int
  durationDays : Int
  userCount : Int
  creditLimitIrr : Int
  paymentInstructions : String
  deriving DecidableEq, Repr

/-! ## Categories -/

def catalogShelf (categoryId organizationId : Id) : Op PlanCategory := do
  let row ← get .planCategories categoryId
  found (row.filter fun category => category.organizationId = organizationId)
    (.http 404 "category not found")

def createPlanCategory (organizationId actorId : Id) (data : PlanCategoryIn) : Op Id := do
  let taken ← scalar .planCategories fun row =>
    row.organizationId = organizationId ∧ row.name = data.name
  require (taken = none) (.http 409 "یک دسته با همین نام وجود دارد")
  let id ← uid
  insert .planCategories ⟨id, organizationId, data.name, data.description, .active⟩
  audit "plan_category.create" "plan_category" unflushedId (some actorId) (some organizationId)
  pure id

/-- `POST /v1/webapp/plan-categories`. -/
def webCreateCategory (env : Env) (identity : TelegramIdentity) (data : PlanCategoryIn) :
    Op Id := do
  let caller ← manager env identity.userId .manageCatalog
  let id ← createPlanCategory caller.organization.id caller.actor.id data
  commit
  pure id

/-- `PUT /v1/webapp/plan-categories/{category_id}`. -/
def webUpdateCategory (env : Env) (identity : TelegramIdentity) (categoryId : Id)
    (data : PlanCategoryIn) : Op Unit := do
  let caller ← manager env identity.userId .manageCatalog
  let category ← catalogShelf categoryId caller.organization.id
  let taken ← scalar .planCategories fun row =>
    row.organizationId = caller.organization.id ∧ row.name = data.name ∧ row.id ≠ category.id
  require (taken = none) (.http 409 "یک دسته با همین نام وجود دارد")
  assign .planCategories category.id
    { name := some data.name, description := some data.description }
  audit "plan_category.update" "plan_category" category.id (some caller.actor.id)
    (some caller.organization.id)
  commit

/-- `DELETE /v1/webapp/plan-categories/{category_id}`. -/
def webDeleteCategory (env : Env) (identity : TelegramIdentity) (categoryId : Id) : Op Unit := do
  let caller ← manager env identity.userId .manageCatalog
  let category ← catalogShelf categoryId caller.organization.id
  let used ← scalar .plans fun row => row.categoryId = some category.id
  require (used = none) (.http 409 "این دسته هنوز پلن دارد؛ اول پلن‌ها را منتقل یا حذف کنید")
  delete .planCategories category.id
  audit "plan_category.delete" "plan_category" categoryId (some caller.actor.id)
    (some caller.organization.id)
  commit

/-! ## Plans -/

def catalogPlan (planId organizationId : Id) : Op Plan := do
  let row ← get .plans planId
  found (row.filter fun plan => plan.organizationId = organizationId) (.http 404 "plan not found")

/-- A plan may only sit on a server the seller owns, and in a category of their own. -/
def validatedPlan (data : PlanIn) (organizationId : Id) : Op Panel := do
  branch (data.categoryId.filter (· ≠ "")) (pure ()) fun categoryId => do
    let _ ← catalogShelf categoryId organizationId
    pure ()
  ownedPanel data.panelId organizationId

def createCatalogPlan (organizationId actorId : Id) (data : PlanIn) : Op Plan := do
  let panel ← validatedPlan data organizationId
  let id ← uid
  let plan : Plan :=
    { id, organizationId, panelId := panel.id, categoryId := data.categoryId, name := data.name
      description := data.description, pricePerGibIrr := data.pricePerGibIrr
      dailyGib := data.dailyGib, durationDays := data.durationDays, userCount := data.userCount
      creditLimitIrr := data.creditLimitIrr, paymentInstructions := data.paymentInstructions
      status := .active }
  insert .plans plan
  audit "plan.create" "plan" unflushedId (some actorId) (some organizationId)
  pure plan

/-- `POST /v1/webapp/plans`. -/
def webCreatePlan (env : Env) (identity : TelegramIdentity) (data : PlanIn) : Op Id := do
  let caller ← manager env identity.userId .manageCatalog
  let plan ← createCatalogPlan caller.organization.id caller.actor.id data
  commit
  pure plan.id

/-- `PUT /v1/webapp/plans/{plan_id}`. -/
def webUpdatePlan (env : Env) (identity : TelegramIdentity) (planId : Id) (data : PlanIn) :
    Op Unit := do
  let caller ← manager env identity.userId .manageCatalog
  let plan ← catalogPlan planId caller.organization.id
  let panel ← validatedPlan data caller.organization.id
  assign .plans plan.id
    { panelId := some panel.id, categoryId := some data.categoryId, name := some data.name
      description := some data.description, pricePerGibIrr := some data.pricePerGibIrr
      dailyGib := some data.dailyGib, durationDays := some data.durationDays
      userCount := some data.userCount, creditLimitIrr := some data.creditLimitIrr
      paymentInstructions := some data.paymentInstructions }
  audit "plan.update" "plan" plan.id (some caller.actor.id) (some caller.organization.id)
  commit

/-- `DELETE /v1/webapp/plans/{plan_id}`: a plan that was ever bought is only ever closed. -/
def webDeletePlan (env : Env) (identity : TelegramIdentity) (planId : Id) : Op Unit := do
  let caller ← manager env identity.userId .manageCatalog
  let plan ← catalogPlan planId caller.organization.id
  let bought ← scalar .orders fun row => row.planId = some plan.id
  require (bought = none) (.http 409 "این پلن سفارش دارد؛ فقط می‌توان آن را بست")
  delete .plans plan.id
  audit "plan.delete" "plan" planId (some caller.actor.id) (some caller.organization.id)
  commit

/-! ## Opening and closing -/

/-- `status must be active or inactive`. -/
def Switch.ofText (text : String) : Option Switch :=
  if text = "active" then some .active
  else if text = "inactive" then some .inactive
  else none

/-- The two kinds of catalog rows. -/
inductive CatalogKind
  | category
  | plan
  deriving DecidableEq, Repr

/-- Closing a category hides every plan in it; the plans themselves stay as they were. -/
def setCatalogStatus (organizationId actorId : Id) (kind : CatalogKind) (targetId : Id)
    (status : String) : Op Unit := do
  let switch ← found (Switch.ofText status) (.http 422 "status must be active or inactive")
  match kind with
  | .category => do
      let category ← catalogShelf targetId organizationId
      assign .planCategories category.id { status := some switch }
      audit "plan_category.status" "plan_category" targetId (some actorId) (some organizationId)
  | .plan => do
      let plan ← catalogPlan targetId organizationId
      assign .plans plan.id { status := some switch }
      audit "plan.status" "plan" targetId (some actorId) (some organizationId)

/-- A status route of the catalog. -/
def catalogStatusRoute (env : Env) (identity : TelegramIdentity) (kind : CatalogKind)
    (targetId : Id) (status : String) : Op Unit := do
  let caller ← manager env identity.userId .manageCatalog
  setCatalogStatus caller.organization.id caller.actor.id kind targetId status
  commit

/-- `POST /v1/webapp/plan-categories/{category_id}/status`. -/
def webCategoryStatus (env : Env) (identity : TelegramIdentity) (categoryId : Id)
    (status : String) : Op Unit :=
  catalogStatusRoute env identity .category categoryId status

/-- `POST /v1/webapp/plans/{plan_id}/status`. -/
def webPlanStatus (env : Env) (identity : TelegramIdentity) (planId : Id) (status : String) :
    Op Unit :=
  catalogStatusRoute env identity .plan planId status

end ControlPlane
