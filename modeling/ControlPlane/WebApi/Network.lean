import ControlPlane.WebApi.Access

/-!
# The reseller network

Setting up the workspace, opening an organization below another one, and
suspending direct resellers.
-/

namespace ControlPlane

open ReadCommitted Orm

/-- What every route does to hang a new organization below its parent: the organization, its
place in the hierarchy, its contract and its wallet. -/
def openChild (parentId : Id) (name slug : String) (creditLimitIrr pricePerGibIrr : Int) :
    Op Id := do
  let id ← uid
  insert .organizations ⟨id, some parentId, name, slug, .active, creditLimitIrr, 5⟩
  flush
  insert .closures ⟨id, id, 0⟩
  let ancestors ← scalars .closures fun row => row.descendantId = parentId
  forEach ancestors fun edge => insert .closures ⟨edge.ancestorId, id, edge.depth + 1⟩
  let contractId ← uid
  insert .contracts ⟨contractId, parentId, id, pricePerGibIrr, .active⟩
  let _ ← account id
  pure id

def addMembership (organizationId actorId : Id) (role : Role) : Op Unit := do
  let id ← uid
  let time ← now
  insert .memberships ⟨id, organizationId, actorId, role, .active, time⟩

/-- Nobody else uses the slug. -/
def requireFreeSlug (slug message : String) : Op Unit := do
  let taken ← scalar .organizations fun row => row.slug = slug
  require (taken = none) (.http 409 message)

/-- The account of a Telegram id, created where there is none. -/
def accountFor (telegramId : Int) (displayName : String) : Op Id := do
  let known ← scalar .actors fun row => row.telegramId = telegramId
  branch known
    (do
      let id ← uid
      insert .actors ⟨id, telegramId, displayName, .active⟩
      flush
      pure id)
    fun actor => pure actor.id

structure BootstrapIn where
  setupToken : String
  businessName : String
  slug : String
  deriving DecidableEq, Repr

/-- The setup token of the environment, compared in constant time. -/
def requireSetupToken (env : Env) (setupToken : String) : Op Unit := do
  require (32 ≤ env.initialSetupToken.length) (.http 401 "invalid setup token")
  -- `compare_digest` takes ASCII texts only.
  require ((env.initialSetupToken.toList ++ setupToken.toList).all fun character =>
    character.toNat < 128) .unexpected
  require (env.initialSetupToken = setupToken) (.http 401 "invalid setup token")

/-- `POST /v1/onboarding/bootstrap`. -/
def bootstrapWorkspace (env : Env) (identity : TelegramIdentity) (data : BootstrapIn) :
    Op (Id × Id) := do
  requireSetupToken env data.setupToken
  let complete ← get .settings "bootstrap_complete"
  require (complete = none) (.http 409 "workspace setup is already complete")
  requireFreeSlug data.slug "slug exists"
  let id ← uid
  insert .organizations ⟨id, none, data.businessName, data.slug, .active, 0, 5⟩
  flush
  insert .closures ⟨id, id, 0⟩
  let _ ← account id
  let actorId ← accountFor identity.userId identity.firstName
  addMembership id actorId .resellerAdmin
  putSetting "bootstrap_complete" id
  audit "workspace.bootstrap" "organization" id (some actorId) (some id)
  commit
  pure (id, actorId)

structure WebChildIn where
  name : String
  slug : String
  /-- `gt=0`. -/
  pricePerGibIrr : Int
  /-- `ge=0`. -/
  creditLimitIrr : Nat
  deriving DecidableEq, Repr

/-- `POST /v1/webapp/children`. -/
def webCreateChild (env : Env) (identity : TelegramIdentity) (data : WebChildIn) : Op Id := do
  let caller ← manager env identity.userId .manageResellers
  requireFreeSlug data.slug "slug exists"
  assertDepthAllowed env caller.organization
  let id ← openChild caller.organization.id data.name data.slug data.creditLimitIrr
    data.pricePerGibIrr
  audit "organization.create" "organization" id (some caller.actor.id) (some caller.organization.id)
  commit
  pure id

structure AdminResellerIn where
  name : String
  slug : String
  /-- `gt=0`. -/
  telegramId : Int
  /-- `gt=0`. -/
  pricePerGibIrr : Int
  /-- `ge=0`. -/
  creditLimitIrr : Nat
  deriving DecidableEq, Repr

/-- The account that runs a new reseller; an account in use is refused. -/
def resellerTarget (telegramId : Int) : Op (Option Actor) := do
  let target ← scalar .actors fun row => row.telegramId = telegramId
  branch target (pure ()) fun actor => do
    let linked ← scalar .memberships fun row => row.actorId = actor.id ∧ row.status = .active
    require (linked = none) (.http 409 "Telegram account is already linked")
  pure target

/-- Create or reactivate the account that runs a new reseller. -/
def enlistTarget (target : Option Actor) (telegramId : Int) (name : String) : Op Id :=
  branch target
    (do
      let id ← uid
      insert .actors ⟨id, telegramId, name, .active⟩
      flush
      pure id)
    fun actor => do
      assign .actors actor.id
        { status := some .active
          displayName := some (if actor.displayName = "" then name else actor.displayName) }
      pure actor.id

/-- `POST /v1/webapp/admin/resellers`. -/
def adminCreateReseller (env : Env) (identity : TelegramIdentity) (data : AdminResellerIn) :
    Op Id := do
  let caller ← membershipFor env identity.userId
  requireRoot env identity
  assertDepthAllowed env caller.organization
  requireFreeSlug data.slug "slug already exists"
  let target ← resellerTarget data.telegramId
  let id ← openChild caller.organization.id data.name data.slug data.creditLimitIrr
    data.pricePerGibIrr
  let actorId ← enlistTarget target data.telegramId data.name
  addMembership id actorId .resellerAdmin
  audit "reseller.create" "organization" id (some caller.actor.id) (some id)
  commit
  pure id

/-- `POST /v1/webapp/admin/resellers/{organization_id}/status`: suspend or reactivate a direct
reseller. -/
def adminSetResellerStatus (env : Env) (identity : TelegramIdentity) (organizationId : Id) :
    Op OrganizationStatus := do
  let caller ← membershipFor env identity.userId
  requireRoot env identity
  let row ← get .organizations organizationId
  let child ← found row (.http 404 "reseller not found")
  require (child.parentId = some caller.organization.id) (.http 404 "reseller not found")
  let status := if child.status = .active then OrganizationStatus.suspended else .active
  assign .organizations child.id { status := some status }
  audit (if status = .suspended then "reseller.suspend" else "reseller.activate") "organization"
    child.id (some caller.actor.id) (some child.id)
  commit
  pure status

end ControlPlane
