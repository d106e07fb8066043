import ControlPlane.Library.PythonText
import ControlPlane.WebApi.Orders
import ControlPlane.WebApi.Subscribers

/-!
# Servers

Registering a server and a billing binding, through the machine-to-machine API
and through the WebApp, and the two settings of a server that a seller changes.
-/

namespace ControlPlane

open ReadCommitted Orm PythonText

/-- The parts of an address that `urllib.parse.urlsplit` finds. -/
structure UrlParts where
  scheme : String
  hostname : Option String
  username : Option String
  password : Option String
  deriving DecidableEq, Repr

/-- What the routes use of other packages. -/
structure Packages where
  /-- `urlsplit(url)`; `none` stands for a `ValueError`. -/
  urlsplit : String → Option UrlParts
  /-- `_fernet().encrypt(value)`; `none` stands for a missing key. -/
  encrypt : String → Option String

/-- `text.rstrip(char)`. -/
def rstrip (char : Char) (text : String) : String :=
  String.ofList ((text.toList.reverse.dropWhile (· = char)).reverse)

/-- A panel must be reachable over TLS without credentials smuggled into the URL. -/
def validatePanelUrl (packages : Packages) (url : String) : Op Unit := do
  let parsed ← found (packages.urlsplit url) (.http 422 "server URL is invalid")
  require (parsed.scheme = "https") (.http 422 "server URL must use HTTPS")
  require (truthyText parsed.hostname = true) (.http 422 "server URL must include a hostname")
  require (truthyText parsed.username = false ∧ truthyText parsed.password = false)
    (.http 422 "credentials are not allowed in the server URL")

/-- `encrypt_secret`. -/
def encryptSecret (packages : Packages) (value : Option String) : Op (Option String) :=
  branch (value.filter (· ≠ "")) (pure none) fun value => do
    let token ← found (packages.encrypt value) .unexpected
    pure (some ("enc://" ++ token))

/-! ## The control API -/

structure PanelIn where
  name : String
  baseUrl : String
  /-- In ten-thousandths. -/
  usageCoefficient : Nat
  deriving DecidableEq, Repr

/-- `POST /v1/panels`. -/
def createPanel (packages : Packages) (data : PanelIn) : Op Id := do
  let url := rstrip '/' data.baseUrl
  validatePanelUrl packages url
  let id ← uid
  insert .panels
    { id, name := data.name, baseUrl := url, vendor := "pasarguard", apiKeyRef := none
      ownerUserRef := none, ownerPassRef := none, usageCoefficient := data.usageCoefficient
      verifyTls := true, status := .active, saleable := false }
  audit "panel.create" "panel" unflushedId none none
  commit
  pure id

structure BindingIn where
  organizationId : Id
  panelId : Id
  pgAdminId : Int
  username : String
  deriving DecidableEq, Repr

/-- `POST /v1/bindings`. -/
def createBinding (data : BindingIn) : Op Id := do
  let organization ← get .organizations data.organizationId
  let panel ← get .panels data.panelId
  require (organization ≠ none ∧ panel ≠ none) (.http 404 "org/panel not found")
  let id ← uid
  insert .bindings
    ⟨id, data.organizationId, data.panelId, data.pgAdminId, data.username, .active⟩
  audit "binding.create" "binding" unflushedId none (some data.organizationId)
  commit
  pure id

/-! ## The WebApp -/

structure WebPanelIn where
  name : String
  baseUrl : String
  apiKey : String
  ownerUsername : Option String
  ownerPassword : Option String
  pgAdminId : Option Int
  adminUsername : Option String
  /-- In ten-thousandths. -/
  usageCoefficient : Nat
  verifyTls : Bool
  deriving DecidableEq, Repr

/-- The billing binding that may come along with a server. -/
def bindSeller (organizationId panelId : Id) (adminUsername : Option String) (pgAdminId : Int) :
    Op Unit := do
  let bound ← scalar .bindings fun row => row.organizationId = organizationId
  require (bound = none) (.http 409 "this organization already has a billing binding")
  let id ← uid
  insert .bindings ⟨id, organizationId, panelId, pgAdminId,
    (adminUsername.filter (· ≠ "")).getD (toString pgAdminId), .active⟩

/-- The server that a registration asks for. -/
def panelRow (id : Id) (data : WebPanelIn) (apiKeyRef ownerUserRef ownerPassRef : Option String) :
    Panel where
  id := id
  name := data.name
  baseUrl := rstrip '/' data.baseUrl
  vendor := "pasarguard"
  apiKeyRef := apiKeyRef
  ownerUserRef := ownerUserRef
  ownerPassRef := ownerPassRef
  usageCoefficient := data.usageCoefficient
  verifyTls := data.verifyTls
  status := .active
  saleable := false

/-- `POST /v1/webapp/panels`. -/
def webCreatePanel (env : Env) (packages : Packages) (identity : TelegramIdentity)
    (data : WebPanelIn) : Op Id := do
  let caller ← manager env identity.userId .manageServers
  validatePanelUrl packages data.baseUrl
  require (data.verifyTls = true ∨
      effectiveRole env.rootTelegramId identity.userId caller.membership.role = .systemAdmin)
    (.http 403 "تنها مدیر کل سیستم می‌تواند اعتبارسنجی گواهی TLS را غیرفعال کند")
  -- The test request goes to a server that has no row yet.
  let probe ← consult (.panel (panelRow "" data none none none) .nodes)
  require (probe.isOk = true)
    (.http 422 "PasarGuard connection failed: the server did not answer the test request")
  let apiKeyRef ← encryptSecret packages (some data.apiKey)
  let ownerUserRef ← encryptSecret packages data.ownerUsername
  let ownerPassRef ← encryptSecret packages data.ownerPassword
  let id ← uid
  insert .panels (panelRow id data apiKeyRef ownerUserRef ownerPassRef)
  flush
  insert .panelOwners ⟨id, caller.organization.id⟩
  branch (truthy data.pgAdminId) (pure ())
    (bindSeller caller.organization.id id data.adminUsername)
  audit "panel.create" "panel" id none (some caller.organization.id)
  commit
  pure id

/-- `POST /v1/webapp/panels/{panel_id}/limit`. -/
def webSetAdminLimit (env : Env) (identity : TelegramIdentity) (panelId : Id)
    (limitUseInBytes : Int) : Op Unit := do
  let caller ← manager env identity.userId .adminLimit
  let panel ← ownedPanel panelId caller.organization.id
  let binding ← orgBinding caller.organization.id panel.id
  panelOperation panel caller.organization.id "admin.limit"
    (.modifyAdmin binding.pgAdminId limitUseInBytes) (some caller.actor.id)

/-- `POST /v1/webapp/panels/{panel_id}/coefficient`. -/
def webSetUsageCoefficient (env : Env) (identity : TelegramIdentity) (panelId : Id)
    (usageCoefficient : Nat) : Op Nat := do
  let caller ← manager env identity.userId .changeBillingCoefficient
  let panel ← ownedPanel panelId caller.organization.id
  assign .panels panel.id { usageCoefficient := some usageCoefficient }
  audit "panel.coefficient" "panel" panel.id (some caller.actor.id) (some caller.organization.id)
  commit
  pure usageCoefficient

end ControlPlane
