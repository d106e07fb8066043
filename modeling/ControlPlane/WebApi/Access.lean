import ControlPlane.App

/-!
# Access to the WebApp

Who may call a route of the WebApp, which servers belong to a caller, and the
node routes, which make one call on a server.
-/

namespace ControlPlane

open ReadCommitted Orm

/-- The verified Telegram identity of a request. -/
structure TelegramIdentity where
  userId : Int
  firstName : String
  deriving DecidableEq, Repr

def requireRoot (env : Env) (identity : TelegramIdentity) : Op Unit :=
  branch env.rootTelegramId (throw (.http 503 "Telegram administrator is not configured"))
    fun root => require (identity.userId = root)
      (.http 403 "system administrator permission required")

def optionalMembership (telegramId : Int) : Op (Option Identity) := do
  let row ← scalar .actors fun row => row.telegramId = telegramId ∧ row.status = .active
  branch row (pure none) fun actor => do
    let linked ← scalar .memberships fun row => row.actorId = actor.id ∧ row.status = .active
    branch linked (pure none) fun membership => do
      let stored ← get .organizations membership.organizationId
      let organization ← found stored .unexpected
      pure (some ⟨actor, membership, organization⟩)

/-- Resolve the caller's effective role and refuse the route without that permission. -/
def manager (env : Env) (telegramId : Int) (permission : Permission) : Op Identity := do
  let identity ← membershipFor env telegramId
  require (can (effectiveRole env.rootTelegramId telegramId identity.membership.role) permission)
    (.http 403 (denialFa permission))
  pure identity

/-! ## Servers -/

def ownedPanel (panelId organizationId : Id) : Op Panel := do
  let link ← scalar .panelOwners fun row =>
    row.panelId = panelId ∧ row.organizationId = organizationId
  let panel ← branch link (pure none) fun _ => get .panels panelId
  found (panel.filter fun panel => panel.status = .active) (.http 404 "server not found")

/-- `panel_client`; the message of an unsupported vendor is no valid keyword argument. -/
def panelClient (panel : Panel) : Op Unit := do
  require (panel.vendor ∈ supportedVendors) .unexpected
  resolveSecrets panel

/-- The answer of a panel, whatever kept the call from succeeding. -/
def panelAnswer (panel : Panel) (call : PanelCall) : Op (Except PanelFailure call.Reply) :=
  tryCatch
    (do
      panelClient panel
      consult (.panel panel call))
    fun _ => pure (.error .unreachable)

/-- What the caller learns of a failed call. -/
def PanelFailure.failure : PanelFailure → Failure
  | .status code =>
      if code = 401 ∨ code = 403 then
        .http 502 "اعتبارنامهٔ ذخیره‌شده در PasarGuard پذیرفته نشد"
      else .http 502 s!"سرور PasarGuard این عملیات را رد کرد (HTTP {code})"
  | .unreachable => .http 502 "اتصال به PasarGuard برقرار نشد"

/-- Run one panel call for an owned server, auditing it and translating failures. -/
def panelOperation (panel : Panel) (organizationId : Id) (action : String) (call : PanelCall)
    (actorId : Option Id) : Op call.Reply := do
  let answer ← panelAnswer panel call
  let outcome := if answer.isOk then action else action ++ ".failed"
  audit outcome "panel" panel.id actorId (some organizationId)
  commit
  attempt (answer.mapError PanelFailure.failure)

/-! ## Node routes -/

/-- `GET /v1/webapp/panels/{panel_id}/nodes`. -/
def webPanelNodes (env : Env) (identity : TelegramIdentity) (panelId : Id) : Op Unit := do
  let caller ← manager env identity.userId .manageServers
  let panel ← ownedPanel panelId caller.organization.id
  panelOperation panel caller.organization.id "panel.nodes.read" .nodes none

/-- `GET /v1/webapp/panels/{panel_id}/nodes/{node_id}/status`. -/
def webNodeStatus (env : Env) (identity : TelegramIdentity) (panelId : Id) (nodeId : Int) :
    Op Unit := do
  let caller ← manager env identity.userId .nodeControl
  let panel ← ownedPanel panelId caller.organization.id
  panelOperation panel caller.organization.id "node.status.read" (.nodeStatus nodeId) none

/-- A node route that changes the node. -/
def controlNode (env : Env) (identity : TelegramIdentity) (panelId : Id) (action : String)
    (call : PanelCall) : Op call.Reply := do
  let caller ← manager env identity.userId .nodeControl
  let panel ← ownedPanel panelId caller.organization.id
  panelOperation panel caller.organization.id action call (some caller.actor.id)

/-- `POST .../nodes/{node_id}/reconnect`. -/
def webReconnectNode (env : Env) (identity : TelegramIdentity) (panelId : Id) (nodeId : Int) :
    Op Unit :=
  controlNode env identity panelId "node.reconnect" (.reconnectNode nodeId)

/-- `POST .../nodes/{node_id}/reset`. -/
def webResetNode (env : Env) (identity : TelegramIdentity) (panelId : Id) (nodeId : Int) :
    Op Unit :=
  controlNode env identity panelId "node.reset" (.resetNode nodeId)

/-- `_enabled_flag`. -/
def enabledFlag (value : String) : Op Bool :=
  if value = "enable" then pure true
  else if value = "disable" then pure false
  else throw (.http 422 "operation must be enable or disable")

/-- `POST .../nodes/{node_id}/{enabled}`. -/
def webSetNodeEnabled (env : Env) (identity : TelegramIdentity) (panelId : Id) (nodeId : Int)
    (enabled : String) : Op Unit := do
  let caller ← manager env identity.userId .nodeControl
  let panel ← ownedPanel panelId caller.organization.id
  let flag ← enabledFlag enabled
  panelOperation panel caller.organization.id (if flag then "node.enable" else "node.disable")
    (.setNodeEnabled nodeId flag) (some caller.actor.id)

/-! ## Keeping a session ready -/

section

variable {A : Agreement Database} {Benign : Database.Write → Prop} [OffPanel A]

instance (env : Env) (identity : TelegramIdentity) : Keeps A Benign (requireRoot env identity) := by
  unfold requireRoot
  infer_instance

instance (telegramId : Int) : Keeps A Benign (optionalMembership telegramId) := by
  unfold optionalMembership
  infer_instance

instance (env : Env) (telegramId : Int) (permission : Permission) :
    Keeps A Benign (manager env telegramId permission) := by
  unfold manager
  infer_instance

instance (panel : Panel) : Keeps A Benign (panelClient panel) := by
  unfold panelClient
  infer_instance

instance (panelId organizationId : Id) : Keeps A Benign (ownedPanel panelId organizationId) := by
  unfold ownedPanel
  infer_instance

end

end ControlPlane
