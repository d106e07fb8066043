import ControlPlane.WebApi.Access

/-!
# What the outbox delivers

The handlers of queued events: each acts on a panel or writes to Telegram,
and commits what it changed. They leave the queue itself alone.
-/

namespace ControlPlane

open ReadCommitted Orm

/-- `notify`. -/
def notify (env : Env) (chatIds : List Int) : Op Unit := do
  require (env.telegramBotToken ≠ "") .unexpected
  forEach chatIds fun chatId => do
    let sent ← consult (.sendMessage chatId)
    require (sent = true) .unexpected

/-- The active members of an organization, by their Telegram ids. -/
def audience (organizationId : Id) : Op (List Int) :=
  select fun db => db.actors.flatMap fun actor =>
    (db.memberships.filter fun row =>
      row.actorId = actor.id && row.organizationId = organizationId && row.status = .active &&
        actor.status = .active).map fun _ => actor.telegramId

/-- `payload["organization_id"]`. -/
def Payload.organizationId : Payload → Option Id
  | .hold organizationId _ => some organizationId
  | .usageReset organizationId _ => some organizationId
  | .orderApproved organizationId _ => some organizationId
  | .decision _ _ => none

/-- Suspend the binding on its panel, and tell the reseller. -/
def handleBillingHold (env : Env) (event : Outbox) : Op Unit := do
  let row ← get .bindings event.aggregateId
  let binding ← found row .unexpected
  let panel ← get .panels binding.panelId
  branch (panel.filter fun panel => panel.status = .active && binding.status = .active) (pure ())
    fun panel => do
      panelClient panel
      let answer ← consult (.panel panel (.modifyAdmin binding.pgAdminId env.holdLimitBytes))
      require (answer.isOk = true) .unexpected
      assign .bindings binding.id { status := some .suspended }
  let chatIds ← audience binding.organizationId
  notify env chatIds
  commit

def handleUsageReset (env : Env) (event : Outbox) : Op Unit := do
  let organizationId ← found event.payload.organizationId .unexpected
  let row ← get .organizations organizationId
  let organization ← found row .unexpected
  let chatIds ← audience organization.id
  notify env chatIds
  commit

/-- No payload that is queued names a `chat_id`. -/
def handleApprovalGranted (env : Env) (_ : Outbox) : Op Unit := do
  notify env []
  commit

def handleSupportTicket (env : Env) (_ : Outbox) : Op Unit := do
  let root ← found env.rootTelegramId .unexpected
  notify env [root]
  commit

/-- `HANDLERS`. -/
def handlers (env : Env) (topic : String) : Option (Outbox → Op Unit) :=
  if topic = "billing.hold_required" then some (handleBillingHold env)
  else if topic = "usage.reset_detected" then some (handleUsageReset env)
  else if topic = "approval.granted" then some (handleApprovalGranted env)
  else if topic = "support.ticket" then some (handleSupportTicket env)
  else none

/-! ## Keeping a session ready -/

section

variable {A : Agreement Database} {Benign : Database.Write → Prop} [OffPanel A]
  [∀ panel call, A.Asks (.panel panel call)] [A.Admits Benign] [Admitted Benign .bindings]

instance (env : Env) (chatIds : List Int) : Keeps A Benign (notify env chatIds) := by
  unfold notify
  infer_instance

instance (organizationId : Id) : Keeps A Benign (audience organizationId) := by
  unfold audience
  infer_instance

set_option synthInstance.maxSize 100000 in
instance (env : Env) (event : Outbox) : Keeps A Benign (handleBillingHold env event) := by
  unfold handleBillingHold
  infer_instance

instance (env : Env) (event : Outbox) : Keeps A Benign (handleUsageReset env event) := by
  unfold handleUsageReset
  infer_instance

instance (env : Env) (event : Outbox) : Keeps A Benign (handleApprovalGranted env event) := by
  unfold handleApprovalGranted
  infer_instance

instance (env : Env) (event : Outbox) : Keeps A Benign (handleSupportTicket env event) := by
  unfold handleSupportTicket
  infer_instance

/-- Every handler keeps its session ready. -/
theorem keeps_handlers {env : Env} {topic : String} {handler : Outbox → Op Unit}
    (handles : handlers env topic = some handler) (event : Outbox) :
    Keeps A Benign (handler event) := by
  unfold handlers at handles
  split at handles
  · cases handles
    infer_instance
  split at handles
  · cases handles
    infer_instance
  split at handles
  · cases handles
    infer_instance
  split at handles
  · cases handles
    infer_instance
  · cases handles

end

end ControlPlane
