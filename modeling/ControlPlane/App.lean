import ControlPlane.Domain
import ControlPlane.Rbac
import Mathlib.Data.List.Sort

/-!
# Core operations

Settings, audit rows, wallets, ledger transfers, the hierarchy, metering and
identities: what the routes, the workers and the bot share.
-/

namespace ControlPlane

open ReadCommitted Orm DecimalArithmetic

/-! ## Settings and audit rows -/

def setting (key : String) (default : String) : Op String := do
  let row ← get .settings key
  -- An empty value counts as missing.
  pure (match row with
    | some row => if row.value = "" then default else row.value
    | none => default)

/-- `s.merge(SystemSetting(...))`. -/
def putSetting (key value : String) : Op Unit := do
  let row ← get .settings key
  branch row (insert .settings ⟨key, value⟩) fun _ => assign .settings key { value := some value }

def audit (action targetType targetId : String) (actorId organizationId : Option Id) : Op Unit :=
  insert .auditLogs ⟨actorId, organizationId, action, targetType, targetId, none⟩

/-- `audit(s, "actor.bind", ...)` with its metadata. -/
def auditBinding (actorId organizationId : Id) (details : BindingDetails) : Op Unit :=
  insert .auditLogs ⟨none, some organizationId, "actor.bind", "actor", actorId, some details⟩

/-- `str(row.id)` of a row that is not flushed yet: the default is only assigned by the flush. -/
abbrev unflushedId : String := "None"

/-! ## Wallets and transfers -/

/-- A statement outside the unit of work; a refused one aborts the transaction. -/
def send (statement : Database.Write) : Op Unit := do
  let accepted ← execute statement
  if accepted then pure ()
  else do
    rollback
    throw .database

/-- The wallet of an owner, created on first use. -/
def account (owner : String) : Op Account := do
  let known ← scalar .accounts fun row => row.ownerKey = owner
  branch known
    (do
      let id ← uid
      -- ON CONFLICT DO NOTHING: somebody else may have created it meanwhile.
      let _ ← execute (.insert .accounts ⟨id, owner, 0⟩)
      let created ← scalar .accounts fun row => row.ownerKey = owner
      found created .unexpected)
    pure

def balance (organizationId : Id) : Op Int := do
  let wallet ← account organizationId
  pure wallet.balanceIrr

/-- The rows that a transfer locks, in a fixed order so that transfers cannot deadlock. -/
def accountOrder (source target : Id) : List Id :=
  if source = target then [source]
  else if source ≤ target then [source, target] else [target, source]

/-- The paying organization must be active and have enough credit; its row is locked. -/
def checkPayer (source : String) (balanceIrr amountIrr : Int) : Op Unit := do
  let row ← getForUpdate .organizations source
  let organization ← found row (.valueError "paying organization not found")
  require (organization.status = .active) (.valueError "organization suspended")
  require (amountIrr ≤ balanceIrr + organization.creditLimitIrr)
    (.valueError "insufficient credit")

/-- The ledger rows of a transfer: relative updates of both balances and a double entry. -/
def post (source target : Account) (amountIrr : Int) (key kind reference : String)
    (actorId : Option Id) : Op Transaction := do
  send (.update .accounts source.id ⟨-amountIrr⟩)
  send (.update .accounts target.id ⟨amountIrr⟩)
  let id ← uid
  let transaction : Transaction := ⟨id, key, kind, reference, actorId⟩
  insert .transactions transaction
  insert .entries ⟨id, source.id, .debit, amountIrr⟩
  insert .entries ⟨id, target.id, .credit, amountIrr⟩
  flush
  pure transaction

/-- A transfer whose key was not in use before the wallets were resolved. -/
def transferFresh (source target : String) (amountIrr : Int) (key kind reference : String)
    (enforce : Bool) (actorId : Option Id) : Op Transaction := do
  let sourceAccount ← account source
  let targetAccount ← account target
  flush
  forEach (accountOrder sourceAccount.id targetAccount.id) fun id =>
    lock [.row .accounts id, .key .accounts id]
  let old ← scalar .transactions fun row => row.idempotencyKey = key
  branch old
    (do
      let locked ← get .accounts sourceAccount.id
      let payer ← found locked .unexpected
      when (enforce = true ∧ source ≠ systemOwner) (checkPayer source payer.balanceIrr amountIrr)
      post sourceAccount targetAccount amountIrr key kind reference actorId)
    pure

/-- Move money between two wallets, once for each idempotency key. -/
def transfer (source target : String) (amountIrr : Int) (key kind reference : String)
    (enforce : Bool) (actorId : Option Id) : Op Transaction := do
  require (0 < amountIrr) (.valueError "amount must be positive")
  let old ← scalar .transactions fun row => row.idempotencyKey = key
  branch old (transferFresh source target amountIrr key kind reference enforce actorId) pure

/-! ## Hierarchy -/

/-- One step of `edges` for each unit of fuel; no path visits more organizations than exist. -/
def climb : Nat → Option Organization → List Id → Op (List Edge)
  | 0, _, _ => throw .unexpected
  | fuel + 1, current, seen =>
      branch current (pure []) fun organization =>
        branch organization.parentId (pure []) fun parentId => do
          require (organization.id ∉ seen) (.valueError "hierarchy cycle")
          let row ← scalar .contracts fun row =>
            row.childId = organization.id ∧ row.status = .active
          let contract ← found row (.valueError "active contract missing")
          let parent ← get .organizations parentId
          let rest ← climb fuel parent (organization.id :: seen)
          pure (⟨organization.id, parentId, contract.pricePerGibIrr⟩ :: rest)

/-- The contract edges from an organization to its root. -/
def edges (organizationId : Id) : Op (List Edge) := do
  let size ← select fun db => db.organizations.length
  let organization ← get .organizations organizationId
  climb (size + 2) organization []

def depthOf (organizationId : Id) : Op Nat := do
  let rows ← scalars .closures fun row => row.descendantId = organizationId
  pure (rows.foldl (fun depth row => max depth row.depth) 0)

/-- The deepest ancestor row of an organization is its root. -/
def rootRow (rows : List Closure) : Option Closure :=
  rows.foldl (fun best row =>
    match best with
    | none => some row
    | some deepest => if deepest.depth < row.depth then some row else best) none

def effectiveDepthLimit (env : Env) (parent : Organization) : Op Int := do
  let rows ← scalars .closures fun row => row.descendantId = parent.id
  branch (rootRow rows) (pure (min env.maxTreeDepth parent.maxDepth)) fun row => do
    let stored ← get .organizations row.ancestorId
    let root ← found stored .unexpected
    pure (min env.maxTreeDepth root.maxDepth)

def assertDepthAllowed (env : Env) (parent : Organization) : Op Unit := do
  let limit ← effectiveDepthLimit env parent
  let depth ← depthOf parent.id
  require ((depth : Int) + 1 ≤ limit) (.http 409 s!"maximum reseller depth {limit} reached")

/-! ## Metering -/

/-- Queue an event, unless one is still waiting for the same aggregate. -/
def enqueue (topic : String) (aggregateId : Id) (payload : Payload) : Op Unit := do
  let waiting ← scalar .outbox fun row =>
    row.topic = topic ∧ row.aggregateId = aggregateId ∧ row.status = .pending
  branch waiting
    (do
      let id ← uid
      let time ← now
      insert .outbox ⟨id, topic, aggregateId, payload, .pending, 0, time, none, none, none⟩)
    fun _ => pure ()

def recordHold (bindingId organizationId : Id) (amountIrr : Int) : Op Unit :=
  enqueue "billing.hold_required" bindingId (.hold organizationId amountIrr)

structure UsageIn where
  bindingId : Id
  lifetimeBytes : Nat
  observedAt : Time
  deriving DecidableEq, Repr

/-- A checkpoint with the attributes that this session assigned and did not flush yet. -/
def dirtyCheckpoint (recorded : List Database.Write) (checkpoint : Checkpoint) : Checkpoint :=
  recorded.foldl (fun (current : Checkpoint) row =>
    match row with
    | .update .checkpoints bindingId columns =>
        if bindingId = current.bindingId then
          @Table.change .checkpoints columns current
        else current
    | _ => current) checkpoint

/-- `select(Checkpoint)...with_for_update()`, which meets the session's own instance. -/
def lockedCheckpoint (bindingId : Id) : Op (Option Checkpoint) := do
  let stored ← getForUpdate .checkpoints bindingId
  let rows ← recorded
  pure (stored.map (dirtyCheckpoint rows))

/-- `usage:{binding}:{checkpoint}:{reading}:{child}`. -/
def usageKey (bindingId : Id) (old new : Nat) (childId : Id) : String :=
  "usage:" ++ bindingId ++ ":" ++ toString old ++ ":" ++ toString new ++ ":" ++ childId

/-- Lack of credit turns into a billing hold over what was paid before. -/
def holdFor (binding : Binding) (pending : Int) (exception : Failure) : Failure :=
  if exception = .valueError "insufficient credit" then
    .billingHold binding.id binding.organizationId pending
  else exception

/-- Pay the settlements of a cascade one after the other. -/
def payCascade (binding : Binding) (old new : Nat) : List Settlement → Int → Op Unit
  | [], _ => pure ()
  | settled :: rest, pending => do
      let _ ← tryCatch
        (transfer settled.childId settled.parentId settled.amountIrr
          (usageKey binding.id old new settled.childId) "usage" binding.id true none)
        fun exception => throw (holdFor binding pending exception)
      payCascade binding old new rest (pending + settled.amountIrr)

/-- The usage coefficient of a binding's panel; a missing or zero one counts as 1. -/
def coefficientOf (panel : Option Panel) : Decimal :=
  match panel with
  | some panel => if panel.usageCoefficient = 0 then ⟨1, 0⟩
      else coefficientDecimal panel.usageCoefficient
  | none => ⟨1, 0⟩

/-- The first reading of a binding. -/
def observeBaseline (data : UsageIn) : Op (List Settlement) := do
  insert .checkpoints ⟨data.bindingId, data.lifetimeBytes, data.observedAt, 0⟩
  insert .usages ⟨data.bindingId, data.lifetimeBytes, 0, .baseline, data.observedAt⟩
  pure []

/-- A reading below the checkpoint; enough of them in a row confirm a counter reset. -/
def observeRegression (env : Env) (binding : Binding) (checkpoint : Checkpoint)
    (data : UsageIn) : Op (List Settlement) := do
  let count := checkpoint.anomalyCount + 1
  assign .checkpoints binding.id { anomalyCount := some count }
  insert .usages ⟨binding.id, data.lifetimeBytes, 0, .regression, data.observedAt⟩
  when (env.resetConfirmReadings ≤ count) do
    assign .checkpoints binding.id
      { lifetimeBytes := some data.lifetimeBytes, observedAt := some data.observedAt
        anomalyCount := some 0 }
    insert .usages ⟨binding.id, data.lifetimeBytes, 0, .resetBaseline, data.observedAt⟩
    enqueue "usage.reset_detected" binding.id
      (.usageReset binding.organizationId data.lifetimeBytes)
  pure []

/-- A reading at or above the checkpoint: settle the difference along the hierarchy. -/
def observeAdvance (binding : Binding) (checkpoint : Checkpoint) (data : UsageIn) :
    Op (List Settlement) := do
  let delta := data.lifetimeBytes - checkpoint.lifetimeBytes
  let panel ← get .panels binding.panelId
  let path ← edges binding.organizationId
  let rows ← attempt (cascade delta path (coefficientOf panel))
  payCascade binding checkpoint.lifetimeBytes data.lifetimeBytes rows 0
  assign .checkpoints binding.id
    { lifetimeBytes := some data.lifetimeBytes, observedAt := some data.observedAt
      anomalyCount := some 0 }
  insert .usages ⟨binding.id, data.lifetimeBytes, delta, .accepted, data.observedAt⟩
  pure rows

/-- Meter one reading of a panel counter. -/
def observe (env : Env) (data : UsageIn) : Op (List Settlement) := do
  let row ← get .bindings data.bindingId
  let binding ← found row (.valueError "binding not found")
  let stored ← lockedCheckpoint binding.id
  branch stored (observeBaseline data) fun checkpoint =>
    if data.lifetimeBytes < checkpoint.lifetimeBytes then
      observeRegression env binding checkpoint data
    else observeAdvance binding checkpoint data

/-! ## Panels -/

/-- The credentials of a panel, each of which may be missing or unreadable. -/
def resolveSecrets (panel : Panel) : Op Unit := do
  let apiKey ← consult (.resolveSecret panel.apiKeyRef)
  require (apiKey = true) .unexpected
  let user ← consult (.resolveSecret panel.ownerUserRef)
  require (user = true) .unexpected
  let password ← consult (.resolveSecret panel.ownerPassRef)
  require (password = true) .unexpected

/-- `SUPPORTED_VENDORS`. -/
def supportedVendors : List String := ["pasarguard"]

/-! ## Identities -/

/-- `ORDER BY created_at, id`. -/
def membershipLe (first second : Membership) : Prop :=
  first.createdAt < second.createdAt ∨
    first.createdAt = second.createdAt ∧ first.id ≤ second.id

instance : DecidableRel membershipLe := fun _ _ => inferInstanceAs (Decidable (_ ∨ _ ∧ _))

/-- The membership an account acts with; the root identity prefers the root workspace. -/
def pickMembership (env : Env) (actorId : Id) (telegramId : Int) : Op (Option Membership) := do
  let rootOrganization ← setting "bootstrap_complete" ""
  let active ← scalars .memberships fun row => row.actorId = actorId ∧ row.status = .active
  let rows := active.insertionSort membershipLe
  if env.rootTelegramId = some telegramId then
    pure ((rows.find? fun row => row.organizationId = rootOrganization).or rows.head?)
  else pure rows.head?

/-- Who acts in a request, and for which organization. -/
structure Identity where
  actor : Actor
  membership : Membership
  organization : Organization

def membershipFor (env : Env) (telegramId : Int) : Op Identity := do
  let row ← scalar .actors fun row => row.telegramId = telegramId ∧ row.status = .active
  let actor ← found row (.http 403 "Telegram account is not linked")
  let picked ← pickMembership env actor.id telegramId
  let membership ← found picked (.http 403 "active membership not found")
  let stored ← get .organizations membership.organizationId
  let organization ← found stored .unexpected
  pure ⟨actor, membership, organization⟩

/-! ## Keeping a session ready -/

section

variable {A : Agreement Database} {Benign : Database.Write → Prop} [OffPanel A]

instance (key default : String) : Keeps A Benign (setting key default) := by
  unfold setting
  infer_instance

instance (key value : String) [Admitted Benign .settings] :
    Keeps A Benign (putSetting key value) := by
  unfold putSetting
  infer_instance

instance (action targetType targetId : String) (actorId organizationId : Option Id)
    [Admitted Benign .auditLogs] :
    Keeps A Benign (audit action targetType targetId actorId organizationId) := by
  unfold audit
  infer_instance

instance (actorId organizationId : Id) (details : BindingDetails) [Admitted Benign .auditLogs] :
    Keeps A Benign (auditBinding actorId organizationId details) := by
  unfold auditBinding
  infer_instance

instance (fuel : Nat) (current : Option Organization) (seen : List Id) :
    Keeps A Benign (climb fuel current seen) := by
  induction fuel generalizing current seen with
  | zero => exact Keeps.throw _
  | succ fuel inductionHypothesis =>
      unfold climb
      infer_instance

instance (organizationId : Id) : Keeps A Benign (edges organizationId) := by
  unfold edges
  infer_instance

instance (organizationId : Id) : Keeps A Benign (depthOf organizationId) := by
  unfold depthOf
  infer_instance

instance (env : Env) (parent : Organization) : Keeps A Benign (effectiveDepthLimit env parent) := by
  unfold effectiveDepthLimit
  infer_instance

instance (env : Env) (parent : Organization) : Keeps A Benign (assertDepthAllowed env parent) := by
  unfold assertDepthAllowed
  infer_instance

instance (topic : String) (aggregateId : Id) (payload : Payload) [Admitted Benign .outbox] :
    Keeps A Benign (enqueue topic aggregateId payload) := by
  unfold enqueue
  infer_instance

instance (bindingId organizationId : Id) (amountIrr : Int) [Admitted Benign .outbox] :
    Keeps A Benign (recordHold bindingId organizationId amountIrr) := by
  unfold recordHold
  infer_instance

instance (env : Env) (actorId : Id) (telegramId : Int) :
    Keeps A Benign (pickMembership env actorId telegramId) := by
  unfold pickMembership
  infer_instance

instance (env : Env) (telegramId : Int) : Keeps A Benign (membershipFor env telegramId) := by
  unfold membershipFor
  infer_instance

instance (panel : Panel) : Keeps A Benign (resolveSecrets panel) := by
  unfold resolveSecrets
  infer_instance

variable [A.Admits Benign]

instance (bindingId : Id) : Keeps A Benign (lockedCheckpoint bindingId) := by
  unfold lockedCheckpoint
  infer_instance

instance (data : UsageIn) [Admitted Benign .checkpoints] [Admitted Benign .usages] :
    Keeps A Benign (observeBaseline data) := by
  unfold observeBaseline
  infer_instance

instance (env : Env) (binding : Binding) (checkpoint : Checkpoint) (data : UsageIn)
    [Admitted Benign .checkpoints] [Admitted Benign .usages] [Admitted Benign .outbox] :
    Keeps A Benign (observeRegression env binding checkpoint data) := by
  unfold observeRegression
  infer_instance

end

end ControlPlane
