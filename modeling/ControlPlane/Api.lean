import ControlPlane.WebApi.Network

/-!
# The control API

The routes of the machine-to-machine API: opening an organization, linking a
Telegram account, funding a wallet, and metering usage, one reading at a time
or in a batch.
-/

namespace ControlPlane

open ReadCommitted Orm

structure OrgIn where
  name : String
  slug : String
  parentId : Option Id
  /-- `ge=0`. -/
  pricePerGibIrr : Option Nat
  /-- `ge=0`. -/
  creditLimitIrr : Nat
  deriving DecidableEq, Repr

/-- The parent of a new organization and the agreed price, where a parent is named. -/
def orgParent (env : Env) (data : OrgIn) : Op (Option (Organization × Nat)) :=
  branch (data.parentId.filter (· ≠ "")) (pure none) fun parentId => do
    let row ← get .organizations parentId
    let parent ← found row (.http 404 "parent not found")
    let price ← found data.pricePerGibIrr (.http 422 "child price required")
    assertDepthAllowed env parent
    pure (some (parent, price))

/-- `POST /v1/organizations`. -/
def createOrg (env : Env) (data : OrgIn) : Op Id := do
  requireFreeSlug data.slug "slug exists"
  let parent ← orgParent env data
  let id ← uid
  insert .organizations
    ⟨id, data.parentId, data.name, data.slug, .active, data.creditLimitIrr, 5⟩
  flush
  insert .closures ⟨id, id, 0⟩
  branch parent (pure ()) fun (parent, price) => do
    let ancestors ← scalars .closures fun row => row.descendantId = parent.id
    forEach ancestors fun edge => insert .closures ⟨edge.ancestorId, id, edge.depth + 1⟩
    let contractId ← uid
    insert .contracts ⟨contractId, parent.id, id, price, .active⟩
  let _ ← account id
  audit "organization.create" "organization" id none (some id)
  commit
  pure id

structure ActorBindIn where
  telegramId : Int
  displayName : String
  organizationId : Id
  /-- One of `ASSIGNABLE_ROLES`. -/
  role : Role
  deriving DecidableEq, Repr

/-- `POST /v1/admin/actor-bindings`: link an account to one more organization. -/
def bindActor (data : ActorBindIn) : Op (Id × Id) := do
  let row ← get .organizations data.organizationId
  let _ ← found row (.http 404 "organization not found")
  let actorId ← accountFor data.telegramId data.displayName
  let linked ← scalar .memberships fun row =>
    row.organizationId = data.organizationId ∧ row.actorId = actorId
  branch linked (addMembership data.organizationId actorId data.role) fun _ => pure ()
  auditBinding actorId data.organizationId ⟨data.telegramId, data.role⟩
  commit
  pure (actorId, data.organizationId)

structure FundIn where
  /-- `gt=0`. -/
  amountIrr : Int
  idempotencyKey : String
  deriving DecidableEq, Repr

/-- `POST /v1/organizations/{id}/fund`. -/
def fund (organizationId : Id) (data : FundIn) : Op (Id × Int) := do
  let row ← get .organizations organizationId
  let _ ← found row (.http 404 "organization not found")
  let transaction ← transfer systemOwner organizationId data.amountIrr data.idempotencyKey "fund"
    organizationId false none
  audit "wallet.fund" "transaction" transaction.id none organizationId
  commit
  let left ← balance organizationId
  pure (transaction.id, left)

/-- What the usage routes do with an exception of `observe`. -/
def usageFailed (exception : Failure) : Op (List Settlement) :=
  match exception with
  | .billingHold bindingId organizationId amountIrr => do
      rollback
      recordHold bindingId organizationId amountIrr
      commit
      throw (.http 402 "insufficient credit; billing hold required")
  | .valueError message => do
      rollback
      throw (.http 409 message)
  | other => throw other

/-- `POST /v1/internal/usage`. -/
def usage (env : Env) (data : UsageIn) : Op (List Settlement) :=
  tryCatch
    (do
      let settlements ← observe env data
      commit
      pure settlements)
    usageFailed

/-- One item of a batch: its settlements, or the hold it ended in. -/
def observeItem (env : Env) (item : UsageIn) : Op (Id × List Settlement ⊕ Id × Id) :=
  tryCatch
    (do
      let settlements ← observe env item
      pure (.inl (item.bindingId, settlements)))
    fun exception =>
      match exception with
      | .billingHold bindingId organizationId amountIrr => do
          recordHold bindingId organizationId amountIrr
          pure (.inr (bindingId, organizationId))
      | other => throw other

/-- The loop of a batch, in one session without commits. -/
def observeItems (env : Env) : List UsageIn → Op (List (Id × List Settlement ⊕ Id × Id))
  | [] => pure []
  | item :: items => do
      let outcome ← observeItem env item
      let outcomes ← observeItems env items
      pure (outcome :: outcomes)

structure BatchOut where
  results : List (Id × List Settlement)
  holds : List (Id × Id)
  deriving DecidableEq, Repr

/-- `POST /v1/internal/usage/batch`. -/
def usageBatch (env : Env) (observations : List UsageIn) : Op BatchOut := do
  let outcomes ← observeItems env observations
  let results := outcomes.filterMap Sum.getLeft?
  let holds := outcomes.filterMap Sum.getRight?
  commit
  require (holds = [] ∨ results ≠ []) (.http 402 "billing hold recorded")
  pure ⟨results, holds⟩

end ControlPlane
