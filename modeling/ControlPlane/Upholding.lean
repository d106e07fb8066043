import ControlPlane.Library.Upholding
import ControlPlane.Sustaining

/-!
# What sessions uphold

Operations that only write tables about which nothing is known uphold what a
session knows about the other ones, unless they lose the transaction.
-/

namespace ControlPlane

open ReadCommitted Orm

variable {A : Agreement Database} {Benign : Database.Write → Prop} {base more : Law Database}
  [A.Starts Benign base] [more.Tolerates Benign] [OffPanel A]

instance (table : Table) (key : table.Key) :
    Upholds (α := no_index (Option table.Row)) A Benign base more (get table key) :=
  inferInstanceAs (Upholds A Benign base more (select _))

instance (table : Table) (condition : table.Row → Bool) :
    Upholds (α := no_index (Option table.Row)) A Benign base more (scalar table condition) :=
  inferInstanceAs (Upholds A Benign base more (select _))

instance : Upholds A Benign base more uid where
  upholds _ due := ⟨Agreement.Asks.asks, fun _ => due⟩

instance (table : Table) [admitted : Admitted Benign table] (row : table.Row) :
    Upholds A Benign base more (insert table row) :=
  Upholds.add (admitted.insert row)

instance (table : Table) [admitted : Admitted Benign table] (row : table.Row) :
    Upholds A Benign base more (execute (.insert table row) : Op Bool) :=
  Upholds.execute (admitted.insert row)

instance (table : Table) (key : table.Key) :
    Upholds (α := no_index (Option table.Row)) A Benign base more (getForUpdate table key) := by
  unfold getForUpdate
  infer_instance

instance (bindingId : Id) : Upholds A Benign base more (lockedCheckpoint bindingId) := by
  unfold lockedCheckpoint
  infer_instance

/-- A refused statement ends the transaction, and what was known about it with it. -/
instance (table : Table) [admitted : Admitted Benign table] (key : table.Key)
    (columns : table.Change) : Upholds A Benign base more (send (.update table key columns)) := by
  have sent : Upholds A Benign base more (execute (.update table key columns) : Op Bool) :=
    Upholds.execute (admitted.update key columns)
  have checked : ∀ accepted : Bool, Upholds A Benign base more
      (if accepted then pure () else do rollback; throw .database : Op Unit) := by
    intro accepted
    split
    · infer_instance
    · exact Upholds.abandon _
  unfold send
  infer_instance

instance (fuel : Nat) (current : Option Organization) (seen : List Id) :
    Upholds A Benign base more (climb fuel current seen) := by
  induction fuel generalizing current seen with
  | zero => exact Upholds.throw _
  | succ fuel inductionHypothesis =>
      unfold climb
      infer_instance

instance (organizationId : Id) : Upholds A Benign base more (edges organizationId) := by
  unfold edges
  infer_instance

instance (source : String) (balanceIrr amountIrr : Int) :
    Upholds A Benign base more (checkPayer source balanceIrr amountIrr) := by
  unfold checkPayer
  infer_instance

variable [Admitted Benign .accounts] [Admitted Benign .transactions] [Admitted Benign .entries]

instance (owner : String) : Upholds A Benign base more (account owner) := by
  unfold account
  infer_instance

set_option synthInstance.maxSize 100000 in
instance (source target : Account) (amountIrr : Int) (key kind reference : String)
    (actorId : Option Id) :
    Upholds A Benign base more (post source target amountIrr key kind reference actorId) := by
  unfold post
  infer_instance

set_option synthInstance.maxSize 100000 in
instance (source target : String) (amountIrr : Int) (key kind reference : String) (enforce : Bool)
    (actorId : Option Id) :
    Upholds A Benign base more
      (transferFresh source target amountIrr key kind reference enforce actorId) := by
  unfold transferFresh
  infer_instance

instance (source target : String) (amountIrr : Int) (key kind reference : String) (enforce : Bool)
    (actorId : Option Id) :
    Upholds A Benign base more
      (transfer source target amountIrr key kind reference enforce actorId) := by
  unfold transfer
  infer_instance

instance (binding : Binding) (old new : Nat) (rows : List Settlement) (pending : Int) :
    Upholds A Benign base more (payCascade binding old new rows pending) := by
  induction rows generalizing pending with
  | nil => exact Upholds.pure ()
  | cons settled rows inductionHypothesis =>
      unfold payCascade
      infer_instance

/-! ## Opening an organization for an order -/

instance (table : Table) (condition : table.Row → Bool) :
    Upholds (α := no_index (List table.Row)) A Benign base more (scalars table condition) :=
  inferInstanceAs (Upholds A Benign base more (select _))

instance : Upholds A Benign base more now where
  upholds _ due := ⟨Agreement.Asks.asks, fun _ => due⟩

instance (organizationId : Id) : Upholds A Benign base more (depthOf organizationId) := by
  unfold depthOf
  infer_instance

instance (env : Env) (parent : Organization) :
    Upholds A Benign base more (assertDepthAllowed env parent) := by
  unfold assertDepthAllowed effectiveDepthLimit
  infer_instance

instance (slug message : String) : Upholds A Benign base more (requireFreeSlug slug message) := by
  unfold requireFreeSlug
  infer_instance

instance (order : PanelOrder) (organizationId : Id) :
    Upholds A Benign base more (assertOrderSeller order organizationId) := by
  unfold assertOrderSeller
  infer_instance

instance (order : PanelOrder) (toStatus : OrderStatus) :
    Upholds A Benign base more (requireTransition order toStatus) := by
  unfold requireTransition
  infer_instance

instance (organizationId actorId : Id) (role : Role) [Admitted Benign .memberships] :
    Upholds A Benign base more (addMembership organizationId actorId role) := by
  unfold addMembership
  infer_instance

instance (order : PanelOrder) (childId panelId : Id) (pgAdminId : Int)
    [Admitted Benign .bindings] :
    Upholds A Benign base more (bindCustomer order childId panelId pgAdminId) := by
  unfold bindCustomer
  infer_instance

end ControlPlane
