import ControlPlane.Decisions.Routes
import ControlPlane.Library.Exceptions

/-!
# The settlement of one reading

What a reading owes is the sum of the prices along the path from its
organization to the root. A cascade that stops for lack of credit stops before
an edge that still has something to pay.
-/

namespace ControlPlane

open ReadCommitted Orm

/-! ## Programs that only read -/

instance (resources : List Database.Lock) : Reads (lock resources : Op Unit) := ⟨fun _ _ => rfl⟩

instance : Reads (α := no_index (List Database.Write)) (recorded : Op _) := ⟨fun _ _ => rfl⟩

instance (table : Table) (key : table.Key) :
    Reads (α := no_index (Option table.Row)) (getForUpdate table key) := by
  unfold getForUpdate
  infer_instance

instance (bindingId : Id) : Reads (lockedCheckpoint bindingId) := by
  unfold lockedCheckpoint
  infer_instance

instance (fuel : Nat) (current : Option Organization) (seen : List Id) :
    Reads (climb fuel current seen) := by
  induction fuel generalizing current seen with
  | zero => exact Reads.throw _
  | succ fuel inductionHypothesis =>
      unfold climb
      infer_instance

instance (organizationId : Id) : Reads (edges organizationId) := by
  unfold edges
  infer_instance

/-! ## What is owed -/

/-- The settlements of a reading at or above its checkpoint. -/
def settlementsOf (data : UsageIn) : Op (List Settlement) := do
  let row ← get .bindings data.bindingId
  let binding ← found row (.valueError "binding not found")
  let stored ← lockedCheckpoint binding.id
  branch stored (pure []) fun checkpoint => do
    let panel ← get .panels binding.panelId
    let path ← edges binding.organizationId
    attempt (cascade (data.lifetimeBytes - checkpoint.lifetimeBytes : Nat) path
      (coefficientOf panel))

/-- The sum of some settlements. -/
def owed (rows : List Settlement) : Int := (rows.map Settlement.amountIrr).sum

theorem owed_cons (settled : Settlement) (rows : List Settlement) :
    owed (settled :: rows) = settled.amountIrr + owed rows := rfl

theorem owed_nonneg {rows : List Settlement} (nonneg : ∀ settled ∈ rows, 0 ≤ settled.amountIrr) :
    0 ≤ owed rows := by
  induction rows with
  | nil => exact le_rfl
  | cons settled rows inductionHypothesis =>
      rw [List.forall_mem_cons] at nonneg
      exact Int.add_nonneg nonneg.1 (inductionHypothesis nonneg.2)

/-- A price is no credit. -/
theorem priceUsage_nonneg {deltaBytes rateIrr amount : Int} {factor : DecimalArithmetic.Decimal}
    (priced : priceUsage deltaBytes rateIrr factor = .ok amount) : 0 ≤ amount := by
  unfold priceUsage at priced
  split at priced
  · cases priced
  · dsimp only at priced
    split at priced
    · cases priced
      exact Int.natCast_nonneg _
    · cases priced

/-- No settlement of a cascade is negative. -/
theorem cascade_nonneg {deltaBytes : Int} {path : List Edge} {factor : DecimalArithmetic.Decimal}
    {rows : List Settlement} (computed : cascade deltaBytes path factor = .ok rows) :
    ∀ settled ∈ rows, 0 ≤ settled.amountIrr := by
  by_cases positive : 0 < deltaBytes
  · have priced := cascade_eq_ok computed positive
    clear computed
    induction priced with
    | nil => simp
    | cons first _ inductionHypothesis =>
        rw [List.forall_mem_cons]
        exact ⟨priceUsage_nonneg (settlement_eq_ok first).2.2, inductionHypothesis⟩
  · rw [cascade, if_neg positive] at computed
    cases computed
    simp

/-! ## Exceptions of a payment -/

/-- An exception other than a billing hold. -/
def NoHold (exception : Failure) : Prop :=
  ∀ bindingId organizationId amountIrr, exception ≠ .billingHold bindingId organizationId amountIrr

instance (message : String) : OfKind NoHold (.valueError message) := ⟨fun _ _ _ => by simp⟩
instance (status : Nat) (detail : String) : OfKind NoHold (.http status detail) :=
  ⟨fun _ _ _ => by simp⟩
instance : OfKind NoHold .unexpected := ⟨fun _ _ _ => by simp⟩
instance : OfKind NoHold .database := ⟨fun _ _ _ => by simp⟩
instance : OfKind NoHold (DatabaseFailure.failure : Failure) :=
  ⟨fun _ _ _ => by simp [DatabaseFailure.failure]⟩

section

variable {kind : Failure → Prop}

instance (table : Table) (key : table.Key) :
    Raises (α := no_index (Option table.Row)) kind (get table key) :=
  inferInstanceAs (Raises kind (select _))

instance (table : Table) (condition : table.Row → Bool) :
    Raises (α := no_index (Option table.Row)) kind (scalar table condition) :=
  inferInstanceAs (Raises kind (select _))

instance (table : Table) (row : table.Row) : Raises kind (insert table row) :=
  inferInstanceAs (Raises kind (add _))

instance (table : Table) (key : table.Key) (columns : table.Change) :
    Raises kind (assign table key columns) :=
  inferInstanceAs (Raises kind (add _))

instance (statement : Database.Write) : Raises kind (execute statement : Op Bool) :=
  Raises.execute statement

instance : Raises kind uid := ⟨fun _ _ _ => by rintro _ ⟨⟩⟩

instance : Raises kind now := ⟨fun _ _ _ => by rintro _ ⟨⟩⟩

instance (table : Table) (key : table.Key) :
    Raises (α := no_index (Option table.Row)) kind (getForUpdate table key) := by
  unfold getForUpdate
  infer_instance

instance (bindingId : Id) : Raises kind (lockedCheckpoint bindingId) := by
  unfold lockedCheckpoint
  infer_instance

instance (topic : String) (aggregateId : Id) (payload : Payload) :
    Raises kind (enqueue topic aggregateId payload) := by
  unfold enqueue
  infer_instance

end

instance (owner : String) : Raises NoHold (account owner) := by
  unfold account
  infer_instance

instance (statement : Database.Write) : Raises NoHold (send statement) := by
  unfold send
  infer_instance

instance (source : String) (balanceIrr amountIrr : Int) :
    Raises NoHold (checkPayer source balanceIrr amountIrr) := by
  unfold checkPayer
  infer_instance

set_option synthInstance.maxSize 100000 in
instance (source target : Account) (amountIrr : Int) (key kind reference : String)
    (actorId : Option Id) :
    Raises NoHold (post source target amountIrr key kind reference actorId) := by
  unfold post
  infer_instance

set_option synthInstance.maxSize 100000 in
instance (source target : String) (amountIrr : Int) (key kind reference : String) (enforce : Bool)
    (actorId : Option Id) :
    Raises NoHold (transfer source target amountIrr key kind reference enforce actorId) := by
  unfold transfer transferFresh
  infer_instance

instance (fuel : Nat) (current : Option Organization) (seen : List Id) :
    Raises NoHold (climb fuel current seen) := by
  induction fuel generalizing current seen with
  | zero => exact Raises.throw _
  | succ fuel inductionHypothesis =>
      unfold climb
      infer_instance

instance (organizationId : Id) : Raises NoHold (edges organizationId) := by
  unfold edges
  infer_instance

instance (env : Env) (binding : Binding) (checkpoint : Checkpoint) (data : UsageIn) :
    Raises NoHold (observeRegression env binding checkpoint data) := by
  unfold observeRegression
  infer_instance

instance (data : UsageIn) : Raises NoHold (observeBaseline data) := by
  unfold observeBaseline
  infer_instance

theorem settlement_noHold {deltaBytes : Int} {edge : Edge} {factor : DecimalArithmetic.Decimal}
    {exception : Failure} (failed : settlement deltaBytes factor edge = .error exception) :
    NoHold exception := by
  unfold settlement at failed
  cases price : priceUsage deltaBytes edge.rateIrr factor with
  | ok amount => simp [price, Except.map] at failed
  | error raised =>
      simp only [price, Except.map, Except.error.injEq] at failed
      subst failed
      unfold priceUsage at price
      split at price
      · cases price
        exact OfKind.holds
      · dsimp only at price
        split at price
        · cases price
        · cases price
          exact OfKind.holds

/-- A cascade that cannot be computed is no billing hold. -/
theorem cascade_noHold {deltaBytes : Int} {path : List Edge}
    {factor : DecimalArithmetic.Decimal} {exception : Failure}
    (failed : cascade deltaBytes path factor = .error exception) : NoHold exception := by
  unfold cascade at failed
  split at failed
  · induction path with
    | nil => cases failed
    | cons edge path inductionHypothesis =>
        rw [List.mapM_cons] at failed
        cases head : settlement deltaBytes factor edge with
        | error raised =>
            simp only [head, bind, Except.bind, Except.error.injEq] at failed
            exact settlement_noHold (failed ▸ head)
        | ok first =>
            cases rest : path.mapM (settlement deltaBytes factor) with
            | error raised =>
                simp only [head, rest, bind, Except.bind, Except.error.injEq] at failed
                exact inductionHypothesis (failed ▸ rest)
            | ok others => simp [head, rest, bind, Except.bind, pure, Except.pure] at failed
  · cases failed

/-! ## A cascade that is refused -/

variable {answers : Answers Database} {alone later : Alone Database}

/-- Nothing is too much for a payer that has to pay nothing. -/
theorem insufficient_pos {source target : String} {amountIrr : Int}
    {key kind reference : String} {enforce : Bool} {actorId : Option Id}
    (refused : (transfer source target amountIrr key kind reference enforce actorId).run answers
      alone = (.error (.valueError "insufficient credit"), later)) : 0 < amountIrr := by
  unfold transfer at refused
  rw [run_require_bind] at refused
  split at refused
  · assumption
  · exact absurd (Prod.mk.inj refused).1 (by simp)

/-- A cascade that is refused for lack of credit has not paid for all edges: the amount it reports
leaves out the edge that could not pay, and all above it. -/
theorem payCascade_hold {binding : Binding} {old new : Nat} {rows : List Settlement}
    {pending : Int} {bindingId organizationId : Id} {amountIrr : Int}
    (nonneg : ∀ settled ∈ rows, 0 ≤ settled.amountIrr)
    (refused : (payCascade binding old new rows pending).run answers alone =
      (.error (.billingHold bindingId organizationId amountIrr), later)) :
    bindingId = binding.id ∧ organizationId = binding.organizationId ∧ pending ≤ amountIrr ∧
      amountIrr < pending + owed rows := by
  induction rows generalizing pending alone with
  | nil => cases refused
  | cons settled rows inductionHypothesis =>
      rw [List.forall_mem_cons] at nonneg
      rw [payCascade, run_bind, run_tryCatch] at refused
      rw [owed_cons]
      cases paid : (transfer settled.childId settled.parentId settled.amountIrr
          (usageKey binding.id old new settled.childId) "usage" binding.id true none).run
            answers alone with
      | mk result next =>
          rw [paid] at refused
          cases result with
          | ok transaction =>
              obtain ⟨own, branch, least, most⟩ := inductionHypothesis nonneg.2 refused
              exact ⟨own, branch, by omega, by omega⟩
          | error exception =>
              have raised : holdFor binding pending exception =
                  .billingHold bindingId organizationId amountIrr := by
                injection (Prod.mk.inj refused).1
              unfold holdFor at raised
              split at raised
              next lacking =>
                have rest := owed_nonneg nonneg.2
                have positive := insufficient_pos (lacking ▸ paid)
                injection raised with own branch amount
                exact ⟨own.symm, branch.symm, by omega, by omega⟩
              next other =>
                have noHold : NoHold exception := Raises.run answers (congrArg Prod.fst paid)
                exact absurd raised (noHold _ _ _)

/-- An advance that ends in a billing hold ends in its cascade. -/
theorem observeAdvance_hold {binding : Binding} {checkpoint : Checkpoint} {data : UsageIn}
    {bindingId organizationId : Id} {amountIrr : Int}
    (refused : (observeAdvance binding checkpoint data).run answers alone =
      (.error (.billingHold bindingId organizationId amountIrr), later)) :
    ∃ rows, ((do
        let panel ← get .panels binding.panelId
        let path ← edges binding.organizationId
        attempt (cascade (data.lifetimeBytes - checkpoint.lifetimeBytes : Nat) path
          (coefficientOf panel)) : Op _).run answers alone).1 = .ok rows ∧
      (∀ settled ∈ rows, 0 ≤ settled.amountIrr) ∧
      (payCascade binding checkpoint.lifetimeBytes data.lifetimeBytes rows 0).run answers alone =
        (.error (.billingHold bindingId organizationId amountIrr), later) := by
  unfold observeAdvance at refused
  dsimp only at refused
  rw [run_get_bind] at refused ⊢
  rw [run_bind] at refused ⊢
  have same : ((edges binding.organizationId).run answers alone).2 = alone :=
    Reads.reads answers alone
  cases climbed : (edges binding.organizationId).run answers alone with
  | mk result next =>
      rw [climbed] at refused same
      obtain rfl : next = alone := same
      cases result with
      | error exception =>
          have noHold : NoHold exception := Raises.run answers (congrArg Prod.fst climbed)
          cases refused
          exact absurd rfl (noHold _ _ _)
      | ok path =>
          dsimp only at refused ⊢
          rw [run_bind, run_attempt] at refused
          rw [run_attempt]
          cases computed : cascade (data.lifetimeBytes - checkpoint.lifetimeBytes : Nat) path
              (coefficientOf (Db.find next.view .panels binding.panelId)) with
          | error exception =>
              rw [computed] at refused
              have noHold := cascade_noHold computed
              cases refused
              exact absurd rfl (noHold _ _ _)
          | ok rows =>
              rw [computed] at refused
              dsimp only at refused
              rw [run_bind] at refused
              refine ⟨rows, rfl, cascade_nonneg computed, ?_⟩
              cases paid : (payCascade binding checkpoint.lifetimeBytes data.lifetimeBytes rows
                  0).run answers next with
              | mk result last =>
                  rw [paid] at refused
                  cases result with
                  | ok done => cases refused
                  | error exception =>
                      cases refused
                      rfl

/-- A reading that ends in a billing hold ends in the cascade of what it owes. -/
theorem observe_hold {env : Env} {data : UsageIn} {bindingId organizationId : Id} {amountIrr : Int}
    (refused : (observe env data).run answers alone =
      (.error (.billingHold bindingId organizationId amountIrr), later)) :
    ∃ rows, ((settlementsOf data).run answers alone).1 = .ok rows ∧
      (∀ settled ∈ rows, 0 ≤ settled.amountIrr) ∧
      ∃ binding old new, (payCascade binding old new rows 0).run answers alone =
        (.error (.billingHold bindingId organizationId amountIrr), later) := by
  unfold observe at refused
  unfold settlementsOf
  rw [run_get_bind] at refused ⊢
  cases found : Db.find alone.view .bindings data.bindingId with
  | none =>
      rw [found, run_bind, run_found_none] at refused
      cases refused
  | some binding =>
      rw [found] at refused
      rw [run_bind, run_found_some] at refused ⊢
      dsimp only at refused ⊢
      rw [run_bind] at refused ⊢
      have same : ((lockedCheckpoint binding.id).run answers alone).2 = alone :=
        Reads.reads answers alone
      cases stored : (lockedCheckpoint binding.id).run answers alone with
      | mk result next =>
          rw [stored] at refused same
          obtain rfl : next = alone := same
          cases result with
          | error exception =>
              have noHold : NoHold exception := Raises.run answers (congrArg Prod.fst stored)
              cases refused
              exact absurd rfl (noHold _ _ _)
          | ok row =>
              cases row with
              | none =>
                  have raised : ((observeBaseline data).run answers next).1 =
                      .error (.billingHold bindingId organizationId amountIrr) :=
                    congrArg Prod.fst refused
                  have noHold : NoHold _ := Raises.run answers raised
                  exact absurd rfl (noHold _ _ _)
              | some checkpoint =>
                  dsimp only at refused ⊢
                  rw [run_branch_some] at refused ⊢
                  split at refused
                  · have raised : ((observeRegression env binding checkpoint data).run answers
                        next).1 = .error (.billingHold bindingId organizationId amountIrr) :=
                      congrArg Prod.fst refused
                    have noHold : NoHold _ := Raises.run answers raised
                    exact absurd rfl (noHold _ _ _)
                  · obtain ⟨rows, owing, nonneg, paid⟩ := observeAdvance_hold refused
                    exact ⟨rows, owing, nonneg, binding, _, _, paid⟩

/-- The amount of a billing hold is less than what the reading owes. -/
theorem observe_hold_lt {env : Env} {data : UsageIn} {bindingId organizationId : Id}
    {amountIrr : Int}
    (refused : (observe env data).run answers alone =
      (.error (.billingHold bindingId organizationId amountIrr), later)) :
    ∃ rows, ((settlementsOf data).run answers alone).1 = .ok rows ∧ 0 ≤ amountIrr ∧
      amountIrr < owed rows := by
  obtain ⟨rows, owing, nonneg, binding, old, new, paid⟩ := observe_hold refused
  obtain ⟨_, _, least, most⟩ := payCascade_hold nonneg paid
  exact ⟨rows, owing, least, by omega⟩

namespace Sample

/-- The workspace after the first reading of its binding. -/
def metered : Db := replay (S := Database) [.insert .checkpoints ⟨"binding", 0, 0, 0⟩] workspace

end Sample

end ControlPlane
