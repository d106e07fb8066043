import ControlPlane.Ledger.Sessions
import ControlPlane.Library.Overtaking
import ControlPlane.Sample

/-!
# The ledger over all interleavings

Any number of money operations run at the same time, statement by statement,
each committed or rolled back or cut off anywhere. Whatever state they commit,
the books are consistent, nobody owes more than agreed, and no organization was
debited that its locked row did not show active.
-/

namespace ControlPlane

open ReadCommitted Orm

/-- The session of an operation whose answer goes to its caller. -/
def served (program : Op α) : Prog Database (Except Failure Unit) :=
  (do
    let _ ← program
    pure () : Op Unit).session

/-- An operation that is served alone leaves what its session leaves. -/
theorem served_run (answers : Answers Database) (program : Op α) (store : Db) :
    ((served program).run answers ⟨store, [], [], []⟩).2.store =
      (program.serve answers store).2 := by
  have same : ((program >>= fun _ => pure () : Op Unit).run answers (.opened store)).2.store =
      (program.run answers (.opened store)).2.store := by
    rw [run_bind]
    cases run : program.run answers (.opened store) with
    | mk result later => cases result <;> rfl
  refine Eq.trans ?_ same
  unfold served session
  rw [Prog.run_bind]
  rfl

/-- An operation that is served while no session is open leaves a reachable store. -/
theorem quiet_served {ι : Type} [DecidableEq ι] {Allowed : Prog Database (Except Failure Unit) → Prop}
    {store : Db} {world : World Database ι (Except Failure Unit)} (quiet : world.Quiet)
    (reached : World.Reachable Allowed store world) (session : ι) (answers : Answers Database)
    {program : Op α} (allowed : Allowed (served program)) :
    ∃ last : World Database ι (Except Failure Unit), World.Reachable Allowed store last ∧
      last.Quiet ∧ last.store = (program.serve answers world.store).2 := by
  obtain ⟨last, reached, quiet, same⟩ := quiet.serve reached session answers allowed
  exact ⟨last, reached, quiet, same.trans (served_run answers program world.store)⟩

/-- The sessions that move money, or suspend who pays it. -/
inductive MoneyOperation (env : Env) : Prog Database (Except Failure Unit) → Prop
  | fund (organizationId : Id) (data : FundIn) :
      MoneyOperation env (served (fund organizationId data))
  | usage (data : UsageIn) : MoneyOperation env (served (usage env data))
  | usageBatch (observations : List UsageIn) :
      MoneyOperation env (served (usageBatch env observations))
  | poll : MoneyOperation env (served (poll env))
  | branchDecideFunding (identity : TelegramIdentity) (requestId : Id) (decision : String) :
      MoneyOperation env (served (branchDecideFunding env identity requestId decision))
  | adminDecideFunding (identity : TelegramIdentity) (requestId : Id) (decision : String) :
      MoneyOperation env (served (adminDecideFunding env identity requestId decision))
  | botDecideFunding (chatId : Int) (requestId : Id) (approve : Bool) :
      MoneyOperation env (served (Bot.decideFunding env chatId requestId approve))
  | requestAdjustment (identity : TelegramIdentity) (data : AdjustmentIn) :
      MoneyOperation env (served (requestAdjustment env identity data))
  | decideApproval (identity : TelegramIdentity) (approvalId : Id) (decision : String) :
      MoneyOperation env (served (decideApproval env identity approvalId decision))
  | botDecideApproval (chatId : Int) (approvalId : Id) (approve : Bool) :
      MoneyOperation env (served (Bot.decideApproval env chatId approvalId approve))
  | approveOrder (identity : TelegramIdentity) (orderId : Id) (attach : OrderApproveIn) :
      MoneyOperation env (served (approveOrder env identity orderId attach))
  | botReviewOrder (chatId : Int) (orderId : Id) (approve : Bool) (reason : String)
      (attach : Option OrderApproveIn) :
      MoneyOperation env
        (served (Bot.reviewerOrderAction env chatId orderId approve reason attach))
  | setResellerStatus (identity : TelegramIdentity) (organizationId : Id) :
      MoneyOperation env (served (adminSetResellerStatus env identity organizationId))

theorem served_meets (solvency : Prop) (program : Op α)
    [Keeps (ledgerAgreement solvency) LedgerNeutral program] :
    (ledgerAgreement solvency).Meets (served program) :=
  Keeps.meets _ LedgerNeutral _

/-- Every money operation meets the ledger agreement. -/
theorem MoneyOperation.meets {env : Env} {program : Prog Database (Except Failure Unit)}
    (operation : MoneyOperation env program) (solvency : Prop) :
    (ledgerAgreement solvency).Meets program := by
  cases operation <;> exact served_meets solvency _

section

variable {ι : Type} [DecidableEq ι] {env : Env} {store : Db}
  {world : World Database ι (Except Failure Unit)}

/-- Every state that money operations reach keeps the ledger invariant, and every commit on
the way met the agreement. -/
theorem ledger_sound (solvency : Prop) (opening : LedgerInvariant solvency store)
    (reached : World.Reachable (MoneyOperation env) store world) :
    (ledgerAgreement solvency).Sound world :=
  Agreement.Sound.reachable (fun _ operation => operation.meets solvency) opening reached

/-- An idempotency key belongs to one transaction. -/
theorem Integrity.idempotencyKeys {db : Db} (integrity : Integrity db) :
    (db.transactions.map Transaction.idempotencyKey).Nodup := by
  have ids := integrity.keys .transactions
  change (db.transactions.filterMap (some ∘ Transaction.id)).Nodup at ids
  rw [List.filterMap_eq_map] at ids
  exact ids.of_map.map_on fun first firstMember second secondMember same =>
    integrity.transaction_eq firstMember secondMember same

/-- Before the first transfer the books are consistent. -/
theorem Balanced.opening {db : Db} (transactions : db.transactions = [])
    (accounts : db.accounts = []) : Balanced db where
  doubleEntry := by simp [transactions]
  balances := by simp [accounts]
  total := by simp [Db.totalBalance, accounts]

/-- The books of the sample workspace before the first transfer. -/
theorem Sample.opening (solvency : Prop) : LedgerInvariant solvency Sample.workspace where
  integrity := Sample.integrity
  balanced := .opening rfl rfl
  solvent _ :=
    { limits := by
        intro organization member
        have listed : organization ∈ [⟨"root", none, "Root", "root", .active, 0, 5⟩,
            ⟨"shop", some "root", "Shop", "shop", .active, 1000, 5⟩] := member
        rcases List.mem_pair.mp listed with rfl | rfl <;> exact ⟨by decide, by decide⟩
      bounded := fun account member => absurd member List.not_mem_nil }

/-- In every committed state the books are consistent: transactions are double entries, the
view of imbalances is empty, idempotency keys are unique, and all balances sum to zero. -/
theorem ledger_consistent (opening : LedgerInvariant False store)
    (reached : World.Reachable (MoneyOperation env) store world) :
    (∀ transaction ∈ world.store.transactions, DoubleEntry world.store transaction) ∧
      (∀ account ∈ world.store.accounts,
        account.balanceIrr = Db.entriesBalance world.store account.id) ∧
      Db.ledgerImbalance world.store = [] ∧
      (world.store.transactions.map Transaction.idempotencyKey).Nodup ∧
      Db.totalBalance world.store = 0 := by
  have sound := (ledger_sound False opening reached).inv
  refine ⟨sound.balanced.doubleEntry, sound.balanced.balances, ?_, sound.integrity.idempotencyKeys,
    sound.balanced.total⟩
  exact ledgerImbalance_eq_nil.mpr sound.balanced.balances

/-- After a deposit both wallets moved, and nothing is out of balance. -/
theorem ledger_consistent_deposit :
    ∃ world : World Database Unit (Except Failure Unit),
      World.Reachable (MoneyOperation Sample.env) Sample.workspace world ∧
        world.store.accounts.map Account.balanceIrr = [-500, 500] ∧
        Db.ledgerImbalance world.store = [] := by
  obtain ⟨world, reached, same⟩ := World.reachable_run () Sample.answers
    (MoneyOperation.fund "shop" ⟨500, "first deposit"⟩ : MoneyOperation Sample.env _)
    Sample.workspace
  refine ⟨world, reached, ?_, (ledger_consistent (Sample.opening False) reached).2.2.1⟩
  rw [same]
  decide

/-- In every committed state nobody owes more than the credit limit, and every debit of an
organization was committed under the lock of its row, which showed it active. -/
theorem ledger_solvent (opening : LedgerInvariant True store)
    (reached : World.Reachable (MoneyOperation env) store world) :
    (∀ organization ∈ world.store.organizations, ∀ account ∈ world.store.accounts,
      account.ownerKey = organization.id → -organization.creditLimitIrr ≤ account.balanceIrr) ∧
      ∀ committed ∈ world.commits,
        DebitsLocked committed.held committed.before committed.after := by
  have sound := ledger_sound True opening reached
  refine ⟨fun organization member account accountMember owned => ?_, fun committed member =>
    (sound.commits committed member).2.debits⟩
  have solvent := sound.inv.solvent trivial
  have bound := solvent.bounded account accountMember
    (owned ▸ (solvent.limits organization member).owner)
  have found : Db.find world.store .organizations account.ownerKey = some organization :=
    sound.inv.integrity.find_eq_some member (congrArg some owned.symm)
  rwa [Db.creditLimit_eq found] at bound

/-- The session that bills a reading of the sample binding. -/
abbrev Sample.meterSession (lifetimeBytes : Nat) : Prog Database (Except Failure Unit) :=
  served (usage Sample.env ⟨"binding", lifetimeBytes, 0⟩)

/-- Two readings of a shop arrive at once: while the session of the second has only looked up its
rows, the first is billed. Both are debited, within the credit limit. -/
theorem ledger_solvent_readings :
    ∃ world : World Database Bool (Except Failure Unit),
      World.Reachable (MoneyOperation Sample.env) Sample.workspace world ∧
        world.store.accounts.map (fun account => (account.ownerKey, account.balanceIrr)) =
          [("shop", -600), ("root", 600)] ∧
        (∀ organization ∈ world.store.organizations, ∀ account ∈ world.store.accounts,
          account.ownerKey = organization.id → -organization.creditLimitIrr ≤ account.balanceIrr) ∧
        ∀ committed ∈ world.commits,
          DebitsLocked committed.held committed.before committed.after := by
  have quiet : (World.initial Sample.workspace : World Database Bool (Except Failure Unit)).Quiet :=
    fun _ => rfl
  obtain ⟨metered, reached, quiet, baseline⟩ := quiet.serve .refl true Sample.answers
    (MoneyOperation.usage ⟨"binding", 0, 0⟩ : MoneyOperation Sample.env (Sample.meterSession 0))
  obtain ⟨middle, last, passed, steps, -, billed, overtaken⟩ :=
    quiet.overtaken reached (show false ≠ true by decide) Sample.answers 12
      (Sample.answersFrom 2) (Sample.answersFrom 9)
      (MoneyOperation.usage ⟨"binding", 6 * gib, 0⟩ :
        MoneyOperation Sample.env (Sample.meterSession (6 * gib)))
      (MoneyOperation.usage ⟨"binding", 5 * gib, 0⟩ :
        MoneyOperation Sample.env (Sample.meterSession (5 * gib)))
  have reachable := passed.trans steps
  refine ⟨last, reachable, ?_, ledger_solvent (Sample.opening True) reachable⟩
  rw [overtaken, billed, baseline]
  decide +kernel

end

end ControlPlane
