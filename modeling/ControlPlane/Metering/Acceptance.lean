import ControlPlane.Ledger.Idempotency
import ControlPlane.Library.Refusals
import ControlPlane.Metering.Cascades

/-!
# Readings that are accepted

A reading at or above its checkpoint is accepted when each payer in turn can
pay its part, unless a part is nothing: a transfer of nothing is refused.
-/

namespace ControlPlane

open ReadCommitted Orm

variable {answers : Answers Database} {alone later : Alone Database}

/-! ## Payers -/

/-- The balance of an owner; without a wallet there is none. -/
def walletBalance (db : Db) (owner : String) : Int :=
  match db.first .accounts fun row => row.ownerKey = owner with
  | some wallet => wallet.balanceIrr
  | none => 0

/-- A payer is active, and its balance and credit cover an amount. -/
def Affords (db : Db) (settled : Settlement) : Prop :=
  ∃ organization, db.find .organizations settled.childId = some organization ∧
    organization.status = .active ∧
      settled.amountIrr ≤ walletBalance db settled.childId + organization.creditLimitIrr

/-- The payment of one settlement of a cascade. -/
abbrev payment (binding : Binding) (old new : Nat) (settled : Settlement) : Op Transaction :=
  transfer settled.childId settled.parentId settled.amountIrr
    (usageKey binding.id old new settled.childId) "usage" binding.id true none

/-- Each payer can pay when its turn comes, after the payments before it. -/
def AffordInTurn (answers : Answers Database) (binding : Binding) (old new : Nat) :
    List Settlement → Alone Database → Prop
  | [], _ => True
  | settled :: rest, alone =>
      Affords alone.view settled ∧
        AffordInTurn answers binding old new rest
          ((payment binding old new settled).run answers alone).2

/-! ## Statements of a run without refusals -/

section

variable (answers : Answers Database) (alone : Alone Database)

theorem unrefused_scalar_bind (table : Table) (condition : table.Row → Bool)
    (rest : Option table.Row → Op β) :
    (scalar table condition >>= rest).unrefused answers alone =
      (rest (Db.first alone.view table condition)).unrefused answers alone := rfl

theorem unrefused_get_bind (table : Table) (key : table.Key) (rest : Option table.Row → Op β) :
    (get table key >>= rest).unrefused answers alone =
      (rest (Db.find alone.view table key)).unrefused answers alone := rfl

theorem unrefused_uid_bind (rest : Id → Op β) :
    (uid >>= rest).unrefused answers alone =
      (rest (answers .uid alone.asked.length).1).unrefused answers
        { alone with asked := alone.asked ++ [.uid] } := rfl

theorem unrefused_insert_bind (table : Table) (row : table.Row) (rest : Unit → Op β) :
    (insert table row >>= rest).unrefused answers alone =
      (rest ()).unrefused answers { alone with pending := alone.pending ++ [.insert table row] } :=
  rfl

theorem unrefused_execute_bind (statement : Database.Write) (rest : Bool → Op β) :
    (execute statement >>= rest).unrefused answers alone =
      (Database.accepts statement alone.view &&
        (rest true).unrefused answers { alone with log := alone.log ++ [statement] }) := rfl

theorem unrefused_send_bind (statement : Database.Write) (rest : Unit → Op β) :
    (send statement >>= rest).unrefused answers alone = true →
      Database.accepts statement alone.view = true ∧
        (rest ()).unrefused answers { alone with log := alone.log ++ [statement] } = true := by
  intro unrefused
  have first := (unrefused_parts unrefused).1
  unfold send at first
  rw [unrefused_execute_bind, Bool.and_eq_true] at first
  refine ⟨first.1, (unrefused_parts unrefused).2 () _ ?_⟩
  unfold send
  rw [run_execute_bind, if_pos first.1]
  rfl

end

/-! ## Transfers that go through -/

/-- What resolving wallets keeps: the wallets that are there, and the organizations. -/
structure Resolved (alone later : Alone Database) : Prop where
  accounts : ∃ new, Db.accounts later.view = Db.accounts alone.view ++ new
  organizations : Db.organizations later.view = Db.organizations alone.view
  pending : later.pending = alone.pending

theorem Resolved.refl (alone : Alone Database) : Resolved alone alone :=
  ⟨⟨[], (List.append_nil _).symm⟩, rfl, rfl⟩

theorem Resolved.trans {first second third : Alone Database} (early : Resolved first second)
    (late : Resolved second third) : Resolved first third := by
  obtain ⟨⟨old, oldAccounts⟩, oldOrganizations, oldPending⟩ := early
  obtain ⟨⟨new, newAccounts⟩, newOrganizations, newPending⟩ := late
  refine ⟨⟨old ++ new, ?_⟩, newOrganizations.trans oldOrganizations, newPending.trans oldPending⟩
  rw [newAccounts, oldAccounts, List.append_assoc]

/-- Where no statement is refused, resolving a wallet returns it, with the balance of its owner. -/
theorem account_returns {owner : String}
    (unrefused : (account owner).unrefused answers alone = true) :
    ∃ wallet later, (account owner).run answers alone = (.ok wallet, later) ∧
      Resolved alone later ∧ wallet ∈ Db.accounts later.view ∧
        wallet.balanceIrr = walletBalance alone.view owner := by
  unfold account at unrefused ⊢
  rw [unrefused_scalar_bind] at unrefused
  rw [run_scalar_bind, run_branch]
  unfold walletBalance
  cases seen : Db.first alone.view .accounts (fun row => row.ownerKey = owner) with
  | some wallet =>
      exact ⟨wallet, alone, rfl, .refl alone, List.mem_of_find?_eq_some seen, rfl⟩
  | none =>
      rw [seen] at unrefused
      change (uid >>= _).unrefused answers alone = true at unrefused
      rw [unrefused_uid_bind, unrefused_execute_bind, Bool.and_eq_true] at unrefused
      dsimp only
      rw [run_uid_bind, run_execute_bind, if_pos unrefused.1, run_scalar_bind]
      generalize (answers .uid alone.asked.length).1 = id
      generalize created_eq : ({ alone with
        asked := alone.asked ++ [.uid]
        log := alone.log ++ [.insert .accounts ⟨id, owner, 0⟩] } : Alone Database) = created
      have accounts : Db.accounts created.view = Db.accounts alone.view ++ [⟨id, owner, 0⟩] := by
        rw [← created_eq]
        unfold Connection.view
        dsimp only
        rw [replay_append]
        rfl
      have organizations : Db.organizations created.view = Db.organizations alone.view := by
        rw [← created_eq]
        unfold Connection.view
        dsimp only
        rw [replay_append]
        rfl
      have found : Db.first created.view .accounts (fun row => row.ownerKey = owner) =
          some ⟨id, owner, 0⟩ := by
        change (Db.accounts created.view).find? _ = _
        rw [accounts, List.find?_append]
        change (Db.accounts alone.view).find? _ = none at seen
        rw [seen]
        simp
      rw [found]
      refine ⟨⟨id, owner, 0⟩, created, rfl, ⟨⟨_, accounts⟩, organizations, ?_⟩, ?_, rfl⟩
      · rw [← created_eq]
      · rw [accounts]
        exact List.mem_append_right _ (List.mem_singleton_self _)

/-- Where no statement is refused, a posting returns and leaves nothing recorded. -/
theorem post_returns {source target : Account} {amountIrr : Int} {key kind reference : String}
    {actorId : Option Id}
    (unrefused : (post source target amountIrr key kind reference actorId).unrefused answers alone =
      true) :
    ∃ transaction later, (post source target amountIrr key kind reference actorId).run answers
      alone = (.ok transaction, later) ∧ later.pending = [] := by
  unfold post at unrefused ⊢
  obtain ⟨debit, unrefused⟩ := unrefused_send_bind answers alone _ _ unrefused
  obtain ⟨credit, unrefused⟩ := unrefused_send_bind answers _ _ _ unrefused
  rw [run_send_bind, if_pos debit, run_send_bind, if_pos credit]
  rw [unrefused_uid_bind, unrefused_insert_bind, unrefused_insert_bind,
    unrefused_insert_bind] at unrefused
  rw [run_uid_bind, run_insert_bind, run_insert_bind, run_insert_bind, run_bind, run_flush,
    if_pos (acceptsAll_of_unrefused_flush answers _ (unrefused_parts unrefused).1)]
  exact ⟨_, _, rfl, rfl⟩

/-- A payer that affords an amount passes the check. -/
theorem checkPayer_returns {settled : Settlement} {db : Db} {balanceIrr : Int}
    (affords : Affords db settled)
    (organizations : Db.organizations alone.view = db.organizations)
    (balance : balanceIrr = walletBalance db settled.childId) :
    (checkPayer settled.childId balanceIrr settled.amountIrr).run answers alone =
      (.ok (), alone) := by
  obtain ⟨organization, found, active, enough⟩ := affords
  have same : Db.find alone.view .organizations settled.childId = some organization := by
    rw [← found]
    exact congrArg (List.find? _) organizations
  unfold checkPayer
  rw [run_getForUpdate_bind, same, run_found_bind]
  dsimp only
  rw [run_require_bind, if_pos active, run_require, if_pos (balance ▸ enough)]

/-- A flush without recorded rows changes nothing. -/
theorem run_flush_empty (empty : alone.pending = []) :
    (flush : Op Unit).run answers alone = (.ok (), alone) := by
  obtain ⟨⟨store, log, asked, commits⟩, pending⟩ := alone
  cases empty
  simp [acceptsAll]

/-- The constraints hold of the committed state and of the view. -/
abbrev Sound (alone : Alone Database) : Prop := Integrity alone.store ∧ Integrity alone.view

/-- Whatever a program does, the constraints hold afterwards. -/
theorem Sound.run {program : Op α} {result : Except Failure α} (sound : Sound alone)
    (ran : program.run answers alone = (result, later)) : Sound later :=
  run_preserves (fun _ _ integrity accepted => Layout.Integrity.apply integrity accepted) ran sound

/-- A transfer with an amount that the payer affords goes through. -/
theorem transfer_returns {settled : Settlement} {key kind reference : String}
    {actorId : Option Id} (sound : Sound alone)
    (empty : alone.pending = []) (positive : 0 < settled.amountIrr)
    (affords : Affords alone.view settled)
    (unrefused : (transfer settled.childId settled.parentId settled.amountIrr key kind reference
      true actorId).unrefused answers alone = true) :
    ∃ transaction later, (transfer settled.childId settled.parentId settled.amountIrr key kind
      reference true actorId).run answers alone = (.ok transaction, later) ∧
        later.pending = [] := by
  unfold transfer at unrefused ⊢
  have unrefused := (unrefused_parts unrefused).2 () alone (by rw [run_require, if_pos positive])
  rw [run_require_bind, if_pos positive, run_scalar_bind]
  rw [unrefused_scalar_bind] at unrefused
  cases known : Db.first alone.view .transactions (fun row => row.idempotencyKey = key) with
  | some old => exact ⟨old, alone, rfl, empty⟩
  | none =>
      rw [known] at unrefused
      change (transferFresh _ _ _ _ _ _ _ _).unrefused answers alone = true at unrefused
      rw [run_branch]
      dsimp only
      unfold transferFresh at unrefused ⊢
      obtain ⟨payer, first, payerRun, toFirst, payerMember, payerBalance⟩ :=
        account_returns (unrefused_parts unrefused).1
      have unrefused := (unrefused_parts unrefused).2 payer first payerRun
      rw [run_bind, payerRun]
      dsimp only
      obtain ⟨receiver, second, receiverRun, toSecond, _, _⟩ :=
        account_returns (unrefused_parts unrefused).1
      have unrefused := (unrefused_parts unrefused).2 receiver second receiverRun
      rw [run_bind, receiverRun]
      dsimp only
      have resolved := toFirst.trans toSecond
      have integrity := ((sound.run payerRun).run receiverRun).2
      have none : second.pending = [] := resolved.pending.trans empty
      have unrefused := (unrefused_parts unrefused).2 () second (run_flush_empty none)
      rw [run_bind, run_flush_empty none]
      dsimp only
      have unrefused := (unrefused_parts unrefused).2 () second (run_lockAll _)
      rw [run_bind, run_lockAll]
      dsimp only
      rw [unrefused_scalar_bind] at unrefused
      rw [run_scalar_bind]
      cases late : Db.first second.view .transactions (fun row => row.idempotencyKey = key) with
      | some old => exact ⟨old, second, rfl, none⟩
      | none =>
          rw [late] at unrefused
          rw [run_branch]
          dsimp only
          have member : payer ∈ Db.accounts second.view := by
            obtain ⟨new, accounts⟩ := toSecond.accounts
            rw [accounts]
            exact List.mem_append_left _ payerMember
          have found : Db.find second.view .accounts payer.id = some payer :=
            integrity.find_eq_some member rfl
          have checked : (when (true = true ∧ settled.childId ≠ systemOwner)
              (checkPayer settled.childId payer.balanceIrr settled.amountIrr)).run answers second =
                (.ok (), second) := by
            rw [run_when, checkPayer_returns affords resolved.organizations payerBalance]
            split <;> rfl
          change (get .accounts payer.id >>= _).unrefused answers second = true at unrefused
          rw [unrefused_get_bind, found] at unrefused
          have unrefused := (unrefused_parts unrefused).2 payer second rfl
          have unrefused := (unrefused_parts unrefused).2 () second checked
          rw [run_get_bind, found, run_found_bind]
          dsimp only
          rw [run_bind, checked]
          dsimp only
          exact post_returns unrefused

/-! ## Cascades that are paid -/

/-- A cascade whose payers afford their parts in turn is paid, if no part is nothing. -/
theorem payCascade_returns {binding : Binding} {old new : Nat} {rows : List Settlement}
    {pending : Int} (sound : Sound alone) (empty : alone.pending = [])
    (affords : AffordInTurn answers binding old new rows alone)
    (unrefused : (payCascade binding old new rows pending).unrefused answers alone = true)
    (positive : ∀ settled ∈ rows, 0 < settled.amountIrr) :
    ∃ later, (payCascade binding old new rows pending).run answers alone = (.ok (), later) ∧
      later.pending = [] := by
  induction rows generalizing alone pending with
  | nil => exact ⟨alone, rfl, empty⟩
  | cons settled rows inductionHypothesis =>
      rw [List.forall_mem_cons] at positive
      unfold payCascade at unrefused ⊢
      have guarded := (unrefused_parts unrefused).1
      rw [unrefused_tryCatch, Bool.and_eq_true] at guarded
      obtain ⟨transaction, next, paid, none⟩ :=
        transfer_returns sound empty positive.1 affords.1 guarded.1
      have caught : (tryCatch (payment binding old new settled) fun exception =>
          throw (holdFor binding pending exception)).run answers alone = (.ok transaction, next) := by
        rw [run_tryCatch, paid]
      have rest := affords.2
      rw [paid] at rest
      obtain ⟨last, ended, nothing⟩ := inductionHypothesis (sound.run paid) none rest
        ((unrefused_parts unrefused).2 transaction next caught) positive.2
      refine ⟨last, ?_, nothing⟩
      rw [run_bind, caught]
      exact ended

/-- A cascade that is paid has no part that is nothing. -/
theorem payCascade_positive {binding : Binding} {old new : Nat} {rows : List Settlement}
    {pending : Int}
    (paid : (payCascade binding old new rows pending).run answers alone = (.ok (), later)) :
    ∀ settled ∈ rows, 0 < settled.amountIrr := by
  induction rows generalizing alone pending with
  | nil => simp
  | cons settled rows inductionHypothesis =>
      rw [payCascade, run_bind, run_tryCatch] at paid
      rw [List.forall_mem_cons]
      cases first : (payment binding old new settled).run answers alone with
      | mk result next =>
          rw [first] at paid
          cases result with
          | ok transaction =>
              refine ⟨?_, inductionHypothesis paid⟩
              by_contra nothing
              unfold payment transfer at first
              rw [run_require_bind, if_neg nothing] at first
              cases first
          | error exception => cases paid

/-! ## Readings -/

/-- A reading is accepted: metering it returns, and the checkpoint of the session shows it. -/
def Accepts (env : Env) (answers : Answers Database) (db : Db) (checkpoint : Checkpoint)
    (data : UsageIn) : Prop :=
  ∃ rows later, (observe env data).run answers (.opened db) = (.ok rows, later) ∧
    (dirtyCheckpoint later.pending checkpoint).lifetimeBytes = data.lifetimeBytes

/-- Every edge of a path has something to pay. -/
def EveryEdgePays (delta : Nat) (path : List Edge) (factor : DecimalArithmetic.Decimal) : Prop :=
  ∀ edge ∈ path, ∃ amount, priceUsage delta edge.rateIrr factor = .ok amount ∧ 0 < amount

/-- The settlements of a cascade are positive exactly if every edge has something to pay. -/
theorem cascade_positive_iff {delta : Nat} {path : List Edge}
    {factor : DecimalArithmetic.Decimal} (positive : 0 < delta) :
    (∃ rows, cascade delta path factor = .ok rows ∧ ∀ settled ∈ rows, 0 < settled.amountIrr) ↔
      EveryEdgePays delta path factor := by
  rw [cascade, if_pos (by exact_mod_cast positive)]
  unfold EveryEdgePays
  induction path with
  | nil => simp [pure, Except.pure]
  | cons edge path inductionHypothesis =>
      rw [List.forall_mem_cons, ← inductionHypothesis, List.mapM_cons]
      have settled : settlement delta factor edge = (priceUsage delta edge.rateIrr factor).map
        fun amount => ⟨edge.childId, edge.parentId, delta, edge.rateIrr, amount⟩ := rfl
      rw [settled]
      cases price : priceUsage delta edge.rateIrr factor with
      | error exception => simp [Except.map, bind, Except.bind]
      | ok amount =>
          simp only [Except.map, bind, Except.bind, pure, Except.pure]
          generalize path.mapM (settlement delta factor) = rest
          cases rest with
          | error exception => simp
          | ok others => simp

section

variable {env : Env} {db : Db} {data : UsageIn} {binding : Binding} {checkpoint : Checkpoint}
  {path : List Edge}

variable (answers) in
/-- The checkpoint of a session that has recorded nothing. -/
theorem run_lockedCheckpoint (metered : Db.find db .checkpoints binding.id = some checkpoint) :
    (lockedCheckpoint binding.id).run answers (.opened db) =
      (.ok (some checkpoint), .opened db) := by
  unfold lockedCheckpoint
  rw [run_getForUpdate_bind]
  change Db.find (Alone.opened db : Alone Database).view .checkpoints binding.id = _ at metered
  rw [metered]
  rfl

/-- Metering a reading at or above its checkpoint is an advance. -/
theorem run_observe (bound : Db.find db .bindings data.bindingId = some binding)
    (metered : Db.find db .checkpoints binding.id = some checkpoint)
    (advance : checkpoint.lifetimeBytes ≤ data.lifetimeBytes) :
    (observe env data).run answers (.opened db) =
      (observeAdvance binding checkpoint data).run answers (.opened db) := by
  have locked := run_lockedCheckpoint answers metered
  change Db.find (Alone.opened db : Alone Database).view .bindings data.bindingId = _ at bound
  unfold observe
  rw [run_get_bind, bound, run_bind, run_found_some]
  dsimp only
  rw [run_bind, locked]
  dsimp only
  rw [run_branch_some, if_neg (by omega)]

/-- An advance meets no refused statement if metering meets none. -/
theorem unrefused_observe (bound : Db.find db .bindings data.bindingId = some binding)
    (metered : Db.find db .checkpoints binding.id = some checkpoint)
    (advance : checkpoint.lifetimeBytes ≤ data.lifetimeBytes)
    (unrefused : (observe env data).unrefused answers (.opened db) = true) :
    (observeAdvance binding checkpoint data).unrefused answers (.opened db) = true := by
  have locked := run_lockedCheckpoint answers metered
  change Db.find (Alone.opened db : Alone Database).view .bindings data.bindingId = _ at bound
  unfold observe at unrefused
  rw [unrefused_get_bind, bound] at unrefused
  have unrefused := (unrefused_parts unrefused).2 binding _ rfl
  have unrefused := (unrefused_parts unrefused).2 _ _ locked
  change (if data.lifetimeBytes < checkpoint.lifetimeBytes then _ else _ : Op _).unrefused answers
    (.opened db) = true at unrefused
  rwa [if_neg (by omega)] at unrefused

/-- A reading at or above its checkpoint, whose payers can pay in turn, is accepted exactly if it
moved nothing or every edge up to the root has something to pay. -/
theorem observe_accepts_iff (integrity : Integrity db)
    (bound : Db.find db .bindings data.bindingId = some binding)
    (metered : Db.find db .checkpoints binding.id = some checkpoint)
    (advance : checkpoint.lifetimeBytes ≤ data.lifetimeBytes)
    (walked : ((edges binding.organizationId).serve answers db).1 = .ok path)
    (affords : ∀ rows, cascade (data.lifetimeBytes - checkpoint.lifetimeBytes : Nat) path
      (coefficientOf (Db.find db .panels binding.panelId)) = .ok rows →
        AffordInTurn answers binding checkpoint.lifetimeBytes data.lifetimeBytes rows (.opened db))
    (unrefused : (observe env data).unrefused answers (.opened db) = true) :
    Accepts env answers db checkpoint data ↔
      data.lifetimeBytes = checkpoint.lifetimeBytes ∨
        EveryEdgePays (data.lifetimeBytes - checkpoint.lifetimeBytes) path
          (coefficientOf (Db.find db .panels binding.panelId)) := by
  have unrefused := unrefused_observe bound metered advance unrefused
  have climbed : (edges binding.organizationId).run answers (.opened db) =
      (.ok path, .opened db) := Prod.ext walked (Reads.reads answers _)
  have own : checkpoint.bindingId = binding.id := Option.some.inj (Db.find_mem metered).2
  unfold Accepts
  rw [run_observe bound metered advance]
  unfold observeAdvance at unrefused ⊢
  dsimp only at unrefused ⊢
  rw [unrefused_get_bind] at unrefused
  have unrefused := (unrefused_parts unrefused).2 _ _ climbed
  rw [run_get_bind, run_bind, climbed]
  dsimp only
  rw [run_bind, run_attempt]
  change _ ↔ _ ∨ EveryEdgePays _ path
    (coefficientOf (Db.find (Alone.opened db : Alone Database).view .panels binding.panelId))
  have affords : ∀ rows, cascade (data.lifetimeBytes - checkpoint.lifetimeBytes : Nat) path
      (coefficientOf (Db.find (Alone.opened db : Alone Database).view .panels binding.panelId)) =
        .ok rows → AffordInTurn answers binding checkpoint.lifetimeBytes data.lifetimeBytes rows
          (.opened db) := affords
  generalize coefficientOf (Db.find (Alone.opened db : Alone Database).view .panels
    binding.panelId) = factor at *
  have nothing : data.lifetimeBytes = checkpoint.lifetimeBytes →
      cascade (data.lifetimeBytes - checkpoint.lifetimeBytes : Nat) path factor = .ok [] := by
    intro same
    rw [same, Nat.sub_self]
    rfl
  -- Either way the cascade is computed and has no part that is nothing.
  have positive_iff : (∃ rows, cascade (data.lifetimeBytes - checkpoint.lifetimeBytes : Nat) path
      factor = .ok rows ∧ ∀ settled ∈ rows, 0 < settled.amountIrr) ↔
        data.lifetimeBytes = checkpoint.lifetimeBytes ∨
          EveryEdgePays (data.lifetimeBytes - checkpoint.lifetimeBytes) path factor := by
    by_cases same : data.lifetimeBytes = checkpoint.lifetimeBytes
    · exact iff_of_true ⟨[], nothing same, by simp⟩ (.inl same)
    · rw [cascade_positive_iff (by omega), or_iff_right same]
  rw [← positive_iff]
  cases computed : cascade (data.lifetimeBytes - checkpoint.lifetimeBytes : Nat) path factor with
  | error exception => simp
  | ok rows =>
      have unrefused := (unrefused_parts unrefused).2 rows (.opened db) (by
        rw [run_attempt, computed])
      dsimp only
      rw [run_bind]
      constructor
      · rintro ⟨settlements, later, ran, _⟩
        refine ⟨rows, rfl, ?_⟩
        cases paid : (payCascade binding checkpoint.lifetimeBytes data.lifetimeBytes rows 0).run
            answers (.opened db) with
        | mk result next =>
            rw [paid] at ran
            cases result with
            | ok done => exact payCascade_positive paid
            | error exception => cases ran
      · rintro ⟨_, ⟨⟩, positive⟩
        obtain ⟨later, paid, empty⟩ := payCascade_returns
          (show Sound (Alone.opened db) from ⟨integrity, integrity⟩) rfl (affords rows computed)
          (unrefused_parts unrefused).1 positive
        rw [paid]
        refine ⟨rows, { later with pending := later.pending ++
          [.update .checkpoints binding.id ⟨some data.lifetimeBytes, some data.observedAt, some 0⟩] ++
          [.insert .usages ⟨binding.id, data.lifetimeBytes,
            data.lifetimeBytes - checkpoint.lifetimeBytes, .accepted, data.observedAt⟩] },
          rfl, ?_⟩
        simp [empty, dirtyCheckpoint, own, Table.change]

end

namespace Sample

theorem metered_integrity : Integrity metered :=
  Layout.Integrity.replay integrity (by decide)

/-- The reseller of the sample workspace affords what its credit covers. -/
theorem metered_affords {amountIrr : Int} (covered : amountIrr ≤ 1000) {delta : Int} :
    Affords (Alone.opened metered : Alone Database).view
      ⟨"shop", "root", delta, 100, amountIrr⟩ := by
  have found : Db.find (Alone.opened metered : Alone Database).view .organizations "shop" =
      some ⟨"shop", some "root", "Shop", "shop", .active, 1000, 5⟩ := by decide +kernel
  have empty : walletBalance (Alone.opened metered : Alone Database).view "shop" = 0 := by
    decide +kernel
  refine ⟨_, found, rfl, ?_⟩
  change amountIrr ≤ walletBalance (Alone.opened metered : Alone Database).view "shop" + 1000
  omega

/-- The binding of the sample workspace. -/
def binding : Binding := ⟨"binding", "shop", "panel", 7, "shop", .active⟩

end Sample

/-- A gibibyte of the sample reseller is accepted. -/
theorem observe_accepts_gibibyte :
    Accepts Sample.env Sample.answers Sample.metered ⟨"binding", 0, 0, 0⟩ ⟨"binding", gib, 0⟩ := by
  have priced : priceUsage gib 100 (coefficientOf (Db.find Sample.metered .panels "panel")) =
      .ok 100 := by
    decide +kernel
  have pays : EveryEdgePays (gib - 0) [⟨"shop", "root", 100⟩]
      (coefficientOf (Db.find Sample.metered .panels "panel")) := by
    intro edge member
    obtain rfl := List.mem_singleton.mp member
    exact ⟨100, priced, by decide⟩
  refine (@observe_accepts_iff Sample.answers Sample.env Sample.metered ⟨"binding", gib, 0⟩
    Sample.binding ⟨"binding", 0, 0, 0⟩ [⟨"shop", "root", 100⟩] Sample.metered_integrity
    (by decide +kernel) (by decide +kernel) (Nat.zero_le _) (by decide +kernel) (fun rows computed =>
      ?_) (by decide +kernel)).mpr (.inr pays)
  have settled : cascade (gib - 0 : Nat) [⟨"shop", "root", 100⟩]
      (coefficientOf (Db.find Sample.metered .panels "panel")) =
        .ok [⟨"shop", "root", gib, 100, 100⟩] := by
    decide +kernel
  cases settled.symm.trans computed
  exact ⟨Sample.metered_affords (by decide), trivial⟩

/-- A single byte costs nothing, and is refused. -/
theorem observe_accepts_fails :
    ¬∀ (env : Env) (answers : Answers Database) (db : Db) (data : UsageIn) (binding : Binding)
      (checkpoint : Checkpoint) (path : List Edge), Integrity db →
      Db.find db .bindings data.bindingId = some binding →
      Db.find db .checkpoints binding.id = some checkpoint →
      checkpoint.lifetimeBytes ≤ data.lifetimeBytes →
      ((edges binding.organizationId).serve answers db).1 = .ok path →
      (∀ rows, cascade (data.lifetimeBytes - checkpoint.lifetimeBytes : Nat) path
        (coefficientOf (Db.find db .panels binding.panelId)) = .ok rows →
          AffordInTurn answers binding checkpoint.lifetimeBytes data.lifetimeBytes rows
            (.opened db)) →
      (observe env data).unrefused answers (.opened db) = true →
        Accepts env answers db checkpoint data := by
  intro claim
  obtain ⟨rows, later, ran, _⟩ := claim Sample.env Sample.answers Sample.metered ⟨"binding", 1, 0⟩
    Sample.binding ⟨"binding", 0, 0, 0⟩ [⟨"shop", "root", 100⟩] Sample.metered_integrity
    (by decide +kernel) (by decide +kernel) (by decide) (by decide +kernel) (by
      intro rows computed
      have priced : cascade (1 - 0 : Nat) [⟨"shop", "root", 100⟩]
          (coefficientOf (Db.find Sample.metered .panels "panel")) =
            .ok [⟨"shop", "root", 1, 100, 0⟩] := by decide +kernel
      cases priced.symm.trans computed
      exact ⟨Sample.metered_affords (by decide), trivial⟩) (by decide +kernel)
  have refused : ((observe Sample.env ⟨"binding", 1, 0⟩).run Sample.answers
      (.opened Sample.metered)).1 = .error (.valueError "amount must be positive") := by
    decide +kernel
  rw [ran] at refused
  cases refused

end ControlPlane
