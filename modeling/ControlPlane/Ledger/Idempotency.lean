import ControlPlane.Identity.Resolvers
import ControlPlane.Ledger.Transfer

/-!
# What an idempotency key stands for

A transfer that finds its key in the ledger returns the transaction with that
key and compares nothing else. It returns a transaction between the wallets it
was asked for exactly when no other pair of wallets used the key before.
-/

namespace ControlPlane

open ReadCommitted Orm

/-- The debit of a transaction is on the wallet of one owner, and its credit on the wallet
of another one. -/
structure Moves (db : Db) (transaction : Transaction) (source target : String) : Prop where
  debit : ∃ entry ∈ db.entries, entry.transactionId = transaction.id ∧ entry.side = .debit ∧
    (entry.accountId, source) ∈ db.owners
  credit : ∃ entry ∈ db.entries, entry.transactionId = transaction.id ∧ entry.side = .credit ∧
    (entry.accountId, target) ∈ db.owners

/-! ## A transfer that runs alone -/

section

variable (answers : Answers Database) (alone : Alone Database)

theorem run_uid_bind (rest : Id → Op β) :
    (uid >>= rest).run answers alone =
      (rest (answers .uid alone.asked.length).1).run answers
        { alone with asked := alone.asked ++ [.uid] } := rfl

theorem run_execute_bind (statement : Database.Write) (rest : Bool → Op β) :
    (execute statement >>= rest).run answers alone =
      if Database.accepts statement alone.view then
        (rest true).run answers { alone with log := alone.log ++ [statement] }
      else (rest false).run answers alone := by
  rw [run_bind, run_execute]
  by_cases accepted : Database.accepts statement alone.view = true
  · rw [if_pos accepted, if_pos accepted]
  · rw [if_neg accepted, if_neg accepted]

theorem run_insert_bind (table : Table) (row : table.Row) (rest : Unit → Op β) :
    (insert table row >>= rest).run answers alone =
      (rest ()).run answers { alone with pending := alone.pending ++ [.insert table row] } := rfl

theorem run_send_bind (statement : Database.Write) (rest : Unit → Op β) :
    (send statement >>= rest).run answers alone =
      if Database.accepts statement alone.view then
        (rest ()).run answers { alone with log := alone.log ++ [statement] }
      else (.error .database, { alone with log := [], pending := [] }) := by
  unfold send
  rw [run_bind, run_execute_bind]
  by_cases accepted : Database.accepts statement alone.view = true
  · rw [if_pos accepted, if_pos accepted]
    rfl
  · rw [if_neg accepted, if_neg accepted]
    rfl

theorem run_require_bind (condition : Prop) [Decidable condition] (exception : Failure)
    (rest : Unit → Op β) :
    (require condition exception >>= rest).run answers alone =
      if condition then (rest ()).run answers alone else (.error exception, alone) := by
  rw [run_bind, run_require]
  by_cases holds : condition
  · rw [if_pos holds, if_pos holds]
  · rw [if_neg holds, if_neg holds]

/-- Locking a row only reads it when the session runs alone. -/
theorem run_getForUpdate_bind (table : Table) (key : table.Key) (rest : Option table.Row → Op β) :
    (getForUpdate table key >>= rest).run answers alone =
      (rest (Db.find alone.view table key)).run answers alone := by
  unfold getForUpdate
  rw [run_bind, run_get_bind, run_branch]
  cases found : Db.find alone.view table key with
  | none => rfl
  | some row =>
      change (rest (Db.find alone.view table key)).run answers alone = _
      rw [found]

end

/-- A session went on without touching the ledger, apart from new wallets. -/
structure Grown (earlier later : Alone Database) : Prop where
  transactions : Db.transactions later.view = Db.transactions earlier.view
  entries : Db.entries later.view = Db.entries earlier.view
  owners : Db.owners earlier.view ⊆ Db.owners later.view

namespace Grown

/-- Nothing was written. -/
theorem unwritten {earlier later : Alone Database} (log : later.log = earlier.log)
    (store : later.store = earlier.store) : Grown earlier later := by
  have view : (later.view : Db) = earlier.view := by
    unfold Connection.view
    rw [log, store]
  exact ⟨view ▸ rfl, view ▸ rfl, view ▸ List.Subset.refl _⟩

theorem trans {first second third : Alone Database} (early : Grown first second)
    (late : Grown second third) : Grown first third :=
  ⟨late.transactions.trans early.transactions, late.entries.trans early.entries,
    List.Subset.trans early.owners late.owners⟩

/-- One more neutral statement. -/
theorem write {earlier : Alone Database} {statement : Database.Write}
    (neutral : LedgerNeutral statement) {later : Alone Database}
    (log : later.log = earlier.log ++ [statement]) (store : later.store = earlier.store) :
    Grown earlier later := by
  have view : (later.view : Db) = statement.apply earlier.view := by
    unfold Connection.view
    rw [log, store, replay_append]
    rfl
  refine ⟨?_, ?_, ?_⟩
  · rw [view]
    exact (neutral.rows_eq _).1
  · rw [view]
    exact (neutral.rows_eq _).2
  · rw [view]
    have kept : ∀ id, .delete .accounts id ∉ [statement] := fun id member =>
      neutral.ne_delete id (List.mem_singleton.mp member)
    have owners := owners_replay kept earlier.view
    exact owners ▸ List.subset_append_left _ _

/-- Several neutral statements. -/
theorem writes {rows : List Database.Write} (neutral : ∀ row ∈ rows, LedgerNeutral row)
    {earlier later : Alone Database} (log : later.log = earlier.log ++ rows)
    (store : later.store = earlier.store) : Grown earlier later := by
  induction rows generalizing earlier with
  | nil => exact unwritten (log.trans (List.append_nil _)) store
  | cons row rows inductionHypothesis =>
      have head : Grown earlier { earlier with log := earlier.log ++ [row] } :=
        write (neutral row List.mem_cons_self) rfl rfl
      refine head.trans (inductionHypothesis
        (fun other member => neutral other (List.mem_cons_of_mem _ member)) ?_ store)
      rw [log, List.append_assoc, List.singleton_append]

end Grown

section

variable {answers : Answers Database} {alone later : Alone Database}

/-- Resolving a wallet leaves the ledger alone and returns a wallet of the owner. -/
theorem run_account {owner : String} {result : Except Failure Account}
    (ran : (account owner).run answers alone = (result, later)) :
    Grown alone later ∧ later.pending = alone.pending ∧
      ∀ wallet, result = .ok wallet → (wallet.id, owner) ∈ Db.owners later.view := by
  have created : ∀ {middle : Alone Database},
      (scalar .accounts (fun row => row.ownerKey = owner) >>= fun created =>
        (found created .unexpected : Op Account)).run answers middle = (result, later) →
      middle.pending = alone.pending → Grown alone middle →
      Grown alone later ∧ later.pending = alone.pending ∧
        ∀ wallet, result = .ok wallet → (wallet.id, owner) ∈ Db.owners later.view := by
    intro middle ended pending grown
    rw [run_scalar_bind] at ended
    cases seen : Db.first middle.view .accounts (fun row => row.ownerKey = owner) with
    | none =>
        rw [seen] at ended
        cases ended
        exact ⟨grown, pending, by rintro _ ⟨⟩⟩
    | some wallet =>
        rw [seen] at ended
        cases ended
        refine ⟨grown, pending, ?_⟩
        rintro _ ⟨⟩
        exact owned_of_first seen
  unfold account at ran
  rw [run_scalar_bind, run_branch] at ran
  cases seen : Db.first alone.view .accounts (fun row => row.ownerKey = owner) with
  | some wallet =>
      rw [seen] at ran
      cases ran
      refine ⟨.unwritten rfl rfl, rfl, ?_⟩
      rintro _ ⟨⟩
      exact owned_of_first seen
  | none =>
      rw [seen] at ran
      dsimp only at ran
      rw [run_uid_bind, run_execute_bind] at ran
      split at ran
      · refine created ran rfl (.write ?_ rfl rfl)
        rfl
      · exact created ran rfl (.unwritten rfl rfl)

/-- Flushing rows that do not belong to the ledger. -/
theorem run_flush_bind (neutral : ∀ row ∈ alone.pending, LedgerNeutral row) {rest : Unit → Op β}
    {value : β} (ran : (flush >>= rest).run answers alone = (.ok value, later)) :
    ∃ flushed, Grown alone flushed ∧ flushed.pending = [] ∧
      (rest ()).run answers flushed = (.ok value, later) := by
  rw [run_bind, run_flush] at ran
  by_cases accepted : acceptsAll alone.pending alone.view = true
  · rw [if_pos accepted] at ran
    exact ⟨{ alone with log := alone.log ++ alone.pending, pending := [] },
      .writes neutral rfl rfl, rfl, ran⟩
  · rw [if_neg accepted] at ran
    cases ran

theorem run_lockAll (ids : List Id) :
    (forEach ids fun id => lock [.row .accounts id, .key .accounts id] : Op Unit).run answers
      alone = (.ok (), alone) := by
  induction ids with
  | nil => rfl
  | cons id ids inductionHypothesis =>
      rw [run_forEach_cons]
      exact inductionHypothesis

/-- The check of the payer only reads. -/
theorem run_checkPayer {source : String} {balanceIrr amountIrr : Int}
    {result : Except Failure Unit}
    (ran : (checkPayer source balanceIrr amountIrr).run answers alone = (result, later)) :
    later = alone := by
  unfold checkPayer at ran
  rw [run_getForUpdate_bind, run_found_bind] at ran
  cases found : Db.find alone.view .organizations source with
  | none => rw [found] at ran; cases ran; rfl
  | some organization =>
      rw [found] at ran
      dsimp only at ran
      rw [run_require_bind] at ran
      split at ran
      · rw [run_require] at ran
        split at ran <;> cases ran <;> rfl
      · cases ran
        rfl

/-- A posting returns a transaction between the two wallets. -/
theorem run_post {source target : Account} {amountIrr : Int} {key kind reference : String}
    {actorId : Option Id} {transaction : Transaction} (empty : alone.pending = [])
    (ran : (post source target amountIrr key kind reference actorId).run answers alone =
      (.ok transaction, later)) :
    (later.view : Db) = replay (S := Database)
      (posting source.id target.id amountIrr transaction) alone.view ∧
      transaction.idempotencyKey = key := by
  obtain ⟨⟨store, log, asked, commits⟩, pending⟩ := alone
  cases empty
  unfold post at ran
  rw [run_send_bind] at ran
  split at ran
  · rw [run_send_bind] at ran
    split at ran
    · rw [run_uid_bind, run_insert_bind, run_insert_bind, run_insert_bind, run_bind,
        run_flush] at ran
      split at ran
      · next value flushed equal =>
          split at equal
          · cases equal
            cases ran
            have split : ∀ (debit credit : Database.Write) (rows : List Database.Write),
                log ++ [debit] ++ [credit] ++ rows = log ++ (debit :: credit :: rows) := by
              simp
            refine ⟨?_, rfl⟩
            exact (congrArg (fun log => replay (S := Database) log store) (split _ _ _)).trans
              (replay_append ..)
          · cases equal
      · cases ran
    · cases ran
  · cases ran

/-- The wallets of a posting have the owners they had before. -/
theorem owners_posting (source target : Id) (amountIrr : Int) (transaction : Transaction) (db : Db) :
    Db.owners (replay (S := Database) (posting source target amountIrr transaction) db) =
      db.owners := by
  rw [replay_posting]
  unfold Db.owners
  simp [List.map_map, Function.comp_def]

/-- A transaction that was just posted is between the two wallets. -/
theorem moves_posting {source target : Id} {amountIrr : Int} {transaction : Transaction} {db : Db}
    {payer receiver : String} (payerOwned : (source, payer) ∈ db.owners)
    (receiverOwned : (target, receiver) ∈ db.owners) :
    Moves (replay (S := Database) (posting source target amountIrr transaction) db) transaction
      payer receiver := by
  constructor
  · refine ⟨⟨transaction.id, source, .debit, amountIrr⟩, ?_, rfl, rfl, ?_⟩
    · simp [replay_posting]
    · rwa [owners_posting]
  · refine ⟨⟨transaction.id, target, .credit, amountIrr⟩, ?_, rfl, rfl, ?_⟩
    · simp [replay_posting]
    · rwa [owners_posting]

/-- A transfer under a key that is not in use posts a transaction between its wallets. -/
theorem run_transferFresh {source target key kind reference : String} {amountIrr : Int}
    {enforce : Bool} {actorId : Option Id} {transaction : Transaction}
    (neutral : ∀ row ∈ alone.pending, LedgerNeutral row)
    (unused : ∀ other ∈ Db.transactions alone.view, other.idempotencyKey ≠ key)
    (ran : (transferFresh source target amountIrr key kind reference enforce actorId).run answers
      alone = (.ok transaction, later)) :
    Moves later.view transaction source target := by
  unfold transferFresh at ran
  rw [run_bind] at ran
  cases payerRun : (account source).run answers alone with
  | mk payerResult first =>
  obtain ⟨toFirst, firstPending, payerOwned⟩ := run_account payerRun
  rw [payerRun] at ran
  cases payerResult with
  | error exception => cases ran
  | ok payer =>
  dsimp only at ran
  rw [run_bind] at ran
  cases receiverRun : (account target).run answers first with
  | mk receiverResult second =>
  obtain ⟨toSecond, secondPending, receiverOwned⟩ := run_account receiverRun
  rw [receiverRun] at ran
  cases receiverResult with
  | error exception => cases ran
  | ok receiver =>
  dsimp only at ran
  obtain ⟨third, toThird, empty, ran⟩ :=
    run_flush_bind (by rwa [secondPending, firstPending]) ran
  rw [run_bind, run_lockAll] at ran
  dsimp only at ran
  rw [run_scalar_bind, run_branch] at ran
  have grown := (toFirst.trans toSecond).trans toThird
  have absent : Db.first third.view .transactions (fun row => row.idempotencyKey = key) = none := by
    refine List.find?_eq_none.mpr fun other member => ?_
    have old : other ∈ Db.transactions alone.view := grown.transactions ▸ member
    simpa using unused other old
  rw [absent] at ran
  dsimp only at ran
  rw [run_get_bind, run_found_bind] at ran
  cases found : Db.find third.view .accounts payer.id with
  | none => rw [found] at ran; cases ran
  | some locked =>
  rw [found] at ran
  dsimp only at ran
  have posted : ∀ {before : Alone Database}, before = third →
      (post payer receiver amountIrr key kind reference actorId).run answers before =
        (.ok transaction, later) → Moves later.view transaction source target := by
    rintro before rfl ended
    rw [(run_post empty ended).1]
    exact moves_posting (toThird.owners (toSecond.owners (payerOwned payer rfl)))
      (toThird.owners (receiverOwned receiver rfl))
  rw [run_bind, run_when] at ran
  split at ran
  · next value checked equal =>
      split at equal
      · exact posted (run_checkPayer equal) ran
      · cases equal
        exact posted rfl ran
  · cases ran

end

/-! ## When a transfer returns its own transaction -/

/-- Every transaction with a key is between the same two wallets. -/
def KeyKept (db : Db) (key source target : String) : Prop :=
  ∀ transaction ∈ db.transactions, transaction.idempotencyKey = key →
    Moves db transaction source target

/-- A transfer returns a transaction from the source to the target, whenever it returns, exactly
when it moves nothing or its key stands for no other pair of wallets. -/
theorem transfer_moves_iff {alone : Alone Database} (integrity : Integrity alone.view)
    (neutral : ∀ row ∈ alone.pending, LedgerNeutral row)
    (source target : String) (amountIrr : Int) (key kind reference : String) (enforce : Bool)
    (actorId : Option Id) :
    (∀ answers transaction later,
      (transfer source target amountIrr key kind reference enforce actorId).run answers alone =
        (.ok transaction, later) → Moves later.view transaction source target) ↔
      (amountIrr ≤ 0 ∨ KeyKept alone.view key source target) := by
  have lookup : ∀ answers, (transfer source target amountIrr key kind reference enforce
      actorId).run answers alone =
        if 0 < amountIrr then
          match Db.first alone.view .transactions fun row => row.idempotencyKey = key with
          | some old => (pure old : Op Transaction).run answers alone
          | none => (transferFresh source target amountIrr key kind reference enforce
              actorId).run answers alone
        else (.error (.valueError "amount must be positive"), alone) := by
    intro answers
    unfold transfer
    rw [run_require_bind, run_scalar_bind, run_branch]
    cases Db.first alone.view .transactions (fun row => row.idempotencyKey = key) <;> rfl
  constructor
  · intro faithful
    refine (le_or_gt amountIrr 0).imp_right fun positive transaction member own => ?_
    refine faithful Sample.answers transaction alone ?_
    rw [lookup, if_pos positive]
    obtain ⟨old, first⟩ : ∃ old, Db.first alone.view .transactions
        (fun row => row.idempotencyKey = key) = some old :=
      Option.isSome_iff_exists.mp (List.find?_isSome.mpr ⟨transaction, member, by simp [own]⟩)
    have same : old.idempotencyKey = key := by simpa using List.find?_some first
    rw [first, integrity.transaction_eq (List.mem_of_find?_eq_some first) member
      (same.trans own.symm)]
    rfl
  · rintro condition answers transaction later ran
    rw [lookup] at ran
    split at ran
    · next positive =>
        have kept := condition.resolve_left (not_le.mpr positive)
        cases first : Db.first alone.view .transactions (fun row => row.idempotencyKey = key) with
        | some old =>
            rw [first] at ran
            cases ran
            exact kept _ (List.mem_of_find?_eq_some first) (by simpa using List.find?_some first)
        | none =>
            rw [first] at ran
            refine run_transferFresh neutral (fun other member same => ?_) ran
            exact absurd same (by simpa using List.find?_eq_none.mp first other member)
    · cases ran

/-- The workspace after a deposit of the shop. -/
def Sample.deposited : Db :=
  ((fund "shop" ⟨500, "monthly deposit"⟩).serve Sample.answers Sample.workspace).2

/-- The deposit may be asked for again: its key was used between the same wallets. -/
theorem transfer_moves_again :
    (∃ transaction ∈ Sample.deposited.transactions,
      transaction.idempotencyKey = "monthly deposit") ∧
      ∀ answers transaction later,
        (transfer systemOwner "shop" 500 "monthly deposit" "fund" "shop" false none).run answers
          (.opened Sample.deposited) = (.ok transaction, later) →
            Moves later.view transaction systemOwner "shop" := by
  have integrity : Integrity Sample.deposited := Sample.integrity.serve _ _
  have kept : KeyKept Sample.deposited "monthly deposit" systemOwner "shop" := by
    intro transaction member _
    have moved : ∀ transaction ∈ Sample.deposited.transactions,
        (∃ entry ∈ Sample.deposited.entries, entry.transactionId = transaction.id ∧
          entry.side = .debit ∧ (entry.accountId, systemOwner) ∈ Sample.deposited.owners) ∧
        ∃ entry ∈ Sample.deposited.entries, entry.transactionId = transaction.id ∧
          entry.side = .credit ∧ (entry.accountId, "shop") ∈ Sample.deposited.owners := by
      decide +kernel
    exact ⟨(moved transaction member).1, (moved transaction member).2⟩
  have used : ∃ transaction ∈ Sample.deposited.transactions,
      transaction.idempotencyKey = "monthly deposit" := by
    decide +kernel
  generalize Sample.deposited = db at integrity kept used ⊢
  have view : (Alone.opened db : Alone Database).view = db := rfl
  refine ⟨used, (transfer_moves_iff (view.symm ▸ integrity) (by simp [Alone.opened]) ..).mpr
    (.inr ?_)⟩
  rw [view]
  exact kept

/-- A deposit of the root organization under the key of the shop's deposit is answered with the
transaction of the shop. -/
theorem transfer_moves_fails :
    ¬∀ answers transaction later,
      (transfer systemOwner "root" 300 "monthly deposit" "fund" "root" false none).run answers
        (.opened Sample.deposited) = (.ok transaction, later) →
          Moves later.view transaction systemOwner "root" := by
  intro faithful
  obtain ⟨entry, member, _, _, owned⟩ := (faithful Sample.answers
    (Sample.deposited.transactions.headD ⟨"", "", "", "", none⟩) (.opened Sample.deposited)
    (by rfl)).credit
  revert entry
  decide +kernel

end ControlPlane
