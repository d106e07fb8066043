import ControlPlane.Decisions.Routes
import ControlPlane.Library.Overtaking
import ControlPlane.Library.Returns

/-!
# One transaction for each key

Any number of transfers carry the same idempotency key, each in a database
transaction of its own, statement by statement in any order. The ledger gets at
most one transaction with the key; its amount moves once; whatever commits
returns it, and whatever fails has changed nothing.
-/

namespace ControlPlane

open ReadCommitted Orm

/-! ## Balances -/

/-- The cached balance of an account; one that does not exist yet has nothing. -/
def Db.balanceOf (db : Db) (accountId : Id) : Int :=
  ((db.find .accounts accountId).map Account.balanceIrr).getD 0

/-- A statement that only creates an empty wallet. -/
def OpensWallet (statement : Database.Write) : Prop :=
  ∃ id owner, statement = .insert .accounts ⟨id, owner, 0⟩

theorem find_accounts_eq (db : Db) (accountId : Id) :
    db.find .accounts accountId =
      db.accounts.find? fun row => decide (some row.id = some accountId) := rfl

/-- An empty wallet changes no balance. -/
theorem balanceOf_open (id : Id) (owner : String) (db : Db) (accountId : Id) :
    Db.balanceOf ({ db with accounts := db.accounts ++ [⟨id, owner, 0⟩] }) accountId =
      db.balanceOf accountId := by
  unfold Db.balanceOf
  rw [find_accounts_eq, find_accounts_eq, List.find?_append]
  cases db.accounts.find? fun row => decide (some row.id = some accountId) with
  | some account => rfl
  | none =>
      rw [Option.none_or, List.find?_singleton]
      split <;> rfl

/-- What happened between two states of the ledger in which nobody paid. -/
structure Unmoved (start db : Db) : Prop where
  transactions : db.transactions = start.transactions
  entries : db.entries = start.entries
  balances : ∀ accountId, db.balanceOf accountId = start.balanceOf accountId

/-- One transaction was posted: it is new, and exactly its amount moved. -/
structure Moved (start db : Db) (source target : Id) (amountIrr : Int) (transaction : Transaction) :
    Prop where
  positive : 0 < amountIrr
  fresh : ∀ other ∈ start.transactions, other.idempotencyKey ≠ transaction.idempotencyKey
  transactions : db.transactions = start.transactions ++ [transaction]
  entries : db.entries = start.entries ++
    [⟨transaction.id, source, .debit, amountIrr⟩, ⟨transaction.id, target, .credit, amountIrr⟩]
  balances : ∀ accountId, db.balanceOf accountId = start.balanceOf accountId +
    (if accountId = source then -amountIrr else 0) + if accountId = target then amountIrr else 0

/-- Nobody has paid under the key yet, or it was paid once. -/
def MovedOnce (key : String) (start db : Db) : Prop :=
  Unmoved start db ∨ ∃ source target amountIrr transaction,
    transaction.idempotencyKey = key ∧ Moved start db source target amountIrr transaction

theorem Unmoved.refl (db : Db) : Unmoved db db := ⟨rfl, rfl, fun _ => rfl⟩

theorem Unmoved.trans {first second third : Db} (early : Unmoved first second)
    (late : Unmoved second third) : Unmoved first third :=
  ⟨late.transactions.trans early.transactions, late.entries.trans early.entries,
    fun accountId => (late.balances accountId).trans (early.balances accountId)⟩

/-- New wallets are no payment. -/
theorem Unmoved.open {log : List Database.Write} (opens : ∀ statement ∈ log, OpensWallet statement)
    (db : Db) : Unmoved db (replay (S := Database) log db) := by
  induction log generalizing db with
  | nil => exact .refl db
  | cons statement log inductionHypothesis =>
      obtain ⟨id, owner, rfl⟩ := opens statement List.mem_cons_self
      have first : Unmoved db { db with accounts := db.accounts ++ [⟨id, owner, 0⟩] } :=
        ⟨rfl, rfl, balanceOf_open id owner db⟩
      exact first.trans (inductionHypothesis (fun other member =>
        opens other (List.mem_cons_of_mem _ member)) _)

/-- New wallets leave a payment as it is. -/
theorem MovedOnce.later {key : String} {start db later : Db} (once : MovedOnce key start db)
    (unmoved : Unmoved db later) : MovedOnce key start later := by
  rcases once with none | ⟨source, target, amountIrr, transaction, own, paid⟩
  · exact .inl (none.trans unmoved)
  · exact .inr ⟨source, target, amountIrr, transaction, own, paid.positive, paid.fresh,
      unmoved.transactions.trans paid.transactions, unmoved.entries.trans paid.entries,
      fun accountId => (unmoved.balances accountId).trans (paid.balances accountId)⟩

/-- An account after a change of one balance. -/
theorem find?_map_shift (accounts : List Account) (id : Id) (delta : Int) (accountId : Id) :
    (accounts.map (Account.shift id delta)).find? (fun row => decide (some row.id = some accountId)) =
      (accounts.find? fun row => decide (some row.id = some accountId)).map
        (Account.shift id delta) := by
  rw [List.find?_map]
  congr 2
  funext row
  simp

/-- A posting moves its amount between two wallets that exist. -/
theorem balanceOf_posting {source target : Id} {amountIrr : Int} {transaction : Transaction}
    {db : Db} (accepted :
      acceptsAll (S := Database) (posting source target amountIrr transaction) db = true)
    (accountId : Id) :
    Db.balanceOf (replay (S := Database) (posting source target amountIrr transaction) db)
        accountId =
      db.balanceOf accountId + (if accountId = source then -amountIrr else 0) +
        if accountId = target then amountIrr else 0 := by
  have found : Db.find (replay (S := Database) (posting source target amountIrr transaction) db)
      .accounts accountId =
        ((db.find .accounts accountId).map (Account.shift source (-amountIrr))).map
          (Account.shift target amountIrr) := by
    rw [replay_posting, find_accounts_eq, find_accounts_eq]
    rw [find?_map_shift, find?_map_shift]
  unfold Db.balanceOf
  rw [found]
  cases stored : db.find .accounts accountId with
  | some account =>
      obtain ⟨_, own⟩ := Db.find_mem stored
      obtain rfl : account.id = accountId := Option.some.inj own
      simp only [Option.map_some, Option.getD_some, Account.shift_balanceIrr, Account.shift_id]
  | none =>
      have absent : ∀ account ∈ db.accounts, account.id ≠ accountId := by
        intro account member same
        have missing := List.find?_eq_none.mp stored account member
        exact missing (decide_eq_true (congrArg some same))
      simp only [posting] at accepted
      rw [acceptsAll_cons, acceptsAll_cons] at accepted
      simp only [Bool.and_eq_true] at accepted
      have present (id : Id) (later : Db) (columns : Table.Change .accounts)
          (exists_ : Database.accepts (.update .accounts id columns) later = true) :
          ∃ account ∈ later.accounts, account.id = id := by
        have has := (Bool.and_eq_true _ _ ▸ exists_ : _ ∧ _).1
        obtain ⟨account, member, own⟩ := Layout.has_eq_true.mp has
        exact ⟨account, member, Option.some.inj own⟩
      obtain ⟨payer, payerMember, payerOwn⟩ := present source db _ accepted.1
      obtain ⟨payee, payeeMember, payeeOwn⟩ := present target _ _ accepted.2.1
      have payeeBefore : ∃ account ∈ db.accounts, account.id = target := by
        change payee ∈ db.accounts.map (@Layout.amend layout .accounts source ⟨-amountIrr⟩)
          at payeeMember
        rw [amend_accounts] at payeeMember
        obtain ⟨account, member, rfl⟩ := List.mem_map.mp payeeMember
        exact ⟨account, member, (Account.shift_id ..).symm.trans payeeOwn⟩
      obtain ⟨receiver, receiverMember, receiverOwn⟩ := payeeBefore
      have notSource : accountId ≠ source := fun same =>
        absent payer payerMember (payerOwn.trans same.symm)
      have notTarget : accountId ≠ target := fun same =>
        absent receiver receiverMember (receiverOwn.trans same.symm)
      simp [notSource, notTarget]

/-- A posting passes its checks only with a key that is not in use. -/
theorem posting_unused {source target : Id} {amountIrr : Int} {transaction : Transaction} {db : Db}
    (integrity : Integrity db) (accepted :
      acceptsAll (S := Database) (posting source target amountIrr transaction) db = true) :
    ∀ other ∈ db.transactions, other.idempotencyKey ≠ transaction.idempotencyKey := by
  intro other member same
  have after : Integrity (replay (S := Database)
      (posting source target amountIrr transaction) db) :=
    Layout.Integrity.replay integrity accepted
  have kept : other ∈ (replay (S := Database)
      (posting source target amountIrr transaction) db).transactions := by
    rw [replay_posting]
    exact List.mem_append_left _ member
  have posted : transaction ∈ (replay (S := Database)
      (posting source target amountIrr transaction) db).transactions := by
    rw [replay_posting]
    exact List.mem_append_right _ (List.mem_singleton_self _)
  obtain rfl := after.transaction_eq kept posted same
  exact posting_fresh accepted other member rfl

/-- Nobody pays twice under a key. -/
theorem MovedOnce.posting {key : String} {start db : Db} (once : MovedOnce key start db)
    (integrity : Integrity db) {source target : Id} {amountIrr : Int} {transaction : Transaction}
    (positive : 0 < amountIrr) (own : transaction.idempotencyKey = key) (accepted :
      acceptsAll (S := Database) (ControlPlane.posting source target amountIrr transaction) db =
        true) :
    MovedOnce key start
      (replay (S := Database) (ControlPlane.posting source target amountIrr transaction) db) := by
  have unused := posting_unused integrity accepted
  rcases once with none | ⟨_, _, _, earlier, earlierOwn, paid⟩
  · refine .inr ⟨source, target, amountIrr, transaction, own, positive, ?_, ?_, ?_, ?_⟩
    · rw [← none.transactions]
      exact unused
    · rw [replay_posting, ← none.transactions]
    · rw [replay_posting, ← none.entries]
    · intro accountId
      rw [balanceOf_posting accepted, none.balances]
  · refine absurd (earlierOwn.trans own.symm) (unused earlier ?_)
    rw [paid.transactions]
    exact List.mem_append_right _ (List.mem_singleton_self _)

/-! ## The agreement -/

/-- The transaction of a database transaction under a key: new wallets, and at most one posting. -/
def PaysOnce (key : String) (log : List Database.Write) : Prop :=
  (∀ statement ∈ log, OpensWallet statement) ∨
    ∃ before after source target amountIrr transaction,
      (∀ statement ∈ before, OpensWallet statement) ∧
      (∀ statement ∈ after, OpensWallet statement) ∧
      0 < amountIrr ∧ transaction.idempotencyKey = key ∧
      log = before ++ posting source target amountIrr transaction ++ after

/-- The key is paid at most once since a state of the database. -/
theorem MovedOnce.replay {key : String} {start db : Db} (once : MovedOnce key start db)
    (integrity : Integrity db) {log : List Database.Write}
    (accepted : acceptsAll (S := Database) log db = true) (pays : PaysOnce key log) :
    MovedOnce key start (ReadCommitted.replay (S := Database) log db) := by
  rcases pays with opens | ⟨before, after, source, target, amountIrr, transaction, opensBefore,
    opensAfter, positive, own, rfl⟩
  · exact once.later (.open opens db)
  · rw [acceptsAll_append, acceptsAll_append] at accepted
    simp only [Bool.and_eq_true] at accepted
    rw [replay_append, replay_append]
    have opened := once.later (.open opensBefore db)
    have kept : Integrity (ReadCommitted.replay (S := Database) before db) :=
      Layout.Integrity.replay integrity accepted.1.1
    exact (opened.posting kept positive own accepted.1.2).later (.open opensAfter _)

/-- All sessions together pay at most once under the key. -/
def keyAgreement (start : Db) (key : String) : Agreement Database where
  inv db := Integrity db ∧ MovedOnce key start db
  le db later := db.transactions ⊆ later.transactions
  commit _ log db := acceptsAll (S := Database) log db = true ∧ PaysOnce key log
  le_refl _ := List.Subset.refl _
  le_trans := List.Subset.trans
  inv_replay invariant committed _ :=
    ⟨Layout.Integrity.replay invariant.1 committed.1,
      invariant.2.replay invariant.1 committed.1 committed.2⟩

/-- Transactions stay in the ledger. -/
theorem PaysOnce.transactions {key : String} {log : List Database.Write} (pays : PaysOnce key log)
    (db : Db) : db.transactions ⊆ (ReadCommitted.replay (S := Database) log db).transactions := by
  rcases pays with opens | ⟨before, after, source, target, amountIrr, transaction, opensBefore,
    opensAfter, positive, own, rfl⟩
  · rw [(Unmoved.open opens db).transactions]
    exact List.Subset.refl _
  · rw [replay_append, replay_append, (Unmoved.open opensAfter _).transactions, replay_posting]
    dsimp only
    rw [(Unmoved.open opensBefore db).transactions]
    exact List.subset_append_left _ _

section

variable {start : Db} {key : String} {point : Point Database}

instance : (keyAgreement start key).Shared where
  le_replay _ committed _ := committed.2.transactions _

instance : (keyAgreement start key).Unrestricted := ⟨id⟩

instance (query : Query) : (keyAgreement start key).Asks query where
  asks := trivial

instance : (keyAgreement start key).Admits OpensWallet where
  commit_nil _ := ⟨rfl, .inl (by simp)⟩
  commit_held _ _ committed := committed
  commit_write {_ log store write} _ opens committed accepted := by
    refine ⟨?_, ?_⟩
    · rw [acceptsAll_append, committed.1, acceptsAll_cons, accepted]
      rfl
    · have grown (statements : List Database.Write)
          (opened : ∀ statement ∈ statements, OpensWallet statement) :
          ∀ statement ∈ statements ++ [write], OpensWallet statement := by
        intro statement member
        rcases List.mem_append.mp member with old | new
        · exact opened statement old
        · exact List.mem_singleton.mp new ▸ opens
      rcases committed.2 with opened | ⟨before, after, source, target, amountIrr, transaction,
        opensBefore, opensAfter, positive, own, rfl⟩
      · exact .inl (grown log opened)
      · exact .inr ⟨before, after ++ [write], source, target, amountIrr, transaction, opensBefore,
          grown after opensAfter, positive, own, List.append_assoc ..⟩

/-! ## A session that has not posted -/

/-- A session could commit now, has recorded nothing, and has only opened wallets. -/
structure Unposted (start : Db) (key : String) (point : Point Database) : Prop where
  ready : Ready (keyAgreement start key) OpensWallet point
  pending : point.pending = []
  opens : ∀ statement ∈ point.log, OpensWallet statement

namespace Unposted

theorem fresh {db : Db} (invariant : (keyAgreement start key).inv db) :
    Unposted start key ⟨[], [], [], db⟩ :=
  ⟨.fresh invariant, rfl, by simp⟩

theorem rely (unposted : Unposted start key point) {later : Db}
    (moved : (keyAgreement start key).Rely point.held point.store later) :
    Unposted start key { point with store := later } :=
  ⟨unposted.ready.rely moved, unposted.pending, unposted.opens⟩

theorem acquire (unposted : Unposted start key point) (more : List (Held Database)) :
    Unposted start key { point with held := point.held ++ more } :=
  ⟨unposted.ready.acquire more, unposted.pending, unposted.opens⟩

theorem write (unposted : Unposted start key point) {statement : Database.Write}
    (opens : OpensWallet statement) (accepted : Database.accepts statement point.view = true) :
    Unposted start key { point with
      held := point.held ++ Held.ofWrite statement point.view
      log := point.log ++ [statement] } := by
  refine ⟨unposted.ready.write opens accepted, unposted.pending, fun other member => ?_⟩
  rcases List.mem_append.mp member with old | new
  · exact unposted.opens other old
  · exact List.mem_singleton.mp new ▸ opens

/-- Resolving a wallet at most creates it. -/
theorem wp_account (owner : String) (unposted : Unposted start key point) :
    (account owner).wp (keyAgreement start key) (fun _ later => Unposted start key later) point := by
  unfold account
  rw [wp_scalar_bind]
  intro seen moved
  have here := unposted.rely moved
  refine (wp_branch ..).mpr ⟨fun _ => ?_, fun _ _ => here⟩
  rw [wp_uid_bind]
  intro id
  rw [wp_execute_bind]
  intro current moved'
  have there := here.rely moved'
  have created {later : Point Database} (unposted : Unposted start key later) :
      (do
        let created ← scalar .accounts fun row => row.ownerKey = owner
        found created .unexpected : Op Account).wp (keyAgreement start key)
          (fun _ last => Unposted start key last) later := by
    rw [wp_scalar_bind]
    intro last moved
    exact (wp_found ..).mpr ⟨fun _ _ => unposted.rely moved, fun _ => unposted.rely moved⟩
  exact ⟨fun accepted => created (there.write ⟨id, owner, rfl⟩ accepted), fun _ => created there⟩

/-- With nothing recorded, a flush does nothing. -/
theorem wp_flush (unposted : Unposted start key point) :
    (flush : Op Unit).wp (keyAgreement start key) (fun _ later => Unposted start key later)
      point := by
  obtain ⟨pending, held, log, store⟩ := point
  obtain rfl : pending = [] := unposted.pending
  exact unposted

/-- Locking wallets one after the other. -/
theorem wp_lockAll (ids : List Id) (unposted : Unposted start key point) :
    (forEach ids fun id => lock [.row .accounts id, .key .accounts id] : Op Unit).wp
      (keyAgreement start key) (fun _ later => Unposted start key later) point := by
  induction ids generalizing point with
  | nil => exact unposted
  | cons id ids inductionHypothesis =>
      rw [forEach, wp_lock_bind]
      intro later moved
      exact inductionHypothesis ((unposted.rely moved).acquire _)

/-- Checking the payer only locks its row. -/
theorem wp_checkPayer (source : String) (balanceIrr amountIrr : Int)
    (unposted : Unposted start key point) :
    (checkPayer source balanceIrr amountIrr).wp (keyAgreement start key)
      (fun _ later => Unposted start key later) point := by
  have checks {later : Point Database} (unposted : Unposted start key later)
      (row : Option Organization) :
      (do
        let organization ← found row (.valueError "paying organization not found")
        require (organization.status = .active) (.valueError "organization suspended")
        require (amountIrr ≤ balanceIrr + organization.creditLimitIrr)
          (.valueError "insufficient credit") : Op Unit).wp (keyAgreement start key)
            (fun _ last => Unposted start key last) later := by
    refine (wp_found_bind ..).mpr ⟨fun organization _ => ?_, fun _ => unposted⟩
    refine (wp_require_bind ..).mpr ⟨fun _ => ?_, fun _ => unposted⟩
    exact (wp_require ..).mpr ⟨fun _ => unposted, fun _ => unposted⟩
  unfold checkPayer
  rw [wp_getForUpdate_bind]
  intro seen moved
  have here := unposted.rely moved
  refine ⟨fun _ => checks here none, fun row _ granted moved' later moved'' => ?_⟩
  exact checks (((here.rely moved').acquire _).rely moved'') _

end Unposted

/-! ## Posting -/

/-- A session could commit now, has recorded nothing, and returns only a transaction with the key that
its commit would leave in the ledger. -/
structure Returns (start : Db) (key : String) (result : Except Failure Transaction)
    (point : Point Database) : Prop where
  ready : Ready (keyAgreement start key) OpensWallet point
  pending : point.pending = []
  listed : ∀ transaction, result = .ok transaction → transaction.idempotencyKey = key ∧
    ∀ later, (keyAgreement start key).Rely point.held point.store later →
      transaction ∈ (ReadCommitted.replay (S := Database) point.log later).transactions

/-- A session that starts over returns nothing. -/
theorem Returns.fresh {db : Db} (invariant : (keyAgreement start key).inv db)
    (exception : Failure) : Returns start key (.error exception) ⟨[], [], [], db⟩ :=
  ⟨.fresh invariant, rfl, nofun⟩

/-- What was found in the ledger stays there. -/
theorem Unposted.returns (unposted : Unposted start key point) {transaction : Transaction}
    (found : Db.first point.view .transactions (fun row => row.idempotencyKey = key) =
      some transaction) : Returns start key (.ok transaction) point := by
  have own : transaction.idempotencyKey = key := by simpa using List.find?_some found
  have listed : transaction ∈ point.store.transactions := by
    rw [← (Unmoved.open unposted.opens point.store).transactions]
    exact List.mem_of_find?_eq_some found
  refine ⟨unposted.ready, unposted.pending, ?_⟩
  rintro _ ⟨⟩
  refine ⟨own, fun later rely => ?_⟩
  rw [(Unmoved.open unposted.opens later).transactions]
  exact rely.le listed

/-- A completed posting is committed, and its transaction returned. -/
theorem returns_posted {base later : Point Database} (unposted : Unposted start key base)
    {source target : Id} {amountIrr : Int} {transaction : Transaction} (positive : 0 < amountIrr)
    (own : transaction.idempotencyKey = key)
    (midway : Midway (keyAgreement start key) base
      (posting source target amountIrr transaction) later) (empty : later.pending = []) :
    Returns start key (.ok transaction) later := by
  have listed (db : Db) : transaction ∈
      (ReadCommitted.replay (S := Database) later.log db).transactions := by
    rw [midway.log, replay_append, replay_posting]
    exact List.mem_append_right _ (List.mem_singleton_self _)
  refine ⟨⟨midway.inv, midway.covered, fun db rely => ⟨midway.accepted db rely, .inr ?_⟩, ?_⟩,
    empty, ?_⟩
  · exact ⟨base.log, [], source, target, amountIrr, transaction, unposted.opens, by simp, positive,
      own, by rw [midway.log, List.append_nil]⟩
  · rw [empty]
    exact fun _ member => absurd member List.not_mem_nil
  · rintro _ ⟨⟩
    exact ⟨own, fun db _ => listed db⟩

/-- The ledger rows of a transfer are posted together, or the session starts over. -/
theorem Unposted.wp_post {source target : Account} {amountIrr : Int} (kind reference : String)
    (actorId : Option Id) (unposted : Unposted start key point) (positive : 0 < amountIrr) :
    (post source target amountIrr key kind reference actorId).wp (keyAgreement start key)
      (Returns start key) point := by
  have begun : Midway (keyAgreement start key) point [] point :=
    .start unposted.ready fun later rely => (unposted.ready.commit later rely).1
  unfold post
  rw [wp_send_bind]
  intro first firstMoved
  refine ⟨fun firstAccepted => ?_, fun _ last moved => .fresh moved.inv _⟩
  have debited := (begun.later firstMoved).write firstAccepted
  rw [wp_send_bind]
  intro second secondMoved
  refine ⟨fun secondAccepted => ?_, fun _ last moved => .fresh moved.inv _⟩
  have credited := (debited.later secondMoved).write secondAccepted
  rw [wp_uid_bind]
  intro id
  rw [wp_insert_bind, wp_insert_bind, wp_insert_bind]
  have flushing := Midway.flushAll OpensWallet
    [.insert .transactions ⟨id.1, key, kind, reference, actorId⟩,
    .insert .entries ⟨id.1, source.id, .debit, amountIrr⟩,
    .insert .entries ⟨id.1, target.id, .credit, amountIrr⟩] [] (credited.record [])
  unfold wp flush
  dsimp only
  rw [unposted.pending]
  change (keyAgreement start key).wp (Prog.bind (Prog.bind _ _) _) _ _ _ _
  rw [Agreement.wp_bind, Agreement.wp_bind]
  refine (keyAgreement start key).wp_mono ?_ flushing
  rintro done held log store ⟨completed, aborted⟩
  cases done with
  | true => exact returns_posted unposted positive rfl (completed rfl) rfl
  | false => exact ⟨aborted rfl, rfl, nofun⟩

/-- A transfer returns the only transaction with its key, or changes nothing. -/
theorem Unposted.wp_transfer (source target : String) (amountIrr : Int) (kind reference : String)
    (enforce : Bool) (actorId : Option Id) (unposted : Unposted start key point) :
    (transfer source target amountIrr key kind reference enforce actorId).wp
      (keyAgreement start key) (Returns start key) point := by
  have raised {later : Point Database} (unposted : Unposted start key later) (exception : Failure) :
      Returns start key (.error exception) later := ⟨unposted.ready, unposted.pending, nofun⟩
  unfold transfer
  refine (wp_require_bind ..).mpr ⟨fun positive => ?_, fun _ => raised unposted _⟩
  rw [wp_scalar_bind]
  intro seen moved
  have here := unposted.rely moved
  refine (wp_branch ..).mpr ⟨fun _ => ?_, fun old found => here.returns found⟩
  unfold transferFresh
  refine wp_seq _ (here.wp_account source) ?_ (fun exception _ later => raised later exception)
  intro payer first toFirst
  refine wp_seq _ (toFirst.wp_account target) ?_ (fun exception _ later => raised later exception)
  intro receiver second toSecond
  refine wp_seq _ toSecond.wp_flush ?_ (fun exception _ later => raised later exception)
  intro _ third toThird
  refine wp_seq _ (toThird.wp_lockAll _) ?_ (fun exception _ later => raised later exception)
  intro _ fourth toFourth
  rw [wp_scalar_bind]
  intro fifth fifthMoved
  have toFifth := toFourth.rely fifthMoved
  refine (wp_branch ..).mpr ⟨fun _ => ?_, fun old found => toFifth.returns found⟩
  rw [wp_get_bind]
  intro sixth sixthMoved
  have toSixth := toFifth.rely sixthMoved
  refine (wp_found_bind ..).mpr ⟨fun locked _ => ?_, fun _ => raised toSixth _⟩
  refine wp_seq _ (show wp _ _ (fun _ later => Unposted start key later) _ from
    (wp_when ..).mpr ⟨fun _ => toSixth.wp_checkPayer source locked.balanceIrr amountIrr,
      fun _ => toSixth⟩)
    (fun _ _ checked => checked.wp_post kind reference actorId positive)
    (fun exception _ later => raised later exception)

/-! ## A transfer in a transaction of its own -/

/-- `transfer` under a key, and its commit. -/
def committedTransfer (source target : String) (amountIrr : Int) (key kind reference : String)
    (enforce : Bool) (actorId : Option Id) : Op Transaction := do
  let transaction ← transfer source target amountIrr key kind reference enforce actorId
  commit
  pure transaction

/-- The sessions that transfer under one key. -/
inductive KeyedTransfer (key : String) : Prog Database (Except Failure Transaction) → Prop
  | call (source target : String) (amountIrr : Int) (kind reference : String) (enforce : Bool)
      (actorId : Option Id) :
      KeyedTransfer key
        (committedTransfer source target amountIrr key kind reference enforce actorId).session

/-- What a call returns is in the ledger, under the key. -/
def Recorded (key : String) (result : Except Failure Transaction) (db : Db) : Prop :=
  ∀ transaction, result = .ok transaction →
    transaction.idempotencyKey = key ∧ transaction ∈ db.transactions

/-- A call returns a transaction that it left in the ledger. -/
theorem KeyedTransfer.returns {program : Prog Database (Except Failure Transaction)}
    (call : KeyedTransfer key program) {db : Db} (invariant : (keyAgreement start key).inv db) :
    (keyAgreement start key).wp program (fun result _ _ db => Recorded key result db) [] [] db := by
  cases call with
  | call source target amountIrr kind reference enforce actorId =>
      unfold session
      rw [Agreement.wp_bind]
      have transferring := (Unposted.fresh invariant).wp_transfer source target amountIrr kind
        reference enforce actorId
      have returning : (committedTransfer source target amountIrr key kind reference enforce
          actorId).wp (keyAgreement start key) (fun result later => Recorded key result later.store)
            ⟨[], [], [], db⟩ := by
        refine wp_seq _ transferring ?_ fun _ _ _ => nofun
        rintro transaction ⟨pending, held, log, store⟩ returns
        obtain rfl : pending = [] := returns.pending
        intro later rely
        refine ⟨returns.ready.commit later rely, ?_⟩
        rintro _ _ ⟨⟩
        exact ⟨(returns.listed _ rfl).1, (returns.listed _ rfl).2 later rely⟩
      exact returning

/-- A call that commits returns a transaction. -/
theorem KeyedTransfer.paths {program : Prog Database (Except Failure Transaction)}
    (call : KeyedTransfer key program) :
    program.Paths (fun committed result => committed = true → ∃ transaction, result = .ok transaction)
      false := by
  cases call with
  | call source target amountIrr kind reference enforce actorId =>
      have transferring : (transfer source target amountIrr key kind reference enforce
          actorId).Paths (fun later _ => later = false) false := Tentative.paths false
      have committing (transaction : Transaction) :
          (commit >>= fun _ => pure transaction : Op Transaction).Paths
            (fun committed result => committed = true → ∃ transaction, result = .ok transaction)
            false := by
        have ends : (commit : Op Unit).Paths (fun later result => later = true → result = .ok ())
            false := by
          intro pending
          refine (Prog.paths_bind ..).mpr (Prog.paths_mono ?_ (Tentative.flushAll pending false))
          rintro later accepted rfl
          cases accepted with
          | true => exact fun _ => rfl
          | false => exact nofun
        exact ends.seq (fun _ _ _ _ _ => ⟨transaction, rfl⟩)
          fun _ _ impossible set => nomatch impossible set
      have whole : (committedTransfer source target amountIrr key kind reference enforce
          actorId).Paths (fun committed result => committed = true →
            ∃ transaction, result = .ok transaction) false := by
        refine Paths.seq transferring ?_ ?_
        · rintro _ transaction rfl
          exact committing transaction
        · rintro _ _ rfl
          exact nofun
      exact (Prog.paths_bind ..).mpr (whole [])

/-- Any number of transfers under one key, in any interleaving: the ledger gets at most one
transaction with the key, whose amount moves once; it stays there; each call that returns, returns
it; and whoever commits does not fail any more, so a call that fails has committed nothing. -/
theorem transferred_once {ι : Type} [DecidableEq ι] (integrity : Integrity start)
    {world : World Database ι (Except Failure Transaction)}
    (reached : World.Reachable (KeyedTransfer key) start world) :
    MovedOnce key start world.store ∧
    (∀ first ∈ world.store.transactions, ∀ second ∈ world.store.transactions,
      first.idempotencyKey = key → second.idempotencyKey = key → first = second) ∧
    (∀ later, Relation.ReflTransGen (World.Step (KeyedTransfer key)) world later →
      world.store.transactions ⊆ later.store.transactions) ∧
    (∀ session held log transaction,
      world.threads session = some ⟨held, log, .ret (.ok transaction)⟩ →
        transaction.idempotencyKey = key ∧ transaction ∈ world.store.transactions) ∧
    ∀ next, World.Step (KeyedTransfer key) world next →
      (next.store = world.store ∧ next.commits = world.commits) ∨ ∃ session program,
        next.threads session = some ⟨[], [], program⟩ ∧
          program.Paths (fun _ result => ∃ transaction, result = .ok transaction) true := by
  have invariant : (keyAgreement start key).inv start := ⟨integrity, .inl (.refl start)⟩
  have stable (result : Except Failure Transaction) (db later : Db)
      (grown : (keyAgreement start key).le db later) (recorded : Recorded key result db) :
      Recorded key result later := fun transaction returned =>
    ⟨(recorded transaction returned).1, grown (recorded transaction returned).2⟩
  obtain ⟨sound, returning⟩ := Agreement.returns stable
    (fun _ call _ => KeyedTransfer.returns call) invariant reached
  have meets (program : Prog Database (Except Failure Transaction))
      (call : KeyedTransfer key program) : (keyAgreement start key).Meets program :=
    fun _ held => Agreement.wp_mono _ (fun _ _ _ _ _ => trivial) (call.returns held)
  refine ⟨sound.inv.2, ?_, fun later steps => (sound.evolve meets steps).2, ?_, fun next step => ?_⟩
  · intro first firstMember second secondMember firstKey secondKey
    exact sound.inv.1.transaction_eq firstMember secondMember (firstKey.trans secondKey.symm)
  · exact fun session held log transaction found =>
      returning session _ found transaction rfl
  · have paths := World.Reachable.paths (fun _ call => KeyedTransfer.paths call) reached
    refine (World.Step.paths (fun _ call => KeyedTransfer.paths call) paths step).2.imp_right ?_
    rintro ⟨session, program, found, follows⟩
    exact ⟨session, program, found, Prog.paths_mono (fun _ _ ends => ends rfl) follows⟩

/-- A call that deposits money of the platform in the wallet of the sample shop. -/
abbrev Sample.deposit : Prog Database (Except Failure Transaction) :=
  (committedTransfer systemOwner "shop" 500 "deposit" "root-funding" "first" false none).session

theorem Sample.deposit_keyed : KeyedTransfer "deposit" deposit :=
  .call systemOwner "shop" 500 "root-funding" "first" false none

/-- A deposit is sent twice at once: both calls find no transaction with the key, and it is paid
once. -/
theorem transferred_once_deposit :
    ∃ world : World Database Bool (Except Failure Transaction),
      World.Reachable (KeyedTransfer "deposit") Sample.workspace world ∧
        world.store.transactions.map Transaction.idempotencyKey = ["deposit"] ∧
        world.store.accounts.map (fun account => (account.ownerKey, account.balanceIrr)) =
          [(systemOwner, -500), ("shop", 500)] ∧
        MovedOnce "deposit" Sample.workspace world.store := by
  have quiet : (World.initial Sample.workspace :
      World Database Bool (Except Failure Transaction)).Quiet := fun _ => rfl
  obtain ⟨middle, last, passed, steps, -, first, second⟩ :=
    quiet.overtaken .refl (show false ≠ true by decide) Sample.answers 12
      (Sample.answersFrom 2) (Sample.answersFrom 9) Sample.deposit_keyed Sample.deposit_keyed
  have reachable := passed.trans steps
  refine ⟨last, reachable, ?_, ?_, (transferred_once Sample.integrity reachable).1⟩
  · rw [second, first]
    decide +kernel
  · rw [second, first]
    decide +kernel

end

end ControlPlane
