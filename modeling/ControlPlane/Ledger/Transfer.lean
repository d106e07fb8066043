import ControlPlane.Ledger.Agreement

/-!
# Transfers respect the ledger agreement

A transfer locks both wallets and, when it has to check the payer, the row of
the paying organization. From there until the commit nobody else can change
what it has seen, so the five statements of the posting keep the books sound
whatever the other sessions commit in between.
-/

namespace ControlPlane

open ReadCommitted Orm

variable {solvency : Prop}

/-! ## What a posting adds to a commit -/

/-- A posting passes its checks only with a transaction id that is not in use. -/
theorem posting_fresh {source target : Id} {amountIrr : Int} {transaction : Transaction} {db : Db}
    (accepted : acceptsAll (S := Database) (posting source target amountIrr transaction) db = true) :
    ∀ other ∈ db.transactions, other.id ≠ transaction.id := by
  simp only [posting] at accepted
  rw [acceptsAll_cons, acceptsAll_cons, acceptsAll_cons] at accepted
  simp only [Bool.and_eq_true] at accepted
  exact fun other member same =>
    Layout.Statement.unused_of_accepts accepted.2.2.1 rfl other member (congrArg some same)

/-- An account after a posting was there before, with the same owner. -/
theorem mem_accounts_posting {source target : Id} {amountIrr : Int} {transaction : Transaction}
    {db : Db} {account : Account}
    (member : account ∈ (replay (S := Database)
      (posting source target amountIrr transaction) db).accounts) :
    ∃ before ∈ db.accounts, before.id = account.id ∧ before.ownerKey = account.ownerKey := by
  rw [replay_posting] at member
  obtain ⟨shifted, shiftedMember, rfl⟩ := List.mem_map.mp member
  obtain ⟨before, beforeMember, rfl⟩ := List.mem_map.mp shiftedMember
  exact ⟨before, beforeMember, by simp, by simp⟩

/-- A posting after writes that could be committed can be committed along with them. -/
theorem LedgerCommit.posting {held : List (Held Database)} {log : List Database.Write} {db : Db}
    (committed : LedgerCommit solvency held log db) (integrity : Integrity db)
    {payer : Account} {target : Id} {amountIrr : Int} {transaction : Transaction}
    (positive : 0 < amountIrr)
    (payerMember : payer ∈ (replay (S := Database) log db).accounts)
    (targetMember : target ∈ (replay (S := Database) log db).accounts.map Account.id)
    (affordable : payer.ownerKey ≠ systemOwner →
      amountIrr ≤ payer.balanceIrr +
        Db.creditLimit (replay (S := Database) log db) payer.ownerKey)
    (active : payer.ownerKey ≠ systemOwner → LockedActive held payer.ownerKey)
    (accepted : acceptsAll (S := Database)
      (log ++ ControlPlane.posting payer.id target amountIrr transaction) db = true) :
    LedgerCommit solvency held
      (log ++ ControlPlane.posting payer.id target amountIrr transaction) db := by
  have inner := committed.integrity integrity
  have fresh : ∀ other ∈ (replay (S := Database) log db).transactions,
      other.id ≠ transaction.id := by
    rw [acceptsAll_append, Bool.and_eq_true] at accepted
    exact posting_fresh accepted.2
  have payerId : payer.id ∈ (replay (S := Database) log db).accounts.map Account.id :=
    List.mem_map_of_mem payerMember
  refine ⟨accepted, ?_, ?_, ?_, ?_⟩
  · rw [replay_append]
    exact committed.balanced.posting inner positive payerId targetMember fresh
  · rw [replay_append]
    exact fun asked => (committed.solvent asked).posting inner positive payerMember affordable
  · intro id member
    rcases List.mem_append.mp member with old | new
    · exact committed.kept id old
    · simp [ControlPlane.posting] at new
  · rw [replay_append]
    intro entry member side added account accountMember same owned
    obtain ⟨before, beforeMember, beforeId, beforeOwner⟩ := mem_accounts_posting accountMember
    rw [← beforeOwner] at owned ⊢
    rw [replay_posting] at member
    simp only [List.mem_append, List.mem_cons, List.not_mem_nil, or_false] at member
    rcases member with old | rfl | rfl
    · exact committed.debits entry old side added before beforeMember (beforeId.trans same) owned
    · have equal := inner.account_eq beforeMember payerMember (beforeId.trans same)
      subst equal
      exact active owned
    · exact absurd side (by simp)

/-! ## The statements of a transfer -/

/-- A session that may commit under the ledger agreement. -/
abbrev LedgerReady (solvency : Prop) (point : Point Database) : Prop :=
  Ready (ledgerAgreement solvency) LedgerNeutral point

namespace LedgerReady

variable {point : Point Database}

/-- What the session sees could be committed. -/
theorem commit_here (ready : LedgerReady solvency point) :
    LedgerCommit solvency point.held point.log point.store :=
  ready.commit point.store (.refl ready.inv)

/-- The session sees a database that keeps its constraints. -/
theorem integrity (ready : LedgerReady solvency point) : Integrity point.view :=
  (commit_here ready).integrity ready.inv.integrity

/-- The session sees who owns which wallet for as long as it does not roll back. -/
theorem owners_mono (ready : LedgerReady solvency point) {later : Db}
    (rely : (ledgerAgreement solvency).Rely point.held point.store later) :
    Db.owners point.view ⊆ Db.owners (replay (S := Database) point.log later) := by
  have kept := (commit_here ready).kept
  unfold Point.view
  rw [owners_replay kept, owners_replay kept]
  exact List.append_subset.mpr
    ⟨List.subset_append_of_subset_left _ rely.le, List.subset_append_right _ _⟩

/-- Further writes do not take wallets away either. -/
theorem owners_write (ready : LedgerReady solvency point) {statement : Database.Write}
    (neutral : LedgerNeutral statement) :
    Db.owners point.view ⊆ Db.owners (replay (S := Database) (point.log ++ [statement])
      point.store) := by
  have kept := (commit_here ready).kept
  have more : ∀ id, .delete .accounts id ∉ point.log ++ [statement] := by
    intro id member
    rcases List.mem_append.mp member with old | new
    · exact kept id old
    · exact neutral.ne_delete id (List.mem_singleton.mp new)
  unfold Point.view
  rw [owners_replay kept, owners_replay more]
  unfold opened
  rw [List.filterMap_append, ← List.append_assoc]
  exact List.subset_append_left _ _

end LedgerReady

/-- A later moment of a session that did not roll back: locks and wallets are still there. -/
structure Forward (earlier later : Point Database) : Prop where
  held : earlier.held ⊆ later.held
  owners : Db.owners earlier.view ⊆ Db.owners later.view

namespace Forward

theorem refl (point : Point Database) : Forward point point :=
  ⟨List.Subset.refl _, List.Subset.refl _⟩

theorem trans {first second third : Point Database} (early : Forward first second)
    (late : Forward second third) : Forward first third :=
  ⟨List.Subset.trans early.held late.held, List.Subset.trans early.owners late.owners⟩

/-- Time passes before a statement. -/
theorem rely {point : Point Database} (ready : LedgerReady solvency point) {later : Db}
    (moved : (ledgerAgreement solvency).Rely point.held point.store later) :
    Forward point { point with store := later } :=
  ⟨List.Subset.refl _, LedgerReady.owners_mono ready moved⟩

end Forward

/-- The outcome of a statement that leaves a session ready and does not roll back. -/
structure Onward (solvency : Prop) (earlier later : Point Database) : Prop where
  ready : LedgerReady solvency later
  forward : Forward earlier later
  pending : later.pending = earlier.pending

/-- The outcome of a query at a later store. -/
theorem Onward.rely {point : Point Database} (ready : LedgerReady solvency point) {later : Db}
    (moved : (ledgerAgreement solvency).Rely point.held point.store later) :
    Onward solvency point { point with store := later } :=
  ⟨ready.rely moved, .rely ready moved, rfl⟩

theorem Onward.trans {first second third : Point Database} (early : Onward solvency first second)
    (late : Onward solvency second third) : Onward solvency first third :=
  ⟨late.ready, early.forward.trans late.forward, late.pending.trans early.pending⟩

/-- Further locks. -/
theorem Onward.acquire {point : Point Database} (ready : LedgerReady solvency point)
    (more : List (Held Database)) : Onward solvency point { point with held := point.held ++ more } :=
  ⟨ready.acquire more, ⟨List.subset_append_left _ _, List.Subset.refl _⟩, rfl⟩

/-- The wallet that the first matching row names belongs to the owner. -/
theorem owned_of_first {db : Db} {owner : String} {account : Account}
    (found : db.first .accounts (fun row => row.ownerKey = owner) = some account) :
    (account.id, owner) ∈ db.owners := by
  have owned : account.ownerKey = owner := by simpa using List.find?_some found
  rw [← owned]
  exact List.mem_map_of_mem (List.mem_of_find?_eq_some found)

/-- A benign statement that passed its checks. -/
theorem Onward.write {point : Point Database} (ready : LedgerReady solvency point)
    {statement : Database.Write} (neutral : LedgerNeutral statement)
    (accepted : Database.accepts statement point.view = true) :
    Onward solvency point { point with
      held := point.held ++ Held.ofWrite statement point.view
      log := point.log ++ [statement] } :=
  ⟨ready.write neutral accepted,
    ⟨List.subset_append_left _ _, LedgerReady.owners_write ready neutral⟩, rfl⟩

/-- Looking a wallet up again after it may have been created. -/
theorem wp_created (owner : String) {point later : Point Database}
    (onward : Onward solvency point later) :
    (do
      let created ← scalar .accounts fun row => row.ownerKey = owner
      found created .unexpected : Op Account).wp (ledgerAgreement solvency) (fun result last =>
        Onward solvency point last ∧
          ∀ wallet, result = .ok wallet → (wallet.id, owner) ∈ Db.owners last.view) later := by
  rw [wp_scalar_bind]
  intro current moved
  have here := onward.trans (.rely onward.ready moved)
  refine (wp_found ..).mpr ⟨fun wallet found => ⟨here, ?_⟩, fun _ => ⟨here, ?_⟩⟩
  · rintro same ⟨⟩
    exact owned_of_first found
  · rintro same ⟨⟩

/-- Resolving a wallet returns one that belongs to the owner. -/
theorem wp_account (owner : String) {point : Point Database} (ready : LedgerReady solvency point) :
    (account owner).wp (ledgerAgreement solvency) (fun result later =>
      Onward solvency point later ∧
        ∀ wallet, result = .ok wallet → (wallet.id, owner) ∈ Db.owners later.view) point := by
  unfold account
  rw [wp_scalar_bind]
  intro seen moved
  have here := Onward.rely ready moved
  refine (wp_branch ..).mpr ⟨fun _ => ?_, fun wallet found => (wp_pure ..).mpr ⟨here, ?_⟩⟩
  · rw [wp_uid_bind]
    intro id
    rw [wp_execute_bind]
    intro current moved'
    have there := here.trans (.rely here.ready moved')
    refine ⟨fun accepted => ?_, fun _ => wp_created owner there⟩
    exact wp_created owner (there.trans (.write there.ready rfl accepted))
  · rintro same ⟨⟩
    exact owned_of_first found

/-- Sending benign rows either goes on or starts over. -/
theorem flushAll_forward (rows : List Database.Write) {point : Point Database}
    (ready : LedgerReady solvency point) (benign : ∀ row ∈ rows, LedgerNeutral row) :
    (ledgerAgreement solvency).wp (flushAll rows) (fun done held log store =>
      LedgerReady solvency ⟨point.pending, held, log, store⟩ ∧
        (done = true → Forward point ⟨point.pending, held, log, store⟩))
      point.held point.log point.store := by
  induction rows generalizing point with
  | nil => exact ⟨ready, fun _ => .refl point⟩
  | cons row rows inductionHypothesis =>
      intro later rely
      have moved := ready.rely rely
      refine ⟨fun accepted => ?_, fun _ later' rely' => ?_⟩
      · have sent := Onward.write moved (benign row List.mem_cons_self) accepted
        refine (ledgerAgreement solvency).wp_mono ?_ (inductionHypothesis sent.ready
          fun other member => benign other (List.mem_cons_of_mem _ member))
        rintro done held log store ⟨flushed, forward⟩
        exact ⟨flushed, fun all => (Forward.rely ready rely).trans (sent.forward.trans (forward all))⟩
      · exact ⟨(Ready.fresh rely'.inv).record ready.benign, by simp⟩

/-- After a flush nothing is recorded any more. -/
theorem wp_flush_forward {point : Point Database} (ready : LedgerReady solvency point) :
    (flush : Op Unit).wp (ledgerAgreement solvency) (fun result later =>
      LedgerReady solvency later ∧
        ∀ done, result = .ok done → Forward point later ∧ later.pending = []) point := by
  unfold wp flush
  rw [Agreement.wp_bind]
  have empty : LedgerReady solvency { point with pending := [] } := ready.record (by simp)
  have flushing := flushAll_forward point.pending empty ready.benign
  refine (ledgerAgreement solvency).wp_mono ?_ flushing
  rintro done held log store ⟨flushed, forward⟩
  cases done with
  | true => exact ⟨flushed, fun _ _ => ⟨⟨(forward rfl).held, (forward rfl).owners⟩, rfl⟩⟩
  | false => exact ⟨flushed, by rintro _ ⟨⟩⟩

/-- Locking wallets one after the other. -/
theorem wp_lockAll (ids : List Id) {point : Point Database} (ready : LedgerReady solvency point) :
    (forEach ids fun id => lock [.row .accounts id, .key .accounts id] : Op Unit).wp
      (ledgerAgreement solvency) (fun _ later =>
        Onward solvency point later ∧ ∀ id ∈ ids, Locked later.held .accounts id) point := by
  induction ids generalizing point with
  | nil => exact ⟨⟨ready, .refl point, rfl⟩, by simp⟩
  | cons id ids inductionHypothesis =>
      rw [forEach, wp_lock_bind]
      intro later moved
      have here := Onward.rely ready moved
      have there := here.trans (.acquire here.ready
        (rowLocks .accounts id (replay (S := Database) point.log later)))
      refine wp_mono _ (inductionHypothesis there.ready) ?_
      rintro result last ⟨onward, locked⟩
      refine ⟨there.trans onward, fun other member => ?_⟩
      rcases List.mem_cons.mp member with rfl | old
      · exact (Locked.forUpdate _ _ _ _).mono onward.forward.held
      · exact locked other old

/-! ## The check of the payer -/

/-- The payer's organization was active when its row was locked, and can afford the amount. -/
structure PayerChecked (source : String) (balanceIrr amountIrr : Int) (point : Point Database) :
    Prop where
  active : LockedActive point.held source
  affordable : amountIrr ≤ balanceIrr + Db.creditLimit point.view source

/-- A later moment of a session that only took locks. -/
structure Waited (solvency : Prop) (earlier later : Point Database) : Prop where
  onward : Onward solvency earlier later
  log : later.log = earlier.log
  rely : (ledgerAgreement solvency).Rely earlier.held earlier.store later.store

/-- What a session found of a row it has locked is still there after waiting. -/
theorem Waited.find_eq {earlier later : Point Database} (waited : Waited solvency earlier later)
    (ready : LedgerReady solvency earlier) {table : Table} {key : table.Key}
    (locked : Locked earlier.held table key) :
    Db.find later.view table key = Db.find earlier.view table key := by
  rw [Point.view, waited.log]
  exact locked.find_eq ready.covered waited.rely

theorem wp_checkPayer (source : String) (balanceIrr amountIrr : Int) {point : Point Database}
    (ready : LedgerReady solvency point) :
    (checkPayer source balanceIrr amountIrr).wp (ledgerAgreement solvency) (fun result later =>
      Waited solvency point later ∧
        ∀ done, result = .ok done → PayerChecked source balanceIrr amountIrr later) point := by
  unfold checkPayer
  rw [wp_getForUpdate_bind]
  intro seen moved
  have here : Waited solvency point _ := ⟨.rely ready moved, rfl, moved⟩
  refine ⟨fun _ => ⟨here, by rintro _ ⟨⟩⟩, fun row _ granted grantedMoved current currentMoved => ?_⟩
  have there := here.onward.trans (.rely here.onward.ready grantedMoved)
  have locked := there.trans (.acquire there.ready
    (rowLocks .organizations source (replay (S := Database) point.log granted)))
  have final : Waited solvency point _ := ⟨locked.trans (.rely locked.ready currentMoved), rfl,
    (moved.trans grantedMoved).trans (currentMoved.mono (List.subset_append_left _ _))⟩
  have same := Locked.find_eq locked.ready.covered currentMoved (Locked.forUpdate ..)
  rw [wp_found_bind]
  refine ⟨fun organization present => ?_, fun _ => ⟨final, by rintro _ ⟨⟩⟩⟩
  rw [wp_require_bind]
  refine ⟨fun active => ?_, fun _ => ⟨final, by rintro _ ⟨⟩⟩⟩
  rw [wp_require]
  refine ⟨fun affordable => ⟨final, fun _ _ => ⟨?_, ?_⟩⟩, fun _ => ⟨final, by rintro _ ⟨⟩⟩⟩
  · exact ⟨_, List.mem_append_right _ List.mem_cons_self, rfl, rfl, organization,
      same.symm.trans present, active⟩
  · have limit := Db.creditLimit_eq present
    exact affordable.trans_eq (congrArg (balanceIrr + ·) limit.symm)

/-! ## Posting -/

/-- What a transfer has made sure of before it posts: who pays, who receives, and that
the payer can afford the amount. The payer's wallet is locked. -/
structure Payable (solvency : Prop) (owner : String) (source target : Id) (amountIrr : Int)
    (point : Point Database) : Prop where
  ready : LedgerReady solvency point
  pending : point.pending = []
  locked : Locked point.held .accounts source
  payer : ∃ payer, Db.find point.view .accounts source = some payer ∧ payer.ownerKey = owner ∧
    (owner ≠ systemOwner → PayerChecked owner payer.balanceIrr amountIrr point)
  target : ∃ targetOwner, (target, targetOwner) ∈ Db.owners point.view

/-- An owner's wallet exists. -/
theorem mem_of_owned {db : Db} {id : Id} {owner : String} (owned : (id, owner) ∈ db.owners) :
    id ∈ db.accounts.map Account.id := by
  obtain ⟨account, member, same⟩ := List.mem_map.mp owned
  exact List.mem_map.mpr ⟨account, member, congrArg Prod.fst same⟩

/-- Once the five statements passed their checks, the session may commit them. -/
theorem Payable.commit {owner : String} {source target : Id} {amountIrr : Int}
    {transaction : Transaction} {base point : Point Database}
    (payable : Payable solvency owner source target amountIrr base) (positive : 0 < amountIrr)
    (midway : Midway (ledgerAgreement solvency) base
      (posting source target amountIrr transaction) point) :
    LedgerCommit solvency point.held point.log point.store := by
  obtain ⟨payer, present, owned, checked⟩ := payable.payer
  obtain ⟨targetOwner, targetOwned⟩ := payable.target
  have covered := payable.ready.covered
  have current : LedgerCommit solvency point.held base.log point.store :=
    Agreement.Admits.commit_held (C := ledgerAgreement solvency) LedgerNeutral midway.rely.inv
      midway.held
      (payable.ready.commit _ midway.rely)
  have found : Db.find (replay (S := Database) base.log point.store) .accounts source =
      some payer := (payable.locked.find_eq covered midway.rely).trans present
  obtain ⟨payerMember, payerKey⟩ := Db.find_mem found
  have same : payer.id = source := Option.some.inj payerKey
  have received := LedgerReady.owners_mono payable.ready midway.rely targetOwned
  have accepted := midway.accepted _ (.refl midway.inv)
  rw [midway.log] at accepted ⊢
  subst same owned
  refine current.posting midway.inv.integrity positive payerMember (mem_of_owned received)
    (fun organization => ?_) (fun organization => ?_) accepted
  · obtain ⟨⟨lock, member, resource, exclusive, _⟩, affordable⟩ := checked organization
    have limit : Db.creditLimit (replay (S := Database) base.log point.store) payer.ownerKey =
        Db.creditLimit base.view payer.ownerKey :=
      congrArg (fun row : Option Organization => (row.map Organization.creditLimitIrr).getD 0)
        (Locked.find_eq covered midway.rely ⟨lock, member, resource, exclusive⟩)
    rwa [limit]
  · exact (checked organization).active.mono midway.held

/-- A posting leaves the session ready. -/
theorem Payable.completed {owner : String} {source target : Id} {amountIrr : Int}
    {transaction : Transaction} {base point : Point Database}
    (payable : Payable solvency owner source target amountIrr base) (positive : 0 < amountIrr)
    (midway : Midway (ledgerAgreement solvency) base
      (posting source target amountIrr transaction) point)
    (pending : point.pending = []) : LedgerReady solvency point where
  inv := midway.inv
  covered := midway.covered
  commit _ rely := payable.commit positive (midway.later rely)
  benign := by simp [pending]

/-- A statement outside the unit of work, which starts over when it is refused. -/
theorem wp_send_bind (A : Agreement Database) (statement : Database.Write) (rest : Unit → Op β)
    {post : Except Failure β → Point Database → Prop} {point : Point Database} :
    wp A (send statement >>= rest) post point ↔
      ∀ later, A.Rely point.held point.store later →
        (Database.accepts statement (replay point.log later) = true →
          wp A (rest ()) post { point with
            held := point.held ++ Held.ofWrite statement (replay point.log later)
            log := point.log ++ [statement]
            store := later }) ∧
        (Database.accepts statement (replay point.log later) = false →
          ∀ last, A.Rely point.held later last →
            post (.error .database) ⟨[], [], [], last⟩) := Iff.rfl

/-- Flushing the rest of a posting. -/
theorem wp_flush_posting {owner : String} {source target : Id} {amountIrr : Int}
    (transaction : Transaction) {base point : Point Database} {sent : List Database.Write}
    (payable : Payable solvency owner source target amountIrr base) (positive : 0 < amountIrr)
    (midway : Midway (ledgerAgreement solvency) base sent point)
    (rows : sent ++ point.pending = posting source target amountIrr transaction) :
    (flush : Op Unit).wp (ledgerAgreement solvency) (fun _ later => LedgerReady solvency later)
      point := by
  unfold wp flush
  rw [Agreement.wp_bind]
  refine (ledgerAgreement solvency).wp_mono ?_
    (Midway.flushAll LedgerNeutral point.pending [] (midway.record []))
  rintro done held log store ⟨completed, aborted⟩
  cases done with
  | true => exact payable.completed positive (rows ▸ completed rfl) rfl
  | false => exact aborted rfl

theorem wp_post {owner : String} {source target : Account} {amountIrr : Int}
    (key kind reference : String) (actorId : Option Id) {point : Point Database}
    (payable : Payable solvency owner source.id target.id amountIrr point) (positive : 0 < amountIrr) :
    (post source target amountIrr key kind reference actorId).wp (ledgerAgreement solvency)
      (fun _ later => LedgerReady solvency later) point := by
  have start : Midway (ledgerAgreement solvency) point [] point :=
    .start payable.ready fun later rely => (payable.ready.commit later rely).accepted
  unfold post
  rw [wp_send_bind]
  intro first firstMoved
  refine ⟨fun firstAccepted => ?_, fun _ last moved => .fresh moved.inv⟩
  have debited := (start.later firstMoved).write firstAccepted
  rw [wp_send_bind]
  intro second secondMoved
  refine ⟨fun secondAccepted => ?_, fun _ last moved => .fresh moved.inv⟩
  have credited := (debited.later secondMoved).write secondAccepted
  rw [wp_uid_bind]
  intro id
  rw [wp_insert_bind, wp_insert_bind, wp_insert_bind]
  refine wp_seq _ (wp_flush_posting ⟨id.1, key, kind, reference, actorId⟩ payable positive
    (credited.record _) ?_) (fun _ _ ready => ready) (fun _ _ ready => ready)
  simp only [payable.pending]
  rfl

/-! ## Transfers -/

/-- The payer's wallet, looked up by its id, belongs to whom it was resolved for. -/
theorem owner_of_found {db : Db} (integrity : Integrity db) {id : Id} {owner : String}
    {account : Account} (owned : (id, owner) ∈ db.owners)
    (found : db.find .accounts id = some account) : account.ownerKey = owner := by
  obtain ⟨other, member, same⟩ := List.mem_map.mp owned
  obtain ⟨accountMember, accountKey⟩ := Db.find_mem found
  have equal := integrity.account_eq accountMember member
    ((Option.some.inj accountKey).trans (congrArg Prod.fst same).symm)
  exact (congrArg Account.ownerKey equal).trans (congrArg Prod.snd same)

/-- The payer's wallet is among those a transfer locks. -/
theorem source_mem_accountOrder (source target : Id) : source ∈ accountOrder source target := by
  unfold accountOrder
  split
  · exact List.mem_singleton_self source
  · split <;> simp

theorem wp_transferFresh {source : String} (target : String) {amountIrr : Int}
    (key kind reference : String) {enforce : Bool} (actorId : Option Id)
    (checks : source = systemOwner ∨ enforce = true) (positive : 0 < amountIrr)
    {point : Point Database} (ready : LedgerReady solvency point) :
    (transferFresh source target amountIrr key kind reference enforce actorId).wp
      (ledgerAgreement solvency)
      (fun _ later => LedgerReady solvency later) point := by
  unfold transferFresh
  refine wp_seq _ (wp_account source ready) ?_ (fun _ _ resolved => resolved.1.ready)
  rintro payee first ⟨toFirst, payeeOwned⟩
  refine wp_seq _ (wp_account target toFirst.ready) ?_ (fun _ _ resolved => resolved.1.ready)
  rintro receiver second ⟨toSecond, receiverOwned⟩
  refine wp_seq _ (wp_flush_forward toSecond.ready) ?_ (fun _ _ flushed => flushed.1)
  rintro _ third ⟨flushedReady, flushed⟩
  obtain ⟨toThird, empty⟩ := flushed _ rfl
  refine wp_seq _ (wp_lockAll _ flushedReady) ?_ (fun _ _ locking => locking.1.ready)
  rintro _ fourth ⟨toFourth, locked⟩
  rw [wp_scalar_bind]
  intro fifth fifthMoved
  have toFifth := toFourth.trans (.rely toFourth.ready fifthMoved)
  refine (wp_branch ..).mpr ⟨fun _ => ?_, fun _ _ => toFifth.ready⟩
  rw [wp_get_bind]
  intro sixth sixthMoved
  have toSixth := toFifth.trans (.rely toFifth.ready sixthMoved)
  refine (wp_found_bind ..).mpr ⟨fun payer present => ?_, fun _ => toSixth.ready⟩
  have owned := toSixth.forward.owners
    (toThird.owners (toSecond.forward.owners (payeeOwned _ rfl)))
  have received := toSixth.forward.owners (toThird.owners (receiverOwned _ rfl))
  have payerOwner := owner_of_found (LedgerReady.integrity toSixth.ready) owned present
  have own := locked payee.id (source_mem_accountOrder _ _)
  refine wp_seq _ (show wp _ _ (fun result later => LedgerReady solvency later ∧
    ∀ done, result = .ok done → Payable solvency source payee.id receiver.id amountIrr later) _
      from ?_)
    (fun _ _ checked => wp_post key kind reference actorId (checked.2 _ rfl) positive)
    (fun _ _ checked => checked.1)
  refine (wp_when ..).mpr ⟨fun _ => ?_, fun exempt => ?_⟩
  · refine wp_mono _ (wp_checkPayer source payer.balanceIrr amountIrr toSixth.ready) ?_
    rintro result later ⟨waited, checked⟩
    refine ⟨waited.onward.ready, fun done returned => ?_⟩
    refine ⟨waited.onward.ready, waited.onward.pending.trans (toSixth.pending.trans empty),
      own.mono waited.onward.forward.held, ⟨payer, ?_, payerOwner, fun _ => checked done returned⟩,
      target, waited.onward.forward.owners received⟩
    exact (waited.find_eq toSixth.ready own).trans present
  · refine ⟨toSixth.ready, fun _ _ => ⟨toSixth.ready, toSixth.pending.trans empty, own,
      ⟨payer, present, payerOwner, fun organization => ?_⟩, target, received⟩⟩
    have isSystem : source = systemOwner := by
      rcases checks with system | enforced
      · exact system
      · exact not_not.mp fun other => exempt ⟨enforced, other⟩
    exact absurd isSystem organization

/-- Transfers out of the system account, and transfers that check the payer, keep a
session ready. -/
theorem keeps_transfer {source : String} (target : String) (amountIrr : Int)
    (key kind reference : String) {enforce : Bool} (actorId : Option Id)
    (checks : source = systemOwner ∨ enforce = true) :
    Keeps (ledgerAgreement solvency) LedgerNeutral
      (transfer source target amountIrr key kind reference enforce actorId) where
  keeps point ready := by
    unfold transfer
    rw [wp_require_bind]
    refine ⟨fun positive => ?_, fun _ => ready⟩
    rw [wp_scalar_bind]
    intro later moved
    exact (wp_branch ..).mpr ⟨fun _ => wp_transferFresh target key kind reference actorId checks
      positive (Ready.rely ready moved), fun _ _ => Ready.rely ready moved⟩

end ControlPlane
