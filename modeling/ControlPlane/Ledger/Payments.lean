import ControlPlane.Hierarchy.Agreement
import ControlPlane.Ledger.Transfer
import ControlPlane.Sustaining

/-!
# What a transfer records

Whatever the sessions of a system agree on, a transfer that returns found its
transaction in the ledger, or has written a transaction with its two entries on
wallets of the payer and of the receiver, and no other row of the ledger.
-/

namespace ControlPlane

open ReadCommitted Orm

/-! ## Laws about the ledger -/

/-- The transactions that a log writes. -/
def writtenTransactions (log : List Database.Write) : List Transaction :=
  log.filterMap fun statement =>
    match statement with
    | .insert .transactions row => some row
    | _ => none

/-- Transactions are written and never taken away. -/
theorem transactions_replay {log : List Database.Write} (lasting : Lasting log) (db : Db) :
    Db.transactions (replay (S := Database) log db) = db.transactions ++ writtenTransactions log := by
  induction log generalizing db with
  | nil => exact (List.append_nil _).symm
  | cons statement log inductionHypothesis =>
      have rest := inductionHypothesis
        (fun table key member => lasting table key (List.mem_cons_of_mem _ member))
        (statement.apply db)
      rw [replay_cons]
      have head : Db.transactions (statement.apply db) =
          db.transactions ++ writtenTransactions [statement] := by
        cases statement with
        | insert table row =>
            cases table
            case transactions => rfl
            all_goals exact (List.append_nil _).symm
        | update table key columns =>
            cases table
            case transactions => exact columns.elim
            all_goals exact (List.append_nil _).symm
        | delete table key => exact absurd List.mem_cons_self (lasting table key)
      have split : writtenTransactions (statement :: log) =
          writtenTransactions [statement] ++ writtenTransactions log :=
        List.filterMap_append (l := [statement])
      exact rest.trans (by rw [head, split, List.append_assoc])

/-- A wallet of an owner is there, or will be with the writes of the session. -/
def owns (id : Id) (owner : String) : Law Database :=
  fun _ log store => (id, owner) ∈ Db.owners store ++ opened log

/-- A transaction is there, or will be with the writes of the session. -/
def records (transaction : Transaction) : Law Database :=
  fun _ log store => transaction ∈ Db.transactions store ++ writtenTransactions log

instance (id : Id) (owner : String) : (owns id owner).Steady where
  grow _ longer owned := by
    rcases List.mem_append.mp owned with old | new
    · exact List.mem_append_left _ old
    · exact List.mem_append_right _ ((longer.filterMap _).subset new)

instance (transaction : Transaction) : (records transaction).Steady where
  grow _ longer recorded := by
    rcases List.mem_append.mp recorded with old | new
    · exact List.mem_append_left _ old
    · exact List.mem_append_right _ ((longer.filterMap _).subset new)

/-- The rows of a posting besides the balances. -/
def posted (source target : Id) (amountIrr : Int) (transaction : Transaction) :
    List Database.Write :=
  [.insert .transactions transaction,
    .insert .entries ⟨transaction.id, source, .debit, amountIrr⟩,
    .insert .entries ⟨transaction.id, target, .credit, amountIrr⟩]

/-- An agreement under which wallets and transactions stay. -/
class Ledgered (A : Agreement Database) : Prop where
  owners : ∀ {db later}, A.le db later → Db.owners db ⊆ Db.owners later
  transactions : ∀ {db later}, A.le db later → Db.transactions db ⊆ Db.transactions later

/-- The marked statements include the rows of the ledger and all deletions, but no wallets. -/
class Tallies (tallied : Database.Write → Bool) : Prop where
  transaction : ∀ row, tallied (.insert .transactions row) = true
  entry : ∀ row, tallied (.insert .entries row) = true
  delete : ∀ table key, tallied (.delete table key) = true
  wallet : ∀ row, tallied (.insert .accounts row) = false
  balance : ∀ key columns, tallied (.update .accounts key columns) = false

/-- The statements that are not marked. -/
abbrev Untallied (tallied : Database.Write → Bool) (statement : Database.Write) : Prop :=
  tallied statement = false

section

variable {A : Agreement Database} {tallied : Database.Write → Bool} [tallies : Tallies tallied]
  {law : Law Database} {rows : List Database.Write} {point : Point Database}

instance : Admitted (Untallied tallied) .accounts := ⟨tallies.wallet, tallies.balance⟩

/-- Marked statements without deletions delete nothing. -/
theorem Due.lasting (due : Due A (law.marks tallied rows) point) (lasting : Lasting rows) :
    Lasting (point.log ++ point.pending) := by
  have kept := (due.law point.store (.refl due.inv)).2
  intro table key member
  refine lasting table key ?_
  rw [← kept]
  exact List.mem_filter.mpr ⟨member, tallies.delete table key⟩

variable [ledgered : Ledgered A]

/-- A wallet that the session sees belongs to its owner from then on. -/
theorem Due.owning (due : Due A (law.marks tallied rows) point) (lasting : Lasting rows) {id : Id}
    {owner : String} (owned : (id, owner) ∈ Db.owners point.view) :
    Due A ((law.both (owns id owner)).marks tallied rows) point := by
  refine due.also fun later rely => ?_
  have whole := Due.lasting due lasting
  unfold Point.view at owned
  rw [owners_replay fun id member => whole .accounts id (List.mem_append_left _ member)] at owned
  rcases List.mem_append.mp owned with old | new
  · exact List.mem_append_left _ (ledgered.owners rely.le old)
  · exact List.mem_append_right _
      (((List.sublist_append_left _ _).filterMap _).subset new)

/-- A transaction that the session sees is there from then on. -/
theorem Due.recording (due : Due A (law.marks tallied rows) point) (lasting : Lasting rows)
    {transaction : Transaction} (seen : transaction ∈ Db.transactions point.view) :
    Due A ((law.both (records transaction)).marks tallied rows) point := by
  refine due.also fun later rely => ?_
  have whole := Due.lasting due lasting
  unfold Point.view at seen
  rw [transactions_replay fun table key member =>
    whole table key (List.mem_append_left _ member)] at seen
  rcases List.mem_append.mp seen with old | new
  · exact List.mem_append_left _ (ledgered.transactions rely.le old)
  · exact List.mem_append_right _
      (((List.sublist_append_left _ _).filterMap _).subset new)

/-! ## The statements of a transfer -/

variable [OffPanel A] [law.Steady]

/-- Resolving a wallet returns one of the owner. -/
theorem wp_account_due (owner : String) (due : Due A (law.marks tallied rows) point)
    (lasting : Lasting rows) :
    (account owner).wp A (fun result later => ∀ wallet, result = .ok wallet →
      Due A ((law.both (owns wallet.id owner)).marks tallied rows) later) point := by
  have found : ∀ {middle : Point Database}, Due A (law.marks tallied rows) middle →
      (scalar .accounts (fun row => row.ownerKey = owner) >>= fun created =>
        (found created .unexpected : Op Account)).wp A (fun result later =>
          ∀ wallet, result = .ok wallet →
            Due A ((law.both (owns wallet.id owner)).marks tallied rows) later) middle := by
    intro middle kept
    rw [wp_scalar_bind]
    intro later rely
    rw [wp_found]
    refine ⟨fun wallet seen => ?_, fun _ => by rintro _ ⟨⟩⟩
    rintro _ ⟨⟩
    exact Due.owning (kept.rely rely) lasting (owned_of_first seen)
  unfold account
  rw [wp_scalar_bind]
  intro first rely
  rw [wp_branch]
  constructor
  · intro _
    rw [wp_uid_bind]
    intro id
    rw [wp_execute_bind]
    intro later moved
    refine ⟨fun accepted => found ?_, fun _ => found ((due.rely rely).rely moved)⟩
    exact ((due.rely rely).rely moved).write (show Untallied tallied _ from tallies.wallet _) accepted
  · intro wallet seen
    rw [wp_pure]
    rintro _ ⟨⟩
    exact Due.owning (due.rely rely) lasting (owned_of_first seen)

omit ledgered [OffPanel A] in
/-- A relative update of a balance is accepted, or nothing is returned. -/
theorem wp_move_bind {post : Except Failure β → Point Database → Prop} (key : Id)
    (columns : AccountColumns) (rest : Unit → Op β)
    (due : Due A (law.marks tallied rows) point)
    (next : ∀ later, Due A (law.marks tallied rows) later → later.pending = point.pending →
      (rest ()).wp A post later)
    (raised : ∀ exception later, post (.error exception) later) :
    wp A (send (.update .accounts key columns) >>= rest) post point := by
  unfold send
  rw [wp_bind, wp_execute_bind]
  intro later rely
  refine ⟨fun accepted => ?_, fun _ last _ => raised _ _⟩
  exact next _ ((due.rely rely).write (show Untallied tallied _ from tallies.balance _ _) accepted)
    rfl

omit ledgered in
/-- Posting records a transaction and its two entries. -/
theorem wp_post_due (source target : Account) (amountIrr : Int) (key kind reference : String)
    (actorId : Option Id) (due : Due A (law.marks tallied rows) point) :
    (post source target amountIrr key kind reference actorId).wp A (fun result later =>
      ∀ transaction, result = .ok transaction →
        transaction.idempotencyKey = key ∧ transaction.reference = reference ∧
          Due A (law.marks tallied (rows ++ posted source.id target.id amountIrr transaction))
            later) point := by
  unfold post
  refine wp_move_bind _ _ _ due (fun first debited _ => ?_) (by rintro _ _ _ ⟨⟩)
  refine wp_move_bind _ _ _ debited (fun second credited _ => ?_) (by rintro _ _ _ ⟨⟩)
  rw [wp_uid_bind]
  intro id
  rw [wp_insert_bind, wp_insert_bind, wp_insert_bind]
  have written := ((credited.mark (tallies.transaction
    ⟨id.1, key, kind, reference, actorId⟩)).mark (tallies.entry
      ⟨id.1, source.id, .debit, amountIrr⟩)).mark (tallies.entry
        ⟨id.1, target.id, .credit, amountIrr⟩)
  refine wp_seq _ (wp_flush_due (Untallied tallied) written) ?_ (by rintro _ _ _ _ ⟨⟩)
  rintro _ last ⟨flushed, _⟩
  rw [wp_pure]
  rintro _ ⟨⟩
  refine ⟨rfl, rfl, ?_⟩
  simpa only [posted, List.append_assoc, List.cons_append, List.nil_append] using flushed

variable (tallied) in
omit tallies ledgered [OffPanel A] [law.Steady] in
/-- The check of the payer only locks and reads. -/
theorem wp_checkPayer_due {law : Law Database} [law.Tolerates (Untallied tallied)]
    (source : String) (balanceIrr amountIrr : Int) (due : Due A law point) :
    (checkPayer source balanceIrr amountIrr).wp A (fun _ later => Due A law later) point := by
  unfold checkPayer
  rw [wp_getForUpdate_bind]
  intro seen rely
  refine ⟨fun _ => due.rely rely, fun row _ granted moved later last => ?_⟩
  have locked := (((due.rely rely).rely moved).acquire (Untallied tallied)
    (rowLocks .organizations source (replay (S := Database) point.log granted))).rely last
  rw [wp_found_bind]
  refine ⟨fun organization _ => ?_, fun _ => locked⟩
  rw [wp_require_bind]
  refine ⟨fun _ => ?_, fun _ => locked⟩
  rw [wp_require]
  exact ⟨fun _ => locked, fun _ => locked⟩

/-- What a transfer that returned did: it found its transaction, or wrote it. -/
inductive Transferred (A : Agreement Database) (tallied : Database.Write → Bool)
    (law : Law Database) (rows : List Database.Write) (source target : String) (amountIrr : Int)
    (key : String) (transaction : Transaction) (point : Point Database) : Prop
  | found : transaction.idempotencyKey = key →
      Due A ((law.both (records transaction)).marks tallied rows) point →
      Transferred A tallied law rows source target amountIrr key transaction point
  | wrote (sourceId targetId : Id) : 0 < amountIrr → transaction.idempotencyKey = key →
      Due A (((law.both (owns sourceId source)).both (owns targetId target)).marks tallied
        (rows ++ posted sourceId targetId amountIrr transaction)) point →
      Transferred A tallied law rows source target amountIrr key transaction point

omit [OffPanel A] [law.Steady] in
/-- A transaction that is found under its key was transferred before. -/
theorem Transferred.of_found {source target : String} {amountIrr : Int} {key : String}
    {transaction : Transaction} (due : Due A (law.marks tallied rows) point)
    (lasting : Lasting rows)
    (seen : Db.first point.view .transactions (fun row => row.idempotencyKey = key) =
      some transaction) :
    Transferred A tallied law rows source target amountIrr key transaction point :=
  .found (by simpa using List.find?_some seen)
    (Due.recording due lasting (List.mem_of_find?_eq_some seen))

theorem wp_transferFresh_due (source target : String) (amountIrr : Int)
    (key kind reference : String) (enforce : Bool) (actorId : Option Id) (positive : 0 < amountIrr)
    (due : Due A (law.marks tallied rows) point) (lasting : Lasting rows) :
    (transferFresh source target amountIrr key kind reference enforce actorId).wp A
      (fun result later => ∀ transaction, result = .ok transaction →
        Transferred A tallied law rows source target amountIrr key transaction later) point := by
  unfold transferFresh
  refine wp_seq _ (wp_account_due source due lasting) ?_ (by rintro _ _ _ _ ⟨⟩)
  intro payee first resolved
  refine wp_seq _ (wp_account_due target (resolved payee rfl) lasting) ?_ (by rintro _ _ _ _ ⟨⟩)
  intro receiver second resolved
  refine wp_seq _ (wp_flush_due (Untallied tallied) (resolved receiver rfl)) ?_
    (by rintro _ _ _ _ ⟨⟩)
  rintro _ third ⟨flushed, _⟩
  refine wp_seq _ (wp_sustains (Untallied tallied) _ flushed) ?_
    (by rintro _ _ _ _ ⟨⟩)
  intro _ fourth locked
  rw [wp_scalar_bind]
  intro fifth rely
  have unlocked := fun (later : Point Database)
      (kept : Due A (((law.both (owns payee.id source)).both
        (owns receiver.id target)).marks tallied rows) later) =>
      (kept.weaken fun _ _ _ _ holds => ⟨holds.1.1.1, holds.2⟩ : Due A (law.marks tallied rows) later)
  rw [wp_branch]
  constructor
  · intro _
    rw [wp_get_bind]
    intro sixth moved
    rw [wp_found_bind]
    refine ⟨fun payer _ => ?_, fun _ => by rintro _ ⟨⟩⟩
    have here := (locked.rely rely).rely moved
    refine wp_seq _ ((wp_when ..).mpr ⟨fun _ => wp_checkPayer_due tallied source
      payer.balanceIrr amountIrr here, fun _ => here⟩) ?_ (by rintro _ _ _ _ ⟨⟩)
    intro _ seventh checked
    refine wp_mono _ (wp_post_due payee receiver amountIrr key kind reference actorId checked) ?_
    intro result last wrote transaction returned
    obtain ⟨own, _, written⟩ := wrote transaction returned
    exact .wrote payee.id receiver.id positive own written
  · intro transaction seen
    rw [wp_pure]
    rintro _ ⟨⟩
    exact .of_found (unlocked _ (locked.rely rely)) lasting seen

/-- A transfer that returns found its transaction or wrote it. -/
theorem wp_transfer_due (source target : String) (amountIrr : Int) (key kind reference : String)
    (enforce : Bool) (actorId : Option Id) (due : Due A (law.marks tallied rows) point)
    (lasting : Lasting rows) :
    (transfer source target amountIrr key kind reference enforce actorId).wp A
      (fun result later => ∀ transaction, result = .ok transaction →
        Transferred A tallied law rows source target amountIrr key transaction later) point := by
  unfold transfer
  rw [wp_require_bind]
  refine ⟨fun positive => ?_, fun _ => by rintro _ ⟨⟩⟩
  rw [wp_scalar_bind]
  intro first rely
  rw [wp_branch]
  constructor
  · intro _
    exact wp_transferFresh_due source target amountIrr key kind reference enforce actorId positive
      (due.rely rely) lasting
  · intro transaction seen
    rw [wp_pure]
    rintro _ ⟨⟩
    exact .of_found (due.rely rely) lasting seen

end

end ControlPlane
