import ControlPlane.Library.Integrity
import ControlPlane.Library.Json
import ControlPlane.Library.RunningAlone
import ControlPlane.Layout

/-!
# Sessions of the control plane

The programs that routes, workers and the bot run against the database: the
questions they ask the outside world, the exceptions they raise, and the
statements they send, under the names that the session offers in the source.
-/

namespace ControlPlane

open ReadCommitted

/-! ## The outside world -/

/-- The environment variables that the modelled operations read. -/
structure Env where
  /-- `ROOT_TELEGRAM_ID`, when it is a number. -/
  rootTelegramId : Option Int
  /-- `INITIAL_SETUP_TOKEN`. -/
  initialSetupToken : String := ""
  /-- `MAX_TREE_DEPTH`. -/
  maxTreeDepth : Int := 5
  /-- `USAGE_RESET_CONFIRM_READINGS`. -/
  resetConfirmReadings : Int := 3
  /-- `APPROVAL_TTL_SECONDS`, in microseconds. -/
  approvalTtl : Time := 604800000000
  /-- `TELEGRAM_BOT_TOKEN`. -/
  telegramBotToken : String := ""
  /-- `OUTBOX_MAX_ATTEMPTS`. -/
  maxAttempts : Int := 8
  /-- `OUTBOX_BACKOFF_SECONDS`. -/
  baseBackoffSeconds : Int := 15
  /-- `OUTBOX_MAX_BACKOFF_SECONDS`. -/
  maxBackoffSeconds : Int := 900
  /-- `HOLD_LIMIT_BYTES`. -/
  holdLimitBytes : Int := 1
  /-- `OUTBOX_CLAIM_TIMEOUT_SECONDS`. -/
  claimTimeoutSeconds : Int := 300

/-- The calls that operations make on a panel. -/
inductive PanelCall
  | nodes
  | nodeStatus (nodeId : Int)
  | setNodeEnabled (nodeId : Int) (enabled : Bool)
  | reconnectNode (nodeId : Int)
  | resetNode (nodeId : Int)
  | modifyAdmin (adminId limitUseInBytes : Int)
  | admins
  | users (adminId offset limit : Int)
  | user (userId : Int)
  | setUserEnabled (userId : Int) (enabled : Bool)
  | resetUserData (userId : Int)
  deriving DecidableEq, Repr

/-- One record of `GET /api/admins`. -/
structure PanelAdmin where
  id : Option Int
  lifetimeUsedTraffic : Option Int
  deriving DecidableEq, Repr

/-- What an operation reads of the answer to a call; the record of a user is any JSON value. -/
abbrev PanelCall.Reply : PanelCall → Type
  | .admins => List PanelAdmin
  | .user _ => PythonJson.Json
  | _ => Unit

/-- A call fails with an HTTP status, or without any answer. -/
inductive PanelFailure
  | status (code : Nat)
  | unreachable
  deriving DecidableEq, Repr

/-- A value in the collected answers of a chat dialogue. -/
inductive Value
  | text (value : String)
  | int (value : Int)
  | null
  deriving DecidableEq, Repr

/-- A chat dialogue as it is stored under `bot-state:{chat_id}`. -/
structure Dialogue where
  flow : String
  step : String
  data : List (String × Value)
  deriving DecidableEq, Repr

/-- A fresh `uuid4` in its textual form. -/
abbrev Uuid := { text : String // text.length = 36 }

inductive Query
  | uid
  | now
  /-- `token_hex(4)`. -/
  | tokenHex
  | resolveSecret (reference : Option String)
  | panel (panel : Panel) (call : PanelCall)
  /-- A Telegram message to a chat. -/
  | sendMessage (chatId : Int)
  | answerCallback
  | getState (chatId : Int)
  | setState (chatId : Int) (dialogue : Dialogue)
  | clearState (chatId : Int)
  deriving DecidableEq, Repr

/-- The answers of the outside world; `false` and `none` stand for a failure that raises. -/
abbrev Query.Answer : Query → Type
  | .uid => Uuid
  | .now => Time
  | .tokenHex => String
  | .resolveSecret _ => Bool
  | .panel _ call => Except PanelFailure call.Reply
  | .sendMessage _ => Bool
  | .answerCallback => Bool
  | .getState _ => Option Dialogue
  | .setState _ _ => Unit
  | .clearState _ => Unit

/-- The exceptions of the source. -/
inductive Failure
  | valueError (message : String)
  /-- `BillingHold`, a subclass of `ValueError`. -/
  | billingHold (bindingId organizationId : Id) (amountIrr : Int)
  | http (status : Nat) (detail : String)
  | permissionError (message : String)
  /-- A statement that the database refused. -/
  | database
  /-- Any other exception: a missing key, an attribute of `None`, a failed request. -/
  | unexpected
  deriving DecidableEq, Repr

instance : DatabaseFailure Failure := ⟨.database⟩

/-- The transactions of the control plane. -/
abbrev Database : Schema := layout.schema Query Query.Answer

/-- A program of one database session. -/
abbrev Op (α : Type) := Orm Database Failure α

/-! ## Queries -/

namespace Db

/-- The row with a primary key. -/
def find (db : Db) (table : Table) (key : table.Key) : Option table.Row :=
  (db.rows table).find? fun row => table.primaryKey row = some key

/-- The first row that satisfies a condition, in physical order. -/
def first (db : Db) (table : Table) (condition : table.Row → Bool) : Option table.Row :=
  (db.rows table).find? condition

end Db

/-- The constraints of the layout. -/
abbrev Integrity (db : Db) : Prop := layout.Integrity db

namespace Db

/-- An update assigns columns of the row it finds. -/
theorem find_apply_update (table : Table) (db : Db) (key : table.Key) (columns : table.Change)
    (other : table.Key) :
    ((Layout.Statement.update (L := layout) table key columns).apply db).find table other =
      (db.find table other).map (Layout.amend (L := layout) key columns) := by
  unfold find
  rw [show ((Layout.Statement.update (L := layout) table key columns).apply db).rows table =
    (db.rows table).map (Layout.amend (L := layout) key columns) from
      Layout.Statement.rows_apply_update (L := layout) table key columns db, List.find?_map]
  congr 2
  funext row
  exact congrArg (fun found => decide (found = some other))
    (Layout.key_amend (L := layout) key columns row)

/-- The row of an accepted insertion is found, next to the rows that were there. -/
theorem find_apply_insert (table : Table) (db : Db) (row : table.Row) (key : table.Key) :
    ((Layout.Statement.insert (L := layout) table row).apply db).find table key =
      (db.find table key).or (if Table.primaryKey row = some key then some row else none) := by
  unfold find
  rw [show ((Layout.Statement.insert (L := layout) table row).apply db).rows table =
    db.rows table ++ [row] from
      Layout.Statement.rows_apply_insert (L := layout) table row db, List.find?_append]
  congr 1
  by_cases same : Table.primaryKey row = some key <;> simp [same]

/-- Statements on other tables do not change what is found in a table. -/
theorem find_apply_of_ne {table : Table} (db : Db) {statement : Database.Write}
    (different : table ≠ Layout.Statement.table statement) (key : table.Key) :
    (statement.apply db).find table key = db.find table key := by
  unfold find
  rw [show (statement.apply db).rows table = db.rows table from
    Layout.Statement.rows_apply_of_ne (L := layout) db different]

/-- Statements on other tables do not change what is found in a table, one after the other. -/
theorem find_replay_of_ne {table : Table} {log : List Database.Write}
    (different : ∀ statement ∈ log, table ≠ Layout.Statement.table statement) (db : Db)
    (key : table.Key) :
    Db.find (replay (S := Database) log db) table key = db.find table key := by
  induction log generalizing db with
  | nil => rfl
  | cons statement log inductionHypothesis =>
      refine (inductionHypothesis (fun other member =>
        different other (List.mem_cons_of_mem _ member)) (statement.apply db)).trans ?_
      exact find_apply_of_ne db (different statement List.mem_cons_self) key

/-- A row is found by its key when the key occurs. -/
theorem find_eq_none {table : Table} {db : Db} {key : table.Key} :
    db.find table key = none ↔ Layout.has layout db table key = false := by
  simp [find, Layout.has]

theorem find_mem {table : Table} {db : Db} {key : table.Key} {row : table.Row}
    (found : db.find table key = some row) :
    row ∈ db.rows table ∧ Table.primaryKey row = some key :=
  ⟨List.mem_of_find?_eq_some found, by simpa using List.find?_some found⟩

end Db

/-- With unique keys, the row with a key is the one that is found. -/
theorem Integrity.find_eq_some {db : Db} (integrity : Integrity db) {table : Table}
    {key : table.Key} {row : table.Row} (member : row ∈ db.rows table)
    (own : Table.primaryKey row = some key) : db.find table key = some row := by
  cases found : db.find table key with
  | none =>
      have absent := List.find?_eq_none.mp found row member
      simp [own] at absent
  | some other =>
      obtain ⟨otherMember, otherKey⟩ := Db.find_mem found
      exact congrArg some
        (integrity.eq_of_key table otherMember otherKey member own)

open Orm

/-- `s.get(table, key)`. -/
def get (table : Table) (key : table.Key) : Op (Option table.Row) :=
  select fun db => db.find table key

/-- `s.scalar(select(table).where(condition))`. -/
def scalar (table : Table) (condition : table.Row → Bool) : Op (Option table.Row) :=
  select fun db => db.first table condition

/-- `s.scalars(select(table).where(condition)).all()`. -/
def scalars (table : Table) (condition : table.Row → Bool) : Op (List table.Row) :=
  select fun db => (db.rows table).filter condition

/-- `s.scalar(select(table).where(id == key).with_for_update())`. -/
def getForUpdate (table : Table) (key : table.Key) : Op (Option table.Row) := do
  let seen ← get table key
  branch seen (pure none) fun _ => do
    lock [.row table key, .key table key]
    get table key

/-! ## Statements -/

/-- `s.add(row)`. -/
def insert (table : Table) (row : table.Row) : Op Unit := add (.insert table row)

/-- Assign attributes of a loaded row. -/
def assign (table : Table) (key : table.Key) (columns : table.Change) : Op Unit :=
  add (.update table key columns)

/-- `s.delete(row)`. -/
def delete (table : Table) (key : table.Key) : Op Unit := add (.delete table key)

/-- Ask the outside world. -/
def consult (query : Query) : Op query.Answer := ask (S := Database) query

def uid : Op Id := do
  let fresh ← consult .uid
  pure fresh.1

def now : Op Time := consult .now

/-- `with SessionLocal() as session`: closing discards what was not committed. -/
def withSession (body : Op α) : Op α := do
  let value ← tryCatch body fun exception => do
    rollback
    throw exception
  rollback
  pure value

/-- The locks of `SELECT ... FOR UPDATE` for one row. -/
abbrev rowLocks (table : Table) (key : table.Key) (view : Db) : List (Held Database) :=
  Held.forUpdate (S := Database) [.row table key, .key table key] view

/-! ## Weakest preconditions -/

section

variable (A : Agreement Database) {post : Except Failure β → Point Database → Prop}
  {point : Point Database}

theorem wp_get_bind (table : Table) (key : table.Key) (rest : Option table.Row → Op β) :
    wp A (get table key >>= rest) post point ↔
      ∀ later, A.Rely point.held point.store later →
        wp A (rest (Db.find (replay point.log later) table key)) post
          { point with store := later } := Iff.rfl

theorem wp_scalar_bind (table : Table) (condition : table.Row → Bool)
    (rest : Option table.Row → Op β) :
    wp A (scalar table condition >>= rest) post point ↔
      ∀ later, A.Rely point.held point.store later →
        wp A (rest (Db.first (replay point.log later) table condition)) post
          { point with store := later } := Iff.rfl

theorem wp_uid_bind [asked : A.Asks .uid] (rest : Id → Op β) :
    wp A (uid >>= rest) post point ↔ ∀ fresh : Uuid, wp A (rest fresh.1) post point :=
  and_iff_right asked.asks

theorem wp_now_bind [asked : A.Asks .now] (rest : Time → Op β) :
    wp A (now >>= rest) post point ↔ ∀ time, wp A (rest time) post point :=
  and_iff_right asked.asks

theorem wp_lock_bind (resources : List Database.Lock) (rest : Unit → Op β) :
    wp A (lock resources >>= rest) post point ↔
      ∀ later, A.Rely point.held point.store later →
        wp A (rest ()) post { point with
          held := point.held ++ Held.forUpdate resources (replay point.log later)
          store := later } := Iff.rfl

/-- A row that is there gets locked, and is read again under the lock. -/
theorem wp_getForUpdate_bind (table : Table) (key : table.Key) (rest : Option table.Row → Op β) :
    wp A (getForUpdate table key >>= rest) post point ↔
      ∀ seen, A.Rely point.held point.store seen →
        (Db.find (replay point.log seen) table key = none →
          wp A (rest none) post { point with store := seen }) ∧
        ∀ row, Db.find (replay point.log seen) table key = some row →
          ∀ granted, A.Rely point.held seen granted →
            ∀ later,
              A.Rely (point.held ++ rowLocks table key (replay point.log granted)) granted later →
              wp A (rest (Db.find (replay point.log later) table key)) post { point with
                held := point.held ++ rowLocks table key (replay point.log granted)
                store := later } := by
  unfold getForUpdate
  rw [wp_bind, wp_get_bind]
  exact forall₂_congr fun seen _ => wp_branch ..

theorem wp_insert_bind (table : Table) (row : table.Row) (rest : Unit → Op β) :
    wp A (insert table row >>= rest) post point ↔
      wp A (rest ()) post { point with pending := point.pending ++ [.insert table row] } := Iff.rfl

theorem wp_assign_bind (table : Table) (key : table.Key) (columns : table.Change)
    (rest : Unit → Op β) :
    wp A (assign table key columns >>= rest) post point ↔
      wp A (rest ()) post { point with pending := point.pending ++ [.update table key columns] } :=
  Iff.rfl

theorem wp_execute_bind (statement : Database.Write) (rest : Bool → Op β) :
    wp A (execute statement >>= rest) post point ↔
      ∀ later, A.Rely point.held point.store later →
        (Database.accepts statement (replay point.log later) = true →
          wp A (rest true) post { point with
            held := point.held ++ Held.ofWrite statement (replay point.log later)
            log := point.log ++ [statement]
            store := later }) ∧
        (Database.accepts statement (replay point.log later) = false →
          wp A (rest false) post { point with store := later }) := Iff.rfl

end

/-! ## Locked rows -/

/-- The session holds the lock of a row. -/
def Locked (held : List (Held Database)) (table : Table) (key : table.Key) : Prop :=
  ∃ lock ∈ held, lock.resource = .row table key ∧ lock.mode = .exclusive

theorem Locked.mono {held more : List (Held Database)} {table : Table} {key : table.Key}
    (locked : Locked held table key) (subset : held ⊆ more) : Locked more table key := by
  obtain ⟨lock, member, property⟩ := locked
  exact ⟨lock, subset member, property⟩

/-- `SELECT ... FOR UPDATE` of a row locks it. -/
theorem Locked.forUpdate (held : List (Held Database)) (table : Table) (key : table.Key)
    (view : Db) : Locked (held ++ rowLocks table key view) table key :=
  ⟨⟨.row table key, .exclusive, view⟩, List.mem_append_right _ List.mem_cons_self, rfl, rfl⟩

/-- The rows with a key determine what is found. -/
theorem Db.find_congr {table : Table} {db other : Db} {key : table.Key}
    (same : layout.keyed db table key = layout.keyed other table key) :
    db.find table key = other.find table key := by
  have head : ∀ store : Db, store.find table key = (layout.keyed store table key).head? :=
    fun store => (List.head?_filter).symm
  rw [head, head, same]

/-- What a session found of a row it has locked does not change under its feet. -/
theorem Locked.find_eq {A : Agreement Database} {point : Point Database}
    (covered : point.Covered) {later : Db} (rely : A.Rely point.held point.store later)
    {table : Table} {key : table.Key} (locked : Locked point.held table key) :
    Db.find (replay point.log later) table key = Db.find point.view table key := by
  obtain ⟨lock, member, resource, exclusive⟩ := locked
  have content := covered.content_view rely member (by simp [exclusive])
  rw [resource] at content
  exact Db.find_congr content

/-! ## Keeping a session ready -/

/-- An agreement admits insertions into a table and assignments of its columns. -/
class Admitted (Benign : Database.Write → Prop) (table : Table) : Prop where
  insert : ∀ row : table.Row, Benign (.insert table row)
  update : ∀ (key : table.Key) (columns : table.Change), Benign (.update table key columns)

/-- Every question is permitted that is no call on a panel. -/
class OffPanel (A : Agreement Database) : Prop where
  asks : ∀ query, (∀ panel call, query ≠ .panel panel call) → A.asks query

section

variable {A : Agreement Database} [free : OffPanel A]

instance : A.Asks .uid := ⟨free.asks _ (by simp)⟩
instance : A.Asks .now := ⟨free.asks _ (by simp)⟩
instance : A.Asks .tokenHex := ⟨free.asks _ (by simp)⟩
instance (reference : Option String) : A.Asks (.resolveSecret reference) :=
  ⟨free.asks _ (by simp)⟩
instance (chatId : Int) : A.Asks (.sendMessage chatId) := ⟨free.asks _ (by simp)⟩
instance : A.Asks .answerCallback := ⟨free.asks _ (by simp)⟩
instance (chatId : Int) : A.Asks (.getState chatId) := ⟨free.asks _ (by simp)⟩
instance (chatId : Int) (dialogue : Dialogue) : A.Asks (.setState chatId dialogue) :=
  ⟨free.asks _ (by simp)⟩
instance (chatId : Int) : A.Asks (.clearState chatId) := ⟨free.asks _ (by simp)⟩

end

section

variable {A : Agreement Database} {Benign : Database.Write → Prop}

-- Rows of a concrete table appear under the name of their structure.
instance (table : Table) (key : table.Key) :
    Keeps (α := no_index (Option table.Row)) A Benign (get table key) :=
  inferInstanceAs (Keeps A Benign (select _))

instance (table : Table) (condition : table.Row → Bool) :
    Keeps (α := no_index (Option table.Row)) A Benign (scalar table condition) :=
  inferInstanceAs (Keeps A Benign (select _))

instance (table : Table) (condition : table.Row → Bool) :
    Keeps (α := no_index (List table.Row)) A Benign (scalars table condition) :=
  inferInstanceAs (Keeps A Benign (select _))

instance (query : Query) [A.Asks query] :
    Keeps (α := no_index query.Answer) A Benign (consult query) :=
  inferInstanceAs (Keeps A Benign (ask (S := Database) query))

instance [A.Asks .uid] : Keeps A Benign uid where
  keeps _ ready := ⟨Agreement.Asks.asks, fun _ => ready⟩

instance [A.Asks .now] : Keeps A Benign now :=
  inferInstanceAs (Keeps A Benign (ask (S := Database) .now))

instance (table : Table) [admitted : Admitted Benign table] (row : table.Row) :
    Keeps A Benign (insert table row) :=
  Keeps.add (admitted.insert row)

instance (table : Table) [admitted : Admitted Benign table] (key : table.Key)
    (columns : table.Change) : Keeps A Benign (assign table key columns) :=
  Keeps.add (admitted.update key columns)

variable [A.Admits Benign]

instance (table : Table) (key : table.Key) :
    Keeps (α := no_index (Option table.Row)) A Benign (getForUpdate table key) := by
  unfold getForUpdate
  infer_instance

instance (body : Op α) [Keeps A Benign body] : Keeps A Benign (withSession body) := by
  unfold withSession
  infer_instance

end

/-- No program can break the constraints of the database. -/
theorem Integrity.serve {db : Db} (integrity : Integrity db) (program : Op α)
    (answers : Answers Database) : Integrity (program.serve answers db).2 :=
  have met := Layout.integrity_meets layout Query Query.Answer (program []) db integrity
  (Agreement.wp_run answers ⟨db, [], [], []⟩ integrity met).1

end ControlPlane
