import Mathlib.Logic.Function.Basic
import Mathlib.Logic.Relation
import Mathlib.Tactic.Common

/-!
# Transactions at READ COMMITTED with row locks

A database session is a program of single statements. Each statement sees the
last committed store with the session's own writes replayed on top; a write
takes the locks of what it touches and keeps them until the session commits or
rolls back. Sessions interleave statement by statement, in any order, and any
of them may be closed at any point, which discards what it did not commit.
-/

namespace ReadCommitted

/-- A store together with the statements an application issues. -/
structure Schema where
  /-- The committed rows of every table. -/
  Store : Type
  /-- One writing statement. -/
  Write : Type
  /-- A lockable resource: a row, its key, or an entry of a unique index. -/
  Lock : Type
  /-- What a lock protects. -/
  Content : Lock → Type
  /-- A question to the environment: a clock reading, a fresh name, a remote call. -/
  Query : Type
  /-- The answers a question may get. -/
  Answer : Query → Type
  /-- The protected content of a resource in a store. -/
  content : (lock : Lock) → Store → Content lock
  /-- The effect of a write. -/
  apply : Write → Store → Store
  /-- The constraints checked when a write is executed. -/
  accepts : Write → Store → Bool
  /-- The resources a write replaces; it locks them exclusively. -/
  footprint : Write → Store → List Lock
  /-- The resources a write relies on, such as a referenced key; it locks them shared. -/
  references : Write → Store → List Lock
  /-- The resources a write adds to alongside other writes; it locks them with intent. -/
  additions : Write → Store → List Lock
  /-- A write changes no other resource than it replaces or adds to. -/
  content_apply_of_notMem : ∀ {write lock store},
    lock ∉ footprint write store → lock ∉ additions write store →
    content lock (apply write store) = content lock store
  /-- The content a write leaves behind depends on its footprint only. -/
  content_apply_congr : ∀ {write lock store other},
    (∀ used ∈ footprint write store, content used store = content used other) →
    content lock store = content lock other →
    content lock (apply write store) = content lock (apply write other)
  /-- Constraint checks look at the locked resources only. -/
  accepts_congr : ∀ {write store other},
    (∀ used ∈ footprint write store, content used store = content used other) →
    (∀ used ∈ references write store, content used store = content used other) →
    accepts write store = accepts write other
  /-- What a write replaces depends on its footprint only. -/
  footprint_congr : ∀ {write store other},
    (∀ used ∈ footprint write store, content used store = content used other) →
    footprint write store = footprint write other
  /-- What a write adds to depends on its footprint only. -/
  additions_congr : ∀ {write store other},
    (∀ used ∈ footprint write store, content used store = content used other) →
    additions write store = additions write other

variable {S : Schema}

/-- Replay a list of writes, oldest first. -/
def replay (log : List S.Write) (store : S.Store) : S.Store :=
  log.foldl (fun current write => S.apply write current) store

@[simp] theorem replay_nil (store : S.Store) : replay [] store = store := rfl

@[simp] theorem replay_cons (write : S.Write) (log : List S.Write) (store : S.Store) :
    replay (write :: log) store = replay log (S.apply write store) := rfl

@[simp] theorem replay_append (first second : List S.Write) (store : S.Store) :
    replay (first ++ second) store = replay second (replay first store) :=
  List.foldl_append

/-- The writes of a log pass their checks one after the other. -/
def acceptsAll : List S.Write → S.Store → Bool
  | [], _ => true
  | write :: log, store => S.accepts write store && acceptsAll log (S.apply write store)

@[simp] theorem acceptsAll_nil (store : S.Store) : acceptsAll [] store = true := rfl

@[simp] theorem acceptsAll_cons (write : S.Write) (log : List S.Write) (store : S.Store) :
    acceptsAll (write :: log) store =
      (S.accepts write store && acceptsAll log (S.apply write store)) := rfl

@[simp] theorem acceptsAll_append (first second : List S.Write) (store : S.Store) :
    acceptsAll (first ++ second) store =
      (acceptsAll first store && acceptsAll second (replay first store)) := by
  induction first generalizing store with
  | nil => rfl
  | cons write first inductionHypothesis => simp [inductionHypothesis, Bool.and_assoc]

/-- The resources that a log of writes replaces. -/
def footprints : List S.Write → S.Store → List S.Lock
  | [], _ => []
  | write :: log, store => S.footprint write store ++ footprints log (S.apply write store)

/-- The resources that a log of writes adds to. -/
def additions : List S.Write → S.Store → List S.Lock
  | [], _ => []
  | write :: log, store => S.additions write store ++ additions log (S.apply write store)

@[simp] theorem footprints_append (first second : List S.Write) (store : S.Store) :
    footprints (first ++ second) store =
      footprints first store ++ footprints second (replay first store) := by
  induction first generalizing store with
  | nil => rfl
  | cons write first inductionHypothesis => simp [footprints, inductionHypothesis]

@[simp] theorem additions_append (first second : List S.Write) (store : S.Store) :
    additions (first ++ second) store =
      additions first store ++ additions second (replay first store) := by
  induction first generalizing store with
  | nil => rfl
  | cons write first inductionHypothesis => simp [additions, inductionHypothesis]

/-- Replaying a log leaves every resource alone that it neither replaces nor adds to. -/
theorem content_replay_of_notMem
    {log : List S.Write}
    {lock : S.Lock}
    {store : S.Store}
    (kept : lock ∉ footprints log store)
    (alone : lock ∉ additions log store) :
    S.content lock (replay log store) = S.content lock store := by
  induction log generalizing store with
  | nil => rfl
  | cons write log inductionHypothesis =>
      simp only [footprints, additions, List.mem_append, not_or] at kept alone
      rw [replay_cons, inductionHypothesis kept.2 alone.2]
      exact S.content_apply_of_notMem kept.1 alone.1

/-- Two stores that agree on the footprints of a log agree after replaying it. -/
theorem content_replay_congr
    {log : List S.Write}
    {lock : S.Lock}
    {store other : S.Store}
    (agree : ∀ used ∈ footprints log store, S.content used store = S.content used other)
    (same : S.content lock store = S.content lock other) :
    S.content lock (replay log store) = S.content lock (replay log other) := by
  induction log generalizing store other with
  | nil => exact same
  | cons write log inductionHypothesis =>
      have head : ∀ used ∈ S.footprint write store,
          S.content used store = S.content used other :=
        fun used member => agree used (List.mem_append_left _ member)
      refine inductionHypothesis ?_ (S.content_apply_congr head same)
      intro used member
      exact S.content_apply_congr head (agree used (List.mem_append_right _ member))

/-- Two stores that agree on the footprints of a log have the same footprints. -/
theorem footprints_congr
    {log : List S.Write}
    {store other : S.Store}
    (agree : ∀ used ∈ footprints log store, S.content used store = S.content used other) :
    footprints log store = footprints log other := by
  induction log generalizing store other with
  | nil => rfl
  | cons write log inductionHypothesis =>
      have head : ∀ used ∈ S.footprint write store,
          S.content used store = S.content used other :=
        fun used member => agree used (List.mem_append_left _ member)
      rw [footprints, footprints, S.footprint_congr head, inductionHypothesis ?_]
      intro used member
      exact S.content_apply_congr head (agree used (List.mem_append_right _ member))

/-- Two stores that agree on the footprints of a log have the same additions. -/
theorem additions_congr
    {log : List S.Write}
    {store other : S.Store}
    (agree : ∀ used ∈ footprints log store, S.content used store = S.content used other) :
    additions log store = additions log other := by
  induction log generalizing store other with
  | nil => rfl
  | cons write log inductionHypothesis =>
      have head : ∀ used ∈ S.footprint write store,
          S.content used store = S.content used other :=
        fun used member => agree used (List.mem_append_left _ member)
      rw [additions, additions, S.additions_congr head, inductionHypothesis ?_]
      intro used member
      exact S.content_apply_congr head (agree used (List.mem_append_right _ member))

/-! ## Programs -/

/-- A session program: one constructor for each kind of statement. -/
inductive Prog (S : Schema) (α : Type) : Type
  | ret (value : α)
  /-- A query, answered on the committed store with the own writes on top. -/
  | read (next : S.Store → Prog S α)
  /-- `SELECT ... FOR UPDATE` of what the listed resources protect. -/
  | lock (resources : List S.Lock) (next : Prog S α)
  /-- A writing statement; the continuation learns whether the constraints held. -/
  | write (statement : S.Write) (next : Bool → Prog S α)
  | commit (next : Prog S α)
  | rollback (next : Prog S α)
  | ask (query : S.Query) (next : S.Answer query → Prog S α)

namespace Prog

/-- Sequencing. -/
def bind (program : Prog S α) (rest : α → Prog S β) : Prog S β :=
  match program with
  | .ret value => rest value
  | .read next => .read fun store => (next store).bind rest
  | .lock resources next => .lock resources (next.bind rest)
  | .write statement next => .write statement fun accepted => (next accepted).bind rest
  | .commit next => .commit (next.bind rest)
  | .rollback next => .rollback (next.bind rest)
  | .ask query next => .ask query fun answer => (next answer).bind rest

instance : Monad (Prog S) where
  pure := .ret
  bind := .bind

@[simp] theorem pure_eq_ret (value : α) : (pure value : Prog S α) = .ret value := rfl

@[simp] theorem bind_eq (program : Prog S α) (rest : α → Prog S β) :
    program >>= rest = program.bind rest := rfl

end Prog

/-! ## Interleaved execution -/

/-- How a resource is locked. -/
inductive Mode
  /-- Relied on, alongside others that rely on it. -/
  | shared
  /-- Added to, alongside others that add to it. -/
  | intent
  | exclusive
  deriving DecidableEq

/-- Two sessions may hold one resource in these modes at the same time. -/
def Mode.Compatible : Mode → Mode → Prop
  | .shared, .shared => True
  | .intent, .intent => True
  | _, _ => False

theorem Mode.Compatible.symm {first second : Mode} (compatible : first.Compatible second) :
    second.Compatible first := by
  cases first <;> cases second <;> exact compatible

/-- An exclusive lock admits no other one. -/
@[simp] theorem Mode.not_exclusive_compatible (mode : Mode) :
    ¬Mode.exclusive.Compatible mode := by
  cases mode <;> exact id

/-- A lock that a session holds, with what it saw of the store when the lock was granted. -/
structure Held (S : Schema) where
  /-- The locked resource. -/
  resource : S.Lock
  mode : Mode
  /-- The store as the session saw it when the lock was granted. -/
  since : S.Store

/-- The locks of `SELECT ... FOR UPDATE`. -/
def Held.forUpdate (resources : List S.Lock) (since : S.Store) : List (Held S) :=
  resources.map fun resource => ⟨resource, .exclusive, since⟩

/-- The locks that a write takes when it is executed on what its session sees. -/
def Held.ofWrite (write : S.Write) (view : S.Store) : List (Held S) :=
  Held.forUpdate (S.footprint write view) view ++
    ((S.references write view).map (fun resource => ⟨resource, .shared, view⟩) ++
      (S.additions write view).map fun resource => ⟨resource, .intent, view⟩)

/-- A running session: its locks, its uncommitted writes and what remains to be run. -/
structure Thread (S : Schema) (ρ : Type) where
  /-- Locks held since the last commit or rollback. -/
  held : List (Held S)
  /-- Writes since the last commit or rollback. -/
  log : List S.Write
  /-- The rest of the program. -/
  program : Prog S ρ

/-- One committed database transaction. -/
structure Committed (S : Schema) where
  /-- The locks held at the commit. -/
  held : List (Held S)
  /-- The committed writes. -/
  log : List S.Write
  /-- The committed store just before the commit. -/
  before : S.Store

/-- The committed store just after a commit. -/
def Committed.after (committed : Committed S) : S.Store :=
  replay committed.log committed.before

/-- The database with its sessions; `ι` names the sessions, of which any number may run. -/
structure World (S : Schema) (ι ρ : Type) where
  /-- The committed store. -/
  store : S.Store
  /-- The open sessions. -/
  threads : ι → Option (Thread S ρ)
  /-- Every commit so far, oldest first. -/
  commits : List (Committed S)

namespace World

variable {ι ρ : Type}

/-- The database before the first session opens. -/
def initial (store : S.Store) : World S ι ρ := ⟨store, fun _ => none, []⟩

/-- No other session holds the resource in a conflicting mode. -/
def Free (world : World S ι ρ) (session : ι) (resource : S.Lock) (mode : Mode) : Prop :=
  ∀ other thread, other ≠ session → world.threads other = some thread →
    ∀ lock ∈ thread.held, lock.resource = resource → lock.mode.Compatible mode

/-- A session may take locks once no other session holds conflicting ones. -/
def Grants (world : World S ι ρ) (session : ι) (locks : List (Held S)) : Prop :=
  ∀ lock ∈ locks, world.Free session lock.resource lock.mode

section
variable [DecidableEq ι]

/-- Replace one session. -/
def put (world : World S ι ρ) (session : ι) (thread : Option (Thread S ρ)) : World S ι ρ :=
  { world with threads := Function.update world.threads session thread }

/-- One statement of one session. `Allowed` are the programs a session may be opened for. -/
inductive Step (Allowed : Prog S ρ → Prop) : World S ι ρ → World S ι ρ → Prop
  | start (world : World S ι ρ) (session : ι) (program : Prog S ρ) :
      world.threads session = none → Allowed program →
      Step Allowed world (world.put session (some ⟨[], [], program⟩))
  | read (world : World S ι ρ) (session : ι) (held log next) :
      world.threads session = some ⟨held, log, .read next⟩ →
      Step Allowed world
        (world.put session (some ⟨held, log, next (replay log world.store)⟩))
  | lock (world : World S ι ρ) (session : ι) (held log resources next) :
      world.threads session = some ⟨held, log, .lock resources next⟩ →
      world.Grants session (Held.forUpdate resources (replay log world.store)) →
      Step Allowed world
        (world.put session
          (some ⟨held ++ Held.forUpdate resources (replay log world.store), log, next⟩))
  | write (world : World S ι ρ) (session : ι) (held log statement next) :
      world.threads session = some ⟨held, log, .write statement next⟩ →
      world.Grants session (Held.ofWrite statement (replay log world.store)) →
      S.accepts statement (replay log world.store) = true →
      Step Allowed world
        (world.put session
          (some ⟨held ++ Held.ofWrite statement (replay log world.store),
            log ++ [statement], next true⟩))
  | refuse (world : World S ι ρ) (session : ι) (held log statement next) :
      world.threads session = some ⟨held, log, .write statement next⟩ →
      world.Grants session (Held.ofWrite statement (replay log world.store)) →
      S.accepts statement (replay log world.store) = false →
      Step Allowed world (world.put session (some ⟨held, log, next false⟩))
  | commit (world : World S ι ρ) (session : ι) (held log next) :
      world.threads session = some ⟨held, log, .commit next⟩ →
      Step Allowed world
        { (world.put session (some ⟨[], [], next⟩)) with
          store := replay log world.store
          commits := world.commits ++ [⟨held, log, world.store⟩] }
  | rollback (world : World S ι ρ) (session : ι) (held log next) :
      world.threads session = some ⟨held, log, .rollback next⟩ →
      Step Allowed world (world.put session (some ⟨[], [], next⟩))
  | ask (world : World S ι ρ) (session : ι) (held log query answer next) :
      world.threads session = some ⟨held, log, .ask query next⟩ →
      Step Allowed world (world.put session (some ⟨held, log, next answer⟩))
  /-- A session ends, crashes, or is cancelled as a deadlock victim. -/
  | close (world : World S ι ρ) (session : ι) :
      Step Allowed world (world.put session none)

/-- The worlds that finitely many statements lead to from a committed store. -/
def Reachable (Allowed : Prog S ρ → Prop) (store : S.Store) (world : World S ι ρ) : Prop :=
  Relation.ReflTransGen (Step Allowed) (initial store) world

end

end World

end ReadCommitted
