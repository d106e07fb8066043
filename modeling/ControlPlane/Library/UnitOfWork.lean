import ControlPlane.Library.ReadCommitted

/-!
# Unit-of-work sessions

An object-relational session on top of READ COMMITTED transactions. New and
modified rows are first recorded in the session and reach the database only
when they are flushed, explicitly or by a commit; queries in between do not see
them. A program may raise an exception, which leaves the recorded rows alone,
so that a handler decides between rollback and commit.

Programs also run alone, as one session that nobody interleaves with. Such a
run is a function of the committed store and of the answers of the environment,
and it records the questions asked and the transactions committed.
-/

namespace ReadCommitted

/-- An exception type with a member for a statement that the database refused. -/
class DatabaseFailure (ε : Type) where
  /-- The exception of a refused statement. -/
  failure : ε

/-- A session program with recorded rows and exceptions. -/
def Orm (S : Schema) (ε α : Type) : Type :=
  List S.Write → Prog S (Except ε α × List S.Write)

namespace Orm

variable {S : Schema} {ε : Type}

instance : Monad (Orm S ε) where
  pure value := fun pending => .ret (.ok value, pending)
  bind program rest := fun pending =>
    (program pending).bind fun
      | (.ok value, later) => rest value later
      | (.error exception, later) => .ret (.error exception, later)

instance : MonadExceptOf ε (Orm S ε) where
  throw exception := fun pending => .ret (.error exception, pending)
  tryCatch program handler := fun pending =>
    (program pending).bind fun
      | (.ok value, later) => .ret (.ok value, later)
      | (.error exception, later) => handler exception later

/-- A query. -/
def select (query : S.Store → α) : Orm S ε α :=
  fun pending => .read fun store => .ret (.ok (query store), pending)

/-- The rows recorded in the session and not flushed yet. -/
def recorded : Orm S ε (List S.Write) :=
  fun pending => .ret (.ok pending, pending)

/-- `SELECT ... FOR UPDATE` of what the listed resources protect. -/
def lock (resources : List S.Lock) : Orm S ε Unit :=
  fun pending => .lock resources (.ret (.ok (), pending))

/-- A statement sent at once; the result says whether the constraints held. -/
def execute (statement : S.Write) : Orm S ε Bool :=
  fun pending => .write statement fun accepted => .ret (.ok accepted, pending)

/-- Record a new or a modified row. -/
def add (row : S.Write) : Orm S ε Unit :=
  fun pending => .ret (.ok (), pending ++ [row])

/-- Send recorded rows in order; the first refused one rolls the transaction back. -/
def flushAll : List S.Write → Prog S Bool
  | [] => .ret true
  | row :: rows => .write row fun
      | true => flushAll rows
      | false => .rollback (.ret false)

/-- Send all recorded rows. -/
def flush [DatabaseFailure ε] : Orm S ε Unit :=
  fun pending => (flushAll pending).bind fun
    | true => .ret (.ok (), [])
    | false => .ret (.error DatabaseFailure.failure, [])

/-- Flush and commit. -/
def commit [DatabaseFailure ε] : Orm S ε Unit :=
  fun pending => (flushAll pending).bind fun
    | true => .commit (.ret (.ok (), []))
    | false => .ret (.error DatabaseFailure.failure, [])

/-- Discard the transaction and everything recorded. -/
def rollback : Orm S ε Unit :=
  fun _ => .rollback (.ret (.ok (), []))

/-- A question to the environment. -/
def ask (query : S.Query) : Orm S ε (S.Answer query) :=
  fun pending => .ask query fun answer => .ret (.ok answer, pending)

/-- Raise an exception unless a condition holds. -/
def require (condition : Prop) [Decidable condition] (exception : ε) : Orm S ε Unit :=
  if condition then pure () else throw exception

/-- The value of an option, or an exception. -/
def found (value : Option α) (exception : ε) : Orm S ε α :=
  match value with
  | some value => pure value
  | none => throw exception

/-- A computed value, or the exception of the computation. -/
def attempt (value : Except ε α) : Orm S ε α :=
  match value with
  | .ok value => pure value
  | .error exception => throw exception

/-- Go on in one of two ways, depending on whether there is a value. -/
def branch (value : Option α) (absent : Orm S ε β) (present : α → Orm S ε β) : Orm S ε β :=
  match value with
  | none => absent
  | some content => present content

/-- Run a program for its effects when a condition holds. -/
def when (condition : Prop) [Decidable condition] (program : Orm S ε Unit) : Orm S ε Unit :=
  if condition then program else pure ()

/-- Run a program for each element of a list, in order. -/
def forEach : List α → (α → Orm S ε Unit) → Orm S ε Unit
  | [], _ => pure ()
  | item :: items, body => do body item; forEach items body

/-- The session program as it is opened: nothing is recorded yet. -/
def session (program : Orm S ε α) : Prog S (Except ε α) :=
  (program []).bind fun result => .ret result.1

end Orm

/-! ## Running alone -/

/-- The database as a session sees it that runs alone, with a record of what it did. -/
structure Connection (S : Schema) where
  /-- The committed store. -/
  store : S.Store
  /-- Uncommitted writes. -/
  log : List S.Write
  /-- The questions asked so far, oldest first. -/
  asked : List S.Query
  /-- The transactions committed so far, each with the store it was applied to. -/
  commits : List (S.Store × List S.Write)

/-- What the environment answers to a question, given how many were asked before. -/
abbrev Answers (S : Schema) := (query : S.Query) → Nat → S.Answer query

/-- The committed store with the own writes on top. -/
def Connection.view {S : Schema} (connection : Connection S) : S.Store :=
  replay connection.log connection.store

namespace Prog

variable {S : Schema} (answers : Answers S)

/-- Run a program alone. -/
def run : Prog S α → Connection S → α × Connection S
  | .ret value, connection => (value, connection)
  | .read next, connection => (next connection.view).run connection
  | .lock _ next, connection => next.run connection
  | .write statement next, connection =>
      if S.accepts statement connection.view then
        (next true).run { connection with log := connection.log ++ [statement] }
      else (next false).run connection
  | .commit next, connection =>
      next.run { connection with
        store := connection.view
        log := []
        commits := connection.commits ++ [(connection.store, connection.log)] }
  | .rollback next, connection => next.run { connection with log := [] }
  | .ask query next, connection =>
      (next (answers query connection.asked.length)).run
        { connection with asked := connection.asked ++ [query] }

/-- Running a sequence runs its parts one after the other. -/
theorem run_bind (program : Prog S α) (rest : α → Prog S β) (connection : Connection S) :
    (program.bind rest).run answers connection =
      (rest (program.run answers connection).1).run answers
        (program.run answers connection).2 := by
  induction program generalizing connection with
  | ret value => rfl
  | read next inductionHypothesis => exact inductionHypothesis _ connection
  | lock resources next inductionHypothesis => exact inductionHypothesis connection
  | write statement next inductionHypothesis =>
      simp only [bind, run]
      split
      · exact inductionHypothesis true _
      · exact inductionHypothesis false _
  | commit next inductionHypothesis => exact inductionHypothesis _
  | rollback next inductionHypothesis => exact inductionHypothesis _
  | ask query next inductionHypothesis => exact inductionHypothesis _ _

end Prog

/-! ## Running alone is one of the interleavings -/

namespace World

variable {S : Schema} {ι ρ : Type} {session : ι}

/-- The transactions committed so far, each with the store it was applied to. -/
def history (world : World S ι ρ) : List (S.Store × List S.Write) :=
  world.commits.map fun committed => (committed.before, committed.log)

/-- The other sessions hold no locks. -/
def Unlocked (world : World S ι ρ) (session : ι) : Prop :=
  ∀ other, other ≠ session → ∀ thread, world.threads other = some thread → thread.held = []

/-- Whatever a session wants to lock is free while the others hold no locks. -/
theorem Unlocked.grants {world : World S ι ρ} (unlocked : world.Unlocked session)
    (locks : List (Held S)) : world.Grants session locks := by
  intro lock _ other current different found held member
  rw [unlocked other different current found] at member
  cases member

/-- Only one session is open. -/
def Only (world : World S ι ρ) (session : ι) (thread : Thread S ρ) : Prop :=
  world.threads session = some thread ∧ ∀ other, other ≠ session → world.threads other = none

variable [DecidableEq ι]

theorem put_threads_self (world : World S ι ρ) (thread : Option (Thread S ρ)) :
    (world.put session thread).threads session = thread :=
  Function.update_self ..

theorem put_threads_of_ne (world : World S ι ρ) (thread : Option (Thread S ρ)) {other : ι}
    (different : other ≠ session) : (world.put session thread).threads other = world.threads other :=
  Function.update_of_ne different ..

/-- The other sessions hold no locks after a session moved on, either. -/
theorem Unlocked.put {world : World S ι ρ} (unlocked : world.Unlocked session)
    (next : Option (Thread S ρ)) : (world.put session next).Unlocked session := by
  intro other different thread found
  exact unlocked other different thread ((put_threads_of_ne world next different).symm.trans found)

/-- While the others hold no locks, the steps of a session lead to the store that its program
leaves when it runs alone, with the same commits, and the others stay where they are. -/
theorem Unlocked.run {Allowed : Prog S ρ → Prop} (answers : Answers S) {program : Prog S ρ}
    {world : World S ι ρ} {held : List (Held S)} {log : List S.Write}
    (unlocked : world.Unlocked session)
    (running : world.threads session = some ⟨held, log, program⟩) (asked : List S.Query)
    (commits : List (S.Store × List S.Write)) :
    ∃ last, Relation.ReflTransGen (Step Allowed) world last ∧
      (∀ other, other ≠ session → last.threads other = world.threads other) ∧
        last.store = (program.run answers ⟨world.store, log, asked, commits⟩).2.store ∧
          ∃ more, last.history = world.history ++ more ∧
            (program.run answers ⟨world.store, log, asked, commits⟩).2.commits =
              commits ++ more := by
  induction program generalizing world held log asked commits with
  | ret value => exact ⟨world, .refl, fun _ _ => rfl, rfl, [], (List.append_nil _).symm,
      (List.append_nil _).symm⟩
  | read next inductionHypothesis =>
      obtain ⟨last, steps, kept, same, committed⟩ := inductionHypothesis _ (unlocked.put _)
        (put_threads_self world _) asked commits
      exact ⟨last, .head (.read world session held log next running) steps, fun other different =>
        (kept other different).trans (put_threads_of_ne world _ different), same, committed⟩
  | lock resources next inductionHypothesis =>
      obtain ⟨last, steps, kept, same, committed⟩ := inductionHypothesis (unlocked.put _)
        (put_threads_self world _) asked commits
      exact ⟨last, .head (.lock world session held log resources next running (unlocked.grants _))
        steps, fun other different =>
        (kept other different).trans (put_threads_of_ne world _ different), same, committed⟩
  | write statement next inductionHypothesis =>
      by_cases accepted : S.accepts statement (replay log world.store) = true
      · obtain ⟨last, steps, kept, same, more, recorded, committed⟩ := inductionHypothesis true
          (unlocked.put _) (put_threads_self world _) asked commits
        refine ⟨last, .head (.write world session held log statement next running
          (unlocked.grants _) accepted) steps, fun other different =>
          (kept other different).trans (put_threads_of_ne world _ different), same.trans ?_,
          more, recorded, Eq.trans ?_ committed⟩
        · exact congrArg (fun outcome : ρ × Connection S => outcome.2.store) (if_pos accepted).symm
        · exact congrArg (fun outcome : ρ × Connection S => outcome.2.commits) (if_pos accepted)
      · obtain ⟨last, steps, kept, same, more, recorded, committed⟩ := inductionHypothesis false
          (unlocked.put _) (put_threads_self world _) asked commits
        refine ⟨last, .head (.refuse world session held log statement next running
          (unlocked.grants _) (by simpa using accepted)) steps, fun other different =>
          (kept other different).trans (put_threads_of_ne world _ different), same.trans ?_,
          more, recorded, Eq.trans ?_ committed⟩
        · exact congrArg (fun outcome : ρ × Connection S => outcome.2.store) (if_neg accepted).symm
        · exact congrArg (fun outcome : ρ × Connection S => outcome.2.commits) (if_neg accepted)
  | commit next inductionHypothesis =>
      obtain ⟨last, steps, kept, same, more, recorded, committed⟩ := @inductionHypothesis
        { (world.put session (some ⟨[], [], next⟩)) with
          store := replay log world.store
          commits := world.commits ++ [⟨held, log, world.store⟩] } [] [] (unlocked.put _)
        (put_threads_self world _) asked (commits ++ [(world.store, log)])
      refine ⟨last, .head (.commit world session held log next running) steps, fun other different =>
        (kept other different).trans (put_threads_of_ne world _ different), same,
        (world.store, log) :: more, ?_, committed.trans (List.append_assoc ..)⟩
      rw [recorded, history, List.map_append, List.append_assoc]
      rfl
  | rollback next inductionHypothesis =>
      obtain ⟨last, steps, kept, same, committed⟩ := inductionHypothesis (unlocked.put _)
        (put_threads_self world _) asked commits
      exact ⟨last, .head (.rollback world session held log next running) steps, fun other different =>
        (kept other different).trans (put_threads_of_ne world _ different), same, committed⟩
  | ask query next inductionHypothesis =>
      obtain ⟨last, steps, kept, same, committed⟩ := inductionHypothesis (answers query asked.length)
        (unlocked.put _) (put_threads_self world _) (asked ++ [query]) commits
      exact ⟨last, .head (.ask world session held log query _ next running) steps,
        fun other different =>
        (kept other different).trans (put_threads_of_ne world _ different), same, committed⟩

/-- The steps of the only session lead to the store that its program leaves when it runs alone, and
commit what it commits then. -/
theorem Only.run {Allowed : Prog S ρ → Prop} (answers : Answers S) {program : Prog S ρ}
    {world : World S ι ρ} {held : List (Held S)} {log : List S.Write}
    (only : world.Only session ⟨held, log, program⟩) (asked : List S.Query) :
    ∃ last, Relation.ReflTransGen (Step Allowed) world last ∧
      (∀ other, other ≠ session → last.threads other = none) ∧
        last.store = (program.run answers ⟨world.store, log, asked, []⟩).2.store ∧
          last.history =
            world.history ++ (program.run answers ⟨world.store, log, asked, []⟩).2.commits := by
  have unlocked : world.Unlocked session := by
    intro other different thread found
    rw [only.2 other different] at found
    cases found
  obtain ⟨last, steps, kept, same, more, recorded, committed⟩ :=
    unlocked.run answers only.1 asked []
  refine ⟨last, steps, fun other different => (kept other different).trans (only.2 other different),
    same, ?_⟩
  rw [recorded, committed]
  rfl

/-- No session is open. -/
def Quiet (world : World S ι ρ) : Prop := ∀ session, world.threads session = none

/-- A permitted program that runs while nobody else does leads to the store that it leaves when it
runs alone, commits what it commits then, and is done. -/
theorem Quiet.recorded {Allowed : Prog S ρ → Prop} {world : World S ι ρ} (quiet : world.Quiet)
    (session : ι) (answers : Answers S) {program : Prog S ρ} (allowed : Allowed program) :
    ∃ last : World S ι ρ, Relation.ReflTransGen (Step Allowed) world last ∧ last.Quiet ∧
      last.store = (program.run answers ⟨world.store, [], [], []⟩).2.store ∧
        last.history =
          world.history ++ (program.run answers ⟨world.store, [], [], []⟩).2.commits := by
  have only : (world.put session (some ⟨[], [], program⟩)).Only session ⟨[], [], program⟩ :=
    ⟨Function.update_self .., fun other different =>
      (Function.update_of_ne different ..).trans (quiet other)⟩
  obtain ⟨last, steps, alone, same, committed⟩ :
      ∃ last, Relation.ReflTransGen (Step Allowed) _ last ∧ _ ∧ _ ∧ _ := only.run answers []
  refine ⟨last.put session none, .head (.start _ session program (quiet session) allowed)
    (.tail steps (.close last session)), fun other => ?_, same, committed⟩
  by_cases own : other = session
  · rw [own]
    exact Function.update_self ..
  · exact (Function.update_of_ne own ..).trans (alone other own)

/-- A permitted program that runs while nobody else does leads to the store that it leaves when it
runs alone, and is done. -/
theorem Quiet.served {Allowed : Prog S ρ → Prop} {world : World S ι ρ} (quiet : world.Quiet)
    (session : ι) (answers : Answers S) {program : Prog S ρ} (allowed : Allowed program) :
    ∃ last : World S ι ρ, Relation.ReflTransGen (Step Allowed) world last ∧ last.Quiet ∧
      last.store = (program.run answers ⟨world.store, [], [], []⟩).2.store := by
  obtain ⟨last, steps, done, same, _⟩ := quiet.recorded session answers allowed
  exact ⟨last, steps, done, same⟩

/-- A permitted program that runs while nobody else does leaves a reachable store, and is done. -/
theorem Quiet.serve {Allowed : Prog S ρ → Prop} {store : S.Store} {world : World S ι ρ}
    (quiet : world.Quiet) (reached : Reachable Allowed store world) (session : ι)
    (answers : Answers S) {program : Prog S ρ} (allowed : Allowed program) :
    ∃ last : World S ι ρ, Reachable Allowed store last ∧ last.Quiet ∧
      last.store = (program.run answers ⟨world.store, [], [], []⟩).2.store := by
  obtain ⟨last, steps, done, same⟩ := quiet.served session answers allowed
  exact ⟨last, reached.trans steps, done, same⟩

/-- A permitted program that runs alone leaves a reachable store, and its commits make up the
history. -/
theorem reachable_history {Allowed : Prog S ρ → Prop} (session : ι) (answers : Answers S)
    {program : Prog S ρ} (allowed : Allowed program) (store : S.Store) :
    ∃ world : World S ι ρ, Reachable Allowed store world ∧
      world.store = (program.run answers ⟨store, [], [], []⟩).2.store ∧
        world.history = (program.run answers ⟨store, [], [], []⟩).2.commits := by
  have unlocked : ((initial store : World S ι ρ).put session (some ⟨[], [], program⟩)).Unlocked
      session := by
    intro other different thread found
    rw [put_threads_of_ne _ _ different] at found
    cases found
  obtain ⟨last, steps, _, same, more, recorded, committed⟩ :
      ∃ last, Relation.ReflTransGen (Step Allowed) _ last ∧ _ ∧ _ ∧ ∃ more, _ ∧ _ :=
    unlocked.run answers (put_threads_self _ _) [] []
  exact ⟨last, .head (.start _ session program rfl allowed) steps, same,
    recorded.trans committed.symm⟩

/-- A permitted program that runs alone leaves a reachable store. -/
theorem reachable_run {Allowed : Prog S ρ → Prop} (session : ι) (answers : Answers S)
    {program : Prog S ρ} (allowed : Allowed program) (store : S.Store) :
    ∃ world : World S ι ρ, Reachable Allowed store world ∧
      world.store = (program.run answers ⟨store, [], [], []⟩).2.store := by
  have quiet : (World.initial store : World S ι ρ).Quiet := fun _ => rfl
  obtain ⟨last, reached, _, same⟩ := quiet.serve .refl session answers allowed
  exact ⟨last, reached, same⟩

end World

/-- A unit-of-work session that runs alone. -/
structure Alone (S : Schema) extends Connection S where
  /-- Recorded rows that are not flushed. -/
  pending : List S.Write

/-- A session on a committed store before its first statement. -/
def Alone.opened {S : Schema} (store : S.Store) : Alone S := ⟨⟨store, [], [], []⟩, []⟩

namespace Orm

variable {S : Schema} {ε : Type} (answers : Answers S)

/-- Run a session program alone. -/
def run (program : Orm S ε α) (alone : Alone S) : Except ε α × Alone S :=
  let outcome := (program alone.pending).run answers alone.toConnection
  (outcome.1.1, ⟨outcome.2, outcome.1.2⟩)

/-- Open a session on a committed store, run a program and close the session. -/
def serve (program : Orm S ε α) (store : S.Store) : Except ε α × S.Store :=
  let outcome := program.run answers (.opened store)
  (outcome.1, outcome.2.store)

variable (alone : Alone S)

@[simp] theorem run_pure (value : α) :
    (pure value : Orm S ε α).run answers alone = (.ok value, alone) := rfl

@[simp] theorem run_throw (exception : ε) :
    (throw exception : Orm S ε α).run answers alone = (.error exception, alone) := rfl

/-- A sequence runs its second part on the value of the first, and not at all
after an exception. -/
@[simp] theorem run_bind (program : Orm S ε α) (rest : α → Orm S ε β) :
    (program >>= rest).run answers alone =
      match program.run answers alone with
      | (.ok value, later) => (rest value).run answers later
      | (.error exception, later) => (.error exception, later) := by
  simp only [run, Bind.bind, Prog.run_bind]
  obtain ⟨⟨result, pending⟩, connection⟩ :=
    (program alone.pending).run answers alone.toConnection
  cases result <;> rfl

/-- A handler runs on the exception of the program it guards. -/
@[simp] theorem run_tryCatch (program : Orm S ε α) (handler : ε → Orm S ε α) :
    (tryCatch program handler).run answers alone =
      match program.run answers alone with
      | (.ok value, later) => (.ok value, later)
      | (.error exception, later) => (handler exception).run answers later := by
  simp only [run, tryCatch, tryCatchThe, MonadExceptOf.tryCatch, Prog.run_bind]
  obtain ⟨⟨result, pending⟩, connection⟩ :=
    (program alone.pending).run answers alone.toConnection
  cases result <;> rfl

@[simp] theorem run_select (query : S.Store → α) :
    (select query : Orm S ε α).run answers alone = (.ok (query alone.view), alone) := rfl

@[simp] theorem run_recorded :
    (recorded : Orm S ε _).run answers alone = (.ok alone.pending, alone) := rfl

@[simp] theorem run_lock (resources : List S.Lock) :
    (lock resources : Orm S ε Unit).run answers alone = (.ok (), alone) := rfl

@[simp] theorem run_execute (statement : S.Write) :
    (execute statement : Orm S ε Bool).run answers alone =
      if S.accepts statement alone.view then
        (.ok true, { alone with log := alone.log ++ [statement] })
      else (.ok false, alone) := by
  simp only [run, execute, Prog.run]
  split <;> rfl

@[simp] theorem run_add (row : S.Write) :
    (add row : Orm S ε Unit).run answers alone =
      (.ok (), { alone with pending := alone.pending ++ [row] }) := rfl

@[simp] theorem run_rollback :
    (rollback : Orm S ε Unit).run answers alone =
      (.ok (), { alone with log := [], pending := [] }) := rfl

@[simp] theorem run_ask (query : S.Query) :
    (ask query : Orm S ε _).run answers alone =
      (.ok (answers query alone.asked.length),
        { alone with asked := alone.asked ++ [query] }) := rfl

/-- Flushing appends all rows to the log, or rolls back at the first refused one. -/
theorem run_flushAll (rows : List S.Write) (connection : Connection S) :
    (flushAll rows).run answers connection =
      if acceptsAll rows connection.view then
        (true, { connection with log := connection.log ++ rows })
      else (false, { connection with log := [] }) := by
  induction rows generalizing connection with
  | nil => simp [flushAll, acceptsAll, Prog.run]
  | cons row rows inductionHypothesis =>
      by_cases accepted : S.accepts row connection.view = true
      · simp only [flushAll, Prog.run, acceptsAll, if_pos accepted, inductionHypothesis]
        unfold Connection.view at accepted ⊢
        simp [accepted]
      · simp [flushAll, Prog.run, acceptsAll, accepted]

@[simp] theorem run_flush [DatabaseFailure ε] :
    (flush : Orm S ε Unit).run answers alone =
      if acceptsAll alone.pending alone.view then
        (.ok (), { alone with log := alone.log ++ alone.pending, pending := [] })
      else (.error DatabaseFailure.failure, { alone with log := [], pending := [] }) := by
  by_cases passed : acceptsAll alone.pending alone.view = true <;>
    simp [run, flush, Prog.run_bind, run_flushAll, passed, Prog.run]

@[simp] theorem run_commit [DatabaseFailure ε] :
    (commit : Orm S ε Unit).run answers alone =
      if acceptsAll alone.pending alone.view then
        (.ok (), { alone with
          store := replay alone.pending alone.view
          log := []
          commits := alone.commits ++ [(alone.store, alone.log ++ alone.pending)]
          pending := [] })
      else (.error DatabaseFailure.failure, { alone with log := [], pending := [] }) := by
  by_cases passed : acceptsAll alone.pending alone.view = true
  · simp only [run, commit, Prog.run_bind, run_flushAll, if_pos passed]
    simp [Prog.run, Connection.view]
  · simp [run, commit, Prog.run_bind, run_flushAll, passed, Prog.run]

@[simp] theorem run_require (condition : Prop) [Decidable condition] (exception : ε) :
    (require condition exception : Orm S ε Unit).run answers alone =
      if condition then (.ok (), alone) else (.error exception, alone) := by
  unfold require
  split <;> rfl

@[simp] theorem run_when (condition : Prop) [Decidable condition] (program : Orm S ε Unit) :
    (when condition program).run answers alone =
      if condition then program.run answers alone else (.ok (), alone) := by
  unfold when
  split <;> rfl

@[simp] theorem run_found_some (value : α) (exception : ε) :
    (found (some value) exception : Orm S ε α).run answers alone = (.ok value, alone) := rfl

@[simp] theorem run_found_none (exception : ε) :
    (found none exception : Orm S ε α).run answers alone = (.error exception, alone) := rfl

@[simp] theorem run_attempt (value : Except ε α) :
    (attempt value : Orm S ε α).run answers alone = (value, alone) := by
  cases value <;> rfl

@[simp] theorem run_branch_none (absent : Orm S ε β) (present : α → Orm S ε β) :
    (branch none absent present).run answers alone = absent.run answers alone := rfl

@[simp] theorem run_branch_some (content : α) (absent : Orm S ε β) (present : α → Orm S ε β) :
    (branch (some content) absent present).run answers alone =
      (present content).run answers alone := rfl

@[simp] theorem run_forEach_nil (body : α → Orm S ε Unit) :
    (forEach [] body).run answers alone = (.ok (), alone) := rfl

@[simp] theorem run_forEach_cons (item : α) (items : List α) (body : α → Orm S ε Unit) :
    (forEach (item :: items) body).run answers alone =
      match (body item).run answers alone with
      | (.ok _, later) => (forEach items body).run answers later
      | (.error exception, later) => (.error exception, later) := by
  rw [forEach, run_bind]
  obtain ⟨result, later⟩ := (body item).run answers alone
  cases result <;> rfl

end Orm

end ReadCommitted
