import ControlPlane.Library.RunningAlone

/-!
# Every path through a program

Some facts hold of a program whatever it reads, whichever of its statements are
refused, and whatever the environment answers. They then hold in every
interleaving, without any agreement between the sessions. Here the paths of a
program are followed together with one bit: whether something was committed.
-/

namespace ReadCommitted

variable {S : Schema}

namespace Prog

/-- On every path the property holds of the bit and the result at its end. -/
def Paths (post : Bool → α → Prop) : Bool → Prog S α → Prop
  | committed, .ret value => post committed value
  | committed, .read next => ∀ store, Paths post committed (next store)
  | committed, .lock _ next => Paths post committed next
  | committed, .write _ next => ∀ accepted, Paths post committed (next accepted)
  | _, .commit next => Paths post true next
  | committed, .rollback next => Paths post committed next
  | committed, .ask _ next => ∀ answer, Paths post committed (next answer)

/-- Weakening what holds at the end. -/
theorem paths_mono {post weaker : Bool → α → Prop}
    (implies : ∀ committed value, post committed value → weaker committed value)
    {committed : Bool} {program : Prog S α} (holds : program.Paths post committed) :
    program.Paths weaker committed := by
  induction program generalizing committed with
  | ret value => exact implies _ _ holds
  | read next inductionHypothesis => exact fun store => inductionHypothesis store (holds store)
  | lock resources next inductionHypothesis => exact inductionHypothesis holds
  | write statement next inductionHypothesis =>
      exact fun accepted => inductionHypothesis accepted (holds accepted)
  | commit next inductionHypothesis => exact inductionHypothesis holds
  | rollback next inductionHypothesis => exact inductionHypothesis holds
  | ask query next inductionHypothesis => exact fun answer => inductionHypothesis answer (holds answer)

/-- The paths of a sequence. -/
theorem paths_bind (program : Prog S α) (rest : α → Prog S β) (post : Bool → β → Prop)
    (committed : Bool) :
    (program.bind rest).Paths post committed ↔
      program.Paths (fun later value => (rest value).Paths post later) committed := by
  induction program generalizing committed with
  | ret value => rfl
  | read next inductionHypothesis => exact forall_congr' fun store => inductionHypothesis store _
  | lock resources next inductionHypothesis => exact inductionHypothesis _
  | write statement next inductionHypothesis =>
      exact forall_congr' fun accepted => inductionHypothesis accepted _
  | commit next inductionHypothesis => exact inductionHypothesis _
  | rollback next inductionHypothesis => exact inductionHypothesis _
  | ask query next inductionHypothesis =>
      exact forall_congr' fun answer => inductionHypothesis answer _

/-- The path that a program takes alone: where nothing may have been committed, nothing was. -/
theorem Paths.run {post : Bool → α → Prop} (answers : Answers S) {program : Prog S α}
    {committed : Bool} (holds : program.Paths post committed)
    (connection : Connection S) :
    ∃ later, post later (program.run answers connection).1 ∧ (committed = true → later = true) ∧
      (later = false → (program.run answers connection).2.store = connection.store ∧
        (program.run answers connection).2.commits = connection.commits) := by
  induction program generalizing committed connection with
  | ret value => exact ⟨committed, holds, id, fun _ => ⟨rfl, rfl⟩⟩
  | read next inductionHypothesis => exact inductionHypothesis _ (holds _) connection
  | lock resources next inductionHypothesis => exact inductionHypothesis holds connection
  | write statement next inductionHypothesis =>
      rw [Prog.run]
      split
      · exact inductionHypothesis true (holds true)
          { connection with log := connection.log ++ [statement] }
      · exact inductionHypothesis false (holds false) connection
  | commit next inductionHypothesis =>
      obtain ⟨later, ends, stays, _⟩ := inductionHypothesis holds
        { connection with
          store := connection.view
          log := []
          commits := connection.commits ++ [(connection.store, connection.log)] }
      exact ⟨later, ends, fun _ => stays rfl, fun none => absurd (stays rfl) (by simp [none])⟩
  | rollback next inductionHypothesis =>
      exact inductionHypothesis holds { connection with log := [] }
  | ask query next inductionHypothesis =>
      exact inductionHypothesis _ (holds _)
        { connection with asked := connection.asked ++ [query] }

end Prog

namespace Orm

variable {ε : Type}

/-- On every path of a session program the property holds at its end. -/
def Paths (program : Orm S ε α) (post : Bool → Except ε α → Prop) (committed : Bool) : Prop :=
  ∀ pending, (program pending).Paths (fun later result => post later result.1) committed

/-- Sequencing with an intermediate property. -/
theorem Paths.seq {program : Orm S ε α} {rest : α → Orm S ε β}
    {middle : Bool → Except ε α → Prop} {post : Bool → Except ε β → Prop} {committed : Bool}
    (first : program.Paths middle committed)
    (returned : ∀ later value, middle later (.ok value) → (rest value).Paths post later)
    (raised : ∀ later exception, middle later (.error exception) → post later (.error exception)) :
    (program >>= rest).Paths post committed := by
  intro pending
  refine (Prog.paths_bind ..).mpr (Prog.paths_mono ?_ (first pending))
  rintro later ⟨result, recorded⟩ holds
  cases result with
  | ok value => exact returned later value holds recorded
  | error exception => exact raised later exception holds

/-- The exceptions of a program are handled. -/
theorem Paths.guarded {program : Orm S ε α} {handler : ε → Orm S ε α}
    {middle post : Bool → Except ε α → Prop} {committed : Bool}
    (first : program.Paths middle committed)
    (returned : ∀ later value, middle later (.ok value) → post later (.ok value))
    (raised : ∀ later exception, middle later (.error exception) →
      (handler exception).Paths post later) :
    (tryCatch program handler).Paths post committed := by
  intro pending
  refine (Prog.paths_bind ..).mpr (Prog.paths_mono ?_ (first pending))
  rintro later ⟨result, recorded⟩ holds
  cases result with
  | ok value => exact returned later value holds
  | error exception => exact raised later exception holds recorded

end Orm

/-- A session whose store and history did not change. -/
def Alone.Same (alone later : Alone S) : Prop :=
  later.store = alone.store ∧ later.commits = alone.commits

/-- A program without a commit. -/
class Tentative {ε : Type} (program : Orm S ε α) : Prop where
  paths : ∀ committed, program.Paths (fun later _ => later = committed) committed

namespace Tentative

variable {ε : Type}

/-- Alone it leaves the store as it is. -/
theorem same (answers : Answers S) (alone : Alone S) {program : Orm S ε α}
    [tentative : Tentative program] : alone.Same (program.run answers alone).2 := by
  obtain ⟨_, rfl, _, same⟩ := (tentative.paths false alone.pending).run answers alone.toConnection
  exact same rfl

instance pure (value : α) : Tentative (Pure.pure value : Orm S ε α) := ⟨fun _ _ => rfl⟩

instance throw (exception : ε) : Tentative (MonadExcept.throw exception : Orm S ε α) :=
  ⟨fun _ _ => rfl⟩

instance select (query : S.Store → α) : Tentative (Orm.select query : Orm S ε α) :=
  ⟨fun _ _ _ => rfl⟩

instance lock (resources : List S.Lock) : Tentative (Orm.lock resources : Orm S ε Unit) :=
  ⟨fun _ _ => rfl⟩

instance add (row : S.Write) : Tentative (Orm.add row : Orm S ε Unit) := ⟨fun _ _ => rfl⟩

instance ask (query : S.Query) :
    Tentative (α := no_index (S.Answer query)) (Orm.ask query : Orm S ε _) :=
  ⟨fun _ _ _ => rfl⟩

instance rollback : Tentative (Orm.rollback : Orm S ε Unit) := ⟨fun _ _ => rfl⟩

instance execute (statement : S.Write) : Tentative (Orm.execute statement : Orm S ε Bool) :=
  ⟨fun _ _ _ => rfl⟩

/-- Flushing commits nothing. -/
theorem flushAll (rows : List S.Write) (committed : Bool) :
    (Orm.flushAll rows).Paths (fun later _ => later = committed) committed := by
  induction rows with
  | nil => rfl
  | cons row rows inductionHypothesis =>
      intro accepted
      cases accepted with
      | true => exact inductionHypothesis
      | false => rfl

instance flush [DatabaseFailure ε] : Tentative (Orm.flush : Orm S ε Unit) where
  paths committed pending := by
    refine (Prog.paths_bind ..).mpr (Prog.paths_mono ?_ (flushAll pending committed))
    rintro later accepted rfl
    cases accepted <;> rfl

instance bind (program : Orm S ε α) (rest : α → Orm S ε β) [first : Tentative program]
    [second : ∀ value, Tentative (rest value)] : Tentative (program >>= rest) where
  paths committed := by
    refine .seq (first.paths committed) ?_ fun _ _ same => same
    rintro later value rfl
    exact (second value).paths later

instance tryCatch (program : Orm S ε α) (handler : ε → Orm S ε α) [first : Tentative program]
    [second : ∀ exception, Tentative (handler exception)] :
    Tentative (MonadExcept.tryCatch program handler) where
  paths committed := by
    refine Orm.Paths.guarded (first.paths committed) (fun _ _ same => same) ?_
    rintro later exception rfl
    exact (second exception).paths later

instance require (condition : Prop) [Decidable condition] (exception : ε) :
    Tentative (Orm.require condition exception : Orm S ε Unit) := by
  unfold Orm.require
  split <;> infer_instance

instance found (value : Option α) (exception : ε) :
    Tentative (Orm.found value exception : Orm S ε α) := by
  unfold Orm.found
  split <;> infer_instance

instance branch (value : Option α) (absent : Orm S ε β) (present : α → Orm S ε β)
    [Tentative absent] [∀ content, Tentative (present content)] :
    Tentative (Orm.branch value absent present) := by
  unfold Orm.branch
  split <;> infer_instance

instance when (condition : Prop) [Decidable condition] (program : Orm S ε Unit)
    [Tentative program] : Tentative (Orm.when condition program) := by
  unfold Orm.when
  split <;> infer_instance

instance ite (condition : Prop) [Decidable condition] (first second : Orm S ε α)
    [Tentative first] [Tentative second] : Tentative (if condition then first else second) := by
  split <;> infer_instance

instance forEach (items : List α) (body : α → Orm S ε Unit)
    [each : ∀ item, Tentative (body item)] : Tentative (Orm.forEach items body) := by
  induction items with
  | nil => exact pure ()
  | cons item items inductionHypothesis =>
      exact bind (body item) fun _ => Orm.forEach items body

end Tentative

/-! ## Exceptions before a commit -/

namespace Orm

variable {ε : Type} {kind : ε → Prop}

/-- Whenever a program raises an exception of some kind, it has committed nothing. -/
def RaisesUncommitted (kind : ε → Prop) (program : Orm S ε α) : Prop :=
  program.Paths (fun later result => ∀ exception, result = .error exception → kind exception →
    later = false) false

namespace RaisesUncommitted

/-- What comes first commits nothing. -/
theorem after {program : Orm S ε α} {rest : α → Orm S ε β} [first : Tentative program]
    (next : ∀ value, RaisesUncommitted kind (rest value)) :
    RaisesUncommitted kind (program >>= rest) := by
  refine .seq (first.paths false) ?_ ?_
  · rintro later value rfl
    exact next value
  · rintro later exception rfl _ _ _
    rfl

/-- A commit at the end either commits or raises. -/
theorem commit [DatabaseFailure ε] : RaisesUncommitted (S := S) kind (Orm.commit : Orm S ε Unit) := by
  intro pending
  refine (Prog.paths_bind ..).mpr (Prog.paths_mono ?_ (Tentative.flushAll pending false))
  rintro later accepted rfl
  cases accepted with
  | true => rintro _ ⟨⟩
  | false => exact fun _ _ _ => rfl

/-- What comes after does not raise. -/
theorem before {program : Orm S ε α} {rest : α → Orm S ε β} (raises : RaisesUncommitted kind program)
    (silent : ∀ later value, (rest value).Paths (fun _ result => ∃ value, result = .ok value) later) :
    RaisesUncommitted kind (program >>= rest) := by
  refine .seq raises ?_ ?_
  · intro later result _ pending
    refine Prog.paths_mono ?_ (silent later result pending)
    rintro last ⟨_, recorded⟩ ⟨value, rfl⟩ _ ⟨⟩
  · rintro later exception uncommitted other ⟨⟩
    exact uncommitted exception rfl

/-- Exceptions are raised again. -/
theorem rethrown {program : Orm S ε α} {handler : ε → Orm S ε α}
    (raises : RaisesUncommitted kind program)
    (again : ∀ later exception, (handler exception).Paths (fun last result =>
      last = later ∧ result = .error exception) later) :
    RaisesUncommitted kind (tryCatch program handler) := by
  refine Orm.Paths.guarded raises (fun _ _ _ => by rintro _ ⟨⟩) ?_
  intro later exception uncommitted pending
  refine Prog.paths_mono ?_ (again later exception pending)
  rintro _ ⟨_, recorded⟩ ⟨rfl, rfl⟩ _ ⟨⟩
  exact uncommitted exception rfl

/-- A session that runs alone and raises such an exception leaves the store as it was. -/
theorem unchanged {program : Orm S ε α} (raises : RaisesUncommitted kind program)
    (answers : Answers S) (alone : Alone S) {exception : ε}
    (raised : (program.run answers alone).1 = .error exception) (kept : kind exception) :
    alone.Same (program.run answers alone).2 := by
  obtain ⟨later, ends, _, same⟩ := (raises alone.pending).run answers alone.toConnection
  exact same (ends exception raised kept)

end RaisesUncommitted

end Orm

end ReadCommitted
