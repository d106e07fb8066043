import ControlPlane.Library.RunningAlone

/-!
# Runs without refused statements

Whether the database refuses a statement depends on the rows it finds. A run in
which none is refused goes through its writes and flushes, so that only the
checks of the program itself can stop it.
-/

namespace ReadCommitted

variable {S : Schema} (answers : Answers S)

/-- A program that runs alone meets no refused statement. -/
def Prog.unrefused : Prog S α → Connection S → Bool
  | .ret _, _ => true
  | .read next, connection => (next connection.view).unrefused connection
  | .lock _ next, connection => next.unrefused connection
  | .write statement next, connection =>
      S.accepts statement connection.view &&
        (next true).unrefused { connection with log := connection.log ++ [statement] }
  | .commit next, connection =>
      next.unrefused { connection with
        store := connection.view
        log := []
        commits := connection.commits ++ [(connection.store, connection.log)] }
  | .rollback next, connection => next.unrefused { connection with log := [] }
  | .ask query next, connection =>
      (next (answers query connection.asked.length)).unrefused
        { connection with asked := connection.asked ++ [query] }

/-- A sequence meets no refused statement if none of its parts does. -/
theorem Prog.unrefused_bind (program : Prog S α) (rest : α → Prog S β) (connection : Connection S) :
    (program.bind rest).unrefused answers connection =
      (program.unrefused answers connection &&
        (rest (program.run answers connection).1).unrefused answers
          (program.run answers connection).2) := by
  induction program generalizing connection with
  | ret value => rfl
  | read next inductionHypothesis => exact inductionHypothesis _ connection
  | lock resources next inductionHypothesis => exact inductionHypothesis connection
  | write statement next inductionHypothesis =>
      simp only [bind, unrefused, run]
      by_cases accepted : S.accepts statement connection.view = true
      · rw [if_pos accepted, inductionHypothesis, accepted, Bool.true_and, Bool.true_and]
      · rw [Bool.eq_false_iff.mpr accepted, Bool.false_and, Bool.false_and, Bool.false_and]
  | commit next inductionHypothesis => exact inductionHypothesis _
  | rollback next inductionHypothesis => exact inductionHypothesis _
  | ask query next inductionHypothesis => exact inductionHypothesis _ _

/-- What accepted statements preserve holds of the store and of the view in the end. -/
theorem Prog.run_preserves {inv : S.Store → Prop}
    (apply : ∀ statement store, inv store → S.accepts statement store = true →
      inv (S.apply statement store)) (program : Prog S α) (connection : Connection S)
    (store : inv connection.store) (view : inv connection.view) :
    inv (program.run answers connection).2.store ∧
      inv (program.run answers connection).2.view := by
  induction program generalizing connection with
  | ret value => exact ⟨store, view⟩
  | read next inductionHypothesis => exact inductionHypothesis _ connection store view
  | lock resources next inductionHypothesis => exact inductionHypothesis connection store view
  | write statement next inductionHypothesis =>
      rw [run]
      split
      next accepted =>
        refine inductionHypothesis true _ store ?_
        unfold Connection.view
        rw [replay_append]
        exact apply statement _ view accepted
      next => exact inductionHypothesis false connection store view
  | commit next inductionHypothesis => exact inductionHypothesis _ view view
  | rollback next inductionHypothesis => exact inductionHypothesis _ store store
  | ask query next inductionHypothesis => exact inductionHypothesis _ _ store view

namespace Orm

variable {ε : Type} (alone : Alone S)

/-- A session program that runs alone meets no refused statement. -/
def unrefused (program : Orm S ε α) (alone : Alone S) : Bool :=
  (program alone.pending).unrefused answers alone.toConnection

theorem unrefused_bind (program : Orm S ε α) (rest : α → Orm S ε β) :
    (program >>= rest).unrefused answers alone =
      (program.unrefused answers alone &&
        match program.run answers alone with
        | (.ok value, later) => (rest value).unrefused answers later
        | (.error _, _) => true) := by
  simp only [unrefused, run, Bind.bind, Prog.unrefused_bind]
  obtain ⟨⟨result, pending⟩, connection⟩ :=
    (program alone.pending).run answers alone.toConnection
  cases result <;> rfl

variable {answers alone} in
/-- The two parts of a sequence. -/
theorem unrefused_parts {program : Orm S ε α} {rest : α → Orm S ε β}
    (unrefused : (program >>= rest).unrefused answers alone = true) :
    program.unrefused answers alone = true ∧ ∀ value later,
      program.run answers alone = (.ok value, later) →
        (rest value).unrefused answers later = true := by
  rw [unrefused_bind, Bool.and_eq_true] at unrefused
  refine ⟨unrefused.1, fun value later ran => ?_⟩
  have second := unrefused.2
  rwa [ran] at second

theorem unrefused_tryCatch (program : Orm S ε α) (handler : ε → Orm S ε α) :
    (tryCatch program handler).unrefused answers alone =
      (program.unrefused answers alone &&
        match program.run answers alone with
        | (.ok _, _) => true
        | (.error exception, later) => (handler exception).unrefused answers later) := by
  simp only [unrefused, run, tryCatch, tryCatchThe, MonadExceptOf.tryCatch, Prog.unrefused_bind]
  obtain ⟨⟨result, pending⟩, connection⟩ :=
    (program alone.pending).run answers alone.toConnection
  cases result <;> rfl

variable {answers alone} in
/-- What accepted statements preserve holds of the store and of the view in the end. -/
theorem run_preserves {inv : S.Store → Prop}
    (apply : ∀ statement store, inv store → S.accepts statement store = true →
      inv (S.apply statement store)) {program : Orm S ε α} {result : Except ε α}
    {later : Alone S} (ran : program.run answers alone = (result, later))
    (before : inv alone.store ∧ inv alone.view) : inv later.store ∧ inv later.view := by
  have kept := Prog.run_preserves answers apply (program alone.pending) alone.toConnection
    before.1 before.2
  rwa [show ((program alone.pending).run answers alone.toConnection).2 = later.toConnection from
    congrArg (fun outcome => outcome.2.toConnection) ran] at kept

/-- A flush that meets no refused statement sends all recorded rows. -/
theorem acceptsAll_of_unrefused_flush [DatabaseFailure ε]
    (unrefused : (flush : Orm S ε Unit).unrefused answers alone = true) :
    acceptsAll alone.pending alone.view = true := by
  have rows : ∀ (rows : List S.Write) (connection : Connection S),
      (flushAll rows).unrefused answers connection = true →
        acceptsAll rows connection.view = true := by
    intro rows
    induction rows with
    | nil => exact fun _ _ => rfl
    | cons row rows inductionHypothesis =>
        intro connection passed
        simp only [flushAll, Prog.unrefused, Bool.and_eq_true] at passed
        have rest := inductionHypothesis _ passed.2
        unfold Connection.view at rest
        rw [replay_append] at rest
        simp only [acceptsAll, Bool.and_eq_true]
        exact ⟨passed.1, rest⟩
  simp only [Orm.unrefused, flush, Prog.unrefused_bind, Bool.and_eq_true] at unrefused
  exact rows _ _ unrefused.1

end Orm

end ReadCommitted
