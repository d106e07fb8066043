import ControlPlane.Library.Paths

/-!
# The exceptions of a program

Which exceptions a program may raise is read off its text: each statement adds
its own, and a handler replaces those of what it guards.
-/

namespace ReadCommitted

variable {S : Schema} {ε : Type}

/-- A trivial property holds on every path. -/
theorem Prog.paths_trivial (program : Prog S α) (committed : Bool) :
    program.Paths (fun _ _ => True) committed := by
  induction program generalizing committed with
  | ret value => trivial
  | read next inductionHypothesis => exact fun store => inductionHypothesis store committed
  | lock resources next inductionHypothesis => exact inductionHypothesis committed
  | write statement next inductionHypothesis =>
      exact fun accepted => inductionHypothesis accepted committed
  | commit next inductionHypothesis => exact inductionHypothesis true
  | rollback next inductionHypothesis => exact inductionHypothesis committed
  | ask query next inductionHypothesis => exact fun answer => inductionHypothesis answer committed

/-- What holds on every path of a program holds where it ends in an interleaving. -/
theorem Agreement.wp_paths {C : Agreement S} {program : Prog S α} {path : Bool → α → Prop}
    {post : α → List (Held S) → List S.Write → S.Store → Prop} {committed : Bool}
    (paths : program.Paths path committed) {held : List (Held S)} {log : List S.Write}
    {store : S.Store} (holds : C.wp program post held log store) :
    C.wp program (fun value held log later =>
      post value held log later ∧ ∃ last, path last value) held log store := by
  induction program generalizing committed held log store with
  | ret value => exact ⟨holds, committed, paths⟩
  | read next inductionHypothesis =>
      exact fun later rely => inductionHypothesis _ (paths _) (holds later rely)
  | lock resources next inductionHypothesis =>
      exact fun later rely => inductionHypothesis paths (holds later rely)
  | write statement next inductionHypothesis =>
      exact fun later rely =>
        ⟨fun accepted => inductionHypothesis true (paths true) ((holds later rely).1 accepted),
          fun refused => inductionHypothesis false (paths false) ((holds later rely).2 refused)⟩
  | commit next inductionHypothesis =>
      exact fun later rely =>
        ⟨(holds later rely).1, fun permitted =>
          inductionHypothesis paths ((holds later rely).2 permitted)⟩
  | rollback next inductionHypothesis =>
      exact fun later rely => inductionHypothesis paths (holds later rely)
  | ask query next inductionHypothesis =>
      exact ⟨holds.1, fun answer => inductionHypothesis answer (paths answer) (holds.2 answer)⟩

/-- An exception of a kind. -/
class OfKind (kind : ε → Prop) (exception : ε) : Prop where
  holds : kind exception

/-- Every exception of a program is of a kind. -/
class Raises (kind : ε → Prop) (program : Orm S ε α) : Prop where
  paths : ∀ committed, program.Paths
    (fun _ result => ∀ exception, result = .error exception → kind exception) committed

namespace Raises

variable {kind : ε → Prop}

/-- What a program that runs alone raises. -/
theorem run {program : Orm S ε α} [raises : Raises kind program] (answers : Answers S)
    {alone : Alone S} {exception : ε}
    (raised : (program.run answers alone).1 = .error exception) : kind exception := by
  obtain ⟨_, holds, _⟩ := (raises.paths false alone.pending).run answers alone.toConnection
  exact holds exception raised

/-- What a program raises among other sessions. -/
theorem wp {C : Agreement S} {program : Orm S ε α} [raises : Raises kind program]
    {post : Except ε α → Point S → Prop} {point : Point S} (holds : program.wp C post point) :
    program.wp C (fun result later =>
      post result later ∧ ∀ exception, result = .error exception → kind exception) point :=
  C.wp_mono (fun _ _ _ _ ⟨ended, _, kinds⟩ => ⟨ended, kinds⟩)
    (Agreement.wp_paths (raises.paths false point.pending) holds)

/-- A wider kind. -/
theorem mono {wider : ε → Prop} {program : Orm S ε α} (raises : Raises kind program)
    (implies : ∀ exception, kind exception → wider exception) : Raises wider program where
  paths committed pending := Prog.paths_mono
    (fun _ _ kinds exception raised => implies exception (kinds exception raised))
    (raises.paths committed pending)

/-- What a guarded program raises decides what its handler may raise. -/
theorem guarded {wider : ε → Prop} {program : Orm S ε α} {handler : ε → Orm S ε α}
    (raises : Raises kind program)
    (handled : ∀ exception, kind exception → Raises wider (handler exception)) :
    Raises wider (MonadExcept.tryCatch program handler) where
  paths committed := (raises.paths committed).guarded (fun _ _ _ => by rintro _ ⟨⟩)
    fun later exception kinds => (handled exception (kinds exception rfl)).paths later

instance pure (value : α) : Raises kind (Pure.pure value : Orm S ε α) :=
  ⟨fun _ _ => by rintro _ ⟨⟩⟩

instance throw (exception : ε) [known : OfKind kind exception] :
    Raises kind (MonadExcept.throw exception : Orm S ε α) where
  paths _ _ := by
    rintro _ ⟨⟩
    exact known.holds

instance select (query : S.Store → α) : Raises kind (Orm.select query : Orm S ε α) :=
  ⟨fun _ _ _ => by rintro _ ⟨⟩⟩

instance recorded : Raises (α := no_index (List S.Write)) kind (Orm.recorded : Orm S ε _) :=
  ⟨fun _ _ => by rintro _ ⟨⟩⟩

instance lock (resources : List S.Lock) : Raises kind (Orm.lock resources : Orm S ε Unit) :=
  ⟨fun _ _ => by rintro _ ⟨⟩⟩

instance add (row : S.Write) : Raises kind (Orm.add row : Orm S ε Unit) :=
  ⟨fun _ _ => by rintro _ ⟨⟩⟩

instance ask (query : S.Query) :
    Raises (α := no_index (S.Answer query)) kind (Orm.ask query : Orm S ε _) :=
  ⟨fun _ _ _ => by rintro _ ⟨⟩⟩

instance rollback : Raises kind (Orm.rollback : Orm S ε Unit) :=
  ⟨fun _ _ => by rintro _ ⟨⟩⟩

instance execute (statement : S.Write) : Raises kind (Orm.execute statement : Orm S ε Bool) :=
  ⟨fun _ _ _ => by rintro _ ⟨⟩⟩

instance flush [DatabaseFailure ε] [known : OfKind kind (DatabaseFailure.failure : ε)] :
    Raises kind (Orm.flush : Orm S ε Unit) where
  paths committed pending := by
    refine (Prog.paths_bind ..).mpr
      (Prog.paths_mono ?_ (Tentative.flushAll (S := S) pending committed))
    rintro later accepted -
    cases accepted with
    | true => rintro _ ⟨⟩
    | false =>
        rintro _ ⟨⟩
        exact known.holds

instance commit [DatabaseFailure ε] [known : OfKind kind (DatabaseFailure.failure : ε)] :
    Raises kind (Orm.commit : Orm S ε Unit) where
  paths committed pending := by
    refine (Prog.paths_bind ..).mpr
      (Prog.paths_mono ?_ (Tentative.flushAll (S := S) pending committed))
    rintro later accepted -
    cases accepted with
    | true => rintro _ ⟨⟩
    | false =>
        rintro _ ⟨⟩
        exact known.holds

instance bind (program : Orm S ε α) (rest : α → Orm S ε β) [first : Raises kind program]
    [second : ∀ value, Raises kind (rest value)] : Raises kind (program >>= rest) where
  paths committed := by
    refine .seq (first.paths committed) (fun later value _ => (second value).paths later) ?_
    rintro later exception raised _ ⟨⟩
    exact raised exception rfl

/-- What a guarded program raises is replaced by what the handler raises. -/
instance tryCatch (program : Orm S ε α) (handler : ε → Orm S ε α)
    [second : ∀ exception, Raises kind (handler exception)] :
    Raises kind (MonadExcept.tryCatch program handler) where
  paths committed := by
    have first : program.Paths (fun _ _ => True) committed := fun pending =>
      Prog.paths_trivial (program pending) committed
    refine first.guarded ?_ fun later exception _ => (second exception).paths later
    rintro later value - _ ⟨⟩

instance require (condition : Prop) [Decidable condition] (exception : ε)
    [OfKind kind exception] : Raises kind (Orm.require condition exception : Orm S ε Unit) := by
  unfold Orm.require
  split <;> infer_instance

instance found (value : Option α) (exception : ε) [OfKind kind exception] :
    Raises kind (Orm.found value exception : Orm S ε α) := by
  unfold Orm.found
  split <;> infer_instance

instance branch (value : Option α) (absent : Orm S ε β) (present : α → Orm S ε β)
    [Raises kind absent] [∀ content, Raises kind (present content)] :
    Raises kind (Orm.branch value absent present) := by
  unfold Orm.branch
  split <;> infer_instance

instance when (condition : Prop) [Decidable condition] (program : Orm S ε Unit)
    [Raises kind program] : Raises kind (Orm.when condition program) := by
  unfold Orm.when
  split <;> infer_instance

instance ite (condition : Prop) [Decidable condition] (first second : Orm S ε α)
    [Raises kind first] [Raises kind second] : Raises kind (if condition then first else second) := by
  split <;> infer_instance

instance forEach (items : List α) (body : α → Orm S ε Unit)
    [each : ∀ item, Raises kind (body item)] : Raises kind (Orm.forEach items body) := by
  induction items with
  | nil => exact pure ()
  | cons item items inductionHypothesis =>
      exact bind (body item) fun _ => Orm.forEach items body

end Raises

end ReadCommitted
