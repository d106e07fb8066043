import ControlPlane.Library.Dues

/-!
# Laws that hold until something is lost

What a session knows about its own transaction holds until the transaction is
lost: a failed flush or a rollback leaves a new one, about which only the laws
hold that every session starts with. A program upholds such knowledge when it
returns with it, and raises with no more than the laws of a new transaction.
-/

namespace ReadCommitted

variable {S : Schema} {ε : Type}

section

variable {first second : Law S} {Benign : S.Write → Prop}

instance [first.Tolerates Benign] [second.Tolerates Benign] :
    (first.both second).Tolerates Benign where
  held more holds := ⟨Law.Tolerates.held Benign more holds.1,
    Law.Tolerates.held Benign more holds.2⟩
  benign benign holds := ⟨Law.Tolerates.benign benign holds.1,
    Law.Tolerates.benign benign holds.2⟩

instance {C : Agreement S} [C.Starts Benign first] [C.Starts Benign second] :
    C.Starts Benign (first.both second) where
  nil invariant := ⟨Agreement.Starts.nil Benign invariant, Agreement.Starts.nil Benign invariant⟩

end

/-- A law that further statements do not break tolerates them. -/
theorem Law.Steady.tolerates (law : Law S) [steady : law.Steady] (Benign : S.Write → Prop) :
    law.Tolerates Benign where
  held more lawful := steady.grow more (List.Sublist.refl _) lawful
  benign _ lawful := steady.grow (List.Subset.refl _)
    (List.Sublist.append_left (List.sublist_cons_self _ _) _) lawful

/-! ## Kinds of rows -/

/-- Of a kind of rows, a session has written and recorded only these. -/
def Law.only (kind : S.Write → Bool) (rows : List S.Write) : Law S := fun _ log _ =>
  (log.filter kind).Sublist rows

/-- Rows of another kind. -/
def Law.Other (kind : S.Write → Bool) (row : S.Write) : Prop := kind row = false

instance (kind : S.Write → Bool) (rows : List S.Write) :
    (Law.only kind rows).Tolerates (Law.Other kind) where
  held _ only := only
  benign {_ first last row _} other only := by
    unfold Law.only at *
    rw [List.filter_append, List.filter_cons_of_neg (by rw [other]; exact Bool.false_ne_true),
      ← List.filter_append]
    exact only

instance (C : Agreement S) (kind : S.Write → Bool) (rows : List S.Write) :
    C.Starts (Law.Other kind) (Law.only kind rows) where
  nil _ := List.nil_sublist rows

/-- A session that writes nothing keeps every law that it may start with. -/
theorem Agreement.Starts.nothing {C : Agreement S} {law : Law S} (Benign : S.Write → Prop)
    [C.Starts Benign law] : C.Starts (fun _ => False) law where
  held more lawful := Law.Tolerates.held Benign more lawful
  benign benign := benign.elim
  nil invariant := Agreement.Starts.nil Benign invariant

/-- What a session that keeps a law has written and recorded. -/
theorem Due.now {C : Agreement S} {law : Law S} {point : Point S} (due : Due C law point) :
    law point.held (point.log ++ point.pending) point.store :=
  due.law point.store (.refl due.inv)

/-! ## Upholding a law -/

/-- What a result leaves: both laws, or only the basic one after an exception. -/
def Kept (C : Agreement S) (base more : Law S) : Except ε α → Point S → Prop
  | .ok _, point => Due C (base.both more) point
  | .error _, point => Due C base point

/-- Programs that return under both laws, and raise under the basic one. -/
class Upholds (C : Agreement S) (_ : S.Write → Prop) (base more : Law S) (program : Orm S ε α) :
    Prop where
  upholds : ∀ point, Due C (base.both more) point → program.wp C (Kept C base more) point

/-- A program that upholds a law, at a moment that keeps it. -/
theorem Orm.wp_upholds {C : Agreement S} (Benign : S.Write → Prop) {base more : Law S}
    (program : Orm S ε α) [upheld : Upholds C Benign base more program] {point : Point S}
    (due : Due C (base.both more) point) : program.wp C (Kept C base more) point :=
  upheld.upholds point due

section

variable {C : Agreement S} {base more : Law S} {point : Point S}

/-- The basic law alone. -/
theorem Due.plain (due : Due C (base.both more) point) : Due C base point :=
  due.weaken fun _ _ _ _ both => both.1

/-- Recording several rows. -/
theorem Due.extend (due : Due C base point) (rows : List S.Write) {next : Law S}
    (lawful : ∀ later, C.Rely point.held point.store later →
      base point.held (point.log ++ point.pending) later →
        next point.held (point.log ++ point.pending ++ rows) later) :
    Due C next { point with pending := point.pending ++ rows } :=
  ⟨due.inv, due.covered, due.accepted, fun _ rely => by
    rw [← List.append_assoc]
    exact lawful _ rely (due.law _ rely)⟩

end

namespace Upholds

variable {C : Agreement S} {Benign : S.Write → Prop} {base more : Law S}

instance pure (value : α) : Upholds C Benign base more (Pure.pure value : Orm S ε α) where
  upholds _ due := due

instance throw (exception : ε) :
    Upholds C Benign base more (MonadExcept.throw exception : Orm S ε α) where
  upholds _ due := due.plain

instance bind (program : Orm S ε α) (rest : α → Orm S ε β)
    [first : Upholds C Benign base more program]
    [second : ∀ value, Upholds C Benign base more (rest value)] :
    Upholds C Benign base more (program >>= rest) where
  upholds point due := by
    rw [Orm.wp_bind]
    refine Orm.wp_mono C (first.upholds point due) fun result later kept => ?_
    cases result with
    | ok value => exact (second value).upholds later kept
    | error exception => exact kept

/-- A handler that raises another exception. -/
instance tryCatch_throw (program : Orm S ε α) (translate : ε → ε)
    [guarded : Upholds C Benign base more program] :
    Upholds C Benign base more (MonadExcept.tryCatch program fun exception =>
      MonadExcept.throw (translate exception)) where
  upholds point due := by
    change Orm.wp C (tryCatchThe ε program _) _ _
    refine (Orm.wp_tryCatch C program _).mpr ?_
    refine Orm.wp_mono C (guarded.upholds point due) fun result later kept => ?_
    cases result with
    | ok value => exact kept
    | error exception => exact kept

instance select (query : S.Store → α) :
    Upholds C Benign base more (Orm.select query : Orm S ε α) where
  upholds _ due := fun _ rely => due.rely rely

instance recorded :
    Upholds (α := no_index (List S.Write)) C Benign base more (Orm.recorded : Orm S ε _) where
  upholds _ due := due

instance ask (query : S.Query) [asked : C.Asks query] :
    Upholds (α := no_index (S.Answer query)) C Benign base more (Orm.ask query : Orm S ε _) where
  upholds _ due := ⟨asked.asks, fun _ => due⟩

instance require (condition : Prop) [Decidable condition] (exception : ε) :
    Upholds C Benign base more (Orm.require condition exception : Orm S ε Unit) := by
  unfold Orm.require
  split <;> infer_instance

instance found (value : Option α) (exception : ε) :
    Upholds C Benign base more (Orm.found value exception : Orm S ε α) := by
  unfold Orm.found
  split <;> infer_instance

instance attempt (value : Except ε α) :
    Upholds C Benign base more (Orm.attempt value : Orm S ε α) := by
  unfold Orm.attempt
  split <;> infer_instance

instance branch (value : Option α) (absent : Orm S ε β) (present : α → Orm S ε β)
    [Upholds C Benign base more absent] [∀ content, Upholds C Benign base more (present content)] :
    Upholds C Benign base more (Orm.branch value absent present) := by
  unfold Orm.branch
  split <;> infer_instance

instance when (condition : Prop) [Decidable condition] (program : Orm S ε Unit)
    [Upholds C Benign base more program] :
    Upholds C Benign base more (Orm.when condition program) := by
  unfold Orm.when
  split <;> infer_instance

instance forEach (items : List α) (body : α → Orm S ε Unit)
    [kept : ∀ item, Upholds C Benign base more (body item)] :
    Upholds C Benign base more (Orm.forEach items body) := by
  induction items with
  | nil => exact pure ()
  | cons item items inductionHypothesis =>
      exact bind (body item) fun _ => Orm.forEach items body

section

variable [base.Tolerates Benign] [more.Tolerates Benign]

/-- Recording a benign row. -/
theorem add {row : S.Write} (benign : Benign row) :
    Upholds C Benign base more (Orm.add row : Orm S ε Unit) where
  upholds _ due := due.record benign

/-- Sending a benign statement. -/
theorem execute {statement : S.Write} (benign : Benign statement) :
    Upholds C Benign base more (Orm.execute statement : Orm S ε Bool) where
  upholds _ due := fun _ rely =>
    ⟨fun accepted => (due.rely rely).write benign accepted, fun _ => due.rely rely⟩

instance lock (resources : List S.Lock) :
    Upholds C Benign base more (Orm.lock resources : Orm S ε Unit) where
  upholds _ due := fun _ rely => (due.rely rely).acquire Benign _

end

section

variable [C.Starts Benign base] [more.Tolerates Benign]

instance flush [DatabaseFailure ε] :
    Upholds C Benign base more (Orm.flush : Orm S ε Unit) where
  upholds point due := by
    refine Orm.wp_mono C (Orm.wp_flush_due Benign due) fun result later left => ?_
    cases result with
    | ok _ => exact left.1
    | error exception =>
        obtain ⟨invariant, fresh⟩ := left
        rw [Kept, fresh]
        exact .fresh Benign invariant

omit [more.Tolerates Benign] in
/-- A transaction that is given up. -/
theorem abandon (exception : ε) :
    Upholds C Benign base more (do
      Orm.rollback
      MonadExcept.throw exception : Orm S ε α) where
  upholds _ _ := fun _ rely => .fresh Benign rely.inv

end

end Upholds

end ReadCommitted
