import ControlPlane.Library.RunningAlone

/-!
# Rows that are due together

A session often records several rows that respect an agreement only together.
It is then not ready to commit at every moment; but whenever everything recorded
so far gets flushed, what it wrote is lawful. A law speaks about the locks, the
writes and the recorded rows of a session, and about the committed store. Programs
that sustain a law are closed under sequencing, handlers, branching and loops,
which is stated with a class as for sessions that stay ready.
-/

namespace ReadCommitted

variable {S : Schema}

/-- A program only ever meets stores that the committed store evolved to. -/
theorem Agreement.wp_le {C : Agreement S} [C.Shared] {program : Prog S α}
    {post : α → List (Held S) → List S.Write → S.Store → Prop} {held : List (Held S)}
    {log : List S.Write} {store : S.Store} (holds : C.wp program post held log store) :
    C.wp program (fun value held log later => post value held log later ∧ C.le store later)
      held log store := by
  suffices reached : ∀ origin, C.le origin store →
      C.wp program (fun value held log later => post value held log later ∧ C.le origin later)
        held log store from reached store (C.le_refl store)
  intro origin le
  induction program generalizing held log store with
  | ret value => exact ⟨holds, le⟩
  | read next inductionHypothesis =>
      exact fun later rely =>
        inductionHypothesis _ (holds later rely) (C.le_trans le rely.le)
  | lock resources next inductionHypothesis =>
      exact fun later rely => inductionHypothesis (holds later rely) (C.le_trans le rely.le)
  | write statement next inductionHypothesis =>
      exact fun later rely =>
        ⟨fun accepted => inductionHypothesis _ ((holds later rely).1 accepted)
            (C.le_trans le rely.le),
          fun refused => inductionHypothesis _ ((holds later rely).2 refused)
            (C.le_trans le rely.le)⟩
  | commit next inductionHypothesis =>
      exact fun later rely =>
        ⟨(holds later rely).1, fun permitted => inductionHypothesis ((holds later rely).2 permitted)
          (C.le_trans le (C.le_trans rely.le
            (Shared.le_replay rely.inv (holds later rely).1 permitted)))⟩
  | rollback next inductionHypothesis =>
      exact fun later rely => inductionHypothesis (holds later rely) (C.le_trans le rely.le)
  | ask query next inductionHypothesis =>
      exact ⟨holds.1, fun answer => inductionHypothesis _ (holds.2 answer) le⟩

/-- A session only ever meets stores that the committed store evolved to. -/
theorem Orm.wp_le {C : Agreement S} [C.Shared] {ε : Type} {program : Orm S ε α}
    {post : Except ε α → Point S → Prop} {point : Point S} (holds : program.wp C post point) :
    program.wp C (fun result later => post result later ∧ C.le point.store later.store) point :=
  Agreement.wp_le holds

/-- What a transaction writes, given its locks and the store it commits to. -/
abbrev Law (S : Schema) := List (Held S) → List S.Write → S.Store → Prop

/-- A law that further locks and benign writes do not break. -/
class Law.Tolerates (law : Law S) (Benign : S.Write → Prop) : Prop where
  held : ∀ {held more log store}, held ⊆ more → law held log store → law more log store
  benign : ∀ {held first last write store}, Benign write → law held (first ++ last) store →
    law held (first ++ write :: last) store

/-- A law that a session keeps when it starts over. -/
class Agreement.Starts (C : Agreement S) (Benign : S.Write → Prop) (law : Law S) : Prop extends
    Law.Tolerates law Benign where
  nil : ∀ {store}, C.inv store → law [] [] store

/-- A law that an agreement accepts at a commit. -/
class Agreement.Sanctions (C : Agreement S) (Benign : S.Write → Prop) (law : Law S) : Prop extends
    Agreement.Starts C Benign law where
  commit : ∀ {held log store}, C.inv store → acceptsAll log store = true → law held log store →
    C.commit held log store

/-- The session keeps a law once everything recorded is flushed. -/
structure Due (C : Agreement S) (law : Law S) (point : Point S) : Prop where
  inv : C.inv point.store
  covered : point.Covered
  accepted : ∀ later, C.Rely point.held point.store later → acceptsAll point.log later = true
  law : ∀ later, C.Rely point.held point.store later →
    law point.held (point.log ++ point.pending) later

section

variable {C : Agreement S} {law : Law S} {point : Point S}

namespace Due

/-- Commits of other sessions do not break the law. -/
theorem rely (due : Due C law point) {later : S.Store}
    (moved : C.Rely point.held point.store later) : Due C law { point with store := later } :=
  ⟨moved.inv, due.covered.rely moved, fun _ more => due.accepted _ (moved.trans more),
    fun _ more => due.law _ (moved.trans more)⟩

/-- A weaker law is kept as well. -/
theorem weaken (due : Due C law point) {weaker : Law S}
    (implies : ∀ held log store, C.inv store → law held log store → weaker held log store) :
    Due C weaker point :=
  ⟨due.inv, due.covered, due.accepted, fun _ rely => implies _ _ _ rely.inv (due.law _ rely)⟩

/-- A session without writes keeps every law. -/
theorem fresh (Benign : S.Write → Prop) [C.Starts Benign law] {store : S.Store}
    (invariant : C.inv store) : Due C law ⟨[], [], [], store⟩ :=
  ⟨invariant, .nil store, fun _ _ => rfl, fun _ rely => Agreement.Starts.nil Benign rely.inv⟩

/-- Recording a row. -/
theorem add (due : Due C law point) {row : S.Write} {next : Law S}
    (lawful : ∀ later, C.Rely point.held point.store later →
      law point.held (point.log ++ point.pending) later →
        next point.held (point.log ++ (point.pending ++ [row])) later) :
    Due C next { point with pending := point.pending ++ [row] } :=
  ⟨due.inv, due.covered, due.accepted, fun _ rely => lawful _ rely (due.law _ rely)⟩

variable (Benign : S.Write → Prop) [tolerates : law.Tolerates Benign]

include tolerates

/-- Further locks do not break the law. -/
theorem acquire (due : Due C law point) (more : List (Held S)) :
    Due C law { point with held := point.held ++ more } where
  inv := due.inv
  covered := Agreement.Guarded.acquire due.covered more
  accepted _ rely := due.accepted _ (rely.mono (List.subset_append_left _ _))
  law _ rely := tolerates.held (List.subset_append_left _ _)
    (due.law _ (rely.mono (List.subset_append_left _ _)))

omit tolerates in
/-- A write that passed its checks passes them until the commit. -/
theorem accepts (due : Due C law point) {statement : S.Write}
    (accepted : S.accepts statement point.view = true) {later : S.Store}
    (rely : C.Rely (point.held ++ Held.ofWrite statement point.view) point.store later) :
    acceptsAll (point.log ++ [statement]) later = true := by
  rw [acceptsAll_append, due.accepted _ (rely.mono (List.subset_append_left _ _)), acceptsAll_cons,
    due.covered.accepts_later accepted rely]
  rfl

/-- Sending the first recorded row. -/
theorem send {row : S.Write} {rows : List S.Write} {held : List (Held S)} {log : List S.Write}
    {store : S.Store} (due : Due C law ⟨row :: rows, held, log, store⟩)
    (accepted : S.accepts row (replay log store) = true) :
    Due C law ⟨rows, held ++ Held.ofWrite row (replay log store), log ++ [row], store⟩ where
  inv := due.inv
  covered := Agreement.Guarded.write due.covered row
  accepted _ rely := due.accepts accepted rely
  law _ rely := by
    have kept := due.law _ (rely.mono (List.subset_append_left _ _))
    have more := tolerates.held
      (List.subset_append_left held (Held.ofWrite row (replay log store))) kept
    simpa using more

/-- Flushing everything recorded, or starting over. -/
theorem flushAll (rows : List S.Write) {held : List (Held S)} {log : List S.Write}
    {store : S.Store} (due : Due C law ⟨rows, held, log, store⟩) :
    C.wp (Orm.flushAll rows) (fun done held log store =>
      (done = true → Due C law ⟨[], held, log, store⟩) ∧
        (done = false → held = [] ∧ log = [] ∧ C.inv store)) held log store := by
  induction rows generalizing held log store with
  | nil => exact ⟨fun _ => due, by simp⟩
  | cons row rows inductionHypothesis =>
      intro later rely
      have moved := due.rely rely
      exact ⟨fun accepted => inductionHypothesis (moved.send Benign accepted),
        fun _ _ rely' => ⟨by simp, fun _ => ⟨rfl, rfl, rely'.inv⟩⟩⟩

variable {Benign}

/-- Recording a benign row. -/
theorem record (due : Due C law point) {row : S.Write} (benign : Benign row) :
    Due C law { point with pending := point.pending ++ [row] } :=
  due.add fun later _ kept => by
    rw [← List.append_nil (point.log ++ point.pending)] at kept
    have recorded := tolerates.benign benign kept
    rwa [List.append_assoc] at recorded

/-- A benign statement sent at once. -/
theorem write (due : Due C law point) {statement : S.Write} (benign : Benign statement)
    (accepted : S.accepts statement point.view = true) :
    Due C law { point with
      held := point.held ++ Held.ofWrite statement point.view
      log := point.log ++ [statement] } where
  inv := due.inv
  covered := Agreement.Guarded.write due.covered statement
  accepted _ rely := due.accepts accepted rely
  law _ rely := by
    have kept := due.law _ (rely.mono (List.subset_append_left _ _))
    have more := tolerates.held
      (List.subset_append_left point.held (Held.ofWrite statement point.view)) kept
    have written := tolerates.benign benign more
    rwa [← List.singleton_append, ← List.append_assoc] at written

end Due

end

variable {ε : Type}

/-- Programs that sustain a law, whether they return or raise. The benign writes only say how
instances are found. -/
class Sustains (C : Agreement S) (_ : S.Write → Prop) (law : Law S) (program : Orm S ε α) :
    Prop where
  sustains : ∀ point, Due C law point → program.wp C (fun _ later => Due C law later) point

/-- A program that sustains a law, at a moment that keeps it. -/
theorem Orm.wp_sustains {C : Agreement S} (Benign : S.Write → Prop) {law : Law S}
    (program : Orm S ε α) [kept : Sustains C Benign law program] {point : Point S}
    (due : Due C law point) : program.wp C (fun _ later => Due C law later) point :=
  kept.sustains point due

/-- Sessions of programs that sustain a law meet the agreement. -/
theorem Sustains.meets (C : Agreement S) (Benign : S.Write → Prop) (law : Law S)
    [C.Sanctions Benign law] (program : Orm S ε α)
    [sustained : Sustains C Benign law program] : C.Meets program.session :=
  C.meets_session fun _ invariant =>
    Orm.wp_mono C (sustained.sustains _ (.fresh Benign invariant)) fun _ _ _ => trivial

namespace Sustains

variable {C : Agreement S} {Benign : S.Write → Prop} {law : Law S}

instance pure (value : α) : Sustains C Benign law (Pure.pure value : Orm S ε α) where
  sustains _ due := due

instance throw (exception : ε) :
    Sustains C Benign law (MonadExcept.throw exception : Orm S ε α) where
  sustains _ due := due

instance bind (program : Orm S ε α) (rest : α → Orm S ε β)
    [first : Sustains C Benign law program] [second : ∀ value, Sustains C Benign law (rest value)] :
    Sustains C Benign law (program >>= rest) where
  sustains point due := by
    rw [Orm.wp_bind]
    refine Orm.wp_mono C (first.sustains point due) fun result later kept => ?_
    cases result with
    | ok value => exact (second value).sustains later kept
    | error exception => exact kept

/-- One step of a sequence, whose rest needs an argument of its own. -/
theorem andThen {program : Orm S ε α} {rest : α → Orm S ε β} [Sustains C Benign law program]
    (second : ∀ value, Sustains C Benign law (rest value)) :
    Sustains C Benign law (program >>= rest) :=
  bind program rest

instance tryCatch (program : Orm S ε α) (handler : ε → Orm S ε α)
    [guarded : Sustains C Benign law program]
    [handled : ∀ exception, Sustains C Benign law (handler exception)] :
    Sustains C Benign law (MonadExcept.tryCatch program handler) where
  sustains point due := by
    change Orm.wp C (tryCatchThe ε program handler) _ _
    refine (Orm.wp_tryCatch C program handler).mpr ?_
    refine Orm.wp_mono C (guarded.sustains point due) fun result later kept => ?_
    cases result with
    | ok value => exact kept
    | error exception => exact (handled exception).sustains later kept

instance select (query : S.Store → α) :
    Sustains C Benign law (Orm.select query : Orm S ε α) where
  sustains _ due := fun _ rely => due.rely rely

instance recorded :
    Sustains (α := no_index (List S.Write)) C Benign law (Orm.recorded : Orm S ε _) where
  sustains _ due := due

instance ask (query : S.Query) [asked : C.Asks query] :
    Sustains (α := no_index (S.Answer query)) C Benign law (Orm.ask query : Orm S ε _) where
  sustains _ due := ⟨asked.asks, fun _ => due⟩

instance require (condition : Prop) [Decidable condition] (exception : ε) :
    Sustains C Benign law (Orm.require condition exception : Orm S ε Unit) := by
  unfold Orm.require
  split <;> infer_instance

instance found (value : Option α) (exception : ε) :
    Sustains C Benign law (Orm.found value exception : Orm S ε α) := by
  unfold Orm.found
  split <;> infer_instance

instance attempt (value : Except ε α) :
    Sustains C Benign law (Orm.attempt value : Orm S ε α) := by
  unfold Orm.attempt
  split <;> infer_instance

instance branch (value : Option α) (absent : Orm S ε β) (present : α → Orm S ε β)
    [Sustains C Benign law absent] [∀ content, Sustains C Benign law (present content)] :
    Sustains C Benign law (Orm.branch value absent present) := by
  unfold Orm.branch
  split <;> infer_instance

instance when (condition : Prop) [Decidable condition] (program : Orm S ε Unit)
    [Sustains C Benign law program] : Sustains C Benign law (Orm.when condition program) := by
  unfold Orm.when
  split <;> infer_instance

instance ite (condition : Prop) [Decidable condition] (first second : Orm S ε α)
    [Sustains C Benign law first] [Sustains C Benign law second] :
    Sustains C Benign law (if condition then first else second) := by
  split <;> infer_instance

instance forEach (items : List α) (body : α → Orm S ε Unit)
    [kept : ∀ item, Sustains C Benign law (body item)] :
    Sustains C Benign law (Orm.forEach items body) := by
  induction items with
  | nil => exact pure ()
  | cons item items inductionHypothesis =>
      exact bind (body item) fun _ => Orm.forEach items body

section

variable [law.Tolerates Benign]

/-- Recording a benign row. -/
theorem add {row : S.Write} (benign : Benign row) :
    Sustains C Benign law (Orm.add row : Orm S ε Unit) where
  sustains _ due := due.record benign

/-- Sending a benign statement. -/
theorem execute {statement : S.Write} (benign : Benign statement) :
    Sustains C Benign law (Orm.execute statement : Orm S ε Bool) where
  sustains _ due := fun _ rely =>
    ⟨fun accepted => (due.rely rely).write benign accepted, fun _ => due.rely rely⟩

instance lock (resources : List S.Lock) :
    Sustains C Benign law (Orm.lock resources : Orm S ε Unit) where
  sustains _ due := fun _ rely => (due.rely rely).acquire Benign _

end

section

variable [C.Starts Benign law]

instance rollback : Sustains C Benign law (Orm.rollback : Orm S ε Unit) where
  sustains _ _ := fun _ rely => .fresh Benign rely.inv

instance flush [DatabaseFailure ε] : Sustains C Benign law (Orm.flush : Orm S ε Unit) where
  sustains point due := by
    unfold Orm.wp Orm.flush
    rw [Agreement.wp_bind]
    refine C.wp_mono ?_ (Due.flushAll Benign point.pending due)
    rintro done held log store ⟨passed, failed⟩
    cases done with
    | true => exact passed rfl
    | false =>
        obtain ⟨rfl, rfl, invariant⟩ := failed rfl
        exact .fresh Benign invariant

end

instance commit [C.Sanctions Benign law] [DatabaseFailure ε] :
    Sustains C Benign law (Orm.commit : Orm S ε Unit) where
  sustains point due := by
    unfold Orm.wp Orm.commit
    rw [Agreement.wp_bind]
    refine C.wp_mono ?_ (Due.flushAll Benign point.pending due)
    rintro done held log store ⟨passed, failed⟩
    cases done with
    | false =>
        obtain ⟨rfl, rfl, invariant⟩ := failed rfl
        exact .fresh Benign invariant
    | true =>
        intro later rely
        have flushed := passed rfl
        have lawful := flushed.law later rely
        rw [List.append_nil] at lawful
        have committed := Agreement.Sanctions.commit Benign rely.inv (flushed.accepted later rely)
          lawful
        exact ⟨committed, fun permitted =>
          .fresh Benign (C.inv_replay rely.inv committed permitted)⟩

end Sustains

/-- A flush of rows that keep a law only while they are not lost: it goes on under the same
law, or raises after starting over. -/
theorem Orm.wp_flush_due {C : Agreement S} {law : Law S} (Benign : S.Write → Prop)
    [law.Tolerates Benign] [DatabaseFailure ε] {point : Point S} (due : Due C law point) :
    (Orm.flush : Orm S ε Unit).wp C (fun result later =>
      match result with
      | .ok _ => Due C law later ∧ later.pending = []
      | .error _ => C.inv later.store ∧ later = ⟨[], [], [], later.store⟩) point := by
  unfold Orm.wp Orm.flush
  rw [Agreement.wp_bind]
  refine C.wp_mono ?_ (Due.flushAll Benign point.pending due)
  rintro done held log store ⟨passed, failed⟩
  cases done with
  | true => exact ⟨passed rfl, rfl⟩
  | false =>
      obtain ⟨rfl, rfl, invariant⟩ := failed rfl
      exact ⟨invariant, rfl⟩

/-! ## Marked statements -/

/-- A law that further locks and further statements do not break. -/
class Law.Steady (law : Law S) : Prop where
  grow : ∀ {held more log longer store}, held ⊆ more → log.Sublist longer →
    law held log store → law more longer store

/-- Both laws at once. -/
def Law.both (first second : Law S) : Law S :=
  fun held log store => first held log store ∧ second held log store

/-- A law about the committed store only. -/
def Law.fact (holds : S.Store → Prop) : Law S := fun _ _ store => holds store

/-- A law that says in addition which marked statements were written or recorded. -/
def Law.marks (marked : S.Write → Bool) (law : Law S) (rows : List S.Write) : Law S :=
  fun held log store => law held log store ∧ log.filter marked = rows

instance (first second : Law S) [first.Steady] [second.Steady] : (first.both second).Steady where
  grow held log holds := ⟨Law.Steady.grow held log holds.1, Law.Steady.grow held log holds.2⟩

instance (holds : S.Store → Prop) : (Law.fact holds).Steady where
  grow _ _ fact := fact

section

variable {C : Agreement S} {marked : S.Write → Bool} {law : Law S} {point : Point S}

instance (rows : List S.Write) [law.Steady] :
    (law.marks marked rows).Tolerates (fun statement => marked statement = false) where
  held more holds := ⟨Law.Steady.grow more (List.Sublist.refl _) holds.1, holds.2⟩
  benign {held first last statement store} unmarked holds := by
    refine ⟨Law.Steady.grow (List.Subset.refl _) ?_ holds.1, ?_⟩
    · exact List.Sublist.append_left (List.sublist_cons_self _ _) _
    · rw [← holds.2, List.filter_append, List.filter_append,
        List.filter_cons_of_neg (by simp [unmarked])]

/-- Recording a marked statement. -/
theorem Due.mark [law.Steady] {rows : List S.Write} (due : Due C (law.marks marked rows) point)
    {row : S.Write} (isMarked : marked row = true) :
    Due C (law.marks marked (rows ++ [row])) { point with pending := point.pending ++ [row] } :=
  due.add fun _ _ kept => by
    refine ⟨Law.Steady.grow (List.Subset.refl _) ?_ kept.1, ?_⟩
    · rw [← List.append_assoc]
      exact List.sublist_append_left _ _
    · rw [← List.append_assoc, List.filter_append, kept.2, List.filter_cons_of_pos isMarked]
      rfl

/-- One more law that is kept from here on. -/
theorem Due.also {more : Law S} {rows : List S.Write} (due : Due C (law.marks marked rows) point)
    (holds : ∀ later, C.Rely point.held point.store later →
      more point.held (point.log ++ point.pending) later) :
    Due C ((law.both more).marks marked rows) point :=
  ⟨due.inv, due.covered, due.accepted, fun later rely =>
    ⟨⟨(due.law later rely).1, holds later rely⟩, (due.law later rely).2⟩⟩

end

end ReadCommitted
