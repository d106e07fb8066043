import ControlPlane.Library.RelyGuarantee
import ControlPlane.Library.UnitOfWork

/-!
# Reasoning about unit-of-work sessions

The weakest precondition of the rely-guarantee logic, lifted to session
programs with recorded rows and exceptions, with one rule for each statement.

A session is *ready* when it could commit now, whatever the others commit
before, and has recorded only rows that keep it so. Programs that keep a
session ready are closed under sequencing, handlers, branching and loops, which
is stated with a class so that straight-line programs need no proof of their
own.
-/

namespace ReadCommitted

variable {S : Schema}

/-- A moment in the life of a session. -/
structure Point (S : Schema) where
  /-- Rows recorded but not flushed. -/
  pending : List S.Write
  /-- Locks held. -/
  held : List (Held S)
  /-- Uncommitted writes. -/
  log : List S.Write
  /-- The committed store. -/
  store : S.Store

namespace Point

/-- What a query of the session sees. -/
def view (point : Point S) : S.Store := replay point.log point.store

/-- The session holds the locks of everything it wrote. -/
def Covered (point : Point S) : Prop := Agreement.Guarded point.held point.log point.store

/-- What a session sees of its locked rows does not change under its feet. -/
theorem Covered.content_view
    {C : Agreement S} {point : Point S} (covered : point.Covered)
    {later : S.Store} (rely : C.Rely point.held point.store later)
    {lock : Held S} (member : lock ∈ point.held) (stable : lock.mode ≠ .intent) :
    S.content lock.resource (replay point.log later) = S.content lock.resource point.view :=
  (content_replay_congr (covered.agree rely.locked) (rely.locked lock member stable)).symm

/-- Commits of other sessions leave a session covered. -/
theorem Covered.rely {C : Agreement S} {point : Point S} (covered : point.Covered)
    {later : S.Store} (rely : C.Rely point.held point.store later) :
    Covered { point with store := later } :=
  Agreement.Guarded.rely covered rely.locked

/-- A write that passed its checks passes them until the session commits. -/
theorem Covered.accepts_later {C : Agreement S} {point : Point S} (covered : point.Covered)
    {statement : S.Write} (accepted : S.accepts statement point.view = true)
    {later : S.Store}
    (rely : C.Rely (point.held ++ Held.ofWrite statement point.view)
      point.store later) :
    S.accepts statement (replay point.log later) = true := by
  have wider : Point.Covered
      { point with held := point.held ++ Held.ofWrite statement point.view } :=
    Agreement.Guarded.acquire covered _
  have agree : ∀ lock ∈ Held.ofWrite statement point.view, lock.mode ≠ .intent →
      S.content lock.resource (replay point.log later) =
        S.content lock.resource point.view := fun lock member =>
    wider.content_view rely (List.mem_append_right _ member)
  rw [← @Schema.accepts_congr S statement point.view _ ?_ ?_, accepted]
  · intro used member
    refine (agree ⟨used, .exclusive, point.view⟩ ?_ (by simp)).symm
    simp [Held.ofWrite, Held.forUpdate, member]
  · intro used member
    refine (agree ⟨used, .shared, point.view⟩ ?_ (by simp)).symm
    simp [Held.ofWrite, member]

end Point

namespace Orm

variable {ε : Type} (C : Agreement S)

/-- Weakest precondition of a session program. -/
def wp (program : Orm S ε α) (post : Except ε α → Point S → Prop) (point : Point S) : Prop :=
  C.wp (program point.pending)
    (fun result held log store => post result.1 ⟨result.2, held, log, store⟩)
    point.held point.log point.store

variable {post : Except ε α → Point S → Prop} {point : Point S}

@[simp] theorem wp_pure (value : α) :
    wp C (pure value) post point ↔ post (.ok value) point := Iff.rfl

@[simp] theorem wp_throw (exception : ε) :
    wp C (throw exception : Orm S ε α) post point ↔ post (.error exception) point := Iff.rfl

/-- Weakening the postcondition. -/
theorem wp_mono {program : Orm S ε α} {weaker : Except ε α → Point S → Prop}
    (holds : wp C program post point)
    (implies : ∀ result later, post result later → weaker result later) :
    wp C program weaker point :=
  C.wp_mono (fun _ _ _ _ => implies _ _) holds

/-- A sequence establishes what its second part establishes, or raises. -/
theorem wp_bind (program : Orm S ε α) (rest : α → Orm S ε β)
    {post : Except ε β → Point S → Prop} :
    wp C (program >>= rest) post point ↔
      wp C program (fun result later =>
        match result with
        | .ok value => wp C (rest value) post later
        | .error exception => post (.error exception) later) point := by
  unfold wp
  change C.wp (Prog.bind _ _) _ _ _ _ ↔ _
  rw [Agreement.wp_bind]
  constructor <;>
  · refine C.wp_mono fun result held log store holds => ?_
    obtain ⟨result, pending⟩ := result
    cases result <;> exact holds

/-- Sequencing with an intermediate assertion. -/
theorem wp_seq {program : Orm S ε α} {rest : α → Orm S ε β}
    {middle : Except ε α → Point S → Prop} {post : Except ε β → Point S → Prop}
    (first : wp C program middle point)
    (returned : ∀ value later, middle (.ok value) later → wp C (rest value) post later)
    (raised : ∀ exception later, middle (.error exception) later →
      post (.error exception) later) :
    wp C (program >>= rest) post point := by
  rw [wp_bind]
  refine wp_mono C first fun result later holds => ?_
  cases result with
  | ok value => exact returned value later holds
  | error exception => exact raised exception later holds

/-- A guarded program establishes its postcondition, or its handler does. -/
theorem wp_tryCatch (program : Orm S ε α) (handler : ε → Orm S ε α) :
    wp C (tryCatch program handler) post point ↔
      wp C program (fun result later =>
        match result with
        | .ok value => post (.ok value) later
        | .error exception => wp C (handler exception) post later) point := by
  unfold wp
  change C.wp (Prog.bind _ _) _ _ _ _ ↔ _
  rw [Agreement.wp_bind]
  constructor <;>
  · refine C.wp_mono fun result held log store holds => ?_
    obtain ⟨result, pending⟩ := result
    cases result <;> exact holds

@[simp] theorem wp_select (query : S.Store → α) :
    wp C (select query) post point ↔
      ∀ later, C.Rely point.held point.store later →
        post (.ok (query (replay point.log later))) { point with store := later } := Iff.rfl

@[simp] theorem wp_recorded {post : Except ε (List S.Write) → Point S → Prop} :
    wp C recorded post point ↔ post (.ok point.pending) point := Iff.rfl

@[simp] theorem wp_lock (resources : List S.Lock) {post : Except ε Unit → Point S → Prop} :
    wp C (lock resources) post point ↔
      ∀ later, C.Rely point.held point.store later →
        post (.ok ()) { point with
          held := point.held ++ Held.forUpdate resources (replay point.log later)
          store := later } := Iff.rfl

@[simp] theorem wp_execute (statement : S.Write) {post : Except ε Bool → Point S → Prop} :
    wp C (execute statement) post point ↔
      ∀ later, C.Rely point.held point.store later →
        (S.accepts statement (replay point.log later) = true →
          post (.ok true) { point with
            held := point.held ++ Held.ofWrite statement (replay point.log later)
            log := point.log ++ [statement]
            store := later }) ∧
        (S.accepts statement (replay point.log later) = false →
          post (.ok false) { point with store := later }) := Iff.rfl

@[simp] theorem wp_add (row : S.Write) {post : Except ε Unit → Point S → Prop} :
    wp C (add row) post point ↔
      post (.ok ()) { point with pending := point.pending ++ [row] } := Iff.rfl

@[simp] theorem wp_rollback {post : Except ε Unit → Point S → Prop} :
    wp C rollback post point ↔
      ∀ later, C.Rely point.held point.store later → post (.ok ()) ⟨[], [], [], later⟩ :=
  Iff.rfl

@[simp] theorem wp_ask (query : S.Query) {post : Except ε (S.Answer query) → Point S → Prop} :
    wp C (ask query) post point ↔ C.asks query ∧ ∀ answer, post (.ok answer) point := Iff.rfl

theorem wp_require (condition : Prop) [Decidable condition] (exception : ε)
    {post : Except ε Unit → Point S → Prop} :
    wp C (require condition exception) post point ↔
      (condition → post (.ok ()) point) ∧ (¬condition → post (.error exception) point) := by
  unfold require
  split <;> simp_all

theorem wp_require_bind (condition : Prop) [Decidable condition] (exception : ε)
    (rest : Unit → Orm S ε β) {post : Except ε β → Point S → Prop} :
    wp C (require condition exception >>= rest) post point ↔
      (condition → wp C (rest ()) post point) ∧ (¬condition → post (.error exception) point) := by
  rw [wp_bind, wp_require]

theorem wp_found_bind (value : Option α) (exception : ε) (rest : α → Orm S ε β)
    {post : Except ε β → Point S → Prop} :
    wp C (found value exception >>= rest) post point ↔
      (∀ content, value = some content → wp C (rest content) post point) ∧
        (value = none → post (.error exception) point) := by
  cases value <;> simp [found, wp_bind]

theorem wp_found (value : Option α) (exception : ε) :
    wp C (found value exception) post point ↔
      (∀ content, value = some content → post (.ok content) point) ∧
        (value = none → post (.error exception) point) := by
  cases value <;> simp [found]

theorem wp_branch (value : Option α) (absent : Orm S ε β) (present : α → Orm S ε β)
    {post : Except ε β → Point S → Prop} :
    wp C (branch value absent present) post point ↔
      (value = none → wp C absent post point) ∧
        ∀ content, value = some content → wp C (present content) post point := by
  cases value <;> simp [branch]

theorem wp_when (condition : Prop) [Decidable condition] (program : Orm S ε Unit)
    {post : Except ε Unit → Point S → Prop} :
    wp C (when condition program) post point ↔
      (condition → wp C program post point) ∧ (¬condition → post (.ok ()) point) := by
  unfold when
  split <;> simp_all

end Orm

/-- A session program meets an agreement when its whole session does. -/
theorem Agreement.meets_session {C : Agreement S} {ε α : Type} {program : Orm S ε α}
    (conforms : ∀ store, C.inv store →
      program.wp C (fun _ _ => True) ⟨[], [], [], store⟩) :
    C.Meets program.session := by
  intro store invariant
  rw [Orm.session, Agreement.wp_bind]
  exact C.wp_mono (fun _ _ _ _ _ => trivial) (conforms store invariant)

/-! ## Ready sessions -/

/-- The writes that may be added to any transaction without breaking an agreement. -/
class Agreement.Admits (C : Agreement S) (Benign : S.Write → Prop) : Prop where
  commit_nil : ∀ {store}, C.inv store → C.commit [] [] store
  commit_held : ∀ {held more log store}, C.inv store → held ⊆ more →
    C.commit held log store → C.commit more log store
  commit_write : ∀ {held log store write}, C.inv store → Benign write →
    C.commit held log store → S.accepts write (replay log store) = true →
    C.commit held (log ++ [write]) store

/-- A question that an agreement permits. -/
class Agreement.Asks (C : Agreement S) (query : S.Query) : Prop where
  asks : C.asks query

section

variable (C : Agreement S) (Benign : S.Write → Prop)

/-- The session could commit now, and has recorded only benign rows. -/
structure Ready (point : Point S) : Prop where
  inv : C.inv point.store
  covered : point.Covered
  commit : ∀ later, C.Rely point.held point.store later → C.commit point.held point.log later
  benign : ∀ row ∈ point.pending, Benign row

variable {C Benign}

namespace Ready

variable {point : Point S}

/-- Commits of other sessions leave a session ready. -/
theorem rely (ready : Ready C Benign point) {later : S.Store}
    (moved : C.Rely point.held point.store later) :
    Ready C Benign { point with store := later } :=
  ⟨moved.inv, ready.covered.rely moved, fun _ more => ready.commit _ (moved.trans more),
    ready.benign⟩

/-- What is recorded does not matter beyond being benign. -/
theorem record (ready : Ready C Benign point) {pending : List S.Write}
    (benign : ∀ row ∈ pending, Benign row) :
    Ready C Benign { point with pending := pending } :=
  ⟨ready.inv, ready.covered, ready.commit, benign⟩

variable [C.Admits Benign]

/-- A session without writes is ready. -/
theorem fresh {store : S.Store} (invariant : C.inv store) :
    Ready C Benign ⟨[], [], [], store⟩ :=
  ⟨invariant, .nil store, fun _ rely => Agreement.Admits.commit_nil Benign rely.inv, by simp⟩

/-- Further locks leave a session ready. -/
theorem acquire (ready : Ready C Benign point) (more : List (Held S)) :
    Ready C Benign { point with held := point.held ++ more } where
  inv := ready.inv
  covered := Agreement.Guarded.acquire ready.covered more
  commit := by
    intro later rely
    have committed := ready.commit later (rely.mono (List.subset_append_left _ _))
    exact Agreement.Admits.commit_held Benign rely.inv (List.subset_append_left _ _) committed
  benign := ready.benign

/-- A benign write that passed its checks leaves the session ready. -/
theorem write (ready : Ready C Benign point) {statement : S.Write}
    (benign : Benign statement) (accepted : S.accepts statement point.view = true) :
    Ready C Benign { point with
      held := point.held ++ Held.ofWrite statement point.view
      log := point.log ++ [statement] } where
  inv := ready.inv
  covered := Agreement.Guarded.write ready.covered statement
  commit := by
    intro later rely
    have committed := ready.commit later (rely.mono (List.subset_append_left _ _))
    exact Agreement.Admits.commit_write rely.inv benign
      (Agreement.Admits.commit_held Benign rely.inv (List.subset_append_left _ _) committed)
      (ready.covered.accepts_later accepted rely)
  benign := ready.benign

/-- Flushing benign rows leaves the session ready. -/
theorem flushAll (rows : List S.Write) (pending : List S.Write) {held log store}
    (ready : Ready C Benign ⟨pending, held, log, store⟩)
    (benign : ∀ row ∈ rows, Benign row) :
    C.wp (Orm.flushAll rows)
      (fun _ held log store => Ready C Benign ⟨pending, held, log, store⟩) held log store := by
  induction rows generalizing held log store with
  | nil => exact ready
  | cons row rows inductionHypothesis =>
      intro later rely
      have moved := ready.rely rely
      refine ⟨fun accepted => ?_, fun _ later' rely' => ?_⟩
      · exact inductionHypothesis (moved.write (benign row List.mem_cons_self) accepted)
          fun other member => benign other (List.mem_cons_of_mem _ member)
      · exact (fresh rely'.inv).record ready.benign

end Ready

/-- When all writes are benign and all questions permitted, a ready session meets the agreement
whatever it runs. -/
theorem Ready.wp {C : Agreement S} [C.Admits fun _ => True] [asked : ∀ query, C.Asks query]
    (program : Prog S α)
    {held : List (Held S)} {log : List S.Write} {store : S.Store}
    (ready : Ready C (fun _ => True) ⟨[], held, log, store⟩) :
    C.wp program (fun _ _ _ _ => True) held log store := by
  induction program generalizing held log store with
  | ret value => trivial
  | read next inductionHypothesis =>
      exact fun later rely => inductionHypothesis _ (ready.rely rely)
  | lock resources next inductionHypothesis =>
      exact fun later rely => inductionHypothesis ((ready.rely rely).acquire _)
  | write statement next inductionHypothesis =>
      exact fun later rely =>
        ⟨fun accepted => inductionHypothesis true ((ready.rely rely).write trivial accepted),
          fun _ => inductionHypothesis false (ready.rely rely)⟩
  | commit next inductionHypothesis =>
      exact fun later rely =>
        ⟨ready.commit later rely, fun permitted => inductionHypothesis
          (.fresh (C.inv_replay rely.inv (ready.commit later rely) permitted))⟩
  | rollback next inductionHypothesis =>
      exact fun later rely => inductionHypothesis (.fresh rely.inv)
  | ask query next inductionHypothesis =>
      exact ⟨(asked query).asks, fun answer => inductionHypothesis answer ready⟩

/-- When all writes are benign and all questions permitted, every program meets the agreement. -/
theorem Agreement.meets_of_admits {C : Agreement S} [C.Admits fun _ => True]
    [∀ query, C.Asks query] {ρ : Type}
    (program : Prog S ρ) : C.Meets program :=
  fun _ invariant => (Ready.fresh invariant).wp program

/-- A session in the middle of writes that only together respect the agreement. -/
structure Midway (C : Agreement S) (base : Point S) (writes : List S.Write) (point : Point S) :
    Prop where
  inv : C.inv point.store
  covered : point.Covered
  /-- What the others committed since the base point. -/
  rely : C.Rely base.held base.store point.store
  held : base.held ⊆ point.held
  log : point.log = base.log ++ writes
  accepted : ∀ later, C.Rely point.held point.store later → acceptsAll point.log later = true

namespace Midway

variable {base point : Point S} {writes : List S.Write}

/-- A ready session may begin. -/
theorem start (ready : Ready C Benign base)
    (accepted : ∀ later, C.Rely base.held base.store later → acceptsAll base.log later = true) :
    Midway C base [] base :=
  ⟨ready.inv, ready.covered, .refl ready.inv, List.Subset.refl _, (List.append_nil _).symm,
    accepted⟩

/-- Commits of other sessions do not disturb it. -/
theorem later (midway : Midway C base writes point) {later : S.Store}
    (moved : C.Rely point.held point.store later) :
    Midway C base writes { point with store := later } :=
  ⟨moved.inv, midway.covered.rely moved, midway.rely.trans (moved.mono midway.held), midway.held,
    midway.log, fun _ more => midway.accepted _ (moved.trans more)⟩

/-- One more write that passed its checks. -/
theorem write (midway : Midway C base writes point) {statement : S.Write}
    (accepted : S.accepts statement point.view = true) :
    Midway C base (writes ++ [statement]) { point with
      held := point.held ++ Held.ofWrite statement point.view
      log := point.log ++ [statement] } where
  inv := midway.inv
  covered := Agreement.Guarded.write midway.covered statement
  rely := midway.rely
  held := List.Subset.trans midway.held (List.subset_append_left _ _)
  log := by rw [midway.log, List.append_assoc]
  accepted := by
    intro later rely
    have before := midway.accepted later (rely.mono (List.subset_append_left _ _))
    have last : S.accepts statement (replay point.log later) = true :=
      midway.covered.accepts_later accepted rely
    rw [acceptsAll_append, before, acceptsAll_cons, last]
    rfl

/-- What is recorded does not matter. -/
theorem record (midway : Midway C base writes point) (pending : List S.Write) :
    Midway C base writes { point with pending := pending } :=
  ⟨midway.inv, midway.covered, midway.rely, midway.held, midway.log, midway.accepted⟩

/-- Flushing the remaining writes completes the group, or starts over. -/
theorem flushAll (Benign : S.Write → Prop) [C.Admits Benign] (rows pending : List S.Write)
    {held log store}
    (midway : Midway C base writes ⟨pending, held, log, store⟩) :
    C.wp (Orm.flushAll rows) (fun done held log store =>
      (done = true → Midway C base (writes ++ rows) ⟨pending, held, log, store⟩) ∧
        (done = false → Ready C Benign ⟨[], held, log, store⟩)) held log store := by
  induction rows generalizing held log store writes with
  | nil => exact ⟨fun _ => by rwa [List.append_nil], by simp⟩
  | cons row rows inductionHypothesis =>
      intro later rely
      have moved := midway.later rely
      refine ⟨fun accepted => ?_, fun _ later' rely' => ⟨by simp, fun _ => .fresh rely'.inv⟩⟩
      rw [← List.singleton_append, ← List.append_assoc]
      exact inductionHypothesis (moved.write accepted)

end Midway

variable (C Benign) {ε : Type}

/-- Programs that keep a session ready, whether they return or raise. -/
class Keeps (program : Orm S ε α) : Prop where
  keeps : ∀ point, Ready C Benign point →
    program.wp C (fun _ later => Ready C Benign later) point

/-- Sessions of ready programs meet the agreement. -/
theorem Keeps.meets [C.Admits Benign] (program : Orm S ε α) [kept : Keeps C Benign program] :
    C.Meets program.session :=
  C.meets_session fun _ invariant =>
    Orm.wp_mono C (kept.keeps _ (.fresh invariant)) fun _ _ _ => trivial

namespace Keeps

variable {C Benign}

instance pure (value : α) : Keeps C Benign (Pure.pure value : Orm S ε α) where
  keeps _ ready := ready

instance throw (exception : ε) : Keeps C Benign (MonadExcept.throw exception : Orm S ε α) where
  keeps _ ready := ready

instance bind (program : Orm S ε α) (rest : α → Orm S ε β)
    [first : Keeps C Benign program] [second : ∀ value, Keeps C Benign (rest value)] :
    Keeps C Benign (program >>= rest) where
  keeps point ready := by
    rw [Orm.wp_bind]
    refine Orm.wp_mono C (first.keeps point ready) fun result later kept => ?_
    cases result with
    | ok value => exact (second value).keeps later kept
    | error exception => exact kept

/-- One step of a sequence, whose rest needs an argument of its own. -/
theorem andThen {program : Orm S ε α} {rest : α → Orm S ε β} [Keeps C Benign program]
    (second : ∀ value, Keeps C Benign (rest value)) : Keeps C Benign (program >>= rest) :=
  bind program rest

instance tryCatch (program : Orm S ε α) (handler : ε → Orm S ε α)
    [guarded : Keeps C Benign program] [handled : ∀ exception, Keeps C Benign (handler exception)] :
    Keeps C Benign (MonadExcept.tryCatch program handler) where
  keeps point ready := by
    change Orm.wp C (tryCatchThe ε program handler) _ _
    refine (Orm.wp_tryCatch C program handler).mpr ?_
    refine Orm.wp_mono C (guarded.keeps point ready) fun result later kept => ?_
    cases result with
    | ok value => exact kept
    | error exception => exact (handled exception).keeps later kept

instance select (query : S.Store → α) : Keeps C Benign (Orm.select query : Orm S ε α) where
  keeps _ ready := fun _ rely => ready.rely rely

instance recorded :
    Keeps (α := no_index (List S.Write)) C Benign (Orm.recorded : Orm S ε _) where
  keeps _ ready := ready

instance ask (query : S.Query) [asked : C.Asks query] :
    Keeps (α := no_index (S.Answer query)) C Benign (Orm.ask query : Orm S ε _) where
  keeps _ ready := ⟨asked.asks, fun _ => ready⟩

instance require (condition : Prop) [Decidable condition] (exception : ε) :
    Keeps C Benign (Orm.require condition exception : Orm S ε Unit) := by
  unfold Orm.require
  split <;> infer_instance

instance found (value : Option α) (exception : ε) :
    Keeps C Benign (Orm.found value exception : Orm S ε α) := by
  unfold Orm.found
  split <;> infer_instance

instance attempt (value : Except ε α) :
    Keeps C Benign (Orm.attempt value : Orm S ε α) := by
  unfold Orm.attempt
  split <;> infer_instance

instance branch (value : Option α) (absent : Orm S ε β) (present : α → Orm S ε β)
    [Keeps C Benign absent] [∀ content, Keeps C Benign (present content)] :
    Keeps C Benign (Orm.branch value absent present) := by
  unfold Orm.branch
  split <;> infer_instance

instance when (condition : Prop) [Decidable condition] (program : Orm S ε Unit)
    [Keeps C Benign program] : Keeps C Benign (Orm.when condition program) := by
  unfold Orm.when
  split <;> infer_instance

instance ite (condition : Prop) [Decidable condition] (first second : Orm S ε α)
    [Keeps C Benign first] [Keeps C Benign second] :
    Keeps C Benign (if condition then first else second) := by
  split <;> infer_instance

instance forEach (items : List α) (body : α → Orm S ε Unit)
    [kept : ∀ item, Keeps C Benign (body item)] : Keeps C Benign (Orm.forEach items body) := by
  induction items with
  | nil => exact pure ()
  | cons item items inductionHypothesis =>
      exact bind (body item) fun _ => Orm.forEach items body

/-- Recording a benign row. -/
theorem add {row : S.Write} (benign : Benign row) :
    Keeps C Benign (Orm.add row : Orm S ε Unit) where
  keeps point ready := ready.record fun other member => by
    rcases List.mem_append.mp member with old | new
    · exact ready.benign other old
    · rw [List.mem_singleton.mp new]
      exact benign

variable [C.Admits Benign]

instance lock (resources : List S.Lock) :
    Keeps C Benign (Orm.lock resources : Orm S ε Unit) where
  keeps _ ready := fun _ rely => (ready.rely rely).acquire _

instance rollback : Keeps C Benign (Orm.rollback : Orm S ε Unit) where
  keeps _ _ := fun _ rely => .fresh rely.inv

/-- Sending a benign statement. -/
theorem execute {statement : S.Write} (benign : Benign statement) :
    Keeps C Benign (Orm.execute statement : Orm S ε Bool) where
  keeps _ ready := fun _ rely =>
    ⟨fun accepted => (ready.rely rely).write benign accepted, fun _ => ready.rely rely⟩

instance flush [DatabaseFailure ε] : Keeps C Benign (Orm.flush : Orm S ε Unit) where
  keeps point ready := by
    unfold Orm.wp Orm.flush
    rw [Agreement.wp_bind]
    have empty : Ready C Benign { point with pending := [] } := ready.record (by simp)
    refine C.wp_mono ?_ (empty.flushAll point.pending [] ready.benign)
    intro done held log store flushed
    cases done <;> exact flushed

instance commit [DatabaseFailure ε] : Keeps C Benign (Orm.commit : Orm S ε Unit) where
  keeps point ready := by
    unfold Orm.wp Orm.commit
    rw [Agreement.wp_bind]
    have empty : Ready C Benign { point with pending := [] } := ready.record (by simp)
    refine C.wp_mono ?_ (empty.flushAll point.pending [] ready.benign)
    intro done held log store flushed
    cases done with
    | false => exact flushed
    | true =>
        intro later rely
        have committed := flushed.commit later rely
        exact ⟨committed, fun permitted => .fresh (C.inv_replay rely.inv committed permitted)⟩

end Keeps

/-- Programs that keep a session ready and return values of a kind. -/
class Yields (Kind : outParam (α → Prop)) (program : Orm S ε α) : Prop where
  yields : ∀ point, Ready C Benign point →
    program.wp C (fun result later =>
      Ready C Benign later ∧ ∀ value, result = .ok value → Kind value) point

namespace Yields

variable {C Benign}

/-- What is done with a value may depend on its kind. -/
theorem bind {Kind : α → Prop} {program : Orm S ε α} {rest : α → Orm S ε β}
    [first : Yields C Benign Kind program] (second : ∀ value, Kind value →
      Keeps C Benign (rest value)) : Keeps C Benign (program >>= rest) where
  keeps point ready := by
    refine Orm.wp_seq C (first.yields point ready) ?_ (fun _ _ kept => kept.1)
    rintro value later ⟨kept, kind⟩
    exact (second value (kind value rfl)).keeps later kept

end Yields

end

end ReadCommitted
