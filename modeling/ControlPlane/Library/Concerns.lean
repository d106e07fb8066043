import ControlPlane.Library.Histories
import ControlPlane.Library.Upholding

/-!
# Concerns

A concern of a system is a part of its store about which transactions may write
a few things only: some statements touch it, and what a transaction writes with
such statements has to be lawful, given all that it writes and the store that it
commits to. A session settles a concern if it may commit whenever it returns.
-/

namespace ReadCommitted

variable {S : Schema}

/-! ## What sessions know -/

/-- The law of a session that has written nothing yet. -/
def Law.unwritten : Law S := fun _ log _ => log = []

instance (C : Agreement S) : C.Starts (fun _ => False) Law.unwritten where
  held _ nothing := nothing
  benign benign := benign.elim
  nil _ := rfl

/-- Nothing is asked of what a session writes. -/
def Law.anything : Law S := fun _ _ _ => True

instance (Benign : S.Write → Prop) : Law.anything.Tolerates Benign where
  held _ _ := trivial
  benign _ _ := trivial

instance (Benign : S.Write → Prop) (C : Agreement S) : C.Starts Benign Law.anything where
  nil _ := trivial

instance : (Law.anything : Law S).Steady where
  grow _ _ _ := trivial

/-- Whatever a session has written. -/
theorem Due.free {C : Agreement S} {law : Law S} {point : Point S} (due : Due C law point) :
    Due C Law.anything point :=
  due.weaken fun _ _ _ _ _ => trivial

/-- A statement is among those that a session has written or recorded. -/
def Law.records (statement : S.Write) : Law S := fun _ log _ => statement ∈ log

instance (statement : S.Write) : (Law.records statement).Steady where
  grow _ longer recorded := longer.subset recorded

/-- A session that records a statement has it on record. -/
theorem Due.noted {C : Agreement S} {base known : Law S} {point : Point S}
    (due : Due C (base.both known) point) (Benign : S.Write → Prop) [base.Tolerates Benign]
    [known.Tolerates Benign] (statement : S.Write) (benign : Benign statement) :
    Due C (base.both (known.both (Law.records statement)))
      { point with pending := point.pending ++ [statement] } := by
  have recorded := due.record benign
  refine ⟨recorded.inv, recorded.covered, recorded.accepted, fun later rely => ?_⟩
  obtain ⟨kept, knows⟩ := recorded.law later rely
  refine ⟨kept, knows, ?_⟩
  exact List.mem_append_right _ (List.mem_append_right _ (List.mem_singleton_self _))

/-! ## What a step is good for -/

section

variable {C : Agreement S} {base known : Law S} {point : Point S} {ε : Type}

/-- A step that returns lets the session know something about the value, and one that raises leaves
the basic law. -/
def Gains (C : Agreement S) (base : Law S) (gained : α → Law S) : Except ε α → Point S → Prop
  | .ok value, point => Due C (base.both (gained value)) point
  | .error _, point => Due C base point

/-- Steps one after the other. -/
theorem Orm.wp_gains_bind {program : Orm S ε α} {rest : α → Orm S ε β} {gained : α → Law S}
    {final : β → Law S} (first : program.wp C (Gains C base gained) point)
    (next : ∀ value later, Due C (base.both (gained value)) later →
      (rest value).wp C (Gains C base final) later) :
    (program >>= rest).wp C (Gains C base final) point :=
  Orm.wp_seq _ first next fun _ _ due => due

/-- A step that keeps what is known, and then others. -/
theorem Orm.wp_upholds_bind (Benign : S.Write → Prop) (program : Orm S ε α)
    [Upholds C Benign base known program] {rest : α → Orm S ε β} {final : β → Law S}
    (due : Due C (base.both known) point)
    (next : ∀ value later, Due C (base.both known) later →
      (rest value).wp C (Gains C base final) later) :
    (program >>= rest).wp C (Gains C base final) point :=
  Orm.wp_seq _ (Orm.wp_upholds Benign program due) next fun _ _ due => due

/-- The basic law alone. -/
theorem Gains.plain {gained : α → Law S} {result : Except ε α}
    (gains : Gains C base gained result point) : Due C base point := by
  cases result with
  | ok _ => exact Due.plain gains
  | error _ => exact gains

/-- Nothing more is known. -/
theorem Due.anyhow (due : Due C base point) : Due C (base.both Law.anything) point :=
  due.weaken fun _ _ _ _ lawful => ⟨lawful, trivial⟩

/-- A step that keeps the basic law, whatever it is good for. -/
theorem Due.gains (due : Due C base point) (result : Except ε α) :
    Gains C base (fun _ => Law.anything) result point := by
  cases result with
  | ok _ => exact due.anyhow
  | error _ => exact due

theorem Orm.wp_attempt_bind (value : Except ε α) (rest : α → Orm S ε β)
    {post : Except ε β → Point S → Prop} :
    Orm.wp C (attempt value >>= rest) post point ↔
      (∀ content, value = .ok content → Orm.wp C (rest content) post point) ∧
        ∀ exception, value = .error exception → post (.error exception) point := by
  cases value <;> simp [attempt, Orm.wp_bind]

/-- Translating exceptions loses nothing that is known. -/
theorem Orm.wp_gains_translated {program : Orm S ε α} {gained : α → Law S}
    (gains : program.wp C (Gains C base gained) point) (translate : ε → ε) :
    Orm.wp C (MonadExcept.tryCatch program fun exception =>
      MonadExcept.throw (translate exception)) (Gains C base gained) point := by
  change Orm.wp C (tryCatchThe ε program _) _ _
  refine (Orm.wp_tryCatch C program _).mpr (Orm.wp_mono _ gains fun result _ kept => ?_)
  cases result <;> exact kept

/-- Something more that is known. -/
theorem Due.learn (more : Law S) (due : Due C (base.both known) point)
    (holds : ∀ later, C.Rely point.held point.store later → more point.held
      (point.log ++ point.pending) later) : Due C (base.both (known.both more)) point :=
  ⟨due.inv, due.covered, due.accepted, fun later rely =>
    ⟨(due.law later rely).1, (due.law later rely).2, holds later rely⟩⟩

end

/-! ## Concerns -/

/-- A part of the store, and what transactions may write about it. -/
structure Concern (S : Schema) where
  /-- The statements about it. -/
  touches : S.Write → Bool
  /-- What a transaction with this log may write about it in this store. -/
  Lawful : List S.Write → S.Store → List S.Write → Prop
  /-- What holds of the store. -/
  inv : S.Store → Prop
  /-- How the store moves. -/
  le : S.Store → S.Store → Prop
  lawful_nil : ∀ log store, Lawful log store []
  lawful_grow : ∀ {log longer store marks}, log ⊆ longer → Lawful log store marks →
    Lawful longer store marks
  le_refl : ∀ store, le store store
  le_trans : ∀ {first second third}, le first second → le second third → le first third
  inv_replay : ∀ {log store}, inv store → acceptsAll log store = true →
    Lawful log store (log.filter touches) → inv (replay log store)
  le_replay : ∀ {log store}, inv store → acceptsAll log store = true →
    Lawful log store (log.filter touches) → le store (replay log store)

namespace Concern

/-- Every commit is lawful. -/
def agreement (concern : Concern S) : Agreement S where
  inv := concern.inv
  le := concern.le
  commit _ log store := acceptsAll log store = true ∧
    concern.Lawful log store (log.filter concern.touches)
  le_refl := concern.le_refl
  le_trans := concern.le_trans
  inv_replay holds committed _ := concern.inv_replay holds committed.1 committed.2

/-- A statement about something else. -/
def Untouched (concern : Concern S) (statement : S.Write) : Prop :=
  concern.touches statement = false

/-- The law of a session at its commit. -/
def law (concern : Concern S) : Law S := fun _ log store =>
  concern.Lawful log store (log.filter concern.touches)

/-- The law of a session that has touched nothing yet. -/
def idle (concern : Concern S) : Law S := fun _ log _ => log.filter concern.touches = []

/-- A session has written and recorded this much about the concern. -/
def marked (concern : Concern S) (marks : List S.Write) : Law S := fun _ log _ =>
  log.filter concern.touches = marks

variable {concern : Concern S} {point : Point S}

theorem filter_untouched {statement : S.Write} (untouched : concern.Untouched statement)
    (first last : List S.Write) :
    (first ++ statement :: last).filter concern.touches =
      (first ++ last).filter concern.touches := by
  rw [List.filter_append, List.filter_cons_of_neg (by simpa [Untouched] using untouched),
    ← List.filter_append]

instance : concern.agreement.Shared where
  le_replay holds committed _ := concern.le_replay holds committed.1 committed.2

instance : concern.agreement.Unrestricted := ⟨id⟩

instance (query : S.Query) : concern.agreement.Asks query := ⟨trivial⟩

instance : concern.agreement.Sanctions concern.Untouched concern.law where
  held _ lawful := lawful
  benign {_ first last statement _} untouched lawful := by
    unfold law at *
    rw [filter_untouched untouched]
    refine concern.lawful_grow (fun other member => ?_) lawful
    rcases List.mem_append.mp member with early | late
    · exact List.mem_append_left _ early
    · exact List.mem_append_right _ (List.mem_cons_of_mem _ late)
  nil _ := concern.lawful_nil _ _
  commit _ accepted lawful := ⟨accepted, lawful⟩

instance : concern.agreement.Starts concern.Untouched concern.idle where
  held _ idle := idle
  benign untouched idle := by
    unfold Concern.idle at *
    rwa [filter_untouched untouched]
  nil _ := rfl

instance (known : Law S) [known.Steady] : known.Tolerates concern.Untouched :=
  Law.Steady.tolerates known concern.Untouched

instance (marks : List S.Write) : (concern.marked marks).Tolerates concern.Untouched where
  held _ written := written
  benign untouched written := by
    unfold Concern.marked at *
    rwa [filter_untouched untouched]

/-- A session that has written nothing has touched nothing. -/
theorem due_of_unwritten (due : Due concern.agreement Law.unwritten point) :
    Due concern.agreement concern.idle point :=
  due.weaken fun _ log _ _ (nothing : log = []) => by
    rw [nothing]
    rfl

/-- What a session writes about the concern, if that is lawful. -/
theorem due_touch {known : Law S} {marks : List S.Write}
    (due : Due concern.agreement ((concern.marked marks).both known) point)
    {rows : List S.Write} (touching : ∀ row ∈ rows, concern.touches row = true)
    (lawful : ∀ later, concern.agreement.Rely point.held point.store later →
      known point.held (point.log ++ point.pending) later →
        concern.Lawful (point.log ++ point.pending ++ rows) later (marks ++ rows)) :
    Due concern.agreement concern.law { point with pending := point.pending ++ rows } :=
  due.extend rows fun later rely kept => by
    obtain ⟨written, knows⟩ := kept
    unfold Concern.marked at written
    unfold law
    rw [List.filter_append, written, List.filter_eq_self.mpr touching]
    exact lawful later rely knows

variable {ε : Type}

/-- A program that leaves the session ready to commit whenever it returns. -/
abbrev Settles (concern : Concern S) (program : Orm S ε α) (point : Point S) : Prop :=
  program.wp concern.agreement (Kept concern.agreement Law.anything concern.law) point

/-- A session that may commit. -/
theorem kept_of_due (due : Due concern.agreement concern.law point) (value : α) :
    Kept concern.agreement Law.anything concern.law (.ok value : Except ε α) point :=
  due.weaken fun _ _ _ _ lawful => ⟨trivial, lawful⟩

/-- Steps that only read. -/
theorem settles_reading (program : Orm S ε α)
    [Sustains concern.agreement (fun _ => False) Law.unwritten program] (rest : α → Orm S ε β)
    (due : Due concern.agreement Law.unwritten point)
    (next : ∀ value later, Due concern.agreement Law.unwritten later →
      concern.Settles (rest value) later) :
    concern.Settles (program >>= rest) point :=
  Orm.wp_seq _ (Orm.wp_sustains (fun _ => False) program due) next fun _ _ kept => kept.free

/-- Steps that touch nothing. -/
theorem settles_idle (program : Orm S ε α)
    [Sustains concern.agreement concern.Untouched concern.idle program] (rest : α → Orm S ε β)
    (due : Due concern.agreement concern.idle point)
    (next : ∀ value later, Due concern.agreement concern.idle later →
      concern.Settles (rest value) later) :
    concern.Settles (program >>= rest) point :=
  Orm.wp_seq _ (Orm.wp_sustains concern.Untouched program due) next fun _ _ kept => kept.free

/-- Steps that touch nothing, while something is known. -/
theorem settles_knowing {known : Law S} (program : Orm S ε α)
    [Upholds concern.agreement concern.Untouched Law.anything known program] (rest : α → Orm S ε β)
    (due : Due concern.agreement (Law.anything.both known) point)
    (next : ∀ value later, Due concern.agreement (Law.anything.both known) later →
      concern.Settles (rest value) later) : concern.Settles (program >>= rest) point :=
  Orm.wp_seq _ (Orm.wp_upholds concern.Untouched program due) next fun _ _ kept => kept

/-- What touches nothing once everything is recorded. -/
theorem settles_last (program : Orm S ε α)
    [Sustains concern.agreement concern.Untouched concern.law program]
    (due : Due concern.agreement concern.law point) : concern.Settles program point :=
  Orm.wp_mono _ (Orm.wp_sustains concern.Untouched program due) fun result _ kept => by
    cases result with
    | ok value => exact kept_of_due kept value
    | error exception => exact kept.free

/-- Steps that touch nothing, once everything is recorded. -/
theorem settles_after {program : Orm S ε α} (settles : concern.Settles program point)
    (rest : α → Orm S ε β)
    [∀ value, Sustains concern.agreement concern.Untouched concern.law (rest value)] :
    concern.Settles (program >>= rest) point :=
  Orm.wp_seq _ settles
    (fun value _ kept => settles_last (rest value) (kept.weaken fun _ _ _ _ both => both.2))
    fun _ _ kept => kept

/-- Translating exceptions changes nothing in the store. -/
theorem settles_translated {program : Orm S ε α} (settles : concern.Settles program point)
    (translate : ε → ε) :
    concern.Settles (MonadExcept.tryCatch program fun exception =>
      MonadExcept.throw (translate exception)) point := by
  change Orm.wp concern.agreement (tryCatchThe ε program _) _ _
  refine (Orm.wp_tryCatch _ program _).mpr (Orm.wp_mono _ settles fun result _ kept => ?_)
  cases result <;> exact kept

/-- A session that settles from its beginning meets the agreement. -/
theorem meets_of_settles {program : Orm S ε α}
    (settles : ∀ store, Due concern.agreement Law.unwritten ⟨[], [], [], store⟩ →
      concern.Settles program ⟨[], [], [], store⟩) :
    concern.agreement.Meets program.session :=
  concern.agreement.meets_session fun store holds =>
    Orm.wp_mono _ (settles store (.fresh (fun _ => False) holds)) fun _ _ _ => trivial

/-- A session that touches nothing meets the agreement. -/
theorem meets_of_sustains (program : Orm S ε α)
    [Sustains concern.agreement concern.Untouched concern.law program] :
    concern.agreement.Meets program.session :=
  Sustains.meets _ concern.Untouched concern.law program

variable {ι ρ : Type} [DecidableEq ι] {Allowed : Prog S ρ → Prop} {store : S.Store}
  {world : World S ι ρ}

/-- What the concern keeps of the store. -/
theorem inv_reachable (concern : Concern S)
    (meets : ∀ program, Allowed program → concern.agreement.Meets program)
    (opening : concern.inv store) (reached : World.Reachable Allowed store world) :
    concern.inv world.store :=
  (Agreement.Sound.reachable meets opening reached).inv

/-- Every commit is lawful, where the store is as it has to be. -/
theorem commits (concern : Concern S)
    (meets : ∀ program, Allowed program → concern.agreement.Meets program)
    (opening : concern.inv store) (reached : World.Reachable Allowed store world)
    {committed : Committed S} (member : committed ∈ world.commits) :
    concern.inv committed.before ∧ acceptsAll committed.log committed.before = true ∧
      concern.Lawful committed.log committed.before (committed.log.filter concern.touches) := by
  have sound : concern.agreement.Sound world := Agreement.Sound.reachable meets opening reached
  exact sound.commits committed member

/-- The store moves as the concern says, from any time on. -/
theorem le_since (concern : Concern S)
    (meets : ∀ program, Allowed program → concern.agreement.Meets program)
    (opening : concern.inv store) (reached : World.Reachable Allowed store world)
    {earlier : S.Store} (past : World.Past store world earlier) :
    concern.le earlier world.store := by
  refine World.moves_since reached concern.le_refl concern.le_trans (fun committed member => ?_) past
  obtain ⟨before, accepted, lawful⟩ := concern.commits meets opening reached member
  exact concern.le_replay before accepted lawful

end Concern

end ReadCommitted
