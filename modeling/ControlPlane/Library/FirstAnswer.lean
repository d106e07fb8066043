import ControlPlane.Library.SessionLogic

/-!
# What a session does after its first answer

An agreement says what the commits of all sessions have in common. Of a single
session more may be known, for example once it read the clock. A session is
followed through a run from the moment it was opened, together with the first
answer it got to a certain query; whatever the others do, its commits then meet
the agreement that goes with the answer.
-/

namespace ReadCommitted

variable {S : Schema} {ι ρ : Type} [DecidableEq ι]

namespace Agreement

/-! ## Facts about one session -/

/-- A fact about a session that its own statements keep, apart from some questions, and that the
commits of the others keep. -/
structure Persistent (C : Agreement S) (asked : S.Query → Prop)
    (fact : Thread S ρ → S.Store → Prop) : Prop where
  rely : ∀ {thread store later}, C.Rely thread.held store later → fact thread store →
    fact thread later
  read : ∀ {held log next store}, fact ⟨held, log, .read next⟩ store →
    fact ⟨held, log, next (replay log store)⟩ store
  lock : ∀ {held log resources next store}, fact ⟨held, log, .lock resources next⟩ store →
    fact ⟨held ++ Held.forUpdate resources (replay log store), log, next⟩ store
  write : ∀ {held log statement next store}, fact ⟨held, log, .write statement next⟩ store →
    S.accepts statement (replay log store) = true →
      fact ⟨held ++ Held.ofWrite statement (replay log store), log ++ [statement], next true⟩ store
  refuse : ∀ {held log statement next store}, fact ⟨held, log, .write statement next⟩ store →
    S.accepts statement (replay log store) = false → fact ⟨held, log, next false⟩ store
  commit : ∀ {held log next store}, fact ⟨held, log, .commit next⟩ store →
    fact ⟨[], [], next⟩ (replay log store)
  rollback : ∀ {held log next store}, fact ⟨held, log, .rollback next⟩ store →
    fact ⟨[], [], next⟩ store
  ask : ∀ {held log query next store answer}, asked query →
    fact ⟨held, log, .ask query next⟩ store → fact ⟨held, log, next answer⟩ store

/-- A persistent fact about an open session is kept by the steps of all sessions. -/
theorem Persistent.step {C : Agreement S} [C.Shared] [C.Unrestricted] {asked : S.Query → Prop}
    {fact : Thread S ρ → S.Store → Prop} (persistent : C.Persistent asked fact)
    {Allowed : Prog S ρ → Prop} {world next : World S ι ρ} {session : ι} {thread : Thread S ρ}
    (sound : C.Sound world) (found : world.threads session = some thread)
    (holds : fact thread world.store) (step : World.Step Allowed world next)
    (polite : ∀ query rest, thread.program = .ask query rest →
      asked query ∨ next.threads session = some thread) :
    ∀ current, next.threads session = some current → fact current next.store := by
  have others : ∀ {other : ι} {replaced : Option (Thread S ρ)}, other ≠ session →
      ∀ current, (world.put other replaced).threads session = some current →
        fact current world.store := by
    intro other replaced different current same
    rw [show (world.put other replaced).threads session = world.threads session from
      Function.update_of_ne different.symm .., found] at same
    cases same
    exact holds
  have own : ∀ {after : Thread S ρ} {store : S.Store}, fact after store →
      ∀ current, (world.put session (some after)).threads session = some current →
        fact current store := by
    intro after store kept current same
    rw [show (world.put session (some after)).threads session = some after from
      Function.update_self ..] at same
    cases same
    exact kept
  cases step with
  | start other program idle _ =>
      by_cases same : other = session
      · rw [same, found] at idle
        cases idle
      · exact others same
  | read other held log rest running =>
      by_cases same : other = session
      · subst same
        cases found.symm.trans running
        exact own (persistent.read holds)
      · exact others same
  | lock other held log resources rest running _ =>
      by_cases same : other = session
      · subst same
        cases found.symm.trans running
        exact own (persistent.lock holds)
      · exact others same
  | write other held log statement rest running _ accepted =>
      by_cases same : other = session
      · subst same
        cases found.symm.trans running
        exact own (persistent.write holds accepted)
      · exact others same
  | refuse other held log statement rest running _ refused =>
      by_cases same : other = session
      · subst same
        cases found.symm.trans running
        exact own (persistent.refuse holds refused)
      · exact others same
  | commit other held log rest running =>
      by_cases same : other = session
      · subst same
        cases found.symm.trans running
        exact own (persistent.commit holds)
      · intro current kept
        have before := others same current kept
        obtain ⟨committed, _⟩ := sound.meets other _ running world.store (.refl sound.inv)
        have unchanged : world.threads session = some current :=
          (Function.update_of_ne (Ne.symm same) ..).symm.trans kept
        exact persistent.rely
          (sound.rely_of_commit running unchanged (Ne.symm same) committed
            Unrestricted.excludes) before
  | rollback other held log rest running =>
      by_cases same : other = session
      · subst same
        cases found.symm.trans running
        exact own (persistent.rollback holds)
      · exact others same
  | ask other held log query answer rest running =>
      by_cases same : other = session
      · subst same
        cases found.symm.trans running
        rcases polite query rest rfl with permitted | unchanged
        · exact own (persistent.ask permitted holds)
        · intro current kept
          cases unchanged.symm.trans kept
          exact holds
      · exact others same
  | close other =>
      by_cases same : other = session
      · subst same
        intro current kept
        rw [show (world.put other none).threads other = none from Function.update_self ..] at kept
        cases kept
      · exact others same

/-- Meeting an agreement that relies on no more than the others do is persistent. -/
theorem persistent_wp {C D : Agreement S} [D.Unrestricted]
    (within : ∀ {held store later}, C.Rely held store later → D.Rely held store later) :
    C.Persistent (fun _ => True) fun (thread : Thread S ρ) store => D.inv store ∧
      D.wp thread.program (fun _ _ _ _ => True) thread.held thread.log store where
  rely moved holds :=
    ⟨(within moved).inv, D.wp_rely (fun _ _ _ _ _ _ _ => trivial) (within moved) holds.2⟩
  read holds := ⟨holds.1, holds.2 _ (.refl holds.1)⟩
  lock holds := ⟨holds.1, holds.2 _ (.refl holds.1)⟩
  write holds accepted := ⟨holds.1, (holds.2 _ (.refl holds.1)).1 accepted⟩
  refuse holds refused := ⟨holds.1, (holds.2 _ (.refl holds.1)).2 refused⟩
  commit holds :=
    have ⟨committed, rest⟩ := holds.2 _ (.refl holds.1)
    ⟨D.inv_replay holds.1 committed Unrestricted.excludes, rest Unrestricted.excludes⟩
  rollback holds := ⟨holds.1, holds.2 _ (.refl holds.1)⟩
  ask _ holds := ⟨holds.1, holds.2.2 _⟩

/-! ## Before the first answer -/

variable [DecidableEq S.Query] (C : Agreement S) (query : S.Query)
  (D : S.Answer query → Agreement S)

/-- A session meets one agreement up to a query, and another one from the answer on. -/
def Awaits : Prog S α → List (Held S) → List S.Write → S.Store → Prop
  | .ret _, _, _, _ => True
  | .read next, held, log, store =>
      ∀ later, C.Rely held store later → Awaits (next (replay log later)) held log later
  | .lock resources next, held, log, store =>
      ∀ later, C.Rely held store later →
        Awaits next (held ++ Held.forUpdate resources (replay log later)) log later
  | .write statement next, held, log, store =>
      ∀ later, C.Rely held store later →
        (S.accepts statement (replay log later) = true →
          Awaits (next true) (held ++ Held.ofWrite statement (replay log later))
            (log ++ [statement]) later) ∧
        (S.accepts statement (replay log later) = false → Awaits (next false) held log later)
  | .commit next, held, log, store =>
      ∀ later, C.Rely held store later →
        C.commit held log later ∧ Awaits next [] [] (replay log later)
  | .rollback next, held, _, store =>
      ∀ later, C.Rely held store later → Awaits next [] [] later
  | .ask other next, held, log, store =>
      if same : other = query then
        ∀ answer, (D answer).wp (next (same ▸ answer)) (fun _ _ _ _ => True) held log store
      else ∀ answer, Awaits (next answer) held log store

/-- The same agreement for sessions that do not ask a query. -/
def without : Agreement S :=
  { C with
    asks := fun other => C.asks other ∧ other ≠ query
    inv_replay := C.inv_replay }

variable {C query D}

instance [unrestricted : C.Unrestricted] : (C.without query).Unrestricted :=
  ⟨unrestricted.excludes⟩

theorem awaits_ask {other : S.Query} {next : S.Answer other → Prog S α} {held : List (Held S)}
    {log : List S.Write} {store : S.Store} :
    C.Awaits query D (.ask other next) held log store ↔
      if same : other = query then
        ∀ answer, (D answer).wp (next (same ▸ answer)) (fun _ _ _ _ => True) held log store
      else ∀ answer, C.Awaits query D (next answer) held log store := Iff.rfl

/-- What comes before may not ask the query. -/
theorem Awaits.bind [unrestricted : C.Unrestricted] {program : Prog S α} {rest : α → Prog S β}
    {held : List (Held S)} {log : List S.Write} {store : S.Store}
    (first : (C.without query).wp program (fun value => C.Awaits query D (rest value)) held log
      store) : C.Awaits query D (program.bind rest) held log store := by
  induction program generalizing held log store with
  | ret value => exact first
  | read next inductionHypothesis =>
      exact fun later rely => inductionHypothesis _ (first later ⟨rely.le, rely.inv, rely.locked⟩)
  | lock resources next inductionHypothesis =>
      exact fun later rely => inductionHypothesis (first later ⟨rely.le, rely.inv, rely.locked⟩)
  | write statement next inductionHypothesis =>
      exact fun later rely =>
        have holds := first later ⟨rely.le, rely.inv, rely.locked⟩
        ⟨fun accepted => inductionHypothesis _ (holds.1 accepted),
          fun refused => inductionHypothesis _ (holds.2 refused)⟩
  | commit next inductionHypothesis =>
      exact fun later rely =>
        have holds := first later ⟨rely.le, rely.inv, rely.locked⟩
        ⟨holds.1, inductionHypothesis (holds.2 unrestricted.excludes)⟩
  | rollback next inductionHypothesis =>
      exact fun later rely => inductionHypothesis (first later ⟨rely.le, rely.inv, rely.locked⟩)
  | ask other next inductionHypothesis =>
      change C.Awaits query D (.ask other fun answer => (next answer).bind rest) held log store
      rw [awaits_ask, dif_neg first.1.2]
      exact fun answer => inductionHypothesis answer (first.2 answer)

/-- At the query. -/
theorem Awaits.here {next : S.Answer query → Prog S α} {held : List (Held S)} {log : List S.Write}
    {store : S.Store}
    (answered : ∀ answer, (D answer).wp (next answer) (fun _ _ _ _ => True) held log store) :
    C.Awaits query D (.ask query next) held log store := by
  rw [awaits_ask, dif_pos rfl]
  exact answered

/-- What comes after may neither ask the query again before an answer nor commit. -/
theorem Awaits.after {program : Prog S α} {rest : α → Prog S β} {held : List (Held S)}
    {log : List S.Write} {store : S.Store} (awaits : C.Awaits query D program held log store)
    (early : ∀ value held log store, C.Awaits query D (rest value) held log store)
    (late : ∀ answer value held log store,
      (D answer).wp (rest value) (fun _ _ _ _ => True) held log store) :
    C.Awaits query D (program.bind rest) held log store := by
  induction program generalizing held log store with
  | ret value => exact early value held log store
  | read next inductionHypothesis =>
      exact fun later rely => inductionHypothesis _ (awaits later rely)
  | lock resources next inductionHypothesis =>
      exact fun later rely => inductionHypothesis (awaits later rely)
  | write statement next inductionHypothesis =>
      exact fun later rely =>
        ⟨fun accepted => inductionHypothesis _ ((awaits later rely).1 accepted),
          fun refused => inductionHypothesis _ ((awaits later rely).2 refused)⟩
  | commit next inductionHypothesis =>
      exact fun later rely => ⟨(awaits later rely).1, inductionHypothesis (awaits later rely).2⟩
  | rollback next inductionHypothesis =>
      exact fun later rely => inductionHypothesis (awaits later rely)
  | ask other next inductionHypothesis =>
      change C.Awaits query D (.ask other fun answer => (next answer).bind rest) held log store
      rw [awaits_ask] at awaits ⊢
      by_cases same : other = query
      · rw [dif_pos same] at awaits ⊢
        intro answer
        rw [wp_bind]
        exact (D answer).wp_mono (fun value held log store _ => late answer value held log store)
          (awaits answer)
      · rw [dif_neg same] at awaits ⊢
        exact fun answer => inductionHypothesis answer (awaits answer)

/-- Waiting for an answer survives the commits of other sessions. -/
theorem Awaits.rely
    (within : ∀ {answer held store later}, C.Rely held store later →
      (D answer).Rely held store later)
    {program : Prog S α} {held : List (Held S)} {log : List S.Write} {store later : S.Store}
    (moved : C.Rely held store later) (awaits : C.Awaits query D program held log store) :
    C.Awaits query D program held log later := by
  induction program with
  | ret value => trivial
  | read next => exact fun last rely => awaits last (moved.trans rely)
  | lock resources next => exact fun last rely => awaits last (moved.trans rely)
  | write statement next => exact fun last rely => awaits last (moved.trans rely)
  | commit next => exact fun last rely => awaits last (moved.trans rely)
  | rollback next => exact fun last rely => awaits last (moved.trans rely)
  | ask other next inductionHypothesis =>
      rw [awaits_ask] at *
      by_cases same : other = query
      · rw [dif_pos same] at *
        exact fun answer =>
          (D answer).wp_rely (fun _ _ _ _ _ _ _ => trivial) (within moved) (awaits answer)
      · rw [dif_neg same] at *
        exact fun answer => inductionHypothesis answer (awaits answer)

/-- Waiting for an answer is persistent up to the query. -/
theorem persistent_awaits [unrestricted : C.Unrestricted] {B : Agreement S}
    (narrow : ∀ {held store later}, B.Rely held store later → C.Rely held store later)
    (within : ∀ {answer held store later}, C.Rely held store later →
      (D answer).Rely held store later) :
    B.Persistent (· ≠ query) fun (thread : Thread S ρ) store => C.inv store ∧
      C.Awaits query D thread.program thread.held thread.log store where
  rely moved holds := ⟨(narrow moved).inv, holds.2.rely within (narrow moved)⟩
  read holds := ⟨holds.1, holds.2 _ (.refl holds.1)⟩
  lock holds := ⟨holds.1, holds.2 _ (.refl holds.1)⟩
  write holds accepted := ⟨holds.1, (holds.2 _ (.refl holds.1)).1 accepted⟩
  refuse holds refused := ⟨holds.1, (holds.2 _ (.refl holds.1)).2 refused⟩
  commit holds :=
    have ⟨committed, rest⟩ := holds.2 _ (.refl holds.1)
    ⟨C.inv_replay holds.1 committed unrestricted.excludes, rest⟩
  rollback holds := ⟨holds.1, holds.2 _ (.refl holds.1)⟩
  ask different holds := by
    have awaits := holds.2
    rw [awaits_ask, dif_neg different] at awaits
    exact ⟨holds.1, awaits _⟩

omit [DecidableEq S.Query] in
/-- An agreement that permits more is met as well. -/
theorem wp_permit [unrestricted : C.Unrestricted] {B : Agreement S}
    (narrow : ∀ {held store later}, B.Rely held store later → C.Rely held store later)
    (commit : ∀ {held log store}, C.commit held log store → B.commit held log store)
    (asks : ∀ {other}, C.asks other → B.asks other) {program : Prog S α}
    {post : α → List (Held S) → List S.Write → S.Store → Prop} {held : List (Held S)}
    {log : List S.Write} {store : S.Store} (holds : C.wp program post held log store) :
    B.wp program post held log store := by
  induction program generalizing held log store with
  | ret value => exact holds
  | read next inductionHypothesis =>
      exact fun later rely => inductionHypothesis _ (holds later (narrow rely))
  | lock resources next inductionHypothesis =>
      exact fun later rely => inductionHypothesis (holds later (narrow rely))
  | write statement next inductionHypothesis =>
      exact fun later rely =>
        ⟨fun accepted => inductionHypothesis _ ((holds later (narrow rely)).1 accepted),
          fun refused => inductionHypothesis _ ((holds later (narrow rely)).2 refused)⟩
  | commit next inductionHypothesis =>
      exact fun later rely =>
        ⟨commit (holds later (narrow rely)).1, fun _ =>
          inductionHypothesis ((holds later (narrow rely)).2 unrestricted.excludes)⟩
  | rollback next inductionHypothesis =>
      exact fun later rely => inductionHypothesis (holds later (narrow rely))
  | ask other next inductionHypothesis =>
      exact ⟨asks holds.1, fun answer => inductionHypothesis answer (holds.2 answer)⟩

/-- A program that meets an agreement throughout meets it up to a query, and any that permits more
from the answer on. -/
theorem Awaits.of_wp [unrestricted : C.Unrestricted]
    (narrow : ∀ {answer held store later}, (D answer).Rely held store later →
      C.Rely held store later)
    (commit : ∀ {answer held log store}, C.commit held log store →
      (D answer).commit held log store)
    (asks : ∀ {answer other}, C.asks other → (D answer).asks other) {program : Prog S α}
    {held : List (Held S)} {log : List S.Write} {store : S.Store}
    (holds : C.wp program (fun _ _ _ _ => True) held log store) :
    C.Awaits query D program held log store := by
  induction program generalizing held log store with
  | ret value => trivial
  | read next inductionHypothesis =>
      exact fun later rely => inductionHypothesis _ (holds later rely)
  | lock resources next inductionHypothesis =>
      exact fun later rely => inductionHypothesis (holds later rely)
  | write statement next inductionHypothesis =>
      exact fun later rely =>
        ⟨fun accepted => inductionHypothesis _ ((holds later rely).1 accepted),
          fun refused => inductionHypothesis _ ((holds later rely).2 refused)⟩
  | commit next inductionHypothesis =>
      exact fun later rely =>
        ⟨(holds later rely).1, inductionHypothesis ((holds later rely).2 unrestricted.excludes)⟩
  | rollback next inductionHypothesis =>
      exact fun later rely => inductionHypothesis (holds later rely)
  | ask other next inductionHypothesis =>
      rw [awaits_ask]
      by_cases same : other = query
      · rw [dif_pos same]
        exact fun answer => wp_permit narrow commit asks (holds.2 _)
      · rw [dif_neg same]
        exact fun answer => inductionHypothesis answer (holds.2 answer)

end Agreement

/-! ## Sessions of programs -/

namespace Orm

variable {ε : Type} [DecidableEq S.Query] {C : Agreement S} {query : S.Query}
  {D : S.Answer query → Agreement S} {point : Point S}

/-- A session program meets one agreement up to a query, and another one from the answer on. -/
def Awaits (C : Agreement S) (query : S.Query) (D : S.Answer query → Agreement S)
    (program : Orm S ε α) (point : Point S) : Prop :=
  C.Awaits query D (program point.pending) point.held point.log point.store

namespace Awaits

/-- What comes before may not ask the query. -/
theorem bind [C.Unrestricted] {program : Orm S ε α} {rest : α → Orm S ε β}
    (first : program.wp (C.without query) (fun result later => ∀ value, result = .ok value →
      (rest value).Awaits C query D later) point) : (program >>= rest).Awaits C query D point := by
  refine Agreement.Awaits.bind ((C.without query).wp_mono ?_ first)
  rintro ⟨result, pending⟩ held log store holds
  cases result with
  | ok value => exact holds value rfl
  | error exception => trivial

/-- At the query. -/
theorem here {rest : S.Answer query → Orm S ε α}
    (answered : ∀ answer, (rest answer).wp (D answer) (fun _ _ => True) point) :
    (ask query >>= rest).Awaits C query D point :=
  Agreement.Awaits.here answered

/-- What comes after a program that returns. -/
theorem seq {program : Orm S ε α} {rest : α → Orm S ε β} (awaits : program.Awaits C query D point)
    (early : ∀ value later, (rest value).Awaits C query D later)
    (late : ∀ answer value later, (rest value).wp (D answer) (fun _ _ => True) later) :
    (program >>= rest).Awaits C query D point := by
  refine Agreement.Awaits.after awaits ?_ ?_
  · rintro ⟨result, pending⟩ held log store
    cases result with
    | ok value => exact early value ⟨pending, held, log, store⟩
    | error exception => trivial
  · rintro answer ⟨result, pending⟩ held log store
    cases result with
    | ok value => exact late answer value ⟨pending, held, log, store⟩
    | error exception => trivial

/-- What handles the exceptions of a program. -/
theorem guarded {program : Orm S ε α} {handler : ε → Orm S ε α}
    (awaits : program.Awaits C query D point)
    (early : ∀ exception later, (handler exception).Awaits C query D later)
    (late : ∀ answer exception later, (handler exception).wp (D answer) (fun _ _ => True) later) :
    (tryCatch program handler).Awaits C query D point := by
  refine Agreement.Awaits.after awaits ?_ ?_
  · rintro ⟨result, pending⟩ held log store
    cases result with
    | ok value => trivial
    | error exception => exact early exception ⟨pending, held, log, store⟩
  · rintro answer ⟨result, pending⟩ held log store
    cases result with
    | ok value => trivial
    | error exception => exact late answer exception ⟨pending, held, log, store⟩

/-- The session of a program. -/
theorem session {program : Orm S ε α} {store : S.Store}
    (awaits : program.Awaits C query D ⟨[], [], [], store⟩) :
    C.Awaits query D program.session [] [] store :=
  Agreement.Awaits.after awaits (fun _ _ _ _ => trivial) fun _ _ _ _ _ => trivial

end Awaits

end Orm

/-! ## Following a session -/

/-- A run during which one session stays open, with the first answer that it got to a query. -/
inductive World.Follows (Allowed : Prog S ρ → Prop) (session : ι) (query : S.Query)
    (start : World S ι ρ) : Option (S.Answer query) → World S ι ρ → Prop
  | refl : Follows Allowed session query start none start
  /-- A step that does not answer the query to the session for the first time. -/
  | step (reading : Option (S.Answer query)) (world next : World S ι ρ) (thread : Thread S ρ) :
      Follows Allowed session query start reading world → World.Step Allowed world next →
        world.threads session = some thread → (next.threads session).isSome →
          (reading = none → ∀ rest, thread.program = .ask query rest →
            next.threads session = some thread) →
            Follows Allowed session query start reading next
  | answer (world : World S ι ρ) (held log rest) (answer : S.Answer query) :
      Follows Allowed session query start none world →
        world.threads session = some ⟨held, log, .ask query rest⟩ →
          Follows Allowed session query start (some answer)
            (world.put session (some ⟨held, log, rest answer⟩))

namespace World.Follows

variable [DecidableEq S.Query] {B C : Agreement S} [B.Shared] [B.Unrestricted] [C.Unrestricted]
  {Allowed : Prog S ρ → Prop}
  {session : ι} {query : S.Query} {D : S.Answer query → Agreement S}
  [∀ answer, (D answer).Unrestricted] {start last : World S ι ρ}
  {reading : Option (S.Answer query)}

/-- A session that was opened for a program which awaits an answer meets, after the answer, the
agreement that goes with it. -/
theorem meets (allowed : ∀ program, Allowed program → B.Meets program)
    (narrow : ∀ {held store later}, B.Rely held store later → C.Rely held store later)
    (within : ∀ {answer held store later}, C.Rely held store later →
      (D answer).Rely held store later)
    (sound : B.Sound start) {opened : Thread S ρ} (found : start.threads session = some opened)
    (invariant : C.inv start.store)
    (awaits : C.Awaits query D opened.program opened.held opened.log start.store)
    (follows : World.Follows Allowed session query start reading last) :
    B.Sound last ∧ ∃ thread, last.threads session = some thread ∧
      match reading with
      | none => C.inv last.store ∧
          C.Awaits query D thread.program thread.held thread.log last.store
      | some given => (D given).inv last.store ∧
          (D given).wp thread.program (fun _ _ _ _ => True) thread.held thread.log last.store := by
  induction follows with
  | refl => exact ⟨sound, opened, found, invariant, awaits⟩
  | step reading world next thread _ step running stays quiet inductionHypothesis =>
      obtain ⟨soundWorld, current, same, holds⟩ := inductionHypothesis
      obtain rfl : thread = current := Option.some.inj (running.symm.trans same)
      obtain ⟨after, open'⟩ := Option.isSome_iff_exists.mp stays
      refine ⟨soundWorld.step allowed step, after, open', ?_⟩
      cases reading with
      | none =>
          refine (Agreement.persistent_awaits narrow within).step soundWorld running holds step
            (fun other rest asks => ?_) after open'
          by_cases own : other = query
          · subst own
            exact .inr (quiet rfl rest asks)
          · exact .inl own
      | some given =>
          exact (Agreement.persistent_wp fun moved => within (narrow moved)).step soundWorld running
            holds step (fun _ _ _ => .inl trivial) after open'
  | answer world held log rest answer _ running inductionHypothesis =>
      obtain ⟨soundWorld, current, same, holds⟩ := inductionHypothesis
      obtain rfl := Option.some.inj (running.symm.trans same)
      have still : C.Rely held world.store world.store := .refl holds.1
      refine ⟨soundWorld.step allowed (.ask world session held log query answer rest running), _,
        Function.update_self .., (within still).inv, ?_⟩
      have awaited := holds.2
      rw [Agreement.awaits_ask, dif_pos rfl] at awaited
      exact awaited answer

/-- Whatever such a session is about to commit meets the agreement that goes with its answer, or
the one that holds before it. -/
theorem commits (allowed : ∀ program, Allowed program → B.Meets program)
    (narrow : ∀ {held store later}, B.Rely held store later → C.Rely held store later)
    (within : ∀ {answer held store later}, C.Rely held store later →
      (D answer).Rely held store later)
    (sound : B.Sound start) {opened : Thread S ρ} (found : start.threads session = some opened)
    (invariant : C.inv start.store)
    (awaits : C.Awaits query D opened.program opened.held opened.log start.store)
    (follows : World.Follows Allowed session query start reading last) {held log rest}
    (ready : last.threads session = some ⟨held, log, .commit rest⟩) :
    B.Sound last ∧
      match reading with
      | none => C.commit held log last.store
      | some given => (D given).commit held log last.store := by
  obtain ⟨soundLast, thread, same, holds⟩ :=
    follows.meets allowed narrow within sound found invariant awaits
  obtain rfl := Option.some.inj (ready.symm.trans same)
  refine ⟨soundLast, ?_⟩
  cases reading with
  | none => exact (holds.2 last.store (.refl holds.1)).1
  | some given => exact (holds.2 last.store (.refl holds.1)).1

end World.Follows

end ReadCommitted
