import ControlPlane.Library.Histories

/-!
# Rely-guarantee reasoning for READ COMMITTED sessions

An agreement fixes an invariant of the committed store, an order along which the
store may evolve, what every commit has to satisfy, and which questions may be
asked. The weakest precondition of a program quantifies, before each statement,
over all stores that other sessions may have committed meanwhile; the rows the
session has locked are the same in all of them. Programs that meet an agreement
whose commits respect the order keep the invariant in every world their
interleavings reach.
-/

namespace ReadCommitted

variable {S : Schema}

/-- What all sessions of a system agree to respect. -/
structure Agreement (S : Schema) where
  /-- The invariant of the committed store. -/
  inv : S.Store → Prop
  /-- How the committed store may evolve. -/
  le : S.Store → S.Store → Prop
  /-- What a transaction has to satisfy when it commits. -/
  commit : List (Held S) → List S.Write → S.Store → Prop
  /-- The questions that may be asked. -/
  asks : S.Query → Prop := fun _ => True
  /-- The transactions that the runs do not contain; nothing is said about what follows one. -/
  excluded : List S.Write → S.Store → Prop := fun _ _ => False
  le_refl : ∀ store, le store store
  le_trans : ∀ {first second third}, le first second → le second third → le first third
  inv_replay : ∀ {held log store}, inv store → commit held log store → ¬excluded log store →
    inv (replay log store)

namespace Agreement

/-- Commits move the store in a way that the other sessions rely on. -/
class Shared (C : Agreement S) : Prop where
  le_replay : ∀ {held log store}, C.inv store → C.commit held log store → ¬C.excluded log store →
    C.le store (replay log store)

/-- An agreement about all runs. -/
class Unrestricted (C : Agreement S) : Prop where
  excludes : ∀ {log store}, ¬C.excluded log store

variable (C : Agreement S)

/-- The other sessions may have moved the committed store while these locks were held. -/
structure Rely (held : List (Held S)) (store later : S.Store) : Prop where
  le : C.le store later
  inv : C.inv later
  locked : ∀ lock ∈ held, lock.mode ≠ .intent →
    S.content lock.resource store = S.content lock.resource later

theorem Rely.refl {C : Agreement S} {held : List (Held S)} {store : S.Store}
    (invariant : C.inv store) : C.Rely held store store :=
  ⟨C.le_refl store, invariant, fun _ _ _ => rfl⟩

theorem Rely.trans {C : Agreement S} {held : List (Held S)} {first second third : S.Store}
    (early : C.Rely held first second) (late : C.Rely held second third) :
    C.Rely held first third :=
  ⟨C.le_trans early.le late.le, late.inv,
    fun lock member stable =>
      (early.locked lock member stable).trans (late.locked lock member stable)⟩

/-- Fewer locks promise less. -/
theorem Rely.mono {C : Agreement S} {held more : List (Held S)} {store later : S.Store}
    (rely : C.Rely more store later) (subset : held ⊆ more) : C.Rely held store later :=
  ⟨rely.le, rely.inv, fun lock member => rely.locked lock (subset member)⟩

/-- Weakest precondition over the locks, the uncommitted log and the committed store. -/
def wp : Prog S α → (α → List (Held S) → List S.Write → S.Store → Prop) →
    List (Held S) → List S.Write → S.Store → Prop
  | .ret value, post, held, log, store => post value held log store
  | .read next, post, held, log, store =>
      ∀ later, C.Rely held store later → wp (next (replay log later)) post held log later
  | .lock resources next, post, held, log, store =>
      ∀ later, C.Rely held store later →
        wp next post (held ++ Held.forUpdate resources (replay log later)) log later
  | .write statement next, post, held, log, store =>
      ∀ later, C.Rely held store later →
        (S.accepts statement (replay log later) = true →
          wp (next true) post (held ++ Held.ofWrite statement (replay log later))
            (log ++ [statement]) later) ∧
        (S.accepts statement (replay log later) = false →
          wp (next false) post held log later)
  | .commit next, post, held, log, store =>
      ∀ later, C.Rely held store later →
        C.commit held log later ∧
          (¬C.excluded log later → wp next post [] [] (replay log later))
  | .rollback next, post, held, _, store =>
      ∀ later, C.Rely held store later → wp next post [] [] later
  | .ask query next, post, held, log, store =>
      C.asks query ∧ ∀ answer, wp (next answer) post held log store

/-- Weakening the postcondition. -/
theorem wp_mono
    {program : Prog S α}
    {post weaker : α → List (Held S) → List S.Write → S.Store → Prop}
    (implies : ∀ value held log store, post value held log store →
      weaker value held log store)
    {held : List (Held S)} {log : List S.Write} {store : S.Store}
    (holds : C.wp program post held log store) :
    C.wp program weaker held log store := by
  induction program generalizing held log store with
  | ret value => exact implies _ _ _ _ holds
  | read next inductionHypothesis =>
      exact fun later rely => inductionHypothesis _ (holds later rely)
  | lock resources next inductionHypothesis =>
      exact fun later rely => inductionHypothesis (holds later rely)
  | write statement next inductionHypothesis =>
      exact fun later rely =>
        ⟨fun accepted => inductionHypothesis _ ((holds later rely).1 accepted),
          fun refused => inductionHypothesis _ ((holds later rely).2 refused)⟩
  | commit next inductionHypothesis =>
      exact fun later rely =>
        ⟨(holds later rely).1, fun permitted =>
          inductionHypothesis ((holds later rely).2 permitted)⟩
  | rollback next inductionHypothesis =>
      exact fun later rely => inductionHypothesis (holds later rely)
  | ask query next inductionHypothesis =>
      exact ⟨holds.1, fun answer => inductionHypothesis answer (holds.2 answer)⟩

/-- Sequencing composes weakest preconditions. -/
theorem wp_bind
    (program : Prog S α) (rest : α → Prog S β)
    (post : β → List (Held S) → List S.Write → S.Store → Prop)
    (held : List (Held S)) (log : List S.Write) (store : S.Store) :
    C.wp (program.bind rest) post held log store ↔
      C.wp program (fun value => C.wp (rest value) post) held log store := by
  induction program generalizing held log store with
  | ret value => rfl
  | read next inductionHypothesis =>
      exact forall₂_congr fun later _ => inductionHypothesis _ held log later
  | lock resources next inductionHypothesis =>
      exact forall₂_congr fun later _ => inductionHypothesis _ log later
  | write statement next inductionHypothesis =>
      exact forall₂_congr fun later _ =>
        and_congr (imp_congr_right fun _ => inductionHypothesis true _ _ later)
          (imp_congr_right fun _ => inductionHypothesis false held log later)
  | commit next inductionHypothesis =>
      exact forall₂_congr fun later _ =>
        and_congr_right fun _ => imp_congr_right fun _ =>
          inductionHypothesis [] [] (replay log later)
  | rollback next inductionHypothesis =>
      exact forall₂_congr fun later _ => inductionHypothesis [] [] later
  | ask query next inductionHypothesis =>
      exact and_congr_right fun _ =>
        forall_congr' fun answer => inductionHypothesis answer held log store

/-- A weakest precondition survives the commits of other sessions. -/
theorem wp_rely
    {program : Prog S α}
    {post : α → List (Held S) → List S.Write → S.Store → Prop}
    (stable : ∀ value held log store later, C.Rely held store later →
      post value held log store → post value held log later)
    {held : List (Held S)} {log : List S.Write} {store later : S.Store}
    (rely : C.Rely held store later)
    (holds : C.wp program post held log store) :
    C.wp program post held log later := by
  induction program with
  | ret value => exact stable _ _ _ _ _ rely holds
  | read next => exact fun next' rely' => holds next' (rely.trans rely')
  | lock resources next => exact fun next' rely' => holds next' (rely.trans rely')
  | write statement next => exact fun next' rely' => holds next' (rely.trans rely')
  | commit next => exact fun next' rely' => holds next' (rely.trans rely')
  | rollback next => exact fun next' rely' => holds next' (rely.trans rely')
  | ask query next inductionHypothesis =>
      exact ⟨holds.1, fun answer => inductionHypothesis answer (holds.2 answer)⟩

/-- A program meets the agreement from every store that satisfies the invariant. -/
def Meets (program : Prog S ρ) : Prop :=
  ∀ store, C.inv store → C.wp program (fun _ _ _ _ => True) [] [] store

/-- An agreement that relies on less and demands more of its commits than another one. -/
structure Refines (C D : Agreement S) : Prop where
  inv : ∀ {store}, D.inv store → C.inv store
  le : ∀ {store later}, D.le store later → C.le store later
  commit : ∀ {held log store}, D.inv store → C.commit held log store → D.commit held log store
  asks : ∀ {query}, C.asks query → D.asks query
  excluded : ∀ {log store}, C.excluded log store → D.excluded log store

namespace Refines

variable {C D : Agreement S}

/-- What holds against fewer promises holds against more. -/
theorem wp (refines : C.Refines D) {program : Prog S α}
    {post : α → List (Held S) → List S.Write → S.Store → Prop} {held : List (Held S)}
    {log : List S.Write} {store : S.Store} (holds : C.wp program post held log store) :
    D.wp program post held log store := by
  have relies : ∀ {held store later}, D.Rely held store later → C.Rely held store later :=
    fun rely => ⟨refines.le rely.le, refines.inv rely.inv, rely.locked⟩
  induction program generalizing held log store with
  | ret value => exact holds
  | read next inductionHypothesis =>
      exact fun later rely => inductionHypothesis _ (holds later (relies rely))
  | lock resources next inductionHypothesis =>
      exact fun later rely => inductionHypothesis (holds later (relies rely))
  | write statement next inductionHypothesis =>
      exact fun later rely =>
        ⟨fun accepted => inductionHypothesis _ ((holds later (relies rely)).1 accepted),
          fun refused => inductionHypothesis _ ((holds later (relies rely)).2 refused)⟩
  | commit next inductionHypothesis =>
      exact fun later rely =>
        ⟨refines.commit rely.inv (holds later (relies rely)).1, fun permitted =>
          inductionHypothesis ((holds later (relies rely)).2 fun excluded =>
            permitted (refines.excluded excluded))⟩
  | rollback next inductionHypothesis =>
      exact fun later rely => inductionHypothesis (holds later (relies rely))
  | ask query next inductionHypothesis =>
      exact ⟨refines.asks holds.1, fun answer => inductionHypothesis answer (holds.2 answer)⟩

/-- A program that meets the stricter agreement meets the other one. -/
theorem meets (refines : C.Refines D) {program : Prog S ρ} (meets : C.Meets program) :
    D.Meets program :=
  fun _ invariant => refines.wp (meets _ (refines.inv invariant))

end Refines

/-! ## Soundness for interleavings -/

section

variable {ι ρ : Type}

/-- A session holds the locks of everything it wrote. -/
structure Guarded (held : List (Held S)) (log : List S.Write) (store : S.Store) : Prop where
  replaced : ∀ resource ∈ footprints log store,
    ∃ lock ∈ held, lock.resource = resource ∧ lock.mode = .exclusive
  added : ∀ resource ∈ additions log store,
    ∃ lock ∈ held, lock.resource = resource ∧ lock.mode = .intent

namespace Guarded

variable {held : List (Held S)} {log : List S.Write} {store later : S.Store}

theorem nil (store : S.Store) : Guarded held [] store :=
  ⟨by simp [footprints], by simp [additions]⟩

/-- Further locks guard what was guarded. -/
theorem acquire (guarded : Guarded held log store) (more : List (Held S)) :
    Guarded (held ++ more) log store where
  replaced resource member :=
    let ⟨lock, held, property⟩ := guarded.replaced resource member
    ⟨lock, List.mem_append_left _ held, property⟩
  added resource member :=
    let ⟨lock, held, property⟩ := guarded.added resource member
    ⟨lock, List.mem_append_left _ held, property⟩

/-- A write guards itself. -/
theorem write (guarded : Guarded held log store) (statement : S.Write) :
    Guarded (held ++ Held.ofWrite statement (replay log store)) (log ++ [statement]) store where
  replaced resource member := by
    rw [footprints_append, List.mem_append] at member
    rcases member with old | new
    · exact (guarded.acquire _).replaced resource old
    · simp only [footprints, List.append_nil] at new
      refine ⟨⟨resource, .exclusive, replay log store⟩, ?_, rfl, rfl⟩
      simp [Held.ofWrite, Held.forUpdate, new]
  added resource member := by
    rw [additions_append, List.mem_append] at member
    rcases member with old | new
    · exact (guarded.acquire _).added resource old
    · simp only [additions, List.append_nil] at new
      refine ⟨⟨resource, .intent, replay log store⟩, ?_, rfl, rfl⟩
      simp [Held.ofWrite, new]

/-- The session sees the same content of what it replaced, whatever the others commit. -/
theorem agree (guarded : Guarded held log store)
    (locked : ∀ lock ∈ held, lock.mode ≠ .intent →
      S.content lock.resource store = S.content lock.resource later) :
    ∀ used ∈ footprints log store, S.content used store = S.content used later := by
  intro used member
  obtain ⟨lock, lockMember, rfl, exclusive⟩ := guarded.replaced used member
  exact locked lock lockMember (by simp [exclusive])

/-- A log stays guarded when the others commit. -/
theorem rely (guarded : Guarded held log store)
    (locked : ∀ lock ∈ held, lock.mode ≠ .intent →
      S.content lock.resource store = S.content lock.resource later) :
    Guarded held log later where
  replaced := by
    rw [← footprints_congr (guarded.agree locked)]
    exact guarded.replaced
  added := by
    rw [← additions_congr (guarded.agree locked)]
    exact guarded.added

/-- A commit does not change what another session holds in a conflicting mode. -/
theorem content_replay (guarded : Guarded held log store) {lock : Held S}
    (stable : lock.mode ≠ .intent)
    (apart : ∀ own ∈ held, own.resource = lock.resource → own.mode.Compatible lock.mode) :
    S.content lock.resource (replay log store) = S.content lock.resource store := by
  refine content_replay_of_notMem (fun member => ?_) (fun member => ?_)
  · obtain ⟨own, ownMember, equal, exclusive⟩ := guarded.replaced _ member
    have compatible := apart own ownMember equal
    rw [exclusive] at compatible
    exact Mode.not_exclusive_compatible _ compatible
  · obtain ⟨own, ownMember, equal, intent⟩ := guarded.added _ member
    have compatible := apart own ownMember equal
    rw [intent] at compatible
    cases mode : lock.mode with
    | shared => simp [mode, Mode.Compatible] at compatible
    | intent => exact stable mode
    | exclusive => simp [mode, Mode.Compatible] at compatible

end Guarded

/-- Locks isolate the sessions: everything written is locked, and two sessions hold
one resource in compatible modes only. -/
structure Isolated (world : World S ι ρ) : Prop where
  guarded : ∀ session thread, world.threads session = some thread →
    Guarded thread.held thread.log world.store
  compatible : ∀ first second left right, first ≠ second →
    world.threads first = some left → world.threads second = some right →
    ∀ lock ∈ left.held, ∀ other ∈ right.held, lock.resource = other.resource →
      lock.mode.Compatible other.mode

namespace Isolated

variable {world : World S ι ρ}

/-- What a session holds is granted to it. -/
theorem grants_held (isolated : Isolated world) {session : ι} {thread : Thread S ρ}
    (found : world.threads session = some thread) : world.Grants session thread.held := by
  intro lock member other current different foundOther otherLock otherMember equal
  exact isolated.compatible other session current thread different foundOther found
    otherLock otherMember lock member equal

variable [DecidableEq ι]

/-- Replacing one session keeps isolation when its locks are granted and guard its log. -/
theorem put (isolated : Isolated world) (session : ι) (thread : Thread S ρ)
    (guarded : Guarded thread.held thread.log world.store)
    (grants : world.Grants session thread.held) :
    Isolated (world.put session (some thread)) where
  guarded := by
    intro other current found
    by_cases same : other = session
    · subst same
      simp only [World.put, Function.update_self, Option.some.injEq] at found
      subst found
      exact guarded
    · simp only [World.put, Function.update_of_ne same] at found
      exact isolated.guarded other current found
  compatible := by
    intro first second left right different foundLeft foundRight lock member other otherMember equal
    by_cases firstSame : first = session
    · subst firstSame
      simp only [World.put, Function.update_self, Option.some.injEq] at foundLeft
      simp only [World.put, Function.update_of_ne different.symm] at foundRight
      subst foundLeft
      exact (grants lock member second right different.symm foundRight other otherMember
        equal.symm).symm
    · simp only [World.put, Function.update_of_ne firstSame] at foundLeft
      by_cases secondSame : second = session
      · subst secondSame
        simp only [World.put, Function.update_self, Option.some.injEq] at foundRight
        subst foundRight
        exact grants other otherMember first left different foundLeft lock member equal
      · simp only [World.put, Function.update_of_ne secondSame] at foundRight
        exact isolated.compatible first second left right different foundLeft foundRight
          lock member other otherMember equal

/-- Running on with the same locks and the same log. -/
theorem advance (isolated : Isolated world) {session : ι} {held log} {program next : Prog S ρ}
    (found : world.threads session = some ⟨held, log, program⟩) :
    Isolated (world.put session (some ⟨held, log, next⟩)) := by
  have guarded := isolated.guarded session _ found
  have grants := isolated.grants_held found
  exact isolated.put session _ guarded grants

/-- Starting over without locks and without writes. -/
theorem clear (isolated : Isolated world) (session : ι) (next : Prog S ρ) :
    Isolated (world.put session (some ⟨[], [], next⟩)) :=
  isolated.put session _ (.nil _) (by simp [World.Grants])

/-- Taking further locks that are granted. -/
theorem acquire (isolated : Isolated world) {session : ι} {held log} {program next : Prog S ρ}
    (found : world.threads session = some ⟨held, log, program⟩)
    {more : List (Held S)} {writes : List S.Write}
    (guarded : Guarded (held ++ more) (log ++ writes) world.store)
    (grants : world.Grants session more) :
    Isolated (world.put session (some ⟨held ++ more, log ++ writes, next⟩)) := by
  refine isolated.put session _ guarded ?_
  intro lock member
  rcases List.mem_append.mp member with old | new
  · exact isolated.grants_held found lock old
  · exact grants lock new

/-- Closing a session discards its locks. -/
theorem close (isolated : Isolated world) (session : ι) :
    Isolated (world.put session none) where
  guarded := by
    intro other current found
    by_cases same : other = session
    · subst same
      simp [World.put] at found
    · simp only [World.put, Function.update_of_ne same] at found
      exact isolated.guarded other current found
  compatible := by
    intro first second left right different foundLeft foundRight
    by_cases firstSame : first = session
    · subst firstSame
      simp [World.put] at foundLeft
    · by_cases secondSame : second = session
      · subst secondSame
        simp [World.put] at foundRight
      · simp only [World.put, Function.update_of_ne firstSame] at foundLeft
        simp only [World.put, Function.update_of_ne secondSame] at foundRight
        exact isolated.compatible first second left right different foundLeft foundRight

end Isolated

/-- The invariant that every interleaving of conforming programs keeps. -/
structure Sound (world : World S ι ρ) : Prop where
  inv : C.inv world.store
  isolated : Isolated world
  /-- What remains of each session still meets the agreement. -/
  meets : ∀ session thread, world.threads session = some thread →
    C.wp thread.program (fun _ _ _ _ => True) thread.held thread.log world.store
  /-- Every commit so far satisfied the agreement. -/
  commits : ∀ committed ∈ world.commits,
    C.inv committed.before ∧ C.commit committed.held committed.log committed.before

variable {C}

theorem Sound.initial {store : S.Store} (invariant : C.inv store) :
    C.Sound (World.initial store : World S ι ρ) where
  inv := invariant
  isolated := ⟨by simp [World.initial], by simp [World.initial]⟩
  meets := by simp [World.initial]
  commits := by simp [World.initial]

namespace Sound

variable {world : World S ι ρ}

/-- For the other sessions a commit only moves the store along the agreement. -/
theorem rely_of_commit [C.Shared] (sound : C.Sound world) {session other : ι} {held log next}
    {thread : Thread S ρ}
    (found : world.threads session = some ⟨held, log, next⟩)
    (foundOther : world.threads other = some thread)
    (different : other ≠ session)
    (committed : C.commit held log world.store) (permitted : ¬C.excluded log world.store) :
    C.Rely thread.held world.store (replay log world.store) where
  le := Shared.le_replay sound.inv committed permitted
  inv := C.inv_replay sound.inv committed permitted
  locked := by
    intro lock member stable
    have guarded := sound.isolated.guarded session _ found
    refine (guarded.content_replay stable fun own ownMember equal => ?_).symm
    exact sound.isolated.compatible session other _ thread different.symm found foundOther
      own ownMember lock member equal

variable [DecidableEq ι]

/-- Replacing one session, without a commit. -/
theorem put (sound : C.Sound world) (session : ι) (thread : Thread S ρ)
    (isolated : Isolated (world.put session (some thread)))
    (meets : C.wp thread.program (fun _ _ _ _ => True) thread.held thread.log world.store) :
    C.Sound (world.put session (some thread)) where
  inv := sound.inv
  isolated := isolated
  commits := sound.commits
  meets := by
    intro other current found
    by_cases same : other = session
    · subst same
      simp only [World.put, Function.update_self, Option.some.injEq] at found
      subst found
      exact meets
    · simp only [World.put, Function.update_of_ne same] at found
      exact sound.meets other current found

variable [C.Shared]

/-- A commit that satisfies the agreement. -/
theorem commit (sound : C.Sound world) {session : ι} {held log} {next : Prog S ρ}
    (found : world.threads session = some ⟨held, log, .commit next⟩)
    (permitted : ¬C.excluded log world.store) :
    C.Sound { (world.put session (some ⟨[], [], next⟩)) with
      store := replay log world.store
      commits := world.commits ++ [⟨held, log, world.store⟩] } := by
  obtain ⟨committed, rest⟩ := sound.meets session _ found world.store (.refl sound.inv)
  have isolated := sound.isolated.clear session next
  refine ⟨C.inv_replay sound.inv committed permitted, ⟨?_, isolated.compatible⟩, ?_, ?_⟩
  · intro other current foundOther
    by_cases same : other = session
    · subst same
      simp only [World.put, Function.update_self, Option.some.injEq] at foundOther
      subst foundOther
      exact .nil _
    · simp only [World.put, Function.update_of_ne same] at foundOther
      exact (sound.isolated.guarded other current foundOther).rely
        (sound.rely_of_commit found foundOther same committed permitted).locked
  · intro other current foundOther
    by_cases same : other = session
    · subst same
      simp only [World.put, Function.update_self, Option.some.injEq] at foundOther
      subst foundOther
      exact rest permitted
    · simp only [World.put, Function.update_of_ne same] at foundOther
      exact C.wp_rely (fun _ _ _ _ _ _ _ => trivial)
        (sound.rely_of_commit found foundOther same committed permitted)
        (sound.meets other current foundOther)
  · intro entry member
    rcases List.mem_append.mp member with old | new
    · exact sound.commits entry old
    · rw [List.mem_singleton.mp new]
      exact ⟨sound.inv, committed⟩

/-- One statement of one session keeps soundness, unless it commits what is excluded. -/
theorem step_within {Allowed : Prog S ρ → Prop}
    (allowed : ∀ program, Allowed program → C.Meets program) {next : World S ι ρ}
    (sound : C.Sound world) (step : World.Step Allowed world next)
    (permitted : ∀ committed ∈ next.commits, ¬C.excluded committed.log committed.before) :
    C.Sound next := by
  cases step with
  | start session program idle admitted =>
      exact sound.put session _ (sound.isolated.clear session program)
        (allowed program admitted _ sound.inv)
  | read session held log continuation found =>
      exact sound.put session _ (sound.isolated.advance found)
        (sound.meets session _ found world.store (.refl sound.inv))
  | lock session held log resources continuation found grants =>
      have guarded := (sound.isolated.guarded session _ found).acquire
        (Held.forUpdate resources (replay log world.store))
      have isolated : Isolated (world.put session
          (some ⟨held ++ Held.forUpdate resources (replay log world.store), log,
            continuation⟩)) := by
        rw [← List.append_nil log] at guarded ⊢
        exact sound.isolated.acquire found guarded (by simpa using grants)
      exact sound.put session _ isolated
        (sound.meets session _ found world.store (.refl sound.inv))
  | write session held log statement continuation found grants accepted =>
      have guarded := (sound.isolated.guarded session _ found).write statement
      exact sound.put session _ (sound.isolated.acquire found guarded grants)
        ((sound.meets session _ found world.store (.refl sound.inv)).1 accepted)
  | refuse session held log statement continuation found grants refused =>
      exact sound.put session _ (sound.isolated.advance found)
        ((sound.meets session _ found world.store (.refl sound.inv)).2 refused)
  | commit session held log continuation found =>
      exact sound.commit found
        (permitted _ (List.mem_append_right _ (List.mem_singleton_self _)))
  | rollback session held log continuation found =>
      exact sound.put session _ (sound.isolated.clear session continuation)
        (sound.meets session _ found world.store (.refl sound.inv))
  | ask session held log query answer continuation found =>
      exact sound.put session _ (sound.isolated.advance found)
        ((sound.meets session _ found).2 answer)
  | close session =>
      have isolated := sound.isolated.close session
      refine ⟨sound.inv, isolated, ?_, sound.commits⟩
      intro other current foundOther
      by_cases same : other = session
      · subst same
        simp [World.put] at foundOther
      · simp only [World.put, Function.update_of_ne same] at foundOther
        exact sound.meets other current foundOther

/-- Every world that conforming programs reach without an excluded transaction is sound. -/
theorem reachable_within {Allowed : Prog S ρ → Prop}
    (allowed : ∀ program, Allowed program → C.Meets program)
    {store : S.Store} (invariant : C.inv store) (reached : World.Reachable Allowed store world)
    (permitted : ∀ committed ∈ world.commits, ¬C.excluded committed.log committed.before) :
    C.Sound world := by
  induction reached with
  | refl => exact .initial invariant
  | tail _ last inductionHypothesis =>
      exact (inductionHypothesis fun committed member =>
        permitted committed ((World.commits_prefix (.single last)).subset member)).step_within
          allowed last permitted

variable [C.Unrestricted]

/-- One statement of one session keeps soundness. -/
theorem step {Allowed : Prog S ρ → Prop} (allowed : ∀ program, Allowed program → C.Meets program)
    {next : World S ι ρ} (sound : C.Sound world) (step : World.Step Allowed world next) :
    C.Sound next :=
  sound.step_within allowed step fun _ _ => Unrestricted.excludes

/-- One statement of one session moves the store along the agreement. -/
theorem step_le {Allowed : Prog S ρ → Prop} {next : World S ι ρ} (sound : C.Sound world)
    (step : World.Step Allowed world next) : C.le world.store next.store := by
  cases step with
  | commit session held log continuation found =>
      obtain ⟨committed, _⟩ := sound.meets session _ found world.store (.refl sound.inv)
      exact Shared.le_replay sound.inv committed Unrestricted.excludes
  | _ => exact C.le_refl _

/-- A sound world stays sound, and its store moves along the agreement. -/
theorem evolve {Allowed : Prog S ρ → Prop} (allowed : ∀ program, Allowed program → C.Meets program)
    {later : World S ι ρ} (sound : C.Sound world)
    (steps : Relation.ReflTransGen (World.Step Allowed) world later) :
    C.Sound later ∧ C.le world.store later.store := by
  induction steps with
  | refl => exact ⟨sound, C.le_refl _⟩
  | tail _ last inductionHypothesis =>
      obtain ⟨soundMiddle, le⟩ := inductionHypothesis
      exact ⟨soundMiddle.step allowed last, C.le_trans le (soundMiddle.step_le last)⟩

/-- Every world that conforming programs reach is sound. -/
theorem reachable {Allowed : Prog S ρ → Prop}
    (allowed : ∀ program, Allowed program → C.Meets program)
    {store : S.Store} (invariant : C.inv store)
    (reached : World.Reachable Allowed store world) : C.Sound world :=
  reachable_within allowed invariant reached fun _ _ => Unrestricted.excludes

end Sound

end

end Agreement

end ReadCommitted
