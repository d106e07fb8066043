import ControlPlane.Library.UnitOfWork

/-!
# Sessions between whose queries nobody commits

At READ COMMITTED a session that looks something up and then acts on it may be
overtaken. Where no session commits while another one is between its first and
its last query, each session acts on one store, and what it commits can be told
from its program alone.
-/

namespace ReadCommitted

variable {S : Schema} {ε : Type}

namespace Prog

/-- The program may send another query before its transaction ends. -/
def Queries : Prog S α → Prop
  | .ret _ => False
  | .read _ => True
  | .lock _ next => next.Queries
  | .write _ next => ∃ accepted, (next accepted).Queries
  | .commit _ => False
  | .rollback _ => False
  | .ask _ next => ∃ answer, (next answer).Queries

/-- What the program commits satisfies a law if the store stays as it is until then, whatever the
answers are and whichever statements are refused. -/
def Undisturbed (law : List S.Write → Prop) (post : α → List S.Write → S.Store → Prop) :
    Prog S α → List S.Write → S.Store → Prop
  | .ret value, log, store => post value log store
  | .read next, log, store => (next (replay log store)).Undisturbed law post log store
  | .lock _ next, log, store => next.Undisturbed law post log store
  | .write statement next, log, store =>
      (next true).Undisturbed law post (log ++ [statement]) store ∧
        (next false).Undisturbed law post log store
  | .commit next, log, _ => law log ∧ ∀ later, next.Undisturbed law post [] later
  | .rollback next, _, _ => ∀ later, next.Undisturbed law post [] later
  | .ask _ next, log, store => ∀ answer, (next answer).Undisturbed law post log store

variable {law : List S.Write → Prop}

theorem Undisturbed.mono {post weaker : α → List S.Write → S.Store → Prop}
    (implies : ∀ value log store, post value log store → weaker value log store)
    {program : Prog S α} {log : List S.Write} {store : S.Store}
    (holds : program.Undisturbed law post log store) :
    program.Undisturbed law weaker log store := by
  induction program generalizing log store with
  | ret value => exact implies _ _ _ holds
  | read next inductionHypothesis => exact inductionHypothesis _ holds
  | lock resources next inductionHypothesis => exact inductionHypothesis holds
  | write statement next inductionHypothesis =>
      exact ⟨inductionHypothesis _ holds.1, inductionHypothesis _ holds.2⟩
  | commit next inductionHypothesis =>
      exact ⟨holds.1, fun later => inductionHypothesis (holds.2 later)⟩
  | rollback next inductionHypothesis => exact fun later => inductionHypothesis (holds later)
  | ask query next inductionHypothesis => exact fun answer => inductionHypothesis _ (holds answer)

/-- Sequencing. -/
theorem undisturbed_bind (program : Prog S α) (rest : α → Prog S β)
    (post : β → List S.Write → S.Store → Prop) (log : List S.Write) (store : S.Store) :
    (program.bind rest).Undisturbed law post log store ↔
      program.Undisturbed law (fun value => (rest value).Undisturbed law post) log store := by
  induction program generalizing log store with
  | ret value => rfl
  | read next inductionHypothesis => exact inductionHypothesis _ log store
  | lock resources next inductionHypothesis => exact inductionHypothesis log store
  | write statement next inductionHypothesis =>
      exact and_congr (inductionHypothesis true _ store) (inductionHypothesis false log store)
  | commit next inductionHypothesis =>
      exact and_congr_right fun _ => forall_congr' fun later => inductionHypothesis [] later
  | rollback next inductionHypothesis =>
      exact forall_congr' fun later => inductionHypothesis [] later
  | ask query next inductionHypothesis =>
      exact forall_congr' fun answer => inductionHypothesis answer log store

/-- Without another query, it does not matter what others commit. -/
theorem Undisturbed.later {program : Prog S α} (settled : ¬program.Queries)
    {post : α → List S.Write → Prop} {log : List S.Write} {store : S.Store}
    (holds : program.Undisturbed law (fun value log _ => post value log) log store)
    (later : S.Store) :
    program.Undisturbed law (fun value log _ => post value log) log later := by
  induction program generalizing log store with
  | ret value => exact holds
  | read next => exact absurd trivial settled
  | lock resources next inductionHypothesis => exact inductionHypothesis settled holds
  | write statement next inductionHypothesis =>
      exact ⟨inductionHypothesis true (fun queries => settled ⟨true, queries⟩) holds.1,
        inductionHypothesis false (fun queries => settled ⟨false, queries⟩) holds.2⟩
  | commit next => exact holds
  | rollback next => exact holds
  | ask query next inductionHypothesis =>
      exact fun answer =>
        inductionHypothesis answer (fun queries => settled ⟨answer, queries⟩) (holds answer)

end Prog

/-! ## Runs -/

namespace World

variable {ι ρ : Type} [DecidableEq ι] {Allowed : Prog S ρ → Prop} {law : List S.Write → Prop}

/-- A session has not begun, or it sends no further query. -/
def Settled (Allowed : Prog S ρ → Prop) (thread : Thread S ρ) : Prop :=
  (thread.log = [] ∧ Allowed thread.program) ∨ ¬thread.program.Queries

/-- A statement that commits nothing while a session is between its first and its last query. -/
def StepApart (Allowed : Prog S ρ → Prop) (world next : World S ι ρ) : Prop :=
  Step Allowed world next ∧ (next.commits = world.commits ∨
    ∀ session thread, world.threads session = some thread → Settled Allowed thread)

/-- A session that is the only one disturbs nobody. -/
theorem Step.apart [Subsingleton ι] {world next : World S ι ρ} (taken : Step Allowed world next) :
    StepApart Allowed world next := by
  refine ⟨taken, ?_⟩
  cases taken with
  | commit session held log continuation found =>
      refine .inr fun other thread running => .inr ?_
      obtain rfl := Subsingleton.elim other session
      obtain rfl := Option.some.inj (found.symm.trans running)
      exact id
  | _ => exact .inl rfl

/-- What every open session and every commit of a run without disturbances satisfies. -/
structure Steady (law : List S.Write → Prop) (world : World S ι ρ) : Prop where
  threads : ∀ session thread, world.threads session = some thread →
    thread.program.Undisturbed law (fun _ _ _ => True) thread.log world.store
  commits : ∀ committed ∈ world.commits, law committed.log

namespace Steady

variable {world next : World S ι ρ}

/-- One session goes on, without a commit. -/
theorem put (steady : Steady law world) (session : ι) (thread : Thread S ρ)
    (holds : thread.program.Undisturbed law (fun _ _ _ => True) thread.log world.store) :
    Steady law (world.put session (some thread)) where
  threads := by
    intro other current found
    by_cases same : other = session
    · subst same
      rw [put_threads_self, Option.some.injEq] at found
      subst found
      exact holds
    · rw [put_threads_of_ne _ _ same] at found
      exact steady.threads other current found
  commits := steady.commits

/-- A step of an undisturbed run. -/
theorem step (allowed : ∀ program, Allowed program → ∀ store,
      program.Undisturbed law (fun _ _ _ => True) [] store)
    (steady : Steady law world) (taken : StepApart Allowed world next) : Steady law next := by
  obtain ⟨taken, apart⟩ := taken
  cases taken with
  | start session program idle permitted =>
      exact steady.put session ⟨[], [], program⟩ (allowed program permitted _)
  | read session held log continuation found =>
      have holds := steady.threads session _ found
      exact steady.put session ⟨held, log, _⟩ holds
  | lock session held log resources continuation found grants =>
      have holds := steady.threads session _ found
      exact steady.put session ⟨_, log, continuation⟩ holds
  | write session held log statement continuation found grants accepted =>
      exact steady.put session ⟨_, log ++ [statement], continuation true⟩
        (steady.threads session _ found).1
  | refuse session held log statement continuation found grants refused =>
      exact steady.put session ⟨held, log, continuation false⟩ (steady.threads session _ found).2
  | commit session held log continuation found =>
      have settled := apart.resolve_left (by simp)
      obtain ⟨lawful, rest⟩ := steady.threads session _ found
      refine ⟨fun other thread running => ?_, fun committed member => ?_⟩
      · by_cases same : other = session
        · subst same
          have own := (put_threads_self world _).symm.trans running
          rw [Option.some.injEq] at own
          subst own
          exact rest _
        · have kept := (put_threads_of_ne world _ same).symm.trans running
          rcases settled other thread kept with ⟨fresh, permitted⟩ | quiet
          · rw [fresh]
            exact allowed _ permitted _
          · exact (steady.threads other thread kept).later quiet _
      · rcases List.mem_append.mp member with old | new
        · exact steady.commits committed old
        · rw [List.mem_singleton.mp new]
          exact lawful
  | rollback session held log continuation found =>
      exact steady.put session ⟨[], [], continuation⟩ (steady.threads session _ found _)
  | ask session held log query answer continuation found =>
      exact steady.put session ⟨held, log, continuation answer⟩
        (steady.threads session _ found answer)
  | close session =>
      refine ⟨fun other thread running => ?_, steady.commits⟩
      by_cases same : other = session
      · subst same
        exact nomatch (put_threads_self world none).symm.trans running
      · exact steady.threads other thread ((put_threads_of_ne world none same).symm.trans running)

end Steady

/-- In a run without disturbances every commit satisfies what its program satisfies undisturbed. -/
theorem commits_undisturbed (allowed : ∀ program, Allowed program → ∀ store,
      program.Undisturbed law (fun _ _ _ => True) [] store) {store : S.Store}
    {world : World S ι ρ}
    (reached : Relation.ReflTransGen (StepApart Allowed) (initial store) world) :
    ∀ committed ∈ world.commits, law committed.log := by
  have steady : Steady law world := by
    induction reached with
    | refl => exact ⟨nofun, nofun⟩
    | tail _ taken inductionHypothesis => exact inductionHypothesis.step allowed taken
  exact steady.commits

end World

/-! ## Sessions with recorded rows -/

namespace Orm

/-- What a session that records rows commits satisfies a law if the store stays as it is. -/
def undisturbed (law : List S.Write → Prop) (program : Orm S ε α)
    (post : Except ε α → List S.Write → List S.Write → S.Store → Prop)
    (log pending : List S.Write) (store : S.Store) : Prop :=
  (program pending).Undisturbed law (fun result log store => post result.1 log result.2 store) log
    store

section

variable {law : List S.Write → Prop}
  {post : Except ε β → List S.Write → List S.Write → S.Store → Prop}
  {log pending : List S.Write} {store : S.Store}

/-- A sequence goes on with the value of its first part, and ends with its exception. -/
theorem undisturbed_bind (program : Orm S ε α) (rest : α → Orm S ε β) :
    undisturbed law (program >>= rest) post log pending store ↔
      undisturbed law program (fun result log pending store =>
        match result with
        | .ok value => undisturbed law (rest value) post log pending store
        | .error exception => post (.error exception) log pending store) log pending store := by
  refine (Prog.undisturbed_bind (program pending) _ _ log store).trans (iff_of_eq ?_)
  refine congrArg (fun post => Prog.Undisturbed law post (program pending) log store) ?_
  funext result log store
  obtain ⟨value | exception, later⟩ := result <;> rfl

theorem undisturbed_mono {weaker : Except ε β → List S.Write → List S.Write → S.Store → Prop}
    {program : Orm S ε β} (holds : undisturbed law program post log pending store)
    (implies : ∀ result log pending store, post result log pending store →
      weaker result log pending store) :
    undisturbed law program weaker log pending store :=
  Prog.Undisturbed.mono
    (fun (result : Except ε β × List S.Write) log store => implies result.1 log result.2 store)
    holds

/-- A program goes on with what a query finds. -/
theorem undisturbed_select_bind (query : S.Store → α) (rest : α → Orm S ε β) :
    undisturbed law (select query >>= rest) post log pending store ↔
      undisturbed law (rest (query (replay log store))) post log pending store :=
  Iff.rfl

/-- Recording a row. -/
theorem undisturbed_add {post : Except ε Unit → List S.Write → List S.Write → S.Store → Prop}
    (row : S.Write) :
    undisturbed law (add row) post log pending store ↔
      post (.ok ()) log (pending ++ [row]) store :=
  Iff.rfl

theorem undisturbed_branch (value : Option α) (absent : Orm S ε β) (present : α → Orm S ε β) :
    undisturbed law (branch value absent present) post log pending store ↔
      (value = none → undisturbed law absent post log pending store) ∧
        ∀ content, value = some content →
          undisturbed law (present content) post log pending store := by
  cases value <;> simp [branch]

/-- A program goes on where a condition holds. -/
theorem undisturbed_require_bind (condition : Prop) [Decidable condition] (exception : ε)
    (rest : Unit → Orm S ε β) :
    undisturbed law (require condition exception >>= rest) post log pending store ↔
      (condition → undisturbed law (rest ()) post log pending store) ∧
        (¬condition → post (.error exception) log pending store) := by
  unfold require
  by_cases holds : condition
  · rw [if_pos holds]
    exact ⟨fun later => ⟨fun _ => later, fun not => absurd holds not⟩, fun both => both.1 holds⟩
  · rw [if_neg holds]
    exact ⟨fun later => ⟨fun held => absurd held holds, fun _ => later⟩, fun both => both.2 holds⟩

end

/-- Rows that are sent are appended to the log; after a refusal nothing is left of it. -/
theorem flushAll_undisturbed {law : List S.Write → Prop} (rows log : List S.Write)
    (store : S.Store) :
    (flushAll rows).Undisturbed law (fun sent last later =>
      (sent = false → last = []) ∧ (sent = true → last = log ++ rows ∧ later = store)) log store := by
  induction rows generalizing log with
  | nil => exact ⟨nofun, fun _ => ⟨(List.append_nil log).symm, rfl⟩⟩
  | cons row rows inductionHypothesis =>
      refine ⟨?_, fun later => ⟨fun _ => rfl, nofun⟩⟩
      have rest := inductionHypothesis (log ++ [row])
      rwa [List.append_assoc, List.singleton_append] at rest

/-- A commit writes what was sent and what is recorded. -/
theorem undisturbed_commit [DatabaseFailure ε] {law : List S.Write → Prop}
    {log pending : List S.Write} (lawful : law (log ++ pending)) (store : S.Store) :
    undisturbed law (commit : Orm S ε Unit) (fun _ _ _ _ => True) log pending store := by
  refine (Prog.undisturbed_bind (flushAll pending) _ _ log store).mpr ?_
  refine Prog.Undisturbed.mono ?_ (flushAll_undisturbed pending log store)
  rintro (_ | _) last later sent
  · trivial
  · obtain ⟨rfl, rfl⟩ := sent.2 rfl
    exact ⟨lawful, fun _ => trivial⟩

/-- A program whose statements are of a kind, and which commits nothing. -/
class Drafts (Kind : S.Write → Prop) (program : Orm S ε α) : Prop where
  drafts : ∀ (law : List S.Write → Prop) (log pending : List S.Write) (store : S.Store),
    (∀ statement ∈ log, Kind statement) → (∀ statement ∈ pending, Kind statement) →
      undisturbed law program (fun result log pending later =>
        (∀ statement ∈ log, Kind statement) ∧ (∀ statement ∈ pending, Kind statement) ∧
          ((∃ value, result = .ok value) → later = store)) log pending store

namespace Drafts

variable {Kind : S.Write → Prop}

instance pure (value : α) : Drafts Kind (Pure.pure value : Orm S ε α) where
  drafts _ _ _ _ logged recorded := ⟨logged, recorded, fun _ => rfl⟩

instance throw (exception : ε) : Drafts Kind (MonadExcept.throw exception : Orm S ε α) where
  drafts _ _ _ _ logged recorded := ⟨logged, recorded, fun _ => rfl⟩

instance select (query : S.Store → α) : Drafts Kind (Orm.select query : Orm S ε α) where
  drafts _ _ _ _ logged recorded := ⟨logged, recorded, fun _ => rfl⟩

instance ask (query : S.Query) :
    Drafts (α := no_index (S.Answer query)) Kind (Orm.ask query : Orm S ε _) where
  drafts _ _ _ _ logged recorded _ := ⟨logged, recorded, fun _ => rfl⟩

theorem add {row : S.Write} (kind : Kind row) : Drafts Kind (Orm.add row : Orm S ε Unit) where
  drafts _ _ _ _ logged recorded := by
    refine ⟨logged, fun statement member => ?_, fun _ => rfl⟩
    rcases List.mem_append.mp member with old | new
    · exact recorded statement old
    · exact List.mem_singleton.mp new ▸ kind

theorem execute {row : S.Write} (kind : Kind row) :
    Drafts Kind (Orm.execute row : Orm S ε Bool) where
  drafts _ _ _ _ logged recorded := by
    refine ⟨⟨fun statement member => ?_, recorded, fun _ => rfl⟩, logged, recorded, fun _ => rfl⟩
    rcases List.mem_append.mp member with old | new
    · exact logged statement old
    · exact List.mem_singleton.mp new ▸ kind

instance bind (program : Orm S ε α) (rest : α → Orm S ε β) [first : Drafts Kind program]
    [second : ∀ value, Drafts Kind (rest value)] : Drafts Kind (program >>= rest) where
  drafts law log pending store logged recorded := by
    rw [undisturbed_bind]
    refine undisturbed_mono (first.drafts law log pending store logged recorded) ?_
    rintro (exception | value) log pending later ⟨logged, recorded, same⟩
    · exact ⟨logged, recorded, nofun⟩
    · obtain rfl := same ⟨value, rfl⟩
      exact (second value).drafts law log pending later logged recorded

instance branch (value : Option α) (absent : Orm S ε β) (present : α → Orm S ε β)
    [Drafts Kind absent] [∀ content, Drafts Kind (present content)] :
    Drafts Kind (Orm.branch value absent present) := by
  cases value <;> (unfold Orm.branch; infer_instance)

instance require (condition : Prop) [Decidable condition] (exception : ε) :
    Drafts Kind (Orm.require condition exception : Orm S ε Unit) := by
  unfold Orm.require
  split <;> infer_instance

instance found (value : Option α) (exception : ε) :
    Drafts Kind (Orm.found value exception : Orm S ε α) := by
  cases value
  · exact throw exception
  · exact pure _

instance flush [DatabaseFailure ε] : Drafts Kind (Orm.flush : Orm S ε Unit) where
  drafts law log pending store logged recorded := by
    refine (Prog.undisturbed_bind (flushAll pending) _ _ log store).mpr ?_
    refine Prog.Undisturbed.mono ?_ (flushAll_undisturbed pending log store)
    rintro (_ | _) log later sent
    · exact ⟨sent.1 rfl ▸ nofun, nofun, nofun⟩
    · obtain ⟨rfl, rfl⟩ := sent.2 rfl
      refine ⟨fun statement member => ?_, nofun, fun _ => rfl⟩
      exact (List.mem_append.mp member).elim (logged statement) (recorded statement)

end Drafts

/-- After a draft the session goes on with what it wrote so far. -/
theorem undisturbed_drafts_bind {Kind : S.Write → Prop} {law : List S.Write → Prop}
    {program : Orm S ε α} [draft : Drafts Kind program] {rest : α → Orm S ε β}
    {log pending : List S.Write} {store : S.Store} (logged : ∀ statement ∈ log, Kind statement)
    (recorded : ∀ statement ∈ pending, Kind statement)
    (next : ∀ value log pending, (∀ statement ∈ log, Kind statement) →
      (∀ statement ∈ pending, Kind statement) →
        undisturbed law (rest value) (fun _ _ _ _ => True) log pending store) :
    undisturbed law (program >>= rest) (fun _ _ _ _ => True) log pending store := by
  rw [undisturbed_bind]
  refine undisturbed_mono (draft.drafts law log pending store logged recorded) ?_
  rintro (exception | value) log pending later ⟨logged, recorded, same⟩
  · trivial
  · obtain rfl := same ⟨value, rfl⟩
    exact next value log pending logged recorded

end Orm

end ReadCommitted
