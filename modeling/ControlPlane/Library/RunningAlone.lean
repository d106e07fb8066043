import ControlPlane.Library.SessionLogic

/-!
# Agreements for sessions that run alone

The weakest precondition of an agreement also speaks about a session that runs
alone: what it commits and what it asks respects the agreement, and its result
satisfies the postcondition. Where nobody else moves the store, an agreement
may rely on the store standing still.
-/

namespace ReadCommitted

variable {S : Schema}

namespace Agreement

/-- What a connection did since an earlier moment respects an agreement. -/
structure Respects (C : Agreement S) (before after : Connection S) : Prop where
  commits : ∃ new, after.commits = before.commits ++ new ∧
    (∀ entry ∈ new, ∃ held, C.commit held entry.2 entry.1) ∧
      after.store = replay (new.flatMap Prod.snd) before.store
  asked : ∃ new, after.asked = before.asked ++ new ∧ ∀ query ∈ new, C.asks query

variable {C : Agreement S}

theorem Respects.refl (connection : Connection S) : C.Respects connection connection :=
  ⟨⟨[], by simp⟩, ⟨[], by simp⟩⟩

theorem Respects.trans {first second third : Connection S} (early : C.Respects first second)
    (late : C.Respects second third) : C.Respects first third := by
  obtain ⟨⟨old, oldCommits, oldFine, oldStore⟩, ⟨asked, oldAsked, oldPermitted⟩⟩ := early
  obtain ⟨⟨new, newCommits, newFine, newStore⟩, ⟨asking, newAsked, newPermitted⟩⟩ := late
  constructor
  · refine ⟨old ++ new, by rw [newCommits, oldCommits, List.append_assoc], ?_, ?_⟩
    · exact fun entry member =>
        (List.mem_append.mp member).elim (oldFine entry) (newFine entry)
    · rw [newStore, oldStore, List.flatMap_append, replay_append]
  · refine ⟨asked ++ asking, by rw [newAsked, oldAsked, List.append_assoc], ?_⟩
    exact fun query member =>
      (List.mem_append.mp member).elim (oldPermitted query) (newPermitted query)

/-- What is not committed does not count. -/
theorem Respects.uncommitted {connection after : Connection S} {log : List S.Write}
    (respects : C.Respects { connection with log := log } after) :
    C.Respects connection after :=
  ⟨respects.commits, respects.asked⟩

/-- A program that runs alone ends as its weakest precondition says, and respects the
agreement on the way. -/
theorem wp_run [C.Unrestricted] (answers : Answers S) {program : Prog S α}
    {post : α → List (Held S) → List S.Write → S.Store → Prop} {held : List (Held S)}
    (connection : Connection S) (invariant : C.inv connection.store)
    (holds : C.wp program post held connection.log connection.store) :
    C.inv (program.run answers connection).2.store ∧
      C.Respects connection (program.run answers connection).2 ∧
      ∃ held, post (program.run answers connection).1 held
        (program.run answers connection).2.log (program.run answers connection).2.store := by
  induction program generalizing held connection with
  | ret value => exact ⟨invariant, .refl connection, held, holds⟩
  | read next inductionHypothesis =>
      exact inductionHypothesis _ connection invariant (holds _ (.refl invariant))
  | lock resources next inductionHypothesis =>
      exact inductionHypothesis connection invariant (holds _ (.refl invariant))
  | write statement next inductionHypothesis =>
      obtain ⟨passed, refused⟩ := holds _ (.refl invariant)
      by_cases accepted : S.accepts statement connection.view = true
      · obtain ⟨kept, respects, result⟩ := inductionHypothesis true
          { connection with log := connection.log ++ [statement] } invariant
          (passed accepted)
        rw [Prog.run, if_pos accepted]
        exact ⟨kept, respects.uncommitted, result⟩
      · rw [Prog.run, if_neg accepted]
        exact inductionHypothesis false connection invariant (refused (Bool.eq_false_iff.mpr accepted))
  | commit next inductionHypothesis =>
      obtain ⟨committed, rest⟩ := holds _ (.refl invariant)
      obtain ⟨kept, respects, result⟩ := inductionHypothesis
        { connection with
          store := connection.view
          log := []
          commits := connection.commits ++ [(connection.store, connection.log)] }
        (C.inv_replay invariant committed Unrestricted.excludes)
        (rest Unrestricted.excludes)
      refine ⟨kept, Respects.trans ?_ respects, result⟩
      refine ⟨⟨[(connection.store, connection.log)], rfl, ?_, ?_⟩, ⟨[], by simp⟩⟩
      · intro entry member
        rw [List.mem_singleton.mp member]
        exact ⟨held, committed⟩
      · simp [Connection.view]
  | rollback next inductionHypothesis =>
      obtain ⟨kept, respects, result⟩ := inductionHypothesis
        { connection with log := [] } invariant (holds _ (.refl invariant))
      exact ⟨kept, respects.uncommitted, result⟩
  | ask query next inductionHypothesis =>
      obtain ⟨kept, respects, result⟩ := inductionHypothesis
        (answers query connection.asked.length)
        { connection with asked := connection.asked ++ [query] } invariant
        (holds.2 _)
      refine ⟨kept, Respects.trans ⟨⟨[], by simp⟩, ⟨[query], rfl, ?_⟩⟩ respects, result⟩
      intro other member
      rw [List.mem_singleton.mp member]
      exact holds.1

end Agreement

namespace Orm

variable {ε : Type} {C : Agreement S}

/-- A session program that runs alone ends as its weakest precondition says. -/
theorem wp_run [C.Unrestricted] (answers : Answers S) {program : Orm S ε α}
    {post : Except ε α → Point S → Prop} {held : List (Held S)} (alone : Alone S)
    (invariant : C.inv alone.store)
    (holds : program.wp C post ⟨alone.pending, held, alone.log, alone.store⟩) :
    C.inv (program.run answers alone).2.store ∧
      C.Respects alone.toConnection (program.run answers alone).2.toConnection ∧
      ∃ held, post (program.run answers alone).1
        ⟨(program.run answers alone).2.pending, held, (program.run answers alone).2.log,
          (program.run answers alone).2.store⟩ :=
  Agreement.wp_run answers alone.toConnection invariant holds

end Orm

/-- Opened on a store that keeps the invariant, a program that keeps its session ready
respects the agreement. -/
theorem Keeps.run {C : Agreement S} [C.Unrestricted] {Benign : S.Write → Prop} [C.Admits Benign]
    {ε : Type}
    {program : Orm S ε α} (kept : Keeps C Benign program) (answers : Answers S) {store : S.Store}
    (invariant : C.inv store) :
    C.inv (program.serve answers store).2 ∧
      C.Respects ⟨store, [], [], []⟩ (program.run answers (.opened store)).2.toConnection :=
  have outcome := Orm.wp_run answers (.opened store) invariant
    (kept.keeps _ (Ready.fresh invariant))
  ⟨outcome.1, outcome.2.1⟩

/-! ## Programs that only read -/

/-- A program that leaves the session as it found it when it runs alone. -/
class Reads {ε : Type} (program : Orm S ε α) : Prop where
  reads : ∀ (answers : Answers S) (alone : Alone S), (program.run answers alone).2 = alone

namespace Reads

variable {ε : Type}

instance pure (value : α) : Reads (Pure.pure value : Orm S ε α) := ⟨fun _ _ => rfl⟩

instance throw (exception : ε) : Reads (MonadExcept.throw exception : Orm S ε α) :=
  ⟨fun _ _ => rfl⟩

instance select (query : S.Store → α) : Reads (Orm.select query : Orm S ε α) := ⟨fun _ _ => rfl⟩

instance bind (program : Orm S ε α) (rest : α → Orm S ε β) [first : Reads program]
    [second : ∀ value, Reads (rest value)] : Reads (program >>= rest) where
  reads answers alone := by
    have kept := first.reads answers alone
    rw [Orm.run_bind]
    cases ran : program.run answers alone with
    | mk result later =>
        obtain rfl : later = alone := (congrArg Prod.snd ran).symm.trans kept
        cases result with
        | ok value => exact (second value).reads answers later
        | error exception => rfl

instance require (condition : Prop) [Decidable condition] (exception : ε) :
    Reads (Orm.require condition exception : Orm S ε Unit) := by
  unfold Orm.require
  split <;> infer_instance

instance found (value : Option α) (exception : ε) :
    Reads (Orm.found value exception : Orm S ε α) := by
  unfold Orm.found
  split <;> infer_instance

instance branch (value : Option α) (absent : Orm S ε β) (present : α → Orm S ε β)
    [Reads absent] [∀ content, Reads (present content)] :
    Reads (Orm.branch value absent present) := by
  unfold Orm.branch
  split <;> infer_instance

instance ite (condition : Prop) [Decidable condition] (first second : Orm S ε α) [Reads first]
    [Reads second] : Reads (if condition then first else second) := by
  split <;> infer_instance

end Reads

/-! ## Agreements with oneself -/

/-- Nobody else moves the store: each committed statement and each question is permitted. -/
def solo (permits : S.Store → S.Write → Prop) (asks : S.Query → Prop) : Agreement S where
  inv _ := True
  le := Eq
  commit _ log store := ∀ write ∈ log, permits store write
  asks := asks
  le_refl _ := rfl
  le_trans := Eq.trans
  inv_replay _ _ _ := trivial

section

variable {permits : S.Store → S.Write → Prop} {asks : S.Query → Prop}

instance : (solo permits asks).Unrestricted := ⟨id⟩

@[simp] theorem solo_rely {held : List (Held S)} {store later : S.Store} :
    (solo permits asks).Rely held store later ↔ later = store := by
  constructor
  · exact fun rely => rely.le.symm
  · rintro rfl
    exact .refl trivial

/-- Statements that are permitted at all times may be mixed in anywhere. -/
instance : (solo permits asks).Admits fun write => ∀ store, permits store write where
  commit_nil _ _ member := absurd member List.not_mem_nil
  commit_held _ _ committed := committed
  commit_write _ benign committed _ write member := by
    rcases List.mem_append.mp member with old | new
    · exact committed write old
    · rw [List.mem_singleton.mp new]
      exact benign _

end

end ReadCommitted
