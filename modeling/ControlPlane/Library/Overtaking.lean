import ControlPlane.Library.UnitOfWork

/-!
# A session that is overtaken

A session begins with queries, which take no locks. Another session may then run
from its first statement to its last one, and the first session goes on with
what it read before.
-/

namespace ReadCommitted

variable {S : Schema}

/-- What remains of a program after some queries on a store. -/
def Prog.afterQueries (answers : Answers S) (store : S.Store) : Nat → Prog S α → Prog S α
  | count + 1, .read next => (next store).afterQueries answers store count
  | count + 1, .ask query next => (next (answers query count)).afterQueries answers store count
  | _, program => program

namespace World

variable {ι ρ : Type} [DecidableEq ι] {Allowed : Prog S ρ → Prop} {session : ι}

/-- The first queries of a session change nothing but what remains of it. -/
theorem steps_afterQueries (answers : Answers S) (count : Nat) {program : Prog S ρ}
    {world : World S ι ρ} (running : world.threads session = some ⟨[], [], program⟩) :
    ∃ later, Relation.ReflTransGen (Step Allowed) world later ∧ later.store = world.store ∧
      (∀ other, other ≠ session → later.threads other = world.threads other) ∧
        later.threads session = some ⟨[], [], program.afterQueries answers world.store count⟩ := by
  induction count generalizing program world with
  | zero => exact ⟨world, .refl, rfl, fun _ _ => rfl, by cases program <;> exact running⟩
  | succ count inductionHypothesis =>
      cases program with
      | read next =>
          obtain ⟨later, steps, same, kept, last⟩ := inductionHypothesis
            (put_threads_self world _ :
              (world.put session (some ⟨[], [], next world.store⟩)).threads session = _)
          exact ⟨later, .head (.read world session [] [] next running) steps, same,
            fun other different =>
              (kept other different).trans (put_threads_of_ne world _ different), last⟩
      | ask query next =>
          obtain ⟨later, steps, same, kept, last⟩ := inductionHypothesis
            (put_threads_self world _ :
              (world.put session (some ⟨[], [], next (answers query count)⟩)).threads session = _)
          exact ⟨later, .head (.ask world session [] [] query _ next running) steps, same,
            fun other different =>
              (kept other different).trans (put_threads_of_ne world _ different), last⟩
      | _ => exact ⟨world, .refl, rfl, fun _ _ => rfl, running⟩

/-- While one session has only asked queries, another one may run to its end before it goes on. -/
theorem Quiet.overtaken {store : S.Store} {world : World S ι ρ} (quiet : world.Quiet)
    (reached : Reachable Allowed store world) {slow fast : ι} (different : slow ≠ fast)
    (queried : Answers S) (count : Nat) (answers resumed : Answers S) {first second : Prog S ρ}
    (firstAllowed : Allowed first) (secondAllowed : Allowed second) :
    ∃ middle last : World S ι ρ, Reachable Allowed store middle ∧
      Relation.ReflTransGen (Step Allowed) middle last ∧ last.Quiet ∧
        middle.store = (second.run answers ⟨world.store, [], [], []⟩).2.store ∧
          last.store = ((first.afterQueries queried world.store count).run resumed
            ⟨middle.store, [], [], []⟩).2.store := by
  obtain ⟨begun, begins, untouched, waiting, remaining⟩ :
      ∃ later, Relation.ReflTransGen (Step Allowed) _ later ∧ _ ∧ _ ∧ _ :=
    steps_afterQueries queried count (put_threads_self world (some ⟨[], [], first⟩) :
      (world.put slow _).threads slow = _)
  have others : ∀ other, other ≠ slow → begun.threads other = none := fun other apart =>
    (waiting other apart).trans ((put_threads_of_ne world _ apart).trans (quiet other))
  have unlocked : (begun.put fast (some ⟨[], [], second⟩)).Unlocked fast := by
    intro other apart thread found
    rw [put_threads_of_ne begun _ apart] at found
    by_cases own : other = slow
    · rw [own, remaining] at found
      exact (Option.some.inj found) ▸ rfl
    · rw [others other own] at found
      cases found
  obtain ⟨middle, runs, kept, same, _⟩ :
      ∃ last, Relation.ReflTransGen (Step Allowed) _ last ∧ _ ∧ _ ∧ _ :=
    unlocked.run answers (put_threads_self begun _) [] []
  have overtaken : middle.threads slow =
      some ⟨[], [], first.afterQueries queried world.store count⟩ :=
    (kept slow different).trans ((put_threads_of_ne begun _ different).trans remaining)
  have closed : (middle.put fast none).Unlocked slow := by
    intro other apart thread found
    by_cases own : other = fast
    · rw [own, put_threads_self] at found
      cases found
    · rw [put_threads_of_ne middle _ own, kept other own, put_threads_of_ne begun _ own,
        others other apart] at found
      cases found
  obtain ⟨last, resumes, idle, final, _⟩ :
      ∃ last, Relation.ReflTransGen (Step Allowed) _ last ∧ _ ∧ _ ∧ _ :=
    closed.run resumed ((put_threads_of_ne middle _ different).trans overtaken) [] []
  refine ⟨middle, last.put slow none, ?_, ?_, fun other => ?_, ?_, final⟩
  · exact .trans (.tail reached (.start world slow first (quiet slow) firstAllowed))
      (.trans begins (.head (.start begun fast second (others fast different.symm) secondAllowed)
        runs))
  · exact .head (.close middle fast) (.tail resumes (.close last slow))
  · by_cases own : other = slow
    · rw [own]
      exact put_threads_self ..
    · rw [put_threads_of_ne last _ own, idle other own]
      by_cases ahead : other = fast
      · rw [ahead]
        exact put_threads_self ..
      · rw [put_threads_of_ne middle _ ahead, kept other ahead, put_threads_of_ne begun _ ahead]
        exact others other own
  · rw [same]
    exact congrArg (fun opened => (second.run answers ⟨opened, [], [], []⟩).2.store) untouched

end World

end ReadCommitted
