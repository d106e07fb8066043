import ControlPlane.Library.Paths
import ControlPlane.Library.RelyGuarantee

/-!
# What sessions return

A result that a program guarantees, and that no commit of another session takes
back, holds of every session that has returned, in every interleaving. What
holds on every path through a program holds of what is left of it.
-/

namespace ReadCommitted

variable {S : Schema} {ι ρ : Type} [DecidableEq ι]

/-- What every session still returns, in every interleaving. -/
theorem Agreement.returns {C : Agreement S} [C.Shared] [C.Unrestricted] {Allowed : Prog S ρ → Prop}
    {post : ρ → S.Store → Prop}
    (stable : ∀ value store later, C.le store later → post value store → post value later)
    (allowed : ∀ program, Allowed program → ∀ store, C.inv store →
      C.wp program (fun value _ _ store => post value store) [] [] store)
    {store : S.Store} (invariant : C.inv store) {world : World S ι ρ}
    (reached : World.Reachable Allowed store world) :
    C.Sound world ∧ ∀ session thread, world.threads session = some thread →
      C.wp thread.program (fun value _ _ store => post value store) thread.held thread.log
        world.store := by
  have meets : ∀ program, Allowed program → C.Meets program := fun program permitted store held =>
    C.wp_mono (fun _ _ _ _ _ => trivial) (allowed program permitted store held)
  induction reached with
  | refl => exact ⟨.initial invariant, by simp [World.initial]⟩
  | @tail world _ _ last inductionHypothesis =>
      obtain ⟨sound, returning⟩ := inductionHypothesis
      refine ⟨sound.step meets last, ?_⟩
      -- Replacing one session without a commit leaves the others as they were.
      have put (session : ι) (thread : Thread S ρ)
          (returns : C.wp thread.program (fun value _ _ store => post value store) thread.held
            thread.log world.store) (other : ι) (current : Thread S ρ)
          (found : (world.put session (some thread)).threads other = some current) :
          C.wp current.program (fun value _ _ store => post value store) current.held current.log
            world.store := by
        by_cases same : other = session
        · subst same
          simp only [World.put, Function.update_self, Option.some.injEq] at found
          subst found
          exact returns
        · simp only [World.put, Function.update_of_ne same] at found
          exact returning other current found
      cases last with
      | start session program idle permitted =>
          exact put session _ (allowed program permitted _ sound.inv)
      | read session held log next found =>
          exact put session _ (returning session _ found world.store (.refl sound.inv))
      | lock session held log resources next found grants =>
          exact put session _ (returning session _ found world.store (.refl sound.inv))
      | write session held log statement next found grants accepted =>
          exact put session _ ((returning session _ found world.store (.refl sound.inv)).1 accepted)
      | refuse session held log statement next found grants refused =>
          exact put session _ ((returning session _ found world.store (.refl sound.inv)).2 refused)
      | rollback session held log next found =>
          exact put session _ (returning session _ found world.store (.refl sound.inv))
      | ask session held log query answer next found =>
          exact put session _ ((returning session _ found).2 answer)
      | commit session held log next found =>
          obtain ⟨committed, rest⟩ := returning session _ found world.store (.refl sound.inv)
          intro other current foundOther
          by_cases same : other = session
          · subst same
            simp only [World.put, Function.update_self, Option.some.injEq] at foundOther
            subst foundOther
            exact rest Unrestricted.excludes
          · simp only [World.put, Function.update_of_ne same] at foundOther
            exact C.wp_rely (fun value _ _ store later rely => stable value store later rely.le)
              (sound.rely_of_commit found foundOther same committed Unrestricted.excludes)
              (returning other current foundOther)
      | close session =>
          intro other current foundOther
          by_cases same : other = session
          · subst same
            simp [World.put] at foundOther
          · simp only [World.put, Function.update_of_ne same] at foundOther
            exact returning other current foundOther

/-- After a commit every path ends with the bit set. -/
theorem Prog.Paths.committed {post : Bool → ρ → Prop} {program : Prog S ρ}
    (holds : program.Paths post true) : program.Paths (fun _ => post true) true := by
  induction program with
  | ret value => exact holds
  | read next inductionHypothesis => exact fun store => inductionHypothesis store (holds store)
  | lock resources next inductionHypothesis => exact inductionHypothesis holds
  | write statement next inductionHypothesis =>
      exact fun accepted => inductionHypothesis accepted (holds accepted)
  | commit next inductionHypothesis => exact inductionHypothesis holds
  | rollback next inductionHypothesis => exact inductionHypothesis holds
  | ask query next inductionHypothesis =>
      exact fun answer => inductionHypothesis answer (holds answer)

namespace World

variable {Allowed : Prog S ρ → Prop} {post : Bool → ρ → Prop} {store : S.Store}
  {world next : World S ι ρ}

/-- What is left of a session has the paths of its program, and whoever commits goes on with those
of a program that has. -/
theorem Step.paths (allowed : ∀ program, Allowed program → program.Paths post false)
    (before : ∀ session thread, world.threads session = some thread →
      ∃ committed, thread.program.Paths post committed) (step : Step Allowed world next) :
    (∀ session thread, next.threads session = some thread →
      ∃ committed, thread.program.Paths post committed) ∧
    ((next.store = world.store ∧ next.commits = world.commits) ∨ ∃ session program,
      next.threads session = some ⟨[], [], program⟩ ∧ program.Paths (fun _ => post true) true) := by
  have put (session : ι) (thread : Thread S ρ)
      (follows : ∃ committed, thread.program.Paths post committed) (other : ι)
      (current : Thread S ρ)
      (found : (world.put session (some thread)).threads other = some current) :
      ∃ committed, current.program.Paths post committed := by
    by_cases same : other = session
    · subst same
      simp only [World.put, Function.update_self, Option.some.injEq] at found
      subst found
      exact follows
    · simp only [World.put, Function.update_of_ne same] at found
      exact before other current found
  cases step with
  | start session program idle permitted =>
      exact ⟨put session _ ⟨false, allowed program permitted⟩, .inl ⟨rfl, rfl⟩⟩
  | read session held log continuation found =>
      obtain ⟨committed, follows⟩ := before session _ found
      exact ⟨put session _ ⟨committed, follows _⟩, .inl ⟨rfl, rfl⟩⟩
  | lock session held log resources continuation found grants =>
      obtain ⟨committed, follows⟩ := before session _ found
      exact ⟨put session _ ⟨committed, follows⟩, .inl ⟨rfl, rfl⟩⟩
  | write session held log statement continuation found grants accepted =>
      obtain ⟨committed, follows⟩ := before session _ found
      exact ⟨put session _ ⟨committed, follows true⟩, .inl ⟨rfl, rfl⟩⟩
  | refuse session held log statement continuation found grants refused =>
      obtain ⟨committed, follows⟩ := before session _ found
      exact ⟨put session _ ⟨committed, follows false⟩, .inl ⟨rfl, rfl⟩⟩
  | rollback session held log continuation found =>
      obtain ⟨committed, follows⟩ := before session _ found
      exact ⟨put session _ ⟨committed, follows⟩, .inl ⟨rfl, rfl⟩⟩
  | ask session held log query answer continuation found =>
      obtain ⟨committed, follows⟩ := before session _ found
      exact ⟨put session _ ⟨committed, follows answer⟩, .inl ⟨rfl, rfl⟩⟩
  | commit session held log continuation found =>
      obtain ⟨committed, follows⟩ := before session _ found
      refine ⟨put session _ ⟨true, follows⟩, .inr ⟨session, continuation, ?_, ?_⟩⟩
      · simp [World.put]
      · exact Prog.Paths.committed follows
  | close session =>
      refine ⟨fun other current found => ?_, .inl ⟨rfl, rfl⟩⟩
      by_cases same : other = session
      · subst same
        simp [World.put] at found
      · simp only [World.put, Function.update_of_ne same] at found
        exact before other current found

/-- What is left of each session has the paths of its program, in every interleaving. -/
theorem Reachable.paths (allowed : ∀ program, Allowed program → program.Paths post false)
    (reached : Reachable Allowed store world) :
    ∀ session thread, world.threads session = some thread →
      ∃ committed, thread.program.Paths post committed := by
  induction reached with
  | refl => simp [World.initial]
  | tail _ last inductionHypothesis => exact (Step.paths allowed inductionHypothesis last).1

end World

end ReadCommitted
