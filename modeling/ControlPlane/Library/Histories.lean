import ControlPlane.Library.ReadCommitted

/-!
# Histories of commits

The committed store changes with each commit and with nothing else. What the
commits of a run keep, one after the other, holds at its end.
-/

namespace ReadCommitted.World

variable {S : Schema} {ι ρ : Type} [DecidableEq ι] {Allowed : Prog S ρ → Prop}
  {world later : World S ι ρ}

/-- One statement changes nothing that is committed, or is the next commit. -/
theorem Step.commits_cases (step : Step Allowed world later) :
    (later.store = world.store ∧ later.commits = world.commits) ∨
      ∃ committed, committed.before = world.store ∧ later.store = committed.after ∧
        later.commits = world.commits ++ [committed] := by
  cases step with
  | commit session held log next running =>
      exact .inr ⟨⟨held, log, world.store⟩, rfl, rfl, rfl⟩
  | _ => exact .inl ⟨rfl, rfl⟩

/-- The commits so far stay on record. -/
theorem commits_prefix (steps : Relation.ReflTransGen (Step Allowed) world later) :
    world.commits <+: later.commits := by
  induction steps with
  | refl => exact List.prefix_rfl
  | tail _ step inductionHypothesis =>
      obtain ⟨_, same⟩ | ⟨committed, _, _, extended⟩ := step.commits_cases
      · rwa [same]
      · rw [extended]
        exact inductionHypothesis.trans (List.prefix_append _ _)

/-- What each commit of a run keeps holds at its end. -/
theorem holds_of_commits {motive : S.Store → Prop}
    (steps : Relation.ReflTransGen (Step Allowed) world later) (opening : motive world.store)
    (kept : ∀ committed ∈ later.commits, motive committed.before → motive committed.after) :
    motive later.store := by
  induction steps with
  | refl => exact opening
  | @tail middle last earlier step inductionHypothesis =>
      have extended := commits_prefix (Relation.ReflTransGen.single step)
      have before := inductionHypothesis fun committed member =>
        kept committed (extended.subset member)
      obtain ⟨same, _⟩ | ⟨committed, own, moved, recorded⟩ := step.commits_cases
      · rwa [same]
      · rw [moved]
        refine kept committed ?_ (own ▸ before)
        rw [recorded]
        exact List.mem_append_right _ (List.mem_singleton_self _)

/-- What the commits of a run keep holds from the commit on that brings it about. -/
theorem holds_since {motive : S.Store → Prop} {store : S.Store}
    (reached : Reachable Allowed store world)
    (kept : ∀ committed ∈ world.commits, motive committed.before → motive committed.after)
    {committed : Committed S} (member : committed ∈ world.commits)
    (brought : motive committed.after) : motive world.store := by
  induction reached with
  | refl => exact absurd member List.not_mem_nil
  | @tail middle last earlier step inductionHypothesis =>
      obtain ⟨same, unchanged⟩ | ⟨newest, own, moved, recorded⟩ := step.commits_cases
      · rw [same]
        rw [unchanged] at kept member
        exact inductionHypothesis kept member
      · rw [recorded] at kept member
        rw [moved]
        rcases List.mem_append.mp member with old | new
        · refine kept newest (List.mem_append_right _ (List.mem_singleton_self _)) (own ▸ ?_)
          exact inductionHypothesis
            (fun other among => kept other (List.mem_append_left _ among)) old
        · rwa [← List.mem_singleton.mp new]

/-- What the commits of a run keep holds before and after each of them. -/
theorem holds_throughout {motive : S.Store → Prop} {store : S.Store}
    (reached : Reachable Allowed store world) (opening : motive store)
    (kept : ∀ committed ∈ world.commits, motive committed.before → motive committed.after)
    {committed : Committed S} (member : committed ∈ world.commits) :
    motive committed.before ∧ motive committed.after := by
  suffices before : motive committed.before from ⟨before, kept committed member before⟩
  induction reached with
  | refl => exact absurd member List.not_mem_nil
  | @tail middle last earlier step inductionHypothesis =>
      obtain ⟨_, unchanged⟩ | ⟨newest, own, _, recorded⟩ := step.commits_cases
      · rw [unchanged] at kept member
        exact inductionHypothesis kept member
      · rw [recorded] at kept member
        have early : ∀ other ∈ middle.commits, motive other.before → motive other.after :=
          fun other among => kept other (List.mem_append_left _ among)
        rcases List.mem_append.mp member with old | new
        · exact inductionHypothesis early old
        · rw [List.mem_singleton.mp new, own]
          exact holds_of_commits earlier opening early

/-- A store that was committed at some time: the first one, or the one after some commit. -/
def Past (store : S.Store) (world : World S ι ρ) (earlier : S.Store) : Prop :=
  earlier = store ∨ ∃ committed ∈ world.commits, earlier = committed.after

/-- Where every commit moves the store along an order, it has moved so since any time. -/
theorem moves_since {le : S.Store → S.Store → Prop} {store earlier : S.Store}
    (reached : Reachable Allowed store world) (refl : ∀ store, le store store)
    (trans : ∀ {first second third}, le first second → le second third → le first third)
    (moves : ∀ committed ∈ world.commits, le committed.before committed.after)
    (past : Past store world earlier) : le earlier world.store := by
  have kept : ∀ committed ∈ world.commits, le earlier committed.before → le earlier committed.after :=
    fun committed member before => trans before (moves committed member)
  rcases past with rfl | ⟨committed, member, rfl⟩
  · exact holds_of_commits reached (refl _) kept
  · exact holds_since reached kept member (refl _)

end ReadCommitted.World
