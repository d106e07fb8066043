import ControlPlane.Library.RunningAlone

/-!
# Programs that only read and ask

A session that runs alone comes out of such a program as it went in, but for the
questions that it asked. What is recorded before is then what the next commit
writes.
-/

namespace ReadCommitted

variable {S : Schema} {ε : Type}

/-- A program that leaves the session as it found it, but for what it asked. -/
class Consults (program : Orm S ε α) : Prop where
  consults : ∀ (answers : Answers S) (alone : Alone S), ∃ asked,
    (program.run answers alone).2 = { alone with asked := alone.asked ++ asked }

namespace Consults

instance reads (program : Orm S ε α) [reading : Reads program] : Consults program where
  consults answers alone := ⟨[], by rw [reading.reads answers alone, List.append_nil]⟩

instance ask (query : S.Query) :
    Consults (α := no_index (S.Answer query)) (Orm.ask query : Orm S ε _) where
  consults _ _ := ⟨[query], rfl⟩

instance bind (program : Orm S ε α) (rest : α → Orm S ε β) [first : Consults program]
    [second : ∀ value, Consults (rest value)] : Consults (program >>= rest) where
  consults answers alone := by
    obtain ⟨early, asked⟩ := first.consults answers alone
    rw [Orm.run_bind]
    cases ran : program.run answers alone with
    | mk result later =>
        rw [ran] at asked
        obtain rfl : later = _ := asked
        cases result with
        | ok value =>
            obtain ⟨late, more⟩ := (second value).consults answers
              { alone with asked := alone.asked ++ early }
            refine ⟨early ++ late, more.trans ?_⟩
            rw [← List.append_assoc]
        | error exception => exact ⟨early, rfl⟩

instance forEach (items : List α) (body : α → Orm S ε Unit) [each : ∀ item, Consults (body item)] :
    Consults (Orm.forEach items body) := by
  induction items with
  | nil => exact reads (Pure.pure ())
  | cons item items inductionHypothesis => exact bind (body item) fun _ => Orm.forEach items body

end Consults

/-- A session that commits after such a program writes what it had recorded. -/
theorem store_of_consults_commit [DatabaseFailure ε] {program : Orm S ε α} [asks : Consults program]
    {answers : Answers S} {alone later : Alone S}
    (ran : (program >>= fun _ => Orm.commit).run answers alone = (.ok (), later)) :
    later.store = replay alone.pending alone.view ∧ alone.asked ⊆ later.asked := by
  obtain ⟨asked, same⟩ := asks.consults answers alone
  rw [Orm.run_bind] at ran
  cases first : program.run answers alone with
  | mk result middle =>
      rw [first] at same ran
      obtain rfl : middle = _ := same
      cases result with
      | error exception => cases ran
      | ok value =>
          dsimp only at ran
          rw [Orm.run_commit] at ran
          split at ran
          · cases ran
            exact ⟨rfl, List.subset_append_left _ _⟩
          · cases ran

end ReadCommitted
