import ControlPlane.Library.Dues
import ControlPlane.Library.Histories

/-!
# Disciplines

A discipline says which statements sessions may send, and what these statements
keep of the store and how they move it, one at a time. In every world that
disciplined sessions reach, every committed statement is of that kind.
-/

namespace ReadCommitted

/-- What sessions may send, and what comes of it. -/
structure Discipline (S : Schema) where
  /-- The statements that sessions may send. -/
  Kind : S.Write → Prop
  /-- What holds of the store. -/
  inv : S.Store → Prop
  /-- How the store moves. -/
  le : S.Store → S.Store → Prop
  le_refl : ∀ store, le store store
  le_trans : ∀ {first second third}, le first second → le second third → le first third
  inv_apply : ∀ {statement store}, Kind statement → inv store → inv (S.apply statement store)
  le_apply : ∀ {statement store}, Kind statement → le store (S.apply statement store)

namespace Discipline

variable {S : Schema}

/-- A discipline about nothing but the statements. -/
def plain (Kind : S.Write → Prop) : Discipline S where
  Kind := Kind
  inv _ := True
  le _ _ := True
  le_refl _ := trivial
  le_trans _ _ := trivial
  inv_apply _ _ := trivial
  le_apply _ := trivial

variable (discipline : Discipline S)

/-- Disciplined logs keep the invariant. -/
theorem inv_replay {log : List S.Write} {store : S.Store}
    (kinds : ∀ statement ∈ log, discipline.Kind statement) (before : discipline.inv store) :
    discipline.inv (replay log store) := by
  induction log generalizing store with
  | nil => exact before
  | cons statement log inductionHypothesis =>
      exact inductionHypothesis (fun other member => kinds other (List.mem_cons_of_mem _ member))
        (discipline.inv_apply (kinds statement List.mem_cons_self) before)

/-- Disciplined logs move the store as the discipline says. -/
theorem le_replay {log : List S.Write} {store : S.Store}
    (kinds : ∀ statement ∈ log, discipline.Kind statement) :
    discipline.le store (replay log store) := by
  induction log generalizing store with
  | nil => exact discipline.le_refl store
  | cons statement log inductionHypothesis =>
      exact discipline.le_trans (discipline.le_apply (kinds statement List.mem_cons_self))
        (inductionHypothesis fun other member => kinds other (List.mem_cons_of_mem _ member))

/-- Committing statements of the kind only. -/
def agreement : Agreement S where
  inv := discipline.inv
  le := discipline.le
  commit _ log store := acceptsAll log store = true ∧ ∀ statement ∈ log, discipline.Kind statement
  le_refl := discipline.le_refl
  le_trans := discipline.le_trans
  inv_replay before committed _ := discipline.inv_replay committed.2 before

/-- Writing statements of the kind only. -/
def law : Law S := fun _ log _ => ∀ statement ∈ log, discipline.Kind statement

instance : discipline.agreement.Shared where
  le_replay _ committed _ := discipline.le_replay committed.2

instance : discipline.agreement.Unrestricted := ⟨id⟩

instance (query : S.Query) : discipline.agreement.Asks query := ⟨trivial⟩

instance : discipline.agreement.Sanctions discipline.Kind discipline.law where
  held _ lawful := lawful
  benign {held first last statement store} kind lawful := by
    intro other member
    rcases List.mem_append.mp member with early | late
    · exact lawful other (List.mem_append_left _ early)
    · rcases List.mem_cons.mp late with rfl | late
      · exact kind
      · exact lawful other (List.mem_append_right _ late)
  nil _ := by rintro _ ⟨⟩
  commit _ accepted lawful := ⟨accepted, lawful⟩

/-- A program that keeps to a discipline. -/
abbrev Keeps {ε : Type} (program : Orm S ε α) : Prop :=
  Sustains discipline.agreement discipline.Kind discipline.law program

variable {ι ρ : Type} [DecidableEq ι] {Allowed : Prog S ρ → Prop} {store : S.Store}
  {world : World S ι ρ}

/-- Disciplined sessions commit statements of the kind only. -/
theorem commits (meets : ∀ program, Allowed program → discipline.agreement.Meets program)
    (opening : discipline.inv store) (reached : World.Reachable Allowed store world)
    {committed : Committed S} (member : committed ∈ world.commits) :
    acceptsAll committed.log committed.before = true ∧
      ∀ statement ∈ committed.log, discipline.Kind statement := by
  have sound : discipline.agreement.Sound world :=
    Agreement.Sound.reachable meets opening reached
  exact (sound.commits committed member).2

/-- Disciplined sessions keep the invariant. -/
theorem inv_reachable (meets : ∀ program, Allowed program → discipline.agreement.Meets program)
    (opening : discipline.inv store) (reached : World.Reachable Allowed store world) :
    discipline.inv world.store :=
  (Agreement.Sound.reachable meets opening reached).inv

/-- Disciplined sessions only move the store as the discipline says, from any time on. -/
theorem le_since (meets : ∀ program, Allowed program → discipline.agreement.Meets program)
    (opening : discipline.inv store) (reached : World.Reachable Allowed store world)
    {earlier : S.Store} (past : World.Past store world earlier) : discipline.le earlier world.store :=
  World.moves_since reached discipline.le_refl discipline.le_trans
    (fun _ member => discipline.le_replay (discipline.commits meets opening reached member).2) past

end Discipline

end ReadCommitted
