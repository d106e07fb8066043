import ControlPlane.Database
import Mathlib.Data.List.Induction

/-!
# The readings of a binding

Each observation of a binding moves its checkpoint and appends usage rows. A
row that starts a baseline, advances the checkpoint or resets it is an anchor;
the rows after the last anchor are readings below the checkpoint, and enough of
them in a row reset it. What the checkpoint and the rows say about each other
is stated for every point of the list of rows.
-/

namespace ControlPlane

open ReadCommitted

/-- What the database says about the metering of a binding: its checkpoints, and its usage rows,
the oldest one first. -/
structure Gauge where
  checkpoints : List Checkpoint
  readings : List Usage
  deriving DecidableEq

/-- The rows a checkpoint is taken from: `baseline`, `accepted` and `reset_baseline`. -/
def anchors (row : Usage) : Bool :=
  row.status ∈ [UsageStatus.baseline, .accepted, .resetBaseline]

/-- The latest row that a checkpoint was taken from. -/
def latestAnchor (readings : List Usage) : Option Usage := readings.reverse.find? anchors

/-- The number of `regression` rows since the latest anchor. -/
def regressionsSince (readings : List Usage) : Nat :=
  (readings.reverse.takeWhile fun row => row.status = .regression).length

/-- What a row may be, given the rows before it: it resets the checkpoint exactly when so many
readings in a row were below it, and only then is an anchor below the one before. -/
structure Rule (confirm : Int) (before : List Usage) (row : Usage) : Prop where
  resets : row.status = .resetBaseline ↔ (regressionsSince before : Int) = confirm
  falls : anchors row = true → ∀ old, latestAnchor before = some old →
    row.lifetimeBytes < old.lifetimeBytes → row.status = .resetBaseline

/-- Every row follows the rule. -/
def Ruled (confirm : Int) (readings : List Usage) : Prop :=
  ∀ before row after, readings = before ++ row :: after → Rule confirm before row

/-- The checkpoint of a binding is the one that its usage rows tell. -/
structure Faithful (confirm : Int) (gauge : Gauge) : Prop where
  /-- Without a checkpoint nothing was read. -/
  unmetered : gauge.checkpoints = [] → gauge.readings = []
  single : gauge.checkpoints.length ≤ 1
  latest : ∀ checkpoint ∈ gauge.checkpoints, ∃ row, latestAnchor gauge.readings = some row ∧
    checkpoint.lifetimeBytes = row.lifetimeBytes
  count : ∀ checkpoint ∈ gauge.checkpoints,
    checkpoint.anomalyCount = regressionsSince gauge.readings ∧
      (checkpoint.anomalyCount : Int) < confirm
  ruled : Ruled confirm gauge.readings

/-! ## One more row -/

section

variable {readings : List Usage} {row : Usage}

theorem latestAnchor_concat (anchor : anchors row = true) :
    latestAnchor (readings ++ [row]) = some row := by
  simp [latestAnchor, anchor]

theorem latestAnchor_concat_regression (regression : row.status = .regression) :
    latestAnchor (readings ++ [row]) = latestAnchor readings := by
  simp [latestAnchor, anchors, regression]

theorem regressionsSince_concat (anchor : anchors row = true) :
    regressionsSince (readings ++ [row]) = 0 := by
  have other : row.status ≠ .regression := by
    intro regression
    simp [anchors, regression] at anchor
  simp [regressionsSince, other]

theorem regressionsSince_concat_regression (regression : row.status = .regression) :
    regressionsSince (readings ++ [row]) = regressionsSince readings + 1 := by
  simp [regressionsSince, regression]

theorem ruled_nil (confirm : Int) : Ruled confirm [] := by
  intro before row after same
  simp at same

/-- The rule is checked for the last row on its own. -/
theorem ruled_concat {confirm : Int} :
    Ruled confirm (readings ++ [row]) ↔ Ruled confirm readings ∧ Rule confirm readings row := by
  constructor
  · intro ruled
    refine ⟨fun before other after same => ?_, ruled readings row [] rfl⟩
    exact ruled before other (after ++ [row]) (by rw [same]; simp)
  · rintro ⟨ruled, last⟩ before other after same
    rcases List.eq_nil_or_concat after with rfl | ⟨inner, final, rfl⟩
    · obtain ⟨rfl, equal⟩ := List.append_inj' same rfl
      rw [← List.cons.inj equal |>.1]
      exact last
    · have split : readings ++ [row] = (before ++ other :: inner) ++ [final] := by
        rw [same]
        simp
      obtain ⟨rfl, _⟩ := List.append_inj' split rfl
      exact ruled before other inner rfl

end

/-- Where no row resets the checkpoint, the anchors do not fall. -/
theorem latestAnchor_le {confirm : Int} {readings more : List Usage}
    (ruled : Ruled confirm (readings ++ more))
    (resets : ∀ row ∈ more, row.status ≠ .resetBaseline) {old new : Usage}
    (first : latestAnchor readings = some old) (last : latestAnchor (readings ++ more) = some new) :
    old.lifetimeBytes ≤ new.lifetimeBytes := by
  induction more using List.reverseRecOn generalizing new with
  | nil =>
      rw [List.append_nil, first] at last
      exact le_of_eq (congrArg _ (Option.some.inj last))
  | append_singleton more row inductionHypothesis =>
      rw [← List.append_assoc] at ruled last
      obtain ⟨ruled, rule⟩ := ruled_concat.mp ruled
      have below : ∀ middle, latestAnchor (readings ++ more) = some middle →
          old.lifetimeBytes ≤ middle.lifetimeBytes := fun _ => inductionHypothesis ruled
        fun other member => resets other (List.mem_append_left _ member)
      cases anchor : anchors row with
      | true =>
          rw [latestAnchor_concat anchor] at last
          obtain rfl := Option.some.inj last
          obtain ⟨middle, found⟩ : ∃ middle, latestAnchor (readings ++ more) = some middle := by
            refine Option.isSome_iff_exists.mp (List.find?_isSome.mpr ?_)
            refine ⟨old, ?_, List.find?_some first⟩
            have member := List.mem_reverse.mp (List.mem_of_find?_eq_some first)
            exact List.mem_reverse.mpr (List.mem_append_left _ member)
          refine (below middle found).trans (not_lt.mp fun fall => ?_)
          exact resets row (List.mem_append_right _ (List.mem_singleton_self _))
            (rule.falls anchor middle found fall)
      | false =>
          have regression : row.status = .regression := by
            cases status : row.status <;> simp [anchors, status] at anchor ⊢
          rw [latestAnchor_concat_regression regression] at last
          exact below new last

/-! ## One more observation -/

section

variable {confirm : Int} {checkpoint next : Checkpoint} {readings : List Usage} {row : Usage}

/-- Before anything is read. -/
theorem faithful_unmetered (confirm : Int) : Faithful confirm ⟨[], []⟩ where
  unmetered _ := rfl
  single := Nat.zero_le _
  latest _ member := absurd member List.not_mem_nil
  count _ member := absurd member List.not_mem_nil
  ruled := ruled_nil confirm

/-- A row that the checkpoint is taken from. -/
theorem Faithful.of_anchor (ruled : Ruled confirm readings) (rule : Rule confirm readings row)
    (anchor : anchors row = true) (same : next.lifetimeBytes = row.lifetimeBytes)
    (zero : next.anomalyCount = 0) (positive : 0 < confirm) :
    Faithful confirm ⟨[next], readings ++ [row]⟩ where
  unmetered empty := absurd empty (List.cons_ne_nil _ _)
  single := le_refl _
  latest checkpoint member := by
    rw [List.mem_singleton.mp member]
    exact ⟨row, latestAnchor_concat anchor, same⟩
  count checkpoint member := by
    rw [List.mem_singleton.mp member, regressionsSince_concat anchor, zero]
    exact ⟨rfl, positive⟩
  ruled := ruled_concat.mpr ⟨ruled, rule⟩

/-- The first reading. -/
theorem Faithful.baseline (status : row.status = .baseline)
    (same : next.lifetimeBytes = row.lifetimeBytes) (zero : next.anomalyCount = 0)
    (positive : 0 < confirm) : Faithful confirm ⟨[next], [row]⟩ := by
  have anchor : anchors row = true := by simp [anchors, status]
  have rule : Rule confirm [] row := by
    constructor
    · rw [status]
      constructor
      · rintro ⟨⟩
      · intro full
        rw [← full] at positive
        exact absurd positive (lt_irrefl 0)
    · rintro _ old ⟨⟩
  exact .of_anchor (ruled_nil confirm) rule anchor same zero positive

/-- A rule for rows that do not reset the checkpoint. -/
theorem Faithful.rule (faithful : Faithful confirm ⟨[checkpoint], readings⟩)
    (status : row.status ≠ .resetBaseline)
    (above : anchors row = true → checkpoint.lifetimeBytes ≤ row.lifetimeBytes) :
    Rule confirm readings row := by
  obtain ⟨counted, below⟩ := faithful.count checkpoint (List.mem_singleton_self _)
  refine ⟨⟨fun reset => absurd reset status, fun full => ?_⟩, fun anchor old found fall => ?_⟩
  · rw [counted, full] at below
    exact absurd below (lt_irrefl _)
  · obtain ⟨latest, known, same⟩ := faithful.latest checkpoint (List.mem_singleton_self _)
    obtain rfl := Option.some.inj (known.symm.trans found)
    exact absurd fall (not_lt.mpr (same ▸ above anchor))

/-- A reading at or above the checkpoint. -/
theorem Faithful.accepted (faithful : Faithful confirm ⟨[checkpoint], readings⟩)
    (status : row.status = .accepted) (above : checkpoint.lifetimeBytes ≤ row.lifetimeBytes)
    (same : next.lifetimeBytes = row.lifetimeBytes) (zero : next.anomalyCount = 0)
    (positive : 0 < confirm) : Faithful confirm ⟨[next], readings ++ [row]⟩ := by
  have anchor : anchors row = true := by simp [anchors, status]
  have rule : Rule confirm readings row :=
    faithful.rule (by rw [status]; decide) fun _ => above
  exact .of_anchor faithful.ruled rule anchor same zero positive

/-- A reading below the checkpoint that does not reset it. -/
theorem Faithful.regression (faithful : Faithful confirm ⟨[checkpoint], readings⟩)
    (status : row.status = .regression) (same : next.lifetimeBytes = checkpoint.lifetimeBytes)
    (counted : next.anomalyCount = checkpoint.anomalyCount + 1)
    (below : (next.anomalyCount : Int) < confirm) :
    Faithful confirm ⟨[next], readings ++ [row]⟩ where
  unmetered empty := absurd empty (List.cons_ne_nil _ _)
  single := le_refl _
  latest other member := by
    obtain ⟨latest, known, own⟩ := faithful.latest checkpoint (List.mem_singleton_self _)
    rw [List.mem_singleton.mp member, same, own]
    exact ⟨latest, (latestAnchor_concat_regression status).trans known, rfl⟩
  count other member := by
    obtain ⟨since, _⟩ := faithful.count checkpoint (List.mem_singleton_self _)
    rw [List.mem_singleton.mp member, regressionsSince_concat_regression status]
    exact ⟨counted.trans (congrArg (· + 1) since), below⟩
  ruled := by
    refine ruled_concat.mpr ⟨faithful.ruled, faithful.rule (by rw [status]; decide) fun anchor => ?_⟩
    simp [anchors, status] at anchor

/-- The reading below the checkpoint that resets it, with the row of the reset. -/
theorem Faithful.reset {lower reset : Usage}
    (faithful : Faithful confirm ⟨[checkpoint], readings⟩) (status : lower.status = .regression)
    (resets : reset.status = .resetBaseline)
    (enough : confirm ≤ ((checkpoint.anomalyCount + 1 : Nat) : Int))
    (same : next.lifetimeBytes = reset.lifetimeBytes) (zero : next.anomalyCount = 0)
    (positive : 0 < confirm) : Faithful confirm ⟨[next], readings ++ [lower] ++ [reset]⟩ := by
  have anchor : anchors reset = true := by simp [anchors, resets]
  have rule : Rule confirm readings lower :=
    faithful.rule (by rw [status]; decide) fun anchor => by simp [anchors, status] at anchor
  refine .of_anchor (ruled_concat.mpr ⟨faithful.ruled, rule⟩) ⟨?_, ?_⟩ anchor same zero positive
  · obtain ⟨counted, below⟩ := faithful.count checkpoint (List.mem_singleton_self _)
    rw [regressionsSince_concat_regression status, ← counted]
    refine ⟨fun _ => ?_, fun _ => resets⟩
    push_cast at enough ⊢
    omega
  · exact fun _ _ _ _ => resets

end

/-! ## What every observation keeps -/

/-- A property of gauges that every observation keeps: the first reading, a reading at or above the
checkpoint, and a reading below it, whether it resets the checkpoint or not. -/
structure Tracked (confirm : Int) (proper : Gauge → Prop) : Prop where
  unmetered : ∀ {gauge : Gauge}, proper gauge → gauge.checkpoints = [] → gauge.readings = []
  single : ∀ {gauge : Gauge}, proper gauge → gauge.checkpoints.length ≤ 1
  baseline : ∀ {next : Checkpoint} {row : Usage}, row.status = .baseline →
    next.lifetimeBytes = row.lifetimeBytes → next.anomalyCount = 0 → proper ⟨[next], [row]⟩
  accepted : ∀ {checkpoint next : Checkpoint} {readings : List Usage} {row : Usage},
    proper ⟨[checkpoint], readings⟩ → row.status = .accepted →
      checkpoint.lifetimeBytes ≤ row.lifetimeBytes →
        row.deltaBytes = row.lifetimeBytes - checkpoint.lifetimeBytes →
          next.lifetimeBytes = row.lifetimeBytes → next.anomalyCount = 0 →
            proper ⟨[next], readings ++ [row]⟩
  regression : ∀ {checkpoint next : Checkpoint} {readings : List Usage} {row : Usage},
    proper ⟨[checkpoint], readings⟩ → row.status = .regression →
      row.lifetimeBytes < checkpoint.lifetimeBytes →
      next.lifetimeBytes = checkpoint.lifetimeBytes →
        next.anomalyCount = checkpoint.anomalyCount + 1 → (next.anomalyCount : Int) < confirm →
          proper ⟨[next], readings ++ [row]⟩
  reset : ∀ {checkpoint next : Checkpoint} {readings : List Usage} {lower reset : Usage},
    proper ⟨[checkpoint], readings⟩ → lower.status = .regression →
      lower.lifetimeBytes < checkpoint.lifetimeBytes → reset.status = .resetBaseline →
      confirm ≤ ((checkpoint.anomalyCount + 1 : Nat) : Int) →
        next.lifetimeBytes = reset.lifetimeBytes → next.anomalyCount = 0 →
          proper ⟨[next], readings ++ [lower] ++ [reset]⟩

theorem Faithful.tracked {confirm : Int} (positive : 0 < confirm) :
    Tracked confirm (Faithful confirm) where
  unmetered faithful := faithful.unmetered
  single faithful := faithful.single
  baseline status same zero := .baseline status same zero positive
  accepted faithful status above _ same zero := faithful.accepted status above same zero positive
  regression faithful status _ same counted below := faithful.regression status same counted below
  reset faithful status _ resets enough same zero :=
    faithful.reset status resets enough same zero positive

end ControlPlane
