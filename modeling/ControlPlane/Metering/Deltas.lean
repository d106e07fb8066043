import ControlPlane.Metering.Runs
import Mathlib.Algebra.GroupWithZero.Nat
import Mathlib.Data.List.Infix

/-!
# The bytes that are billed

An accepted usage row bills the difference to the checkpoint. Between two
resets of the checkpoint these differences telescope, so the bytes that were
billed lie between the smallest and the largest reading. A reset lowers the
checkpoint, and the readings after it may bill the same bytes again.
-/

namespace ControlPlane

open ReadCommitted Orm

/-! ## The rows of a binding -/

/-- The bytes that the accepted usage rows bill. -/
def billed (readings : List Usage) : Nat :=
  ((readings.filter fun row => row.status = .accepted).map Usage.deltaBytes).sum

/-- The number of rows that reset the checkpoint. -/
def resets (readings : List Usage) : Nat :=
  readings.countP fun row => row.status = .resetBaseline

/-- Every reading lies between two bounds. -/
def Ranges (low high : Nat) (readings : List Usage) : Prop :=
  ∀ row ∈ readings, low ≤ row.lifetimeBytes ∧ row.lifetimeBytes ≤ high

/-- No more bytes were billed than lie between the smallest and the largest reading. -/
def BilledOnce (readings : List Usage) : Prop :=
  ∀ low high, Ranges low high readings → billed readings ≤ high - low

/-- The number of readings below the checkpoint that confirm a reset. -/
def confirmations (confirm : Int) : Nat := max 1 confirm.toNat

/-- The last readings, so many of them, are below one and the same reading before them. -/
def Falls (count : Nat) (readings : List Usage) : Prop :=
  ∃ old ∈ readings.take (readings.length - count),
    ∀ row ∈ readings.drop (readings.length - count), row.lifetimeBytes < old.lifetimeBytes

instance (count : Nat) (readings : List Usage) : Decidable (Falls count readings) :=
  inferInstanceAs (Decidable (∃ _ ∈ _, _))

/-- There are never so many readings in a row below an earlier one that a reset is confirmed. -/
def NeverFalls (confirm : Int) (readings : List Usage) : Prop :=
  ∀ before ∈ readings.inits, ¬ Falls (confirmations confirm) before

instance (confirm : Int) (readings : List Usage) : Decidable (NeverFalls confirm readings) :=
  inferInstanceAs (Decidable (∀ _ ∈ _, _))

/-- The checkpoint is a reading, and the readings that it counts are below it. -/
def Counts (checkpoint : Checkpoint) (readings : List Usage) : Prop :=
  ∃ old ∈ readings.take (readings.length - checkpoint.anomalyCount),
    checkpoint.lifetimeBytes = old.lifetimeBytes ∧
      ∀ row ∈ readings.drop (readings.length - checkpoint.anomalyCount),
        row.lifetimeBytes < checkpoint.lifetimeBytes

/-- What a binding was billed, measured by its checkpoint: a reset allows the whole range of the
readings once more. -/
structure Measured (confirm : Int) (gauge : Gauge) : Prop where
  /-- Without a checkpoint nothing was read. -/
  unmetered : gauge.checkpoints = [] → gauge.readings = []
  single : gauge.checkpoints.length ≤ 1
  counts : ∀ checkpoint ∈ gauge.checkpoints, Counts checkpoint gauge.readings
  bounded : ∀ checkpoint ∈ gauge.checkpoints, ∀ low high, Ranges low high gauge.readings →
    low + billed gauge.readings ≤ resets gauge.readings * (high - low) + checkpoint.lifetimeBytes
  confirmed : NeverFalls confirm gauge.readings → resets gauge.readings = 0

section

variable {confirm : Int} {checkpoint next : Checkpoint} {readings : List Usage} {row : Usage}
  {low high : Nat}

theorem billed_concat (accepted : row.status = .accepted) :
    billed (readings ++ [row]) = billed readings + row.deltaBytes := by
  simp [billed, accepted]

theorem billed_concat_of_ne (other : row.status ≠ .accepted) :
    billed (readings ++ [row]) = billed readings := by
  simp [billed, other]

theorem resets_concat (reset : row.status = .resetBaseline) :
    resets (readings ++ [row]) = resets readings + 1 := by
  simp [resets, reset]

theorem resets_concat_of_ne (other : row.status ≠ .resetBaseline) :
    resets (readings ++ [row]) = resets readings := by
  simp [resets, other]

theorem ranges_concat :
    Ranges low high (readings ++ [row]) ↔
      Ranges low high readings ∧ low ≤ row.lifetimeBytes ∧ row.lifetimeBytes ≤ high := by
  unfold Ranges
  rw [List.forall_mem_append, List.forall_mem_singleton]

/-- What holds of every beginning holds of the beginnings of fewer readings. -/
theorem NeverFalls.of_concat (never : NeverFalls confirm (readings ++ [row])) :
    NeverFalls confirm readings := by
  intro before member
  refine never before ((List.mem_inits _ _).mpr ?_)
  exact ((List.mem_inits _ _).mp member).trans (List.prefix_append _ _)

/-- Fewer of the last readings are below the earlier reading too. -/
theorem Falls.of_le {few many : Nat} (falls : Falls many readings) (le : few ≤ many) :
    Falls few readings := by
  obtain ⟨old, early, below⟩ := falls
  have later : readings.length - many ≤ readings.length - few := Nat.sub_le_sub_left le _
  refine ⟨old, List.take_subset_take_left _ later early, fun row late => ?_⟩
  exact below row (List.drop_subset_drop_left _ later late)

theorem Counts.falls (counts : Counts checkpoint readings) :
    Falls checkpoint.anomalyCount readings := by
  obtain ⟨old, early, same, below⟩ := counts
  exact ⟨old, early, fun row late => same ▸ below row late⟩

/-- A checkpoint that is taken from the last row. -/
theorem Counts.last (same : next.lifetimeBytes = row.lifetimeBytes)
    (zero : next.anomalyCount = 0) : Counts next (readings ++ [row]) := by
  unfold Counts
  rw [zero, Nat.sub_zero, List.take_length, List.drop_length]
  exact ⟨row, List.mem_append_right _ (List.mem_singleton_self _), same,
    fun _ member => absurd member List.not_mem_nil⟩

/-- One more reading below the checkpoint. -/
theorem Counts.concat (counts : Counts checkpoint readings)
    (below : row.lifetimeBytes < checkpoint.lifetimeBytes)
    (same : next.lifetimeBytes = checkpoint.lifetimeBytes)
    (counted : next.anomalyCount = checkpoint.anomalyCount + 1) :
    Counts next (readings ++ [row]) := by
  obtain ⟨old, early, own, late⟩ := counts
  have inside : readings.length - checkpoint.anomalyCount ≤ readings.length := Nat.sub_le _ _
  unfold Counts
  rw [same, counted, List.length_append, List.length_singleton, Nat.add_sub_add_right,
    List.take_append_of_le_length inside, List.drop_append_of_le_length inside,
    List.forall_mem_append, List.forall_mem_singleton]
  exact ⟨old, early, own, late, below⟩

/-- The checkpoint is a reading, so it lies between the bounds of the readings. -/
theorem Measured.ranges {gauge : Gauge} (measured : Measured confirm gauge)
    (member : checkpoint ∈ gauge.checkpoints) (ranges : Ranges low high gauge.readings) :
    low ≤ checkpoint.lifetimeBytes ∧ checkpoint.lifetimeBytes ≤ high := by
  obtain ⟨old, early, same, _⟩ := measured.counts checkpoint member
  rw [same]
  exact ranges old (List.mem_of_mem_take early)

/-- Each reset allows the range of the readings once more. -/
theorem Measured.billed_le {gauge : Gauge} (measured : Measured confirm gauge)
    (ranges : Ranges low high gauge.readings) :
    billed gauge.readings ≤ (resets gauge.readings + 1) * (high - low) := by
  rcases empty : gauge.checkpoints with _ | ⟨checkpoint, rest⟩
  · rw [measured.unmetered empty]
    exact Nat.zero_le _
  · have member : checkpoint ∈ gauge.checkpoints := by
      rw [empty]
      exact List.mem_cons_self
    have bounded := measured.bounded checkpoint member low high ranges
    have below := (measured.ranges member ranges).2
    rw [Nat.add_mul, Nat.one_mul]
    omega

/-- Where no reset is confirmed the bytes are billed once. -/
theorem Measured.billedOnce {gauge : Gauge} (measured : Measured confirm gauge)
    (never : NeverFalls confirm gauge.readings) : BilledOnce gauge.readings := by
  intro low high ranges
  have bounded := measured.billed_le ranges
  rwa [measured.confirmed never, Nat.zero_add, Nat.one_mul] at bounded

/-! ## One more observation -/

/-- Before anything is read. -/
theorem measured_unmetered (confirm : Int) : Measured confirm ⟨[], []⟩ where
  unmetered _ := rfl
  single := Nat.zero_le _
  counts _ member := absurd member List.not_mem_nil
  bounded _ member := absurd member List.not_mem_nil
  confirmed _ := rfl

/-- The first reading bills nothing. -/
theorem Measured.baseline (status : row.status = .baseline)
    (same : next.lifetimeBytes = row.lifetimeBytes) (zero : next.anomalyCount = 0) :
    Measured confirm ⟨[next], [row]⟩ where
  unmetered empty := absurd empty (List.cons_ne_nil _ _)
  single := le_refl _
  counts other member := by
    rw [List.mem_singleton.mp member]
    exact @Counts.last next [] row same zero
  bounded other member low high ranges := by
    have nothing : billed [row] = 0 := by
      have unbilled : row.status ≠ .accepted := by
        rw [status]
        decide
      exact @billed_concat_of_ne [] row unbilled
    rw [List.mem_singleton.mp member, nothing, same]
    exact (ranges row (List.mem_singleton_self _)).1.trans (Nat.le_add_left _ _)
  confirmed _ := by
    have kept : row.status ≠ .resetBaseline := by
      rw [status]
      decide
    exact @resets_concat_of_ne [] row kept

/-- One more row, which resets the checkpoint only after enough readings below it. -/
theorem Measured.concat (measured : Measured confirm ⟨[checkpoint], readings⟩)
    (counts : Counts next (readings ++ [row]))
    (bounded : ∀ low high, low + billed readings ≤
        resets readings * (high - low) + checkpoint.lifetimeBytes →
      low ≤ row.lifetimeBytes → checkpoint.lifetimeBytes ≤ high →
      low + billed (readings ++ [row]) ≤
        resets (readings ++ [row]) * (high - low) + next.lifetimeBytes)
    (confirmed : row.status = .resetBaseline → Falls (confirmations confirm) readings) :
    Measured confirm ⟨[next], readings ++ [row]⟩ where
  unmetered empty := absurd empty (List.cons_ne_nil _ _)
  single := le_refl _
  counts other member := by
    rwa [List.mem_singleton.mp member]
  bounded other member low high ranges := by
    obtain ⟨earlier, above, _⟩ := ranges_concat.mp ranges
    have first := List.mem_singleton_self checkpoint
    rw [List.mem_singleton.mp member]
    exact bounded low high (measured.bounded checkpoint first low high earlier) above
      (measured.ranges first earlier).2
  confirmed never := by
    have kept : row.status ≠ .resetBaseline := fun reset =>
      never readings ((List.mem_inits _ _).mpr (List.prefix_append _ _)) (confirmed reset)
    exact (resets_concat_of_ne kept).trans (measured.confirmed never.of_concat)

/-- A reading at or above the checkpoint bills the difference. -/
theorem Measured.accepted (measured : Measured confirm ⟨[checkpoint], readings⟩)
    (status : row.status = .accepted) (above : checkpoint.lifetimeBytes ≤ row.lifetimeBytes)
    (delta : row.deltaBytes = row.lifetimeBytes - checkpoint.lifetimeBytes)
    (same : next.lifetimeBytes = row.lifetimeBytes) (zero : next.anomalyCount = 0) :
    Measured confirm ⟨[next], readings ++ [row]⟩ := by
  have kept : row.status ≠ .resetBaseline := by
    rw [status]
    decide
  refine measured.concat (.last same zero) (fun low high bounded _ _ => ?_) fun reset =>
    absurd reset kept
  rw [billed_concat status, resets_concat_of_ne kept, delta, same]
  omega

/-- A reading below the checkpoint bills nothing. -/
theorem Measured.regression (measured : Measured confirm ⟨[checkpoint], readings⟩)
    (status : row.status = .regression) (below : row.lifetimeBytes < checkpoint.lifetimeBytes)
    (same : next.lifetimeBytes = checkpoint.lifetimeBytes)
    (counted : next.anomalyCount = checkpoint.anomalyCount + 1) :
    Measured confirm ⟨[next], readings ++ [row]⟩ := by
  have kept : row.status ≠ .resetBaseline := by
    rw [status]
    decide
  have counts := measured.counts checkpoint (List.mem_singleton_self _)
  refine measured.concat (counts.concat below same counted) (fun low high bounded _ _ => ?_)
    fun reset => absurd reset kept
  rw [billed_concat_of_ne (by rw [status]; decide), resets_concat_of_ne kept, same]
  exact bounded

/-- A reset bills nothing, and lets the bytes below the old checkpoint be billed again. -/
theorem Measured.reset (measured : Measured confirm ⟨[checkpoint], readings⟩)
    (status : row.status = .resetBaseline)
    (enough : confirmations confirm ≤ checkpoint.anomalyCount)
    (same : next.lifetimeBytes = row.lifetimeBytes) (zero : next.anomalyCount = 0) :
    Measured confirm ⟨[next], readings ++ [row]⟩ := by
  have counts := measured.counts checkpoint (List.mem_singleton_self _)
  refine measured.concat (.last same zero) (fun low high bounded above below => ?_) fun _ =>
    counts.falls.of_le enough
  rw [billed_concat_of_ne (by rw [status]; decide), resets_concat status, same, Nat.add_mul,
    Nat.one_mul]
  omega

theorem Measured.tracked (confirm : Int) : Tracked confirm (Measured confirm) where
  unmetered measured := measured.unmetered
  single measured := measured.single
  baseline status same zero := .baseline status same zero
  accepted measured status above delta same zero := measured.accepted status above delta same zero
  regression measured status below same counted _ :=
    measured.regression status below same counted
  reset {checkpoint _ _ _ _} measured status below reset enough same zero := by
    let counted := { checkpoint with anomalyCount := checkpoint.anomalyCount + 1 }
    have lowered := @Measured.regression _ _ counted _ _ measured status below rfl rfl
    refine lowered.reset reset ?_ same zero
    exact max_le (Nat.le_add_left _ _) (Int.toNat_le.mpr enough)

end

/-! ## What is recorded of a reading -/

/-- Usage rows of another binding, or with another reading. -/
def strays (data : UsageIn) : Database.Write → Bool
  | .insert .usages row =>
      decide ¬(row.bindingId = data.bindingId ∧ row.lifetimeBytes = data.lifetimeBytes)
  | _ => false

section

variable {A : Agreement Database} {rows : List Database.Write} {data : UsageIn}

instance : Admitted (Law.Other (strays data)) .accounts := ⟨fun _ => rfl, fun _ _ => rfl⟩
instance : Admitted (Law.Other (strays data)) .transactions := ⟨fun _ => rfl, fun _ _ => rfl⟩
instance : Admitted (Law.Other (strays data)) .entries := ⟨fun _ => rfl, fun _ _ => rfl⟩
instance : Admitted (Law.Other (strays data)) .checkpoints := ⟨fun _ => rfl, fun _ _ => rfl⟩
instance : Admitted (Law.Other (strays data)) .outbox := ⟨fun _ => rfl, fun _ _ => rfl⟩

/-- A usage row of the reading itself. -/
theorem sustains_reading {row : Usage} (own : row.bindingId = data.bindingId)
    (same : row.lifetimeBytes = data.lifetimeBytes) :
    Sustains A (Law.Other (strays data)) (Law.only (strays data) rows) (insert .usages row) := by
  refine Sustains.add ?_
  unfold Law.Other strays
  exact decide_eq_false fun stray => stray ⟨own, same⟩

variable [OffPanel A]

instance : Sustains A (Law.Other (strays data)) (Law.only (strays data) rows)
    (observeBaseline data) := by
  have baseline : Sustains A (Law.Other (strays data)) (Law.only (strays data) rows)
      (insert .usages ⟨data.bindingId, data.lifetimeBytes, 0, .baseline, data.observedAt⟩) :=
    sustains_reading rfl rfl
  unfold observeBaseline
  infer_instance

theorem observeRegression_records (env : Env) {binding : Binding}
    (own : binding.id = data.bindingId) (checkpoint : Checkpoint) :
    Sustains A (Law.Other (strays data)) (Law.only (strays data) rows)
      (observeRegression env binding checkpoint data) := by
  have regression : Sustains A (Law.Other (strays data)) (Law.only (strays data) rows)
      (insert .usages ⟨binding.id, data.lifetimeBytes, 0, .regression, data.observedAt⟩) :=
    sustains_reading own rfl
  have reset : Sustains A (Law.Other (strays data)) (Law.only (strays data) rows)
      (insert .usages ⟨binding.id, data.lifetimeBytes, 0, .resetBaseline, data.observedAt⟩) :=
    sustains_reading own rfl
  unfold observeRegression
  infer_instance

theorem observeAdvance_records {binding : Binding} (own : binding.id = data.bindingId)
    (checkpoint : Checkpoint) :
    Sustains A (Law.Other (strays data)) (Law.only (strays data) rows)
      (observeAdvance binding checkpoint data) := by
  have accepted : Sustains A (Law.Other (strays data)) (Law.only (strays data) rows)
      (insert .usages ⟨binding.id, data.lifetimeBytes,
        data.lifetimeBytes - checkpoint.lifetimeBytes, .accepted, data.observedAt⟩) :=
    sustains_reading own rfl
  unfold observeAdvance edges
  infer_instance

/-- An observation records nothing but its own reading, whatever the other sessions do. -/
theorem observe_records (env : Env) (data : UsageIn) {point : Point Database}
    (due : Due A (fun _ _ _ => True) point) :
    (observe env data).wp A (fun _ later => AddsNo (strays data) point later) point := by
  let own : Law Database :=
    .only (strays data) ((point.log ++ point.pending).filter (strays data))
  have start : Due A own point :=
    ⟨due.inv, due.covered, due.accepted, fun _ _ => List.Sublist.refl _⟩
  unfold observe
  rw [wp_get_bind]
  intro later rely
  have due := start.rely rely
  refine (wp_found_bind _ _ _ _).mpr ⟨fun binding found => ?_, fun _ => due.now⟩
  have same : binding.id = data.bindingId := Option.some.inj (Db.find_mem found).2
  refine wp_seq _ (wp_sustains (Law.Other (strays data)) _ due) (fun stored _ due => ?_)
    fun _ _ due => due.now
  cases stored with
  | none =>
      exact wp_mono _ (wp_sustains (Law.Other (strays data)) (observeBaseline data) due)
        fun _ _ due => due.now
  | some checkpoint =>
      change wp _ (if data.lifetimeBytes < checkpoint.lifetimeBytes then _ else _) _ _
      split
      · have : Sustains A (Law.Other (strays data)) own
            (observeRegression env binding checkpoint data) :=
          observeRegression_records env same checkpoint
        exact wp_mono _ (wp_sustains (Law.Other (strays data))
          (observeRegression env binding checkpoint data) due) fun _ _ due => due.now
      · have : Sustains A (Law.Other (strays data)) own
            (observeAdvance binding checkpoint data) :=
          observeAdvance_records same checkpoint
        exact wp_mono _ (wp_sustains (Law.Other (strays data))
          (observeAdvance binding checkpoint data) due) fun _ _ due => due.now

end

/-! ## Runs -/

/-- Whatever the other sessions do, the usage rows that an observation adds are of the binding and
the reading that were delivered to it. -/
def RecordsItsReading (env : Env) : Prop :=
  ∀ (A : Agreement Database) [OffPanel A] (data : UsageIn) (point : Point Database),
    Due A (fun _ _ _ => True) point →
      (observe env data).wp A (fun _ later => AddsNo (strays data) point later) point

section

variable {ι : Type} [DecidableEq ι] {env : Env} {store : Db}
  {world : World Database ι (Except Failure Unit)}

/-- In every state of a run, a binding without enough readings in a row below an earlier one to
confirm a reset was billed no more bytes than lie between its smallest and its largest reading. -/
theorem bytes_billed_once
    (opening : ∀ bindingId, Measured env.resetConfirmReadings (gaugeOf bindingId store))
    (reached : World.Reachable (MeteringOperation env) store world) :
    (∀ bindingId,
      NeverFalls env.resetConfirmReadings (gaugeOf bindingId world.store).readings →
        BilledOnce (gaugeOf bindingId world.store).readings) ∧
      RecordsItsReading env := by
  have sound : (meteringAgreement (Measured env.resetConfirmReadings)).Sound world :=
    Agreement.Sound.reachable (fun _ operation => operation.meets (Measured.tracked _)) opening
      reached
  exact ⟨fun bindingId never => (sound.inv bindingId).billedOnce never,
    fun A _ data point due => observe_records env data due⟩

/-- A binding whose readings arrive in order, the second one twice. -/
theorem bytes_billed_once_in_order :
    ∃ world : World Database Unit (Except Failure Unit),
      World.Reachable (MeteringOperation Sample.env) Sample.workspace world ∧
        billed (gaugeOf "binding" world.store).readings = 2 ^ 30 ∧
        BilledOnce (gaugeOf "binding" world.store).readings ∧ RecordsItsReading Sample.env := by
  have quiet : (World.initial Sample.workspace : World Database Unit (Except Failure Unit)).Quiet :=
    fun _ => rfl
  obtain ⟨first, reached, quiet, one⟩ := quiet_served quiet .refl () Sample.answers
    (MeteringOperation.usage ⟨"binding", 0, 0⟩ : MeteringOperation Sample.env _)
  obtain ⟨second, reached, quiet, two⟩ := quiet_served quiet reached () (Sample.answersFrom 3)
    (MeteringOperation.usage ⟨"binding", 2 ^ 30, 2⟩ : MeteringOperation Sample.env _)
  obtain ⟨last, reached, _, three⟩ := quiet_served quiet reached () (Sample.answersFrom 12)
    (MeteringOperation.usage ⟨"binding", 2 ^ 30, 2⟩ : MeteringOperation Sample.env _)
  have opening : ∀ bindingId,
      Measured Sample.env.resetConfirmReadings (gaugeOf bindingId Sample.workspace) :=
    fun _ => measured_unmetered 3
  obtain ⟨once, records⟩ := bytes_billed_once opening reached
  have stored : billed (gaugeOf "binding" last.store).readings = 2 ^ 30 ∧
      NeverFalls Sample.env.resetConfirmReadings (gaugeOf "binding" last.store).readings := by
    rw [three, two, one]
    decide +kernel
  exact ⟨last, reached, stored.1, once "binding" stored.2, records⟩

/-- Of a counter that never decreases, a reading of an earlier time arrives late and three times;
it resets the checkpoint, and the next reading bills the same bytes again. -/
theorem bytes_billed_once_fails :
    ∃ world : World Database Unit (Except Failure Unit),
      World.Reachable (MeteringOperation Sample.env) Sample.workspace world ∧
        (gaugeOf "binding" world.store).readings =
          [⟨"binding", 0, 0, .baseline, 0⟩, ⟨"binding", 2 ^ 30, 2 ^ 30, .accepted, 2⟩,
            ⟨"binding", 5, 0, .regression, 1⟩, ⟨"binding", 5, 0, .regression, 1⟩,
            ⟨"binding", 5, 0, .regression, 1⟩, ⟨"binding", 5, 0, .resetBaseline, 1⟩,
            ⟨"binding", 2 ^ 30, 2 ^ 30 - 5, .accepted, 2⟩] ∧
        ¬ BilledOnce (gaugeOf "binding" world.store).readings := by
  have quiet : (World.initial Sample.workspace : World Database Unit (Except Failure Unit)).Quiet :=
    fun _ => rfl
  obtain ⟨first, reached, quiet, one⟩ := quiet_served quiet .refl () Sample.answers
    (MeteringOperation.usage ⟨"binding", 0, 0⟩ : MeteringOperation Sample.env _)
  obtain ⟨second, reached, quiet, two⟩ := quiet_served quiet reached () (Sample.answersFrom 3)
    (MeteringOperation.usage ⟨"binding", 2 ^ 30, 2⟩ : MeteringOperation Sample.env _)
  obtain ⟨third, reached, quiet, three⟩ := quiet_served quiet reached () (Sample.answersFrom 12)
    (MeteringOperation.usage ⟨"binding", 5, 1⟩ : MeteringOperation Sample.env _)
  obtain ⟨fourth, reached, quiet, four⟩ := quiet_served quiet reached () (Sample.answersFrom 15)
    (MeteringOperation.usage ⟨"binding", 5, 1⟩ : MeteringOperation Sample.env _)
  obtain ⟨fifth, reached, quiet, five⟩ := quiet_served quiet reached () (Sample.answersFrom 18)
    (MeteringOperation.usage ⟨"binding", 5, 1⟩ : MeteringOperation Sample.env _)
  obtain ⟨last, reached, _, six⟩ := quiet_served quiet reached () (Sample.answersFrom 21)
    (MeteringOperation.usage ⟨"binding", 2 ^ 30, 2⟩ : MeteringOperation Sample.env _)
  have stored : (gaugeOf "binding" last.store).readings =
      [⟨"binding", 0, 0, .baseline, 0⟩, ⟨"binding", 2 ^ 30, 2 ^ 30, .accepted, 2⟩,
        ⟨"binding", 5, 0, .regression, 1⟩, ⟨"binding", 5, 0, .regression, 1⟩,
        ⟨"binding", 5, 0, .regression, 1⟩, ⟨"binding", 5, 0, .resetBaseline, 1⟩,
        ⟨"binding", 2 ^ 30, 2 ^ 30 - 5, .accepted, 2⟩] := by
    rw [six, five, four, three, two, one]
    decide +kernel
  refine ⟨last, reached, stored, ?_⟩
  rw [stored]
  intro once
  have below := once 0 (2 ^ 30) fun row member => by
    revert row
    decide
  exact absurd below (by decide)

end

end ControlPlane
