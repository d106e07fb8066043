import ControlPlane.Library.Histories
import ControlPlane.Metering.Sessions
import ControlPlane.Sample
import ControlPlane.Worker

/-!
# The readings of a binding over whole runs

The usage routes and the worker observe readings, side by side and next to
sessions that do not meter. In every state that they reach, the checkpoint of a
binding and its usage rows tell the same, and a reading below the checkpoint
costs nothing.
-/

namespace ControlPlane

open ReadCommitted Orm

/-! ## Operations that observe -/

/-- A program that leaves the metering of each binding proper. -/
abbrev Metering (proper : Gauge → Prop) (program : Op α) : Prop :=
  Sustains (meteringAgreement proper) Unmetered (meteringLaw proper) program

section

variable {proper : Gauge → Prop} {env : Env}

instance (bindingId organizationId : Id) (amountIrr : Int) :
    Metering proper (recordHold bindingId organizationId amountIrr) := by
  unfold recordHold
  infer_instance

instance (exception : Failure) : Metering proper (usageFailed exception) := by
  unfold usageFailed
  split <;> infer_instance

variable [tracked : Fact (Tracked env.resetConfirmReadings proper)]

instance (data : UsageIn) : Metering proper (observe env data) := observe_sustains tracked.out data

instance (data : UsageIn) : Metering proper (usage env data) := by
  unfold usage
  infer_instance

instance (item : UsageIn) : Metering proper (observeItem env item) := by
  have failed : ∀ exception : Failure, Metering proper (match exception with
      | .billingHold bindingId organizationId amountIrr => do
          recordHold bindingId organizationId amountIrr
          pure (.inr (bindingId, organizationId))
      | other => throw other : Op (Id × List Settlement ⊕ Id × Id)) := by
    intro exception
    split <;> infer_instance
  unfold observeItem
  infer_instance

instance (items : List UsageIn) : Metering proper (observeItems env items) := by
  induction items with
  | nil => exact Sustains.pure []
  | cons item items inductionHypothesis =>
      unfold observeItems
      infer_instance

instance (observations : List UsageIn) : Metering proper (usageBatch env observations) := by
  unfold usageBatch
  infer_instance

instance (admins : List PanelAdmin) (binding : Binding) :
    Metering proper (pollBinding env admins binding) := by
  have failed : ∀ exception : Failure, Metering proper (match exception with
      | .billingHold bindingId organizationId _ => do
          rollback
          recordHold bindingId organizationId 0
          commit
      | _ => rollback : Op Unit) := by
    intro exception
    split <;> infer_instance
  unfold pollBinding
  infer_instance

set_option synthInstance.maxSize 100000 in
instance (panelId : Id) (bindings : List Binding) :
    Metering proper (pollPanel env panelId bindings) := by
  unfold pollPanel panelAdmins resolveSecrets
  infer_instance

instance : Metering proper (poll env) := by
  unfold poll
  infer_instance

end

/-! ## Readings that cost nothing -/

/-- Statements about wallets, transfers and their entries. -/
def movesMoney (statement : Database.Write) : Bool :=
  Layout.Statement.table statement ∈ [Table.accounts, .transactions, .entries]

/-- The usage rows of readings below the checkpoint. -/
def lapses : Database.Write → Bool
  | .insert .usages row => row.status ∈ [UsageStatus.regression, .resetBaseline]
  | _ => false

instance : Admitted (Law.Other movesMoney) .checkpoints := ⟨fun _ => rfl, fun _ _ => rfl⟩
instance : Admitted (Law.Other movesMoney) .usages := ⟨fun _ => rfl, fun _ _ => rfl⟩
instance : Admitted (Law.Other movesMoney) .outbox := ⟨fun _ => rfl, fun _ _ => rfl⟩
instance : Admitted (Law.Other lapses) .accounts := ⟨fun _ => rfl, fun _ _ => rfl⟩
instance : Admitted (Law.Other lapses) .transactions := ⟨fun _ => rfl, fun _ _ => rfl⟩
instance : Admitted (Law.Other lapses) .entries := ⟨fun _ => rfl, fun _ _ => rfl⟩
instance : Admitted (Law.Other lapses) .checkpoints := ⟨fun _ => rfl, fun _ _ => rfl⟩

section

variable {A : Agreement Database} [OffPanel A] {rows : List Database.Write}

instance {Benign : Database.Write → Prop} {law : Law Database} [A.Starts Benign law]
    (bindingId : Id) : Sustains A Benign law (lockedCheckpoint bindingId) := by
  unfold lockedCheckpoint
  infer_instance

instance (data : UsageIn) :
    Sustains A (Law.Other movesMoney) (Law.only movesMoney rows) (observeBaseline data) := by
  unfold observeBaseline
  infer_instance

set_option synthInstance.maxSize 100000 in
instance (env : Env) (binding : Binding) (checkpoint : Checkpoint) (data : UsageIn) :
    Sustains A (Law.Other movesMoney) (Law.only movesMoney rows)
      (observeRegression env binding checkpoint data) := by
  unfold observeRegression
  infer_instance

instance {kind : Database.Write → Bool} [Admitted (Law.Other kind) .accounts]
    [Admitted (Law.Other kind) .transactions] [Admitted (Law.Other kind) .entries]
    (binding : Binding) (old new : Nat) (settlements : List Settlement) (pending : Int) :
    Sustains A (Law.Other kind) (Law.only kind rows)
      (payCascade binding old new settlements pending) := by
  induction settlements generalizing pending with
  | nil => exact Sustains.pure ()
  | cons settled settlements inductionHypothesis =>
      unfold payCascade
      infer_instance

instance {kind : Database.Write → Bool} (fuel : Nat) (current : Option Organization)
    (seen : List Id) :
    Sustains A (Law.Other kind) (Law.only kind rows) (climb fuel current seen) := by
  induction fuel generalizing current seen with
  | zero => exact Sustains.throw _
  | succ fuel inductionHypothesis =>
      unfold climb
      infer_instance

instance (binding : Binding) (checkpoint : Checkpoint) (data : UsageIn) :
    Sustains A (Law.Other lapses) (Law.only lapses rows)
      (observeAdvance binding checkpoint data) := by
  have accepted : Sustains A (Law.Other lapses) (Law.only lapses rows) (insert .usages
      ⟨binding.id, data.lifetimeBytes, data.lifetimeBytes - checkpoint.lifetimeBytes, .accepted,
        data.observedAt⟩) := Sustains.add rfl
  unfold observeAdvance edges
  infer_instance

/-- From one moment of a session to another no statement of a kind was added. -/
def AddsNo (kind : Database.Write → Bool) (before after : Point Database) : Prop :=
  ((after.log ++ after.pending).filter kind).Sublist ((before.log ++ before.pending).filter kind)

/-- An observation records nothing about money, or no reading below the checkpoint, whatever the
other sessions do. -/
theorem observe_moneyless (env : Env) (data : UsageIn) {point : Point Database}
    (due : Due A (fun _ _ _ => True) point) :
    (observe env data).wp A
      (fun _ later => AddsNo movesMoney point later ∨ AddsNo lapses point later) point := by
  let moneyless : Law Database :=
    .only movesMoney ((point.log ++ point.pending).filter movesMoney)
  let above : Law Database := .only lapses ((point.log ++ point.pending).filter lapses)
  have : A.Starts (fun _ => False) moneyless := .nothing (Law.Other movesMoney)
  have : A.Starts (fun _ => False) above := .nothing (Law.Other lapses)
  have both : Due A (moneyless.both above) point :=
    ⟨due.inv, due.covered, due.accepted, fun _ _ => ⟨List.Sublist.refl _, List.Sublist.refl _⟩⟩
  have first : ∀ {later}, Due A (moneyless.both above) later → Due A moneyless later :=
    fun due => due.weaken fun _ _ _ _ lawful => lawful.1
  have second : ∀ {later}, Due A (moneyless.both above) later → Due A above later :=
    fun due => due.weaken fun _ _ _ _ lawful => lawful.2
  unfold observe
  refine wp_seq _ (wp_sustains (fun _ => False) _ both) (fun _ _ both => ?_) fun _ _ both =>
    .inl (first both).now
  refine wp_seq _ (wp_sustains (fun _ => False) _ both) (fun binding _ both => ?_) fun _ _ both =>
    .inl (first both).now
  refine wp_seq _ (wp_sustains (fun _ => False) _ both) (fun stored _ both => ?_) fun _ _ both =>
    .inl (first both).now
  cases stored with
  | none =>
      refine wp_mono _ (wp_sustains (Law.Other movesMoney) (observeBaseline data) (first both))
        fun _ _ due => .inl due.now
  | some checkpoint =>
      change wp _ (if data.lifetimeBytes < checkpoint.lifetimeBytes then _ else _) _ _
      split
      · exact wp_mono _ (wp_sustains (Law.Other movesMoney)
          (observeRegression env binding checkpoint data) (first both)) fun _ _ due => .inl due.now
      · exact wp_mono _ (wp_sustains (Law.Other lapses)
          (observeAdvance binding checkpoint data) (second both)) fun _ _ due => .inr due.now

end

/-! ## Runs -/

/-- Sessions that write neither checkpoints nor usage rows. -/
def unmetering : Agreement Database where
  inv _ := True
  le _ _ := True
  commit _ log db := acceptsAll (S := Database) log db = true ∧ log.filter meters = []
  le_refl _ := trivial
  le_trans _ _ := trivial
  inv_replay _ _ _ := trivial

/-- Statements about other tables. -/
theorem Gauge.foldlM_unmetered {log : List Database.Write} (unmetered : log.filter meters = [])
    (bindingId : Id) (gauge : Gauge) :
    log.foldlM (Gauge.step bindingId) gauge = some gauge := by
  induction log with
  | nil => rfl
  | cons statement log inductionHypothesis =>
      have each := List.filter_eq_nil_iff.mp unmetered
      have first : meters statement = false := by
        simpa using each statement List.mem_cons_self
      rw [List.foldlM_cons, step_of_unmetered first]
      refine inductionHypothesis (List.filter_eq_nil_iff.mpr fun other member => ?_)
      exact each other (List.mem_cons_of_mem _ member)

theorem unmetering_refines (proper : Gauge → Prop) :
    unmetering.Refines (meteringAgreement proper) where
  inv _ := trivial
  le _ := trivial
  commit {_ log store} inv committed := by
    refine ⟨committed.1, fun bindingId => ?_⟩
    have replayed := Gauge.foldlM_replay bindingId committed.1
    rw [Gauge.foldlM_unmetered committed.2] at replayed
    rw [← Option.some.inj replayed]
    exact inv bindingId
  asks _ := trivial
  excluded := id

/-- The operations that observe readings, and the sessions that do not. -/
inductive MeteringOperation (env : Env) : Prog Database (Except Failure Unit) → Prop
  | usage (data : UsageIn) : MeteringOperation env (served (usage env data))
  | usageBatch (observations : List UsageIn) :
      MeteringOperation env (served (usageBatch env observations))
  | poll : MeteringOperation env (served (poll env))
  | elsewhere {program : Prog Database (Except Failure Unit)} :
      unmetering.Meets program → MeteringOperation env program

theorem MeteringOperation.meets {proper : Gauge → Prop} {env : Env}
    (tracked : Tracked env.resetConfirmReadings proper)
    {program : Prog Database (Except Failure Unit)} (operation : MeteringOperation env program) :
    (meteringAgreement proper).Meets program := by
  have : Fact (Tracked env.resetConfirmReadings proper) := ⟨tracked⟩
  have observing : ∀ {α : Type} (body : Op α) [Metering proper body],
      (meteringAgreement proper).Meets (served body) := fun body _ =>
    Sustains.meets _ Unmetered (meteringLaw proper) (body >>= fun _ => pure ())
  cases operation with
  | usage data => exact observing _
  | usageBatch observations => exact observing _
  | poll => exact observing _
  | elsewhere meets => exact (unmetering_refines _).meets meets

/-- What a commit does to the metering of a binding: usage rows are added, and the checkpoint falls
only with a row that resets it. -/
structure Gauge.Advances (before after : Gauge) : Prop where
  grows : before.readings <+: after.readings
  falls : ∀ old ∈ before.checkpoints, ∀ new ∈ after.checkpoints,
    new.lifetimeBytes < old.lifetimeBytes →
      ∃ row ∈ after.readings.drop before.readings.length, row.status = .resetBaseline

/-- Between states in which the usage rows tell the checkpoint. -/
theorem Gauge.advances {confirm : Int} {before after : Gauge}
    (grows : before.readings <+: after.readings) (old : Faithful confirm before)
    (new : Faithful confirm after) : before.Advances after where
  grows := grows
  falls first firstMember last lastMember fall := by
    obtain ⟨more, same⟩ := grows
    obtain ⟨earlier, firstAnchor, own⟩ := old.latest first firstMember
    obtain ⟨later, lastAnchor, its⟩ := new.latest last lastMember
    rw [← same, List.drop_left]
    by_contra none
    have kept : ∀ row ∈ more, row.status ≠ .resetBaseline := fun row member reset =>
      none ⟨row, member, reset⟩
    have le := latestAnchor_le (same ▸ new.ruled) kept firstAnchor (same ▸ lastAnchor)
    rw [← own, ← its] at le
    exact absurd fall (not_lt.mpr le)

/-- Whatever the other sessions do, an observation that records a reading below the checkpoint
records nothing about money. -/
def LapsesCostNothing (env : Env) : Prop :=
  ∀ (A : Agreement Database) [OffPanel A] (data : UsageIn) (point : Point Database),
    Due A (fun _ _ _ => True) point → (observe env data).wp A
      (fun _ later => AddsNo movesMoney point later ∨ AddsNo lapses point later) point

section

variable {ι : Type} [DecidableEq ι] {env : Env} {store : Db}
  {world : World Database ι (Except Failure Unit)}

/-- In every state of a run the usage rows of a binding tell its checkpoint, which falls only
where enough readings in a row were below it, and none of these readings moves money. -/
theorem checkpoints_follow_readings (confirms : 1 ≤ env.resetConfirmReadings)
    (opening : ∀ bindingId, Faithful env.resetConfirmReadings (gaugeOf bindingId store))
    (reached : World.Reachable (MeteringOperation env) store world) :
    (∀ bindingId, Faithful env.resetConfirmReadings (gaugeOf bindingId world.store)) ∧
      (∀ committed ∈ world.commits, ∀ bindingId,
        Faithful env.resetConfirmReadings (gaugeOf bindingId committed.before) ∧
          Faithful env.resetConfirmReadings (gaugeOf bindingId committed.after) ∧
          (gaugeOf bindingId committed.before).Advances (gaugeOf bindingId committed.after)) ∧
      LapsesCostNothing env := by
  have sound : (meteringAgreement (Faithful env.resetConfirmReadings)).Sound world :=
    Agreement.Sound.reachable (fun _ operation => operation.meets (Faithful.tracked confirms))
      opening reached
  refine ⟨sound.inv, fun committed member bindingId => ?_,
    fun A _ data point due => observe_moneyless env data due⟩
  have accepted := (sound.commits committed member).2
  obtain ⟨before, after⟩ := World.holds_throughout
    (motive := (meteringAgreement (Faithful env.resetConfirmReadings)).inv) reached opening
    (fun committed member _ => (sound.commits committed member).2.2) member
  exact ⟨before bindingId, after bindingId, Gauge.advances
    (Gauge.foldlM_readings (Gauge.foldlM_replay bindingId accepted.1)) (before bindingId)
    (after bindingId)⟩

/-- Two readings below the checkpoint do not reset it, a third one does. -/
theorem checkpoints_follow_readings_reset :
    ∃ world : World Database Unit (Except Failure Unit),
      World.Reachable (MeteringOperation Sample.env) Sample.workspace world ∧
        gaugeOf "binding" world.store = ⟨[⟨"binding", 60, 0, 0⟩],
          [⟨"binding", 100, 0, .baseline, 0⟩, ⟨"binding", 50, 0, .regression, 0⟩,
            ⟨"binding", 40, 0, .regression, 0⟩, ⟨"binding", 60, 0, .regression, 0⟩,
            ⟨"binding", 60, 0, .resetBaseline, 0⟩]⟩ ∧
        ∀ bindingId, Faithful 3 (gaugeOf bindingId world.store) := by
  have quiet : (World.initial Sample.workspace : World Database Unit (Except Failure Unit)).Quiet :=
    fun _ => rfl
  obtain ⟨first, reached, quiet, one⟩ := quiet_served quiet .refl () Sample.answers
    (MeteringOperation.usage ⟨"binding", 100, 0⟩ : MeteringOperation Sample.env _)
  obtain ⟨second, reached, quiet, two⟩ := quiet_served quiet reached () (Sample.answersFrom 3)
    (MeteringOperation.usage ⟨"binding", 50, 0⟩ : MeteringOperation Sample.env _)
  obtain ⟨third, reached, quiet, three⟩ := quiet_served quiet reached () (Sample.answersFrom 6)
    (MeteringOperation.usage ⟨"binding", 40, 0⟩ : MeteringOperation Sample.env _)
  obtain ⟨last, reached, _, four⟩ := quiet_served quiet reached () (Sample.answersFrom 9)
    (MeteringOperation.usage ⟨"binding", 60, 0⟩ : MeteringOperation Sample.env _)
  have opening : ∀ bindingId,
      Faithful Sample.env.resetConfirmReadings (gaugeOf bindingId Sample.workspace) :=
    fun _ => faithful_unmetered 3
  refine ⟨last, reached, ?_, (checkpoints_follow_readings (by decide) opening reached).1⟩
  rw [four, three, two, one]
  decide +kernel

end

end ControlPlane
