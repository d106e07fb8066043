import ControlPlane.Decisions.Runs
import ControlPlane.Library.Paths

/-!
# Adjustments and the clock

A session that decides an adjustment reads the clock before it looks at the
row. What it commits is measured against this first reading, however long the
rest takes and whatever the others commit meanwhile. A decision that raises
commits nothing, unless it found the adjustment expired.
-/

namespace ControlPlane

open ReadCommitted Orm

section

variable {adjusting : Prop} {env : Env} {readings : Set Time} {log : List Database.Write}
  {db later : Db}

/-! ## Executions are early -/

/-- What is permitted for some readings of the clock is permitted for more. -/
theorem DecisionLaw.mono {more : Set Time} (subset : readings ⊆ more) {marks : List Database.Write}
    (lawful : DecisionLaw adjusting env readings log db marks) :
    DecisionLaw adjusting env more log db marks := by
  cases lawful with
  | none => exact .none
  | request row isOpen => exact .request row isOpen
  | refuse row actorId time member isOpen authorized =>
      exact .refuse row actorId time member isOpen authorized
  | grant row actorId time source target transaction member isOpen authorized paid =>
      exact .grant row actorId time source target transaction member isOpen authorized paid
  | file row allowed isOpen => exact .file row allowed isOpen
  | dismiss row columns status allowed member isOpen assigned decided other =>
      exact .dismiss row columns status allowed member isOpen assigned decided other
  | execute row columns actorId time source target transaction allowed member isOpen assigned by'
      root reading early paid =>
      exact .execute row columns actorId time source target transaction allowed member isOpen
        assigned by' root (subset reading) early paid
  | direct row columns source target transaction allowed isOpen assigned unassigned own root paid =>
      exact .direct row columns source target transaction allowed isOpen assigned unassigned own
        root paid
  | transfer payment source target transaction allowed underived paid =>
      exact .transfer payment source target transaction allowed underived paid

/-- An open adjustment that is found executed is the row that was replaced. -/
theorem ApprovalReplaced.executed {new approval row : ApprovalRequest}
    (replaced : ApprovalReplaced db later new) (integrity : Integrity db)
    (member : approval ∈ db.approvals) (isOpen : approval.status = .pending)
    (found : row ∈ later.approvals) (same : row.id = approval.id) (executed : row.status = .executed) :
    new.id = approval.id ∧ new.status = .executed := by
  rcases (replaced.mem row).mp found with rfl | ⟨known, _⟩
  · exact ⟨same, executed⟩
  · have equal := integrity.eq_of_key .approvals known rfl member (congrArg some same.symm)
    rw [equal, isOpen] at executed
    cases executed

/-- A lawful commit executes an open adjustment only before it expires. -/
theorem DecisionLaw.early (lawful : DecisionLaw adjusting env readings log db (log.filter decisive))
    (before : Integrity db) (after : Integrity (replay (S := Database) log db))
    {approval row : ApprovalRequest} (member : approval ∈ db.approvals)
    (isOpen : approval.status = .pending)
    (found : row ∈ Db.approvals (replay (S := Database) log db)) (same : row.id = approval.id)
    (executed : row.status = .executed) : ∃ time ∈ readings, time < approval.expiresAt := by
  have docket := docket_replay log (rfl : db.docket = db.docket)
  generalize replay (S := Database) log db = later at after docket found
  generalize log.filter decisive = marks at lawful docket
  have approvals := congrArg Docket.approvals docket
  have unchanged : later.approvals = db.approvals → False := by
    intro kept
    have known : row ∈ db.approvals := by
      rw [← kept]
      exact found
    have equal := before.eq_of_key .approvals known rfl member (congrArg some same.symm)
    rw [equal, isOpen] at executed
    cases executed
  have ids := after.approvalIds
  cases lawful with
  | none => exact (unchanged approvals).elim
  | request => exact (unchanged approvals).elim
  | refuse => exact (unchanged approvals).elim
  | grant => exact (unchanged approvals).elim
  | transfer => exact (unchanged approvals).elim
  | file new allowed pending =>
      have written : later.approvals = db.approvals ++ [new] := approvals
      rw [written] at ids
      have replaced : ApprovalReplaced db later new := by
        unfold ApprovalReplaced
        rw [written]
        exact .add ids
      have outcome := (replaced.executed before member isOpen found same executed).2
      rw [pending] at outcome
      cases outcome
  | dismiss old columns status allowed oldMember pending assigned decided other =>
      have replaced := ApprovalReplaced.update before oldMember pending columns approvals
      have outcome := (replaced.executed before member isOpen found same executed).2
      have status' : (@Table.change .approvals columns old).status = status := by
        simp [Table.change, assigned]
      exact absurd (status'.symm.trans outcome) other
  | execute old columns actorId time source target transaction allowed oldMember pending assigned by'
      root reading early paid =>
      have replaced := ApprovalReplaced.update before oldMember pending columns approvals
      have known : old.id = approval.id :=
        (replaced.executed before member isOpen found same executed).1
      have equal := before.eq_of_key .approvals oldMember rfl member (congrArg some known.symm)
      exact ⟨time, reading, equal ▸ early⟩
  | direct new columns source target transaction allowed pending assigned unassigned own root paid =>
      have replaced := ApprovalReplaced.direct after columns approvals
      have known : new.id = approval.id :=
        (replaced.executed before member isOpen found same executed).1
      have fresh := ApprovalReplaced.direct_fresh after columns approvals
      exact absurd known.symm (fresh approval member)

/-! ## The first reading of the clock -/

instance {A : Agreement Database} [Populated A] (query : Query) :
    Populated (A.without query) where
  stay {_ _} le := Populated.stay (A := A) le

/-- The readings of the clock do not matter for what the others may do. -/
theorem decision_rely {other : Set Time} {held : List (Held Database)} {store last : Db}
    (rely : (decisionAgreement adjusting env readings).Rely held store last) :
    (decisionAgreement adjusting env other).Rely held store last :=
  ⟨rely.le, rely.inv, rely.locked⟩

/-- What commits after the clock was read. -/
abbrev clocked (env : Env) (time : Time) : Agreement Database :=
  decisionAgreement True env {time}

theorem decideApproval_awaits (identity : TelegramIdentity) (approvalId : Id) (decision : String)
    {store : Db} :
    (decideApproval env identity approvalId decision).Awaits (decisionAgreement True env ∅) .now
      (clocked env) ⟨[], [], [], store⟩ := by
  rw [decideApproval_eq]
  refine Awaits.bind (wp_mono _ (wp_membershipFor identity.userId) ?_)
  rintro result later ⟨clean, acts⟩ caller rfl
  refine Awaits.bind ?_
  unfold requireRoot
  rw [wp_branch]
  refine ⟨fun _ => by rintro _ ⟨⟩, fun root configured => ?_⟩
  rw [wp_require]
  refine ⟨fun same => ?_, fun _ => by rintro _ ⟨⟩⟩
  rintro _ ⟨⟩
  refine Awaits.bind ?_
  rw [wp_require]
  refine ⟨fun known => ?_, fun _ => by rintro _ ⟨⟩⟩
  rintro _ ⟨⟩
  refine Awaits.here fun time => ?_
  exact wp_decideApprovalAt _ _ _ trivial rfl ⟨clean.fresh, clean.inv⟩
    ((acts caller rfl).isRoot (same ▸ configured)) known

theorem botDecideApproval_awaits (chatId : Int) (approvalId : Id) (approve : Bool) {store : Db} :
    (Bot.decideApproval env chatId approvalId approve).Awaits (decisionAgreement True env ∅) .now
      (clocked env) ⟨[], [], [], store⟩ := by
  rw [Bot.decideApproval_eq]
  refine Awaits.bind (wp_mono _ (wp_permitted chatId .decideAdjustment) ?_)
  rintro result later ⟨clean, may⟩ caller rfl
  unfold withSession
  refine Awaits.seq (Awaits.guarded ?_ ?_ ?_) ?_ ?_
  · refine Awaits.here fun time => ?_
    exact wp_botDecideApprovalAt _ _ _ trivial rfl ⟨clean.fresh, clean.inv⟩
      ((may caller rfl).isRoot clean.inv)
  · exact fun _ _ _ _ => trivial
  · exact fun _ _ _ _ _ => trivial
  · exact fun _ _ _ _ => trivial
  · exact fun _ _ _ _ _ => trivial

/-- The session of an operation awaits the clock where the operation does. -/
theorem served_awaits {program : Op α} {store : Db}
    (awaits : program.Awaits (decisionAgreement True env ∅) .now (clocked env) ⟨[], [], [], store⟩) :
    (decisionAgreement True env ∅).Awaits .now (clocked env) (served program) [] [] store :=
  Awaits.session (awaits.seq (fun _ _ => trivial) fun _ _ _ => trivial)

/-- An operation that executes no open adjustment awaits the clock as well. -/
theorem Agreement.Meets.awaits {program : Prog Database (Except Failure Unit)}
    (meets : (decisionAgreement True env ∅).Meets program) {store : Db}
    (invariant : DecisionInvariant env store) :
    (decisionAgreement True env ∅).Awaits .now (clocked env) program [] [] store := by
  have permitted : ∀ {time : Time} {held : List (Held Database)} {log : List Database.Write}
      {last : Db}, (decisionAgreement True env ∅).commit held log last →
        (clocked env time).commit held log last :=
    fun committed => ⟨committed.1, committed.2.mono (Set.empty_subset _)⟩
  have narrow : ∀ {time : Time} {held : List (Held Database)} {store last : Db},
      (clocked env time).Rely held store last →
        (decisionAgreement True env ∅).Rely held store last := decision_rely
  exact Agreement.Awaits.of_wp (S := Database) narrow permitted id (meets store invariant)

/-- Every operation on decisions executes an open adjustment only after it read the clock. -/
theorem DecisionOperation.awaits {program : Prog Database (Except Failure Unit)}
    (operation : DecisionOperation env otherKeys program) {store : Db}
    (invariant : DecisionInvariant env store) :
    (decisionAgreement True env ∅).Awaits .now (clocked env) program [] [] store := by
  have meets : ∀ {α : Type} (body : Op α), (∀ start, DecisionInvariant env start →
      body.wp (decisionAgreement True env ∅) (fun _ _ => True) ⟨[], [], [], start⟩) →
        (decisionAgreement True env ∅).Awaits .now (clocked env) (served body) [] [] store :=
    fun body kept => Agreement.Meets.awaits (decision_meets body kept) invariant
  cases operation with
  | webFundingRequest identity data => exact meets _ fun _ _ => wp_webFundingRequest identity data
  | requestCredit chatId amountIrr => exact meets _ fun _ _ => wp_requestCredit chatId amountIrr
  | branchDecideFunding identity requestId decision =>
      exact meets _ fun _ _ => wp_branchDecideFunding identity requestId decision
  | adminDecideFunding identity requestId decision =>
      exact meets _ fun _ _ => wp_adminDecideFunding identity requestId decision
  | botDecideFunding chatId requestId approve =>
      exact meets _ fun _ _ => wp_botDecideFunding chatId requestId approve
  | requestAdjustment identity data =>
      exact meets _ fun _ _ => wp_requestAdjustment identity data trivial
  | decideApproval identity approvalId decision =>
      exact served_awaits (decideApproval_awaits identity approvalId decision)
  | botDecideApproval chatId approvalId approve =>
      exact served_awaits (botDecideApproval_awaits chatId approvalId approve)
  | fund organizationId data underived =>
      exact meets _ fun _ _ => wp_fund organizationId data trivial underived

/-! ## A decision that raises -/

/-- Every exception but the one about an adjustment that expired. -/
def Unexpired (exception : Failure) : Prop := exception ≠ .http 410 "approval request expired"

instance (action targetType targetId : String) (actorId organizationId : Option Id) :
    Tentative (audit action targetType targetId actorId organizationId) :=
  inferInstanceAs (Tentative (insert .auditLogs _))

instance (topic : String) (aggregateId : Id) (payload : Payload) :
    Tentative (enqueue topic aggregateId payload) := by
  unfold enqueue
  infer_instance

instance (identity : TelegramIdentity) : Tentative (requireRoot env identity) := by
  unfold requireRoot
  infer_instance

instance (table : Table) (condition : table.Row → Bool) :
    Tentative (α := no_index (List table.Row)) (scalars table condition) :=
  inferInstanceAs (Tentative (select _))

instance (telegramId : Int) : Tentative (membershipFor env telegramId) := by
  unfold membershipFor pickMembership setting
  infer_instance

instance (telegramId : Int) : Tentative (optionalMembership telegramId) := by
  unfold optionalMembership
  infer_instance

instance (body : Op α) [Tentative body] : Tentative (withSession body) := by
  unfold withSession
  infer_instance

instance (chatId : Int) (permission : Permission) :
    Tentative (Bot.permitted env chatId permission) := by
  unfold Bot.permitted Bot.requireContext Bot.context
  infer_instance

instance (approval : ApprovalRequest) (actorId : Id) :
    Tentative (applyWalletAdjustment approval actorId) := by
  unfold applyWalletAdjustment moveAdjustment
  infer_instance

/-- Where no adjustment is returned, nothing was committed unless it expired. -/
theorem lockedPendingApproval_paths (approvalId : Id) (time : Time) :
    (lockedPendingApproval approvalId time).Paths (fun later result =>
      (∀ exception, result = .error exception → Unexpired exception → later = false) ∧
        ∀ approval, result = .ok approval → later = false) false := by
  have stopped : ∀ {α : Type} (later : Bool) (exception : Failure), later = false →
      (∀ other, (.error exception : Except Failure α) = .error other → Unexpired other →
        later = false) ∧ ∀ approval, (.error exception : Except Failure α) = .ok approval →
          later = false := fun _ _ same => ⟨fun _ _ _ => same, fun _ _ => same⟩
  unfold lockedPendingApproval
  refine .seq (Tentative.paths false) ?_ fun later exception same => stopped later exception same
  rintro later row rfl
  refine .seq (Tentative.paths false) ?_ fun later exception same => stopped later exception same
  rintro later approval rfl
  refine .seq (Tentative.paths false) ?_ fun later exception same => stopped later exception same
  rintro later _ rfl
  by_cases expired : approval.expiresAt ≤ time
  · have raised : (when (approval.expiresAt ≤ time) (do
        assign .approvals approval.id { status := some .expired, decidedAt := some (some time) }
        commit
        throw (.http 410 "approval request expired")) : Op Unit).Paths (fun later result =>
          ∃ exception, result = .error exception ∧ (Unexpired exception → later = false)) false := by
      unfold when
      rw [if_pos expired]
      refine .seq (Tentative.paths false) ?_ fun later exception same => ⟨exception, rfl, fun _ => same⟩
      rintro later _ rfl
      refine .seq (RaisesUncommitted.commit : RaisesUncommitted Unexpired (commit : Op Unit)) ?_ ?_
      · exact fun _ _ _ _ => ⟨_, rfl, fun other => absurd rfl other⟩
      · exact fun later exception uncommitted => ⟨exception, rfl, uncommitted exception rfl⟩
    refine .seq raised ?_ ?_
    · rintro later value ⟨_, ⟨⟩, _⟩
    · rintro later exception ⟨_, ⟨⟩, uncommitted⟩
      refine ⟨?_, by rintro _ ⟨⟩⟩
      rintro _ ⟨⟩
      exact uncommitted
  · unfold when
    rw [if_neg expired]
    exact fun _ => ⟨fun _ _ _ => rfl, fun _ _ => rfl⟩

/-- A decision that raises committed nothing, unless the adjustment expired. -/
theorem decideApproval_uncommitted (env : Env) (identity : TelegramIdentity) (approvalId : Id)
    (decision : String) :
    RaisesUncommitted Unexpired (decideApproval env identity approvalId decision) := by
  have granting : ∀ (approval : ApprovalRequest) (actorId : Id),
      Tentative (applicator approval actorId) := by
    intro approval actorId
    unfold applicator
    infer_instance
  rw [decideApproval_eq]
  refine .after fun caller => .after fun _ => .after fun _ => .after fun time => ?_
  unfold decideApprovalAt
  refine .seq (lockedPendingApproval_paths approvalId time) ?_ ?_
  · rintro later approval ⟨_, returned⟩
    rw [returned approval rfl]
    exact RaisesUncommitted.after fun _ => .after fun _ => .after fun _ => .after fun _ =>
      .after fun _ => .before .commit fun _ _ _ => ⟨_, rfl⟩
  · rintro later exception ⟨raised, _⟩ _ ⟨⟩ kept
    exact raised exception rfl kept

theorem botDecideApproval_uncommitted (env : Env) (chatId : Int) (approvalId : Id) (approve : Bool) :
    RaisesUncommitted Unexpired (Bot.decideApproval env chatId approvalId approve) := by
  have granting : ∀ (approval : ApprovalRequest) (actorId : Id),
      Tentative (Bot.botApplicator approval actorId) := by
    intro approval actorId
    unfold Bot.botApplicator
    infer_instance
  rw [Bot.decideApproval_eq]
  refine .after fun caller => ?_
  have decided : RaisesUncommitted Unexpired
      (now >>= fun time => Bot.decideApprovalAt caller approvalId approve time) := by
    refine .after fun time => ?_
    unfold Bot.decideApprovalAt
    refine .seq (lockedPendingApproval_paths approvalId time) ?_ ?_
    · rintro later approval ⟨_, returned⟩
      rw [returned approval rfl]
      exact RaisesUncommitted.after fun _ => .after fun _ => .after fun _ => .after fun _ =>
        .after fun _ => .commit
    · rintro later exception ⟨raised, _⟩ _ ⟨⟩ kept
      exact raised exception rfl kept
  unfold withSession
  exact .before (.rethrown decided fun _ _ _ => ⟨rfl, rfl⟩) fun _ _ _ => ⟨_, rfl⟩

/-! ## Runs -/

variable {ι : Type} [DecidableEq ι] {store : Db} {world : World Database ι (Except Failure Unit)}

/-- What a session commits after its first reading of the clock executes no open adjustment that
had expired by then; a session that did not read the clock executes none. -/
theorem executed_early (opening : DecisionInvariant env store)
    (reached : World.Reachable (DecisionOperation env otherKeys) store world) {session : ι}
    {program : Prog Database (Except Failure Unit)}
    (operation : DecisionOperation env otherKeys program)
    (opened : world.threads session = some ⟨[], [], program⟩) {reading : Option Time}
    {last : World Database ι (Except Failure Unit)}
    (follows : World.Follows (DecisionOperation env otherKeys) session .now world reading last)
    {held log rest} (ready : last.threads session = some ⟨held, log, .commit rest⟩)
    {approval row : ApprovalRequest} (member : approval ∈ last.store.approvals)
    (isOpen : approval.status = .pending)
    (found : row ∈ Db.approvals (replay (S := Database) log last.store))
    (same : row.id = approval.id) (executed : row.status = .executed) :
    ∃ time, reading = some time ∧ time < approval.expiresAt := by
  have sound := decision_sound opening reached
  have awaits := operation.awaits sound.inv
  have narrow : ∀ {held : List (Held Database)} {store later : Db},
      (decisionAgreement True env Set.univ).Rely held store later →
        (decisionAgreement True env ∅).Rely held store later := decision_rely
  have within : ∀ {time : Time} {held : List (Held Database)} {store later : Db},
      (decisionAgreement True env ∅).Rely held store later →
        (clocked env time).Rely held store later := decision_rely
  obtain ⟨soundLast, committed⟩ := follows.commits (fun _ operation => operation.meets) narrow
    (D := clocked env) within sound opened sound.inv awaits ready
  cases reading with
  | none =>
      obtain ⟨accepted, lawful⟩ := committed
      obtain ⟨_, ⟨⟩, _⟩ := lawful.early soundLast.inv.integrity
        (Layout.Integrity.replay soundLast.inv.integrity accepted) member isOpen found same executed
  | some time =>
      obtain ⟨accepted, lawful⟩ := committed
      obtain ⟨_, rfl, early⟩ := lawful.early soundLast.inv.integrity
        (Layout.Integrity.replay soundLast.inv.integrity accepted) member isOpen found same executed
      exact ⟨_, rfl, early⟩

/-- In every committed state an adjustment is paid exactly when it was executed, by the root
identity; what is decided stays as it is, the wallets stand at the sums of their entries, nothing is
executed that had expired when the clock was read, and a decision that raises changes nothing. -/
theorem adjustments_decided (opening : DecisionInvariant env store)
    (books : LedgerInvariant False store)
    (reached : World.Reachable (DecisionOperation env otherKeys) store world) :
    (∀ approval ∈ world.store.approvals, ApprovalKept env world.store approval) ∧
      (∀ later, Relation.ReflTransGen (World.Step (DecisionOperation env otherKeys)) world later →
        ∀ approval ∈ world.store.approvals, approval.status ≠ .pending →
          ∀ row, row ∈ later.store.approvals ∧ row.id = approval.id ↔ row = approval) ∧
      (∀ account ∈ world.store.accounts,
        account.balanceIrr = Db.entriesBalance world.store account.id) ∧
      (∀ (session : ι) (program : Prog Database (Except Failure Unit)),
        DecisionOperation env otherKeys program →
        world.threads session = some ⟨[], [], program⟩ →
        ∀ reading last,
          World.Follows (DecisionOperation env otherKeys) session .now world reading last →
        ∀ held log rest, last.threads session = some ⟨held, log, .commit rest⟩ →
        ∀ approval ∈ Db.approvals last.store, approval.status = .pending →
        ∀ row ∈ Db.approvals (replay (S := Database) log last.store), row.id = approval.id →
          row.status = .executed → ∃ time, reading = some time ∧ time < approval.expiresAt) ∧
      (∀ identity approvalId decision,
        RaisesUncommitted Unexpired (decideApproval env identity approvalId decision) ∧
          ∀ answers exception,
            ((decideApproval env identity approvalId decision).serve answers world.store).1 =
              .error exception → Unexpired exception →
            ((decideApproval env identity approvalId decision).serve answers world.store).2 =
              world.store) ∧
      ∀ chatId approvalId approve,
        RaisesUncommitted Unexpired (Bot.decideApproval env chatId approvalId approve) ∧
          ∀ answers exception,
            ((Bot.decideApproval env chatId approvalId approve).serve answers world.store).1 =
              .error exception → Unexpired exception →
            ((Bot.decideApproval env chatId approvalId approve).serve answers world.store).2 =
              world.store := by
  have sound := decision_sound opening reached
  have balanced : (ledgerAgreement False).Sound world :=
    Agreement.Sound.reachable (fun _ operation => operation.balances False) books reached
  refine ⟨fun approval member => sound.inv.approvalKept member, fun later steps approval member
    decided row => ⟨fun holds => ?_, ?_⟩, balanced.inv.balanced.balances, ?_, ?_, ?_⟩
  · obtain ⟨soundLater, le⟩ := sound.evolve (fun _ operation => operation.meets) steps
    exact soundLater.inv.integrity.eq_of_key .approvals holds.1 rfl
      (le.approvals approval member decided) (congrArg some holds.2.symm)
  · rintro rfl
    obtain ⟨_, le⟩ := sound.evolve (fun _ operation => operation.meets) steps
    exact ⟨le.approvals row member decided, rfl⟩
  · intro session program operation opened reading last follows held log rest ready approval member
      isOpen row found same executed
    exact executed_early opening reached operation opened follows ready member isOpen found same
      executed
  · intro identity approvalId decision
    have raises := decideApproval_uncommitted env identity approvalId decision
    exact ⟨raises, fun answers exception raised kept => (raises.unchanged answers _ raised kept).1⟩
  · intro chatId approvalId approve
    have raises := botDecideApproval_uncommitted env chatId approvalId approve
    exact ⟨raises, fun answers exception raised kept => (raises.unchanged answers _ raised kept).1⟩

/-- The root identity approves the adjustment that waits for it. -/
theorem adjustments_decided_approve :
    ∃ world : World Database Unit (Except Failure Unit),
      World.Reachable (DecisionOperation Sample.env otherKeys) Sample.requested world ∧
        world.store.approvals.map ApprovalRequest.status = [.executed] ∧
          ∀ approval ∈ world.store.approvals, ApprovalKept Sample.env world.store approval := by
  obtain ⟨world, reached, same⟩ := World.reachable_run () Sample.answers
    (DecisionOperation.decideApproval ⟨1, "Admin"⟩ "approval" "approve" :
      DecisionOperation Sample.env otherKeys _) Sample.requested
  refine ⟨world, reached, ?_, (adjustments_decided Sample.undecided Sample.requested_books reached).1⟩
  rw [same, served_run]
  decide +kernel

/-- The workspace after a deposit of the root organization under the key of the adjustment that
waits, and the approval of the adjustment. -/
def Sample.forestalled : Db :=
  ((decideApproval Sample.env ⟨1, "Admin"⟩ "approval" "approve").serve (Sample.answersFrom 10)
    ((fund "root" ⟨5, "approval:approval"⟩).serve Sample.answers Sample.requested).2).2

/-- Where a deposit may carry the key of an adjustment, the adjustment is executed and no money moves
for it. -/
theorem adjustments_decided_fails :
    ¬∀ world : World Database Unit (Except Failure Unit),
      World.Reachable (DecisionOperation Sample.env Set.univ) Sample.requested world →
        ∀ approval ∈ world.store.approvals, ApprovalKept Sample.env world.store approval := by
  intro kept
  have quiet : (World.initial Sample.requested : World Database Unit (Except Failure Unit)).Quiet :=
    fun _ => rfl
  obtain ⟨first, reached, quiet, funded⟩ := quiet_served quiet .refl () Sample.answers
    (DecisionOperation.fund "root" ⟨5, "approval:approval"⟩ (Set.mem_univ _) :
      DecisionOperation Sample.env Set.univ _)
  obtain ⟨last, reached, quiet, decided⟩ := quiet_served quiet reached () (Sample.answersFrom 10)
    (DecisionOperation.decideApproval ⟨1, "Admin"⟩ "approval" "approve" :
      DecisionOperation Sample.env Set.univ _)
  have same : last.store = Sample.forestalled := by
    rw [decided, funded]
    rfl
  have all := kept last reached
  rw [same] at all
  have executed : ∃ approval ∈ Db.approvals Sample.forestalled,
      approval.status = .executed ∧ approval.payment.target = "shop" := by decide +kernel
  obtain ⟨approval, member, done, target⟩ := executed
  obtain ⟨transaction, _, source, wallet, _, owned, _⟩ := (all _ member).moved done
  have unowned : ∀ pair ∈ Db.owners Sample.forestalled, pair.2 ≠ "shop" := by decide +kernel
  exact unowned _ owned target

end

end ControlPlane
