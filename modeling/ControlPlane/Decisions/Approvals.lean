import ControlPlane.Api
import ControlPlane.Decisions.Sessions

/-!
# Sessions that adjust wallets

An adjustment is executed at once when the root identity asks for it, and is
otherwise decided like a request, unless it expired before the clock was read.
-/

namespace ControlPlane

open ReadCommitted Orm

/-- No transaction carries the key of an adjustment of which no other row is granted. -/
theorem DecisionInvariant.approval_unpaid {env : Env} {db : Db} (invariant : DecisionInvariant env db)
    {approval : ApprovalRequest}
    (ungranted : ∀ row ∈ db.approvals, row.id = approval.id → row.status ≠ .executed)
    {transaction : Transaction} (recorded : transaction ∈ db.transactions) :
    transaction.idempotencyKey ≠ "approval:" ++ approval.id := by
  intro same
  obtain ⟨payment, caused, key⟩ :=
    invariant.derived transaction recorded ⟨approval.id, .inr same⟩
  rw [same] at key
  rcases Db.mem_payments.mp caused with ⟨request, _, _, rfl⟩ | ⟨paid, paidMember, executed, rfl⟩
  · exact derived_ne _ _ key
  · rw [ApprovalRequest.payment_key] at key
    exact ungranted paid paidMember ((String.append_right_inj _).mp key) executed

section

variable {adjusting : Prop} {env : Env} {readings : Set Time} {point : Point Database}

/-- Applying an adjustment writes its payment. -/
theorem wp_applyWalletAdjustment_due {law : Law Database} [law.Steady] {rows : List Database.Write}
    (approval : ApprovalRequest) (actorId : Id)
    (due : Due (decisionAgreement adjusting env readings) (law.marks decisive rows) point)
    (lasting : Lasting rows) (unwritten : writtenTransactions rows = [])
    (ungranted : ∀ locks log store, DecisionInvariant env store → law locks log store →
      ∀ row ∈ Db.approvals store, row.id = approval.id → row.status ≠ .executed) :
    (applyWalletAdjustment approval actorId).wp (decisionAgreement adjusting env readings)
      (fun result later => result = .ok () → ∃ transaction sourceId targetId,
        transaction.idempotencyKey = approval.payment.key ∧
          Due (decisionAgreement adjusting env readings)
            (((law.both (owns sourceId approval.payment.source)).both
              (owns targetId approval.payment.target)).marks decisive
                (rows ++ posted sourceId targetId approval.payment.amountIrr transaction)) later)
      point := by
  unfold applyWalletAdjustment
  rw [wp_get_bind]
  intro first rely
  rw [wp_found_bind]
  refine ⟨fun organization stored => ?_, fun _ => by rintro ⟨⟩⟩
  have target : organization.id = approval.targetId := Option.some.inj (Db.find_mem stored).2
  have unused : ∀ locks log store, DecisionInvariant env store → law locks log store →
      ∀ transaction ∈ Db.transactions store,
        transaction.idempotencyKey ≠ "approval:" ++ approval.id :=
    fun locks log store invariant holds transaction there =>
      invariant.approval_unpaid (ungranted locks log store invariant holds) there
  have moved : (moveAdjustment organization.id approval.amountIrr approval.id actorId).wp
      (decisionAgreement adjusting env readings)
      (fun result later => ∀ transaction, result = .ok transaction →
        transaction.idempotencyKey = approval.payment.key ∧ ∃ sourceId targetId,
          Due (decisionAgreement adjusting env readings)
            (((law.both (owns sourceId approval.payment.source)).both
              (owns targetId approval.payment.target)).marks decisive
                (rows ++ posted sourceId targetId approval.payment.amountIrr transaction)) later)
      { point with store := first } := by
    unfold moveAdjustment ApprovalRequest.payment
    rw [target]
    by_cases positive : 0 < approval.amountIrr
    · rw [if_pos positive, if_pos positive]
      exact wp_transfer_open _ _ _ _ _ _ _ _ (due.rely rely) lasting unwritten unused
    · rw [if_neg positive, if_neg positive]
      exact wp_transfer_open _ _ _ _ _ _ _ _ (due.rely rely) lasting unwritten unused
  rw [wp_bind]
  refine (wp_tryCatch _ _ _).mpr (wp_mono _ moved fun result later transferred => ?_)
  cases result with
  | error exception => rintro ⟨⟩
  | ok transaction =>
      obtain ⟨key, sourceId, targetId, written⟩ := transferred transaction rfl
      intro _
      exact ⟨transaction, sourceId, targetId, key, written.record (show Untallied decisive _ from rfl)⟩

/-! ## Deciding -/

/-- What a session knows of the adjustment that it decides. -/
structure Ruling (env : Env) (actorId : Id) (approval : ApprovalRequest) (store : Db) : Prop where
  found : Db.find store .approvals approval.id = some approval
  root : IsRoot env store actorId

/-- The row of an open adjustment is the only one with its id. -/
theorem Ruling.ungranted {actorId : Id} {approval : ApprovalRequest} {store : Db}
    (ruling : Ruling env actorId approval store) (integrity : Integrity store)
    (isOpen : approval.status = .pending) :
    ∀ row ∈ store.approvals, row.id = approval.id → row.status ≠ .executed := by
  intro row member same executed
  have equal := integrity.eq_of_key .approvals member rfl (Db.find_mem ruling.found).1
    (congrArg some same.symm)
  rw [equal, isOpen] at executed
  cases executed

/-- An adjustment that is still open is applied when it is granted, and then decided. -/
theorem wp_settleApproval {law : Law Database} [law.Steady] {approval : ApprovalRequest}
    {actorId : Id} {time : Time}
    (knows : ∀ locks log store, law locks log store → Ruling env actorId approval store)
    (allowed : adjusting) (isOpen : approval.status = .pending) (reading : time ∈ readings)
    (early : time < approval.expiresAt)
    (due : Due (decisionAgreement adjusting env readings) (law.marks decisive []) point)
    (granting : Prop) [Decidable granting] (unknown : Failure) (status : ApprovalStatus)
    (granted : granting → status = .executed) (refused : ¬granting → status = .rejected)
    (note : Option (Option String)) (rest : Unit → Op β)
    [∀ value, Sustains (decisionAgreement adjusting env readings) (Untallied decisive)
      (decisionLaw adjusting env readings) (rest value)] :
    wp (decisionAgreement adjusting env readings)
      (when granting (if approval.action = adjust then applyWalletAdjustment approval actorId
          else throw unknown) >>= fun _ => now >>= fun decided =>
        assign .approvals approval.id
          { status := some status, approverId := some (some actorId)
            decidedAt := some (some decided), decisionNote := note } >>= rest)
      (fun _ _ => True) point := by
  have finish : ∀ later, (∀ columns : ApprovalRequestColumns, columns.status = some status →
      columns.approverId = some (some actorId) → Due (decisionAgreement adjusting env readings)
        (awaiting adjusting env readings (.update .approvals approval.id columns)) later) →
      wp (decisionAgreement adjusting env readings)
        (now >>= fun decided => assign .approvals approval.id
          { status := some status, approverId := some (some actorId)
            decidedAt := some (some decided), decisionNote := note } >>= rest)
        (fun _ _ => True) later := by
    intro later awaited
    rw [wp_now_bind]
    intro decided
    rw [wp_assign_bind]
    exact wp_mono _ (wp_sustains (Untallied decisive) (rest ())
      (Due.complete rfl (awaited _ rfl rfl))) fun _ _ _ => trivial
  rw [wp_bind, wp_when]
  constructor
  · intro grants
    by_cases known : approval.action = adjust
    · rw [if_pos known]
      refine wp_mono _ (wp_applyWalletAdjustment_due approval actorId due
        (fun _ _ member => by cases member) rfl fun locks log store invariant holds =>
          (knows _ _ _ holds).ungranted invariant.integrity isOpen) ?_
      intro result later paid
      cases result with
      | error exception => trivial
      | ok value =>
          obtain ⟨transaction, sourceId, targetId, key, written⟩ := paid rfl
          refine finish later fun columns executes approves => ?_
          refine written.weaken fun locks log store invariant lawful => ?_
          obtain ⟨⟨⟨holds, source⟩, target⟩, filtered⟩ := lawful
          obtain ⟨found, root⟩ := knows _ _ _ holds
          unfold awaiting
          rw [filtered, List.nil_append]
          exact .execute approval columns actorId time sourceId targetId transaction allowed
            (Db.find_mem found).1 isOpen (granted grants ▸ executes) approves root reading early
            ⟨key, source, target⟩
    · rw [if_neg known]
      trivial
  · intro refuses
    refine finish _ fun columns rejects _ => ?_
    refine due.weaken fun locks log store invariant lawful => ?_
    obtain ⟨holds, filtered⟩ := lawful
    obtain ⟨found, _⟩ := knows _ _ _ holds
    unfold awaiting
    rw [filtered, List.nil_append]
    exact .dismiss approval columns status allowed (Db.find_mem found).1 isOpen rejects
      (by simp [refused refuses]) (by simp [refused refuses])

/-- The adjustment that is returned is open, has not expired, and its row is locked. -/
theorem wp_lockedPendingApproval_due {actorId : Id} (approvalId : Id) (time : Time)
    (allowed : adjusting) (clean : Clean (decisionAgreement adjusting env readings) point)
    (root : IsRoot env point.store actorId) :
    (lockedPendingApproval approvalId time).wp (decisionAgreement adjusting env readings)
      (fun result later => ∀ approval, result = .ok approval →
        approval.status = .pending ∧ time < approval.expiresAt ∧
          Due (decisionAgreement adjusting env readings)
            (((Law.fact fun db => IsRoot env db actorId).both
              (held .approvals approvalId approval)).marks decisive []) later) point := by
  unfold lockedPendingApproval
  have due : Due (decisionAgreement adjusting env readings)
      ((Law.fact fun db => IsRoot env db actorId).marks decisive []) point :=
    clean.noting fun later le => root.proceed le
  refine wp_getForUpdate_due .approvals approvalId _ due (by rw [clean.fresh]) ?_
  intro row later unwritten _ locked
  rw [wp_found_bind]
  refine ⟨fun approval found => ?_, fun _ => by rintro _ ⟨⟩⟩
  rw [wp_require_bind]
  refine ⟨fun isOpen => ?_, fun _ => by rintro _ ⟨⟩⟩
  have mine := locked approval found
  rw [wp_bind, wp_when]
  constructor
  · intro expired
    rw [wp_assign_bind]
    have awaited : Due (decisionAgreement adjusting env readings)
        (awaiting adjusting env readings (.update .approvals approval.id
          { status := some .expired, decidedAt := some (some time) })) later := by
      refine mine.weaken fun locks log store invariant lawful => ?_
      obtain ⟨⟨_, _, stored⟩, filtered⟩ := lawful
      unfold awaiting
      rw [filtered, List.nil_append]
      exact .dismiss approval _ .expired allowed (Db.find_mem stored).1 isOpen rfl (by simp)
        (by simp)
    refine wp_seq _ (wp_sustains (Untallied decisive) commit (Due.complete rfl awaited)) ?_ ?_
    · intro _ last _
      rw [wp_throw]
      rintro _ ⟨⟩
    · rintro _ _ _ _ ⟨⟩
  · intro current
    rw [wp_pure]
    rintro _ ⟨⟩
    exact ⟨isOpen, Int.not_le.mp current, mine⟩

/-- What `decide_approval` does after it read the clock. -/
def decideApprovalAt (actorId approvalId : Id) (decision : String) (time : Time) :
    Op ApprovalStatus := do
  let approval ← lockedPendingApproval approvalId time
  when (decision = "approve") (applicator approval actorId)
  let status := if decision = "reject" then ApprovalStatus.rejected else .executed
  let decided ← now
  assign .approvals approval.id
    { status := some status, approverId := some (some actorId)
      decidedAt := some (some decided)
      decisionNote := some (some (if decision = "reject" then "rejected by system administrator"
        else "approved by system administrator")) }
  audit ("approval." ++ decision) "approval_request" approval.id (some actorId) none
  enqueue "approval.granted" approval.id
    (.decision approval.action (if decision = "reject" then "rejected" else "executed"))
  commit
  pure status

/-- The clock is read after the caller is resolved, and before the approval is looked at. -/
theorem decideApproval_eq (identity : TelegramIdentity) (approvalId : Id) (decision : String) :
    decideApproval env identity approvalId decision = (do
      let caller ← membershipFor env identity.userId
      requireRoot env identity
      require (decision = "approve" ∨ decision = "reject")
        (.http 422 "decision must be approve or reject")
      let time ← now
      decideApprovalAt caller.actor.id approvalId decision time) := rfl

/-- What the bot's `decide_approval` does after it read the clock. -/
def Bot.decideApprovalAt (caller : Context) (approvalId : Id) (approve : Bool) (time : Time) :
    Op Unit := do
  let approval ← lockedPendingApproval approvalId time
  when (approve = true) (botApplicator approval caller.actorId)
  let decided ← now
  assign .approvals approval.id
    { status := some (if approve then .executed else .rejected)
      approverId := some (some caller.actorId), decidedAt := some (some decided) }
  audit (if approve then "approval.approve" else "approval.reject") "approval_request"
    approval.id (some caller.actorId) (some caller.organizationId)
  enqueue "approval.granted" approval.id
    (.decision approval.action (if approve then "executed" else "rejected"))
  commit

/-- The bot reads the clock in the session that decides. -/
theorem Bot.decideApproval_eq (chatId : Int) (approvalId : Id) (approve : Bool) :
    Bot.decideApproval env chatId approvalId approve = (do
      let caller ← permitted env chatId .decideAdjustment
      withSession (now >>= fun time => decideApprovalAt caller approvalId approve time)) := rfl

/-- A decision whose clock reading is permitted, by the root identity. -/
theorem wp_decideApprovalAt (actorId approvalId : Id) (decision : String) {time : Time}
    (allowed : adjusting) (reading : time ∈ readings)
    (clean : Clean (decisionAgreement adjusting env readings) point)
    (root : IsRoot env point.store actorId) (known : decision = "approve" ∨ decision = "reject") :
    (decideApprovalAt actorId approvalId decision time).wp
      (decisionAgreement adjusting env readings) (fun _ _ => True) point := by
  unfold decideApprovalAt applicator
  refine wp_seq _ (wp_lockedPendingApproval_due approvalId time allowed clean root) ?_
    fun _ _ _ => trivial
  intro approval later locked
  obtain ⟨isOpen, early, due⟩ := locked approval rfl
  refine wp_settleApproval ?_ allowed isOpen reading early due (decision = "approve") _ _ ?_ ?_ _ _
  · rintro locks log store ⟨known, _, found⟩
    exact ⟨(Option.some.inj (Db.find_mem found).2).symm ▸ found, known⟩
  · intro approves
    rw [approves]
    decide
  · intro declines
    rw [known.resolve_left declines]
    decide

theorem wp_botDecideApprovalAt (caller : Bot.Context) (approvalId : Id) (approve : Bool) {time : Time}
    (allowed : adjusting) (reading : time ∈ readings)
    (clean : Clean (decisionAgreement adjusting env readings) point)
    (root : IsRoot env point.store caller.actorId) :
    (Bot.decideApprovalAt caller approvalId approve time).wp
      (decisionAgreement adjusting env readings) (fun _ _ => True) point := by
  unfold Bot.decideApprovalAt Bot.botApplicator
  refine wp_seq _ (wp_lockedPendingApproval_due approvalId time allowed clean root) ?_
    fun _ _ _ => trivial
  intro approval later locked
  obtain ⟨isOpen, early, due⟩ := locked approval rfl
  refine wp_settleApproval ?_ allowed isOpen reading early due (approve = true) _ _ ?_ ?_ none _
  · rintro locks log store ⟨known, _, found⟩
    exact ⟨(Option.some.inj (Db.find_mem found).2).symm ▸ found, known⟩
  · intro approves
    rw [if_pos approves]
  · intro declines
    rw [if_neg declines]

/-- Only the root identity is a system administrator. -/
theorem MayAct.isRoot {db : Db} {telegramId : Int} {actorId organizationId : Id}
    (may : MayAct env db telegramId .decideAdjustment actorId organizationId)
    (invariant : DecisionInvariant env db) : IsRoot env db actorId := by
  obtain ⟨role, acts, allowed⟩ := may
  obtain ⟨actor, member, own, rfl⟩ := acts.actor
  obtain ⟨membership, present, _, _, _, rfl⟩ := acts.membership
  refine ⟨actor, member, own, ?_⟩
  rw [can_decideAdjustment] at allowed
  unfold effectiveRole at allowed
  by_contra other
  rw [if_neg other] at allowed
  exact invariant.roles membership present allowed

/-- The account of the root identity. -/
theorem Acts.isRoot {db : Db} {telegramId : Int} {actorId organizationId : Id} {role : Role}
    (acts : Acts db telegramId actorId organizationId role)
    (root : env.rootTelegramId = some telegramId) : IsRoot env db actorId := by
  obtain ⟨actor, member, own, rfl⟩ := acts.actor
  exact ⟨actor, member, own, root⟩

theorem wp_decideApproval (identity : TelegramIdentity) (approvalId : Id) (decision : String)
    (allowed : adjusting) (everything : readings = Set.univ) {store : Db} :
    (decideApproval env identity approvalId decision).wp (decisionAgreement adjusting env readings)
      (fun _ _ => True) ⟨[], [], [], store⟩ := by
  rw [decideApproval_eq]
  refine wp_afterReading (wp_membershipFor identity.userId) fun caller later clean acts => ?_
  unfold requireRoot
  rw [wp_bind, wp_branch]
  refine ⟨fun _ => trivial, fun root configured => ?_⟩
  rw [wp_require]
  refine ⟨fun same => ?_, fun _ => trivial⟩
  dsimp only
  rw [wp_require_bind]
  refine ⟨fun known => ?_, fun _ => trivial⟩
  rw [wp_now_bind]
  intro time
  refine wp_decideApprovalAt _ _ _ allowed ?_ clean (acts.isRoot (same ▸ configured)) known
  rw [everything]
  exact Set.mem_univ time

theorem wp_botDecideApproval (chatId : Int) (approvalId : Id) (approve : Bool)
    (allowed : adjusting) (everything : readings = Set.univ) {store : Db} :
    (Bot.decideApproval env chatId approvalId approve).wp
      (decisionAgreement adjusting env readings) (fun _ _ => True) ⟨[], [], [], store⟩ := by
  rw [Bot.decideApproval_eq]
  refine wp_afterReading (wp_permitted chatId .decideAdjustment) fun caller later clean may => ?_
  refine wp_withSession_trivial ?_
  rw [wp_now_bind]
  intro time
  refine wp_botDecideApprovalAt _ _ _ allowed ?_ clean (may.isRoot clean.inv)
  rw [everything]
  exact Set.mem_univ time

/-! ## Asking for an adjustment -/

/-- The ids of the adjustments, next to one that was just sent. -/
theorem Due.unlisted {law : Law Database} [law.Steady] {row : ApprovalRequest}
    (due : Due (decisionAgreement adjusting env readings)
      (law.marks decisive [.insert .approvals row]) point) (sent : point.pending = []) :
    Due (decisionAgreement adjusting env readings)
      ((law.both (Law.fact fun db => ∀ other ∈ db.approvals, other.id ≠ row.id)).marks decisive
        [.insert .approvals row]) point := by
  refine due.also fun later rely => ?_
  have filtered := (due.law later rely).2
  rw [sent, List.append_nil] at filtered
  have integrity : Integrity (replay point.log later) :=
    Layout.Integrity.replay rely.inv.integrity (due.accepted later rely)
  have rows : Db.approvals (replay (S := Database) point.log later) = later.approvals ++ [row] := by
    have docket := docket_replay point.log (rfl : later.docket = later.docket)
    rw [filtered] at docket
    exact congrArg Docket.approvals docket
  have ids := integrity.approvalIds
  rw [rows, List.map_append, List.nodup_append'] at ids
  exact fun other member same =>
    ids.2.2 (List.mem_map_of_mem member) (List.mem_singleton.mpr same)

theorem wp_adjustDirectly (actorId targetId : Id) (data : AdjustmentIn) (allowed : adjusting)
    (clean : Clean (decisionAgreement adjusting env readings) point)
    (root : IsRoot env point.store actorId) :
    (adjustDirectly env actorId targetId data).wp (decisionAgreement adjusting env readings)
      (fun _ _ => True) point := by
  unfold adjustDirectly
  rw [wp_now_bind]
  intro time
  rw [wp_uid_bind]
  intro id
  rw [wp_insert_bind]
  have due : Due (decisionAgreement adjusting env readings)
      ((Law.fact fun db => IsRoot env db actorId).marks decisive []) point :=
    clean.noting fun later le => root.proceed le
  generalize filed : (⟨id.1, actorId, some actorId, adjust, "organization", targetId,
    data.amountIrr, data.note, .pending, time + env.approvalTtl, none, none⟩ : ApprovalRequest) = row
  have isOpen : row.status = .pending := by rw [← filed]
  have requester : row.requesterId = actorId := by rw [← filed]
  have own : row.approverId = some row.requesterId := by rw [← filed]
  have ownId : row.id = id.1 := by rw [← filed]
  refine wp_seq _ (wp_flush_due (Untallied decisive)
    (due.mark (show decisive (.insert .approvals row) = true from rfl))) ?_ fun _ _ _ => trivial
  rintro _ flushed ⟨recorded, sent⟩
  refine wp_seq _ (wp_applyWalletAdjustment_due row actorId (Due.unlisted recorded sent)
    (fun _ _ member => by simp at member) rfl
    fun locks log store _ holds other member same => absurd same (holds.2 other member)) ?_
    fun _ _ _ => trivial
  intro _ later applied
  obtain ⟨transaction, sourceId, targetId, key, written⟩ := applied rfl
  rw [wp_now_bind]
  intro decided
  rw [wp_assign_bind, ← ownId]
  have awaited : Due (decisionAgreement adjusting env readings)
      (awaiting adjusting env readings (.update .approvals row.id
        { status := some .executed, decidedAt := some (some decided)
          decisionNote := some (some data.note) })) later := by
    refine written.weaken fun locks log store invariant lawful => ?_
    obtain ⟨⟨⟨holds, source⟩, target⟩, filtered⟩ := lawful
    unfold awaiting
    rw [filtered]
    exact .direct row _ sourceId targetId transaction allowed isOpen rfl rfl own
      (requester.symm ▸ holds.1) ⟨key, source, target⟩
  exact wp_mono _ (wp_sustains (Untallied decisive) _ (Due.complete rfl awaited))
    fun _ _ _ => trivial

theorem wp_requestAdjustment (identity : TelegramIdentity) (data : AdjustmentIn)
    (allowed : adjusting) {store : Db} :
    (requestAdjustment env identity data).wp (decisionAgreement adjusting env readings)
      (fun _ _ => True) ⟨[], [], [], store⟩ := by
  unfold requestAdjustment
  refine wp_afterReading (wp_membershipFor identity.userId) fun caller later clean acts => ?_
  rw [wp_require_bind]
  refine ⟨fun _ => ?_, fun _ => trivial⟩
  rw [wp_get_bind]
  intro last rely
  have there : Clean (decisionAgreement adjusting env readings) { later with store := last } :=
    ⟨by rw [clean.fresh], rely.inv⟩
  rw [wp_found_bind]
  refine ⟨fun target _ => ?_, fun _ => trivial⟩
  rw [wp_require_bind]
  refine ⟨fun _ => ?_, fun _ => trivial⟩
  by_cases root : some identity.userId = env.rootTelegramId
  · rw [if_pos root]
    exact wp_adjustDirectly _ _ _ allowed there
      ((acts.stay (Populated.stay rely.le)).isRoot root.symm)
  · rw [if_neg root]
    unfold adjustLater
    rw [wp_now_bind]
    intro time
    rw [wp_uid_bind]
    intro id
    exact wp_recordAlone _ rfl (fun log store => .file _ allowed rfl) there _

/-! ## Other money -/

/-- Funding an organization under a key that is not derived from a decision. -/
theorem wp_fund (organizationId : Id) (data : FundIn) (allowed : adjusting)
    (underived : ¬Derived data.idempotencyKey) {store : Db} :
    (fund organizationId data).wp (decisionAgreement adjusting env readings)
      (fun _ _ => True) ⟨[], [], [], store⟩ := by
  unfold fund
  rw [wp_get_bind]
  intro later rely
  have clean : Clean (decisionAgreement adjusting env readings) ⟨[], [], [], later⟩ :=
    ⟨rfl, rely.inv⟩
  have due : Due (decisionAgreement adjusting env readings)
      ((Law.fact fun _ => True).marks decisive []) ⟨[], [], [], later⟩ :=
    clean.noting fun _ _ => trivial
  rw [wp_found_bind]
  refine ⟨fun organization _ => ?_, fun _ => trivial⟩
  refine wp_seq _ (wp_transfer_due _ _ _ _ _ _ _ _ due fun _ _ member => by cases member) ?_
    fun _ _ _ => trivial
  intro transaction last transferred
  have lawful : Due (decisionAgreement adjusting env readings)
      (decisionLaw adjusting env readings) last := by
    cases transferred transaction rfl with
    | found key recorded =>
        refine recorded.weaken fun locks log store _ holds => ?_
        unfold decisionLaw
        rw [holds.2]
        exact .none
    | wrote sourceId targetId _ key written =>
        refine written.weaken fun locks log store _ holds => ?_
        obtain ⟨⟨⟨_, source⟩, target⟩, filtered⟩ := holds
        unfold decisionLaw
        rw [filtered]
        exact .transfer ⟨systemOwner, organizationId, data.amountIrr, data.idempotencyKey⟩ sourceId
          targetId transaction allowed underived ⟨key, source, target⟩
  exact wp_mono _ (wp_sustains (Untallied decisive) _ lawful) fun _ _ _ => trivial

end

end ControlPlane
