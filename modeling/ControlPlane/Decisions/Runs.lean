import ControlPlane.Decisions.Approvals
import ControlPlane.Decisions.Routes
import ControlPlane.Ledger.Runs
import ControlPlane.Library.FirstAnswer

/-!
# Decisions over all interleavings

Requests are opened and decided at the same time by any number of sessions, in
both front ends, while money moves under keys of its own.
-/

namespace ControlPlane

open ReadCommitted Orm

/-- The sessions that open and decide funding requests and adjustments, and that fund an
organization under one of some keys. -/
inductive DecisionOperation (env : Env) (keys : Set String) :
    Prog Database (Except Failure Unit) → Prop
  | webFundingRequest (identity : TelegramIdentity) (data : FundingRequestIn) :
      DecisionOperation env keys (served (webFundingRequest env identity data))
  | requestCredit (chatId : Int) (amountIrr : Int) :
      DecisionOperation env keys (served (Bot.requestCredit env chatId amountIrr))
  | branchDecideFunding (identity : TelegramIdentity) (requestId : Id) (decision : String) :
      DecisionOperation env keys (served (branchDecideFunding env identity requestId decision))
  | adminDecideFunding (identity : TelegramIdentity) (requestId : Id) (decision : String) :
      DecisionOperation env keys (served (adminDecideFunding env identity requestId decision))
  | botDecideFunding (chatId : Int) (requestId : Id) (approve : Bool) :
      DecisionOperation env keys (served (Bot.decideFunding env chatId requestId approve))
  | requestAdjustment (identity : TelegramIdentity) (data : AdjustmentIn) :
      DecisionOperation env keys (served (requestAdjustment env identity data))
  | decideApproval (identity : TelegramIdentity) (approvalId : Id) (decision : String) :
      DecisionOperation env keys (served (decideApproval env identity approvalId decision))
  | botDecideApproval (chatId : Int) (approvalId : Id) (approve : Bool) :
      DecisionOperation env keys (served (Bot.decideApproval env chatId approvalId approve))
  | fund (organizationId : Id) (data : FundIn) : data.idempotencyKey ∈ keys →
      DecisionOperation env keys (served (fund organizationId data))

/-- Keys that belong to no decision. -/
def otherKeys : Set String := {key | ¬Derived key}

/-! ## What became of a decision -/

/-- One transaction carries the key of a payment, and it debits the source and credits the target
by the amount. -/
def PaidOnce (db : Db) (payment : Payment) : Prop :=
  ∃ transaction, (∀ other, other ∈ db.transactions ∧ other.idempotencyKey = payment.key ↔
      other = transaction) ∧
    ∃ source target, (source, payment.source) ∈ db.owners ∧ (target, payment.target) ∈ db.owners ∧
      db.entries.filter (fun entry => entry.transactionId = transaction.id) =
        [⟨transaction.id, source, .debit, payment.amountIrr⟩,
          ⟨transaction.id, target, .credit, payment.amountIrr⟩]

/-- No transaction carries the key of a payment. -/
def Unpaid (db : Db) (payment : Payment) : Prop :=
  ∀ transaction ∈ db.transactions, transaction.idempotencyKey ≠ payment.key

/-- A funding request was decided by someone with a say in the parent, and was paid exactly when it
was approved. -/
structure RequestKept (env : Env) (db : Db) (request : FundingRequest) : Prop where
  decided : request.status ≠ .pending →
    ∃ actorId, request.decidedBy = some actorId ∧ Authorized env db actorId request.organizationId
  credited : request.status = .approved → PaidOnce db request.payment
  uncredited : request.status ≠ .approved → Unpaid db request.payment

/-- An adjustment was executed by the root identity, and was paid exactly when it was executed. -/
structure ApprovalKept (env : Env) (db : Db) (approval : ApprovalRequest) : Prop where
  approved : approval.status = .executed → ∃ actorId, approval.approverId = some actorId ∧
    IsRoot env db actorId ∧ (¬IsRoot env db approval.requesterId → actorId ≠ approval.requesterId)
  moved : approval.status = .executed → PaidOnce db approval.payment
  unmoved : approval.status ≠ .executed → Unpaid db approval.payment

namespace DecisionInvariant

variable {env : Env} {db : Db}

/-- What is in the ledger is there once. -/
theorem paidOnce (invariant : DecisionInvariant env db) {payment : Payment}
    (member : payment ∈ db.payments) : PaidOnce db payment := by
  obtain ⟨transaction, there, key, wallets⟩ := invariant.settled payment member
  refine ⟨transaction, fun other => ⟨fun holds => ?_, ?_⟩, wallets⟩
  · exact invariant.integrity.transaction_eq holds.1 there (holds.2.trans key.symm)
  · rintro rfl
    exact ⟨there, key⟩

theorem requestKept (invariant : DecisionInvariant env db) {request : FundingRequest}
    (member : request ∈ db.fundingRequests) : RequestKept env db request where
  decided := invariant.decided request member
  credited approved := invariant.paidOnce (Db.mem_payments.mpr (.inl ⟨request, member, approved, rfl⟩))
  uncredited unapproved transaction recorded same := by
    obtain ⟨payment, caused, key⟩ := invariant.derived transaction recorded ⟨request.id, .inl same⟩
    rcases Db.mem_payments.mp caused with ⟨paid, paidMember, approved, rfl⟩ | ⟨approval, _, _, rfl⟩
    · have id : paid.id = request.id := (String.append_right_inj _).mp (key.trans same)
      have equal := invariant.integrity.eq_of_key .fundingRequests paidMember rfl member
        (congrArg some id.symm)
      exact unapproved (equal ▸ approved)
    · rw [ApprovalRequest.payment_key] at key
      exact derived_ne _ _ (same.symm.trans key.symm)

theorem approvalKept (invariant : DecisionInvariant env db) {approval : ApprovalRequest}
    (member : approval ∈ db.approvals) : ApprovalKept env db approval where
  approved executed := by
    obtain ⟨actorId, approver, root⟩ := invariant.executed approval member executed
    exact ⟨actorId, approver, root, fun other same => other (same ▸ root)⟩
  moved executed := invariant.paidOnce (Db.mem_payments.mpr (.inr ⟨approval, member, executed, rfl⟩))
  unmoved unexecuted transaction recorded same := by
    rw [ApprovalRequest.payment_key] at same
    refine invariant.approval_unpaid (fun row rowMember id executed => ?_) recorded same
    have equal := invariant.integrity.eq_of_key .approvals rowMember rfl member
      (congrArg some id.symm)
    exact unexecuted (equal ▸ executed)

end DecisionInvariant

/-! ## Runs -/

section

variable {env : Env}

/-- Sessions that keep to the agreement up to their end meet it. -/
theorem decision_meets {adjusting : Prop} {readings : Set Time} (program : Op α)
    (kept : ∀ store, DecisionInvariant env store →
      program.wp (decisionAgreement adjusting env readings) (fun _ _ => True) ⟨[], [], [], store⟩) :
    (decisionAgreement adjusting env readings).Meets (served program) :=
  Agreement.meets_session fun store invariant =>
    wp_seq _ (kept store invariant) (fun _ _ _ => trivial) fun _ _ _ => trivial

/-- Every operation on decisions meets the agreement. -/
theorem DecisionOperation.meets {program : Prog Database (Except Failure Unit)}
    (operation : DecisionOperation env otherKeys program) :
    (decisionAgreement True env Set.univ).Meets program := by
  cases operation with
  | webFundingRequest identity data =>
      exact decision_meets _ fun _ _ => wp_webFundingRequest identity data
  | requestCredit chatId amountIrr =>
      exact decision_meets _ fun _ _ => wp_requestCredit chatId amountIrr
  | branchDecideFunding identity requestId decision =>
      exact decision_meets _ fun _ _ => wp_branchDecideFunding identity requestId decision
  | adminDecideFunding identity requestId decision =>
      exact decision_meets _ fun _ _ => wp_adminDecideFunding identity requestId decision
  | botDecideFunding chatId requestId approve =>
      exact decision_meets _ fun _ _ => wp_botDecideFunding chatId requestId approve
  | requestAdjustment identity data =>
      exact decision_meets _ fun _ _ => wp_requestAdjustment identity data trivial
  | decideApproval identity approvalId decision =>
      exact decision_meets _ fun _ _ => wp_decideApproval identity approvalId decision trivial rfl
  | botDecideApproval chatId approvalId approve =>
      exact decision_meets _ fun _ _ => wp_botDecideApproval chatId approvalId approve trivial rfl
  | fund organizationId data underived =>
      exact decision_meets _ fun _ _ => wp_fund organizationId data trivial underived

instance (identity : TelegramIdentity) (data : FundingRequestIn) (solvency : Prop) :
    Keeps (ledgerAgreement solvency) LedgerNeutral (webFundingRequest env identity data) := by
  unfold webFundingRequest
  infer_instance

instance (chatId : Int) (amountIrr : Int) (solvency : Prop) :
    Keeps (ledgerAgreement solvency) LedgerNeutral (Bot.requestCredit env chatId amountIrr) := by
  unfold Bot.requestCredit
  infer_instance

/-- Every operation on decisions keeps the books. -/
theorem DecisionOperation.balances {keys : Set String}
    {program : Prog Database (Except Failure Unit)} (operation : DecisionOperation env keys program)
    (solvency : Prop) : (ledgerAgreement solvency).Meets program := by
  cases operation <;> exact served_meets solvency _

variable {ι : Type} [DecidableEq ι] {store : Db} {world : World Database ι (Except Failure Unit)}

theorem decision_sound (opening : DecisionInvariant env store)
    (reached : World.Reachable (DecisionOperation env otherKeys) store world) :
    (decisionAgreement True env Set.univ).Sound world :=
  Agreement.Sound.reachable (fun _ operation => operation.meets) opening reached

/-- In every committed state a funding request is paid exactly when it was approved, and was
decided by someone with a say in the parent; what is decided stays as it is, the wallets stand at
the sums of their entries, and the branch route and the bot decide alike. -/
theorem requests_decided (opening : DecisionInvariant env store)
    (books : LedgerInvariant False store)
    (reached : World.Reachable (DecisionOperation env otherKeys) store world) :
    (∀ request ∈ world.store.fundingRequests, RequestKept env world.store request) ∧
      (∀ later, Relation.ReflTransGen (World.Step (DecisionOperation env otherKeys)) world later →
        ∀ request ∈ world.store.fundingRequests, request.status ≠ .pending →
          ∀ row, row ∈ later.store.fundingRequests ∧ row.id = request.id ↔ row = request) ∧
      (∀ account ∈ world.store.accounts,
        account.balanceIrr = Db.entriesBalance world.store account.id) ∧
      ∀ (answers : Answers Database) (identity : TelegramIdentity) (chatId : Int)
        (caller : Identity) (context : Bot.Context) (requestId : Id) (approve : Bool),
        ((manager env identity.userId .decideFunding).serve answers world.store).1 = .ok caller →
        ((Bot.permitted env chatId .decideFunding).serve answers world.store).1 = .ok context →
        caller.actor.id = context.actorId → caller.organization.id = context.organizationId →
          outcome ((branchDecideFunding env identity requestId
              (if approve then "approve" else "reject")).run answers (.opened world.store)) =
              outcome ((Bot.decideFunding env chatId requestId approve).run answers
                (.opened world.store)) ∧
            (((branchDecideFunding env identity requestId
                (if approve then "approve" else "reject")).run answers
                  (.opened world.store)).1.isOk = true ↔
              (outcome ((Bot.decideFunding env chatId requestId approve).run answers
                (.opened world.store))).1 ≠ []) := by
  have sound := decision_sound opening reached
  have balanced : (ledgerAgreement False).Sound world :=
    Agreement.Sound.reachable (fun _ operation => operation.balances False) books reached
  refine ⟨fun request member => sound.inv.requestKept member, fun later steps request member
    decided row => ⟨fun holds => ?_, ?_⟩, balanced.inv.balanced.balances, ?_⟩
  · obtain ⟨soundLater, le⟩ := sound.evolve (fun _ operation => operation.meets) steps
    exact soundLater.inv.integrity.eq_of_key .fundingRequests holds.1 rfl
      (le.requests request member decided) (congrArg some holds.2.symm)
  · rintro rfl
    exact ⟨(sound.evolve (fun _ operation => operation.meets) steps).2.requests row member decided,
      rfl⟩
  · intro answers identity chatId caller context requestId approve web bot actor organization
    exact routes_agree answers requestId approve web bot actor organization

/-- The workspace with the root identity, an open request of the shop, and an open adjustment of
its wallet. -/
def Sample.requested : Db := replay (S := Database)
  (Sample.rows ++
    [.insert .actors ⟨"admin", 1, "Admin", .active⟩,
      .insert .memberships ⟨"admins", "root", "admin", .resellerAdmin, .active, 0⟩,
      .insert .fundingRequests ⟨"request", "shop", "member", 300, .pending, none, none⟩,
      .insert .approvals
        { id := "approval", requesterId := "member", approverId := none, action := adjust
          targetType := "organization", targetId := "shop", amountIrr := 200, note := "late"
          status := .pending, expiresAt := 100, decidedAt := none, decisionNote := none }]) {}

/-- Nothing was decided yet. -/
theorem Sample.undecided : DecisionInvariant Sample.env Sample.requested where
  integrity := Layout.Integrity.replay Integrity.empty (by decide)
  roles := by decide
  settled payment member := absurd member (by
    rw [show Db.payments Sample.requested = [] from rfl]
    exact List.not_mem_nil)
  derived transaction member := absurd member List.not_mem_nil
  decided request member decided := by
    rw [show Db.fundingRequests Sample.requested =
      [⟨"request", "shop", "member", 300, .pending, none, none⟩] from rfl,
      List.mem_singleton] at member
    exact absurd (congrArg FundingRequest.status member) decided
  executed approval member executed := by
    have isOpen : ∀ approval ∈ Db.approvals Sample.requested, approval.status = .pending := by decide
    rw [isOpen approval member] at executed
    cases executed

theorem Sample.requested_books : LedgerInvariant False Sample.requested where
  integrity := Sample.undecided.integrity
  balanced := .opening rfl rfl
  solvent := False.elim

/-- The root identity approves the request of the shop. -/
theorem requests_decided_approve :
    ∃ world : World Database Unit (Except Failure Unit),
      World.Reachable (DecisionOperation Sample.env otherKeys) Sample.requested world ∧
        world.store.fundingRequests.map FundingRequest.status = [.approved] ∧
          ∀ request ∈ world.store.fundingRequests, RequestKept Sample.env world.store request := by
  obtain ⟨world, reached, same⟩ := World.reachable_run () Sample.answers
    (DecisionOperation.branchDecideFunding ⟨1, "Admin"⟩ "request" "approve" :
      DecisionOperation Sample.env otherKeys _) Sample.requested
  refine ⟨world, reached, ?_, (requests_decided Sample.undecided Sample.requested_books reached).1⟩
  rw [same, served_run]
  decide +kernel

/-- The workspace after a deposit of the root organization under the key of the shop's request, and
the approval of the request. -/
def Sample.preempted : Db :=
  ((branchDecideFunding Sample.env ⟨1, "Admin"⟩ "request" "approve").serve (Sample.answersFrom 10)
    ((fund "root" ⟨5, "funding-request:request"⟩).serve Sample.answers Sample.requested).2).2

/-- Where a deposit may carry the key of a request, the request is approved and never paid. -/
theorem requests_decided_fails :
    ¬∀ world : World Database Unit (Except Failure Unit),
      World.Reachable (DecisionOperation Sample.env Set.univ) Sample.requested world →
        ∀ request ∈ world.store.fundingRequests, RequestKept Sample.env world.store request := by
  intro kept
  have quiet : (World.initial Sample.requested : World Database Unit (Except Failure Unit)).Quiet :=
    fun _ => rfl
  obtain ⟨first, reached, quiet, funded⟩ := quiet_served quiet .refl () Sample.answers
    (DecisionOperation.fund "root" ⟨5, "funding-request:request"⟩ (Set.mem_univ _) :
      DecisionOperation Sample.env Set.univ _)
  obtain ⟨last, reached, quiet, decided⟩ := quiet_served quiet reached () (Sample.answersFrom 10)
    (DecisionOperation.branchDecideFunding ⟨1, "Admin"⟩ "request" "approve" :
      DecisionOperation Sample.env Set.univ _)
  have same : last.store = Sample.preempted := by
    rw [decided, funded]
    rfl
  have all := kept last reached
  rw [same] at all
  have member : ⟨"request", "shop", "member", 300, .approved, some "admin", some 0⟩ ∈
      Db.fundingRequests Sample.preempted := by decide +kernel
  obtain ⟨transaction, _, source, target, _, owned, _⟩ := (all _ member).credited rfl
  have unowned : ∀ pair ∈ Db.owners Sample.preempted, pair.2 ≠ "shop" := by decide +kernel
  exact unowned _ owned rfl

end

end ControlPlane
