import ControlPlane.Decisions.Agreement
import ControlPlane.Identity.Callers

/-!
# Sessions that decide

A decision locks its row before it looks whether it is still open. Under the
lock the row stays as it was read, so that a payment under its key cannot have
been made, and the transfer writes one.
-/

namespace ControlPlane

open ReadCommitted Orm

/-! ## The law about decisions -/

section

variable {adjusting : Prop} {env : Env} {readings : Set Time}

/-- Further writes do not make a transaction unlawful. -/
theorem DecisionLaw.grow {log longer : List Database.Write} {db : Db}
    {marks : List Database.Write} (sublist : log.Sublist longer)
    (lawful : DecisionLaw adjusting env readings log db marks) :
    DecisionLaw adjusting env readings longer db marks := by
  have wider : ∀ {payment source target transaction},
      Paid payment log db source target transaction →
        Paid payment longer db source target transaction := by
    intro payment source target transaction paid
    have more : db.owners ++ opened log ⊆ db.owners ++ opened longer :=
      (List.Sublist.append_left (sublist.filterMap _) _).subset
    exact ⟨paid.key, more paid.source, more paid.target⟩
  cases lawful with
  | none => exact .none
  | request row isOpen => exact .request row isOpen
  | refuse row actorId time member isOpen authorized =>
      exact .refuse row actorId time member isOpen authorized
  | grant row actorId time source target transaction member isOpen authorized paid =>
      exact .grant row actorId time source target transaction member isOpen authorized (wider paid)
  | file row allowed isOpen => exact .file row allowed isOpen
  | dismiss row columns status allowed member isOpen assigned decided other =>
      exact .dismiss row columns status allowed member isOpen assigned decided other
  | execute row columns actorId time source target transaction allowed member isOpen assigned by'
      root reading early paid =>
      exact .execute row columns actorId time source target transaction allowed member isOpen
        assigned by' root reading early (wider paid)
  | direct row columns source target transaction allowed isOpen assigned unassigned own root paid =>
      exact .direct row columns source target transaction allowed isOpen assigned unassigned own
        root (wider paid)
  | transfer payment source target transaction allowed underived paid =>
      exact .transfer payment source target transaction allowed underived (wider paid)

instance : (decisionAgreement adjusting env readings).Sanctions (Untallied decisive)
    (decisionLaw adjusting env readings) where
  held _ lawful := lawful
  benign {held first last statement store} indecisive lawful := by
    unfold decisionLaw at *
    rw [List.filter_append, List.filter_cons_of_neg (by simpa using indecisive),
      ← List.filter_append]
    exact lawful.grow (List.Sublist.append_left (List.sublist_cons_self _ _) _)
  nil _ := .none
  commit _ accepted lawful := ⟨accepted, lawful⟩

instance : Admitted (Untallied decisive) .auditLogs := ⟨fun _ => rfl, fun _ _ => rfl⟩
instance : Admitted (Untallied decisive) .outbox := ⟨fun _ => rfl, fun _ _ => rfl⟩
instance : Admitted (Untallied decisive) .organizations := ⟨fun _ => rfl, fun _ _ => rfl⟩
instance : Admitted (Untallied decisive) .closures := ⟨fun _ => rfl, fun _ _ => rfl⟩
instance : Admitted (Untallied decisive) .contracts := ⟨fun _ => rfl, fun _ _ => rfl⟩
instance : Admitted (Untallied decisive) .actors := ⟨fun _ => rfl, fun _ _ => rfl⟩

/-- An organization gets administrators of its own, who are no system administrators. -/
instance (organizationId actorId : Id) {law : Law Database} [law.Tolerates (Untallied decisive)] :
    Sustains (decisionAgreement adjusting env readings) (Untallied decisive) law
      (addMembership organizationId actorId .resellerAdmin) where
  sustains point due := by
    unfold addMembership
    rw [wp_uid_bind]
    intro id
    refine ⟨Agreement.Asks.asks, fun time => ?_⟩
    exact due.record (show Untallied decisive _ from rfl)

set_option synthInstance.maxSize 100000 in
instance (parentId : Id) (name slug : String) (creditLimitIrr pricePerGibIrr : Int) :
    Sustains (decisionAgreement adjusting env readings) (Untallied decisive)
      (decisionLaw adjusting env readings)
      (openChild parentId name slug creditLimitIrr pricePerGibIrr) := by
  unfold openChild
  infer_instance

instance (identity : TelegramIdentity) (data : WebChildIn) :
    Sustains (decisionAgreement adjusting env readings) (Untallied decisive)
      (decisionLaw adjusting env readings) (webCreateChild env identity data) := by
  unfold webCreateChild
  infer_instance

set_option synthInstance.maxSize 100000 in
instance (chatId : Int) (data : Bot.ResellerData) :
    Sustains (decisionAgreement adjusting env readings) (Untallied decisive)
      (decisionLaw adjusting env readings) (Bot.createReseller env chatId data) := by
  unfold Bot.createReseller
  infer_instance

instance : Populated (decisionAgreement adjusting env readings) where
  stay le := ⟨le.nodes, le.memberships, le.actors⟩

end

/-! ## Locked rows -/

/-- The session holds the lock of a row, and this is the row. -/
def held (table : Table) (key : table.Key) (row : table.Row) : Law Database :=
  fun locks _ store => Locked locks table key ∧ Db.find store table key = some row

instance (table : Table) (key : table.Key) (row : table.Row) : (held table key row).Steady where
  grow more _ kept := ⟨kept.1.mono more, kept.2⟩

section

variable {A : Agreement Database} {tallied : Database.Write → Bool} [Tallies tallied]
  {law : Law Database} [law.Steady] {rows : List Database.Write} {point : Point Database}

omit [Tallies tallied] in
/-- A session that locks a row and has written nothing keeps what it read of the row. -/
theorem wp_getForUpdate_due {post : Except Failure β → Point Database → Prop} (table : Table)
    (key : table.Key) (rest : Option table.Row → Op β)
    (due : Due A (law.marks tallied rows) point) (unwritten : point.log = [])
    (next : ∀ result later, later.log = [] →
      (result = none → Due A (law.marks tallied rows) later) →
      (∀ row, result = some row →
        Due A ((law.both (held table key row)).marks tallied rows) later) →
        (rest result).wp A post later) :
    (getForUpdate table key >>= rest).wp A post point := by
  rw [wp_getForUpdate_bind]
  intro seen rely
  refine ⟨fun _ => next _ _ unwritten (fun _ => due.rely rely) (by rintro _ ⟨⟩), ?_⟩
  intro row _ granted moved later last
  have locked := (((due.rely rely).rely moved).acquire (Untallied tallied)
    (rowLocks table key (replay (S := Database) point.log granted))).rely last
  refine next _ _ unwritten (fun _ => locked) fun row found => ?_
  refine locked.also fun after more => ?_
  have own : Locked (point.held ++ rowLocks table key (replay point.log granted)) table key :=
    .forUpdate ..
  refine ⟨own, ?_⟩
  have same := own.find_eq locked.covered more
  unfold Point.view at same
  dsimp only at same
  rw [found, unwritten] at same
  exact same

omit [Tallies tallied] [law.Steady] in
/-- A fact about the committed store that lasts. -/
theorem Due.noting {holds : Db → Prop}
    (due : Due A (law.marks tallied rows) point)
    (lasts : ∀ later, A.le point.store later → holds later) :
    Due A ((law.both (Law.fact holds)).marks tallied rows) point :=
  due.also fun later rely => lasts later rely.le

end

/-! ## Funding requests -/

/-- An account that may decide the requests of the children of a branch, and, where it is the root
identity, those of organizations without a parent. -/
structure Decider (env : Env) (db : Db) (actorId branchId : Id) (rootless : Prop) : Prop where
  branch : ∃ telegramId, MayAct env db telegramId .decideFunding actorId branchId
  root : rootless → IsRoot env db actorId

namespace Decider

variable {env : Env} {db later : Db} {actorId branchId : Id} {rootless : Prop}

theorem stay (decider : Decider env db actorId branchId rootless) (peopled : Peopled db later) :
    Decider env later actorId branchId rootless where
  branch := decider.branch.imp fun _ may => may.stay peopled
  root asked := by
    obtain ⟨actor, member, rfl, own⟩ := decider.root asked
    obtain ⟨known, knownMember, id, telegramId⟩ := peopled.actors actor member
    exact ⟨known, knownMember, id, telegramId ▸ own⟩

/-- A decider of a branch may decide the requests of its children. -/
theorem authorized (decider : Decider env db actorId branchId rootless) {node : Node}
    (member : node ∈ db.nodes)
    (below : node.parentId = some branchId ∨ rootless ∧ node.parentId = none) :
    Authorized env db actorId node.id := by
  rcases below with child | ⟨asked, root⟩
  · obtain ⟨telegramId, role, acts, allowed⟩ := decider.branch
    obtain ⟨actor, actorMember, own, rfl⟩ := acts.actor
    obtain ⟨membership, present, byActor, active, rfl, rfl⟩ := acts.membership
    exact ⟨actor, actorMember, own, node, member, rfl,
      .inr ⟨membership, present, byActor, active, child, allowed⟩⟩
  · obtain ⟨actor, actorMember, own, identity⟩ := decider.root asked
    exact ⟨actor, actorMember, own, node, member, rfl, .inl ⟨identity, root⟩⟩

end Decider

/-- No transaction carries the key of a request that is still open. -/
theorem DecisionInvariant.request_unpaid {env : Env} {db : Db} (invariant : DecisionInvariant env db)
    {request : FundingRequest} (member : request ∈ db.fundingRequests)
    (isOpen : request.status = .pending) {transaction : Transaction}
    (recorded : transaction ∈ db.transactions) :
    transaction.idempotencyKey ≠ request.payment.key := by
  intro same
  obtain ⟨payment, caused, key⟩ :=
    invariant.derived transaction recorded ⟨request.id, .inl same⟩
  rcases Db.mem_payments.mp caused with ⟨paid, paidMember, approved, rfl⟩ | ⟨approval, _, _, rfl⟩
  · have id : paid.id = request.id := (String.append_right_inj _).mp (key.trans same)
    have equal := invariant.integrity.eq_of_key .fundingRequests paidMember rfl member
      (congrArg some id.symm)
    rw [equal, isOpen] at approved
    cases approved
  · rw [ApprovalRequest.payment_key] at key
    exact derived_ne _ _ (same.symm.trans key.symm)

section

variable {adjusting : Prop} {env : Env} {readings : Set Time} {point : Point Database}

/-- One more statement makes what was written lawful. -/
def awaiting (adjusting : Prop) (env : Env) (readings : Set Time) (statement : Database.Write) :
    Law Database :=
  fun _ log store => DecisionLaw adjusting env readings log store (log.filter decisive ++ [statement])

/-- The statement that was awaited is recorded. -/
theorem Due.complete {statement : Database.Write} (isDecisive : decisive statement = true)
    (due : Due (decisionAgreement adjusting env readings)
      (awaiting adjusting env readings statement) point) :
    Due (decisionAgreement adjusting env readings) (decisionLaw adjusting env readings)
      { point with pending := point.pending ++ [statement] } :=
  due.add fun _ _ lawful => by
    unfold decisionLaw
    rw [← List.append_assoc, List.filter_append, List.filter_cons_of_pos isDecisive]
    exact lawful.grow (List.sublist_append_left _ _)

/-- The transactions that a log writes are among its decisive statements. -/
theorem writtenTransactions_filter (log : List Database.Write) :
    writtenTransactions (log.filter decisive) = writtenTransactions log := by
  unfold writtenTransactions
  rw [List.filterMap_filter]
  refine List.filterMap_congr fun statement _ => ?_
  cases statement with
  | insert table row =>
      cases table
      case memberships =>
        dsimp only
        split <;> rfl
      all_goals rfl
  | update table key columns =>
      cases table
      case fundingRequests => rfl
      case approvals => rfl
      all_goals rfl
  | delete table key => rfl

/-- A transfer under a key that no transaction carries writes its transaction. -/
theorem wp_transfer_open {law : Law Database} [law.Steady] {rows : List Database.Write}
    (source target : String) (amountIrr : Int) (key kind reference : String) (enforce : Bool)
    (actorId : Option Id)
    (due : Due (decisionAgreement adjusting env readings) (law.marks decisive rows) point)
    (lasting : Lasting rows) (unwritten : writtenTransactions rows = [])
    (unused : ∀ locks log store, DecisionInvariant env store → law locks log store →
      ∀ transaction ∈ Db.transactions store, transaction.idempotencyKey ≠ key) :
    (transfer source target amountIrr key kind reference enforce actorId).wp
      (decisionAgreement adjusting env readings)
      (fun result later => ∀ transaction, result = .ok transaction →
        transaction.idempotencyKey = key ∧ ∃ sourceId targetId,
          Due (decisionAgreement adjusting env readings)
            (((law.both (owns sourceId source)).both (owns targetId target)).marks decisive
              (rows ++ posted sourceId targetId amountIrr transaction)) later) point := by
  refine wp_mono _ (wp_transfer_due source target amountIrr key kind reference enforce actorId due
    lasting) fun result later transferred transaction returned => ?_
  cases transferred transaction returned with
  | found own recorded =>
      exfalso
      have refl := @Agreement.Rely.refl _ _ later.held _ recorded.inv
      obtain ⟨⟨holds, there⟩, filtered⟩ := recorded.law _ refl
      unfold records at there
      rw [← writtenTransactions_filter, filtered, unwritten, List.append_nil] at there
      exact unused _ _ _ recorded.inv holds transaction there own
  | wrote sourceId targetId _ own written => exact ⟨own, sourceId, targetId, written⟩

/-- What a session knows of the request that it decides. -/
structure Deciding (env : Env) (actorId : Id) (request : FundingRequest) (store : Db) : Prop where
  found : Db.find store .fundingRequests request.id = some request
  authorized : Authorized env store actorId request.organizationId

/-- The statement that decides a request. -/
abbrev decision (request : FundingRequest) (status : FundingStatus) (actorId : Id) (time : Time) :
    Database.Write :=
  .update .fundingRequests request.id
    { status := some status, decidedBy := some (some actorId), decidedAt := some (some time) }

/-- Paying a request that is still open writes its payment. -/
theorem wp_payFundingRequest_due {law : Law Database} [law.Steady] {request : FundingRequest}
    {actorId : Id} (knows : ∀ locks log store, law locks log store →
      Deciding env actorId request store) (isOpen : request.status = .pending)
    (due : Due (decisionAgreement adjusting env readings) (law.marks decisive []) point) :
    (payFundingRequest actorId request).wp (decisionAgreement adjusting env readings)
      (fun result later => result = .ok () → ∀ time,
        Due (decisionAgreement adjusting env readings)
          (awaiting adjusting env readings (decision request .approved actorId time)) later)
      point := by
  unfold payFundingRequest
  refine wp_seq _ (wp_transfer_open _ _ _ _ _ _ _ _ due (fun _ _ member => by cases member) rfl
    fun locks log store invariant holds transaction there =>
      invariant.request_unpaid (Db.find_mem (knows _ _ _ holds).found).1 isOpen there) ?_
    (by rintro _ _ _ ⟨⟩)
  intro transaction later transferred
  rw [wp_pure]
  intro _ time
  obtain ⟨key, sourceId, targetId, written⟩ := transferred transaction rfl
  refine written.weaken fun locks log store invariant lawful => ?_
  obtain ⟨⟨⟨holds, source⟩, target⟩, filtered⟩ := lawful
  obtain ⟨found, authorized⟩ := knows _ _ _ holds
  unfold awaiting
  rw [filtered, List.nil_append]
  exact .grant request actorId time sourceId targetId transaction (Db.find_mem found).1 isOpen
    authorized ⟨key, source, target⟩

/-- A request that is still open is paid when it is granted, and then decided. -/
theorem wp_settleRequest {law : Law Database} [law.Steady] {request : FundingRequest} {actorId : Id}
    (knows : ∀ locks log store, law locks log store → Deciding env actorId request store)
    (isOpen : request.status = .pending)
    (due : Due (decisionAgreement adjusting env readings) (law.marks decisive []) point)
    (granting : Prop) [Decidable granting] (rest : Unit → Op β)
    [∀ value, Sustains (decisionAgreement adjusting env readings) (Untallied decisive)
      (decisionLaw adjusting env readings) (rest value)] :
    wp (decisionAgreement adjusting env readings)
      (when granting (payFundingRequest actorId request) >>= fun _ => now >>= fun time =>
        assign .fundingRequests request.id
          { status := some (if granting then .approved else .rejected)
            decidedBy := some (some actorId), decidedAt := some (some time) } >>= rest)
      (fun _ _ => True) point := by
  have finish : ∀ time later, Due (decisionAgreement adjusting env readings)
      (awaiting adjusting env readings
        (decision request (if granting then .approved else .rejected) actorId time)) later →
      wp (decisionAgreement adjusting env readings)
        (assign .fundingRequests request.id
          { status := some (if granting then .approved else .rejected)
            decidedBy := some (some actorId), decidedAt := some (some time) } >>= rest)
        (fun _ _ => True) later := by
    intro time later awaited
    rw [wp_assign_bind]
    exact wp_mono _ (wp_sustains (Untallied decisive) (rest ()) (Due.complete rfl awaited))
      fun _ _ _ => trivial
  rw [wp_bind, wp_when]
  constructor
  · intro granted
    refine wp_mono _ (wp_payFundingRequest_due knows isOpen due) ?_
    intro result later paid
    cases result with
    | error exception => trivial
    | ok value =>
        dsimp only
        rw [wp_now_bind]
        intro time
        refine finish time later ?_
        rw [if_pos granted]
        exact paid rfl time
  · intro refused
    dsimp only
    rw [wp_now_bind]
    intro time
    refine finish time _ ?_
    rw [if_neg refused]
    refine due.weaken fun locks log store invariant lawful => ?_
    obtain ⟨holds, filtered⟩ := lawful
    obtain ⟨found, authorized⟩ := knows _ _ _ holds
    unfold awaiting
    rw [filtered, List.nil_append]
    exact .refuse request actorId time (Db.find_mem found).1 isOpen authorized

/-- A session that only read knows a fact that lasts, and has written nothing. -/
theorem Clean.noting {A : Agreement Database} {tallied : Database.Write → Bool} {holds : Db → Prop}
    (clean : Clean A point) (lasts : ∀ later, A.le point.store later → holds later) :
    Due A ((Law.fact holds).marks tallied []) point := by
  obtain ⟨fresh, invariant⟩ := clean
  rw [fresh] at *
  exact ⟨invariant, .nil _, fun _ _ => rfl, fun later rely => ⟨lasts later rely.le, rfl⟩⟩

/-- Deciding a locked request, by someone who may decide the requests of its organization. -/
theorem wp_decideLocked {actorId branchId : Id} {rootless : Prop} {requestId : Id}
    {request : FundingRequest}
    (due : Due (decisionAgreement adjusting env readings)
      (((Law.fact fun db => Decider env db actorId branchId rootless).both
        (held .fundingRequests requestId request)).marks decisive []) point)
    (isOpen : request.status = .pending) {child : Organization}
    (stored : Db.find point.store .organizations request.organizationId = some child)
    (below : child.parentId = some branchId ∨ rootless ∧ child.parentId = none)
    (granting : Prop) [Decidable granting] (rest : Unit → Op β)
    [∀ value, Sustains (decisionAgreement adjusting env readings) (Untallied decisive)
      (decisionLaw adjusting env readings) (rest value)] :
    wp (decisionAgreement adjusting env readings)
      (when granting (payFundingRequest actorId request) >>= fun _ => now >>= fun time =>
        assign .fundingRequests request.id
          { status := some (if granting then .approved else .rejected)
            decidedBy := some (some actorId), decidedAt := some (some time) } >>= rest)
      (fun _ _ => True) point := by
  have here := due.law point.store (.refl due.inv)
  obtain ⟨member, id⟩ := Db.find_mem stored
  have authorized : Authorized env point.store actorId request.organizationId := by
    rw [← Option.some.inj id]
    exact Decider.authorized here.1.1 (node_mem member) below
  have known : Due (decisionAgreement adjusting env readings)
      ((((Law.fact fun db => Decider env db actorId branchId rootless).both
        (held .fundingRequests requestId request)).both
          (Law.fact fun db => Authorized env db actorId request.organizationId)).marks decisive [])
      point := Due.noting due fun later le => authorized.proceed le
  refine wp_settleRequest ?_ isOpen known granting rest
  rintro locks log store ⟨⟨_, _, found⟩, known⟩
  exact ⟨(Option.some.inj (Db.find_mem found).2).symm ▸ found, known⟩

theorem wp_decideFundingRequest (actorId branchId requestId : Id) (decision : String)
    (allowRootless : Bool) (clean : Clean (decisionAgreement adjusting env readings) point)
    (decider : Decider env point.store actorId branchId (allowRootless = true)) :
    (decideFundingRequest actorId branchId requestId decision allowRootless).wp
      (decisionAgreement adjusting env readings) (fun _ _ => True) point := by
  unfold decideFundingRequest
  rw [wp_require_bind]
  refine ⟨fun _ => ?_, fun _ => trivial⟩
  have due : Due (decisionAgreement adjusting env readings)
      ((Law.fact fun db => Decider env db actorId branchId (allowRootless = true)).marks decisive [])
      point := clean.noting fun later le => decider.stay (Populated.stay le)
  refine wp_getForUpdate_due .fundingRequests requestId _ due (by rw [clean.fresh]) ?_
  intro row later unwritten _ locked
  rw [wp_found_bind]
  refine ⟨fun request found => ?_, fun _ => trivial⟩
  rw [wp_require_bind]
  refine ⟨fun isOpen => ?_, fun _ => trivial⟩
  rw [wp_get_bind]
  intro last rely
  rw [wp_found_bind]
  refine ⟨fun child stored => ?_, fun _ => trivial⟩
  rw [wp_require_bind]
  refine ⟨fun below => ?_, fun _ => trivial⟩
  rw [unwritten] at stored
  have mine := (locked request found).rely rely
  exact wp_decideLocked mine isOpen stored below
    (decision = "approve") _

/-- The session of a callback runs its body. -/
theorem wp_withSession_trivial {A : Agreement Database} {body : Op α}
    (inner : body.wp A (fun _ _ => True) point) :
    (withSession body).wp A (fun _ _ => True) point :=
  wp_withSession_closing (wp_mono A inner fun _ _ _ _ _ => trivial)

/-- Where a session that reads first goes on. -/
theorem wp_afterReading {A : Agreement Database} {program : Op α} {rest : α → Op β}
    {knows : α → Point Database → Prop} {store : Db}
    (reads : program.wp A (fun result later => Clean A later ∧
      ∀ value, result = .ok value → knows value later) ⟨[], [], [], store⟩)
    (next : ∀ value later, Clean A later → knows value later →
      (rest value).wp A (fun _ _ => True) later) :
    (program >>= rest).wp A (fun _ _ => True) ⟨[], [], [], store⟩ :=
  wp_seq _ reads (fun value later holds => next value later holds.1 (holds.2 value rfl))
    fun _ _ _ => trivial

theorem wp_branchDecideFunding (identity : TelegramIdentity) (requestId : Id) (decision : String)
    {store : Db} :
    (branchDecideFunding env identity requestId decision).wp
      (decisionAgreement adjusting env readings) (fun _ _ => True) ⟨[], [], [], store⟩ := by
  unfold branchDecideFunding
  refine wp_afterReading (wp_manager identity.userId .decideFunding) fun caller later clean may => ?_
  exact wp_decideFundingRequest _ _ _ _ _ clean ⟨⟨_, may⟩, by rintro ⟨⟩⟩

/-- The root identity may decide for every organization that it acts for. -/
theorem Acts.mayDecide {db : Db} {telegramId : Int} {actorId organizationId : Id} {role : Role}
    (acts : Acts db telegramId actorId organizationId role)
    (root : env.rootTelegramId = some telegramId) {permission : Permission} :
    MayAct env db telegramId permission actorId organizationId := by
  refine ⟨role, acts, ?_⟩
  unfold effectiveRole
  rw [if_pos root]
  cases permission <;> decide

theorem wp_adminDecideFunding (identity : TelegramIdentity) (requestId : Id) (decision : String)
    {store : Db} :
    (adminDecideFunding env identity requestId decision).wp
      (decisionAgreement adjusting env readings) (fun _ _ => True) ⟨[], [], [], store⟩ := by
  unfold adminDecideFunding requireRoot
  refine wp_afterReading (wp_membershipFor identity.userId) fun caller later clean acts => ?_
  rw [wp_bind, wp_branch]
  refine ⟨fun _ => trivial, fun root configured => ?_⟩
  rw [wp_require]
  refine ⟨fun same => ?_, fun _ => trivial⟩
  have identified : env.rootTelegramId = some identity.userId := same ▸ configured
  obtain ⟨actor, member, own, chat⟩ := acts.actor
  exact wp_decideFundingRequest _ _ _ _ _ clean ⟨⟨_, acts.mayDecide identified⟩,
    fun _ => ⟨actor, member, own, identified.trans (congrArg some chat.symm)⟩⟩

theorem wp_botDecideFunding (chatId : Int) (requestId : Id) (approve : Bool) {store : Db} :
    (Bot.decideFunding env chatId requestId approve).wp
      (decisionAgreement adjusting env readings) (fun _ _ => True) ⟨[], [], [], store⟩ := by
  unfold Bot.decideFunding
  refine wp_afterReading (wp_permitted chatId .decideFunding) fun caller later clean may => ?_
  refine wp_withSession_trivial ?_
  have decider : Decider env later.store caller.actorId caller.organizationId False :=
    ⟨⟨_, may⟩, False.elim⟩
  have due : Due (decisionAgreement adjusting env readings)
      ((Law.fact fun db => Decider env db caller.actorId caller.organizationId False).marks decisive
        []) later := clean.noting fun later le => decider.stay (Populated.stay le)
  refine wp_getForUpdate_due .fundingRequests requestId _ due (by rw [clean.fresh]) ?_
  intro row later unwritten absent locked
  rw [wp_branch]
  refine ⟨fun _ => trivial, fun request found => ?_⟩
  obtain ⟨there, isOpen⟩ := Option.filter_eq_some_iff.mp found
  rw [wp_get_bind]
  intro last rely
  rw [wp_found_bind]
  refine ⟨fun child stored => ?_, fun _ => trivial⟩
  obtain ⟨there', below⟩ := Option.filter_eq_some_iff.mp stored
  rw [unwritten] at there'
  have mine := (locked request there).rely rely
  exact wp_decideLocked mine (by simpa using isOpen) there'
    (.inl (by simpa using below)) (approve = true) _

/-! ## Opening requests -/

/-- Recording a decisive statement that is lawful on its own. -/
theorem wp_recordAlone (statement : Database.Write) (isDecisive : decisive statement = true)
    (lawful : ∀ log store, DecisionLaw adjusting env readings log store [statement])
    (clean : Clean (decisionAgreement adjusting env readings) point) (rest : Unit → Op β)
    [∀ value, Sustains (decisionAgreement adjusting env readings) (Untallied decisive)
      (decisionLaw adjusting env readings) (rest value)] :
    wp (decisionAgreement adjusting env readings) (add statement >>= rest)
      (fun _ _ => True) point := by
  have unwritten : Due (decisionAgreement adjusting env readings)
      ((Law.fact fun _ => True).marks decisive []) point := clean.noting fun _ _ => trivial
  have awaited : Due (decisionAgreement adjusting env readings)
      (awaiting adjusting env readings statement) point :=
    unwritten.weaken fun locks log store _ holds => by
      unfold awaiting
      rw [holds.2, List.nil_append]
      exact lawful log store
  rw [wp_bind, wp_add]
  exact wp_mono _ (wp_sustains (Untallied decisive) (rest ()) (Due.complete isDecisive awaited))
    fun _ _ _ => trivial

theorem wp_webFundingRequest (identity : TelegramIdentity) (data : FundingRequestIn) {store : Db} :
    (webFundingRequest env identity data).wp (decisionAgreement adjusting env readings)
      (fun _ _ => True) ⟨[], [], [], store⟩ := by
  unfold webFundingRequest
  refine wp_afterReading (wp_manager identity.userId .requestFunding) fun caller later clean _ => ?_
  rw [wp_uid_bind]
  intro id
  exact wp_recordAlone _ rfl (fun _ _ => .request _ rfl) clean _

theorem wp_requestCredit (chatId : Int) (amountIrr : Int) {store : Db} :
    (Bot.requestCredit env chatId amountIrr).wp (decisionAgreement adjusting env readings)
      (fun _ _ => True) ⟨[], [], [], store⟩ := by
  unfold Bot.requestCredit
  refine wp_afterReading (wp_requireContext chatId) fun caller later clean _ => ?_
  refine wp_seq _ (wp_withSession_trivial ?_) (fun _ _ _ => trivial) fun _ _ _ => trivial
  rw [wp_uid_bind]
  intro id
  exact wp_recordAlone _ rfl (fun _ _ => .request _ rfl) clean _

end

end ControlPlane
