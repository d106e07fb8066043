import ControlPlane.Decisions.Docket

/-!
# The agreement about decisions

A commit opens a decision, or decides one that is open, and pays it in the same
transaction when it grants it. What is decided stays as it is, so a decision is
made once; and since the keys of the payments are derived from the decisions,
the ledger holds one transaction for each granted decision and none for the
others.
-/

namespace ControlPlane

open ReadCommitted Orm

/-! ## Who decides -/

/-- An account may decide the requests of an organization: it has a say in the parent, or is the
root identity where there is no parent. -/
def Authorized (env : Env) (db : Db) (actorId organizationId : Id) : Prop :=
  ∃ actor ∈ db.actors, actor.id = actorId ∧ ∃ node ∈ db.nodes, node.id = organizationId ∧
    ((env.rootTelegramId = some actor.telegramId ∧ node.parentId = none) ∨
      ∃ membership ∈ db.memberships, membership.actorId = actorId ∧ membership.status = .active ∧
        node.parentId = some membership.organizationId ∧
          can (effectiveRole env.rootTelegramId actor.telegramId membership.role) .decideFunding =
            true)

/-- The account of the root identity. -/
def IsRoot (env : Env) (db : Db) (actorId : Id) : Prop :=
  ∃ actor ∈ db.actors, actor.id = actorId ∧ env.rootTelegramId = some actor.telegramId

/-! ## Invariant -/

/-- Which decisions were made, by whom, and that they were paid. -/
structure DecisionInvariant (env : Env) (db : Db) : Prop where
  integrity : Integrity db
  /-- The root identity is the only system administrator. -/
  roles : ∀ membership ∈ db.memberships, membership.role ≠ .systemAdmin
  settled : ∀ payment ∈ db.payments, db.Settled payment
  derived : ∀ transaction ∈ db.transactions, Derived transaction.idempotencyKey →
    ∃ payment ∈ db.payments, payment.key = transaction.idempotencyKey
  decided : ∀ request ∈ db.fundingRequests, request.status ≠ .pending →
    ∃ actorId, request.decidedBy = some actorId ∧ Authorized env db actorId request.organizationId
  executed : ∀ approval ∈ db.approvals, approval.status = .executed →
    ∃ actorId, approval.approverId = some actorId ∧ IsRoot env db actorId

/-- How the docket evolves. Where nothing else takes part, only funding requests are paid. -/
structure Proceeds (adjusting : Prop) (db later : Db) : Prop where
  nodes : db.nodes ⊆ later.nodes
  memberships : db.memberships ⊆ later.memberships
  actors : ∀ actor ∈ db.actors, ∃ known ∈ later.actors,
    known.id = actor.id ∧ known.telegramId = actor.telegramId
  owners : db.owners ⊆ later.owners
  transactions : db.transactions ⊆ later.transactions
  requests : ∀ request ∈ db.fundingRequests, request.status ≠ .pending →
    request ∈ later.fundingRequests
  approvals : ∀ approval ∈ db.approvals, approval.status ≠ .pending → approval ∈ later.approvals
  fresh : ∀ transaction ∈ later.transactions, transaction ∉ db.transactions →
    ¬adjusting → ∃ id, transaction.idempotencyKey = "funding-request:" ++ id

/-- The two wallets of a payment. -/
structure Paid (payment : Payment) (log : List Database.Write) (db : Db) (source target : Id)
    (transaction : Transaction) : Prop where
  key : transaction.idempotencyKey = payment.key
  source : (source, payment.source) ∈ db.owners ++ opened log
  target : (target, payment.target) ∈ db.owners ++ opened log

/-- What a transaction may write of the docket. The readings are those of the clock before which
an adjustment that is executed has not expired. -/
inductive DecisionLaw (adjusting : Prop) (env : Env) (readings : Set Time)
    (log : List Database.Write) (db : Db) : List Database.Write → Prop
  | none : DecisionLaw adjusting env readings log db []
  | request (row : FundingRequest) : row.status = .pending →
      DecisionLaw adjusting env readings log db [.insert .fundingRequests row]
  | refuse (row : FundingRequest) (actorId : Id) (time : Time) :
      row ∈ db.fundingRequests → row.status = .pending →
        Authorized env db actorId row.organizationId →
          DecisionLaw adjusting env readings log db [.update .fundingRequests row.id
            { status := some .rejected, decidedBy := some (some actorId)
              decidedAt := some (some time) }]
  | grant (row : FundingRequest) (actorId : Id) (time : Time) (source target : Id)
      (transaction : Transaction) :
      row ∈ db.fundingRequests → row.status = .pending →
        Authorized env db actorId row.organizationId →
          Paid row.payment log db source target transaction →
            DecisionLaw adjusting env readings log db
              (posted source target row.payment.amountIrr transaction ++
                [.update .fundingRequests row.id
                  { status := some .approved, decidedBy := some (some actorId)
                    decidedAt := some (some time) }])
  | file (row : ApprovalRequest) : adjusting → row.status = .pending →
      DecisionLaw adjusting env readings log db [.insert .approvals row]
  | dismiss (row : ApprovalRequest) (columns : ApprovalRequestColumns) (status : ApprovalStatus) :
      adjusting → row ∈ db.approvals → row.status = .pending → columns.status = some status →
        status ≠ .pending → status ≠ .executed →
          DecisionLaw adjusting env readings log db [.update .approvals row.id columns]
  | execute (row : ApprovalRequest) (columns : ApprovalRequestColumns) (actorId : Id) (time : Time)
      (source target : Id) (transaction : Transaction) :
      adjusting → row ∈ db.approvals → row.status = .pending → columns.status = some .executed →
        columns.approverId = some (some actorId) → IsRoot env db actorId → time ∈ readings →
          time < row.expiresAt → Paid row.payment log db source target transaction →
            DecisionLaw adjusting env readings log db
              (posted source target row.payment.amountIrr transaction ++
                [.update .approvals row.id columns])
  | direct (row : ApprovalRequest) (columns : ApprovalRequestColumns) (source target : Id)
      (transaction : Transaction) :
      adjusting → row.status = .pending → columns.status = some .executed →
        columns.approverId = Option.none → row.approverId = some row.requesterId →
          IsRoot env db row.requesterId → Paid row.payment log db source target transaction →
            DecisionLaw adjusting env readings log db
              (.insert .approvals row :: posted source target row.payment.amountIrr transaction ++
                [.update .approvals row.id columns])

  | transfer (payment : Payment) (source target : Id) (transaction : Transaction) :
      adjusting → ¬Derived payment.key → Paid payment log db source target transaction →
        DecisionLaw adjusting env readings log db
          (posted source target payment.amountIrr transaction)

section

variable {adjusting : Prop} {env : Env} {readings : Set Time} {log : List Database.Write}
  {db later : Db}

/-! ## Effects -/

namespace Proceeds

theorem refl (db : Db) : Proceeds adjusting db db where
  nodes := List.Subset.refl _
  memberships := List.Subset.refl _
  actors actor member := ⟨actor, member, rfl, rfl⟩
  owners := List.Subset.refl _
  transactions := List.Subset.refl _
  requests _ member _ := member
  approvals _ member _ := member
  fresh _ member absent := absurd member absent

theorem trans {third : Db} (early : Proceeds adjusting db later)
    (late : Proceeds adjusting later third) : Proceeds adjusting db third where
  nodes := List.Subset.trans early.nodes late.nodes
  memberships := List.Subset.trans early.memberships late.memberships
  actors actor member := by
    obtain ⟨known, knownMember, id, telegramId⟩ := early.actors actor member
    obtain ⟨last, lastMember, lastId, lastTelegramId⟩ := late.actors known knownMember
    exact ⟨last, lastMember, lastId.trans id, lastTelegramId.trans telegramId⟩
  owners := List.Subset.trans early.owners late.owners
  transactions := List.Subset.trans early.transactions late.transactions
  requests request member decided := late.requests request (early.requests request member decided)
    decided
  approvals approval member decided :=
    late.approvals approval (early.approvals approval member decided) decided
  fresh transaction member absent := by
    by_cases known : transaction ∈ later.transactions
    · exact early.fresh transaction known absent
    · exact late.fresh transaction member known

end Proceeds

/-- Who may decide may decide later. -/
theorem Authorized.proceed {actorId organizationId : Id}
    (authorized : Authorized env db actorId organizationId) (proceeds : Proceeds adjusting db later) :
    Authorized env later actorId organizationId := by
  obtain ⟨actor, member, rfl, node, nodeMember, own, say⟩ := authorized
  obtain ⟨known, knownMember, id, telegramId⟩ := proceeds.actors actor member
  refine ⟨known, knownMember, id, node, proceeds.nodes nodeMember, own, ?_⟩
  rw [telegramId]
  refine say.imp_right ?_
  rintro ⟨membership, present, rest⟩
  exact ⟨membership, proceeds.memberships present, rest⟩

/-- The root identity keeps its account. -/
theorem IsRoot.proceed {actorId : Id} (root : IsRoot env db actorId)
    (proceeds : Proceeds adjusting db later) : IsRoot env later actorId := by
  obtain ⟨actor, member, rfl, own⟩ := root
  obtain ⟨known, knownMember, id, telegramId⟩ := proceeds.actors actor member
  exact ⟨known, knownMember, id, telegramId ▸ own⟩

/-- The decisions grow by one, or one of them is made. -/
abbrev RequestReplaced (db later : Db) (new : FundingRequest) : Prop :=
  Replaces FundingRequest.id (fun row => row.status = .pending) db.fundingRequests
    later.fundingRequests new

/-- The adjustments grow by one, or one of them is decided. -/
abbrev ApprovalReplaced (db later : Db) (new : ApprovalRequest) : Prop :=
  Replaces ApprovalRequest.id (fun row => row.status = .pending) db.approvals later.approvals new

/-- What a lawful commit does to the docket. -/
structure Effect (adjusting : Prop) (env : Env) (log : List Database.Write) (db later : Db) :
    Prop where
  requests : later.fundingRequests = db.fundingRequests ∨ ∃ new, RequestReplaced db later new ∧
    (new.status ≠ .pending → ∃ actorId, new.decidedBy = some actorId ∧
      Authorized env db actorId new.organizationId)
  approvals : later.approvals = db.approvals ∨ ∃ new, ApprovalReplaced db later new ∧
    (new.status = .executed → ∃ actorId, new.approverId = some actorId ∧ IsRoot env db actorId)
  ledger : (later.transactions = db.transactions ∧ later.entries = db.entries ∧
      ∀ payment, payment ∈ later.payments ↔ payment ∈ db.payments) ∨
    ∃ payment source target transaction, Paid payment log db source target transaction ∧
      later.transactions = db.transactions ++ [transaction] ∧
      later.entries = db.entries ++ [⟨transaction.id, source, .debit, payment.amountIrr⟩,
        ⟨transaction.id, target, .credit, payment.amountIrr⟩] ∧
      ((∀ other, other ∈ later.payments ↔ other = payment ∨ other ∈ db.payments) ∨
        ¬Derived payment.key ∧ ∀ other, other ∈ later.payments ↔ other ∈ db.payments) ∧
      (¬adjusting → ∃ id, payment.key = "funding-request:" ++ id)

/-- A row that was added replaces none. -/
theorem Replaces.add {α : Type} {id : α → Id} {isOpen : α → Prop} {rows : List α} {new : α}
    (unique : ((rows ++ [new]).map id).Nodup) : Replaces id isOpen rows (rows ++ [new]) new := by
  rw [List.map_append, List.nodup_append'] at unique
  have fresh : ∀ row ∈ rows, id row ≠ id new := fun row member same =>
    unique.2.2 (List.mem_map_of_mem member) (List.mem_singleton.mpr same)
  refine ⟨fun row => ?_, fun row member same => absurd same (fresh row member)⟩
  rw [List.mem_append, List.mem_singleton]
  constructor
  · rintro (old | rfl)
    · exact .inr ⟨old, fresh row old⟩
    · exact .inl rfl
  · rintro (rfl | ⟨old, _⟩)
    · exact .inr rfl
    · exact .inl old

/-- Ids of funding requests are unique. -/
theorem Integrity.requestIds (integrity : Integrity db) :
    (db.fundingRequests.map FundingRequest.id).Nodup := by
  have keys := integrity.keys .fundingRequests
  change (db.fundingRequests.filterMap (some ∘ FundingRequest.id)).Nodup at keys
  rwa [List.filterMap_eq_map] at keys

/-- Ids of adjustments are unique. -/
theorem Integrity.approvalIds (integrity : Integrity db) :
    (db.approvals.map ApprovalRequest.id).Nodup := by
  have keys := integrity.keys .approvals
  change (db.approvals.filterMap (some ∘ ApprovalRequest.id)).Nodup at keys
  rwa [List.filterMap_eq_map] at keys

/-- Deciding a request replaces it. -/
theorem RequestReplaced.update (integrity : Integrity db) {row : FundingRequest}
    (member : row ∈ db.fundingRequests) (isOpen : row.status = .pending)
    (columns : FundingRequestColumns)
    (written : later.fundingRequests =
      db.fundingRequests.map (@Layout.amend layout .fundingRequests row.id columns)) :
    RequestReplaced db later (@Table.change .fundingRequests columns row) := by
  have rows := @Integrity.mem_amend _ integrity .fundingRequests _ _ member rfl columns
  refine ⟨fun other => ?_, fun other otherMember same => ?_⟩
  · rw [written]
    refine (rows other).trans (or_congr_right (and_congr_right fun _ => not_congr ?_))
    exact Option.some_inj
  · rw [integrity.eq_of_key .fundingRequests otherMember rfl member (congrArg some same.symm)]
    exact isOpen

/-- Deciding an adjustment replaces it. -/
theorem ApprovalReplaced.update (integrity : Integrity db) {row : ApprovalRequest}
    (member : row ∈ db.approvals) (isOpen : row.status = .pending)
    (columns : ApprovalRequestColumns)
    (written : later.approvals =
      db.approvals.map (@Layout.amend layout .approvals row.id columns)) :
    ApprovalReplaced db later (@Table.change .approvals columns row) := by
  have rows := @Integrity.mem_amend _ integrity .approvals _ _ member rfl columns
  refine ⟨fun other => ?_, fun other otherMember same => ?_⟩
  · rw [written]
    refine (rows other).trans (or_congr_right (and_congr_right fun _ => not_congr ?_))
    exact Option.some_inj
  · rw [integrity.eq_of_key .approvals otherMember rfl member (congrArg some same.symm)]
    exact isOpen

/-- An adjustment that is filed and decided at once was not there. -/
theorem ApprovalReplaced.direct_fresh (integrity : Integrity later) {row : ApprovalRequest}
    (columns : ApprovalRequestColumns)
    (written : later.approvals = (db.approvals ++ [row]).map
      (@Layout.amend layout .approvals row.id columns)) :
    ∀ other ∈ db.approvals, other.id ≠ row.id := by
  have amended : ∀ other : ApprovalRequest,
      (@Layout.amend layout .approvals row.id columns other).id = other.id := by
    intro other
    unfold Layout.amend
    split <;> rfl
  have unique := integrity.approvalIds
  rw [written, List.map_map, show ApprovalRequest.id ∘ _ = ApprovalRequest.id from funext amended,
    List.map_append, List.nodup_append'] at unique
  exact fun other member same =>
    unique.2.2 (List.mem_map_of_mem member) (List.mem_singleton.mpr same)

/-- An adjustment that is filed and decided at once replaces none. -/
theorem ApprovalReplaced.direct (integrity : Integrity later) {row : ApprovalRequest}
    (columns : ApprovalRequestColumns)
    (written : later.approvals = (db.approvals ++ [row]).map
      (@Layout.amend layout .approvals row.id columns)) :
    ApprovalReplaced db later (@Table.change .approvals columns row) := by
  have fresh := direct_fresh integrity columns written
  have kept : db.approvals.map
      (@Layout.amend layout .approvals row.id columns) = db.approvals := by
    refine (List.map_congr_left fun other member => ?_).trans (List.map_id _)
    exact if_neg fun same => fresh other member (Option.some.inj same)
  have new : @Layout.amend layout .approvals row.id columns row =
      @Table.change .approvals columns row := if_pos rfl
  rw [List.map_append, kept, List.map_singleton, new] at written
  have ids := integrity.approvalIds
  rw [written] at ids
  unfold ApprovalReplaced
  rw [written]
  exact .add ids

/-- What is granted after a row was replaced. -/
theorem Replaces.granted_iff {α : Type} {id : α → Id} {isOpen : α → Prop}
    {rows changed : List α} {new : α} (replaced : Replaces id isOpen rows changed new)
    (granted : α → Prop) (exclusive : ∀ row, isOpen row → ¬granted row) (payment : α → Payment)
    (other : Payment) :
    (∃ row ∈ changed, granted row ∧ payment row = other) ↔
      (granted new ∧ payment new = other) ∨ ∃ row ∈ rows, granted row ∧ payment row = other := by
  constructor
  · rintro ⟨row, member, isGranted, pays⟩
    rcases (replaced.mem row).mp member with rfl | ⟨old, _⟩
    · exact .inl ⟨isGranted, pays⟩
    · exact .inr ⟨row, old, isGranted, pays⟩
  · rintro (⟨isGranted, pays⟩ | ⟨row, member, isGranted, pays⟩)
    · exact ⟨new, (replaced.mem new).mpr (.inl rfl), isGranted, pays⟩
    · refine ⟨row, (replaced.mem row).mpr (.inr ⟨member, fun same => ?_⟩), isGranted, pays⟩
      exact exclusive row (replaced.replaced row member same) isGranted

/-- The payments of requests after one of them was added or decided. -/
theorem RequestReplaced.mem_payments {new : FundingRequest} (replaced : RequestReplaced db later new)
    (approvals : later.approvals = db.approvals) (payment : Payment) :
    payment ∈ later.payments ↔
      (new.status = .approved ∧ new.payment = payment) ∨ payment ∈ db.payments := by
  rw [Db.mem_payments, Db.mem_payments, approvals,
    replaced.granted_iff (fun row => row.status = .approved)
      (fun row isOpen granted => by rw [isOpen] at granted; cases granted), or_assoc]

/-- The payments of adjustments after one of them was added or decided. -/
theorem ApprovalReplaced.mem_payments {new : ApprovalRequest}
    (replaced : ApprovalReplaced db later new)
    (requests : later.fundingRequests = db.fundingRequests) (payment : Payment) :
    payment ∈ later.payments ↔
      (new.status = .executed ∧ new.payment = payment) ∨ payment ∈ db.payments := by
  rw [Db.mem_payments, Db.mem_payments, requests,
    replaced.granted_iff (fun row => row.status = .executed)
      (fun row isOpen granted => by rw [isOpen] at granted; cases granted), or_left_comm]

/-- The effect of a lawful commit. -/
theorem DecisionLaw.effect
    (lawful : DecisionLaw adjusting env readings log db (log.filter decisive))
    (before : Integrity db) (after : Integrity (replay (S := Database) log db)) :
    Effect adjusting env log db (replay (S := Database) log db) := by
  have docket := docket_replay log (rfl : db.docket = db.docket)
  generalize replay (S := Database) log db = later at after docket ⊢
  generalize log.filter decisive = marks at lawful docket
  have requests := congrArg Docket.fundingRequests docket
  have approvals := congrArg Docket.approvals docket
  have transactions := congrArg Docket.transactions docket
  have entries := congrArg Docket.entries docket
  cases lawful with
  | none =>
      refine ⟨.inl requests, .inl approvals, .inl ⟨transactions, entries, fun payment => ?_⟩⟩
      rw [Db.mem_payments, Db.mem_payments]
      rw [show later.fundingRequests = db.fundingRequests from requests,
        show later.approvals = db.approvals from approvals]
  | request row isOpen =>
      have written : later.fundingRequests = db.fundingRequests ++ [row] := requests
      have ids := after.requestIds
      rw [written] at ids
      have replaced : RequestReplaced db later row := by
        unfold RequestReplaced
        rw [written]
        exact .add ids
      refine ⟨.inr ⟨row, replaced, fun decided => absurd isOpen decided⟩, .inl approvals,
        .inl ⟨transactions, entries, fun payment => ?_⟩⟩
      rw [replaced.mem_payments approvals, isOpen]
      simp
  | refuse row actorId time member isOpen authorized =>
      have replaced := RequestReplaced.update before member isOpen _ requests
      refine ⟨.inr ⟨_, replaced, fun _ => ⟨actorId, rfl, authorized⟩⟩, .inl approvals,
        .inl ⟨transactions, entries, fun payment => ?_⟩⟩
      rw [replaced.mem_payments approvals]
      simp [Table.change]
  | grant row actorId time source target transaction member isOpen authorized paid =>
      have replaced := RequestReplaced.update before member isOpen _ requests
      refine ⟨.inr ⟨_, replaced, fun _ => ⟨actorId, rfl, authorized⟩⟩, .inl approvals,
        .inr ⟨row.payment, source, target, transaction, paid, transactions, ?_, .inl ?_, ?_⟩⟩
      · exact entries.trans (List.append_assoc ..)
      · intro other
        rw [replaced.mem_payments approvals]
        exact or_congr_left ⟨fun granted => granted.2.symm, fun same => ⟨rfl, same.symm⟩⟩
      · exact fun _ => ⟨row.id, rfl⟩
  | file row allowed isOpen =>
      have written : later.approvals = db.approvals ++ [row] := approvals
      have ids := after.approvalIds
      rw [written] at ids
      have replaced : ApprovalReplaced db later row := by
        unfold ApprovalReplaced
        rw [written]
        exact .add ids
      refine ⟨.inl requests, .inr ⟨row, replaced, fun granted => ?_⟩,
        .inl ⟨transactions, entries, fun payment => ?_⟩⟩
      · rw [isOpen] at granted
        cases granted
      · rw [replaced.mem_payments requests, isOpen]
        simp
  | dismiss row columns status allowed member isOpen assigned decided other =>
      have replaced := ApprovalReplaced.update before member isOpen columns approvals
      have outcome : (@Table.change .approvals columns row).status = status := by
        simp [Table.change, assigned]
      refine ⟨.inl requests, .inr ⟨_, replaced, fun granted => ?_⟩,
        .inl ⟨transactions, entries, fun payment => ?_⟩⟩
      · exact absurd (outcome.symm.trans granted) other
      · rw [replaced.mem_payments requests]
        exact or_iff_right fun granted => other (outcome.symm.trans granted.1)
  | execute row columns actorId time source target transaction allowed member isOpen assigned by'
      root reading early paid =>
      have replaced := ApprovalReplaced.update before member isOpen columns approvals
      have outcome : (@Table.change .approvals columns row).status = .executed := by
        simp [Table.change, assigned]
      have approver : (@Table.change .approvals columns row).approverId = some actorId := by
        simp [Table.change, by']
      refine ⟨.inl requests, .inr ⟨_, replaced, fun _ =>
        ⟨actorId, approver, root⟩⟩,
        .inr ⟨row.payment, source, target, transaction, paid, transactions, ?_, .inl ?_, ?_⟩⟩
      · exact entries.trans (List.append_assoc ..)
      · intro other
        rw [replaced.mem_payments requests]
        exact or_congr_left ⟨fun granted => granted.2.symm, fun same => ⟨outcome, same.symm⟩⟩
      · exact fun excluded => absurd allowed excluded
  | direct row columns source target transaction allowed isOpen assigned unassigned own root paid =>
      have replaced := ApprovalReplaced.direct after columns approvals
      have outcome : (@Table.change .approvals columns row).status = .executed := by
        simp [Table.change, assigned]
      have approver : (@Table.change .approvals columns row).approverId = some row.requesterId := by
        simp [Table.change, unassigned, own]
      refine ⟨.inl requests, .inr ⟨_, replaced, fun _ =>
        ⟨row.requesterId, approver, root⟩⟩,
        .inr ⟨row.payment, source, target, transaction, paid, transactions, ?_, .inl ?_, ?_⟩⟩
      · exact entries.trans (List.append_assoc ..)
      · intro other
        rw [replaced.mem_payments requests]
        exact or_congr_left ⟨fun granted => granted.2.symm, fun same => ⟨outcome, same.symm⟩⟩
      · exact fun excluded => absurd allowed excluded
  | transfer payment source target transaction allowed underived paid =>
      refine ⟨.inl requests, .inl approvals,
        .inr ⟨payment, source, target, transaction, paid, transactions,
          entries.trans (List.append_assoc ..), .inr ⟨underived, fun other => ?_⟩,
          fun excluded => absurd allowed excluded⟩⟩
      rw [Db.mem_payments, Db.mem_payments]
      rw [show later.fundingRequests = db.fundingRequests from requests,
        show later.approvals = db.approvals from approvals]

/-! ## Lawful commits -/

/-- Lawful commits delete nothing. -/
theorem DecisionLaw.lasting {marks : List Database.Write}
    (lawful : DecisionLaw adjusting env readings log db marks) : Lasting marks := by
  intro table key member
  cases lawful <;> simp [posted] at member

/-- Lawful commits appoint no system administrator. -/
theorem DecisionLaw.no_administrator {marks : List Database.Write}
    (lawful : DecisionLaw adjusting env readings log db marks) {row : Membership} :
    .insert .memberships row ∉ marks := by
  intro member
  cases lawful <;> simp [posted] at member

/-- Only decisive statements delete. -/
theorem lasting_of_decisive {marks : List Database.Write} (lasting : Lasting marks)
    (filtered : log.filter decisive = marks) : Lasting log := by
  intro table key member
  refine lasting table key ?_
  rw [← filtered]
  exact List.mem_filter.mpr ⟨member, rfl⟩

/-- Where nothing is deleted, organizations, memberships, accounts and wallets stay. -/
theorem Proceeds.of_effect (lasting : Lasting log)
    (effect : Effect adjusting env log db (replay (S := Database) log db)) :
    Proceeds adjusting db (replay (S := Database) log db) where
  nodes := by
    rw [(hierarchy_replay lasting db).1]
    exact List.subset_append_left _ _
  memberships := (lasting_replay lasting db).1
  actors := (lasting_replay lasting db).2
  owners := by
    rw [owners_replay fun id => lasting .accounts id]
    exact List.subset_append_left _ _
  transactions := by
    rw [transactions_replay lasting]
    exact List.subset_append_left _ _
  requests request member decided := by
    rcases effect.requests with same | ⟨new, replaced, _⟩
    · rw [same]
      exact member
    · refine (replaced.mem request).mpr (.inr ⟨member, fun same => ?_⟩)
      exact decided (replaced.replaced request member same)
  approvals approval member decided := by
    rcases effect.approvals with same | ⟨new, replaced, _⟩
    · rw [same]
      exact member
    · refine (replaced.mem approval).mpr (.inr ⟨member, fun same => ?_⟩)
      exact decided (replaced.replaced approval member same)
  fresh transaction member absent := by
    rcases effect.ledger with ⟨same, _⟩ | ⟨payment, source, target, paid, wallets, written, _, _,
      funding⟩
    · rw [same] at member
      exact absurd member absent
    · rw [written, List.mem_append, List.mem_singleton] at member
      obtain rfl := member.resolve_left absent
      rw [wallets.key]
      exact funding

/-- What is in the ledger stays there, whatever other transactions are written. -/
theorem Db.Settled.grow {payment : Payment} (settled : db.Settled payment)
    (owners : db.owners ⊆ later.owners) (transactions : db.transactions ⊆ later.transactions)
    {more : List Entry} (entries : later.entries = db.entries ++ more)
    (elsewhere : ∀ entry ∈ more, ∀ transaction ∈ db.transactions,
      entry.transactionId ≠ transaction.id) : later.Settled payment := by
  obtain ⟨transaction, member, key, source, target, sourceOwned, targetOwned, pair⟩ := settled
  refine ⟨transaction, transactions member, key, source, target, owners sourceOwned,
    owners targetOwned, ?_⟩
  rw [entries, List.filter_append, pair, List.append_right_eq_self, List.filter_eq_nil_iff]
  intro entry entryMember
  simpa using elsewhere entry entryMember transaction member

/-- Memberships were there before, or were written. -/
theorem memberships_replay (lasting : Lasting log) {membership : Membership}
    (member : membership ∈ Db.memberships (replay (S := Database) log db)) :
    membership ∈ db.memberships ∨ .insert .memberships membership ∈ log := by
  induction log generalizing db with
  | nil => exact .inl member
  | cons statement log inductionHypothesis =>
      rw [replay_cons] at member
      rcases inductionHypothesis
        (fun table key listed => lasting table key (List.mem_cons_of_mem _ listed)) member with
        before | written
      · by_cases same : Table.memberships = Layout.Statement.table statement
        · cases statement with
          | insert table row =>
              subst same
              rcases List.mem_append.mp before with old | new
              · exact .inl old
              · rw [List.mem_singleton.mp new]
                exact .inr List.mem_cons_self
          | update table key columns =>
              subst same
              exact columns.elim
          | delete table key => exact absurd List.mem_cons_self (lasting table key)
        · have kept : Db.memberships (statement.apply db) = db.memberships :=
            Layout.Statement.rows_apply_of_ne (L := layout) db same
          exact .inl (kept ▸ before)
      · exact .inr (List.mem_cons_of_mem _ written)

/-- Lawful commits keep the invariant about decisions. -/
theorem Effect.invariant (lasting : Lasting log)
    (roles : ∀ row : Membership, .insert .memberships row ∈ log → row.role ≠ .systemAdmin)
    (invariant : DecisionInvariant env db)
    (integrity : Integrity (replay (S := Database) log db))
    (effect : Effect adjusting env log db (replay (S := Database) log db)) :
    DecisionInvariant env (replay (S := Database) log db) := by
  have proceeds := Proceeds.of_effect lasting effect
  have owners : Db.owners (replay (S := Database) log db) = db.owners ++ opened log :=
    owners_replay (fun id => lasting .accounts id) db
  have kept : ∀ membership ∈ Db.memberships (replay (S := Database) log db),
      membership.role ≠ .systemAdmin := fun membership member =>
    (memberships_replay lasting member).elim (invariant.roles membership) (roles membership)
  generalize replay (S := Database) log db = later at *
  refine ⟨integrity, kept, ?_, ?_, ?_, ?_⟩
  · rcases effect.ledger with ⟨transactions, entries, payments⟩ |
      ⟨payment, source, target, transaction, paid, transactions, entries, payments, _⟩
    · intro other member
      refine (invariant.settled other ((payments other).mp member)).grow proceeds.owners
        proceeds.transactions (entries.trans (List.append_nil _).symm) ?_
      exact fun entry absent => absurd absent List.not_mem_nil
    · have ids := integrity.keys .transactions
      change (later.transactions.filterMap (some ∘ Transaction.id)).Nodup at ids
      rw [List.filterMap_eq_map, transactions, List.map_append, List.nodup_append'] at ids
      have fresh : ∀ old ∈ db.transactions, transaction.id ≠ old.id := fun old member same =>
        ids.2.2 (List.mem_map_of_mem member) (List.mem_singleton.mpr same.symm)
      intro other member
      have caused : other = payment ∨ other ∈ db.payments := by
        rcases payments with granted | ⟨_, same⟩
        · exact (granted other).mp member
        · exact .inr ((same other).mp member)
      rcases caused with rfl | old
      · refine ⟨transaction, ?_, paid.key, source, target, ?_, ?_, ?_⟩
        · rw [transactions]
          exact List.mem_append_right _ List.mem_cons_self
        · rw [owners]
          exact paid.source
        · rw [owners]
          exact paid.target
        · have none : db.entries.filter (fun entry => entry.transactionId = transaction.id) = [] := by
            refine List.filter_eq_nil_iff.mpr fun entry entryMember => ?_
            obtain ⟨holder, holderMember, same⟩ :=
              invariant.integrity.transaction_of_entry entryMember
            simpa using fun equal => fresh holder holderMember (equal.symm.trans same.symm)
          rw [entries, List.filter_append, none]
          simp
      · refine (invariant.settled other old).grow proceeds.owners proceeds.transactions entries ?_
        intro entry entryMember
        rcases List.mem_pair.mp entryMember with rfl | rfl <;> exact fresh
  · rcases effect.ledger with ⟨transactions, _, payments⟩ |
      ⟨payment, source, target, transaction, paid, transactions, _, payments, _⟩
    · intro other member derived
      rw [transactions] at member
      obtain ⟨caused, causedMember, key⟩ := invariant.derived other member derived
      exact ⟨caused, (payments caused).mpr causedMember, key⟩
    · intro other member derived
      rw [transactions, List.mem_append, List.mem_singleton] at member
      rcases payments with granted | ⟨underived, same⟩
      · rcases member with old | rfl
        · obtain ⟨caused, causedMember, key⟩ := invariant.derived other old derived
          exact ⟨caused, (granted caused).mpr (.inr causedMember), key⟩
        · exact ⟨payment, (granted payment).mpr (.inl rfl), paid.key.symm⟩
      · rcases member with old | rfl
        · obtain ⟨caused, causedMember, key⟩ := invariant.derived other old derived
          exact ⟨caused, (same caused).mpr causedMember, key⟩
        · exact absurd (paid.key ▸ derived) underived
  · intro request member decided
    obtain ⟨actorId, by', authorized⟩ : ∃ actorId, request.decidedBy = some actorId ∧
        Authorized env db actorId request.organizationId := by
      rcases effect.requests with same | ⟨new, replaced, facts⟩
      · exact invariant.decided request (same ▸ member) decided
      · rcases (replaced.mem request).mp member with rfl | ⟨known, _⟩
        · exact facts decided
        · exact invariant.decided request known decided
    exact ⟨actorId, by', authorized.proceed proceeds⟩
  · intro approval member granted
    obtain ⟨actorId, by', root⟩ : ∃ actorId, approval.approverId = some actorId ∧
        IsRoot env db actorId := by
      rcases effect.approvals with same | ⟨new, replaced, facts⟩
      · exact invariant.executed approval (same ▸ member) granted
      · rcases (replaced.mem approval).mp member with rfl | ⟨known, _⟩
        · exact facts granted
        · exact invariant.executed approval known granted
    exact ⟨actorId, by', root.proceed proceeds⟩

end

/-- The agreement about decisions. -/
def decisionAgreement (adjusting : Prop) (env : Env) (readings : Set Time) : Agreement Database where
  inv := DecisionInvariant env
  le := Proceeds adjusting
  commit _ log db := acceptsAll (S := Database) log db = true ∧
    DecisionLaw adjusting env readings log db (log.filter decisive)
  le_refl := Proceeds.refl
  le_trans := Proceeds.trans
  inv_replay {_ log db} invariant committed _ := by
    obtain ⟨accepted, lawful⟩ := committed
    have integrity : Integrity (replay (S := Database) log db) :=
      Layout.Integrity.replay invariant.integrity accepted
    refine (lawful.effect invariant.integrity integrity).invariant
      (lasting_of_decisive lawful.lasting rfl) ?_ invariant integrity
    exact fun row member system => lawful.no_administrator
      (List.mem_filter.mpr ⟨member, by simpa [decisive] using system⟩)

section

variable {adjusting : Prop} {env : Env} {readings : Set Time}

instance : (decisionAgreement adjusting env readings).Shared where
  le_replay {_ log db} invariant committed _ := by
    have integrity : Integrity (replay (S := Database) log db) :=
      Layout.Integrity.replay invariant.integrity committed.1
    exact .of_effect (lasting_of_decisive committed.2.lasting rfl)
      (committed.2.effect invariant.integrity integrity)

instance : (decisionAgreement adjusting env readings).Unrestricted := ⟨id⟩

instance : OffPanel (decisionAgreement adjusting env readings) where
  asks _ _ := trivial

instance : Ledgered (decisionAgreement adjusting env readings) where
  owners := Proceeds.owners
  transactions := Proceeds.transactions

/-- What is recorded may be flushed to a decision. -/
def decisionLaw (adjusting : Prop) (env : Env) (readings : Set Time) : Law Database :=
  fun _ log db => DecisionLaw adjusting env readings log db (log.filter decisive)

end

end ControlPlane
