import ControlPlane.Decisions.Runs
import ControlPlane.Hierarchy.Runs
import Mathlib.Algebra.BigOperators.Group.List.Basic

/-!
# The wallets of a branch

The members of a branch open organizations below them, ask for funding and
decide the requests of their direct children. Approved requests are paid by the
system account, so the wallets of the branch together stand where they stood
exactly as long as none of its requests is approved.
-/

namespace ControlPlane

open ReadCommitted Orm PythonText

/-- An organization lies in the branch of another one, or is that one. -/
def Db.beneath (db : Db) (branchId : Id) (id : String) : Bool :=
  db.closures.any fun row => row.ancestorId = branchId ∧ row.descendantId = id

/-- The sum of the balances of all wallets in a branch. -/
def Db.branchBalance (db : Db) (branchId : Id) : Int :=
  ((db.accounts.filter fun account => db.beneath branchId account.ownerKey).map
    Account.balanceIrr).sum

/-! ## What a branch was credited -/

/-- What the entries of the ledger add up to for the wallets of some owners. -/
def Db.credited (db : Db) (owned : String → Bool) : Int :=
  ((db.owners.filter fun owner => owned owner.2).map fun owner => db.entriesBalance owner.1).sum

section

variable {env : Env} {db later : Db} {owned : String → Bool}

/-- A wallet belongs to one owner. -/
theorem Integrity.owner_eq (integrity : Integrity db) {id : Id} {first second : String}
    (firstMember : (id, first) ∈ db.owners) (secondMember : (id, second) ∈ db.owners) :
    first = second := by
  obtain ⟨left, leftMember, leftSame⟩ := List.mem_map.mp firstMember
  obtain ⟨right, rightMember, rightSame⟩ := List.mem_map.mp secondMember
  cases leftSame
  have equal := integrity.eq_of_key .accounts rightMember rfl leftMember
    (congrArg some (congrArg Prod.fst rightSame).symm)
  rw [equal] at rightSame
  exact congrArg Prod.snd rightSame

/-- Entries of other wallets change nothing, nor do new wallets. -/
theorem Db.credited_eq (before : Integrity db) (after : Integrity later)
    {new : List (Id × String)} (owners : later.owners = db.owners ++ new) {more : List Entry}
    (entries : later.entries = db.entries ++ more)
    (apart : ∀ entry ∈ more, ∀ owner ∈ later.owners, owned owner.2 = true →
      entry.accountId ≠ owner.1) : later.credited owned = db.credited owned := by
  have still : ∀ owner ∈ later.owners, owned owner.2 = true →
      later.entriesBalance owner.1 = db.entriesBalance owner.1 := by
    intro owner member own
    have elsewhere : more.filter (fun entry => entry.accountId = owner.1) = [] :=
      List.filter_eq_nil_iff.mpr fun entry entryMember => by
        simpa using apart entry entryMember owner member own
    unfold Db.entriesBalance
    rw [entries, List.filter_append, elsewhere, List.append_nil]
  have untouched : ∀ owner ∈ new, db.entriesBalance owner.1 = 0 := by
    intro owner member
    have none : db.entries.filter (fun entry => entry.accountId = owner.1) = [] := by
      refine List.filter_eq_nil_iff.mpr fun entry entryMember => ?_
      obtain ⟨holder, holderMember, same⟩ := before.account_of_entry entryMember
      have ids : (later.owners.map Prod.fst).Nodup := by
        unfold Db.owners
        rw [List.map_map]
        exact after.accountIds
      rw [owners, List.map_append, List.nodup_append'] at ids
      have known : holder.id ∈ db.owners.map Prod.fst := by
        unfold Db.owners
        rw [List.map_map]
        exact List.mem_map_of_mem holderMember
      have different : holder.id ≠ owner.1 := fun equal =>
        ids.2.2 known (equal ▸ List.mem_map_of_mem member)
      simpa using fun equal => different (same.trans equal)
    unfold Db.entriesBalance
    rw [none]
    rfl
  unfold Db.credited
  rw [List.map_congr_left (g := fun owner => db.entriesBalance owner.1) fun owner listed => by
    obtain ⟨member, own⟩ := List.mem_filter.mp listed
    exact still owner member own]
  rw [owners, List.filter_append, List.map_append, List.sum_append]
  have zero : ((new.filter fun owner => owned owner.2).map fun owner =>
      db.entriesBalance owner.1).sum = 0 := by
    refine List.sum_eq_zero fun amount listed => ?_
    obtain ⟨owner, member, rfl⟩ := List.mem_map.mp listed
    exact untouched owner (List.mem_filter.mp member).1
  rw [zero, Int.add_zero]

/-- No request of the owners was approved in between. -/
def Unapproved (owned : String → Bool) (db later : Db) : Prop :=
  ∀ request ∈ later.fundingRequests, owned request.organizationId = true →
    request.status = .approved → request ∈ db.fundingRequests

/-- A lawful commit credits the wallets of the owners of whose requests it approves one. -/
theorem DecisionLaw.credited {readings : Set Time} {log : List Database.Write}
    (lawful : DecisionLaw False env readings log db (log.filter decisive)) (before : Integrity db)
    (after : Integrity (replay (S := Database) log db)) (system : owned systemOwner = false)
    (unapproved : Unapproved owned db (replay (S := Database) log db)) :
    Db.credited (replay (S := Database) log db) owned = db.credited owned := by
  have docket := docket_replay log (rfl : db.docket = db.docket)
  have owners : Db.owners (replay (S := Database) log db) = db.owners ++ opened log :=
    owners_replay (fun id => lasting_of_decisive lawful.lasting rfl .accounts id) db
  generalize replay (S := Database) log db = later at after docket owners unapproved ⊢
  generalize log.filter decisive = marks at lawful docket
  have entries := congrArg Docket.entries docket
  have unchanged : later.entries = db.entries → later.credited owned = db.credited owned :=
    fun kept => @Db.credited_eq _ _ _ before after _ owners [] (kept.trans (List.append_nil _).symm)
      fun entry absent => absurd absent List.not_mem_nil
  cases lawful with
  | none => exact unchanged entries
  | request => exact unchanged entries
  | refuse => exact unchanged entries
  | file row allowed => exact allowed.elim
  | dismiss row columns status allowed => exact allowed.elim
  | execute row columns actorId time source target transaction allowed => exact allowed.elim
  | direct row columns source target transaction allowed => exact allowed.elim
  | transfer payment source target transaction allowed => exact allowed.elim
  | grant row actorId time source target transaction member isOpen authorized paid =>
      have replaced := RequestReplaced.update before member isOpen _
        (congrArg Docket.fundingRequests docket)
      have outside : owned row.organizationId = false := by
        by_contra own
        have there := unapproved _ ((replaced.mem _).mpr (.inl rfl)) (Bool.eq_true_of_not_eq_false own)
          rfl
        have equal := before.eq_of_key .fundingRequests there rfl member rfl
        have status := congrArg FundingRequest.status equal
        rw [isOpen] at status
        cases status
      refine Db.credited_eq before after owners (entries.trans (List.append_assoc ..)) ?_
      intro entry entryMember owner ownerMember own same
      have sourceOwned : (source, systemOwner) ∈ later.owners := owners ▸ paid.source
      have targetOwned : (target, row.organizationId) ∈ later.owners := owners ▸ paid.target
      rcases List.mem_pair.mp entryMember with rfl | rfl
      · have wallet : source = owner.1 := same
        have owner' := after.owner_eq (wallet ▸ sourceOwned) (ownerMember : (owner.1, owner.2) ∈ _)
        rw [← owner', system] at own
        cases own
      · have wallet : target = owner.1 := same
        have owner' := after.owner_eq (wallet ▸ targetOwned) (ownerMember : (owner.1, owner.2) ∈ _)
        rw [← owner', outside] at own
        cases own

end

/-! ## The agreement of a branch -/

section

variable {env : Env} {owned : String → Bool}

/-- The agreement about funding requests, with what some owners are credited. -/
def branchAgreement (env : Env) (owned : String → Bool) : Agreement Database where
  inv := DecisionInvariant env
  le db later := Proceeds False db later ∧ (owned systemOwner = false → Unapproved owned db later →
    later.credited owned = db.credited owned)
  commit := (decisionAgreement False env Set.univ).commit
  le_refl db := ⟨.refl db, fun _ _ => rfl⟩
  le_trans {first second third} early late := by
    refine ⟨early.1.trans late.1, fun system unapproved => ?_⟩
    rw [late.2 system, early.2 system]
    · intro request member own approved
      exact unapproved request (late.1.requests request member (by simp [approved])) own approved
    · intro request member own approved
      exact early.1.requests request (unapproved request member own approved) (by simp [approved])
  inv_replay := (decisionAgreement False env Set.univ).inv_replay

instance : (branchAgreement env owned).Shared where
  le_replay {held log db} invariant committed _ := by
    have integrity : Integrity (replay (S := Database) log db) :=
      Layout.Integrity.replay invariant.integrity committed.1
    have proceeds : Proceeds False db (replay (S := Database) log db) :=
      .of_effect (lasting_of_decisive committed.2.lasting rfl)
        (committed.2.effect invariant.integrity integrity)
    exact ⟨proceeds,
      fun system => committed.2.credited invariant.integrity integrity system⟩

instance : (branchAgreement env owned).Unrestricted := ⟨id⟩

/-- Sessions about funding requests meet the agreement of a branch. -/
theorem meets_branch {program : Prog Database (Except Failure Unit)}
    (meets : (decisionAgreement False env Set.univ).Meets program) :
    (branchAgreement env owned).Meets program := fun store invariant => by
  have narrow : ∀ {held : List (Held Database)} {store later : Db},
      (branchAgreement env owned).Rely held store later →
        (decisionAgreement False env Set.univ).Rely held store later :=
    fun rely => ⟨rely.le.1, rely.inv, rely.locked⟩
  exact Agreement.wp_permit narrow id id (meets store invariant)

end

/-! ## Operations -/

/-- What the members of a branch do about its organizations and their funding. The dialogue of the
bot passes on digits as the credit limit. -/
inductive BranchOperation (env : Env) : Prog Database (Except Failure Unit) → Prop
  | webCreateChild (identity : TelegramIdentity) (data : WebChildIn) :
      BranchOperation env (served (webCreateChild env identity data))
  | botCreateReseller (chatId : Int) (data : Bot.ResellerData) :
      (∀ credit, int? data.credit = some credit → 0 ≤ credit) →
        BranchOperation env (served (Bot.createReseller env chatId data))
  | webFundingRequest (identity : TelegramIdentity) (data : FundingRequestIn) :
      BranchOperation env (served (webFundingRequest env identity data))
  | requestCredit (chatId : Int) (amountIrr : Int) :
      BranchOperation env (served (Bot.requestCredit env chatId amountIrr))
  | branchDecideFunding (identity : TelegramIdentity) (requestId : Id) (decision : String) :
      BranchOperation env (served (branchDecideFunding env identity requestId decision))
  | botDecideFunding (chatId : Int) (requestId : Id) (approve : Bool) :
      BranchOperation env (served (Bot.decideFunding env chatId requestId approve))

section

variable {env : Env}

instance (identity : TelegramIdentity) (data : WebChildIn) (solvency : Prop) :
    Keeps (ledgerAgreement solvency) LedgerNeutral (webCreateChild env identity data) := by
  have opened : ∀ parentId : Id, Keeps (ledgerAgreement solvency) LedgerNeutral
      (openChild parentId data.name data.slug data.creditLimitIrr data.pricePerGibIrr) :=
    fun parentId => keeps_openChild _ _ _ _ (Int.natCast_nonneg _)
  unfold webCreateChild
  infer_instance

instance : Admitted LedgerNeutral .actors := ⟨fun _ => trivial, fun _ _ => trivial⟩

instance (telegramId : Int) (name : String) (solvency : Prop) :
    Keeps (ledgerAgreement solvency) LedgerNeutral (requesterActorCreated telegramId name) := by
  unfold requesterActorCreated requesterActor
  infer_instance

/-- What is done with a value may depend on where it came from. -/
theorem keeps_parseInt_bind {C : Agreement Database} {Benign : Database.Write → Prop} {text : String}
    {rest : Int → Op β}
    (next : ∀ value, int? text = some value → Keeps C Benign (rest value)) :
    Keeps C Benign (Bot.parseInt text >>= rest) where
  keeps point ready := by
    unfold Bot.parseInt
    rw [wp_found_bind]
    exact ⟨fun value parsed => (next value parsed).keeps point ready,
      fun _ => ready⟩

theorem keeps_createReseller (env : Env) (chatId : Int) (data : Bot.ResellerData) (solvency : Prop)
    (credited : ∀ credit, int? data.credit = some credit → 0 ≤ credit) :
    Keeps (ledgerAgreement solvency) LedgerNeutral (Bot.createReseller env chatId data) := by
  unfold Bot.createReseller
  refine Keeps.andThen fun caller => ?_
  have body : Keeps (ledgerAgreement solvency) LedgerNeutral (do
      let taken ← scalar .organizations fun row => row.slug = data.slug
      require (taken = none) (.valueError "این شناسه قبلاً استفاده شده است.")
      let credit ← Bot.parseInt data.credit
      let price ← Bot.parseInt data.price
      let id ← openChild caller.organizationId data.name data.slug credit price
      let telegramId ← Bot.parseInt data.telegramId
      let actorId ← requesterActorCreated telegramId data.name
      addMembership id actorId .resellerAdmin
      commit : Op Unit) := by
    refine Keeps.andThen fun _ => Keeps.andThen fun _ => keeps_parseInt_bind fun credit parsed => ?_
    refine keeps_parseInt_bind fun price _ => ?_
    have opened : Keeps (ledgerAgreement solvency) LedgerNeutral
        (openChild caller.organizationId data.name data.slug credit price) :=
      keeps_openChild _ _ _ _ (credited credit parsed)
    refine Keeps.andThen fun id => keeps_parseInt_bind fun telegramId _ => ?_
    infer_instance
  unfold withSession
  infer_instance

/-- Every operation keeps the books. -/
theorem BranchOperation.balances {program : Prog Database (Except Failure Unit)}
    (operation : BranchOperation env program) (solvency : Prop) :
    (ledgerAgreement solvency).Meets program := by
  cases operation with
  | botCreateReseller chatId data credited =>
      have kept := keeps_createReseller env chatId data solvency credited
      exact served_meets solvency _
  | _ => exact served_meets solvency _

/-- Every operation meets the agreement of a branch. -/
theorem BranchOperation.meets {program : Prog Database (Except Failure Unit)}
    (operation : BranchOperation env program) (owned : String → Bool) :
    (branchAgreement env owned).Meets program := by
  have sustained : ∀ {α : Type} (body : Op α) [Sustains (decisionAgreement False env Set.univ)
      (Untallied decisive) (decisionLaw False env Set.univ) body],
      (decisionAgreement False env Set.univ).Meets (served body) := fun body _ =>
    decision_meets _ fun store invariant => by
      have due : Due (decisionAgreement False env Set.univ) (decisionLaw False env Set.univ)
          ⟨[], [], [], store⟩ := .fresh (Untallied decisive) invariant
      exact wp_mono _ (wp_sustains (Untallied decisive) body due) fun _ _ _ => trivial
  refine meets_branch ?_
  cases operation with
  | webCreateChild identity data => exact sustained _
  | botCreateReseller chatId data credited => exact sustained _
  | webFundingRequest identity data =>
      exact decision_meets _ fun _ _ => wp_webFundingRequest identity data
  | requestCredit chatId amountIrr =>
      exact decision_meets _ fun _ _ => wp_requestCredit chatId amountIrr
  | branchDecideFunding identity requestId decision =>
      exact decision_meets _ fun _ _ => wp_branchDecideFunding identity requestId decision
  | botDecideFunding chatId requestId approve =>
      exact decision_meets _ fun _ _ => wp_botDecideFunding chatId requestId approve

instance : Admitted Unmarked .fundingRequests := ⟨fun _ => rfl, fun _ _ => rfl⟩

set_option synthInstance.maxSize 100000 in
/-- Funding leaves the hierarchy alone. -/
theorem BranchOperation.extends {program : Prog Database (Except Failure Unit)}
    (operation : BranchOperation env program) :
    (treeAgreement False env Set.univ False.elim).Meets program := by
  have sustained : ∀ {α : Type} (body : Op α) [Sustains (treeAgreement False env Set.univ False.elim)
      Unmarked (treeLaw False env Set.univ) body],
      (treeAgreement False env Set.univ False.elim).Meets (served body) := fun body _ =>
    meets_served body fun _ invariant => wp_sustained body (.fresh Unmarked invariant)
  cases operation with
  | webCreateChild identity data => exact (TreeOperation.webCreateChild identity data).meets
  | botCreateReseller chatId data credited =>
      exact (TreeOperation.botCreateReseller chatId data (Set.mem_univ _)).meets
  | webFundingRequest identity data =>
      unfold ControlPlane.webFundingRequest
      exact sustained _
  | requestCredit chatId amountIrr =>
      unfold Bot.requestCredit
      exact sustained _
  | branchDecideFunding identity requestId decision =>
      unfold ControlPlane.branchDecideFunding decideFundingRequest payFundingRequest
      exact sustained _
  | botDecideFunding chatId requestId approve =>
      unfold Bot.decideFunding payFundingRequest
      exact sustained _

end

/-! ## Runs -/

section

variable {env : Env} {db later : Db} {branchId : Id}

/-- A branch lists an organization among the closure rows of the organization. -/
theorem Db.beneath_eq (db : Db) (branchId : Id) (id : String) :
    db.beneath branchId id = (db.ancestors id).any fun row => row.ancestorId = branchId := by
  unfold Db.beneath Db.ancestors
  rw [List.any_filter]
  congr 1
  funext row
  simp [Bool.and_comm]

/-- The system account is no organization of a branch. -/
theorem Hierarchy.beneath_system (hierarchy : Hierarchy db) (solvent : Solvent db) :
    db.beneath branchId systemOwner = false := by
  by_contra listed
  obtain ⟨row, member, same⟩ := List.any_eq_true.mp (Bool.eq_true_of_not_eq_false listed)
  simp only [decide_eq_true_eq] at same
  have present := ((hierarchy.closures row.ancestorId row.descendantId row.depth).mp member).1
  rw [same.2, nodes_ids] at present
  obtain ⟨organization, organizationMember, id⟩ := List.mem_map.mp present
  exact (solvent.limits organization organizationMember).owner id

/-- In consistent books a branch has what it was credited. -/
theorem Balanced.branchBalance (balanced : Balanced db) (branchId : Id) :
    db.branchBalance branchId = db.credited (db.beneath branchId) := by
  unfold Db.branchBalance Db.credited Db.owners
  rw [List.filter_map, List.map_map]
  refine congrArg List.sum (List.map_congr_left fun account listed => ?_)
  exact balanced.balances account (List.mem_filter.mp listed).1

/-- Every wallet belongs to the system or to an organization. -/
def Owned (db : Db) : Prop :=
  ∀ account ∈ db.accounts, account.ownerKey = systemOwner ∨
    account.ownerKey ∈ db.organizations.map Organization.id

/-- New organizations bring no wallets that were there before. -/
theorem Extends.credited (extends' : Extends db later) (wallets : Owned db)
    (before : db.beneath branchId systemOwner = false)
    (after : later.beneath branchId systemOwner = false) :
    db.credited (later.beneath branchId) = db.credited (db.beneath branchId) := by
  unfold Db.credited
  refine congrArg (fun owners : List (Id × String) =>
    (owners.map fun owner => db.entriesBalance owner.1).sum) (List.filter_congr fun owner member => ?_)
  obtain ⟨account, accountMember, rfl⟩ := List.mem_map.mp member
  rcases wallets account accountMember with system | organization
  · dsimp only
    rw [system, before, after]
  · rw [Db.beneath_eq, Db.beneath_eq, extends'.ancestors _ (by rwa [nodes_ids])]

variable {ι : Type} [DecidableEq ι] {store : Db} {world : World Database ι (Except Failure Unit)}

/-- In every committed state the wallets of a branch together stand where they stood at the start,
as long as no funding request of the branch was approved in between. -/
theorem branch_balance (opening : DecisionInvariant env store) (books : LedgerInvariant True store)
    (hierarchy : Hierarchy store) (wallets : Owned store) (branchId : Id)
    (reached : World.Reachable (BranchOperation env) store world)
    (unapproved : Unapproved (Db.beneath world.store branchId) store world.store) :
    Db.branchBalance world.store branchId = Db.branchBalance store branchId := by
  have decided := (Agreement.Sound.initial (C := branchAgreement env (Db.beneath world.store branchId))
    opening).evolve (fun _ operation => operation.meets _) reached
  have balanced := (Agreement.Sound.reachable (C := ledgerAgreement True)
    (fun _ operation => operation.balances True) books reached).inv
  have grown := (Agreement.Sound.initial (C := treeAgreement False env Set.univ False.elim)
    ⟨hierarchy, False.elim⟩).evolve (fun _ operation => operation.extends) reached
  have before : Db.beneath store branchId systemOwner = false :=
    hierarchy.beneath_system (books.solvent trivial)
  have after : Db.beneath world.store branchId systemOwner = false :=
    grown.1.inv.hierarchy.beneath_system (balanced.solvent trivial)
  calc Db.branchBalance world.store branchId
      = Db.credited world.store (Db.beneath world.store branchId) :=
        balanced.balanced.branchBalance branchId
    _ = Db.credited store (Db.beneath world.store branchId) := decided.2.2 after unapproved
    _ = Db.credited store (Db.beneath store branchId) := grown.2.credited wallets before after
    _ = Db.branchBalance store branchId := (books.balanced.branchBalance branchId).symm

/-- What there is in the workspace with a shop and a reseller of the shop. -/
theorem Sample.resold_rows :
    (∀ membership ∈ Db.memberships (Sample.resold Sample.env), membership.role ≠ .systemAdmin) ∧
      (∀ account ∈ Db.accounts (Sample.resold Sample.env), account.balanceIrr = 0 ∧
        account.ownerKey ∈ (Db.organizations (Sample.resold Sample.env)).map Organization.id) ∧
      (∀ organization ∈ Db.organizations (Sample.resold Sample.env),
        organization.id ≠ systemOwner ∧ 0 ≤ organization.creditLimitIrr) ∧
      (Db.fundingRequests (Sample.resold Sample.env)).length = 0 ∧
      (Db.approvals (Sample.resold Sample.env)).length = 0 ∧
      (Db.transactions (Sample.resold Sample.env)).length = 0 ∧
      (Db.entries (Sample.resold Sample.env)).length = 0 := by
  decide +kernel

/-- The workspace with a shop and a reseller of the shop is a hierarchy. -/
theorem Sample.resold_hierarchy : Hierarchy (Sample.resold Sample.env) := by
  obtain ⟨world, reached, same⟩ := Sample.resold_reachable Sample.env (Set.mem_univ 10)
  exact same ▸ (hierarchy_sound False False.elim ⟨Hierarchy.empty, False.elim⟩
    reached).hierarchy

/-- Nothing was decided where nothing was asked for. -/
theorem DecisionInvariant.undecided {db : Db} (integrity : Integrity db)
    (roles : ∀ membership ∈ db.memberships, membership.role ≠ .systemAdmin)
    (requests : db.fundingRequests = []) (approvals : db.approvals = [])
    (transactions : db.transactions = []) : DecisionInvariant env db := by
  refine ⟨integrity, roles, fun payment member => ?_, fun transaction member => ?_,
    fun request member => ?_, fun approval member => ?_⟩
  · rcases Db.mem_payments.mp member with ⟨request, known, _⟩ | ⟨approval, known, _⟩
    · rw [requests] at known
      cases known
    · rw [approvals] at known
      cases known
  · rw [transactions] at member
    cases member
  · rw [requests] at member
    cases member
  · rw [approvals] at member
    cases member

/-- Books without transactions are in order when every wallet is empty. -/
theorem LedgerInvariant.unused {db : Db} (integrity : Integrity db)
    (organizations : ∀ organization ∈ db.organizations, organization.Creditworthy)
    (wallets : ∀ account ∈ db.accounts, account.balanceIrr = 0)
    (transactions : db.transactions = []) (entries : db.entries = []) :
    LedgerInvariant True db := by
  refine ⟨integrity, ⟨fun transaction member => ?_, fun account member => ?_, ?_⟩,
    fun _ => ⟨organizations, fun account member owner => ?_⟩⟩
  · rw [transactions] at member
    cases member
  · rw [wallets account member, Db.entriesBalance, entries]
    rfl
  · refine List.sum_eq_zero fun amount listed => ?_
    obtain ⟨account, member, rfl⟩ := List.mem_map.mp listed
    exact wallets account member
  · rw [wallets account member]
    unfold Db.creditLimit
    cases found : db.find .organizations account.ownerKey with
    | none => exact Int.le_refl 0
    | some organization =>
        have limit := (organizations organization (Db.find_mem found).1).limit
        simpa using limit

/-- Nothing was decided in the workspace. -/
theorem Sample.resold_undecided : DecisionInvariant Sample.env (Sample.resold Sample.env) := by
  obtain ⟨roles, _, _, requests, approvals, transactions, _⟩ := Sample.resold_rows
  exact .undecided Sample.resold_hierarchy.integrity roles (List.length_eq_zero_iff.mp requests)
    (List.length_eq_zero_iff.mp approvals) (List.length_eq_zero_iff.mp transactions)

/-- Its wallets are empty. -/
theorem Sample.resold_books : LedgerInvariant True (Sample.resold Sample.env) := by
  obtain ⟨_, wallets, organizations, _, _, transactions, entries⟩ := Sample.resold_rows
  exact .unused Sample.resold_hierarchy.integrity
    (fun organization member => ⟨(organizations organization member).1,
      (organizations organization member).2⟩)
    (fun account member => (wallets account member).1) (List.length_eq_zero_iff.mp transactions)
    (List.length_eq_zero_iff.mp entries)

/-- The reseller of the shop asks for funding, and nothing moves. -/
theorem branch_balance_request :
    ∃ world : World Database Unit (Except Failure Unit),
      World.Reachable (BranchOperation Sample.env) (Sample.resold Sample.env) world ∧
        world.store.fundingRequests.map FundingRequest.amountIrr = [1000] ∧
          Db.branchBalance world.store "kkkkkkkkkkkkkkkkkkkkkkkkkkkkkkkkkkkk" =
            Db.branchBalance (Sample.resold Sample.env) "kkkkkkkkkkkkkkkkkkkkkkkkkkkkkkkkkkkk" := by
  obtain ⟨world, reached, same⟩ := World.reachable_run () (Sample.answersFrom 1)
    (BranchOperation.requestCredit 11 1000 : BranchOperation Sample.env _)
    (Sample.resold Sample.env)
  rw [served_run] at same
  have requests : (Db.fundingRequests world.store).map FundingRequest.amountIrr = [1000] ∧
      ∀ request ∈ Db.fundingRequests world.store, request.status ≠ .approved := by
    rw [same]
    decide +kernel
  refine ⟨world, reached, requests.1, branch_balance Sample.resold_undecided Sample.resold_books
    Sample.resold_hierarchy ?_ _ reached ?_⟩
  · exact fun account member => .inr (Sample.resold_rows.2.1 account member).2
  · exact fun request member _ approved => absurd approved (requests.2 request member)

/-- The workspace after the reseller of the shop asked for funding and the shop approved it. -/
def Sample.minted : Db :=
  ((Bot.decideFunding Sample.env 10 "bbbbbbbbbbbbbbbbbbbbbbbbbbbbbbbbbbbb" true).serve
    (Sample.answersFrom 40)
    ((Bot.requestCredit Sample.env 11 1000).serve (Sample.answersFrom 1)
      (Sample.resold Sample.env)).2).2

/-- A reseller's request for funding that its shop approves, from any state of the database. -/
theorem Sample.minted_reachable (db : Db) :
    ∃ world : World Database Unit (Except Failure Unit),
      World.Reachable (BranchOperation Sample.env) db world ∧ world.store =
        ((Bot.decideFunding Sample.env 10 "bbbbbbbbbbbbbbbbbbbbbbbbbbbbbbbbbbbb" true).serve
          (Sample.answersFrom 40)
          ((Bot.requestCredit Sample.env 11 1000).serve (Sample.answersFrom 1) db).2).2 := by
  have quiet : (World.initial db : World Database Unit (Except Failure Unit)).Quiet := fun _ => rfl
  obtain ⟨first, reached, quiet, asked⟩ := quiet_served quiet .refl () (Sample.answersFrom 1)
    (BranchOperation.requestCredit 11 1000 : BranchOperation Sample.env _)
  obtain ⟨last, reached, quiet, approved⟩ := quiet_served quiet reached () (Sample.answersFrom 40)
    (BranchOperation.botDecideFunding 10 "bbbbbbbbbbbbbbbbbbbbbbbbbbbbbbbbbbbb" true :
      BranchOperation Sample.env _)
  refine ⟨last, reached, ?_⟩
  rw [approved, asked]
  rfl

/-- A shop approves the request of its own reseller, and its branch has more than before. -/
theorem branch_balance_fails :
    ¬∀ world : World Database Unit (Except Failure Unit),
      World.Reachable (BranchOperation Sample.env) (Sample.resold Sample.env) world →
        Db.branchBalance world.store "kkkkkkkkkkkkkkkkkkkkkkkkkkkkkkkkkkkk" ≤
          Db.branchBalance (Sample.resold Sample.env) "kkkkkkkkkkkkkkkkkkkkkkkkkkkkkkkkkkkk" := by
  intro kept
  obtain ⟨last, reached, same⟩ := Sample.minted_reachable (Sample.resold Sample.env)
  rw [← Sample.minted] at same
  have less := kept last reached
  rw [same] at less
  obtain ⟨before, after⟩ :
      Db.branchBalance (Sample.resold Sample.env) "kkkkkkkkkkkkkkkkkkkkkkkkkkkkkkkkkkkk" = 0 ∧
        Db.branchBalance Sample.minted "kkkkkkkkkkkkkkkkkkkkkkkkkkkkkkkkkkkk" = 1000 := by
    decide +kernel
  rw [before, after] at less
  exact absurd less (by decide)

end

end ControlPlane
