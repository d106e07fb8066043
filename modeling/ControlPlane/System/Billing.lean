import ControlPlane.Decisions.Agreement
import ControlPlane.Hierarchy.Edges
import ControlPlane.System.Discipline

/-!
# What readings cost

An accepted reading is charged on each edge between the organization of its
binding and the root. The key of a charge names the binding, the bytes from the
checkpoint to the reading and the paying organization, and its entries move the
price of these bytes at the rate of the contract and at a billing coefficient of
the server.
-/

namespace ControlPlane

open ReadCommitted DecimalArithmetic

/-! ## Charges -/

/-- The keys of the payments for readings. -/
def UsageKey (key : String) : Prop :=
  ∃ bindingId old new childId, key = usageKey bindingId old new childId

/-- The factor of a billing coefficient; zero counts as 1. -/
def usageFactor (coefficient : Nat) : Decimal :=
  if coefficient = 0 then ⟨1, 0⟩ else coefficientDecimal coefficient

/-- The edge that a settlement is for. -/
def Settlement.edge (settled : Settlement) : Edge :=
  ⟨settled.childId, settled.parentId, settled.rateIrr⟩

section

variable {delta : Int} {path : List Edge} {factor : Decimal} {rows : List Settlement}

/-- A settlement is for its edge. -/
theorem settlement_edge {edge : Edge} {settled : Settlement}
    (computed : settlement delta factor edge = .ok settled) : settled.edge = edge := by
  unfold settlement at computed
  cases price : priceUsage delta edge.rateIrr factor with
  | error exception => simp [price, Except.map] at computed
  | ok amount =>
      simp only [price, Except.map, Except.ok.injEq] at computed
      subst computed
      rfl

/-- A cascade settles the edges of its path. -/
theorem edges_of_cascade (computed : cascade delta path factor = .ok rows) (positive : 0 < delta) :
    rows.map Settlement.edge = path := by
  have same : List.Forall₂ (· = ·) path (rows.map Settlement.edge) :=
    List.forall₂_map_right_iff.mpr
      ((cascade_eq_ok computed positive).imp fun _ _ settled => (settlement_edge settled).symm)
  rw [List.forall₂_eq_eq_eq] at same
  exact same.symm

/-- A settlement of a cascade is for an edge of the path, and carries its price. -/
theorem price_of_cascade (computed : cascade delta path factor = .ok rows) {settled : Settlement}
    (member : settled ∈ rows) : settled.edge ∈ path ∧
      priceUsage delta settled.edge.rateIrr factor = .ok settled.amountIrr := by
  by_cases positive : 0 < delta
  · have edges := edges_of_cascade computed positive
    have priced := (cascade_eq_ok computed positive).imp fun _ _ settled =>
      (settlement_eq_ok settled).2.2
    rw [← edges, List.forall₂_map_left_iff, List.forall₂_same] at priced
    exact ⟨edges ▸ List.mem_map_of_mem member, priced settled member⟩
  · rw [cascade, if_neg positive] at computed
    cases computed
    cases member

end

/-- The contract edges between an organization and its root. -/
inductive Leads (db : Db) : Id → List Edge → Prop
  | root {organization : Organization} : organization ∈ db.organizations →
      organization.parentId = none → Leads db organization.id []
  | up {organization : Organization} {parentId : Id} {contract : Contract} {path : List Edge} :
      organization ∈ db.organizations → organization.parentId = some parentId →
        contract ∈ db.contracts → contract.childId = organization.id →
          contract.status = .active → Leads db parentId path →
            Leads db organization.id (⟨organization.id, parentId, contract.pricePerGibIrr⟩ :: path)

/-- What the bytes between two readings cost on an edge. -/
structure Charge where
  bindingId : Id
  old : Nat
  new : Nat
  edge : Edge
  amountIrr : Int

namespace Charge

/-- The payment of a charge. -/
def payment (charge : Charge) : Payment :=
  ⟨charge.edge.childId, charge.edge.parentId, charge.amountIrr,
    usageKey charge.bindingId charge.old charge.new charge.edge.childId⟩

/-- The edge is above the organization of the binding, and the amount is the price of the bytes. -/
def Priced (Tariff : Id → Nat → Prop) (charge : Charge) (db : Db) : Prop :=
  ∃ binding ∈ db.bindings, binding.id = charge.bindingId ∧
    (∃ path, Leads db binding.organizationId path ∧ charge.edge ∈ path) ∧
      ∃ coefficient, Tariff binding.panelId coefficient ∧
        priceUsage (charge.new - charge.old : Nat) charge.edge.rateIrr (usageFactor coefficient) =
          .ok charge.amountIrr

end Charge

/-- A transaction carries a key, or will once the log is written. -/
def Booked (log : List Database.Write) (db : Db) (key : String) : Prop :=
  ∃ transaction : Transaction,
    (transaction ∈ db.transactions ∨ .insert .transactions transaction ∈ log) ∧
      transaction.idempotencyKey = key

namespace Usage

/-- An accepted reading with bytes to pay for. -/
def Payable (usage : Usage) : Prop := usage.status = .accepted ∧ 0 < usage.deltaBytes

instance : DecidablePred Payable := fun _ => inferInstanceAs (Decidable (_ ∧ _))

/-- There is a transaction for each edge above the organization of the binding. -/
def Charged (usage : Usage) (log : List Database.Write) (db : Db) : Prop :=
  usage.deltaBytes ≤ usage.lifetimeBytes ∧ ∃ binding ∈ db.bindings, binding.id = usage.bindingId ∧
    ∃ path, Leads db binding.organizationId path ∧ ∀ edge ∈ path, Booked log db
      (usageKey usage.bindingId (usage.lifetimeBytes - usage.deltaBytes) usage.lifetimeBytes
        edge.childId)

end Usage

/-! ## What stays -/

section

variable {log longer : List Database.Write} {db later : Db}

/-- A binding stays with its organization and its server. -/
theorem Db.Retained.binding (retained : db.Retained later) {binding : Binding}
    (member : binding ∈ db.bindings) :
    ∃ kept ∈ later.bindings, kept = { binding with status := kept.status } := by
  obtain ⟨kept, present, same⟩ := retained .bindings (by decide) (by decide) binding member
  refine ⟨kept, present, ?_⟩
  cases kept
  cases binding
  simp_all [Table.frozen]

/-- Transactions stay. -/
theorem Db.Retained.transaction (retained : db.Retained later) {transaction : Transaction}
    (member : transaction ∈ db.transactions) : transaction ∈ later.transactions :=
  (retained .transactions (by decide) (by decide) transaction member).fixed fun _ => rfl

/-- Wallets stay with their owners. -/
theorem Db.Retained.owners (retained : db.Retained later) : db.owners ⊆ later.owners := by
  intro owned member
  obtain ⟨account, present, rfl⟩ := List.mem_map.mp member
  obtain ⟨kept, there, same⟩ := retained .accounts (by decide) (by decide) account present
  refine List.mem_map.mpr ⟨kept, there, ?_⟩
  obtain ⟨id, owner, _⟩ := Account.mk.inj same
  rw [id, owner]

/-- A path stays. -/
theorem Leads.retained {id : Id} {path : List Edge} (leads : Leads db id path)
    (retained : db.Retained later) : Leads later id path := by
  induction leads with
  | @root organization member top =>
      obtain ⟨kept, present, same⟩ :=
        (retained .organizations (by decide) (by decide) organization member).organization
      have own : kept.id = organization.id := by rw [same]
      rw [← own]
      exact .root present (by rw [same]; exact top)
  | @up organization parentId contract path member parent agreed child active _ above =>
      obtain ⟨kept, present, same⟩ :=
        (retained .organizations (by decide) (by decide) organization member).organization
      have own : kept.id = organization.id := by rw [same]
      rw [← own] at child ⊢
      exact .up present (by rw [same]; exact parent)
        ((retained .contracts (by decide) (by decide) contract agreed).fixed fun _ => rfl)
        child active above

/-- A charge keeps its price. -/
theorem Charge.Priced.retained {Tariff : Id → Nat → Prop} {charge : Charge}
    (priced : charge.Priced Tariff db) (retained : db.Retained later) :
    charge.Priced Tariff later := by
  obtain ⟨binding, member, own, ⟨path, leads, above⟩, coefficient, fair, price⟩ := priced
  obtain ⟨kept, present, same⟩ := retained.binding member
  refine ⟨kept, present, by rw [same]; exact own, ⟨path, ?_, above⟩, coefficient, ?_, price⟩
  · rw [same]
    exact leads.retained retained
  · rw [same]
    exact fair

/-- What carries a key carries it later. -/
theorem Booked.retained {key : String} (booked : Booked [] db key) (retained : db.Retained later) :
    Booked [] later key := by
  obtain ⟨transaction, old | new, own⟩ := booked
  · exact ⟨transaction, .inl (retained.transaction old), own⟩
  · exact absurd new List.not_mem_nil

theorem Booked.grow {key : String} (subset : log ⊆ longer) (booked : Booked log db key) :
    Booked longer db key := by
  obtain ⟨transaction, there, own⟩ := booked
  exact ⟨transaction, there.imp_right fun written => subset written, own⟩

/-- An accepted reading stays charged, with everything that is written along with it. -/
theorem Usage.Charged.moves {usage : Usage} (charged : usage.Charged log db)
    (retained : db.Retained later)
    (booked : ∀ key, Booked log db key → Booked longer later key) : usage.Charged longer later := by
  obtain ⟨counted, binding, member, own, path, leads, keyed⟩ := charged
  obtain ⟨kept, present, same⟩ := retained.binding member
  refine ⟨counted, kept, present, by rw [same]; exact own, path, ?_, fun edge above =>
    booked _ (keyed edge above)⟩
  rw [same]
  exact leads.retained retained

end

/-! ## Keys -/

/-- What comes before the first colon, and what comes after it. -/
theorem before_colon {first second rest others : List Char} (absent : ':' ∉ first)
    (free : ':' ∉ second) (same : first ++ ':' :: rest = second ++ ':' :: others) :
    first = second ∧ rest = others := by
  induction first generalizing second with
  | nil =>
      cases second with
      | nil => exact ⟨rfl, (List.cons.inj same).2⟩
      | cons head second =>
          exact absurd ((List.cons.inj same).1 ▸ List.mem_cons_self) free
  | cons head first inductionHypothesis =>
      cases second with
      | nil => exact absurd ((List.cons.inj same).1 ▸ List.mem_cons_self) absent
      | cons other second =>
          obtain ⟨equal, tails⟩ := List.cons.inj same
          obtain ⟨begins, ends⟩ := inductionHypothesis
            (fun member => absent (List.mem_cons_of_mem _ member))
            (fun member => free (List.mem_cons_of_mem _ member)) tails
          exact ⟨by rw [equal, begins], ends⟩

/-- A number in decimal has no colon. -/
theorem colon_notMem_decimal (number : Nat) : ':' ∉ (toString number).toList := by
  intro member
  have digit : ':'.isDigit = true :=
    Nat.isDigit_of_mem_toDigits (b := 10) (by decide) (by decide) (by simpa using member)
  exact absurd digit (by decide)

/-- A number is determined by its decimal. -/
theorem eq_of_decimals {first second : Nat}
    (same : (toString first).toList = (toString second).toList) : first = second := by
  have digits : Nat.toDigits 10 first = Nat.toDigits 10 second := by simpa using same
  rw [← Nat.ofDigitChars_ten_toDigits (n := first), digits, Nat.ofDigitChars_ten_toDigits]

/-- The key of a charge determines the charge, where bindings have ids of one length. -/
theorem usageKey_inj {bindingId otherId childId otherChild : Id} {old new before after : Nat}
    (length : bindingId.length = otherId.length)
    (same : usageKey bindingId old new childId = usageKey otherId before after otherChild) :
    bindingId = otherId ∧ old = before ∧ new = after ∧ childId = otherChild := by
  have texts := congrArg String.toList same
  simp only [usageKey, String.toList_append, List.append_assoc, List.append_cancel_left_eq] at texts
  obtain ⟨binding, rest⟩ := List.append_inj texts length
  obtain ⟨early, rest⟩ := before_colon (colon_notMem_decimal old) (colon_notMem_decimal before)
    ((List.append_cancel_left_eq ":".toList _ _).mp rest)
  obtain ⟨late, child⟩ := before_colon (colon_notMem_decimal new) (colon_notMem_decimal after) rest
  exact ⟨String.toList_inj.mp binding, eq_of_decimals early, eq_of_decimals late,
    String.toList_inj.mp child⟩

/-! ## What sessions write -/

/-- What charges depend on. -/
structure Commerce where
  /-- The idempotency keys of deposits. -/
  Deposit : String → Prop
  /-- The billing coefficients of servers. -/
  Tariff : Id → Nat → Prop

/-- A transfer is paid for a reading only if its kind says so, unless a deposit took the key of a
charge; and what is paid for a reading is its price. -/
structure Warranted (commerce : Commerce) (log : List Database.Write) (db : Db) (source target : Id)
    (amountIrr : Int) (transaction : Transaction) : Prop where
  keyed : UsageKey transaction.idempotencyKey →
    transaction.kind = "usage" ∨ commerce.Deposit transaction.idempotencyKey
  charge : transaction.kind = "usage" → ∃ charge : Charge, charge.Priced commerce.Tariff db ∧
    charge.amountIrr = amountIrr ∧ charge.payment.key = transaction.idempotencyKey ∧
      (source, charge.edge.childId) ∈ db.owners ++ opened log ∧
        (target, charge.edge.parentId) ∈ db.owners ++ opened log

/-- What is written together: a transfer, or an accepted reading that is charged. -/
inductive Posting (commerce : Commerce) (log : List Database.Write) (db : Db) :
    List Database.Write → Prop
  | transfer (source target : Id) (amountIrr : Int) (transaction : Transaction) :
      Warranted commerce log db source target amountIrr transaction →
        Posting commerce log db (posted source target amountIrr transaction)
  | reading (usage : Usage) : usage.Charged log db → Posting commerce log db [.insert .usages usage]

/-- A transaction of the database writes one posting after the other. -/
def Posts (commerce : Commerce) (log : List Database.Write) (db : Db) (rows : List Database.Write) :
    Prop :=
  ∃ postings : List (List Database.Write),
    (∀ posting ∈ postings, Posting commerce log db posting) ∧ postings.flatten = rows

/-- The statements that charges are about, and those that sessions never send. -/
def Delicate : Database.Write → Prop
  | .insert .transactions _ | .insert .entries _ => True
  | .insert .usages row => row.Payable
  | .insert .bindings row => row.id.length ≠ 36
  | .delete table _ => ¬(table = .planCategories ∨ table = .plans)
  | _ => False

section

open Classical in
/-- Whether charges are about a statement. -/
noncomputable def billingTouches (statement : Database.Write) : Bool :=
  decide (Delicate statement)

variable {commerce : Commerce} {log longer : List Database.Write} {db : Db}
  {rows : List Database.Write}

theorem Posts.nil : Posts commerce log db [] := ⟨[], nofun, rfl⟩

/-- One posting more. -/
theorem Posts.concat {posting : List Database.Write} (posts : Posts commerce log db rows)
    (last : Posting commerce log db posting) : Posts commerce log db (rows ++ posting) := by
  obtain ⟨postings, each, rfl⟩ := posts
  refine ⟨postings ++ [posting], fun other member => ?_, by simp⟩
  rcases List.mem_append.mp member with early | late
  · exact each other early
  · rwa [List.mem_singleton.mp late]

/-- The wallets of a session do not close. -/
theorem opened_subset (subset : log ⊆ longer) : opened log ⊆ opened longer :=
  List.filterMap_subset _ subset

/-- Further statements leave what was written lawful. -/
theorem Posts.grow (subset : log ⊆ longer) (posts : Posts commerce log db rows) :
    Posts commerce longer db rows := by
  obtain ⟨postings, each, same⟩ := posts
  refine ⟨postings, fun posting member => ?_, same⟩
  cases each posting member with
  | transfer source target amountIrr transaction warranted =>
      refine .transfer source target amountIrr transaction ⟨warranted.keyed, fun usage => ?_⟩
      obtain ⟨charge, priced, amount, key, payer, payee⟩ := warranted.charge usage
      have wider : db.owners ++ opened log ⊆ db.owners ++ opened longer :=
        List.append_subset.mpr ⟨List.subset_append_left _ _,
          List.Subset.trans (opened_subset subset) (List.subset_append_right _ _)⟩
      exact ⟨charge, priced, amount, key, wider payer, wider payee⟩
  | reading usage charged =>
      exact .reading usage (charged.moves (.refl db) fun _ booked => booked.grow subset)

/-- Postings insert rows of the ledger and readings. -/
theorem Posts.statement (posts : Posts commerce log db rows) {statement : Database.Write}
    (member : statement ∈ rows) : (∃ row, statement = .insert .transactions row) ∨
      (∃ row, statement = .insert .entries row) ∨ ∃ row, statement = .insert .usages row := by
  obtain ⟨postings, each, rfl⟩ := posts
  obtain ⟨posting, present, written⟩ := List.mem_flatten.mp member
  cases each posting present with
  | transfer source target amountIrr transaction _ =>
      simp only [posted, List.mem_cons, List.not_mem_nil, or_false] at written
      rcases written with rfl | rfl | rfl
      · exact .inl ⟨_, rfl⟩
      · exact .inr (.inl ⟨_, rfl⟩)
      · exact .inr (.inl ⟨_, rfl⟩)
  | reading usage _ =>
      rw [List.mem_singleton.mp written]
      exact .inr (.inr ⟨_, rfl⟩)

/-- Every statement is not about charges, or inserts a row of the ledger or a reading. -/
def Proper (log : List Database.Write) : Prop :=
  ∀ statement ∈ log, ¬Delicate statement ∨ (∃ row, statement = .insert .transactions row) ∨
    (∃ row, statement = .insert .entries row) ∨ ∃ row, statement = .insert .usages row

theorem Posts.proper (posts : Posts commerce log db (rows.filter billingTouches)) :
    Proper rows := by
  intro statement member
  by_cases delicate : Delicate statement
  · exact .inr (posts.statement (List.mem_filter.mpr
      ⟨member, by simpa only [billingTouches, decide_eq_true_eq] using delicate⟩))
  · exact .inl delicate

namespace Proper

variable (proper : Proper log)

include proper

/-- Nothing but a part of the catalog is deleted. -/
theorem catalog (table : Table) (key : table.Key) (member : .delete table key ∈ log) :
    table = .planCategories ∨ table = .plans := by
  rcases proper _ member with free | ⟨_, same⟩ | ⟨_, same⟩ | ⟨_, same⟩
  · exact not_not.mp free
  · cases same
  · cases same
  · cases same

theorem retained : db.Retained (replay (S := Database) log db) :=
  .replay proper.catalog

theorem owners : Db.owners (replay (S := Database) log db) = db.owners ++ opened log :=
  owners_replay (fun id member => absurd (proper.catalog .accounts id member) (by decide)) db

/-- Bindings get generated ids. -/
theorem generated (before : ∀ binding ∈ db.bindings, binding.id.length = 36) :
    ∀ binding ∈ Db.bindings (replay (S := Database) log db), binding.id.length = 36 := by
  refine fun binding member => @Layout.every_replay layout Table.bindings Query Query.Answer
    (fun row : Binding => row.id.length = 36) log (fun row inserted => ?_)
    (fun _ _ _ _ _ proper => proper) db before binding member
  rcases proper _ inserted with free | ⟨_, same⟩ | ⟨_, same⟩ | ⟨_, same⟩
  · exact not_not.mp free
  · cases same
  · cases same
  · cases same

end Proper

/-! ## Rows of the ledger -/

/-- The transactions that a log inserts. -/
abbrev newTransactions (log : List Database.Write) : List Transaction :=
  @Layout.insertedRows layout .transactions log

/-- The entries that a log inserts. -/
abbrev newEntries (log : List Database.Write) : List Entry :=
  @Layout.insertedRows layout .entries log

/-- Entries belong to transactions that are written with them. -/
theorem Posts.entry (posts : Posts commerce log db rows) {entry : Entry}
    (member : entry ∈ newEntries rows) :
    ∃ transaction ∈ newTransactions rows, transaction.id = entry.transactionId := by
  obtain ⟨postings, each, rfl⟩ := posts
  obtain ⟨statement, present, inserts⟩ := List.mem_filterMap.mp member
  obtain ⟨posting, among, written⟩ := List.mem_flatten.mp present
  cases each posting among with
  | transfer source target amountIrr transaction _ =>
      have there : transaction ∈ newTransactions postings.flatten :=
        List.mem_filterMap.mpr ⟨.insert .transactions transaction, List.mem_flatten.mpr
          ⟨_, among, List.mem_cons_self⟩, rfl⟩
      refine ⟨transaction, there, ?_⟩
      simp only [posted, List.mem_cons, List.not_mem_nil, or_false] at written
      rcases written with rfl | rfl | rfl
      · cases inserts
      · cases inserts
        rfl
      · cases inserts
        rfl
  | reading usage _ =>
      rw [List.mem_singleton.mp written] at inserts
      cases inserts

/-- The entries of a transfer are its debit and its credit. -/
theorem entries_of_transfer {postings : List (List Database.Write)}
    (each : ∀ posting ∈ postings, Posting commerce log db posting)
    (unique : ((newTransactions postings.flatten).map Transaction.id).Nodup)
    {source target : Id} {amountIrr : Int} {transaction : Transaction}
    (member : posted source target amountIrr transaction ∈ postings) :
    (newEntries postings.flatten).filter (fun entry => entry.transactionId = transaction.id) =
      [⟨transaction.id, source, .debit, amountIrr⟩,
        ⟨transaction.id, target, .credit, amountIrr⟩] := by
  induction postings with
  | nil => exact absurd member List.not_mem_nil
  | cons posting postings inductionHypothesis =>
      have later : ∀ posting ∈ postings, Posting commerce log db posting := fun other among =>
        each other (List.mem_cons_of_mem _ among)
      unfold newTransactions at unique
      rw [List.flatten_cons, Layout.insertedRows_append, List.map_append,
        List.nodup_append'] at unique
      obtain ⟨_, rest, apart⟩ := unique
      unfold newEntries
      rw [List.flatten_cons, Layout.insertedRows_append, List.filter_append]
      by_cases among : posted source target amountIrr transaction ∈ postings
      · have own : Posts commerce log db posting :=
          List.nil_append posting ▸ Posts.nil.concat (each posting List.mem_cons_self)
        have none : (@Layout.insertedRows layout .entries posting).filter
            (fun entry => entry.transactionId = transaction.id) = [] := by
          refine List.filter_eq_nil_iff.mpr fun entry present same => ?_
          obtain ⟨other, there, its⟩ := own.entry present
          refine apart (List.mem_map.mpr ⟨other, there, its.trans (of_decide_eq_true same)⟩) ?_
          refine List.mem_map_of_mem (List.mem_filterMap.mpr
            ⟨.insert .transactions transaction, ?_, rfl⟩)
          exact List.mem_flatten.mpr ⟨_, among, List.mem_cons_self⟩
        rw [none, List.nil_append]
        exact inductionHypothesis later rest among
      · obtain rfl := (List.mem_cons.mp member).resolve_right among
        have none : (@Layout.insertedRows layout .entries postings.flatten).filter
            (fun entry => entry.transactionId = transaction.id) = [] := by
          refine List.filter_eq_nil_iff.mpr fun entry present same => ?_
          obtain ⟨other, there, its⟩ := Posts.entry ⟨postings, later, rfl⟩ present
          exact apart (List.mem_singleton_self _)
            (List.mem_map.mpr ⟨other, there, its.trans (of_decide_eq_true same)⟩)
        rw [none, List.append_nil]
        exact List.filter_eq_self.mpr fun entry present => by
          rcases List.mem_pair.mp present with rfl | rfl <;> exact decide_eq_true rfl

/-- Every statement about the ledger is delicate. -/
theorem delicate_of_ledger {statement : Database.Write}
    (ledger : Layout.Statement.table statement ∈ [Table.transactions, .entries]) :
    Delicate statement := by
  cases statement with
  | insert table row =>
      replace ledger : table ∈ [Table.transactions, .entries] := ledger
      cases table with
      | transactions | entries => trivial
      | _ => exact absurd ledger (by decide)
  | update table key columns =>
      replace ledger : table ∈ [Table.transactions, .entries] := ledger
      cases table with
      | transactions | entries => exact columns.elim
      | _ => exact absurd ledger (by decide)
  | delete table key =>
      replace ledger : table ∈ [Table.transactions, .entries] := ledger
      rintro (rfl | rfl) <;> exact absurd ledger (by decide)

variable (posts : Posts commerce log db (log.filter billingTouches))

include posts

/-- The ledger grows by what is posted. -/
theorem Posts.rows_replay (table : Table) (ledger : table ∈ [Table.transactions, .entries]) :
    Db.rows (replay (S := Database) log db) table = db.rows table ++
      @Layout.insertedRows layout table (log.filter billingTouches) := by
  have picks : ∀ statement : Database.Write, table = Layout.Statement.table statement →
      billingTouches statement = true := fun statement own => by
    simpa only [billingTouches, decide_eq_true_eq] using delicate_of_ledger (own ▸ ledger)
  have grows : @Layout.Grows layout table (log.filter billingTouches) := by
    intro statement member own
    rcases posts.statement member with ⟨row, rfl⟩ | ⟨row, rfl⟩ | ⟨row, rfl⟩
    all_goals
      subst own
      exact ⟨row, rfl⟩
  rw [Layout.insertedRows_filter picks]
  exact (grows.of_filter picks).rows_replay db

theorem Posts.transactions : Db.transactions (replay (S := Database) log db) =
    db.transactions ++ newTransactions (log.filter billingTouches) :=
  posts.rows_replay .transactions (by decide)

theorem Posts.entries : Db.entries (replay (S := Database) log db) =
    db.entries ++ newEntries (log.filter billingTouches) :=
  posts.rows_replay .entries (by decide)

variable (before : Integrity db) (after : Integrity (replay (S := Database) log db))

include after

/-- New transactions have ids of their own. -/
theorem Posts.ids : ((newTransactions (log.filter billingTouches)).map
      Transaction.id).Nodup ∧ ∀ old ∈ db.transactions,
        ∀ transaction ∈ newTransactions (log.filter billingTouches),
          old.id ≠ transaction.id := by
  have ids := after.keys .transactions
  change ((Db.transactions (replay (S := Database) log db)).filterMap
    (some ∘ Transaction.id)).Nodup at ids
  rw [List.filterMap_eq_map, posts.transactions, List.map_append, List.nodup_append'] at ids
  exact ⟨ids.2.1, fun old member transaction present same =>
    ids.2.2 (List.mem_map_of_mem member) (List.mem_map.mpr ⟨transaction, present, same.symm⟩)⟩

/-- What is in the ledger stays there. -/
theorem Posts.settled {payment : Payment} (settled : db.Settled payment) :
    Db.Settled (replay (S := Database) log db) payment := by
  refine settled.grow posts.proper.retained.owners (fun _ => posts.proper.retained.transaction)
    posts.entries ?_
  intro entry member transaction present same
  obtain ⟨other, there, its⟩ := posts.entry member
  exact (posts.ids after).2 transaction present other there (same.symm.trans its.symm)

include before

/-- A new payment for a reading is in the ledger. -/
theorem Posts.charge {transaction : Transaction}
    (member : transaction ∈ newTransactions (log.filter billingTouches))
    (usage : transaction.kind = "usage") : ∃ charge : Charge, charge.Priced commerce.Tariff db ∧
      charge.payment.key = transaction.idempotencyKey ∧
        Db.Settled (replay (S := Database) log db) charge.payment := by
  have transactions := posts.transactions
  have entries := posts.entries
  have owners : Db.owners (replay (S := Database) log db) = db.owners ++ opened log :=
    posts.proper.owners
  obtain ⟨unique, fresh⟩ := posts.ids after
  obtain ⟨postings, each, same⟩ := posts
  rw [← same] at member unique entries
  obtain ⟨statement, present, inserts⟩ := List.mem_filterMap.mp member
  obtain ⟨posting, among, written⟩ := List.mem_flatten.mp present
  cases each posting among with
  | reading row _ =>
      rw [List.mem_singleton.mp written] at inserts
      cases inserts
  | transfer source target amountIrr other warranted =>
      obtain rfl : other = transaction := by
        simp only [posted, List.mem_cons, List.not_mem_nil, or_false] at written
        rcases written with rfl | rfl | rfl
        · exact Option.some.inj inserts
        · cases inserts
        · cases inserts
      obtain ⟨charge, priced, amount, key, payer, payee⟩ := warranted.charge usage
      refine ⟨charge, priced, key, other, ?_, key.symm, source, target, ?_, ?_, ?_⟩
      · rw [transactions, ← same]
        exact List.mem_append_right _ member
      · rwa [owners]
      · rwa [owners]
      · have none : db.entries.filter (fun entry => entry.transactionId = other.id) = [] := by
          refine List.filter_eq_nil_iff.mpr fun entry present => ?_
          obtain ⟨holder, there, its⟩ := before.transaction_of_entry present
          rw [decide_eq_true_eq]
          exact fun equal => fresh holder there other (same ▸ member) (its.trans equal)
        rw [entries, List.filter_append, none, List.nil_append,
          entries_of_transfer each unique among]
        subst amount
        rfl

omit before after

/-- What is paid for readings, or carries the key of a charge. -/
theorem Posts.keyed {transaction : Transaction}
    (member : transaction ∈ newTransactions (log.filter billingTouches))
    (key : UsageKey transaction.idempotencyKey) :
    transaction.kind = "usage" ∨ commerce.Deposit transaction.idempotencyKey := by
  obtain ⟨postings, each, same⟩ := posts
  rw [← same] at member
  obtain ⟨statement, present, inserts⟩ := List.mem_filterMap.mp member
  obtain ⟨posting, among, written⟩ := List.mem_flatten.mp present
  cases each posting among with
  | reading row _ =>
      rw [List.mem_singleton.mp written] at inserts
      cases inserts
  | transfer source target amountIrr other warranted =>
      simp only [posted, List.mem_cons, List.not_mem_nil, or_false] at written
      rcases written with rfl | rfl | rfl
      · cases inserts
        exact warranted.keyed key
      · cases inserts
      · cases inserts

/-- What an inserted transaction books is booked afterwards. -/
theorem Posts.booked {key : String} (booked : Booked log db key) :
    Booked [] (replay (S := Database) log db) key := by
  obtain ⟨transaction, old | new, own⟩ := booked
  · exact ⟨transaction, .inl (posts.proper.retained.transaction old), own⟩
  · have there : @Remembered .transactions transaction (replay (S := Database) log db) :=
      .inserted posts.proper.catalog (by decide) (by decide) new
    exact ⟨transaction, .inl (there.fixed fun _ => rfl), own⟩

/-- A reading that is accepted is charged. -/
theorem Posts.charged {usage : Usage} (written : .insert .usages usage ∈ log)
    (payable : usage.Payable) : usage.Charged [] (replay (S := Database) log db) := by
  have charged : usage.Charged log db := by
    have delicate : Delicate (.insert .usages usage) := payable
    have touched : .insert .usages usage ∈ log.filter billingTouches :=
      List.mem_filter.mpr ⟨written, by
        simpa only [billingTouches, decide_eq_true_eq] using delicate⟩
    obtain ⟨postings, each, same⟩ := posts
    rw [← same] at touched
    obtain ⟨posting, among, present⟩ := List.mem_flatten.mp touched
    cases each posting among with
    | reading row charged =>
        cases List.mem_singleton.mp present
        exact charged
    | transfer source target amountIrr transaction _ => simp [posted] at present
  exact charged.moves posts.proper.retained fun _ => posts.booked

end

/-! ## The agreement -/

/-- Every server counts bytes at its tariff. -/
def Db.AtTariff (Tariff : Id → Nat → Prop) (db : Db) : Prop :=
  ∀ panel ∈ db.panels, Tariff panel.id panel.usageCoefficient

/-- Whatever is paid for a reading is its price, and every accepted reading is charged. -/
structure BillingHolds (commerce : Commerce) (db : Db) : Prop where
  integrity : layout.Integrity db
  generated : ∀ binding ∈ db.bindings, binding.id.length = 36
  tariffs : db.AtTariff commerce.Tariff
  charges : ∀ transaction ∈ db.transactions, transaction.kind = "usage" →
    ∃ charge : Charge, charge.Priced commerce.Tariff db ∧
      charge.payment.key = transaction.idempotencyKey ∧ db.Settled charge.payment
  keyed : ∀ transaction ∈ db.transactions, UsageKey transaction.idempotencyKey →
    transaction.kind = "usage" ∨ commerce.Deposit transaction.idempotencyKey
  charged : ∀ usage ∈ db.usages, usage.Payable → usage.Charged [] db

section

variable {commerce : Commerce} {log : List Database.Write} {db : Db}

/-- Prices stay prices when more coefficients count. -/
theorem Charge.Priced.mono {Tariff wider : Id → Nat → Prop}
    (more : ∀ panelId coefficient, Tariff panelId coefficient → wider panelId coefficient)
    {charge : Charge} (priced : charge.Priced Tariff db) : charge.Priced wider db := by
  obtain ⟨binding, bound, own, above, coefficient, fair, price⟩ := priced
  exact ⟨binding, bound, own, above, coefficient, more _ _ fair, price⟩

theorem BillingHolds.mono {wider : Id → Nat → Prop} (holds : BillingHolds commerce db)
    (more : ∀ panelId coefficient, commerce.Tariff panelId coefficient →
      wider panelId coefficient) :
    BillingHolds ⟨commerce.Deposit, wider⟩ db where
  integrity := holds.integrity
  generated := holds.generated
  tariffs panel member := more _ _ (holds.tariffs panel member)
  charges transaction member usage := by
    obtain ⟨charge, priced, key, settled⟩ := holds.charges transaction member usage
    exact ⟨charge, priced.mono more, key, settled⟩
  keyed := holds.keyed
  charged := holds.charged

/-- What commits keeps the billing. -/
theorem BillingHolds.replay (holds : BillingHolds commerce db)
    (accepted : acceptsAll (S := Database) log db = true)
    (posts : Posts commerce log db (log.filter billingTouches))
    (tariffs : Db.AtTariff commerce.Tariff (replay (S := Database) log db)) :
    BillingHolds commerce (replay (S := Database) log db) := by
  have after := holds.integrity.replay accepted
  refine ⟨after, posts.proper.generated holds.generated, tariffs, ?_, ?_, ?_⟩
  · intro transaction member usage
    rw [posts.transactions] at member
    rcases List.mem_append.mp member with old | new
    · obtain ⟨charge, priced, key, settled⟩ := holds.charges transaction old usage
      exact ⟨charge, priced.retained posts.proper.retained, key, posts.settled after settled⟩
    · obtain ⟨charge, priced, key, settled⟩ := posts.charge holds.integrity after new usage
      exact ⟨charge, priced.retained posts.proper.retained, key, settled⟩
  · intro transaction member key
    rw [posts.transactions] at member
    rcases List.mem_append.mp member with old | new
    · exact holds.keyed transaction old key
    · exact posts.keyed new key
  · exact fun usage member => @Layout.every_replay layout Table.usages Query Query.Answer
      (fun row : Usage => row.Payable →
        row.Charged [] (ReadCommitted.replay (S := Database) log db)) log
      (fun row inserted => posts.charged inserted) (fun _ columns => nomatch columns) db
      (fun row present payable => (holds.charged row present payable).moves posts.proper.retained
        fun _ booked => booked.retained posts.proper.retained) usage member

end

/-- Every commit is lawful, and leaves the servers at their tariffs. -/
def billing (commerce : Commerce) : Agreement Database where
  inv := BillingHolds commerce
  le := Db.Retained
  commit _ log db := acceptsAll (S := Database) log db = true ∧
    Posts commerce log db (log.filter billingTouches)
  excluded log db := ¬Db.AtTariff commerce.Tariff (replay (S := Database) log db)
  le_refl := .refl
  le_trans := .trans
  inv_replay holds committed permitted :=
    holds.replay committed.1 committed.2 (not_not.mp permitted)

/-! ## Bills -/

section

variable {commerce : Commerce} {db : Db}

/-- An edge names an organization, its parent and the rate of its contract. -/
theorem Leads.edge {id : Id} {path : List Edge} (leads : Leads db id path) {edge : Edge}
    (member : edge ∈ path) : ∃ organization ∈ db.organizations, ∃ contract ∈ db.contracts,
      organization.id = edge.childId ∧ organization.parentId = some edge.parentId ∧
        contract.childId = edge.childId ∧ contract.pricePerGibIrr = edge.rateIrr := by
  induction leads with
  | root => exact absurd member List.not_mem_nil
  | @up organization parentId contract path present parent agreed child active _ above =>
      rcases List.mem_cons.mp member with rfl | later
      · exact ⟨organization, present, contract, agreed, rfl, parent, child, rfl⟩
      · exact above later

/-- An organization has one edge above it. -/
theorem edge_eq (integrity : layout.Integrity db) {id other : Id} {path further : List Edge}
    {first second : Edge} (leads : Leads db id path) (member : first ∈ path)
    (others : Leads db other further) (present : second ∈ further)
    (same : first.childId = second.childId) : first = second := by
  obtain ⟨organization, there, contract, agreed, own, parent, child, rate⟩ := leads.edge member
  obtain ⟨twin, twinThere, deal, dealt, its, above, below, price⟩ := others.edge present
  obtain rfl := integrity.eq_of_key Table.organizations there
    (congrArg some (own.trans (same.trans its.symm))) twinThere rfl
  obtain rfl := integrity.eq_of_entry Table.contracts agreed rfl
    (List.mem_singleton_self contract.childId) dealt rfl
      (List.mem_singleton.mpr (child.trans (same.trans below.symm)))
  cases first
  cases second
  simp_all

/-- An accepted reading is paid for on each edge above the organization of its binding. -/
def Usage.Billed (Tariff : Id → Nat → Prop) (usage : Usage) (db : Db) : Prop :=
  ∃ binding ∈ db.bindings, binding.id = usage.bindingId ∧
    ∃ path, Leads db binding.organizationId path ∧ ∀ edge ∈ path,
      ∃ coefficient, Tariff binding.panelId coefficient ∧ ∃ amountIrr,
        priceUsage usage.deltaBytes edge.rateIrr (usageFactor coefficient) = .ok amountIrr ∧
          db.Settled ⟨edge.childId, edge.parentId, amountIrr,
            usageKey usage.bindingId (usage.lifetimeBytes - usage.deltaBytes) usage.lifetimeBytes
              edge.childId⟩

/-- Where no deposit takes the key of a charge, accepted readings are paid for. -/
theorem BillingHolds.billed (holds : BillingHolds commerce db)
    (reserved : ∀ key, UsageKey key → ¬commerce.Deposit key) {usage : Usage}
    (member : usage ∈ db.usages) (payable : usage.Payable) : usage.Billed commerce.Tariff db := by
  obtain ⟨counted, binding, bound, own, path, leads, keyed⟩ := holds.charged usage member payable
  refine ⟨binding, bound, own, path, leads, fun edge above => ?_⟩
  obtain ⟨transaction, there | absent, key⟩ := keyed edge above
  · have usageKeyed : UsageKey transaction.idempotencyKey := ⟨_, _, _, _, key⟩
    have kind := (holds.keyed transaction there usageKeyed).resolve_right (reserved _ usageKeyed)
    obtain ⟨charge, ⟨other, present, its, ⟨further, others, among⟩, coefficient, fair, price⟩,
      same, settled⟩ := holds.charges transaction there kind
    obtain ⟨first, old, new, child⟩ := usageKey_inj
      (by rw [← its, ← own, holds.generated other present, holds.generated binding bound])
      (same.trans key)
    obtain rfl := edge_eq holds.integrity others among leads above child
    obtain rfl := holds.integrity.eq_of_key Table.bindings present
      (congrArg some (its.trans (first.trans own.symm))) bound rfl
    refine ⟨coefficient, fair, charge.amountIrr, ?_, ?_⟩
    · rw [old, new, Nat.sub_sub_self counted] at price
      exact price
    · rw [← first, ← old, ← new]
      exact settled
  · exact absurd absent List.not_mem_nil

end

end ControlPlane
