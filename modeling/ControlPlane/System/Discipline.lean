import ControlPlane.Library.Amendments
import ControlPlane.Library.Disciplines
import ControlPlane.Library.Histories
import ControlPlane.System.Sessions

/-!
# What no session ever does

No session grants the role of the system administrator, stores a credential that
is not encrypted, takes a binding back into use, or deletes anything but a part
of the catalog. What follows for whole runs is read off from that.
-/

namespace ControlPlane

open ReadCommitted Orm

/-! ## Statements -/

/-- The statements that sessions keep to. -/
def Orderly (packages : Packages) : Database.Write → Prop
  | .insert .memberships row => row.role ≠ .systemAdmin
  | .insert .panels row => row.Guarded packages
  | .update .bindings _ columns => columns.status = some .suspended
  | .delete table _ => table = .planCategories ∨ table = .plans
  | _ => True

/-! ## What lasts -/

/-- A row without the columns that are assigned to. -/
def Table.frozen : {table : Table} → table.Row → table.Row
  | .organizations, row => { row with status := .active }
  | .accounts, row => { row with balanceIrr := 0 }
  | .panels, row => { row with usageCoefficient := 0, saleable := false }
  | .planCategories, row => { row with name := "", description := "", status := .active }
  | .plans, row => { row with
      panelId := "", categoryId := none, name := "", description := "", pricePerGibIrr := 0
      dailyGib := 0, durationDays := 0, userCount := 0, creditLimitIrr := 0
      paymentInstructions := "", status := .active }
  | .bindings, row => { row with status := .active }
  | .checkpoints, row => { row with lifetimeBytes := 0, observedAt := 0, anomalyCount := 0 }
  | .outbox, row => { row with
      status := .pending, attempts := 0, nextAttemptAt := 0, claimedBy := none, claimedAt := none
      lastError := none }
  | .actors, row => { row with displayName := "", status := .active }
  | .fundingRequests, row => { row with status := .pending, decidedBy := none, decidedAt := none }
  | .orders, row => { row with
      status := .pending, creditLimitIrr := 0, pricePerGibIrr := 0, amountIrr := 0
      paymentInstructions := "", adminUsername := "", pgAdminId := none, organizationId := none
      decidedBy := none, decidedAt := none, rejectionReason := "" }
  | .settings, row => { row with value := "" }
  | .approvals, row => { row with
      status := .pending, approverId := none, decidedAt := none, decisionNote := none }
  | .closures, row | .contracts, row | .transactions, row | .entries, row | .panelOwners, row
  | .usages, row | .memberships, row | .auditLogs, row => row

/-- Assigning columns leaves the others. -/
theorem Table.frozen_change {table : Table} (columns : table.Change) (row : table.Row) :
    Table.frozen (Table.change columns row) = Table.frozen row := by
  cases table <;> first | rfl | exact nomatch columns

/-- What a row is about is still on record. -/
def Remembered {table : Table} (row : table.Row) (db : Db) : Prop :=
  ∃ later ∈ db.rows table, Table.frozen later = Table.frozen row

/-- A binding that is suspended stays so, and none is taken back into use. -/
structure Binding.Follows (row later : Binding) : Prop where
  same : later = { row with status := later.status }
  suspended : row.status = .suspended → later.status = .suspended
  active : later.status = .active → row.status = .active

theorem Binding.Follows.refl (row : Binding) : row.Follows row :=
  ⟨rfl, fun out => out, fun used => used⟩

theorem Binding.Follows.trans {first second third : Binding} (early : first.Follows second)
    (late : second.Follows third) : first.Follows third where
  same := by
    rw [late.same, early.same]
  suspended := late.suspended ∘ early.suspended
  active := early.active ∘ late.active

/-- Nothing but the catalog is forgotten, and no binding is taken back into use. -/
structure OnRecord (db later : Db) : Prop where
  remembered : ∀ table : Table, table ≠ .planCategories → table ≠ .plans →
    ∀ row ∈ db.rows table, Remembered row later
  bindings : ∀ row ∈ db.bindings, ∃ kept ∈ later.bindings, row.Follows kept

namespace OnRecord

theorem refl (db : Db) : OnRecord db db where
  remembered _ _ _ row member := ⟨row, member, rfl⟩
  bindings row member := ⟨row, member, .refl row⟩

theorem trans {first second third : Db} (early : OnRecord first second)
    (late : OnRecord second third) : OnRecord first third where
  remembered table notCategory notPlan row member := by
    obtain ⟨middle, present, same⟩ := early.remembered table notCategory notPlan row member
    obtain ⟨last, there, its⟩ := late.remembered table notCategory notPlan middle present
    exact ⟨last, there, its.trans same⟩
  bindings row member := by
    obtain ⟨middle, present, follows⟩ := early.bindings row member
    obtain ⟨last, there, later⟩ := late.bindings middle present
    exact ⟨last, there, follows.trans later⟩

/-- An orderly statement forgets nothing. -/
theorem apply {packages : Packages} {statement : Database.Write} {db : Db}
    (orderly : Orderly packages statement) : OnRecord db (statement.apply db) where
  remembered table notCategory notPlan row member := by
    obtain ⟨later, last, rfl | ⟨key, columns, _, _, rfl⟩⟩ :=
      @Layout.Statement.fate layout table statement _ _ member fun key same => by
        subst same
        exact absurd (show _ ∨ _ from orderly) (not_or.mpr ⟨notCategory, notPlan⟩)
    · exact ⟨later, last, rfl⟩
    · exact ⟨_, last, Table.frozen_change columns row⟩
  bindings row member := by
    obtain ⟨later, last, rfl | ⟨key, columns, rfl, _, rfl⟩⟩ :=
      @Layout.Statement.fate layout Table.bindings statement _ _ member fun key same => by
        subst same
        exact absurd (show _ ∨ _ from orderly) (by decide)
    · exact ⟨later, last, .refl later⟩
    · have suspends : columns.status = some .suspended := orderly
      have last : (@Table.change .bindings columns row).status = .suspended := by
        change columns.status.getD row.status = .suspended
        rw [suspends]
        rfl
      refine ⟨_, ‹_›, rfl, fun _ => last, fun used => ?_⟩
      rw [last] at used
      cases used

end OnRecord

/-- Everything but the catalog is still on record. -/
def Db.Retained (db later : Db) : Prop :=
  ∀ table : Table, table ≠ .planCategories → table ≠ .plans →
    ∀ row ∈ db.rows table, Remembered row later

theorem Db.Retained.refl (db : Db) : db.Retained db :=
  (OnRecord.refl db).remembered

theorem Db.Retained.trans {first second third : Db} (early : first.Retained second)
    (late : second.Retained third) : first.Retained third := by
  intro table notCategory notPlan row member
  obtain ⟨middle, present, same⟩ := early table notCategory notPlan row member
  obtain ⟨last, there, its⟩ := late table notCategory notPlan middle present
  exact ⟨last, there, its.trans same⟩

section

variable {log : List Database.Write} {db : Db}

/-- Deleting only from the catalog retains the rest. -/
theorem Db.Retained.replay
    (catalog : ∀ table key, .delete table key ∈ log → table = .planCategories ∨ table = .plans) :
    db.Retained (replay (S := Database) log db) := by
  intro table notCategory notPlan row member
  exact @Layout.fate_replay layout table Query Query.Answer
    (fun row later => Table.frozen later = Table.frozen row) (fun _ => rfl)
    (fun early late => late.trans early) log db row
    (fun key among => absurd (catalog table key among) (not_or.mpr ⟨notCategory, notPlan⟩))
    (fun _ columns _ row _ => Table.frozen_change columns row) member

/-- An inserted row of another table than the catalog is there afterwards. -/
theorem Remembered.inserted
    (catalog : ∀ table key, .delete table key ∈ log → table = .planCategories ∨ table = .plans)
    {table : Table} (notCategory : table ≠ .planCategories) (notPlan : table ≠ .plans)
    {row : table.Row} (inserted : .insert table row ∈ log) :
    Remembered row (ReadCommitted.replay (S := Database) log db) :=
  @Layout.fate_inserted layout Query Query.Answer table
    (fun row later => Table.frozen later = Table.frozen row) (fun _ => rfl)
    (fun early late => late.trans early) log row inserted
    (fun key among => absurd (catalog table key among) (not_or.mpr ⟨notCategory, notPlan⟩))
    (fun _ columns _ row _ => Table.frozen_change columns row) db

/-- What is still on record of an organization. -/
theorem Remembered.organization {row : Organization}
    (remembered : @Remembered .organizations row db) :
    ∃ kept ∈ db.organizations, kept = { row with status := kept.status } := by
  obtain ⟨kept, member, same⟩ := remembered
  refine ⟨kept, member, ?_⟩
  have columns := Organization.mk.inj same
  obtain ⟨id, parent, name, slug, _, credit, depth⟩ := columns
  cases kept
  simp_all

/-- Rows without columns that are assigned to are still there. -/
theorem Remembered.fixed {table : Table} (fixed : ∀ row : table.Row, Table.frozen row = row)
    {row : table.Row} (remembered : Remembered row db) : row ∈ db.rows table := by
  obtain ⟨kept, member, same⟩ := remembered
  rw [fixed, fixed] at same
  exact same ▸ member

end

/-- The discipline of all sessions. -/
def orderly (packages : Packages) : Discipline Database where
  Kind := Orderly packages
  inv _ := True
  le := OnRecord
  le_refl := OnRecord.refl
  le_trans := OnRecord.trans
  inv_apply _ _ := trivial
  le_apply := OnRecord.apply

section

variable {packages : Packages}

instance : Everyday (orderly packages).Kind where
  daily statement daily := by
    cases statement with
    | insert table row => cases table <;> trivial
    | update table key columns =>
        cases table with
        | bindings => exact absurd (show _ ∨ _ from daily) (by decide)
        | _ => trivial
    | delete table key => exact daily

instance : Admitted (orderly packages).Kind .outbox := ⟨fun _ => trivial, fun _ _ => trivial⟩
instance : Insertable (orderly packages).Kind .contracts := ⟨fun _ => trivial⟩
instance : Admitted (orderly packages).Kind .transactions := ⟨fun _ => trivial, nofun⟩
instance : Admitted (orderly packages).Kind .entries := ⟨fun _ => trivial, nofun⟩
instance : Admitted (orderly packages).Kind .usages := ⟨fun _ => trivial, nofun⟩
instance : Insertable (orderly packages).Kind .organizations := ⟨fun _ => trivial⟩
instance : Insertable (orderly packages).Kind .planCategories := ⟨fun _ => trivial⟩
instance : Insertable (orderly packages).Kind .plans := ⟨fun _ => trivial⟩
instance : Insertable (orderly packages).Kind .bindings := ⟨fun _ => trivial⟩
instance : Insertable (orderly packages).Kind .fundingRequests := ⟨fun _ => trivial⟩
instance : Insertable (orderly packages).Kind .orders := ⟨fun _ => trivial⟩
instance : Amended (orderly packages).Kind .organizations := ⟨fun _ _ => trivial⟩
instance : Amended (orderly packages).Kind .panels := ⟨fun _ _ => trivial⟩
instance : Amended (orderly packages).Kind .orders := ⟨fun _ _ => trivial⟩
instance : Admitted (orderly packages).Kind .approvals := ⟨fun _ => trivial, fun _ _ => trivial⟩
instance : Enrolls (orderly packages).Kind .resellerAdmin := ⟨fun _ _ _ _ => by rintro ⟨⟩⟩
instance : Enrolls (orderly packages).Kind .customer := ⟨fun _ _ _ _ => by rintro ⟨⟩⟩
instance : Registers (orderly packages).Kind packages := ⟨fun _ guarded _ => guarded⟩
instance : Suspends (orderly packages).Kind := ⟨fun _ => rfl⟩

end

/-! ## Sessions -/

section

variable {packages : Packages}

instance : OffPanel (orderly packages).agreement := ⟨fun _ _ => trivial⟩

theorem orderly_meets (program : Op α) [(orderly packages).Keeps program] :
    (orderly packages).agreement.Meets (served program) :=
  Sustains.meets _ (orderly packages).Kind (orderly packages).law _

instance (changes : List (Id × OutboxColumns)) : (orderly packages).Keeps (moveEvents changes) := by
  unfold moveEvents
  infer_instance

/-- Every session of the system keeps to orderly statements. -/
theorem SystemOperation.meets_orderly {env : Env} {traffic : Traffic}
    {program : Prog Database (Except Failure Unit)}
    (operation : SystemOperation env packages traffic program) :
    (orderly packages).agreement.Meets program := by
  cases operation with
  | bindActor data assignable =>
      have enrolls : Enrolls (orderly packages).Kind data.role :=
        ⟨fun _ _ _ _ => mem_assignableRoles.mp assignable⟩
      exact orderly_meets _
  | confirmOrder identity orderId => exact orderly_meets (customerRoute env identity orderId _)
  | declarePayment identity orderId => exact orderly_meets (customerRoute env identity orderId _)
  | cancelOrder identity orderId => exact orderly_meets (customerRoute env identity orderId _)
  | webCategoryStatus identity categoryId status =>
      exact orderly_meets (catalogStatusRoute env identity .category categoryId status)
  | webPlanStatus identity planId status =>
      exact orderly_meets (catalogStatusRoute env identity .plan planId status)
  | handle handler event handles =>
      have kept : (orderly packages).Keeps (handler event) := sustains_handler handles event
      exact orderly_meets (handler event)
  | _ => exact orderly_meets _

end

/-! ## Runs -/

section

variable {ι : Type} [DecidableEq ι] {env : Env} {packages : Packages} {traffic : Traffic}
  {store : Db} {world : World Database ι (Except Failure Unit)}

/-- Every statement that is ever committed is orderly. -/
theorem orderly_commits
    (reached : World.Reachable (SystemOperation env packages traffic) store world)
    {committed : Committed Database} (member : committed ∈ world.commits) :
    ∀ statement ∈ committed.log, Orderly packages statement :=
  ((orderly packages).commits (fun _ operation => operation.meets_orderly) trivial reached member).2

/-- Whatever is on record stays on record, but for the catalog; and suspended bindings stay
suspended. -/
theorem history_kept (reached : World.Reachable (SystemOperation env packages traffic) store world)
    {earlier : Db} (past : World.Past store world earlier) : OnRecord earlier world.store :=
  (orderly packages).le_since (fun _ operation => operation.meets_orderly) trivial reached past

/-- A binding that is put on hold is suspended, and everything else is on record. -/
theorem history_kept_hold :
    ∃ world : World Database Unit (Except Failure Unit),
      World.Reachable (SystemOperation Sample.env Sample.packages (.ofCallers fun _ => True))
          Sample.workspace world ∧
        (world.store.bindings.map Binding.status = [.suspended] ∧
          OnRecord Sample.workspace world.store) := by
  obtain ⟨world, reached, same⟩ := World.reachable_run () Sample.answers
    (SystemOperation.handle (handleBillingHold Sample.env)
      ⟨"event", "billing.hold_required", "binding", .hold "shop" 0, .claimed, 0, 0, none, none, none⟩
      rfl : SystemOperation Sample.env Sample.packages (.ofCallers fun _ => True) _) Sample.workspace
  refine ⟨world, reached, ?_, history_kept reached (.inl rfl)⟩
  rw [same]
  decide +kernel

/-! ### Credentials -/

/-- Every stored credential stays sealed. -/
theorem guarded_panels
    (reached : World.Reachable (SystemOperation env packages traffic) store world)
    (opening : ∀ panel ∈ store.panels, panel.Guarded packages) :
    ∀ panel ∈ Db.panels world.store, panel.Guarded packages := by
  refine World.holds_of_commits
    (motive := fun db : Db => ∀ panel ∈ db.panels, panel.Guarded packages) reached opening
    fun committed member before panel present => ?_
  have orderly := orderly_commits reached member
  exact @Layout.every_replay layout Table.panels Query Query.Answer
    (fun panel : Panel => panel.Guarded packages) committed.log
    (fun row among => orderly _ among)
    (fun _ _ _ _ _ guarded => ⟨guarded.apiKey, guarded.ownerUser, guarded.ownerPass⟩)
    committed.before before panel present

/-- Once the package decrypts its own tokens, every credential that is ever stored resolves, and
to what no variable of the environment has a say in. -/
theorem credentials_resolve
    (reached : World.Reachable (SystemOperation env packages traffic) store world)
    (opening : ∀ panel ∈ store.panels, panel.Guarded packages)
    {decrypt : String → Option String}
    (inverse : ∀ value token, packages.encrypt value = some token → decrypt token = some value)
    {panel : Panel} (present : panel ∈ Db.panels world.store) {reference : Option String}
    (its : reference ∈ [panel.apiKeyRef, panel.ownerUserRef, panel.ownerPassRef]) :
    ∃ value, ∀ environment, resolveSecret environment decrypt reference = .ok value := by
  have guarded := guarded_panels reached opening panel present
  simp only [List.mem_cons, List.not_mem_nil, or_false] at its
  rcases its with rfl | rfl | rfl
  · exact guarded.apiKey.resolves inverse
  · exact guarded.ownerUser.resolves inverse
  · exact guarded.ownerPass.resolves inverse

/-- The key of a server that a seller registers is stored as a token. -/
theorem credentials_resolve_registered :
    ∃ world : World Database Unit (Except Failure Unit),
      World.Reachable (SystemOperation Sample.env Sample.packages (.ofCallers fun _ => True))
          Sample.workspace world ∧
        ∃ panel ∈ Db.panels world.store, panel.apiKeyRef = some "enc://yek" ∧
          ∃ value, ∀ environment, resolveSecret environment
            (fun token => some (String.ofList token.toList.reverse)) panel.apiKeyRef = .ok value := by
  have quiet : (World.initial Sample.workspace : World Database Unit (Except Failure Unit)).Quiet :=
    fun _ => rfl
  obtain ⟨first, reached, quiet, hired⟩ := quiet_served quiet .refl () Sample.answers
    (SystemOperation.bindActor ⟨11, "Seller", "shop", .resellerAdmin⟩ (by decide) :
      SystemOperation Sample.env Sample.packages (.ofCallers fun _ => True) _)
  obtain ⟨last, reached, _, registered⟩ := quiet_served quiet reached () (Sample.answersFrom 9)
    (SystemOperation.webCreatePanel ⟨11, "Seller"⟩
      ⟨"Second", "https://two", "key", none, none, none, none, 10000, true⟩ trivial)
  have stored : (Db.panels last.store).map Panel.apiKeyRef = [none, some "enc://yek"] := by
    rw [registered, hired]
    decide +kernel
  obtain ⟨panel, present, key⟩ : ∃ panel ∈ Db.panels last.store,
      panel.apiKeyRef = some "enc://yek" := by
    rw [← List.mem_map, stored]
    exact List.mem_cons_of_mem _ List.mem_cons_self
  refine ⟨last, reached, panel, present, key, ?_⟩
  refine credentials_resolve reached ?_ ?_ present List.mem_cons_self
  · intro panel member
    rw [List.mem_singleton.mp member]
    exact ⟨sealed_none _, sealed_none _, sealed_none _⟩
  · rintro value token ⟨⟩
    simp

end

end ControlPlane
