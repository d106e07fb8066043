import ControlPlane.Identity.Callers
import ControlPlane.System.Discipline

/-!
# What is left to the root identity

In a run in which nobody acts with the Telegram id of the root administrator,
no server changes its price, no organization its status, no adjustment is
decided, and every server is registered with its certificate checked.
-/

namespace ControlPlane

open ReadCommitted Orm

/-! ## Statements -/

/-- The statements of sessions that do not act for the root identity. -/
def Unprivileged : Database.Write → Prop
  | .insert .memberships row => row.role ≠ .systemAdmin
  | .insert .panels row => row.verifyTls = true
  | .insert .approvals row => row.status = .pending
  | .update .panels _ columns => columns.usageCoefficient = none
  | .update .organizations _ _ | .update .approvals _ _ => False
  | .delete table _ => table = .planCategories ∨ table = .plans
  | _ => True

/-- Nobody is listed as a system administrator. -/
def Db.Unlisted (db : Db) : Prop := ∀ row ∈ db.memberships, row.role ≠ .systemAdmin

section

variable {statement : Database.Write} {db : Db}

/-- Unprivileged statements list no system administrator. -/
theorem Db.Unlisted.apply (unprivileged : Unprivileged statement) (unlisted : db.Unlisted) :
    Db.Unlisted (statement.apply db) := by
  intro row present
  rcases @Layout.Statement.origin layout Table.memberships statement _ _ present with
    old | rfl | ⟨key, columns, _⟩
  · exact unlisted row old
  · exact unprivileged
  · exact nomatch columns

/-- Unprivileged statements remove nobody. -/
theorem Peopled.apply (unprivileged : Unprivileged statement) :
    Peopled db (statement.apply db) where
  nodes node member := by
    obtain ⟨row, present, rfl⟩ := List.mem_map.mp member
    obtain ⟨later, last, rfl | ⟨key, columns, rfl, _⟩⟩ :=
      @Layout.Statement.fate layout Table.organizations statement _ _ present fun key same => by
        subst same
        exact absurd (show _ ∨ _ from unprivileged) (by decide)
    · exact List.mem_map_of_mem last
    · exact unprivileged.elim
  memberships row present := by
    obtain ⟨later, last, rfl | ⟨_, columns, _⟩⟩ :=
      @Layout.Statement.fate layout Table.memberships statement _ _ present fun key same => by
        subst same
        exact absurd (show _ ∨ _ from unprivileged) (by decide)
    · exact last
    · exact nomatch columns
  actors row present := by
    obtain ⟨later, last, rfl | ⟨key, columns, _, _, rfl⟩⟩ :=
      @Layout.Statement.fate layout Table.actors statement _ _ present fun key same => by
        subst same
        exact absurd (show _ ∨ _ from unprivileged) (by decide)
    · exact ⟨later, last, rfl, rfl⟩
    · exact ⟨_, last, rfl, rfl⟩

end

/-- What only the root identity decides is as it was. -/
structure RootKept (db later : Db) : Prop where
  /-- Servers keep their prices. -/
  panels : ∀ panel ∈ db.panels, ∃ kept ∈ later.panels,
    kept = { panel with saleable := kept.saleable }
  /-- Only servers that were there before may go unchecked. -/
  registered : ∀ panel ∈ later.panels, panel.verifyTls = true ∨
    ∃ before ∈ db.panels, before.id = panel.id ∧ before.verifyTls = panel.verifyTls
  /-- Organizations keep their status. -/
  organizations : db.organizations ⊆ later.organizations
  approvals : db.approvals ⊆ later.approvals
  /-- No new adjustment is decided. -/
  undecided : ∀ approval ∈ later.approvals,
    approval.status = .pending ∨ approval ∈ db.approvals

namespace RootKept

theorem refl (db : Db) : RootKept db db where
  panels panel member := ⟨panel, member, rfl⟩
  registered panel member := .inr ⟨panel, member, rfl, rfl⟩
  organizations := List.Subset.refl _
  approvals := List.Subset.refl _
  undecided _ member := .inr member

theorem trans {first second third : Db} (early : RootKept first second)
    (late : RootKept second third) : RootKept first third where
  panels panel member := by
    obtain ⟨middle, present, same⟩ := early.panels panel member
    obtain ⟨last, there, its⟩ := late.panels middle present
    refine ⟨last, there, ?_⟩
    rw [its, same]
  registered panel member := by
    rcases late.registered panel member with checked | ⟨middle, present, id, trusted⟩
    · exact .inl checked
    · rcases early.registered middle present with checked | ⟨before, there, its, same⟩
      · exact .inl (trusted ▸ checked)
      · exact .inr ⟨before, there, its.trans id, same.trans trusted⟩
  organizations := List.Subset.trans early.organizations late.organizations
  approvals := List.Subset.trans early.approvals late.approvals
  undecided approval member := by
    rcases late.undecided approval member with waiting | present
    · exact .inl waiting
    · exact early.undecided approval present

/-- Unprivileged statements leave the decisions of the root identity alone. -/
theorem apply {statement : Database.Write} {db : Db} (unprivileged : Unprivileged statement) :
    RootKept db (statement.apply db) where
  panels panel member := by
    obtain ⟨later, last, rfl | ⟨key, columns, rfl, _, rfl⟩⟩ :=
      @Layout.Statement.fate layout Table.panels statement _ _ member fun key same => by
        subst same
        exact absurd (show _ ∨ _ from unprivileged) (by decide)
    · exact ⟨later, last, rfl⟩
    · refine ⟨_, last, ?_⟩
      have unpriced : columns.usageCoefficient = none := unprivileged
      change ({ panel with
        usageCoefficient := columns.usageCoefficient.getD panel.usageCoefficient
        saleable := _ } : Panel) = _
      rw [unpriced]
      rfl
  registered panel member := by
    rcases @Layout.Statement.origin layout Table.panels statement _ _ member with
      old | rfl | ⟨key, columns, row, present, rfl, _, rfl⟩
    · exact .inr ⟨panel, old, rfl, rfl⟩
    · exact .inl unprivileged
    · exact .inr ⟨row, present, rfl, rfl⟩
  organizations row present := by
    obtain ⟨later, last, rfl | ⟨key, columns, rfl, _⟩⟩ :=
      @Layout.Statement.fate layout Table.organizations statement _ _ present fun key same => by
        subst same
        exact absurd (show _ ∨ _ from unprivileged) (by decide)
    · exact last
    · exact unprivileged.elim
  approvals row present := by
    obtain ⟨later, last, rfl | ⟨key, columns, rfl, _⟩⟩ :=
      @Layout.Statement.fate layout Table.approvals statement _ _ present fun key same => by
        subst same
        exact absurd (show _ ∨ _ from unprivileged) (by decide)
    · exact last
    · exact unprivileged.elim
  undecided approval member := by
    rcases @Layout.Statement.origin layout Table.approvals statement _ _ member with
      old | rfl | ⟨key, columns, row, present, rfl, _⟩
    · exact .inr old
    · exact .inl unprivileged
    · exact unprivileged.elim

end RootKept

/-- What sessions that do not act for the root identity agree on. -/
def unprivileged : Discipline Database where
  Kind := Unprivileged
  inv := Db.Unlisted
  le db later := Peopled db later ∧ RootKept db later
  le_refl db := ⟨.refl db, .refl db⟩
  le_trans early late := ⟨early.1.trans late.1, early.2.trans late.2⟩
  inv_apply := Db.Unlisted.apply
  le_apply unprivileged := ⟨.apply unprivileged, .apply unprivileged⟩

instance : OffPanel unprivileged.agreement := ⟨fun _ _ => trivial⟩

instance : Populated unprivileged.agreement := ⟨fun le => le.1⟩

instance : Everyday unprivileged.Kind where
  daily statement daily := by
    cases statement with
    | insert table row => cases table <;> trivial
    | update table key columns =>
        cases table with
        | panels => exact daily
        | organizations | approvals => exact absurd (show _ ∨ _ from daily) (by decide)
        | _ => trivial
    | delete table key => exact daily

instance : Admitted unprivileged.Kind .outbox := ⟨fun _ => trivial, fun _ _ => trivial⟩
instance : Insertable unprivileged.Kind .contracts := ⟨fun _ => trivial⟩
instance : Admitted unprivileged.Kind .transactions := ⟨fun _ => trivial, nofun⟩
instance : Admitted unprivileged.Kind .entries := ⟨fun _ => trivial, nofun⟩
instance : Admitted unprivileged.Kind .usages := ⟨fun _ => trivial, nofun⟩
instance : Insertable unprivileged.Kind .organizations := ⟨fun _ => trivial⟩
instance : Insertable unprivileged.Kind .planCategories := ⟨fun _ => trivial⟩
instance : Insertable unprivileged.Kind .plans := ⟨fun _ => trivial⟩
instance : Insertable unprivileged.Kind .bindings := ⟨fun _ => trivial⟩
instance : Insertable unprivileged.Kind .fundingRequests := ⟨fun _ => trivial⟩
instance : Insertable unprivileged.Kind .orders := ⟨fun _ => trivial⟩
instance : Amended unprivileged.Kind .orders := ⟨fun _ _ => trivial⟩
instance : Enrolls unprivileged.Kind .resellerAdmin := ⟨fun _ _ _ _ => by rintro ⟨⟩⟩
instance : Enrolls unprivileged.Kind .customer := ⟨fun _ _ _ _ => by rintro ⟨⟩⟩
instance : Suspends unprivileged.Kind := ⟨fun _ => trivial⟩

/-! ## Callers -/

/-- A permission that only the system administrator holds. -/
def Reserved (permission : Permission) : Prop :=
  ∀ role, can role permission = true → role = .systemAdmin

theorem reserved_decideAdjustment : Reserved .decideAdjustment := fun _ holds =>
  can_decideAdjustment.mp holds

theorem reserved_changeBillingCoefficient : Reserved .changeBillingCoefficient := by
  rintro (_ | _) <;> decide

/-- Without a listed administrator, only the root identity holds a reserved permission. -/
theorem MayAct.root {env : Env} {db : Db} {telegramId : Int} {permission : Permission}
    {actorId organizationId : Id} (may : MayAct env db telegramId permission actorId organizationId)
    (unlisted : db.Unlisted) (reserved : Reserved permission) :
    env.rootTelegramId = some telegramId := by
  obtain ⟨role, acts, allowed⟩ := may
  obtain ⟨membership, present, _, _, _, rfl⟩ := acts.membership
  by_contra other
  have administrator := reserved _ allowed
  rw [effectiveRole, if_neg other] at administrator
  exact unlisted membership present administrator

section

variable {env : Env} {store : Db} {point : Point Database}

/-- The WebApp turns away callers that need a reserved permission. -/
theorem wp_manager_refuses {telegramId : Int} {permission : Permission}
    (other : env.rootTelegramId ≠ some telegramId) (reserved : Reserved permission)
    (rest : Identity → Op α) :
    (manager env telegramId permission >>= rest).wp unprivileged.agreement
      (fun _ later => Due unprivileged.agreement unprivileged.law later) ⟨[], [], [], store⟩ := by
  refine wp_seq _ (wp_manager telegramId permission) ?_ ?_
  · rintro identity later ⟨clean, may⟩
    exact absurd ((may identity rfl).root clean.inv reserved) other
  · rintro exception later ⟨clean, _⟩
    rw [clean.fresh]
    exact .fresh unprivileged.Kind clean.inv

/-- The bot turns away callers that need a reserved permission. -/
theorem wp_permitted_refuses {chatId : Int} {permission : Permission}
    (other : env.rootTelegramId ≠ some chatId) (reserved : Reserved permission)
    (rest : Bot.Context → Op α) :
    (Bot.permitted env chatId permission >>= rest).wp unprivileged.agreement
      (fun _ later => Due unprivileged.agreement unprivileged.law later) ⟨[], [], [], store⟩ := by
  refine wp_seq _ (wp_permitted chatId permission) ?_ ?_
  · rintro caller later ⟨clean, may⟩
    exact absurd ((may caller rfl).root clean.inv reserved) other
  · rintro exception later ⟨clean, _⟩
    rw [clean.fresh]
    exact .fresh unprivileged.Kind clean.inv

/-- The routes of the root identity turn away everybody else. -/
theorem wp_requireRoot_refuses {identity : TelegramIdentity}
    (other : env.rootTelegramId ≠ some identity.userId) (rest : Unit → Op α)
    (due : Due unprivileged.agreement unprivileged.law point) :
    (requireRoot env identity >>= rest).wp unprivileged.agreement
      (fun _ later => Due unprivileged.agreement unprivileged.law later) point := by
  unfold requireRoot
  rw [wp_bind, wp_branch]
  refine ⟨fun _ => due, fun root configured => ?_⟩
  rw [wp_require]
  refine ⟨fun same => absurd (configured.trans (congrArg some same.symm)) other, fun _ => due⟩

end

/-! ## Sessions -/

/-- A session of a program that leaves the law meets the agreement. -/
theorem unprivileged_meets {program : Op α}
    (lawful : ∀ store, unprivileged.inv store → program.wp unprivileged.agreement
      (fun _ later => Due unprivileged.agreement unprivileged.law later) ⟨[], [], [], store⟩) :
    unprivileged.agreement.Meets (served program) :=
  Agreement.meets_session fun store invariant =>
    wp_mono _ (wp_after unprivileged.Kind (lawful store invariant) _) fun _ _ _ => trivial

theorem unprivileged_meets_of_keeps (program : Op α) [unprivileged.Keeps program] :
    unprivileged.agreement.Meets (served program) :=
  unprivileged_meets fun _ invariant =>
    wp_sustains unprivileged.Kind program (.fresh unprivileged.Kind invariant)

instance (packages : Packages) (data : PanelIn) :
    unprivileged.Keeps (createPanel packages data) := by
  have registered : ∀ id : Id, unprivileged.Keeps (insert .panels
      { id, name := data.name, baseUrl := rstrip '/' data.baseUrl, vendor := "pasarguard"
        apiKeyRef := none, ownerUserRef := none, ownerPassRef := none
        usageCoefficient := data.usageCoefficient, verifyTls := true, status := .active
        saleable := false }) := fun id => Sustains.add rfl
  unfold createPanel
  infer_instance

instance (changes : List (Id × OutboxColumns)) : unprivileged.Keeps (moveEvents changes) := by
  unfold moveEvents
  infer_instance

section

variable {env : Env} {packages : Packages} {store : Db}

/-- Adjustments are left to the root identity. -/
theorem adjustLater_keeps (actorId organizationId targetId : Id) (data : AdjustmentIn) :
    unprivileged.Keeps (adjustLater env actorId organizationId targetId data) := by
  have requested : ∀ (id : Id) (time : Time), unprivileged.Keeps (insert .approvals
      { id, requesterId := actorId, approverId := none, action := adjust
        targetType := "organization", targetId, amountIrr := data.amountIrr, note := data.note
        status := .pending, expiresAt := time + env.approvalTtl, decidedAt := none
        decisionNote := none }) := fun id time => Sustains.add rfl
  unfold adjustLater
  infer_instance

theorem wp_requestAdjustment_other {identity : TelegramIdentity}
    (other : env.rootTelegramId ≠ some identity.userId) (data : AdjustmentIn)
    (unlisted : store.Unlisted) :
    (requestAdjustment env identity data).wp unprivileged.agreement
      (fun _ later => Due unprivileged.agreement unprivileged.law later) ⟨[], [], [], store⟩ := by
  have later : ∀ actorId organizationId targetId,
      unprivileged.Keeps (adjustLater env actorId organizationId targetId data) :=
    fun actorId organizationId targetId => adjustLater_keeps actorId organizationId targetId data
  have elsewhere : ¬some identity.userId = env.rootTelegramId := fun same => other same.symm
  unfold requestAdjustment
  simp only [if_neg elsewhere]
  exact wp_sustains unprivileged.Kind _ (.fresh unprivileged.Kind unlisted)

/-- Nobody who calls the WebApp is a system administrator. -/
theorem wp_manager_unlisted (telegramId : Int) (permission : Permission) :
    (manager env telegramId permission).wp unprivileged.agreement (fun result later =>
      Due unprivileged.agreement unprivileged.law later ∧
        ∀ caller, result = .ok caller → caller.membership.role ≠ .systemAdmin)
      ⟨[], [], [], store⟩ := by
  unfold manager
  refine wp_seq _ (wp_membershipFor telegramId) ?_ ?_
  · rintro identity later ⟨clean, acts⟩
    have due : Due unprivileged.agreement unprivileged.law later := by
      rw [clean.fresh]
      exact .fresh unprivileged.Kind clean.inv
    rw [wp_require_bind]
    refine ⟨fun _ => ⟨due, ?_⟩, fun _ => ⟨due, by rintro _ ⟨⟩⟩⟩
    rintro _ ⟨⟩
    obtain ⟨membership, present, _, _, _, same⟩ := (acts identity rfl).membership
    exact same ▸ clean.inv membership present
  · rintro exception later ⟨clean, _⟩
    rw [clean.fresh]
    exact ⟨.fresh unprivileged.Kind clean.inv, by rintro _ ⟨⟩⟩

set_option synthInstance.maxSize 1000000 in
/-- Servers are registered with their certificate checked. -/
theorem wp_webCreatePanel_other {identity : TelegramIdentity}
    (other : env.rootTelegramId ≠ some identity.userId) (data : WebPanelIn) :
    (webCreatePanel env packages identity data).wp unprivileged.agreement
      (fun _ later => Due unprivileged.agreement unprivileged.law later) ⟨[], [], [], store⟩ := by
  unfold webCreatePanel
  refine wp_seq _ (wp_manager_unlisted identity.userId .manageServers) ?_ fun _ _ stopped =>
    stopped.1
  rintro caller later ⟨due, ordinary⟩
  refine wp_seq _ (wp_sustains unprivileged.Kind _ due) (fun _ later due => ?_) fun _ _ due => due
  rw [wp_require_bind]
  refine ⟨fun trusted => ?_, fun _ => due⟩
  have checked : data.verifyTls = true := trusted.resolve_right (by
    rw [effectiveRole, if_neg other]
    exact ordinary caller rfl)
  have registered : ∀ (id : Id) (apiKeyRef ownerUserRef ownerPassRef : Option String),
      unprivileged.Keeps (insert .panels
        (panelRow id data apiKeyRef ownerUserRef ownerPassRef)) :=
    fun id apiKeyRef ownerUserRef ownerPassRef => Sustains.add checked
  have sealing : ∀ value : Option String, unprivileged.Keeps (encryptSecret packages value) := by
    intro value
    unfold encryptSecret
    infer_instance
  exact wp_sustains unprivileged.Kind _ due

end

/-- Nobody acts for the root identity. -/
abbrev Traffic.ofStrangers (env : Env) : Traffic :=
  .ofCallers fun id => env.rootTelegramId ≠ some id

/-- No session that does not act for the root identity needs its privileges. -/
theorem SystemOperation.meets_unprivileged {env : Env} {packages : Packages}
    {program : Prog Database (Except Failure Unit)}
    (operation : SystemOperation env packages (.ofStrangers env) program) :
    unprivileged.agreement.Meets program := by
  cases operation with
  | bindActor data assignable =>
      have enrolls : Enrolls unprivileged.Kind data.role :=
        ⟨fun _ _ _ _ => mem_assignableRoles.mp assignable⟩
      exact unprivileged_meets_of_keeps _
  | webCreatePanel identity data other =>
      exact unprivileged_meets fun _ _ => wp_webCreatePanel_other other data
  | webSetUsageCoefficient identity panelId usageCoefficient other =>
      exact unprivileged_meets fun _ _ =>
        wp_manager_refuses other reserved_changeBillingCoefficient _
  | adminSetResellerStatus identity organizationId other =>
      exact unprivileged_meets fun _ invariant =>
        wp_seq _ (wp_sustains unprivileged.Kind _ (.fresh unprivileged.Kind invariant))
          (fun _ _ due => wp_requireRoot_refuses other _ due) fun _ _ due => due
  | requestAdjustment identity data other =>
      exact unprivileged_meets fun _ => wp_requestAdjustment_other other data
  | decideApproval identity approvalId decision other =>
      exact unprivileged_meets fun _ invariant =>
        wp_seq _ (wp_sustains unprivileged.Kind _ (.fresh unprivileged.Kind invariant))
          (fun _ _ due => wp_requireRoot_refuses other _ due) fun _ _ due => due
  | botDecideApproval chatId approvalId approve other =>
      exact unprivileged_meets fun _ _ => wp_permitted_refuses other reserved_decideAdjustment _
  | confirmOrder identity orderId =>
      exact unprivileged_meets_of_keeps (customerRoute env identity orderId _)
  | declarePayment identity orderId =>
      exact unprivileged_meets_of_keeps (customerRoute env identity orderId _)
  | cancelOrder identity orderId =>
      exact unprivileged_meets_of_keeps (customerRoute env identity orderId _)
  | webCategoryStatus identity categoryId status =>
      exact unprivileged_meets_of_keeps
        (catalogStatusRoute env identity .category categoryId status)
  | webPlanStatus identity planId status =>
      exact unprivileged_meets_of_keeps (catalogStatusRoute env identity .plan planId status)
  | handle handler event handles =>
      have kept : unprivileged.Keeps (handler event) := sustains_handler handles event
      exact unprivileged_meets_of_keeps (handler event)
  | _ => exact unprivileged_meets_of_keeps _

/-! ## Runs -/

section

variable {ι : Type} [DecidableEq ι] {env : Env} {packages : Packages} {traffic : Traffic}
  {store : Db} {world : World Database ι (Except Failure Unit)}

/-- No session lists a system administrator. -/
theorem unlisted_reachable (opening : store.Unlisted)
    (reached : World.Reachable (SystemOperation env packages traffic) store world) :
    Db.Unlisted world.store := by
  refine World.holds_of_commits (motive := Db.Unlisted) reached opening
    fun committed member before row present => ?_
  have orderly := orderly_commits reached member
  exact @Layout.every_replay layout Table.memberships Query Query.Answer
    (fun row : Membership => row.role ≠ .systemAdmin) committed.log
    (fun row among => orderly _ among) (fun _ columns _ => nomatch columns)
    committed.before before row present

/-- Whatever the sessions do, whoever corrects balances or changes the price of a server is the
root identity. -/
theorem reserved_for_root (opening : store.Unlisted)
    (reached : World.Reachable (SystemOperation env packages traffic) store world)
    {telegramId : Int} {permission : Permission} {actorId organizationId : Id}
    (may : MayAct env world.store telegramId permission actorId organizationId)
    (reserved : permission ∈ [.decideAdjustment, .changeBillingCoefficient]) :
    env.rootTelegramId = some telegramId := by
  refine may.root (unlisted_reachable opening reached) ?_
  simp only [List.mem_cons, List.not_mem_nil, or_false] at reserved
  rcases reserved with rfl | rfl
  · exact reserved_decideAdjustment
  · exact reserved_changeBillingCoefficient

/-- The root identity becomes a member of its organization, and may correct balances. -/
theorem reserved_for_root_member :
    ∃ world : World Database Unit (Except Failure Unit),
      World.Reachable (SystemOperation Sample.env Sample.packages (.ofCallers fun _ => True))
          Sample.workspace world ∧
        MayAct Sample.env world.store 1 .decideAdjustment
            "aaaaaaaaaaaaaaaaaaaaaaaaaaaaaaaaaaaa" "root" ∧
          Sample.env.rootTelegramId = some 1 := by
  obtain ⟨world, reached, same⟩ := World.reachable_run () Sample.answers
    (SystemOperation.bindActor ⟨1, "Root", "root", .resellerAdmin⟩ (by decide) :
      SystemOperation Sample.env Sample.packages (.ofCallers fun _ => True) _) Sample.workspace
  have may : MayAct Sample.env world.store 1 .decideAdjustment
      "aaaaaaaaaaaaaaaaaaaaaaaaaaaaaaaaaaaa" "root" := by
    rw [same]
    let account : Actor := ⟨"aaaaaaaaaaaaaaaaaaaaaaaaaaaaaaaaaaaa", 1, "Root", .active⟩
    let membership : Membership := ⟨"bbbbbbbbbbbbbbbbbbbbbbbbbbbbbbbbbbbb", "root",
      "aaaaaaaaaaaaaaaaaaaaaaaaaaaaaaaaaaaa", .resellerAdmin, .active, 0⟩
    refine ⟨.resellerAdmin, ⟨⟨⟨"root", none, 5⟩, ?_, rfl⟩, ⟨account, ?_, rfl, rfl⟩,
      ⟨membership, ?_, rfl, rfl, rfl, rfl⟩⟩, by decide⟩
    all_goals decide +kernel
  refine ⟨world, reached, may, reserved_for_root ?_ reached may (by decide)⟩
  unfold Db.Unlisted
  decide

/-- In a run in which nobody acts for the root identity, what is left to it stays as it was at
any time before, and nobody becomes a system administrator. -/
theorem left_to_root (opening : store.Unlisted)
    (reached : World.Reachable (SystemOperation env packages (.ofStrangers env)) store world) :
    Db.Unlisted world.store ∧
      ∀ earlier, World.Past store world earlier → RootKept earlier world.store :=
  ⟨unprivileged.inv_reachable (fun _ operation => operation.meets_unprivileged) opening reached,
    fun _ past => (unprivileged.le_since (fun _ operation => operation.meets_unprivileged)
      opening reached past).2⟩

/-- An order of a stranger leaves everything to the root identity. -/
theorem left_to_root_order :
    ∃ world : World Database Unit (Except Failure Unit),
      World.Reachable (SystemOperation Sample.env Sample.packages (.ofStrangers Sample.env))
          Sample.workspace world ∧
        world.store.orders.map PanelOrder.businessName = ["Corner"] ∧
          RootKept Sample.workspace world.store := by
  obtain ⟨world, reached, same⟩ := World.reachable_run () Sample.answers
    (SystemOperation.createOrder ⟨12, "Buyer"⟩ ⟨"panel", none, "Corner", 10, 5, ""⟩
        (show Sample.env.rootTelegramId ≠ some 12 by decide) :
      SystemOperation Sample.env Sample.packages (.ofStrangers Sample.env) _) Sample.workspace
  have opening : Sample.workspace.Unlisted := by
    unfold Db.Unlisted
    decide
  refine ⟨world, reached, ?_, (left_to_root opening reached).2 _ (.inl rfl)⟩
  rw [same]
  decide +kernel

end

end ControlPlane
