import ControlPlane.Ledger.Runs
import ControlPlane.Sustaining
import ControlPlane.WebApi.Servers

/-!
# Creations in the audit log

An operation that creates a row commits an audit row that names it, where the
operation writes the audit row after the flush that assigned the id. Until it
does, it owes the audit log the name of the row.
-/

namespace ControlPlane

open ReadCommitted Orm

/-! ## Logs -/

/-- The kind and the id of the row that a statement creates. -/
def created : Database.Write → Option (String × Id)
  | .insert .organizations row => some ("organization", row.id)
  | .insert .panels row => some ("panel", row.id)
  | .insert .bindings row => some ("binding", row.id)
  | .insert .fundingRequests row => some ("funding_request", row.id)
  | .insert .orders row => some ("panel_order", row.id)
  | .insert .planCategories row => some ("plan_category", row.id)
  | .insert .plans row => some ("plan", row.id)
  | _ => none

/-- What an audit row is about. -/
def audited : Database.Write → Option (String × Id)
  | .insert .auditLogs row => some (row.targetType, row.targetId)
  | _ => none

/-- Every creation in a log is named by an audit row of the log, except for one that is owed. -/
def Traced (owed : Option (String × Id)) (log : List Database.Write) : Prop :=
  ∀ statement ∈ log, ∀ target, created statement = some target →
    owed = some target ∨ ∃ entry ∈ log, audited entry = some target

/-- A statement that creates no row the audit log has to name. -/
def Uncreating (statement : Database.Write) : Prop := created statement = none

/-- Other statements do not matter. -/
theorem Traced.insert {owed : Option (String × Id)} {statement : Database.Write}
    (uncreating : Uncreating statement) {first last : List Database.Write}
    (traced : Traced owed (first ++ last)) : Traced owed (first ++ statement :: last) := by
  intro other member target creates
  have among : other ∈ first ++ last := by
    rcases List.mem_append.mp member with early | late
    · exact List.mem_append_left last early
    · rcases List.mem_cons.mp late with rfl | late
      · exact absurd (creates.symm.trans uncreating) (by simp)
      · exact List.mem_append_right first late
  refine (traced other among target creates).imp_right ?_
  rintro ⟨entry, present, names⟩
  refine ⟨entry, ?_, names⟩
  rcases List.mem_append.mp present with early | late
  · exact List.mem_append_left _ early
  · exact List.mem_append_right _ (List.mem_cons_of_mem _ late)

/-- A creation is owed from then on. -/
theorem Traced.create {log : List Database.Write} (traced : Traced none log)
    {statement : Database.Write} {target : String × Id} (creates : created statement = some target) :
    Traced (some target) (log ++ [statement]) := by
  intro other member named own
  rcases List.mem_append.mp member with old | new
  · obtain ⟨entry, present, names⟩ := (traced other old named own).resolve_left (by rintro ⟨⟩)
    exact .inr ⟨entry, List.mem_append_left _ present, names⟩
  · rw [List.mem_singleton.mp new, creates] at own
    exact .inl own

/-- An audit row is no creation. -/
theorem uncreating_of_audited {entry : Database.Write} {target : String × Id}
    (names : audited entry = some target) : Uncreating entry := by
  cases entry with
  | insert table row =>
      cases table with
      | auditLogs => rfl
      | _ => exact absurd names (by rintro ⟨⟩)
  | update table key columns => rfl
  | delete table key => rfl

/-- The audit row settles what was owed. -/
theorem Traced.settle {log : List Database.Write} {target : String × Id}
    (traced : Traced (some target) log) {entry : Database.Write}
    (names : audited entry = some target) : Traced none (log ++ [entry]) := by
  intro other member named own
  have last : entry ∈ log ++ [entry] := List.mem_append_right log (List.mem_singleton_self entry)
  rcases List.mem_append.mp member with old | new
  · rcases traced other old named own with owed | ⟨earlier, present, found⟩
    · exact .inr ⟨entry, last, names.trans owed⟩
    · exact .inr ⟨earlier, List.mem_append_left _ present, found⟩
  · rw [List.mem_singleton.mp new, uncreating_of_audited names] at own
    exact absurd own (by rintro ⟨⟩)

/-- Audit rows are never changed and never deleted. -/
theorem mem_auditLogs_apply {row : AuditLog} {db : Db} (statement : Database.Write)
    (kept : row ∈ db.auditLogs ∨ statement = .insert .auditLogs row) :
    row ∈ Db.rows (statement.apply db) .auditLogs := by
  by_cases off : Table.auditLogs = Layout.Statement.table statement
  · cases statement with
    | insert table other =>
        obtain rfl : table = Table.auditLogs := off.symm
        rw [show Db.rows ((Layout.Statement.insert (L := layout) .auditLogs other).apply db)
          .auditLogs = db.auditLogs ++ [other] from
            Layout.Statement.rows_apply_insert (L := layout) .auditLogs other db]
        rcases kept with old | new
        · exact List.mem_append_left _ old
        · obtain rfl : other = row := by injection new
          exact List.mem_append_right _ (List.mem_singleton_self other)
    | update table key columns =>
        obtain rfl : table = Table.auditLogs := off.symm
        exact columns.elim
    | delete table key =>
        obtain rfl : table = Table.auditLogs := off.symm
        rw [show Db.rows ((Layout.Statement.delete (L := layout) .auditLogs key).apply db)
          .auditLogs = db.auditLogs.filter _ from
            Layout.Statement.rows_apply_delete (L := layout) .auditLogs key db]
        exact List.mem_filter.mpr ⟨kept.resolve_right (by rintro ⟨⟩), rfl⟩
  · rw [show Db.rows (statement.apply db) .auditLogs = db.auditLogs from
      Layout.Statement.rows_apply_of_ne (L := layout) db off]
    refine kept.resolve_right ?_
    rintro rfl
    exact off rfl

/-- The audit rows that a log writes are there afterwards, with the ones that were there. -/
theorem mem_auditLogs_replay {row : AuditLog} {log : List Database.Write} {db : Db}
    (kept : row ∈ db.auditLogs ∨ .insert .auditLogs row ∈ log) :
    row ∈ Db.auditLogs (replay (S := Database) log db) := by
  induction log generalizing db with
  | nil => exact kept.resolve_right List.not_mem_nil
  | cons statement log inductionHypothesis =>
      refine @inductionHypothesis (statement.apply db) ?_
      rcases kept with old | written
      · exact .inl (mem_auditLogs_apply statement (.inl old))
      · rcases List.mem_cons.mp written with own | later
        · exact .inl (mem_auditLogs_apply statement (.inr own.symm))
        · exact .inr later

/-! ## Sessions -/

/-- Every commit names what it creates. -/
def auditAgreement : Agreement Database where
  inv _ := True
  le _ _ := True
  commit _ log _ := Traced none log
  le_refl _ := trivial
  le_trans _ _ := trivial
  inv_replay _ _ _ := trivial

/-- The law of a session that still owes a name. -/
def tracedLaw (owed : Option (String × Id)) : Law Database := fun _ log _ => Traced owed log

instance : auditAgreement.Shared where
  le_replay _ _ _ := trivial

instance : auditAgreement.Unrestricted := ⟨id⟩

instance : OffPanel auditAgreement := ⟨fun _ _ => trivial⟩

instance (query : Query) : auditAgreement.Asks query := ⟨trivial⟩

instance (owed : Option (String × Id)) : auditAgreement.Starts Uncreating (tracedLaw owed) where
  held _ traced := traced
  benign uncreating traced := Traced.insert uncreating traced
  nil _ := by rintro _ ⟨⟩

instance : auditAgreement.Sanctions Uncreating (tracedLaw none) where
  held _ traced := traced
  benign uncreating traced := Traced.insert uncreating traced
  nil _ := by rintro _ ⟨⟩
  commit _ _ traced := traced

instance : Admitted Uncreating .closures := ⟨fun _ => rfl, fun _ _ => rfl⟩
instance : Admitted Uncreating .contracts := ⟨fun _ => rfl, fun _ _ => rfl⟩
instance : Admitted Uncreating .accounts := ⟨fun _ => rfl, fun _ _ => rfl⟩
instance : Admitted Uncreating .transactions := ⟨fun _ => rfl, fun _ _ => rfl⟩
instance : Admitted Uncreating .entries := ⟨fun _ => rfl, fun _ _ => rfl⟩
instance : Admitted Uncreating .panelOwners := ⟨fun _ => rfl, fun _ _ => rfl⟩
instance : Admitted Uncreating .checkpoints := ⟨fun _ => rfl, fun _ _ => rfl⟩
instance : Admitted Uncreating .usages := ⟨fun _ => rfl, fun _ _ => rfl⟩
instance : Admitted Uncreating .outbox := ⟨fun _ => rfl, fun _ _ => rfl⟩
instance : Admitted Uncreating .actors := ⟨fun _ => rfl, fun _ _ => rfl⟩
instance : Admitted Uncreating .memberships := ⟨fun _ => rfl, fun _ _ => rfl⟩
instance : Admitted Uncreating .settings := ⟨fun _ => rfl, fun _ _ => rfl⟩
instance : Admitted Uncreating .auditLogs := ⟨fun _ => rfl, fun _ _ => rfl⟩
instance : Admitted Uncreating .approvals := ⟨fun _ => rfl, fun _ _ => rfl⟩

instance (table : Table) : Amended Uncreating table := ⟨fun _ _ => rfl⟩

/-- A program whose commits name what they create. -/
def Traces (program : Op α) : Prop :=
  ∀ point, Due auditAgreement (tracedLaw none) point →
    program.wp auditAgreement (fun _ _ => True) point

/-- A session of such a program meets the agreement. -/
theorem Traces.meets {program : Op α} (traces : Traces program) :
    auditAgreement.Meets (served program) :=
  Agreement.meets_session fun _ invariant =>
    wp_seq _ (traces _ (.fresh Uncreating invariant)) (fun _ _ _ => trivial) fun _ _ _ => trivial

section

variable {point : Point Database}

/-- A row is created, and its name is owed to the audit log. -/
theorem due_create (statement : Database.Write) {target : String × Id}
    (creates : created statement = some target)
    (due : Due auditAgreement (tracedLaw none) point) :
    Due auditAgreement (tracedLaw (some target))
      { point with pending := point.pending ++ [statement] } :=
  due.add fun _ _ traced => by
    unfold tracedLaw
    rw [← List.append_assoc]
    exact traced.create creates

/-- The audit row is written. -/
theorem wp_audit_bind {action targetType targetId : String} {actorId organizationId : Option Id}
    {rest : Unit → Op α} {post : Except Failure α → Point Database → Prop}
    (due : Due auditAgreement (tracedLaw (some (targetType, targetId))) point)
    (continues : ∀ later, Due auditAgreement (tracedLaw none) later →
      (rest ()).wp auditAgreement post later) :
    (audit action targetType targetId actorId organizationId >>= rest).wp auditAgreement post
      point := by
  unfold audit
  rw [wp_insert_bind]
  refine continues _ (due.add fun _ _ traced => ?_)
  unfold tracedLaw
  rw [← List.append_assoc]
  exact Traced.settle traced rfl

/-- What a creation leaves to be named, if it succeeds. -/
def Owes (kind : String) : Except Failure Id → Point Database → Prop
  | .ok id, later => Due auditAgreement (tracedLaw (some (kind, id))) later
  | .error _, _ => True

/-- Hanging an organization below its parent. -/
theorem wp_openChild_owes (parentId : Id) (name slug : String) (creditLimitIrr pricePerGibIrr : Int)
    (due : Due auditAgreement (tracedLaw none) point) :
    (openChild parentId name slug creditLimitIrr pricePerGibIrr).wp auditAgreement
      (Owes "organization") point := by
  unfold openChild
  rw [wp_uid_bind]
  intro id
  rw [wp_insert_bind]
  have owing := due_create (.insert .organizations
    ⟨id.1, some parentId, name, slug, .active, creditLimitIrr, 5⟩) rfl due
  refine wp_seq _ (wp_sustains Uncreating _ owing) (fun _ _ owing => ?_) fun _ _ _ => trivial
  refine wp_seq _ (wp_sustains Uncreating _ owing) (fun _ _ owing => ?_) fun _ _ _ => trivial
  refine wp_seq _ (wp_sustains Uncreating _ owing) (fun _ _ owing => ?_) fun _ _ _ => trivial
  refine wp_seq _ (wp_sustains Uncreating _ owing) (fun _ _ owing => ?_) fun _ _ _ => trivial
  refine wp_seq _ (wp_sustains Uncreating _ owing) (fun _ _ owing => ?_) fun _ _ _ => trivial
  refine wp_seq _ (wp_sustains Uncreating _ owing) (fun _ _ owing => ?_) fun _ _ _ => trivial
  refine wp_seq _ (wp_sustains Uncreating _ owing) (fun _ _ owing => ?_) fun _ _ _ => trivial
  exact owing

end

/-! ## Operations that name what they create -/

theorem createOrg_traces (env : Env) (data : OrgIn) : Traces (createOrg env data) := by
  intro point due
  unfold createOrg
  refine wp_seq _ (wp_sustains Uncreating _ due) (fun _ _ due => ?_) fun _ _ _ => trivial
  have parented : ∀ point, Due auditAgreement (tracedLaw none) point →
      (orgParent env data).wp auditAgreement
        (fun _ later => Due auditAgreement (tracedLaw none) later) point := by
    intro point due
    unfold orgParent
    exact wp_sustains Uncreating _ due
  refine wp_seq _ (parented _ due) (fun parent _ due => ?_) fun _ _ _ => trivial
  rw [wp_uid_bind]
  intro id
  rw [wp_insert_bind]
  have owing := due_create (.insert .organizations
    ⟨id.1, data.parentId, data.name, data.slug, .active, data.creditLimitIrr, 5⟩) rfl due
  refine wp_seq _ (wp_sustains Uncreating _ owing) (fun _ _ owing => ?_) fun _ _ _ => trivial
  refine wp_seq _ (wp_sustains Uncreating _ owing) (fun _ _ owing => ?_) fun _ _ _ => trivial
  refine wp_seq _ (wp_sustains Uncreating _ owing) (fun _ _ owing => ?_) fun _ _ _ => trivial
  refine wp_seq _ (wp_sustains Uncreating _ owing) (fun _ _ owing => ?_) fun _ _ _ => trivial
  refine wp_audit_bind owing fun _ due => ?_
  exact wp_mono _ (wp_sustains Uncreating _ due) fun _ _ _ => trivial

theorem bootstrapWorkspace_traces (env : Env) (identity : TelegramIdentity) (data : BootstrapIn) :
    Traces (bootstrapWorkspace env identity data) := by
  intro point due
  unfold bootstrapWorkspace
  refine wp_seq _ (wp_sustains Uncreating _ due) (fun _ _ due => ?_) fun _ _ _ => trivial
  refine wp_seq _ (wp_sustains Uncreating _ due) (fun _ _ due => ?_) fun _ _ _ => trivial
  refine wp_seq _ (wp_sustains Uncreating _ due) (fun _ _ due => ?_) fun _ _ _ => trivial
  refine wp_seq _ (wp_sustains Uncreating _ due) (fun _ _ due => ?_) fun _ _ _ => trivial
  rw [wp_uid_bind]
  intro id
  rw [wp_insert_bind]
  have owing := due_create (.insert .organizations
    ⟨id.1, none, data.businessName, data.slug, .active, 0, 5⟩) rfl due
  refine wp_seq _ (wp_sustains Uncreating _ owing) (fun _ _ owing => ?_) fun _ _ _ => trivial
  refine wp_seq _ (wp_sustains Uncreating _ owing) (fun _ _ owing => ?_) fun _ _ _ => trivial
  refine wp_seq _ (wp_sustains Uncreating _ owing) (fun _ _ owing => ?_) fun _ _ _ => trivial
  refine wp_seq _ (wp_sustains Uncreating _ owing) (fun _ _ owing => ?_) fun _ _ _ => trivial
  refine wp_seq _ (wp_sustains Uncreating _ owing) (fun _ _ owing => ?_) fun _ _ _ => trivial
  refine wp_seq _ (wp_sustains Uncreating _ owing) (fun _ _ owing => ?_) fun _ _ _ => trivial
  refine wp_audit_bind owing fun _ due => ?_
  exact wp_mono _ (wp_sustains Uncreating _ due) fun _ _ _ => trivial

theorem webCreateChild_traces (env : Env) (identity : TelegramIdentity) (data : WebChildIn) :
    Traces (webCreateChild env identity data) := by
  intro point due
  unfold webCreateChild
  refine wp_seq _ (wp_sustains Uncreating _ due) (fun caller _ due => ?_) fun _ _ _ => trivial
  refine wp_seq _ (wp_sustains Uncreating _ due) (fun _ _ due => ?_) fun _ _ _ => trivial
  refine wp_seq _ (wp_sustains Uncreating _ due) (fun _ _ due => ?_) fun _ _ _ => trivial
  refine wp_seq _ (wp_openChild_owes _ _ _ _ _ due) (fun id _ owing => ?_) fun _ _ _ => trivial
  refine wp_audit_bind owing fun _ due => ?_
  exact wp_mono _ (wp_sustains Uncreating _ due) fun _ _ _ => trivial

theorem adminCreateReseller_traces (env : Env) (identity : TelegramIdentity)
    (data : AdminResellerIn) : Traces (adminCreateReseller env identity data) := by
  intro point due
  unfold adminCreateReseller
  refine wp_seq _ (wp_sustains Uncreating _ due) (fun caller _ due => ?_) fun _ _ _ => trivial
  refine wp_seq _ (wp_sustains Uncreating _ due) (fun _ _ due => ?_) fun _ _ _ => trivial
  refine wp_seq _ (wp_sustains Uncreating _ due) (fun _ _ due => ?_) fun _ _ _ => trivial
  refine wp_seq _ (wp_sustains Uncreating _ due) (fun _ _ due => ?_) fun _ _ _ => trivial
  refine wp_seq _ (wp_sustains Uncreating _ due) (fun target _ due => ?_) fun _ _ _ => trivial
  refine wp_seq _ (wp_openChild_owes _ _ _ _ _ due) (fun id _ owing => ?_) fun _ _ _ => trivial
  refine wp_seq _ (wp_sustains Uncreating _ owing) (fun _ _ owing => ?_) fun _ _ _ => trivial
  refine wp_seq _ (wp_sustains Uncreating _ owing) (fun _ _ owing => ?_) fun _ _ _ => trivial
  refine wp_audit_bind owing fun _ due => ?_
  exact wp_mono _ (wp_sustains Uncreating _ due) fun _ _ _ => trivial

instance (packages : Packages) (url : String) :
    Sustains auditAgreement Uncreating (tracedLaw none) (validatePanelUrl packages url) := by
  unfold validatePanelUrl
  infer_instance

instance (packages : Packages) (value : Option String) :
    Sustains auditAgreement Uncreating (tracedLaw none) (encryptSecret packages value) := by
  unfold encryptSecret
  infer_instance

/-- Registering a server, where no billing binding comes along with it. -/
theorem webCreatePanel_traces (env : Env) (packages : Packages) (identity : TelegramIdentity)
    (data : WebPanelIn) (unbound : truthy data.pgAdminId = none) :
    Traces (webCreatePanel env packages identity data) := by
  intro point due
  unfold webCreatePanel
  refine wp_seq _ (wp_sustains Uncreating _ due) (fun caller _ due => ?_) fun _ _ _ => trivial
  refine wp_seq _ (wp_sustains Uncreating _ due) (fun _ _ due => ?_) fun _ _ _ => trivial
  refine wp_seq _ (wp_sustains Uncreating _ due) (fun _ _ due => ?_) fun _ _ _ => trivial
  refine wp_seq _ (wp_sustains Uncreating _ due) (fun probe _ due => ?_) fun _ _ _ => trivial
  refine wp_seq _ (wp_sustains Uncreating _ due) (fun _ _ due => ?_) fun _ _ _ => trivial
  refine wp_seq _ (wp_sustains Uncreating _ due) (fun apiKeyRef _ due => ?_) fun _ _ _ => trivial
  refine wp_seq _ (wp_sustains Uncreating _ due) (fun userRef _ due => ?_) fun _ _ _ => trivial
  refine wp_seq _ (wp_sustains Uncreating _ due) (fun passRef _ due => ?_) fun _ _ _ => trivial
  rw [wp_uid_bind]
  intro id
  rw [wp_insert_bind]
  have owing := due_create (.insert .panels
    (panelRow id.1 data apiKeyRef userRef passRef)) rfl due
  refine wp_seq _ (wp_sustains Uncreating _ owing) (fun _ _ owing => ?_) fun _ _ _ => trivial
  refine wp_seq _ (wp_sustains Uncreating _ owing) (fun _ _ owing => ?_) fun _ _ _ => trivial
  rw [unbound]
  refine wp_seq _ (?_ : (branch none (pure ()) _).wp auditAgreement
    (fun _ later => Due auditAgreement (tracedLaw (some ("panel", id.1))) later) _)
    (fun _ _ owing => ?_) fun _ _ _ => trivial
  · exact owing
  refine wp_audit_bind owing fun _ due => ?_
  exact wp_mono _ (wp_sustains Uncreating _ due) fun _ _ _ => trivial

end ControlPlane
