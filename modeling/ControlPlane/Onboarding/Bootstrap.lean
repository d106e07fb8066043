import ControlPlane.Ledger.Runs
import ControlPlane.Library.Growth
import ControlPlane.Library.Histories
import ControlPlane.Library.Overtaking
import ControlPlane.Library.Undisturbed
import ControlPlane.Sample
import ControlPlane.Sustaining

/-!
# Setting up the workspace once

The setup looks at the beginning whether the workspace is set up, and writes the
mark that it is at the end, by a merge: where the mark has come up meanwhile, it
is overwritten. Of any number of requests at most one founds an organization as
long as nobody commits while a request is between its guard and its merge.
-/

namespace ControlPlane

open ReadCommitted Orm

/-- The setup requests of the root identity with the setup token. -/
inductive BootstrapRequest (env : Env) : Prog Database (Except Failure Unit) → Prop
  | request (identity : TelegramIdentity) (businessName slug : String) :
      env.rootTelegramId = some identity.userId →
      BootstrapRequest env (served (bootstrapWorkspace env identity
        ⟨env.initialSetupToken, businessName, slug⟩))

/-! ## What a request writes -/

/-- Statements about organizations and settings, and deletions. -/
def claims : Database.Write → Bool
  | .insert .organizations _ | .update .organizations _ _ => true
  | .insert .settings _ | .update .settings _ _ => true
  | .delete _ _ => true
  | _ => false

/-- A merge that met a mark sends an assignment. -/
def overwrites : Database.Write → Bool
  | .update .settings _ _ => true
  | _ => false

/-- Statements that neither set up a workspace nor take anything away. -/
def Unclaimed (statement : Database.Write) : Prop := claims statement = false

instance : Admitted Unclaimed .closures := ⟨fun _ => rfl, fun _ _ => rfl⟩
instance : Admitted Unclaimed .accounts := ⟨fun _ => rfl, fun _ _ => rfl⟩
instance : Admitted Unclaimed .actors := ⟨fun _ => rfl, fun _ _ => rfl⟩
instance : Admitted Unclaimed .memberships := ⟨fun _ => rfl, fun _ _ => rfl⟩
instance : Admitted Unclaimed .auditLogs := ⟨fun _ => rfl, fun _ _ => rfl⟩

/-- What a request writes: nothing, or an organization and the mark of the setup, which is a new
row or, where the merge met one, the old row. -/
inductive BootstrapLaw : List Database.Write → Prop
  | none : BootstrapLaw []
  | mark (organizations : List Organization) (row : SystemSetting) : organizations.length ≤ 1 →
      row.key = "bootstrap_complete" →
      BootstrapLaw (organizations.map (.insert .organizations ·) ++ [.insert .settings row])
  | overwrite (organizations : List Organization) (columns : SystemSettingColumns) :
      BootstrapLaw (organizations.map (.insert .organizations ·) ++
        [.update .settings "bootstrap_complete" columns])

/-- The law of a request at its commit. -/
def bootstrapLaw : Law Database := fun _ log _ => BootstrapLaw (log.filter claims)

/-- So far a request has opened at most so many organizations, and set no mark. -/
def unmarkedLaw (count : Nat) : Law Database := fun _ log _ =>
  ∃ organizations : List Organization, organizations.length ≤ count ∧
    log.filter claims = organizations.map (.insert .organizations ·)

/-- All requests keep the constraints of the database and the law. -/
def bootstrapAgreement : Agreement Database where
  inv := Integrity
  le _ _ := True
  commit _ log db := acceptsAll (S := Database) log db = true ∧ BootstrapLaw (log.filter claims)
  le_refl _ := trivial
  le_trans _ _ := trivial
  inv_replay integrity committed _ := Layout.Integrity.replay integrity committed.1

instance : bootstrapAgreement.Shared where
  le_replay _ _ _ := trivial

instance : bootstrapAgreement.Unrestricted := ⟨id⟩

instance : OffPanel bootstrapAgreement := ⟨fun _ _ => trivial⟩

/-- Statements that are not marked do not count. -/
theorem filter_claims {statement : Database.Write} (unclaimed : Unclaimed statement)
    (first last : List Database.Write) :
    (first ++ statement :: last).filter claims = (first ++ last).filter claims := by
  rw [List.filter_append, List.filter_cons_of_neg (by simpa [Unclaimed] using unclaimed),
    ← List.filter_append]

instance (count : Nat) : bootstrapAgreement.Starts Unclaimed (unmarkedLaw count) where
  held _ lawful := lawful
  benign unclaimed lawful := by
    unfold unmarkedLaw at *
    rwa [filter_claims unclaimed]
  nil _ := ⟨[], Nat.zero_le _, rfl⟩

instance : bootstrapAgreement.Sanctions Unclaimed bootstrapLaw where
  held _ lawful := lawful
  benign unclaimed lawful := by
    unfold bootstrapLaw at *
    rwa [filter_claims unclaimed]
  nil _ := .none
  commit _ accepted lawful := ⟨accepted, lawful⟩

section

variable {point : Point Database}

/-- Recording the organization. -/
theorem due_found (organization : Organization)
    (due : Due bootstrapAgreement (unmarkedLaw 0) point) :
    Due bootstrapAgreement (unmarkedLaw 1)
      { point with pending := point.pending ++ [.insert .organizations organization] } :=
  due.add fun _ _ kept => by
    obtain ⟨organizations, none, filtered⟩ := kept
    obtain rfl := List.length_eq_zero_iff.mp (Nat.le_zero.mp none)
    refine ⟨[organization], le_rfl, ?_⟩
    rw [← List.append_assoc, List.filter_append, filtered]
    rfl

/-- Recording the mark. -/
theorem wp_mark (value : String) (due : Due bootstrapAgreement (unmarkedLaw 1) point) :
    (putSetting "bootstrap_complete" value).wp bootstrapAgreement
      (fun _ last => Due bootstrapAgreement bootstrapLaw last) point := by
  unfold putSetting
  rw [wp_get_bind]
  intro seen rely
  rw [wp_branch]
  refine ⟨fun _ => (due.rely rely).add fun _ _ kept => ?_,
    fun _ _ => (due.rely rely).add fun _ _ kept => ?_⟩
  · obtain ⟨organizations, single, filtered⟩ := kept
    unfold bootstrapLaw
    rw [← List.append_assoc, List.filter_append, filtered]
    exact .mark organizations ⟨"bootstrap_complete", value⟩ single rfl
  · obtain ⟨organizations, _, filtered⟩ := kept
    unfold bootstrapLaw
    rw [← List.append_assoc, List.filter_append, filtered]
    exact .overwrite organizations { value := some value }

/-- A request keeps the law when it commits. -/
theorem wp_bootstrap (env : Env) (identity : TelegramIdentity) (data : BootstrapIn)
    (due : Due bootstrapAgreement (unmarkedLaw 0) point) :
    (bootstrapWorkspace env identity data).wp bootstrapAgreement (fun _ _ => True) point := by
  unfold bootstrapWorkspace
  refine wp_seq _ (wp_sustains Unclaimed _ due) (fun _ first due => ?_) fun _ _ _ => trivial
  refine wp_seq _ (wp_sustains Unclaimed _ due) (fun complete second due => ?_)
    fun _ _ _ => trivial
  refine wp_seq _ (wp_sustains Unclaimed _ due) (fun _ third due => ?_) fun _ _ _ => trivial
  refine wp_seq _ (wp_sustains Unclaimed _ due) (fun _ fourth due => ?_) fun _ _ _ => trivial
  rw [wp_uid_bind]
  intro id
  have begun := due_found ⟨id.1, none, data.businessName, data.slug, .active, 0, 5⟩ due
  refine wp_seq _ (?_ : (insert .organizations _).wp _ (fun _ later => Due bootstrapAgreement
    (unmarkedLaw 1) later) fourth) (fun _ fifth due => ?_) fun _ _ _ => trivial
  · exact begun
  refine wp_seq _ (wp_sustains Unclaimed _ due) (fun _ sixth due => ?_) fun _ _ _ => trivial
  refine wp_seq _ (wp_sustains Unclaimed _ due) (fun _ seventh due => ?_) fun _ _ _ => trivial
  refine wp_seq _ (wp_sustains Unclaimed _ due) (fun _ eighth due => ?_) fun _ _ _ => trivial
  refine wp_seq _ (wp_sustains Unclaimed _ due) (fun actorId ninth due => ?_) fun _ _ _ => trivial
  refine wp_seq _ (wp_sustains Unclaimed _ due) (fun _ tenth due => ?_) fun _ _ _ => trivial
  refine wp_seq _ (wp_mark id.1 due) (fun _ last due => ?_) fun _ _ _ => trivial
  exact wp_mono _ (wp_sustains Unclaimed _ due) fun _ _ _ => trivial

end

/-- Every request meets the agreement. -/
theorem BootstrapRequest.meets {env : Env} {program : Prog Database (Except Failure Unit)}
    (request : BootstrapRequest env program) : bootstrapAgreement.Meets program := by
  cases request with
  | request identity businessName slug root =>
      refine Agreement.meets_session fun store integrity => ?_
      refine wp_seq _ (wp_bootstrap env identity _ (.fresh Unclaimed integrity)) ?_
        fun _ _ _ => trivial
      exact fun _ _ _ => trivial

/-! ## A request that nobody overtakes -/

/-- Statements that leave the settings alone. -/
def Unset (statement : Database.Write) : Prop := Table.settings ≠ Layout.Statement.table statement

section

variable {log pending : List Database.Write}

theorem drafts_insert (table : Table) (other : Table.settings ≠ table) (row : table.Row) :
    Drafts Unset (insert table row) :=
  .add other

instance (row : Organization) : Drafts Unset (insert .organizations row) :=
  drafts_insert .organizations nofun row
instance (row : Closure) : Drafts Unset (insert .closures row) :=
  drafts_insert .closures nofun row
instance (row : Actor) : Drafts Unset (insert .actors row) :=
  drafts_insert .actors nofun row
instance (row : Membership) : Drafts Unset (insert .memberships row) :=
  drafts_insert .memberships nofun row
instance (row : AuditLog) : Drafts Unset (insert .auditLogs row) :=
  drafts_insert .auditLogs nofun row
instance (row : Account) :
    Drafts Unset (execute (.insert .accounts row : Database.Write) : Op Bool) :=
  .execute nofun

instance (table : Table) (condition : table.Row → Bool) :
    Drafts (α := no_index (Option table.Row)) Unset (scalar table condition) :=
  inferInstanceAs (Drafts Unset (select _ : Op _))

instance (query : Query) : Drafts (α := no_index query.Answer) Unset (consult query) :=
  inferInstanceAs (Drafts Unset (ask query : Op _))

instance : Drafts Unset uid := by
  unfold uid
  infer_instance

instance : Drafts (α := no_index Time) Unset now :=
  inferInstanceAs (Drafts Unset (consult .now))

instance (owner : String) : Drafts Unset (account owner) := by
  unfold account
  infer_instance

instance (env : Env) (token : String) : Drafts Unset (requireSetupToken env token) := by
  unfold requireSetupToken
  infer_instance

instance (slug message : String) : Drafts Unset (requireFreeSlug slug message) := by
  unfold requireFreeSlug
  infer_instance

instance (telegramId : Int) (displayName : String) :
    Drafts Unset (accountFor telegramId displayName) := by
  unfold accountFor
  infer_instance

instance (organizationId actorId : Id) (role : Role) :
    Drafts Unset (addMembership organizationId actorId role) := by
  unfold addMembership
  infer_instance

/-- Statements that leave the settings alone overwrite no mark. -/
theorem overwrites_of_unset {statement : Database.Write} (unset : Unset statement) :
    overwrites statement = false := by
  cases statement with
  | insert table row => rfl
  | update table key columns =>
      cases table with
      | settings => exact absurd rfl unset
      | _ => rfl
  | delete table key => rfl

/-- The statement that sets the mark for the first time, among others. -/
theorem overwrites_mark {log pending : List Database.Write}
    (logged : ∀ statement ∈ log, Unset statement)
    (recorded : ∀ statement ∈ pending, Unset statement)
    (row : SystemSetting) (entry : AuditLog) :
    (log ++ ((pending ++ [(.insert .settings row : Database.Write)]) ++
      [(.insert .auditLogs entry : Database.Write)])).any overwrites = false := by
  refine List.any_eq_false.mpr fun statement member => ?_
  rw [Bool.not_eq_true]
  simp only [List.mem_append, List.mem_singleton] at member
  rcases member with member | (member | rfl) | rfl
  · exact overwrites_of_unset (logged statement member)
  · exact overwrites_of_unset (recorded statement member)
  · rfl
  · rfl

/-- A request that is not overtaken finds no mark when it sets its own. -/
theorem undisturbed_bootstrap (env : Env) (identity : TelegramIdentity) (data : BootstrapIn)
    (db : Db) :
    undisturbed (fun log => log.any overwrites = false) (bootstrapWorkspace env identity data)
      (fun _ _ _ _ => True) [] [] db := by
  have fresh := List.forall_mem_nil Unset
  unfold bootstrapWorkspace
  refine undisturbed_drafts_bind fresh fresh fun _ log pending logged recorded => ?_
  refine (undisturbed_select_bind _ _).mpr ?_
  rw [undisturbed_require_bind]
  refine ⟨fun unmarked => ?_, fun _ => trivial⟩
  rw [Db.find_replay_of_ne logged] at unmarked
  refine undisturbed_drafts_bind logged recorded fun _ log pending logged recorded => ?_
  refine undisturbed_drafts_bind logged recorded fun id log pending logged recorded => ?_
  refine undisturbed_drafts_bind logged recorded fun _ log pending logged recorded => ?_
  refine undisturbed_drafts_bind logged recorded fun _ log pending logged recorded => ?_
  refine undisturbed_drafts_bind logged recorded fun _ log pending logged recorded => ?_
  refine undisturbed_drafts_bind logged recorded fun _ log pending logged recorded => ?_
  refine undisturbed_drafts_bind logged recorded fun actorId log pending logged recorded => ?_
  refine undisturbed_drafts_bind logged recorded fun _ log pending logged recorded => ?_
  -- The merge: nobody has set the mark since the guard.
  unfold putSetting
  rw [undisturbed_bind]
  refine (undisturbed_select_bind _ _).mpr ?_
  rw [Db.find_replay_of_ne logged, unmarked]
  refine (undisturbed_branch _ _ _).mpr ⟨fun _ => ?_, fun _ marked => nomatch marked⟩
  refine (undisturbed_add _).mpr ?_
  dsimp only
  rw [undisturbed_bind]
  refine (undisturbed_add _).mpr ?_
  dsimp only
  rw [undisturbed_bind]
  refine undisturbed_mono (undisturbed_commit (S := Database) (ε := Failure) ?_ db)
    fun result _ _ _ _ => ?_
  · exact overwrites_mark logged recorded _ _
  · cases result <;> trivial

end

/-- A request that is not overtaken overwrites no mark. -/
theorem BootstrapRequest.undisturbed {env : Env} {program : Prog Database (Except Failure Unit)}
    (request : BootstrapRequest env program) (db : Db) :
    program.Undisturbed (fun log => log.any overwrites = false) (fun _ _ _ => True) [] db := by
  cases request with
  | request identity businessName slug root =>
      unfold served session
      refine (Prog.undisturbed_bind (S := Database) _ _ _ [] db).mpr ?_
      have whole : Orm.undisturbed (fun log => log.any overwrites = false)
          (bootstrapWorkspace env identity ⟨env.initialSetupToken, businessName, slug⟩ >>=
            fun _ => (pure () : Op Unit)) (fun _ _ _ _ => True) [] [] db := by
        rw [undisturbed_bind]
        refine undisturbed_mono (undisturbed_bootstrap env identity _ db) ?_
        rintro (_ | _) log pending store _ <;> trivial
      exact whole

/-! ## What a commit leaves -/

section

variable {log : List Database.Write} {db : Db}

theorem claims_organizations (statement : Database.Write)
    (written : Table.organizations = Layout.Statement.table statement) :
    claims statement = true := by
  cases statement <;> (subst written; rfl)

theorem claims_settings (statement : Database.Write)
    (written : Table.settings = Layout.Statement.table statement) : claims statement = true := by
  cases statement <;> (subst written; rfl)

/-- A request that overwrites no mark leaves the organizations and the settings alone, or it adds
at most one organization and the mark. -/
theorem BootstrapLaw.leaves (lawful : BootstrapLaw (log.filter claims))
    (inserted : log.any overwrites = false) (db : Db) :
    (Db.organizations (replay (S := Database) log db) = db.organizations ∧
        Db.settings (replay (S := Database) log db) = db.settings) ∨
      ∃ organizations row, organizations.length ≤ 1 ∧ row.key = "bootstrap_complete" ∧
        Db.organizations (replay (S := Database) log db) = db.organizations ++ organizations ∧
          Db.settings (replay (S := Database) log db) = db.settings ++ [row] := by
  have grown : ∀ {table : Table}, (∀ statement : Database.Write,
      table = Layout.Statement.table statement → claims statement = true) →
      Layout.Grows (L := layout) table (log.filter claims) →
      Db.rows (replay (S := Database) log db) table =
        db.rows table ++ Layout.insertedRows (L := layout) table (log.filter claims) := by
    intro table picks grows
    rw [Layout.insertedRows_filter picks]
    exact (grows.of_filter picks).rows_replay db
  have organizations := grown claims_organizations
  have settings := grown claims_settings
  generalize same : log.filter claims = marks at *
  cases lawful with
  | none =>
      refine .inl ⟨?_, ?_⟩
      · exact (organizations fun _ member => absurd member List.not_mem_nil).trans
          (List.append_nil _)
      · exact (settings fun _ member => absurd member List.not_mem_nil).trans (List.append_nil _)
  | mark founded row single own =>
      refine .inr ⟨founded, row, single, own, ?_, ?_⟩
      · refine (organizations ?_).trans ?_
        · intro statement member written
          rcases List.mem_append.mp member with founding | marking
          · obtain ⟨organization, _, rfl⟩ := List.mem_map.mp founding
            exact ⟨organization, rfl⟩
          · rw [List.mem_singleton.mp marking] at written
            cases written
        · rw [Layout.insertedRows_append, Layout.insertedRows_map (L := layout) .organizations,
            Layout.insertedRows_eq_nil, List.append_nil]
          intro statement member
          rw [List.mem_singleton.mp member]
          exact Table.noConfusion
      · refine (settings ?_).trans ?_
        · intro statement member written
          rcases List.mem_append.mp member with founding | marking
          · obtain ⟨organization, _, rfl⟩ := List.mem_map.mp founding
            cases written
          · exact ⟨row, List.mem_singleton.mp marking⟩
        · rw [Layout.insertedRows_append, Layout.insertedRows_eq_nil, List.nil_append]
          · rfl
          · intro statement member
            obtain ⟨organization, _, rfl⟩ := List.mem_map.mp member
            exact Table.noConfusion
  | overwrite founded columns =>
      have member : Layout.Statement.update (L := layout) Table.settings "bootstrap_complete"
          columns ∈ log.filter claims := by
        rw [same]
        exact List.mem_append_right _ (List.mem_singleton_self _)
      exact absurd rfl (List.any_eq_false.mp inserted _ (List.mem_filter.mp member).1)

/-- Where the mark is there already, a request that overwrites no mark changes nothing. -/
theorem BootstrapLaw.marked_once (lawful : BootstrapLaw (log.filter claims))
    (inserted : log.any overwrites = false)
    (integrity : Integrity (replay (S := Database) log db))
    {row : SystemSetting} (member : row ∈ db.settings) (own : row.key = "bootstrap_complete") :
    Db.organizations (replay (S := Database) log db) = db.organizations ∧
      Db.settings (replay (S := Database) log db) = db.settings := by
  rcases lawful.leaves inserted db with same | ⟨founded, mark, _, key, _, settings⟩
  · exact same
  · have unique := integrity.keys .settings
    have rows : Db.rows (replay (S := Database) log db) Table.settings = db.settings ++ [mark] :=
      settings
    change ((Db.rows (replay (S := Database) log db) Table.settings).filterMap
      (@Table.primaryKey .settings)).Nodup at unique
    rw [rows, List.filterMap_append, List.nodup_append'] at unique
    have before : "bootstrap_complete" ∈
        db.settings.filterMap (@Table.primaryKey .settings) :=
      List.mem_filterMap.mpr ⟨row, member, congrArg some own⟩
    have again : "bootstrap_complete" ∈ [mark].filterMap (@Table.primaryKey .settings) :=
      List.mem_filterMap.mpr ⟨mark, List.mem_singleton_self _, congrArg some key⟩
    exact (unique.2.2 before again).elim

end

/-! ## Every interleaving -/

section

variable {ι : Type} [DecidableEq ι] {env : Env} {store : Db}
  {world : World Database ι (Except Failure Unit)}

/-- As long as no request overwrites the mark of another one, at most one founds an organization,
and the mark stays as it was committed. -/
theorem founded_once (opening : Integrity store)
    (reached : World.Reachable (BootstrapRequest env) store world)
    (inserted : ∀ committed ∈ world.commits, committed.log.any overwrites = false) :
    (world.store.organizations = store.organizations ∨
      ∃ organization, world.store.organizations = store.organizations ++ [organization]) ∧
      ∀ earlier : World Database ι (Except Failure Unit),
        World.Reachable (BootstrapRequest env) store earlier →
        Relation.ReflTransGen (World.Step (BootstrapRequest env)) earlier world →
        ∀ row, Db.find earlier.store .settings "bootstrap_complete" = some row →
          Db.find world.store .settings "bootstrap_complete" = some row := by
  have sound : bootstrapAgreement.Sound world := Agreement.Sound.reachable
    (fun _ request => BootstrapRequest.meets request) opening reached
  have after : ∀ committed ∈ world.commits, Integrity committed.after := by
    intro committed member
    obtain ⟨integrity, kept⟩ := sound.commits committed member
    exact bootstrapAgreement.inv_replay integrity kept id
  constructor
  · have founded := World.holds_of_commits (motive := fun db : Db =>
      db.organizations = store.organizations ∨
        ∃ organization, db.organizations = store.organizations ++ [organization] ∧
          ∃ row ∈ db.settings, row.key = "bootstrap_complete") reached (.inl rfl) ?_
    · exact founded.imp_right fun ⟨organization, same, _⟩ => ⟨organization, same⟩
    intro committed member before
    obtain ⟨_, accepted, lawful⟩ := sound.commits committed member
    rcases before with untouched | ⟨organization, single, row, present, own⟩
    · rcases lawful.leaves (inserted committed member) committed.before with
        ⟨organizations, _⟩ | ⟨founded, row, single, own, organizations, settings⟩
      · exact .inl (organizations.trans untouched)
      · change (Db.organizations committed.after) = _ at organizations
        rw [untouched] at organizations
        match founded, single with
        | [], _ => exact .inl (organizations.trans (List.append_nil _))
        | [organization], _ =>
            refine .inr ⟨organization, organizations, row, ?_, own⟩
            change row ∈ Db.settings (replay (S := Database) committed.log committed.before)
            rw [settings]
            exact List.mem_append_right _ (List.mem_singleton_self _)
    · obtain ⟨organizations, settings⟩ := lawful.marked_once (inserted committed member)
        (after committed member) present own
      refine .inr ⟨organization, organizations.trans single, row, ?_, own⟩
      exact settings ▸ present
  · intro earlier reachedEarlier steps row found
    obtain ⟨present, own⟩ := Db.find_mem found
    refine @Integrity.find_eq_some _ sound.inv .settings _ _ ?_ own
    refine World.holds_of_commits (motive := fun db : Db => row ∈ db.settings) steps present ?_
    intro committed member before
    obtain ⟨_, accepted, lawful⟩ := sound.commits committed member
    have key : row.key = "bootstrap_complete" := Option.some.inj own
    obtain ⟨_, settings⟩ := lawful.marked_once (inserted committed member)
      (after committed member) before key
    exact settings ▸ before

/-- A run in which nobody commits while a request is between its guard and its merge. -/
abbrev BootstrapsApart (env : Env) :
    World Database ι (Except Failure Unit) → World Database ι (Except Failure Unit) → Prop :=
  Relation.ReflTransGen (World.StepApart (BootstrapRequest env))

/-- As long as nobody commits while a request is between its guard and its merge, at most one
request founds an organization, and the mark stays as it was committed. -/
theorem bootstrapped_once {earlier : World Database ι (Except Failure Unit)}
    (opening : Integrity store)
    (begun : BootstrapsApart env (World.initial store) earlier)
    (apart : BootstrapsApart env earlier world) :
    (world.store.organizations = store.organizations ∨
      ∃ organization, world.store.organizations = store.organizations ++ [organization]) ∧
      ∀ row, Db.find earlier.store .settings "bootstrap_complete" = some row →
        Db.find world.store .settings "bootstrap_complete" = some row := by
  have steps : ∀ {first last : World Database ι (Except Failure Unit)},
      BootstrapsApart env first last →
        Relation.ReflTransGen (World.Step (BootstrapRequest env)) first last :=
    fun run => run.lift id fun _ _ step => step.1
  have inserted := @World.commits_undisturbed Database _ _ _ _
    (fun log => log.any overwrites = false)
    (fun _ request => BootstrapRequest.undisturbed request) _ _ (begun.trans apart)
  obtain ⟨founded, marked⟩ := founded_once opening (steps (begun.trans apart)) inserted
  exact ⟨founded, marked earlier (steps begun) (steps apart)⟩

end

/-- A setup request of the root identity. -/
def Sample.request (slug : String) : Prog Database (Except Failure Unit) :=
  served (bootstrapWorkspace Sample.env ⟨1, "Admin"⟩ ⟨Sample.env.initialSetupToken, slug, slug⟩)

theorem Sample.request_allowed (slug : String) :
    BootstrapRequest Sample.env (Sample.request slug) :=
  .request ⟨1, "Admin"⟩ slug slug rfl

/-- A second request, which is answered after the first one, founds nothing and leaves the mark. -/
theorem bootstrapped_once_again :
    ∃ earlier world : World Database Unit (Except Failure Unit),
      BootstrapsApart Sample.env (World.initial {}) earlier ∧
        BootstrapsApart Sample.env earlier world ∧
          earlier.store.organizations.map Organization.slug = ["first"] ∧
          (world.store.organizations = [] ∨
            ∃ organization, world.store.organizations = [organization]) ∧
          Db.find world.store .settings "bootstrap_complete" =
            some ⟨"bootstrap_complete", "aaaaaaaaaaaaaaaaaaaaaaaaaaaaaaaaaaaa"⟩ := by
  have quiet : (World.initial {} : World Database Unit (Except Failure Unit)).Quiet := fun _ => rfl
  obtain ⟨earlier, reached, quiet, first⟩ := quiet.served () Sample.answers
    (Sample.request_allowed "first")
  obtain ⟨world, later, _, _⟩ := quiet.served () (Sample.answersFrom 10)
    (Sample.request_allowed "second")
  have begun : BootstrapsApart Sample.env (World.initial {}) earlier :=
    reached.lift id fun _ _ step => step.apart
  have apart : BootstrapsApart Sample.env earlier world := later.lift id fun _ _ step => step.apart
  obtain ⟨founded, marked⟩ := bootstrapped_once Integrity.empty begun apart
  refine ⟨earlier, world, begun, apart, ?_, founded, marked _ ?_⟩
  · rw [first]
    decide +kernel
  · rw [first]
    decide +kernel

/-- Two requests that both look for the mark before either sets it found two organizations, and
the second one takes over the mark. -/
theorem bootstrapped_once_fails :
    ∃ earlier world : World Database Bool (Except Failure Unit),
      World.Reachable (BootstrapRequest Sample.env) {} earlier ∧
        Relation.ReflTransGen (World.Step (BootstrapRequest Sample.env)) earlier world ∧
          earlier.store.organizations.map Organization.slug = ["first"] ∧
          world.store.organizations.map Organization.slug = ["first", "second"] ∧
          earlier.store.settings =
              [⟨"bootstrap_complete", "aaaaaaaaaaaaaaaaaaaaaaaaaaaaaaaaaaaa"⟩] ∧
          world.store.settings =
              [⟨"bootstrap_complete", "kkkkkkkkkkkkkkkkkkkkkkkkkkkkkkkkkkkk"⟩] := by
  have quiet : (World.initial {} : World Database Bool (Except Failure Unit)).Quiet := fun _ => rfl
  obtain ⟨earlier, world, reached, steps, _, first, second⟩ := quiet.overtaken .refl
    Bool.false_ne_true Sample.answers 1 Sample.answers (Sample.answersFrom 10)
    (Sample.request_allowed "second") (Sample.request_allowed "first")
  rw [first] at second
  refine ⟨earlier, world, reached, steps, ?_⟩
  rw [first, second]
  decide +kernel

end ControlPlane
