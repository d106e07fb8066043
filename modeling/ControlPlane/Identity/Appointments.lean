import ControlPlane.Ledger.Runs
import ControlPlane.Library.Growth
import ControlPlane.Library.Histories
import ControlPlane.Sample
import ControlPlane.Sustaining

/-!
# The role of an appointment and the role in the audit log

Linking an account to an organization creates a membership where there is none,
leaves an existing one as it is, and writes an audit row with the role of the
request each time. The last audit row and the membership name the same role as
long as no request meets a membership with another role.
-/

namespace ControlPlane

open ReadCommitted Orm

/-- An account in an organization. -/
structure Appointment where
  organizationId : Id
  actorId : Id
  deriving DecidableEq, Repr

/-- What the database says about an appointment: its memberships, and the audit rows of the
requests that linked the account, the oldest one first. -/
structure Standing where
  memberships : List Membership
  bindings : List AuditLog
  deriving DecidableEq

/-- The role that the audit row of a request reports. -/
def boundRole (entry : AuditLog) : Option Role := entry.binding.map BindingDetails.role

/-- The account has a role in the organization: its membership is active with the role, and the
role is the effective one for everybody but the root identity. -/
structure Standing.Shows (env : Env) (standing : Standing) (role : Role) : Prop where
  linked : standing.memberships ≠ []
  active : ∀ membership ∈ standing.memberships, membership.status = .active
  matching : ∀ membership ∈ standing.memberships, membership.role = role
  effective : ∀ membership ∈ standing.memberships, ∀ telegramId,
    env.rootTelegramId ≠ some telegramId →
      effectiveRole env.rootTelegramId telegramId membership.role = role

/-- Active memberships with a role show it. -/
theorem Standing.Shows.of_memberships {env : Env} {standing : Standing} {role : Role}
    (linked : standing.memberships ≠ [])
    (same : ∀ membership ∈ standing.memberships,
      membership.status = .active ∧ membership.role = role) : standing.Shows env role where
  linked := linked
  active membership member := (same membership member).1
  matching membership member := (same membership member).2
  effective membership member telegramId other := by
    rw [effectiveRole, if_neg other]
    exact (same membership member).2

namespace Appointment

/-- A membership of the account in the organization. -/
def holds (appointment : Appointment) (row : Membership) : Bool :=
  row.organizationId = appointment.organizationId ∧ row.actorId = appointment.actorId

/-- An `actor.bind` audit row about the account and the organization. -/
def reports (appointment : Appointment) (row : AuditLog) : Bool :=
  row.action = "actor.bind" ∧ row.organizationId = some appointment.organizationId ∧
    row.targetId = appointment.actorId

def standing (appointment : Appointment) (db : Db) : Standing :=
  ⟨db.memberships.filter appointment.holds, db.auditLogs.filter appointment.reports⟩

/-- The statements that matter: memberships and audit rows of the appointment, and deletions of
memberships. -/
def concerns (appointment : Appointment) : Database.Write → Bool
  | .insert .memberships row => appointment.holds row
  | .delete .memberships _ => true
  | .insert .auditLogs row => appointment.reports row
  | _ => false

/-- What a statement does to the standing. -/
def move (appointment : Appointment) (standing : Standing) : Database.Write → Standing
  | .insert .memberships row =>
      { standing with memberships := standing.memberships ++ [row].filter appointment.holds }
  | .delete .memberships key =>
      { standing with memberships := standing.memberships.filter fun row => row.id ≠ key }
  | .insert .auditLogs row =>
      { standing with bindings := standing.bindings ++ [row].filter appointment.reports }
  | _ => standing

/-! ## The standing follows the statements -/

variable (appointment : Appointment)

/-- Audit rows are never deleted. -/
theorem auditLogs_delete (key : Table.auditLogs.Key) (db : Db) :
    Db.auditLogs ((Layout.Statement.delete (L := layout) .auditLogs key).apply db) =
      db.auditLogs := by
  have rows := Layout.Statement.rows_apply_delete (L := layout) .auditLogs key db
  exact Eq.trans rows (List.filter_eq_self.mpr fun _ _ => rfl)

theorem standing_apply (statement : Database.Write) (db : Db) :
    appointment.standing (statement.apply db) =
      appointment.move (appointment.standing db) statement := by
  cases statement with
  | insert table row =>
      cases table with
      | memberships =>
          simp only [standing, move]
          rw [← List.filter_append]
          rfl
      | auditLogs =>
          simp only [standing, move]
          rw [← List.filter_append]
          rfl
      | _ => rfl
  | update table key columns =>
      cases table with
      | memberships => exact columns.elim
      | auditLogs => exact columns.elim
      | _ => rfl
  | delete table key =>
      cases table with
      | memberships =>
          have rows : Db.memberships
              ((Layout.Statement.delete (L := layout) .memberships key).apply db) =
                db.memberships.filter fun row => row.id ≠ key := by
            refine Eq.trans
              (Layout.Statement.rows_apply_delete (L := layout) .memberships key db) ?_
            exact List.filter_congr fun row _ => by simp [layout, Table.primaryKey]
          simp only [standing, move]
          rw [show Db.memberships _ = _ from rows, List.filter_filter, List.filter_filter]
          congr 1
          exact List.filter_congr fun row _ => Bool.and_comm _ _
      | auditLogs =>
          simp only [standing, move]
          rw [show Db.auditLogs _ = db.auditLogs from auditLogs_delete key db]
          rfl
      | _ => rfl

theorem standing_replay (log : List Database.Write) (db : Db) :
    appointment.standing (replay (S := Database) log db) =
      log.foldl appointment.move (appointment.standing db) := by
  induction log generalizing db with
  | nil => rfl
  | cons statement log inductionHypothesis =>
      rw [replay_cons, List.foldl_cons, ← standing_apply]
      exact inductionHypothesis _

/-- Other statements leave the standing alone. -/
theorem move_of_not_concerns {statement : Database.Write}
    (unconcerned : appointment.concerns statement = false) (standing : Standing) :
    appointment.move standing statement = standing := by
  cases statement with
  | insert table row =>
      cases table with
      | memberships =>
          have other : appointment.holds row = false := unconcerned
          simp [move, other]
      | auditLogs =>
          have other : appointment.reports row = false := unconcerned
          simp [move, other]
      | _ => rfl
  | update table key columns =>
      cases table with
      | memberships => exact columns.elim
      | auditLogs => exact columns.elim
      | _ => rfl
  | delete table key =>
      cases table with
      | memberships => cases unconcerned
      | _ => rfl

/-- Only the statements that concern the appointment count. -/
theorem foldl_move_filter (log : List Database.Write) (standing : Standing) :
    (log.filter appointment.concerns).foldl appointment.move standing =
      log.foldl appointment.move standing := by
  induction log generalizing standing with
  | nil => rfl
  | cons statement log inductionHypothesis =>
      cases concerned : appointment.concerns statement with
      | true =>
          rw [List.filter_cons_of_pos concerned, List.foldl_cons, List.foldl_cons]
          exact inductionHypothesis _
      | false =>
          rw [List.filter_cons_of_neg (by simp [concerned]), List.foldl_cons,
            move_of_not_concerns appointment concerned]
          exact inductionHypothesis _

/-! ## What a request writes -/

/-- What the statements of a commit that concern an appointment are: none, the audit row of a
request that met a membership, or the membership that a request created and its audit row. -/
inductive Law : Standing → List Database.Write → Prop
  | none (standing : Standing) : Law standing []
  | report (standing : Standing) (entry : AuditLog) (details : BindingDetails) :
      appointment.reports entry = true → entry.binding = some details →
      standing.memberships ≠ [] → Law standing [.insert .auditLogs entry]
  | appoint (standing : Standing) (row : Membership) (entry : AuditLog)
      (details : BindingDetails) : appointment.holds row = true → row.status = .active →
      row.role = details.role → appointment.reports entry = true →
      entry.binding = some details →
      Law standing [.insert .memberships row, .insert .auditLogs entry]

/-- The requests and the other sessions keep the law. -/
def agreement : Agreement Database where
  inv _ := True
  le before after := (appointment.standing before).memberships ⊆
    (appointment.standing after).memberships
  commit _ log db := acceptsAll (S := Database) log db = true ∧
    appointment.Law (appointment.standing db) (log.filter appointment.concerns)
  le_refl _ := List.Subset.refl _
  le_trans := List.Subset.trans
  inv_replay _ _ _ := trivial

/-- Sessions that write nothing about the appointment. -/
def elsewhere : Agreement Database where
  inv _ := True
  le _ _ := True
  commit _ log db := acceptsAll (S := Database) log db = true ∧
    log.filter appointment.concerns = []
  le_refl _ := trivial
  le_trans _ _ := trivial
  inv_replay _ _ _ := trivial

theorem elsewhere_refines : appointment.elsewhere.Refines appointment.agreement where
  inv _ := trivial
  le _ := trivial
  commit _ committed := by
    refine ⟨committed.1, ?_⟩
    rw [committed.2]
    exact .none _
  asks _ := trivial
  excluded := id

variable {appointment}

/-- A commit does to the standing what its statements about the appointment do. -/
theorem standing_replay_filter (log : List Database.Write) (db : Db) :
    appointment.standing (replay (S := Database) log db) =
      (log.filter appointment.concerns).foldl appointment.move (appointment.standing db) := by
  rw [standing_replay, foldl_move_filter]

/-- No membership is lost. -/
theorem Law.grows {standing : Standing} {written : List Database.Write}
    (lawful : appointment.Law standing written) :
    standing.memberships ⊆ (written.foldl appointment.move standing).memberships := by
  cases lawful with
  | none => exact List.Subset.refl _
  | report entry details => exact List.Subset.refl _
  | appoint row entry details => exact List.subset_append_left _ _

instance : appointment.agreement.Shared where
  le_replay := by
    intro _ log db _ committed _
    have grown := committed.2.grows
    rwa [← standing_replay_filter] at grown

instance : appointment.agreement.Unrestricted := ⟨id⟩

instance : OffPanel appointment.agreement := ⟨fun _ _ => trivial⟩

/-- Statements that do not concern the appointment. -/
def Unconcerned (appointment : Appointment) (statement : Database.Write) : Prop :=
  appointment.concerns statement = false

instance : Admitted (Unconcerned appointment) .actors := ⟨fun _ => rfl, fun _ _ => rfl⟩

theorem filter_concerns {statement : Database.Write}
    (unconcerned : Unconcerned appointment statement) (first last : List Database.Write) :
    (first ++ statement :: last).filter appointment.concerns =
      (first ++ last).filter appointment.concerns := by
  rw [List.filter_append, List.filter_cons_of_neg (by simpa [Unconcerned] using unconcerned),
    ← List.filter_append]

/-- The law of a session that has written nothing about the appointment yet. -/
def idleLaw (appointment : Appointment) : ReadCommitted.Law Database :=
  fun _ log _ => log.filter appointment.concerns = []

/-- The law of a session at its commit. -/
def commitLaw (appointment : Appointment) : ReadCommitted.Law Database := fun _ log db =>
  appointment.Law (appointment.standing db) (log.filter appointment.concerns)

instance : appointment.agreement.Starts (Unconcerned appointment) appointment.idleLaw where
  held _ idle := idle
  benign unconcerned idle := by
    unfold idleLaw at *
    rwa [filter_concerns unconcerned]
  nil _ := rfl

instance : appointment.agreement.Sanctions (Unconcerned appointment) appointment.commitLaw where
  held _ lawful := lawful
  benign unconcerned lawful := by
    unfold commitLaw at *
    rwa [filter_concerns unconcerned]
  nil _ := .none _
  commit _ accepted lawful := ⟨accepted, lawful⟩

section

variable {point : Point Database}

/-- A session that has written nothing about the appointment sees its standing as it is. -/
theorem standing_view (due : Due appointment.agreement appointment.idleLaw point) :
    appointment.standing point.view = appointment.standing point.store := by
  have idle := due.law point.store (.refl trivial)
  unfold idleLaw at idle
  rw [List.filter_append, List.append_eq_nil_iff] at idle
  refine (standing_replay_filter point.log point.store).trans ?_
  rw [idle.1]
  rfl

/-- The audit row of a request about an existing membership. -/
theorem due_report {entry : AuditLog} {details : BindingDetails}
    (named : entry.binding = some details)
    (due : Due appointment.agreement appointment.idleLaw point)
    (linked : appointment.reports entry = true →
      (appointment.standing point.store).memberships ≠ []) :
    Due appointment.agreement appointment.commitLaw
      { point with pending := point.pending ++ [.insert .auditLogs entry] } :=
  due.add fun later rely idle => by
    unfold idleLaw at idle
    unfold commitLaw
    rw [← List.append_assoc, List.filter_append, idle, List.nil_append]
    cases own : appointment.reports entry with
    | false =>
        rw [List.filter_cons_of_neg (by simp [concerns, own])]
        exact .none _
    | true =>
        rw [List.filter_cons_of_pos (by simp [concerns, own])]
        refine .report _ entry details own named fun empty => linked own ?_
        exact List.eq_nil_of_subset_nil (empty ▸ rely.le)

/-- The membership that a request creates, and its audit row. -/
theorem due_appoint {row : Membership} {entry : AuditLog} {details : BindingDetails}
    (active : row.status = .active) (role : row.role = details.role)
    (named : entry.binding = some details)
    (same : appointment.reports entry = appointment.holds row)
    (due : Due appointment.agreement appointment.idleLaw point) :
    Due appointment.agreement appointment.commitLaw
      { point with
        pending := point.pending ++ [.insert .memberships row] ++ [.insert .auditLogs entry] } := by
  have joined : Due appointment.agreement
      (fun _ log _ => log.filter appointment.concerns =
        [Layout.Statement.insert (L := layout) .memberships row].filter appointment.concerns)
      { point with pending := point.pending ++ [.insert .memberships row] } :=
    due.add fun _ _ idle => by
      unfold idleLaw at idle
      rw [← List.append_assoc, List.filter_append, idle, List.nil_append]
  refine joined.add fun _ _ recorded => ?_
  unfold commitLaw
  rw [← List.append_assoc, List.filter_append, recorded, ← List.filter_append]
  cases own : appointment.holds row with
  | false =>
      rw [List.singleton_append, List.filter_cons_of_neg (by simp [concerns, own]),
        List.filter_cons_of_neg (by simp [concerns, same, own])]
      exact .none _
  | true =>
      rw [List.singleton_append, List.filter_cons_of_pos (by simp [concerns, own]),
        List.filter_cons_of_pos (by simp [concerns, same, own])]
      exact .appoint _ row entry details own active role (same.trans own) named

/-- Linking an account keeps the law of every appointment. -/
theorem wp_bindActor (data : ActorBindIn)
    (due : Due appointment.agreement appointment.idleLaw point) :
    (bindActor data).wp appointment.agreement (fun _ _ => True) point := by
  unfold bindActor
  refine wp_seq _ (wp_sustains (Unconcerned appointment) _ due) (fun _ first due => ?_)
    fun _ _ _ => trivial
  refine wp_seq _ (wp_sustains (Unconcerned appointment) _ due) (fun _ second due => ?_)
    fun _ _ _ => trivial
  refine wp_seq _ (wp_sustains (Unconcerned appointment) _ due) (fun actorId third due => ?_)
    fun _ _ _ => trivial
  rw [wp_scalar_bind]
  intro later rely
  have due := due.rely rely
  have finished : ∀ last, Due appointment.agreement appointment.commitLaw last →
      (commit >>= fun _ => pure (actorId, data.organizationId) : Op (Id × Id)).wp
        appointment.agreement (fun _ _ => True) last := by
    intro last due
    exact wp_mono _ (wp_sustains (Unconcerned appointment) _ due) fun _ _ _ => trivial
  cases linked : Db.first (replay third.log later) Table.memberships fun row =>
      row.organizationId = data.organizationId ∧ row.actorId = actorId with
  | none =>
      refine wp_seq _ (?_ : (addMembership data.organizationId actorId data.role).wp _
        (fun _ last => Due appointment.agreement appointment.commitLaw { last with
          pending := last.pending ++ [.insert .auditLogs ⟨none, some data.organizationId,
            "actor.bind", "actor", actorId, some ⟨data.telegramId, data.role⟩⟩] }) _)
        (fun _ last due => finished _ due) fun _ _ _ => trivial
      unfold addMembership
      rw [wp_uid_bind]
      intro id
      refine ⟨trivial, fun time => ?_⟩
      have named : (some ⟨data.telegramId, data.role⟩ : Option BindingDetails) =
          some ⟨data.telegramId, data.role⟩ := rfl
      refine due_appoint rfl rfl named ?_ due
      simp [reports, holds]
  | some membership =>
      refine finished _ (due_report rfl due fun own => ?_)
      have present := List.mem_of_find?_eq_some linked
      have condition := List.find?_some linked
      simp only [reports, decide_eq_true_eq, Option.some.injEq, true_and] at own condition
      rw [← standing_view due]
      refine List.ne_nil_of_mem (a := membership) (List.mem_filter.mpr ⟨present, ?_⟩)
      simp only [holds, decide_eq_true_eq]
      exact ⟨condition.1.trans own.1, condition.2.trans own.2⟩

/-! ## What a commit leaves -/

/-- A new membership is the first one of its account in its organization. -/
theorem unlinked_of_accepts {log rest : List Database.Write} {row : Membership} {db : Db}
    (accepted : acceptsAll (S := Database) log db = true)
    (written : log.filter appointment.concerns = .insert .memberships row :: rest)
    (own : appointment.holds row = true) : (appointment.standing db).memberships = [] := by
  obtain ⟨first, last, rfl, unconcerned, _, _⟩ := List.filter_eq_cons_iff.mp written
  have before : appointment.standing (replay (S := Database) first db) =
      appointment.standing db := by
    rw [standing_replay_filter, List.filter_eq_nil_iff.mpr unconcerned]
    rfl
  rw [acceptsAll_append, acceptsAll_cons, Bool.and_eq_true, Bool.and_eq_true] at accepted
  have passed : Layout.Statement.accepts (L := layout) (.insert .memberships row)
      (replay (S := Database) first db) = true := accepted.2.1
  have free := Layout.Statement.unoccupied_of_accepts passed
  rw [Layout.Statement.unoccupied, Layout.vacant_iff] at free
  rw [← before, List.eq_nil_iff_forall_not_mem]
  intro other member
  obtain ⟨present, linked⟩ := List.mem_filter.mp member
  simp only [holds, decide_eq_true_eq] at own linked
  have taken := free (row.organizationId, row.actorId)
    (by simp [layout, Table.uniqueEntries]) other.id ⟨other, present, rfl, by
      simp [layout, Table.uniqueEntries, own, linked]⟩
  exact Layout.Statement.unused_of_accepts passed rfl other present taken.symm

end

variable {env : Env} {log : List Database.Write} {db : Db} {entry : AuditLog}

/-- A commit that writes no audit row about the appointment leaves its standing alone; otherwise it
writes one, and a membership is there. -/
inductive Outcome (appointment : Appointment) (before after : Standing)
    (written : List Database.Write) : Prop
  | unchanged : after = before →
      (∀ entry, appointment.reports entry = true → .insert .auditLogs entry ∉ written) →
      Outcome appointment before after written
  | reported (entry : AuditLog) (role : Role) : .insert .auditLogs entry ∈ written →
      appointment.reports entry = true → boundRole entry = some role →
      after.memberships ≠ [] → after.bindings = before.bindings ++ [entry] →
      (∀ other, .insert .auditLogs other ∈ written → appointment.reports other = true →
        other = entry) →
      (after.memberships = before.memberships ∨ before.memberships = [] ∧
        ∀ membership ∈ after.memberships, membership.status = .active ∧ membership.role = role) →
      Outcome appointment before after written

/-- What a commit does to the standing. -/
theorem outcome (accepted : acceptsAll (S := Database) log db = true)
    (lawful : appointment.Law (appointment.standing db) (log.filter appointment.concerns)) :
    Outcome appointment (appointment.standing db)
      (appointment.standing (replay (S := Database) log db)) log := by
  have among : ∀ entry, .insert .auditLogs entry ∈ log → appointment.reports entry = true →
      .insert .auditLogs entry ∈ log.filter appointment.concerns :=
    fun entry member own => List.mem_filter.mpr ⟨member, own⟩
  rw [standing_replay_filter]
  generalize written : log.filter appointment.concerns = concerning at *
  cases lawful with
  | none => exact .unchanged rfl fun entry own member => by simpa using among entry member own
  | report entry details own named linked =>
      have present : .insert .auditLogs entry ∈ log :=
        (List.mem_filter.mp (written ▸ List.mem_singleton_self _)).1
      refine .reported entry details.role present own (congrArg _ named) linked ?_ ?_ (.inl rfl)
      · simp [move, own]
      · exact fun other member reported => by simpa using among other member reported
  | appoint row entry details held active role own named =>
      have before := unlinked_of_accepts accepted written held
      have after : ([.insert .memberships row, .insert .auditLogs entry] :
          List Database.Write).foldl appointment.move (appointment.standing db) =
            ⟨[row], (appointment.standing db).bindings ++ [entry]⟩ := by
        simp [move, before, held, own]
      have present : .insert .auditLogs entry ∈ log :=
        (List.mem_filter.mp (written ▸ List.mem_cons_of_mem _ (List.mem_singleton_self _))).1
      rw [after]
      refine .reported entry details.role present own (congrArg _ named) (List.cons_ne_nil _ _)
        rfl ?_ ?_
      · exact fun other member reported => by simpa using among other member reported
      · refine .inr ⟨before, fun membership member => ?_⟩
        rw [List.mem_singleton.mp member]
        exact ⟨active, role⟩

/-! ## Runs -/

/-- The sessions in which an account is linked to an organization through the route for it only. -/
inductive Operation (appointment : Appointment) : Prog Database (Except Failure Unit) → Prop
  | bindActor (data : ActorBindIn) : Operation appointment (served (bindActor data))
  | elsewhere {program : Prog Database (Except Failure Unit)} :
      appointment.elsewhere.Meets program → Operation appointment program

theorem Operation.meets {program : Prog Database (Except Failure Unit)}
    (operation : Operation appointment program) : appointment.agreement.Meets program := by
  cases operation with
  | bindActor data =>
      refine Agreement.meets_session fun store invariant => ?_
      exact wp_seq _ (wp_bindActor data (.fresh (Unconcerned appointment) invariant))
        (fun _ _ _ => trivial) fun _ _ _ => trivial
  | elsewhere meets => exact appointment.elsewhere_refines.meets meets

/-- The last `actor.bind` audit row, if there is one, names the role that the account has. -/
def TakesEffect (env : Env) (appointment : Appointment) (db : Db) : Prop :=
  ∀ entry, (appointment.standing db).bindings.getLast? = some entry →
    ∃ role, boundRole entry = some role ∧ (appointment.standing db).Shows env role

/-- The account has the role of each request that succeeded, right after it. -/
def Obeyed (env : Env) (appointment : Appointment) (committed : Committed Database) : Prop :=
  ∀ entry, .insert .auditLogs entry ∈ committed.log → appointment.reports entry = true →
    ∃ role, boundRole entry = some role ∧ (appointment.standing committed.after).Shows env role

/-- A request that succeeds meets no membership, or one that is active with the role that the
request names. -/
def Confirms (appointment : Appointment) (committed : Committed Database) : Prop :=
  ∀ entry, .insert .auditLogs entry ∈ committed.log → appointment.reports entry = true →
    ∀ role, boundRole entry = some role →
      ∀ membership ∈ (appointment.standing committed.before).memberships,
        membership.status = .active ∧ membership.role = role

/-- Each request of a run is obeyed, and in every state the role of the last audit row is the one
that the account has. -/
structure Faithful {ι : Type} (env : Env) (appointment : Appointment)
    (world : World Database ι (Except Failure Unit)) : Prop where
  obeyed : ∀ committed ∈ world.commits, Obeyed env appointment committed
  states : ∀ committed ∈ world.commits, TakesEffect env appointment committed.before ∧
    TakesEffect env appointment committed.after
  current : TakesEffect env appointment world.store

section

variable {ι : Type} [DecidableEq ι] {store : Db} {world : World Database ι (Except Failure Unit)}

/-- The outcome of each commit of a run. -/
theorem outcome_of_reachable (reached : World.Reachable (Operation appointment) store world)
    (committed : Committed Database) (member : committed ∈ world.commits) :
    Outcome appointment (appointment.standing committed.before)
      (appointment.standing committed.after) committed.log := by
  have sound : appointment.agreement.Sound world :=
    Agreement.Sound.reachable (fun _ operation => operation.meets) trivial reached
  obtain ⟨_, accepted, lawful⟩ := sound.commits committed member
  exact outcome accepted lawful

/-- A request is obeyed exactly when it meets no membership with another role. -/
theorem obeyed_iff {committed : Committed Database}
    (outcome : Outcome appointment (appointment.standing committed.before)
      (appointment.standing committed.after) committed.log) :
    Obeyed env appointment committed ↔ Confirms appointment committed := by
  cases outcome with
  | unchanged _ silent =>
      exact ⟨fun _ entry member own => absurd member (silent entry own),
        fun _ entry member own => absurd member (silent entry own)⟩
  | reported entry role _ _ named linked _ single memberships =>
      constructor
      · intro obeyed other member own otherRole otherNamed membership present
        obtain ⟨shown, shownNamed, shows⟩ := obeyed other member own
        obtain rfl : otherRole = shown := Option.some.inj (otherNamed.symm.trans shownNamed)
        rcases memberships with same | ⟨empty, _⟩
        · rw [← same] at present
          exact ⟨shows.active membership present, shows.matching membership present⟩
        · exact absurd (empty ▸ present) List.not_mem_nil
      · intro confirms other member own
        refine ⟨role, single other member own ▸ named, .of_memberships linked ?_⟩
        rcases memberships with same | ⟨_, created⟩
        · rw [same]
          exact confirms other member own role (single other member own ▸ named)
        · exact created

/-- A run is faithful exactly when no request of it meets a membership with another role. -/
theorem bindings_take_effect_iff (opening : TakesEffect env appointment store)
    (reached : World.Reachable (Operation appointment) store world) :
    Faithful env appointment world ↔
      ∀ committed ∈ world.commits, Confirms appointment committed := by
  have outcomes := outcome_of_reachable reached
  constructor
  · intro faithful committed member
    exact (obeyed_iff (outcomes committed member)).mp (faithful.obeyed committed member)
  · intro confirms
    have obeyed : ∀ committed ∈ world.commits, Obeyed env appointment committed :=
      fun committed member =>
        (obeyed_iff (outcomes committed member)).mpr (confirms committed member)
    have kept : ∀ committed ∈ world.commits, TakesEffect env appointment committed.before →
        TakesEffect env appointment committed.after := by
      intro committed member before entry last
      cases outcomes committed member with
      | unchanged same silent =>
          rw [same] at last ⊢
          exact before entry last
      | reported newest role present own _ _ bindings _ _ =>
          rw [bindings, List.getLast?_concat] at last
          rw [← Option.some.inj last]
          exact obeyed committed member newest present own
    exact ⟨obeyed, fun committed member => World.holds_throughout reached opening kept member,
      World.holds_of_commits reached opening kept⟩

end

/-- Without audit rows there is nothing to keep. -/
theorem TakesEffect.of_unreported {db : Db} (unreported : (appointment.standing db).bindings = []) :
    TakesEffect env appointment db := by
  intro entry last
  rw [unreported] at last
  cases last

/-- The member of the sample workspace is linked once more with the role it has. -/
theorem bindings_take_effect_iff_member :
    ∃ world : World Database Unit (Except Failure Unit),
      World.Reachable (Operation ⟨"shop", "member"⟩) Sample.workspace world ∧
        (Db.auditLogs world.store).map boundRole = [some .viewer] ∧
          Faithful Sample.env ⟨"shop", "member"⟩ world := by
  obtain ⟨world, reached, same, history⟩ := World.reachable_history () Sample.answers
    (Operation.bindActor ⟨10, "Member", "shop", .viewer⟩ : Operation ⟨"shop", "member"⟩ _)
    Sample.workspace
  have logged : (Db.auditLogs world.store).map boundRole = [some .viewer] := by
    rw [same]
    decide +kernel
  have opening : TakesEffect Sample.env ⟨"shop", "member"⟩ Sample.workspace :=
    .of_unreported (by decide)
  have matched : ∀ commit ∈ world.history,
      (∀ entry ∈ Layout.insertedRows (L := layout) .auditLogs commit.2,
        boundRole entry = some .viewer) ∧
      ∀ membership ∈ (Appointment.standing ⟨"shop", "member"⟩ commit.1).memberships,
        membership.status = .active ∧ membership.role = .viewer := by
    rw [history]
    decide +kernel
  refine ⟨world, reached, logged, (bindings_take_effect_iff opening reached).mpr ?_⟩
  intro committed member entry written _ role named
  obtain ⟨roles, memberships⟩ := matched _ (List.mem_map_of_mem member)
  have logs := roles entry (List.mem_filterMap.mpr
    ⟨_, written, Layout.insertedRow_insert (L := layout) .auditLogs entry⟩)
  rw [← Option.some.inj (logs.symm.trans named)]
  exact memberships

/-- An account that was linked as a viewer is promoted in the audit log only. -/
theorem bindings_take_effect_fails :
    ¬∀ (appointment : Appointment) (world : World Database Unit (Except Failure Unit)),
      World.Reachable (Operation appointment) Sample.workspace world →
        Faithful Sample.env appointment world := by
  intro faithful
  let appointment : Appointment := ⟨"shop", "aaaaaaaaaaaaaaaaaaaaaaaaaaaaaaaaaaaa"⟩
  have quiet : (World.initial Sample.workspace : World Database Unit (Except Failure Unit)).Quiet :=
    fun _ => rfl
  obtain ⟨first, reached, quiet, linked⟩ := quiet_served quiet .refl () Sample.answers
    (Operation.bindActor ⟨11, "Seller", "shop", .viewer⟩ : Operation appointment _)
  obtain ⟨second, reached, _, promoted⟩ := quiet_served quiet reached () (Sample.answersFrom 5)
    (Operation.bindActor ⟨11, "Seller", "shop", .resellerAdmin⟩ : Operation appointment _)
  rw [linked] at promoted
  obtain ⟨last, roles⟩ : (appointment.standing second.store).bindings.getLast?.bind boundRole =
      some .resellerAdmin ∧ ∀ membership ∈ (appointment.standing second.store).memberships,
        membership.role = .viewer := by
    rw [promoted]
    decide +kernel
  obtain ⟨entry, found, named⟩ := Option.bind_eq_some_iff.mp last
  obtain ⟨role, own, shows⟩ := (faithful appointment second reached).current entry found
  obtain ⟨membership, present⟩ := List.exists_mem_of_ne_nil _ shows.linked
  have promoted : Role.resellerAdmin = .viewer := by
    rw [← roles membership present, shows.matching membership present]
    exact Option.some.inj (named.symm.trans own)
  cases promoted

end Appointment

end ControlPlane
