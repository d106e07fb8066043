import ControlPlane.Decisions.Routes
import ControlPlane.Identity.Customers

/-!
# Subscribers of a server

Sellers operate every subscriber of the servers they own. An organization that an
order bound to a server operates the subscribers that the panel attributes to the
admin of its binding, whatever else the panel answers.
-/

namespace ControlPlane

open ReadCommitted Orm PythonJson

/-! ## Routes -/

/-- Python's truth value of a text that a query returned, or of `None`. -/
def truthyText (value : Option String) : Bool := value.any fun text => text ≠ ""

/-- A server this organization owns, or the one an approved order bound it to. -/
def accessiblePanel (panelId organizationId : Id) : Op Panel := do
  let owned ← scalar .panelOwners fun row =>
    row.panelId = panelId ∧ row.organizationId = organizationId
  let bound ← scalar .bindings fun row =>
    row.panelId = panelId ∧ row.organizationId = organizationId
  let panel ← if truthyText (owned.map (·.panelId)) ∨ truthyText (bound.map (·.id)) then
      get .panels panelId
    else pure none
  found (panel.filter fun panel => panel.status = .active) (.http 404 "server not found")

def orgBinding (organizationId panelId : Id) : Op Binding := do
  let binding ← scalar .bindings fun row =>
    row.organizationId = organizationId ∧ row.panelId = panelId
  found binding (.http 409 "this organization has no billing binding on that server")

def panelIsMine (panelId organizationId : Id) : Op Bool := do
  let owned ← scalar .panelOwners fun row =>
    row.panelId = panelId ∧ row.organizationId = organizationId
  pure (truthyText (owned.map (·.panelId)))

/-- `row.get("user", row)` of a dictionary, and any other value as it is. -/
def unwrapUser : Json → Json
  | .dict items => (lookup items "user").getD (.dict items)
  | row => row

/-- The `admin_id` of a record, or `None`. -/
def adminOf : Json → Json
  | .dict items => (lookup items "admin_id").getD .null
  | _ => .null

/-- `int(owner) == pg_admin_id`; the `OverflowError` of an infinite owner is not caught. -/
def belongs (owner : Json) (pgAdminId : Int) : Except Failure Bool :=
  match owner with
  | .float (.infinite _) => .error .unexpected
  | owner => .ok (owner.toInt? = some pgAdminId)

/-- Refuse a subscriber the panel attributes to another admin before a buyer touches it. -/
def assertBoundSubscriber (panel : Panel) (organizationId : Id) (binding : Binding) (userId : Int)
    (actorId : Option Id) : Op Unit := do
  let row ← panelOperation panel organizationId "user.read" (.user userId) actorId
  let mine ← attempt (belongs (adminOf (unwrapUser row)) binding.pgAdminId)
  require (mine = true) (.http 403 "این مشترک به پنل شما تعلق ندارد")

/-- The common end of the routes that change a subscriber. -/
def changeSubscriber (caller : Identity) (panel : Panel) (userId : Int) (action : String)
    (call : PanelCall) : Op call.Reply := do
  let mine ← panelIsMine panel.id caller.organization.id
  when (mine = false) (do
    let binding ← orgBinding caller.organization.id panel.id
    assertBoundSubscriber panel caller.organization.id binding userId (some caller.actor.id))
  panelOperation panel caller.organization.id action call (some caller.actor.id)

/-- `GET /v1/webapp/panels/{panel_id}/users`. -/
def webPanelUsers (env : Env) (identity : TelegramIdentity) (panelId : Id) (offset limit : Int) :
    Op Unit := do
  let caller ← manager env identity.userId .subscriberControl
  let panel ← accessiblePanel panelId caller.organization.id
  let binding ← orgBinding caller.organization.id panel.id
  require (1 ≤ limit ∧ limit ≤ 200) (.http 422 "limit must be between 1 and 200")
  panelOperation panel caller.organization.id "user.list" (.users binding.pgAdminId offset limit)
    none

/-- `POST /v1/webapp/panels/{panel_id}/users/{user_id}/reset-data`. -/
def webResetUserData (env : Env) (identity : TelegramIdentity) (panelId : Id) (userId : Int) :
    Op Unit := do
  let caller ← manager env identity.userId .subscriberControl
  let panel ← accessiblePanel panelId caller.organization.id
  changeSubscriber caller panel userId "user.reset_data" (.resetUserData userId)

/-- `POST /v1/webapp/panels/{panel_id}/users/{user_id}/{enabled}`. -/
def webSetUserEnabled (env : Env) (identity : TelegramIdentity) (panelId : Id) (userId : Int)
    (enabled : String) : Op Unit := do
  let caller ← manager env identity.userId .subscriberControl
  let panel ← accessiblePanel panelId caller.organization.id
  let flag ← enabledFlag enabled
  changeSubscriber caller panel userId (if flag then "user.enable" else "user.disable")
    (.setUserEnabled userId flag)

/-! ## What the routes ask -/

/-- What is asked from one moment to a later one: secrets, and one call on a panel. -/
def AsksPanel (panel : Panel) (call : PanelCall) (before later : List Query) : Prop :=
  ∃ new, later = before ++ new ∧
    ∀ query ∈ new, query = .panel panel call ∨ ∃ reference, query = .resolveSecret reference

/-- A panel answered a call that was asked. -/
def Answered (answers : Answers Database) (asked : List Query) (panel : Panel) (call : PanelCall)
    (reply : call.Reply) : Prop :=
  ∃ index, asked[index]? = some (.panel panel call) ∧
    answers (.panel panel call) index = .ok reply

section

variable (answers : Answers Database) (alone : Alone Database) (panel : Panel) (call : PanelCall)

/-- Building the client of a panel only resolves secrets. -/
theorem panelClient_asked :
    ∃ secrets : List (Option String), ((panelClient panel).run answers alone).2.asked =
      alone.asked ++ secrets.map .resolveSecret := by
  unfold panelClient resolveSecrets consult
  rw [run_bind, run_require]
  split_ifs
  · dsimp only
    rw [run_bind, run_ask]
    dsimp only
    rw [run_bind, run_require]
    split_ifs
    · dsimp only
      rw [run_bind, run_ask]
      dsimp only
      rw [run_bind, run_require]
      split_ifs
      · dsimp only
        rw [run_bind, run_ask]
        dsimp only
        rw [run_require]
        refine ⟨[panel.apiKeyRef, panel.ownerUserRef, panel.ownerPassRef], ?_⟩
        split_ifs <;> simp
      · exact ⟨[panel.apiKeyRef, panel.ownerUserRef], by simp⟩
    · exact ⟨[panel.apiKeyRef], rfl⟩
  · exact ⟨[], by simp⟩

/-- What a call on a panel asks, and where its answer comes from. -/
theorem panelAnswer_asked :
    ∃ answer later, (panelAnswer panel call).run answers alone = (.ok answer, later) ∧
      AsksPanel panel call alone.asked later.asked ∧
        ∀ reply, answer = .ok reply → Answered answers later.asked panel call reply := by
  obtain ⟨secrets, asked⟩ := panelClient_asked answers alone panel
  unfold panelAnswer
  rw [run_tryCatch, run_bind]
  cases ran : (panelClient panel).run answers alone with
  | mk result connected =>
      rw [ran] at asked
      cases result with
      | error exception =>
          refine ⟨_, connected, rfl, ⟨_, asked, fun query member => ?_⟩,
            fun _ refused => nomatch refused⟩
          obtain ⟨reference, _, rfl⟩ := List.mem_map.mp member
          exact .inr ⟨reference, rfl⟩
      | ok _ =>
          refine ⟨answers (.panel panel call) connected.asked.length, _, rfl,
            ⟨secrets.map .resolveSecret ++
            [.panel panel call], ?_, fun query member => ?_⟩, fun reply replied =>
            ⟨connected.asked.length, ?_, replied⟩⟩
          · change connected.asked ++ [.panel panel call] = _
            rw [show connected.asked = _ from asked, List.append_assoc]
          · rcases List.mem_append.mp member with secret | own
            · obtain ⟨reference, _, rfl⟩ := List.mem_map.mp secret
              exact .inr ⟨reference, rfl⟩
            · exact .inl (List.mem_singleton.mp own)
          · exact List.getElem?_concat_length

variable {answers alone panel call} in
/-- An audited call asks what the call itself asks, and returns nothing but its answer. -/
theorem panelOperation_of_answer (organizationId : Id) (action : String) (actorId : Option Id)
    {answer : Except PanelFailure call.Reply} {later : Alone Database}
    (ran : (panelAnswer panel call).run answers alone = (.ok answer, later)) :
    let outcome := (panelOperation panel organizationId action call actorId).run answers alone
    outcome.2.asked = later.asked ∧ ∀ reply, outcome.1 = .ok reply → answer = .ok reply := by
  unfold panelOperation audit insert
  rw [run_bind, ran]
  dsimp only
  generalize (if answer.isOk then action else action ++ ".failed") = outcome
  rw [run_bind, run_add]
  dsimp only
  rw [run_bind, run_commit]
  split_ifs
  · dsimp only
    rw [run_attempt]
    refine ⟨rfl, fun reply replied => ?_⟩
    cases answer with
    | ok other =>
        cases replied
        rfl
    | error failure => exact nomatch replied
  · exact ⟨rfl, fun _ refused => nomatch refused⟩

/-- What an audited call on a panel asks, and where its answer comes from. -/
theorem panelOperation_asked (organizationId : Id) (action : String) (actorId : Option Id) :
    let outcome := (panelOperation panel organizationId action call actorId).run answers alone
    AsksPanel panel call alone.asked outcome.2.asked ∧
      ∀ reply, outcome.1 = .ok reply → Answered answers outcome.2.asked panel call reply := by
  obtain ⟨answer, later, ran, asks, answered⟩ :=
    panelAnswer_asked answers alone panel call
  obtain ⟨same, replies⟩ := panelOperation_of_answer organizationId action actorId ran
  dsimp only
  rw [same]
  exact ⟨asks, fun reply replied => answered reply (replies reply replied)⟩

/-- A program that only reads hands its session on as it was. -/
theorem run_bind_of_reads (program : Op α) [Reads program] (rest : α → Op β) :
    (program >>= rest).run answers alone =
      match (program.run answers alone).1 with
      | .ok value => (rest value).run answers alone
      | .error exception => (.error exception, alone) := by
  have kept : (program.run answers alone).2 = alone := Reads.reads answers alone
  rw [run_bind]
  cases ran : program.run answers alone with
  | mk result later =>
      obtain rfl : later = alone := (congrArg Prod.snd ran).symm.trans kept
      cases result <;> rfl

variable {panel call} in
theorem Answered.append {asked : List Query} {reply : call.Reply}
    (answered : Answered answers asked panel call reply) (new : List Query) :
    Answered answers (asked ++ new) panel call reply := by
  obtain ⟨index, present, replied⟩ := answered
  have bound : index < asked.length := (List.getElem?_eq_some_iff.mp present).1
  exact ⟨index, (List.getElem?_append_left bound).trans present, replied⟩

/-- The check of a subscriber asks the panel for its record, and passes only when the record
names the admin of the binding. -/
theorem assertBoundSubscriber_asked (organizationId : Id) (binding : Binding) (userId : Int)
    (actorId : Option Id) :
    let outcome := (assertBoundSubscriber panel organizationId binding userId actorId).run answers
      alone
    AsksPanel panel (.user userId) alone.asked outcome.2.asked ∧
      (outcome.1 = .ok () → ∃ record, Answered answers outcome.2.asked panel (.user userId) record ∧
        (adminOf (unwrapUser record)).toInt? = some binding.pgAdminId) := by
  obtain ⟨asks, answered⟩ := panelOperation_asked answers alone panel (.user userId) organizationId
    "user.read" actorId
  unfold assertBoundSubscriber
  rw [run_bind]
  cases ran : (panelOperation panel organizationId "user.read" (.user userId) actorId).run answers
      alone with
  | mk result later =>
      rw [ran] at asks answered
      cases result with
      | error exception => exact ⟨asks, fun refused => nomatch refused⟩
      | ok record =>
          dsimp only
          rw [run_bind, run_attempt]
          cases checked : belongs (adminOf (unwrapUser record)) binding.pgAdminId with
          | error exception => exact ⟨asks, fun refused => nomatch refused⟩
          | ok mine =>
              dsimp only
              rw [run_require]
              split_ifs with own
              · refine ⟨asks, fun _ => ⟨record, answered record rfl, ?_⟩⟩
                subst own
                unfold belongs at checked
                split at checked
                · exact nomatch checked
                · exact of_decide_eq_true (Except.ok.inj checked)
              · exact ⟨asks, fun refused => nomatch refused⟩

end

/-! ## Reaching a panel -/

/-- The subscriber that a call changes. -/
def PanelCall.subscriber? : PanelCall → Option Int
  | .setUserEnabled userId _ | .resetUserData userId => some userId
  | _ => none

/-- An organization owns a server. -/
def Db.OwnsPanel (db : Db) (panelId organizationId : Id) : Prop :=
  ∃ link ∈ db.panelOwners, link.panelId = panelId ∧ link.organizationId = organizationId

/-- The panel itself attributes a subscriber to the binding of an organization on it. -/
def Attributed (answers : Answers Database) (asked : List Query) (db : Db) (panel : Panel)
    (organizationId : Id) (userId : Int) : Prop :=
  ∃ binding ∈ db.bindings, binding.panelId = panel.id ∧
    binding.organizationId = organizationId ∧
      ∃ record, Answered answers asked panel (.user userId) record ∧
        (adminOf (unwrapUser record)).toInt? = some binding.pgAdminId

/-- A caller may change a subscriber of a server. -/
structure MayChange (env : Env) (telegramId : Int) (answers : Answers Database)
    (asked : List Query) (db : Db) (panel : Panel) (userId : Int) (caller : Identity) : Prop where
  resolved : ((membershipFor env telegramId).serve answers db).1 = .ok caller
  permitted : can (effectiveRole env.rootTelegramId telegramId caller.membership.role)
    .subscriberControl = true
  stored : panel ∈ db.panels
  active : panel.status = .active
  entitled : db.OwnsPanel panel.id caller.organization.id ∨
    Attributed answers asked db panel caller.organization.id userId

/-- The routes that change a subscriber. -/
inductive SubscriberRoute (env : Env) (identity : TelegramIdentity) (panelId : Id) (userId : Int) :
    Op Unit → Prop
  | resetUserData : SubscriberRoute env identity panelId userId
      (webResetUserData env identity panelId userId)
  | setUserEnabled (enabled : String) : SubscriberRoute env identity panelId userId
      (webSetUserEnabled env identity panelId userId enabled)

section

variable (answers : Answers Database) {db : Db} {env : Env} {caller : Identity} {panel : Panel}

instance (panelId organizationId : Id) : Reads (accessiblePanel panelId organizationId) := by
  unfold accessiblePanel
  infer_instance

instance (panelId organizationId : Id) : Reads (panelIsMine panelId organizationId) := by
  unfold panelIsMine
  infer_instance

instance (organizationId panelId : Id) : Reads (orgBinding organizationId panelId) := by
  unfold orgBinding
  infer_instance

instance (value : String) : Reads (enabledFlag value) := by
  unfold enabledFlag
  infer_instance

theorem manager_ok {telegramId : Int} {permission : Permission}
    (managed : ((manager env telegramId permission).run answers (.opened db)).1 = .ok caller) :
    ((membershipFor env telegramId).serve answers db).1 = .ok caller ∧
      can (effectiveRole env.rootTelegramId telegramId caller.membership.role) permission = true := by
  unfold manager at managed
  rw [run_bind_of_reads] at managed
  cases resolved : ((membershipFor env telegramId).run answers (.opened db)).1 with
  | error exception => rw [resolved] at managed; exact nomatch managed
  | ok identity =>
      rw [resolved] at managed
      dsimp only at managed
      rw [run_bind_of_reads, run_require] at managed
      split_ifs at managed with allowed
      · cases managed
        exact ⟨resolved, allowed⟩

theorem accessiblePanel_ok {panelId organizationId : Id}
    (accessible : ((accessiblePanel panelId organizationId).run answers (.opened db)).1 =
      .ok panel) : panel ∈ db.panels ∧ panel.status = .active := by
  unfold accessiblePanel at accessible
  rw [run_scalar_bind, run_scalar_bind] at accessible
  split_ifs at accessible
  · rw [run_get_bind] at accessible
    change ((found ((db.find .panels panelId).filter _) _).run answers _).1 = _ at accessible
    cases stored : (db.find .panels panelId).filter fun panel => panel.status = .active with
    | none => rw [stored] at accessible; exact nomatch accessible
    | some row =>
        rw [stored] at accessible
        cases accessible
        obtain ⟨present, active⟩ := Option.filter_eq_some_iff.mp stored
        exact ⟨(Db.find_mem present).1, of_decide_eq_true active⟩
  · exact nomatch accessible

theorem panelIsMine_ok {panelId organizationId : Id}
    (mine : ((panelIsMine panelId organizationId).run answers (.opened db)).1 = .ok true) :
    db.OwnsPanel panelId organizationId := by
  unfold panelIsMine at mine
  rw [run_scalar_bind] at mine
  cases owned : db.first .panelOwners fun row =>
      row.panelId = panelId ∧ row.organizationId = organizationId with
  | none =>
      rw [show Db.first (Alone.opened db : Alone Database).view .panelOwners _ = none from owned]
        at mine
      exact nomatch mine
  | some link =>
      have own := List.find?_some owned
      exact ⟨link, List.mem_of_find?_eq_some owned, of_decide_eq_true own⟩

theorem orgBinding_ok {panelId organizationId : Id} {binding : Binding}
    (bound : ((orgBinding organizationId panelId).run answers (.opened db)).1 = .ok binding) :
    binding ∈ db.bindings ∧ binding.organizationId = organizationId ∧
      binding.panelId = panelId := by
  unfold orgBinding at bound
  rw [run_scalar_bind] at bound
  cases stored : db.first .bindings fun row =>
      row.organizationId = organizationId ∧ row.panelId = panelId with
  | none =>
      rw [show Db.first (Alone.opened db : Alone Database).view .bindings _ = none from stored]
        at bound
      exact nomatch bound
  | some row =>
      rw [show Db.first (Alone.opened db : Alone Database).view .bindings _ = some row from stored]
        at bound
      cases bound
      have own := List.find?_some stored
      exact ⟨List.mem_of_find?_eq_some stored, of_decide_eq_true own⟩

/-- A call about a subscriber is not among the questions of another call. -/
theorem AsksPanel.mem {own call : PanelCall} {target : Panel} {before later : List Query}
    (asks : AsksPanel panel own before later) (fresh : .panel target call ∉ before)
    (asked : .panel target call ∈ later) : target = panel ∧ call = own := by
  obtain ⟨new, rfl, only⟩ := asks
  rcases List.mem_append.mp asked with old | recent
  · exact absurd old fresh
  · rcases only _ recent with same | ⟨reference, same⟩
    · cases same
      exact ⟨rfl, rfl⟩
    · exact nomatch same

/-- A change reaches the panel only past the check. -/
theorem changeSubscriber_asked {userId other : Int} {action : String} {own call : PanelCall}
    {target : Panel} (changes : call.subscriber? = some other)
    (asked : .panel target call ∈
      ((changeSubscriber caller panel userId action own).run answers (.opened db)).2.asked) :
    (target = panel ∧ call = own) ∧ (db.OwnsPanel panel.id caller.organization.id ∨
      Attributed answers
        ((changeSubscriber caller panel userId action own).run answers (.opened db)).2.asked db
        panel caller.organization.id userId) := by
  unfold changeSubscriber at asked ⊢
  rw [run_bind_of_reads] at asked ⊢
  cases owned : ((panelIsMine panel.id caller.organization.id).run answers (.opened db)).1 with
  | error exception => rw [owned] at asked; exact absurd asked List.not_mem_nil
  | ok mine =>
      rw [owned] at asked
      dsimp only at asked ⊢
      rw [run_bind, run_when] at asked ⊢
      cases mine with
      | true =>
          rw [if_neg (by decide)] at asked ⊢
          dsimp only at asked ⊢
          have asks := (panelOperation_asked answers (.opened db) panel own
            caller.organization.id action (some caller.actor.id)).1
          exact ⟨asks.mem List.not_mem_nil asked, .inl (panelIsMine_ok answers owned)⟩
      | false =>
          rw [if_pos rfl] at asked ⊢
          rw [run_bind_of_reads] at asked ⊢
          cases bound : ((orgBinding caller.organization.id panel.id).run answers
              (.opened db)).1 with
          | error exception => rw [bound] at asked; exact absurd asked List.not_mem_nil
          | ok binding =>
              rw [bound] at asked
              dsimp only at asked ⊢
              obtain ⟨reads, passes⟩ := assertBoundSubscriber_asked answers (.opened db)
                panel caller.organization.id binding userId (some caller.actor.id)
              cases checked : (assertBoundSubscriber panel caller.organization.id binding userId
                  (some caller.actor.id)).run answers (.opened db) with
              | mk result later =>
                  rw [checked] at asked reads passes
                  have unread : .panel target call ∉ later.asked := by
                    intro early
                    obtain ⟨_, rfl⟩ := reads.mem List.not_mem_nil early
                    exact nomatch changes
                  cases result with
                  | error exception => exact absurd asked unread
                  | ok _ =>
                      dsimp only at asked ⊢
                      have asks := (panelOperation_asked answers later panel own
                        caller.organization.id action (some caller.actor.id)).1
                      obtain ⟨record, answered, names⟩ := passes rfl
                      obtain ⟨present, organization, server⟩ := orgBinding_ok answers bound
                      refine ⟨asks.mem unread asked, .inr ⟨binding, present, server, organization,
                        record, ?_, names⟩⟩
                      obtain ⟨new, grown, _⟩ := asks
                      rw [grown]
                      exact answered.append answers new

end

section

variable {ι ρ : Type} [DecidableEq ι] {Allowed : Prog Database ρ → Prop} {store : Db}
  {world : World Database ι ρ} {env : Env}

/-- A route that asks anything has resolved its caller and the server. -/
theorem run_accessed (answers : Answers Database) {db : Db} {telegramId : Int} {panelId : Id}
    (rest : Identity → Panel → Op Unit) {query : Query}
    (asked : query ∈ ((do
      let caller ← manager env telegramId .subscriberControl
      let panel ← accessiblePanel panelId caller.organization.id
      rest caller panel).run answers (.opened db)).2.asked) :
    ∃ caller server,
      ((manager env telegramId .subscriberControl).run answers (.opened db)).1 = .ok caller ∧
        ((accessiblePanel panelId caller.organization.id).run answers (.opened db)).1 =
          .ok server ∧
        (do
          let caller ← manager env telegramId .subscriberControl
          let panel ← accessiblePanel panelId caller.organization.id
          rest caller panel).run answers (.opened db) =
            (rest caller server).run answers (.opened db) := by
  rw [run_bind_of_reads] at asked ⊢
  cases managed : ((manager env telegramId .subscriberControl).run answers (.opened db)).1 with
  | error exception => rw [managed] at asked; exact absurd asked List.not_mem_nil
  | ok caller =>
      rw [managed] at asked
      dsimp only at asked ⊢
      rw [run_bind_of_reads] at asked ⊢
      cases accessible : ((accessiblePanel panelId caller.organization.id).run answers
          (.opened db)).1 with
      | error exception => rw [accessible] at asked; exact absurd asked List.not_mem_nil
      | ok server => exact ⟨caller, server, rfl, accessible, rfl⟩

/-- The routes that change a subscriber resolve the caller and the server before. -/
theorem SubscriberRoute.may_change {identity : TelegramIdentity} {panelId : Id} {userId : Int}
    {route : Op Unit} (serves : SubscriberRoute env identity panelId userId route)
    (answers : Answers Database) {db : Db} {panel : Panel} {call : PanelCall} {other : Int}
    (changes : call.subscriber? = some other)
    (asked : .panel panel call ∈ (route.run answers (.opened db)).2.asked) :
    other = userId ∧ ∃ caller, MayChange env identity.userId answers
      (route.run answers (.opened db)).2.asked db panel userId caller := by
  cases serves with
  | resetUserData =>
      unfold webResetUserData at asked ⊢
      obtain ⟨caller, server, managed, accessible, rest⟩ := run_accessed answers _ asked
      obtain ⟨resolved, permitted⟩ := manager_ok answers managed
      obtain ⟨stored, active⟩ := accessiblePanel_ok answers accessible
      rw [rest] at asked ⊢
      obtain ⟨⟨rfl, rfl⟩, entitled⟩ := changeSubscriber_asked answers changes asked
      cases changes
      exact ⟨rfl, caller, resolved, permitted, stored, active, entitled⟩
  | setUserEnabled enabled =>
      unfold webSetUserEnabled at asked ⊢
      obtain ⟨caller, server, managed, accessible, rest⟩ := run_accessed answers _ asked
      obtain ⟨resolved, permitted⟩ := manager_ok answers managed
      obtain ⟨stored, active⟩ := accessiblePanel_ok answers accessible
      rw [rest] at asked ⊢
      rw [run_bind_of_reads] at asked ⊢
      cases parsed : ((enabledFlag enabled).run answers (.opened db)).1 with
      | error exception => rw [parsed] at asked; exact absurd asked List.not_mem_nil
      | ok flag =>
          rw [parsed] at asked
          dsimp only at asked ⊢
          obtain ⟨⟨rfl, rfl⟩, entitled⟩ := changeSubscriber_asked answers changes asked
          cases changes
          exact ⟨rfl, caller, resolved, permitted, stored, active, entitled⟩

/-- In every state that any sessions reach, a change of a subscriber reaches an active server for a
permitted caller whose organization owns the server or is bound to it as the admin in the panel's
own record; one record admits one such organization. -/
theorem subscriber_change_permitted (opening : Integrity store)
    (reached : World.Reachable Allowed store world) :
    (∀ identity panelId userId route, SubscriberRoute env identity panelId userId route →
      ∀ answers panel call other, PanelCall.subscriber? call = some other →
        .panel panel call ∈ (route.run answers (.opened world.store)).2.asked →
          other = userId ∧ ∃ caller, MayChange env identity.userId answers
            (route.run answers (.opened world.store)).2.asked world.store panel userId caller) ∧
      ∀ (panel : Panel) (userId : Int) (record : Json),
        ∀ first ∈ world.store.bindings, ∀ second ∈ world.store.bindings,
          first.panelId = panel.id → second.panelId = panel.id →
          ∀ answers others : Answers Database,
            (∀ index, answers (.panel panel (.user userId)) index = .ok record) →
            (∀ index, others (.panel panel (.user userId)) index = .ok record) →
            ∀ actorId otherId,
              ((assertBoundSubscriber panel first.organizationId first userId actorId).serve answers
                world.store).1 = .ok () →
              ((assertBoundSubscriber panel second.organizationId second userId otherId).serve others
                world.store).1 = .ok () →
              first.organizationId = second.organizationId := by
  have integrity : Integrity world.store :=
    (Agreement.Sound.reachable (C := layout.integrity Query Query.Answer)
      (fun program _ => Layout.integrity_meets layout Query Query.Answer program) opening
      reached).inv
  refine ⟨fun identity panelId userId route serves answers panel call other changes asked =>
    serves.may_change answers changes asked, ?_⟩
  intro panel userId record first firstMember second secondMember firstServer secondServer answers
    others replies sameReplies actorId otherId firstPasses secondPasses
  have names {answers : Answers Database} {binding : Binding} {actorId : Option Id}
      (replies : ∀ index, answers (.panel panel (.user userId)) index = .ok record)
      (passes : ((assertBoundSubscriber panel binding.organizationId binding userId actorId).serve
        answers world.store).1 = .ok ()) :
      (adminOf (unwrapUser record)).toInt? = some binding.pgAdminId := by
    obtain ⟨other, ⟨index, _, replied⟩, own⟩ := (assertBoundSubscriber_asked answers
      (.opened world.store) panel binding.organizationId binding userId actorId).2 passes
    rw [replies index] at replied
    cases replied
    exact own
  have admin : first.pgAdminId = second.pgAdminId :=
    Option.some.inj ((names replies firstPasses).symm.trans (names sameReplies secondPasses))
  have same : first = second := by
    refine integrity.eq_of_entry .bindings firstMember rfl
      (show .admin first.panelId first.pgAdminId ∈ _ from ?_) secondMember rfl ?_
    · simp [Table.uniqueEntries]
    · simp [Table.uniqueEntries, admin, firstServer, secondServer]
  rw [same]

end

namespace Sample

/-- A panel that names an administrator for every subscriber, as a text inside of a record. -/
def attributing (admin : String) : Answers Database
  | .panel _ (.user _), _ => .ok (.dict [("user", .dict [("admin_id", .str admin)])])
  | query, count => answers query count

end Sample

/-- A buyer resets the counters of a subscriber that the panel attributes to it, on the server of
its seller. -/
theorem subscriber_change_permitted_sold :
    ∃ world : World Database Unit (Except Failure Unit),
      World.Reachable (OrderOperation Sample.env) Sample.workspace world ∧
        ∃ panel caller, ¬Db.OwnsPanel world.store panel.id caller.organization.id ∧
          MayChange Sample.env 12 (Sample.attributing "8")
            ((webResetUserData Sample.env ⟨12, "Buyer"⟩ "panel" 5).run (Sample.attributing "8")
              (.opened world.store)).2.asked world.store panel 5 caller := by
  obtain ⟨before, quiet, reached, hired⟩ := Sample.hired_reachable ()
  obtain ⟨world, reached, same⟩ := Sample.sold_reachable () 9 quiet reached
  rw [hired] at same
  obtain ⟨⟨panel, _, asked⟩, buyer, owners⟩ :
      (∃ panel ∈ (Sample.sold 9 Sample.hired).panels, Query.panel panel (.resetUserData 5) ∈
        ((webResetUserData Sample.env ⟨12, "Buyer"⟩ "panel" 5).run (Sample.attributing "8")
          (.opened (Sample.sold 9 Sample.hired))).2.asked) ∧
      (((membershipFor Sample.env 12).serve (Sample.attributing "8")
        (Sample.sold 9 Sample.hired)).1.toOption.map fun caller => caller.organization.id) =
          some "uuuuuuuuuuuuuuuuuuuuuuuuuuuuuuuuuuuu" ∧
      ∀ link ∈ (Sample.sold 9 Sample.hired).panelOwners,
        link.organizationId ≠ "uuuuuuuuuuuuuuuuuuuuuuuuuuuuuuuuuuuu" := by
    decide +kernel
  rw [← same] at asked buyer owners
  obtain ⟨_, caller, permitted⟩ := (subscriber_change_permitted Sample.integrity reached).1
    ⟨12, "Buyer"⟩ "panel" 5 _ .resetUserData (Sample.attributing "8") panel (.resetUserData 5) 5 rfl
    asked
  refine ⟨world, reached, panel, caller, ?_, permitted⟩
  rw [permitted.resolved] at buyer
  rintro ⟨link, member, _, own⟩
  exact owners link member (own.trans (Option.some.inj buyer))

end ControlPlane
