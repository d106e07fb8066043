import ControlPlane.Bot.Dispatch
import ControlPlane.Delivery.Untroubled
import ControlPlane.Sustaining
import ControlPlane.WebApi.Subscribers

/-!
# Panels behind the bot

A callback of the bot reaches a panel only through the buttons of a node list, on
an active server of the chat's organization. The WebApp asks for a permission on
the same routes; the bot does not.
-/

namespace ControlPlane

open ReadCommitted Orm PythonText

/-! ## Programs that stay off the panels -/

/-- Any statement may be committed, and everything may be asked but a panel. -/
abbrev offPanels : Agreement Database :=
  solo (fun _ _ => True) fun query => ∀ panel call, query ≠ .panel panel call

/-- Any statement. -/
abbrev Anything : Database.Write → Prop := fun _ => True

/-- Nothing is asked of a transaction. -/
abbrev lawless : Law Database := fun _ _ _ => True

instance : OffPanel offPanels := ⟨fun _ off => off⟩

instance : offPanels.Sanctions Anything lawless where
  held _ _ := trivial
  benign _ _ := trivial
  nil _ := trivial
  commit _ _ _ _ _ := trivial

instance (table : Table) : Admitted Anything table := ⟨fun _ => trivial, fun _ _ => trivial⟩

/-- A program that makes no call on a panel. -/
abbrev Silent (program : Op α) : Prop := Sustains offPanels Anything lawless program

/-- One silent program after another. -/
theorem Silent.andThen {program : Op α} {rest : α → Op β} [Silent program]
    (second : ∀ value, Silent (rest value)) : Silent (program >>= rest) := inferInstance

/-- What a silent program asks when it runs alone. -/
theorem Silent.asked (answers : Answers Database) {program : Op α} (silent : Silent program)
    (db : Db) : ∀ panel call, .panel panel call ∉ (program.run answers (.opened db)).2.asked := by
  intro panel call asked
  have kept := silent.sustains ⟨[], [], [], db⟩ (.fresh Anything trivial)
  obtain ⟨_, respects, _⟩ := Orm.wp_run answers (.opened db) trivial kept
  obtain ⟨new, grown, off⟩ := respects.asked
  rw [grown] at asked
  exact off _ asked panel call rfl

/-! ## Core functions -/

set_option synthInstance.maxSize 100000 in
instance (parentId : Id) (name slug : String) (creditLimitIrr pricePerGibIrr : Int) :
    Silent (openChild parentId name slug creditLimitIrr pricePerGibIrr) := by
  unfold openChild
  infer_instance

set_option synthInstance.maxSize 100000 in
instance (env : Env) (locked : PanelOrder) (reviewerId sellerId : Id) (attach : Option OrderApproveIn) :
    Silent (approvePanelOrder env locked reviewerId sellerId attach) := by
  unfold approvePanelOrder
  refine Silent.andThen fun _ => Silent.andThen fun _ => Silent.andThen fun order => ?_
  refine Silent.andThen fun _ => Silent.andThen fun panel => Silent.andThen fun _ => ?_
  refine Silent.andThen fun parent => Silent.andThen fun _ => Silent.andThen fun _ => ?_
  infer_instance

/-! ## The bot -/

/-- The context of a chat in a state of the database. -/
def Db.contextOf (db : Db) (env : Env) (chatId : Int) : Option Bot.Context :=
  match ((Bot.context env chatId).serve Sample.answers db).1 with
  | .ok value => value
  | .error _ => none

namespace Bot

instance (chatId : Int) : Silent (send chatId) := by
  unfold send
  infer_instance

instance : Silent answerCallback := by
  unfold answerCallback
  infer_instance

instance (chats : List Int) (exceptChat : Option Int) : Silent (notifyChats chats exceptChat) := by
  unfold notifyChats
  infer_instance

instance (env : Env) (chatId : Int) : Silent (currentRole env chatId) := by
  unfold currentRole
  infer_instance

instance (env : Env) (chatId : Int) : Silent (catalogPanels env chatId) := by
  unfold catalogPanels
  infer_instance

instance (planId : Id) : Silent (pickPlan planId) := by
  unfold pickPlan
  infer_instance

instance (env : Env) (chatId : Int) (orderId : Id) : Silent (orderDetail env chatId orderId) := by
  unfold orderDetail
  infer_instance

instance (env : Env) (chatId : Int) (orderId : Id) (approve : Bool) (reason : String)
    (attach : Option OrderApproveIn) :
    Silent (reviewerOrderAction env chatId orderId approve reason attach) := by
  unfold reviewerOrderAction
  infer_instance

instance (orderId : Id) : Silent (orderNeedsAdmin orderId) := by
  unfold orderNeedsAdmin
  infer_instance

instance (orderId : Id) : Silent (orderOwnerTelegramId orderId) := by
  unfold orderOwnerTelegramId
  infer_instance

instance (organizationId : Option Id) (roles : List Role) :
    Silent (staffChats organizationId roles) := by
  unfold staffChats
  infer_instance

instance (chatId : Int) : Silent (getState chatId) := by
  unfold getState
  infer_instance

instance (chatId : Int) (dialogue : Dialogue) : Silent (setState chatId dialogue) := by
  unfold setState
  infer_instance

instance (chatId : Int) : Silent (clearState chatId) := by
  unfold clearState
  infer_instance

instance (env : Env) (chatId : Int) : Silent (sendMenu env chatId) := by
  unfold sendMenu
  infer_instance

instance (body : Op α) [Silent body] (denied : Op Unit) [Silent denied] (next : α → Op Unit)
    [∀ value, Silent (next value)] :
    Silent (unlessDenied body denied next) := by
  unfold unlessDenied
  infer_instance

instance (env : Env) (chatId : Int) : Silent (catalogList env chatId) := by
  unfold catalogList
  infer_instance

instance (chatId : Int) (flow step : String) (data : List (String × Value)) :
    Silent (begin chatId flow step data) := by
  unfold begin
  infer_instance

instance (chatId : Int) : Silent (beginReseller chatId) := by
  unfold beginReseller
  infer_instance

instance (chatId : Int) (panelId : Id) : Silent (beginOrder chatId panelId) := by
  unfold beginOrder
  infer_instance

instance (chatId : Int) (planId : Id) : Silent (beginPlanOrder chatId planId) := by
  unfold beginPlanOrder
  infer_instance

instance (chatId : Int) (orderId : Id) : Silent (beginQuote chatId orderId) := by
  unfold beginQuote
  infer_instance

instance (chatId : Int) : Silent (beginShelf chatId) := by
  unfold beginShelf
  infer_instance

instance (env : Env) (chatId : Int) : Silent (beginPlan env chatId) := by
  unfold beginPlan
  infer_instance

instance (chatId : Int) : Silent (beginCredit chatId) := by
  unfold beginCredit
  infer_instance

set_option synthInstance.maxSize 100000 in
instance (env : Env) (chatId : Int) (orderId : Id) (approve callback : Bool)
    (attach : Option OrderApproveIn) :
    Silent (applyApproval env chatId orderId approve callback attach) := by
  unfold applyApproval
  infer_instance

instance (env : Env) (chatId : Int) : Silent (viewSection env chatId) := by
  unfold viewSection
  infer_instance

instance (env : Env) (chatId : Int) (permission : Permission) :
    Silent (permittedSection env chatId permission) := by
  unfold permittedSection
  infer_instance

instance (env : Env) (chatId : Int) (target : String) :
    Silent (accountSection env chatId target) := by
  unfold accountSection
  infer_instance

instance (env : Env) (chatId : Int) (target : String) :
    Silent (showSection env chatId target) := by
  unfold showSection
  infer_instance

instance (env : Env) (chatId : Int) (target : String) :
    Silent (openSection env chatId target) := by
  unfold openSection
  infer_instance

instance (env : Env) (chatId : Int) (orderId : Id) (status : OrderStatus) :
    Silent (customerCallback env chatId orderId status) := by
  unfold customerCallback
  infer_instance

instance (env : Env) (chatId : Int) (orderId : Id) :
    Silent (approveCallback env chatId orderId) := by
  unfold approveCallback
  infer_instance

instance (env : Env) (chatId : Int) (orderId : Id) (action : String) :
    Silent (orderCallback env chatId orderId action) := by
  unfold orderCallback
  infer_instance

instance (env : Env) (chatId : Int) (step key : String) (value : Value) (next : String) :
    Silent (choose env chatId step key value next) := by
  unfold choose
  infer_instance

instance (env : Env) (chatId : Int) (requestId : Id) (approve : Bool) :
    Silent (fundingCallback env chatId requestId approve) := by
  unfold fundingCallback
  infer_instance

/-! ## What a callback asks of a panel -/

/-- A node operation on a server of the chat's organization. -/
def reach (env : Env) (chatId : Int) (panelId : Id) (action : String) (call : PanelCall) :
    Op Unit := do
  let caller ← requireContext env chatId
  withSession do
    let panel ← botPanel panelId caller.organizationId
    runPanelOperation caller panel action call

/-- The call on a panel that a payload asks for. -/
def requested (data : String) : Option (Id × PanelCall) :=
  match split '|' data with
  | ["nodes", panelId] => some (panelId, .nodes)
  | ["node", panelId, nodeId, action] => do
      let id ← int? nodeId
      if action = "status" then some (panelId, .nodeStatus id)
      else (nodeOperation action).map fun operation => (panelId, operation.2 id)
  | _ => none

/-- With a number, a node operation is a call on a server of the chat's organization. -/
theorem runNode_eq (env : Env) (chatId : Int) (panelId : Id) {nodeId : String} {id : Int}
    (parsed : int? nodeId = some id) (action : String) (call : Int → PanelCall) :
    runNode env chatId panelId nodeId action call = reach env chatId panelId action (call id) := by
  unfold runNode reach
  rw [parsed]
  rfl

/-- Without a number, nothing is called. -/
theorem silent_runNode (env : Env) (chatId : Int) (panelId : Id) {nodeId : String}
    (parsed : int? nodeId = none) (action : String) (call : Int → PanelCall) :
    Silent (runNode env chatId panelId nodeId action call) := by
  unfold runNode
  rw [parsed]
  change Silent (requireContext env chatId >>= fun caller => withSession
    (botPanel panelId caller.organizationId >>= fun _ =>
      throw (.valueError "invalid literal for int() with base 10")))
  infer_instance

/-- A payload that asks for no call on a panel makes none. -/
theorem silent_dispatch (env : Env) (chatId : Int) {data : String}
    (none : requested data = none) : Silent (dispatch env chatId data) := by
  unfold dispatch
  unfold requested at none
  split
  case h_2 pieces =>
    rw [pieces] at none
    cases none
  case h_3 panelId nodeId action pieces =>
    rw [pieces] at none
    have silent : Silent (nodeAction env chatId panelId nodeId action) := by
      unfold nodeAction
      cases parsed : int? nodeId with
      | none =>
          have numberless := silent_runNode env chatId panelId parsed
          infer_instance
      | some id =>
          have none : ((int? nodeId).bind fun id =>
              if action = "status" then some (panelId, PanelCall.nodeStatus id)
              else (nodeOperation action).map fun operation => (panelId, operation.2 id)) =
                Option.none := none
          rw [parsed, Option.bind_some] at none
          split_ifs at none with status
          rw [if_neg status, Option.map_eq_none_iff.mp none]
          exact Sustains.throw _
    infer_instance
  all_goals infer_instance

/-- What follows a call of a callback: a notice and a message. -/
inductive Closing : (Unit → Op Unit) → Prop
  | nodes (chatId : Int) : Closing fun _ => do
      answerCallback
      send chatId
  | node (chatId : Int) (action : String) : Closing fun _ => do
      answerCallback
      when (action = "status") (send chatId)

/-- A payload that asks for a call makes it on a server of the chat's organization. -/
theorem dispatch_requested (env : Env) (chatId : Int) {data : String} {panelId : Id}
    {call : PanelCall} (asks : requested data = some (panelId, call)) :
    ∃ action rest, Closing rest ∧
      dispatch env chatId data = reach env chatId panelId action call >>= rest := by
  unfold requested at asks
  split at asks
  · next panel pieces =>
      cases asks
      refine ⟨"panel.nodes.read", _, .nodes chatId, ?_⟩
      unfold dispatch
      rw [pieces]
      rfl
  · next panel nodeId action pieces =>
      obtain ⟨id, parsed, asks⟩ := Option.bind_eq_some_iff.mp asks
      have dispatched : dispatch env chatId data = (nodeAction env chatId panel nodeId action >>=
          fun _ => do
            answerCallback
            when (action = "status") (send chatId)) := by
        unfold dispatch
        rw [pieces]
        rfl
      rw [dispatched]
      unfold nodeAction
      split_ifs at asks with status
      · cases asks
        rw [if_pos status, runNode_eq env chatId _ parsed]
        exact ⟨_, _, .node chatId action, rfl⟩
      · obtain ⟨operation, known, same⟩ := Option.map_eq_some_iff.mp asks
        cases same
        rw [if_neg status, known]
        change ∃ name rest, Closing rest ∧
          (runNode env chatId panelId nodeId operation.1 operation.2 >>= _) = _
        rw [runNode_eq env chatId _ parsed]
        exact ⟨_, _, .node chatId action, rfl⟩
  · exact nomatch asks

/-! ## The questions of a callback -/

section

variable (answers : Answers Database) (alone : Alone Database)

theorem run_send_asked (chatId : Int) :
    ((send chatId).run answers alone).2.asked = alone.asked ++ [.sendMessage chatId] := by
  unfold send consult
  rw [run_bind, run_ask]
  dsimp only
  rw [run_require]
  split_ifs <;> rfl

theorem run_answerCallback_asked :
    (answerCallback.run answers alone).2.asked = alone.asked ++ [.answerCallback] := by
  unfold answerCallback consult
  rw [run_bind, run_ask]
  dsimp only
  rw [run_require]
  split_ifs <;> rfl

/-- What is asked after a call is no call. -/
theorem Closing.asked {rest : Unit → Op Unit} (closing : Closing rest) (panel : Panel)
    (call : PanelCall) :
    .panel panel call ∈ ((rest ()).run answers alone).2.asked ↔ .panel panel call ∈ alone.asked := by
  have notice := run_answerCallback_asked answers alone
  cases closing with
  | nodes chatId =>
      dsimp only
      rw [run_bind]
      cases ran : answerCallback.run answers alone with
      | mk result later =>
          rw [ran] at notice
          cases result with
          | error exception =>
              dsimp only at notice ⊢
              rw [notice]
              simp
          | ok _ =>
              dsimp only at notice ⊢
              rw [run_send_asked, notice]
              simp
  | node chatId action =>
      dsimp only
      rw [run_bind]
      cases ran : answerCallback.run answers alone with
      | mk result later =>
          rw [ran] at notice
          cases result with
          | error exception =>
              dsimp only at notice ⊢
              rw [notice]
              simp
          | ok _ =>
              dsimp only at notice ⊢
              rw [run_when]
              split_ifs
              · rw [run_send_asked, notice]
                simp
              · rw [notice]
                simp

/-- A callback calls what its first part calls. -/
theorem asked_guarded {program : Op Unit} {rest : Unit → Op Unit} (closing : Closing rest)
    (panel : Panel) (call : PanelCall) :
    .panel panel call ∈ ((tryCatch (program >>= rest) fun _ => answerCallback).run answers
        alone).2.asked ↔ .panel panel call ∈ (program.run answers alone).2.asked := by
  rw [run_tryCatch, run_bind]
  cases program.run answers alone with
  | mk result later =>
      cases result with
      | error exception =>
          dsimp only
          rw [run_answerCallback_asked]
          simp
      | ok value =>
          dsimp only
          have closed := closing.asked answers later panel call
          cases ran : (rest ()).run answers later with
          | mk result last =>
              rw [ran] at closed
              cases result with
              | ok _ => exact closed
              | error exception =>
                  dsimp only at closed ⊢
                  rw [run_answerCallback_asked, List.mem_append, closed]
                  simp

/-- Closing a session asks nothing. -/
theorem withSession_asked (body : Op α) :
    ((withSession body).run answers alone).2.asked = (body.run answers alone).2.asked := by
  unfold withSession
  rw [run_bind, run_tryCatch]
  cases body.run answers alone with
  | mk result later => cases result <;> rfl

/-- Errors that turn into replies were raised after the same questions. -/
theorem runPanelOperation_asked (caller : Context) (panel : Panel) (action : String)
    (call : PanelCall) :
    ((runPanelOperation caller panel action call).run answers alone).2.asked =
      ((panelOperation panel caller.organizationId action call (some caller.actorId)).run answers
        alone).2.asked := by
  unfold runPanelOperation replying
  rw [run_bind, run_tryCatch]
  cases (panelOperation panel caller.organizationId action call (some caller.actorId)).run answers
      alone with
  | mk result later => cases result <;> rfl

end

/-! ## Whose server it is -/

section

variable (answers : Answers Database) (env : Env) (chatId : Int) (db : Db)

/-- Resolving a chat only reads, and reads nothing of the outside world. -/
theorem run_context :
    (context env chatId).run answers (.opened db) =
      (((context env chatId).serve Sample.answers db).1, .opened db) := by
  refine Prod.ext ?_ ?_
  · change ((context env chatId).serve answers db).1 = _
    rw [serve_context, serve_context]
    change Except.map _ ((optionalMembership chatId).run answers (.opened db)).1 =
      Except.map _ ((optionalMembership chatId).run Sample.answers (.opened db)).1
    rw [run_optionalMembership, run_optionalMembership]
  · exact run_context_session answers env chatId db

/-- A helper that needs a context goes on with the one of the chat. -/
theorem requireContext_asked {rest : Context → Op Unit} {query : Query} :
    query ∈ ((requireContext env chatId >>= rest).run answers (.opened db)).2.asked ↔
      ∃ caller, db.contextOf env chatId = some caller ∧
        query ∈ ((rest caller).run answers (.opened db)).2.asked := by
  unfold requireContext
  rw [run_bind, run_bind, run_context]
  unfold Db.contextOf
  cases ((context env chatId).serve Sample.answers db).1 with
  | error exception => exact ⟨fun asked => absurd asked List.not_mem_nil, nofun⟩
  | ok value =>
      cases value with
      | none => exact ⟨fun asked => absurd asked List.not_mem_nil, nofun⟩
      | some caller =>
          constructor
          · exact fun asked => ⟨caller, rfl, asked⟩
          · rintro ⟨_, ⟨⟩, asked⟩
            exact asked

/-- A server is found when it is active and the organization owns it. -/
theorem botPanel_ok {panelId organizationId : Id} {panel : Panel} :
    ((botPanel panelId organizationId).run answers (.opened db)).1 = .ok panel ↔
      db.find .panels panelId = some panel ∧ panel.status = .active ∧
        db.OwnsPanel panelId organizationId := by
  have owns : db.OwnsPanel panelId organizationId ↔ (db.first .panelOwners fun row =>
      row.panelId = panelId ∧ row.organizationId = organizationId).isSome := by
    unfold Db.first Db.OwnsPanel
    rw [List.find?_isSome]
    simp only [decide_eq_true_eq]
  unfold botPanel
  rw [run_scalar_bind, owns]
  change ((branch (db.first .panelOwners _) (pure none) (fun _ => get .panels panelId) >>= _ :
    Op Panel).run answers (.opened db)).1 = _ ↔ _
  cases db.first .panelOwners fun row =>
      row.panelId = panelId ∧ row.organizationId = organizationId with
  | none => exact ⟨nofun, fun found => nomatch found.2.2⟩
  | some link =>
      change ((found ((db.find .panels panelId).filter _) _ : Op Panel).run answers
        (.opened db)).1 = _ ↔ _
      cases stored : db.find .panels panelId with
      | none => exact ⟨nofun, fun found => nomatch found.1⟩
      | some row =>
          rw [Option.filter_some]
          split_ifs with active
          · constructor
            · rintro ⟨⟩
              exact ⟨rfl, of_decide_eq_true active, rfl⟩
            · rintro ⟨⟨⟩, _, _⟩
              rfl
          · refine ⟨nofun, ?_⟩
            rintro ⟨⟨⟩, open_, _⟩
            exact absurd (decide_eq_true open_) active

instance (panelId organizationId : Id) : Reads (botPanel panelId organizationId) := by
  unfold botPanel
  infer_instance

/-- An audited call asks what the call itself asks. -/
theorem panelOperation_asked_eq (alone : Alone Database) (panel : Panel) (organizationId : Id)
    (action : String) (call : PanelCall) (actorId : Option Id) :
    ((panelOperation panel organizationId action call actorId).run answers alone).2.asked =
      ((panelAnswer panel call).run answers alone).2.asked := by
  obtain ⟨answer, later, ran, _⟩ := panelAnswer_asked answers alone panel call
  rw [ran]
  exact (panelOperation_of_answer organizationId action actorId ran).1

/-- A panel of an unknown vendor is not called. -/
theorem supported_of_asked {alone : Alone Database} {panel target : Panel}
    {call other : PanelCall} (fresh : .panel target other ∉ alone.asked)
    (asked : .panel target other ∈ ((panelAnswer panel call).run answers alone).2.asked) :
    panel.vendor ∈ supportedVendors := by
  by_contra unsupported
  unfold panelAnswer panelClient at asked
  rw [run_tryCatch, run_bind, run_bind, run_require, if_neg unsupported] at asked
  exact fresh asked

/-- A panel of a known vendor is called. -/
theorem panelAnswer_asks (succeeds : Succeeds env answers) (alone : Alone Database) {panel : Panel}
    (supported : panel.vendor ∈ supportedVendors) (call : PanelCall) :
    .panel panel call ∈ ((panelAnswer panel call).run answers alone).2.asked := by
  unfold panelAnswer consult
  rw [run_tryCatch, run_bind, run_panelClient succeeds _ supported]
  dsimp only
  rw [run_ask]
  exact List.mem_append_right _ (List.mem_singleton_self _)

/-- What a callback may call: an active server of the chat's organization. -/
theorem reach_asked {panelId : Id} {action : String} {call other : PanelCall} {target : Panel} :
    .panel target other ∈ ((reach env chatId panelId action call).run answers
        (.opened db)).2.asked ↔
      ∃ caller, db.contextOf env chatId = some caller ∧ ∃ panel,
        (db.find .panels panelId = some panel ∧ panel.status = .active ∧
          db.OwnsPanel panelId caller.organizationId) ∧
        .panel target other ∈ ((panelAnswer panel call).run answers (.opened db)).2.asked := by
  unfold reach
  rw [requireContext_asked]
  refine exists_congr fun caller => and_congr_right fun _ => ?_
  rw [withSession_asked, run_bind_of_reads]
  have ok {panel : Panel} :
      ((botPanel panelId caller.organizationId).run answers (.opened db)).1 = .ok panel ↔
        db.find .panels panelId = some panel ∧ panel.status = .active ∧
          db.OwnsPanel panelId caller.organizationId := botPanel_ok answers db
  cases found : ((botPanel panelId caller.organizationId).run answers (.opened db)).1 with
  | error exception =>
      refine ⟨fun asked => absurd asked List.not_mem_nil, ?_⟩
      rintro ⟨panel, owned, _⟩
      rw [ok.mpr owned] at found
      exact nomatch found
  | ok panel =>
      dsimp only
      rw [runPanelOperation_asked, panelOperation_asked_eq]
      constructor
      · exact fun asked => ⟨panel, ok.mp found, asked⟩
      · rintro ⟨row, owned, asked⟩
        rw [ok.mpr owned] at found
        cases found
        exact asked

end

/-! ## Permissions -/

/-- The permission that the WebApp route of a call demands. -/
def permissionOf : PanelCall → Permission
  | .nodes => .manageServers
  | _ => .nodeControl

/-- A chat may make a call on a server: it is active and belongs to the chat's organization, and the
role of the chat holds the permission of the WebApp route. -/
def Entitled (env : Env) (chatId : Int) (db : Db) (panel : Panel) (call : PanelCall) : Prop :=
  ∃ caller, db.contextOf env chatId = some caller ∧ db.OwnsPanel panel.id caller.organizationId ∧
    panel ∈ db.panels ∧ panel.status = .active ∧ can caller.role (permissionOf call) = true

/-- A callback reaches a panel only for chats that are entitled to the call, exactly when the payload
asks for no call on an active server of the chat's organization, or the role of the chat holds the
permission of the WebApp route. -/
theorem callback_entitled_iff (env : Env) (chatId : Int) (data : String) (db : Db) :
    (∀ answers panel call,
      .panel panel call ∈ ((handleCallback env chatId data).run answers (.opened db)).2.asked →
        Entitled env chatId db panel call) ↔
      ∀ panelId call, requested data = some (panelId, call) →
        ∀ panel, db.find .panels panelId = some panel → panel.status = .active →
          panel.vendor ∈ supportedVendors → ∀ caller, db.contextOf env chatId = some caller →
            db.OwnsPanel panelId caller.organizationId →
              can caller.role (permissionOf call) = true := by
  unfold handleCallback
  cases asks : requested data with
  | none =>
      refine ⟨fun _ _ _ => nofun, fun _ answers panel call asked => ?_⟩
      have silent := silent_dispatch env chatId asks
      exact absurd asked (Silent.asked answers inferInstance db panel call)
  | some request =>
      obtain ⟨panelId, call⟩ := request
      obtain ⟨action, rest, closing, dispatched⟩ := dispatch_requested env chatId asks
      rw [dispatched]
      constructor
      · rintro entitled _ _ ⟨⟩ panel found active supported caller own owns
        have asked : .panel panel call ∈ ((reach env chatId panelId action call).run
            Sample.answers (.opened db)).2.asked :=
          (reach_asked Sample.answers env chatId db).mpr ⟨caller, own, panel,
            ⟨found, active, owns⟩,
            panelAnswer_asks Sample.answers Sample.env Sample.succeeds _ supported call⟩
        obtain ⟨other, same, _, _, _, permitted⟩ := entitled Sample.answers panel call
          ((asked_guarded Sample.answers _ closing panel call).mpr asked)
        rw [own] at same
        cases same
        exact permitted
      · intro permitted answers target other asked
        obtain ⟨caller, own, panel, ⟨found, active, owns⟩, asked⟩ :=
          (reach_asked answers env chatId db).mp
            ((asked_guarded answers _ closing target other).mp asked)
        have supported := supported_of_asked answers List.not_mem_nil asked
        obtain ⟨_, later, ran, asksPanel, _⟩ := panelAnswer_asked answers (.opened db) panel call
        rw [ran] at asked
        obtain ⟨rfl, rfl⟩ := asksPanel.mem List.not_mem_nil asked
        obtain ⟨stored, same⟩ := Db.find_mem found
        obtain rfl : target.id = panelId := Option.some.inj same
        exact ⟨caller, own, owns, stored, active,
          permitted _ other rfl target found active supported caller own owns⟩

/-- A viewer disables a node of the server that the shop owns. -/
theorem callback_entitled_fails :
    Integrity Sample.workspace ∧ ¬ ∀ panel call,
      .panel panel call ∈ ((handleCallback Sample.env 10 "node|panel|3|disable").run
        Sample.answers (.opened Sample.workspace)).2.asked →
        Entitled Sample.env 10 Sample.workspace panel call := by
  refine ⟨Sample.integrity, fun entitled => ?_⟩
  have asked : ∃ panel ∈ Sample.workspace.panels, .panel panel (.setNodeEnabled 3 false) ∈
      ((handleCallback Sample.env 10 "node|panel|3|disable").run
        Sample.answers (.opened Sample.workspace)).2.asked := by decide +kernel
  have role : (Sample.workspace.contextOf Sample.env 10).map (·.role) = some .viewer := by
    decide +kernel
  obtain ⟨panel, _, asked⟩ := asked
  obtain ⟨caller, own, _, _, _, permitted⟩ := entitled panel _ asked
  rw [own] at role
  obtain viewer : caller.role = .viewer := Option.some.inj role
  rw [viewer] at permitted
  exact absurd permitted (by decide)

end Bot

end ControlPlane
