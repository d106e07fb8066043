import ControlPlane.Decisions.Docket
import ControlPlane.Ledger.Idempotency
import ControlPlane.Library.Paths

/-!
# The WebApp and the bot decide alike

The branch route and the bot decide funding requests with programs of their
own. From one state, and for a caller whom both resolve to the same account and
organization, they commit the same.
-/

namespace ControlPlane

open ReadCommitted Orm

instance (table : Table) (key : table.Key) :
    Reads (α := no_index (Option table.Row)) (get table key) :=
  inferInstanceAs (Reads (select _))

instance (table : Table) (condition : table.Row → Bool) :
    Reads (α := no_index (Option table.Row)) (scalar table condition) :=
  inferInstanceAs (Reads (select _))

instance (table : Table) (condition : table.Row → Bool) :
    Reads (α := no_index (List table.Row)) (scalars table condition) :=
  inferInstanceAs (Reads (select _))

instance (key default : String) : Reads (setting key default) := by
  unfold setting
  infer_instance

instance (env : Env) (actorId : Id) (telegramId : Int) :
    Reads (pickMembership env actorId telegramId) := by
  unfold pickMembership
  infer_instance

instance (env : Env) (telegramId : Int) : Reads (membershipFor env telegramId) := by
  unfold membershipFor
  infer_instance

instance (env : Env) (telegramId : Int) (permission : Permission) :
    Reads (manager env telegramId permission) := by
  unfold manager
  infer_instance

instance (telegramId : Int) : Reads (optionalMembership telegramId) := by
  unfold optionalMembership
  infer_instance

variable (answers : Answers Database)

/-- Resolving a chat leaves its session as it was. -/
theorem run_context_session (env : Env) (chatId : Int) (db : Db) :
    ((Bot.context env chatId).run answers (.opened db)).2 = .opened db := by
  have kept : ((optionalMembership chatId).run answers (.opened db)).2 = .opened db :=
    Reads.reads _ _
  unfold Bot.context withSession
  rw [run_bind, run_tryCatch, run_bind]
  cases ran : (optionalMembership chatId).run answers (.opened db) with
  | mk result later =>
      obtain rfl : later = .opened db := (congrArg Prod.snd ran).symm.trans kept
      cases result <;> rfl

/-- Resolving a chat with a permission only reads. -/
theorem run_permitted (env : Env) (chatId : Int) (permission : Permission) (db : Db) :
    ((Bot.permitted env chatId permission).run answers (.opened db)).2 = .opened db := by
  have context := run_context_session answers env chatId db
  unfold Bot.permitted Bot.requireContext
  rw [run_bind, run_bind]
  cases ran : (Bot.context env chatId).run answers (.opened db) with
  | mk result later =>
      obtain rfl : later = .opened db := (congrArg Prod.snd ran).symm.trans context
      cases result with
      | error exception => rfl
      | ok value =>
          cases value with
          | none => rfl
          | some caller =>
              change ((require _ _ >>= _ : Op Bot.Context).run answers _).2 = _
              rw [run_require_bind]
              split <;> rfl

/-! ## A payment alone commits nothing -/

instance (table : Table) (key : table.Key) :
    Tentative (α := no_index (Option table.Row)) (get table key) :=
  inferInstanceAs (Tentative (select _))

instance (table : Table) (condition : table.Row → Bool) :
    Tentative (α := no_index (Option table.Row)) (scalar table condition) :=
  inferInstanceAs (Tentative (select _))

instance (table : Table) (row : table.Row) : Tentative (insert table row) :=
  inferInstanceAs (Tentative (add _))

instance (table : Table) (key : table.Key) (columns : table.Change) :
    Tentative (assign table key columns) :=
  inferInstanceAs (Tentative (add _))

instance (query : Query) : Tentative (α := no_index query.Answer) (consult query) :=
  inferInstanceAs (Tentative (ask (S := Database) query))

instance (statement : Database.Write) : Tentative (execute statement : Op Bool) :=
  Tentative.execute statement

instance : Tentative uid := ⟨fun _ _ _ => rfl⟩

instance : Tentative now := ⟨fun _ _ _ => rfl⟩

instance (table : Table) (key : table.Key) :
    Tentative (α := no_index (Option table.Row)) (getForUpdate table key) := by
  unfold getForUpdate
  infer_instance

instance (statement : Database.Write) : Tentative (send statement) := by
  unfold send
  infer_instance

instance (owner : String) : Tentative (account owner) := by
  unfold account
  infer_instance

instance (source : String) (balanceIrr amountIrr : Int) :
    Tentative (checkPayer source balanceIrr amountIrr) := by
  unfold checkPayer
  infer_instance

set_option synthInstance.maxSize 100000 in
instance (source target : Account) (amountIrr : Int) (key kind reference : String)
    (actorId : Option Id) : Tentative (post source target amountIrr key kind reference actorId) := by
  unfold post
  infer_instance

set_option synthInstance.maxSize 100000 in
instance (source target : String) (amountIrr : Int) (key kind reference : String) (enforce : Bool)
    (actorId : Option Id) :
    Tentative (transfer source target amountIrr key kind reference enforce actorId) := by
  unfold transfer transferFresh
  infer_instance

instance (actorId : Id) (request : FundingRequest) : Tentative (payFundingRequest actorId request) := by
  unfold payFundingRequest
  infer_instance

/-! ## The routes -/

/-- What was committed so far, and the committed store. -/
def outcome (ran : Except Failure α × Alone Database) : List (Db × List Database.Write) × Db :=
  (ran.2.commits, ran.2.store)

/-- Closing the session of a callback commits nothing. -/
theorem outcome_withSession (body : Op α) (alone : Alone Database) :
    outcome ((withSession body).run answers alone) = outcome (body.run answers alone) := by
  unfold withSession
  rw [run_bind, run_tryCatch]
  cases body.run answers alone with
  | mk result later => cases result <;> rfl

/-- The statements with which a decision ends, and what follows them. -/
def settling (actorId : Id) (request : FundingRequest) (approve : Bool) (rest : Op α) : Op α := do
  when (approve = true) (payFundingRequest actorId request)
  let time ← now
  assign .fundingRequests request.id
    { status := some (if approve then .approved else .rejected)
      decidedBy := some (some actorId), decidedAt := some (some time) }
  audit (if approve then "funding_request.approve" else "funding_request.reject")
    "funding_request" request.id (some actorId) (some request.organizationId)
  commit
  rest

/-- Deciding goes on with what follows after a commit, or raises without one. -/
theorem run_settling (actorId : Id) (request : FundingRequest) (approve : Bool)
    (alone : Alone Database) :
    (∃ later : Alone Database, alone.commits.length < later.commits.length ∧
      ∀ {β : Type} (rest : Op β),
        (settling actorId request approve rest).run answers alone = rest.run answers later) ∨
      ∃ exception, ∃ later : Alone Database, alone.Same later ∧ ∀ {β : Type} (rest : Op β),
        (settling actorId request approve rest).run answers alone = (.error exception, later) := by
  have same : alone.Same ((when (approve = true) (payFundingRequest actorId request) :
      Op Unit).run answers alone).2 := Tentative.same answers alone
  cases paid : (when (approve = true) (payFundingRequest actorId request) : Op Unit).run answers
      alone with
  | mk result middle =>
  rw [paid] at same
  cases result with
  | error exception =>
      refine .inr ⟨exception, middle, same, fun rest => ?_⟩
      unfold settling
      rw [run_bind, paid]
  | ok value =>
      let recorded : Alone Database := { middle with
        asked := middle.asked ++ [.now]
        pending := middle.pending ++ [.update .fundingRequests request.id
          { status := some (if approve then .approved else .rejected)
            decidedBy := some (some actorId)
            decidedAt := some (some (answers .now middle.asked.length)) }] ++
          [.insert .auditLogs ⟨some actorId, some request.organizationId,
            if approve then "funding_request.approve" else "funding_request.reject",
            "funding_request", request.id, none⟩] }
      have ran : ∀ {β : Type} (rest : Op β),
          (settling actorId request approve rest).run answers alone =
            (commit >>= fun _ => rest).run answers recorded := by
        intro β rest
        unfold settling
        rw [run_bind, paid]
        rfl
      by_cases accepted : acceptsAll recorded.pending recorded.view = true
      · refine .inl ⟨{ recorded with
          store := replay recorded.pending recorded.view
          log := []
          commits := recorded.commits ++ [(recorded.store, recorded.log ++ recorded.pending)]
          pending := [] }, ?_, fun rest => ?_⟩
        · rw [← same.2]
          simp [recorded]
        · rw [ran, run_bind, run_commit, if_pos accepted]
      · refine .inr ⟨.database, { recorded with log := [], pending := [] }, same, fun rest => ?_⟩
        rw [ran, run_bind, run_commit, if_neg accepted]
        rfl

/-- The core of the branch route, as a decision about the request that it finds. -/
theorem run_decideFundingRequest (actorId branchId requestId : Id) (approve : Bool) (db : Db) :
    (decideFundingRequest actorId branchId requestId (if approve then "approve" else "reject")
        false).run answers (.opened db) =
      match db.find .fundingRequests requestId with
      | none => (.error (.http 404 "funding request not found"), .opened db)
      | some request =>
          if request.status = .pending then
            match db.find .organizations request.organizationId with
            | none => (.error (.http 404 "organization not found"), .opened db)
            | some child =>
                if child.parentId = some branchId then
                  (settling actorId request approve
                    (pure (if approve then FundingStatus.approved else .rejected))).run answers
                      (.opened db)
                else (.error (.http 403 "this request belongs to another reseller branch"),
                  .opened db)
          else (.error (.http 409 "funding request is already processed"), .opened db) := by
  unfold decideFundingRequest
  rw [run_require_bind, if_pos (by cases approve <;> decide), run_getForUpdate_bind,
    run_found_bind, show ((Alone.opened db : Alone Database).view : Db) = db from rfl]
  cases db.find .fundingRequests requestId with
  | none => rfl
  | some request =>
      dsimp only
      rw [run_require_bind]
      by_cases isOpen : request.status = .pending
      · rw [if_pos isOpen, if_pos isOpen, run_get_bind, run_found_bind,
          show ((Alone.opened db : Alone Database).view : Db) = db from rfl]
        cases db.find .organizations request.organizationId with
        | none => rfl
        | some child =>
            dsimp only
            rw [run_require_bind]
            by_cases own : child.parentId = some branchId
            · rw [if_pos (.inl own), if_pos own]
              cases approve <;> rfl
            · rw [if_neg (by simp [own]), if_neg own]
      · rw [if_neg isOpen, if_neg isOpen]

/-- The core of the bot's decision. -/
theorem run_botDecideFunding {env : Env} {chatId : Int} {requestId : Id} {approve : Bool} {db : Db}
    {caller : Bot.Context}
    (resolved : (Bot.permitted env chatId .decideFunding).run answers (.opened db) =
      (.ok caller, .opened db)) :
    outcome ((Bot.decideFunding env chatId requestId approve).run answers (.opened db)) =
      match db.find .fundingRequests requestId with
      | none => ([], db)
      | some request =>
          if request.status = .pending then
            match db.find .organizations request.organizationId with
            | none => ([], db)
            | some child =>
                if child.parentId = some caller.organizationId then
                  outcome ((settling caller.actorId request approve
                    (get .actors request.actorId >>= fun actor =>
                      pure (actor.map Actor.telegramId))).run answers (.opened db))
                else ([], db)
          else ([], db) := by
  unfold Bot.decideFunding
  rw [run_bind, resolved]
  dsimp only
  rw [outcome_withSession, run_getForUpdate_bind, run_branch,
    show ((Alone.opened db : Alone Database).view : Db) = db from rfl]
  cases db.find .fundingRequests requestId with
  | none => rfl
  | some request =>
      by_cases isOpen : request.status = .pending
      · rw [Option.filter_some_pos (by simpa using isOpen)]
        dsimp only
        rw [if_pos isOpen, run_get_bind]
        rw [show ((Alone.opened db : Alone Database).view : Db) = db from rfl, run_found_bind]
        cases db.find .organizations request.organizationId with
        | none => rfl
        | some child =>
            by_cases own : child.parentId = some caller.organizationId
            · rw [Option.filter_some_pos (by simpa using own)]
              dsimp only
              rw [if_pos own]
              rfl
            · rw [Option.filter_some_neg (by simpa using own)]
              dsimp only
              rw [if_neg own]
              rfl
      · rw [Option.filter_some_neg (by simpa using isOpen)]
        dsimp only
        rw [if_neg isOpen]
        rfl

/-- For a caller whom both resolve to the same account and organization, the branch route and the
bot commit the same statements and leave the same database; the branch route accepts the decision
exactly when something is committed. -/
theorem routes_agree {env : Env} {identity : TelegramIdentity} {chatId : Int} {db : Db}
    {caller : Identity} {context : Bot.Context} (requestId : Id) (approve : Bool)
    (web : ((manager env identity.userId .decideFunding).serve answers db).1 = .ok caller)
    (bot : ((Bot.permitted env chatId .decideFunding).serve answers db).1 = .ok context)
    (actor : caller.actor.id = context.actorId)
    (organization : caller.organization.id = context.organizationId) :
    outcome ((branchDecideFunding env identity requestId
        (if approve then "approve" else "reject")).run answers (.opened db)) =
        outcome ((Bot.decideFunding env chatId requestId approve).run answers (.opened db)) ∧
      (((branchDecideFunding env identity requestId
          (if approve then "approve" else "reject")).run answers (.opened db)).1.isOk = true ↔
        (outcome ((Bot.decideFunding env chatId requestId approve).run answers
          (.opened db))).1 ≠ []) := by
  have webRan : (manager env identity.userId .decideFunding).run answers (.opened db) =
      (.ok caller, .opened db) := Prod.ext web (Reads.reads _ _)
  have botRan : (Bot.permitted env chatId .decideFunding).run answers (.opened db) =
      (.ok context, .opened db) := Prod.ext bot (run_permitted ..)
  rw [run_botDecideFunding answers botRan]
  unfold branchDecideFunding
  rw [run_bind, webRan]
  dsimp only
  rw [run_decideFundingRequest, actor, organization]
  cases db.find .fundingRequests requestId with
  | none => exact ⟨rfl, by simp [Except.isOk, Except.toBool]⟩
  | some request =>
      dsimp only
      by_cases isOpen : request.status = .pending
      · rw [if_pos isOpen, if_pos isOpen]
        cases db.find .organizations request.organizationId with
        | none => exact ⟨rfl, by simp [Except.isOk, Except.toBool]⟩
        | some child =>
            dsimp only
            by_cases own : child.parentId = some context.organizationId
            · rw [if_pos own, if_pos own]
              rcases run_settling answers context.actorId request approve (.opened db) with
                ⟨later, longer, ran⟩ | ⟨exception, later, same, ran⟩
              · rw [ran, ran]
                refine ⟨rfl, iff_of_true rfl fun none => ?_⟩
                change later.commits = [] at none
                rw [none] at longer
                exact absurd longer (Nat.not_lt_zero _)
              · rw [ran, ran]
                exact ⟨rfl, iff_of_false (by simp [Except.isOk, Except.toBool])
                  (not_not.mpr same.2)⟩
            · rw [if_neg own, if_neg own]
              exact ⟨rfl, by simp [Except.isOk, Except.toBool]⟩
      · rw [if_neg isOpen, if_neg isOpen]
        exact ⟨rfl, by simp [Except.isOk, Except.toBool]⟩

end ControlPlane
