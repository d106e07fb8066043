import ControlPlane.Delivery.Histories
import ControlPlane.Delivery.Untroubled
import ControlPlane.Library.Consulting
import ControlPlane.System.Discipline

/-!
# What comes of a hold

A billing hold is queued as an event. Any number of workers deliver it, beside
other sessions and through crashes; once the event is done, its binding is out of
use and stays so, and the worker that handled it had limited the administrator on
the server unless the binding was out of use before.
-/

namespace ControlPlane

open ReadCommitted Orm

/-- A binding is out of use, or its server is. -/
def Db.OutOfUse (db : Db) (bindingId : Id) : Prop :=
  ∃ binding ∈ db.bindings, binding.id = bindingId ∧ (binding.status ≠ .active ∨
    ∃ panel ∈ db.panels, panel.id = binding.panelId ∧ panel.status ≠ .active)

/-- What is out of use stays so. -/
theorem Db.OutOfUse.since {db later : Db} {bindingId : Id} (idle : db.OutOfUse bindingId)
    (record : OnRecord db later) : later.OutOfUse bindingId := by
  obtain ⟨binding, member, own, out⟩ := idle
  obtain ⟨kept, present, follows⟩ := record.bindings binding member
  refine ⟨kept, present, by rw [follows.same]; exact own, ?_⟩
  rcases out with out | ⟨panel, there, its, inactive⟩
  · exact .inl fun used => out (follows.active used)
  · obtain ⟨last, stays, same⟩ :=
      record.remembered .panels (by decide) (by decide) panel there
    obtain ⟨id, _, _, _, _, _, _, _, _, status, _⟩ := Panel.mk.inj same
    refine .inr ⟨last, stays, ?_, by rw [status]; exact inactive⟩
    rw [follows.same]
    exact id.trans its

/-! ## The handler -/

section

instance (query : Query) :
    Consults (α := no_index (Query.Answer query)) (consult query : Op _) :=
  inferInstanceAs (Consults (ask query : Op _))

instance (organizationId : Id) : Reads (audience organizationId) :=
  inferInstanceAs (Reads (select _))

instance (env : Env) (chatIds : List Int) : Consults (notify env chatIds) := by
  unfold notify
  infer_instance

instance (panel : Panel) : Consults (resolveSecrets panel) := by
  unfold resolveSecrets
  infer_instance

instance (panel : Panel) : Consults (panelClient panel) := by
  unfold panelClient
  infer_instance

end

variable {env : Env} {answers : Answers Database} {db : Db} {event : Outbox}

/-- A server is asked to stop what comes in for the administrator of a binding. -/
def Limits (env : Env) (db : Db) (bindingId : Id) (query : Query) : Prop :=
  ∃ binding ∈ db.bindings, binding.id = bindingId ∧ ∃ panel ∈ db.panels,
    panel.id = binding.panelId ∧
      query = .panel panel (.modifyAdmin binding.pgAdminId env.holdLimitBytes)

/-- Messages that were all sent were all asked for. -/
theorem sends_asked {chatIds : List Int} {alone later : Alone Database}
    (ran : (forEach chatIds fun chatId => do
      let sent ← consult (.sendMessage chatId)
      require (sent = true) .unexpected : Op Unit).run answers alone = (.ok (), later)) :
    ∀ chatId ∈ chatIds, Query.sendMessage chatId ∈ later.asked := by
  induction chatIds generalizing alone with
  | nil => nofun
  | cons chatId chatIds inductionHypothesis =>
      have consults : Consults (forEach chatIds fun chatId => do
          let sent ← consult (.sendMessage chatId)
          require (sent = true) .unexpected : Op Unit) := inferInstance
      rw [run_forEach_cons, run_bind, show consult (.sendMessage chatId) =
        (ask (S := Database) (.sendMessage chatId) : Op Bool) from rfl, run_ask] at ran
      dsimp only at ran
      rw [run_require] at ran
      split_ifs at ran with sent
      · dsimp only at ran
        obtain ⟨more, same⟩ := consults.consults answers
          { alone with asked := alone.asked ++ [.sendMessage chatId] }
        rw [ran] at same
        intro other member
        rcases List.mem_cons.mp member with rfl | rest
        · obtain rfl : later = _ := same
          exact List.mem_append_left _ (List.mem_append_right _ List.mem_cons_self)
        · exact inductionHypothesis ran other rest
      · cases ran

/-- What a session recorded that then tells its audience and commits is in the store, and its
audience was told. -/
theorem announce_store {organizationId : Id} {alone later : Alone Database}
    (ran : (announce env organizationId).run answers alone = (.ok (), later)) :
    later.store = replay (S := Database) alone.pending alone.view ∧ alone.asked ⊆ later.asked ∧
      ∀ chatId ∈ alone.view.audience organizationId, Query.sendMessage chatId ∈ later.asked := by
  unfold announce at ran
  rw [run_bind, show (audience organizationId).run answers alone =
    (.ok (alone.view.audience organizationId), alone) from rfl] at ran
  obtain ⟨store, asked⟩ := store_of_consults_commit ran
  refine ⟨store, asked, ?_⟩
  dsimp only at ran
  rw [run_bind] at ran
  cases told : (notify env (alone.view.audience organizationId)).run answers alone with
  | mk result middle =>
      rw [told] at ran
      cases result with
      | error exception => cases ran
      | ok value =>
          dsimp only at ran
          rw [run_commit] at ran
          split_ifs at ran
          · cases ran
            unfold notify at told
            rw [run_bind, run_require] at told
            split_ifs at told
            · have sent := sends_asked told
              exact sent
            · cases told
          · cases ran

/-- Taking a binding out of use limits its administrator first. -/
theorem suspend_recorded {panel : Panel} {binding : Binding} {later : Alone Database}
    (ran : (do
      panelClient panel
      let answer ← consult (.panel panel (.modifyAdmin binding.pgAdminId env.holdLimitBytes))
      require (answer.isOk = true) .unexpected
      assign .bindings binding.id { status := some .suspended } : Op Unit).run answers
        (.opened db) = (.ok (), later)) :
    later.view = db ∧
      later.pending = [.update .bindings binding.id { status := some .suspended }] ∧
      .panel panel (.modifyAdmin binding.pgAdminId env.holdLimitBytes) ∈ later.asked := by
  have consults : Consults (panelClient panel) := inferInstance
  obtain ⟨early, asked⟩ := consults.consults answers (.opened db)
  rw [run_bind] at ran
  cases resolved : (panelClient panel).run answers (.opened db) with
  | mk result middle =>
      rw [resolved] at asked ran
      obtain rfl : middle = _ := asked
      cases result with
      | error exception => cases ran
      | ok value =>
          dsimp only at ran
          unfold consult assign at ran
          rw [run_bind, run_ask] at ran
          dsimp only at ran
          rw [run_bind, run_require] at ran
          split_ifs at ran with done
          · cases ran
            exact ⟨rfl, rfl, List.mem_append_right _ List.mem_cons_self⟩
          · cases ran

/-- A binding that was taken out of use is out of use. -/
theorem Db.suspended_update {binding : Binding} (stored : binding ∈ db.bindings) :
    (Database.apply (.update .bindings binding.id { status := some .suspended }) db).OutOfUse
      binding.id := by
  refine ⟨{ binding with status := .suspended }, ?_, rfl, .inl nofun⟩
  exact List.mem_map.mpr ⟨binding, stored, if_pos rfl⟩

/-- The active members of the organization of a binding are written to. -/
def Tells (db : Db) (bindingId : Id) (asked : List Query) : Prop :=
  ∃ binding ∈ db.bindings, binding.id = bindingId ∧
    ∀ chatId ∈ db.audience binding.organizationId, .sendMessage chatId ∈ asked

/-- A handler of a hold that returns leaves the binding out of use, has limited the administrator
on the server unless the binding was out of use before, and has told its organization. -/
theorem handleBillingHold_suspends (integrity : Integrity db) {later : Alone Database}
    (ran : (handleBillingHold env event).run answers (.opened db) = (.ok (), later)) :
    later.store.OutOfUse event.aggregateId ∧ (db.OutOfUse event.aggregateId ∨
      ∃ query ∈ later.asked, Limits env db event.aggregateId query) ∧
        Tells db event.aggregateId later.asked := by
  have view : (Alone.opened db : Alone Database).view = db := rfl
  unfold handleBillingHold at ran
  rw [run_get_bind, view] at ran
  cases stored : db.find .bindings event.aggregateId with
  | none =>
      rw [stored] at ran
      cases ran
  | some binding =>
      obtain ⟨member, own⟩ := Db.find_mem stored
      obtain ⟨panel, there, its⟩ := Layout.has_eq_true.mp
        (integrity.parents .bindings binding member ⟨.panels, binding.panelId⟩ (by
          simp [Table.foreignKeys]))
      have found : db.find .panels binding.panelId = some panel :=
        integrity.find_eq_some there its
      rw [run_found_bind, stored] at ran
      dsimp only at ran
      rw [run_get_bind, view, found, run_bind, run_branch, Option.filter_some] at ran
      have idOwn : binding.id = event.aggregateId := Option.some.inj own
      split at ran
      · rename_i branched
        obtain ⟨store, asked, told⟩ := announce_store ran
        split at branched
        · obtain ⟨view, recorded, limited⟩ := suspend_recorded branched
          rw [recorded, view] at store
          rw [view] at told
          rename_i kept
          split_ifs at kept
          cases kept
          refine ⟨?_, .inr ⟨_, asked limited, binding, member, idOwn, panel, there,
            Option.some.inj its, rfl⟩, binding, member, idOwn, told⟩
          rw [store, ← idOwn]
          exact Db.suspended_update member
        · rename_i absent
          cases branched
          have idle : db.OutOfUse event.aggregateId := by
            refine ⟨binding, member, idOwn, ?_⟩
            split_ifs at absent with used
            rw [← Bool.decide_and, decide_eq_true_iff, not_and_or] at used
            exact used.symm.imp_right fun inactive => ⟨panel, there, Option.some.inj its, inactive⟩
          exact ⟨by rw [store]; exact idle, .inl idle, binding, member, idOwn, told⟩
      · cases ran

/-! ## Steps of the fleet -/

namespace Fleet

variable {ι : Type}

/-- What the handler asks that a step runs. -/
def asks (env : Env) (step : Fleet ι × Action ι) : List Query :=
  match step.2 with
  | .finishes process answers _ =>
      match step.1.passes process with
      | some ⟨_, _, .handling event _⟩ =>
          match handlers env event.topic with
          | some handler => ((handler event).run answers (.opened step.1.db)).2.asked
          | none => []
      | _ => []
  | _ => []

/-- What other sessions commit between the steps of the workers is orderly. -/
def Governed (packages : Packages) : Action ι → Prop
  | .commit log => ∀ statement ∈ log, ControlPlane.Orderly packages statement
  | _ => True

/-- Every event in memory has its row, of the same contents. -/
def Copied (fleet : Fleet ι) : Prop :=
  ∀ process pass, fleet.passes process = some pass → ∀ event ∈ pass.phase.events,
    ∃ row, fleet.db.find .outbox event.id = some row ∧ SameEvent row event

variable [DecidableEq ι] {packages : Packages} {fleet later : Fleet ι} {action : Action ι}

/-- A step leaves the events in memory as copies of their rows. -/
theorem Copied.step (copied : Copied fleet) (stepped : Stepped env fleet action later)
    (integrity : Integrity fleet.db) : Copied later := by
  intro process pass running event member
  obtain ⟨row, stored, same⟩ : ∃ row, fleet.db.find .outbox event.id = some row ∧
      SameEvent row event := by
    rcases stepped.loads integrity process pass running event member with
      ⟨other, before, had, among⟩ | ⟨row, stored, _, same⟩
    · exact copied other before had event among
    · exact ⟨row, stored, same⟩
  obtain ⟨kept, present, still⟩ := stepped.keeps stored
  exact ⟨kept, present, still.symm.trans same⟩

/-- A step of the fleet moves the database on record. -/
theorem Stepped.onRecord (stepped : Stepped env fleet action later)
    (governed : Governed packages action) : OnRecord fleet.db later.db := by
  have updated : ∀ process (columns : Outbox → OutboxColumns) rows committed refused,
      OnRecord fleet.db
        (fleet.transact process (updates columns rows) committed refused).db := by
    intro process columns rows committed refused
    refine transact_cases (motive := fun next => OnRecord fleet.db next.db) (fun _ => ?_) (.refl _)
    refine (orderly packages).le_replay fun statement member => ?_
    obtain ⟨row, _, rfl⟩ := List.mem_map.mp member
    trivial
  cases stepped with
  | commit log queued accepted =>
      exact (orderly packages).le_replay
        (show ∀ statement ∈ log, (orderly packages).Kind statement from governed)
  | reclaims process workerId limit stale running =>
      exact updated process Outbox.reclaim stale _ _
  | claims process skipped workerId limit running =>
      exact updated process (·.claim workerId fleet.time) _ _ _
  | finishes process answers error workerId limit event rest running =>
      change OnRecord fleet.db (finish env answers error _ event rest fleet.db).1
      unfold finish
      split
      · exact .refl _
      · rename_i handler handles
        have moved : OnRecord fleet.db ((handler event).serve answers fleet.db).2 := by
          obtain ⟨world, reached, same⟩ := World.reachable_run () answers
            (SystemOperation.handle handler event handles :
              SystemOperation env packages (.ofCallers fun _ => True) _) fleet.db
          have kept := history_kept reached (.inl rfl)
          rwa [same, served_run] at kept
        split
        all_goals
          rename_i served
          rwa [served] at moved
  | completes process error workerId limit event rest running =>
      exact updated process Outbox.complete [event] _ _
  | retries process workerId limit event error rest running =>
      exact updated process (·.retry env fleet.time error) [event] _ _
  | _ => exact .refl _

variable {first last : Fleet ι} {steps : List (Fleet ι × Action ι)}

/-- A run moves the database on record. -/
theorem History.onRecord (history : History env first steps last)
    (governed : ∀ step ∈ steps, Governed packages step.2) : OnRecord first.db last.db := by
  induction history with
  | stop => exact .refl _
  | step action taken _ inductionHypothesis =>
      refine ((stepped taken).onRecord (governed _ List.mem_cons_self)).trans
        (inductionHypothesis fun step member => governed step (List.mem_cons_of_mem _ member))

/-- A run leaves the events in memory as copies of their rows. -/
theorem History.copied (history : History env first steps last) (integrity : Integrity first.db)
    (copied : Copied first) : Copied last := by
  induction history with
  | stop => exact copied
  | step action taken _ inductionHypothesis =>
      exact inductionHypothesis ((stepped taken).integrity integrity)
        (copied.step (stepped taken) integrity)

/-- Where the handler of a hold returns, it has done its work, and the binding is out of use after
the step. -/
theorem Stepped.enforces (stepped : Stepped env fleet action later) (integrity : Integrity fleet.db)
    (copied : Copied fleet) {id : Id} (returned : returnsEvent env id (fleet, action) = true) :
    ∃ row, fleet.db.find .outbox id = some row ∧ (row.topic = "billing.hold_required" →
      later.db.OutOfUse row.aggregateId ∧ (fleet.db.OutOfUse row.aggregateId ∨
        ∃ query ∈ asks env (fleet, action), Limits env fleet.db row.aggregateId query) ∧
          Tells fleet.db row.aggregateId (asks env (fleet, action))) := by
  cases stepped with
  | finishes process answers error workerId limit event rest running =>
      simp only [returnsEvent, running, Bool.and_eq_true, decide_eq_true_eq] at returned
      obtain ⟨rfl, returned⟩ := returned
      obtain ⟨row, present, _, topic, aggregate, _⟩ := copied process _ running event
        List.mem_cons_self
      refine ⟨row, present, fun hold => ?_⟩
      have handles : handlers env event.topic = some (handleBillingHold env) := by
        rw [topic, hold]
        rfl
      rw [handles, Option.any_some] at returned
      simp only [asks, running, handles]
      change Db.OutOfUse (finish env answers error _ event rest fleet.db).1 row.aggregateId ∧ _
      unfold finish
      rw [handles]
      dsimp only
      cases ran : (handleBillingHold env event).run answers (.opened fleet.db) with
      | mk result last =>
          have served : (handleBillingHold env event).serve answers fleet.db =
              (result, last.store) := by
            unfold serve
            rw [ran]
          rw [served] at returned ⊢
          cases result with
          | error exception => cases returned
          | ok value =>
              rw [← aggregate]
              exact handleBillingHold_suspends integrity ran
  | _ => cases returned

/-- Whatever the workers do, and wherever they crash: once the event of a hold is done, its binding
is out of use and stays so however the history goes on, also when the event is queued again; and in
some step of the run its handler had limited the administrator on the server, unless the binding
was out of use by then, and had told the active members of the organization. -/
theorem holds_enforced {db : Db} (integrity : Integrity db)
    (fresh : ∀ row ∈ db.outbox, row.Queued) {time : Time}
    (history : History env (Fleet.initial db time) steps last)
    (governed : ∀ step ∈ steps, Governed packages step.2) {row : Outbox}
    (queued : row ∈ last.db.outbox) (hold : row.topic = "billing.hold_required")
    (done : row.status = .done) :
    last.db.OutOfUse row.aggregateId ∧
    (∀ further later, History env last further later →
      (∀ step ∈ further, Governed packages step.2) → later.db.OutOfUse row.aggregateId) ∧
    ∃ step ∈ steps, returnsEvent env row.id step = true ∧
      (step.1.db.OutOfUse row.aggregateId ∨
        ∃ query ∈ asks env step, Limits env step.1.db row.aggregateId query) ∧
      Tells step.1.db row.aggregateId (asks env step) := by
  have accounted := history.accounted (Accounted.initial integrity fresh time)
  rw [List.nil_append] at accounted
  have found : last.db.find .outbox row.id = some row :=
    accounted.integrity.find_eq_some queued rfl
  obtain ⟨step, member, returned⟩ := accounted.delivered row.id row found done
  obtain ⟨early, late, rfl⟩ := List.append_of_mem member
  obtain ⟨middle, begun, rest⟩ := history.split
  cases rest with
  | @step _ next _ _ action moved rest =>
      have copied : Copied middle :=
        begun.copied integrity fun process pass running => nomatch running
      obtain ⟨event, stored, enforced⟩ :=
        (stepped moved).enforces (begun.integrity integrity) copied returned
      obtain ⟨kept, present, _, topic, aggregate, _⟩ :=
        (History.step action moved rest).keeps stored
      rw [found, Option.some.injEq] at present
      subst present
      rw [aggregate]
      obtain ⟨idle, limited⟩ := enforced (topic.symm.trans hold)
      have tail : ∀ step ∈ late, Governed packages step.2 := fun step among =>
        governed step (List.mem_append_right _ (List.mem_cons_of_mem _ among))
      have outOfUse := idle.since (rest.onRecord tail)
      exact ⟨outOfUse, fun _ _ onward ruled => outOfUse.since (onward.onRecord ruled), _, member,
        returned, limited⟩

open Sample in
/-- A hold that is delivered puts its binding out of use. -/
theorem holds_enforced_hold :
    ∃ (last : Fleet ℕ) (steps : List (Fleet ℕ × Action ℕ)) (row : Outbox),
      History Sample.env (initial workspace 0) steps last ∧ row ∈ last.db.outbox ∧
        row.status = .done ∧ last.db.OutOfUse row.aggregateId ∧
        ∀ further later, History Sample.env last further later →
          (∀ step ∈ further, Governed Sample.packages step.2) →
            later.db.OutOfUse row.aggregateId := by
  have runs : (run Sample.env (queueing ++ claiming ++ [.finishes 0 answers "", .completes 0 ""])
      (initial workspace 0)).any (fun last => (last.db.find .outbox "first").any fun row =>
        row.topic = "billing.hold_required" ∧ row.status = .done) = true := by
    decide +kernel
  simp only [Option.any_eq_true, decide_eq_true_eq] at runs
  obtain ⟨last, runs, row, found, hold, done⟩ := runs
  obtain ⟨steps, history, same⟩ := History.exists_of_run runs
  have governed : ∀ step ∈ steps, Governed Sample.packages step.2 := by
    intro step member
    have among : step.2 ∈ queueing ++ claiming ++ [.finishes 0 answers "", .completes 0 ""] :=
      same ▸ List.mem_map_of_mem member
    simp only [queueing, claiming, List.cons_append, List.nil_append, List.mem_cons,
      List.not_mem_nil, or_false] at among
    rcases among with taken | taken | taken | taken | taken | taken | taken
    · rw [taken]
      intro statement queued
      rw [List.mem_singleton.mp queued]
      trivial
    all_goals
      rw [taken]
      trivial
  have queued := (Db.find_mem found).1
  obtain ⟨outOfUse, stays, _⟩ :=
    holds_enforced Sample.integrity (by decide) history governed queued hold done
  exact ⟨last, steps, row, history, queued, done, outOfUse, stays⟩

end Fleet

end ControlPlane
