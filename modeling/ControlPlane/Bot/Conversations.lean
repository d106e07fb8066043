import ControlPlane.Bot.Answers
import ControlPlane.Sample

/-!
# Conversations with the bot

The runs of the bot: messages and callbacks of any chats, one after another,
while others change the database in between. Whatever a conversation collects
stays within the bounds of the WebApp's models, and so does what it stores.
-/

namespace ControlPlane.Bot

open ReadCommitted Orm PythonText

variable {answered : Int → Dialogue → Prop}

/-! ## Beginning a dialogue -/

instance (chatId : Int) : Obedient (rules answered) (beginReseller chatId) :=
  begin_obedient _ chatId (by rintro _ ⟨⟩)

instance (chatId : Int) (panelId : Id) : Obedient (rules answered) (beginOrder chatId panelId) := by
  refine begin_obedient _ chatId fun entry member => ?_
  rw [List.mem_singleton.mp member]
  rintro _ ⟨⟩

/-- A plan that fits fixes a size that fits. -/
theorem collected_planOrder {plan : Plan} (valid : validPlan (planTerms plan) = true) :
    Collected ⟨"order", "business_name", [("panel_id", .text plan.panelId),
      ("plan_id", .text plan.id), ("user_count", .int plan.userCount),
      ("daily_gib", .int plan.dailyGib)]⟩ := by
  simp only [validPlan, Bool.and_eq_true, decide_eq_true_eq] at valid
  dsimp only [planTerms] at valid
  intro entry member
  simp only [List.mem_cons, List.not_mem_nil, or_false] at member
  rcases member with rfl | rfl | rfl | rfl
  · rintro _ ⟨⟩
  · rintro _ ⟨⟩
  · rintro _ ⟨⟩
    refine ⟨by omega, ?_⟩
    rintro _ ⟨⟩
    omega
  · rintro _ ⟨⟩
    refine ⟨by omega, ?_⟩
    rintro _ ⟨⟩
    omega

instance (chatId : Int) (planId : Id) :
    Obedient (rules answered) (beginPlanOrder chatId planId) := by
  unfold beginPlanOrder
  refine ⟨.bind (pickPlan_obeys planId) fun row plans => ?_⟩
  exact .branch Obedient.obeys fun plan picked =>
    (begin_obedient _ chatId (collected_planOrder (plans plan picked))).obeys

instance (chatId : Int) (orderId : Id) : Obedient (rules answered) (beginQuote chatId orderId) := by
  refine begin_obedient _ chatId fun entry member => ?_
  rw [List.mem_singleton.mp member]
  rintro _ ⟨⟩

instance (chatId : Int) : Obedient (rules answered) (beginShelf chatId) :=
  begin_obedient _ chatId (by rintro _ ⟨⟩)

instance (env : Env) (chatId : Int) : Obedient (rules answered) (beginPlan env chatId) := by
  have began : Obedient (rules answered) (begin chatId "plan" "panel" []) :=
    begin_obedient _ chatId (by rintro _ ⟨⟩)
  unfold beginPlan
  infer_instance

instance (chatId : Int) : Obedient (rules answered) (beginCredit chatId) :=
  begin_obedient _ chatId (by rintro _ ⟨⟩)

/-! ## Messages -/

instance (env : Env) (chatId : Int) : Obedient (rules answered) (viewSection env chatId) := by
  unfold viewSection
  infer_instance

instance (env : Env) (chatId : Int) (permission : Permission) :
    Obedient (rules answered) (permittedSection env chatId permission) := by
  unfold permittedSection
  infer_instance

instance (env : Env) (chatId : Int) (target : String) :
    Obedient (rules answered) (accountSection env chatId target) := by
  unfold accountSection
  infer_instance

instance (env : Env) (chatId : Int) (target : String) :
    Obedient (rules answered) (showSection env chatId target) := by
  unfold showSection
  infer_instance

instance (env : Env) (chatId : Int) (target : String) :
    Obedient (rules answered) (openSection env chatId target) := by
  unfold openSection
  infer_instance

instance (env : Env) (chatId : Int) (role : Role) :
    Obedient (rules answered) (start env chatId role) := by
  unfold start
  infer_instance

instance (env : Env) (chatId : Int) (value : String) :
    Obedient (rules answered) (freshMessage env chatId value) := by
  unfold freshMessage
  infer_instance

/-- A stored dialogue was collected within the bounds. -/
theorem getState_obeys (chatId : Int) : (getState chatId).Obeys (rules answered) fun state =>
    ∀ dialogue ∈ state, Collected dialogue ∧ answered chatId dialogue :=
  .ask trivial fun _ told => told

/-- A message keeps the rules when its text fits as an answer to the chat's dialogue. -/
theorem handleMessage_obedient (env : Env) (chatId : Int) (message : String)
    (fits : ∀ dialogue, answered chatId dialogue → AnswerFits dialogue (strip message)) :
    Obedient (rules answered) (handleMessage env chatId message) := by
  unfold handleMessage
  dsimp only
  split
  next => infer_instance
  next =>
    refine ⟨.bind (getState_obeys chatId) fun state collected => ?_⟩
    refine .branch Obedient.obeys fun dialogue stored => ?_
    obtain ⟨within', asked⟩ := collected dialogue stored
    exact (continueState_obedient env chatId within' (fits dialogue asked)).obeys

/-! ## Callbacks -/

instance (env : Env) (chatId : Int) (orderId : Id) (status : OrderStatus) :
    Obedient (rules answered) (customerCallback env chatId orderId status) := by
  unfold customerCallback
  infer_instance

/-- Without a panel account, an approval brings none that would not fit. -/
instance (env : Env) (chatId : Int) (orderId : Id) (approve callback : Bool) :
    Obedient (rules answered) (applyApproval env chatId orderId approve callback none) :=
  applyApproval_obedient _ env chatId orderId approve callback (by rintro _ ⟨⟩)

instance (env : Env) (chatId : Int) (orderId : Id) :
    Obedient (rules answered) (approveCallback env chatId orderId) := by
  have began : Obedient (rules answered)
      (begin chatId "attach" "pg_admin_id" [("order_id", .text orderId)]) := by
    refine begin_obedient _ chatId fun entry member => ?_
    rw [List.mem_singleton.mp member]
    rintro _ ⟨⟩
  unfold approveCallback
  infer_instance

instance (env : Env) (chatId : Int) (orderId : Id) (action : String) :
    Obedient (rules answered) (orderCallback env chatId orderId action) := by
  unfold orderCallback
  infer_instance

/-- A choice in the plan dialogue, which collects identifiers only. -/
theorem choose_obedient (env : Env) (chatId : Int) (step key next : String) {value : Value}
    (fits : FieldFits "plan" key value) :
    Obedient (rules answered) (choose env chatId step key value next) := by
  unfold choose
  refine ⟨.bind (getState_obeys chatId) fun state collected => ?_⟩
  refine .branch Obedient.obeys fun dialogue chosen => ?_
  obtain ⟨stored, here⟩ := Option.filter_eq_some_iff.mp chosen
  rw [Bool.and_eq_true, decide_eq_true_eq] at here
  have within' := (collected dialogue stored).1.answer (here.1.symm ▸ fits) next
  have kept := setState_obedient answered chatId within'
  exact Obedient.obeys

instance (env : Env) (chatId : Int) (requestId : Id) (approve : Bool) :
    Obedient (rules answered) (fundingCallback env chatId requestId approve) := by
  unfold fundingCallback
  infer_instance

instance (env : Env) (chatId : Int) (data : String) :
    Obedient (rules answered) (dispatch env chatId data) := by
  have panel : ∀ panelId : Id, Obedient (rules answered)
      (choose env chatId "panel" "panel_id" (.text panelId) "shelf") :=
    fun _ => choose_obedient env chatId _ _ _ (by rintro _ ⟨⟩)
  have shelf : ∀ categoryId : Id, Obedient (rules answered)
      (choose env chatId "shelf" "category_id"
        (if categoryId = "" then .null else .text categoryId) "name") := by
    intro categoryId
    split
    next => exact choose_obedient env chatId _ _ _ trivial
    next => exact choose_obedient env chatId _ _ _ (by rintro _ ⟨⟩)
  unfold dispatch
  split <;> infer_instance

instance (env : Env) (chatId : Int) (data : String) :
    Obedient (rules answered) (handleCallback env chatId data) := by
  unfold handleCallback
  infer_instance

/-! ## Runs -/

/-- What a chat sends. -/
inductive Incoming
  | message (chatId : Int) (text : String)
  | callback (chatId : Int) (data : String)

/-- `handle_message` and `handle_callback`. -/
def Incoming.handle (env : Env) : Incoming → Op Unit
  | .message chatId text => handleMessage env chatId text
  | .callback chatId data => handleCallback env chatId data

/-- What is committed, and the dialogues that are stored. -/
structure Station where
  db : Db
  dialogues : Int → Option Dialogue

/-- The stored dialogues after a question to the outside world. -/
def remember (dialogues : Int → Option Dialogue) : Query → Int → Option Dialogue
  | .setState chatId dialogue => Function.update dialogues chatId (some dialogue)
  | .clearState chatId => Function.update dialogues chatId none
  | _ => dialogues

namespace Station

variable (station : Station) (env : Env) (incoming : Incoming) (outside : Answers Database)

/-- The outside world, with the stored dialogues; a handler reads one before it stores any. -/
def answers : Answers Database
  | .getState chatId, _ => station.dialogues chatId
  | query, count => outside query count

/-- How the handling of what a chat sent ends. -/
def handling : Except Failure Unit × Alone Database :=
  (incoming.handle env).run (station.answers outside) (.opened station.db)

/-- What is left when it has been handled. -/
def handled : Station where
  db := (station.handling env incoming outside).2.store
  dialogues := (station.handling env incoming outside).2.asked.foldl remember station.dialogues

/-- Handling builds no model that fails, and commits nothing that a model would refuse. -/
def Accepts : Prop :=
  (station.handling env incoming outside).1 ≠ .error validationError ∧
    ∀ entry ∈ (station.handling env incoming outside).2.commits, ∀ statement ∈ entry.2,
      Fits statement

/-- A message is no answer that its dialogue lets through although a model refuses it. -/
def Answerable : Incoming → Prop
  | .message chatId text => ∀ dialogue ∈ station.dialogues chatId,
      AnswerFits dialogue (strip text)
  | .callback _ _ => True

/-- The stations that are reached when everything sent meets a condition. In between, others may
change the database, whose plans satisfy `PlanIn` whoever stored them, and dialogues may expire. -/
inductive Reached (env : Env) (condition : Station → Incoming → Prop) (start : Station) :
    Station → Prop
  | start : Reached env condition start start
  | handled {station : Station} (reached : Reached env condition start station)
      (incoming : Incoming) (met : condition station incoming) (outside : Answers Database) :
      Reached env condition start (station.handled env incoming outside)
  | elsewhere {station : Station} (reached : Reached env condition start station) (db : Db)
      (plans : PlansFit db) : Reached env condition start { station with db }
  | expired {station : Station} (reached : Reached env condition start station) (chatId : Int) :
      Reached env condition start
        { station with dialogues := remember station.dialogues (.clearState chatId) }

/-- The stored plans and dialogues are within the bounds. -/
structure Bounded : Prop where
  plans : PlansFit station.db
  dialogues : ∀ chatId, ∀ dialogue ∈ station.dialogues chatId, Collected dialogue

/-- A question stores no dialogue but the one it names. -/
theorem collected_remember {query : Query} {dialogues : Int → Option Dialogue}
    (before : ∀ chatId, ∀ dialogue ∈ dialogues chatId, Collected dialogue)
    (stored : (rules fun _ _ => True).asks query) :
    ∀ chatId, ∀ dialogue ∈ remember dialogues query chatId, Collected dialogue := by
  intro chatId dialogue member
  cases query with
  | setState changed kept =>
      by_cases same : chatId = changed
      · rw [same] at member
        obtain rfl : kept = dialogue := Option.some.inj
          ((Function.update_self changed _ dialogues).symm.trans member)
        exact stored
      · exact before chatId dialogue
          ((Function.update_of_ne same _ dialogues).symm.trans member)
  | clearState changed =>
      by_cases same : chatId = changed
      · rw [same] at member
        exact absurd ((Function.update_self changed _ dialogues).symm.trans member)
          (by rintro ⟨⟩)
      · exact before chatId dialogue
          ((Function.update_of_ne same _ dialogues).symm.trans member)
  | _ => exact before chatId dialogue member

/-- What was asked decides which dialogues are stored. -/
theorem collected_remembered {asked : List Query} {dialogues : Int → Option Dialogue}
    (before : ∀ chatId, ∀ dialogue ∈ dialogues chatId, Collected dialogue)
    (stored : ∀ query ∈ asked, (rules fun _ _ => True).asks query) :
    ∀ chatId, ∀ dialogue ∈ asked.foldl remember dialogues chatId, Collected dialogue := by
  induction asked generalizing dialogues with
  | nil => exact before
  | cons query asked inductionHypothesis =>
      rw [List.forall_mem_cons] at stored
      refine inductionHypothesis (fun chatId dialogue member => ?_) stored.2
      exact collected_remember before stored.1 chatId dialogue member

variable {station incoming}

/-- One step: what is sent is accepted, and what is stored stays within the bounds. -/
theorem Bounded.handling (bounded : station.Bounded) (answerable : station.Answerable incoming) :
    station.Accepts env incoming outside ∧ (station.handled env incoming outside).Bounded := by
  let answered : Int → Dialogue → Prop := fun chatId dialogue =>
    station.dialogues chatId = some dialogue
  have obeys : (incoming.handle env).Obeys (rules answered) fun _ => True := by
    cases incoming with
    | message chatId text =>
        exact (handleMessage_obedient env chatId text fun dialogue stored =>
          answerable dialogue stored).obeys
    | callback chatId data =>
        have kept : Obedient (rules answered) (handleCallback env chatId data) := inferInstance
        exact kept.obeys
  have truthful : (rules answered).Truthful (station.answers outside) := by
    intro query count
    cases query with
    | getState chatId =>
        exact fun dialogue stored => ⟨bounded.dialogues chatId dialogue stored, stored⟩
    | _ => trivial
  obtain ⟨raised, kept⟩ := obeys.run
    (fun statement db plans fits _ => PlansFit.apply plans fits) truthful bounded.plans
  refine ⟨⟨fun refused => raised _ refused rfl, kept.commits⟩, kept.store, ?_⟩
  refine collected_remembered bounded.dialogues fun query member => ?_
  have asked := kept.asked query member
  cases query <;> exact asked

/-- Along a run, everything that is stored stays within the bounds. -/
theorem Bounded.reached {start : Station} (bounded : start.Bounded)
    (reached : Reached env Answerable start station) : station.Bounded := by
  induction reached with
  | start => exact bounded
  | handled reached incoming met outside inductionHypothesis =>
      exact (inductionHypothesis.handling env outside met).2
  | elsewhere reached db plans inductionHypothesis => exact ⟨plans, inductionHypothesis.dialogues⟩
  | expired reached chatId inductionHypothesis =>
      exact ⟨inductionHypothesis.plans,
        @collected_remember (.clearState chatId) _ inductionHypothesis.dialogues trivial⟩

end Station

/-- Where all answers fit, the bot never refuses what was accepted before, and stores nothing
that the WebApp would refuse. -/
theorem dialogues_accept (env : Env) {start station : Station} (plans : PlansFit start.db)
    (fresh : start.dialogues = fun _ => none)
    (reached : Station.Reached env Station.Answerable start station) {incoming : Incoming}
    (answerable : station.Answerable incoming) (outside : Answers Database) :
    station.Accepts env incoming outside := by
  have bounded : start.Bounded := ⟨plans, fun chatId dialogue member => by
    rw [fresh] at member
    exact absurd member (by rintro ⟨⟩)⟩
  exact ((bounded.reached env reached).handling env outside answerable).1

/-- The sample workspace, where the member manages the reseller and an order waits for a quote. -/
def seller : Station where
  db := { Sample.workspace with
    memberships := [⟨"membership", "shop", "member", .resellerAdmin, .active, 0⟩]
    orders := [{ id := "order", actorId := "member", panelId := "panel", planId := none
                 businessName := "Shop", slug := "panel-1", userCount := 5, dailyGib := 3
                 note := "", status := .pending, creditLimitIrr := 0, pricePerGibIrr := 0
                 amountIrr := 0, paymentInstructions := "", adminUsername := ""
                 pgAdminId := none, organizationId := none, decidedBy := none
                 decidedAt := none, rejectionReason := "" }] }
  dialogues _ := none

/-- What is left after messages of the member. -/
def Station.messages (station : Station) (texts : List String) : Station :=
  texts.foldl (fun station text => station.handled Sample.env (.message 10 text) Sample.answers)
    station

theorem Station.Reached.messages {start station : Station}
    (reached : Reached Sample.env (fun _ _ => True) start station) (texts : List String) :
    Reached Sample.env (fun _ _ => True) start (station.messages texts) := by
  induction texts generalizing station with
  | nil => exact reached
  | cons text texts inductionHypothesis =>
      exact inductionHypothesis (.handled reached (.message 10 text) trivial Sample.answers)

/-- The quote dialogue about the order has begun. -/
def quoting : Station :=
  seller.handled Sample.env (.callback 10 "o|order|quote") Sample.answers

/-- An amount that fits is accepted. -/
theorem dialogues_accept_amount :
    quoting.Accepts Sample.env (.message 10 "25,000") Sample.answers :=
  @dialogues_accept Sample.env seller quoting (by rintro _ ⟨⟩) rfl
    (.handled .start (.callback 10 "o|order|quote") trivial Sample.answers)
    (.message 10 "25,000") (by
      have typed : int? (number (strip "25,000")) = some 25000 := by decide +kernel
      intro dialogue _ _
      refine ⟨fun _ amount parsed => ?_, fun _ => ?_⟩
      · rw [typed] at parsed
        obtain rfl := Option.some.inj parsed
        decide
      · rw [typed]
        decide)
    Sample.answers

/-- An amount over the limit is taken, and refused with the last answer. -/
theorem dialogues_accept_fails :
    ¬∀ (env : Env) (start station : Station), PlansFit start.db →
      (start.dialogues = fun _ => none) →
      Station.Reached env (fun _ _ => True) start station →
      ∀ incoming outside, station.Accepts env incoming outside := by
  intro accepts
  have refused := (accepts Sample.env seller
    (quoting.messages ["10000000000001", "0", "25000", "card 6037"]) (by rintro _ ⟨⟩) rfl
    (.messages (.handled .start (.callback 10 "o|order|quote") trivial Sample.answers) _)
    (.message 10 "-") Sample.answers).1
  exact refused (by decide +kernel)

end ControlPlane.Bot
