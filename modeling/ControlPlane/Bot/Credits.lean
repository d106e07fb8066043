import ControlPlane.Bot.Numbers
import ControlPlane.System.OfferSessions
import ControlPlane.WebApi.PlanAmounts

/-!
# The initial credit that a seller chooses

The dialogue for a new plan asks for the initial credit of a buyer: an amount,
where zero is no credit, or a word for the amount of the plan. Both kinds of
answers are stored as one number, which an order of the plan reads again. The
word is stored as zero, and zero is read as the word.
-/

namespace ControlPlane

open ReadCommitted Orm PythonText

/-! ## Choices -/

/-- What a seller chooses: the amount of the plan, or an amount. -/
inductive CreditChoice
  | automatic
  | amount (value : Int)
  deriving DecidableEq

namespace CreditChoice

/-- The number that the dialogue stores. -/
def stored : CreditChoice → Int
  | automatic => 0
  | amount value => value

/-- The credit that was chosen, for an order of an amount. -/
def asks (amountIrr : Int) : CreditChoice → Int
  | automatic => amountIrr
  | amount value => value

/-- An order of a plan is given what was chosen with it, unless that was the amount zero. -/
theorem grants_eq_asks {choice : CreditChoice} (other : choice ≠ .amount 0) {plan : Plan}
    (carried : plan.creditLimitIrr = choice.stored) : plan.grants = choice.asks plan.amountIrr := by
  unfold Plan.grants
  rw [carried]
  cases choice with
  | automatic => exact if_pos rfl
  | amount value => exact if_neg fun zero : value = 0 => other (congrArg amount zero)

end CreditChoice

namespace Bot

/-- The choice that an answer stands for. -/
def creditChoice (value : String) : Option CreditChoice :=
  if strip value = "خودکار" then some .automatic else (numeral (number value)).map .amount

/-- The text that is converted denotes the number that is stored. -/
theorem numeral_of_choice {value : String} {choice : CreditChoice}
    (means : creditChoice value = some choice) :
    numeral (NumericStep.planCredit.reads value) = some choice.stored := by
  unfold creditChoice at means
  change numeral (if strip value = "خودکار" then "0" else number value) = _
  split at means
  · next word =>
      rw [if_pos word, ← Option.some.inj means]
      decide +kernel
  · next word =>
      obtain ⟨amount, denoted, rfl⟩ := Option.map_eq_some_iff.mp means
      rw [if_neg word, denoted]
      rfl

/-- The dialogue stores a choice as its number, and goes on. -/
theorem continuePlan_choice {value : String} {choice : CreditChoice}
    (means : creditChoice value = some choice) (env : Env) (chatId : Int) (state : Dialogue) :
    continuePlan env chatId value { state with step := "credit_limit_irr" } =
      proceed chatId (state.answer "credit_limit_irr" (.int choice.stored) "instructions") := by
  have denoted := numeral_of_choice means
  have convertible : Convertible (NumericStep.planCredit.reads value) := by
    intro _
    by_contra other
    rw [numeral, if_neg other] at denoted
    cases denoted
  have answered :=
    NumericStep.answered_of_convertible env chatId value state .planCredit convertible trivial
  refine answered.trans ?_
  change NumericStep.stores chatId _ (NumericStep.planCredit.reads value) _ _ _ = _
  rw [NumericStep.stores, denoted]
  rfl

/-! ## The end of the dialogue -/

/-- A program that returns a value with a property, or raises. -/
def Yields (proper : α → Prop) (program : Op α) : Prop :=
  (∃ exception, program = throw exception) ∨ ∃ value, program = pure value ∧ proper value

theorem Yields.found {proper : β → Prop} {content : Option α} {exception : Failure}
    {rest : α → Op β} (yields : ∀ value, Yields proper (rest value)) :
    Yields proper (Orm.found content exception >>= rest) := by
  cases content with
  | none => exact .inl ⟨exception, rfl⟩
  | some value => exact yields value

/-- What was stored under a key is found, whatever is stored under another one. -/
theorem lookup_answer {state : Dialogue} {key other : String} (different : other ≠ key)
    (value : Value) (step : String) :
    (state.answer other value step).lookup key = state.lookup key := by
  unfold Dialogue.lookup Dialogue.answer
  dsimp only
  rw [List.find?_append, List.find?_filter, List.find?_singleton, if_neg (by simpa using different),
    Option.or_none]
  congr 2
  funext entry
  by_cases same : entry.1 = key
  · simp [same, different.symm]
  · simp [same]

theorem lookup_answer_self (state : Dialogue) (key : String) (value : Value) (step : String) :
    (state.answer key value step).lookup key = some value := by
  unfold Dialogue.lookup Dialogue.answer
  dsimp only
  have cleared : (state.data.filter fun entry => entry.1 ≠ key).find? (fun entry => entry.1 = key) =
      none := by
    refine List.find?_eq_none.mpr fun entry member same => ?_
    exact of_decide_eq_true (List.mem_filter.mp member).2 (of_decide_eq_true same)
  rw [List.find?_append, cleared, Option.none_or, List.find?_singleton, if_pos (by simp)]
  rfl

/-- The plan has the credit that the dialogue has stored. -/
theorem planOf_credit {state : Dialogue} {credit : Int}
    (stored : state.lookup "credit_limit_irr" = some (.int credit)) :
    Yields (fun data : PlanIn => data.creditLimitIrr = credit) (planOf state) := by
  unfold planOf textEntry intEntry
  rw [stored]
  refine .found fun panelId => .found fun name => .found fun price => .found fun daily => ?_
  refine .found fun duration => .found fun users => ?_
  change Yields _ (Orm.found ((state.lookup "instructions").bind Value.text?) _ >>= _)
  exact .found fun instructions => .inr ⟨_, rfl, rfl⟩

/-- What the last answer of the dialogue does. -/
theorem continuePlan_instructions (env : Env) (chatId : Int) (value : String) (state : Dialogue) :
    continuePlan env chatId value { state with step := "instructions" } =
      if value.length < 3 then send chatId
      else (do
        let data ← planOf (state.answer "instructions" (.text (truncate 2000 value)) "instructions")
        unlessDenied (savePlan env chatId data) (abortFlow env chatId) fun _ => do
          clearState chatId
          catalogList env chatId
          send chatId
          sendMenu env chatId) := by
  have last : (planQuestions.dropWhile fun other => other ≠ "instructions").tail.head? = none := rfl
  unfold continuePlan planAnswer
  dsimp only
  rw [if_neg (by decide), if_neg (by decide), if_pos rfl, last]
  split <;> rfl

end Bot

/-! ## Sessions -/

section

variable {A : Agreement Database} {Benign : Database.Write → Prop} {law : Law Database}
  [A.Starts Benign law] [OffPanel A]

instance (chatId : Int) : Sustains A Benign law (Bot.send chatId) := by
  unfold Bot.send
  infer_instance

instance (env : Env) (chatId : Int) : Sustains A Benign law (Bot.sendMenu env chatId) := by
  unfold Bot.sendMenu Bot.currentRole
  infer_instance

instance (env : Env) (chatId : Int) : Sustains A Benign law (Bot.abortFlow env chatId) := by
  unfold Bot.abortFlow Bot.clearState
  infer_instance

instance (env : Env) (chatId : Int) : Sustains A Benign law (Bot.catalogList env chatId) := by
  unfold Bot.catalogList
  infer_instance

instance (body : Op α) (denied : Op Unit) (next : α → Op Unit) [Sustains A Benign law body]
    [Sustains A Benign law denied] [∀ value, Sustains A Benign law (next value)] :
    Sustains A Benign law (Bot.unlessDenied body denied next) := by
  unfold Bot.unlessDenied
  infer_instance

end

/-! ## Publishing -/

/-- Plans are inserted with one number for the credit only. -/
def publishing (stored : Int) : Discipline Database :=
  .plain fun
    | .insert .plans plan => plan.creditLimitIrr = stored
    | _ => True

section

variable {stored : Int}

instance : OffPanel (publishing stored).agreement := ⟨fun _ _ => trivial⟩
instance : Admitted (publishing stored).Kind .auditLogs := ⟨fun _ => trivial, fun _ _ => trivial⟩

theorem publishing_savePlan (env : Env) (chatId : Int) {data : PlanIn}
    (credit : data.creditLimitIrr = stored) :
    (publishing stored).Keeps (Bot.savePlan env chatId data) := by
  have inserted : ∀ id organizationId panelId : Id, (publishing stored).Keeps
      (insert .plans (planRow id organizationId { data with panelId })) := fun id organizationId
    panelId => Sustains.add (show (publishing stored).Kind (.insert .plans _) from credit)
  have created : ∀ organizationId actorId : Id, (publishing stored).Keeps
      (createCatalogPlan organizationId actorId data) := by
    intro organizationId actorId
    rw [createCatalogPlan_eq]
    unfold validatedPlan catalogShelf
    infer_instance
  unfold Bot.savePlan
  infer_instance

/-- The last answer of the dialogue publishes the number that was stored for the credit. -/
theorem publishing_continuePlan (env : Env) (chatId : Int) (value : String) (state : Dialogue) :
    (publishing stored).agreement.Meets (served (Bot.continuePlan env chatId value
      (state.answer "credit_limit_irr" (.int stored) "instructions"))) := by
  have body : (publishing stored).Keeps (Bot.continuePlan env chatId value
      (state.answer "credit_limit_irr" (.int stored) "instructions")) := by
    rw [show state.answer "credit_limit_irr" (.int stored) "instructions" =
        { state.answer "credit_limit_irr" (.int stored) "instructions" with
          step := "instructions" } from rfl, Bot.continuePlan_instructions]
    split
    · infer_instance
    · have kept := (Bot.lookup_answer
        (show "instructions" ≠ "credit_limit_irr" by decide) (.text (truncate 2000 value))
        "instructions").trans
          (Bot.lookup_answer_self state "credit_limit_irr" (.int stored) "instructions")
      rcases Bot.planOf_credit kept with ⟨exception, raised⟩ | ⟨data, read, credit⟩
      · rw [raised]
        exact Sustains.throw exception
      · have saved := publishing_savePlan env chatId credit
        have reset : (publishing stored).Keeps (Bot.clearState chatId) := by
          unfold Bot.clearState
          infer_instance
        rw [read]
        change Sustains _ _ _ (Bot.unlessDenied (Bot.savePlan env chatId data) _ _)
        infer_instance
  exact Sustains.meets _ (publishing stored).Kind (publishing stored).law _

end

/-! ## Sales -/

/-- The sessions of the system, and the answers to the dialogue for a new plan. -/
inductive SaleOperation (env : Env) (packages : Packages) (traffic : Traffic) :
    Prog Database (Except Failure Unit) → Prop
  | system {program : Prog Database (Except Failure Unit)} :
      SystemOperation env packages traffic program → SaleOperation env packages traffic program
  | botAnswersPlan (chatId : Int) (value : String) (state : Dialogue) :
      SaleOperation env packages traffic (served (Bot.continuePlan env chatId value state))

open Offer in
set_option synthInstance.maxSize 100000 in
/-- The dialogue for a new plan writes nothing about orders. -/
theorem Offer.continuePlan_meets {offer : Offer} (env : Env) (chatId : Int) (value : String)
    (state : Dialogue) :
    offer.agreement.Meets (served (Bot.continuePlan env chatId value state)) := by
  have typed : ∀ digits : String, Sustains offer.agreement Untouched offer.law
      (Bot.typedNumber digits) := by
    intro digits
    unfold Bot.typedNumber Bot.parseInt
    split <;> infer_instance
  have answered : Sustains offer.agreement Untouched offer.law
      (Bot.planAnswer state.step value) := by
    unfold Bot.planAnswer
    repeat' split
    all_goals infer_instance
  have read : ∀ state : Dialogue, Sustains offer.agreement Untouched offer.law
      (Bot.planOf state) := by
    intro state
    unfold Bot.planOf Bot.textEntry Bot.intEntry
    infer_instance
  have body : Sustains offer.agreement Untouched offer.law
      (Bot.continuePlan env chatId value state) := by
    unfold Bot.continuePlan Bot.clearState Bot.proceed Bot.setState
    split <;> infer_instance
  exact meets_of_sustains _

theorem SaleOperation.meets_offer {env : Env} {packages : Packages} {traffic : Traffic}
    {offer : Offer} {program : Prog Database (Except Failure Unit)}
    (operation : SaleOperation env packages traffic program) : offer.agreement.Meets program := by
  cases operation with
  | system operation => exact operation.meets_offer
  | botAnswersPlan chatId value state => exact Offer.continuePlan_meets env chatId value state

/-- Plans carry what was chosen with them as it is stored. -/
def Carried (chosen : Plan → CreditChoice) (planId : Id) (moment : Db) : Prop :=
  ∀ plan ∈ moment.plans, plan.id = planId → plan.creditLimitIrr = (chosen plan).stored

/-- In every run in which a plan carries what was chosen with it, whenever it is published or
changed and whatever else is published, the organizations of its orders get what was chosen, for
the amount that the plan had before the order was placed, which is the amount of the order. -/
def Granted (chosen : Plan → CreditChoice) : Prop :=
  ∀ (ι : Type) [DecidableEq ι] (env : Env) (packages : Packages) (traffic : Traffic) (planId : Id)
    (store : Db) (world : World Database ι (Except Failure Unit)),
    Integrity store → (∀ plan ∈ store.plans, plan.id ≠ planId) →
      World.Reachable (SaleOperation env packages traffic) store world →
        (∀ moment, World.Past store world moment → Carried chosen planId moment) →
          ∀ order ∈ world.store.orders, order.planId = some planId →
            ∀ organization ∈ world.store.organizations,
              order.organizationId = some organization.id →
                ∃ moment, World.Past store world moment ∧
                  (∀ other ∈ Db.orders moment, other.id ≠ order.id) ∧
                    ∃ plan ∈ Db.plans moment, plan.id = planId ∧
                      order.amountIrr = plan.amountIrr ∧
                        organization.creditLimitIrr = (chosen plan).asks plan.amountIrr

/-- What is to follow from an answer: the dialogue stores a number and goes on, its last answer
publishes a plan with that number, and whatever else is chosen, the amount zero apart, every choice
is granted. -/
structure CreditFollows (value : String) (choice : CreditChoice) : Prop where
  stored : ∀ (env : Env) (chatId : Int) (state : Dialogue),
    Bot.continuePlan env chatId value { state with step := "credit_limit_irr" } =
      Bot.proceed chatId (state.answer "credit_limit_irr" (.int choice.stored) "instructions")
  published : ∀ (env : Env) (chatId : Int) (reply : String) (state : Dialogue),
    (publishing choice.stored).agreement.Meets (served (Bot.continuePlan env chatId reply
      (state.answer "credit_limit_irr" (.int choice.stored) "instructions")))
  granted : ∀ chosen : Plan → CreditChoice,
    (∀ plan, chosen plan = choice ∨ chosen plan ≠ .amount 0) → Granted chosen

/-- What was chosen is granted, unless it was the amount zero. -/
theorem granted_of_ne {chosen : Plan → CreditChoice} (other : ∀ plan, chosen plan ≠ .amount 0) :
    Granted chosen := by
  intro ι _ env packages traffic planId store world integrity fresh reached carried
    order member own organization there opened
  have sound : (Offer.agreement ⟨planId, World.Past store world⟩).Sound world :=
    Agreement.Sound.reachable_within (fun _ operation => operation.meets_offer)
      (Offer.Holds.beginning integrity (.inl rfl) fresh) reached
      fun committed among elsewhere => elsewhere (.inr ⟨committed, among, rfl⟩)
  obtain ⟨⟨plan, ⟨same, moment, past, stood, unplaced⟩, credit, amount⟩, _⟩ :=
    sound.inv.priced order member own
  refine ⟨moment, past, unplaced, plan, stood, same, amount, ?_⟩
  calc organization.creditLimitIrr
      = order.creditLimitIrr := sound.inv.opened order member own organization there opened
    _ = plan.grants := credit
    _ = (chosen plan).asks plan.amountIrr :=
        CreditChoice.grants_eq_asks (other plan) (carried moment past plan stood same)

/-! ## A sale without credit -/

namespace Sample

/-- The member of the shop is the root of the installation. -/
def publisher : Env := { env with rootTelegramId := some 10 }

/-- A dialogue that has come to the question on the initial credit. -/
def asked : Dialogue :=
  ⟨"plan", "credit_limit_irr",
    [("panel_id", .text "panel"), ("name", .text "monthly"), ("price_per_gib_irr", .int 100),
      ("daily_gib", .int 2), ("duration_days", .int 30), ("user_count", .int 5)]⟩

/-- The dialogue once an answer is stored. -/
def replied (choice : CreditChoice) : Dialogue :=
  asked.answer "credit_limit_irr" (.int choice.stored) "instructions"

/-- The plan that the shop publishes. -/
abbrev publishedId : Id := "aaaaaaaaaaaaaaaaaaaaaaaaaaaaaaaaaaaa"

/-- The order that the buyer places. -/
abbrev placedId : Id := "eeeeeeeeeeeeeeeeeeeeeeeeeeeeeeeeeeee"

/-- The sessions of the sample: the shop publishes a plan for which a zero is stored and another one
with an amount, and sells the first. -/
abbrev Sale := SaleOperation publisher packages (.ofCallers fun _ => True)

/-- A run in which the shop sells a plan for which a zero is stored, and publishes another one: the
organization that is opened for the order has the amount of the plan as its credit. -/
theorem sells_plan :
    ∃ world : World Database Unit (Except Failure Unit),
      World.Reachable Sale workspace world ∧
        (∀ moment, World.Past workspace world moment →
          ∀ plan ∈ Db.plans moment, plan.id = publishedId → plan.creditLimitIrr = 0) ∧
        (Db.plans world.store).map Plan.creditLimitIrr = [0, 250] ∧
        ∃ order ∈ world.store.orders, order.planId = some publishedId ∧ order.status = .approved ∧
          order.amountIrr = 6000 ∧ ∃ organization ∈ world.store.organizations,
            order.organizationId = some organization.id ∧ organization.creditLimitIrr = 6000 := by
  have quiet : (World.initial workspace : World Database Unit (Except Failure Unit)).Quiet :=
    fun _ => rfl
  obtain ⟨first, toFirst, quiet, published, firstHistory⟩ := quiet.recorded () answers
    (SaleOperation.botAnswersPlan 10 "card" (replied .automatic) : Sale _)
  obtain ⟨second, toSecond, quiet, another, secondHistory⟩ := quiet.recorded () (answersFrom 10)
    (SaleOperation.botAnswersPlan 10 "card" (replied (.amount 250)) : Sale _)
  obtain ⟨third, toThird, quiet, placed, thirdHistory⟩ := quiet.recorded () (answersFrom 2)
    (.system (.createOrder ⟨12, "Buyer"⟩ ⟨"panel", some publishedId, "Corner", 10, 5, ""⟩ trivial) :
      Sale _)
  obtain ⟨fourth, toFourth, quiet, confirmed, fourthHistory⟩ := quiet.recorded () answers
    (.system (.confirmOrder ⟨12, "Buyer"⟩ placedId trivial) : Sale _)
  obtain ⟨fifth, toFifth, quiet, declared, fifthHistory⟩ := quiet.recorded () answers
    (.system (.declarePayment ⟨12, "Buyer"⟩ placedId trivial) : Sale _)
  obtain ⟨last, toLast, _, approved, history⟩ := quiet.recorded () (answersFrom 10)
    (.system (.approveOrder ⟨10, "Seller"⟩ placedId ⟨none, none⟩ trivial) : Sale _)
  have outcome :
      (∀ entry ∈ last.history, ∀ plan ∈ Db.plans (replay (S := Database) entry.2 entry.1),
        plan.id = publishedId → plan.creditLimitIrr = 0) ∧
      (Db.plans last.store).map Plan.creditLimitIrr = [0, 250] ∧
      ∃ order ∈ last.store.orders, order.planId = some publishedId ∧ order.status = .approved ∧
        order.amountIrr = 6000 ∧ ∃ organization ∈ last.store.organizations,
          order.organizationId = some organization.id ∧ organization.creditLimitIrr = 6000 := by
    rw [history, fifthHistory, fourthHistory, thirdHistory, secondHistory, firstHistory, approved,
      declared, confirmed, placed, another, published]
    decide +kernel
  obtain ⟨carried, sale⟩ := outcome
  refine ⟨last, ((((toFirst.trans toSecond).trans toThird).trans toFourth).trans toFifth).trans
    toLast, ?_, sale⟩
  rintro moment (rfl | ⟨committed, member, rfl⟩)
  · intro plan none
    exact absurd none List.not_mem_nil
  · exact carried _ (List.mem_map_of_mem member)

end Sample

/-- A plan with no credit gives the amount of the plan. -/
theorem not_granted_zero : ¬Granted fun _ => .amount 0 := by
  intro granted
  obtain ⟨world, reached, carried, _, order, member, own, _, amount, organization, there, opened,
    credit⟩ := Sample.sells_plan
  obtain ⟨_, _, _, _, _, _, _, zero⟩ := granted Unit Sample.publisher Sample.packages _
    Sample.publishedId Sample.workspace world Sample.integrity (by decide +kernel) reached carried
    order member own organization there opened
  have none : organization.creditLimitIrr = 0 := zero
  exact absurd (credit.symm.trans none) (by decide)

/-- An answer that stands for the amount zero is not followed. -/
theorem not_followed_zero {value : String} : ¬CreditFollows value (.amount 0) :=
  fun follows => not_granted_zero (follows.granted _ fun _ => .inl rfl)

/-- The credit that a seller chooses for the buyers of a plan is the credit that they get, exactly
where the choice is not the amount zero. -/
theorem credit_answers_iff {value : String} {choice : CreditChoice}
    (means : Bot.creditChoice value = some choice) :
    CreditFollows value choice ↔ choice ≠ .amount 0 := by
  constructor
  · rintro follows rfl
    exact not_followed_zero follows
  · intro other
    refine ⟨Bot.continuePlan_choice means, publishing_continuePlan, fun chosen possible => ?_⟩
    refine granted_of_ne fun plan => ?_
    rcases possible plan with same | different
    · rw [same]
      exact other
    · exact different

/-- The word and an amount in Persian digits are followed; the shop publishes a plan with each of
them and sells the first. -/
theorem credit_answers_iff_amounts :
    CreditFollows "خودکار" .automatic ∧ CreditFollows "۲۵۰" (.amount 250) ∧
      ∃ world : World Database Unit (Except Failure Unit),
        World.Reachable Sample.Sale Sample.workspace world ∧
          (∀ moment, World.Past Sample.workspace world moment →
            ∀ plan ∈ Db.plans moment, plan.id = Sample.publishedId → plan.creditLimitIrr = 0) ∧
          (Db.plans world.store).map Plan.creditLimitIrr = [0, 250] ∧
          ∃ order ∈ world.store.orders,
            order.planId = some Sample.publishedId ∧ order.status = .approved ∧
              order.amountIrr = 6000 ∧ ∃ organization ∈ world.store.organizations,
                order.organizationId = some organization.id ∧
                  organization.creditLimitIrr = 6000 := by
  exact ⟨(credit_answers_iff (by decide +kernel)).mpr (by decide),
    (credit_answers_iff (by decide +kernel)).mpr (by decide), Sample.sells_plan⟩

/-- A seller who answers zero gives credit. -/
theorem credit_answers_fails :
    ¬∀ (value : String) (choice : CreditChoice), Bot.creditChoice value = some choice →
      CreditFollows value choice := by
  intro follows
  exact not_followed_zero (follows "0" (.amount 0) (by decide +kernel))

end ControlPlane
