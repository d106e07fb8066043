import ControlPlane.Bot.Obedience

/-!
# Answers that a dialogue accepts

The dialogues check each answer when it is given, and the models of the WebApp
check the collected answers at the end. Every dialogue keeps its answers within
the bounds of the models, except for the answers that its steps let through.
-/

namespace ControlPlane.Bot

open ReadCommitted Orm PythonText

variable {answered : Int → Dialogue → Prop}

/-! ## Collected answers -/

/-- A text that was collected is within its bounds. -/
theorem textEntry_obeys {dialogue : Dialogue} (collected : Collected dialogue) (key : String) :
    (textEntry dialogue key).Obeys (rules answered) fun text =>
      ∀ bounds ∈ textBounds dialogue.flow key, bounds.1 ≤ text.length ∧ text.length ≤ bounds.2 := by
  refine Orm.Obeys.mono (.found (by rintro ⟨⟩)) fun text found => ?_
  obtain ⟨value, present, typed⟩ := Option.bind_eq_some_iff.mp found
  cases value with
  | text value =>
      obtain rfl := Option.some.inj typed
      exact collected.lookup present
  | _ => exact absurd typed (by rintro ⟨⟩)

/-- A number that was collected is within its bounds. -/
theorem intEntry_obeys {dialogue : Dialogue} (collected : Collected dialogue) (key : String) :
    (intEntry dialogue key).Obeys (rules answered) fun value =>
      ∀ bounds ∈ numberBounds dialogue.flow key,
        bounds.1 ≤ value ∧ ∀ greatest ∈ bounds.2, value ≤ greatest := by
  refine Orm.Obeys.mono (.found (by rintro ⟨⟩)) fun number found => ?_
  obtain ⟨value, present, typed⟩ := Option.bind_eq_some_iff.mp found
  cases value with
  | int value =>
      obtain rfl := Option.some.inj typed
      exact collected.lookup present
  | _ => exact absurd typed (by rintro ⟨⟩)

instance (dialogue : Dialogue) (key : String) :
    Obedient (rules answered) (textEntry dialogue key) := by
  unfold textEntry
  infer_instance

/-- A typed number is the value of its digits, and is not negative. -/
theorem typedNumber_obeys (digits : String) :
    (typedNumber digits).Obeys (rules answered) fun typed =>
      ∀ value ∈ typed, isDigit digits = true ∧ int? digits = some value ∧ 0 ≤ value := by
  unfold typedNumber parseInt
  split
  next numeric =>
    refine .bind (.found (ofKind_valueError (by decide)).holds) fun value read => .pure ?_
    rintro _ ⟨⟩
    exact ⟨numeric, read, int?_nonneg numeric read⟩
  next => exact .pure (by rintro _ ⟨⟩)

instance (digits : String) : Obedient (rules answered) (typedNumber digits) :=
  .of (typedNumber_obeys digits)

/-! ## Steps of a dialogue -/

instance (chatId : Int) : Obedient (rules answered) (getState chatId) := by
  unfold getState
  infer_instance

instance (chatId : Int) : Obedient (rules answered) (clearState chatId) := by
  unfold clearState
  infer_instance

variable (answered) in
theorem setState_obedient (chatId : Int) {dialogue : Dialogue} (collected : Collected dialogue) :
    Obedient (rules answered) (setState chatId dialogue) := by
  have may : MayAsk (rules answered) (.setState chatId dialogue) := ⟨collected⟩
  unfold setState
  infer_instance

instance (env : Env) (chatId : Int) : Obedient (rules answered) (sendMenu env chatId) := by
  unfold sendMenu
  infer_instance

instance (env : Env) (chatId : Int) : Obedient (rules answered) (abortFlow env chatId) := by
  unfold abortFlow
  infer_instance

instance (body : Op α) (denied : Op Unit) (next : α → Op Unit) [Obedient (rules answered) body]
    [Obedient (rules answered) denied] [∀ value, Obedient (rules answered) (next value)] :
    Obedient (rules answered) (unlessDenied body denied next) := by
  have guarded : Obedient (rules answered) (tryCatch
      (do
        let value ← body
        pure (some value))
      fun exception =>
        if isPermissionError exception = true then pure none else throw exception) := by
    refine ⟨.tryCatch Obedient.obeys fun exception raised => ?_⟩
    split
    next => exact .pure trivial
    next => exact .throw raised
  unfold unlessDenied
  infer_instance

instance (env : Env) (chatId : Int) : Obedient (rules answered) (catalogList env chatId) := by
  unfold catalogList
  infer_instance

variable (answered) in
theorem begin_obedient (chatId : Int) {flow step : String} {data : List (String × Value)}
    (collected : Collected ⟨flow, step, data⟩) :
    Obedient (rules answered) (begin chatId flow step data) := by
  have stored := setState_obedient answered chatId collected
  unfold begin
  infer_instance

variable (answered) in
theorem proceed_obedient (chatId : Int) {dialogue : Dialogue} (collected : Collected dialogue) :
    Obedient (rules answered) (proceed chatId dialogue) := by
  have stored := setState_obedient answered chatId collected
  unfold proceed
  infer_instance

/-- A note that may be left out. -/
theorem length_note (value : String) :
    (if skips value then "" else truncate 500 value).length ≤ 500 := by
  split
  · exact Nat.zero_le 500
  · rw [length_truncate]
    exact Nat.min_le_left 500 value.length

/-- Below an upper bound, a text that is cut off keeps its lower bound. -/
theorem le_length_truncate {least length : Nat} {text : String} (within : least ≤ length)
    (long : least ≤ text.length) :
    least ≤ (truncate length text).length ∧ (truncate length text).length ≤ length := by
  rw [length_truncate]
  exact ⟨Nat.le_min.mpr ⟨within, long⟩, Nat.min_le_left length text.length⟩

section

variable (env : Env) (chatId : Int) {value : String} {state : Dialogue}

/-! ## A new category -/

theorem continueCategory_obedient (flow : state.flow = "category") (collected : Collected state) :
    Obedient (rules answered) (continueCategory env chatId value state) := by
  unfold continueCategory
  split
  next =>
    split
    next length =>
      refine proceed_obedient _ chatId (collected.answer ?_ "description")
      rw [flow]
      rintro _ ⟨⟩
      exact length
    next => infer_instance
  next =>
    refine ⟨.bind (textEntry_obeys collected "name")
      fun name bounds => ?_⟩
    rw [flow] at bounds
    have length := bounds (2, 80) rfl
    have valid : validCategory
        ⟨name, if skips value then "" else truncate 500 value⟩ = true := by
      simp only [validCategory, Bool.and_eq_true, decide_eq_true_eq]
      exact ⟨length, length_note value⟩
    have created := createShelf_obedient answered env chatId valid
    exact Obedient.obeys

/-! ## A new plan -/

/-- An answer that the plan dialogue takes is within its bounds. -/
theorem planAnswer_obeys (field : String) :
    (planAnswer field value).Obeys (rules answered) fun answer =>
      ∀ taken ∈ answer, FieldFits "plan" field taken := by
  unfold planAnswer
  split
  next name =>
    subst name
    refine .pure ?_
    split
    next length =>
      rintro _ ⟨⟩ _ ⟨⟩
      exact length
    next => rintro _ ⟨⟩
  next =>
    split
    next instructions =>
      subst instructions
      refine .pure ?_
      split
      next => rintro _ ⟨⟩
      next =>
        rintro _ ⟨⟩ _ ⟨⟩
        exact le_length_truncate (Nat.zero_le 2000) (Nat.zero_le value.length)
    next =>
      split
      next credit =>
        subst credit
        refine (typedNumber_obeys _).bind fun typed read => .pure ?_
        intro taken member
        obtain ⟨amount, present, rfl⟩ := Option.map_eq_some_iff.mp member
        rintro _ ⟨⟩
        exact ⟨(read amount present).2.2, by rintro _ ⟨⟩⟩
      next notCredit =>
        refine (typedNumber_obeys _).bind fun typed _ => ?_
        refine .branch (.pure (by rintro _ ⟨⟩)) fun amount _ => ?_
        refine .bind (.found (by rintro ⟨⟩)) fun limit known => .pure ?_
        split
        next within' =>
          rintro _ ⟨⟩ bounds member
          rw [numberBounds, if_neg (by decide), if_pos rfl, if_neg notCredit, known] at member
          obtain rfl := Option.some.inj member
          refine ⟨within'.1, ?_⟩
          rintro _ ⟨⟩
          exact within'.2
        next => rintro _ ⟨⟩

/-- The collected answers of the plan dialogue make a valid plan. -/
theorem planOf_obeys (flow : state.flow = "plan") (collected : Collected state) :
    (planOf state).Obeys (rules answered) fun data => validPlan data = true := by
  unfold planOf
  refine .bind (textEntry_obeys collected "panel_id") fun panelId _ => ?_
  refine .bind (textEntry_obeys collected "name") fun name named => ?_
  refine .bind (intEntry_obeys collected "price_per_gib_irr") fun price priced => ?_
  refine .bind (intEntry_obeys collected "daily_gib") fun daily dailyBounds => ?_
  refine .bind (intEntry_obeys collected "duration_days") fun duration lasting => ?_
  refine .bind (intEntry_obeys collected "user_count") fun users counted => ?_
  refine .bind (intEntry_obeys collected "credit_limit_irr") fun credit credited => ?_
  refine .bind (textEntry_obeys collected "instructions") fun instructions instructed => .pure ?_
  have described : (((state.lookup "description").bind Value.text?).getD "").length ≤ 1000 := by
    cases found : (state.lookup "description").bind Value.text? with
    | none => exact Nat.zero_le 1000
    | some text =>
        obtain ⟨value, present, typed⟩ := Option.bind_eq_some_iff.mp found
        cases value with
        | text value =>
            obtain rfl := Option.some.inj typed
            have fits := collected.lookup present
            rw [flow] at fits
            exact (fits (0, 1000) rfl).2
        | _ => exact absurd typed (by rintro ⟨⟩)
  rw [flow] at named priced dailyBounds lasting counted credited instructed
  have nameBounds := named (2, 120) rfl
  have priceBounds := priced (1, some 10000000000000) rfl
  have daysBounds := lasting (1, some 3650) rfl
  have userBounds := counted (1, some 100000) rfl
  have instructionBounds := instructed (0, 2000) rfl
  have sizeBounds := dailyBounds (1, some 100000) rfl
  have creditBounds := credited (0, none) rfl
  have most := priceBounds.2 _ rfl
  have days := daysBounds.2 _ rfl
  have size := sizeBounds.2 _ rfl
  have people := userBounds.2 _ rfl
  simp only [validPlan, Bool.and_eq_true, decide_eq_true_eq]
  omega

theorem continuePlan_obedient (flow : state.flow = "plan") (collected : Collected state) :
    Obedient (rules answered) (continuePlan env chatId value state) := by
  unfold continuePlan
  split
  next => infer_instance
  next =>
    refine ⟨.bind (planAnswer_obeys state.step) fun answer fits => ?_⟩
    refine .branch Obedient.obeys fun taken given => ?_
    have within' : FieldFits state.flow state.step taken := by
      rw [flow]
      exact fits taken given
    refine .branch ?_ fun next _ =>
      (proceed_obedient _ chatId (collected.answer within' next)).obeys
    refine .bind (planOf_obeys flow (collected.answer within' state.step)) fun data valid => ?_
    have saved := savePlan_obedient answered env chatId valid
    exact Obedient.obeys

/-! ## Reviewing an order -/

variable (answered) in
set_option synthInstance.maxSize 100000 in
theorem applyApproval_obedient (orderId : Id) (approve callback : Bool)
    {attach : Option OrderApproveIn} (fits : AttachFits attach) :
    Obedient (rules answered) (applyApproval env chatId orderId approve callback attach) := by
  have decided := reviewerOrderAction_obedient answered env chatId orderId approve
    (if approve then "" else "رد توسط مدیر مجموعه") fits
  unfold applyApproval
  infer_instance

theorem continueAttach_obedient (flow : state.flow = "attach") (fits : AnswerFits state value) :
    Obedient (rules answered) (continueAttach env chatId value state) := by
  unfold continueAttach
  split
  next =>
    have applied : ∀ orderId : Id, Obedient (rules answered)
        (applyApproval env chatId orderId true false none) :=
      fun orderId => applyApproval_obedient _ env chatId orderId true false (by rintro _ ⟨⟩)
    infer_instance
  next unskipped =>
    refine ⟨.bind (typedNumber_obeys _) fun typed read => ?_⟩
    refine .branch Obedient.obeys fun pgAdminId given => ?_
    obtain ⟨numeric, parsed, nonneg⟩ := read pgAdminId given
    have nonzero := (fits numeric).2 (.inr ⟨flow, Bool.eq_false_iff.mpr unskipped⟩)
    have positive : 0 < pgAdminId := by
      refine lt_of_le_of_ne nonneg fun zero => nonzero ?_
      rw [parsed, ← zero]
    have checked : Obedient (rules answered) (require (0 < pgAdminId) validationError) :=
      Obedient.satisfied positive
    have applied : ∀ orderId : Id, Obedient (rules answered)
        (applyApproval env chatId orderId true false (some ⟨some pgAdminId, none⟩)) := by
      refine fun orderId => applyApproval_obedient _ env chatId orderId true false ?_
      rintro _ ⟨⟩ _ ⟨⟩
      exact positive
    exact Obedient.obeys

/-! ## Quoting an order -/

/-- The collected answers of the quote dialogue make a valid quote. -/
theorem quoteOf_obeys (flow : state.flow = "quote") (collected : Collected state)
    {pgAdminId : Option Int} (account : ∀ id ∈ pgAdminId, 0 < id) :
    (quoteOf state pgAdminId).Obeys (rules answered) fun data => validQuote data = true := by
  unfold quoteOf
  refine .bind (intEntry_obeys collected "amount_irr") fun amount counted => ?_
  refine .bind (intEntry_obeys collected "credit_limit_irr") fun credit credited => ?_
  refine .bind (intEntry_obeys collected "price_per_gib_irr") fun price priced => ?_
  refine .bind (textEntry_obeys collected "instructions") fun instructions instructed => .pure ?_
  rw [flow] at counted credited priced instructed
  have amountBounds := counted (1, some 10000000000000) rfl
  have creditBounds := credited (0, none) rfl
  have priceBounds := priced (1, none) rfl
  have instructionBounds := instructed (3, 2000) rfl
  have most := amountBounds.2 _ rfl
  have positive : (pgAdminId.all fun id => decide (0 < id)) = true := by
    cases pgAdminId with
    | none => rfl
    | some id => exact decide_eq_true (account id rfl)
  simp only [validQuote, Bool.and_eq_true, decide_eq_true_eq]
  exact ⟨by omega, positive⟩

theorem finishQuote_obedient (flow : state.flow = "quote") (collected : Collected state)
    {pgAdminId : Option Int} (account : ∀ id ∈ pgAdminId, 0 < id) :
    Obedient (rules answered) (finishQuote env chatId state pgAdminId) := by
  unfold finishQuote
  refine ⟨.bind (quoteOf_obeys flow collected account)
    fun data valid => ?_⟩
  have quoted := fun orderId : Id =>
    applyQuote_obedient answered env chatId orderId valid
  exact Obedient.obeys

/-- A number that the quote dialogue takes is within its bounds, when an amount is. -/
theorem quoteNumber_obedient (flow : state.flow = "quote") (collected : Collected state)
    {field : String} (next : String) (most : isDigit (number value) = true →
      field = "amount_irr" → ∀ amount, int? (number value) = some amount →
        amount ≤ 10000000000000) :
    Obedient (rules answered) (quoteNumber chatId value state field next) := by
  unfold quoteNumber
  refine ⟨.bind (typedNumber_obeys (number value))
    fun typed read => .branch Obedient.obeys fun amount given => ?_⟩
  obtain ⟨present, positive⟩ := Option.filter_eq_some_iff.mp given
  obtain ⟨numeric, parsed, nonneg⟩ := read amount present
  rw [Bool.or_eq_true, decide_eq_true_eq, decide_eq_true_eq] at positive
  refine (proceed_obedient _ chatId (collected.answer ?_ next)).obeys
  rw [flow]
  intro bounds member
  rw [numberBounds, if_pos rfl] at member
  split at member
  next same =>
    obtain rfl := Option.some.inj member
    have nonzero := positive.resolve_right (by rw [same]; decide)
    refine ⟨nonzero, ?_⟩
    rintro _ ⟨⟩
    exact most numeric same amount parsed
  next =>
    split at member
    next =>
      obtain rfl := Option.some.inj member
      exact ⟨nonneg, by rintro _ ⟨⟩⟩
    next other =>
      split at member
      next =>
        obtain rfl := Option.some.inj member
        exact ⟨positive.resolve_right other, by rintro _ ⟨⟩⟩
      next => exact absurd member (by rintro ⟨⟩)

/-- Only the amount step collects the amount. -/
theorem quoteStep_amount {step next : String}
    (known : quoteStep step = some (some "amount_irr", next)) : step = "amount" := by
  unfold quoteStep at known
  split at known
  next same => exact same
  next =>
    repeat' split at known
    all_goals simp at known

/-- The steps without a field are those of the instructions and of the panel account. -/
theorem quoteStep_none {step next : String} (known : quoteStep step = some (none, next)) :
    step = "instructions" ∨ step = "pg_admin_id" := by
  unfold quoteStep at known
  repeat' split at known
  all_goals simp_all

theorem continueQuote_obedient (flow : state.flow = "quote") (collected : Collected state)
    (fits : AnswerFits state value) :
    Obedient (rules answered) (continueQuote env chatId value state) := by
  unfold continueQuote
  refine ⟨.bind (.found (by rintro ⟨⟩)) fun step known => ?_⟩
  obtain ⟨field, next⟩ := step
  cases field with
  | none =>
      refine .branch ?_ (by rintro _ ⟨⟩)
      split
      next instructions =>
        split
        next => exact Obedient.obeys
        next long =>
          refine (proceed_obedient _ chatId (collected.answer ?_ next)).obeys
          rw [flow]
          rintro _ ⟨⟩
          exact le_length_truncate (by decide) (Nat.le_of_not_lt long)
      next other =>
        split
        next => exact (finishQuote_obedient env chatId flow collected (by rintro _ ⟨⟩)).obeys
        next unskipped =>
          refine .bind (typedNumber_obeys (number value)) fun typed read =>
            .branch Obedient.obeys fun pgAdminId given => ?_
          refine (finishQuote_obedient env chatId flow collected ?_).obeys
          rintro _ ⟨⟩
          obtain ⟨numeric, parsed, nonneg⟩ := read pgAdminId given
          have last : state.step = "pg_admin_id" := (quoteStep_none known).resolve_left other
          have nonzero := (fits numeric).2 (.inl ⟨flow, last, Bool.eq_false_iff.mpr unskipped⟩)
          refine lt_of_le_of_ne nonneg fun zero => nonzero ?_
          rw [parsed, ← zero]
  | some field =>
      change (quoteNumber chatId value state field next).Obeys (rules answered) fun _ => True
      refine (quoteNumber_obedient chatId flow collected next ?_).obeys
      rintro numeric rfl
      exact (fits numeric).1 (.inr ⟨flow, quoteStep_amount known⟩)

/-! ## Placing an order -/

variable (answered) in
theorem finishOrder_obedient (flow : state.flow = "order") (collected : Collected state) :
    Obedient (rules answered) (finishOrder env chatId value state) := by
  unfold finishOrder
  refine ⟨?_⟩
  refine .bind (textEntry_obeys collected "panel_id") fun panelId _ => ?_
  refine .bind (textEntry_obeys collected "business_name") fun name named => ?_
  refine .bind (intEntry_obeys collected "user_count") fun users counted => ?_
  refine .bind (intEntry_obeys collected "daily_gib") fun daily sized => ?_
  rw [flow] at named counted sized
  have nameBounds := named (2, 160) rfl
  have userBounds := counted (1, some 100000) rfl
  have sizeBounds := sized (1, some 100000) rfl
  have people := userBounds.2 _ rfl
  have size := sizeBounds.2 _ rfl
  have noted := length_note value
  have valid : validOrder ⟨panelId, (state.lookup "plan_id").bind Value.text?, name, users, daily,
      if skips value then "" else truncate 500 value⟩ = true := by
    simp only [validOrder, Bool.and_eq_true, decide_eq_true_eq]
    omega
  have placed := placeOrder_obedient answered chatId valid
  exact Obedient.obeys

variable (answered) in
theorem orderNumber_obedient (flow : state.flow = "order") (collected : Collected state)
    (field next : String) :
    Obedient (rules answered) (orderNumber chatId value state field next) := by
  unfold orderNumber
  refine ⟨.bind Obedient.obeys fun typed _ =>
    .branch Obedient.obeys fun amount given => ?_⟩
  have within' := (Option.filter_eq_some_iff.mp given).2
  rw [Bool.and_eq_true, decide_eq_true_eq, decide_eq_true_eq] at within'
  refine (proceed_obedient _ chatId (collected.answer ?_ next)).obeys
  rw [flow]
  intro bounds member
  rw [numberBounds, if_neg (by decide), if_neg (by decide), if_pos rfl] at member
  split at member
  next =>
    obtain rfl := Option.some.inj member
    refine ⟨within'.1, ?_⟩
    rintro _ ⟨⟩
    exact within'.2
  next => exact absurd member (by rintro ⟨⟩)

theorem continueOrder_obedient (flow : state.flow = "order") (collected : Collected state) :
    Obedient (rules answered) (continueOrder env chatId value state) := by
  have counted : ∀ field next : String,
      Obedient (rules answered) (orderNumber chatId value state field next) :=
    orderNumber_obedient _ chatId flow collected
  have finished : Obedient (rules answered) (finishOrder env chatId value state) :=
    finishOrder_obedient _ env chatId flow collected
  unfold continueOrder
  split
  next =>
    split
    next => infer_instance
    next long =>
      refine proceed_obedient _ chatId (collected.answer ?_ _)
      rw [flow]
      rintro _ ⟨⟩
      exact le_length_truncate (by decide) (Nat.le_of_not_lt long)
  next => infer_instance

/-! ## Asking for credit -/

theorem continueCredit_obedient (most : isDigit (number value) = true →
      ∀ amount, int? (number value) = some amount → amount ≤ 10000000000000) :
    Obedient (rules answered) (continueCredit env chatId value) := by
  unfold continueCredit
  refine ⟨.bind (typedNumber_obeys (number value))
    fun typed read => .branch Obedient.obeys fun amount given => ?_⟩
  obtain ⟨present, positive⟩ := Option.filter_eq_some_iff.mp given
  obtain ⟨numeric, parsed, -⟩ := read amount present
  have requested := requestCredit_obedient answered env chatId
    (of_decide_eq_true positive) (most numeric amount parsed)
  exact Obedient.obeys

/-! ## A new reseller -/

/-- The other dialogues collect texts of any length. -/
theorem fieldFits_text {flow : String} (quote : flow ≠ "quote") (plan : flow ≠ "plan")
    (order : flow ≠ "order") (category : flow ≠ "category") (key text : String) :
    FieldFits flow key (.text text) := by
  intro bounds member
  rw [textBounds, if_neg quote, if_neg plan, if_neg order, if_neg category] at member
  exact absurd member (by rintro ⟨⟩)

instance (state : Dialogue) : Obedient (rules answered) (finishReseller env chatId state) := by
  unfold finishReseller
  infer_instance

theorem continueReseller_obedient (texts : ∀ key text, FieldFits state.flow key (.text text))
    (collected : Collected state) :
    Obedient (rules answered) (continueReseller env chatId value state) := by
  have proceeds := fun key text step : String => proceed_obedient answered chatId
    (collected.answer (texts key text) step)
  unfold continueReseller
  infer_instance

/-! ## Continuing a dialogue -/

theorem continueState_obedient (collected : Collected state) (fits : AnswerFits state value) :
    Obedient (rules answered) (continueState env chatId value state) := by
  unfold continueState
  split
  next => infer_instance
  next =>
    split
    next order => exact continueOrder_obedient env chatId order collected
    next order =>
      split
      next quote => exact continueQuote_obedient env chatId quote collected fits
      next quote =>
        split
        next category => exact continueCategory_obedient env chatId category collected
        next category =>
          split
          next plan => exact continuePlan_obedient env chatId plan collected
          next plan =>
            split
            next attach => exact continueAttach_obedient env chatId attach fits
            next =>
              split
              next credit => exact continueCredit_obedient env chatId fun numeric =>
                  (fits numeric).1 (.inl credit)
              next =>
                exact continueReseller_obedient env chatId
                  (fieldFits_text quote plan order category) collected

end

end ControlPlane.Bot
