import ControlPlane.Bot.Dispatch

/-!
# What may be collected and stored

The bounds that the models of the WebApp put on the fields of a record, for the
rows that end up in the database and for the answers that a dialogue collects
on the way there.
-/

namespace ControlPlane.Bot

open ReadCommitted Orm PythonText

/-! ## Rows -/

/-- The validation of `OrderIn`. -/
def validOrder (data : OrderIn) : Bool :=
  2 ≤ data.businessName.length && data.businessName.length ≤ 160 &&
    0 < data.userCount && data.userCount ≤ 100000 &&
    0 < data.dailyGib && data.dailyGib ≤ 100000 && data.note.length ≤ 500

/-- What a stored order asks for, as a request. -/
def orderTerms (order : PanelOrder) : OrderIn :=
  ⟨order.panelId, order.planId, order.businessName, order.userCount, order.dailyGib, order.note⟩

/-- A stored plan, as a request. -/
def planTerms (plan : Plan) : PlanIn :=
  ⟨plan.panelId, plan.categoryId, plan.name, plan.description, plan.pricePerGibIrr, plan.dailyGib,
    plan.durationDays, plan.userCount, plan.creditLimitIrr, plan.paymentInstructions⟩

/-- A stored category, as a request. -/
def categoryTerms (category : PlanCategory) : PlanCategoryIn :=
  ⟨category.name, category.description⟩

/-- The terms that are assigned to an order satisfy the bounds of `OrderQuoteIn`, and of
`OrderApproveIn` for the panel account. -/
structure TermsFit (columns : PanelOrderColumns) : Prop where
  amount : ∀ amount ∈ columns.amountIrr, 0 < amount ∧ amount ≤ 10000000000000
  credit : ∀ credit ∈ columns.creditLimitIrr, 0 ≤ credit
  price : ∀ price ∈ columns.pricePerGibIrr, 0 < price
  instructions : ∀ text ∈ columns.paymentInstructions, 3 ≤ text.length ∧ text.length ≤ 2000
  account : ∀ assigned ∈ columns.pgAdminId, ∀ id ∈ assigned, 0 < id

/-- A statement stores nothing that a model of the WebApp would refuse. -/
def Fits : Database.Write → Prop
  | .insert .orders order => validOrder (orderTerms order) = true
  | .insert .fundingRequests request =>
      0 < request.amountIrr ∧ request.amountIrr ≤ 10000000000000
  | .insert .plans plan => validPlan (planTerms plan) = true
  | .insert .planCategories category => validCategory (categoryTerms category) = true
  | .update .orders _ columns => TermsFit columns
  | .update .plans key columns => ∀ plan, validPlan (planTerms plan) = true →
      validPlan (planTerms (Layout.amend (L := layout) key columns plan)) = true
  | .update .planCategories key columns => ∀ category,
      validCategory (categoryTerms category) = true → validCategory (categoryTerms
        (Layout.amend (L := layout) key columns category)) = true
  | _ => True

/-- All stored plans satisfy the bounds of `PlanIn`. -/
def PlansFit (db : Db) : Prop := ∀ plan ∈ db.plans, validPlan (planTerms plan) = true

/-- Statements that fit keep the stored plans within the bounds. -/
theorem PlansFit.apply {db : Db} (plans : PlansFit db) {statement : Database.Write}
    (fits : Fits statement) : PlansFit (statement.apply db) := by
  by_cases off : Layout.Statement.table (L := layout) statement = .plans
  · intro plan member
    cases statement with
    | insert table row =>
        obtain rfl : table = .plans := off
        rcases List.mem_append.mp member with old | new
        · exact plans plan old
        · rw [List.mem_singleton.mp new]
          exact fits
    | update table key columns =>
        obtain rfl : table = .plans := off
        obtain ⟨row, old, rfl⟩ := List.mem_map.mp member
        exact fits row (plans row old)
    | delete table key =>
        obtain rfl : table = .plans := off
        exact plans plan (List.mem_of_mem_filter member)
  · intro plan member
    rw [show (statement.apply db).plans = db.plans from
      Layout.Statement.rows_apply_of_ne (L := layout) db (Ne.symm off)] at member
    exact plans plan member

/-! ## Answers -/

/-- The least and the greatest number that a dialogue may collect under a key. -/
def numberBounds (flow key : String) : Option (Int × Option Int) :=
  if flow = "quote" then
    if key = "amount_irr" then some (1, some 10000000000000)
    else if key = "credit_limit_irr" then some (0, none)
    else if key = "price_per_gib_irr" then some (1, none)
    else none
  else if flow = "plan" then
    if key = "credit_limit_irr" then some (0, none)
    else (planLimit key).map fun limit => (1, some limit)
  else if flow = "order" then
    if key = "user_count" ∨ key = "daily_gib" then some (1, some 100000) else none
  else none

/-- The least and the greatest length of a text that a dialogue may collect under a key. -/
def textBounds (flow key : String) : Option (Nat × Nat) :=
  if flow = "quote" then if key = "instructions" then some (3, 2000) else none
  else if flow = "plan" then
    if key = "name" then some (2, 120)
    else if key = "instructions" then some (0, 2000)
    else if key = "description" then some (0, 1000)
    else none
  else if flow = "order" then if key = "business_name" then some (2, 160) else none
  else if flow = "category" then if key = "name" then some (2, 80) else none
  else none

/-- A collected answer is within its bounds. -/
def FieldFits (flow key : String) : Value → Prop
  | .text text => ∀ bounds ∈ textBounds flow key,
      bounds.1 ≤ text.length ∧ text.length ≤ bounds.2
  | .int number => ∀ bounds ∈ numberBounds flow key,
      bounds.1 ≤ number ∧ ∀ greatest ∈ bounds.2, number ≤ greatest
  | .null => True

/-- All collected answers are within their bounds. -/
def Collected (dialogue : Dialogue) : Prop :=
  ∀ entry ∈ dialogue.data, FieldFits dialogue.flow entry.1 entry.2

theorem Collected.lookup {dialogue : Dialogue} (collected : Collected dialogue) {key : String}
    {value : Value} (found : dialogue.lookup key = some value) :
    FieldFits dialogue.flow key value := by
  obtain ⟨entry, first, rfl⟩ := Option.map_eq_some_iff.mp found
  have named : entry.1 = key := by simpa using List.find?_some first
  rw [← named]
  exact collected entry (List.mem_of_find?_eq_some first)

/-- An answer within its bounds is collected along with the earlier ones. -/
theorem Collected.answer {dialogue : Dialogue} (collected : Collected dialogue) {key : String}
    {value : Value} (fits : FieldFits dialogue.flow key value) (step : String) :
    Collected (dialogue.answer key value step) := by
  intro entry member
  rcases List.mem_append.mp member with old | new
  · exact collected entry (List.mem_of_mem_filter old)
  · rw [List.mem_singleton.mp new]
    exact fits

/-- An answer is none of those that a step of the bot lets through although a model refuses them:
an amount over the limit, and the number zero for a panel account. -/
def AnswerFits (dialogue : Dialogue) (value : String) : Prop :=
  isDigit (number value) = true →
    (dialogue.flow = "credit" ∨ dialogue.flow = "quote" ∧ dialogue.step = "amount" →
      ∀ amount, int? (number value) = some amount → amount ≤ 10000000000000) ∧
    (dialogue.flow = "quote" ∧ dialogue.step = "pg_admin_id" ∧ skips value = false ∨
        dialogue.flow = "attach" ∧ skips (strip value) = false →
      int? (number value) ≠ some 0)

/-! ## Numbers that are typed -/

/-- What is left without white space was there before. -/
theorem mem_of_mem_numberText {text : String} {char : Char} (member : char ∈ numberText text) :
    char ∈ text.toList := by
  rw [numberText, List.mem_reverse] at member
  have kept := (List.dropWhile_sublist _).subset member
  rw [List.mem_reverse] at kept
  exact (List.dropWhile_sublist _).subset kept

/-- A text of digits is no negative number. -/
theorem int?_nonneg {text : String} (digits : isDigit text = true) {number : Int}
    (typed : int? text = some number) : 0 ≤ number := by
  rw [isDigit, Bool.and_eq_true, List.all_eq_true] at digits
  unfold int? at typed
  split_ifs at typed
  unfold signed? at typed
  split at typed
  next rest sign =>
    have minus : '-' ∈ text.toList := mem_of_mem_numberText (sign ▸ List.mem_cons_self)
    exact absurd (digits.2 '-' minus) (by decide)
  next =>
    obtain ⟨value, natural, rfl⟩ := Option.map_eq_some_iff.mp typed
    obtain ⟨value, -, ⟨⟩⟩ := Option.bind_eq_some_iff.mp natural
    exact Int.natCast_nonneg value
  next =>
    obtain ⟨value, natural, rfl⟩ := Option.map_eq_some_iff.mp typed
    obtain ⟨value, -, ⟨⟩⟩ := Option.bind_eq_some_iff.mp natural
    exact Int.natCast_nonneg value

/-- `text[:length]` is at most as long. -/
theorem length_truncate (length : Nat) (text : String) :
    (truncate length text).length = min length text.length := by
  rw [truncate, String.length_ofList, List.length_take, String.length_toList]

end ControlPlane.Bot
