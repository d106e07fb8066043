import ControlPlane.Bot.Dispatch
import ControlPlane.Sample

/-!
# Answers that are numbers

A step of a dialogue that asks for a number tests the answer with `isdigit`
and converts it with `int`. The first accepts digits that the second does not
read, such as superscripts, and `int` refuses long texts. Where the two agree,
a step stores the number that the answer denotes, or asks again.
-/

namespace ControlPlane.Bot

open ReadCommitted Orm PythonText

/-! ## Digits -/

/-- Every character is a decimal digit. -/
def areDecimal (chars : List Char) : Bool := chars.all fun char => (decimal? char).isSome

theorem areDecimal_iff {chars : List Char} :
    areDecimal chars = true ↔ ∀ char ∈ chars, (decimal? char).isSome = true :=
  List.all_eq_true

/-- A text of decimal digits, of a length that `int` reads. -/
def IsNumeral (text : String) : Prop :=
  text ≠ "" ∧ areDecimal text.toList = true ∧ text.length ≤ 4300

instance (text : String) : Decidable (IsNumeral text) :=
  inferInstanceAs (Decidable (_ ∧ areDecimal text.toList = true ∧ _))

/-- The number that digits stand for, most significant first. -/
def digitsNumber (chars : List Char) : Nat :=
  chars.foldl (fun value char => 10 * value + (decimal? char).getD 0) 0

/-- The number that a text denotes. -/
def numeral (text : String) : Option Int :=
  if IsNumeral text then some (digitsNumber text.toList) else none

/-- Whatever `isdigit` accepts, `int` reads. -/
def Convertible (text : String) : Prop := isDigit text = true → IsNumeral text

/-- `str.isdigit` of one character. -/
def isDigitChar (char : Char) : Bool :=
  (decimal? char).isSome ||
    otherDigits.any fun range => range.1 ≤ char.toNat && char.toNat ≤ range.2

theorem isDigit_iff {text : String} :
    isDigit text = true ↔ text ≠ "" ∧ ∀ char ∈ text.toList, isDigitChar char = true := by
  rw [isDigit, Bool.and_eq_true, List.all_eq_true, decide_eq_true_eq]
  rfl

theorem IsNumeral.isDigit {text : String} (numeral : IsNumeral text) : isDigit text = true :=
  isDigit_iff.mpr ⟨numeral.1, fun char member => by
    rw [isDigitChar, areDecimal_iff.mp numeral.2.1 char member, Bool.true_or]⟩

/-- No digit is a blank. -/
theorem not_isSpace {char : Char} (digit : isDigitChar char = true) : isSpace char = false := by
  have blank : ∀ code : Nat, ((0x9 ≤ code && code ≤ 0xd) || (0x1c ≤ code && code ≤ 0x20) ||
      code = 0x85 || code = 0xa0 || code = 0x1680 || (0x2000 ≤ code && code ≤ 0x200a) ||
      code = 0x2028 || code = 0x2029 || code = 0x202f || code = 0x205f || code = 0x3000) = true →
      code ∈ [0x9, 0xa, 0xb, 0xc, 0xd, 0x1c, 0x1d, 0x1e, 0x1f, 0x20, 0x85, 0xa0, 0x1680, 0x2000,
        0x2001, 0x2002, 0x2003, 0x2004, 0x2005, 0x2006, 0x2007, 0x2008, 0x2009, 0x200a, 0x2028,
        0x2029, 0x202f, 0x205f, 0x3000] := by
    intro code space
    simp only [Bool.or_eq_true, Bool.and_eq_true, decide_eq_true_eq] at space
    simp only [List.mem_cons, List.not_mem_nil, or_false]
    omega
  rw [Bool.eq_false_iff]
  intro space
  have code := blank char.toNat space
  unfold isDigitChar decimal? at digit
  generalize char.toNat = number at code digit
  revert digit
  have every : ∀ number ∈ [0x9, 0xa, 0xb, 0xc, 0xd, 0x1c, 0x1d, 0x1e, 0x1f, 0x20, 0x85, 0xa0, 0x1680,
      0x2000, 0x2001, 0x2002, 0x2003, 0x2004, 0x2005, 0x2006, 0x2007, 0x2008, 0x2009, 0x200a, 0x2028,
      0x2029, 0x202f, 0x205f, 0x3000],
      (((decimalZeros.find? fun first => first ≤ number && number < first + 10).map
        fun first => number - first).isSome ||
          otherDigits.any fun range => range.1 ≤ number && number ≤ range.2) = false := by
    decide +kernel
  rw [every number code]
  exact Bool.false_ne_true

/-- No digit is skipped. -/
theorem numberText_digits {text : String}
    (digits : ∀ char ∈ text.toList, isDigitChar char = true) : numberText text = text.toList := by
  have keep : ∀ chars : List Char, (∀ char ∈ chars, isDigitChar char = true) →
      chars.dropWhile isNumberSpace = chars := by
    intro chars digits
    cases chars with
    | nil => rfl
    | cons char chars =>
        rw [List.dropWhile_cons_of_neg]
        rw [isNumberSpace, not_isSpace (digits char List.mem_cons_self), Bool.false_and]
        exact Bool.false_ne_true
  have reversed : ∀ char ∈ text.toList.reverse, isDigitChar char = true := fun char member =>
    digits char (List.mem_reverse.mp member)
  rw [numberText, keep _ digits, keep _ reversed, List.reverse_reverse]

theorem digitsValue_eq {chars : List Char} (digits : ∀ char ∈ chars, isDigitChar char = true)
    (value : Nat) :
    digitsValue value chars =
      if areDecimal chars = true then
        some (chars.foldl (fun value char => 10 * value + (decimal? char).getD 0) value)
      else none := by
  induction chars generalizing value with
  | nil => rfl
  | cons char chars inductionHypothesis =>
      have line : char ≠ '_' := by
        rintro rfl
        exact absurd (digits '_' List.mem_cons_self) (by decide +kernel)
      have later := fun value => inductionHypothesis
        (fun other member => digits other (List.mem_cons_of_mem _ member)) value
      rw [digitsValue.eq_3 value char chars (fun _ _ same _ => line same)]
      cases digit : decimal? char with
      | none =>
          rw [if_neg]
          · rfl
          · intro all
            have found := areDecimal_iff.mp all char List.mem_cons_self
            rw [digit] at found
            exact Bool.false_ne_true found
      | some number =>
          rw [Option.bind_eq_bind, Option.bind_some, later, List.foldl_cons, digit,
            Option.getD_some]
          refine if_congr ?_ rfl rfl
          rw [areDecimal, areDecimal, List.all_cons, digit, Option.isSome_some, Bool.true_and]

theorem natural?_digits {chars : List Char} (some' : chars ≠ [])
    (digits : ∀ char ∈ chars, isDigitChar char = true) :
    natural? chars =
      if areDecimal chars = true then some (digitsNumber chars) else none := by
  cases chars with
  | nil => exact absurd rfl some'
  | cons char chars =>
      have later := digitsValue_eq fun other member => digits other (List.mem_cons_of_mem _ member)
      rw [natural?]
      cases digit : decimal? char with
      | none =>
          rw [if_neg]
          · rfl
          · intro all
            have found := areDecimal_iff.mp all char List.mem_cons_self
            rw [digit] at found
            exact Bool.false_ne_true found
      | some number =>
          rw [Option.bind_eq_bind, Option.bind_some, later, digitsNumber, List.foldl_cons, digit,
            Option.getD_some, Nat.mul_zero, Nat.zero_add]
          refine if_congr ?_ rfl rfl
          rw [areDecimal, areDecimal, List.all_cons, digit, Option.isSome_some, Bool.true_and]

/-- What `int` makes of a text that `isdigit` accepts. -/
theorem int?_digits {text : String} (digits : isDigit text = true) : int? text = numeral text := by
  obtain ⟨some', each⟩ := isDigit_iff.mp digits
  have chars : text.toList ≠ [] := fun none' => some' (String.toList_eq_nil_iff.mp none')
  have unsigned : signed? (numberText text) =
      if areDecimal text.toList = true then some (digitsNumber text.toList : Int) else none := by
    rw [numberText_digits each]
    unfold signed?
    split
    next rest sign =>
      exact absurd (each '-' (sign ▸ List.mem_cons_self)) (by decide +kernel)
    next rest sign =>
      exact absurd (each '+' (sign ▸ List.mem_cons_self)) (by decide +kernel)
    next =>
      rw [natural?_digits chars each]
      split <;> rfl
  unfold int? numeral
  by_cases decimal : areDecimal text.toList = true
  · have count : (text.toList.filter fun char => (decimal? char).isSome).length = text.length := by
      rw [List.filter_eq_self.mpr (areDecimal_iff.mp decimal), String.length_toList]
    rw [unsigned, if_pos decimal, count]
    by_cases long : 4300 < text.length
    · rw [if_pos long, if_neg fun numeral => absurd numeral.2.2 (Nat.not_le.mpr long)]
    · rw [if_neg long, if_pos ⟨some', decimal, Nat.not_lt.mp long⟩]
  · have other : ¬IsNumeral text := fun numeral => decimal numeral.2.1
    rw [unsigned, if_neg decimal, if_neg other]
    split <;> rfl

/-- A convertible answer is read as the number that it denotes. -/
theorem typedNumber_eq {text : String} (convertible : Convertible text) :
    typedNumber text = pure (numeral text) := by
  unfold typedNumber parseInt
  by_cases digits : isDigit text = true
  · rw [if_pos digits, int?_digits digits, numeral, if_pos (convertible digits)]
    rfl
  · rw [if_neg digits, numeral, if_neg fun numeral => digits numeral.isDigit]

theorem typedNumber_bind {text : String} (convertible : Convertible text)
    (rest : Option Int → Op β) : typedNumber text >>= rest = rest (numeral text) := by
  rw [typedNumber_eq convertible]
  rfl

/-- The steps of the dialogues whose answer is a number. -/
inductive NumericStep
  | planPrice
  | planDaily
  | planDuration
  | planUsers
  | planCredit
  | orderUsers
  | orderDaily
  | quoteAmount
  | quoteCredit
  | quotePrice
  | quoteAdmin
  | attachAdmin
  | creditAmount
  | resellerTelegramId
  | resellerPrice
  | resellerCredit
  deriving DecidableEq

namespace NumericStep

/-- `state["step"]`; the attach dialogue does not look at it. -/
def step : NumericStep → String
  | planPrice => "price_per_gib_irr"
  | planDaily => "daily_gib"
  | planDuration => "duration_days"
  | planUsers => "user_count"
  | planCredit => "credit_limit_irr"
  | orderUsers => "user_count"
  | orderDaily => "daily_gib"
  | quoteAmount => "amount"
  | quoteCredit => "credit"
  | quotePrice => "price"
  | quoteAdmin => "pg_admin_id"
  | attachAdmin => "pg_admin_id"
  | creditAmount => "amount"
  | resellerTelegramId => "telegram_id"
  | resellerPrice => "price"
  | resellerCredit => "credit"

/-- The function that takes the answer. -/
def continues (question : NumericStep) (env : Env) (chatId : Int) (value : String)
    (state : Dialogue) : Op Unit :=
  match question with
  | planPrice | planDaily | planDuration | planUsers | planCredit =>
      continuePlan env chatId value state
  | orderUsers | orderDaily => continueOrder env chatId value state
  | quoteAmount | quoteCredit | quotePrice | quoteAdmin => continueQuote env chatId value state
  | attachAdmin => continueAttach env chatId value state
  | creditAmount => continueCredit env chatId value
  | resellerTelegramId | resellerPrice | resellerCredit => continueReseller env chatId value state

/-- The text that is tested and converted; the words that leave a number out are not. -/
def reads (question : NumericStep) (value : String) : String :=
  match question with
  | planCredit => if strip value = "خودکار" then "0" else number value
  | quoteAdmin => if skips value then "" else number value
  | attachAdmin => if skips (strip value) then "" else number value
  | resellerTelegramId => value
  | _ => number value

/-- Go on with the number that an answer denotes where it is accepted, or ask again. -/
def takes (chatId : Int) (denoted : Option Int) (accepted : Int → Bool) (goesOn : Int → Op Unit) :
    Op Unit :=
  branch (denoted.filter accepted) (send chatId) goesOn

/-- Store the number that an answer denotes where it is accepted, or ask again. -/
def stores (chatId : Int) (state : Dialogue) (text : String) (accepted : Int → Bool)
    (field next : String) : Op Unit :=
  takes chatId (numeral text) accepted fun amount =>
    proceed chatId (state.answer field (.int amount) next)

/-- The panel account that an answer names; a word leaves it out. -/
def accountNamed (skipped : Bool) (text : String) : Option (Option Int) :=
  if skipped then some none else (numeral text).map some

/-- The collected answers and a panel account make a quote that is valid and fits its columns. -/
def quotable (state : Dialogue) (pgAdminId : Option Int) : Bool :=
  match (state.lookup "amount_irr").bind Value.int?,
    (state.lookup "credit_limit_irr").bind Value.int?,
    (state.lookup "price_per_gib_irr").bind Value.int?,
    (state.lookup "instructions").bind Value.text?, (state.lookup "order_id").bind Value.text? with
  | some amount, some credit, some price, some instructions, some _ =>
      validQuote ⟨amount, credit, price, instructions, pgAdminId⟩ && Table.bigint credit &&
        Table.bigint price && pgAdminId.all Table.integer
  | _, _, _, _, _ => false

/-- An order is known, and the panel account is a positive number that fits its column. -/
def attachable (state : Dialogue) (pgAdminId : Option Int) : Bool :=
  ((state.lookup "order_id").bind Value.text?).isSome &&
    pgAdminId.all fun id => 0 < id && Table.integer id

/-- What a step is to do with an answer: store the number that it denotes and advance, or ask again
with the state as it was. The last step of a dialogue advances to the action that it was about. -/
def answered (question : NumericStep) (env : Env) (chatId : Int) (value : String)
    (state : Dialogue) : Op Unit :=
  let text := question.reads value
  match question with
  | planPrice =>
      stores chatId state text (fun amount => 0 < amount && amount ≤ 10000000000000)
        "price_per_gib_irr" "daily_gib"
  | planDaily =>
      stores chatId state text (fun amount => 0 < amount && amount ≤ 100000) "daily_gib"
        "duration_days"
  | planDuration =>
      stores chatId state text (fun amount => 0 < amount && amount ≤ 3650) "duration_days"
        "user_count"
  | planUsers =>
      stores chatId state text (fun amount => 0 < amount && amount ≤ 100000) "user_count"
        "credit_limit_irr"
  | planCredit => stores chatId state text (fun _ => true) "credit_limit_irr" "instructions"
  | orderUsers =>
      stores chatId state text (fun amount => 0 < amount && amount ≤ 100000) "user_count"
        "daily_gib"
  | orderDaily =>
      stores chatId state text (fun amount => 0 < amount && amount ≤ 100000) "daily_gib" "note"
  | quoteAmount => stores chatId state text (0 < ·) "amount_irr" "credit"
  | quoteCredit => stores chatId state text (fun _ => true) "credit_limit_irr" "price"
  | quotePrice => stores chatId state text (0 < ·) "price_per_gib_irr" "instructions"
  | quoteAdmin =>
      branch ((accountNamed (skips value) text).filter (quotable state)) (send chatId)
        (finishQuote env chatId state)
  | attachAdmin =>
      branch ((accountNamed (skips (strip value)) text).filter (attachable state)) (send chatId)
        fun pgAdminId => do
          let orderId ← textEntry state "order_id"
          applyApproval env chatId orderId true false (pgAdminId.map fun id => ⟨some id, none⟩)
  | creditAmount =>
      takes chatId (numeral text) (fun amount => 0 < amount && Table.bigint amount) fun amount => do
        let caller ← requestCredit env chatId amount
        clearState chatId
        sendMenu env chatId
        let chats ← staffChats (some caller.organizationId) [.systemAdmin, .resellerAdmin, .finance]
        notifyChats chats (some chatId)
  | resellerTelegramId =>
      takes chatId (numeral text) (fun _ => true) fun _ =>
        proceed chatId (state.answer "telegram_id" (.text text) "price")
  | resellerPrice =>
      takes chatId (numeral text) (0 < ·) fun _ =>
        proceed chatId (state.answer "price" (.text text) "credit")
  | resellerCredit =>
      takes chatId (numeral text) (fun _ => true) fun _ =>
        finishReseller env chatId (state.answer "credit" (.text text) "credit")

/-- The action at the end of a dialogue accepts what the answer denotes. The steps before the end
check the number themselves, and the end of the reseller dialogue reports every failure. -/
def Acceptable (question : NumericStep) (value : String) (state : Dialogue) : Prop :=
  match question with
  | quoteAdmin => ∀ pgAdminId,
      accountNamed (skips value) (question.reads value) = some pgAdminId →
        quotable state pgAdminId = true
  | attachAdmin => ∀ pgAdminId,
      accountNamed (skips (strip value)) (question.reads value) = some pgAdminId →
        attachable state pgAdminId = true
  | creditAmount => ∀ amount, numeral (question.reads value) = some amount →
      Table.bigint amount = true
  | _ => True

/-- A program raises nothing while messages can be sent. -/
def Returns (program : Op Unit) : Prop :=
  ∀ answers : Answers Database, (∀ chatId count, answers (.sendMessage chatId) count = true) →
    ∀ alone, (program.run answers alone).1 = .ok ()

section Steps

variable (env : Env) (chatId : Int) (value : String) (state : Dialogue)

/-- An answer of the plan dialogue that is read as a number, or raises. -/
theorem continuePlan_number {field next : String} {limit : Int}
    (plain : field ≠ "panel" ∧ field ≠ "shelf" ∧ field ≠ "name" ∧ field ≠ "instructions" ∧
      field ≠ "credit_limit_irr")
    (bounded : planLimit field = some limit)
    (asked : (planQuestions.dropWhile fun other => other ≠ field).tail.head? = some next)
    (convertible : Convertible (number value)) :
    continuePlan env chatId value { state with step := field } =
      stores chatId { state with step := field } (number value)
        (fun amount => 0 < amount && amount ≤ limit) field next := by
  obtain ⟨panel, shelf, name, instructions, credit⟩ := plain
  unfold continuePlan planAnswer stores takes
  dsimp only
  rw [if_neg (by simp [panel, shelf]), if_neg name, if_neg instructions, if_neg credit, asked,
    bounded,
    typedNumber_bind convertible]
  cases numeral (number value) with
  | none => rfl
  | some amount =>
      have checked : (0 < amount && amount ≤ limit) = true ↔ 0 < amount ∧ amount ≤ limit := by
        rw [Bool.and_eq_true, decide_eq_true_eq, decide_eq_true_eq]
      by_cases fits : 0 < amount ∧ amount ≤ limit
      · rw [Option.filter_some, if_pos (checked.mpr fits)]
        change (branch (if 0 < amount ∧ amount ≤ limit then some (Value.int amount) else none)
          (send chatId) _ : Op Unit) = _
        rw [if_pos fits]
        rfl
      · rw [Option.filter_some, if_neg fun accepted => fits (checked.mp accepted)]
        change (branch (if 0 < amount ∧ amount ≤ limit then some (Value.int amount) else none)
          (send chatId) _ : Op Unit) = _
        rw [if_neg fits]
        rfl

/-- Nothing is lost where everything is accepted. -/
theorem filter_accepted {α : Type} {content : Option α} {accepted : α → Bool}
    (every : ∀ value, content = some value → accepted value = true) :
    content.filter accepted = content := by
  cases content with
  | none => rfl
  | some value => rw [Option.filter_some, if_pos (every value rfl)]

theorem filter_true (denoted : Option Int) : denoted.filter (fun _ => true) = denoted :=
  filter_accepted fun _ _ => rfl

theorem require_bind {condition : Prop} [Decidable condition] (holds : condition)
    (exception : Failure) (rest : Unit → Op β) :
    require condition exception >>= rest = rest () := by
  rw [require, if_pos holds]
  rfl

theorem found_some_bind {α β : Type} (content : α) (exception : Failure) (rest : α → Op β) :
    found (some content) exception >>= rest = rest content := rfl

/-- A step of the quote dialogue that asks for a number. -/
theorem continueQuote_eq {step field next : String}
    (quoted : quoteStep step = some (some field, next)) :
    continueQuote env chatId value { state with step } =
      quoteNumber chatId value { state with step } field next := by
  unfold continueQuote
  dsimp only
  rw [quoted, found_some_bind]
  dsimp only [branch]

theorem continueQuote_number {step field next : String}
    (quoted : quoteStep step = some (some field, next)) (positive : field ≠ "credit_limit_irr")
    (convertible : Convertible (number value)) :
    continueQuote env chatId value { state with step } =
      stores chatId { state with step } (number value) (0 < ·) field next := by
  have only : (fun amount : Int => 0 < amount || field = "credit_limit_irr") =
      fun amount => decide (0 < amount) := by
    funext amount
    rw [decide_eq_false positive, Bool.or_false]
  rw [continueQuote_eq env chatId value state quoted, quoteNumber, typedNumber_bind convertible,
    only]
  rfl

/-- The last step of the quote dialogue. -/
theorem continueQuote_admin :
    continueQuote env chatId value { state with step := "pg_admin_id" } =
      if skips value = true then finishQuote env chatId { state with step := "pg_admin_id" } none
      else typedNumber (number value) >>= fun typed =>
        branch typed (send chatId) fun pgAdminId =>
          finishQuote env chatId { state with step := "pg_admin_id" } (some pgAdminId) := by
  have quoted : quoteStep "pg_admin_id" = some (none, "") := rfl
  unfold continueQuote
  dsimp only
  rw [quoted, found_some_bind]
  dsimp only [branch]
  rw [if_neg (by decide)]

/-- A convertible answer is stored, or asked for again. -/
theorem answered_of_convertible (question : NumericStep)
    (convertible : Convertible (question.reads value))
    (acceptable : question.Acceptable value { state with step := question.step }) :
    question.continues env chatId value { state with step := question.step } =
      question.answered env chatId value { state with step := question.step } := by
  cases question with
  | planPrice =>
      exact continuePlan_number env chatId value state (by decide) rfl rfl convertible
  | planDaily =>
      exact continuePlan_number env chatId value state (by decide) rfl rfl convertible
  | planDuration =>
      exact continuePlan_number env chatId value state (by decide) rfl rfl convertible
  | planUsers =>
      exact continuePlan_number env chatId value state (by decide) rfl rfl convertible
  | planCredit =>
      change continuePlan env chatId value { state with step := "credit_limit_irr" } = _
      have asked : (planQuestions.dropWhile fun other => other ≠ "credit_limit_irr").tail.head? =
          some "instructions" := rfl
      unfold continuePlan planAnswer answered stores takes
      dsimp only [step, reads] at convertible ⊢
      rw [if_neg (by decide), if_neg (by decide), if_neg (by decide), if_pos rfl, asked,
        typedNumber_bind convertible, filter_true]
      cases numeral (if strip value = "خودکار" then "0" else number value) <;> rfl
  | orderUsers =>
      change Convertible (number value) at convertible
      change continueOrder env chatId value { state with step := "user_count" } = _
      unfold continueOrder orderNumber
      dsimp only
      rw [if_neg (by decide), if_pos rfl, typedNumber_bind convertible]
      rfl
  | orderDaily =>
      change Convertible (number value) at convertible
      change continueOrder env chatId value { state with step := "daily_gib" } = _
      unfold continueOrder orderNumber
      dsimp only
      rw [if_neg (by decide), if_neg (by decide), if_pos rfl, typedNumber_bind convertible]
      rfl
  | quoteAmount =>
      change Convertible (number value) at convertible
      have quoted : quoteStep "amount" = some (some "amount_irr", "credit") := rfl
      exact continueQuote_number env chatId value state quoted (by decide) convertible
  | quoteCredit =>
      change Convertible (number value) at convertible
      have quoted : quoteStep "credit" = some (some "credit_limit_irr", "price") := rfl
      have continued := continueQuote_eq env chatId value state quoted
      refine continued.trans ?_
      unfold quoteNumber answered stores takes
      dsimp only [reads]
      rw [typedNumber_bind convertible]
      congr 2
      funext amount
      exact Bool.or_true _
  | quotePrice =>
      change Convertible (number value) at convertible
      have quoted : quoteStep "price" = some (some "price_per_gib_irr", "instructions") := rfl
      exact continueQuote_number env chatId value state quoted (by decide) convertible
  | quoteAdmin =>
      refine (continueQuote_admin env chatId value state).trans ?_
      unfold Acceptable at acceptable
      unfold answered
      dsimp only [step] at acceptable ⊢
      rw [filter_accepted acceptable, accountNamed]
      dsimp only [reads] at convertible ⊢
      by_cases skipped : skips value = true
      · rw [if_pos skipped, if_pos skipped]
        rfl
      · rw [if_neg skipped] at convertible
        rw [if_neg skipped, if_neg skipped, if_neg skipped, typedNumber_bind convertible]
        cases numeral (number value) <;> rfl
  | attachAdmin =>
      change continueAttach env chatId value { state with step := "pg_admin_id" } = _
      unfold Acceptable at acceptable
      unfold continueAttach answered
      dsimp only [step] at acceptable ⊢
      rw [filter_accepted acceptable]
      rw [accountNamed] at acceptable ⊢
      dsimp only [reads] at convertible acceptable ⊢
      by_cases skipped : skips (strip value) = true
      · rw [if_pos skipped, if_pos skipped]
        rfl
      · rw [if_neg skipped] at convertible
        rw [if_neg skipped, if_neg skipped] at acceptable
        rw [if_neg skipped, if_neg skipped, if_neg skipped, typedNumber_bind convertible]
        cases denoted : numeral (number value) with
        | none => rfl
        | some pgAdminId =>
            have attached := acceptable (some pgAdminId) (congrArg (Option.map some) denoted)
            simp only [attachable, Option.all_some, Bool.and_eq_true, decide_eq_true_eq] at attached
            exact require_bind attached.2.1 _ _
  | creditAmount =>
      change Convertible (number value) at convertible
      change continueCredit env chatId value = _
      have fits : (numeral (number value)).filter (fun amount => 0 < amount) =
          (numeral (number value)).filter (fun amount => 0 < amount && Table.bigint amount) := by
        cases denoted : numeral (number value) with
        | none => rfl
        | some amount =>
            rw [Option.filter_some, Option.filter_some,
              show Table.bigint amount = true from acceptable amount denoted, Bool.and_true]
      unfold continueCredit answered takes
      dsimp only [reads]
      rw [typedNumber_bind convertible, fits]
  | resellerTelegramId =>
      change Convertible value at convertible
      change continueReseller env chatId value { state with step := "telegram_id" } = _
      unfold continueReseller answered takes
      dsimp only [reads, step]
      rw [if_neg (by decide), if_neg (by decide), if_pos rfl, filter_true, numeral]
      by_cases digits : isDigit value = true
      · rw [if_pos digits, if_pos (convertible digits)]
        rfl
      · rw [if_neg digits, if_neg fun numeral => digits numeral.isDigit]
        rfl
  | resellerPrice =>
      change Convertible (number value) at convertible
      change continueReseller env chatId value { state with step := "price" } = _
      unfold continueReseller
      dsimp only
      rw [if_neg (by decide), if_neg (by decide), if_neg (by decide), if_pos rfl,
        typedNumber_bind convertible]
      rfl
  | resellerCredit =>
      change Convertible (number value) at convertible
      change continueReseller env chatId value { state with step := "credit" } = _
      unfold continueReseller answered takes
      dsimp only [reads, step]
      rw [if_neg (by decide), if_neg (by decide), if_neg (by decide), if_neg (by decide), if_pos rfl,
        filter_true, numeral]
      by_cases digits : isDigit (number value) = true
      · rw [if_pos digits, if_pos (convertible digits)]
        rfl
      · rw [if_neg digits, if_neg fun numeral => digits numeral.isDigit]
        rfl

end Steps

end NumericStep

end ControlPlane.Bot
