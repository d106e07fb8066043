import ControlPlane.Library.Exceptions

/-!
# Rules for programs

What a program may write, ask and raise, given what it may rely on in the store
and in the answers of the environment. A program obeys such rules by its text,
whoever runs next to it; every session that runs alone then keeps them.
-/

namespace ReadCommitted

/-- What programs may rely on, and what they may do. -/
structure Rules (S : Schema) (ε : Type) where
  /-- What holds of every store that is read. -/
  inv : S.Store → Prop
  /-- The statements that may be written. -/
  writes : S.Write → Prop
  /-- The questions that may be asked. -/
  asks : S.Query → Prop
  /-- The answers that may come. -/
  told : (query : S.Query) → S.Answer query → Prop
  /-- The exceptions that may be raised. -/
  raises : ε → Prop

variable {S : Schema} {ε : Type} (rules : Rules S ε)

/-- Every path of a program obeys the rules and ends with a value of a kind. -/
def Prog.Obeys (post : α → Prop) : Prog S α → Prop
  | .ret value => post value
  | .read next => ∀ store, rules.inv store → Obeys post (next store)
  | .lock _ next => Obeys post next
  | .write statement next => rules.writes statement ∧ ∀ accepted, Obeys post (next accepted)
  | .commit next => Obeys post next
  | .rollback next => Obeys post next
  | .ask query next =>
      rules.asks query ∧ ∀ answer, rules.told query answer → Obeys post (next answer)

theorem Prog.Obeys.mono {post weaker : α → Prop} (implies : ∀ value, post value → weaker value)
    {program : Prog S α} (obeys : program.Obeys rules post) : program.Obeys rules weaker := by
  induction program with
  | ret value => exact implies value obeys
  | read next inductionHypothesis =>
      exact fun store inv => inductionHypothesis store (obeys store inv)
  | lock resources next inductionHypothesis => exact inductionHypothesis obeys
  | write statement next inductionHypothesis =>
      exact ⟨obeys.1, fun accepted => inductionHypothesis accepted (obeys.2 accepted)⟩
  | commit next inductionHypothesis => exact inductionHypothesis obeys
  | rollback next inductionHypothesis => exact inductionHypothesis obeys
  | ask query next inductionHypothesis =>
      exact ⟨obeys.1, fun answer told => inductionHypothesis answer (obeys.2 answer told)⟩

theorem Prog.Obeys.bind {program : Prog S α} {rest : α → Prog S β} {post : β → Prop}
    (obeys : program.Obeys rules fun value => (rest value).Obeys rules post) :
    (program.bind rest).Obeys rules post := by
  induction program with
  | ret value => exact obeys
  | read next inductionHypothesis =>
      exact fun store inv => inductionHypothesis store (obeys store inv)
  | lock resources next inductionHypothesis => exact inductionHypothesis obeys
  | write statement next inductionHypothesis =>
      exact ⟨obeys.1, fun accepted => inductionHypothesis accepted (obeys.2 accepted)⟩
  | commit next inductionHypothesis => exact inductionHypothesis obeys
  | rollback next inductionHypothesis => exact inductionHypothesis obeys
  | ask query next inductionHypothesis =>
      exact ⟨obeys.1, fun answer told => inductionHypothesis answer (obeys.2 answer told)⟩

/-! ## Sessions that run alone -/

/-- A session kept the rules so far. -/
structure Within (connection : Connection S) : Prop where
  store : rules.inv connection.store
  view : rules.inv connection.view
  log : ∀ statement ∈ connection.log, rules.writes statement
  commits : ∀ entry ∈ connection.commits, ∀ statement ∈ entry.2, rules.writes statement
  asked : ∀ query ∈ connection.asked, rules.asks query

/-- The environment answers as the rules say. -/
def Rules.Truthful (answers : Answers S) : Prop :=
  ∀ query count, rules.told query (answers query count)

variable {rules} in
/-- A program that obeys the rules keeps them when it runs alone. -/
theorem Prog.Obeys.run (preserved : ∀ statement store, rules.inv store → rules.writes statement →
      S.accepts statement store = true → rules.inv (S.apply statement store))
    {answers : Answers S} (truthful : rules.Truthful answers) {post : α → Prop}
    {program : Prog S α} (obeys : program.Obeys rules post) {connection : Connection S}
    (within' : Within rules connection) :
    post (program.run answers connection).1 ∧
      Within rules (program.run answers connection).2 := by
  induction program generalizing connection with
  | ret value => exact ⟨obeys, within'⟩
  | read next inductionHypothesis => exact inductionHypothesis _ (obeys _ within'.view) within'
  | lock resources next inductionHypothesis => exact inductionHypothesis obeys within'
  | write statement next inductionHypothesis =>
      rw [Prog.run]
      split
      next accepted =>
        refine inductionHypothesis true (obeys.2 true)
          ⟨within'.store, ?_, ?_, within'.commits, within'.asked⟩
        · unfold Connection.view
          rw [replay_append]
          exact preserved statement _ within'.view obeys.1 accepted
        · intro other member
          rcases List.mem_append.mp member with old | new
          · exact within'.log other old
          · rw [List.mem_singleton.mp new]
            exact obeys.1
      next => exact inductionHypothesis false (obeys.2 false) within'
  | commit next inductionHypothesis =>
      refine inductionHypothesis obeys ⟨within'.view, within'.view, by simp, ?_, within'.asked⟩
      intro entry member
      rcases List.mem_append.mp member with old | new
      · exact within'.commits entry old
      · rw [List.mem_singleton.mp new]
        exact within'.log
  | rollback next inductionHypothesis =>
      exact inductionHypothesis obeys
        ⟨within'.store, within'.store, by simp, within'.commits, within'.asked⟩
  | ask query next inductionHypothesis =>
      refine inductionHypothesis _ (obeys.2 _ (truthful query _))
        ⟨within'.store, within'.view, within'.log, within'.commits, ?_⟩
      intro other member
      rcases List.mem_append.mp member with old | new
      · exact within'.asked other old
      · rw [List.mem_singleton.mp new]
        exact obeys.1

/-! ## Session programs -/

/-- A session program obeys the rules, and returns values of a kind. -/
structure Orm.Obeys (program : Orm S ε α) (post : α → Prop) : Prop where
  paths : ∀ pending, (∀ row ∈ pending, rules.writes row) →
    (program pending).Obeys rules fun outcome =>
      (∀ row ∈ outcome.2, rules.writes row) ∧
        match outcome.1 with
        | .ok value => post value
        | .error exception => rules.raises exception

/-- A session program obeys the rules. -/
class Obedient (program : Orm S ε α) : Prop where
  obeys : program.Obeys rules fun _ => True

/-- A question that may be asked. -/
class MayAsk (query : S.Query) : Prop where
  asks : rules.asks query

variable {rules}

/-- Sequencing, with what is known of the intermediate value. -/
theorem Orm.Obeys.bind {program : Orm S ε α} {rest : α → Orm S ε β} {middle : α → Prop}
    {post : β → Prop} (first : program.Obeys rules middle)
    (second : ∀ value, middle value → (rest value).Obeys rules post) :
    (program >>= rest).Obeys rules post := by
  refine ⟨fun pending recorded =>
    Prog.Obeys.bind rules ((first.paths pending recorded).mono rules ?_)⟩
  rintro ⟨result, later⟩ ⟨rows, holds⟩
  cases result with
  | ok value => exact (second value holds).paths later rows
  | error exception => exact ⟨rows, holds⟩

theorem Orm.Obeys.mono {program : Orm S ε α} {post weaker : α → Prop}
    (obeys : program.Obeys rules post) (implies : ∀ value, post value → weaker value) :
    program.Obeys rules weaker := by
  refine ⟨fun pending recorded => (obeys.paths pending recorded).mono rules ?_⟩
  rintro ⟨result, later⟩ ⟨rows, holds⟩
  cases result with
  | ok value => exact ⟨rows, implies value holds⟩
  | error exception => exact ⟨rows, holds⟩

theorem Orm.Obeys.pure {value : α} {post : α → Prop} (holds : post value) :
    (Pure.pure value : Orm S ε α).Obeys rules post :=
  ⟨fun _ recorded => ⟨recorded, holds⟩⟩

theorem Orm.Obeys.throw {exception : ε} {post : α → Prop} (raised : rules.raises exception) :
    (MonadExcept.throw exception : Orm S ε α).Obeys rules post :=
  ⟨fun _ recorded => ⟨recorded, raised⟩⟩

theorem Orm.Obeys.select {query : S.Store → α} {post : α → Prop}
    (holds : ∀ store, rules.inv store → post (query store)) :
    (Orm.select query : Orm S ε α).Obeys rules post :=
  ⟨fun _ recorded store inv => ⟨recorded, holds store inv⟩⟩

theorem Orm.Obeys.ask {query : S.Query} (may : rules.asks query)
    {post : S.Answer query → Prop} (holds : ∀ answer, rules.told query answer → post answer) :
    (Orm.ask query : Orm S ε _).Obeys rules post :=
  ⟨fun _ recorded => ⟨may, fun answer told => ⟨recorded, holds answer told⟩⟩⟩

theorem Orm.Obeys.found {value : Option α} {exception : ε} (raised : rules.raises exception) :
    (Orm.found value exception : Orm S ε α).Obeys rules fun content => value = some content := by
  cases value with
  | some content => exact .pure rfl
  | none => exact .throw raised

/-- Going on with an option, whose content is known. -/
theorem Orm.Obeys.branch {value : Option α} {absent : Orm S ε β} {present : α → Orm S ε β}
    {post : β → Prop} (none : absent.Obeys rules post)
    (some : ∀ content, value = some content → (present content).Obeys rules post) :
    (Orm.branch value absent present).Obeys rules post := by
  cases value with
  | none => exact none
  | some content => exact some content rfl

/-- The handler sees only exceptions that may be raised. -/
theorem Orm.Obeys.tryCatch {program : Orm S ε α} {handler : ε → Orm S ε α} {post : α → Prop}
    (first : program.Obeys rules post)
    (second : ∀ exception, rules.raises exception → (handler exception).Obeys rules post) :
    (MonadExcept.tryCatch program handler).Obeys rules post := by
  refine ⟨fun pending recorded =>
    Prog.Obeys.bind rules ((first.paths pending recorded).mono rules ?_)⟩
  rintro ⟨result, later⟩ ⟨rows, holds⟩
  cases result with
  | ok value => exact ⟨rows, holds⟩
  | error exception => exact (second exception holds).paths later rows

namespace Obedient

/-- A program that obeys the rules does so whatever it returns. -/
theorem of {program : Orm S ε α} {post : α → Prop} (obeys : program.Obeys rules post) :
    Obedient rules program :=
  ⟨obeys.mono fun _ _ => trivial⟩

instance pure (value : α) : Obedient rules (Pure.pure value : Orm S ε α) := ⟨.pure trivial⟩

instance throw (exception : ε) [known : OfKind rules.raises exception] :
    Obedient rules (MonadExcept.throw exception : Orm S ε α) :=
  ⟨.throw known.holds⟩

instance select (query : S.Store → α) : Obedient rules (Orm.select query : Orm S ε α) :=
  ⟨.select fun _ _ => trivial⟩

instance recorded : Obedient (α := no_index (List S.Write)) rules (Orm.recorded : Orm S ε _) :=
  ⟨⟨fun _ recorded => ⟨recorded, trivial⟩⟩⟩

instance lock (resources : List S.Lock) : Obedient rules (Orm.lock resources : Orm S ε Unit) :=
  ⟨⟨fun _ recorded => ⟨recorded, trivial⟩⟩⟩

instance ask (query : S.Query) [may : MayAsk rules query] :
    Obedient (α := no_index (S.Answer query)) rules (Orm.ask query : Orm S ε _) :=
  ⟨.ask may.asks fun _ _ => trivial⟩

instance rollback : Obedient rules (Orm.rollback : Orm S ε Unit) :=
  ⟨⟨fun _ _ => ⟨by simp, trivial⟩⟩⟩

theorem add {row : S.Write} (may : rules.writes row) :
    Obedient rules (Orm.add row : Orm S ε Unit) where
  obeys := by
    refine ⟨fun _ recorded => ⟨fun other member => ?_, trivial⟩⟩
    rcases List.mem_append.mp member with old | new
    · exact recorded other old
    · rw [List.mem_singleton.mp new]
      exact may

theorem execute {statement : S.Write} (may : rules.writes statement) :
    Obedient rules (Orm.execute statement : Orm S ε Bool) :=
  ⟨⟨fun _ recorded => ⟨may, fun _ => ⟨recorded, trivial⟩⟩⟩⟩

/-- Sending the recorded rows. -/
theorem flushAll {rows : List S.Write} (may : ∀ row ∈ rows, rules.writes row) :
    (Orm.flushAll rows).Obeys rules fun _ => True := by
  induction rows with
  | nil => trivial
  | cons row rows inductionHypothesis =>
      rw [List.forall_mem_cons] at may
      refine ⟨may.1, fun accepted => ?_⟩
      cases accepted with
      | true => exact inductionHypothesis may.2
      | false => trivial

instance flush [DatabaseFailure ε] [known : OfKind rules.raises (DatabaseFailure.failure : ε)] :
    Obedient rules (Orm.flush : Orm S ε Unit) where
  obeys := by
    refine ⟨fun pending recorded =>
      Prog.Obeys.bind rules ((flushAll recorded).mono rules fun accepted _ => ?_)⟩
    cases accepted with
    | true => exact ⟨by simp, trivial⟩
    | false => exact ⟨by simp, known.holds⟩

instance commit [DatabaseFailure ε] [known : OfKind rules.raises (DatabaseFailure.failure : ε)] :
    Obedient rules (Orm.commit : Orm S ε Unit) where
  obeys := by
    refine ⟨fun pending recorded =>
      Prog.Obeys.bind rules ((flushAll recorded).mono rules fun accepted _ => ?_)⟩
    cases accepted with
    | true => exact ⟨by simp, trivial⟩
    | false => exact ⟨by simp, known.holds⟩

instance bind (program : Orm S ε α) (rest : α → Orm S ε β) [first : Obedient rules program]
    [second : ∀ value, Obedient rules (rest value)] : Obedient rules (program >>= rest) :=
  ⟨.bind first.obeys fun value _ => (second value).obeys⟩

instance tryCatch (program : Orm S ε α) (handler : ε → Orm S ε α) [first : Obedient rules program]
    [second : ∀ exception, Obedient rules (handler exception)] :
    Obedient rules (MonadExcept.tryCatch program handler) :=
  ⟨.tryCatch first.obeys fun exception _ => (second exception).obeys⟩

instance require (condition : Prop) [Decidable condition] (exception : ε)
    [OfKind rules.raises exception] :
    Obedient rules (Orm.require condition exception : Orm S ε Unit) := by
  unfold Orm.require
  split <;> infer_instance

/-- A condition that holds is checked without an exception. -/
theorem satisfied {condition : Prop} [Decidable condition] {exception : ε} (holds : condition) :
    Obedient rules (Orm.require condition exception : Orm S ε Unit) := by
  rw [Orm.require, if_pos holds]
  infer_instance

instance found (value : Option α) (exception : ε) [OfKind rules.raises exception] :
    Obedient rules (Orm.found value exception : Orm S ε α) := by
  unfold Orm.found
  split <;> infer_instance

instance branch (value : Option α) (absent : Orm S ε β) (present : α → Orm S ε β)
    [Obedient rules absent] [∀ content, Obedient rules (present content)] :
    Obedient rules (Orm.branch value absent present) := by
  unfold Orm.branch
  split <;> infer_instance

instance when (condition : Prop) [Decidable condition] (program : Orm S ε Unit)
    [Obedient rules program] : Obedient rules (Orm.when condition program) := by
  unfold Orm.when
  split <;> infer_instance

instance ite (condition : Prop) [Decidable condition] (first second : Orm S ε α)
    [Obedient rules first] [Obedient rules second] :
    Obedient rules (if condition then first else second) := by
  split <;> infer_instance

instance forEach (items : List α) (body : α → Orm S ε Unit)
    [each : ∀ item, Obedient rules (body item)] : Obedient rules (Orm.forEach items body) := by
  induction items with
  | nil => exact pure ()
  | cons item items inductionHypothesis =>
      exact bind (body item) fun _ => Orm.forEach items body

end Obedient

/-- What an obedient program does when it runs alone. -/
theorem Orm.Obeys.run (preserved : ∀ statement store, rules.inv store → rules.writes statement →
      S.accepts statement store = true → rules.inv (S.apply statement store))
    {answers : Answers S} (truthful : rules.Truthful answers) {post : α → Prop}
    {program : Orm S ε α} (obeys : program.Obeys rules post) {store : S.Store}
    (inv : rules.inv store) :
    (∀ exception, (program.run answers (.opened store)).1 = .error exception →
        rules.raises exception) ∧
      Within rules (program.run answers (.opened store)).2.toConnection := by
  have fresh : Within rules (Alone.opened store).toConnection :=
    ⟨inv, inv, by simp [Alone.opened], by simp [Alone.opened], by simp [Alone.opened]⟩
  obtain ⟨⟨_, result⟩, kept⟩ := Prog.Obeys.run preserved truthful
    (obeys.paths [] (by simp)) fresh
  refine ⟨fun exception raised => ?_, kept⟩
  rw [show ((program []).run answers (Alone.opened store).toConnection).1.1 = .error exception from
    raised] at result
  exact result

end ReadCommitted
