import ControlPlane.Identity.DeclaredUser

/-!
# Signing init data

Whatever user a form declares, whoever holds the token of the bot can sign it:
with a date and the digest of its fields behind it, it is a session of this user.
The budget of an id that can be declared is therefore the budget of a user.
-/

namespace ControlPlane

open FormText PythonJson

/-! ## What a form declares -/

/-- The form declares an id: its user is a JSON object whose id is a number. -/
def Declares (initData : String) (id : Int) : Prop :=
  ∃ text user value, get (dict (parseQsl initData)) "user" = some text ∧
    loads text = some (.dict user) ∧ lookup user "id" = some value ∧ value.toInt? = some id

theorem idOf_eq_some_iff {text : String} {id : Int} :
    idOf text = some id ↔ ∃ user value, loads text = some (.dict user) ∧
      lookup user "id" = some value ∧ value.toInt? = some id := by
  unfold idOf
  constructor
  · intro found
    split at found
    next user read =>
      obtain ⟨value, present, number⟩ := Option.bind_eq_some_iff.mp found
      exact ⟨user, value, read, present, number⟩
    next => cases found
  · rintro ⟨user, value, read, present, number⟩
    rw [read]
    dsimp only
    rw [present]
    exact number

theorem declares_iff {initData text : String} {id : Int}
    (found : get (dict (parseQsl initData)) "user" = some text) :
    Declares initData id ↔ idOf text = some id := by
  rw [idOf_eq_some_iff]
  constructor
  · rintro ⟨other, user, value, same, declared⟩
    obtain rfl := Option.some.inj (found.symm.trans same)
    exact ⟨user, value, declared⟩
  · rintro ⟨user, value, declared⟩
    exact ⟨text, user, value, found, declared⟩

theorem declaredUserId_of_readable {tooDeep : Nesting} {initData text : String}
    (readable : ReadableUser tooDeep initData)
    (found : get (dict (parseQsl initData)) "user" = some text) :
    declaredUserId tooDeep initData = .ok (idOf text) := by
  obtain ⟨shallow, finite⟩ := readable text found
  rw [declaredUserId_some found, shallow, finite]
  rfl

/-- An id is declared where the user can be read and has it. -/
theorem declaredUserId_eq_some_iff {tooDeep : Nesting} {initData : String} {id : Int} :
    declaredUserId tooDeep initData = .ok (some id) ↔
      ReadableUser tooDeep initData ∧ Declares initData id := by
  constructor
  · intro declared
    have readable := declaredUserId_returns.mp ⟨_, declared⟩
    cases found : get (dict (parseQsl initData)) "user" with
    | none =>
        unfold declaredUserId at declared
        rw [found] at declared
        split_ifs at declared <;> cases Except.ok.inj declared
    | some text =>
        rw [declaredUserId_of_readable readable found] at declared
        exact ⟨readable, (declares_iff found).mpr (Except.ok.inj declared)⟩
  · rintro ⟨readable, declares⟩
    have declared := declares
    obtain ⟨text, user, value, found, -⟩ := declared
    rw [declaredUserId_of_readable readable found, (declares_iff found).mp declares]

/-- Nothing is declared where the user can be read and has no id. -/
theorem declaredUserId_eq_none_iff {tooDeep : Nesting} {initData : String} :
    declaredUserId tooDeep initData = .ok none ↔
      ReadableUser tooDeep initData ∧ ∀ id, ¬Declares initData id := by
  constructor
  · intro declared
    have readable := declaredUserId_returns.mp ⟨_, declared⟩
    refine ⟨readable, fun id declares => ?_⟩
    have same := declaredUserId_eq_some_iff.mpr ⟨readable, declares⟩
    cases Except.ok.inj (declared.symm.trans same)
  · rintro ⟨readable, undeclared⟩
    obtain ⟨declared, returns⟩ := declaredUserId_returns.mpr readable
    cases declared with
    | none => exact returns
    | some id => exact absurd (declaredUserId_eq_some_iff.mp returns).2 (undeclared id)

/-! ## Sessions -/

/-- Under a recursion limit that the user does not reach, init data is checked as without one. -/
theorem verifyNested_of_readable {tooDeep : Nesting} {hmac : Hmac} {initData botToken : String}
    {maxAgeSeconds now : Int} (readable : ReadableUser tooDeep initData) :
    verifyNested tooDeep hmac initData botToken maxAgeSeconds now =
      verifyInitData hmac initData botToken maxAgeSeconds now := by
  rw [verifyInitData_eq]
  unfold verifyNested
  cases passes : checkedFields hmac initData botToken maxAgeSeconds now with
  | error exception => rfl
  | ok checked =>
      dsimp only [Except.bind]
      rw [(checkedFields_ok passes).1, get_signedFields (by decide)]
      cases found : get (dict (parseQsl initData)) "user" with
      | none => rfl
      | some text => rw [Option.any_some, (readable text found).1, if_neg Bool.false_ne_true]

/-- A form with a date behind it. -/
def dated (form : String) : String := form ++ "&" ++ "auth_date=1030"

theorem dict_dated (form : String) :
    dict (parseQsl (dated form)) = setItem "auth_date" "1030" (dict (parseQsl form)) := by
  have date : parseQsl "auth_date=1030" = [("auth_date", "1030")] := by decide +kernel
  rw [dated, parseQsl_append, date, dict_append]

/-- The user of a form stays the same when it is dated and sealed. -/
theorem user_sealed (hmac : Hmac) (botToken form : String) :
    get (dict (parseQsl (sealed hmac botToken (dated form)))) "user" =
      get (dict (parseQsl form)) "user" := by
  rw [dict_sealed, get_setItem, if_neg (by decide), dict_dated, get_setItem, if_neg (by decide)]

/-- A dated form that is sealed is accepted as a session of the user that it declares. -/
theorem verifyInitData_dated {hmac : Hmac} (digests : ∀ key message, hmac key message ≠ [])
    {botToken : String} (configured : botToken ≠ "") {maxAgeSeconds : Int}
    (recent : -30 ≤ maxAgeSeconds) {tooDeep : Nesting} {form : String} {userId : Int}
    (readable : ReadableUser tooDeep form) (declares : Declares form userId) :
    ∃ identity, verifyInitData hmac (sealed hmac botToken (dated form)) botToken maxAgeSeconds
      1000 = .ok identity ∧ identity.userId = userId := by
  have declared := declares
  obtain ⟨text, user, value, found, -⟩ := declared
  have field : get (signedFields (dated form)) "user" = some text := by
    rw [get_signedFields (by decide), dict_dated, get_setItem, if_neg (by decide), found]
  have date : get (signedFields (dated form)) "auth_date" = some "1030" := by
    rw [get_signedFields (by decide), dict_dated, get_setItem, if_pos rfl]
  have number : PythonText.int? "1030" = some 1030 := by decide +kernel
  have some' : signature hmac botToken (signedFields (dated form)) ≠ "" := by
    intro same
    have none' : hexdigest [] = "" := rfl
    exact digests _ _ (hexdigest_injective (same.trans none'.symm))
  obtain ⟨identity, accepts, known⟩ : ∃ identity,
      signedUser (signedFields (dated form)) 1030 = .ok identity ∧
        idOf text = some identity.userId := by
    have known := (declares_iff found).mp declares
    rcases signedUser_spec field 1030 with ⟨infinite, -⟩ | ⟨-, unknown, -⟩ |
      ⟨-, identity, accepts, id, -⟩
    · cases (readable text found).2.symm.trans infinite
    · cases known.symm.trans unknown
    · exact ⟨identity, accepts, id⟩
  refine ⟨identity, ?_, Option.some.inj (known.symm.trans ((declares_iff found).mp declares))⟩
  rw [verifyInitData_sealed configured some', date, Option.getD_some, number]
  dsimp only
  rw [if_neg (by omega), accepts]

end ControlPlane
