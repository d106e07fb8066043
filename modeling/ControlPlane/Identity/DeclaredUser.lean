import ControlPlane.Identity.InitData

/-!
# Declared users

Two readers of one header: `verify_init_data` checks the signature before it
reads the user, `declared_user_id` reads the user of any text. Their callers
expect a result or a refusal. Some texts make them raise other exceptions: these
are the texts with a field that `int`, `json.loads` or `compare_digest` treats in
a way that the readers do not expect.
-/

namespace ControlPlane

open FormText PythonJson

/-- The part of `verify_init_data` before the user: the signed fields and their date. -/
def checkedFields (hmac : Hmac) (initData botToken : String) (maxAgeSeconds now : Int) :
    Except AuthError (List (String × String) × Int) :=
  if initData = "" ∨ botToken = "" then
    .error (.telegram "Telegram authentication unavailable")
  else
    let received := (get (dict (parseQsl initData)) "hash").getD ""
    let fields := signedFields initData
    if received = "" then .error (.telegram "missing Telegram hash")
    else if received.toList.any fun char => 128 ≤ char.toNat then .error .raised
    else if signature hmac botToken fields ≠ received then
      .error (.telegram "invalid Telegram signature")
    else
      match PythonText.int? ((get fields "auth_date").getD "0") with
      | none => .error .raised
      | some authDate =>
          if authDate ≤ 0 ∨ maxAgeSeconds < now - authDate ∨ now + 30 < authDate then
            .error (.telegram "expired Telegram session")
          else .ok (fields, authDate)

/-- `verify_init_data` checks the fields and then reads the user. -/
theorem verifyInitData_eq (hmac : Hmac) (initData botToken : String) (maxAgeSeconds now : Int) :
    verifyInitData hmac initData botToken maxAgeSeconds now =
      (checkedFields hmac initData botToken maxAgeSeconds now).bind fun checked =>
        signedUser checked.1 checked.2 := by
  unfold verifyInitData checkedFields
  dsimp only
  split_ifs
  · rfl
  · rfl
  · rfl
  · rfl
  · cases PythonText.int? ((get (signedFields initData) "auth_date").getD "0") with
    | none => rfl
    | some authDate =>
        dsimp only
        split_ifs <;> rfl

/-- Which texts are nested so deep that `json.loads` raises a `RecursionError`: the limit is the
interpreter's, and depends on how deep its stack is already. -/
abbrev Nesting := String → Bool

/-- `verify_init_data`, under a recursion limit. -/
def verifyNested (tooDeep : Nesting) (hmac : Hmac) (initData botToken : String)
    (maxAgeSeconds now : Int) : Except AuthError InitIdentity :=
  (checkedFields hmac initData botToken maxAgeSeconds now).bind fun checked =>
    if (get checked.1 "user").any tooDeep then .error .raised
    else signedUser checked.1 checked.2

/-- A number for which `int` raises an `OverflowError`. -/
def infinite : Json → Bool
  | .float (.infinite _) => true
  | _ => false

/-- The user id in a JSON text is infinite. -/
def infiniteId (text : String) : Bool :=
  match loads text with
  | some (.dict user) => (lookup user "id").any infinite
  | _ => false

/-- The user id in a JSON text, if there is one. -/
def idOf (text : String) : Option Int :=
  match loads text with
  | some (.dict user) => (lookup user "id").bind Json.toInt?
  | _ => none

/-- `declared_user_id`; the error is an exception that it does not expect. -/
def declaredUserId (tooDeep : Nesting) (initData : String) : Except AuthError (Option Int) :=
  if initData = "" then .ok none
  else
    match get (dict (parseQsl initData)) "user" with
    | none => .ok none
    | some text =>
        if tooDeep text || infiniteId text then .error .raised else .ok (idOf text)

/-! ## The user field -/

/-- The fields that are signed have the user of the whole text. -/
theorem get_signedFields {name : String} (other : name ≠ "hash") (initData : String) :
    get (signedFields initData) name = get (dict (parseQsl initData)) name := by
  unfold FormText.get signedFields
  rw [List.find?_filter]
  congr 2
  funext item
  by_cases own : item.1 = name
  · simp [own, other]
  · simp [own]

/-- The identity of a user that is read from a text. -/
theorem signedUser_dict {fields : List (String × String)} {text : String} {id : Json}
    {user : List (String × Json)} (found : get fields "user" = some text)
    (read : loads text = some (.dict user)) (present : lookup user "id" = some id)
    (authDate : Int) :
    signedUser fields authDate =
      if infinite id then .error .raised
      else id.toInt?.elim (.error (.telegram "invalid Telegram user")) fun userId =>
        .ok ⟨userId, (lookup user "first_name").getD (.str ""),
          (lookup user "last_name").getD .null, (lookup user "username").getD .null, authDate⟩ := by
  unfold signedUser
  rw [found, Option.bind_some, read]
  dsimp only
  rw [present]
  cases id with
  | float value => cases value <;> rfl
  | bool value => rfl
  | int value => rfl
  | str text =>
      dsimp only [Json.toInt?]
      cases PythonText.int? text <;> rfl
  | null => rfl
  | list items => rfl
  | dict items => rfl

/-- Reading the user raises an unexpected exception for an infinite id only, and accepts the texts
with an id. -/
theorem signedUser_spec {fields : List (String × String)} {text : String}
    (found : get fields "user" = some text) (authDate : Int) :
    (infiniteId text = true ∧ signedUser fields authDate = .error .raised) ∨
      (infiniteId text = false ∧ idOf text = none ∧
        signedUser fields authDate = .error (.telegram "invalid Telegram user")) ∨
      (infiniteId text = false ∧ ∃ identity, signedUser fields authDate = .ok identity ∧
        idOf text = some identity.userId ∧ identity.authDate = authDate) := by
  unfold infiniteId idOf
  cases read : loads text with
  | none =>
      refine .inr (.inl ⟨rfl, rfl, ?_⟩)
      simp [signedUser, found, read]
  | some json =>
      cases json with
      | dict user =>
          dsimp only
          cases present : lookup user "id" with
          | none =>
              refine .inr (.inl ⟨rfl, rfl, ?_⟩)
              simp [signedUser, found, read, present]
          | some id =>
              rw [signedUser_dict found read present, Option.any_some, Option.bind_some]
              cases unbounded : infinite id with
              | true => exact .inl ⟨rfl, rfl⟩
              | false =>
                  cases number : id.toInt? with
                  | none => exact .inr (.inl ⟨rfl, rfl, rfl⟩)
                  | some userId => exact .inr (.inr ⟨rfl, _, rfl, rfl, rfl⟩)
      | _ =>
          refine .inr (.inl ⟨rfl, rfl, ?_⟩)
          simp [signedUser, found, read]

/-- Without a user field there is no identity. -/
theorem signedUser_none {fields : List (String × String)} (missing : get fields "user" = none)
    (authDate : Int) :
    signedUser fields authDate = .error (.telegram "invalid Telegram user") := by
  simp [signedUser, missing]

/-! ## Results, refusals and other exceptions -/

section

variable (tooDeep : Nesting) (hmac : Hmac) (initData botToken : String) (maxAgeSeconds now : Int)

/-- Both readers do what their callers expect of them: `verify_init_data` returns an identity that
is signed and recent, or refuses, and `declared_user_id` returns, and with the id of the identity
where there is one. -/
structure Expected : Prop where
  signed : ∀ identity,
    verifyNested tooDeep hmac initData botToken maxAgeSeconds now = .ok identity →
      get (dict (parseQsl initData)) "hash" =
          some (signature hmac botToken (signedFields initData)) ∧
        -30 ≤ now - identity.authDate ∧ now - identity.authDate ≤ maxAgeSeconds
  refuses : ∀ exception,
    verifyNested tooDeep hmac initData botToken maxAgeSeconds now = .error exception →
      ∃ detail, exception = .telegram detail
  declares : ∃ declared, declaredUserId tooDeep initData = .ok declared
  agrees : ∀ identity,
    verifyNested tooDeep hmac initData botToken maxAgeSeconds now = .ok identity →
      declaredUserId tooDeep initData = .ok (some identity.userId)

/-- The user field can be read without an exception that the readers do not expect. -/
def ReadableUser : Prop :=
  ∀ text, get (dict (parseQsl initData)) "user" = some text →
    tooDeep text = false ∧ infiniteId text = false

/-- The hash is in ASCII, and under a right one the date is a number. -/
def ReadableHash : Prop :=
  ∀ received, get (dict (parseQsl initData)) "hash" = some received → received ≠ "" →
    (∀ char ∈ received.toList, char.toNat < 128) ∧
      (received = signature hmac botToken (signedFields initData) →
        (PythonText.int? ((get (dict (parseQsl initData)) "auth_date").getD "0")).isSome)

end

section

variable {tooDeep : Nesting} {hmac : Hmac} {initData botToken : String} {maxAgeSeconds now : Int}

/-- The fields that pass the checks are signed and recent. -/
theorem checkedFields_ok {checked : List (String × String) × Int}
    (passes : checkedFields hmac initData botToken maxAgeSeconds now = .ok checked) :
    checked.1 = signedFields initData ∧
      get (dict (parseQsl initData)) "hash" =
        some (signature hmac botToken (signedFields initData)) ∧
      -30 ≤ now - checked.2 ∧ now - checked.2 ≤ maxAgeSeconds := by
  unfold checkedFields at passes
  dsimp only at passes
  split_ifs at passes with unavailable missing foreign unsigned
  cases date : PythonText.int? ((get (signedFields initData) "auth_date").getD "0") with
  | none =>
      rw [date] at passes
      cases passes
  | some authDate =>
      rw [date] at passes
      dsimp only at passes
      split_ifs at passes with expired
      cases passes
      refine ⟨rfl, ?_, by dsimp only; omega, by dsimp only; omega⟩
      cases found : get (dict (parseQsl initData)) "hash" with
      | none => simp [found] at missing
      | some received =>
          rw [found] at unsigned
          exact congrArg some (not_not.mp unsigned).symm

/-- With a readable hash the checks pass or refuse. -/
theorem checkedFields_refuses (readable : ReadableHash hmac initData botToken)
    {exception : AuthError}
    (fails : checkedFields hmac initData botToken maxAgeSeconds now = .error exception) :
    ∃ detail, exception = .telegram detail := by
  unfold checkedFields at fails
  dsimp only at fails
  split_ifs at fails with unavailable missing foreign unsigned
  · exact ⟨_, (Except.error.inj fails).symm⟩
  · exact ⟨_, (Except.error.inj fails).symm⟩
  · obtain ⟨char, member, large⟩ := List.any_eq_true.mp foreign
    cases found : get (dict (parseQsl initData)) "hash" with
    | none => simp [found] at missing
    | some received =>
        rw [found] at missing member
        have small := (readable received found missing).1 char member
        exact absurd (of_decide_eq_true large) (not_le.mpr small)
  · exact ⟨_, (Except.error.inj fails).symm⟩
  · cases found : get (dict (parseQsl initData)) "hash" with
    | none => simp [found] at missing
    | some received =>
        rw [found] at missing unsigned
        have date := (readable received found missing).2 (not_not.mp unsigned).symm
        rw [← get_signedFields (by decide)] at date
        obtain ⟨authDate, parsed⟩ := Option.isSome_iff_exists.mp date
        rw [parsed] at fails
        dsimp only at fails
        split_ifs at fails
        exact ⟨_, (Except.error.inj fails).symm⟩

/-- An unreadable hash raises another exception. -/
theorem checkedFields_raises (configured : botToken ≠ "")
    (unreadable : ¬ReadableHash hmac initData botToken) :
    checkedFields hmac initData botToken maxAgeSeconds now = .error .raised := by
  unfold ReadableHash at unreadable
  push Not at unreadable
  obtain ⟨received, found, present, unreadable⟩ := unreadable
  have filled : initData ≠ "" := by
    rintro rfl
    have empty : get (dict (parseQsl "")) "hash" = none := by decide +kernel
    cases found.symm.trans empty
  unfold checkedFields
  dsimp only
  rw [if_neg (by simp [filled, configured]), found, Option.getD_some, if_neg present]
  by_cases foreign : (received.toList.any fun char => 128 ≤ char.toNat) = true
  · rw [if_pos foreign]
  · have ascii : ∀ char ∈ received.toList, char.toNat < 128 := by
      intro char member
      by_contra large
      exact foreign (List.any_eq_true.mpr ⟨char, member, decide_eq_true (not_lt.mp large)⟩)
    obtain ⟨same, date⟩ := unreadable ascii
    rw [← get_signedFields (by decide)] at date
    have date := Option.not_isSome_iff_eq_none.mp date
    rw [if_neg foreign, if_neg (by simp [same]), date]

/-- Where the fields pass without a user, the text is refused. -/
theorem verifyNested_none {checked : List (String × String) × Int}
    (passes : checkedFields hmac initData botToken maxAgeSeconds now = .ok checked)
    (missing : get (dict (parseQsl initData)) "user" = none) :
    verifyNested tooDeep hmac initData botToken maxAgeSeconds now =
      .error (.telegram "invalid Telegram user") := by
  rw [← get_signedFields (by decide), ← (checkedFields_ok passes).1] at missing
  unfold verifyNested
  rw [passes]
  dsimp only [Except.bind]
  rw [missing, signedUser_none missing]
  rfl

/-- Where the fields pass with a user, that is read. -/
theorem verifyNested_some {checked : List (String × String) × Int} {text : String}
    (passes : checkedFields hmac initData botToken maxAgeSeconds now = .ok checked)
    (found : get (dict (parseQsl initData)) "user" = some text) :
    get checked.1 "user" = some text ∧
      verifyNested tooDeep hmac initData botToken maxAgeSeconds now =
        if tooDeep text then .error .raised else signedUser checked.1 checked.2 := by
  rw [← get_signedFields (by decide), ← (checkedFields_ok passes).1] at found
  refine ⟨found, ?_⟩
  unfold verifyNested
  rw [passes]
  dsimp only [Except.bind]
  rw [found, Option.any_some]

/-- A result comes from fields that pass and from a user that is read. -/
theorem verifyNested_ok {identity : InitIdentity}
    (accepted : verifyNested tooDeep hmac initData botToken maxAgeSeconds now = .ok identity) :
    (get (dict (parseQsl initData)) "hash" =
        some (signature hmac botToken (signedFields initData)) ∧
      -30 ≤ now - identity.authDate ∧ now - identity.authDate ≤ maxAgeSeconds) ∧
      ∃ text, get (dict (parseQsl initData)) "user" = some text ∧ tooDeep text = false ∧
        infiniteId text = false ∧ idOf text = some identity.userId := by
  cases passes : checkedFields hmac initData botToken maxAgeSeconds now with
  | error exception =>
      unfold verifyNested at accepted
      rw [passes] at accepted
      cases accepted
  | ok checked =>
      obtain ⟨same, signed, recent⟩ := checkedFields_ok passes
      cases found : get (dict (parseQsl initData)) "user" with
      | none =>
          rw [verifyNested_none passes found] at accepted
          cases accepted
      | some text =>
          obtain ⟨user, reads⟩ := verifyNested_some passes found
          rw [reads] at accepted
          split_ifs at accepted with deep
          rcases signedUser_spec user checked.2 with ⟨_, raised⟩ | ⟨_, _, refused⟩ |
            ⟨finite, other, accepts, id, date⟩
          · cases raised.symm.trans accepted
          · cases refused.symm.trans accepted
          · obtain rfl := Except.ok.inj (accepts.symm.trans accepted)
            rw [date]
            exact ⟨⟨signed, recent⟩, text, rfl, by simpa using deep, finite, id⟩

/-- With a readable hash and a readable user, what is not accepted is refused. -/
theorem verifyNested_refuses (readable : botToken ≠ "" → ReadableHash hmac initData botToken)
    (user : ReadableUser tooDeep initData) {exception : AuthError}
    (fails : verifyNested tooDeep hmac initData botToken maxAgeSeconds now = .error exception) :
    ∃ detail, exception = .telegram detail := by
  cases passes : checkedFields hmac initData botToken maxAgeSeconds now with
  | error other =>
      unfold verifyNested at fails
      rw [passes] at fails
      obtain rfl := Except.error.inj fails
      by_cases configured : botToken = ""
      · unfold checkedFields at passes
        rw [if_pos (.inr configured)] at passes
        exact ⟨_, (Except.error.inj passes).symm⟩
      · exact checkedFields_refuses (readable configured) passes
  | ok checked =>
      cases found : get (dict (parseQsl initData)) "user" with
      | none =>
          rw [verifyNested_none passes found] at fails
          exact ⟨_, (Except.error.inj fails).symm⟩
      | some text =>
          obtain ⟨shallow, finite⟩ := user text found
          obtain ⟨own, reads⟩ := verifyNested_some passes found
          rw [reads, if_neg (by simp [shallow])] at fails
          rcases signedUser_spec own checked.2 with ⟨infinite, _⟩ | ⟨_, _, refused⟩ |
            ⟨_, other, accepts, _⟩
          · cases finite.symm.trans infinite
          · exact ⟨_, (Except.error.inj (refused.symm.trans fails)).symm⟩
          · cases accepts.symm.trans fails

/-- What is declared by a text with a user. -/
theorem declaredUserId_some {text : String}
    (found : get (dict (parseQsl initData)) "user" = some text) :
    declaredUserId tooDeep initData =
      if tooDeep text || infiniteId text then .error .raised else .ok (idOf text) := by
  have filled : initData ≠ "" := by
    rintro rfl
    have empty : get (dict (parseQsl "")) "user" = none := by decide +kernel
    cases found.symm.trans empty
  unfold declaredUserId
  rw [if_neg filled, found]

/-- An accepted text declares the id of its identity. -/
theorem declaredUserId_of_accepted {identity : InitIdentity}
    (accepted : verifyNested tooDeep hmac initData botToken maxAgeSeconds now = .ok identity) :
    declaredUserId tooDeep initData = .ok (some identity.userId) := by
  obtain ⟨_, text, found, shallow, finite, id⟩ := verifyNested_ok accepted
  rw [declaredUserId_some found, shallow, finite, id]
  rfl

/-- A text declares an id or none exactly if its user is readable. -/
theorem declaredUserId_returns :
    (∃ declared, declaredUserId tooDeep initData = .ok declared) ↔
      ReadableUser tooDeep initData := by
  constructor
  · rintro ⟨declared, returns⟩ text found
    rw [declaredUserId_some found] at returns
    split_ifs at returns with raises
    simpa using raises
  · intro readable
    cases found : get (dict (parseQsl initData)) "user" with
    | none =>
        refine ⟨none, ?_⟩
        unfold declaredUserId
        rw [found]
        split_ifs <;> rfl
    | some text =>
        obtain ⟨shallow, finite⟩ := readable text found
        exact ⟨idOf text, by rw [declaredUserId_some found, shallow, finite]; rfl⟩

end

/-- Both readers do what their callers expect exactly if the user is readable and, where there is a
token, the hash is. -/
theorem expected_iff (tooDeep : Nesting) (hmac : Hmac) (initData botToken : String)
    (maxAgeSeconds now : Int) :
    Expected tooDeep hmac initData botToken maxAgeSeconds now ↔
      ReadableUser tooDeep initData ∧ (botToken ≠ "" → ReadableHash hmac initData botToken) := by
  constructor
  · intro expected
    refine ⟨declaredUserId_returns.mp expected.declares, fun configured => ?_⟩
    by_contra unreadable
    have raises : checkedFields hmac initData botToken maxAgeSeconds now = .error .raised :=
      checkedFields_raises configured unreadable
    have fails : verifyNested tooDeep hmac initData botToken maxAgeSeconds now = .error .raised := by
      unfold verifyNested
      rw [raises]
      rfl
    obtain ⟨detail, same⟩ := expected.refuses _ fails
    cases same
  · rintro ⟨user, hash⟩
    refine ⟨fun identity accepted => (verifyNested_ok accepted).1,
      fun exception fails => verifyNested_refuses hash user fails,
      declaredUserId_returns.mpr user, fun identity accepted => ?_⟩
    exact declaredUserId_of_accepted accepted

/-- An infinite id, in a text that nobody signed, raises an exception in the reader of the rate
budget. -/
theorem expected_fails :
    ¬∀ (tooDeep : Nesting) (hmac : Hmac) (initData botToken : String) (maxAgeSeconds now : Int),
      Expected tooDeep hmac initData botToken maxAgeSeconds now := by
  intro expected
  obtain ⟨declared, returns⟩ := (expected (fun _ => false) Sample.transparent
    "user=\x7b\"id\":Infinity\x7d" "token" 3600 1000).declares
  have raises : declaredUserId (fun _ => false) "user=\x7b\"id\":Infinity\x7d" =
      .error .raised := by
    decide +kernel
  cases returns.symm.trans raises

end ControlPlane
