import ControlPlane.Library.FormText

/-!
# Signed init data

Telegram signs the fields of a web app session as one text: a line for each
field, `key=value`, in the order of the keys. Nothing is escaped in that text.
Accepted fields without line breaks can be read back from it; fields with line
breaks can be split in more than one way.
-/

namespace ControlPlane

open FormText PythonJson

/-- `hmac.new(key, message, hashlib.sha256).digest()`. -/
abbrev Hmac := List UInt8 → List UInt8 → List UInt8

/-- Under one key, different messages have different digests. -/
def Hmac.CollisionFree (hmac : Hmac) : Prop := ∀ key, Function.Injective (hmac key)

/-- `text.encode()`. -/
def encode (text : String) : List UInt8 := text.toUTF8.data.toList

/-- The lower-case hexadecimal digit of a number below sixteen. -/
def hexDigit (value : Nat) : Char :=
  if value < 10 then Char.ofNat (48 + value) else Char.ofNat (87 + value)

/-- `hexdigest()` of a digest. -/
def hexdigest (digest : List UInt8) : String :=
  String.ofList
    (digest.flatMap fun byte => [hexDigit (byte.toNat / 16), hexDigit (byte.toNat % 16)])

/-- What verified init data says of its user. -/
structure InitIdentity where
  userId : Int
  firstName : Json
  lastName : Json
  username : Json
  authDate : Int

/-- Why init data is not accepted. -/
inductive AuthError
  /-- `TelegramAuthError`. -/
  | telegram (detail : String)
  /-- Another exception. -/
  | raised
  deriving DecidableEq

/-- The fields that are signed: all but the hash. -/
def signedFields (initData : String) : List (String × String) :=
  (dict (parseQsl initData)).filter fun item => item.1 ≠ "hash"

/-- The signed text. -/
def checkText (fields : List (String × String)) : String :=
  join '\n' (fields.map line)

/-- The digest of the signed text under the key of the bot. -/
def signature (hmac : Hmac) (botToken : String) (fields : List (String × String)) : String :=
  hexdigest (hmac (hmac (encode "WebAppData") (encode botToken)) (encode (checkText fields)))

/-- The identity in the field `user`. -/
def signedUser (fields : List (String × String)) (authDate : Int) :
    Except AuthError InitIdentity :=
  match (get fields "user").bind loads with
  | some (.dict user) =>
      match lookup user "id" with
      -- An `OverflowError` is none of the expected exceptions.
      | some (.float (.infinite _)) => .error .raised
      | some id =>
          match id.toInt? with
          | some userId => .ok ⟨userId, (lookup user "first_name").getD (.str ""),
              (lookup user "last_name").getD .null, (lookup user "username").getD .null, authDate⟩
          | none => .error (.telegram "invalid Telegram user")
      | none => .error (.telegram "invalid Telegram user")
  | _ => .error (.telegram "invalid Telegram user")

def verifyInitData (hmac : Hmac) (initData botToken : String) (maxAgeSeconds now : Int) :
    Except AuthError InitIdentity :=
  if initData = "" ∨ botToken = "" then
    .error (.telegram "Telegram authentication unavailable")
  else
    let received := (get (dict (parseQsl initData)) "hash").getD ""
    let fields := signedFields initData
    if received = "" then .error (.telegram "missing Telegram hash")
    -- `compare_digest` takes ASCII texts only.
    else if received.toList.any fun char => 128 ≤ char.toNat then .error .raised
    else if signature hmac botToken fields ≠ received then
      .error (.telegram "invalid Telegram signature")
    else
      match PythonText.int? ((get fields "auth_date").getD "0") with
      | none => .error .raised
      | some authDate =>
          if authDate ≤ 0 ∨ maxAgeSeconds < now - authDate ∨ now + 30 < authDate then
            .error (.telegram "expired Telegram session")
          else signedUser fields authDate

/-! ## Forms with a signature -/

/-- The characters of a digest are plain. -/
theorem hexdigest_plain (digest : List UInt8) :
    ∀ char ∈ (hexdigest digest).toList,
      char.toNat < 0x80 ∧ char ≠ '%' ∧ char ≠ '+' ∧ char ≠ '&' ∧ char ≠ '-' := by
  have digits : ∀ value < 16, (hexDigit value).toNat < 0x80 ∧ hexDigit value ≠ '%' ∧
      hexDigit value ≠ '+' ∧ hexDigit value ≠ '&' ∧ hexDigit value ≠ '-' := by
    decide
  intro char member
  rw [hexdigest, String.toList_ofList] at member
  obtain ⟨byte, -, member⟩ := List.mem_flatMap.mp member
  have bound := byte.toNat_lt
  rcases List.mem_cons.mp member with rfl | member
  · exact digits _ (by omega)
  · rw [List.mem_singleton.mp member]
    exact digits _ (by omega)

theorem parseQsl_hash (digest : List UInt8) :
    parseQsl ("hash=" ++ hexdigest digest) = [("hash", hexdigest digest)] := by
  have plain := hexdigest_plain digest
  have chars : ("hash=" ++ hexdigest digest).toList =
      'h' :: 'a' :: 's' :: 'h' :: '=' :: (hexdigest digest).toList := by
    rw [String.toList_append]
    rfl
  have one : PythonText.split '&' ("hash=" ++ hexdigest digest) =
      ["hash=" ++ hexdigest digest] := by
    rw [PythonText.split_eq, List.splitOn_eq_singleton, List.map_singleton, String.ofList_toList]
    rw [chars]
    simp only [List.mem_cons, not_or]
    exact ⟨by decide, by decide, by decide, by decide, by decide,
      fun member => (plain _ member).2.2.2.1 rfl⟩
  have filled : "hash=" ++ hexdigest digest ≠ "" := by
    intro same
    cases chars.symm.trans (congrArg String.toList same)
  have name : field ['h', 'a', 's', 'h'] = "hash" := by decide +kernel
  have value : field (hexdigest digest).toList = hexdigest digest := by
    rw [field_plain (fun char member => (plain char member).1)
      (fun member => (plain _ member).2.1 rfl) (fun member => (plain _ member).2.2.1 rfl),
      String.ofList_toList]
  have kept : ["hash=" ++ hexdigest digest].filter (fun item => item ≠ "") =
      ["hash=" ++ hexdigest digest] := List.filter_cons_of_pos (decide_eq_true filled)
  rw [parseQsl, one, kept, List.map_singleton, chars]
  exact congrArg₂ (fun key text => [(key, text)]) name value

/-- A form with the signature of its fields behind it. -/
def sealed (hmac : Hmac) (botToken form : String) : String :=
  form ++ "&" ++ ("hash=" ++ signature hmac botToken (signedFields form))

theorem dict_sealed (hmac : Hmac) (botToken form : String) :
    dict (parseQsl (sealed hmac botToken form)) =
      setItem "hash" (signature hmac botToken (signedFields form)) (dict (parseQsl form)) := by
  have hash : parseQsl ("hash=" ++ signature hmac botToken (signedFields form)) =
      [("hash", signature hmac botToken (signedFields form))] := parseQsl_hash _
  rw [sealed, parseQsl_append, hash, dict_append]

/-- The signature is none of the signed fields. -/
theorem signedFields_sealed (hmac : Hmac) (botToken form : String) :
    signedFields (sealed hmac botToken form) = signedFields form := by
  rw [signedFields, dict_sealed, filter_setItem, signedFields]

/-- The signature of a form is right; its date and its user decide. -/
theorem verifyInitData_sealed {hmac : Hmac} {botToken form : String} (configured : botToken ≠ "")
    (digests : signature hmac botToken (signedFields form) ≠ "") (maxAgeSeconds now : Int) :
    verifyInitData hmac (sealed hmac botToken form) botToken maxAgeSeconds now =
      match PythonText.int? ((get (signedFields form) "auth_date").getD "0") with
      | none => .error .raised
      | some authDate =>
          if authDate ≤ 0 ∨ maxAgeSeconds < now - authDate ∨ now + 30 < authDate then
            .error (.telegram "expired Telegram session")
          else signedUser (signedFields form) authDate := by
  have hash : get (dict (parseQsl (sealed hmac botToken form))) "hash" =
      some (signature hmac botToken (signedFields form)) := by
    rw [dict_sealed, get_setItem, if_pos rfl]
  have filled : sealed hmac botToken form ≠ "" := by
    intro same
    have empty : get (dict (parseQsl "")) "hash" = none := by decide +kernel
    rw [same, empty] at hash
    cases hash
  have ascii : ¬((signature hmac botToken (signedFields form)).toList.any
      fun char => 128 ≤ char.toNat) = true := by
    intro foreign
    obtain ⟨char, member, large⟩ := List.any_eq_true.mp foreign
    have small := (hexdigest_plain _ char member).1
    exact absurd (of_decide_eq_true large) (not_le.mpr small)
  unfold verifyInitData
  dsimp only
  rw [if_neg (by simp [filled, configured]), hash, Option.getD_some, if_neg digests, if_neg ascii,
    signedFields_sealed, if_neg (not_not.mpr rfl)]

/-! ## What acceptance means -/

section

variable {hmac : Hmac} {initData botToken : String} {maxAgeSeconds now : Int}
  {identity : InitIdentity}

/-- Accepted init data carries the signature of its fields. -/
theorem verifyInitData_signature
    (accepted : verifyInitData hmac initData botToken maxAgeSeconds now = .ok identity) :
    get (dict (parseQsl initData)) "hash" =
      some (signature hmac botToken (signedFields initData)) := by
  unfold verifyInitData at accepted
  split at accepted
  · cases accepted
  · dsimp only at accepted
    split at accepted
    · cases accepted
    · rename_i present
      split at accepted
      · cases accepted
      · split at accepted
        · cases accepted
        · rename_i same
          have same := not_not.mp same
          cases found : get (dict (parseQsl initData)) "hash" with
          | none => simp [found] at present
          | some received =>
              rw [found] at same
              exact congrArg some same.symm

/-- Accepted init data has a date and a user, which determine the identity. -/
theorem verifyInitData_fields
    (accepted : verifyInitData hmac initData botToken maxAgeSeconds now = .ok identity) :
    ∃ date user authDate, get (signedFields initData) "auth_date" = some date ∧
      get (signedFields initData) "user" = some user ∧ PythonText.int? date = some authDate ∧
      signedUser (signedFields initData) authDate = .ok identity := by
  unfold verifyInitData at accepted
  split at accepted
  · cases accepted
  · dsimp only at accepted
    split at accepted
    · cases accepted
    · split at accepted
      · cases accepted
      · split at accepted
        · cases accepted
        · split at accepted
          · cases accepted
          · next authDate parsed =>
            split at accepted
            · cases accepted
            · next recent =>
              have user : ∃ user, get (signedFields initData) "user" = some user := by
                unfold signedUser at accepted
                cases found : get (signedFields initData) "user" with
                | some user => exact ⟨user, rfl⟩
                | none =>
                    rw [found] at accepted
                    cases accepted
              obtain ⟨user, foundUser⟩ := user
              cases found : get (signedFields initData) "auth_date" with
              | some date =>
                  rw [found] at parsed
                  exact ⟨date, user, authDate, rfl, foundUser, parsed, accepted⟩
              | none =>
                  rw [found] at parsed
                  have zero : authDate = 0 := by
                    have default : PythonText.int? "0" = some 0 := by decide +kernel
                    exact Option.some.inj (parsed.symm.trans default)
                  exact absurd (Or.inl (le_of_eq zero)) recent

end

/-! ## The signature binds the identity -/

/-- Different bytes have different hexadecimal digits. -/
theorem hexDigit_injective {first second : Nat} (small : first < 16) (other : second < 16)
    (same : hexDigit first = hexDigit second) : first = second := by
  have all : ∀ first < 16, ∀ second < 16, hexDigit first = hexDigit second → first = second := by
    decide
  exact all first small second other same

theorem hexdigest_injective : Function.Injective hexdigest := by
  intro first second same
  have chars := String.ofList_injective same
  clear same
  induction first generalizing second with
  | nil =>
      cases second with
      | nil => rfl
      | cons byte rest => cases chars
  | cons byte first inductionHypothesis =>
      cases second with
      | nil => cases chars
      | cons other second =>
          rw [List.flatMap_cons, List.flatMap_cons] at chars
          obtain ⟨digits, rest⟩ := List.append_inj chars rfl
          obtain ⟨high, tail⟩ := List.cons.inj digits
          have low := (List.cons.inj tail).1
          have bound := byte.toNat_lt
          have otherBound := other.toNat_lt
          have quotient := hexDigit_injective (by omega) (by omega) high
          have remainder := hexDigit_injective (by omega) (by omega) low
          have value : byte.toNat = other.toNat := by omega
          rw [UInt8.toNat_inj.mp value, inductionHypothesis rest]

theorem encode_injective : Function.Injective encode := by
  intro first second same
  unfold encode at same
  have bytes : first.toUTF8 = second.toUTF8 := ByteArray.ext (Array.toList_inj.mp same)
  exact String.toByteArray_inj.mp bytes

/-- No signed key or value has a line break. -/
def Unbroken (initData : String) : Prop :=
  ∀ item ∈ signedFields initData, '\n' ∉ item.1.toList ∧ '\n' ∉ item.2.toList

theorem signedFields_sorted (initData : String) : Sorted (signedFields initData) :=
  (dict_sorted _).filter _

/-- The lines of unbroken fields have no line breaks. -/
theorem Unbroken.lines {initData : String} (unbroken : Unbroken initData) :
    ∀ text ∈ (signedFields initData).map line, '\n' ∉ text.toList := by
  intro text member
  obtain ⟨item, present, rfl⟩ := List.mem_map.mp member
  obtain ⟨key, value⟩ := unbroken item present
  unfold line
  rw [String.toList_append, String.toList_append]
  simp [key, value]

/-- The value of a field is determined by the lines. -/
theorem get_of_lines (name : String) {one two : String} (plain : '=' ∉ name.toList)
    {first second : List (String × String)} (firstSorted : Sorted first)
    (secondSorted : Sorted second) (same : first.map line = second.map line)
    (foundFirst : get first name = some one) (foundSecond : get second name = some two) :
    one = two := by
  have lines := (find_line plain firstSorted foundFirst).symm.trans
    ((congrArg _ same).trans (find_line plain secondSorted foundSecond))
  have chars := congrArg String.toList (Option.some.inj lines)
  unfold line at chars
  rw [String.toList_append (t := one), String.toList_append (t := two)] at chars
  exact String.toList_injective (List.append_cancel_left chars)

/-- Two accepted strings with one signature, whose fields have no line breaks, have the same user
and the same date. -/
theorem signature_binds {hmac : Hmac} (collisionFree : hmac.CollisionFree)
    {botToken first second : String} {maxAgeSeconds now : Int} {one two : InitIdentity}
    (acceptsFirst : verifyInitData hmac first botToken maxAgeSeconds now = .ok one)
    (acceptsSecond : verifyInitData hmac second botToken maxAgeSeconds now = .ok two)
    (sameHash : get (dict (parseQsl first)) "hash" = get (dict (parseQsl second)) "hash")
    (firstUnbroken : Unbroken first) (secondUnbroken : Unbroken second) :
    one.userId = two.userId ∧ one.authDate = two.authDate := by
  obtain ⟨date, user, authDate, foundDate, foundUser, parsed, identified⟩ :=
    verifyInitData_fields acceptsFirst
  obtain ⟨otherDate, otherUser, otherAuthDate, foundOtherDate, foundOtherUser, otherParsed,
    otherIdentified⟩ := verifyInitData_fields acceptsSecond
  have lines : (signedFields first).map line = (signedFields second).map line := by
    rw [verifyInitData_signature acceptsFirst, verifyInitData_signature acceptsSecond] at sameHash
    have text := encode_injective (collisionFree _ (hexdigest_injective (Option.some.inj sameHash)))
    refine join_injective firstUnbroken.lines secondUnbroken.lines ?_ ?_ text
    · intro none
      rw [List.map_eq_nil_iff.mp none] at foundUser
      cases foundUser
    · intro none
      rw [List.map_eq_nil_iff.mp none] at foundOtherUser
      cases foundOtherUser
  have sameDate := get_of_lines "auth_date" (by decide +kernel) (signedFields_sorted first)
    (signedFields_sorted second) lines foundDate foundOtherDate
  have sameUser := get_of_lines "user" (by decide +kernel) (signedFields_sorted first)
    (signedFields_sorted second) lines foundUser foundOtherUser
  subst sameDate sameUser
  have equal : authDate = otherAuthDate := Option.some.inj (parsed.symm.trans otherParsed)
  subst equal
  have identity : one = two := by
    unfold signedUser at identified otherIdentified
    rw [foundUser] at identified
    rw [foundOtherUser] at otherIdentified
    exact Except.ok.inj (identified.symm.trans otherIdentified)
  exact ⟨congrArg _ identity, congrArg _ identity⟩

namespace Sample

/-- A digest that differs for different messages: the message itself. -/
def transparent : Hmac := fun _ message => message

/-- Init data with the signature of its fields under the sample digest. -/
def signed (fields text : String) : String :=
  fields ++ "&hash=" ++ hexdigest (encode text)

/-- The text of a session of the account with an id. -/
def initText (fields : String) (id : String) : String :=
  fields ++ "user=\x7b\"id\":" ++ id ++ "\x7d"

end Sample

/-- Init data is accepted for a user. -/
theorem accepts_of_userId {result : Except AuthError InitIdentity} {userId : Int}
    (same : result.toOption.map InitIdentity.userId = some userId) :
    ∃ identity, result = .ok identity ∧ identity.userId = userId := by
  cases result with
  | error exception => cases same
  | ok identity => exact ⟨identity, rfl, Option.some.inj same⟩

theorem Sample.transparent_collisionFree : transparent.CollisionFree :=
  fun _ => Function.injective_id

/-- A form with the text of its fields behind it is sealed. -/
theorem Sample.signed_eq {form text : String} (same : checkText (signedFields form) = text) :
    signed form text = sealed transparent "token" form := by
  rw [signed, sealed, signature, transparent, same, String.append_assoc, String.append_assoc]
  rfl

/-- A sealed form is accepted for a user, if its date and its user are read in time. -/
theorem Sample.accepts_sealed {form : String} {fields : List (String × String)} {userId : Int}
    (read : signedFields form = fields)
    (digests : signature transparent "token" fields ≠ "")
    (date : PythonText.int? ((get fields "auth_date").getD "0") = some 1000)
    (known : (signedUser fields 1000).toOption.map InitIdentity.userId = some userId) :
    ∃ identity, verifyInitData transparent (sealed transparent "token" form) "token" 3600 1001 =
      .ok identity ∧ identity.userId = userId := by
  refine accepts_of_userId ?_
  rw [verifyInitData_sealed (by decide) (read ▸ digests), read, date]
  exact known

/-- The signed fields of the sample session, in the order of their keys. -/
def Sample.sessionFields : List (String × String) :=
  [("auth_date", "1000"), ("query_id", "q1"), ("user", "\x7b\"id\":42\x7d")]

open Sample in
/-- Another encoding of the same fields is accepted as the same user. -/
theorem signature_binds_encoded :
    ∃ one two, verifyInitData transparent
        (signed "auth_date=1000&query_id=q1&user=%7b%22id%22%3a42%7d"
          (initText "auth_date=1000\nquery_id=q1\n" "42")) "token" 3600 1001 = .ok one ∧
      verifyInitData transparent
        (signed (initText "query_id=q1&auth_date=1000&" "42")
          (initText "auth_date=1000\nquery_id=q1\n" "42")) "token" 3600 1001 = .ok two ∧
      one.userId = two.userId ∧ one.authDate = two.authDate := by
  have read : signedFields "auth_date=1000&query_id=q1&user=%7b%22id%22%3a42%7d" =
      sessionFields := by
    decide +kernel
  have readOther : signedFields (initText "query_id=q1&auth_date=1000&" "42") =
      sessionFields := by
    decide +kernel
  have text : checkText sessionFields = initText "auth_date=1000\nquery_id=q1\n" "42" := by
    decide +kernel
  have digests : signature transparent "token" sessionFields ≠ "" := by decide +kernel
  have date : PythonText.int? ((get sessionFields "auth_date").getD "0") = some 1000 := by
    decide +kernel
  have known : (signedUser sessionFields 1000).toOption.map InitIdentity.userId = some 42 := by
    decide +kernel
  have unbroken : ∀ item ∈ sessionFields, '\n' ∉ item.1.toList ∧ '\n' ∉ item.2.toList := by
    decide +kernel
  obtain ⟨one, acceptsFirst, _⟩ := accepts_sealed read digests date known
  obtain ⟨two, acceptsSecond, _⟩ := accepts_sealed readOther digests date known
  rw [signed_eq (read ▸ text), signed_eq (readOther ▸ text)]
  refine ⟨one, two, acceptsFirst, acceptsSecond, signature_binds transparent_collisionFree
    acceptsFirst acceptsSecond ?_ ?_ ?_⟩
  · rw [dict_sealed, dict_sealed, get_setItem, get_setItem, if_pos rfl, if_pos rfl, read, readOther]
  · rw [Unbroken, signedFields_sealed, read]
    exact unbroken
  · rw [Unbroken, signedFields_sealed, readOther]
    exact unbroken

open Sample in
/-- A line break in the value of one field makes room for another user in that of another one. -/
theorem signature_binds_fails :
    ¬∀ (hmac : Hmac) (botToken first second : String) (maxAgeSeconds now : Int)
      (one two : InitIdentity), hmac.CollisionFree →
      verifyInitData hmac first botToken maxAgeSeconds now = .ok one →
      verifyInitData hmac second botToken maxAgeSeconds now = .ok two →
      get (dict (parseQsl first)) "hash" = get (dict (parseQsl second)) "hash" →
      one.userId = two.userId ∧ one.authDate = two.authDate := by
  intro binds
  let first := initText "auth_date=1000&b=x&user=\x7b\"id\":1\x7d&z=q%0a" "2"
  let second := initText "auth_date=1000&b=x%0auser=\x7b\"id\":1\x7d%0az=q&" "2"
  let fields := [("auth_date", "1000"), ("b", "x"), ("user", "\x7b\"id\":1\x7d"),
    ("z", "q\nuser=\x7b\"id\":2\x7d")]
  let others := [("auth_date", "1000"), ("b", "x\nuser=\x7b\"id\":1\x7d\nz=q"),
    ("user", "\x7b\"id\":2\x7d")]
  have read : signedFields first = fields := by decide +kernel
  have readOther : signedFields second = others := by decide +kernel
  have text : checkText fields = checkText others := by decide +kernel
  have digests : signature transparent "token" fields ≠ "" := by decide +kernel
  have date : PythonText.int? ((get fields "auth_date").getD "0") = some 1000 ∧
      PythonText.int? ((get others "auth_date").getD "0") = some 1000 := by
    decide +kernel
  have same : signature transparent "token" fields = signature transparent "token" others := by
    rw [signature, text, signature]
  have known : (signedUser fields 1000).toOption.map InitIdentity.userId = some 1 ∧
      (signedUser others 1000).toOption.map InitIdentity.userId = some 2 := by
    decide +kernel
  obtain ⟨one, acceptsFirst, firstUser⟩ := accepts_sealed read digests date.1 known.1
  obtain ⟨two, acceptsSecond, secondUser⟩ :=
    accepts_sealed readOther (same ▸ digests) date.2 known.2
  have users := (binds transparent "token" _ _ 3600 1001 one two transparent_collisionFree
    acceptsFirst acceptsSecond (by
      rw [dict_sealed, dict_sealed, get_setItem, get_setItem, if_pos rfl, if_pos rfl, read,
        readOther, same])).1
  rw [firstUser, secondUser] at users
  cases users

end ControlPlane
