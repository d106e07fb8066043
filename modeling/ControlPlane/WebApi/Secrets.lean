import ControlPlane.WebApi.Servers

/-!
# Stored secrets

The credentials of a server are stored as references. A reference that a
registration stores names a token of the package that encrypts, never a variable
of the environment, and resolves to what was registered.
-/

namespace ControlPlane

open ReadCommitted Orm

/-- What keeps a reference from being resolved. -/
inductive SecretFailure
  | missing (name : String)
  | undecryptable
  | unsupported
  deriving DecidableEq, Repr

/-- `resolve_secret`; `environment` is `os.getenv` with an empty default, and `decrypt` answers
`none` for an `InvalidToken`. -/
def resolveSecret (environment : String → String) (decrypt : String → Option String) :
    Option String → Except SecretFailure (Option String)
  | none => .ok none
  | some reference =>
      let rest := String.ofList (reference.toList.drop 6)
      if reference = "" then .ok none
      else if "env://".toList.isPrefixOf reference.toList then
        if environment rest = "" then .error (.missing rest) else .ok (some (environment rest))
      else if "enc://".toList.isPrefixOf reference.toList then
        match decrypt rest with
        | some value => .ok (some value)
        | none => .error .undecryptable
      else .error .unsupported

/-- A reference as `encrypt_secret` returns it for some value. -/
def Sealed (packages : Packages) (reference : Option String) : Prop :=
  ∀ text, reference = some text →
    ∃ value token, packages.encrypt value = some token ∧ text = "enc://" ++ token

/-- A missing secret is sealed. -/
theorem sealed_none (packages : Packages) : Sealed packages none := by rintro _ ⟨⟩

/-- A server with sealed credentials. -/
structure Panel.Guarded (packages : Packages) (panel : Panel) : Prop where
  apiKey : Sealed packages panel.apiKeyRef
  ownerUser : Sealed packages panel.ownerUserRef
  ownerPass : Sealed packages panel.ownerPassRef

/-- Reading the rest of an encrypted reference. -/
theorem resolveSecret_enc (environment : String → String) (decrypt : String → Option String)
    (token : String) :
    resolveSecret environment decrypt (some ("enc://" ++ token)) =
      match decrypt token with
      | some value => .ok (some value)
      | none => .error .undecryptable := by
  have present : "enc://" ++ token ≠ "" := by
    intro empty
    have length := congrArg (fun text => text.toList.length) empty
    simp at length
  have chars : ("enc://" ++ token).toList = 'e' :: 'n' :: 'c' :: ':' :: '/' :: '/' :: token.toList := by
    rw [String.toList_append]
    rfl
  have plain : "env://".toList.isPrefixOf ("enc://" ++ token).toList = false := by
    rw [chars]
    rfl
  have encrypted : "enc://".toList.isPrefixOf ("enc://" ++ token).toList = true := by
    rw [chars]
    rfl
  unfold resolveSecret
  simp only [if_neg present, plain, Bool.false_eq_true, if_false, encrypted, if_true]
  rw [chars]
  simp only [List.drop_succ_cons, List.drop_zero, String.ofList_toList]

/-- A sealed reference resolves to the same in every environment, once the package decrypts its own
tokens. -/
theorem Sealed.resolves {packages : Packages} {reference : Option String}
    (encrypted : Sealed packages reference) {decrypt : String → Option String}
    (inverse : ∀ value token, packages.encrypt value = some token → decrypt token = some value) :
    ∃ value, ∀ environment, resolveSecret environment decrypt reference = .ok value := by
  cases reference with
  | none => exact ⟨none, fun _ => rfl⟩
  | some text =>
      obtain ⟨value, token, encrypts, rfl⟩ := encrypted text rfl
      refine ⟨some value, fun environment => ?_⟩
      rw [resolveSecret_enc, inverse value token encrypts]

end ControlPlane
