import ControlPlane.Guards.RateLimiter
import ControlPlane.Identity.Signing
import Std.Data.String.ToInt

/-!
# Whose budget a request uses

The guard in front of the API takes the key of the rate limiter from headers,
before anything is authenticated: from the id that the init data declares, signed
or not, else from the control key, and else from the peer alone.
-/

namespace ControlPlane

namespace Guards

open SlidingWindow PythonText

/-- The settings and the primitives that the guard and the check of init data depend on. -/
structure Site where
  /-- `TRUST_PROXY_HEADERS` is set. -/
  trustProxy : Bool
  tooDeep : Nesting
  sha256 : List UInt8 → List UInt8
  hmac : Hmac
  /-- A digest has 32 bytes. -/
  digests : ∀ key message, hmac key message ≠ []
  botToken : String
  maxAgeSeconds : Int

/-- What the guard reads of a request; an absent header is read as an empty one. -/
structure Request where
  /-- `request.client.host`. -/
  client : Option String
  forwardedFor : String
  initData : String
  controlKey : String
  /-- The time at which init data would be checked. -/
  clock : Int

namespace Site

variable (site : Site) (request : Request)

/-- The peer: behind a proxy, the first address that the header names. -/
def peer : String :=
  let forwarded :=
    if site.trustProxy then strip ((split ',' request.forwardedFor).headD "") else ""
  if forwarded = "" then request.client.getD "unknown" else forwarded

/-- `hashlib.sha256(key.encode()).hexdigest()[:16]`. -/
def keyDigest : String := truncate 16 (hexdigest (site.sha256 (encode request.controlKey)))

/-- `_caller_key`. -/
def callerKey : Except AuthError String :=
  match declaredUserId site.tooDeep request.initData with
  | .error exception => .error exception
  | .ok (some declared) => .ok (site.peer request ++ ":telegram-" ++ toString declared)
  | .ok none =>
      if request.controlKey = "" then .ok (site.peer request)
      else .ok (site.peer request ++ ":key-" ++ site.keyDigest request)

/-- The user whom `verify_init_data` finds in a request. -/
def signedIn : Option Int :=
  (verifyNested site.tooDeep site.hmac request.initData site.botToken site.maxAgeSeconds
    request.clock).toOption.map InitIdentity.userId

end Site

variable {Time : Type}

/-- A request and when the guard takes it. -/
structure Arrival (Time : Type) where
  request : Request
  time : Time

section

variable [AddCommGroup Time] [LinearOrder Time]

/-- `guard_rails`: which of the requests for one limiter it lets through. A request whose key raises
an exception is answered with an error and leaves the limiter alone. -/
def guardRails (site : Site) (limiter : RateLimiter Time) :
    Hits Time → List (Arrival Time) → List (Arrival Time × Bool)
  | _, [] => []
  | hits, arrival :: rest =>
      match site.callerKey arrival.request with
      | .error _ => (arrival, false) :: guardRails site limiter hits rest
      | .ok key =>
          (arrival, (limiter.allow hits ⟨key, arrival.time⟩).1) ::
            guardRails site limiter (limiter.allow hits ⟨key, arrival.time⟩).2 rest

/-- How many requests are let through in a window. -/
def admittedWithin (window moment : Time) (served : List (Arrival Time × Bool)) : Nat :=
  served.countP fun item => item.2 && Within window moment item.1.time

end

/-! ## What the headers name -/

/-- The identity that the headers of a request claim. -/
inductive Identity
  | telegram (id : Int)
  | key (digest : String)
  | anonymous
  deriving DecidableEq

/-- How an identity is written behind the peer. -/
def Identity.suffix : Identity → String
  | .telegram id => ":telegram-" ++ toString id
  | .key digest => ":key-" ++ digest
  | .anonymous => ""

/-- The identity that a request claims, if it can be read. -/
def Site.identity (site : Site) (request : Request) : Option Identity :=
  (declaredUserId site.tooDeep request.initData).toOption.map fun
    | some id => .telegram id
    | none => if request.controlKey = "" then .anonymous else .key (site.keyDigest request)

theorem Identity.suffix_injective : Function.Injective Identity.suffix := by
  intro first second same
  have chars := congrArg String.toList same
  cases first <;> cases second <;>
    simp only [Identity.suffix, String.toList_append, String.toList_empty] at chars
  case telegram.telegram one two =>
    have digits := String.toList_injective (List.append_cancel_left chars)
    exact congrArg Identity.telegram (Int.repr_injective digits)
  case key.key one two =>
    exact congrArg Identity.key (String.toList_injective (List.append_cancel_left chars))
  case anonymous.anonymous => rfl
  all_goals simp at chars

/-- The key is the peer with the identity behind it. -/
theorem Site.callerKey_eq (site : Site) (request : Request) :
    (site.callerKey request).toOption =
      (site.identity request).map fun identity => site.peer request ++ identity.suffix := by
  unfold Site.callerKey Site.identity
  cases declaredUserId site.tooDeep request.initData with
  | error exception => rfl
  | ok declared =>
      cases declared with
      | some id => simp [Identity.suffix, Except.toOption, String.append_assoc]
      | none =>
          dsimp only
          split_ifs <;> simp [Identity.suffix, Except.toOption, String.append_assoc, *]

/-! ## What a key stands for -/

namespace Identity

/-- What an identity begins with, up to its last hyphen. -/
def stem : Identity → List Char
  | telegram (.ofNat _) => [':', 't', 'e', 'l', 'e', 'g', 'r', 'a', 'm']
  | telegram (.negSucc _) => [':', 't', 'e', 'l', 'e', 'g', 'r', 'a', 'm', '-']
  | key _ => [':', 'k', 'e', 'y']
  | anonymous => []

/-- What comes behind the last hyphen, unless there is one in a digest. -/
def digits : Identity → List Char
  | telegram id => (toString id.natAbs).toList
  | key digest => digest.toList
  | anonymous => []

theorem suffix_eq {identity : Identity} (named : identity ≠ anonymous) :
    identity.suffix.toList = identity.stem ++ '-' :: identity.digits := by
  cases identity with
  | telegram id =>
      rw [suffix, String.toList_append]
      cases id with
      | ofNat id => rfl
      | negSucc id =>
          rw [Int.toString_eq_repr, Int.repr, String.toList_append]
          rfl
  | key digest =>
      rw [suffix, String.toList_append]
      rfl
  | anonymous => exact absurd rfl named

theorem digits_telegram (id : Int) : '-' ∉ (telegram id).digits := by
  intro member
  have digit := Nat.isDigit_of_mem_toDigits (n := id.natAbs) (by decide) (by decide)
    (show '-' ∈ Nat.toDigits 10 id.natAbs by simpa [digits] using member)
  exact absurd digit (by decide)

/-- The last hyphen of a text separates what comes before it from what comes behind it. -/
theorem last_hyphen {front back other rest : List Char} (plain : '-' ∉ back)
    (otherPlain : '-' ∉ rest) (same : front ++ '-' :: back = other ++ '-' :: rest) :
    front = other ∧ back = rest := by
  have reversed : back.reverse ++ '-' :: front.reverse = rest.reverse ++ '-' :: other.reverse := by
    have chars := congrArg List.reverse same
    simpa using chars
  have stop : ∀ {text : List Char}, '-' ∉ text → ∀ char ∈ text.reverse, (char != '-') = true :=
    fun plain char member => bne_iff_ne.mpr fun hyphen =>
      plain (hyphen ▸ List.mem_reverse.mp member)
  have behind : back.reverse = rest.reverse := by
    have taken := congrArg (List.takeWhile (· != '-')) reversed
    rwa [List.takeWhile_append_of_pos (stop plain), List.takeWhile_append_of_pos (stop otherPlain),
      List.takeWhile_cons_of_neg (by simp), List.takeWhile_cons_of_neg (by simp), List.append_nil,
      List.append_nil] at taken
  obtain rfl := List.reverse_injective behind
  exact ⟨List.append_cancel_right same, rfl⟩

/-- The last character of a stem. -/
def lastOfStem : Identity → Option Char
  | telegram (.ofNat _) => some 'm'
  | telegram (.negSucc _) => some '-'
  | key _ => some 'y'
  | anonymous => none

theorem getLast_stem {identity : Identity} (named : identity ≠ anonymous) (peer : List Char) :
    (peer ++ identity.stem).getLast? = identity.lastOfStem := by
  cases identity with
  | telegram id => cases id <;> rw [List.getLast?_append] <;> rfl
  | key digest =>
      rw [List.getLast?_append]
      rfl
  | anonymous => exact absurd rfl named

/-- The stems end differently. -/
theorem stem_unique {peer other : List Char} {one two : Identity} (named : one ≠ anonymous)
    (otherNamed : two ≠ anonymous) (same : peer ++ one.stem = other ++ two.stem) :
    one.stem = two.stem := by
  have last : one.lastOfStem = two.lastOfStem :=
    (getLast_stem named peer).symm.trans
      ((congrArg List.getLast? same).trans (getLast_stem otherNamed other))
  cases one with
  | telegram one =>
      cases one <;> cases two with
      | telegram two =>
          cases two <;> first | rfl | cases last
      | key digest => cases last
      | anonymous => exact absurd rfl otherNamed
  | key digest =>
      cases two with
      | telegram two => cases two <;> cases last
      | key other => rfl
      | anonymous => exact absurd rfl otherNamed
  | anonymous => exact absurd rfl named

/-- Peer and identity can be read from a key, unless the identity is empty. -/
theorem append_suffix_injective {peer other : String} {one two : Identity}
    (named : one ≠ anonymous) (otherNamed : two ≠ anonymous) (plain : '-' ∉ one.digits)
    (otherPlain : '-' ∉ two.digits) (same : peer ++ one.suffix = other ++ two.suffix) :
    peer = other ∧ one = two := by
  have chars := congrArg String.toList same
  rw [String.toList_append, String.toList_append, suffix_eq named, suffix_eq otherNamed,
    ← List.append_assoc, ← List.append_assoc] at chars
  obtain ⟨fronts, digits⟩ := last_hyphen plain otherPlain chars
  have stems := stem_unique named otherNamed fronts
  have suffixes : one.suffix = two.suffix := by
    apply String.toList_injective
    rw [suffix_eq named, suffix_eq otherNamed, stems, digits]
  rw [stems] at fronts
  exact ⟨String.toList_injective (List.append_cancel_right fronts), suffix_injective suffixes⟩

end Identity

/-- Two requests name one budget: by the same peer and the same identity, or by no identity and a
peer that spells out the peer and the identity of the other. -/
def SameName (peer : String) (identity : Identity) (otherPeer : String) (other : Identity) : Prop :=
  (peer = otherPeer ∧ identity = other) ∨
    (other = .anonymous ∧ otherPeer = peer ++ identity.suffix) ∨
      (identity = .anonymous ∧ peer = otherPeer ++ other.suffix)

theorem sameName_iff {peer otherPeer : String} {identity other : Identity}
    (plain : '-' ∉ identity.digits) (otherPlain : '-' ∉ other.digits) :
    SameName peer identity otherPeer other ↔
      peer ++ identity.suffix = otherPeer ++ other.suffix := by
  have empty : ∀ text : String, text ++ Identity.anonymous.suffix = text := fun _ =>
    String.append_empty
  constructor
  · rintro (⟨rfl, rfl⟩ | ⟨rfl, rfl⟩ | ⟨rfl, rfl⟩)
    · rfl
    · exact (empty _).symm
    · exact empty _
  · intro same
    by_cases unnamed : other = .anonymous
    · rw [unnamed, empty] at same
      exact .inr (.inl ⟨unnamed, same.symm⟩)
    · by_cases unnamedToo : identity = .anonymous
      · rw [unnamedToo, empty] at same
        exact .inr (.inr ⟨unnamedToo, same⟩)
      · exact .inl (Identity.append_suffix_injective unnamedToo unnamed plain otherPlain same)

/-- What a request names beside its peer, as it stands in the headers. -/
inductive Names (site : Site) (request : Request) : Identity → Prop
  | telegram {id : Int} (readable : ReadableUser site.tooDeep request.initData)
      (declares : Declares request.initData id) : Names site request (.telegram id)
  | key (readable : ReadableUser site.tooDeep request.initData)
      (undeclared : ∀ id, ¬Declares request.initData id) (given : request.controlKey ≠ "") :
      Names site request (.key (site.keyDigest request))
  | anonymous (readable : ReadableUser site.tooDeep request.initData)
      (undeclared : ∀ id, ¬Declares request.initData id) (absent : request.controlKey = "") :
      Names site request .anonymous

/-- The identity that the guard takes from a request is the one that it names. -/
theorem identity_eq_some_iff {site : Site} {request : Request} {identity : Identity} :
    site.identity request = some identity ↔ Names site request identity := by
  unfold Site.identity
  constructor
  · intro found
    cases declared : declaredUserId site.tooDeep request.initData with
    | error exception =>
        rw [declared] at found
        cases found
    | ok result =>
        rw [declared] at found
        cases result with
        | some id =>
            obtain ⟨readable, declares⟩ := declaredUserId_eq_some_iff.mp declared
            obtain rfl := Option.some.inj found
            exact .telegram readable declares
        | none =>
            obtain ⟨readable, undeclared⟩ := declaredUserId_eq_none_iff.mp declared
            obtain rfl := Option.some.inj found
            dsimp only
            split
            next absent => exact .anonymous readable undeclared absent
            next given => exact .key readable undeclared given
  · intro names
    cases names with
    | telegram readable declares =>
        rw [declaredUserId_eq_some_iff.mpr ⟨readable, declares⟩]
        rfl
    | key readable undeclared given =>
        rw [declaredUserId_eq_none_iff.mpr ⟨readable, undeclared⟩]
        exact congrArg some (if_neg given)
    | anonymous readable undeclared absent =>
        rw [declaredUserId_eq_none_iff.mpr ⟨readable, undeclared⟩]
        exact congrArg some (if_pos absent)

/-- There is no hyphen in a digest. -/
theorem Names.digits {site : Site} {request : Request} {identity : Identity}
    (names : Names site request identity) : '-' ∉ identity.digits := by
  cases names with
  | telegram => exact Identity.digits_telegram _
  | key =>
      intro member
      rw [Identity.digits, Site.keyDigest, truncate, String.toList_ofList] at member
      exact (hexdigest_plain _ _ (List.mem_of_mem_take member)).2.2.2.2 rfl
  | anonymous => exact List.not_mem_nil

/-- A signed-in request claims the identity of its user. -/
theorem Site.identity_of_signedIn {site : Site} {request : Request} {userId : Int}
    (signed : site.signedIn request = some userId) :
    site.identity request = some (.telegram userId) := by
  unfold Site.signedIn at signed
  obtain ⟨identity, accepted, rfl⟩ := Option.map_eq_some_iff.mp signed
  cases verified : verifyNested site.tooDeep site.hmac request.initData site.botToken
      site.maxAgeSeconds request.clock with
  | error exception =>
      rw [verified] at accepted
      cases accepted
  | ok other =>
      rw [verified] at accepted
      obtain rfl := Option.some.inj accepted
      unfold Site.identity
      rw [declaredUserId_of_accepted verified]
      rfl

/-! ## The guard as calls of the limiter -/

/-- The call of the limiter for a request, if its key can be read. -/
def Site.call? (site : Site) (arrival : Arrival Time) : Option (Call Time) :=
  (site.callerKey arrival.request).toOption.map fun key => ⟨key, arrival.time⟩

variable [AddCommGroup Time] [LinearOrder Time]

section

variable {site : Site} {limiter : RateLimiter Time}

theorem guardRails_none {arrival : Arrival Time} (called : site.call? arrival = none)
    (hits : Hits Time) (rest : List (Arrival Time)) :
    guardRails site limiter hits (arrival :: rest) =
      (arrival, false) :: guardRails site limiter hits rest := by
  unfold Site.call? at called
  rw [guardRails]
  cases keyed : site.callerKey arrival.request with
  | error exception => rfl
  | ok key =>
      rw [keyed] at called
      cases called

theorem guardRails_some {arrival : Arrival Time} {call : Call Time}
    (called : site.call? arrival = some call) (hits : Hits Time) (rest : List (Arrival Time)) :
    guardRails site limiter hits (arrival :: rest) = (arrival, (limiter.allow hits call).1) ::
      guardRails site limiter (limiter.allow hits call).2 rest := by
  unfold Site.call? at called
  rw [guardRails]
  cases keyed : site.callerKey arrival.request with
  | error exception =>
      rw [keyed] at called
      cases called
  | ok key =>
      rw [keyed] at called
      obtain rfl := Option.some.inj called
      rfl

theorem guardRails_map (hits : Hits Time) (arrivals : List (Arrival Time)) :
    (guardRails site limiter hits arrivals).map Prod.fst = arrivals := by
  induction arrivals generalizing hits with
  | nil => rfl
  | cons arrival rest inductionHypothesis =>
      cases called : site.call? arrival with
      | none =>
          rw [guardRails_none called]
          exact congrArg (arrival :: ·) (inductionHypothesis _)
      | some call =>
          rw [guardRails_some called]
          exact congrArg (arrival :: ·) (inductionHypothesis _)

theorem guardRails_append (hits : Hits Time) (first second : List (Arrival Time)) :
    guardRails site limiter hits (first ++ second) = guardRails site limiter hits first ++
      guardRails site limiter (limiter.after hits (first.filterMap site.call?)) second := by
  induction first generalizing hits with
  | nil => rfl
  | cons arrival first inductionHypothesis =>
      rw [List.cons_append]
      cases called : site.call? arrival with
      | none =>
          rw [guardRails_none called, guardRails_none called, List.filterMap_cons_none called]
          exact congrArg _ (inductionHypothesis _)
      | some call =>
          rw [guardRails_some called, guardRails_some called, List.filterMap_cons_some called]
          exact congrArg _ (inductionHypothesis _)

/-- The requests that are let through are the calls that are allowed. -/
theorem admittedWithin_guardRails (window moment : Time) (hits : Hits Time)
    (arrivals : List (Arrival Time)) :
    admittedWithin window moment (guardRails site limiter hits arrivals) =
      (limiter.history hits (arrivals.filterMap site.call?)).countP
        fun event => event.allowed && Within window moment event.time := by
  induction arrivals generalizing hits with
  | nil => rfl
  | cons arrival rest inductionHypothesis =>
      have rest := inductionHypothesis
      unfold admittedWithin at rest ⊢
      cases called : site.call? arrival with
      | none =>
          rw [guardRails_none called, List.filterMap_cons_none called,
            List.countP_cons_of_neg (by simp)]
          exact rest hits
      | some call =>
          have time : call.time = arrival.time := by
            obtain ⟨key, _, rfl⟩ := Option.map_eq_some_iff.mp called
            rfl
          rw [guardRails_some called, List.filterMap_cons_some called, RateLimiter.history,
            List.countP_cons, List.countP_cons, rest]
          simp only [RateLimiter.event, time]

omit [AddCommGroup Time] in
/-- The calls come in the order of the requests. -/
theorem calls_ordered {arrivals : List (Arrival Time)}
    (ordered : arrivals.Pairwise fun first second => first.time ≤ second.time) :
    (arrivals.filterMap site.call?).Pairwise fun first second => first.time ≤ second.time := by
  refine ordered.filterMap _ fun first second inOrder call called other otherCalled => ?_
  obtain ⟨key, _, rfl⟩ := Option.map_eq_some_iff.mp called
  obtain ⟨otherKey, _, rfl⟩ := Option.map_eq_some_iff.mp otherCalled
  exact inOrder

/-- The requests of one key are answered as they are alone, if no other request has their key and
nothing is cleaned up. -/
theorem guardRails_filter {mine : Arrival Time → Bool} (key : String)
    {arrivals : List (Arrival Time)} {hits alone : Hits Time}
    (own : ∀ arrival ∈ arrivals, mine arrival = true →
      site.call? arrival = some ⟨key, arrival.time⟩)
    (others : ∀ arrival ∈ arrivals, mine arrival = false → ∀ call,
      site.call? arrival = some call → call.key ≠ key)
    (kept : ∀ event ∈ limiter.history hits (arrivals.filterMap site.call?), event.cleaned = false)
    (same : alone.queue key = hits.queue key) (single : ∀ other ∈ alone.keys, other = key) :
    ((guardRails site limiter hits arrivals).filter fun item => mine item.1) =
      guardRails site limiter alone (arrivals.filter mine) := by
  induction arrivals generalizing hits alone with
  | nil => rfl
  | cons arrival rest inductionHypothesis =>
      have ownRest := fun other member => own other (List.mem_cons_of_mem _ member)
      have othersRest := fun other member => others other (List.mem_cons_of_mem _ member)
      cases chosen : mine arrival with
      | true =>
          have called := own arrival List.mem_cons_self chosen
          rw [List.filterMap_cons_some called] at kept
          have keeps := kept (limiter.event hits ⟨key, arrival.time⟩) List.mem_cons_self
          have small : limiter.cleans alone ⟨key, arrival.time⟩ = false :=
            RateLimiter.cleans_alone single
          obtain ⟨outcome, queues⟩ := RateLimiter.event_congr same keeps small
          have answer : (limiter.allow alone ⟨key, arrival.time⟩).1 =
              (limiter.allow hits ⟨key, arrival.time⟩).1 := congrArg Event.allowed outcome
          rw [List.filter_cons_of_pos chosen, guardRails_some called, guardRails_some called,
            List.filter_cons_of_pos (by simp [chosen]), answer]
          refine congrArg _ (inductionHypothesis ownRest othersRest
            (fun event member => kept event (List.mem_cons_of_mem _ member)) queues ?_)
          intro other member
          rcases RateLimiter.keys_allow member with new | old
          · exact new
          · exact single other old
      | false =>
          rw [List.filter_cons_of_neg (by simp [chosen])]
          cases called : site.call? arrival with
          | none =>
              rw [List.filterMap_cons_none called] at kept
              rw [guardRails_none called, List.filter_cons_of_neg (by simp [chosen])]
              exact inductionHypothesis ownRest othersRest kept same single
          | some call =>
              rw [List.filterMap_cons_some called] at kept
              rw [guardRails_some called, List.filter_cons_of_neg (by simp [chosen])]
              have keeps := kept (limiter.event hits call) List.mem_cons_self
              have different := others arrival List.mem_cons_self chosen call called
              exact inductionHypothesis ownRest othersRest
                (fun event member => kept event (List.mem_cons_of_mem _ member))
                (same.trans (RateLimiter.queue_of_ne keeps different.symm).symm) single

end

/-! ## Budgets of callers -/

/-- A request of a user who is signed in, behind a peer. -/
def Site.isOf (site : Site) (userId : Int) (peer : String) (request : Request) : Bool :=
  site.signedIn request = some userId && site.peer request = peer

/-- However the requests of a caller are sent, no window lets more of them through than the limit,
and they make no difference to a user who is signed in. -/
structure Contained (site : Site) (limiter : RateLimiter Time) (caller : Request → Prop) :
    Prop where
  budget : ∀ arrivals : List (Arrival Time),
    arrivals.Pairwise (fun first second => first.time ≤ second.time) →
    (∀ arrival ∈ arrivals, caller arrival.request) →
    ∀ moment, (admittedWithin limiter.window moment (guardRails site limiter ∅ arrivals) : Int) ≤
      limiter.limit
  undisturbed : ∀ (userId : Int) (peer : String) (arrivals : List (Arrival Time)),
    arrivals.Pairwise (fun first second => first.time ≤ second.time) →
    (∀ arrival ∈ arrivals, caller arrival.request ∨
      site.isOf userId peer arrival.request = true) →
    ((guardRails site limiter ∅ arrivals).filter fun item => site.isOf userId peer item.1.request) =
      guardRails site limiter ∅
        (arrivals.filter fun arrival => site.isOf userId peer arrival.request)

/-- Users can sign in: there is a token, and a session may be as old as clocks may differ. -/
def Site.SignsIn (site : Site) : Prop := site.botToken ≠ "" ∧ -30 ≤ site.maxAgeSeconds

/-- Some form declares the id. -/
def Site.Declarable (site : Site) (id : Int) : Prop :=
  ∃ initData, ReadableUser site.tooDeep initData ∧ Declares initData id

/-- The headers of a caller name one budget, and not that of a user. -/
structure OneBudget (site : Site) (caller : Request → Prop) : Prop where
  /-- Any two requests name the same. -/
  same : ∀ first second one two, caller first → caller second → Names site first one →
    Names site second two → SameName (site.peer first) one (site.peer second) two
  /-- Where users can sign in, no form declares an id and no peer spells one out. -/
  nobody : site.SignsIn → ∀ request, caller request →
    ReadableUser site.tooDeep request.initData →
      (∀ id, ¬Declares request.initData id) ∧
        (request.controlKey = "" → ∀ peer id, site.Declarable id →
          site.peer request ≠ peer ++ ":telegram-" ++ toString id)

/-- The requests of a caller have one key, which is that of no user who is signed in. -/
structure OneKey (site : Site) (caller : Request → Prop) : Prop where
  same : ∀ first second one two, caller first → caller second →
    site.identity first = some one → site.identity second = some two →
      site.peer first ++ one.suffix = site.peer second ++ two.suffix
  apart : ∀ first user one userId, caller first → site.identity first = some one →
    site.signedIn user = some userId →
      site.peer first ++ one.suffix ≠ site.peer user ++ Identity.suffix (.telegram userId)

/-- Who is signed in has declared the id, at a site where users can sign in. -/
theorem Site.declarable_of_signedIn {site : Site} {user : Request} {userId : Int}
    (signed : site.signedIn user = some userId) : site.SignsIn ∧ site.Declarable userId := by
  constructor
  · unfold Site.signedIn at signed
    obtain ⟨identity, accepted, -⟩ := Option.map_eq_some_iff.mp signed
    cases passes : checkedFields site.hmac user.initData site.botToken site.maxAgeSeconds
        user.clock with
    | error exception =>
        unfold verifyNested at accepted
        rw [passes] at accepted
        cases accepted
    | ok checked =>
        obtain ⟨-, -, late, early⟩ := checkedFields_ok passes
        refine ⟨fun unconfigured => ?_, by omega⟩
        unfold checkedFields at passes
        rw [if_pos (.inr unconfigured)] at passes
        cases passes
  · cases identity_eq_some_iff.mp (Site.identity_of_signedIn signed) with
    | telegram readable declares => exact ⟨user.initData, readable, declares⟩

/-- Where users can sign in, any id that can be declared is that of a user, behind any peer. -/
theorem Site.exists_signedIn {site : Site} (signsIn : site.SignsIn) {id : Int}
    (declarable : site.Declarable id) (peer : String) :
    ∃ user, site.signedIn user = some id ∧ site.peer user = peer := by
  obtain ⟨initData, readable, declares⟩ := declarable
  have signed : ReadableUser site.tooDeep (sealed site.hmac site.botToken (dated initData)) := by
    unfold ReadableUser
    rw [user_sealed]
    exact readable
  obtain ⟨identity, accepted, same⟩ := verifyInitData_dated site.digests signsIn.1 signsIn.2
    readable declares
  refine ⟨⟨some peer, "", sealed site.hmac site.botToken (dated initData), "", 1000⟩, ?_, ?_⟩
  · rw [Site.signedIn, verifyNested_of_readable signed, accepted, ← same]
    rfl
  · have empty : strip ((split ',' "").headD "") = "" := by decide +kernel
    unfold Site.peer
    dsimp only
    rw [empty, ite_self, if_pos rfl, Option.getD_some]

/-- The condition on the headers is one on the keys. -/
theorem oneBudget_iff {site : Site} {caller : Request → Prop} :
    OneBudget site caller ↔ OneKey site caller := by
  constructor
  · intro budget
    refine ⟨fun first second one two sends sendsSecond claims claimsSecond => ?_,
      fun first user one userId sends claims signed same => ?_⟩
    · have names := identity_eq_some_iff.mp claims
      have namesSecond := identity_eq_some_iff.mp claimsSecond
      exact (sameName_iff names.digits namesSecond.digits).mp
        (budget.same first second one two sends sendsSecond names namesSecond)
    · obtain ⟨signsIn, declarable⟩ := Site.declarable_of_signedIn signed
      cases identity_eq_some_iff.mp claims with
      | telegram readable declares =>
          exact (budget.nobody signsIn first sends readable).1 _ declares
      | key readable undeclared given =>
          have names : Names site first _ := .key readable undeclared given
          rcases (sameName_iff names.digits (Identity.digits_telegram userId)).mpr same with
            ⟨-, same⟩ | ⟨same, -⟩ | ⟨same, -⟩ <;> cases same
      | anonymous readable undeclared absent =>
          refine (budget.nobody signsIn first sends readable).2 absent (site.peer user) userId
            declarable ?_
          rw [String.append_assoc]
          exact String.append_empty.symm.trans same
  · intro key
    refine ⟨fun first second one two sends sendsSecond names namesSecond => ?_,
      fun signsIn request sends readable => ?_⟩
    · exact (sameName_iff names.digits namesSecond.digits).mpr (key.same first second one two sends
        sendsSecond (identity_eq_some_iff.mpr names) (identity_eq_some_iff.mpr namesSecond))
    · have undeclared : ∀ id, ¬Declares request.initData id := by
        intro id declares
        obtain ⟨user, signed, peer⟩ := Site.exists_signedIn signsIn
          ⟨request.initData, readable, declares⟩ (site.peer request)
        refine key.apart request user (.telegram id) id sends
          (identity_eq_some_iff.mpr (.telegram readable declares)) signed ?_
        rw [peer]
      refine ⟨undeclared, fun absent peer id declarable spelled => ?_⟩
      obtain ⟨user, signed, same⟩ := Site.exists_signedIn signsIn declarable peer
      refine key.apart request user .anonymous id sends
        (identity_eq_some_iff.mpr (.anonymous readable undeclared absent)) signed ?_
      have empty : ∀ text : String, text ++ Identity.anonymous.suffix = text := fun _ =>
        String.append_empty
      rw [same, spelled, empty, String.append_assoc]
      rfl

section

variable {site : Site} {limiter : RateLimiter Time}

omit [AddCommGroup Time] [LinearOrder Time]

/-- The call for a request that claims an identity. -/
theorem call?_of_identity {request : Request} {identity : Identity}
    (claims : site.identity request = some identity) (time : Time) :
    site.call? ⟨request, time⟩ = some ⟨site.peer request ++ identity.suffix, time⟩ := by
  unfold Site.call?
  rw [Site.callerKey_eq, claims]
  rfl

/-- A request with a call claims an identity. -/
theorem identity_of_call? {arrival : Arrival Time} {call : Call Time}
    (called : site.call? arrival = some call) :
    ∃ identity, site.identity arrival.request = some identity ∧
      call = ⟨site.peer arrival.request ++ identity.suffix, arrival.time⟩ := by
  unfold Site.call? at called
  rw [Site.callerKey_eq] at called
  obtain ⟨key, keyed, rfl⟩ := Option.map_eq_some_iff.mp called
  obtain ⟨identity, claims, rfl⟩ := Option.map_eq_some_iff.mp keyed
  exact ⟨identity, claims, rfl⟩

/-- All requests that have a key have the same. -/
theorem OneKey.key {caller : Request → Prop} (one : OneKey site caller) :
    ∃ key, ∀ request identity, caller request → site.identity request = some identity →
      site.peer request ++ identity.suffix = key := by
  by_cases any : ∃ request identity, caller request ∧ site.identity request = some identity
  · obtain ⟨request, identity, sends, claims⟩ := any
    exact ⟨site.peer request ++ identity.suffix, fun other second otherSends otherClaims =>
      one.same other request second identity otherSends sends otherClaims claims⟩
  · exact ⟨"", fun request identity sends claims => absurd ⟨request, identity, sends, claims⟩ any⟩

end

/-- The calls of one key that are allowed in a window are no more than the limit. -/
theorem budget_of_key [IsOrderedAddMonoid Time] {limiter : RateLimiter Time}
    (positive : 0 < limiter.limit) {calls : List (Call Time)}
    (ordered : calls.Pairwise fun first second => first.time ≤ second.time) (key : String)
    (own : ∀ call ∈ calls, call.key = key) (moment : Time) :
    (((limiter.history ∅ calls).countP fun event =>
      event.allowed && Within limiter.window moment event.time) : Int) ≤ limiter.limit := by
  obtain ⟨start, starts⟩ := RateLimiter.exists_start ordered
  obtain ⟨last, accounted, _⟩ := (Accounted.initial limiter start).run positive ordered starts
  have bounded := accounted.bounded key moment
  have kept : cleanings (limiter.history ∅ calls) = [] := by
    unfold cleanings
    rw [List.map_eq_nil_iff, List.filter_eq_nil_iff]
    intro event member
    have keeps := RateLimiter.kept_of_few positive ordered [key] (by simp)
      (fun call among => List.mem_singleton.mpr (own call among)) event member
    simp [keeps]
  have same : ((limiter.history ∅ calls).countP fun event =>
      event.allowed && Within limiter.window moment event.time) =
        countWithin limiter.window moment (admitted key (limiter.history ∅ calls)) := by
    unfold countWithin admitted
    rw [List.countP_map, List.countP_filter]
    apply List.countP_congr
    intro event member
    simp [own event.toCall (RateLimiter.mem_calls member), and_comm]
  rw [List.nil_append, kept, countWithin_nil] at bounded
  rw [same]
  omega

/-- At one time, calls that are all allowed are all in the window. -/
theorem countP_of_allowed {window time : Time} [IsOrderedAddMonoid Time] (lasting : 0 ≤ window)
    {events : List (Event Time)} (allowed : ∀ event ∈ events, event.allowed = true)
    (now : ∀ event ∈ events, event.time = time) :
    (events.countP fun event => event.allowed && Within window time event.time) =
      events.length := by
  apply List.countP_eq_length.mpr
  intro event member
  have here : Within window time time := ⟨sub_le_self time lasting, le_rfl⟩
  simp [allowed event member, now event member, here]

section

variable [IsOrderedAddMonoid Time] {site : Site} {limiter : RateLimiter Time}
  {caller : Request → Prop}

/-- A caller with one key is contained. -/
theorem OneKey.contained (positive : 0 < limiter.limit)
    (one : OneKey site caller) : Contained site limiter caller := by
  obtain ⟨key, keyed⟩ := one.key
  refine ⟨fun arrivals ordered sent moment => ?_, fun userId peer arrivals ordered sent => ?_⟩
  · rw [admittedWithin_guardRails]
    refine budget_of_key positive (calls_ordered ordered) key (fun call member => ?_) moment
    obtain ⟨arrival, among, called⟩ := List.mem_filterMap.mp member
    obtain ⟨identity, claims, rfl⟩ := identity_of_call? called
    exact keyed _ _ (sent arrival among) claims
  · by_cases present : ∃ arrival ∈ arrivals, site.isOf userId peer arrival.request = true
    · obtain ⟨mine, among, isMine⟩ := present
      have isOf_spec : ∀ request, site.isOf userId peer request = true →
          site.signedIn request = some userId ∧ site.peer request = peer := by
        intro request isOf
        simpa [Site.isOf] using isOf
      obtain ⟨signed, samePeer⟩ := isOf_spec mine.request isMine
      have own : ∀ arrival ∈ arrivals, site.isOf userId peer arrival.request = true →
          site.call? arrival = some ⟨peer ++ Identity.suffix (.telegram userId), arrival.time⟩ := by
        intro arrival _ isOf
        obtain ⟨signed, samePeer⟩ := isOf_spec arrival.request isOf
        rw [call?_of_identity (Site.identity_of_signedIn signed), samePeer]
      have others : ∀ arrival ∈ arrivals, site.isOf userId peer arrival.request = false →
          ∀ call, site.call? arrival = some call →
            call.key = key ∧ call.key ≠ peer ++ Identity.suffix (.telegram userId) := by
        intro arrival among isOf call called
        obtain ⟨identity, claims, rfl⟩ := identity_of_call? called
        have sends := (sent arrival among).resolve_right (by simp [isOf])
        refine ⟨keyed _ _ sends claims, fun same => ?_⟩
        refine one.apart _ mine.request _ userId sends claims signed ?_
        rw [samePeer]
        exact same
      refine guardRails_filter _ own (fun arrival among isOf call called =>
        (others arrival among isOf call called).2) ?_ rfl (by simp)
      refine RateLimiter.kept_of_few positive (calls_ordered ordered)
        [key, peer ++ Identity.suffix (.telegram userId)] (by simp) fun call member => ?_
      obtain ⟨arrival, among, called⟩ := List.mem_filterMap.mp member
      cases isOf : site.isOf userId peer arrival.request with
      | true =>
          obtain rfl := Option.some.inj ((own arrival among isOf).symm.trans called)
          simp
      | false => simp [(others arrival among isOf call called).1]
    · have none : (arrivals.filter fun arrival => site.isOf userId peer arrival.request) = [] := by
        rw [List.filter_eq_nil_iff]
        exact fun arrival among isOf => present ⟨arrival, among, isOf⟩
      rw [none, List.filter_eq_nil_iff.mpr]
      · rfl
      · intro item member isOf
        have among := List.mem_map_of_mem (f := Prod.fst) member
        rw [guardRails_map] at among
        exact present ⟨item.1, among, isOf⟩

omit [AddCommGroup Time] [IsOrderedAddMonoid Time] in
theorem arrivals_ordered (time : Time) {arrivals : List (Arrival Time)}
    (now : ∀ arrival ∈ arrivals, arrival.time = time) :
    arrivals.Pairwise fun first second => first.time ≤ second.time :=
  List.pairwise_of_forall_mem_list fun first among second later => by
    rw [now first among, now second later]

/-- Requests at one time are all let through, if none of their keys comes more often than the
limit. -/
theorem admittedWithin_burst (positive : 0 < limiter.limit) (lasting : 0 ≤ limiter.window)
    {arrivals : List (Arrival Time)} {time : Time}
    (now : ∀ arrival ∈ arrivals, arrival.time = time)
    (few : ∀ key, (((arrivals.filterMap site.call?).countP fun call => call.key = key) : Int) ≤
      limiter.limit) :
    admittedWithin limiter.window time (guardRails site limiter ∅ arrivals) =
      (arrivals.filterMap site.call?).length := by
  rw [admittedWithin_guardRails, countP_of_allowed lasting, ← List.length_map Event.toCall,
    RateLimiter.history_map]
  · exact RateLimiter.allowed_of_few positive (calls_ordered (arrivals_ordered _ now)) few
  · intro event member
    obtain ⟨arrival, among, called⟩ := List.mem_filterMap.mp (RateLimiter.mem_calls member)
    obtain ⟨identity, _, same⟩ := identity_of_call? called
    have time := congrArg Call.time same
    exact time.trans (now arrival among)

/-- A caller with two keys gets more through than the limit. -/
theorem Contained.one (positive : 0 < limiter.limit) (lasting : 0 ≤ limiter.window)
    (contained : Contained site limiter caller) {first second : Request} {one two : Identity}
    (sends : caller first) (claims : site.identity first = some one) (sendsSecond : caller second)
    (claimsSecond : site.identity second = some two) :
    site.peer first ++ one.suffix = site.peer second ++ two.suffix := by
  by_contra different
  obtain ⟨limit, value⟩ := Int.eq_ofNat_of_zero_le positive.le
  have shape : ∀ arrival ∈ List.replicate limit (⟨first, 0⟩ : Arrival Time) ++
      List.replicate limit ⟨second, 0⟩, arrival = ⟨first, 0⟩ ∨ arrival = ⟨second, 0⟩ := by
    intro arrival member
    exact (List.mem_append.mp member).imp List.eq_of_mem_replicate List.eq_of_mem_replicate
  have now : ∀ arrival ∈ List.replicate limit (⟨first, 0⟩ : Arrival Time) ++
      List.replicate limit ⟨second, 0⟩, arrival.time = 0 := by
    intro arrival member
    rcases shape arrival member with rfl | rfl <;> rfl
  have sent : ∀ arrival ∈ List.replicate limit (⟨first, 0⟩ : Arrival Time) ++
      List.replicate limit ⟨second, 0⟩, caller arrival.request := by
    intro arrival member
    rcases shape arrival member with rfl | rfl
    · exact sends
    · exact sendsSecond
  have calls : (List.replicate limit (⟨first, 0⟩ : Arrival Time) ++
      List.replicate limit (⟨second, 0⟩ : Arrival Time)).filterMap site.call? =
        List.replicate limit (⟨site.peer first ++ one.suffix, 0⟩ : Call Time) ++
          List.replicate limit (⟨site.peer second ++ two.suffix, 0⟩ : Call Time) := by
    rw [List.filterMap_append, List.filterMap_replicate_of_some (call?_of_identity claims 0),
      List.filterMap_replicate_of_some (call?_of_identity claimsSecond 0)]
  have bound := contained.budget _ (arrivals_ordered _ now) sent 0
  rw [admittedWithin_burst positive lasting now, calls, List.length_append,
    List.length_replicate, List.length_replicate] at bound
  · omega
  · intro key
    rw [calls, List.countP_append, List.countP_replicate, List.countP_replicate]
    dsimp only
    by_cases here : site.peer first ++ one.suffix = key
    · have apart : ¬site.peer second ++ two.suffix = key := fun there =>
        different (here.trans there.symm)
      simp [here, apart, value]
    · simp only [here, decide_false, Bool.false_eq_true, ↓reduceIte]
      split_ifs <;> omega

/-- A caller with the key of a user uses up their budget. -/
theorem Contained.apart (positive : 0 < limiter.limit) (lasting : 0 ≤ limiter.window)
    (contained : Contained site limiter caller) {first user : Request} {one : Identity}
    (unsigned : site.signedIn first = none)
    (sends : caller first) (claims : site.identity first = some one) {userId : Int}
    (signed : site.signedIn user = some userId) :
    site.peer first ++ one.suffix ≠ site.peer user ++ Identity.suffix (.telegram userId) := by
  intro same
  obtain ⟨limit, value⟩ := Int.eq_ofNat_of_zero_le positive.le
  have called : site.call? (⟨user, 0⟩ : Arrival Time) =
      some ⟨site.peer first ++ one.suffix, 0⟩ := by
    rw [call?_of_identity (Site.identity_of_signedIn signed), same]
  have shape : ∀ arrival ∈ List.replicate limit (⟨first, 0⟩ : Arrival Time) ++ [⟨user, 0⟩],
      arrival = ⟨first, 0⟩ ∨ arrival = ⟨user, 0⟩ := by
    intro arrival member
    exact (List.mem_append.mp member).imp List.eq_of_mem_replicate List.mem_singleton.mp
  have isOf : site.isOf userId (site.peer user) user = true := by simp [Site.isOf, signed]
  have isNot : site.isOf userId (site.peer user) first = false := by simp [Site.isOf, unsigned]
  have undisturbed := contained.undisturbed userId (site.peer user)
    (List.replicate limit ⟨first, 0⟩ ++ [⟨user, 0⟩])
    (arrivals_ordered 0 fun arrival member => by
      rcases shape arrival member with rfl | rfl <;> rfl)
    fun arrival member => by
      rcases shape arrival member with rfl | rfl
      · exact .inl sends
      · exact .inr isOf
  have silent : ((guardRails site limiter ∅ (List.replicate limit ⟨first, 0⟩)).filter fun item =>
      site.isOf userId (site.peer user) item.1.request) = [] := by
    rw [List.filter_eq_nil_iff]
    intro item member
    have among := List.mem_map_of_mem (f := Prod.fst) member
    rw [guardRails_map] at among
    rw [List.eq_of_mem_replicate among]
    simp [isNot]
  rw [guardRails_append, List.filter_append, silent, List.nil_append, guardRails_some called,
    List.filter_cons_of_pos (by simpa using isOf), List.filter_append,
    List.filter_replicate_of_neg (by simp [isNot]), List.nil_append,
    List.filter_cons_of_pos (by simpa using isOf), List.filter_nil, guardRails_some called,
    List.filterMap_replicate_of_some (call?_of_identity claims 0)] at undisturbed
  let call : Call Time := ⟨site.peer first ++ one.suffix, 0⟩
  have fresh : (limiter.allow ∅ call).1 = true := by
    rw [(RateLimiter.allow_new positive call (by simp)).1]
  have last : (limiter.allow (limiter.after ∅ (List.replicate limit call)) call).1 = true :=
    (congrArg Prod.snd (List.cons.inj undisturbed).1).trans fresh
  have now : ∀ other ∈ List.replicate limit call ++ [call], other = call := by
    intro other member
    exact (List.mem_append.mp member).elim List.eq_of_mem_replicate List.mem_singleton.mp
  have ordered : ∀ calls : List (Call Time), (∀ other ∈ calls, other = call) →
      calls.Pairwise fun first second => first.time ≤ second.time := by
    intro calls own
    refine List.pairwise_of_forall_mem_list fun one among two later => ?_
    rw [own one among, own two later]
  have allowed : ∀ event ∈ limiter.history ∅ (List.replicate limit call ++ [call]),
      event.allowed = true := by
    intro event member
    rw [RateLimiter.history_append] at member
    rcases List.mem_append.mp member with old | new
    · refine RateLimiter.allowed_of_few positive
        (ordered _ fun other => List.eq_of_mem_replicate) (fun key => ?_) event old
      rw [List.countP_replicate]
      split_ifs <;> omega
    · rw [List.mem_singleton.mp new]
      exact last
  have bound := budget_of_key positive (ordered _ now) call.key
    (fun other member => by rw [now other member]) 0
  rw [countP_of_allowed lasting allowed, ← List.length_map Event.toCall, RateLimiter.history_map,
    List.length_append, List.length_replicate, List.length_singleton] at bound
  · omega
  · exact fun event member => congrArg Call.time (now _ (RateLimiter.mem_calls member))

/-- Under a limit that is in force, a caller whose requests are not signed in is contained exactly
if their headers name one budget, and not that of a user. -/
theorem contained_iff (site : Site) (limiter : RateLimiter Time) (positive : 0 < limiter.limit)
    (lasting : 0 ≤ limiter.window) (caller : Request → Prop)
    (unsigned : ∀ request, caller request → site.signedIn request = none) :
    Contained site limiter caller ↔ OneBudget site caller := by
  rw [oneBudget_iff]
  constructor
  · intro contained
    refine ⟨fun first second one two sends sendsSecond claims claimsSecond => ?_,
      fun first user one userId sends claims signed => ?_⟩
    · exact contained.one positive lasting sends claims sendsSecond claimsSecond
    · exact contained.apart positive lasting (unsigned first sends) sends claims signed
  · exact fun one => one.contained positive

end

/-- The digest of the control key `secret`; other messages are not digested in the samples. -/
def sampleDigest (message : List UInt8) : List UInt8 :=
  if message = encode "secret" then
    [0x2b, 0xb8, 0x0d, 0x53, 0x7b, 0x1d, 0xa3, 0xe3, 0x8b, 0xd3, 0x03, 0x61, 0xaa, 0x85, 0x56, 0x86,
      0xbd, 0xe0, 0xea, 0xcd, 0x71, 0x62, 0xfe, 0xf6, 0xa2, 0x5f, 0xe9, 0x7b, 0xf5, 0x27, 0xa2, 0x5b]
  else List.replicate 32 0

/-- A site without a proxy. -/
def sampleSite : Site where
  trustProxy := false
  tooDeep _ := false
  sha256 := sampleDigest
  hmac _ _ := List.replicate 32 0
  digests _ _ := by decide
  botToken := "token"
  maxAgeSeconds := 3600

/-- A machine behind a peer, which sends its control key and no init data. -/
def machine (request : Request) : Prop :=
  request.client = some "10.0.0.1" ∧ request.initData = "" ∧ request.controlKey = "secret"

/-- However it forges the addresses of proxies, a machine has the budget of its control key. -/
theorem contained_iff_machine :
    Contained sampleSite (⟨2, 60⟩ : RateLimiter Int) machine := by
  have undeclared : ∀ id, ¬Declares "" id := by
    rintro id ⟨text, user, value, found, -⟩
    have none' : FormText.get (FormText.dict (FormText.parseQsl "")) "user" = none := by
      decide +kernel
    cases none'.symm.trans found
  refine (contained_iff sampleSite ⟨2, 60⟩ (by decide) (by decide) machine ?_).mpr ⟨?_, ?_⟩
  · rintro request ⟨-, empty, -⟩
    have refused : verifyNested sampleSite.tooDeep sampleSite.hmac "" sampleSite.botToken
        sampleSite.maxAgeSeconds request.clock =
          .error (.telegram "Telegram authentication unavailable") := rfl
    rw [Site.signedIn, empty, refused]
    rfl
  · rintro first second one two ⟨client, empty, keyed⟩ ⟨otherClient, otherEmpty, otherKeyed⟩ names
      otherNames
    have peer : sampleSite.peer first = sampleSite.peer second := by
      simp [Site.peer, sampleSite, client, otherClient]
    cases names with
    | telegram _ declares => exact absurd (empty ▸ declares) (undeclared _)
    | anonymous _ _ absent => exact absurd (keyed.symm.trans absent) (by decide)
    | key =>
        cases otherNames with
        | telegram _ declares => exact absurd (otherEmpty ▸ declares) (undeclared _)
        | anonymous _ _ absent => exact absurd (otherKeyed.symm.trans absent) (by decide)
        | key =>
            refine .inl ⟨peer, ?_⟩
            rw [Site.keyDigest, Site.keyDigest, keyed, otherKeyed]
  · rintro - request ⟨-, empty, keyed⟩ -
    rw [empty, keyed]
    exact ⟨undeclared, fun absent => absurd absent (by decide)⟩

/-- A request with init data that nobody has signed. -/
def declaring (id : String) : Request :=
  ⟨some "10.0.0.1", "", Sample.initText "" id, "", 1000⟩

/-- Another unsigned id has another budget. -/
theorem contained_fails :
    ¬∀ (site : Site) (limiter : RateLimiter Int) (caller : Request → Prop),
      0 < limiter.limit → 0 ≤ limiter.window →
      (∀ request, caller request → site.signedIn request = none) →
      Contained site limiter caller := by
  intro contained
  have unsigned : ∀ request, request = declaring "1" ∨ request = declaring "2" →
      sampleSite.signedIn request = none := by
    intro request sent
    rcases sent with rfl | rfl <;> decide +kernel
  have bound := (contained sampleSite ⟨1, 60⟩ _ (by decide) (by decide) unsigned).budget
    [⟨declaring "1", 0⟩, ⟨declaring "2", 0⟩] (by simp) (by simp) 0
  have both : admittedWithin 60 0 (guardRails sampleSite (⟨1, 60⟩ : RateLimiter Int) ∅
      [⟨declaring "1", 0⟩, ⟨declaring "2", 0⟩]) = 2 := by
    decide +kernel
  rw [both] at bound
  exact absurd bound (by decide)

end Guards

end ControlPlane
