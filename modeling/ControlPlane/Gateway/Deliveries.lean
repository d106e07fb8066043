import ControlPlane.Gateway.Webhook
import Mathlib.Data.List.Nodup

/-!
# No update is written twice, and when none is lost

The key of an update is held by at most one request, from the moment it was set
until the request wrote the update or deleted the key. So nothing is written
twice. An update is lost only when a request takes somebody else's key for a
delivery: the other request may still fail to write, or may have stopped.
-/

namespace ControlPlane

namespace Gateway

/-- Different update ids have different keys. -/
theorem dedupe_injective {first second : String} (same : dedupe first = dedupe second) :
    first = second := by
  have chars := congrArg String.toList same
  unfold dedupe at chars
  rw [String.toList_append, String.toList_append] at chars
  exact String.toList_injective (List.append_cancel_left chars)

/-- What remains of a webhook request, step by step. -/
inductive Stage (update : Update) : Handler → Prop
  | setting : Stage update (.set (dedupe update.updateId) fun fresh =>
      if fresh then enqueue update else .respond .duplicate)
  | writing : Stage update (enqueue update)
  | withdrawing : Stage update (withdraw update)
  | responding (response : Response) : Stage update (.respond response)

/-- Awaits the stream write or the deletion of the key. -/
def Handler.holding : Handler → Bool
  | .xadd _ _ _ | .delete _ _ => true
  | .respond _ | .set _ _ => false

/-- Is about to write to the stream. -/
def Handler.writing : Handler → Bool
  | .xadd _ _ _ => true
  | .respond _ | .set _ _ | .delete _ _ => false

/-- Is about to tell Telegram that the update is delivered. -/
def Handler.Succeeding : Handler → Prop
  | .respond response => response.Succeeds
  | .set _ _ | .xadd _ _ _ | .delete _ _ => False

/-- A request starts by setting the key of its update, or answers at once with an error. -/
theorem webhook_starts (secret token : String) (update : Update) :
    Stage update (webhook secret token update) ∧
      (webhook secret token update).holding = false ∧
      ¬(webhook secret token update).Succeeding := by
  unfold webhook
  split
  · exact ⟨.responding _, rfl, id⟩
  · split
    · exact ⟨.responding _, rfl, id⟩
    · split
      · exact ⟨.responding _, rfl, id⟩
      · split
        · exact ⟨.responding _, rfl, id⟩
        · exact ⟨.setting, rfl, id⟩

/-- A request that set the key of its update, and neither wrote the update nor deleted the
key. -/
def Request.Holds (updateId : String) (current : Request) : Prop :=
  current.update.updateId = updateId ∧ current.rest.holding = true

namespace World

variable {ι : Type} [DecidableEq ι] {secret : String} {world next : World ι}

@[simp] theorem put_self (request : ι) (current : Option Request) :
    (world.put request current).requests request = current :=
  Function.update_self ..

theorem put_of_ne {request other : ι} (current : Option Request) (different : other ≠ request) :
    (world.put request current).requests other = world.requests other :=
  Function.update_of_ne different ..

/-- The requests after a step are the one that moved, and the others. -/
theorem put_cases {request other : ι} {current : Option Request} {found : Request}
    (present : (world.put request current).requests other = some found) :
    (other = request ∧ current = some found) ∨
      (other ≠ request ∧ world.requests other = some found) := by
  by_cases same : other = request
  · subst same
    exact .inl ⟨rfl, (put_self ..).symm.trans present⟩
  · exact .inr ⟨same, (put_of_ne current same).symm.trans present⟩

/-- What every run keeps: who holds a key, and what a written update says about its key. -/
structure Exclusive (world : World ι) : Prop where
  stage : ∀ request current, world.requests request = some current →
    Stage current.update current.rest
  held : ∀ request current updateId, world.requests request = some current →
    current.Holds updateId → dedupe updateId ∈ world.keys ∧
      ∀ entry ∈ world.stream, entry.updateId ≠ updateId
  alone : ∀ first second left right updateId, world.requests first = some left →
    world.requests second = some right → left.Holds updateId → right.Holds updateId →
      first = second
  queued : ∀ entry ∈ world.stream, dedupe entry.updateId ∈ world.keys
  nodup : (world.stream.map Update.updateId).Nodup

namespace Exclusive

omit [DecidableEq ι] in
theorem initial : Exclusive (initial : World ι) where
  stage _ _ := by rintro ⟨⟩
  held _ _ _ := by rintro ⟨⟩
  alone _ _ _ _ _ := by rintro ⟨⟩
  queued _ := by rintro ⟨⟩
  nodup := List.nodup_nil

/-- A request goes on without taking a key. -/
theorem put (exclusive : Exclusive world) (request : ι) (current : Option Request)
    (stage : ∀ found, current = some found → Stage found.update found.rest)
    (holds : ∀ found updateId, current = some found → found.Holds updateId →
      ∃ before, world.requests request = some before ∧ before.Holds updateId) :
    Exclusive (world.put request current) where
  stage other found present := by
    rcases put_cases present with ⟨rfl, same⟩ | ⟨_, before⟩
    · exact stage found same
    · exact exclusive.stage other found before
  held other found updateId present holding := by
    rcases put_cases present with ⟨rfl, same⟩ | ⟨_, before⟩
    · obtain ⟨earlier, running, held⟩ := holds found updateId same holding
      exact exclusive.held other earlier updateId running held
    · exact exclusive.held other found updateId before holding
  alone first second left right updateId foundLeft foundRight holdsLeft holdsRight := by
    have earlier : ∀ {other : ι} {found : Request},
        (world.put request current).requests other = some found → found.Holds updateId →
          ∃ before, world.requests other = some before ∧ before.Holds updateId := by
      intro other found present holding
      rcases put_cases present with ⟨rfl, same⟩ | ⟨_, before⟩
      · exact holds found updateId same holding
      · exact ⟨found, before, holding⟩
    obtain ⟨_, runningLeft, heldLeft⟩ := earlier foundLeft holdsLeft
    obtain ⟨_, runningRight, heldRight⟩ := earlier foundRight holdsRight
    exact exclusive.alone first second _ _ updateId runningLeft runningRight heldLeft heldRight
  queued := exclusive.queued
  nodup := exclusive.nodup

/-- Each command keeps the keys exclusive. -/
theorem step {action : Action ι} (exclusive : Exclusive world)
    (step : Step secret world action next) : Exclusive next := by
  cases step with
  | delivers request token update idle =>
      obtain ⟨stage, idles, _⟩ := webhook_starts secret token update
      refine exclusive.put request _ ?_ ?_
      · rintro _ ⟨⟩
        exact stage
      · rintro _ updateId ⟨⟩ ⟨_, holding⟩
        cases idles.symm.trans holding
  | sets request update key rest running absent =>
      have stage : Stage update (.set key rest) := exclusive.stage request _ running
      cases stage with
      | setting =>
          have nobody : ∀ other found, world.requests other = some found →
              ¬found.Holds update.updateId := fun other found before holding =>
            absent (exclusive.held other found _ before holding).1
          refine ⟨?_, ?_, ?_, ?_, exclusive.nodup⟩
          · intro other found present
            rcases put_cases present with ⟨rfl, ⟨⟩⟩ | ⟨_, before⟩
            · exact .writing
            · exact exclusive.stage other found before
          · intro other found updateId present holding
            rcases put_cases present with ⟨rfl, ⟨⟩⟩ | ⟨_, before⟩
            · obtain ⟨rfl, _⟩ := holding
              refine ⟨List.mem_append_right _ List.mem_cons_self, fun entry member same => ?_⟩
              exact absent (same ▸ exclusive.queued entry member)
            · obtain ⟨held, unwritten⟩ := exclusive.held other found updateId before holding
              exact ⟨List.mem_append_left _ held, unwritten⟩
          · intro first second left right updateId foundLeft foundRight holdsLeft holdsRight
            rcases put_cases foundLeft with ⟨rfl, ⟨⟩⟩ | ⟨_, beforeLeft⟩
            · rcases put_cases foundRight with ⟨rfl, _⟩ | ⟨_, beforeRight⟩
              · rfl
              · exact absurd (holdsLeft.1 ▸ holdsRight) (nobody second right beforeRight)
            · rcases put_cases foundRight with ⟨rfl, ⟨⟩⟩ | ⟨_, beforeRight⟩
              · exact absurd (holdsRight.1 ▸ holdsLeft) (nobody first left beforeLeft)
              · exact exclusive.alone first second left right updateId beforeLeft beforeRight
                  holdsLeft holdsRight
          · exact fun entry member => List.mem_append_left _ (exclusive.queued entry member)
  | finds request update key rest running present =>
      have stage : Stage update (.set key rest) := exclusive.stage request _ running
      cases stage with
      | setting =>
          refine exclusive.put request _ ?_ ?_
          · rintro _ ⟨⟩
            exact .responding .duplicate
          · rintro _ updateId ⟨⟩ ⟨_, ⟨⟩⟩
  | writes request update entry written raised running =>
      have stage : Stage update (.xadd entry written raised) := exclusive.stage request _ running
      cases stage with
      | writing =>
          have holds : Request.Holds update.updateId ⟨update, enqueue update⟩ := ⟨rfl, rfl⟩
          obtain ⟨held, unwritten⟩ := exclusive.held request _ _ running holds
          have kept := exclusive.put request (some ⟨update, .respond .ok⟩)
            (by rintro _ ⟨⟩; exact .responding .ok) (by rintro _ _ ⟨⟩ ⟨_, ⟨⟩⟩)
          refine ⟨kept.stage, ?_, kept.alone, ?_, ?_⟩
          · intro other found updateId present holding
            refine ⟨(kept.held other found updateId present holding).1, fun entry member => ?_⟩
            rcases List.mem_append.mp member with old | new
            · exact (kept.held other found updateId present holding).2 entry old
            · rw [List.mem_singleton.mp new]
              rintro rfl
              rcases put_cases present with ⟨rfl, ⟨⟩⟩ | ⟨different, before⟩
              · cases holding.2
              · exact different (exclusive.alone other request _ _ _ before running holding holds)
          · intro entry member
            rcases List.mem_append.mp member with old | new
            · exact exclusive.queued entry old
            · rw [List.mem_singleton.mp new]
              exact held
          · rw [List.map_append]
            refine List.nodup_append'.mpr ⟨exclusive.nodup, List.nodup_singleton _, ?_⟩
            intro updateId old new
            obtain ⟨entry, member, same⟩ := List.mem_map.mp old
            exact unwritten entry member (same.trans (List.mem_singleton.mp new))
  | raises request update entry written raised running =>
      have stage : Stage update (.xadd entry written raised) := exclusive.stage request _ running
      cases stage with
      | writing =>
          refine exclusive.put request _ ?_ ?_
          · rintro _ ⟨⟩
            exact .withdrawing
          · rintro _ updateId ⟨⟩ ⟨same, _⟩
            exact ⟨_, running, same, rfl⟩
  | deletes request update key rest running =>
      have stage : Stage update (.delete key rest) := exclusive.stage request _ running
      cases stage with
      | withdrawing =>
          have holds : Request.Holds update.updateId ⟨update, withdraw update⟩ := ⟨rfl, rfl⟩
          obtain ⟨_, unwritten⟩ := exclusive.held request _ _ running holds
          have kept := exclusive.put request
            (some ⟨update, .respond (.error 500 "Internal Server Error")⟩)
            (by rintro _ ⟨⟩; exact .responding _) (by rintro _ _ ⟨⟩ ⟨_, ⟨⟩⟩)
          have remains : ∀ {updateId : String}, updateId ≠ update.updateId →
              dedupe updateId ∈ world.keys → dedupe updateId ∈ world.keys.filter fun other =>
                other ≠ dedupe update.updateId := by
            intro updateId different member
            refine List.mem_filter.mpr ⟨member, decide_eq_true fun same => ?_⟩
            exact different (dedupe_injective same)
          refine ⟨kept.stage, ?_, kept.alone, ?_, kept.nodup⟩
          · intro other found updateId present holding
            obtain ⟨held, absent⟩ := kept.held other found updateId present holding
            refine ⟨remains ?_ held, absent⟩
            rintro rfl
            rcases put_cases present with ⟨rfl, ⟨⟩⟩ | ⟨different, before⟩
            · cases holding.2
            · exact different (exclusive.alone other request _ _ _ before running holding holds)
          · exact fun entry member => remains (unwritten entry member)
              (exclusive.queued entry member)
  | answers request update response running =>
      have kept := exclusive.put request none (by rintro _ ⟨⟩) (by rintro _ _ ⟨⟩)
      exact ⟨kept.stage, kept.held, kept.alone, kept.queued, kept.nodup⟩
  | crashes request => exact exclusive.put request none (by rintro _ ⟨⟩) (by rintro _ _ ⟨⟩)

end Exclusive

/-- No update is written to the stream twice, whatever fails. -/
theorem Exclusive.reachable {Permits : World ι → Action ι → Prop}
    (reached : Reachable secret Permits world) : Exclusive world := by
  induction reached with
  | refl => exact .initial
  | tail _ last inductionHypothesis =>
      obtain ⟨_, _, taken⟩ := last
      exact inductionHypothesis.step taken

/-! ## Updates that are not lost -/

/-- Telegram takes the update as delivered, or is about to be told so. -/
def Trusted (world : World ι) (updateId : String) : Prop :=
  (∃ answer ∈ world.answers, answer.1.updateId = updateId ∧ answer.2.Succeeds) ∨
    ∃ request current, world.requests request = some current ∧
      current.update.updateId = updateId ∧ current.rest.Succeeding

/-- The update is in the stream, or a request is about to write it. -/
def Promised (world : World ι) (updateId : String) : Prop :=
  (∃ entry ∈ world.stream, entry.updateId = updateId) ∨
    ∃ request current, world.requests request = some current ∧
      current.update.updateId = updateId ∧ current.rest.writing = true

/-- A request takes the key of its update for a delivery only when the update is in the stream
or about to be written; and a request that set the key neither stops before its write, nor has
the write fail, once another request took the key for a delivery. -/
def Careful (world : World ι) : Action ι → Prop
  | .sets request => ∀ current, world.requests request = some current →
      dedupe current.update.updateId ∈ world.keys → world.Promised current.update.updateId
  | .raises request | .crashes request => ∀ current, world.requests request = some current →
      current.rest.writing = true → ¬world.Trusted current.update.updateId
  | _ => True

/-- Whatever Telegram takes as delivered is in the stream or about to be written. -/
def Faithful (world : World ι) : Prop :=
  ∀ updateId, world.Trusted updateId → world.Promised updateId

section

variable {request : ι} {current : Option Request} {updateId : String}

/-- Another request, or the same one, tells Telegram what it was about to. -/
theorem trusted_put (silent : ∀ found, current = some found → found.update.updateId = updateId →
      ¬found.rest.Succeeding) (trusted : (world.put request current).Trusted updateId) :
    world.Trusted updateId := by
  rcases trusted with answered | ⟨other, found, present, same, succeeding⟩
  · exact .inl answered
  · rcases put_cases present with ⟨_, moved⟩ | ⟨_, before⟩
    · exact absurd succeeding (silent found moved same)
    · exact .inr ⟨other, found, before, same, succeeding⟩

/-- The other requests still write what they were about to. -/
theorem promised_put (kept : ∀ found, world.requests request = some found →
      found.rest.writing = true → found.update.updateId ≠ updateId)
    (promised : world.Promised updateId) : (world.put request current).Promised updateId := by
  rcases promised with written | ⟨other, found, present, same, writing⟩
  · exact .inl written
  · have different : other ≠ request := by
      rintro rfl
      exact kept found present writing same
    exact .inr ⟨other, found, (put_of_ne current different).trans present, same, writing⟩

end

/-- Each careful command keeps what Telegram was told. -/
theorem Faithful.step {action : Action ι} (faithful : Faithful world) (exclusive : Exclusive world)
    (careful : Careful world action) (step : Step secret world action next) : Faithful next := by
  intro updateId trusted
  cases step with
  | delivers request token update idle =>
      refine promised_put (by rw [idle]; rintro _ ⟨⟩) (faithful updateId (trusted_put ?_ trusted))
      rintro _ ⟨⟩ _
      exact (webhook_starts secret token update).2.2
  | sets request update key rest running absent =>
      have stage : Stage update (.set key rest) := exclusive.stage request _ running
      cases stage with
      | setting =>
          have before : world.Trusted updateId :=
            trusted_put (by rintro _ ⟨⟩ _; exact id) trusted
          exact promised_put (by rw [running]; rintro _ ⟨⟩ ⟨⟩) (faithful updateId before)
  | finds request update key rest running present =>
      have stage : Stage update (.set key rest) := exclusive.stage request _ running
      cases stage with
      | setting =>
          refine promised_put (by rw [running]; rintro _ ⟨⟩ ⟨⟩) ?_
          by_cases same : update.updateId = updateId
          · subst same
            exact careful _ running present
          · refine faithful updateId (trusted_put ?_ trusted)
            rintro _ ⟨⟩ own
            exact absurd own same
  | writes request update entry written raised running =>
      have stage : Stage update (.xadd entry written raised) := exclusive.stage request _ running
      cases stage with
      | writing =>
          by_cases same : update.updateId = updateId
          · exact .inl ⟨update, List.mem_append_right _ List.mem_cons_self, same⟩
          · have before : world.Trusted updateId :=
              trusted_put (by rintro _ ⟨⟩ own; exact absurd own same) trusted
            have promised : (world.put request (some ⟨update, .respond .ok⟩)).Promised updateId :=
              promised_put (by rw [running]; rintro _ ⟨⟩ _; exact same) (faithful updateId before)
            rcases promised with ⟨entry, member, own⟩ | waiting
            · exact .inl ⟨entry, List.mem_append_left _ member, own⟩
            · exact .inr waiting
  | raises request update entry written raised running =>
      have stage : Stage update (.xadd entry written raised) := exclusive.stage request _ running
      cases stage with
      | writing =>
          have before : world.Trusted updateId :=
            trusted_put (by rintro _ ⟨⟩ _; exact id) trusted
          refine promised_put ?_ (faithful updateId before)
          rw [running]
          rintro _ ⟨⟩ _ rfl
          exact careful _ running rfl before
  | deletes request update key rest running =>
      have stage : Stage update (.delete key rest) := exclusive.stage request _ running
      cases stage with
      | withdrawing =>
          have before : world.Trusted updateId :=
            trusted_put (by rintro _ ⟨⟩ _; exact id) trusted
          exact promised_put (by rw [running]; rintro _ ⟨⟩ ⟨⟩) (faithful updateId before)
  | answers request update response running =>
      refine promised_put (by rw [running]; rintro _ ⟨⟩ ⟨⟩) (faithful updateId ?_)
      rcases trusted with ⟨answer, member, same, succeeds⟩ | waiting
      · rcases List.mem_append.mp member with old | new
        · exact .inl ⟨answer, old, same, succeeds⟩
        · rw [List.mem_singleton.mp new] at same succeeds
          exact .inr ⟨request, _, running, same, succeeds⟩
      · exact trusted_put (by rintro _ ⟨⟩) (.inr waiting)
  | crashes request =>
      have before : world.Trusted updateId := trusted_put (by rintro _ ⟨⟩) trusted
      refine promised_put ?_ (faithful updateId before)
      rintro found running writing rfl
      exact careful found running writing before

/-- In every run of careful commands, no update that Telegram takes as delivered is lost, and
none is written twice. -/
theorem updates_delivered (reached : Reachable secret Careful world) :
    (∀ updateId, ¬world.Lost updateId) ∧ (world.stream.map Update.updateId).Nodup := by
  refine ⟨?_, (Exclusive.reachable reached).nodup⟩
  have faithful : Faithful world := by
    induction reached with
    | refl =>
        rintro updateId (⟨_, ⟨⟩, _⟩ | ⟨_, _, ⟨⟩, _⟩)
    | tail early last inductionHypothesis =>
        obtain ⟨_, careful, taken⟩ := last
        exact inductionHypothesis.step (.reachable early) careful taken
  rintro updateId ⟨answered, unwritten, finished⟩
  rcases faithful updateId (.inl answered) with ⟨entry, member, same⟩ |
    ⟨request, current, running, same, _⟩
  · exact unwritten entry member same
  · exact finished request current running same

omit [DecidableEq ι] in
/-- With the secret of the gateway, an update with an id is accepted. -/
theorem webhook_accepts (update : Update) (named : update.updateId ≠ "") :
    webhook "secret" "secret" update = .set (dedupe update.updateId) fun fresh =>
      if fresh then enqueue update else .respond .duplicate := by
  unfold webhook
  rw [if_neg (by decide), if_neg (by decide +kernel), if_neg (by decide), if_neg named]

/-- One more permitted command. -/
theorem Reachable.then {Permits : World ι → Action ι → Prop} {action : Action ι}
    (reached : Reachable secret Permits world) (step : Step secret world action next)
    (permitted : Permits world action) : Reachable secret Permits next :=
  reached.tail ⟨action, permitted, step⟩

/-- A request that Telegram delivered and that set the key of its update. -/
theorem reachable_holding (Permits : World ℕ → Action ℕ → Prop) (update : Update)
    (named : update.updateId ≠ "") (delivers : Permits Gateway.initial (.delivers 0))
    (sets : ∀ world : World ℕ, world.keys = [] → Permits world (.sets 0)) :
    Reachable "secret" Permits { (initial.put 0 (some ⟨update, enqueue update⟩) : World ℕ) with
      keys := [dedupe update.updateId] } := by
  have first : Reachable "secret" Permits
      (initial.put 0 (some ⟨update, webhook "secret" "secret" update⟩)) :=
    Reachable.then .refl (.delivers 0 "secret" update rfl) delivers
  rw [webhook_accepts update named] at first
  have second := first.then (.sets 0 update _ _ rfl List.not_mem_nil) (sets _ rfl)
  unfold put at second ⊢
  rwa [Function.update_idem] at second

/-- The update of a message. -/
def message : Update := ⟨"5004", "\x7b\"update_id\":5004\x7d"⟩

/-- An update that is written before it is delivered again is not lost. -/
theorem updates_delivered_again :
    ∃ world : World ℕ, world.stream = [message] ∧
      world.answers = [(message, .ok), (message, .duplicate)] ∧
      (∀ updateId, ¬world.Lost updateId) ∧ (world.stream.map Update.updateId).Nodup := by
  have named : message.updateId ≠ "" := by decide
  have holding := reachable_holding Careful message named trivial
    (by intro world unset current _ member; rw [unset] at member; cases member)
  have written := holding.then (.writes 0 message message _ _ rfl) trivial
  have answered := written.then (.answers 0 message .ok rfl) trivial
  have delivered := answered.then (.delivers 1 "secret" message rfl) trivial
  rw [webhook_accepts message named] at delivered
  have found := delivered.then (.finds 1 message _ _ rfl List.mem_cons_self)
    (by rintro current ⟨⟩ _; exact .inl ⟨message, List.mem_cons_self, rfl⟩)
  have last := found.then (.answers 1 message .duplicate rfl) trivial
  exact ⟨_, rfl, rfl, updates_delivered last⟩

/-- An update is delivered twice at the same time. The second request is answered as a duplicate
of the first, whose write fails. -/
theorem updates_delivered_fails :
    ¬∀ world : World ℕ, Reachable "secret" (fun _ _ => True) world →
      (∀ updateId, ¬world.Lost updateId) ∧ (world.stream.map Update.updateId).Nodup := by
  intro claimed
  have named : message.updateId ≠ "" := by decide
  have holding := reachable_holding (fun _ _ => True) message named trivial
    fun _ _ => trivial
  have delivered := holding.then (.delivers 1 "secret" message rfl) trivial
  rw [webhook_accepts message named] at delivered
  have found := delivered.then (.finds 1 message _ _ rfl List.mem_cons_self) trivial
  have answered := found.then (.answers 1 message .duplicate rfl) trivial
  have raised := answered.then (.raises 0 message message _ _ rfl) trivial
  have deleted := raised.then (.deletes 0 message _ _ rfl) trivial
  have last := deleted.then (.answers 0 message _ rfl) trivial
  refine (claimed _ last).1 message.updateId ⟨?_, ?_, ?_⟩
  · exact ⟨(message, .duplicate), List.mem_cons_self, rfl, trivial⟩
  · exact fun entry member => absurd member List.not_mem_nil
  · intro request current running
    exfalso
    by_cases first : request = 0
    · subst first
      cases running
    · by_cases second : request = 1
      · subst second
        cases running
      · rw [put_of_ne none first, put_of_ne _ first, put_of_ne _ first, put_of_ne none second,
          put_of_ne _ second, put_of_ne _ second] at running
        cases (put_of_ne _ first).symm.trans running

end World

end Gateway

end ControlPlane
