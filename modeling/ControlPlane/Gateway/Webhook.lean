import Mathlib.Logic.Function.Basic
import Mathlib.Logic.Relation
import Mathlib.Tactic.Common

/-!
# The webhook gateway

Telegram delivers updates to a webhook, and delivers an update again when it got
no timely answer. A request sets a key for the id of its update, writes the
update to the stream that the consumer reads, and deletes the key when the write
fails. These are separate Redis commands: requests interleave between them, and
a process may stop at any of them. The keys expire after a day; the runs here
are those within a day.
-/

namespace ControlPlane

namespace Gateway

/-- A Telegram update as the gateway reads it. -/
structure Update where
  /-- `str(update.get("update_id", ""))`. -/
  updateId : String
  /-- `json.dumps(update)`. -/
  text : String
  deriving DecidableEq

/-- What a request is answered with. -/
inductive Response
  | ok
  | duplicate
  | error (status : Nat) (detail : String)
  deriving DecidableEq

/-- Telegram takes the update as delivered. -/
def Response.Succeeds : Response → Prop
  | .ok | .duplicate => True
  | .error _ _ => False

/-- A request handler, with one constructor for each Redis command it awaits. -/
inductive Handler
  | respond (response : Response)
  /-- `SET key 1 EX 86400 NX`; the continuation learns whether the key was set. -/
  | set (key : String) (next : Bool → Handler)
  /-- `XADD telegram_updates`, which may raise. -/
  | xadd (entry : Update) (written raised : Handler)
  | delete (key : String) (next : Handler)

/-- The key that stands for an update id. -/
def dedupe (updateId : String) : String := "tg:update:" ++ updateId

/-- The exception of the stream write is raised again, once the key is deleted. -/
def withdraw (update : Update) : Handler :=
  .delete (dedupe update.updateId) (.respond (.error 500 "Internal Server Error"))

/-- Write the update to the stream. -/
def enqueue (update : Update) : Handler := .xadd update (.respond .ok) (withdraw update)

/-- `POST /telegram/webhook`. -/
def webhook (secret token : String) (update : Update) : Handler :=
  if secret = "" then .respond (.error 401 "invalid webhook secret")
  -- `compare_digest` takes ASCII texts only.
  else if (secret.toList ++ token.toList).any fun character => 128 ≤ character.toNat then
    .respond (.error 500 "Internal Server Error")
  else if secret ≠ token then .respond (.error 401 "invalid webhook secret")
  else if update.updateId = "" then .respond (.error 422 "missing update_id")
  else .set (dedupe update.updateId) fun fresh =>
    if fresh then enqueue update else .respond .duplicate

/-- A running request. -/
structure Request where
  update : Update
  rest : Handler

/-- Redis and the running requests; `ι` names the requests, of which any number may run. -/
structure World (ι : Type) where
  /-- The keys that are set. -/
  keys : List String
  /-- Everything that was ever written to the stream, oldest first. -/
  stream : List Update
  requests : ι → Option Request
  /-- Every answer so far, oldest first. -/
  answers : List (Update × Response)

/-- Before the first delivery. -/
def initial {ι : Type} : World ι := ⟨[], [], fun _ => none, []⟩

/-- What happens to a request. -/
inductive Action (ι : Type)
  | delivers (request : ι)
  | sets (request : ι)
  | writes (request : ι)
  | raises (request : ι)
  | deletes (request : ι)
  | answers (request : ι)
  | crashes (request : ι)

namespace World

variable {ι : Type} [DecidableEq ι]

/-- Replace one request. -/
def put (world : World ι) (request : ι) (current : Option Request) : World ι :=
  { world with requests := Function.update world.requests request current }

/-- One command of one request. A write that raises was not performed. -/
inductive Step (secret : String) (world : World ι) : Action ι → World ι → Prop
  | delivers (request : ι) (token : String) (update : Update) : world.requests request = none →
      Step secret world (.delivers request)
        (world.put request (some ⟨update, webhook secret token update⟩))
  | sets (request : ι) (update key next) :
      world.requests request = some ⟨update, .set key next⟩ → key ∉ world.keys →
      Step secret world (.sets request)
        { (world.put request (some ⟨update, next true⟩)) with keys := world.keys ++ [key] }
  | finds (request : ι) (update key next) :
      world.requests request = some ⟨update, .set key next⟩ → key ∈ world.keys →
      Step secret world (.sets request) (world.put request (some ⟨update, next false⟩))
  | writes (request : ι) (update entry written raised) :
      world.requests request = some ⟨update, .xadd entry written raised⟩ →
      Step secret world (.writes request)
        { (world.put request (some ⟨update, written⟩)) with stream := world.stream ++ [entry] }
  | raises (request : ι) (update entry written raised) :
      world.requests request = some ⟨update, .xadd entry written raised⟩ →
      Step secret world (.raises request) (world.put request (some ⟨update, raised⟩))
  | deletes (request : ι) (update key next) :
      world.requests request = some ⟨update, .delete key next⟩ →
      Step secret world (.deletes request)
        { (world.put request (some ⟨update, next⟩)) with
          keys := world.keys.filter fun other => other ≠ key }
  | answers (request : ι) (update response) :
      world.requests request = some ⟨update, .respond response⟩ →
      Step secret world (.answers request)
        { (world.put request none) with answers := world.answers ++ [(update, response)] }
  /-- The process of a request stops. -/
  | crashes (request : ι) : Step secret world (.crashes request) (world.put request none)

/-- The worlds that finitely many permitted commands lead to. -/
def Reachable (secret : String) (Permits : World ι → Action ι → Prop) (world : World ι) : Prop :=
  Relation.ReflTransGen
    (fun world next => ∃ action, Permits world action ∧ Step secret world action next) initial world

/-- An update that Telegram takes as delivered, that was never written, and that no request is
going to write any more. -/
def Lost (world : World ι) (updateId : String) : Prop :=
  (∃ answer ∈ world.answers, answer.1.updateId = updateId ∧ answer.2.Succeeds) ∧
    (∀ entry ∈ world.stream, entry.updateId ≠ updateId) ∧
    ∀ request current, world.requests request = some current →
      current.update.updateId ≠ updateId

end World

end Gateway

end ControlPlane
