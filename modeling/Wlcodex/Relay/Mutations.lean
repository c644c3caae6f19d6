import Wlcodex.Lib.JsonRoundTrip
import Wlcodex.Lib.Keyed
import Wlcodex.Lib.Run
import Wlcodex.Relay.Vocabulary

namespace Wlcodex.Relay

open Wlcodex.Lib

/-! `MutationStore`: one durable record for each idempotency key. -/

def normalizeIdempotencyKey (value : String) : Except String String :=
  let key := strip value
  if key = "" then .ok ""
  else if 200 < key.length then .error "Idempotency-Key is too long"
  else if key.toList.any fun char => char.toNat < 33 ∨ 126 < char.toNat then
    .error "Idempotency-Key contains unsupported characters"
  else .ok key

inductive MutationStatus where
  | inProgress
  | completed
  deriving DecidableEq, Repr

/-- A row of `relay_mutation_idempotency`. -/
structure MutationRow where
  idempotencyKey : String
  operation : String
  taskId : Option Int
  requestFingerprint : String
  status : MutationStatus
  responseStatus : Option Int
  responseJson : List Char
  createdAt : String
  updatedAt : String
  deriving DecidableEq

structure MutationRequest where
  key : String
  operation : String
  taskId : Option Int
  payload : JsonDocument

inductive MutationOutcome where
  | claimed
  | conflict
  | completed
  | inProgress
  deriving DecidableEq, Repr

structure RelayMutationClaim where
  key : String
  status : MutationOutcome
  operation : String
  taskId : Option Int
  responseStatus : Option Int := none
  responsePayload : Option (List (String × Json)) := none
  error : String := ""

abbrev MutationStore := Keyed MutationRow.idempotencyKey

/-- The canonical encoding of `_json_fingerprint`. -/
def canonicalEncoding (payload : JsonDocument) : List Char :=
  Json.write .compact payload.value.sortKeys

def decodePayload (raw : List Char) : List (String × Json) :=
  if raw = [] then []
  else
    match Json.loads raw with
    | some (.object members) => members
    | _ => []

namespace MutationStore

variable (sha256 : List Char → String)

def jsonFingerprint (payload : JsonDocument) : String := sha256 (canonicalEncoding payload)

def newRow (key operation : String) (request : MutationRequest) (now : String) : MutationRow :=
  { idempotencyKey := key, operation, taskId := request.taskId
    requestFingerprint := jsonFingerprint sha256 request.payload, status := .inProgress
    responseStatus := none, responseJson := [], createdAt := now, updatedAt := now }

def Conflicts (row : MutationRow) (operation : String) (request : MutationRequest) : Prop :=
  row.operation ≠ operation ∨
    (row.taskId ≠ request.taskId ∧
      ¬ (operation = "relay.task.create" ∧ request.taskId = none ∧ row.taskId ≠ none)) ∨
    row.requestFingerprint ≠ jsonFingerprint sha256 request.payload

instance (row : MutationRow) (operation : String) (request : MutationRequest) :
    Decidable (Conflicts sha256 row operation request) := by
  unfold Conflicts
  infer_instance

/-- What `claim` answers where the key has a row. -/
def answer (row : MutationRow) (key operation : String) (request : MutationRequest) :
    RelayMutationClaim :=
  if Conflicts sha256 row operation request then
    { key, status := .conflict, operation, taskId := request.taskId
      error := "Idempotency-Key cannot be reused for a different mutation" }
  else
    match row.status with
    | .completed =>
        { key, status := .completed, operation, taskId := row.taskId
          -- `or 200`: an absent status and a zero are both replaced
          responseStatus := some (if row.responseStatus.getD 0 = 0 then 200
            else row.responseStatus.getD 0)
          responsePayload := some (decodePayload row.responseJson) }
    | .inProgress =>
        { key, status := .inProgress, operation, taskId := row.taskId
          error := "Mutation is still being processed; retry this same key shortly." }

/-- `claim`.  A blank key claims nothing. -/
def claim (store : MutationStore) (request : MutationRequest) (now : String) :
    Except String (Option RelayMutationClaim × MutationStore) := do
  let key ← normalizeIdempotencyKey request.key
  if key = "" then return (none, store)
  let operation := strip request.operation
  if operation = "" then throw "mutation operation is required"
  match store.find? key with
  | none =>
      match store.insert? (newRow sha256 key operation request now) with
      | none => throw "UNIQUE constraint failed"
      | some next =>
          return (some { key, status := .claimed, operation, taskId := request.taskId }, next)
  | some row => return (some (answer sha256 row key operation request), store)

def bindTask (store : MutationStore) (key : String) (taskId : Int) (now : String) : MutationStore :=
  store.update (fun row => row.idempotencyKey = key ∧ row.status = .inProgress)
    ⟨fun row => { row with taskId := some taskId, updatedAt := now }, fun _ => rfl⟩

/-- `complete`.  It finds the row whatever its status. -/
def complete (store : MutationStore) (key : String) (status : Int) (payload : JsonObject)
    (now : String) : MutationStore :=
  store.update (fun row => row.idempotencyKey = key)
    ⟨fun row =>
      { row with
        status := .completed
        responseStatus := some status
        responseJson := Json.write .spaced (Json.object payload.members).sortKeys
        updatedAt := now }, fun _ => rfl⟩

def abandon (store : MutationStore) (key : String) : MutationStore :=
  store.erase fun row => row.idempotencyKey = key ∧ row.status = .inProgress

end MutationStore

inductive MutationOp where
  | claim (request : MutationRequest) (now : String)
  | bindTask (key : String) (taskId : Int) (now : String)
  | complete (key : String) (status : Int) (payload : JsonObject) (now : String)
  | abandon (key : String)

def MutationStore.step (sha256 : List Char → String) (store : MutationStore) :
    MutationOp → MutationStore
  | .claim request now =>
      match store.claim sha256 request now with
      | .ok (_, next) => next
      | .error _ => store
  | .bindTask key taskId now => store.bindTask key taskId now
  | .complete key status payload now => store.complete key status payload now
  | .abandon key => store.abandon key

def MutationStore.after (sha256 : List Char → String) (ops : List MutationOp) : MutationStore :=
  ops.foldl (MutationStore.step sha256) Keyed.empty

end Wlcodex.Relay
