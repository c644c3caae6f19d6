import Mathlib.Data.Prod.Lex
import Mathlib.Order.BooleanAlgebra.Basic
import Wlcodex.Claude.StreamParser
import Wlcodex.Timeline.Table

namespace Wlcodex.Timeline

open Wlcodex.Claude (startsWith)
open Wlcodex.Relay (Dict)

/-! The writes of `NativeTimelineStore`, each one commit. -/

inductive EventType where
  | userMessageReceived
  | providerRawFrame
  | providerDisplayDelta
  | modelTextDelta
  | providerDisplayCompleted
  | modelMessageCompleted
  | modelReasoningDelta
  | agentRunQueued
  | agentRunStarted
  | agentRunActivity
  | agentRunHeartbeat
  | agentRunWaitingForApproval
  | agentRunCompleted
  | agentRunFailed
  | agentRunTimedOut
  | agentRunOrphaned
  | runCompleted
  | runFailed
  | runCancelled
  | approvalRequested
  | approvalResolved
  | approvalExpired
  | commandStarted
  | commandOutputDelta
  | commandCompleted
  | commandFailed
  | other (name : String)
  deriving DecidableEq

inductive EventKind where
  | userMessage
  | textDelta
  | messageCompleted
  | reasoningDelta
  | activity
  | lifecycle
  | approvalRequested
  | approvalResolved
  | commandStarted
  | commandOutput
  | commandCompleted
  | commandFailed
  deriving DecidableEq

structure EventRow where
  provider : String
  nativeThreadId : String
  sequence : Nat
  itemRowId : Option Nat
  runtimeEventId : Nat
  eventType : EventType
  kind : EventKind
  payload : Dict

structure TimelineStore where
  items : ItemTable
  events : List EventRow

namespace TimelineStore

def empty : TimelineStore := ⟨.empty, []⟩

end TimelineStore

/-- The arguments of `_upsert_item`. -/
structure ItemWrite where
  key : RowKey
  role : ItemRole
  kind : ItemKind
  text : String
  status : String
  payload : Dict
  sourcePriority : Nat
  mergeLocal : Bool := false

namespace ItemWrite

def fresh (write : ItemWrite) : Cells where
  role := write.role
  kind := write.kind
  text := write.text
  status := write.status
  sourcePriority := write.sourcePriority
  payload := write.payload
  lastSequence := 0

def rewritten (write : ItemWrite) (cells : Cells) : Cells where
  role := write.role
  kind := write.kind
  text := write.text
  status := write.status
  sourcePriority := max cells.sourcePriority write.sourcePriority
  payload := write.payload
  lastSequence := cells.lastSequence

def merged (write : ItemWrite) (cells : Cells) : Cells :=
  { cells with
    kind := write.kind
    status := write.status
    payload := write.payload
    sourcePriority := write.sourcePriority }

def Yields (write : ItemWrite) (face : Face) : Prop :=
  (face.sourcePriority > write.sourcePriority ∧ face.status = "completed") ∨
    (face.sourcePriority > write.sourcePriority ∧ write.status ≠ "streaming")

instance (write : ItemWrite) (face : Face) : Decidable (write.Yields face) := by
  unfold Yields
  infer_instance

end ItemWrite

namespace ItemTable

variable (table : ItemTable)

def pendingLocal? (key : RowKey) (text : String) : Option ItemRow :=
  (table.rows.rows.filter fun row =>
    row.key.provider = key.provider ∧ row.key.nativeThreadId = key.nativeThreadId ∧
      row.role = .user ∧ row.status = "pending" ∧ row.text = text).argmax ItemRow.id

def upsertItem (write : ItemWrite) : Option (ItemTable × Nat) :=
  match if write.mergeLocal ∧ write.role = .user then table.pendingLocal? write.key write.text else none with
  | some row => (table.rekey? row.id write.key write.merged).map fun next => (next, row.id)
  | none =>
      match table.find? write.key with
      | none => (table.insert? write.key write.fresh).map fun next => (next, table.nextId)
      | some row =>
          if write.Yields row.toFace then some (table, row.id)
          else some (table.update (fun other => other.id = row.id) write.rewritten, row.id)

def isJsonlAssistantFinalItemKey (itemKey : String) : Bool :=
  startsWith itemKey "jsonl-assistant-final:"

/-- `item_key LIKE 'jsonl-assistant-final:%'`: letters of either case. -/
def likeJsonlAssistantFinal (itemKey : String) : Bool :=
  "jsonl-assistant-final:".toList.isPrefixOf (itemKey.toList.map Char.toLower)

def rank (transcript : String → Bool) (row : ItemRow) : Lex (Bool × Lex (Natᵒᵈ × Nat)) :=
  toLex (transcript row.key.itemKey, toLex (OrderDual.toDual row.sourcePriority, row.id))

def IsCompletedMessage (face : Face) : Prop := face.kind = .message ∧ face.status = "completed"

instance (face : Face) : Decidable (IsCompletedMessage face) := by
  unfold IsCompletedMessage
  infer_instance

def findCompletedMessageByTurnText (key : RowKey) (text : String) : Option ItemRow :=
  if key.turnKey = "" ∨ text = "" then none
  else
    (table.rows.rows.filter fun row =>
      row.key.provider = key.provider ∧ row.key.nativeThreadId = key.nativeThreadId ∧
        row.key.turnKey = key.turnKey ∧ IsCompletedMessage row.toFace ∧ row.text = text).argmin
      (rank likeJsonlAssistantFinal)

def messageSuppressed (cells : Cells) : Cells :=
  { cells with kind := .messageSuppressed, status := "superseded" }

def suppressConversationItem (id : Nat) : ItemTable :=
  table.update (fun row => row.id = id) messageSuppressed

/-- The rows that `suppress_duplicate_completed_messages` reads. -/
def completedMessages (provider nativeThreadId : String) : List ItemRow :=
  table.rows.rows.filter fun row =>
    row.key.provider = provider ∧ row.key.nativeThreadId = nativeThreadId ∧
      IsCompletedMessage row.toFace ∧ row.key.turnKey ≠ "" ∧ row.text ≠ ""

def group (row : ItemRow) : String × String := (row.key.turnKey, row.text)

def duplicateIdsOf (rows : List ItemRow) : List Nat :=
  if rows.length < 2 then []
  else
    match rows.argmin (rank isJsonlAssistantFinalItemKey) with
    | none => []
    | some preferred => (rows.filter fun row => row.id ≠ preferred.id).map ItemRow.id

def duplicateIds (rows : List ItemRow) : List Nat :=
  (rows.map group).dedup.flatMap fun name => duplicateIdsOf (rows.filter fun row => group row = name)

def chunks (ids : List Nat) : List (List Nat) :=
  (List.range ((ids.length + 499) / 500)).map fun index => (ids.drop (500 * index)).take 500

def suppressChunk (chunk : List Nat) : ItemTable :=
  table.update (fun row => row.id ∈ chunk) messageSuppressed

def suppressDuplicateCompletedMessages (provider nativeThreadId : String) :
    ItemTable :=
  (chunks (duplicateIds (table.completedMessages provider nativeThreadId))).foldl suppressChunk table

def failedTurnStatuses : List String :=
  ["failed", "error", "cancelled", "canceled", "interrupted", "aborted", "timed_out", "timeout", "orphaned"]

def IsFailedLifecycle (face : Face) : Prop := face.kind = .lifecycle ∧ face.status ∈ failedTurnStatuses

instance (face : Face) : Decidable (IsFailedLifecycle face) := by
  unfold IsFailedLifecycle
  infer_instance

def lifecycleSuppressed (cells : Cells) : Cells :=
  { cells with kind := .lifecycleSuppressed, status := "superseded" }

def suppressFailedLifecycleForCompletedTurn (key : RowKey) : ItemTable :=
  if key.turnKey = "" then table
  else
    table.update
      (fun row =>
        row.key.provider = key.provider ∧ row.key.nativeThreadId = key.nativeThreadId ∧
          row.key.turnKey = key.turnKey ∧ IsFailedLifecycle row.toFace)
      lifecycleSuppressed

def completedMessageForTurnExists (provider nativeThreadId turnKey : String) : Bool :=
  turnKey ≠ "" ∧ table.rows.rows.any fun row =>
    row.key.provider = provider ∧ row.key.nativeThreadId = nativeThreadId ∧
      row.key.turnKey = turnKey ∧ IsCompletedMessage row.toFace

end ItemTable

namespace TimelineStore

def eventsOf (store : TimelineStore) (provider nativeThreadId : String) : List EventRow :=
  store.events.filter fun event => event.provider = provider ∧ event.nativeThreadId = nativeThreadId

def nextSequence (store : TimelineStore) (provider nativeThreadId : String) : Nat :=
  ((store.eventsOf provider nativeThreadId).map EventRow.sequence).foldr max 0 + 1

def touched (sequence : Nat) (cells : Cells) : Cells :=
  { cells with lastSequence := max cells.lastSequence sequence }

def appendEvent (store : TimelineStore) (provider nativeThreadId : String) (itemRowId : Option Nat)
    (runtimeEventId : Nat) (eventType : EventType) (kind : EventKind) (payload : Dict) : TimelineStore :=
  let sequence := store.nextSequence provider nativeThreadId
  { items :=
      match itemRowId with
      | none => store.items
      | some id => store.items.update (fun row => row.id = id) (touched sequence)
    events :=
      { provider, nativeThreadId, sequence, itemRowId, runtimeEventId, eventType, kind, payload } ::
        store.events }

end TimelineStore

end Wlcodex.Timeline
