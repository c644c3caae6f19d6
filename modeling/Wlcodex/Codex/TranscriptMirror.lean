import Wlcodex.Codex.Transcript
import Wlcodex.Relay.StreamReplay
import Wlcodex.Runtime.Redaction

namespace Wlcodex.Codex

open Wlcodex.Lib
open Wlcodex.Claude (startsWith)
open Wlcodex.Relay (Dict firstTruthy isSpace str)
open Wlcodex.Relay.StreamState (correctedPayload isText)
open Wlcodex.Runtime (WordClass redactPayload)
open Wlcodex.Timeline (EventType)

/-! `CodexSessionTranscriptMirror.sync_thread` for one thread. -/

/-- A row of `runtime_events` of the session's agent run. -/
structure StoredEvent where
  eventType : EventType
  payload : Dict

/-- What `_dedupe_key` takes the SHA-256 of; the payload is its sorted JSON text. -/
structure EventKey where
  eventType : EventType
  turnId : String
  itemId : String
  payload : List Char
  deriving DecidableEq

def maxPayloadStringLength : Nat := 10000

structure Mirror where
  file : Bytes := []
  tailLines : Nat
  maxBytes : Nat
  seenItemIds : List String := []
  seenEventKeys : List EventKey := []
  /-- Whether the agent run is in `_loaded_seen_agent_run_ids`. -/
  keysLoaded : Bool := false
  /-- The events of the agent run, the oldest first. -/
  events : List StoredEvent := []
  /-- The rows whose item was written as a message event, with that item. -/
  written : List (Nat × TranscriptItem) := []

namespace Mirror

def fresh (tailLines maxBytes : Int) : Mirror where
  tailLines := max 1 tailLines.toNat
  maxBytes := max 1024 maxBytes.toNat

def rows (mirror : Mirror) : List Bytes := splitlines mirror.file

end Mirror

section Python

variable (words : WordClass) (builtins : Builtins)

def sortedText (payload : Dict) : List Char := Json.write .compact (.sortKeys (.object payload))

def dedupeKey (eventType : EventType) (turnId : String) (payload : Dict) : EventKey where
  eventType := eventType
  turnId := turnId
  itemId := builtins.plainText (payload.getOrNull "itemId")
  payload := sortedText (redactPayload words (some maxPayloadStringLength) payload)

def rawFields (rawKind : String) (payload : Dict) : Dict :=
  [("raw_kind", .string rawKind), ("raw_payload_hash", .string (String.ofList (sortedText payload)))]

def rawKey (turnId : String) (fields : Dict) : EventKey :=
  ⟨.providerRawFrame, turnId, "", sortedText fields⟩

/-- `_load_persisted_seen_event_keys`. -/
def persistedKey (event : StoredEvent) : Option EventKey :=
  let payload := event.payload
  if isText (payload.lookup "source_kind") "codex_native" then
    if builtins.plainText (payload.getOrNull "native_thread_id") = "" then none
    else
      let turnId := builtins.plainText (payload.getOrNull "native_turn_id")
      if event.eventType = .providerRawFrame then
        some (rawKey turnId [("raw_kind", payload.getOrNull "raw_kind"),
          ("raw_payload_hash", payload.getOrNull "raw_payload_hash")])
      else some (dedupeKey words builtins event.eventType turnId payload)
  else none

def loadPersistedSeenEventKeys (mirror : Mirror) : Mirror :=
  if mirror.keysLoaded then mirror
  else
    { mirror with
      seenEventKeys := mirror.seenEventKeys ++
        (mirror.events.take 50000).filterMap (persistedKey words builtins)
      keysLoaded := true }

/-- A backend event: its kind, its payload, and what `CodexRuntimeSource` maps it to. -/
structure BackendEvent where
  rawKind : String
  payload : Dict
  mapped : List (EventType × Dict)

variable (nativeThreadId : String)

/-- `project_user_message`, `project_notification` and `project_agent_message` on an item. -/
def backendEvent (item : TranscriptItem) : BackendEvent :=
  let thread := ("threadId", .string nativeThreadId)
  let turn := ("turnId", .string item.turnId)
  let id := ("itemId", .string item.itemId)
  let text := Json.string item.text
  let provider : String × Json := ("display_source", .string "provider")
  match item.role with
  | .user =>
      ⟨"user_message", [thread, turn, ("text", text), id],
        [(.userMessageReceived, [("text", text), thread, turn, id])]⟩
  | .plan =>
      ⟨"plan_updated", [thread, turn, ("plan", text), id],
        [(.agentRunActivity, [("action", .string "plan_updated"), thread, turn, ("plan", text), id])]⟩
  | .assistant =>
      ⟨"agent_message_delta",
        [thread, turn, ("delta", text), ("item", .object [("id", .string item.itemId)]), id],
        [(.providerDisplayDelta, [("delta", text), ("text", text), id, provider]),
          (.modelTextDelta, [("delta", text), id,
            ("compatibility_projection", .string "model.text.delta")])]⟩
  | .assistantFinal =>
      ⟨"agent_message",
        [thread, turn, ("message", text), ("item", .object [("id", .string item.itemId)]), id],
        [(.providerDisplayCompleted, [("text", text), ("summary", text), id, provider]),
          (.modelMessageCompleted, [("text", text), id,
            ("compatibility_projection", .string "model.message.completed")])]⟩

def nativeFields (turnId : String) : Dict :=
  [("native_thread_id", .string nativeThreadId), ("native_turn_id", .string turnId),
    ("source_kind", .string "codex_native"), ("provider", .string "codex"),
    ("provider_engine", .string "app-server")]

def appendRawFrame (turnId : String) (backend : BackendEvent) (mirror : Mirror) :
    Mirror × List StoredEvent :=
  let fields := rawFields backend.rawKind backend.payload
  let key := rawKey turnId fields
  if key ∈ mirror.seenEventKeys then (mirror, [])
  else
    let event : StoredEvent := ⟨.providerRawFrame,
      fields ++ [("threadId", .string nativeThreadId), ("turnId", .string turnId)] ++
        nativeFields nativeThreadId turnId⟩
    ({ mirror with
        seenEventKeys := key :: mirror.seenEventKeys
        events := mirror.events ++ [event] }, [event])

def appendMapped (turnId : String) (mirror : Mirror) (mapped : EventType × Dict) :
    Mirror × List StoredEvent :=
  let payload := mapped.2 ++ nativeFields nativeThreadId turnId
  let key := dedupeKey words builtins mapped.1 turnId payload
  if key ∈ mirror.seenEventKeys then (mirror, [])
  else
    let event : StoredEvent :=
      ⟨mapped.1, redactPayload words (some maxPayloadStringLength) payload⟩
    ({ mirror with
        seenEventKeys := key :: mirror.seenEventKeys
        events := mirror.events ++ [event] }, [event])

def appendAllMapped (turnId : String) : List (EventType × Dict) → Mirror → Mirror × List StoredEvent
  | [], mirror => (mirror, [])
  | mapped :: rest, mirror =>
      let first := appendMapped words builtins nativeThreadId turnId mirror mapped
      let later := appendAllMapped turnId rest first.1
      (later.1, first.2 ++ later.2)

/-- `_append_backend_event`; the message events are apart from the raw frame. -/
def appendBackendEvent (item : TranscriptItem) (mirror : Mirror) : Mirror × List StoredEvent :=
  let backend := backendEvent nativeThreadId item
  let loaded := loadPersistedSeenEventKeys words builtins mirror
  let raw := appendRawFrame nativeThreadId item.turnId backend loaded
  appendAllMapped words builtins nativeThreadId item.turnId backend.mapped raw.1

def storedItemId (event : StoredEvent) : Option String :=
  (firstTruthy event.payload ["itemId", "item_id"]).map (str builtins.repr)

def storedTurnId (payload : Dict) : String :=
  ((firstTruthy payload ["turnId", "native_turn_id"]).map (str builtins.repr)).getD ""

/-- The keys of `payload_item_turn_ids_by_agent_run`. -/
def storedItemIds (events : List StoredEvent) : List String := events.filterMap (storedItemId builtins)

def storedItemTurnIds (events : List StoredEvent) : List (String × String) :=
  events.filterMap fun event => (storedItemId builtins event).bind fun item =>
    let turn := storedTurnId builtins event.payload
    if turn = "" then none else some (item, turn)

/-- `correct_payload_item_turn_id` on one row. -/
def correctTurnId (itemId turnId : String) (event : StoredEvent) : StoredEvent :=
  if isText (event.payload.lookup "itemId") itemId || isText (event.payload.lookup "item_id") itemId then
    { event with payload := correctedPayload event.payload turnId nativeThreadId }
  else event

def canonicalUserText (text : String) : List (List Char) :=
  (text.toList.splitOnP isSpace).filter (· ≠ [])

/-- `_turn_ids_compatible_for_local_user_dedupe`. -/
def turnIdsCompatible (left right : String) : Bool :=
  left = right || left = "" || right = "" || startsWith left "jsonl-turn:" ||
    startsWith right "jsonl-turn:"

def hasDuplicateUserItem (item : TranscriptItem) (recentUserEvents : List StoredEvent) : Bool :=
  let normalizedText := canonicalUserText item.text
  normalizedText ≠ [] && recentUserEvents.any fun event =>
    let existingTurn := storedTurnId builtins event.payload
    event.eventType = .userMessageReceived &&
      canonicalUserText (builtins.plainText (event.payload.getOrNull "text")) = normalizedText &&
      turnIdsCompatible item.turnId existingTurn &&
      (startsWith ((storedItemId builtins event).getD "") "local-user-" || item.turnId = existingTurn)

/-- The local names of `sync_thread`. -/
structure SyncLocals where
  existingItemIds : List String
  existingItemTurnIds : List (String × String)
  recentUserEvents : List StoredEvent

def isOfficialTurnId (turnId : String) : Bool := turnId ≠ "" && !startsWith turnId "jsonl-"

def SyncLocals.know (locals : SyncLocals) (item : TranscriptItem) : SyncLocals :=
  { locals with
    existingItemIds := item.itemId :: locals.existingItemIds
    existingItemTurnIds := (item.itemId, item.turnId) :: locals.existingItemTurnIds }

def revisitItem (item : TranscriptItem) (mirror : Mirror) (locals : SyncLocals) : Mirror × SyncLocals :=
  let mirror := { mirror with seenItemIds := item.itemId :: mirror.seenItemIds }
  if isOfficialTurnId item.turnId && (item.itemId, item.turnId) ∉ locals.existingItemTurnIds then
    ({ mirror with
        events := mirror.events.map (correctTurnId nativeThreadId item.itemId item.turnId) },
      { locals with
        existingItemTurnIds := (item.itemId, item.turnId) :: locals.existingItemTurnIds })
  else (mirror, locals)

def projectItem (row : Nat) (item : TranscriptItem) (mirror : Mirror) (locals : SyncLocals) :
    Mirror × SyncLocals :=
  let projected := appendBackendEvent words builtins nativeThreadId item mirror
  let mirror := projected.1
  ({ mirror with
      seenItemIds := item.itemId :: mirror.seenItemIds
      written := if projected.2 = [] then mirror.written else mirror.written ++ [(row, item)] },
    { locals.know item with
      recentUserEvents := locals.recentUserEvents ++
        projected.2.filter fun event => event.eventType = .userMessageReceived })

/-- One turn of the loop of `sync_thread`. -/
def syncItem (state : Mirror × SyncLocals) (entry : Nat × TranscriptItem) : Mirror × SyncLocals :=
  let (mirror, locals) := state
  let item := entry.2
  if item.itemId ∈ mirror.seenItemIds ∨ item.itemId ∈ locals.existingItemIds then
    revisitItem nativeThreadId item mirror locals
  else if item.role = .user ∧ hasDuplicateUserItem builtins item locals.recentUserEvents then
    ({ mirror with seenItemIds := item.itemId :: mirror.seenItemIds }, locals.know item)
  else projectItem words builtins nativeThreadId entry.1 item mirror locals

def Mirror.safeTailLines (mirror : Mirror) : Option Int → Nat
  | none => mirror.tailLines
  | some value => if value = 0 then mirror.tailLines else max 1 value.toNat

def Mirror.window (mirror : Mirror) (tailLines : Option Int) : List Bytes :=
  readTailLines mirror.file (mirror.safeTailLines tailLines) mirror.maxBytes

def Mirror.windowItems (mirror : Mirror) (tailLines : Option Int) : List (Nat × TranscriptItem) :=
  let lines := mirror.window tailLines
  builtins.parseTranscriptItems nativeThreadId (mirror.rows.length - lines.length) lines

/-- `sync_thread` for a thread id that is not blank and whose file is there. -/
def Mirror.syncThread (mirror : Mirror) (tailLines : Option Int) : Mirror :=
  let locals : SyncLocals :=
    { existingItemIds := storedItemIds builtins mirror.events
      existingItemTurnIds := storedItemTurnIds builtins mirror.events
      recentUserEvents := mirror.events.drop (mirror.events.length - 60) }
  ((mirror.windowItems builtins nativeThreadId tailLines).foldl
    (syncItem words builtins nativeThreadId) (mirror, locals)).1

inductive MirrorStep where
  /-- The session file grows by a line. -/
  | append (line : Bytes)
  | sync (tailLines : Option Int)
  /-- A new process with a new mirror over the same file and store. -/
  | restart (tailLines maxBytes : Int)
  /-- Another writer stores an event of the agent run. -/
  | outside (event : StoredEvent)

def mirrorStep (mirror : Mirror) : MirrorStep → Mirror
  | .append line => { mirror with file := mirror.file ++ line ++ [10] }
  | .sync tailLines => mirror.syncThread words builtins nativeThreadId tailLines
  | .restart tailLines maxBytes =>
      { Mirror.fresh tailLines maxBytes with
        file := mirror.file
        events := mirror.events
        written := mirror.written }
  | .outside event => { mirror with events := mirror.events ++ [event] }

end Python

end Wlcodex.Codex
