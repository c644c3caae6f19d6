import Mathlib.Data.List.Sort
import Wlcodex.Lib.Json
import Wlcodex.Lib.Run
import Wlcodex.Relay.Vocabulary

namespace Wlcodex.Relay

open Wlcodex.Lib

/-! Role output as a stream. -/

abbrev Dict := List (String × Json)

namespace Dict

def setDefault (dict : Dict) (key : String) (value : Json) : Dict :=
  if (dict.lookup key).isSome then dict else dict ++ [(key, value)]

def set (dict : Dict) (key : String) (value : Json) : Dict :=
  if (dict.lookup key).isSome then dict.map fun member => if member.1 = key then (key, value) else member
  else dict ++ [(key, value)]

def getOrNull (dict : Dict) (key : String) : Json := (dict.lookup key).getD .null

end Dict

def truthy : Json → Bool
  | .null => false
  | .bool value => value
  | .int value => value ≠ 0
  | .float literal => literal.whole ≠ 0 ∨ literal.fraction.any fun digits => digits.1.any (· ≠ '0')
  | .nan => true
  | .infinity _ => true
  | .string text => text ≠ ""
  | .array items => !items.isEmpty
  | .object members => !members.isEmpty

/-- `None` and the empty text. -/
def blank : Json → Bool
  | .null => true
  | .string text => text = ""
  | _ => false

def firstTruthy (payload : Dict) (keys : List String) : Option Json :=
  keys.findSome? fun key => (payload.lookup key).filter truthy

section Text

-- `repr` of values that are no text
variable (repr : Json → String)

def str : Json → String
  | .string text => text
  | value => repr value

/-- `_runtime_event_text`: what is delivered live. -/
def runtimeEventText (payload : Dict) : String :=
  ((firstTruthy payload ["delta", "text", "message", "content", "output", "chunk"]).map
    (str repr)).getD ""

def runtimeEventStreamFields (payload : Dict) : Dict :=
  let fields : Dict := ["itemId", "item_id", "native_message_id", "message_id", "native_turn_id",
    "turnId", "turn_id", "active_turn_id"].filterMap fun key =>
      let value := strip (((firstTruthy payload [key]).map (str repr)).getD "")
      if value = "" then none else some (key, .string value)
  match fields.head? with
  | some field => fields ++ [("stream_key", field.2)]
  | none => fields

end Text

def someText : Option Json → Option String
  | some (.string text) => if text = "" then none else some text
  | _ => none

def runtimePayloadText (payload : Dict) : String :=
  (["delta", "text", "summary", "body"].findSome? fun key => someText (payload.lookup key)).getD ""

/-- A row of `runtime_events`. -/
structure RuntimeRow where
  id : Nat
  eventType : String
  agentRunId : Option Int
  payload : Dict

namespace RuntimeRow

/-- `_is_runtime_delta`. -/
def IsDelta (event : RuntimeRow) : Prop :=
  event.eventType ∈ ["provider.display.delta", "model.text.delta", "model.reasoning.delta",
    "command.output.delta", "provider_display_delta", "model_text_delta", "model_reasoning_delta",
    "command_output_delta"]

instance (event : RuntimeRow) : Decidable event.IsDelta := by
  unfold IsDelta
  infer_instance

/-- `_is_runtime_compatibility_projection`. -/
def IsCompatibility (event : RuntimeRow) : Bool :=
  truthy (event.payload.getOrNull "compatibility_projection")

def kindByEventType : List (String × String) :=
  [("agent.run.started", "lifecycle"), ("agent.run.heartbeat", "lifecycle"),
    ("agent.run.activity", "activity"), ("user.message.received", "user_message"),
    ("provider.raw.frame", "provider_raw_frame"), ("provider.display.delta", "text_delta"),
    ("provider.display.completed", "message_completed"),
    ("provider.semantic.usage.updated", "usage_updated"),
    ("provider.semantic.tool_call.started", "tool_call_started"),
    ("provider.semantic.status", "lifecycle"), ("model.text.delta", "text_delta"),
    ("model.message.completed", "message_completed"), ("model.reasoning.delta", "reasoning_delta"),
    ("model.usage.updated", "usage_updated"), ("tool.call.started", "tool_call_started"),
    ("tool.call.progress", "tool_call_progress"), ("tool.call.completed", "tool_call_completed"),
    ("tool.call.failed", "tool_call_failed"), ("command.started", "command_started"),
    ("command.output.delta", "command_output"), ("command.completed", "command_completed"),
    ("command.failed", "command_failed"), ("file.changed", "file_changed"),
    ("diff.updated", "diff_updated"), ("approval.requested", "approval_requested"),
    ("approval.resolved", "approval_resolved"), ("agent.run.completed", "completed"),
    ("agent.run.failed", "failed")]

/-- `kind` of `stream_event_from_runtime`. -/
def kind (event : RuntimeRow) : String :=
  if event.IsCompatibility ∧ event.eventType ≠ "model.message.completed" then "compatibility_event"
  else (kindByEventType.lookup event.eventType).getD "event"

end RuntimeRow

/-- A row of `relay_stream_events`. -/
structure StreamRow where
  taskId : Nat
  sequence : Nat
  eventType : String
  role : String
  jobId : Option Int
  runtimeEventId : Option Int
  payload : Dict
  createdAt : Nat

structure RelayEvent where
  taskId : Nat
  eventType : String
  sequence : Nat
  role : String
  jobId : Option Int
  payload : Dict
  createdAt : Nat

/-- `_runtime_event_id_from_payload`.  The relay writes ids as ints. -/
def runtimeEventIdFromPayload (payload : Dict) : Option Int :=
  let value :=
    if blank (payload.getOrNull "runtime_event_id") then
      match payload.lookup "native_event" with
      | some (.object event) => Dict.getOrNull event "id"
      | _ => .null
    else payload.getOrNull "runtime_event_id"
  match value with
  | .int id => if id = 0 then none else some id
  | .bool true => some 1
  | _ => none

def messageKeys : List String :=
  ["itemId", "item_id", "stream_key", "native_message_id", "message_id", "native_turn_id", "turnId",
    "turn_id"]

def inherit (keys : List String) (payload source : Dict) : Dict :=
  keys.foldl (fun payload key =>
    match source.lookup key with
    | some value => payload.setDefault key value
    | none => payload) payload

/-- `_relay_stream_payload_for_storage`: the text of a runtime event is not stored
twice. -/
def relayStreamPayloadForStorage (eventType : String) (payload : Dict) : Dict :=
  if eventType ∉ ["role.output_delta", "role.native_event"] then payload
  else
    match runtimeEventIdFromPayload payload with
    | none => payload
    | some id =>
        let stored : Dict := (["role", "agent_run_id", "runtime_event_id", "round_id", "kind"] ++
          messageKeys).filterMap fun key => (payload.lookup key).map fun value => (key, value)
        let stored :=
          match payload.lookup "native_event" with
          | some (.object event) =>
              let stored := ((stored.setDefault "kind" (Dict.getOrNull event "kind")).setDefault
                "agent_run_id" (Dict.getOrNull event "agent_run_id")).setDefault
                "runtime_event_id" (Dict.getOrNull event "id")
              match event.lookup "payload" with
              | some (.object native) => inherit (messageKeys ++ ["display_source"]) stored native
              | _ => stored
          | _ => stored
        (stored.set "runtime_event_id" (.int id)).filter fun member => !blank member.2

structure StreamState where
  now : Nat
  runtimeEvents : List RuntimeRow
  rows : List StreamRow
  /-- `_events_by_task`, in memory. -/
  bus : List RelayEvent

namespace StreamState

variable (state : StreamState)

def nextSequence (taskId : Nat) : Nat :=
  ((state.rows.filter fun row => row.taskId = taskId).map StreamRow.sequence).foldr max 0 + 1

def existing? (taskId : Nat) (eventType role : String) (id : Int) :
    Option StreamRow :=
  state.rows.find? fun row => row.taskId = taskId ∧ row.eventType = eventType ∧ row.role = role ∧
    row.runtimeEventId = some id

def appendStreamEvent (taskId : Nat) (eventType role : String)
    (jobId : Option Int) (payload : Dict) : RelayEvent × StreamState :=
  let runtimeEventId := runtimeEventIdFromPayload payload
  match runtimeEventId.bind (state.existing? taskId eventType role) with
  | some row =>
      (⟨row.taskId, row.eventType, row.sequence, row.role, row.jobId, payload, row.createdAt⟩, state)
  | none =>
      let sequence := state.nextSequence taskId
      (⟨taskId, eventType, sequence, role, jobId, payload, state.now⟩,
        { state with
          rows := state.rows ++ [⟨taskId, sequence, eventType, role, jobId, runtimeEventId,
            relayStreamPayloadForStorage eventType payload, state.now⟩] })

/-- `RelayEventBus.emit`: what the subscribers get, if anything. -/
def emit (taskId : Nat) (eventType role : String) (jobId : Option Int)
    (payload : Dict) : Option RelayEvent × StreamState :=
  let (persisted, state) := state.appendStreamEvent taskId eventType role jobId payload
  if ∃ event ∈ state.bus, event.taskId = taskId ∧ event.sequence = persisted.sequence ∧
      event.eventType = persisted.eventType then (none, state)
  else
    let event : RelayEvent :=
      ⟨taskId, eventType, persisted.sequence, role, jobId, payload, persisted.createdAt⟩
    (some event, { state with bus := state.bus ++ [event] })

def hydrateStreamEventPayload (eventType : String) (payload : Dict)
    (runtimeEventId : Int) : Dict :=
  match state.runtimeEvents.find? fun event => (event.id : Int) = runtimeEventId with
  | none => payload
  | some event =>
      let agentRunId : Json := (event.agentRunId.map Json.int).getD .null
      let hydrated := (payload.setDefault "agent_run_id" agentRunId).setDefault
        "runtime_event_id" (.int event.id)
      let hydrated := inherit (messageKeys ++ ["display_source"]) hydrated event.payload
      let text := runtimePayloadText event.payload
      if eventType = "role.output_delta" then
        if text = "" then hydrated else hydrated.setDefault "delta" (.string text)
      else if eventType = "role.native_event" then
        let hydrated := hydrated.setDefault "kind" (.string event.kind)
        let hydrated :=
          if text = "" then hydrated
          else if event.kind ∈ ["text_delta", "reasoning_delta", "command_output"] then
            hydrated.setDefault "delta" (.string text)
          else hydrated.setDefault "text" (.string text)
        inherit ["status", "title", "command", "exit_code", "approval_id", "request_id",
          "codexRequestId", "provider"] hydrated (event.payload.filter fun member =>
            match member.2 with
            | .string text => text ≠ ""
            | .int _ | .float _ | .nan | .infinity _ | .bool _ => true
            | _ => false)
      else hydrated

/-- A row as `list_stream_events` reads it back. -/
def streamEvent (row : StreamRow) : RelayEvent :=
  let payload :=
    match row.runtimeEventId with
    | none => row.payload
    | some id =>
        state.hydrateStreamEventPayload row.eventType
          (row.payload.setDefault "runtime_event_id" (.int id)) id
  ⟨row.taskId, row.eventType, row.sequence, row.role, row.jobId, payload, row.createdAt⟩

def listStreamEvents (taskId after : Nat) : List RelayEvent :=
  ((state.rows.filter fun row => row.taskId = taskId ∧ after < row.sequence).insertionSort
    fun first second => first.sequence ≤ second.sequence).map state.streamEvent

end StreamState

end Wlcodex.Relay
