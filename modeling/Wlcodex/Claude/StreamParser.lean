import Wlcodex.Relay.StreamEvents

namespace Wlcodex.Claude

open Wlcodex.Lib
open Wlcodex.Relay (Dict str strip truthy)

/-! The parser of Claude's stream-json lines, and the loop that folds it over the
output of the process. -/

inductive RuntimeEventType where
  | agentRunActivity
  | agentRunCompleted
  | agentRunFailed
  | modelApiRetry
  | modelMessageCompleted
  | modelTextDelta
  | modelUsageUpdated
  | toolCallStarted
  | toolCallProgress
  | toolCallCompleted
  | toolCallFailed
  deriving DecidableEq

inductive AgentEventType where
  | text
  | error
  | usage
  deriving DecidableEq

structure ClaudeStreamEvent where
  runtimeEventType : RuntimeEventType
  runtimePayload : Dict := []
  agentDelta : String := ""
  agentEventType : AgentEventType := .text
  agentUsage : Option Dict := none
  sessionId : String := ""

def clip (count : Nat) (text : String) : String := String.ofList (text.toList.take count)

def behind (count : Nat) (text : String) : String := String.ofList (text.toList.drop count)

def startsWith (text start : String) : Bool := start.toList.isPrefixOf text.toList

def activity (payload : Dict) : ClaudeStreamEvent := ⟨.agentRunActivity, payload, "", .text, none, ""⟩

def textDelta (text : String) (sessionId : String := "") : ClaudeStreamEvent where
  runtimeEventType := .modelTextDelta
  runtimePayload := [("text", .string text)]
  agentDelta := text
  sessionId := sessionId

def messageCompleted (text : String) : ClaudeStreamEvent where
  runtimeEventType := .modelMessageCompleted
  runtimePayload := [("text", .string text)]

section Parser

-- `repr` of values that are no text, `int` of a float where it is finite, and the texts at which
-- a limit of the interpreter (on nesting, on the digits of an integer) raises
variable (repr : Json → String) (trunc : FloatLiteral → Option Int) (beyond : String → Bool)

def textAt (payload : Dict) (key : String) : String :=
  match (payload.lookup key).filter truthy with
  | some value => str repr value
  | none => ""

def handleContentBlockStart (event : Dict) (assistantText : String) :
    List ClaudeStreamEvent × String :=
  match event.lookup "content_block" with
  | some (.object block) =>
      match block.lookup "type" with
      | some (.string "tool_use") =>
          let name := textAt repr block "name"
          ([{ runtimeEventType := .toolCallStarted
              runtimePayload := [("tool_name", .string (if name = "" then "unknown" else name)),
                ("tool_id", .string (textAt repr block "id"))] }], assistantText)
      | _ =>
          let type := str repr ((block.lookup "type").getD (.string ""))
          ([activity [("stream_type", .string "content_block_start"), ("block_type", .string type)]],
            assistantText)
  | _ => ([activity [("stream_type", .string "content_block_start")]], assistantText)

def deltaOf (event : Dict) : Dict :=
  match event.lookup "delta" with
  | some (.object delta) => delta
  | _ => []

def handleStreamEvent (payload : Dict) (assistantText : String) : List ClaudeStreamEvent × String :=
  match payload.lookup "event" with
  | some (.object event) =>
      let innerType := textAt repr event "type"
      let delta := deltaOf event
      if innerType = "content_block_start" then handleContentBlockStart repr event assistantText
      else match delta.lookup "type" with
        | some (.string "text_delta") =>
            match delta.lookup "text" with
            | some (.string text) =>
                if text = "" then
                  ([activity [("stream_type", .string "text_delta_empty")]], assistantText)
                else ([textDelta text], assistantText ++ text)
            | _ => ([activity [("stream_type", .string "text_delta_empty")]], assistantText)
        | some (.string "input_json_delta") =>
            let part := str repr ((delta.lookup "partial_json").getD (.string ""))
            ([activity [("stream_type", .string "input_json_delta"),
              ("partial_json", .string (clip 2000 part))]], assistantText)
        | _ => ([activity [("stream_type", .string innerType)]], assistantText)
  | _ => ([activity [("raw_type", .string "stream_event")]], assistantText)

/-- `type(value).__name__` of the values that are not copied. -/
def typeName : Json → String
  | .null => "NoneType"
  | .array _ => "list"
  | _ => "dict"

def summarizeToolInput (input : Dict) : Dict :=
  input.map fun (key, value) => (key, match value with
    | .string text => .string (clip 500 text)
    | .int value => .int value
    | .bool value => .bool value
    | .float literal => .float literal
    | .nan => .nan
    | .infinity negative => .infinity negative
    | other => .string (typeName other))

def textItem : Json → Option String
  | .object item =>
      match item.lookup "type" with
      | some (.string "text") =>
          match item.lookup "text" with
          | some (.string text) => some text
          | _ => none
      | _ => none
  | _ => none

def toolItem : Json → Option ClaudeStreamEvent
  | .object item =>
      match item.lookup "type" with
      | some (.string "tool_use") =>
          let given := textAt repr item "name"
          let name := ("tool_name", Json.string (if given = "" then "unknown" else given))
          let id := ("tool_id", Json.string (textAt repr item "id"))
          match item.lookup "input" with
          | some (.object input) => some {
              runtimeEventType := .toolCallCompleted
              runtimePayload := [name, id, ("input_summary", .object (summarizeToolInput input))] }
          | _ => some { runtimeEventType := .toolCallStarted, runtimePayload := [name, id] }
      | _ => none
  | _ => none

def contentText (content : List Json) : String := String.join (content.filterMap textItem)

def handleAssistant (payload : Dict) (assistantText : String) : List ClaudeStreamEvent × String :=
  match payload.lookup "message" with
  | some (.object message) =>
      let always := activity [("message_type", .string "assistant")]
      match message.lookup "content" with
      | some (.array content) =>
          let tools := content.filterMap (toolItem repr)
          let currentText := contentText content
          if currentText = "" then (tools ++ [always], assistantText)
          else
            let completed := messageCompleted currentText
            let (delta, assistantText) :=
              if startsWith currentText assistantText then
                (behind assistantText.toList.length currentText, assistantText)
              else (currentText, assistantText ++ currentText)
            if delta = "" then (completed :: tools ++ [always], assistantText)
            else (completed :: tools ++ [textDelta delta, always], currentText)
      | some (.string currentText) =>
          if currentText = "" then ([always], assistantText)
          else
            let completed := messageCompleted currentText
            let delta := if startsWith currentText assistantText then
                behind assistantText.toList.length currentText
              else currentText
            if delta = "" then ([completed, always], assistantText)
            else ([completed, textDelta delta, always], currentText)
      | _ => ([always], assistantText)
  | _ => ([], assistantText)

/-- `int(value)` of a number; of a NaN or an infinity it raises. -/
def usageInt : Json → Option (Option Int)
  | .int value => some (some value)
  | .bool value => some (some (if value then 1 else 0))
  | .float literal => (trunc literal).map some
  | .nan => none
  | .infinity _ => none
  | _ => some none

def addUsage (usage result : Dict) (source target : String) : Option Dict :=
  match usage.lookup source with
  | none => some result
  | some value =>
      match usageInt trunc value with
      | none => none
      | some none => some result
      | some (some count) =>
          match result.lookup target with
          | some (.int before) => some (Dict.set result target (.int (before + count)))
          | _ => some (Dict.set result target (.int count))

/-- `_extract_usage`; the outer option is whether it returns. -/
def extractUsage (payload : Dict) : Option (Option Dict) :=
  match payload.lookup "usage" with
  | some (.object usage) => do
      let result ← addUsage trunc usage [] "input_tokens" "input_tokens"
      let result ← addUsage trunc usage result "output_tokens" "output_tokens"
      let result ← addUsage trunc usage result "cache_read_input_tokens" "cached_input_tokens"
      let result ← addUsage trunc usage result "cache_creation_input_tokens" "cached_input_tokens"
      match result.lookup "input_tokens", result.lookup "output_tokens" with
      | some (.int input), some (.int output) =>
          some (some (Dict.set (Dict.set result "total_tokens" (.int (input + output)))
            "source" (.string "exact")))
      | _, _ => some none
  | _ => some none

def resultFailed (payload : Dict) (subtype : String) : ClaudeStreamEvent :=
  let error := textAt repr payload "error"
  let errorText := if error = "" then textAt repr payload "message" else error
  { runtimeEventType := .agentRunFailed
    runtimePayload := [("subtype", .string subtype), ("error", .string (clip 2000 errorText))]
    agentDelta := if errorText = "" then "Claude Code result status: " ++ subtype else errorText
    agentEventType := .error }

def usageUpdated (payload usage : Dict) (sessionId : String) : ClaudeStreamEvent :=
  let usagePayload := match payload.lookup "model" with
    | some (.string model) => if model = "" then usage else Dict.set usage "model" (.string model)
    | _ => usage
  { runtimeEventType := .modelUsageUpdated
    runtimePayload := usagePayload
    agentEventType := .usage
    agentUsage := some usagePayload
    sessionId }

def usageEvents (payload : Dict) (sessionId : String) : Option Dict → List ClaudeStreamEvent
  | some usage => [usageUpdated payload usage sessionId]
  | none => []

def handleResult (payload : Dict) (assistantText : String) (hasEmittedText : Bool) :
    Option (List ClaudeStreamEvent × String) :=
  let subtype := textAt repr payload "subtype"
  if subtype ≠ "success" ∧ subtype ≠ "done" then
    some ([resultFailed repr payload subtype], assistantText)
  else do
    let usage ← extractUsage trunc payload
    let sessionId := textAt repr payload "session_id"
    let updated := usageEvents payload sessionId usage
    let resultText := textAt repr payload "result"
    let text := if resultText ≠ "" ∧ !hasEmittedText then [textDelta resultText sessionId] else []
    let completed : List ClaudeStreamEvent := if sessionId = "" then [] else
      [{ runtimeEventType := .agentRunCompleted
         runtimePayload := [("session_id", .string sessionId), ("subtype", .string subtype)]
         sessionId }]
    some (updated ++ text ++ completed, assistantText)

def handleSystem (payload : Dict) (assistantText : String) : List ClaudeStreamEvent × String :=
  let subtype := textAt repr payload "subtype"
  let message := textAt repr payload "message"
  let retry : List ClaudeStreamEvent := if subtype = "api_retry" then
      [{ runtimeEventType := .modelApiRetry
         runtimePayload := [("message", .string (clip 2000 message)),
          ("retry_count", Dict.getOrNull payload "retry_count")] }]
    else []
  (retry ++ [activity [("system_subtype", .string subtype), ("message", .string (clip 500 message))]],
    assistantText)

def handleError (payload : Dict) (assistantText : String) : List ClaudeStreamEvent × String :=
  let message := textAt repr payload "message"
  let error := textAt repr payload "error"
  let text := if message ≠ "" then message else if error ≠ "" then error
    else str repr (.object payload)
  ([{ runtimeEventType := .agentRunFailed
      runtimePayload := [("error", .string (clip 2000 text))]
      agentDelta := text
      agentEventType := .error }], assistantText)

def hookInfo (payload : Dict) : Dict :=
  match payload.lookup "hook" with
  | some (.object hook) =>
      let named (key : String) : Dict := match hook.lookup key with
        | some value => [(key, .string (clip 2000 (str repr value)))]
        | none => []
      [("hook_id", .string (textAt repr hook "id")), ("hook_name", .string (textAt repr hook "name"))] ++
        named "output" ++ named "result"
  | _ => []

def handleHook (payload : Dict) (assistantText : String) : List ClaudeStreamEvent × String :=
  let eventType := textAt repr payload "type"
  let info := hookInfo repr payload
  let event (type : RuntimeEventType) (phase : String) (more : Dict := []) : ClaudeStreamEvent :=
    { runtimeEventType := type, runtimePayload := info ++ [("phase", .string phase)] ++ more }
  let phase : List ClaudeStreamEvent := match eventType with
    | "hook.started" => [event .toolCallProgress "started"]
    | "hook.progress" => [event .toolCallProgress "progress"]
    | "hook.completed" => [event .toolCallCompleted "completed"]
    | "hook.error" =>
        [event .toolCallFailed "error" [("error", .string (clip 2000 (textAt repr payload "error")))]]
    | _ => []
  (phase ++ [activity (("hook_event", .string eventType) :: info)], assistantText)

def handlePayload (payload : Dict) (assistantText : String) (hasEmittedText : Bool) :
    Option (List ClaudeStreamEvent × String) :=
  let eventType := textAt repr payload "type"
  if eventType = "stream_event" then some (handleStreamEvent repr payload assistantText)
  else if eventType = "assistant" then some (handleAssistant repr payload assistantText)
  else if eventType = "result" then handleResult repr trunc payload assistantText hasEmittedText
  else if eventType = "system" then some (handleSystem repr payload assistantText)
  else if eventType = "error" ∨ eventType = "api_error" then
    some (handleError repr payload assistantText)
  else if startsWith eventType "hook." then some (handleHook repr payload assistantText)
  else some ([activity [("event_type", .string eventType)]], assistantText)

/-- `parse_line`; `none` where it raises. -/
def parseLine (line assistantText : String) (hasEmittedText : Bool) :
    Option (List ClaudeStreamEvent × String) :=
  let stripped := strip line
  if stripped = "" then some ([], assistantText)
  else if beyond stripped then none
  else match Json.loads stripped.toList with
    | none => some ([{ activity [("raw", .string (clip 2000 line))] with agentDelta := line }],
        assistantText)
    | some (.object payload) => handlePayload repr trunc payload assistantText hasEmittedText
    | some _ => some ([], assistantText)

/-- What `send_streaming` keeps from line to line. -/
structure Streaming where
  assistantText : String := ""
  accumulated : List String := []
  events : List ClaudeStreamEvent := []

/-- The texts that an event adds to `accumulated`. -/
def shownText (event : ClaudeStreamEvent) : Option String :=
  if event.agentDelta ≠ "" ∧ event.agentEventType = .text then some event.agentDelta else none

def receiveLine (state : Streaming) (line : String) : Option Streaming := do
  let (events, assistantText) ← parseLine repr trunc beyond line state.assistantText
    (!state.accumulated.isEmpty)
  some { assistantText
         accumulated := state.accumulated ++ events.filterMap shownText
         events := state.events ++ events }

def sendStreaming (lines : List String) : Option Streaming :=
  lines.foldlM (receiveLine repr trunc beyond) {}

end Parser

end Wlcodex.Claude
