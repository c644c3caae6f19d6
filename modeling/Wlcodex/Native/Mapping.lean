import Wlcodex.Native.Protocol
import Wlcodex.Relay.StreamReplay

namespace Wlcodex.Native

open Wlcodex.Lib
open Wlcodex.Relay (Dict str strip truthy)
open Wlcodex.Relay.StreamState (isText lookup_set_of_ne)
open Wlcodex.Timeline (EventType orText)

/-! `CodexRuntimeSource`: what an event of the app-server says as runtime events. -/

/-- `event_type` of a `BackendEvent`. -/
inductive BackendKind where
  | threadStarted
  | threadStatusChanged
  | turnStarted
  | turnCompleted
  | itemStarted
  | itemCompleted
  | agentMessage
  | agentMessageDelta
  | reasoningDelta
  | tokenUsageUpdated
  | commandOutputDelta
  | commandFailed
  | fileChangeDelta
  | fileChangePatchUpdated
  | diffUpdated
  | planUpdated
  | userMessage
  | toolRequestUserInput
  | approvalRequested
  | approvalResolved
  deriving DecidableEq

def BackendKind.name : BackendKind → String
  | .threadStarted => "thread_started"
  | .threadStatusChanged => "thread_status_changed"
  | .turnStarted => "turn_started"
  | .turnCompleted => "turn_completed"
  | .itemStarted => "item_started"
  | .itemCompleted => "item_completed"
  | .agentMessage => "agent_message"
  | .agentMessageDelta => "agent_message_delta"
  | .reasoningDelta => "reasoning_delta"
  | .tokenUsageUpdated => "token_usage_updated"
  | .commandOutputDelta => "command_output_delta"
  | .commandFailed => "command_failed"
  | .fileChangeDelta => "file_change_delta"
  | .fileChangePatchUpdated => "file_change_patch_updated"
  | .diffUpdated => "diff_updated"
  | .planUpdated => "plan_updated"
  | .userMessage => "user_message"
  | .toolRequestUserInput => "tool_request_user_input"
  | .approvalRequested => "approval_requested"
  | .approvalResolved => "approval_resolved"

/-- `int` of a value; where it raises a type or value error there is none. -/
structure Python extends Codex.Builtins where
  int? : Json → Option Int

def samplePython : Python where
  toBuiltins := sampleBuiltins
  int? value := match value with
    | .int count => some count
    | _ => none

abbrev RuntimeEvent := EventType × Dict

def field (payload : Dict) (key : String) : Json := (payload.lookup key).getD (.string "")

def overlaid (payload fields : Dict) : Dict :=
  fields.foldl (fun payload member => payload.set member.1 member.2) payload

theorem lookup_overlaid_of_ne {key : String} {fields : Dict} (apart : key ∉ fields.map Prod.fst)
    (payload : Dict) : (overlaid payload fields).lookup key = payload.lookup key := by
  induction fields generalizing payload with
  | nil => rfl
  | cons member fields ih =>
      rw [List.map_cons, List.mem_cons, not_or] at apart
      exact (ih apart.2 _).trans (lookup_set_of_ne _ apart.1 payload)

def nested? (payload : Dict) (key : String) : Option Dict := (payload.lookup key).bind members?

def ownItemId (payload : Dict) : Json :=
  ((nested? payload "item").map fun item => field item "id").getD (.string "")

section Mapping

variable (python : Python)

def Python.text (value : Json) : String := str python.repr value

def commandText (payload : Dict) : Json :=
  match field payload "command" with
  | .array parts => .string (" ".intercalate (parts.map python.text))
  | command => command

def mapItemStarted (payload : Dict) : List RuntimeEvent :=
  match nested? payload "item" with
  | none => []
  | some item =>
      if isText (item.lookup "type") "commandExecution" then
        [(.commandStarted, [("itemId", field item "id"),
          ("command", .string (python.text (commandText python item)))])]
      else []

def finishedMessage (text itemId : Json) : List RuntimeEvent :=
  [(.providerDisplayCompleted, [("text", text), ("summary", text), ("itemId", itemId),
      ("display_source", .string "provider")]),
    (.modelMessageCompleted, [("text", text), ("itemId", itemId),
      ("compatibility_projection", .string "model.message.completed")])]

def mapItemCompleted (payload : Dict) : List RuntimeEvent :=
  match nested? payload "item" with
  | none => []
  | some item =>
      if isText (item.lookup "type") "agentMessage" then
        let text := (item.lookup "text").getD ((item.lookup "content").getD (field item "message"))
        if truthy text then finishedMessage (.string (python.text text)) (field item "id") else []
      else if isText (item.lookup "type") "commandExecution" then
        [(.commandCompleted, [("itemId", field item "id"),
          ("command", .string (python.text (commandText python item)))])]
      else []

def mapAgentMessage (payload : Dict) : List RuntimeEvent :=
  let itemId := match nested? payload "item" with
    | some item => field item "id"
    | none => .string (python.plainText (payload.getOrNull "itemId"))
  finishedMessage ((payload.lookup "message").getD (field payload "text")) itemId

def mapAgentMessageDelta (payload : Dict) : List RuntimeEvent :=
  let delta := field payload "delta"
  [(.providerDisplayDelta, [("delta", delta), ("text", delta), ("itemId", ownItemId payload),
      ("display_source", .string "provider")]),
    (.modelTextDelta, [("delta", delta), ("itemId", ownItemId payload),
      ("compatibility_projection", .string "model.text.delta")])]

def mapReasoningDelta (payload : Dict) : List RuntimeEvent :=
  [(.modelReasoningDelta, [("delta", field payload "delta"), ("itemId", ownItemId payload)])]

def mapCommandOutputDelta (payload : Dict) : List RuntimeEvent :=
  [(.commandOutputDelta, [("delta", field payload "delta"), ("itemId", field payload "itemId")])]

def safeIntFields (counts : Dict) : Dict :=
  [("inputTokens", "input_tokens"), ("outputTokens", "output_tokens"),
    ("cachedInputTokens", "cached_input_tokens"),
    ("reasoningOutputTokens", "reasoning_output_tokens"), ("totalTokens", "total_tokens")].filterMap
      fun key => ((counts.lookup key.1).bind python.int?).map fun count => (key.2, .int count)

def mapTokenUsage (payload : Dict) : List RuntimeEvent :=
  let usagePayload := match nested? payload "tokenUsage" with
    | none => safeIntFields python payload
    | some usage =>
        ((nested? usage "last").map (safeIntFields python)).getD [] ++
          ((nested? usage "total").map fun total =>
            ("total", .object (safeIntFields python total))).toList ++
          match usage.getOrNull "modelContextWindow" with
          | .null => []
          | window => [("model_context_window", window)]
  if usagePayload.isEmpty then [] else [(.other "model.usage.updated", usagePayload)]

def mapCommandFailed (payload : Dict) : List RuntimeEvent :=
  let item := nested? payload "item"
  [(.commandFailed, [("itemId", field payload "itemId"),
    ("command", .string ((item.map fun item => python.text (field item "command")).getD "")),
    ("exitCode", (item.map fun item => item.getOrNull "exitCode").getD .null)])]

def mapPlanUpdated (payload : Dict) : List RuntimeEvent :=
  [(.agentRunActivity, [("action", .string "plan_updated"), ("threadId", field payload "threadId"),
      ("turnId", field payload "turnId")] ++
    ["plan", "summary", "title", "status", "itemId"].filterMap fun key =>
      (payload.lookup key).map fun value => (key, value))]

def fieldText (payload : Dict) (key : String) : String := python.text (field payload key)

def withReason (summary reason : String) : String :=
  if reason = "" then summary else summary ++ "\nReason: " ++ reason

def patchSummary (payload : Dict) : String :=
  let listed (files : List String) : String := ", ".intercalate (files.take 6)
  match (payload.lookup "changedFiles").getD (field payload "fileChanges") with
  | .object changes =>
      let files := listed ((changes.map Prod.fst).insertionSort (· ≤ ·))
      if files = "" then "Apply patch" else "Apply patch: " ++ files
  | .array files => "Apply patch: " ++ listed (files.map python.text)
  | _ =>
      let filePath := python.text ((payload.lookup "filePath").getD (field payload "path"))
      if filePath = "" then "Apply patch" else "Edit file: " ++ filePath

def buildApprovalSummary (payload : Dict) : String :=
  let existing := fieldText python payload "summary"
  let kind := fieldText python payload "kind"
  let command := python.plainText (commandText python payload)
  let reason := fieldText python payload "reason"
  if existing ≠ "" then existing
  else if kind = "command" ∨ command ≠ "" then
    withReason (if command = "" then "Run command" else strip ("Run: " ++ command)) reason
  else if kind = "file_change" then withReason (patchSummary python payload) reason
  else if kind = "permissions" then
    ((payload.lookup "summary").map python.text).getD "Permission request"
  else orText reason (((payload.lookup "kind").map python.text).getD "Approval required")

def mapApprovalResolved (payload : Dict) : List RuntimeEvent :=
  let response := (nested? payload "response").getD []
  [(.approvalResolved, [("codexRequestId", field payload "codexRequestId"),
    ("decision", (response.lookup "decision").getD (field response "permissions")),
    ("scope", field response "scope")])]

def mapEvent (kind : BackendKind) (payload : Dict) : List RuntimeEvent :=
  let thread := ("threadId", payload.getOrNull "threadId")
  let turn := ("turnId", payload.getOrNull "turnId")
  let threadField := ("threadId", field payload "threadId")
  let turnField := ("turnId", field payload "turnId")
  let itemField := ("itemId", field payload "itemId")
  let activity (action : String) : String × Json := ("action", .string action)
  match kind with
  | .threadStarted =>
      let own := payload.getOrNull "threadId"
      [(.agentRunActivity, [activity "thread_started",
        ("threadId", if truthy own then own else payload.getOrNull "id")])]
  | .threadStatusChanged => [(.agentRunActivity, [activity "thread_status_changed", thread])]
  | .turnStarted => [(.agentRunActivity, [activity "turn_started", thread, turn])]
  | .turnCompleted =>
      [(.agentRunActivity, [activity "turn_completed", thread, turn,
        ("status", field ((nested? payload "turn").getD payload) "status")])]
  | .itemStarted => mapItemStarted python payload
  | .itemCompleted => mapItemCompleted python payload
  | .agentMessage => mapAgentMessage python payload
  | .agentMessageDelta => mapAgentMessageDelta payload
  | .reasoningDelta => mapReasoningDelta payload
  | .tokenUsageUpdated => mapTokenUsage python payload
  | .commandOutputDelta => mapCommandOutputDelta payload
  | .commandFailed => mapCommandFailed python payload
  | .fileChangeDelta =>
      [(.other "file.changed", [("delta", field payload "delta"), itemField,
        ("filePath", field payload "filePath")])]
  | .fileChangePatchUpdated =>
      [(.other "diff.updated", [("diff", (payload.lookup "patch").getD (field payload "diff")),
        threadField, turnField, itemField])]
  | .diffUpdated =>
      [(.other "diff.updated", [("diff", field payload "diff"), threadField, turnField])]
  | .planUpdated => mapPlanUpdated payload
  | .userMessage =>
      [(.userMessageReceived, [("text", field payload "text"), threadField, turnField, itemField])]
  | .toolRequestUserInput =>
      [(.agentRunActivity, overlaid payload [activity "tool_request_user_input"])]
  | .approvalRequested =>
      [(.approvalRequested,
        overlaid payload [("summary", .string (buildApprovalSummary python payload))])]
  | .approvalResolved => mapApprovalResolved payload

end Mapping

end Wlcodex.Native
