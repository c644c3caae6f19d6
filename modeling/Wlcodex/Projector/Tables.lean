import Mathlib.Algebra.Ring.Int.Defs
import Wlcodex.State.Events

namespace Wlcodex.Projector

open Wlcodex.Lib
open Wlcodex.Relay (Dict str strip firstTruthy)
open Wlcodex.State

/-! `RuntimeProjector`: runtime events written into the compatibility tables. -/

inductive AgentRowStatus where
  | queued
  | running
  | done
  | failed
  | aborted
  | other (text : String)
  deriving DecidableEq

/-- `_DB_AGENT_TERMINAL`. -/
def AgentRowStatus.isTerminal : AgentRowStatus → Bool
  | .done | .failed | .aborted => true
  | _ => false

structure AgentRow where
  conversationId : Int
  agent : String
  role : String
  status : AgentRowStatus := .queued
  hiddenTaskId : Option Int := none
  externalSessionId : Option String := none
  completionSummary : String := ""
  tokenInput : Int := 0
  tokenOutput : Int := 0
  deriving DecidableEq

inductive RunRowStatus where
  | running
  | needsUser
  | passed
  | failed
  | aborted
  | other (text : String)
  deriving DecidableEq

/-- `_DB_ORCH_TERMINAL`. -/
def RunRowStatus.isTerminal : RunRowStatus → Bool
  | .passed | .failed | .aborted => true
  | _ => false

structure RunRow where
  conversationId : Int
  goal : String
  status : RunRowStatus := .running
  currentStep : String := ""
  verifyRound : Int := 0
  maxVerifyRounds : Int := 3
  lastCodexAnalysis : String := ""
  lastClaudeSummary : String := ""
  lastVerificationResult : String := ""
  deriving DecidableEq

inductive TaskStatus where
  | queued
  | running
  | waitingApproval
  | paused
  | waitingSlot
  | done
  | failed
  | aborted
  | archived
  deriving DecidableEq

structure TaskRow where
  status : TaskStatus
  lastPhase : String := ""
  lastSummary : String := ""
  lastError : String := ""
  deriving DecidableEq

inductive ApprovalRowStatus where
  | pending
  | approved
  | denied
  | cancelled
  | expired
  deriving DecidableEq

structure ApprovalRow where
  codexItemId : String
  codexTurnId : String
  kind : String
  summary : String
  commandJson : String
  status : ApprovalRowStatus := .pending
  resolution : Option String := none
  deriving DecidableEq

structure UsageRow where
  conversationId : Option Int
  orchestrationRunId : Option Int
  agentRunId : Option Int
  taskId : Option Int
  agent : String
  role : String
  phase : String
  requestKind : String
  requestIndex : Int
  model : String
  externalThreadId : String
  externalTurnId : String
  externalSessionId : String
  status : String
  source : String
  inputTokens : Int
  cachedInputTokens : Int
  outputTokens : Int
  reasoningOutputTokens : Int
  totalTokens : Int
  workflowOverheadInputTokens : Int
  workflowOverheadOutputTokens : Int
  latencyMs : Int
  metadataJson : String
  deriving DecidableEq

structure TaskEventRow where
  taskId : Int
  eventType : String
  payload : Dict

structure DecisionRow where
  runId : Int
  decision : String
  reason : String
  nextAgent : String
  deriving DecidableEq

structure Tables where
  agentRuns : Int → Option AgentRow := fun _ => none
  orchestrationRuns : Int → Option RunRow := fun _ => none
  tasks : Int → Option TaskRow := fun _ => none
  approvalRequests : Int → String → Option ApprovalRow := fun _ _ => none
  usageEvents : List UsageRow := []
  taskEvents : List TaskEventRow := []
  orchestrationDecisions : List DecisionRow := []

def bindable (value : Int) : Bool := -(2 ^ 63 : Int) ≤ value ∧ value < 2 ^ 63

section Python

variable (builtins : Builtins)

variable (payload : Dict)

def sessionId : String :=
  ((firstTruthy payload ["external_session_id", "session_id", "threadId", "thread_id"]).map
    (str builtins.repr)).getD ""

/-- `_project_session_id`: an identifier that is set stays. -/
def AgentRow.noteSession (session : String) (row : AgentRow) : AgentRow :=
  if session ≠ "" ∧ row.externalSessionId.getD "" = "" then
    { row with externalSessionId := some session }
  else row

variable (event : RuntimeEvent)

def upsertAgentRun (row : Option AgentRow) : AgentRow :=
  let text := builtins.textField event.payload
  row.getD
    { conversationId := event.conversationId.getD 0
      agent := text "agent" event.actor
      role := text "role" ""
      hiddenTaskId := event.taskId
      externalSessionId := some (text "external_session_id" "") }

def AgentRow.isTerminal (row : AgentRow) : Bool := row.status.isTerminal

def endsAgent (kind : AgentEvent) : Bool := kind ∈ [.completed, .failed, .timedOut, .orphaned]

def AgentRow.write (kind : AgentEvent) (row : AgentRow) : AgentRow :=
  let text := builtins.textField event.payload
  match kind with
  | .queued => row
  | .started =>
      { row with
        status := .running
        externalSessionId := match firstTruthy event.payload ["external_session_id"] with
          | some session => some (str builtins.repr session)
          | none => row.externalSessionId }
  | .waitingForApproval => { row with status := .running }
  | .activity | .heartbeat => row.noteSession (sessionId builtins event.payload)
  | .completed =>
      { row with
        status := .done
        completionSummary := text "summary" (text "completion_summary" "") }.noteSession
          (sessionId builtins event.payload)
  | .failed | .timedOut | .orphaned => { row with status := .failed }

/-- `_project_agent_event`, on the row of the event's agent run. -/
def projectAgentRow (kind : AgentEvent) (row : Option AgentRow) :
    Option AgentRow :=
  if kind = .queued then some (upsertAgentRun builtins event row)
  else if row.any AgentRow.isTerminal && !endsAgent kind then
    if kind ∈ [.activity, .heartbeat] then
      row.map (AgentRow.noteSession (sessionId builtins event.payload))
    else row
  else some ((upsertAgentRun builtins event row).write builtins event kind)

def projectAgentEvent (tables : Tables) (event : RuntimeEvent) (kind : AgentEvent) : Tables :=
  match event.agentRunId with
  | none => tables
  | some id =>
      { tables with
        agentRuns := Function.update tables.agentRuns id
          (projectAgentRow builtins event kind (tables.agentRuns id)) }

def securityEvents : List EventType :=
  [.other "security.delivery.blocked", .other "security.token.access.attempted"]

def recordsPass : Bool :=
  match payload.lookup "decision" with
  | some (.string text) => text = "pass"
  | _ => false

/-- `_has_pass_verification`, over the rows of `runtime_events`; `row` is that of the event's
run. -/
def hasPassVerification (log : List RuntimeEvent) (event : RuntimeEvent) (row : Option RunRow) : Bool :=
  let earlier := log.filter fun other =>
    event.id ≠ 0 ∧ other.orchestrationRunId = event.orchestrationRunId ∧ other.id ≤ event.id
  if event.orchestrationRunId = none then false
  else if earlier.any fun other => other.eventType ∈ securityEvents then false
  else row.any (fun row => row.lastVerificationResult = "pass") ||
    earlier.any fun other =>
      other.eventType = .verification .decisionRecorded && recordsPass other.payload

def upsertOrchestrationRun (row : Option RunRow) : RunRow :=
  row.getD
    { conversationId := event.conversationId.getD 0
      goal := builtins.textField event.payload "goal" "" }

def RunRow.isTerminal (row : RunRow) : Bool := row.status.isTerminal

def endsRun (kind : RunEvent) : Bool := kind ∈ [.completed, .failed, .cancelled]

/-- `int(payload.get("max_verify_rounds", 0))` as a parameter. -/
def maxRounds? : Option Int :=
  (builtins.intField payload "max_verify_rounds" 0).filter bindable

/-- `int(payload.get("verify_round", -1))`; a negative number is no parameter. -/
def verifyRound? : Option Int :=
  (builtins.intField payload "verify_round" (-1)).filter fun round => round < 0 || bindable round

/-- What an event writes into its row, once the row is there; `none` where it raises. -/
def RunRow.write (kind : RunEvent) (pass : Bool) (row : RunRow) : Option RunRow :=
  let text := builtins.textField event.payload
  match kind with
  | .requested => (maxRounds? builtins event.payload).map fun maxVerifyRounds =>
      { row with goal := text "goal" "", maxVerifyRounds }
  | .started => some { row with status := .running, currentStep := text "phase" "running_analysis" }
  | .phaseChanged => (verifyRound? builtins event.payload).map fun round =>
      { row with
        currentStep := text "phase" ""
        lastCodexAnalysis := orText (text "codex_analysis" "") row.lastCodexAnalysis
        lastClaudeSummary := orText (text "claude_summary" "") row.lastClaudeSummary
        verifyRound := if 0 ≤ round then round else row.verifyRound }
  | .completed => some <|
      if pass then { row with status := .passed, currentStep := "completed" }
      else
        { row with
          status := .failed
          currentStep := "failed"
          lastVerificationResult := "run_completed_without_verification_pass" }
  | .failed => some { row with status := .failed }
  | .recoveryRequired => some { row with status := .needsUser, currentStep := "needs_recovery" }
  | .cancelled => some { row with status := .aborted }
  | .cancelRequested => some row

/-- The row after `_project_orchestration_event`, and whether it raised; the row it inserts
first is committed. -/
def projectRunRow (log : List RuntimeEvent) (event : RuntimeEvent) (kind : RunEvent)
    (row : Option RunRow) : Option RunRow × Bool :=
  if row.any RunRow.isTerminal && !endsRun kind then (row, false)
  else
    let held := upsertOrchestrationRun builtins event row
    match held.write builtins event kind (hasPassVerification log event (some held)) with
    | some written => (some written, false)
    | none => (some held, true)

def projectOrchestrationEvent (log : List RuntimeEvent) (tables : Tables) (event : RuntimeEvent)
    (kind : RunEvent) : Tables × Bool :=
  match event.orchestrationRunId with
  | none => (tables, false)
  | some id =>
      let (row, raised) := projectRunRow builtins log event kind (tables.orchestrationRuns id)
      ({ tables with orchestrationRuns := Function.update tables.orchestrationRuns id row }, raised)

def Tables.runOf (tables : Tables) (event : RuntimeEvent) : Option RunRow :=
  event.orchestrationRunId.bind tables.orchestrationRuns

def taskUpdate (kind : RunEvent) (pass : Bool) : Option TaskRow :=
  let text := builtins.textField event.payload
  match kind with
  | .started | .phaseChanged => some
      { status := .running, lastPhase := text "phase" "", lastSummary := text "phase" "" }
  | .completed => some <|
      if pass then
        { status := .done, lastPhase := "completed", lastSummary := "runtime run completed" }
      else
        { status := .failed, lastPhase := "failed",
          lastError := "run_completed_without_verification_pass" }
  | .failed => some
      { status := .failed, lastPhase := "failed", lastError := text "reason" "runtime run failed" }
  | .recoveryRequired => some
      { status := .paused
        lastPhase := "needs_recovery"
        lastSummary := "runtime hand-off requires recovery"
        lastError := text "reason" "runtime hand-off has no executor activity" }
  | .cancelled => some
      { status := .aborted, lastPhase := "cancelled", lastSummary := "runtime run cancelled" }
  | .requested | .cancelRequested => none

def TaskRow.set (update row : TaskRow) : TaskRow where
  status := update.status
  lastPhase := orText update.lastPhase row.lastPhase
  lastSummary := orText update.lastSummary row.lastSummary
  lastError := orText update.lastError row.lastError

def projectTaskStatusEvent (log : List RuntimeEvent) (tables : Tables) (event : RuntimeEvent)
    (kind : RunEvent) : Tables :=
  match event.taskId with
  | none => tables
  | some id =>
      match taskUpdate builtins event kind (hasPassVerification log event (tables.runOf event)) with
      | none => tables
      | some update =>
          { tables with tasks := Function.update tables.tasks id ((tables.tasks id).map update.set) }

/-- `_payload_int`: the first key that is there, 0 where `int` fails; `none` where it raises, at
an infinite number. -/
def payloadInt (keys : List String) : Option Int :=
  match keys.findSome? fun key => payload.lookup key with
  | none => some 0
  | some (.infinity _) => none
  | some value => some ((builtins.int? value).getD 0)

structure UsageCounts where
  input : Int
  output : Int
  cached : Int
  reasoning : Int
  total : Int
  latency : Int

def usageCounts? : Option UsageCounts := do
  let input ← payloadInt builtins payload ["input_tokens", "inputTokens"]
  let output ← payloadInt builtins payload ["output_tokens", "outputTokens"]
  let cached ← payloadInt builtins payload ["cached_input_tokens", "cachedInputTokens"]
  let reasoning ← payloadInt builtins payload ["reasoning_output_tokens", "reasoningOutputTokens"]
  let total ← payloadInt builtins payload ["total_tokens", "totalTokens"]
  let latency ← payloadInt builtins payload ["latency_ms", "latencyMs"]
  return { input, output, cached, reasoning, latency, total := if total = 0 then input + output else total }

def usageAgent : String := builtins.textField event.payload "agent" event.actor

def usageSource : String := builtins.textField event.payload "source" "derived"

def UsageRow.counts (event : RuntimeEvent) (counts : UsageCounts) (row : UsageRow) : Bool :=
  row.agent = "codex" ∧ row.source ∈ ["exact", "estimated"] ∧
    row.conversationId = event.conversationId ∧
    row.orchestrationRunId = event.orchestrationRunId ∧
    row.agentRunId = event.agentRunId ∧ row.taskId = event.taskId ∧
    row.inputTokens = counts.input ∧ row.outputTokens = counts.output ∧
    row.totalTokens = counts.total

def metadataJson : String :=
  match payload.lookup "metadata" with
  | none => "\x7b\x7d"
  | some (.object members) => String.ofList (Json.write .spaced (.object members))
  | some (.string text) => text
  | some _ => "\x7b\x7d"

/-- The row of a usage event; `none` where a number cannot be read or stored. -/
def usageRow? (counts : UsageCounts) : Option UsageRow := do
  let text := fun key => builtins.textField event.payload key ""
  let requestIndex ← builtins.intField event.payload "request_index" 0
  let overheadInput ← builtins.intField event.payload "workflow_overhead_input_tokens" 0
  let overheadOutput ← builtins.intField event.payload "workflow_overhead_output_tokens" 0
  guard ([requestIndex, counts.input, counts.cached, counts.output, counts.reasoning, counts.total,
    overheadInput, overheadOutput, counts.latency].all bindable)
  return {
    conversationId := event.conversationId
    orchestrationRunId := event.orchestrationRunId
    agentRunId := event.agentRunId
    taskId := event.taskId
    agent := usageAgent builtins event
    role := text "role"
    phase := text "phase"
    requestKind := text "request_kind"
    requestIndex
    model := text "model"
    externalThreadId := text "external_thread_id"
    externalTurnId := text "external_turn_id"
    externalSessionId := text "external_session_id"
    status := text "status"
    source := usageSource builtins event
    inputTokens := counts.input
    cachedInputTokens := counts.cached
    outputTokens := counts.output
    reasoningOutputTokens := counts.reasoning
    totalTokens := counts.total
    workflowOverheadInputTokens := overheadInput
    workflowOverheadOutputTokens := overheadOutput
    latencyMs := counts.latency
    metadataJson := metadataJson event.payload }

inductive UsageOutcome where
  | counted (counts : UsageCounts)
  | added (counts : UsageCounts) (row : UsageRow)
  | raised

def usageOutcome (rows : List UsageRow) (event : RuntimeEvent) : UsageOutcome :=
  match usageCounts? builtins event.payload with
  | none => .raised
  | some counts =>
      if usageAgent builtins event = "codex" ∧ usageSource builtins event = "derived" then
        if !([counts.input, counts.output, counts.total].all bindable) then .raised
        else if rows.any (UsageRow.counts event counts) then .counted counts
        else ((usageRow? builtins event counts).map (.added counts)).getD .raised
      else ((usageRow? builtins event counts).map (.added counts)).getD .raised

def AgentRow.spend (counts : UsageCounts) (row : AgentRow) : AgentRow :=
  { row with
    tokenInput := row.tokenInput + counts.input
    tokenOutput := row.tokenOutput + counts.output }

def Tables.spend (counts : UsageCounts) (tables : Tables) : Tables :=
  match event.agentRunId with
  | none => tables
  | some id =>
      { tables with
        agentRuns := Function.update tables.agentRuns id ((tables.agentRuns id).map (.spend counts)) }

/-- `_project_usage_event`; `none` where it raises, before it writes. -/
def projectUsageEvent (tables : Tables) (event : RuntimeEvent) : Option Tables :=
  match usageOutcome builtins tables.usageEvents event with
  | .counted counts => some (tables.spend event counts)
  | .added counts row => some
      ({ tables with usageEvents := tables.usageEvents ++ [row] }.spend event counts)
  | .raised => none

def approvedWords : List String := ["approve", "approved", "accept", "accepted", "acceptforsession"]

/-- `_is_approved_decision`; `lower` is the case mapping of Python. -/
def isApprovedDecision (lower : String → String) : Json → Bool
  | .object members => !members.isEmpty
  | value => lower (strip (str builtins.repr value)) ∈ approvedWords

def approvalKey : String :=
  builtins.textField event.payload "codex_request_id" event.aggregateId

def approvalRow : ApprovalRow :=
  let text := builtins.textField event.payload
  { codexItemId := text "codex_item_id" ""
    codexTurnId := text "codex_turn_id" ""
    kind := text "kind" "command"
    summary := ((firstTruthy event.payload ["summary", "reason", "command", "kind"]).map
      (str builtins.repr)).getD ""
    commandJson := text "command" (text "command_json" "\x7b\x7d") }

def ApprovalRow.resolve (status : ApprovalRowStatus) (resolution : Option String) (row : ApprovalRow) :
    ApprovalRow :=
  if row.status = .pending then
    { row with status, resolution := resolution.or row.resolution }
  else row

/-- `_project_approval_event`, on the row of the event's request. -/
def projectApprovalRow (lower : String → String) (event : RuntimeEvent) (kind : ApprovalEvent)
    (row : Option ApprovalRow) : Option ApprovalRow :=
  match kind with
  | .requested => some (row.getD (approvalRow builtins event))
  | .resolved =>
      let approved := isApprovedDecision builtins lower
        ((event.payload.lookup "decision").getD (.string ""))
      row.map (.resolve (if approved then .approved else .denied)
        (some (builtins.textField event.payload "resolver" "")))
  | .expired => row.map (.resolve .expired none)

def projectApprovalEvent (lower : String → String) (tables : Tables) (event : RuntimeEvent)
    (kind : ApprovalEvent) : Tables :=
  match event.taskId with
  | none => tables
  | some id =>
      let key := approvalKey builtins event
      { tables with
        approvalRequests := Function.update tables.approvalRequests id
          (Function.update (tables.approvalRequests id) key
            (projectApprovalRow builtins lower event kind (tables.approvalRequests id key))) }

/-- `_TASK_EVENT_COMPAT_TYPES`, of the events that no reducer reads. -/
def otherCompatType : String → Option String
  | "command.started" => some "command_started"
  | "command.completed" => some "command_completed"
  | "file.changed" => some "file_changed"
  | "tool.call.started" => some "tool_call_started"
  | "tool.call.completed" => some "tool_call_completed"
  | "security.delivery.blocked" => some "security_delivery_blocked"
  | "security.token.access.attempted" => some "security_token_access_attempted"
  | "surface.cursor.advanced" => some "surface_cursor_advanced"
  | "terminal.session.attached" => some "terminal_session_attached"
  | "terminal.session.detached" => some "terminal_session_detached"
  | "terminal.session.input.sent" => some "terminal_session_input_sent"
  | "terminal.session.output.frame" => some "terminal_session_output_frame"
  | "terminal.session.aborted" => some "terminal_session_aborted"
  | "product.display.frame" => some "product_display_frame"
  | "product.pending_context.recorded" => some "product_pending_context_recorded"
  | "workbench.created" => some "workbench_created"
  | "workbench.view.changed" => some "workbench_view_changed"
  | "workbench.execution_mode.selected" => some "workbench_execution_mode_selected"
  | "workbench.route.decided" => some "workbench_route_decided"
  | "onsite.session.started" => some "onsite_session_started"
  | "onsite.session.attached" => some "onsite_session_attached"
  | "onsite.session.detached" => some "onsite_session_detached"
  | "onsite.session.orphaned" => some "onsite_session_orphaned"
  | "onsite.input.sent" => some "onsite_input_sent"
  | "onsite.output.frame" => some "onsite_output_frame"
  | "onsite.cursor.advanced" => some "onsite_cursor_advanced"
  | "cockpit.cursor.advanced" => some "cockpit_cursor_advanced"
  | "cockpit.summary.rendered" => some "cockpit_summary_rendered"
  | _ => none

/-- `_TASK_EVENT_COMPAT_TYPES`. -/
def compatType : EventType → Option String
  | .agent .started => some "agent_run_started"
  | .agent .completed => some "agent_run_completed"
  | .agent .failed => some "agent_run_failed"
  | .agent .timedOut => some "agent_run_timed_out"
  | .agent .orphaned => some "agent_run_orphaned"
  | .run .requested => some "run_requested"
  | .run .started => some "run_started"
  | .run .phaseChanged => some "run_phase_changed"
  | .run .completed => some "run_completed"
  | .run .failed => some "run_failed"
  | .run .recoveryRequired => some "run_recovery_required"
  | .run .cancelled => some "run_cancelled"
  | .approval .requested => some "approval_requested"
  | .approval .resolved => some "approval_resolved"
  | .modelUsageUpdated => some "usage_updated"
  | .verification .decisionRecorded => some "verification_decision"
  | .verification .retryRequested => some "verification_retry"
  | .conversation .modeSwitched => some "conversation_mode_switched"
  | .other name => otherCompatType name
  | _ => none

/-- `value[:80]` in a text; `none` where the value has no slices. -/
def preview : Json → Option String
  | .string text => some (String.ofList (text.toList.take 80))
  | .array items => some (builtins.repr (.array (items.take 80)))
  | _ => none

/-- `_event_summary`, of the events that no reducer reads. -/
def otherSummary (name : String) : Option String :=
  let text := builtins.textField payload
  match name with
  | "surface.cursor.advanced" => some ("Cursor " ++ text "surface" "?" ++ " → " ++ text "position" "?")
  | "terminal.session.attached" => some
      ("Terminal " ++ text "agent" "?" ++ " attached (" ++ text "strategy" "?" ++ ")")
  | "terminal.session.detached" => some
      ("Terminal " ++ text "agent" "?" ++ " detached (" ++ text "status" "?" ++ ")")
  | "terminal.session.aborted" => some ("Terminal " ++ text "agent" "?" ++ " aborted")
  | "product.pending_context.recorded" =>
      (preview builtins ((payload.lookup "text_preview").getD (.string "?"))).map
        ("Pending context: " ++ ·)
  | "workbench.execution_mode.selected" => some ("Execution mode → " ++ text "execution_mode" "?")
  | "workbench.view.changed" => some ("View " ++ text "previous_view" "?" ++ " → " ++ text "view" "?")
  | "workbench.created" => some ("Workbench created (" ++ text "workspace_alias" "?" ++ ")")
  | "onsite.session.orphaned" => some
      ("Onsite session orphaned: " ++ text "agent" "?" ++ " (" ++ text "reason" "?" ++ ")")
  | "onsite.session.started" => some ("Onsite session started: " ++ text "agent" "?")
  | "onsite.cursor.advanced" => some ("Onsite cursor → " ++ text "position" "?")
  | "cockpit.cursor.advanced" => some ("Cockpit cursor → " ++ text "position" "?")
  | "cockpit.summary.rendered" => some
      ("Cockpit summary: " ++ String.ofList ((text "summary" "").toList.take 80))
  | _ => some name

/-- `_event_summary`; `none` where it raises. -/
def eventSummary : Option String :=
  let text := builtins.textField event.payload
  match event.eventType with
  | .agent .started => some ("Agent " ++ text "agent" "?" ++ " started (" ++ text "role" "?" ++ ")")
  | .agent .completed => some ("Agent " ++ text "agent" "?" ++ " completed")
  | .agent .failed => some ("Agent " ++ text "agent" "?" ++ " failed")
  | .agent .timedOut => some ("Agent " ++ text "agent" "?" ++ " timed out")
  | .modelUsageUpdated => some
      ("Usage: " ++ text "input_tokens" "0" ++ "+" ++ text "output_tokens" "0" ++ " tokens")
  | .approval .requested => some
      ("Approval requested: " ++ text "kind" "?" ++ " — " ++ text "summary" "")
  | .approval .resolved => some ("Approval resolved: " ++ text "decision" "?")
  | .run .phaseChanged => some ("Phase → " ++ text "phase" "?")
  | .run .recoveryRequired => some ("Run requires recovery: " ++ text "reason" "?")
  | .conversation .modeSwitched => some ("Mode " ++ text "from_mode" "?" ++ " → " ++
      text "to_mode" "?" ++ " (agent: " ++ text "active_agent" "?" ++ ")")
  | .other name => otherSummary builtins event.payload name
  | type => some type.name

/-- `_build_compat_payload`. -/
def compatPayload (summary : String) : Dict :=
  [("runtime_event_id", .int event.id), ("runtime_event_type", .string event.eventType.name),
    ("aggregate_type", .string event.aggregateType), ("aggregate_id", .string event.aggregateId),
    ("source", .string event.source), ("actor", .string event.actor), ("summary", .string summary)]

/-- The row that an event adds to `task_events`, if any. -/
def taskEventRow? : Option TaskEventRow := do
  let taskId ← event.taskId
  let eventType ← compatType event.eventType
  let summary ← eventSummary builtins event
  return { taskId, eventType, payload := compatPayload event summary }

def projectTaskEvent (tables : Tables) (event : RuntimeEvent) : Tables :=
  { tables with taskEvents := tables.taskEvents ++ (taskEventRow? builtins event).toList }

def decisionRow? : Option DecisionRow :=
  let text := fun key => builtins.textField event.payload key ""
  event.orchestrationRunId.map fun runId =>
    { runId, decision := text "decision", reason := text "reason", nextAgent := text "next_agent" }

/-- `_project_verification_event`; only a recorded decision is written. -/
def projectVerificationEvent (tables : Tables) (event : RuntimeEvent) (kind : VerificationEvent) :
    Tables :=
  match kind, decisionRow? builtins event with
  | .decisionRecorded, some row =>
      { tables with
        orchestrationDecisions := tables.orchestrationDecisions ++ [row]
        orchestrationRuns := Function.update tables.orchestrationRuns row.runId
          ((tables.orchestrationRuns row.runId).map fun run =>
            { run with lastVerificationResult := row.decision }) }
  | _, _ => tables

def securityNote : String :=
  "\n[SECURITY] " ++ event.eventType.name ++ ": " ++ builtins.textField event.payload "finding" ""

def AgentRow.flag (note : String) (row : AgentRow) : AgentRow :=
  { row with completionSummary := row.completionSummary ++ note }

def projectSecurityEvent (tables : Tables) (event : RuntimeEvent) : Tables :=
  match event.agentRunId with
  | none => tables
  | some id =>
      { tables with
        agentRuns := Function.update tables.agentRuns id
          ((tables.agentRuns id).map (.flag (securityNote builtins event))) }

variable (lower : String → String)

/-- `apply`, which keeps what `_project` has written when it raises; `log` is `runtime_events`. -/
def apply (log : List RuntimeEvent) (tables : Tables) (event : RuntimeEvent) : Tables :=
  match event.eventType with
  | .agent kind => projectTaskEvent builtins (projectAgentEvent builtins tables event kind) event
  | .run kind =>
      let (tables, raised) := projectOrchestrationEvent builtins log tables event kind
      if raised then tables
      else projectTaskEvent builtins (projectTaskStatusEvent builtins log tables event kind) event
  | .modelUsageUpdated =>
      match projectUsageEvent builtins tables event with
      | some tables => projectTaskEvent builtins tables event
      | none => tables
  | .approval kind =>
      projectTaskEvent builtins (projectApprovalEvent builtins lower tables event kind) event
  | .verification kind =>
      projectVerificationEvent builtins (projectTaskEvent builtins tables event) event kind
  | type =>
      if type ∈ securityEvents then
        projectTaskEvent builtins (projectSecurityEvent builtins tables event) event
      else projectTaskEvent builtins tables event

/-- `rebuild`: every event of the log once more; also how a log is first projected. -/
def rebuild (log : List RuntimeEvent) (tables : Tables) : Tables :=
  log.foldl (apply builtins lower log) tables

end Python

end Wlcodex.Projector
