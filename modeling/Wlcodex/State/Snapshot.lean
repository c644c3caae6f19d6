import Wlcodex.Lib.Entries
import Wlcodex.State.Events

namespace Wlcodex.State

open Wlcodex.Lib
open Wlcodex.Relay (Dict)

/-! `replay_events`: the current state of agents, orchestrations, approvals and conversations
from the events. -/

inductive AgentStatus where
  | queued
  | running
  | waitingForApproval
  | completed
  | failed
  | timedOut
  | cancelled
  | orphaned
  deriving DecidableEq

def AgentStatus.isTerminal : AgentStatus → Bool
  | .completed | .failed | .timedOut | .cancelled | .orphaned => true
  | _ => false

inductive RunStatus where
  | queued
  | running
  | needsUser
  | completed
  | failed
  | cancelled
  deriving DecidableEq

def RunStatus.isTerminal : RunStatus → Bool
  | .completed | .failed | .cancelled => true
  | _ => false

inductive ApprovalStatus where
  | requested
  | resolved
  | expired
  | cancelled
  deriving DecidableEq

def ApprovalStatus.isTerminal : ApprovalStatus → Bool
  | .requested => false
  | _ => true

/-- `RuntimeAgentState`. -/
structure AgentState where
  aggregateId : String
  agent : String := ""
  role : String := ""
  status : AgentStatus := .queued
  conversationId : Option Int := none
  orchestrationRunId : Option Int := none
  agentRunId : Option Int := none
  taskId : Option Int := none
  lastActivityId : Nat := 0
  lastActivityType : Option EventType := none
  lastActivityAt : String := ""
  startedAt : String := ""
  completedAt : String := ""
  completionSummary : String := ""
  tokenInput : Int := 0
  tokenOutput : Int := 0
  cachedInputTokens : Int := 0
  reasoningOutputTokens : Int := 0
  totalTokens : Int := 0
  model : String := ""
  externalSessionId : String := ""
  idleTimeoutAt : String := ""
  hardTimeoutAt : String := ""
  deriving DecidableEq

/-- `RuntimeOrchestrationState`. -/
structure OrchestrationState where
  aggregateId : String
  goal : String := ""
  status : RunStatus := .queued
  currentPhase : String := ""
  verifyRound : Int := 0
  maxVerifyRounds : Int := 0
  conversationId : Option Int := none
  orchestrationRunId : Option Int := none
  lastCodexAnalysis : String := ""
  lastClaudeSummary : String := ""
  lastVerificationResult : String := ""
  lastEventId : Nat := 0
  lastEventType : Option EventType := none
  lastEventAt : String := ""
  startedAt : String := ""
  completedAt : String := ""
  failureReason : String := ""
  lastActiveAgent : String := ""
  deriving DecidableEq

/-- `RuntimeApprovalState`. -/
structure ApprovalState where
  aggregateId : String
  status : ApprovalStatus := .requested
  kind : String := ""
  summary : String := ""
  commandSummary : String := ""
  toolName : String := ""
  conversationId : Option Int := none
  orchestrationRunId : Option Int := none
  agentRunId : Option Int := none
  taskId : Option Int := none
  decision : String := ""
  resolver : String := ""
  telegramCallbackId : String := ""
  requestedAt : String := ""
  resolvedAt : String := ""
  error : String := ""
  deriving DecidableEq

/-- `RuntimeConversationState`; its state is any text that an event names. -/
structure ConversationState where
  aggregateId : String
  conversationId : Option Int := none
  chatId : Int := 0
  state : String := "new"
  title : String := ""
  mode : String := ""
  workspaceAlias : String := ""
  pendingContext : List Dict := []
  lastEventId : Nat := 0
  lastEventType : Option EventType := none
  lastEventAt : String := ""
  startedAt : String := ""
  closedAt : String := ""
  hasPassVerification : Bool := false

def ConversationState.isTerminal (conversation : ConversationState) : Bool :=
  conversation.state ∈ ["passed", "failed", "aborted", "done"]

/-- One entry of `token_totals`. -/
structure TokenTotals where
  agent : String
  inputTokens : Int := 0
  outputTokens : Int := 0
  cachedInputTokens : Int := 0
  reasoningOutputTokens : Int := 0
  totalTokens : Int := 0
  requests : Nat := 0

/-- `RuntimeStateSnapshot`; its dicts keep the order in which keys were first set. -/
structure Snapshot where
  agents : List AgentState := []
  orchestrations : List OrchestrationState := []
  approvals : List ApprovalState := []
  conversations : List ConversationState := []
  tokenTotals : List TokenTotals := []
  lastEventId : Nat := 0
  lastEventAt : String := ""

/-- `_ORCH_PHASE_TO_CONVERSATION_STATE`. -/
def conversationStateOfPhase : String → Option String
  | "queued" => some "new"
  | "running_analysis" => some "analysis"
  | "running_implementation" => some "implementation"
  | "running_verification" => some "verification"
  | "retrying_implementation" => some "implementation"
  | "completed" => some "passed"
  | "failed" => some "failed"
  | "cancelled" => some "aborted"
  | _ => none

def validOrchestrationPhases : List String :=
  ["queued", "running_analysis", "running_implementation", "running_verification",
    "retrying_implementation", "completed", "failed", "cancelled", "needs_recovery"]

def ConversationState.moveTo (event : RuntimeEvent) (state : String) (conversation : ConversationState) :
    ConversationState :=
  { conversation with state, lastEventId := event.id, lastEventAt := event.occurredAt }

def ConversationState.isOpenAt (conversationId : Option Int) (conversation : ConversationState) : Bool :=
  conversation.conversationId = conversationId && !conversation.isTerminal

/-- `_propagate_conversation_state`. -/
def propagate (event : RuntimeEvent) (state : String) (conversations : List ConversationState) :
    List ConversationState :=
  if event.conversationId = none then conversations
  else
    modifyFirst (ConversationState.isOpenAt event.conversationId)
      (ConversationState.moveTo event state) conversations

section Python

variable (builtins : Builtins)

def OrchestrationState.touch (event : RuntimeEvent) (run : OrchestrationState) : OrchestrationState :=
  { run with
    lastEventId := event.id
    lastEventType := some event.eventType
    lastEventAt := event.occurredAt
    conversationId := orId event.conversationId run.conversationId
    orchestrationRunId := orId event.orchestrationRunId run.orchestrationRunId }

/-- The run after an event that it takes; `none` where `int` raises. -/
def OrchestrationState.take (event : RuntimeEvent) (kind : RunEvent) (run : OrchestrationState) :
    Option OrchestrationState :=
  let text := builtins.textField event.payload
  let run := run.touch event
  match kind with
  | .requested => do
      let maxVerifyRounds ← builtins.intField event.payload "max_verify_rounds" run.maxVerifyRounds
      return { run with status := .queued, goal := text "goal" run.goal, maxVerifyRounds }
  | .started => some
      { run with
        status := .running
        startedAt := event.occurredAt
        currentPhase := text "phase" "running_analysis"
        goal := text "goal" run.goal }
  | .phaseChanged => do
      let phase := text "phase" ""
      let verifyRound ← builtins.intField event.payload "verify_round" run.verifyRound
      return { run with
        currentPhase := if phase ∈ validOrchestrationPhases then phase else run.currentPhase
        verifyRound
        lastCodexAnalysis := text "codex_analysis" run.lastCodexAnalysis
        lastClaudeSummary := text "claude_summary" run.lastClaudeSummary }
  | .completed =>
      if run.lastVerificationResult ≠ "pass" then some
        { run with
          status := .failed
          completedAt := event.occurredAt
          failureReason := "run_completed_without_verification_pass"
          currentPhase := "failed" }
      else some
        { run with status := .completed, completedAt := event.occurredAt, currentPhase := "completed" }
  | .failed => some
      { run with
        status := .failed
        completedAt := event.occurredAt
        failureReason := text "reason" ""
        lastActiveAgent := text "last_active_agent" run.lastActiveAgent }
  | .recoveryRequired => some
      { run with
        status := .needsUser
        currentPhase := "needs_recovery"
        failureReason := text "reason" "runtime hand-off requires recovery" }
  | .cancelled => some { run with status := .cancelled, completedAt := event.occurredAt }
  | .cancelRequested => some run

def OrchestrationState.refuses (kind : RunEvent) (run : OrchestrationState) : Bool :=
  run.status.isTerminal && kind ∉ [.completed, .failed, .cancelled]

/-- The state that the event moves its conversation to; `run` is its run before the event. -/
def conversationStateAfter (event : RuntimeEvent) (kind : RunEvent) (run : OrchestrationState) :
    Option String :=
  match kind with
  | .phaseChanged => conversationStateOfPhase (builtins.textField event.payload "phase" "")
  | .completed => some (if run.lastVerificationResult ≠ "pass" then "failed" else "passed")
  | .failed => some "failed"
  | .recoveryRequired => some "needs_recovery"
  | .cancelled => some "aborted"
  | _ => none

def runAt (aggregateId : String) (runs : List OrchestrationState) : OrchestrationState :=
  (runs.find? fun run => run.aggregateId = aggregateId).getD { aggregateId }

variable (snapshot : Snapshot)

def applyOrchestrationEvent (event : RuntimeEvent) (kind : RunEvent) :
    Option Snapshot :=
  let run := runAt event.aggregateId snapshot.orchestrations
  if run.refuses kind then some snapshot
  else do
    let orchestrations ← upsert (fun run => run.aggregateId = event.aggregateId)
      { aggregateId := event.aggregateId } (OrchestrationState.take builtins event kind)
      snapshot.orchestrations
    return { snapshot with
      orchestrations
      conversations := ((conversationStateAfter builtins event kind run).map fun state =>
        propagate event state snapshot.conversations).getD snapshot.conversations }

/-- `_AGENT_STATUS_MAP`. -/
def AgentEvent.status : AgentEvent → AgentStatus
  | .queued => .queued
  | .started | .activity | .heartbeat => .running
  | .waitingForApproval => .waitingForApproval
  | .completed => .completed
  | .failed => .failed
  | .timedOut => .timedOut
  | .orphaned => .orphaned

def AgentState.refuses (kind : AgentEvent) (agent : AgentState) : Bool :=
  agent.status.isTerminal && kind ∉ [.completed, .failed, .timedOut, .orphaned]

def AgentState.touch (event : RuntimeEvent) (agent : AgentState) : AgentState :=
  { agent with
    lastActivityId := event.id
    lastActivityType := some event.eventType
    lastActivityAt := event.occurredAt
    conversationId := orId event.conversationId agent.conversationId
    orchestrationRunId := orId event.orchestrationRunId agent.orchestrationRunId
    agentRunId := orId event.agentRunId agent.agentRunId
    taskId := orId event.taskId agent.taskId
    agent := orText agent.agent (builtins.textField event.payload "agent" "")
    role := orText agent.role (builtins.textField event.payload "role" "") }

def AgentState.take (event : RuntimeEvent) (kind : AgentEvent) (agent : AgentState) : AgentState :=
  let text := builtins.textField event.payload
  let agent := { agent.touch builtins event with status := kind.status }
  match kind with
  | .started =>
      { agent with
        startedAt := orText agent.startedAt event.occurredAt
        externalSessionId := text "external_session_id" agent.externalSessionId }
  | .completed =>
      { agent with
        completedAt := event.occurredAt
        completionSummary := text "summary" (text "completion_summary" "") }
  | .timedOut =>
      { agent with
        completedAt := event.occurredAt
        idleTimeoutAt := text "idle_timeout_at" ""
        hardTimeoutAt := text "hard_timeout_at" "" }
  | .failed | .orphaned => { agent with completedAt := event.occurredAt }
  | _ => agent

def agentAt (aggregateId : String) (agents : List AgentState) : AgentState :=
  (agents.find? fun agent => agent.aggregateId = aggregateId).getD { aggregateId }

def applyAgentEvent (event : RuntimeEvent) (kind : AgentEvent) :
    Option Snapshot :=
  if (agentAt event.aggregateId snapshot.agents).refuses kind then some snapshot
  else do
    let agents ← upsert (fun agent => agent.aggregateId = event.aggregateId)
      { aggregateId := event.aggregateId } (fun agent => some (agent.take builtins event kind))
      snapshot.agents
    return { snapshot with agents }

structure Usage where
  input : Int
  output : Int
  cached : Int
  reasoning : Int
  total : Int

def readUsage (payload : Dict) : Option Usage := do
  let input ← builtins.intField payload "input_tokens" 0
  let output ← builtins.intField payload "output_tokens" 0
  let total ← builtins.intField payload "total_tokens" (input + output)
  let cached ← builtins.intField payload "cached_input_tokens" 0
  let reasoning ← builtins.intField payload "reasoning_output_tokens" 0
  return { input, output, cached, reasoning, total }

def AgentState.spend (event : RuntimeEvent) (usage : Usage) (agent : AgentState) : AgentState :=
  { agent with
    tokenInput := agent.tokenInput + usage.input
    tokenOutput := agent.tokenOutput + usage.output
    cachedInputTokens := agent.cachedInputTokens + usage.cached
    reasoningOutputTokens := agent.reasoningOutputTokens + usage.reasoning
    totalTokens := agent.totalTokens + usage.total
    model := builtins.textField event.payload "model" agent.model }

def TokenTotals.spend (usage : Usage) (totals : TokenTotals) : TokenTotals :=
  { totals with
    inputTokens := totals.inputTokens + usage.input
    outputTokens := totals.outputTokens + usage.output
    cachedInputTokens := totals.cachedInputTokens + usage.cached
    reasoningOutputTokens := totals.reasoningOutputTokens + usage.reasoning
    totalTokens := totals.totalTokens + usage.total
    requests := totals.requests + 1 }

def applyUsageEvent (event : RuntimeEvent) : Option Snapshot := do
  let usage ← readUsage builtins event.payload
  let name := builtins.textField event.payload "agent" event.actor
  let tokenTotals ← upsert (fun totals => totals.agent = name) { agent := name }
    (fun totals => some (totals.spend usage)) snapshot.tokenTotals
  return { snapshot with
    agents := if event.agentRunId = none then snapshot.agents
      else modifyFirst (fun agent => agent.agentRunId = event.agentRunId)
        (AgentState.spend builtins event usage) snapshot.agents
    tokenTotals }

def ApprovalState.touch (event : RuntimeEvent) (approval : ApprovalState) : ApprovalState :=
  { approval with
    conversationId := orId event.conversationId approval.conversationId
    orchestrationRunId := orId event.orchestrationRunId approval.orchestrationRunId
    agentRunId := orId event.agentRunId approval.agentRunId
    taskId := orId event.taskId approval.taskId }

def ApprovalState.take (event : RuntimeEvent) (kind : ApprovalEvent) (approval : ApprovalState) :
    ApprovalState :=
  let text := builtins.textField event.payload
  let approval := approval.touch event
  match kind with
  | .requested =>
      { approval with
        status := .requested
        kind := text "kind" ""
        summary := text "summary" ""
        commandSummary := text "command_summary" (text "command" "")
        toolName := text "tool_name" ""
        telegramCallbackId := text "telegram_callback_id" ""
        requestedAt := event.occurredAt }
  | .resolved =>
      { approval with
        status := .resolved
        decision := text "decision" ""
        resolver := text "resolver" ""
        resolvedAt := event.occurredAt }
  | .expired => { approval with status := .expired, resolvedAt := event.occurredAt }

def approvalAt (aggregateId : String) (approvals : List ApprovalState) : ApprovalState :=
  (approvals.find? fun approval => approval.aggregateId = aggregateId).getD { aggregateId }

def applyApprovalEvent (event : RuntimeEvent) (kind : ApprovalEvent) :
    Option Snapshot :=
  if (approvalAt event.aggregateId snapshot.approvals).status.isTerminal then some snapshot
  else do
    let approvals ← upsert (fun approval => approval.aggregateId = event.aggregateId)
      { aggregateId := event.aggregateId }
      (fun approval => some (approval.take builtins event kind)) snapshot.approvals
    return { snapshot with approvals }

/-- `_apply_approval_superseded`; an event without a conversation meets the approvals without
one. -/
def applyApprovalSuperseded (event : RuntimeEvent) : Snapshot :=
  { snapshot with
    approvals := snapshot.approvals.map fun approval =>
      if approval.conversationId = event.conversationId ∧ approval.status.isTerminal = false then
        { approval with status := .cancelled, error := "superseded_by_user_context" }
      else approval }

def AgentState.expire (event : RuntimeEvent) (kind : TimeoutEvent) (agent : AgentState) : AgentState :=
  match kind with
  | .idle => { agent with idleTimeoutAt := event.occurredAt }
  | .hard => { agent with hardTimeoutAt := event.occurredAt }

def applyTimeoutEvent (event : RuntimeEvent) (kind : TimeoutEvent) : Snapshot :=
  if event.agentRunId = none then snapshot
  else
    { snapshot with
      agents := modifyFirst
        (fun agent => agent.agentRunId = event.agentRunId && !agent.status.isTerminal)
        (AgentState.expire event kind) snapshot.agents }

def OrchestrationState.isOpenAt (orchestrationRunId : Option Int) (run : OrchestrationState) : Bool :=
  run.orchestrationRunId = orchestrationRunId && !run.status.isTerminal

def OrchestrationState.verify (event : RuntimeEvent) (kind : VerificationEvent)
    (run : OrchestrationState) : Option OrchestrationState :=
  let run :=
    { run with
      lastEventId := event.id
      lastEventType := some event.eventType
      lastEventAt := event.occurredAt }
  match kind with
  | .decisionRecorded => some
      { run with lastVerificationResult := builtins.textField event.payload "decision" "" }
  | .retryRequested => do
      let verifyRound ← builtins.intField event.payload "verify_round" run.verifyRound
      return { run with verifyRound }
  | _ => some run

def ConversationState.notePass (decision : String) (conversation : ConversationState) :
    ConversationState :=
  if decision = "pass" then { conversation with hasPassVerification := true } else conversation

def verifiedRuns (event : RuntimeEvent) (kind : VerificationEvent) (runs : List OrchestrationState) :
    Option (List OrchestrationState) :=
  if event.orchestrationRunId = none then some runs
  else
    changeFirst (OrchestrationState.isOpenAt event.orchestrationRunId)
      (OrchestrationState.verify builtins event kind) runs

def applyVerificationEvent (event : RuntimeEvent) (kind : VerificationEvent) :
    Option Snapshot := do
  let orchestrations ← verifiedRuns builtins event kind snapshot.orchestrations
  return { snapshot with
    orchestrations
    conversations :=
      if kind = .decisionRecorded ∧ event.conversationId ≠ none then
        modifyFirst (fun conversation => conversation.conversationId = event.conversationId)
          (ConversationState.notePass (builtins.textField event.payload "decision" ""))
          snapshot.conversations
      else snapshot.conversations }

def ConversationState.refuses (kind : ConversationEvent) (conversation : ConversationState) : Bool :=
  conversation.isTerminal && kind ∉ [.closed, .stateChanged]

def ConversationState.touch (event : RuntimeEvent) (conversation : ConversationState) :
    ConversationState :=
  { conversation with
    lastEventId := event.id
    lastEventType := some event.eventType
    lastEventAt := event.occurredAt
    conversationId := orId event.conversationId conversation.conversationId }

/-- The state that a `conversation.state.changed` leaves. -/
def stateChange (payload : Dict) (state : String) : String :=
  let named := builtins.textField payload "to" ""
  (conversationStateOfPhase (builtins.textField payload "phase" "")).getD (orText named state)

/-- An entry of `pending_context`. -/
def pendingEntry (event : RuntimeEvent) (deliveryPolicy timeKey : String) : Dict :=
  [("telegram_message_id", (event.payload.lookup "telegram_message_id").getD (.int 0)),
    ("text_preview", .string (builtins.textField event.payload "text_preview" "")),
    ("delivery_policy", .string deliveryPolicy), (timeKey, .string event.occurredAt)]

def ConversationState.take (event : RuntimeEvent) (kind : ConversationEvent)
    (conversation : ConversationState) : Option ConversationState :=
  let text := builtins.textField event.payload
  let conversation := conversation.touch event
  match kind with
  | .started => do
      let chatId ← builtins.intField event.payload "chat_id" conversation.chatId
      return { conversation with
        state := "new"
        chatId
        title := text "title" conversation.title
        mode := text "mode" conversation.mode
        workspaceAlias := text "workspace_alias" conversation.workspaceAlias
        startedAt := orText conversation.startedAt event.occurredAt }
  | .activated => some { conversation with state := text "state" conversation.state }
  | .stateChanged => some
      { conversation with state := stateChange builtins event.payload conversation.state }
  | .closed => some
      { conversation with state := text "reason" conversation.state, closedAt := event.occurredAt }
  | .userContextAppended => some
      { conversation with
        pendingContext := conversation.pendingContext ++
          [pendingEntry builtins event (text "delivery_policy" "") "appended_at"] }
  | .pendingContextRecorded => some
      { conversation with
        pendingContext := conversation.pendingContext ++
          [pendingEntry builtins event "codex_phase_boundary_review" "recorded_at"] }
  | .modeSwitched => some { conversation with mode := orText (text "to_mode" "") conversation.mode }
  | .pendingContextReviewed => some
      { conversation with
        pendingContext := conversation.pendingContext.filter fun item =>
          !builtins.same (item.getOrNull "telegram_message_id")
            (event.payload.getOrNull "telegram_message_id") }

def conversationAt (aggregateId : String) (conversations : List ConversationState) :
    ConversationState :=
  (conversations.find? fun conversation => conversation.aggregateId = aggregateId).getD { aggregateId }

def applyConversationEvent (event : RuntimeEvent) (kind : ConversationEvent) :
    Option Snapshot :=
  if (conversationAt event.aggregateId snapshot.conversations).refuses kind then some snapshot
  else do
    let conversations ← upsert (fun conversation => conversation.aggregateId = event.aggregateId)
      { aggregateId := event.aggregateId } (ConversationState.take builtins event kind)
      snapshot.conversations
    return { snapshot with conversations }

def applyEvent (event : RuntimeEvent) : Option Snapshot :=
  let snapshot := { snapshot with lastEventId := event.id, lastEventAt := event.occurredAt }
  match event.eventType with
  | .run kind => applyOrchestrationEvent builtins snapshot event kind
  | .agent kind => applyAgentEvent builtins snapshot event kind
  | .modelUsageUpdated => applyUsageEvent builtins snapshot event
  | .approval kind => applyApprovalEvent builtins snapshot event kind
  | .watchdog kind => some (applyTimeoutEvent snapshot event kind)
  | .verification kind => applyVerificationEvent builtins snapshot event kind
  | .conversation kind => applyConversationEvent builtins snapshot event kind
  | .approvalSuperseded => some (applyApprovalSuperseded snapshot event)
  | .other _ => some snapshot

/-- `replay_events`; `none` where it raises. -/
def replayEvents (events : List RuntimeEvent) : Option Snapshot :=
  events.foldlM (applyEvent builtins) {}

end Python

end Wlcodex.State
