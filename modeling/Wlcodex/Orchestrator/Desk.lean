import Wlcodex.Orchestrator.Rounds
import Wlcodex.Projector.Tables

namespace Wlcodex.Orchestrator

open Wlcodex.Lib Act
open Wlcodex.Bridge (Verdict)
open Wlcodex.Projector (TaskStatus)

/-! What `OrchestrationRunner` works on. -/

inductive Arrival where
  | recorded (textPreview : String)
  | reviewed (run : Nat)

inductive RuntimeEvent where
  | phaseChanged (phase : String) (verifyRound : Int)
  | agentRunStarted (id : Nat) (agent role : String)
  | agentRunActivity (id : Nat) (deltaPreview : String)
  | agentRunCompleted (id : Nat) (summary : String)
  | agentRunFailed (id : Nat) (reason : String)
  | securityTokenAccessAttempted (aggregate : Nat) (finding agent : String)
  | securityDeliveryBlocked (aggregate : Nat) (finding agent : String)
  | verificationStarted (verifyRound : Int)
  | verificationDecisionRecorded (decision : Verdict) (reason : String) (verifyRound : Int) (implicit : Bool)
  | verificationRetryRequested (verifyRound : Int) (reason : String)
  | verificationCompleted (decision : Verdict) (verifyRound : Int)
  | pendingContextRecorded (textPreview : String)
  | pendingContextReviewed (run : Nat)
  | runCompleted (verifyRound : Int)
  | runFailed (reason : String) (lastActiveAgent : Option String) (verifyRound : Option Int) (decision : Option Verdict)

def Arrival.event : Arrival → RuntimeEvent
  | recorded textPreview => .pendingContextRecorded textPreview
  | reviewed run => .pendingContextReviewed run

structure AgentRun where
  id : Nat
  agent : String
  role : String
  status : String := "queued"
  externalSessionId : String := ""
  promptPacketSummary : String := ""
  completionSummary : String := ""

structure OrchestrationRun where
  status : String := "running"
  currentStep : String := ""
  verifyRound : Int := 0
  lastCodexAnalysis : String := ""
  lastClaudeSummary : String := ""
  lastVerificationResult : String := ""

structure OrchestrationDecision where
  decision : String
  reason : String
  nextAgent : String

/-- The local variables of `_run_chief_engineer`. -/
structure Locals where
  terminalSent : Bool := false
  orchResultStatus : String := "running"
  verifyRound : Int := 0
  codexAnalysisText : String := ""
  claudeImplementationText : String := ""
  verificationText : String := ""
  terminalText : String := ""
  codexAnalysisStatus : String := "running"
  implementationNoticeSent : Bool := false
  codexVerificationRunId : Option Nat := none
  lastVerificationDecision : Option Verdict := none
  /-- unbound until a verification starts -/
  hadPendingForVerify : Option Bool := none

structure Desk where
  taskStatus : TaskStatus
  run : OrchestrationRun := {}
  decisions : List OrchestrationDecision := []
  agentRuns : List AgentRun
  nextAgentRunId : Nat
  activeClaudeRun : Option Nat := none
  claudeSession : String := ""
  conversationSummary : String := ""
  events : List RuntimeEvent := []
  /-- how often something else could run -/
  awaited : Nat := 0
  /-- `agent_run_id` of the Claude wrapper -/
  claudeRunId : Option Nat := none
  latestSessionId : String := ""
  locals : Locals := {}

inductive InteractionEvent where
  | textDelta (text : String)
  | runtimeProgress (phase agent : String) (retryCount : Int)
  | runtimeHeartbeat (phase agent : String) (retryCount : Int)
  | runCompleted
  | runFailed (text : String)

/-- A renderer: what each call raises may depend on everything that was done before. -/
structure Renderer where
  hasRuntimeStatusSurface : Option (Desk → Except String Bool)
  runtimeProgress : Bool
  handle : Desk → InteractionEvent → Option String

/-- What one run of `_run_chief_engineer` is given, and what happens around it. -/
structure Launch where
  prompt : String
  orchestrationRunId : Nat
  codexAnalysisRunId : Nat
  resumeSessionId : String := ""
  renderer : Option Renderer
  /-- the orchestrator has `set_pending_user_context` -/
  takesContext : Bool := true
  /-- ten seconds have passed since the last heartbeat -/
  heartbeatDue : Desk → Bool
  arrivals : Nat → List Arrival

namespace Desk

variable (desk : Desk)

def append (event : RuntimeEvent) : Desk := { desk with events := desk.events ++ [event] }

def wait (launch : Launch) : Desk :=
  { desk with
    awaited := desk.awaited + 1
    events := desk.events ++ (launch.arrivals desk.awaited).map Arrival.event }

/-- `create_agent_run`; the row gets the next id. -/
def createAgentRun (agent role promptPacketSummary : String) (externalSessionId : String) : Desk :=
  { desk with
    agentRuns := desk.agentRuns ++ [{ id := desk.nextAgentRunId, agent, role, externalSessionId, promptPacketSummary }]
    nextAgentRunId := desk.nextAgentRunId + 1 }

def changeAgentRun (id : Nat) (change : AgentRun → AgentRun) : Desk :=
  { desk with agentRuns := desk.agentRuns.map fun row => if row.id = id then change row else row }

/-- `update_agent_run_status`, with a summary. -/
def endAgentRun (id : Nat) (status summary : String) : Desk :=
  desk.changeAgentRun id fun row => { row with status, completionSummary := front 2000 summary }

def runAgent (id : Nat) : Desk := desk.changeAgentRun id fun row => { row with status := "running" }

def assign (update : Locals → Locals) : Desk := { desk with locals := update desk.locals }

end Desk

section Calls

variable (launch : Launch)

def change (update : Desk → Desk) : Act Desk Unit := modify update

def log (event : RuntimeEvent) : Act Desk Unit := change fun desk => desk.append event

def render (event : InteractionEvent) : Act Desk Unit :=
  match launch.renderer with
  | none => pure ()
  | some renderer => do
      let desk ← get
      change fun desk => desk.wait launch
      match renderer.handle desk event with
      | some exc => raise exc
      | none => pure ()

def usesRuntimeProgress : Act Desk Bool :=
  match launch.renderer with
  | none => pure false
  | some renderer =>
      match renderer.hasRuntimeStatusSurface with
      | none => pure renderer.runtimeProgress
      | some surface => do
          let desk ← get
          change fun desk => { desk with awaited := desk.awaited + 1 }
          match surface desk with
          | .error exc => raise exc
          | .ok shown => pure shown

end Calls

end Wlcodex.Orchestrator
