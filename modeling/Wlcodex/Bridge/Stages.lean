import Wlcodex.Bridge.TeamRuns

namespace Wlcodex.Bridge

open Wlcodex.Lib
open Wlcodex.Native (Python)
open Wlcodex.Projector (TaskStatus)
open Wlcodex.Runtime (WordClass)
open Wlcodex.Tasks (Ledger Task BackendEvent BackendEventType applyBackendEvent)

/-! The stages of a staged-auto run: `process_event` moves them when the task of an agent run ends. -/

structure AutoRun where
  id : Nat
  conversationId : Nat
  goal : String := ""
  status : String
  currentStep : String
  lastCodexAnalysis : String := ""
  lastClaudeSummary : String := ""
  lastVerificationResult : String := ""
  diagnoseJson : String := ""
  deriving DecidableEq

structure ConversationRow where
  id : Nat
  activeCodexTaskId : Option Nat
  activeClaudeRunId : Option Nat := none
  deriving DecidableEq

inductive Ending where
  | analysed
  | planned
  | implemented
  | implementationFailed
  | audited
  | auditFailed
  | takenOver
  deriving DecidableEq

def AgentRun.ending? (agent : AgentRun) : Option Ending :=
  if agent.role ∈ ["auto_analysis", "auto_context_supplement"] ∧ agent.status = "done" then some .analysed
  else if agent.role = "auto_final_plan" ∧ agent.status = "done" then some .planned
  else if agent.role ∈ ["auto_implementation", "auto_repair"] ∧ agent.status = "done" then
    some .implemented
  else if agent.role ∈ ["auto_implementation", "auto_repair"] ∧ agent.status = "failed" then
    some .implementationFailed
  else if agent.role = "auto_verification" ∧ agent.status = "done" then some .audited
  else if agent.role = "auto_verification" ∧ agent.status = "failed" then some .auditFailed
  else if agent.role = "auto_codex_takeover" ∧ agent.status = "done" then some .takenOver
  else none

structure Office where
  desk : Desk
  conversations : Keyed ConversationRow.id := .empty
  autoRuns : Keyed AutoRun.id := .empty
  team : TeamTables := {}

/-- What a bridge has besides its tables: Python, what `TaskInspector` finds in the workspace of a
task, and the diagnosis that is collected for a goal. -/
structure Surroundings where
  builtins : State.Builtins
  python : Python
  words : WordClass
  taskEvidence : Nat → List String × String
  diagnosis : String → AgentRun → String

namespace Office

variable (office : Office)

def shown : Ledger :=
  { office.desk.ledger with
    conversationSessions := office.conversations.rows.map fun row => ⟨row.id, row.activeCodexTaskId⟩
    orchestrationRuns := office.autoRuns.rows.map fun run => ⟨run.conversationId, run.status, run.currentStep⟩ }

def latestAgentRun? (taskId : Nat) : Option AgentRun :=
  office.desk.agentRuns.latest? fun run => run.hiddenTaskId = some taskId

def firstAgentRunId? (taskId : Nat) : Option Nat :=
  (office.desk.agentRuns.ordered.find? fun run => run.hiddenTaskId = some taskId).map AgentRun.id

def conversationOf? (taskId : Nat) : Option ConversationRow :=
  office.conversations.latest? fun row => row.activeCodexTaskId = some taskId ∨
    row.activeClaudeRunId.isSome ∧ row.activeClaudeRunId = office.firstAgentRunId? taskId

def isActive (conversationId : Nat) (run : AutoRun) : Bool :=
  run.conversationId = conversationId ∧ run.status ∈ ["running", "needs_user"] ∧
    run.currentStep ∈ Ledger.autoStageSteps

/-- `get_latest_active_auto_run`. -/
def latestActiveAutoRun? (conversationId : Nat) : Option AutoRun :=
  office.autoRuns.latest? (isActive conversationId)

def moved? (taskId : Nat) : Option (AgentRun × AutoRun) :=
  (office.latestAgentRun? taskId).bind fun agent =>
    (office.conversationOf? taskId).bind fun conversation =>
      (office.latestActiveAutoRun? conversation.id).map (agent, ·)

/-- `update_orchestration_run`. -/
def updateAutoRun (id : Nat) (change : Patch AutoRun.id) : Office :=
  { office with autoRuns := office.autoRuns.update (fun run => run.id = id) change }

def waiting (step : String) (results : AutoRun → AutoRun) (sameKey : ∀ run, (results run).id = run.id) :
    Patch AutoRun.id :=
  ⟨fun run => { results run with status := "needs_user", currentStep := step }, sameKey⟩

def internalTestFailureText (attemptCount : Nat) : String :=
  let attempt := max 1 attemptCount
  if 3 ≤ attempt then
    "测试连续 3 次未通过或缺少测试证据，已停止内部返工循环。请查看测试证据后决定返工、接管或结束。"
  else
    "测试第 " ++ toString attempt ++ "/3 次未通过或缺少测试证据，最多还会内部返工 " ++
      toString (3 - attempt) ++ " 次。"

def testsPassedText : String := "开发完成，测试通过。"

variable (surroundings : Surroundings)

def testGate (taskId : Nat) (run : AutoRun) (agent : AgentRun) : Option (TeamTables × Option Bool) :=
  office.team.recordImplementationReport surroundings.python (office.desk.ledger.listEvents taskId 1000)
    (surroundings.taskEvidence taskId) run.id agent

def implementationDone (taskId : Nat) (run : AutoRun) (agent : AgentRun) : Office :=
  match office.testGate surroundings taskId run agent with
  | none => office
  | some (team, gate) =>
      let team := (team.markJobDone run.id "implementer" agent.id).1
      let result := if gate = some false then internalTestFailureText (team.testerAttempts run.id)
        else testsPassedText
      { office.updateAutoRun run.id (waiting (if gate = some false then "retry_ready" else "claude_done")
          (fun run => { run with
            lastClaudeSummary := agent.completionSummary, lastVerificationResult := result })
          fun _ => rfl) with team }

def completionAllowed (run : AutoRun) (agent : AgentRun) : Bool :=
  let review := parseAuditReportPayload surroundings.words surroundings.python agent.completionSummary
  let gate := (office.team.recordAuditReport surroundings.python surroundings.words run.id agent).2
  review.decision = some .pass &&
    (gate = some true || gate = none && (office.team.runFor? run.id).isNone)

def verificationDone (run : AutoRun) (agent : AgentRun) : Office :=
  let audited := (office.team.recordAuditReport surroundings.python surroundings.words run.id agent).1
  let marked := (audited.markJobDone run.id "auditor" agent.id).1
  let allowed := office.completionAllowed surroundings run agent
  { office.updateAutoRun run.id (waiting (if allowed then "completed" else "retry_ready")
      (fun run => { run with lastVerificationResult := agent.completionSummary }) fun _ => rfl) with
    team := if allowed then marked.completeRun run.id else marked }

def advanceRun (taskId : Nat) (agent : AgentRun) (run : AutoRun) : Office :=
  let summary := agent.completionSummary
  match agent.ending? with
  | some .analysed =>
      office.updateAutoRun run.id (waiting "collecting_context" (fun run => { run with
        lastCodexAnalysis := summary, diagnoseJson := surroundings.diagnosis run.goal agent }) fun _ => rfl)
  | some .planned =>
      { office.updateAutoRun run.id (waiting "draft_ready" (fun run => { run with
          lastCodexAnalysis := summary, diagnoseJson := surroundings.diagnosis run.goal agent })
          fun _ => rfl) with
        team := (office.team.recordArchitecturePlan surroundings.python run.id agent).markArchitectDone
          surroundings.python run.id agent.id }
  | some .implemented => office.implementationDone surroundings taskId run agent
  | some .implementationFailed =>
      { office.updateAutoRun run.id
          ⟨fun run => { run with status := "failed", lastClaudeSummary := summary }, fun _ => rfl⟩ with
        team := office.team.markJobFailed run.id "implementer" agent.id }
  | some .audited => office.verificationDone surroundings run agent
  | some .auditFailed =>
      { office.updateAutoRun run.id
          ⟨fun run => { run with status := "failed", lastVerificationResult := summary }, fun _ => rfl⟩ with
        team := office.team.markJobFailed run.id "auditor" agent.id }
  | some .takenOver =>
      office.updateAutoRun run.id ⟨fun run => { run with
        status := "passed", currentStep := "completed", lastCodexAnalysis := summary }, fun _ => rfl⟩
  | none => office

/-- `_advance_staged_auto_on_completion`. -/
def advance (taskId : Nat) : Office :=
  match office.moved? taskId with
  | some (agent, run) => office.advanceRun surroundings taskId agent run
  | none => office

variable (event : BackendEvent)

/-- `apply_backend_event`. -/
def applyEvent : Office :=
  { office with
    desk := { office.desk with
      ledger := (applyBackendEvent surroundings.builtins event).final Ledger.commit office.shown } }

def applies : Bool :=
  ((applyBackendEvent surroundings.builtins event).value? Ledger.commit office.shown).isSome

def taskOf? : Option Task :=
  if surroundings.builtins.textField event.payload "threadId" "" = "" then none
  else office.shown.taskOf surroundings.builtins event

def endsTurns : Bool :=
  event.eventType ∈ [BackendEventType.turnCompleted, .threadStatusChanged]

def isTerminal (task : Task) : Bool := task.status ∈ [TaskStatus.done, .failed, .aborted]

def endedTask? : Option Task :=
  if office.applies surroundings event ∧ endsTurns event ∧ (office.taskOf? surroundings event).isSome then
    ((office.applyEvent surroundings event).taskOf? surroundings event).filter isTerminal
  else none

def synced (task : Task) : Office :=
  { office with desk := office.desk.syncDirectAgentRunStatus surroundings.builtins task }

def processEvent : Office :=
  let applied := office.applyEvent surroundings event
  match office.endedTask? surroundings event with
  | some task => (applied.synced surroundings task).advance surroundings task.id
  | none => applied

end Office

end Wlcodex.Bridge
