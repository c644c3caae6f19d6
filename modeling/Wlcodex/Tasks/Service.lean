import Wlcodex.Tasks.Ledger

namespace Wlcodex.Tasks

open Wlcodex.Lib
open Wlcodex.Relay (Dict str truthy firstTruthy)
open Wlcodex.State (Builtins orText)
open Wlcodex.Projector (TaskStatus bindable)

/-! `TaskService`, as programs over the ledger. -/

abbrev Program := Script Ledger Write

structure WorkspaceConfig where
  workspaceAlias : String
  allowWrite : Bool
  deriving DecidableEq

def validTransitions : TaskStatus → List TaskStatus
  | .queued => [.running, .waitingApproval, .failed, .aborted]
  | .running => [.waitingApproval, .done, .failed, .paused, .aborted]
  | .waitingApproval => [.running, .done, .failed, .paused, .aborted]
  | .done => [.queued, .archived]
  | .failed => [.queued, .archived]
  | .paused => [.queued, .done, .aborted, .archived]
  | .aborted => [.queued, .archived]
  | .waitingSlot => [.queued, .failed, .aborted, .archived]
  | .archived => []

def activeWriteTask (tasks : List Task) (workspaceAlias : String) (exclude : Option Nat) : Option Task :=
  tasks.find? fun task =>
    exclude ≠ some task.id ∧ task.workspaceAlias = workspaceAlias ∧ Ledger.isActive task.status ∧
      task.worktreePath = ""

/-- The task that the window of `list_tasks` shows as the writer of a workspace. -/
def Ledger.shownWriter (ledger : Ledger) (workspaceAlias : String) (exclude : Option Nat) : Option Task :=
  activeWriteTask (ledger.listTasks 100) workspaceAlias exclude

def require (holds : Bool) : Program Unit := if holds then pure () else .raised

def onlyIf (holds : Bool) (part : Program Unit) : Program Unit := if holds then part else pure ()

def getTask (id : Nat) : Program Task := do
  match (← .get).tasks.find? id with
  | some task => pure task
  | none => .raised

def setStatus (id : Nat) (status : TaskStatus) : Program Unit :=
  .perform (.setTaskStatus id status "" "" "")

def addEvent (id : Nat) (eventType : String) : Program Unit := .perform (.addEvent id eventType [])

def transition (id : Nat) (status : TaskStatus) : Program Unit := do
  let task ← getTask id
  require (status ∈ validTransitions task.status || task.status = status)
  setStatus id status

section Workspaces

variable (workspaces : List WorkspaceConfig)

def getWorkspace (workspaceAlias : String) : Program WorkspaceConfig :=
  match workspaces.find? fun workspace => workspace.workspaceAlias = workspaceAlias with
  | some workspace => pure workspace
  | none => .raised

def ensureWorkspaceWritable (workspaceAlias : String) : Program WorkspaceConfig := do
  let workspace ← getWorkspace workspaces workspaceAlias
  require workspace.allowWrite
  pure workspace

end Workspaces

def ensureWorkspaceAvailable (workspaceAlias : String) (exclude : Option Nat) : Program Unit := do
  require ((← .get).shownWriter workspaceAlias exclude).isNone

def assertSubmissionAllowed : Program Unit := do
  require (!(← .get).submissionsFrozen)

def recordWorkspaceBaseline (id : Nat) : Program Unit := addEvent id "task_workspace_baseline"

/-- `create_task`; the number of the new task. -/
def createTask (workspaceAlias : String) (codexThreadId : Option String) (status : TaskStatus) :
    Program Nat := do
  let id := (← .get).tasks.nextKey
  .perform (.createTask workspaceAlias codexThreadId status)
  pure id

section Lifecycle

variable (workspaces : List WorkspaceConfig)

def reserveTask (workspaceAlias prompt : String) : Program Unit := do
  assertSubmissionAllowed
  let workspace ← ensureWorkspaceWritable workspaces workspaceAlias
  ensureWorkspaceAvailable workspaceAlias none
  let id ← createTask workspace.workspaceAlias none .queued
  .perform (.addEvent id "task_reserved" [("prompt", .string prompt)])
  recordWorkspaceBaseline id

def startTask (workspaceAlias : String) (codexThreadId : Option String) : Program Unit := do
  assertSubmissionAllowed
  let workspace ← getWorkspace workspaces workspaceAlias
  ensureWorkspaceAvailable workspaceAlias none
  let id ← createTask workspace.workspaceAlias codexThreadId .queued
  addEvent id "task_created"
  recordWorkspaceBaseline id

def reserveWaitingTask (workspaceAlias prompt : String) : Program Unit := do
  assertSubmissionAllowed
  let workspace ← ensureWorkspaceWritable workspaces workspaceAlias
  let id ← createTask workspace.workspaceAlias none .waitingSlot
  .perform (.addEvent id "task_waiting_slot_created" [("prompt", .string prompt)])

def setTaskThread (id : Nat) (threadId : String) : Program Unit := do
  .perform (.setThreadId id threadId)
  addEvent id "thread_started"

def TaskEvent.prompt? (event : TaskEvent) : Option String :=
  if event.eventType ∈ ["task_waiting_slot_created", "task_reserved"] then
    match event.payload.lookup "prompt" with
    | some (.string prompt) => if prompt = "" then none else some prompt
    | _ => none
  else none

/-- `get_stored_prompt`, where it finds one. -/
def Ledger.storedPrompt? (ledger : Ledger) (id : Nat) : Option String :=
  (ledger.listEvents id 200).findSome? TaskEvent.prompt?

/-- `promote_waiting_task`, to where the task is queued. -/
def queueWaitingTask (id : Nat) : Program Task := do
  assertSubmissionAllowed
  let task ← getTask id
  require (task.status = .waitingSlot)
  require ((← .get).storedPrompt? id).isSome
  transition id .queued
  addEvent id "task_promoted_from_waiting"
  pure task

def promoteWaitingTask (id : Nat) : Program Unit := do
  let task ← queueWaitingTask id
  let _ ← getWorkspace workspaces task.workspaceAlias
  recordWorkspaceBaseline id

def continueTask (id : Nat) (newCodexThreadId : Option String) : Program Unit := do
  let task ← getTask id
  require (task.status ∉ [.waitingSlot, .archived, .queued, .running, .waitingApproval])
  require (task.codexThreadId.isSome || newCodexThreadId.isSome)
  let _ ← ensureWorkspaceWritable workspaces task.workspaceAlias
  ensureWorkspaceAvailable task.workspaceAlias (some id)
  transition id .queued
  .perform (.clearActiveTurn id)
  addEvent id "user_continue"

def steerTask (id : Nat) : Program Unit := do
  let task ← getTask id
  require (task.status ≠ .waitingSlot)
  require task.activeTurnId.isSome
  require (task.status ∈ [.running, .waitingApproval])
  let _ ← ensureWorkspaceWritable workspaces task.workspaceAlias
  addEvent id "user_steer"

end Lifecycle

def pauseTask (id : Nat) : Program Unit := do
  let task ← getTask id
  require (task.status ∈ [.running, .waitingApproval, .queued])
  transition id .paused
  addEvent id "user_paused"

def abortTask (id : Nat) : Program Unit := do
  let task ← getTask id
  require (task.status ∈ [.running, .waitingApproval, .queued, .paused, .waitingSlot])
  .perform (.clearActiveTurn id)
  transition id .aborted
  addEvent id "user_aborted"

def archiveTask (id : Nat) : Program Unit := do
  let task ← getTask id
  require (task.status ∉ [.running, .queued, .waitingApproval])
  transition id .archived
  addEvent id "user_archived"

def failTask (id : Nat) (error : String) : Program Unit := do
  let task ← getTask id
  require (task.status ∉ [.done, .archived])
  transition id .failed
  .perform (.setTaskStatus id .failed "" "" (String.ofList (error.toList.take 240)))
  addEvent id "task_failed"

/-- `drain_workspace`, to where it awaits the thread of the task that it returns; a task whose
promotion raises `RuntimeError` is failed.  The thread is then stored by `set_task_thread`, and a backend that raises has the task
failed by `fail_task`. -/
def drainWorkspace (workspaces : List WorkspaceConfig) (workspaceAlias : String) :
    Program (Option Task) := do
  let ledger ← .get
  if (ledger.shownWriter workspaceAlias none).isSome then pure none
  else
    match (ledger.listWaitingTasks workspaceAlias).head? with
    | none => pure none
    | some next =>
        let promoted ← Script.recover
          (do
            let task ← queueWaitingTask next.id
            pure (some task))
          (do
            failTask next.id "missing stored prompt"
            pure none)
        match promoted with
        | none => pure none
        | some task =>
            let _ ← getWorkspace workspaces task.workspaceAlias
            recordWorkspaceBaseline next.id
            pure (some task)

inductive BackendEventType where
  | turnStarted
  | turnCompleted
  | approvalRequested
  | planUpdated
  | diffUpdated
  | fileChangeDelta
  | tokenUsageUpdated
  | commandOutputDelta
  | agentMessageDelta
  | threadStatusChanged
  | itemStarted
  | itemCompleted
  | other (name : String)
  deriving DecidableEq

structure BackendEvent where
  eventType : BackendEventType
  payload : Dict

/-- What `turn_completed` says of the turn. -/
inductive TurnOutcome where
  | failed
  | interrupted
  | inProgress
  | completed
  deriving DecidableEq

def TurnOutcome.ofText (text : String) : TurnOutcome :=
  if text = "failed" then .failed
  else if text = "interrupted" then .interrupted
  else if text = "inProgress" then .inProgress
  else .completed

def notNull : Json → Bool
  | .null => false
  | _ => true

def isText (wanted : String) : Json → Bool
  | .string text => text = wanted
  | _ => false

def members? : Json → Option Dict
  | .object members => some members
  | _ => none

section Python

variable (builtins : Builtins)

variable (payload : Dict)

def turnStatus : String :=
  let nested := ((payload.lookup "turn").bind members?).bind fun turn => firstTruthy turn ["status"]
  ((nested.or (firstTruthy payload ["status"])).map (str builtins.repr)).getD "completed"

def turnOutcome : TurnOutcome := .ofText (turnStatus builtins payload)

def turnErrorMessage : String :=
  let nested := (((payload.lookup "turn").bind members?).bind fun turn => turn.lookup "error").filter
    notNull
  let error := (nested.or (payload.lookup "error")).getD .null
  match error with
  | .object members =>
      let message := Relay.strip (builtins.textField members "message" "")
      let details := Relay.strip
        (((firstTruthy members ["additionalDetails"]).map (str builtins.repr)).getD "")
      let code := ((firstTruthy members ["codexErrorInfo"]).map (str builtins.repr)).getD ""
      " | ".intercalate ([message, details, code].filter (· ≠ ""))
  | value => if truthy value then Relay.strip (str builtins.repr value) else ""

def threadStatusType : String :=
  match (payload.lookup "status").getD ((payload.lookup "phase").getD (.string "")) with
  | .object members =>
      let statusType := builtins.textField members "type" ""
      match members.lookup "activeFlags" with
      | some (.array (first :: rest)) =>
          if statusType = "active" then
            "active:" ++ ",".intercalate ((first :: rest).map (str builtins.repr))
          else statusType
      | _ => statusType
  | value => str builtins.repr value

/-- What `int` makes of a token count: `none` is a `ValueError` or a `TypeError`. -/
inductive Count where
  | number (value : Int)
  | unreadable
  | overflow

def count (key : String) : Count :=
  match payload.lookup key with
  | none => .number 0
  | some (.infinity _) => .overflow
  | some value => (builtins.int? value).elim .unreadable .number

def tokenFields : Dict :=
  ((((payload.lookup "tokenUsage").bind members?).bind fun usage => usage.lookup "last").bind
    members?).getD payload

/-- `set_token_usage` with what can be read; the input is read first. -/
def storeTokenUsage (id : Nat) (payload : Dict) : Program Unit :=
  let fields := tokenFields payload
  match count builtins fields "inputTokens", count builtins fields "outputTokens" with
  | .overflow, _ => .raised
  | .unreadable, _ => pure ()
  | .number _, .overflow => .raised
  | .number _, .unreadable => pure ()
  | .number input, .number output =>
      if bindable input && bindable output then .perform (.setTokenUsage id input output) else .raised

/-- `_mark_running_from_backend_activity`. -/
def markRunning (task : Task) : Program Unit :=
  if task.status = .queued then transition task.id .running else pure ()

def markBackendFailed (id : Nat) (error phase eventType : String) : Program Unit := do
  .perform (.setTaskStatus id .failed (String.ofList (phase.toList.take 120)) ""
    (String.ofList (error.toList.take 240)))
  addEvent id eventType
  addEvent id "task_failed"

/-- `pending_approvals`; it raises at a kind that it does not know. -/
def pendingApprovals (id : Nat) : Program (List Approval) := do
  let rows := (← .get).pendingRows id
  require (rows.all fun approval => (ApprovalKind.ofText? approval.kind).isSome)
  pure rows

/-- A turn that is completed; `task` is as it was found. -/
def finishTurn (task : Task) : Program Unit := do
  if task.status ∈ [.failed, .aborted, .archived] then pure ()
  else
    let pending ← pendingApprovals task.id
    if !pending.isEmpty then
      if task.status = .paused then
        .perform (.setTaskStatus task.id .paused "waiting_approval" "" "")
      else transition task.id .waitingApproval
    else if (← .get).taskHasRunningOrchestration task.id then setStatus task.id .running
    else
      transition task.id .done
      if task.lastSummary ≠ "" then .perform (.setTaskStatus task.id .done "" task.lastSummary "")
    addEvent task.id "turn_completed"

def completeTurn (task : Task) : Program Unit := do
  markRunning task
  .perform (.clearActiveTurn task.id)
  match turnOutcome builtins payload with
  | .failed =>
      markBackendFailed task.id (orText (turnErrorMessage builtins payload) "Codex turn failed")
        "failed" "turn_failed"
  | .interrupted =>
      if task.status ∉ [.aborted, .archived] then
        .perform (.setTaskStatus task.id .aborted "interrupted" "" "Codex turn interrupted")
        addEvent task.id "turn_interrupted"
  | .inProgress => .perform (.setTaskStatus task.id task.status "inProgress" "" "")
  | .completed => finishTurn task

def storedPayload (kind : ApprovalKind) (payload : Dict) : String :=
  let command := (payload.lookup "command").getD (.string "")
  if kind = .permissions then
    match (payload.lookup "permissions").getD (.object []) with
    | .object members => String.ofList (Json.write .spaced (.object members))
    | value => str builtins.repr value
  else if (payload.lookup "responseSchema").any (isText "legacy_review_decision") then
    String.ofList (Json.write .spaced (.object
      [("response_schema", .string "legacy_review_decision"), ("command", command)]))
  else
    String.ofList (Json.write .spaced (.object
      [("command", command),
        ("available_decisions", (payload.lookup "availableDecisions").getD .null),
        ("proposed_execpolicy_amendment",
          (payload.lookup "proposedExecpolicyAmendment").getD .null)]))

def newApproval (task : Task) : NewApproval :=
  let text := builtins.textField payload
  let optional := fun key => some (text key "") |>.filter (· ≠ "")
  let kind := (ApprovalKind.ofText? (text "kind" "command")).getD .command
  { taskId := task.id
    codexRequestId := text "codexRequestId" (text "id" "")
    codexItemId := optional "codexItemId"
    codexTurnId := optional "codexTurnId"
    kind := kind.text
    summary := ((firstTruthy payload ["summary", "reason", "command"]).map (str builtins.repr)).getD ""
    commandJson := storedPayload builtins kind payload }

/-- `get_approval_by_codex_id`; it raises at a kind that it does not know. -/
def findApproval (codexRequestId : String) (taskId : Nat) : Program (Option Approval) := do
  let row := (← .get).getApprovalByCodexId codexRequestId taskId
  require (row.all fun approval => (ApprovalKind.ofText? approval.kind).isSome)
  pure row

def waitForApproval (task : Task) : Program Unit := do
  if task.status = .paused then
    .perform (.setTaskStatus task.id .paused "active:waitingOnApproval" "" "")
  else transition task.id .waitingApproval
  addEvent task.id "approval_requested"

def requestApproval (task : Task) : Program Unit := do
  let new := newApproval builtins payload task
  let existing ← findApproval new.codexRequestId task.id
  onlyIf (new.codexTurnId.isSome && task.activeTurnId.isNone)
    (.perform (.setActiveTurn task.id (new.codexTurnId.getD "")))
  .perform (.createApproval new)
  onlyIf existing.isNone (.perform (.incrementPendingApprovals task.id))
  waitForApproval task

def sendMessageDelta (task : Task) : Program Unit := do
  markRunning task
  let delta := builtins.textField payload "delta" ""
  if delta ≠ "" then
    let summary := String.ofList ((builtins.textField payload "summary" delta).toList.take 5000)
    if !(← .get).taskHasRunningOrchestration task.id then
      .perform (.setTaskStatus task.id task.status "" summary "")
    .perform (.addEvent task.id "agent_message_delta"
      [("delta", .string delta), ("summary", .string summary)])

def changeThreadStatus (task : Task) : Program Unit := do
  let status := threadStatusType builtins payload
  if status = "systemError" then
    .perform (.clearActiveTurn task.id)
    markBackendFailed task.id "Codex thread entered systemError" status "thread_system_error"
  else if status ≠ "" then
    markRunning task
    .perform (.setTaskStatus task.id task.status (String.ofList (status.toList.take 120)) "" "")

def taskEvent (event : BackendEvent) (task : Task) : Program Unit :=
  let payload := event.payload
  let text := builtins.textField payload
  match event.eventType with
  | .turnStarted => do
      .perform (.setActiveTurn task.id (text "turnId" ""))
      transition task.id .running
      addEvent task.id "turn_started"
  | .turnCompleted => completeTurn builtins payload task
  | .approvalRequested => requestApproval builtins payload task
  | .planUpdated => do
      markRunning task
      .perform (.setTaskStatus task.id task.status "planning" (text "plan" (text "summary" "")) "")
  | .diffUpdated => do
      markRunning task
      .perform (.incrementChangedFiles task.id)
      if text "diff" (text "summary" "") ≠ "" then addEvent task.id "diff_updated"
  | .fileChangeDelta => markRunning task
  | .tokenUsageUpdated => do
      markRunning task
      storeTokenUsage builtins task.id payload
  | .commandOutputDelta => do
      markRunning task
      if text "delta" (text "text" "") ≠ "" then addEvent task.id "command_output"
  | .agentMessageDelta => sendMessageDelta builtins payload task
  | .threadStatusChanged => changeThreadStatus builtins payload task
  | .itemStarted => do
      markRunning task
      addEvent task.id "item_started"
  | .itemCompleted => do
      markRunning task
      addEvent task.id "item_completed"
  | .other _ => pure ()

def Ledger.taskOf (ledger : Ledger) (event : BackendEvent) : Option Task :=
  ledger.findTaskByThreadId (builtins.textField event.payload "threadId" "")

def applyBackendEvent (event : BackendEvent) : Program Unit := do
  match (← .get).taskOf builtins event with
  | none => pure ()
  | some task => taskEvent builtins event task

end Python

inductive Call where
  | reserve (workspaceAlias prompt : String)
  | start (workspaceAlias : String) (codexThreadId : Option String)
  | reserveWaiting (workspaceAlias prompt : String)
  | setThread (id : Nat) (threadId : String)
  | promote (id : Nat)
  | continue_ (id : Nat) (newCodexThreadId : Option String)
  | steer (id : Nat)
  | pause (id : Nat)
  | abort (id : Nat)
  | archive (id : Nat)
  | fail (id : Nat) (error : String)
  | drain (workspaceAlias : String)
  | event (event : BackendEvent)
  | clock (now : Nat)
  | freeze (frozen : Bool)
  | orchestrate (conversations : List Conversation) (runs : List OrchestrationRun)

structure Service where
  builtins : Builtins
  workspaces : List WorkspaceConfig

namespace Service

variable (service : Service)

def program : Call → Program Unit
  | .reserve workspaceAlias prompt => reserveTask service.workspaces workspaceAlias prompt
  | .start workspaceAlias codexThreadId => startTask service.workspaces workspaceAlias codexThreadId
  | .reserveWaiting workspaceAlias prompt =>
      reserveWaitingTask service.workspaces workspaceAlias prompt
  | .setThread id threadId => setTaskThread id threadId
  | .promote id => promoteWaitingTask service.workspaces id
  | .continue_ id newCodexThreadId => continueTask service.workspaces id newCodexThreadId
  | .steer id => steerTask service.workspaces id
  | .pause id => pauseTask id
  | .abort id => abortTask id
  | .archive id => archiveTask id
  | .fail id error => failTask id error
  | .drain workspaceAlias => do
      let _ ← drainWorkspace service.workspaces workspaceAlias
      pure ()
  | .event event => applyBackendEvent service.builtins event
  | .clock _ | .freeze _ | .orchestrate _ _ => pure ()

def apply (ledger : Ledger) (call : Call) : Ledger :=
  match call with
  | .clock now => { ledger with now }
  | .freeze submissionsFrozen => { ledger with submissionsFrozen }
  | .orchestrate conversationSessions orchestrationRuns =>
      { ledger with conversationSessions, orchestrationRuns }
  | call => (service.program call).final Ledger.commit ledger

end Service

def sampleService : Service := ⟨State.sampleBuiltins, [⟨"demo", true⟩]⟩

end Wlcodex.Tasks
