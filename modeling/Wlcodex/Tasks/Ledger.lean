import Mathlib.Data.List.Sort
import Wlcodex.Lib.Keyed
import Wlcodex.Lib.Script
import Wlcodex.Projector.Tables

namespace Wlcodex.Tasks

open Wlcodex.Lib
open Wlcodex.Relay (Dict)
open Wlcodex.Projector (TaskStatus ApprovalRowStatus)

/-! The tables of the `Ledger` that the task and approval services read, and what they write into
them. -/

structure Task where
  id : Nat
  workspaceAlias : String
  status : TaskStatus
  codexThreadId : Option String := none
  activeTurnId : Option String := none
  createdAt : Nat := 0
  updatedAt : Nat := 0
  lastPhase : String := ""
  lastSummary : String := ""
  lastError : String := ""
  changedFileCount : Nat := 0
  pendingApprovalCount : Nat := 0
  tokenInput : Int := 0
  tokenOutput : Int := 0
  worktreePath : String := ""
  deriving DecidableEq

/-- `task_events`; the payload has what is read back. -/
structure TaskEvent where
  taskId : Nat
  eventType : String
  payload : Dict

inductive ApprovalKind where
  | command
  | fileChange
  | permissions
  deriving DecidableEq

def ApprovalKind.text : ApprovalKind → String
  | .command => "command"
  | .fileChange => "file_change"
  | .permissions => "permissions"

/-- `ApprovalKind(text)`; `none` where it raises. -/
def ApprovalKind.ofText? (text : String) : Option ApprovalKind :=
  [command, fileChange, permissions].find? fun kind => kind.text = text

/-- `approval_requests`; the kind is the text of the column. -/
structure Approval where
  id : Nat
  taskId : Nat
  codexRequestId : String
  codexItemId : Option String
  codexTurnId : Option String
  kind : String
  summary : String
  commandJson : String
  status : ApprovalRowStatus := .pending
  resolution : Option String := none
  deriving DecidableEq

structure Conversation where
  id : Nat
  activeCodexTaskId : Option Nat
  deriving DecidableEq

structure OrchestrationRun where
  conversationId : Nat
  status : String
  currentStep : String
  deriving DecidableEq

structure Ledger where
  now : Nat := 0
  tasks : Keyed Task.id := .empty
  /-- `task_thread_bindings`: a task and a thread. -/
  taskThreadBindings : List (Nat × String) := []
  taskEvents : List TaskEvent := []
  approvalRequests : Keyed Approval.id := .empty
  conversationSessions : List Conversation := []
  orchestrationRuns : List OrchestrationRun := []
  submissionsFrozen : Bool := false

namespace Ledger

variable (ledger : Ledger)

def latestFirst (first second : Task) : Bool :=
  second.updatedAt < first.updatedAt ∨ second.updatedAt = first.updatedAt ∧ second.id ≤ first.id

/-- `list_tasks`, without archived tasks. -/
def listTasks (limit : Nat) : List Task :=
  ((ledger.tasks.rows.filter fun task => task.status ≠ .archived).insertionSort
    fun first second => latestFirst first second).take limit

def listWaitingTasks (workspaceAlias : String) : List Task :=
  (ledger.tasks.rows.filter fun task =>
      task.workspaceAlias = workspaceAlias ∧ task.status = .waitingSlot).insertionSort fun first second =>
    first.createdAt < second.createdAt ∨ first.createdAt = second.createdAt ∧ first.id ≤ second.id

/-- `status IN ('queued', 'running', 'waiting_approval', 'paused')`. -/
def isActive (status : TaskStatus) : Bool :=
  status ∈ [.queued, .running, .waitingApproval, .paused]

/-- Active tasks first, then as `latestFirst` has it. -/
def activeFirst (first second : Task) : Bool :=
  if isActive first.status = isActive second.status then latestFirst first second
  else isActive first.status

def findTaskByThreadId (threadId : String) : Option Task :=
  let own := ledger.tasks.rows.filter fun task => task.codexThreadId = some threadId
  let bound := ledger.tasks.rows.filter fun task => (task.id, threadId) ∈ ledger.taskThreadBindings
  let best := fun tasks : List Task =>
    (tasks.insertionSort fun first second => activeFirst first second).head?
  (best own).or (best bound)

def autoStageSteps : List String :=
  ["route_select", "collecting_context", "draft_ready", "claude_running", "claude_done", "verifying",
    "retry_ready", "codex_takeover_running", "completed"]

def taskHasRunningOrchestration (taskId : Nat) : Bool :=
  let joined := ledger.conversationSessions.flatMap fun conversation =>
    if conversation.activeCodexTaskId = some taskId then
      ledger.orchestrationRuns.filter fun run =>
        run.conversationId = conversation.id ∧ run.status = "running"
    else []
  joined.head?.any fun run => run.currentStep ∉ autoStageSteps

def listEvents (taskId limit : Nat) : List TaskEvent :=
  (ledger.taskEvents.filter fun event => event.taskId = taskId).take limit

def getApprovalByCodexId (codexRequestId : String) (taskId : Nat) : Option Approval :=
  ledger.approvalRequests.rows.find? fun approval =>
    approval.taskId = taskId ∧ approval.codexRequestId = codexRequestId

def pendingRows (taskId : Nat) : List Approval :=
  (ledger.approvalRequests.rows.filter fun approval =>
      approval.taskId = taskId ∧ approval.status = .pending).insertionSort
    fun first second => first.id ≤ second.id

def updateTask (id : Nat) (change : Patch Task.id) : Ledger :=
  { ledger with
    tasks := ledger.tasks.update (fun task => task.id = id)
      ⟨fun task => { change.apply task with updatedAt := ledger.now }, change.sameKey⟩ }

/-- `INSERT OR IGNORE`: a thread is bound once. -/
def bindThread (taskId : Nat) (threadId : String) : Ledger :=
  if ledger.taskThreadBindings.any fun binding => binding.2 = threadId then ledger
  else { ledger with taskThreadBindings := ledger.taskThreadBindings ++ [(taskId, threadId)] }

def createTask (workspaceAlias : String) (codexThreadId : Option String) (status : TaskStatus) : Ledger :=
  let id := ledger.tasks.nextKey
  let inserted := { ledger with
    tasks := ledger.tasks.append
      (fun id => {
        id, workspaceAlias, status, codexThreadId, createdAt := ledger.now, updatedAt := ledger.now })
      fun _ => rfl }
  match codexThreadId with
  | some threadId => if threadId = "" then inserted else inserted.bindThread id threadId
  | none => inserted

/-- `INSERT OR IGNORE`: a request is stored once for each task. -/
def createApproval (row : Nat → Approval) (numbered : ∀ id, (row id).id = id) : Ledger :=
  let new := row ledger.approvalRequests.nextKey
  if (ledger.getApprovalByCodexId new.codexRequestId new.taskId).isSome then ledger
  else { ledger with approvalRequests := ledger.approvalRequests.append row numbered }

def resolveApproval (id : Nat) (status : ApprovalRowStatus) (resolution : String) : Ledger :=
  { ledger with
    approvalRequests := ledger.approvalRequests.update
      (fun approval => approval.id = id ∧ approval.status = .pending)
      ⟨fun approval => { approval with status, resolution := some resolution }, fun _ => rfl⟩ }

def setApprovalError (id : Nat) (error : String) : Ledger :=
  { ledger with
    approvalRequests := ledger.approvalRequests.update (fun approval => approval.id = id)
      ⟨fun approval => { approval with
        resolution := some ("error: " ++ String.ofList (error.toList.take 240)) }, fun _ => rfl⟩ }

end Ledger

structure NewApproval where
  taskId : Nat
  codexRequestId : String
  codexItemId : Option String
  codexTurnId : Option String
  kind : String
  summary : String
  commandJson : String
  deriving DecidableEq

def NewApproval.row (new : NewApproval) (id : Nat) : Approval where
  id := id
  taskId := new.taskId
  codexRequestId := new.codexRequestId
  codexItemId := new.codexItemId
  codexTurnId := new.codexTurnId
  kind := new.kind
  summary := new.summary
  commandJson := new.commandJson

inductive Write where
  | createTask (workspaceAlias : String) (codexThreadId : Option String) (status : TaskStatus)
  | setTaskStatus (id : Nat) (status : TaskStatus) (phase summary error : String)
  | setActiveTurn (id : Nat) (turnId : String)
  | clearActiveTurn (id : Nat)
  | incrementChangedFiles (id : Nat)
  | incrementPendingApprovals (id : Nat)
  | decrementPendingApprovals (id : Nat)
  | setTokenUsage (id : Nat) (input output : Int)
  | setThreadId (id : Nat) (threadId : String)
  | addEvent (id : Nat) (eventType : String) (payload : Dict)
  | createApproval (new : NewApproval)
  | resolveApproval (id : Nat) (status : ApprovalRowStatus) (resolution : String)
  | setApprovalError (id : Nat) (error : String)

def Write.patch? : Write → Option (Nat × Patch Task.id)
  | setTaskStatus id status phase summary error => some (id,
      ⟨fun task => { task with
        status, lastPhase := phase, lastSummary := summary, lastError := error }, fun _ => rfl⟩)
  | setActiveTurn id turnId => some (id,
      ⟨fun task => { task with activeTurnId := some turnId }, fun _ => rfl⟩)
  | clearActiveTurn id => some (id, ⟨fun task => { task with activeTurnId := none }, fun _ => rfl⟩)
  | incrementChangedFiles id => some (id,
      ⟨fun task => { task with changedFileCount := task.changedFileCount + 1 }, fun _ => rfl⟩)
  | incrementPendingApprovals id => some (id,
      ⟨fun task => { task with pendingApprovalCount := task.pendingApprovalCount + 1 }, fun _ => rfl⟩)
  | decrementPendingApprovals id => some (id,
      ⟨fun task => { task with pendingApprovalCount := task.pendingApprovalCount - 1 }, fun _ => rfl⟩)
  | setTokenUsage id input output => some (id,
      ⟨fun task => { task with tokenInput := input, tokenOutput := output }, fun _ => rfl⟩)
  | setThreadId id threadId => some (id,
      ⟨fun task => { task with codexThreadId := some threadId }, fun _ => rfl⟩)
  | createTask .. | addEvent .. | createApproval .. | resolveApproval .. | setApprovalError .. => none

def Ledger.commit (ledger : Ledger) (write : Write) : Ledger :=
  let updated := write.patch?.elim ledger fun change => ledger.updateTask change.1 change.2
  match write with
  | .createTask workspaceAlias codexThreadId status =>
      ledger.createTask workspaceAlias codexThreadId status
  | .setThreadId id threadId => updated.bindThread id threadId
  | .addEvent taskId eventType payload =>
      { ledger with taskEvents := ledger.taskEvents ++ [{ taskId, eventType, payload }] }
  | .createApproval new => ledger.createApproval new.row fun _ => rfl
  | .resolveApproval id status resolution => ledger.resolveApproval id status resolution
  | .setApprovalError id error => ledger.setApprovalError id error
  | _ => updated

end Wlcodex.Tasks
