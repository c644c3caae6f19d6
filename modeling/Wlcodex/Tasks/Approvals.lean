import Wlcodex.Tasks.Service

namespace Wlcodex.Tasks

open Wlcodex.Projector (TaskStatus ApprovalRowStatus)
open Wlcodex.State (Builtins RuntimeEvent ApprovalEvent)

/-! `ApprovalService`: clicks on the buttons of a request. -/

inductive ApprovalAction where
  | approveOnce
  | approveSession
  | deny
  | cancel
  deriving DecidableEq

namespace ApprovalAction

def text : ApprovalAction → String
  | approveOnce => "approve_once"
  | approveSession => "approve_session"
  | deny => "deny"
  | cancel => "cancel"

def ofText? (text : String) : Option ApprovalAction :=
  [approveOnce, approveSession, deny, cancel].find? fun action => action.text = text

def approves (action : ApprovalAction) : Bool := action ∈ [approveOnce, approveSession]

def status : ApprovalAction → ApprovalRowStatus
  | approveOnce | approveSession => .approved
  | deny => .denied
  | cancel => .cancelled

end ApprovalAction

/-- What a call awaits of the backend: an answer of its own request, the interruption of a turn whose
permissions are cancelled, or an answer of its batch. -/
inductive Await where
  | answer (approval : Approval) (action : ApprovalAction)
  | interrupt (approval : Approval)
  | release (taskId : Nat) (approval : Approval) (others : List Approval)
  deriving DecidableEq

/-- `get_approval`: `none` is a `KeyError`; it raises at a kind that it does not know. -/
def getApproval (id : Nat) : Program (Option Approval) := do
  let row := (← .get).approvalRequests.find? id
  require (row.all fun approval => (ApprovalKind.ofText? approval.kind).isSome)
  pure row

def isReadOnly (workspaces : List WorkspaceConfig) (workspaceAlias : String) : Bool :=
  (workspaces.find? fun workspace => workspace.workspaceAlias = workspaceAlias).any fun workspace =>
    !workspace.allowWrite

def isTerminal (status : TaskStatus) : Bool := status ∈ [.done, .failed, .aborted]

/-- `resolve_callback`, up to `backend.resolve_approval`. -/
def resolveCallback (workspaces : List WorkspaceConfig) (id : Nat) (action : String) :
    Program (Option Await) :=
  match ApprovalAction.ofText? action with
  | none => pure none
  | some action => do
      match ← getApproval id with
      | none => pure none
      | some approval =>
          let task ← getTask approval.taskId
          if isTerminal task.status then
            .perform (.resolveApproval id .cancelled "task_terminal")
            .perform (.decrementPendingApprovals approval.taskId)
            pure none
          else if approval.status ≠ .pending then pure none
          else if action.approves && isReadOnly workspaces task.workspaceAlias then pure none
          else pure (some (.answer approval action))

def settle (taskId : Nat) : Program (Option Await) := do
  let task ← getTask taskId
  if task.status = .waitingApproval then
    let remaining ← pendingApprovals taskId
    onlyIf remaining.isEmpty (setStatus taskId .running)
    pure none
  else pure none

/-- The loop of `_approve_pending_command_batch`; the requests are as they were found. -/
def releaseNext (taskId : Nat) : List Approval → Program (Option Await)
  | [] => settle taskId
  | approval :: others => pure (some (.release taskId approval others))

/-- The rest of `resolve_callback`, from where the pending count goes down. -/
def countDown (approval : Approval) (action : ApprovalAction) : Program (Option Await) := do
  .perform (.decrementPendingApprovals approval.taskId)
  if action = .approveSession && approval.kind = ApprovalKind.command.text then
    let pending ← pendingApprovals approval.taskId
    releaseNext approval.taskId
      (pending.filter fun other => other.id ≠ approval.id ∧ other.kind = ApprovalKind.command.text)
  else settle approval.taskId

def hasText (column : Option String) : Bool := column.any (· ≠ "")

def interruptOrCount (approval : Approval) (action : ApprovalAction) : Program (Option Await) :=
  if action = .cancel && approval.kind = ApprovalKind.permissions.text then do
    let task ← getTask approval.taskId
    if hasText task.activeTurnId && hasText task.codexThreadId then pure (some (.interrupt approval))
    else countDown approval action
  else countDown approval action

def resume : Await → Program (Option Await)
  | .answer approval action => do
      .perform (.resolveApproval approval.id action.status action.text)
      interruptOrCount approval action
  | .interrupt approval => countDown approval .cancel
  | .release taskId approval others => do
      .perform (.resolveApproval approval.id .approved ApprovalAction.approveSession.text)
      .perform (.decrementPendingApprovals taskId)
      releaseNext taskId others

def refuse (error : String) : Await → Program (Option Await)
  | .answer approval _ => do
      .perform (.setApprovalError approval.id error)
      pure none
  | .interrupt approval => countDown approval .cancel
  | .release taskId approval others => do
      .perform (.setApprovalError approval.id error)
      releaseNext taskId others

namespace Ledger

variable (ledger : Ledger)

/-- `UPDATE approval_requests ... WHERE task_id = ? AND codex_request_id = ? AND status = 'pending'`;
the resolution stays where there is none. -/
def closeApproval (taskId : Nat) (codexRequestId : String) (status : ApprovalRowStatus)
    (resolution : Option String) : Ledger :=
  { ledger with
    approvalRequests := ledger.approvalRequests.update
      (fun approval => approval.taskId = taskId ∧ approval.codexRequestId = codexRequestId ∧
        approval.status = .pending)
      ⟨fun approval => { approval with status, resolution := resolution.or approval.resolution },
        fun _ => rfl⟩ }

variable (builtins : Builtins) (lower : String → String)

/-- `_project_approval_event`; a negative number is no task. -/
def projectApproval (event : RuntimeEvent) (kind : ApprovalEvent) : Ledger :=
  match event.taskId.bind Int.toNat? with
  | some taskId =>
      let key := Projector.approvalKey builtins event
      match kind with
      | .requested =>
          let row := Projector.approvalRow builtins event
          let new : NewApproval := {
            taskId
            codexRequestId := key
            codexItemId := some row.codexItemId
            codexTurnId := some row.codexTurnId
            kind := row.kind
            summary := row.summary
            commandJson := row.commandJson }
          ledger.commit (.createApproval new)
      | .resolved =>
          let approved := Projector.isApprovedDecision builtins lower
            ((event.payload.lookup "decision").getD (.string ""))
          ledger.closeApproval taskId key (if approved then .approved else .denied)
            (some (builtins.textField event.payload "resolver" ""))
      | .expired => ledger.closeApproval taskId key .expired none
  | none => ledger

end Ledger

namespace Await

def approval : Await → Approval
  | answer approval _ | interrupt approval | release _ approval _ => approval

/-- The call awaits `backend.resolve_approval`. -/
def isAnswer : Await → Bool
  | interrupt _ => false
  | answer .. | release .. => true

def requests : Await → List Approval
  | answer approval _ | interrupt approval => [approval]
  | release _ approval others => approval :: others

end Await

namespace Approvals

/-- The ledger and the calls that await the backend.  The two lists keep what happened: whose answers the
backend has taken, and for which requests the pending count went down. -/
structure Desk where
  ledger : Ledger := {}
  calls : List Await := []
  answered : List Nat := []
  counted : List Nat := []

inductive Step where
  /-- Any other call of the service, and any event of the backend. -/
  | call (call : Call)
  | click (id : Nat) (action : String)
  | returned (index : Nat)
  | raised (index : Nat) (error : String)
  | projected (event : RuntimeEvent) (kind : ApprovalEvent)

def countsDown : Write → Bool
  | .decrementPendingApprovals _ => true
  | _ => false

namespace Desk

def run (desk : Desk) (others : List Await) (id : Nat) (program : Program (Option Await)) : Desk := {
  ledger := program.final Ledger.commit desk.ledger
  calls := others ++ (program.value? Ledger.commit desk.ledger).join.toList
  answered := desk.answered
  counted :=
    if (program.calls Ledger.commit desk.ledger).any countsDown then id :: desk.counted else desk.counted }

def step (service : Service) (lower : String → String) (desk : Desk) : Step → Desk
  | .call made => { desk with ledger := service.apply desk.ledger made }
  | .click id action => desk.run desk.calls id (resolveCallback service.workspaces id action)
  | .returned index =>
      match desk.calls[index]? with
      | none => desk
      | some call =>
          let next := desk.run (desk.calls.eraseIdx index) call.approval.id (resume call)
          { next with
            answered := if call.isAnswer then call.approval.id :: desk.answered else desk.answered }
  | .raised index error =>
      match desk.calls[index]? with
      | none => desk
      | some call => desk.run (desk.calls.eraseIdx index) call.approval.id (refuse error call)
  | .projected event kind =>
      { desk with ledger := desk.ledger.projectApproval service.builtins lower event kind }

end Desk

end Approvals

end Wlcodex.Tasks
