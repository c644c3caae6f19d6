import Wlcodex.Tasks.Service

namespace Wlcodex.Tasks

open Wlcodex.Lib Script
open Wlcodex.Relay (Dict)
open Wlcodex.State (Builtins)

/-! Statements that concern no request of an approval, and the programs that commit no other. -/

def Write.isPlain : Write → Bool
  | createApproval _ | resolveApproval .. | setApprovalError .. | incrementPendingApprovals _
  | decrementPendingApprovals _ => false
  | createTask .. | setTaskStatus .. | setActiveTurn .. | clearActiveTurn _ | incrementChangedFiles _
  | setTokenUsage .. | setThreadId .. | addEvent .. => true

abbrev Plain {α : Type} (program : Program α) : Prop := program.Only fun write => write.isPlain = true

section Plain

variable {id : Nat} {workspaces : List WorkspaceConfig} {workspaceAlias : String} {builtins : Builtins}
  {payload : Dict} {task : Task} {ok : Write → Prop}

theorem only_require {holds : Bool} : (require holds).Only ok := by
  unfold require
  split
  · trivial
  · trivial

theorem plain_onlyIf {holds : Bool} {part : Program Unit} (plain : Plain part) :
    Plain (onlyIf holds part) := by
  unfold onlyIf
  split
  · exact plain
  · trivial

theorem only_getTask : (getTask id).Only ok := by
  refine only_bind only_get fun ledger => ?_
  split
  · trivial
  · trivial

theorem plain_transition {status : Projector.TaskStatus} : Plain (transition id status) :=
  only_bind only_getTask fun _ => only_bind only_require fun _ => only_perform rfl

theorem only_getWorkspace : (getWorkspace workspaces workspaceAlias).Only ok := by
  unfold getWorkspace
  split
  · trivial
  · trivial

theorem only_ensureWritable : (ensureWorkspaceWritable workspaces workspaceAlias).Only ok :=
  only_bind only_getWorkspace fun _ => only_bind only_require fun _ => trivial

theorem only_ensureAvailable {exclude : Option Nat} :
    (ensureWorkspaceAvailable workspaceAlias exclude).Only ok :=
  only_bind only_get fun _ => only_require

theorem only_assertAllowed : assertSubmissionAllowed.Only ok := only_bind only_get fun _ => only_require

theorem plain_createTask {codexThreadId : Option String} {status : Projector.TaskStatus} :
    Plain (createTask workspaceAlias codexThreadId status) :=
  only_bind only_get fun _ => only_bind (only_perform rfl) fun _ => trivial

theorem plain_queueWaitingTask : Plain (queueWaitingTask id) :=
  only_bind only_assertAllowed fun _ => only_bind only_getTask fun _ =>
    only_bind only_require fun _ => only_bind only_get fun _ => only_bind only_require fun _ =>
      only_bind plain_transition fun _ => only_bind (only_perform rfl) fun _ => trivial

theorem plain_failTask {error : String} : Plain (failTask id error) :=
  only_bind only_getTask fun _ => only_bind only_require fun _ =>
    only_bind plain_transition fun _ => only_bind (only_perform rfl) fun _ => only_perform rfl

theorem plain_drainWorkspace : Plain (drainWorkspace workspaces workspaceAlias) := by
  refine only_bind only_get fun ledger => ?_
  split
  · trivial
  · split
    · trivial
    · refine only_bind (only_recover ?_ ?_) fun promoted => ?_
      · exact only_bind plain_queueWaitingTask fun _ => trivial
      · exact only_bind plain_failTask fun _ => trivial
      · cases promoted with
        | none => trivial
        | some task =>
            exact only_bind only_getWorkspace fun _ => only_bind (only_perform rfl) fun _ => trivial

theorem only_pendingApprovals : (pendingApprovals id).Only ok :=
  only_bind only_get fun _ => only_bind only_require fun _ => trivial

theorem plain_markRunning : Plain (markRunning task) := by
  unfold markRunning
  split
  · exact plain_transition
  · trivial

theorem plain_markBackendFailed {error phase eventType : String} :
    Plain (markBackendFailed id error phase eventType) :=
  only_bind (only_perform rfl) fun _ => only_bind (only_perform rfl) fun _ => only_perform rfl

theorem only_storeTokenUsage (allowed : ∀ input output, ok (.setTokenUsage id input output)) :
    (storeTokenUsage builtins id payload).Only ok := by
  unfold storeTokenUsage
  dsimp only
  split
  · trivial
  · trivial
  · trivial
  · trivial
  · split
    · exact only_perform (allowed _ _)
    · trivial

theorem plain_finishTurn : Plain (finishTurn task) := by
  have note : Plain (addEvent task.id "turn_completed") := only_perform rfl
  unfold finishTurn
  split
  · trivial
  · refine only_bind only_pendingApprovals fun pending => ?_
    split
    · split
      · exact only_bind (only_perform rfl) fun _ => note
      · exact only_bind plain_transition fun _ => note
    · refine only_bind only_get fun ledger => ?_
      split
      · exact only_bind (only_perform rfl) fun _ => note
      · refine only_bind plain_transition fun _ => ?_
        split
        · exact only_bind (only_perform rfl) fun _ => note
        · exact note

theorem plain_completeTurn : Plain (completeTurn builtins payload task) := by
  refine only_bind plain_markRunning fun _ => only_bind (only_perform rfl) fun _ => ?_
  split
  · exact plain_markBackendFailed
  · split
    · exact only_bind (only_perform rfl) fun _ => only_perform rfl
    · trivial
  · exact only_perform rfl
  · exact plain_finishTurn

theorem plain_sendMessageDelta : Plain (sendMessageDelta builtins payload task) := by
  refine only_bind plain_markRunning fun _ => ?_
  dsimp only
  split
  · refine only_bind only_get fun ledger => ?_
    split
    · exact only_bind (only_perform rfl) fun _ => only_perform rfl
    · exact only_perform rfl
  · trivial

theorem plain_changeThreadStatus : Plain (changeThreadStatus builtins payload task) := by
  unfold changeThreadStatus
  dsimp only
  split
  · exact only_bind (only_perform rfl) fun _ => plain_markBackendFailed
  · split
    · exact only_bind plain_markRunning fun _ => only_perform rfl
    · trivial

theorem plain_waitForApproval : Plain (waitForApproval task) := by
  unfold waitForApproval
  split
  · exact only_bind (only_perform rfl) fun _ => only_perform rfl
  · exact only_bind plain_transition fun _ => only_perform rfl

theorem plain_taskEvent {event : BackendEvent} (other : event.eventType ≠ .approvalRequested) :
    Plain (taskEvent builtins event task) := by
  unfold taskEvent
  cases type : event.eventType with
  | turnStarted =>
      exact only_bind (only_perform rfl) fun _ => only_bind plain_transition fun _ => only_perform rfl
  | turnCompleted => exact plain_completeTurn
  | approvalRequested => exact absurd type other
  | planUpdated | itemStarted | itemCompleted => exact only_bind plain_markRunning fun _ => only_perform rfl
  | diffUpdated =>
      refine only_bind plain_markRunning fun _ => only_bind (only_perform rfl) fun _ => ?_
      split
      · exact only_perform rfl
      · trivial
  | fileChangeDelta => exact plain_markRunning
  | tokenUsageUpdated => exact only_bind plain_markRunning fun _ => only_storeTokenUsage fun _ _ => rfl
  | commandOutputDelta =>
      refine only_bind plain_markRunning fun _ => ?_
      split
      · exact only_perform rfl
      · trivial
  | agentMessageDelta => exact plain_sendMessageDelta
  | threadStatusChanged => exact plain_changeThreadStatus
  | other name => trivial

theorem plain_program {service : Service} {made : Call} (other : ∀ event, made ≠ .event event) :
    Plain (service.program made) := by
  cases made with
  | reserve workspaceAlias prompt =>
      exact only_bind only_assertAllowed fun _ => only_bind only_ensureWritable fun _ =>
        only_bind only_ensureAvailable fun _ => only_bind plain_createTask fun _ =>
          only_bind (only_perform rfl) fun _ => only_perform rfl
  | start workspaceAlias codexThreadId =>
      exact only_bind only_assertAllowed fun _ => only_bind only_getWorkspace fun _ =>
        only_bind only_ensureAvailable fun _ => only_bind plain_createTask fun _ =>
          only_bind (only_perform rfl) fun _ => only_perform rfl
  | reserveWaiting workspaceAlias prompt =>
      exact only_bind only_assertAllowed fun _ => only_bind only_ensureWritable fun _ =>
        only_bind plain_createTask fun _ => only_perform rfl
  | setThread id threadId => exact only_bind (only_perform rfl) fun _ => only_perform rfl
  | promote id =>
      exact only_bind plain_queueWaitingTask fun _ => only_bind only_getWorkspace fun _ =>
        only_perform rfl
  | continue_ id newCodexThreadId =>
      exact only_bind only_getTask fun _ => only_bind only_require fun _ =>
        only_bind only_require fun _ => only_bind only_ensureWritable fun _ =>
          only_bind only_ensureAvailable fun _ => only_bind plain_transition fun _ =>
            only_bind (only_perform rfl) fun _ => only_perform rfl
  | steer id =>
      exact only_bind only_getTask fun _ => only_bind only_require fun _ =>
        only_bind only_require fun _ => only_bind only_require fun _ =>
          only_bind only_ensureWritable fun _ => only_perform rfl
  | pause | archive =>
      exact only_bind only_getTask fun _ => only_bind only_require fun _ =>
        only_bind plain_transition fun _ => only_perform rfl
  | abort id =>
      exact only_bind only_getTask fun _ => only_bind only_require fun _ =>
        only_bind (only_perform rfl) fun _ => only_bind plain_transition fun _ => only_perform rfl
  | fail id error => exact plain_failTask
  | drain workspaceAlias => exact only_bind plain_drainWorkspace fun _ => trivial
  | event event => exact absurd rfl (other event)
  | clock | freeze | orchestrate => trivial

end Plain

end Wlcodex.Tasks
