import Wlcodex.Relay.RoleOutput
import Wlcodex.Relay.RoundProgress
import Wlcodex.Relay.WorkspaceQueue

namespace Wlcodex.Relay

open Wlcodex.Lib

/-! The consumption of a pending input. -/

/-- `_workspace_for_task_locked`; `none` is a run that is no relay task. -/
def workspaceForTask (workspaces : Nat → Option String) (taskId : Nat) : String :=
  match workspaces taskId with
  | none => ""
  | some workspace => orText (strip workspace) ("relay-task:" ++ toString taskId)

structure Desk where
  task : TaskState
  queue : QueueState
  deriving DecidableEq

inductive DeskOp where
  | task (op : StoreOp)
  | queue (op : QueueOp)
  /-- A store call that is cut short after some of its commits. -/
  | crash (op : StoreOp) (commits : Nat)
  /-- `queue_pending_input`. -/
  | enqueue (input : PendingInput)
  deriving DecidableEq, Repr

namespace TaskState

/-- The state after every commit of `save_artifact`, once its arguments are
accepted. -/
def saveCommits (state : TaskState) (role : Option Role) (type : ArtifactType)
    (payload : Payload) : List TaskState :=
  let (roundId, repaired) := state.storeRoundId
  let artifact : Artifact :=
    ⟨repaired.artifacts.lastId + 1, type, filedPayload payload role type roundId⟩
  let inserted := { repaired with artifacts := repaired.artifacts.append type artifact.payload }
  let observed := inserted.observeArtifact artifact
  state.backfillCommits ++ [inserted, observed, observed.syncLegacyProjection]

def commits (state : TaskState) : StoreOp → List TaskState
  | .startFollowupRound trigger => state.followupCommits trigger
  | .saveArtifact role type payload =>
      if isRelayArtifactType type ∧ ∀ name ∈ role, state.HasJob name then
        state.saveCommits role type payload
      else []
  | .updateRoleStatus role status =>
      state.backfillCommits ++ [state.updateRoleStatus role status]
  | .updateTaskStatus status => state.backfillCommits ++ [state.updateTaskStatus status]
  | .backfillTask => state.backfillCommits
  | op => [state.step op]

def crashed (state : TaskState) (op : StoreOp) (commits : Nat) : TaskState :=
  (((state.commits op).take commits).getLast?).getD state

end TaskState

namespace Desk

def step (home : Nat → String) (desk : Desk) : DeskOp → Desk
  | .task op => { desk with task := desk.task.step op }
  | .queue op => { desk with queue := desk.queue.step home op }
  | .crash op commits => { desk with task := desk.task.crashed op commits }
  | .enqueue input =>
      { desk with
        queue := (desk.queue.inputs.insert? input).elim desk.queue fun inputs =>
          { desk.queue with inputs := inputs } }

end Desk

/-- What a consumer meets outside: the freeze gate at each of its checks, and how
long the provider start takes. -/
structure Passage where
  openAtClaim : Bool := true
  openBeforeTransition : Bool := true
  openBeforeRound : Bool := true
  openBeforeDispatch : Bool := true
  startTime : Nat := 0
  deriving DecidableEq, Repr

abbrev DeskHandler (α : Type) := Script Desk DeskOp α

namespace Consumer

open Script

def onTask {α : Type} (handler : Handler α) : DeskHandler α := handler.lift Desk.task DeskOp.task

/-- `release_pending_input_claim`, and nothing consumed. -/
def releaseClaim (claim : PendingInputClaim) : DeskHandler (Option Nat) := do
  perform (.queue (.release claim))
  pure none

/-- `renew_pending_input_claim`. -/
def renewClaim (claim : PendingInputClaim) : DeskHandler (Option PendingInputClaim) := do
  let desk ← get
  perform (.queue (.renew claim 300))
  match desk.queue.renewPendingInputClaim claim 300 with
  | .ok (renewed, _) => pure renewed
  | .error _ => raised

/-- The last renewal and `consume_pending_input_claim`, with the round that the
input is consumed in. -/
def markConsumed (claim : PendingInputClaim) (roundId : Nat) : DeskHandler (Option Nat) := do
  let renewed ← renewClaim claim
  match renewed with
  | none => pure none
  | some claim =>
      let desk ← get
      perform (.queue (.consume claim roundId))
      match desk.queue.consumePendingInputClaim claim roundId with
      | .ok _ => pure (some roundId)
      | .error _ => raised

section Consume

variable (world : World) (passage : Passage) (claim : PendingInputClaim) (dispatchNext : Bool)

/-- `_consume_claimed_pending_input` once the follow-up is stored. -/
def deliverInput (roundId : Nat) : DeskHandler (Option Nat) := do
  if dispatchNext then
    if passage.openBeforeDispatch then
      let renewed ← renewClaim claim
      match renewed with
      | none => pure none
      | some claim =>
          onTask (Service.dispatchRole world .director)
          perform (.queue (.elapse passage.startTime))
          markConsumed claim roundId
    else releaseClaim claim
  else markConsumed claim roundId

/-- `_consume_claimed_pending_input` once its round is open. -/
def projectInput (roundId : Nat) : DeskHandler (Option Nat) := do
  let desk ← get
  if (Service.followupArtifact? desk.task claim.pendingInput.id).isNone then
    let _ ← onTask Service.getTaskDetail
    onTask (Service.routeToDirector roundId claim.pendingInput.id)
    deliverInput world passage claim dispatchNext roundId
  else deliverInput world passage claim dispatchNext roundId

/-- `_consume_claimed_pending_input` with its transition artifact. -/
def openRound (transitionId sourceRoundId : Nat) : DeskHandler (Option Nat) := do
  let desk ← get
  match Service.followupRound? desk.task transitionId with
  | some roundId => projectInput world passage claim dispatchNext roundId
  | none =>
      let current ← onTask Service.currentRoundId
      if current = sourceRoundId then
        if passage.openBeforeRound then
          let roundId ← onTask (Service.startFollowupRound (some transitionId))
          projectInput world passage claim dispatchNext roundId
        else releaseClaim claim
      else releaseClaim claim

def orRound (first second : Nat) : Nat := if first = 0 then second else first

def sourceRound (sourceRoundId : Option Nat) : Nat :=
  max 1 (orRound (sourceRoundId.getD 0) claim.pendingInput.queuedAfterRoundId)

def pinnedRound (transition : Artifact) (sourceRoundId : Option Nat) : Nat :=
  max 1 (orRound transition.payload.sourceRoundId
    (orRound (sourceRoundId.getD 0) claim.pendingInput.queuedAfterRoundId))

def transitionPayload (roundId : Nat) : Payload where
  roundId := some roundId
  pendingInputId := claim.pendingInput.id
  sourceRoundId := roundId

/-- `_consume_claimed_pending_input`; the round it consumes the input in. -/
def consumeClaimedPendingInput (sourceRoundId : Option Nat) : DeskHandler (Option Nat) := do
  if passage.openBeforeTransition then
    let desk ← get
    match Service.transitionArtifact? desk.task claim.pendingInput.id with
    | some transition =>
        let _ ← onTask Service.currentRoundId
        openRound world passage claim dispatchNext transition.id
          (pinnedRound claim transition sourceRoundId)
    | none =>
        let current ← onTask Service.currentRoundId
        if current = sourceRound claim sourceRoundId then
          let transitionId ← onTask (Service.saveArtifact none .pendingInputTransition
            (transitionPayload claim (sourceRound claim sourceRoundId)))
          openRound world passage claim dispatchNext transitionId (sourceRound claim sourceRoundId)
        else releaseClaim claim
  else releaseClaim claim

end Consume

def claimAndConsume (home : Nat → String) (world : World) (passage : Passage) (taskId : Nat)
    (owner : String) (scope : QueueState.ClaimScope) (dispatchNext : Bool)
    (sourceRoundId : Option Nat) : DeskHandler (Option Nat) := do
  if passage.openAtClaim then
    let desk ← get
    perform (.queue (.claim (home taskId) owner scope 300))
    match desk.queue.claimPendingInputForWorkspace home (home taskId) owner scope 300 with
    | .ok (some claim, _) =>
        (consumeClaimedPendingInput world passage claim dispatchNext sourceRoundId).recover do
          perform (.queue (.release claim))
          raised
    | .ok (none, _) => pure none
    | .error _ => raised
  else pure none

def consumePendingAfterRound (home : Nat → String) (world : World) (passage : Passage)
    (taskId : Nat) (owner : String) (roundId : Nat) (dispatchNext : Bool) :
    DeskHandler (Option Nat) :=
  claimAndConsume home world passage taskId owner
    { taskId := some taskId, queuedThroughRoundId := some roundId } dispatchNext (some roundId)

/-- The body of `_recover_pending_input_transitions` for one marked input. -/
def recoverPendingInput (home : Nat → String) (world : World) (passage : Passage)
    (taskId pendingInputId : Nat) (owner : String) : DeskHandler (Option Nat) :=
  claimAndConsume home world passage taskId owner
    { taskId := some taskId, pendingInputId := some pendingInputId } true none

end Consumer

end Wlcodex.Relay
