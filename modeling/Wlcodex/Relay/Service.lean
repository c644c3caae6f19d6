import Wlcodex.Lib.Script
import Wlcodex.Relay.GoalAcceptance

namespace Wlcodex.Relay

open Wlcodex.Lib

/-! `RelayService`: what every handler is made of. -/

abbrev Handler (α : Type) := Script TaskState StoreOp α

/-- What `dispatch_role` gets from the provider registry and the provider. -/
inductive DispatchAnswer where
  | unregistered
  | failed
  | verified (metadata : TaskState.RoleMetadata)
  deriving DecidableEq, Repr

/-- What a retry gets: the role has no session to continue, the continuation
fails, or it is verified. -/
inductive RetryAnswer where
  | unavailable
  | failed
  | verified (metadata : TaskState.RoleMetadata)
  deriving DecidableEq, Repr

/-- A pending input claimed for the task, with what its consumer finds later:
the freeze gate before the transition, before the round and before the
dispatch, and the renewal of the claim. -/
structure PendingClaim where
  id : Nat
  queuedAfterRoundId : Nat := 0
  openBeforeTransition : Bool := true
  openBeforeRound : Bool := true
  openBeforeDispatch : Bool := true
  renewed : Bool := true
  deriving DecidableEq, Repr

structure World where
  /-- `model_profile` of a role's job. -/
  profile : Role → String := fun _ => ""
  prompt : PromptTraits := {}
  /-- The freeze gate, as `dispatch_role` finds it. -/
  dispatchOpen : Bool := true
  dispatch : DispatchAnswer := .failed
  retry : RetryAnswer := .unavailable
  /-- What the controlled test executor answers. -/
  test : TestExecution := .notRun ""
  /-- The pending input of the workspace, if the queue grants one. -/
  pending : Option PendingClaim := none

namespace Service

open Script

/-- `get_task_detail`.  The repair already ends with the projection that it
asks for. -/
def getTaskDetail : Handler TaskState := do
  perform .backfillTask
  get

def currentRoundId : Handler Nat := do
  let detail ← getTaskDetail
  pure detail.detailRoundId

/-- `save_artifact`, with the id of the new artifact. -/
def saveArtifact (role : Option Role) (type : ArtifactType) (payload : Payload) :
    Handler Nat := do
  perform (.saveArtifact role type payload)
  let state ← get
  pure state.artifacts.lastId

/-- `round_execution` and `set_round_execution` with another waiting reason. -/
def setWaitingReason (roundId : Nat) (reason : Round → WaitingReason) : Handler Unit := do
  let state ← get
  let execution := state.roundExecution roundId
  perform (.setRoundExecution roundId execution.executionMode execution.executionGoal
    execution.acceptanceCriteria (reason execution))

def roleMetadata? (detail : TaskState) (role : Role) : Option Payload :=
  ((detail.artifactsForRound detail.detailRoundId).reverse.find? fun artifact =>
    (artifact.type = .roleDispatchMetadata ∨
      (artifact.type = .routingDecision ∧ artifact.payload.dispatchVerified.isSome)) ∧
      artifact.payload.relayRole = some role).map Artifact.payload

structure JobIdentity where
  provider : String
  nativeSessionId : String
  agentRunId : Option Int
  turnId : String

def jobIdentity (world : World) (detail : TaskState) (role : Role) : JobIdentity :=
  let metadata := (roleMetadata? detail role).getD {}
  { provider := orText metadata.provider (world.profile role)
    nativeSessionId := metadata.nativeSessionId
    agentRunId := detail.jobRun role
    turnId := orText metadata.activeTurnId metadata.turnId }

def JobIdentity.confirmation (job : JobIdentity) (role : Role) (kind : ConfirmationKind)
    (runtimeEventId : Int) : Confirmation where
  source := .relayPromptFallback
  kind := kind
  role := some role
  provider := job.provider
  providerRequestId := ""
  runtimeEventId := runtimeEventId
  nativeSessionId := job.nativeSessionId
  agentRunId := job.agentRunId
  turnId := job.turnId

def JobIdentity.provenance (job : JobIdentity) (runtimeEventId : Int) : TaskState.Provenance where
  source := .relayPromptFallback
  kind := .relayQuestion
  runtimeEventId := runtimeEventId
  nativeSessionId := job.nativeSessionId
  agentRunId := job.agentRunId
  turnId := job.turnId

def blockRoleWithError (role : Role) (reason : String) (retryKind : Option RetryKind := none) :
    Handler Unit := do
  let roundId ← currentRoundId
  let _ ← saveArtifact (some role) .roleError
    { roundId := some roundId, error := reason, retryKind := retryKind }
  perform (.updateRoleStatus role .blocked)
  perform (.updateTaskStatus .blocked)

def waitRoleWithGuardrail (role : Role) (reason : String) : Handler Unit := do
  let roundId ← currentRoundId
  let _ ← saveArtifact (some role) .roleError
    { roundId := some roundId, error := reason, status := some .waiting,
      retryKind := some .guardrail }
  setWaitingReason roundId fun _ => .guardrailQuestion
  perform (.setRoundConfirmation roundId
    { Confirmation.none with
      source := .guardrail, kind := .guardrailQuestion, role := some role })
  perform (.updateRoleStatus role .waiting)
  perform (.updateTaskStatus .waitingUser)

def recordInvalidSemanticArtifact (role : Role) (error : String) (runtimeEventId : Int)
    (agentRunId : Option Int) : Handler Unit := do
  let roundId ← currentRoundId
  let _ ← saveArtifact (some role) .roleArtifactInvalid
    { relayRole := some role, roundId := some roundId, error := error,
      artifactType := some .roleArtifactInvalid, runtimeEventId := runtimeEventId,
      agentRunId := agentRunId }

/-- `_retry_role_envelope_format` and `_retry_role_guardrail`: once for each
round, role and kind of fault. -/
def retryRole (world : World) (role : Role) (kind : RetryKind) (error : String) :
    Handler Bool := do
  let detail ← getTaskDetail
  let roundId ← currentRoundId
  if detail.hasRetryKind role kind roundId ∨ world.retry = .unavailable then pure false
  else
    let _ ← saveArtifact (some role) .roleError
      { roundId := some roundId, error := error, retryKind := some kind }
    perform (.updateTaskStatus .running)
    perform (.updateRoleStatus role .queued)
    match world.retry with
    | .verified metadata =>
        perform (.updateRoleMetadata role
          { metadata with dispatchVerified := true, executionMode := .standard })
        perform (.updateRoleStatus role .streaming)
        pure true
    | _ => pure false

def markRoleFallback (world : World) (role : Role) : Handler Unit := do
  perform (.updateRoleMetadata role { provider := world.profile role })
  perform (.updateRoleStatus role .blocked)
  perform (.updateTaskStatus .blocked)

/-- `dispatch_role` once the queued attempt is claimed. -/
def startRole (world : World) (roundId : Nat) (role : Role) : Handler Unit :=
  match world.dispatch with
  | .unregistered => markRoleFallback world role
  | .failed => do
      setWaitingReason roundId Round.waitingReason
      markRoleFallback world role
  | .verified metadata => do
      setWaitingReason roundId Round.waitingReason
      perform (.updateRoleMetadata role metadata)
      perform (.updateRoleStatus role .streaming)

/-- `claim_queued_attempt_dispatch`, and the start that it admits. -/
def claimAndStart (world : World) (roundId : Nat) (role : Role) : Handler Unit := do
  let state ← get
  perform (.claimQueuedAttemptDispatch roundId role)
  if (state.claimQueuedAttemptDispatch roundId role).1 then startRole world roundId role
  else pure ()

def dispatchRole (world : World) (role : Role) : Handler Unit := do
  if world.dispatchOpen then
    let detail ← getTaskDetail
    match detail.jobs.find? fun job => job.role = role with
    | none => raised
    | some job =>
        if job.status = .idle then
          perform (.updateRoleStatus role .queued)
          claimAndStart world detail.detailRoundId role
        else if job.status = .queued then claimAndStart world detail.detailRoundId role
        else pure ()
  else pure ()

/-- The packet that `_create_handoff_payload` stores. -/
def createHandoffPacket (fromRole toRole : Role) (evidenceRefs : List String) :
    Handler Unit := do
  let _ ← saveArtifact (some fromRole) .handoffPacket
    { handoffTo := some toRole, evidenceRefs := evidenceRefs }

def queueRole (world : World) (role : Role) (dispatchNext : Bool) : Handler Unit := do
  perform (.updateRoleStatus role .queued)
  if dispatchNext then dispatchRole world role else pure ()

end Service

end Wlcodex.Relay
