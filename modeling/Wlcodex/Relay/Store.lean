import Wlcodex.Relay.Approval

namespace Wlcodex.Relay

/-! `RelayStore`: artifacts, role status and task status over the lifecycle. -/

namespace TaskState

/-- `_annotate_artifact_rounds`: each artifact with the round readers file it
under. -/
def annotateArtifactRounds (currentRound : Nat) : List Artifact → List (Nat × Artifact)
  | [] => []
  | artifact :: rest =>
      let currentRound :=
        if artifact.payload.explicitRound ≠ 0 then artifact.payload.explicitRound
        else if artifact.type = .userFollowup then currentRound + 1
        else currentRound
      (currentRound, artifact) :: annotateArtifactRounds currentRound rest

variable (state : TaskState)

def relayArtifacts : List (Nat × Artifact) :=
  annotateArtifactRounds 1 state.artifacts.rows

/-- `_current_round_id` of the stored artifacts; a fallback for tasks without rounds. -/
def artifactRoundFallback : Nat :=
  max 1 ((state.relayArtifacts.map Prod.fst).foldl max 0)

/-- `RelayStore.current_round_id`. -/
def storeRoundId : Nat × TaskState :=
  state.currentRoundId state.artifactRoundFallback

/-- `_team_job_for_role` finds a row. -/
def HasJob (role : Role) : Prop := ∃ job ∈ state.jobs, job.role = role

instance (state : TaskState) : DecidablePred state.HasJob := fun role =>
  inferInstanceAs (Decidable (∃ job ∈ state.jobs, job.role = role))

/-- The payload `save_artifact` stores: missing keys are filled. -/
def filedPayload (payload : Payload) (role : Option Role) (type : ArtifactType)
    (roundId : Nat) : Payload :=
  { payload with
    relayRole := payload.relayRole.or role
    artifactType := payload.artifactType.or (some type)
    roundId := payload.roundId.or (some (roundId : Int)) }

/-- The part of `save_artifact` after its arguments are accepted. -/
def fileArtifact (role : Option Role) (type : ArtifactType)
    (payload : Payload) : TaskState :=
  let (roundId, state) := state.storeRoundId
  let artifact : Artifact :=
    ⟨state.artifacts.lastId + 1, type, filedPayload payload role type roundId⟩
  let state := { state with artifacts := state.artifacts.append type artifact.payload }
  (state.observeArtifact artifact).syncLegacyProjection

def saveArtifact (role : Option Role) (type : ArtifactType)
    (payload : Payload) : TaskState :=
  if isRelayArtifactType type ∧ ∀ name ∈ role, state.HasJob name then
    state.fileArtifact role type payload
  else state

def updateRoleStatus (role : Role) (status : Status) : TaskState :=
  let (roundId, state) := state.storeRoundId
  if status = .idle then
    match state.attempts.latest? roundId role with
    | none =>
        { state with
          jobs := state.jobs.map fun job =>
            if job.role = role then { job with status := .idle } else job }
    | some _ =>
        (state.updateAttempt roundId role { status := some .superseded }).syncLegacyProjection
  else
    (state.updateAttempt roundId role { status := some status }).syncLegacyProjection

def updateTaskStatus (status : Status) : TaskState :=
  let (roundId, state) := state.storeRoundId
  (state.setRoundStatus roundId status).syncLegacyProjection

def putJobRun (role : Role) (run : Int) : TaskState :=
  { state with
    jobs := state.jobs.map fun job =>
      if job.role = role then { job with agentRunId := some run } else job }

/-- The keyword arguments of `update_role_metadata` that the relay reads back. -/
structure RoleMetadata where
  provider : String := ""
  nativeSessionId : String := ""
  agentRunId : Option Int := none
  turnId : String := ""
  activeTurnId : String := ""
  dispatchVerified : Bool := false
  executionMode : ExecutionMode := .standard
  deriving DecidableEq, Repr

def updateRoleMetadata (role : Role) (metadata : RoleMetadata) : TaskState :=
  if ¬ state.HasJob role then state
  else
    let state := metadata.agentRunId.elim state (state.putJobRun role)
    let (roundId, state) := state.storeRoundId
    let state := state.saveArtifact (some role) .roleDispatchMetadata {
      relayRole := some role
      provider := metadata.provider
      nativeSessionId := metadata.nativeSessionId
      agentRunId := metadata.agentRunId
      turnId := metadata.turnId
      activeTurnId := metadata.activeTurnId
      providerExecutionMode := metadata.executionMode
      dispatchVerified := some metadata.dispatchVerified }
    let state := state.updateAttempt roundId role {
      status := if metadata.dispatchVerified then some .streaming else none
      provider := metadata.provider
      nativeSessionId := metadata.nativeSessionId
      agentRunId := metadata.agentRunId
      turnId := metadata.turnId
      activeTurnId := metadata.activeTurnId
      dispatchArtifactId := some state.artifacts.lastId }
    (state.setAttemptExecution roundId role metadata.executionMode).syncLegacyProjection

/-- `_assert_goal_acceptance_artifact`: the payload of an artifact that belongs
to this acceptance scope. -/
def scopedArtifact? (artifactId roundId : Nat) (role : Role)
    (type : ArtifactType) : Option Payload :=
  match state.artifacts.rows.find? fun artifact => artifact.id = artifactId with
  | none => none
  | some artifact =>
      if max 1 artifact.payload.explicitRound = roundId ∧ artifact.artifactType = type ∧
          artifact.payload.actor = some role then
        some artifact.payload
      else none

def verifierReport (role : Role) : ArtifactType :=
  if role = .tester then .testReport else .auditReport

/-- `_positive_int` of a stored run id. -/
def positiveRun (run : Option Int) : Option Nat :=
  (run.filter fun run => 0 < run).map Int.toNat

/-- The keyword arguments of `record_goal_acceptance`. -/
structure AcceptanceAttempt where
  roundId : Nat
  implementationArtifactId : Option Nat
  implementationRunId : Option Nat
  verifierArtifactId : Nat
  verifierRole : Role
  criteria : List String
  declaresTest : Bool
  executed : Bool
  exitCode : Option Int
  status : AcceptanceStatus
  evidenceStatus : AcceptanceStatus
  deriving DecidableEq, Repr

/-- The scope that `record_goal_acceptance` insists on before it writes. -/
def AcceptsScope (attempt : AcceptanceAttempt) : Prop :=
  attempt.verifierRole ∈ [Role.tester, Role.auditor] ∧ 0 < attempt.roundId ∧
    (state.scopedArtifact? attempt.verifierArtifactId attempt.roundId attempt.verifierRole
      (verifierReport attempt.verifierRole)).isSome ∧
    match attempt.implementationArtifactId with
    | none => attempt.evidenceStatus ≠ .passed
    | some artifactId =>
        attempt.implementationRunId.isSome ∧
          ((state.scopedArtifact? artifactId attempt.roundId .implementer
            .implementationReport).any fun payload =>
              positiveRun payload.implementationRunId = attempt.implementationRunId)

instance (state : TaskState) (attempt : AcceptanceAttempt) :
    Decidable (state.AcceptsScope attempt) := by
  unfold AcceptsScope
  cases attempt.implementationArtifactId <;> infer_instance

def nextAcceptanceNo (attempt : AcceptanceAttempt) : Nat :=
  ((state.records.filter fun record =>
    record.roundId = attempt.roundId ∧
      record.implementationArtifactId.getD 0 = attempt.implementationArtifactId.getD 0 ∧
      record.verifierRole = attempt.verifierRole).map GoalAcceptanceRecord.attemptNo).foldl max 0 + 1

def recordGoalAcceptance (attempt : AcceptanceAttempt) : Option TaskState :=
  if state.AcceptsScope attempt then
    some { state with
      records := state.records ++ [{
        roundId := attempt.roundId
        implementationArtifactId := attempt.implementationArtifactId
        implementationRunId := attempt.implementationRunId
        verifierArtifactId := attempt.verifierArtifactId
        verifierRole := attempt.verifierRole
        attemptNo := state.nextAcceptanceNo attempt
        criteria := attempt.criteria
        declaresTest := attempt.declaresTest
        executed := attempt.executed
        exitCode := attempt.exitCode
        status := attempt.status
        evidenceStatus := attempt.evidenceStatus }] }
  else none

structure Provenance where
  source : ConfirmationSource
  kind : ConfirmationKind
  runtimeEventId : Int
  nativeSessionId : String
  agentRunId : Option Int
  turnId : String
  deriving DecidableEq, Repr

def Provenance.annotate (provenance : Provenance) (payload : Payload) : Payload :=
  { payload with
    confirmationSource := provenance.source
    confirmationKind := provenance.kind
    providerRequestId := ""
    runtimeEventId := provenance.runtimeEventId
    nativeSessionId := provenance.nativeSessionId
    agentRunId := provenance.agentRunId
    turnId := provenance.turnId }

def annotateQuestion (artifactId : Nat) (provenance : Provenance) :
    TaskState :=
  { state with artifacts := state.artifacts.rewrite artifactId provenance.annotate }

/-- The rows `RelayStore.create_task` writes before the initial round. -/
def blank (now : Nat) : TaskState where
  now := now
  status := .running
  jobs := relayRoleIds.map fun role => ⟨role, if role = .director then .queued else .idle, none⟩
  artifacts := .empty
  rounds := .empty
  attempts := .empty
  claims := .empty
  records := []
  journal := []

/-- `create_task`: the initial round and the first board. -/
def created (now : Nat) : TaskState :=
  (blank now).createInitialRound.saveArtifact (some .director) .relayBoard {}

end TaskState

/-- The calls that the relay makes on the durable state of one task, and what
happens outside it: time passes and other tasks store artifacts. -/
inductive StoreOp where
  | saveArtifact (role : Option Role) (type : ArtifactType) (payload : Payload)
  | updateRoleStatus (role : Role) (status : Status)
  | updateTaskStatus (status : Status)
  | updateRoleMetadata (role : Role) (metadata : TaskState.RoleMetadata)
  | startFollowupRound (triggerArtifactId : Option Nat)
  | setRoundExecution (roundId : Nat) (mode : ExecutionMode) (goal : String)
      (acceptanceCriteria : List String) (waitingReason : WaitingReason)
  | setRoundConfirmation (roundId : Nat) (confirmation : Confirmation)
  | clearRoundConfirmation (roundId : Nat)
  | claimQueuedAttemptDispatch (roundId : Nat) (role : Role)
  | quarantineStaleUnverifiedDispatches (roundId : Nat) (staleAfterSeconds : Nat)
  | claimApproval (roundId : Nat) (requestId : String) (eventId : Int) (action : ApprovalAction)
  | restoreApproval (roundId : Nat) (requestId : String) (eventId : Int) (action : ApprovalAction)
  | replaceApproval (roundId : Nat) (request : ApprovalRequest)
      (expectedPrevious : Option ApprovalKey)
  | finalizeApproval (roundId : Nat) (role : Role) (requestId : String) (eventId : Int)
      (interrupted : Bool)
  | claimCompletion (roundId : Int) (role : Option Role) (runtimeEventId : Int)
      (agentRunId : Option Int) (leaseSeconds : Int)
  | markCompletionApplied (runtimeEventId : Int) (agentRunId : Option Int)
      (artifactId : Option Nat)
  | markCompletionIgnoredStale (runtimeEventId : Int) (agentRunId : Option Int)
  | releaseCompletion (runtimeEventId : Int) (agentRunId : Option Int)
  | recordGoalAcceptance (attempt : TaskState.AcceptanceAttempt)
  | annotateQuestion (artifactId : Nat) (provenance : TaskState.Provenance)
  | backfillTask
  | elsewhere (elapsed : Nat) (artifacts : Nat)
  deriving DecidableEq, Repr

namespace TaskState

def step (state : TaskState) : StoreOp → TaskState
  | .saveArtifact role type payload => state.saveArtifact role type payload
  | .updateRoleStatus role status => state.updateRoleStatus role status
  | .updateTaskStatus status => state.updateTaskStatus status
  | .updateRoleMetadata role metadata => state.updateRoleMetadata role metadata
  | .startFollowupRound trigger => (state.startFollowupRound trigger).2
  | .setRoundExecution roundId mode goal criteria reason =>
      state.setRoundExecution roundId mode goal criteria reason
  | .setRoundConfirmation roundId confirmation => state.setRoundConfirmation roundId confirmation
  | .clearRoundConfirmation roundId => state.clearRoundConfirmation roundId
  | .claimQueuedAttemptDispatch roundId role => (state.claimQueuedAttemptDispatch roundId role).2
  | .quarantineStaleUnverifiedDispatches roundId seconds =>
      state.quarantineStaleUnverifiedDispatches roundId seconds
  | .claimApproval roundId requestId eventId action =>
      (state.claimProviderNativeApprovalAction roundId requestId eventId action).2
  | .restoreApproval roundId requestId eventId action =>
      (state.restoreProviderNativeApprovalAction roundId requestId eventId action).2
  | .replaceApproval roundId request expected =>
      (state.replaceProviderNativeApproval roundId request expected).2
  | .finalizeApproval roundId role requestId eventId interrupted =>
      (state.finalizeProviderNativeApprovalAction roundId role requestId eventId interrupted).2
  | .claimCompletion roundId role event run lease =>
      match claimCompletionEventResult state.claims state.now roundId role event run lease with
      | .ok (_, claims) => { state with claims := claims }
      | .error _ => state
  | .markCompletionApplied event run artifact =>
      { state with claims := markCompletionEventApplied state.claims state.now event run artifact }
  | .markCompletionIgnoredStale event run =>
      { state with claims := markCompletionEventIgnoredStale state.claims state.now event run }
  | .releaseCompletion event run =>
      { state with claims := releaseCompletionEventClaim state.claims event run }
  | .recordGoalAcceptance attempt => (state.recordGoalAcceptance attempt).getD state
  | .annotateQuestion artifactId provenance => state.annotateQuestion artifactId provenance
  | .backfillTask => state.backfillTask
  | .elsewhere elapsed artifacts =>
      { state with now := state.now + elapsed, artifacts := state.artifacts.skip artifacts }

/-- The state after a run of calls on a task created at `start`. -/
def after (start : Nat) (ops : List StoreOp) : TaskState := ops.foldl step (created start)

end TaskState

end Wlcodex.Relay
