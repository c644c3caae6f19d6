import Wlcodex.Relay.Rows

namespace Wlcodex.Relay

/-! `RelayLifecycleStore`: rounds, role attempts and their legacy projections. -/

/-- `status NOT IN ('completed', 'failed', 'interrupted', 'superseded')` is what
a superseded round's own status is tested against. -/
def roundClosed : List Status := [.completed, .failed, .interrupted, .superseded]

def attemptClosed : List Status := [.passed, .failed, .interrupted, .superseded]

def legacyProjectionStatus (roundStatus : Status) (attempt : Option Attempt) : Status :=
  match attempt with
  | none => .idle
  | some attempt =>
      if attempt.status = .superseded then .idle
      else if roundStatus ∈ Status.legacyRoundFailure ∧
          attempt.status ∉ Status.attemptTerminal then roundStatus
      else attempt.status

/-- The row `ensure_round` inserts. -/
def Round.opened (roundId : Nat) (triggerKind : TriggerKind) (triggerArtifactId : Option Nat) :
    Round where
  roundId := roundId
  status := .running
  triggerKind := triggerKind
  triggerArtifactId := triggerArtifactId
  route := .none
  requiredRoles := []
  executionMode := .standard
  executionGoal := ""
  acceptanceCriteria := []
  waitingReason := .none
  confirmation := .none

/-- The keyword arguments of `update_attempt`. -/
structure AttemptChange where
  status : Option Status := none
  provider : String := ""
  nativeSessionId : String := ""
  agentRunId : Option Int := none
  turnId : String := ""
  activeTurnId : String := ""
  dispatchArtifactId : Option Nat := none
  completionEventId : Option Nat := none
  completionArtifactId : Option Nat := none
  errorArtifactId : Option Nat := none
  incrementRetry : Bool := false
  deriving DecidableEq, Repr

def orText (new old : String) : String := if new = "" then old else new

namespace AttemptChange

def first (change : AttemptChange) (roundId : Nat) (role : Role) (status : Status) (now : Nat) :
    Attempt where
  roundId := roundId
  role := role
  attemptNo := 1
  status := status
  provider := change.provider
  nativeSessionId := change.nativeSessionId
  agentRunId := change.agentRunId
  turnId := change.turnId
  activeTurnId := change.activeTurnId
  dispatchArtifactId := change.dispatchArtifactId
  completionEventId := none
  completionArtifactId := none
  errorArtifactId := none
  retryCount := 0
  executionMode := .standard
  updatedAt := now

def next (change : AttemptChange) (row : Attempt) (status : Status) (now : Nat) : Attempt where
  roundId := row.roundId
  role := row.role
  attemptNo := row.attemptNo + 1
  status := status
  provider := orText change.provider row.provider
  nativeSessionId := orText change.nativeSessionId row.nativeSessionId
  agentRunId := change.agentRunId.or row.agentRunId
  turnId := orText change.turnId row.turnId
  activeTurnId := orText change.activeTurnId row.activeTurnId
  dispatchArtifactId := change.dispatchArtifactId
  completionEventId := change.completionEventId
  completionArtifactId := change.completionArtifactId
  errorArtifactId := change.errorArtifactId
  retryCount := 0
  executionMode := .standard
  updatedAt := now

/-- The in-place `UPDATE` of the latest attempt. -/
def apply (change : AttemptChange) (now : Nat) (row : Attempt) : Attempt where
  roundId := row.roundId
  role := row.role
  attemptNo := row.attemptNo
  status := change.status.getD row.status
  provider := orText change.provider row.provider
  nativeSessionId := orText change.nativeSessionId row.nativeSessionId
  agentRunId := change.agentRunId.or row.agentRunId
  turnId := orText change.turnId row.turnId
  activeTurnId := orText change.activeTurnId row.activeTurnId
  dispatchArtifactId := change.dispatchArtifactId.or row.dispatchArtifactId
  completionEventId := change.completionEventId.or row.completionEventId
  completionArtifactId := change.completionArtifactId.or row.completionArtifactId
  errorArtifactId := change.errorArtifactId.or row.errorArtifactId
  retryCount := row.retryCount + (if change.incrementRetry then 1 else 0)
  executionMode := row.executionMode
  updatedAt := now

end AttemptChange

/-- `_attempt_artifact_link_exists` for one link column. -/
def AttemptTable.linkExists (table : AttemptTable) (roundId : Nat) (role : Role)
    (column : Attempt → Option Nat) (artifactId : Nat) : Bool :=
  table.rows.any (fun row =>
      row.roundId = roundId ∧ row.role = role ∧ column row = some artifactId) ||
    ((table.latest? roundId role).bind column).any fun linked => artifactId < linked

def roundStopped : List Status := [.blocked, .failed, .interrupted]

/-- Where an unlinked dispatch moves the latest attempt of its role; `none`
keeps it where it is. -/
def dispatchStatus (roundStatus : Status) (latest : Option Attempt) : Option Status :=
  if roundStatus ∈ roundStopped then some roundStatus
  else if roundStatus = .superseded then some .superseded
  else
    match latest with
    | none => some .streaming
    | some row => if row.status ∈ Status.attemptTerminal then none else some .streaming

/-- `initial_status` of an unlinked dispatch. -/
def initialDispatchStatus (roundStatus : Status) (latest : Option Attempt) : Status :=
  (dispatchStatus roundStatus latest).getD ((latest.map Attempt.status).getD .streaming)

def dispatchChange (artifact : Artifact) : AttemptChange where
  provider := artifact.payload.provider
  nativeSessionId := artifact.payload.nativeSessionId
  agentRunId := artifact.payload.agentRunId
  turnId := artifact.payload.turnId
  activeTurnId := artifact.payload.activeTurnId
  dispatchArtifactId := some artifact.id

def reportedStatuses : List Status :=
  [.queued, .streaming, .passed, .waiting, .blocked, .failed, .interrupted]

def resultStatus (payload : Payload) : Status :=
  let status := (payload.status.getD .passed).stripped
  let status := if status = .other "" then .passed else status
  let status :=
    if status ∈ [.completed, .other "success", .other "succeeded", .other "done"] then .passed
    else status
  let status :=
    if status = .waiting ∧ payload.handoffTo.any (fun role => role ∈ relayRoleIds) then .passed
    else status
  if status ∈ reportedStatuses then status else .passed

theorem resultStatus_mem (payload : Payload) : resultStatus payload ∈ reportedStatuses := by
  have closed : ∀ status : Status,
      (if status ∈ reportedStatuses then status else .passed) ∈ reportedStatuses := by
    intro status
    split
    · assumption
    · decide
  exact closed _

def artifactConfirmation (payload : Payload) : Confirmation where
  source :=
    if payload.confirmationSource = .empty then .relayPromptFallback
    else payload.confirmationSource
  kind := if payload.confirmationKind = .empty then .relayQuestion else payload.confirmationKind
  role := payload.actor
  provider := payload.provider
  providerRequestId := payload.providerRequestId
  runtimeEventId := payload.runtimeEventId
  nativeSessionId := payload.nativeSessionId
  agentRunId := payload.agentRunId
  turnId := payload.turnId

namespace TaskState

variable (state : TaskState)

def latestRoundId (fallback : Nat) : Nat :=
  (state.rounds.greatest? fun _ => true).getD (max 1 fallback)

/-- `_active_round_id`, also `current_round_id_readonly`. -/
def activeRoundId (fallback : Nat) : Nat :=
  match state.rounds.greatest? fun row => row.status ≠ .superseded with
  | some roundId => roundId
  | none => state.latestRoundId fallback

def roundStatus (roundId : Nat) : Status :=
  match state.rounds.find? roundId with
  | some row => row.status
  | none => .running

/-- `round_execution`: the stored row, or the defaults of a missing one. -/
def roundExecution (roundId : Nat) : Round :=
  (state.rounds.find? roundId).getD (.opened roundId .backfill none)

/-- `UPDATE relay_rounds ... WHERE round_id = ?` of columns other than the status. -/
def modifyRound (roundId : Nat) (change : Round → Round)
    (sameId : ∀ row, (change row).roundId = row.roundId) : TaskState :=
  { state with
    rounds := state.rounds.modify (fun row => if row.roundId = roundId then change row else row)
      (by intro row; split <;> simp [sameId]) }

def putRoundStatus (roundId : Nat) (status : Status) : TaskState :=
  { state with
    rounds := state.rounds.modify
      (fun row => if row.roundId = roundId then { row with status := status } else row)
      (by intro row; split <;> rfl)
    journal :=
      if (state.rounds.find? roundId).any fun row => row.status ≠ status then
        .round roundId status :: state.journal
      else state.journal }

def ensureRound (roundId : Nat) (triggerKind : TriggerKind)
    (triggerArtifactId : Option Nat) : TaskState :=
  match state.rounds.find? roundId with
  | none =>
      { state with
        rounds := state.rounds.insertNew (.opened roundId triggerKind triggerArtifactId)
        journal := .round roundId .running :: state.journal }
  | some _ =>
      state.modifyRound roundId
        (fun row => { row with
          triggerArtifactId := row.triggerArtifactId.or triggerArtifactId })
        fun _ => rfl

/-- `sync_legacy_projection`; `preserve_activity` only spares activity times. -/
def syncLegacyProjection : TaskState :=
  let roundId := state.activeRoundId 1
  let roundStatus := state.roundStatus roundId
  { state with
    status := roundStatus
    jobs := state.jobs.map fun job =>
      { job with
        status := legacyProjectionStatus roundStatus (state.attempts.latest? roundId job.role) } }

def setRoundStatus (roundId : Nat) (status : Status) : TaskState :=
  ((state.ensureRound roundId .backfill none).putRoundStatus roundId status).syncLegacyProjection

/-- `set_round_route`; `_clean_required_roles` keeps the relay roles. -/
def setRoundRoute (roundId : Nat) (route : Route)
    (requiredRoles : List Role) : TaskState :=
  (state.ensureRound roundId .backfill none).modifyRound roundId
    (fun row => { row with
      route := route
      requiredRoles := requiredRoles.filter fun role => role.stripped ∈ relayRoleIds })
    fun _ => rfl

def setRoundExecution (roundId : Nat) (mode : ExecutionMode)
    (goal : String) (acceptanceCriteria : List String) (waitingReason : WaitingReason) :
    TaskState :=
  (state.ensureRound roundId .backfill none).modifyRound roundId
    (fun row => { row with
      executionMode := mode
      executionGoal := goal
      acceptanceCriteria := acceptanceCriteria
      waitingReason := waitingReason })
    fun _ => rfl

def setRoundConfirmation (roundId : Nat) (confirmation : Confirmation) :
    TaskState :=
  (state.ensureRound roundId .backfill none).modifyRound roundId
    (fun row => { row with confirmation := confirmation }) fun _ => rfl

def clearRoundConfirmation (roundId : Nat) : TaskState :=
  state.setRoundConfirmation roundId .none

/-- The two `UPDATE`s that close the open rounds of a range and their attempts. -/
def supersedeRounds (closing : Nat → Bool) : TaskState :=
  { state with
    rounds := state.rounds.modify
      (fun row =>
        if closing row.roundId ∧ row.status ∉ roundClosed then
          { row with status := .superseded }
        else row)
      (by intro row; split <;> rfl)
    attempts := state.attempts.modify
      (fun row =>
        if closing row.roundId ∧ row.status ∉ attemptClosed then
          { row with status := .superseded, updatedAt := state.now }
        else row)
      (by intro row; split <;> simp)
    journal :=
      ((state.attempts.rows.filter fun row =>
          closing row.roundId ∧ row.status ∉ attemptClosed).map fun row =>
        StatusWrite.attempt row.roundId row.role row.attemptNo .superseded) ++
      ((state.rounds.rows.filter fun row =>
          closing row.roundId ∧ row.status ∉ roundClosed).map fun row =>
        StatusWrite.round row.roundId .superseded) ++ state.journal }

def supersedePriorRounds (currentRoundId : Nat) : TaskState :=
  if currentRoundId ≤ 1 then state
  else state.supersedeRounds fun roundId => roundId < currentRoundId

def insertAttempt (row : Attempt) : TaskState :=
  { state with
    attempts := state.attempts.insertNext row
    journal :=
      .attempt row.roundId row.role (state.attempts.nextNo row.roundId row.role) row.status ::
        state.journal }

/-- `UPDATE relay_role_attempts ... WHERE id = ?` of the latest attempt. -/
def modifyLatestAttempt (roundId : Nat) (role : Role) (change : Attempt → Attempt)
    (sameKey : ∀ row, (change row).roundId = row.roundId ∧ (change row).role = row.role ∧
      (change row).attemptNo = row.attemptNo) : TaskState :=
  { state with
    attempts := state.attempts.modifyLatest roundId role change sameKey
    journal :=
      match state.attempts.latest? roundId role with
      | none => state.journal
      | some row =>
          if (change row).status = row.status then state.journal
          else .attempt roundId role row.attemptNo (change row).status :: state.journal }

/-- `update_attempt`.  A superseded attempt is never touched again; a terminal
one that is queued or streams again gets a successor. -/
def updateAttempt (roundId : Nat) (role : Role) (change : AttemptChange) :
    TaskState :=
  match state.attempts.latest? roundId role with
  | none =>
      -- `ensure_attempt` inserts the first row, without the completion links
      let state := state.ensureRound roundId .backfill none
      state.insertAttempt (change.first roundId role (change.status.getD .queued) state.now)
  | some row =>
      if row.status = .superseded then state
      else if change.status = some .queued ∨ change.status = some .streaming then
        if row.status ∈ Status.attemptTerminal then
          state.insertAttempt (change.next row (change.status.getD row.status) state.now)
        else
          state.modifyLatestAttempt roundId role (change.apply state.now) fun _ => ⟨rfl, rfl, rfl⟩
      else
        state.modifyLatestAttempt roundId role (change.apply state.now) fun _ => ⟨rfl, rfl, rfl⟩

def ensureAttempt (roundId : Nat) (role : Role) (status : Status)
    (change : AttemptChange) : TaskState :=
  (state.ensureRound roundId .backfill none).updateAttempt roundId role
    { change with status := some status }

def setAttemptExecution (roundId : Nat) (role : Role)
    (mode : ExecutionMode) : TaskState :=
  let state :=
    match state.attempts.latest? roundId role with
    | none => state.ensureAttempt roundId role .queued {}
    | some _ => state
  state.modifyLatestAttempt roundId role
    (fun row => { row with executionMode := mode, updatedAt := state.now }) fun _ => ⟨rfl, rfl, rfl⟩

def claimQueuedAttemptDispatch (roundId : Nat) (role : Role) :
    Bool × TaskState :=
  match state.attempts.latest? roundId role with
  | none => (false, state)
  | some row =>
      if row.status = .queued then
        (true, state.modifyLatestAttempt roundId role
          (fun row => { row with status := .dispatching, updatedAt := state.now })
          fun _ => ⟨rfl, rfl, rfl⟩)
      else (false, state)

/-- A dispatch claim without any provider identity, untouched since `cutoff`. -/
def abandonedDispatch (roundId : Nat) (cutoff : Int) (row : Attempt) : Bool :=
  row.roundId = roundId ∧ row.status = .dispatching ∧ row.nativeSessionId = "" ∧
    row.agentRunId = none ∧ (row.updatedAt : Int) ≤ cutoff

/-- `quarantine_stale_unverified_dispatches` for a positive threshold. -/
def quarantineStaleUnverifiedDispatches (roundId : Nat)
    (staleAfterSeconds : Nat) : TaskState :=
  let cutoff : Int := state.now - staleAfterSeconds * 1000000
  { state with
    attempts := state.attempts.modify
      (fun row =>
        if abandonedDispatch roundId cutoff row then
          { row with status := .blocked, updatedAt := state.now }
        else row)
      (by intro row; split <;> simp)
    journal :=
      ((state.attempts.rows.filter (abandonedDispatch roundId cutoff)).map fun row =>
        StatusWrite.attempt row.roundId row.role row.attemptNo .blocked) ++ state.journal }

def artifactRound (payload : Payload) : Nat :=
  if payload.explicitRound = 0 then state.latestRoundId 1 else payload.explicitRound

/-- The first part of `observe_artifact`: columns of the round. -/
def observeRound (roundId : Nat) (artifact : Artifact) : TaskState :=
  let state :=
    if artifact.type = .routingDecision then
      state.setRoundRoute roundId artifact.payload.route artifact.payload.requiredRoles
    else state
  if artifact.payload.status = some .waiting then
    state.setRoundConfirmation roundId (artifactConfirmation artifact.payload)
  else state

/-- `observe_artifact` on `role_dispatch_metadata`. -/
def observeDispatch (roundId : Nat) (role : Role) (artifact : Artifact) :
    TaskState :=
  let mode := artifact.payload.providerExecutionMode
  if state.attempts.linkExists roundId role Attempt.dispatchArtifactId artifact.id then
    state.setAttemptExecution roundId role mode
  else
    let roundStatus := state.roundStatus roundId
    let latest := state.attempts.latest? roundId role
    let next := (state.ensureAttempt roundId role (initialDispatchStatus roundStatus latest)
      (dispatchChange artifact)).setAttemptExecution roundId role mode
    match dispatchStatus roundStatus latest with
    | some status => next.updateAttempt roundId role { status := some status }
    | none => next

/-- `observe_artifact` on `role_error`. -/
def observeError (roundId : Nat) (role : Role) (artifact : Artifact) :
    TaskState :=
  if state.attempts.linkExists roundId role Attempt.errorArtifactId artifact.id then state
  else
    let state :=
      match state.attempts.latest? roundId role with
      | none => state.ensureAttempt roundId role .streaming {}
      | some _ => state
    let currentError :=
      ((state.attempts.latest? roundId role).bind Attempt.errorArtifactId).getD 0
    let shouldRecord := decide (currentError < artifact.id)
    let roundStatus := state.roundStatus roundId
    state.updateAttempt roundId role {
      status := if roundStatus ∈ roundStopped then some roundStatus else none
      errorArtifactId := if shouldRecord then some artifact.id else none
      incrementRetry := shouldRecord }

def completeAttempt (roundId : Nat) (role : Role) (status : Status)
    (artifact : Artifact) : TaskState :=
  (state.ensureAttempt roundId role status {}).updateAttempt roundId role {
    status := some status
    completionEventId :=
      if 0 < artifact.payload.runtimeEventId then some artifact.payload.runtimeEventId.toNat
      else none
    completionArtifactId := some artifact.id }

/-- `observe_artifact` on a result. -/
def observeResult (roundId : Nat) (role : Role) (artifact : Artifact) :
    TaskState :=
  if state.attempts.linkExists roundId role Attempt.completionArtifactId artifact.id then
    state
  else if state.roundStatus roundId ∈ roundStopped ∧ artifact.payload.runtimeEventId = 0 then
    state
  else
    state.completeAttempt roundId role (resultStatus artifact.payload) artifact

/-- The second part of `observe_artifact`: the attempt of the artifact's role. -/
def observeAttempt (roundId : Nat) (role : Role) (artifact : Artifact) :
    TaskState :=
  if artifact.type = .roleDispatchMetadata then state.observeDispatch roundId role artifact
  else if artifact.type = .roleError then state.observeError roundId role artifact
  else if artifact.type = .roleArtifactInvalid then
    if state.attempts.linkExists roundId role Attempt.completionArtifactId artifact.id then
      state
    else state.completeAttempt roundId role .waiting artifact
  else if artifact.type ∈ ArtifactType.result then state.observeResult roundId role artifact
  else state

def observeArtifact (artifact : Artifact) : TaskState :=
  let roundId := state.artifactRound artifact.payload
  let state := state.observeRound roundId artifact
  match artifact.payload.actor with
  | none => state
  | some role => state.observeAttempt roundId role artifact

def sortedIds (ids : List Nat) : List Nat :=
  (List.range ((ids.max?).getD 0 + 1)).filter (· ∈ ids)

theorem mem_sortedIds {ids : List Nat} {id : Nat} : id ∈ sortedIds ids ↔ id ∈ ids := by
  unfold sortedIds
  simp only [List.mem_filter, List.mem_range, decide_eq_true_eq, and_iff_right_iff_imp]
  intro member
  cases greatestEquation : ids.max? with
  | none =>
      rw [List.max?_eq_none_iff] at greatestEquation
      rw [greatestEquation] at member
      cases member
  | some greatest =>
      have bound := (List.max?_eq_some_iff.mp greatestEquation).2 id member
      simp only [Option.getD_some]
      omega

def ensureRounds (ids : List Nat) : TaskState :=
  ids.foldl (fun state roundId =>
    state.ensureRound roundId (if 1 < roundId then .backfill else .initial) none) state

/-- The positive `round_id`s that stored payloads name. -/
def artifactRoundIds : List Nat :=
  (state.artifacts.rows.map fun artifact => artifact.payload.explicitRound).filter (0 < ·)

/-- The part of `_repair_task_from_artifacts` before the replay. -/
def repairRounds : TaskState :=
  match state.artifactRoundIds.max? with
  | none => state
  | some currentRoundId =>
      let state := (state.ensureRounds (sortedIds state.artifactRoundIds)).supersedePriorRounds
        currentRoundId
      let existing := state.roundStatus currentRoundId
      state.setRoundStatus currentRoundId
        (if existing ∈ Status.roundTerminal then existing else state.status)

def replayArtifacts : TaskState :=
  state.artifacts.rows.foldl observeArtifact state

def repairTaskFromArtifacts : TaskState :=
  (state.repairRounds.replayArtifacts).syncLegacyProjection

/-- The branch of `backfill_task` for a task that has no round yet. -/
def migrateTask : TaskState :=
  let named := state.artifacts.rows.map fun artifact => max 1 artifact.payload.explicitRound
  let roundIds := sortedIds (if named = [] then [1] else named)
  let currentRoundId := (named.max?).getD 1
  let currentStatus := state.status
  let state := (state.ensureRounds roundIds).supersedePriorRounds currentRoundId
  let state := state.setRoundStatus currentRoundId currentStatus
  let state := state.jobs.foldl (fun (next : TaskState) job =>
    if job.status = .idle then next
    else next.ensureAttempt currentRoundId job.role job.status { agentRunId := job.agentRunId })
    state
  state.replayArtifacts.syncLegacyProjection

def backfillTask : TaskState :=
  if state.rounds.rows = [] then state.migrateTask else state.repairTaskFromArtifacts

/-- `current_round_id`: every caller repairs before it reads. -/
def currentRoundId (fallback : Nat) : Nat × TaskState :=
  let state := state.backfillTask
  (state.activeRoundId fallback, state)

def createInitialRound : TaskState :=
  ((state.ensureRound 1 .initial none).ensureAttempt 1 .director .queued {}).syncLegacyProjection

def startFollowupRound (triggerArtifactId : Option Nat) :
    Nat × TaskState :=
  let (current, state) := state.currentRoundId 1
  let execution := state.roundExecution current
  let nextRound := current + 1
  let state := state.supersedeRounds fun roundId => roundId = current
  let state := state.ensureRound nextRound .userFollowup triggerArtifactId
  let state := state.setRoundExecution nextRound execution.executionMode execution.executionGoal
    execution.acceptanceCriteria execution.waitingReason
  let state := state.ensureAttempt nextRound .director .queued {}
  let state := state.setAttemptExecution nextRound .director execution.executionMode
  (nextRound, state.syncLegacyProjection)

end TaskState

end Wlcodex.Relay
