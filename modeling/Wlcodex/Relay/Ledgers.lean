import Wlcodex.Relay.Store

namespace Wlcodex.Relay

/-! The append-only side of a task. -/

structure Ledgers where
  claims : ClaimTable
  records : List GoalAcceptanceRecord
  artifacts : ArtifactLog

namespace TaskState

def ledgers (state : TaskState) : Ledgers := ⟨state.claims, state.records, state.artifacts⟩

section Lifecycle

variable (state : TaskState) (roundId : Nat)

@[simp] theorem ledgers_modifyRound (change : Round → Round)
    (sameId : ∀ row, (change row).roundId = row.roundId) :
    (state.modifyRound roundId change sameId).ledgers = state.ledgers := rfl

@[simp] theorem ledgers_putRoundStatus (status : Status) :
    (state.putRoundStatus roundId status).ledgers = state.ledgers := rfl

@[simp] theorem ledgers_syncLegacyProjection :
    state.syncLegacyProjection.ledgers = state.ledgers := rfl

@[simp] theorem ledgers_supersedeRounds (closing : Nat → Bool) :
    (state.supersedeRounds closing).ledgers = state.ledgers := rfl

@[simp] theorem ledgers_insertAttempt (row : Attempt) :
    (state.insertAttempt row).ledgers = state.ledgers := rfl

@[simp] theorem ledgers_modifyLatestAttempt (role : Role) (change : Attempt → Attempt)
    (sameKey : KeepsKey change) :
    (state.modifyLatestAttempt roundId role change sameKey).ledgers = state.ledgers := rfl

@[simp] theorem ledgers_ensureRound (trigger : TriggerKind) (artifact : Option Nat) :
    (state.ensureRound roundId trigger artifact).ledgers = state.ledgers := by
  unfold ensureRound
  split <;> rfl

@[simp] theorem ledgers_setRoundStatus (status : Status) :
    (state.setRoundStatus roundId status).ledgers = state.ledgers := by
  simp [setRoundStatus]

@[simp] theorem ledgers_setRoundRoute (route : Route) (requiredRoles : List Role) :
    (state.setRoundRoute roundId route requiredRoles).ledgers = state.ledgers := by
  simp [setRoundRoute]

@[simp] theorem ledgers_setRoundExecution (mode : ExecutionMode) (goal : String)
    (criteria : List String) (reason : WaitingReason) :
    (state.setRoundExecution roundId mode goal criteria reason).ledgers = state.ledgers := by
  simp [setRoundExecution]

@[simp] theorem ledgers_setRoundConfirmation (confirmation : Confirmation) :
    (state.setRoundConfirmation roundId confirmation).ledgers = state.ledgers := by
  simp [setRoundConfirmation]

@[simp] theorem ledgers_supersedePriorRounds :
    (state.supersedePriorRounds roundId).ledgers = state.ledgers := by
  unfold supersedePriorRounds
  split <;> simp

variable (role : Role)

@[simp] theorem ledgers_updateAttempt (change : AttemptChange) :
    (state.updateAttempt roundId role change).ledgers = state.ledgers := by
  unfold updateAttempt
  split
  · simp
  · split_ifs <;> simp

@[simp] theorem ledgers_ensureAttempt (status : Status) (change : AttemptChange) :
    (state.ensureAttempt roundId role status change).ledgers = state.ledgers := by
  simp [ensureAttempt]

@[simp] theorem ledgers_setAttemptExecution (mode : ExecutionMode) :
    (state.setAttemptExecution roundId role mode).ledgers = state.ledgers := by
  unfold setAttemptExecution
  split <;> simp

@[simp] theorem ledgers_claimQueuedAttemptDispatch :
    (state.claimQueuedAttemptDispatch roundId role).2.ledgers = state.ledgers := by
  unfold claimQueuedAttemptDispatch
  split
  · rfl
  · split_ifs <;> rfl

@[simp] theorem ledgers_completeAttempt (status : Status) (artifact : Artifact) :
    (state.completeAttempt roundId role status artifact).ledgers = state.ledgers := by
  simp [completeAttempt]

@[simp] theorem ledgers_observeRound (artifact : Artifact) :
    (state.observeRound roundId artifact).ledgers = state.ledgers := by
  simp only [observeRound]
  split_ifs <;> simp

@[simp] theorem ledgers_observeDispatch (artifact : Artifact) :
    (state.observeDispatch roundId role artifact).ledgers = state.ledgers := by
  simp only [observeDispatch]
  split_ifs
  · simp
  · split <;> simp

@[simp] theorem ledgers_observeError (artifact : Artifact) :
    (state.observeError roundId role artifact).ledgers = state.ledgers := by
  simp only [observeError]
  split_ifs
  · rfl
  · split <;> simp
  · split <;> simp
  · split <;> simp
  · split <;> simp

@[simp] theorem ledgers_observeAttempt (artifact : Artifact) :
    (state.observeAttempt roundId role artifact).ledgers = state.ledgers := by
  simp only [observeAttempt, observeResult]
  split_ifs <;> simp

@[simp] theorem ledgers_observeArtifact (artifact : Artifact) :
    (state.observeArtifact artifact).ledgers = state.ledgers := by
  simp only [observeArtifact]
  split <;> simp

end Lifecycle

section Backfill

variable (state : TaskState)

@[simp] theorem ledgers_replay (artifacts : List Artifact) :
    (artifacts.foldl observeArtifact state).ledgers = state.ledgers := by
  induction artifacts generalizing state with
  | nil => rfl
  | cons artifact rest ih => simp [ih]

@[simp] theorem ledgers_ensureRounds (ids : List Nat) :
    (state.ensureRounds ids).ledgers = state.ledgers := by
  unfold ensureRounds
  induction ids generalizing state with
  | nil => rfl
  | cons head rest ih => simp [ih]

@[simp] theorem ledgers_repairRounds : state.repairRounds.ledgers = state.ledgers := by
  unfold repairRounds
  split <;> simp

theorem ledgers_migrateJobs (current : Nat) (jobs : List Job) :
    (jobs.foldl (fun (next : TaskState) job =>
      if job.status = .idle then next
      else next.ensureAttempt current job.role job.status { agentRunId := job.agentRunId })
      state).ledgers = state.ledgers := by
  induction jobs generalizing state with
  | nil => rfl
  | cons job rest ih =>
      rw [List.foldl_cons, ih]
      split <;> simp

@[simp] theorem ledgers_backfillTask : state.backfillTask.ledgers = state.ledgers := by
  unfold backfillTask
  split
  · simp [migrateTask, replayArtifacts, ledgers_migrateJobs]
  · simp [repairTaskFromArtifacts, replayArtifacts]

@[simp] theorem ledgers_startFollowupRound (trigger : Option Nat) :
    (state.startFollowupRound trigger).2.ledgers = state.ledgers := by
  simp [startFollowupRound, currentRoundId]

theorem ledgers_createInitialRound : state.createInitialRound.ledgers = state.ledgers := by
  simp [createInitialRound]

end Backfill

section Approval

variable (state : TaskState) (roundId : Nat)

@[simp] theorem ledgers_moveApproval (key : Option ApprovalKey) (before after : ConfirmationSource) :
    (state.moveApproval roundId key before after).2.ledgers = state.ledgers := by
  unfold moveApproval
  split
  · rfl
  · split
    · rfl
    · split_ifs <;> rfl

@[simp] theorem ledgers_replaceProviderNativeApproval (request : ApprovalRequest)
    (expected : Option ApprovalKey) :
    (state.replaceProviderNativeApproval roundId request expected).2.ledgers = state.ledgers := by
  have awaited : ∀ current : TaskState,
      (current.awaitApproval roundId request).ledgers = current.ledgers := by
    intro current
    unfold awaitApproval
    split <;> rfl
  unfold replaceProviderNativeApproval
  split
  · rfl
  · split
    · rfl
    · split
      · exact awaited _
      · rfl

@[simp] theorem ledgers_finalizeProviderNativeApprovalAction (role : Role) (requestId : String)
    (eventId : Int) (interrupted : Bool) :
    (state.finalizeProviderNativeApprovalAction roundId role requestId eventId interrupted).2.ledgers
      = state.ledgers := by
  unfold finalizeProviderNativeApprovalAction
  split
  · rfl
  · split
    · rfl
    · split_ifs <;> rfl

end Approval

section Store

variable (state : TaskState)

theorem ledgers_fileArtifact (role : Option Role) (type : ArtifactType) (payload : Payload) :
    (state.fileArtifact role type payload).ledgers =
      { state.ledgers with
        artifacts := state.artifacts.append type
          (filedPayload payload role type state.storeRoundId.1) } := by
  have kept := ledgers_backfillTask state
  simp only [ledgers, Ledgers.mk.injEq] at kept
  simp only [fileArtifact, storeRoundId, currentRoundId, ledgers_syncLegacyProjection,
    ledgers_observeArtifact]
  simp [ledgers, kept]

theorem ledgers_saveArtifact (role : Option Role) (type : ArtifactType) (payload : Payload) :
    (state.saveArtifact role type payload).ledgers = state.ledgers ∨
      (state.saveArtifact role type payload).ledgers =
        { state.ledgers with
          artifacts := state.artifacts.append type
            (filedPayload payload role type state.storeRoundId.1) } := by
  unfold saveArtifact
  split
  · exact .inr (ledgers_fileArtifact state role type payload)
  · exact .inl rfl

@[simp] theorem ledgers_storeRoundId : state.storeRoundId.2.ledgers = state.ledgers := by
  simp [storeRoundId, currentRoundId]

@[simp] theorem ledgers_updateRoleStatus (role : Role) (status : Status) :
    (state.updateRoleStatus role status).ledgers = state.ledgers := by
  have kept := ledgers_storeRoundId state
  simp only [updateRoleStatus]
  split_ifs
  · split
    · exact kept
    · simp
  · simp

@[simp] theorem ledgers_updateTaskStatus (status : Status) :
    (state.updateTaskStatus status).ledgers = state.ledgers := by
  simp [updateTaskStatus]

theorem claims_eq_of_ledgers {state next : TaskState} (kept : next.ledgers = state.ledgers) :
    next.claims = state.claims := congrArg Ledgers.claims kept

theorem records_eq_of_ledgers {state next : TaskState} (kept : next.ledgers = state.ledgers) :
    next.records = state.records := congrArg Ledgers.records kept

theorem artifacts_eq_of_ledgers {state next : TaskState} (kept : next.ledgers = state.ledgers) :
    next.artifacts = state.artifacts := congrArg Ledgers.artifacts kept

theorem claims_saveArtifact (role : Option Role) (type : ArtifactType) (payload : Payload) :
    (state.saveArtifact role type payload).claims = state.claims := by
  rcases ledgers_saveArtifact state role type payload with kept | appended
  · exact claims_eq_of_ledgers kept
  · exact congrArg Ledgers.claims appended

theorem claims_updateRoleMetadata (role : Role) (metadata : RoleMetadata) :
    (state.updateRoleMetadata role metadata).claims = state.claims := by
  unfold updateRoleMetadata
  split
  · rfl
  · have assigned :
        (metadata.agentRunId.elim state (state.putJobRun role)).claims = state.claims := by
      cases metadata.agentRunId <;> rfl
    rw [claims_eq_of_ledgers (ledgers_syncLegacyProjection _),
      claims_eq_of_ledgers (ledgers_setAttemptExecution _ _ _ _),
      claims_eq_of_ledgers (ledgers_updateAttempt _ _ _ _), claims_saveArtifact,
      claims_eq_of_ledgers (ledgers_storeRoundId _)]
    exact assigned

end Store

end TaskState

end Wlcodex.Relay
