import Wlcodex.Relay.RoundControl

namespace Wlcodex.Relay

open Wlcodex.Lib

/-! `_apply_native_completion_output`. -/

structure Completion where
  role : Role
  runtimeEventId : Int := 0
  agentRunId : Option Int := none
  turnId : String := ""
  /-- `none` is a blank text. -/
  output : Option RoleOutput
  /-- The event reports a completed agent run. -/
  runCompleted : Bool := false
  /-- The event id is in `_handled_runtime_completion_ids`. -/
  handled : Bool := false

namespace TaskState

def newestAttempt? (rows : List Attempt) : Option Attempt :=
  rows.foldl (fun best row =>
    match best with
    | none => some row
    | some other =>
        if other.roundId < row.roundId ∨
            other.roundId = row.roundId ∧ other.attemptNo < row.attemptNo then some row
        else some other) none

def attemptForCompletionIdentity? (state : TaskState) (role : Role) (agentRunId : Option Int)
    (turnId : String) : Option Attempt :=
  let turn := strip turnId
  let names : Attempt → Bool := fun row =>
    turn ≠ "" ∧ (row.turnId = turn ∨ row.activeTurnId = turn)
  let own := state.attempts.rows.filter fun row => row.role = role
  let run := agentRunId.filter (0 < ·)
  let byRun := own.filter fun row => run.isSome ∧ row.agentRunId = run
  ((newestAttempt? (byRun.filter names)).or (newestAttempt? byRun)).or
    (newestAttempt? (own.filter names))

def completionArtifactId? (state : TaskState) (role : Role) (runtimeEventId : Int)
    (agentRunId : Option Int) : Option Nat :=
  if runtimeEventId ≤ 0 ∧ positiveRun agentRunId = none then none
  else
    let linked := (state.attemptForCompletionIdentity? role agentRunId "").bind fun attempt =>
      if runtimeEventId ≤ 0 ∨ attempt.completionEventId.map Int.ofNat = some runtimeEventId then
        attempt.completionArtifactId
      else none
    linked.or (
      if runtimeEventId ≤ 0 then none
      else
        (state.artifacts.rows.reverse.find? fun artifact =>
          artifact.payload.runtimeEventId = runtimeEventId ∧
            artifact.payload.actor = some role).map Artifact.id)

end TaskState

namespace Service

open Script

/-- What `_claim_runtime_completion_projection` returns. -/
structure Projection where
  roundId : Nat
  acquired : Bool
  applied : Bool
  recovered : Bool

def OriginCurrent (state : TaskState) (role : Role) (origin : Attempt) : Prop :=
  origin.roundId = state.detailRoundId ∧
    origin.status ∉ [Status.superseded, Status.passed, Status.failed, Status.interrupted] ∧
    ∃ latest ∈ state.attempts.latest? state.detailRoundId role,
      latest.attemptNo = origin.attemptNo ∧ latest.agentRunId = origin.agentRunId

instance (state : TaskState) (role : Role) (origin : Attempt) :
    Decidable (OriginCurrent state role origin) :=
  inferInstanceAs (Decidable (_ ∧ _ ∧ ∃ latest ∈ state.attempts.latest? _ role, _))

def Completion.identified (completion : Completion) : Bool :=
  (TaskState.positiveRun completion.agentRunId).isSome || strip completion.turnId ≠ ""

def completionOrigin? (state : TaskState) (completion : Completion) : Option Attempt :=
  if Completion.identified completion then
    state.attemptForCompletionIdentity? completion.role completion.agentRunId completion.turnId
  else none

def claimRuntimeCompletionProjection (completion : Completion) : Handler Projection := do
  let state ← get
  let origin := completionOrigin? state completion
  if Completion.identified completion ∧ origin = none then
    pure ⟨state.detailRoundId, false, true, false⟩
  else
    let roundId : Nat := (origin.map Attempt.roundId).getD state.detailRoundId
    match claimCompletionEventResult state.claims state.now roundId (some completion.role)
      completion.runtimeEventId completion.agentRunId 900 with
    | .error _ => raised
    | .ok (claim, _) =>
        perform (.claimCompletion roundId (some completion.role) completion.runtimeEventId
          completion.agentRunId 900)
        let stale := origin.any fun origin => ¬ OriginCurrent state completion.role origin
        if ¬ stale ∨ claim.alreadyApplied then
          pure ⟨claim.claimedRoundId, claim.acquired, claim.alreadyApplied, claim.recovered⟩
        else if (state.completionArtifactId? completion.role completion.runtimeEventId
            completion.agentRunId).isSome then
          pure ⟨claim.claimedRoundId, claim.acquired, false, claim.recovered || claim.acquired⟩
        else
          if claim.acquired then
            perform (.markCompletionIgnoredStale completion.runtimeEventId completion.agentRunId)
          pure ⟨claim.claimedRoundId, false, true, claim.recovered⟩

def finishRuntimeCompletionProjection (completion : Completion) : Handler Unit := do
  let state ← get
  perform (.markCompletionApplied completion.runtimeEventId completion.agentRunId
    (state.completionArtifactId? completion.role completion.runtimeEventId
      completion.agentRunId))

def fenced (completion : Completion) (project : Handler Unit) : Handler Unit := do
  let projection ← claimRuntimeCompletionProjection completion
  if projection.applied ∨ ¬ projection.acquired then pure ()
  else
    let state ← get
    if projection.recovered ∧ (state.completionArtifactId? completion.role
        completion.runtimeEventId completion.agentRunId).isSome then
      finishRuntimeCompletionProjection completion
    else
      project.recover do
        perform (.releaseCompletion completion.runtimeEventId completion.agentRunId)
        raised
      finishRuntimeCompletionProjection completion

/-- `_should_accept_plain_followup_response`, on the detail that it reads. -/
def AcceptsPlainFollowup (detail : TaskState) (role : Role) : Prop :=
  role = .director ∧ 0 < detail.latestArtifactId .userFollowup ∧
    detail.latestArtifactId .followupResponse < detail.latestArtifactId .userFollowup

instance (detail : TaskState) (role : Role) : Decidable (AcceptsPlainFollowup detail role) :=
  inferInstanceAs (Decidable (_ ∧ _ ∧ _))

def handlePlainFollowupResponse (role : Role) (runtimeEventId : Int) (semanticInvalid : Bool) :
    Handler Unit := do
  let roundId ← currentRoundId
  let _ ← saveArtifact (some role) .followupResponse
    { roundId := some roundId, runtimeEventId := runtimeEventId
      status := some (if semanticInvalid then .waiting else .passed) }
  if semanticInvalid then
    perform (.updateRoleStatus role .waiting)
    perform (.updateTaskStatus .waitingUser)
  else
    perform (.updateRoleStatus role .passed)
    perform (.updateTaskStatus .completed)
    let _ ← getTaskDetail

def handleRoleCompletionEvent (world : World) (completion : Completion) (message : RoleMessage) :
    Handler Unit := do
  if 0 < completion.runtimeEventId ∧ completion.handled then pure ()
  else
    fenced completion do
      let state ← get
      if state.jobs.any fun job => job.role = completion.role ∧
          job.status ∈ [Status.passed, Status.waiting, Status.failed, Status.interrupted] then
        pure ()
      else
        handleRoleOutput world completion.role (.message message) true completion.runtimeEventId

def rejectCompletion (world : World) (completion : Completion) (error : String) :
    Handler Unit := do
  recordInvalidSemanticArtifact completion.role error completion.runtimeEventId
    completion.agentRunId
  let retried ← retryRole world completion.role .format error
  if retried then pure () else blockRoleWithError completion.role error

def answerFollowup (completion : Completion) (error : String) (protocolAttempt : Bool) :
    Handler Unit := do
  if protocolAttempt then
    recordInvalidSemanticArtifact completion.role error completion.runtimeEventId
      completion.agentRunId
  handlePlainFollowupResponse completion.role completion.runtimeEventId protocolAttempt

def applyNativeCompletionOutput (world : World) (completion : Completion) : Handler Unit := do
  match completion.output with
  | none =>
      if completion.runCompleted then
        fenced completion (blockRoleWithError completion.role
          "native provider completed without assistant output")
  | some (.malformed error protocolAttempt) =>
      -- the check reads the detail only for the director
      let accepted ←
        if completion.role = .director then do
          let detail ← getTaskDetail
          pure (decide (AcceptsPlainFollowup detail completion.role))
        else pure false
      if accepted then fenced completion (answerFollowup completion error protocolAttempt)
      else if protocolAttempt then fenced completion (rejectCompletion world completion error)
  | some (.message message) =>
      (handleRoleCompletionEvent world completion message).recover do
        perform (.updateRoleStatus completion.role .blocked)
        perform (.updateTaskStatus .blocked)

end Service

end Wlcodex.Relay
