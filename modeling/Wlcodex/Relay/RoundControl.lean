import Wlcodex.Relay.RoleOutput

namespace Wlcodex.Relay

open Wlcodex.Lib

/-! What the user does to a round: `apply_round_control` and
`add_user_message`. -/

inductive ControlDecision where
  | approvePlan
  | revisePlan
  | cancelPlan
  | continue_
  deriving DecidableEq, Repr

structure RoundControl where
  roundId : Nat
  decision : ControlDecision
  /-- Zero names no artifact. -/
  artifactId : Nat := 0
  /-- The comment or the selected option is not blank. -/
  comments : Bool := false
  dispatchNext : Bool := true
  deriving DecidableEq, Repr

inductive ResolveAnswer where
  | unsupported
  | failed
  | resolved
  deriving DecidableEq, Repr

/-- What `add_user_message` gets from the director's running session. -/
inductive FollowupAnswer where
  | frozen
  | dispatch
  | continued (metadata : TaskState.RoleMetadata)
  deriving DecidableEq, Repr

namespace Service

open Script

/-- The plan that `approve_plan` approves. -/
def planArtifact? (detail : TaskState) (artifactId : Nat) : Option (Nat × Artifact) :=
  detail.relayArtifacts.reverse.find? fun entry =>
    (artifactId = 0 ∨ entry.2.id = artifactId) ∧ entry.2.type = .architecturePlan

/-- `_apply_provider_native_approval_control` once its provider is known: the
approval is claimed, resolved and finalized. -/
def resolveApproval (control : RoundControl) (role : Role) (requestId : String) (eventId : Int)
    (answer : ResolveAnswer) : Handler Unit := do
  let state ← get
  perform (.claimApproval control.roundId requestId eventId .resolving)
  if ¬ (state.claimProviderNativeApprovalAction control.roundId requestId eventId .resolving).1 then
    raised
  else if answer = .failed then
    perform (.restoreApproval control.roundId requestId eventId .resolving)
    raised
  else
    let claimed ← get
    perform (.finalizeApproval control.roundId role requestId eventId
      (control.decision = .cancelPlan))
    if (claimed.finalizeProviderNativeApprovalAction control.roundId role requestId eventId
        (control.decision = .cancelPlan)).1 then
      let _ ← getTaskDetail
    else raised

def applyProviderNativeApprovalControl (world : World) (control : RoundControl)
    (confirmation : Confirmation) (answer : ResolveAnswer) : Handler Unit := do
  let role := confirmation.role.getD .director
  let requestId := strip confirmation.providerRequestId
  let provider ←
    if strip confirmation.provider ≠ "" then pure (strip confirmation.provider)
    else do
      let detail ← getTaskDetail
      pure (jobIdentity world detail role).provider
  if provider = "" ∨ requestId = "" ∨ answer = .unsupported then raised
  else resolveApproval control role requestId confirmation.runtimeEventId answer

def cancelPlan (roundId : Nat) : Handler Unit := do
  perform (.clearRoundConfirmation roundId)
  perform (.updateTaskStatus .interrupted)
  let _ ← getTaskDetail

/-- `revise_plan` and `continue`: the waiting role goes on. -/
def resumeWaitingRole (world : World) (detail : TaskState) (control : RoundControl) :
    Handler Unit := do
  match detail.waitingRoleForRound control.roundId with
  | none => raised
  | some role =>
      if control.comments then
        let _ ← saveArtifact (some role) .userFollowup { roundId := some control.roundId }
      setWaitingReason control.roundId fun _ => .none
      perform (.clearRoundConfirmation control.roundId)
      perform (.updateTaskStatus .running)
      perform (.updateRoleStatus role .queued)
      let _ ← getTaskDetail
      if control.dispatchNext then dispatchRole world role

def approvePlan (world : World) (control : RoundControl) (role : Role) : Handler Unit := do
  perform (.updateRoleStatus role .passed)
  perform (.updateTaskStatus .running)
  setWaitingReason control.roundId fun _ => .none
  perform (.clearRoundConfirmation control.roundId)
  let refreshed ← getTaskDetail
  match refreshed.nextRequired role with
  | some next =>
      createHandoffPacket role next []
      queueRole world next control.dispatchNext
  | none => pure ()
  let _ ← getTaskDetail

def applyRoundControl (world : World) (control : RoundControl) (answer : ResolveAnswer) :
    Handler Unit := do
  let current ← currentRoundId
  if control.roundId ≠ current then raised
  else
    let detail ← getTaskDetail
    let confirmation := (detail.roundExecution control.roundId).confirmation
    if confirmation.source = .providerNativeApproval then
      applyProviderNativeApprovalControl world control confirmation answer
    else if confirmation.source ∈
        [.providerNativeResolving, .providerNativeSuperseding] then raised
    else
      match control.decision with
      | .cancelPlan => cancelPlan control.roundId
      | .revisePlan => resumeWaitingRole world detail control
      | .continue_ => resumeWaitingRole world detail control
      | .approvePlan =>
          match planArtifact? detail control.artifactId with
          | none => raised
          | some (planRound, plan) =>
              if planRound ≠ control.roundId then raised
              else approvePlan world control (plan.payload.actor.getD .architect)

def addUserMessage (world : World) (answer : FollowupAnswer) : Handler Unit := do
  match answer with
  | .frozen => raised
  | .dispatch =>
      let _ ← getTaskDetail
      let roundId ← startFollowupRound none
      routeToDirector roundId 0
      dispatchRole world .director
  | .continued metadata =>
      let _ ← getTaskDetail
      let roundId ← startFollowupRound none
      routeToDirector roundId 0
      perform (.updateRoleMetadata .director
        { metadata with dispatchVerified := true, executionMode := .standard })
      perform (.updateRoleStatus .director .streaming)

end Service

end Wlcodex.Relay
