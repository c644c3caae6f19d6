import Wlcodex.Relay.Service

namespace Wlcodex.Relay

open Wlcodex.Lib

/-! `handle_role_output`. -/

namespace Service

open Script

/-! ## Pending inputs -/

/-- `pending_input_transition_artifact`. -/
def transitionArtifact? (state : TaskState) (pendingId : Nat) : Option Artifact :=
  state.artifacts.rows.reverse.find? fun artifact =>
    artifact.type = .pendingInputTransition ∧ artifact.payload.pendingInputId = pendingId

/-- `pending_input_followup_artifact`. -/
def followupArtifact? (state : TaskState) (pendingId : Nat) : Option Artifact :=
  state.artifacts.rows.reverse.find? fun artifact =>
    artifact.type = .userFollowup ∧ artifact.payload.pendingInputId = pendingId

/-- `followup_round_for_transition_artifact`. -/
def followupRound? (state : TaskState) (transitionId : Nat) : Option Nat :=
  ((state.rounds.rows.filter fun row => row.triggerArtifactId = some transitionId).map
    Round.roundId).min?

/-- `start_followup_round`, with the id of the new round. -/
def startFollowupRound (trigger : Option Nat) : Handler Nat := do
  let state ← get
  perform (.startFollowupRound trigger)
  pure (state.startFollowupRound trigger).1

def routeToDirector (roundId pendingId : Nat) : Handler Unit := do
  let _ ← saveArtifact (some .director) .relayBoard
    { roundId := some roundId, pendingInputId := pendingId }
  perform (.updateRoleStatus .director .queued)
  let _ ← getTaskDetail
  let _ ← saveArtifact (some .director) .userFollowup
    { roundId := some roundId, pendingInputId := pendingId }

variable (world : World)

/-- `_consume_claimed_pending_input` once its follow-up round is open. -/
def projectPendingInput (claim : PendingClaim) (roundId : Nat)
    (dispatchNext : Bool) : Handler Unit := do
  let state ← get
  if (followupArtifact? state claim.id).isNone then
    let _ ← getTaskDetail
    routeToDirector roundId claim.id
  if dispatchNext ∧ claim.openBeforeDispatch ∧ claim.renewed then dispatchRole world .director

/-- `_consume_claimed_pending_input` with its transition artifact. -/
def openPendingRound (claim : PendingClaim) (transitionId sourceRoundId : Nat)
    (dispatchNext : Bool) : Handler Unit := do
  let state ← get
  match followupRound? state transitionId with
  | some roundId => projectPendingInput world claim roundId dispatchNext
  | none =>
      let current ← currentRoundId
      if current = sourceRoundId ∧ claim.openBeforeRound then
        let roundId ← startFollowupRound (some transitionId)
        projectPendingInput world claim roundId dispatchNext

/-- `consume_pending_after_round`; the claim itself is what the queue answers. -/
def consumePendingAfterRound (roundId : Nat) (dispatchNext : Bool) :
    Handler Unit := do
  match world.pending with
  | none => pure ()
  | some claim =>
      if claim.openBeforeTransition then
        let state ← get
        match transitionArtifact? state claim.id with
        | some transition =>
            let source := if transition.payload.sourceRoundId ≠ 0 then
                transition.payload.sourceRoundId else max 1 roundId
            let _ ← currentRoundId
            openPendingRound world claim transition.id source dispatchNext
        | none =>
            let current ← currentRoundId
            if current = max 1 roundId then
              let transitionId ← saveArtifact none .pendingInputTransition
                { roundId := some (max 1 roundId), pendingInputId := claim.id,
                  sourceRoundId := max 1 roundId }
              openPendingRound world claim transitionId (max 1 roundId) dispatchNext

def decisionError? (execution : Round) (decision : RoutingDecision) : Option String :=
  if execution.executionMode = .planFirst ∧
      decision.route ∉ [Route.waitingUser, Route.blocked] ∧
      (decision.route = .directorOnly ∨ .architect ∉ decision.requiredRoles) then
    some "plan_first routing_decision must include architect before implementation"
  else if execution.executionMode = .goal then
    let covered := normalizeAcceptanceCriteria decision.acceptanceCriteria
    let missing := (normalizeAcceptanceCriteria execution.acceptanceCriteria).filter (· ∉ covered)
    if missing = [] then none
    else some ("goal routing_decision omitted acceptance criteria: " ++
      String.intercalate "; " missing)
  else none

def decisionPayload (envelope : RoleEnvelope) (decision : RoutingDecision) (roundId : Nat)
    (runtimeEventId : Int) (asks : Option TaskState.Provenance) : Payload :=
  let payload := { envelope.payload roundId runtimeEventId with
    route := decision.route
    requiredRoles := decision.requiredRoles }
  match asks with
  | none => payload
  | some provenance => provenance.annotate payload

/-- `_handle_routing_decision` once the decision is stored. -/
def followDecision (role : Role) (envelope : RoleEnvelope)
    (decision : RoutingDecision) (job : JobIdentity) (roundId : Nat) (dispatchNext : Bool)
    (runtimeEventId : Int) : Handler Unit := do
  if decision.route = .blocked then
    perform (.updateRoleStatus role .blocked)
    perform (.updateTaskStatus .blocked)
  else if decision.route = .waitingUser ∨ decision.requiresUserApproval then
    perform (.updateRoleStatus role .waiting)
    setWaitingReason roundId fun _ =>
      if envelope.offersOptions then .confirmationOptions else .userInput
    perform (.setRoundConfirmation roundId
      (job.confirmation role .relayQuestion runtimeEventId))
    perform (.updateTaskStatus .waitingUser)
  else
    perform (.updateRoleStatus role .passed)
    perform (.updateTaskStatus .running)
    if decision.route = .directorOnly ∧ dispatchNext then queueRole world role true
    else
      match firstRequiredRoleAfterDirector decision.requiredRoles decision.route with
      | none => pure ()
      | some next =>
          createHandoffPacket role next envelope.evidenceRefs
          queueRole world next dispatchNext

def handleRoutingDecision (role : Role) (message : RoleMessage)
    (dispatchNext : Bool) (runtimeEventId : Int) : Handler Unit := do
  if role ≠ .director then
    blockRoleWithError role "routing_decision must be produced by director"
  else
    let detail ← getTaskDetail
    match normalizeRoutingDecision world.prompt message.routing with
    | .error error => blockRoleWithError role error
    | .ok decision =>
        let roundId ← currentRoundId
        let state ← get
        match decisionError? (state.roundExecution roundId) decision with
        | some error => blockRoleWithError role error
        | none =>
            let job := jobIdentity world detail role
            let asks := if decision.route = .waitingUser ∨ decision.requiresUserApproval then
                some (job.provenance runtimeEventId) else none
            let _ ← saveArtifact (some role) .routingDecision
              (decisionPayload message.envelope decision roundId runtimeEventId asks)
            followDecision world role message.envelope decision job roundId dispatchNext
              runtimeEventId

def followupDecision (detail : TaskState) (target : Role) : List Role × Route :=
  let previous := (detail.artifacts.rows.reverse.find? fun artifact =>
    artifact.type = .routingDecision).map Artifact.payload
  let required := cleanRequiredRoles ((previous.map Payload.requiredRoles).getD [])
  let required :=
    if target ∈ required then required
    else if target = .auditor then [.director, target]
    else [.director, target, .auditor]
  let route := (previous.map Payload.route).getD .none
  (orderedRequiredRoles required .coreRelay,
    if route = .none ∨ route = .directorOnly then .coreRelay else route)

def followupPayload (detail : TaskState) (envelope : RoleEnvelope) (target : Role) : Payload where
  role := some .director
  roundId := some detail.detailRoundId
  artifactType := some .routingDecision
  status := some .passed
  handoffTo := some target
  evidenceRefs := envelope.evidenceRefs
  requiredRoles := (followupDecision detail target).1
  route := (followupDecision detail target).2

def ensureFollowupRoutingDecision (detail : TaskState) (envelope : RoleEnvelope) :
    Handler Bool := do
  match envelope.handoffTo with
  | none => pure false
  | some target =>
      if target = .director then pure false
      else
        let _ ← saveArtifact (some .director) .routingDecision
          (followupPayload detail envelope target)
        pure true

def rejectOutput (role : Role) (error : String) (protocolAttempt : Bool)
    (dispatchNext : Bool) (runtimeEventId : Int) : Handler Unit := do
  if protocolAttempt then recordInvalidSemanticArtifact role error runtimeEventId none
  let retried ← if dispatchNext then retryRole world role .format error else pure false
  if retried then pure () else blockRoleWithError role error

def refuseOutput (role : Role) (verdict : RoleGuardrailResult)
    (dispatchNext : Bool) : Handler Unit := do
  let retried ←
    if verdict.action = .retryRole ∧ dispatchNext then
      retryRole world role .guardrail verdict.reason
    else pure false
  if retried then pure ()
  else if verdict.action = .waitingUser then waitRoleWithGuardrail role verdict.reason
  else blockRoleWithError role verdict.reason (some .guardrail)

def RequiresPlanApproval (execution : Round) (role : Role) (envelope : RoleEnvelope) : Prop :=
  execution.executionMode = .planFirst ∧ role = .architect ∧
    envelope.artifactType = .architecturePlan ∧ envelope.status = .passed

instance (execution : Round) (role : Role) (envelope : RoleEnvelope) :
    Decidable (RequiresPlanApproval execution role envelope) :=
  inferInstanceAs (Decidable (_ ∧ _ ∧ _ ∧ _))

def awaitPlanApproval (role : Role) (job : JobIdentity) (roundId : Nat)
    (runtimeEventId : Int) : Handler Unit := do
  setWaitingReason roundId fun _ => .planApproval
  perform (.setRoundConfirmation roundId (job.confirmation role .planApproval runtimeEventId))
  perform (.updateRoleStatus role .waiting)
  perform (.updateTaskStatus .waitingUser)

def awaitAnswer (role : Role) (reason : WaitingReason) (job : JobIdentity)
    (roundId artifactId : Nat) (runtimeEventId : Int) : Handler Unit := do
  perform (.annotateQuestion artifactId (job.provenance runtimeEventId))
  setWaitingReason roundId fun _ => reason
  perform (.setRoundConfirmation roundId (job.confirmation role .relayQuestion runtimeEventId))
  perform (.updateTaskStatus .waitingUser)

/-- `_reset_required_roles_after_handoff`: the roles behind the next one. -/
def rolesAfter (detail : TaskState) (next : Role) : List Role :=
  let ordered := orderedRequiredRoles detail.requiredRoles detail.decidedRoute
  if next = .director ∨ next ∉ ordered then []
  else ((ordered.dropWhile (· ≠ next)).drop 1).filter (· ≠ .director)

def resetRoles : List Role → Handler Unit
  | [] => pure ()
  | role :: rest => do
      perform (.updateRoleStatus role .idle)
      resetRoles rest

def handOff (role : Role) (envelope : RoleEnvelope) (dispatchNext : Bool) :
    Handler Unit := do
  let detail ← getTaskDetail
  match detail.resolveHandoffTarget role envelope.handoffTo envelope.nextRole with
  | .error error => blockRoleWithError role error
  | .ok none => pure ()
  | .ok (some next) =>
      perform (.updateTaskStatus .running)
      resetRoles (rolesAfter detail next)
      createHandoffPacket role next envelope.evidenceRefs
      queueRole world next dispatchNext

def rework (role : Role) (envelope : RoleEnvelope) (dispatchNext : Bool)
    (otherwise : Handler Unit) : Handler Unit := do
  let detail ← getTaskDetail
  match detail.resolveHandoffTarget role envelope.handoffTo envelope.nextRole with
  | .error error => blockRoleWithError role error
  | .ok next =>
      if next = some .implementer then
        createHandoffPacket role .implementer envelope.evidenceRefs
        perform (.updateTaskStatus .running)
        queueRole world .implementer dispatchNext
      else otherwise

def completeTask (role : Role) (roundId : Nat) (dispatchNext : Bool) :
    Handler Unit := do
  let detail ← getTaskDetail
  if detail.finalSummaryCompletionError ≠ "" then
    blockRoleWithError role detail.finalSummaryCompletionError
  else
    perform (.updateTaskStatus .completed)
    let _ ← getTaskDetail
    consumePendingAfterRound world roundId dispatchNext

def IsFinalSummary (role : Role) (envelope : RoleEnvelope) : Prop :=
  envelope.status = .passed ∧ role = .director ∧ envelope.artifactType = .finalSummary ∧
    envelope.handoffTo = none

instance (role : Role) (envelope : RoleEnvelope) : Decidable (IsFinalSummary role envelope) :=
  inferInstanceAs (Decidable (_ ∧ _ ∧ _ ∧ _))

def HandsOff (envelope : RoleEnvelope) : Prop :=
  (envelope.status = .passed ∨ envelope.status = .waiting ∧ envelope.handoffTo ≠ none) ∧
    envelope.nextRole ≠ none

instance (envelope : RoleEnvelope) : Decidable (HandsOff envelope) :=
  inferInstanceAs (Decidable (_ ∧ _))

def advance (role : Role) (envelope : RoleEnvelope) (roundId : Nat)
    (dispatchNext : Bool) : Handler Unit := do
  if envelope.status = .blocked then perform (.updateTaskStatus .blocked)
  else if envelope.status = .failed then perform (.updateTaskStatus .failed)
  else if IsFinalSummary role envelope then completeTask world role roundId dispatchNext
  else if HandsOff envelope then handOff world role envelope dispatchNext
  else if envelope.status = .waiting then perform (.updateTaskStatus .waitingUser)
  else pure ()

def Reworks (role : Role) (envelope : RoleEnvelope) : Prop :=
  role = .auditor ∧ (envelope.status = .blocked ∨ envelope.status = .failed) ∧
    envelope.handoffTo = some .implementer

instance (role : Role) (envelope : RoleEnvelope) : Decidable (Reworks role envelope) :=
  inferInstanceAs (Decidable (_ ∧ _ ∧ _))

def roleStatus (envelope : RoleEnvelope) : Status :=
  if envelope.interrupt?.isSome then .waiting
  else if envelope.status = .waiting ∧ envelope.handoffTo ≠ none then .passed
  else envelope.status.status

def concludeOutput (role : Role) (envelope : RoleEnvelope) (job : JobIdentity)
    (roundId artifactId : Nat) (dispatchNext : Bool) (runtimeEventId : Int) :
    Handler Unit := do
  perform (.updateRoleStatus role (roleStatus envelope))
  match envelope.interrupt? with
  | some reason => awaitAnswer role reason job roundId artifactId runtimeEventId
  | none =>
      if Reworks role envelope then
        rework world role envelope dispatchNext
          (advance world role envelope roundId dispatchNext)
      else advance world role envelope roundId dispatchNext

/-- `_record_goal_acceptance_for_output`: the error, empty when there is none. -/
def recordGoalAcceptanceForOutput (role : Role) (message : RoleMessage)
    (artifactId roundId : Nat) : Handler String := do
  let state ← get
  match state.acceptanceForOutput? role message artifactId roundId world.test with
  | none => pure ""
  | some (attempt, error) =>
      if state.AcceptsScope attempt then
        perform (.recordGoalAcceptance attempt)
        pure error
      else raised

def outputPayload (detail : TaskState) (role : Role) (envelope : RoleEnvelope) (roundId : Nat)
    (runtimeEventId : Int) : Payload :=
  { envelope.payload roundId runtimeEventId with
    implementationRunId :=
      if role = .implementer ∧ envelope.artifactType = .implementationReport then
        (TaskState.positiveRun (detail.jobRun role)).map Int.ofNat
      else none }

/-- `handle_role_output` on an envelope that its role may produce. -/
def acceptOutput (detail : TaskState) (role : Role) (message : RoleMessage)
    (roundId : Nat) (dispatchNext : Bool) (runtimeEventId : Int) : Handler Unit := do
  let job := jobIdentity world detail role
  let artifactId ← saveArtifact (some role) message.envelope.artifactType
    (outputPayload detail role message.envelope roundId runtimeEventId)
  let state ← get
  if RequiresPlanApproval (state.roundExecution roundId) role message.envelope then
    awaitPlanApproval role job roundId runtimeEventId
  else
    let error ← recordGoalAcceptanceForOutput world role message artifactId roundId
    if error ≠ "" then blockRoleWithError role error
    else
      concludeOutput world role message.envelope job roundId artifactId dispatchNext
        runtimeEventId

def handleRoleOutput (role : Role) (output : RoleOutput) (dispatchNext : Bool)
    (runtimeEventId : Int) : Handler Unit := do
  let roundId ← currentRoundId
  match output with
  | .malformed error protocolAttempt =>
      rejectOutput world role error protocolAttempt dispatchNext runtimeEventId
  | .message message =>
      let verdict := guardrailRoleEnvelope message.envelope role
      if verdict.action ≠ .accepted then refuseOutput world role verdict dispatchNext
      else if message.envelope.artifactType = .routingDecision then
        handleRoutingDecision world role message dispatchNext runtimeEventId
      else
        let detail ← getTaskDetail
        if role = .director ∧ detail.routingDecision? = none then
          let routed ← ensureFollowupRoutingDecision detail message.envelope
          if routed then
            let detail ← getTaskDetail
            acceptOutput world detail role message roundId dispatchNext runtimeEventId
          else
            blockRoleWithError role ("director must produce routing_decision before " ++
              message.envelope.artifactType.text)
        else acceptOutput world detail role message roundId dispatchNext runtimeEventId

end Service

end Wlcodex.Relay
