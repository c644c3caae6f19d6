import Wlcodex.Relay.Store

namespace Wlcodex.Relay

/-! What a role says. -/

inductive EnvelopeStatus where
  | passed
  | failed
  | blocked
  | waiting
  deriving DecidableEq, Repr

def EnvelopeStatus.status : EnvelopeStatus → Status
  | .passed => .passed
  | .failed => .failed
  | .blocked => .blocked
  | .waiting => .waiting

/-- `RoleEnvelope`, valid by the checks of `parse_role_envelope`. -/
structure RoleEnvelope where
  status : EnvelopeStatus
  role : Role
  artifactType : ArtifactType
  /-- `none` is the empty text. -/
  handoffTo : Option Role
  evidenceRefs : List String
  openQuestions : List String
  offersOptions : Bool
  knownRole : role ∈ relayRoleIds
  knownType : artifactType ∈ ArtifactType.roleEnvelope
  knownTarget : ∀ target ∈ handoffTo, target ∈ relayRoleIds
  deriving DecidableEq

def defaultHandoffTarget : Role → Option Role
  | .architect => some .implementer
  | .implementer => some .tester
  | .tester => some .auditor
  | .auditor => some .director
  | _ => none

namespace RoleEnvelope

def nextRole (envelope : RoleEnvelope) : Option Role :=
  envelope.handoffTo.or (defaultHandoffTarget envelope.role)

/-- The interrupt of `transition_from_role_parse_result`: a role without a
target that waits, or is blocked on a question, waits for the user. -/
def interrupt? (envelope : RoleEnvelope) : Option WaitingReason :=
  let asks : Bool := match envelope.status with
    | .waiting => true
    | .blocked => envelope.openQuestions ≠ [] || envelope.offersOptions
    | _ => false
  if envelope.handoffTo = none ∧ asks then
    some (
      if envelope.status = .blocked ∧ envelope.openQuestions ≠ [] then .blockedQuestion
      else if envelope.artifactType = .architecturePlan then .planApproval
      else if envelope.offersOptions then .confirmationOptions
      else .userInput)
  else none

/-- The payload `handle_role_output` builds from the envelope. -/
def payload (envelope : RoleEnvelope) (roundId : Nat) (runtimeEventId : Int) : Payload where
  role := some envelope.role
  roundId := some roundId
  artifactType := some envelope.artifactType
  status := some envelope.status.status
  handoffTo := envelope.handoffTo
  evidenceRefs := envelope.evidenceRefs
  runtimeEventId := if 0 < runtimeEventId then runtimeEventId else 0

end RoleEnvelope

inductive RoleGuardrailAction where
  | accepted
  | retryRole
  | waitingUser
  | blocked
  deriving DecidableEq, Repr

structure RoleGuardrailResult where
  action : RoleGuardrailAction
  reason : String := ""
  deriving DecidableEq, Repr

structure RelayRoleSpec where
  allowedArtifacts : List ArtifactType
  requiresEvidenceOnPass : Bool := false
  canCompleteTask : Bool := false

def roleSpecFor : Role → RelayRoleSpec
  | .director => { allowedArtifacts := [.routingDecision, .finalSummary], canCompleteTask := true }
  | .architect => { allowedArtifacts := [.architecturePlan] }
  | .implementer =>
      { allowedArtifacts := [.implementationReport], requiresEvidenceOnPass := true }
  | .tester => { allowedArtifacts := [.testReport], requiresEvidenceOnPass := true }
  | .auditor => { allowedArtifacts := [.auditReport], requiresEvidenceOnPass := true }
  | .other _ => { allowedArtifacts := [] }

/-- `guardrail_role_envelope` for a role that is named. -/
def guardrailRoleEnvelope (envelope : RoleEnvelope) (role : Role) : RoleGuardrailResult :=
  let spec := roleSpecFor role
  if spec.allowedArtifacts = [] then
    ⟨.blocked, "unknown relay role for guardrail: " ++ role.text⟩
  else if envelope.role ≠ role then
    ⟨.retryRole, role.text ++ " output declared role " ++ envelope.role.text⟩
  else if envelope.artifactType ∉ spec.allowedArtifacts then
    ⟨.retryRole, role.text ++ " may not produce " ++ envelope.artifactType.text ++
      "; expected one of " ++
        String.intercalate ", " (spec.allowedArtifacts.map ArtifactType.text)⟩
  else if envelope.artifactType = .finalSummary ∧ ¬ spec.canCompleteTask then
    ⟨.retryRole, role.text ++ " may not complete task with final_summary"⟩
  else if envelope.status = .passed ∧ spec.requiresEvidenceOnPass ∧ envelope.evidenceRefs = [] then
    let reason := role.text ++ " passed " ++ envelope.artifactType.text ++ " without evidence_refs"
    if envelope.openQuestions ≠ [] then ⟨.waitingUser, reason⟩ else ⟨.blocked, reason⟩
  else ⟨.accepted, ""⟩

structure RoutingFields where
  complexity : Option String := none
  risk : Option String := none
  route : Option Route := none
  requiredRoles : Option (List Role) := none
  acceptanceCriteria : Option (List String) := none
  stopConditions : Option (List String) := none
  requiresUserApproval : Option Bool := none
  deriving DecidableEq, Repr

/-- What `normalize_goal_acceptance_declaration` leaves of a declaration. -/
structure GoalDeclaration where
  implementationRunId : Nat
  criteria : List String
  declaresTest : Bool
  positive : 0 < implementationRunId
  deriving DecidableEq

structure RoleMessage where
  envelope : RoleEnvelope
  routing : RoutingFields
  /-- The declaration, or why it is rejected. -/
  goalAcceptance : Except String GoalDeclaration

/-- The text a role produced, as `parse_role_envelope` and
`_looks_like_relay_protocol_attempt` see it. -/
inductive RoleOutput where
  | malformed (error : String) (protocolAttempt : Bool)
  | message (content : RoleMessage)

end Wlcodex.Relay
