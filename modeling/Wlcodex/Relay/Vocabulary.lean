import Mathlib.Data.List.Basic

namespace Wlcodex.Relay

/-! The words the relay tables store. -/

/-- Whitespace removed by `str.strip()`. -/
def isSpace (c : Char) : Bool :=
  let n := c.toNat
  (9 ≤ n && n ≤ 13) || (28 ≤ n && n ≤ 32) || n == 0x85 || n == 0xa0 || n == 0x1680 ||
    (0x2000 ≤ n && n ≤ 0x200a) || n == 0x2028 || n == 0x2029 || n == 0x202f ||
    n == 0x205f || n == 0x3000

/-- `str.strip()`. -/
def strip (text : String) : String :=
  String.ofList (((text.toList.dropWhile isSpace).reverse.dropWhile isSpace).reverse)

inductive Role where
  | director
  | architect
  | implementer
  | tester
  | auditor
  | other (name : String)
  deriving DecidableEq, Repr

/-- `RELAY_ROLE_IDS`, in the order of the relay. -/
def relayRoleIds : List Role := [.director, .architect, .implementer, .tester, .auditor]

namespace Role

def ofText (text : String) : Role :=
  match text with
  | "director" => .director
  | "architect" => .architect
  | "implementer" => .implementer
  | "tester" => .tester
  | "auditor" => .auditor
  | _ => .other text

def text : Role → String
  | .director => "director"
  | .architect => "architect"
  | .implementer => "implementer"
  | .tester => "tester"
  | .auditor => "auditor"
  | .other name => name

/-- `RELAY_ROLE_DISPLAY_NAMES.get(role, role)`. -/
def displayName : Role → String
  | .director => "总工程师"
  | .architect => "架构工程师"
  | .implementer => "开发工程师"
  | .tester => "测试工程师"
  | .auditor => "审核工程师"
  | .other name => name

def stripped : Role → Role
  | .other text => ofText (strip text)
  | role => role

end Role

inductive Status where
  | idle
  | queued
  | dispatching
  | streaming
  | running
  | passed
  | waiting
  | waitingUser
  | blocked
  | failed
  | completed
  | interrupted
  | superseded
  | other (text : String)
  deriving DecidableEq, Repr

namespace Status

/-- `ROUND_TERMINAL_STATUSES`. -/
def roundTerminal : List Status :=
  [.waitingUser, .blocked, .failed, .completed, .interrupted, .superseded]

/-- `ATTEMPT_TERMINAL_STATUSES`. -/
def attemptTerminal : List Status :=
  [.passed, .waiting, .blocked, .failed, .interrupted, .superseded]

/-- `LEGACY_ROUND_FAILURE_STATUSES`. -/
def legacyRoundFailure : List Status := [.blocked, .failed]

def ofText (text : String) : Status :=
  match text with
  | "idle" => .idle
  | "queued" => .queued
  | "dispatching" => .dispatching
  | "streaming" => .streaming
  | "running" => .running
  | "passed" => .passed
  | "waiting" => .waiting
  | "waiting_user" => .waitingUser
  | "blocked" => .blocked
  | "failed" => .failed
  | "completed" => .completed
  | "interrupted" => .interrupted
  | "superseded" => .superseded
  | _ => .other text

/-- `str.strip()` on a status word; the vocabulary itself has no blanks. -/
def stripped : Status → Status
  | .other text => ofText (strip text)
  | status => status

end Status

inductive ArtifactType where
  | relayBoard
  | routingDecision
  | roleDispatchMetadata
  | architecturePlan
  | implementationReport
  | testReport
  | auditReport
  | handoffPacket
  | finalSummary
  | roleError
  | roleArtifactInvalid
  | roleResume
  | userAttachments
  | pendingInputTransition
  | userFollowup
  | followupResponse
  | other (text : String)
  deriving DecidableEq, Repr

namespace ArtifactType

/-- `ROLE_ENVELOPE_ARTIFACT_TYPES`. -/
def roleEnvelope : List ArtifactType :=
  [.relayBoard, .routingDecision, .roleDispatchMetadata, .architecturePlan,
    .implementationReport, .testReport, .auditReport, .handoffPacket, .finalSummary]

def text : ArtifactType → String
  | .relayBoard => "relay_board"
  | .routingDecision => "routing_decision"
  | .roleDispatchMetadata => "role_dispatch_metadata"
  | .architecturePlan => "architecture_plan"
  | .implementationReport => "implementation_report"
  | .testReport => "test_report"
  | .auditReport => "audit_report"
  | .handoffPacket => "handoff_packet"
  | .finalSummary => "final_summary"
  | .roleError => "role_error"
  | .roleArtifactInvalid => "role_artifact_invalid"
  | .roleResume => "role_resume"
  | .userAttachments => "user_attachments"
  | .pendingInputTransition => "pending_input_transition"
  | .userFollowup => "user_followup"
  | .followupResponse => "followup_response"
  | .other text => text

/-- `INTERNAL_RELAY_ARTIFACT_TYPES`. -/
def internalRelay : List ArtifactType :=
  [.roleError, .roleArtifactInvalid, .roleResume, .userAttachments,
    .pendingInputTransition, .userFollowup, .followupResponse]

/-- `RESULT_ARTIFACT_TYPES`: the artifacts that complete an attempt. -/
def result : List ArtifactType :=
  [.routingDecision, .architecturePlan, .implementationReport, .testReport,
    .auditReport, .finalSummary, .followupResponse]

end ArtifactType

def isRelayArtifactType (type : ArtifactType) : Bool :=
  type ∈ ArtifactType.roleEnvelope ++ ArtifactType.internalRelay

/-- `normalize_relay_execution_mode` maps every stored text, the legacy labels
included, to one of these. -/
inductive ExecutionMode where
  | standard
  | planFirst
  | goal
  deriving DecidableEq, Repr

inductive WaitingReason where
  | none
  | planApproval
  | providerApproval
  | userInput
  | confirmationOptions
  | blockedQuestion
  | guardrailQuestion
  deriving DecidableEq, Repr

inductive ConfirmationSource where
  | empty
  | relayPromptFallback
  | guardrail
  | providerNativeApproval
  | providerNativeResolving
  | providerNativeSuperseding
  | other (text : String)
  deriving DecidableEq, Repr

inductive ConfirmationKind where
  | empty
  | relayQuestion
  | planApproval
  | guardrailQuestion
  | commandApproval
  | fileChangeApproval
  | permissionApproval
  | planChoice
  | other (text : String)
  deriving DecidableEq, Repr

inductive TriggerKind where
  | initial
  | backfill
  | userFollowup
  deriving DecidableEq, Repr

/-- Routes of a routing decision; `none` is the empty text. -/
inductive Route where
  | none
  | directorOnly
  | coreRelay
  | fullRelay
  | auditFirst
  | waitingUser
  | blocked
  | other (text : String)
  deriving DecidableEq, Repr

end Wlcodex.Relay
