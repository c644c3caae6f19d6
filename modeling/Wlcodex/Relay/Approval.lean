import Wlcodex.Relay.Lifecycle

namespace Wlcodex.Relay

/-! The provider-native approval of a round. -/

inductive ApprovalAction where
  | resolving
  | superseding
  deriving DecidableEq, Repr

/-- `provider_native_<action>`. -/
def ApprovalAction.source : ApprovalAction → ConfirmationSource
  | .resolving => .providerNativeResolving
  | .superseding => .providerNativeSuperseding

structure ApprovalKey where
  requestId : String
  eventId : Int
  deriving DecidableEq, Repr

namespace ApprovalKey

/-- The identity a call cleans its arguments to; `none` when it is refused. -/
def ofCall (requestId : String) (eventId : Int) : Option ApprovalKey :=
  if strip requestId = "" ∨ eventId ≤ 0 then none else some ⟨strip requestId, eventId⟩

def Names (key : ApprovalKey) (confirmation : Confirmation) : Prop :=
  confirmation.providerRequestId = key.requestId ∧ confirmation.runtimeEventId = key.eventId

instance (key : ApprovalKey) : DecidablePred key.Names := fun _ =>
  inferInstanceAs (Decidable (_ ∧ _))

end ApprovalKey

/-- A native approval as `replace_provider_native_approval` receives it. -/
structure ApprovalRequest where
  role : Role
  provider : String
  requestId : String
  eventId : Int
  nativeSessionId : String
  agentRunId : Option Int
  turnId : String
  kind : ConfirmationKind
  deriving DecidableEq, Repr

namespace ApprovalRequest

def confirmation (request : ApprovalRequest) : Confirmation where
  source := .providerNativeApproval
  kind := if request.kind = .empty then .commandApproval else request.kind
  role := some request.role
  provider := request.provider
  providerRequestId := strip request.requestId
  runtimeEventId := request.eventId
  nativeSessionId := request.nativeSessionId
  agentRunId := request.agentRunId
  turnId := request.turnId

end ApprovalRequest

/-- The result dictionary of `replace_provider_native_approval`. -/
inductive ReplaceOutcome where
  | applied
  | duplicate
  | stale
  | roundMissing
  | missingRequestIdentity
  deriving DecidableEq, Repr

namespace TaskState

variable (state : TaskState)

def moveApproval (roundId : Nat) (key : Option ApprovalKey)
    (before after : ConfirmationSource) : Bool × TaskState :=
  match key with
  | none => (false, state)
  | some key =>
      match state.rounds.find? roundId with
      | none => (false, state)
      | some row =>
          if row.confirmation.source = before ∧ key.Names row.confirmation then
            (true, state.modifyRound roundId
              (fun row => { row with
                confirmation := { row.confirmation with source := after } }) fun _ => rfl)
          else (false, state)

def claimProviderNativeApprovalAction (roundId : Nat)
    (requestId : String) (eventId : Int) (action : ApprovalAction) : Bool × TaskState :=
  state.moveApproval roundId (ApprovalKey.ofCall requestId eventId) .providerNativeApproval
    action.source

def restoreProviderNativeApprovalAction (roundId : Nat)
    (requestId : String) (eventId : Int) (action : ApprovalAction) : Bool × TaskState :=
  state.moveApproval roundId (ApprovalKey.ofCall requestId eventId) action.source
    .providerNativeApproval

def awaitApproval (roundId : Nat) (request : ApprovalRequest) : TaskState :=
  match state.attempts.latest? roundId request.role with
  | none =>
      state.insertAttempt {
        roundId := roundId
        role := request.role
        attemptNo := 1
        status := .waiting
        provider := request.provider
        nativeSessionId := request.nativeSessionId
        agentRunId := request.agentRunId
        turnId := request.turnId
        activeTurnId := request.turnId
        dispatchArtifactId := none
        completionEventId := none
        completionArtifactId := none
        errorArtifactId := none
        retryCount := 0
        executionMode := .standard
        updatedAt := state.now }
  | some _ =>
      state.modifyLatestAttempt roundId request.role
        (fun row => { row with status := .waiting, updatedAt := state.now })
        fun _ => ⟨rfl, rfl, rfl⟩

/-- `UPDATE team_runs` and `UPDATE team_agent_jobs` of one role. -/
def projectApproval (role : Role) (taskStatus roleStatus : Status) :
    TaskState :=
  { state with
    status := taskStatus
    jobs := state.jobs.map fun job =>
      if job.role = role then { job with status := roleStatus } else job }

def replaceOutcome (confirmation : Confirmation) (key : ApprovalKey)
    (expectedPrevious : Option ApprovalKey) : ReplaceOutcome :=
  if confirmation.source = .providerNativeApproval ∧ key.Names confirmation then .duplicate
  else if key.eventId < confirmation.runtimeEventId then .stale
  else
    match expectedPrevious with
    | none => .applied
    | some expected =>
        -- an empty expected request id expects nothing
        if expected.requestId ≠ "" ∧ (¬ expected.Names confirmation ∨
            confirmation.source ≠ .providerNativeSuperseding) then .stale
        else .applied

def replaceProviderNativeApproval (roundId : Nat)
    (request : ApprovalRequest) (expectedPrevious : Option ApprovalKey) :
    ReplaceOutcome × TaskState :=
  match ApprovalKey.ofCall request.requestId request.eventId with
  | none => (.missingRequestIdentity, state)
  | some key =>
      match state.rounds.find? roundId with
      | none => (.roundMissing, state)
      | some row =>
          match replaceOutcome row.confirmation key expectedPrevious with
          | .applied =>
              let state := (state.putRoundStatus roundId .waitingUser).modifyRound roundId
                (fun row => { row with
                  waitingReason := .providerApproval
                  confirmation := request.confirmation }) fun _ => rfl
              (.applied, (state.awaitApproval roundId request).projectApproval request.role
                .waitingUser .waiting)
          | refused => (refused, state)

/-- `finalize_provider_native_approval_action`, with `interrupted` for the
decision `cancel_plan`. -/
def finalizeProviderNativeApprovalAction (roundId : Nat) (role : Role)
    (requestId : String) (eventId : Int) (interrupted : Bool) : Bool × TaskState :=
  match ApprovalKey.ofCall requestId eventId with
  | none => (false, state)
  | some key =>
      match state.rounds.find? roundId with
      | none => (false, state)
      | some row =>
          if row.confirmation.source = .providerNativeResolving ∧ key.Names row.confirmation then
            let roundStatus : Status := if interrupted then .interrupted else .running
            let roleStatus : Status := if interrupted then .interrupted else .streaming
            let state := (state.putRoundStatus roundId roundStatus).modifyRound roundId
              (fun row => { row with waitingReason := .none, confirmation := .none }) fun _ => rfl
            let state := state.modifyLatestAttempt roundId role
              (fun row => { row with status := roleStatus, updatedAt := state.now })
              fun _ => ⟨rfl, rfl, rfl⟩
            (true, state.projectApproval role roundStatus roleStatus)
          else (false, state)

end TaskState

end Wlcodex.Relay
