import Wlcodex.Relay.LocalCalls
import Wlcodex.Relay.NativeCompletion

namespace Wlcodex.Relay

open Wlcodex.Lib

/-! Handlers that stay in the current round. -/

namespace Service

open Script TaskState

def Within (mode : ExecutionMode) (speaks : Nat → Role → Prop) (roundId : Nat)
    (moves : Status → Prop) {α : Type} (handler : Handler α) (post : α → Prop) : Prop :=
  handler.Keeps TaskState.step (Current mode speaks roundId) (Local mode speaks roundId moves) post

section Within

variable {mode : ExecutionMode} {speaks : Nat → Role → Prop} {roundId : Nat}
  {moves : Status → Prop} {α β : Type}

theorem within_perform {op : StoreOp} (isLocal : Local mode speaks roundId moves op) :
    Within mode speaks roundId moves (perform op) fun _ => True :=
  keeps_perform (fun _ current => (current.step isLocal).current) isLocal

theorem within_getTaskDetail :
    Within mode speaks roundId moves getTaskDetail (Current mode speaks roundId) := by
  have isLocal : Local mode speaks roundId moves .backfillTask := trivial
  exact (within_perform isLocal).bind fun _ _ => keeps_get

theorem within_currentRoundId :
    Within mode speaks roundId moves currentRoundId fun value => value = roundId :=
  within_getTaskDetail.bind fun _ current => keeps_pure current.detailRoundId

theorem within_saveArtifact {role : Option Role} {type : ArtifactType} {payload : Payload}
    {other : Nat} (placed : payload.roundId.getD roundId = (other : Int))
    (known : 0 < other ∧ other ≤ roundId)
    (voiced : payload.artifactType.getD type ∈ ArtifactType.booked →
      ∀ actor ∈ (payload.relayRole.or role).or payload.role, speaks other actor) :
    Within mode speaks roundId moves (saveArtifact role type payload) fun _ => True := by
  have isLocal : Local mode speaks roundId moves (.saveArtifact role type payload) :=
    ⟨other, placed, known, voiced⟩
  exact (within_perform isLocal).bind fun _ _ => keeps_get.bind fun _ _ => keeps_pure trivial

theorem within_saveOwn {role : Role} {type : ArtifactType} {payload : Payload}
    (voiced : speaks roundId role) (unnamed : payload.relayRole.or (some role) = some role)
    (placed : payload.roundId.getD roundId = (roundId : Int)) :
    Within mode speaks roundId moves (saveArtifact (some role) type payload) fun _ => True := by
  intro state current
  refine within_saveArtifact placed ⟨current.order.positive, le_rfl⟩ ?_ state current
  intro _ actor named
  rw [unnamed] at named
  cases named
  exact voiced

theorem within_setWaitingReason (reason : Round → WaitingReason) :
    Within mode speaks roundId moves (setWaitingReason roundId reason) fun _ => True :=
  keeps_get.bind fun _ current => within_perform ⟨rfl, current.order.executionMode⟩

section Roles

variable {role : Role} (voiced : speaks roundId role)
  (moved : ∀ status, status ≠ .completed → moves status)
include voiced

theorem within_updateRoleStatus (status : Status) :
    Within mode speaks roundId moves (perform (.updateRoleStatus role status)) fun _ => True :=
  within_perform (.inr voiced)

include moved

omit voiced in
theorem within_updateTaskStatus {status : Status} (open_ : status ≠ .superseded)
    (unfinished : status ≠ .completed) :
    Within mode speaks roundId moves (perform (.updateTaskStatus status)) fun _ => True :=
  within_perform ⟨open_, moved status unfinished⟩

theorem within_blockRoleWithError (reason : String) (retryKind : Option RetryKind) :
    Within mode speaks roundId moves (blockRoleWithError role reason retryKind) fun _ => True := by
  refine within_currentRoundId.bind ?_
  rintro _ rfl
  refine (within_saveOwn voiced rfl rfl).bind fun _ _ => ?_
  refine (within_updateRoleStatus voiced _).bind fun _ _ => ?_
  exact within_updateTaskStatus moved (by decide) (by decide)

theorem within_waitRoleWithGuardrail (reason : String) :
    Within mode speaks roundId moves (waitRoleWithGuardrail role reason) fun _ => True := by
  refine within_currentRoundId.bind ?_
  rintro _ rfl
  refine (within_saveOwn voiced rfl rfl).bind fun _ _ => ?_
  refine (within_setWaitingReason _).bind fun _ _ => ?_
  refine Keeps.bind (within_perform rfl) fun _ _ => ?_
  refine (within_updateRoleStatus voiced _).bind fun _ _ => ?_
  exact within_updateTaskStatus moved (by decide) (by decide)

omit moved in
theorem within_recordInvalidSemanticArtifact (error : String) (runtimeEventId : Int)
    (agentRunId : Option Int) :
    Within mode speaks roundId moves
      (recordInvalidSemanticArtifact role error runtimeEventId agentRunId) fun _ => True := by
  refine within_currentRoundId.bind ?_
  rintro _ rfl
  exact (within_saveOwn voiced rfl rfl).bind fun _ _ => keeps_pure trivial

theorem within_retryRole (world : World) (kind : RetryKind) (error : String) :
    Within mode speaks roundId moves (retryRole world role kind error) fun _ => True := by
  refine within_getTaskDetail.bind fun detail _ => ?_
  refine within_currentRoundId.bind ?_
  rintro _ rfl
  refine keeps_ite (fun _ => keeps_pure trivial) fun _ => ?_
  refine (within_saveOwn voiced rfl rfl).bind fun _ _ => ?_
  refine (within_updateTaskStatus moved (by decide) (by decide)).bind fun _ _ => ?_
  refine (within_updateRoleStatus voiced _).bind fun _ _ => ?_
  split
  · refine Keeps.bind (within_perform voiced) fun _ _ => ?_
    exact (within_updateRoleStatus voiced _).bind fun _ _ => keeps_pure trivial
  · exact keeps_pure trivial

theorem within_markRoleFallback (world : World) :
    Within mode speaks roundId moves (markRoleFallback world role) fun _ => True := by
  refine Keeps.bind (within_perform voiced) fun _ _ => ?_
  refine (within_updateRoleStatus voiced _).bind fun _ _ => ?_
  exact within_updateTaskStatus moved (by decide) (by decide)

theorem within_startRole (world : World) :
    Within mode speaks roundId moves (startRole world roundId role) fun _ => True := by
  unfold startRole
  split
  · exact within_markRoleFallback voiced moved world
  · exact (within_setWaitingReason _).bind fun _ _ => within_markRoleFallback voiced moved world
  · refine (within_setWaitingReason _).bind fun _ _ => ?_
    refine Keeps.bind (within_perform voiced) fun _ _ => ?_
    exact within_updateRoleStatus voiced _

theorem within_claimAndStart (world : World) :
    Within mode speaks roundId moves (claimAndStart world roundId role) fun _ => True := by
  refine keeps_get.bind fun state _ => ?_
  refine Keeps.bind (within_perform rfl) fun _ _ => ?_
  exact keeps_ite (fun _ => within_startRole voiced moved world) fun _ => keeps_pure trivial

theorem within_dispatchRole (world : World) :
    Within mode speaks roundId moves (dispatchRole world role) fun _ => True := by
  refine keeps_ite (fun _ => ?_) fun _ => keeps_pure trivial
  refine within_getTaskDetail.bind fun detail current => ?_
  have sameRound := current.detailRoundId
  simp only [sameRound]
  split
  · exact keeps_raised
  · refine keeps_ite (fun _ => ?_) fun _ => keeps_ite (fun _ => ?_) fun _ => keeps_pure trivial
    · exact (within_updateRoleStatus voiced _).bind fun _ _ =>
        within_claimAndStart voiced moved world
    · exact within_claimAndStart voiced moved world

theorem within_queueRole (world : World) (dispatchNext : Bool) :
    Within mode speaks roundId moves (queueRole world role dispatchNext) fun _ => True := by
  refine (within_updateRoleStatus voiced _).bind fun _ _ => ?_
  exact keeps_ite (fun _ => within_dispatchRole voiced moved world) fun _ => keeps_pure trivial

end Roles

theorem within_createHandoffPacket (fromRole toRole : Role) (evidenceRefs : List String) :
    Within mode speaks roundId moves (createHandoffPacket fromRole toRole evidenceRefs)
      fun _ => True := by
  intro state current
  have known := current.order.positive
  refine (Keeps.bind (within_saveArtifact rfl ⟨known, le_rfl⟩ ?_) fun _ _ =>
    keeps_pure trivial) state current
  intro booked
  simp [ArtifactType.booked, ArtifactType.result] at booked

end Within

end Service

end Wlcodex.Relay
