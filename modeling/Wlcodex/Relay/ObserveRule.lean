import Wlcodex.Relay.LifecycleFrames

namespace Wlcodex.Relay

/-! One rule for relations between the states before and after an observation. -/

namespace TaskState

/-- A preorder on states that the row writes of one round, for the roles that
`writes` admits, stay in. -/
structure WriteRule (R : TaskState → TaskState → Prop) (roundId : Nat) (writes : Role → Prop) :
    Prop where
  refl : ∀ state, R state state
  trans : ∀ {first second third}, R first second → R second third → R first third
  ensureRound : ∀ state : TaskState, R state (state.ensureRound roundId .backfill none)
  modifyRound : ∀ (state : TaskState) (change : Round → Round)
    (sameId : ∀ row, (change row).roundId = row.roundId),
    (∀ row, (change row).status = row.status ∧
      (change row).triggerArtifactId = row.triggerArtifactId) →
    R state (state.modifyRound roundId change sameId)
  updateAttempt : ∀ (state : TaskState) role change, writes role →
    R state (state.updateAttempt roundId role change)
  putMode : ∀ (state : TaskState) role (mode : ExecutionMode), writes role →
    R state (state.modifyLatestAttempt roundId role
      (fun row => { row with executionMode := mode, updatedAt := state.now })
      fun _ => ⟨rfl, rfl, rfl⟩)

namespace WriteRule

variable {R : TaskState → TaskState → Prop} {roundId : Nat} {writes : Role → Prop}
  (rule : WriteRule R roundId writes)
include rule

theorem setRoundRoute (state : TaskState) (route : Route) (requiredRoles : List Role) :
    R state (state.setRoundRoute roundId route requiredRoles) := by
  apply rule.trans (rule.ensureRound state)
  apply rule.modifyRound
  intro row
  exact ⟨rfl, rfl⟩

theorem setRoundExecution (state : TaskState) (mode : ExecutionMode) (goal : String)
    (criteria : List String) (reason : WaitingReason) :
    R state (state.setRoundExecution roundId mode goal criteria reason) := by
  apply rule.trans (rule.ensureRound state)
  apply rule.modifyRound
  intro row
  exact ⟨rfl, rfl⟩

theorem setRoundConfirmation (state : TaskState) (confirmation : Confirmation) :
    R state (state.setRoundConfirmation roundId confirmation) := by
  apply rule.trans (rule.ensureRound state)
  apply rule.modifyRound
  intro row
  exact ⟨rfl, rfl⟩

section Role

variable (role : Role) (admitted : writes role)
include admitted

section

variable (state : TaskState)

include state

theorem ensureAttempt (status : Status) (change : AttemptChange) :
    R state (state.ensureAttempt roundId role status change) :=
  rule.trans (rule.ensureRound state) (rule.updateAttempt _ role _ admitted)

theorem setAttemptExecution (mode : ExecutionMode) :
    R state (state.setAttemptExecution roundId role mode) := by
  unfold TaskState.setAttemptExecution
  split
  · exact rule.trans (rule.ensureAttempt role admitted state _ _) (rule.putMode _ role mode admitted)
  · exact rule.putMode state role mode admitted

theorem completeAttempt (status : Status) (artifact : Artifact) :
    R state (state.completeAttempt roundId role status artifact) :=
  rule.trans (rule.ensureAttempt role admitted state status {})
    (rule.updateAttempt _ role _ admitted)

theorem observeDispatch (artifact : Artifact) :
    R state (state.observeDispatch roundId role artifact) := by
  unfold TaskState.observeDispatch
  dsimp only
  split
  · exact rule.setAttemptExecution role admitted state _
  · have booked := rule.trans
      (rule.ensureAttempt role admitted state (initialDispatchStatus (state.roundStatus roundId)
        (state.attempts.latest? roundId role)) (dispatchChange artifact))
      (rule.setAttemptExecution role admitted _ artifact.payload.providerExecutionMode)
    split
    · exact rule.trans booked (rule.updateAttempt _ role _ admitted)
    · exact booked

theorem observeError (artifact : Artifact) :
    R state (state.observeError roundId role artifact) := by
  unfold TaskState.observeError
  split
  · exact rule.refl state
  · split
    · exact rule.trans (rule.ensureAttempt role admitted state _ _)
        (rule.updateAttempt _ role _ admitted)
    · exact rule.updateAttempt _ role _ admitted

theorem observeResult (artifact : Artifact) :
    R state (state.observeResult roundId role artifact) := by
  unfold TaskState.observeResult
  split
  · exact rule.refl state
  · split
    · exact rule.refl state
    · exact rule.completeAttempt role admitted state _ artifact

theorem observeAttempt (artifact : Artifact) :
    R state (state.observeAttempt roundId role artifact) := by
  unfold TaskState.observeAttempt
  split
  · exact rule.observeDispatch role admitted state artifact
  · split
    · exact rule.observeError role admitted state artifact
    · split
      · split
        · exact rule.refl state
        · exact rule.completeAttempt role admitted state _ artifact
      · split
        · exact rule.observeResult role admitted state artifact
        · exact rule.refl state

end

end Role

theorem observeRound (state : TaskState) (artifact : Artifact) :
    R state (state.observeRound roundId artifact) := by
  unfold TaskState.observeRound
  dsimp only
  split
  · split
    · exact rule.trans (rule.setRoundRoute state _ _) (rule.setRoundConfirmation _ _)
    · exact rule.setRoundConfirmation state _
  · split
    · exact rule.setRoundRoute state _ _
    · exact rule.refl state

end WriteRule

theorem WriteRule.observeArtifact {R : TaskState → TaskState → Prop} {writes : Role → Prop}
    (state : TaskState) (artifact : Artifact)
    (rule : WriteRule R (state.artifactRound artifact.payload) writes)
    (admitted : ∀ role ∈ artifact.payload.actor, writes role) :
    R state (state.observeArtifact artifact) := by
  unfold TaskState.observeArtifact
  split
  · exact rule.observeRound state artifact
  · rename_i role actor
    exact rule.trans (rule.observeRound state artifact)
      (rule.observeAttempt role (admitted role actor) _ artifact)

theorem WriteRule.replay {R : TaskState → TaskState → Prop}
    (rule : ∀ roundId, WriteRule R roundId fun _ => True) (state : TaskState)
    (seen : List Artifact) : R state (seen.foldl TaskState.observeArtifact state) := by
  induction seen generalizing state with
  | nil => exact (rule 0).refl state
  | cons head rest ih =>
      exact (rule 0).trans (WriteRule.observeArtifact state head (rule _) fun _ _ => trivial)
        (ih _)

end TaskState

end Wlcodex.Relay
