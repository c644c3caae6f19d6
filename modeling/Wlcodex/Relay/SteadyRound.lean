import Wlcodex.Relay.DispatchQuarantine
import Wlcodex.Relay.PendingConsumption

namespace Wlcodex.Relay

/-! The current round while a consumer works on it. -/

namespace TaskState

variable {state next : TaskState} {roundId : Nat}

theorem repairedRoundStatus_of_superseded {other : Nat} (dead : state.roundStatus other = .superseded) :
    state.repairedRoundStatus other = .superseded := by
  unfold repairedRoundStatus
  rw [dead]
  cases greatest : state.artifactRoundIds.max? with
  | none => rfl
  | some current =>
      dsimp only
      split
      · rw [if_pos (by decide)]
      · split
        · rfl
        · rfl

structure Steady (state : TaskState) (roundId : Nat) : Prop where
  present : state.HasRound 1
  active : state.activeRoundId 1 = roundId
  shown : state.status = state.roundStatus roundId
  known : ∀ named ∈ state.artifactRoundIds, state.HasRound named
  closed : ∀ current ∈ state.artifactRoundIds.max?, 1 < current → roundId < current →
    state.roundStatus roundId ∈ roundClosed

namespace Steady

variable (steady : state.Steady roundId)
include steady

theorem hasRound : state.HasRound roundId := by
  have known := hasRound_activeRoundId steady.present 1
  rw [steady.active] at known
  exact known

theorem congr (statuses : next.roundStatuses = state.roundStatuses) (status : next.status = state.status)
    (ids : next.artifactRoundIds = state.artifactRoundIds) : next.Steady roundId where
  present := (hasRound_congr statuses 1).mpr steady.present
  active := (activeRoundId_congr statuses 1).trans steady.active
  shown := by
    rw [status, roundStatus_congr statuses]
    exact steady.shown
  known := by
    intro named member
    rw [ids] at member
    exact (hasRound_congr statuses named).mpr (steady.known named member)
  closed := by
    intro current greatest several earlier
    rw [ids] at greatest
    rw [roundStatus_congr statuses]
    exact steady.closed current greatest several earlier

theorem repairedRoundStatus : state.repairedRoundStatus roundId = state.roundStatus roundId := by
  unfold TaskState.repairedRoundStatus
  cases greatest : state.artifactRoundIds.max? with
  | none => rfl
  | some current =>
      dsimp only
      split
      · split
        · rfl
        · exact steady.shown
      · rw [if_neg]
        rintro ⟨several, earlier, unclosed⟩
        exact unclosed (steady.closed current greatest several earlier)

theorem hasRound_backfillTask {other : Nat} :
    state.backfillTask.HasRound other ↔ state.HasRound other := by
  rw [TaskState.hasRound_backfillTask steady.present]
  constructor
  · rintro (named | stored)
    · exact steady.known other named
    · exact stored
  · exact .inr

theorem activeRoundId_backfillTask : state.backfillTask.activeRoundId 1 = roundId := by
  have status : ∀ other, state.HasRound other →
      state.backfillTask.roundStatus other = state.repairedRoundStatus other := fun other known =>
    roundStatus_backfillTask steady.present (steady.hasRound_backfillTask.mpr known)
  have known := steady.hasRound
  by_cases live : state.Live roundId
  · have stays : state.backfillTask.Live roundId := by
      refine ⟨steady.hasRound_backfillTask.mpr known, ?_⟩
      rw [status roundId known, steady.repairedRoundStatus]
      exact live.2
    obtain ⟨topLive, top⟩ := activeRoundId_of_live stays 1
    apply le_antisymm _ (top roundId stays)
    -- a live round above would have been live before
    have topKnown := steady.hasRound_backfillTask.mp topLive.1
    have before : state.Live (state.backfillTask.activeRoundId 1) := by
      refine ⟨topKnown, ?_⟩
      intro dead
      apply topLive.2
      rw [status _ topKnown]
      exact repairedRoundStatus_of_superseded dead
    have bound := (activeRoundId_of_live live 1).2 _ before
    rw [steady.active] at bound
    exact bound
  · have none : ∀ other, ¬ state.Live other := by
      intro other otherLive
      have activeLive := (activeRoundId_of_live otherLive 1).1
      rw [steady.active] at activeLive
      exact live activeLive
    have noneAfter : ∀ other, ¬ state.backfillTask.Live other := by
      rintro other ⟨otherKnown, notDead⟩
      have stored := steady.hasRound_backfillTask.mp otherKnown
      have dead : state.roundStatus other = .superseded := by
        by_contra alive
        exact none other ⟨stored, alive⟩
      apply notDead
      rw [status other stored]
      exact repairedRoundStatus_of_superseded dead
    have latest := activeRoundId_of_not_live none 1
    rw [steady.active] at latest
    rw [activeRoundId_of_not_live noneAfter, latest]
    apply latestRoundId_eq_of_greatest
    · rw [steady.hasRound_backfillTask, ← latest]
      exact known
    · intro other otherKnown
      exact le_latestRoundId (steady.hasRound_backfillTask.mp otherKnown) 1

end Steady

theorem steady_backfillTask (present : state.HasRound 1) :
    state.backfillTask.Steady (state.backfillTask.activeRoundId 1) := by
  have ids : state.backfillTask.artifactRoundIds = state.artifactRoundIds := by
    unfold artifactRoundIds
    rw [artifacts_backfillTask present]
  have still : state.backfillTask.HasRound 1 := (hasRound_backfillTask present).mpr (.inr present)
  refine ⟨still, rfl, status_backfillTask present, ?_, ?_⟩
  · intro named member
    rw [ids] at member
    exact (hasRound_backfillTask present).mpr (.inl member)
  · intro current greatest several earlier
    rw [ids] at greatest
    rw [roundStatus_backfillTask present (hasRound_activeRoundId still 1)]
    unfold repairedRoundStatus
    rw [Option.mem_def.mp greatest]
    dsimp only
    rw [if_neg (by omega)]
    split
    · decide
    · rename_i closed
      by_contra unclosed
      exact closed ⟨several, earlier, unclosed⟩

theorem Steady.backfillTask (steady : state.Steady roundId) :
    state.backfillTask.Steady roundId := by
  have repaired := steady_backfillTask steady.present
  rw [steady.activeRoundId_backfillTask] at repaired
  exact repaired

theorem Steady.file (steady : state.Steady roundId) (rounds : next.rounds = state.rounds)
    (ids : next.artifactRoundIds = state.artifactRoundIds ++ [roundId]) :
    next.syncLegacyProjection.Steady roundId := by
  have statuses : next.syncLegacyProjection.roundStatuses = state.roundStatuses :=
    roundStatuses_of_rounds rounds
  have active : next.syncLegacyProjection.activeRoundId 1 = roundId :=
    (activeRoundId_congr statuses 1).trans steady.active
  have named : next.syncLegacyProjection.artifactRoundIds =
      state.artifactRoundIds ++ [roundId] := ids
  refine ⟨(hasRound_congr statuses 1).mpr steady.present, active, ?_, ?_, ?_⟩
  · rw [← active]
    rfl
  · intro other member
    rw [named, List.mem_append, List.mem_singleton] at member
    apply (hasRound_congr statuses other).mpr
    rcases member with before | rfl
    · exact steady.known other before
    · exact steady.hasRound
  · intro current greatest several earlier
    rw [named] at greatest
    obtain ⟨member, bound⟩ := List.max?_eq_some_iff.mp greatest
    rw [roundStatus_congr statuses]
    -- the new artifact is not the greatest, so an older one is
    apply steady.closed current _ several earlier
    apply List.max?_eq_some_iff.mpr
    rcases List.mem_append.mp member with before | last
    · exact ⟨before, fun other listed => bound other (List.mem_append_left _ listed)⟩
    · rw [List.mem_singleton.mp last] at earlier
      omega

theorem observeArtifact_of_plain {artifact : Artifact} (actor : artifact.payload.actor = none)
    (type : artifact.type ≠ .routingDecision) (status : artifact.payload.status ≠ some .waiting) :
    state.observeArtifact artifact = state := by
  unfold observeArtifact observeRound
  simp only [actor, if_neg type, if_neg status]

theorem Steady.saveTransition (steady : state.Steady roundId) (positive : 0 < roundId)
    {payload : Payload} (plain : payload.actor = none ∧ payload.status = none ∧
      payload.artifactType = none ∧ payload.roundId = some (roundId : Int)) :
    (state.saveArtifact none .pendingInputTransition payload).Steady roundId := by
  obtain ⟨actor, status, type, named⟩ := plain
  have filed : ∀ current, filedPayload payload none .pendingInputTransition current =
      { payload with artifactType := some .pendingInputTransition } := by
    intro current
    have relayRole : payload.relayRole = none := by
      exact (Option.or_eq_none_iff.mp actor).1
    unfold filedPayload
    simp only [type, named, relayRole, Option.or_none, Option.none_or, Option.some_or]
  unfold saveArtifact
  unfold fileArtifact
  dsimp only
  rw [observeArtifact_of_plain]
  · refine steady.backfillTask.file (by rfl) ?_
    unfold artifactRoundIds
    simp only [ArtifactLog.append, filed, List.map_append, List.filter_append]
    congr 1
    simp [Payload.explicitRound, named, positive]
  · rw [filed]
    exact actor
  · unfold Artifact.type
    rw [filed]
    exact ArtifactType.noConfusion
  · rw [filed, status]
    decide

end TaskState

end Wlcodex.Relay
