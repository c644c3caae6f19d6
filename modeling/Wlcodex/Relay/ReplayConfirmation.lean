import Wlcodex.Relay.Replay

namespace Wlcodex.Relay

/-! The confirmation of a round under a replay. -/

namespace TaskState

def waitsIn (latest roundId : Nat) (artifact : Artifact) : Bool :=
  artifact.payload.status = some .waiting ∧ replayRound latest artifact.payload = roundId

def lastWaiting? (artifacts : List Artifact) (latest roundId : Nat) : Option Artifact :=
  (artifacts.filter (waitsIn latest roundId)).getLast?

variable {state : TaskState} {roundId : Nat}

theorem confirmationAt_ensureRound (known : state.HasRound roundId) (other : Nat) (trigger : TriggerKind) :
    (state.ensureRound other trigger none).confirmationAt roundId =
      state.confirmationAt roundId := by
  by_cases otherKnown : state.HasRound other
  · exact confirmationAt_of_rounds (ensureRound_rounds_of_hasRound otherKnown trigger) roundId
  · have absent : state.rounds.find? other = none := by
      cases found : state.rounds.find? other with
      | none => rfl
      | some row => exact absurd (hasRound_iff.mpr ⟨row, found⟩) otherKnown
    have different : other ≠ roundId := by
      rintro rfl
      exact otherKnown known
    have rows : (state.ensureRound other trigger none).rounds.rows =
        .opened other trigger none :: state.rounds.rows := by
      unfold ensureRound
      simp only [absent]
      exact RoundTable.insertNew_rows absent
    unfold confirmationAt RoundTable.find?
    rw [rows, List.find?_cons]
    simp [Round.opened, different]

theorem confirmationAt_ensureRounds (known : state.HasRound roundId) (ids : List Nat) :
    (state.ensureRounds ids).confirmationAt roundId = state.confirmationAt roundId := by
  induction ids generalizing state with
  | nil => rfl
  | cons head rest ih =>
      have headKnown : (state.ensureRound head (if 1 < head then .backfill else .initial)
          none).HasRound roundId := (hasRound_ensureRound _ _ _).mpr (.inr known)
      have restSame := ih headKnown
      unfold ensureRounds at restSame ⊢
      rw [List.foldl_cons, restSame, confirmationAt_ensureRound known]

theorem confirmationAt_supersedePriorRounds (state : TaskState) (current roundId : Nat) :
    (state.supersedePriorRounds current).confirmationAt roundId =
      state.confirmationAt roundId := by
  unfold supersedePriorRounds
  split
  · rfl
  · refine confirmationAt_of_map rfl ?_ ?_ roundId <;> intro row <;> split <;> rfl

theorem confirmationAt_setRoundStatus (known : state.HasRound roundId) (other : Nat) (status : Status) :
    (state.setRoundStatus other status).confirmationAt roundId = state.confirmationAt roundId := by
  refine Eq.trans (confirmationAt_of_map rfl ?_ ?_ roundId)
    (confirmationAt_ensureRound known other .backfill) <;> intro row <;> split <;> rfl

theorem confirmationAt_repairRounds (known : state.HasRound roundId) :
    state.repairRounds.confirmationAt roundId = state.confirmationAt roundId := by
  unfold repairRounds
  split
  · rfl
  · simp only
    have ensuredKnown : (state.ensureRounds (sortedIds state.artifactRoundIds)).HasRound roundId :=
      (hasRound_ensureRounds _ _).mpr (.inr known)
    rw [confirmationAt_setRoundStatus (hasRound_supersedePriorRounds.mpr ensuredKnown),
      confirmationAt_supersedePriorRounds, confirmationAt_ensureRounds known]

theorem confirmationAt_setRoundRoute {other : Nat}
    (otherKnown : state.HasRound other) (route : Route) (requiredRoles : List Role) (roundId : Nat) :
    (state.setRoundRoute other route requiredRoles).confirmationAt roundId =
      state.confirmationAt roundId := by
  refine Eq.trans (confirmationAt_of_map rfl ?_ ?_ roundId)
    (confirmationAt_of_rounds (ensureRound_rounds_of_hasRound otherKnown .backfill) roundId) <;>
    intro row <;> split <;> rfl

theorem confirmationAt_setRoundConfirmation {other : Nat}
    (otherKnown : state.HasRound other) (confirmation : Confirmation) (roundId : Nat) :
    (state.setRoundConfirmation other confirmation).confirmationAt roundId =
      if other = roundId then some confirmation else state.confirmationAt roundId := by
  have ensured := ensureRound_rounds_of_hasRound otherKnown .backfill
  have found : (state.setRoundConfirmation other confirmation).rounds.find? roundId =
      (state.rounds.find? roundId).map fun row =>
        if row.roundId = other then { row with confirmation := confirmation } else row := by
    rw [← ensured]
    exact find?_of_map rfl (by intro row; split <;> rfl) roundId
  unfold confirmationAt
  rw [found]
  by_cases same : other = roundId
  · subst same
    obtain ⟨row, rowEquation⟩ := hasRound_iff.mp otherKnown
    simp [rowEquation, RoundTable.roundId_of_find? rowEquation]
  · cases rowEquation : state.rounds.find? roundId with
    | none => simp [same]
    | some row =>
        have named := RoundTable.roundId_of_find? rowEquation
        simp [same, named, Ne.symm same]

theorem confirmationAt_observeArtifact {artifact : Artifact}
    (known : state.HasRound (state.artifactRound artifact.payload)) (roundId : Nat) :
    (state.observeArtifact artifact).confirmationAt roundId =
      if waitsIn (state.latestRoundId 1) roundId artifact then
        some (artifactConfirmation artifact.payload)
      else state.confirmationAt roundId := by
  have statuses := observeRound_roundStatuses known artifact
  have attempted : (state.observeArtifact artifact).confirmationAt roundId =
      (state.observeRound (state.artifactRound artifact.payload) artifact).confirmationAt
        roundId := by
    unfold observeArtifact
    split
    · rfl
    · rename_i role _
      exact confirmationAt_of_rounds (observeAttempt_rounds role
        ((hasRound_congr statuses _).mpr known) artifact) roundId
  rw [attempted]
  have written : ∀ current : TaskState,
      current.HasRound (state.artifactRound artifact.payload) →
      current.confirmationAt roundId = state.confirmationAt roundId →
      (if artifact.payload.status = some .waiting then
          current.setRoundConfirmation (state.artifactRound artifact.payload)
            (artifactConfirmation artifact.payload)
        else current).confirmationAt roundId =
      if waitsIn (state.latestRoundId 1) roundId artifact then
        some (artifactConfirmation artifact.payload)
      else state.confirmationAt roundId := by
    intro current currentKnown sameBefore
    have sameRound : replayRound (state.latestRoundId 1) artifact.payload =
        state.artifactRound artifact.payload := rfl
    unfold waitsIn
    rw [sameRound]
    by_cases waiting : artifact.payload.status = some .waiting
    · simp only [waiting, ↓reduceIte, true_and, decide_eq_true_eq]
      rw [confirmationAt_setRoundConfirmation currentKnown, sameBefore]
    · simp [waiting, sameBefore]
  unfold observeRound
  by_cases routing : artifact.type = .routingDecision
  · simp only [routing, ↓reduceIte]
    have routed := setRoundRoute_roundStatuses known artifact.payload.route
      artifact.payload.requiredRoles
    exact written _ ((hasRound_congr routed _).mpr known)
      (confirmationAt_setRoundRoute known _ _ roundId)
  · simp only [routing, ↓reduceIte]
    exact written state known rfl

theorem confirmationAt_replay (artifacts : List Artifact) (state : TaskState) (roundId : Nat)
    (known : ∀ artifact ∈ artifacts, state.HasRound (state.artifactRound artifact.payload)) :
    (artifacts.foldl observeArtifact state).confirmationAt roundId =
      ((lastWaiting? artifacts (state.latestRoundId 1) roundId).map fun artifact =>
        artifactConfirmation artifact.payload).or (state.confirmationAt roundId) := by
  induction artifacts generalizing state with
  | nil => rfl
  | cons artifact rest ih =>
      have headKnown := known artifact List.mem_cons_self
      have statuses := observeArtifact_roundStatuses headKnown
      have restResult := ih (state.observeArtifact artifact) (by
        intro later member
        rw [artifactRound_congr statuses, hasRound_congr statuses]
        exact known later (List.mem_cons_of_mem _ member))
      rw [List.foldl_cons, restResult, latestRoundId_congr statuses,
        confirmationAt_observeArtifact headKnown]
      unfold lastWaiting?
      cases waits : waitsIn (state.latestRoundId 1) roundId artifact with
      | false => simp [waits]
      | true =>
          simp only [waits, List.filter_cons_of_pos, List.getLast?_cons, ↓reduceIte]
          cases (rest.filter (waitsIn (state.latestRoundId 1) roundId)).getLast? with
          | none | some => simp

theorem confirmationAt_backfillTask (known : state.HasRound roundId) :
    state.backfillTask.confirmationAt roundId =
      ((lastWaiting? state.artifacts.rows state.repairedLatestRound roundId).map fun artifact =>
        artifactConfirmation artifact.payload).or (state.confirmationAt roundId) := by
  have nonempty : state.rounds.rows ≠ [] := by
    obtain ⟨row, found⟩ := hasRound_iff.mp known
    exact List.ne_nil_of_mem (List.mem_of_find?_eq_some found)
  have backfilled : state.backfillTask.confirmationAt roundId =
      (state.artifacts.rows.foldl observeArtifact state.repairRounds).confirmationAt roundId := by
    unfold backfillTask repairTaskFromArtifacts replayArtifacts
    rw [if_neg nonempty, repairRounds_artifacts]
    rfl
  rw [backfilled, confirmationAt_replay _ _ _ (knownRound_repairRounds nonempty),
    latestRoundId_repairRounds nonempty, confirmationAt_repairRounds known]

def ReplayKeepsConfirmations (state : TaskState) : Prop :=
  ∀ row ∈ state.rounds.rows,
    state.backfillTask.confirmationAt row.roundId = some row.confirmation

def ConfirmationsCurrent (state : TaskState) : Prop :=
  ∀ row ∈ state.rounds.rows,
    ∀ artifact ∈ lastWaiting? state.artifacts.rows state.repairedLatestRound row.roundId,
      artifactConfirmation artifact.payload = row.confirmation

instance (state : TaskState) : Decidable state.ReplayKeepsConfirmations :=
  inferInstanceAs (Decidable (∀ row ∈ state.rounds.rows, _ = _))

instance (state : TaskState) : Decidable state.ConfirmationsCurrent :=
  inferInstanceAs (Decidable (∀ row ∈ state.rounds.rows,
    ∀ artifact ∈ lastWaiting? state.artifacts.rows state.repairedLatestRound row.roundId, _ = _))

/-- In every state, a replay keeps the confirmations of all rounds exactly when
each round with a waiting artifact still shows its last one. -/
theorem replay_keeps_confirmations_iff (state : TaskState) :
    state.ReplayKeepsConfirmations ↔ state.ConfirmationsCurrent := by
  refine forall₂_congr fun row member => ?_
  have found := RoundTable.find?_of_mem member
  rw [confirmationAt_backfillTask (hasRound_iff.mpr ⟨row, found⟩)]
  have stored : state.confirmationAt row.roundId = some row.confirmation := by
    unfold confirmationAt
    rw [found]
    rfl
  rw [stored]
  cases lastWaiting? state.artifacts.rows state.repairedLatestRound row.roundId with
  | none | some => simp

/-- The architect waits for the user, the user answers and the confirmation is
cleared: the next read makes the answered question the current confirmation
again. -/
theorem replay_resurrects_cleared_confirmation :
    let state := after 0
      [.saveArtifact (some .architect) .architecturePlan { status := some .waiting },
        .clearRoundConfirmation 1]
    ¬ state.ReplayKeepsConfirmations := by
  decide +kernel

end TaskState

end Wlcodex.Relay
