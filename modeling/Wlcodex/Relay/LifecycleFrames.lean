import Wlcodex.Relay.Lifecycle

namespace Wlcodex.Relay

/-! What the lifecycle calls leave alone. -/

namespace TaskState

def roundStatuses (state : TaskState) : List (Nat × Status) :=
  state.rounds.rows.map fun row => (row.roundId, row.status)

def contracts (state : TaskState) : List (Nat × Status × ExecutionMode) :=
  state.rounds.rows.map fun row => (row.roundId, row.status, row.executionMode)

variable {first second : TaskState}

theorem roundStatuses_of_contracts
    (same : first.contracts = second.contracts) : first.roundStatuses = second.roundStatuses := by
  have read : ∀ state : TaskState,
      state.roundStatuses = state.contracts.map fun entry => (entry.1, entry.2.1) := by
    simp [roundStatuses, contracts, Function.comp_def]
  rw [read, read, same]

def HasRound (state : TaskState) (roundId : Nat) : Prop :=
  ∃ status, (roundId, status) ∈ state.roundStatuses

theorem roundStatus_eq (state : TaskState) (roundId : Nat) :
    state.roundStatus roundId =
      ((state.roundStatuses.find? fun entry => entry.1 = roundId).map Prod.snd).getD
        .running := by
  have found : (state.roundStatuses.find? fun entry => entry.1 = roundId) =
      (state.rounds.find? roundId).map fun row => (row.roundId, row.status) := by
    unfold roundStatuses RoundTable.find?
    rw [List.find?_map]
    rfl
  rw [found]
  unfold roundStatus
  cases state.rounds.find? roundId <;> rfl

theorem latestRoundId_eq (state : TaskState) (fallback : Nat) :
    state.latestRoundId fallback =
      ((state.roundStatuses.map Prod.fst).max?).getD (max 1 fallback) := by
  simp [latestRoundId, RoundTable.greatest?, roundStatuses, Function.comp_def]

theorem activeRoundId_eq (state : TaskState) (fallback : Nat) :
    state.activeRoundId fallback =
      match ((state.roundStatuses.filter fun entry => entry.2 ≠ .superseded).map Prod.fst).max? with
      | some roundId => roundId
      | none => state.latestRoundId fallback := by
  have greatest : (state.rounds.greatest? fun row => row.status ≠ .superseded) =
      ((state.roundStatuses.filter fun entry => entry.2 ≠ .superseded).map Prod.fst).max? := by
    unfold RoundTable.greatest? roundStatuses
    rw [List.filter_map, List.map_map]
    rfl
  cases found : ((state.roundStatuses.filter fun entry =>
      entry.2 ≠ .superseded).map Prod.fst).max? with
  | none => simp only [activeRoundId, greatest, found]
  | some roundId => simp only [activeRoundId, greatest, found]

section SameStatuses

variable {first second : TaskState} (same : first.roundStatuses = second.roundStatuses)
include same

theorem roundStatus_congr (roundId : Nat) :
    first.roundStatus roundId = second.roundStatus roundId := by
  rw [roundStatus_eq, roundStatus_eq, same]

theorem latestRoundId_congr (fallback : Nat) :
    first.latestRoundId fallback = second.latestRoundId fallback := by
  rw [latestRoundId_eq, latestRoundId_eq, same]

theorem activeRoundId_congr (fallback : Nat) :
    first.activeRoundId fallback = second.activeRoundId fallback := by
  rw [activeRoundId_eq, activeRoundId_eq, same, latestRoundId_congr same]

theorem artifactRound_congr (payload : Payload) :
    first.artifactRound payload = second.artifactRound payload := by
  unfold artifactRound
  rw [latestRoundId_congr same]

theorem hasRound_congr (roundId : Nat) : first.HasRound roundId ↔ second.HasRound roundId := by
  unfold HasRound
  rw [same]

end SameStatuses

theorem roundStatuses_of_rounds (same : first.rounds = second.rounds) :
    first.roundStatuses = second.roundStatuses := by
  unfold roundStatuses
  rw [same]

theorem contracts_of_rounds (same : first.rounds = second.rounds) :
    first.contracts = second.contracts := by
  unfold contracts
  rw [same]

theorem hasRound_of_rounds (same : first.rounds = second.rounds)
    (roundId : Nat) : first.HasRound roundId ↔ second.HasRound roundId :=
  hasRound_congr (roundStatuses_of_rounds same) roundId

variable {state : TaskState}

theorem hasRound_iff {roundId : Nat} :
    state.HasRound roundId ↔ ∃ row, state.rounds.find? roundId = some row := by
  constructor
  · rintro ⟨status, member⟩
    obtain ⟨row, rowMember, rowEquation⟩ := List.mem_map.mp member
    cases rowEquation
    exact Option.isSome_iff_exists.mp (List.find?_isSome.mpr ⟨row, rowMember, by simp⟩)
  · rintro ⟨row, found⟩
    refine ⟨row.status, List.mem_map.mpr ⟨row, List.mem_of_find?_eq_some found, ?_⟩⟩
    have named := List.find?_some found
    simp only [decide_eq_true_eq] at named
    rw [named]

theorem hasRound_latestRoundId (nonempty : state.rounds.rows ≠ [])
    (fallback : Nat) : state.HasRound (state.latestRoundId fallback) := by
  rw [latestRoundId_eq]
  have idsNonempty : state.roundStatuses.map Prod.fst ≠ [] := by
    simpa [roundStatuses] using nonempty
  obtain ⟨greatest, greatestEquation⟩ :=
    Option.isSome_iff_exists.mp (List.isSome_max?_of_ne_nil idsNonempty)
  rw [greatestEquation]
  obtain ⟨entry, member, rfl⟩ := List.mem_map.mp (List.max?_mem greatestEquation)
  exact ⟨entry.2, member⟩

section RoundWrites

variable (state : TaskState) (roundId : Nat)

@[simp] theorem modifyRound_attempts (change : Round → Round)
    (sameId : ∀ row, (change row).roundId = row.roundId) :
    (state.modifyRound roundId change sameId).attempts = state.attempts := rfl

@[simp] theorem modifyRound_artifacts (change : Round → Round)
    (sameId : ∀ row, (change row).roundId = row.roundId) :
    (state.modifyRound roundId change sameId).artifacts = state.artifacts := rfl

variable {change : Round → Round}

theorem modifyRound_contracts (sameId : ∀ row, (change row).roundId = row.roundId)
    (sameStatus : ∀ row, (change row).status = row.status)
    (sameMode : ∀ row, (change row).executionMode = row.executionMode) :
    (state.modifyRound roundId change sameId).contracts = state.contracts := by
  unfold contracts modifyRound RoundTable.modify
  rw [List.map_map]
  refine List.map_congr_left ?_
  intro row _
  simp only [Function.comp_apply]
  split
  · rw [sameId, sameStatus, sameMode]
  · rfl

theorem modifyRound_roundStatuses (sameId : ∀ row, (change row).roundId = row.roundId)
    (sameStatus : ∀ row, (change row).status = row.status) :
    (state.modifyRound roundId change sameId).roundStatuses = state.roundStatuses := by
  unfold modifyRound roundStatuses RoundTable.modify
  rw [List.map_map]
  apply List.map_congr_left
  intro row _
  simp only [Function.comp_apply]
  split
  · rw [sameId, sameStatus]
  · rfl

@[simp] theorem putRoundStatus_attempts (status : Status) :
    (state.putRoundStatus roundId status).attempts = state.attempts := rfl

@[simp] theorem putRoundStatus_artifacts (status : Status) :
    (state.putRoundStatus roundId status).artifacts = state.artifacts := rfl

@[simp] theorem ensureRound_attempts (trigger : TriggerKind) (artifact : Option Nat) :
    (state.ensureRound roundId trigger artifact).attempts = state.attempts := by
  unfold ensureRound
  split <;> rfl

@[simp] theorem ensureRound_artifacts (trigger : TriggerKind) (artifact : Option Nat) :
    (state.ensureRound roundId trigger artifact).artifacts = state.artifacts := by
  unfold ensureRound
  split <;> rfl

@[simp] theorem ensureRound_status (trigger : TriggerKind) (artifact : Option Nat) :
    (state.ensureRound roundId trigger artifact).status = state.status := by
  unfold ensureRound
  split <;> rfl

@[simp] theorem ensureRound_now (trigger : TriggerKind) (artifact : Option Nat) :
    (state.ensureRound roundId trigger artifact).now = state.now := by
  unfold ensureRound
  split <;> rfl

variable {state roundId}

theorem ensureRound_rounds_of_hasRound (known : state.HasRound roundId) (trigger : TriggerKind) :
    (state.ensureRound roundId trigger none).rounds = state.rounds := by
  obtain ⟨row, found⟩ := hasRound_iff.mp known
  have sameRows : (state.ensureRound roundId trigger none).rounds.rows = state.rounds.rows := by
    unfold ensureRound
    simp [found, modifyRound, RoundTable.modify]
  cases ensured : (state.ensureRound roundId trigger none).rounds
  cases stored : state.rounds
  simpa [ensured, stored] using sameRows

theorem ensureRound_contracts_of_hasRound (known : state.HasRound roundId)
    (trigger : TriggerKind) (artifact : Option Nat) :
    (state.ensureRound roundId trigger artifact).contracts = state.contracts := by
  obtain ⟨row, found⟩ := hasRound_iff.mp known
  unfold ensureRound
  simp only [found]
  exact modifyRound_contracts state roundId _ (fun _ => rfl) fun _ => rfl

theorem ensureRound_roundStatuses_of_hasRound (known : state.HasRound roundId)
    (trigger : TriggerKind) (artifact : Option Nat) :
    (state.ensureRound roundId trigger artifact).roundStatuses = state.roundStatuses :=
  roundStatuses_of_contracts (ensureRound_contracts_of_hasRound known trigger artifact)

theorem ensureRound_roundStatuses_of_not_hasRound (unknown : ¬ state.HasRound roundId)
    (trigger : TriggerKind) (artifact : Option Nat) :
    (state.ensureRound roundId trigger artifact).roundStatuses =
      (roundId, .running) :: state.roundStatuses := by
  have absent : state.rounds.find? roundId = none := by
    cases found : state.rounds.find? roundId with
    | none => rfl
    | some row => exact absurd (hasRound_iff.mpr ⟨row, found⟩) unknown
  have absentOpened : state.rounds.find? (Round.opened roundId trigger artifact).roundId = none :=
    absent
  unfold ensureRound
  simp only [absent, roundStatuses]
  rw [RoundTable.insertNew_rows absentOpened]
  rfl

end RoundWrites

section AttemptWrites

variable (state : TaskState) (roundId : Nat) (role : Role)

@[simp] theorem insertAttempt_rounds (row : Attempt) :
    (state.insertAttempt row).rounds = state.rounds := rfl

@[simp] theorem insertAttempt_artifacts (row : Attempt) :
    (state.insertAttempt row).artifacts = state.artifacts := rfl

@[simp] theorem modifyLatestAttempt_rounds (change : Attempt → Attempt)
    (sameKey : KeepsKey change) :
    (state.modifyLatestAttempt roundId role change sameKey).rounds = state.rounds := rfl

@[simp] theorem modifyLatestAttempt_artifacts (change : Attempt → Attempt)
    (sameKey : KeepsKey change) :
    (state.modifyLatestAttempt roundId role change sameKey).artifacts = state.artifacts := rfl

@[simp] theorem updateAttempt_artifacts (change : AttemptChange) :
    (state.updateAttempt roundId role change).artifacts = state.artifacts := by
  unfold updateAttempt
  split
  · simp
  · split
    · rfl
    · split
      · split <;> simp
      · simp

@[simp] theorem ensureAttempt_artifacts (status : Status) (change : AttemptChange) :
    (state.ensureAttempt roundId role status change).artifacts = state.artifacts := by
  simp [ensureAttempt]

@[simp] theorem setAttemptExecution_artifacts (mode : ExecutionMode) :
    (state.setAttemptExecution roundId role mode).artifacts = state.artifacts := by
  unfold setAttemptExecution
  split <;> simp

theorem updateAttempt_rounds (change : AttemptChange) :
    (state.updateAttempt roundId role change).rounds = state.rounds ∨
      (state.updateAttempt roundId role change).rounds =
        (state.ensureRound roundId .backfill none).rounds := by
  unfold updateAttempt
  split
  · exact .inr rfl
  · split
    · exact .inl rfl
    · split
      · split <;> exact .inl rfl
      · exact .inl rfl

variable {state roundId}

section Known

variable (known : state.HasRound roundId)
include known

theorem updateAttempt_rounds_of_hasRound (change : AttemptChange) :
    (state.updateAttempt roundId role change).rounds = state.rounds := by
  rcases updateAttempt_rounds state roundId role change with same | opened
  · exact same
  · rw [opened, ensureRound_rounds_of_hasRound known]

theorem ensureAttempt_rounds (status : Status) (change : AttemptChange) :
    (state.ensureAttempt roundId role status change).rounds = state.rounds := by
  have opened := ensureRound_rounds_of_hasRound known .backfill
  unfold ensureAttempt
  rw [updateAttempt_rounds_of_hasRound role ((hasRound_of_rounds opened roundId).mpr known), opened]

theorem setAttemptExecution_rounds (mode : ExecutionMode) :
    (state.setAttemptExecution roundId role mode).rounds = state.rounds := by
  unfold setAttemptExecution
  split
  · exact ensureAttempt_rounds role known .queued {}
  · rfl

theorem completeAttempt_rounds (status : Status) (artifact : Artifact) :
    (state.completeAttempt roundId role status artifact).rounds = state.rounds := by
  have ensured := ensureAttempt_rounds role known status {}
  unfold completeAttempt
  rw [updateAttempt_rounds_of_hasRound role ((hasRound_of_rounds ensured roundId).mpr known),
    ensured]

theorem observeDispatch_rounds (artifact : Artifact) :
    (state.observeDispatch roundId role artifact).rounds = state.rounds := by
  unfold observeDispatch
  simp only
  split
  · exact setAttemptExecution_rounds role known _
  · have ensured := ensureAttempt_rounds role known
      (initialDispatchStatus (state.roundStatus roundId) (state.attempts.latest? roundId role))
      (dispatchChange artifact)
    have ensuredKnown := (hasRound_of_rounds ensured roundId).mpr known
    have executed := setAttemptExecution_rounds role ensuredKnown
      artifact.payload.providerExecutionMode
    have executedKnown := (hasRound_of_rounds executed roundId).mpr ensuredKnown
    split
    · rw [updateAttempt_rounds_of_hasRound role executedKnown, executed, ensured]
    · rw [executed, ensured]

theorem observeError_rounds (artifact : Artifact) :
    (state.observeError roundId role artifact).rounds = state.rounds := by
  unfold observeError
  split
  · rfl
  · cases state.attempts.latest? roundId role with
    | none =>
        have ensured := ensureAttempt_rounds role known .streaming {}
        rw [updateAttempt_rounds_of_hasRound role ((hasRound_of_rounds ensured roundId).mpr known),
          ensured]
    | some row => exact updateAttempt_rounds_of_hasRound role known _

theorem observeAttempt_rounds (artifact : Artifact) :
    (state.observeAttempt roundId role artifact).rounds = state.rounds := by
  unfold observeAttempt observeResult
  split_ifs
  · exact observeDispatch_rounds role known artifact
  · exact observeError_rounds role known artifact
  · rfl
  · exact completeAttempt_rounds role known _ artifact
  · rfl
  · rfl
  · exact completeAttempt_rounds role known _ artifact
  · rfl

theorem setRoundRoute_contracts (route : Route) (requiredRoles : List Role) :
    (state.setRoundRoute roundId route requiredRoles).contracts = state.contracts := by
  unfold setRoundRoute
  rw [modifyRound_contracts, ensureRound_contracts_of_hasRound known]
  · exact fun _ => rfl
  · exact fun _ => rfl

theorem setRoundConfirmation_contracts (confirmation : Confirmation) :
    (state.setRoundConfirmation roundId confirmation).contracts = state.contracts := by
  unfold setRoundConfirmation
  rw [modifyRound_contracts, ensureRound_contracts_of_hasRound known]
  · exact fun _ => rfl
  · exact fun _ => rfl

theorem observeRound_contracts (artifact : Artifact) :
    (state.observeRound roundId artifact).contracts = state.contracts := by
  unfold observeRound
  by_cases routing : artifact.type = .routingDecision
  · have routed := setRoundRoute_contracts known artifact.payload.route
      artifact.payload.requiredRoles
    have routedKnown := (hasRound_congr (roundStatuses_of_contracts routed) roundId).mpr known
    simp only [routing, ↓reduceIte]
    split
    · rw [setRoundConfirmation_contracts routedKnown, routed]
    · exact routed
  · simp only [routing, ↓reduceIte]
    split
    · exact setRoundConfirmation_contracts known _
    · rfl

theorem setRoundRoute_roundStatuses (route : Route) (requiredRoles : List Role) :
    (state.setRoundRoute roundId route requiredRoles).roundStatuses = state.roundStatuses :=
  roundStatuses_of_contracts (setRoundRoute_contracts known route requiredRoles)

theorem observeRound_roundStatuses (artifact : Artifact) :
    (state.observeRound roundId artifact).roundStatuses = state.roundStatuses :=
  roundStatuses_of_contracts (observeRound_contracts known artifact)

end Known

end AttemptWrites

theorem observeArtifact_contracts {artifact : Artifact}
    (known : state.HasRound (state.artifactRound artifact.payload)) :
    (state.observeArtifact artifact).contracts = state.contracts := by
  have observed := observeRound_contracts known artifact
  have observedKnown := (hasRound_congr (roundStatuses_of_contracts observed) _).mpr known
  unfold observeArtifact
  split
  · exact observed
  · rename_i role _
    rw [contracts_of_rounds (observeAttempt_rounds role observedKnown artifact), observed]

theorem observeArtifact_roundStatuses {artifact : Artifact}
    (known : state.HasRound (state.artifactRound artifact.payload)) :
    (state.observeArtifact artifact).roundStatuses = state.roundStatuses :=
  roundStatuses_of_contracts (observeArtifact_contracts known)

section RoundQueries

variable {state : TaskState} {roundId : Nat}

@[simp] theorem setRoundRoute_attempts (state : TaskState) (roundId : Nat) (route : Route)
    (requiredRoles : List Role) :
    (state.setRoundRoute roundId route requiredRoles).attempts = state.attempts := by
  simp [setRoundRoute]

@[simp] theorem setRoundConfirmation_attempts (state : TaskState) (roundId : Nat)
    (confirmation : Confirmation) :
    (state.setRoundConfirmation roundId confirmation).attempts = state.attempts := by
  simp [setRoundConfirmation]

@[simp] theorem observeRound_attempts (state : TaskState) (roundId : Nat) (artifact : Artifact) :
    (state.observeRound roundId artifact).attempts = state.attempts := by
  unfold observeRound
  split <;> split <;> simp

theorem hasRound_ensureRound (trigger : TriggerKind) (artifact : Option Nat) (other : Nat) :
    (state.ensureRound roundId trigger artifact).HasRound other ↔
      other = roundId ∨ state.HasRound other := by
  by_cases known : state.HasRound roundId
  · rw [hasRound_congr (ensureRound_roundStatuses_of_hasRound known trigger artifact)]
    constructor
    · exact .inr
    · rintro (rfl | old)
      · exact known
      · exact old
  · unfold HasRound
    rw [ensureRound_roundStatuses_of_not_hasRound known]
    simp only [List.mem_cons, Prod.mk.injEq]
    constructor
    · rintro ⟨status, ⟨same, _⟩ | old⟩
      · exact .inl same
      · exact .inr ⟨status, old⟩
    · rintro (same | ⟨status, old⟩)
      · exact ⟨.running, .inl ⟨same, rfl⟩⟩
      · exact ⟨status, .inr old⟩

theorem roundStatus_ensureRound (trigger : TriggerKind) (artifact : Option Nat) (other : Nat) :
    (state.ensureRound roundId trigger artifact).roundStatus other = state.roundStatus other := by
  by_cases known : state.HasRound roundId
  · exact roundStatus_congr (ensureRound_roundStatuses_of_hasRound known trigger artifact) other
  · rw [roundStatus_eq, ensureRound_roundStatuses_of_not_hasRound known, List.find?_cons]
    by_cases same : roundId = other
    · have missing : state.roundStatus other = .running := by
        unfold roundStatus
        cases found : state.rounds.find? other with
        | none => rfl
        | some row => exact absurd (hasRound_iff.mpr ⟨row, same ▸ found⟩) known
      simp [same, missing]
    · simp only [same, decide_false]
      rw [roundStatus_eq]

theorem hasRound_ensureRounds (ids : List Nat) (other : Nat) :
    (state.ensureRounds ids).HasRound other ↔ other ∈ ids ∨ state.HasRound other := by
  induction ids generalizing state with
  | nil => simp [ensureRounds]
  | cons head rest ih =>
      unfold ensureRounds at ih ⊢
      rw [List.foldl_cons, ih, hasRound_ensureRound, List.mem_cons]
      tauto

theorem roundStatus_ensureRounds (ids : List Nat) (other : Nat) :
    (state.ensureRounds ids).roundStatus other = state.roundStatus other := by
  induction ids generalizing state with
  | nil => rfl
  | cons head rest ih =>
      unfold ensureRounds at ih ⊢
      rw [List.foldl_cons, ih, roundStatus_ensureRound]

@[simp] theorem ensureRounds_attempts (state : TaskState) (ids : List Nat) :
    (state.ensureRounds ids).attempts = state.attempts := by
  induction ids generalizing state with
  | nil => rfl
  | cons head rest ih =>
      unfold ensureRounds at ih ⊢
      rw [List.foldl_cons, ih, ensureRound_attempts]

@[simp] theorem ensureRounds_status (state : TaskState) (ids : List Nat) :
    (state.ensureRounds ids).status = state.status := by
  induction ids generalizing state with
  | nil => rfl
  | cons head rest ih =>
      unfold ensureRounds at ih ⊢
      rw [List.foldl_cons, ih, ensureRound_status]

variable {before : TaskState} {change : Round → Round}

theorem find?_of_map (rows : state.rounds.rows = before.rounds.rows.map change)
    (sameId : ∀ row, (change row).roundId = row.roundId) (roundId : Nat) :
    state.rounds.find? roundId = (before.rounds.find? roundId).map change := by
  unfold RoundTable.find?
  rw [rows, List.find?_map]
  simp [Function.comp_def, sameId]

theorem hasRound_of_map (rows : state.rounds.rows = before.rounds.rows.map change)
    (sameId : ∀ row, (change row).roundId = row.roundId) (roundId : Nat) :
    state.HasRound roundId ↔ before.HasRound roundId := by
  rw [hasRound_iff, hasRound_iff, find?_of_map rows sameId]
  simp

@[simp] theorem ensureRounds_now (state : TaskState) (ids : List Nat) :
    (state.ensureRounds ids).now = state.now := by
  induction ids generalizing state with
  | nil => rfl
  | cons head rest ih =>
      unfold ensureRounds at ih ⊢
      rw [List.foldl_cons, ih, ensureRound_now]

@[simp] theorem ensureRounds_artifacts (state : TaskState) (ids : List Nat) :
    (state.ensureRounds ids).artifacts = state.artifacts := by
  induction ids generalizing state with
  | nil => rfl
  | cons head rest ih =>
      unfold ensureRounds at ih ⊢
      rw [List.foldl_cons, ih, ensureRound_artifacts]

@[simp] theorem syncLegacyProjection_attempts (state : TaskState) :
    state.syncLegacyProjection.attempts = state.attempts := rfl

@[simp] theorem syncLegacyProjection_rounds (state : TaskState) :
    state.syncLegacyProjection.rounds = state.rounds := rfl

@[simp] theorem syncLegacyProjection_artifacts (state : TaskState) :
    state.syncLegacyProjection.artifacts = state.artifacts := rfl

@[simp] theorem setRoundStatus_attempts (state : TaskState) (roundId : Nat) (status : Status) :
    (state.setRoundStatus roundId status).attempts = state.attempts := by
  simp [setRoundStatus]

@[simp] theorem setRoundStatus_artifacts (state : TaskState) (roundId : Nat) (status : Status) :
    (state.setRoundStatus roundId status).artifacts = state.artifacts := by
  simp [setRoundStatus]

@[simp] theorem supersedePriorRounds_artifacts (state : TaskState) (current : Nat) :
    (state.supersedePriorRounds current).artifacts = state.artifacts := by
  unfold supersedePriorRounds
  split <;> rfl

@[simp] theorem repairRounds_artifacts (state : TaskState) :
    state.repairRounds.artifacts = state.artifacts := by
  unfold repairRounds
  split
  · rfl
  · simp

theorem roundStatus_of_map {row : Round} (rows : state.rounds.rows = before.rounds.rows.map change)
    (sameId : ∀ row, (change row).roundId = row.roundId) (found : before.rounds.find? roundId = some row) :
    state.roundStatus roundId = (change row).status := by
  unfold roundStatus
  rw [find?_of_map rows sameId, found]
  rfl

theorem hasRound_supersedeRounds (closing : Nat → Bool) :
    (state.supersedeRounds closing).HasRound roundId ↔ state.HasRound roundId :=
  hasRound_of_map rfl (by intro row; split <;> rfl) roundId

theorem roundStatus_supersedeRounds (closing : Nat → Bool) (known : state.HasRound roundId) :
    (state.supersedeRounds closing).roundStatus roundId =
      if closing roundId ∧ state.roundStatus roundId ∉ roundClosed then .superseded
      else state.roundStatus roundId := by
  obtain ⟨row, found⟩ := hasRound_iff.mp known
  have named := RoundTable.roundId_of_find? found
  have current : state.roundStatus roundId = row.status := by
    unfold roundStatus
    rw [found]
  rw [roundStatus_of_map rfl (by intro row; split <;> rfl) found, current, named]
  split <;> rfl

theorem hasRound_putRoundStatus (status : Status) (other : Nat) :
    (state.putRoundStatus roundId status).HasRound other ↔ state.HasRound other :=
  hasRound_of_map rfl (by intro row; split <;> rfl) other

theorem roundStatus_putRoundStatus (status : Status) {other : Nat} (known : state.HasRound other) :
    (state.putRoundStatus roundId status).roundStatus other =
      if other = roundId then status else state.roundStatus other := by
  obtain ⟨row, found⟩ := hasRound_iff.mp known
  have named := RoundTable.roundId_of_find? found
  have current : state.roundStatus other = row.status := by
    unfold roundStatus
    rw [found]
  rw [roundStatus_of_map rfl (by intro row; split <;> rfl) found, current, named]
  split <;> rfl

theorem latestRoundId_eq_of_greatest {greatest : Nat} (fallback : Nat) (present : state.HasRound greatest)
    (bound : ∀ other, state.HasRound other → other ≤ greatest) :
    state.latestRoundId fallback = greatest := by
  rw [latestRoundId_eq]
  have found : (state.roundStatuses.map Prod.fst).max? = some greatest := by
    rw [List.max?_eq_some_iff]
    obtain ⟨status, member⟩ := present
    refine ⟨List.mem_map.mpr ⟨_, member, rfl⟩, ?_⟩
    intro other otherMember
    obtain ⟨entry, entryMember, rfl⟩ := List.mem_map.mp otherMember
    exact bound entry.1 ⟨entry.2, entryMember⟩
  rw [found]
  rfl

theorem le_latestRoundId (known : state.HasRound roundId) (fallback : Nat) :
    roundId ≤ state.latestRoundId fallback := by
  obtain ⟨status, member⟩ := known
  rw [latestRoundId_eq]
  cases found : (state.roundStatuses.map Prod.fst).max? with
  | none =>
      rw [List.max?_eq_none_iff, List.map_eq_nil_iff] at found
      rw [found] at member
      cases member
  | some greatest =>
      exact (List.max?_eq_some_iff.mp found).2 roundId (List.mem_map.mpr ⟨_, member, rfl⟩)

end RoundQueries

/-- The `confirmation_*` columns of a round, if it has a row. -/
def confirmationAt (state : TaskState) (roundId : Nat) : Option Confirmation :=
  (state.rounds.find? roundId).map Round.confirmation

theorem confirmationAt_of_rounds (same : first.rounds = second.rounds)
    (roundId : Nat) : first.confirmationAt roundId = second.confirmationAt roundId := by
  unfold confirmationAt
  rw [same]

theorem confirmationAt_of_map {before after : TaskState}
    (rows : after.rounds.rows = before.rounds.rows.map change)
    (sameId : ∀ row, (change row).roundId = row.roundId)
    (sameConfirmation : ∀ row, (change row).confirmation = row.confirmation) (roundId : Nat) :
    after.confirmationAt roundId = before.confirmationAt roundId := by
  unfold confirmationAt
  rw [find?_of_map rows sameId, Option.map_map]
  congr 1
  exact funext sameConfirmation

theorem confirmationAt_modifyRound {roundId : Nat} {row : Round}
    (found : state.rounds.find? roundId = some row) (change : Round → Round)
    (sameId : ∀ row, (change row).roundId = row.roundId) (other : Nat) :
    (state.modifyRound roundId change sameId).confirmationAt other =
      if other = roundId then some (change row).confirmation else state.confirmationAt other := by
  have changed : (state.modifyRound roundId change sameId).rounds.find? other =
      (state.rounds.find? other).map fun row => if row.roundId = roundId then change row else row :=
    find?_of_map rfl (by intro row; split <;> simp [sameId]) other
  unfold confirmationAt
  rw [changed]
  by_cases same : other = roundId
  · subst same
    simp [found, RoundTable.roundId_of_find? found]
  · cases otherFound : state.rounds.find? other with
    | none => simp [same]
    | some otherRow => simp [same, RoundTable.roundId_of_find? otherFound]

end TaskState

end Wlcodex.Relay
