import Wlcodex.Relay.AttemptSlices
import Wlcodex.Relay.CurrentRound

namespace Wlcodex.Relay

open Wlcodex.Lib

/-! States in which the repair before every read has nothing left to do. -/

namespace AttemptTable

def Placed (attempts : AttemptTable) (roundStatus : Status) (roundId : Nat) (role : Role) : Prop :=
  attempts.Retired roundId role ∨
    ∃ row ∈ attempts.latest? roundId role,
      initialDispatchStatus roundStatus (some row) = row.status

theorem placed_congr {first second : AttemptTable}
    (same : first.rows.map Attempt.view = second.rows.map Attempt.view) (roundStatus : Status)
    (roundId : Nat) (role : Role) :
    first.Placed roundStatus roundId role ↔ second.Placed roundStatus roundId role := by
  unfold Placed
  rw [retired_congr same, settled_congr same]

theorem linkExists_of_columns {first second : AttemptTable} {column : Attempt → Option Nat}
    (same : first.rows.map (fun row => (row.roundId, row.role, column row)) =
      second.rows.map fun row => (row.roundId, row.role, column row))
    (roundId : Nat) (role : Role) (artifactId : Nat) :
    first.linkExists roundId role column artifactId =
      second.linkExists roundId role column artifactId := by
  have shape : ∀ attempts : AttemptTable, attempts.linkExists roundId role column artifactId =
      ((attempts.rows.map fun row => (row.roundId, row.role, column row)).any (fun entry =>
          entry.1 = roundId ∧ entry.2.1 = role ∧ entry.2.2 = some artifactId) ||
        (((attempts.rows.map fun row => (row.roundId, row.role, column row)).find? fun entry =>
          entry.1 = roundId ∧ entry.2.1 = role).bind fun entry => entry.2.2).any
            fun linked => artifactId < linked) := by
    intro attempts
    rw [List.any_map, List.find?_map]
    rw [Option.bind_map]
    rfl
  rw [shape, shape, same]

end AttemptTable

def AttemptChange.Keeps (change : AttemptChange) (status : Status) : Prop :=
  status ≠ .superseded → change.status.getD status = status ∧
    ¬ ((change.status = some .queued ∨ change.status = some .streaming) ∧
      status ∈ Status.attemptTerminal)

variable {artifact : Artifact} {row : Attempt} {change : AttemptChange}

theorem AttemptChange.Keeps.outcome_status
    (keeps : change.Keeps row.status) (roundId : Nat) (role : Role) (now : Nat) :
    (change.outcome roundId role now (some row)).status = row.status := by
  unfold AttemptChange.outcome
  dsimp only
  split
  · rfl
  · rename_i unretired
    obtain ⟨same, once⟩ := keeps unretired
    rw [if_neg once]
    exact same

namespace TaskState

variable {state next last : TaskState} {roundId : Nat} {role : Role}

theorem journal_modifyLatestAttempt {change : Attempt → Attempt}
    {sameKey : KeepsKey change}
    (kept : ∀ row ∈ state.attempts.latest? roundId role, (change row).status = row.status) :
    (state.modifyLatestAttempt roundId role change sameKey).journal = state.journal := by
  unfold modifyLatestAttempt
  cases found : state.attempts.latest? roundId role with
  | none => rfl
  | some row => exact if_pos (kept row found)

theorem journal_setAttemptExecution
    (found : state.attempts.latest? roundId role = some row) (mode : ExecutionMode) :
    (state.setAttemptExecution roundId role mode).journal = state.journal := by
  unfold setAttemptExecution
  rw [found]
  apply journal_modifyLatestAttempt
  intro _ _
  rfl

theorem journal_updateAttempt (found : state.attempts.latest? roundId role = some row)
    (kept : change.Keeps row.status) :
    (state.updateAttempt roundId role change).journal = state.journal := by
  have inPlace : row.status ≠ .superseded → (state.modifyLatestAttempt roundId role
      (change.apply state.now) fun _ => ⟨rfl, rfl, rfl⟩).journal = state.journal := by
    intro unretired
    apply journal_modifyLatestAttempt
    intro stored storedFound
    rw [found] at storedFound
    cases storedFound
    exact (kept unretired).1
  unfold updateAttempt
  rw [found]
  dsimp only
  split
  · rfl
  · rename_i unretired
    split
    · rename_i reopening
      rw [if_neg fun terminal => (kept unretired).2 ⟨reopening, terminal⟩]
      exact inPlace unretired
    · exact inPlace unretired

section Inert

variable {artifact : Artifact}

theorem keeps_initialDispatchStatus {roundStatus : Status}
    (target : row.status ≠ .superseded →
      initialDispatchStatus roundStatus (some row) = row.status)
    (written : change.status = some (initialDispatchStatus roundStatus (some row))) :
    change.Keeps row.status := by
  intro unretired
  rw [written]
  refine ⟨target unretired, ?_⟩
  rintro ⟨reopening, terminal⟩
  simp only [Option.some.injEq] at reopening
  exact initialDispatchStatus_not_reopening terminal reopening

theorem latest?_setAttemptExecution {row : Attempt}
    (found : state.attempts.latest? roundId role = some row) (mode : ExecutionMode) :
    (state.setAttemptExecution roundId role mode).attempts.latest? roundId role =
      some { row with executionMode := mode, updatedAt := state.now } := by
  unfold setAttemptExecution modifyLatestAttempt
  rw [found]
  rw [AttemptTable.latest?_modifyLatest, found]
  rfl

theorem journal_observeDispatch_of_placed (known : state.HasRound roundId)
    (placed : state.attempts.Placed (state.roundStatus roundId) roundId role) :
    (state.observeDispatch roundId role artifact).journal = state.journal := by
  obtain ⟨row, found, target⟩ : ∃ row, state.attempts.latest? roundId role = some row ∧
      (row.status ≠ .superseded →
        initialDispatchStatus (state.roundStatus roundId) (some row) = row.status) := by
    rcases placed with ⟨row, found, superseded⟩ | ⟨row, found, target⟩
    · exact ⟨row, found, fun unretired => absurd superseded unretired⟩
    · exact ⟨row, found, fun _ => target⟩
  unfold observeDispatch
  dsimp only
  split
  · exact journal_setAttemptExecution found _
  · rw [found]
    unfold ensureAttempt
    rw [ensureRound_of_hasRound known]
    -- three writes: the provider identity, the execution mode and the status
    let change : AttemptChange := { dispatchChange artifact with
      status := some (initialDispatchStatus (state.roundStatus roundId) (some row)) }
    have keeps : change.Keeps row.status := keeps_initialDispatchStatus target rfl
    have identified := journal_updateAttempt found keeps
    have identifiedLatest : (state.updateAttempt roundId role change).attempts.latest? roundId
        role = some (change.outcome roundId role state.now (some row)) := by
      rw [latest?_updateAttempt, found]
    have sameStatus := keeps.outcome_status roundId role state.now
    have moded := journal_setAttemptExecution identifiedLatest
      artifact.payload.providerExecutionMode
    have modedLatest := latest?_setAttemptExecution identifiedLatest
      artifact.payload.providerExecutionMode
    split
    · rename_i status moves
      refine Eq.trans (journal_updateAttempt modedLatest ?_) (moded.trans identified)
      have again : ({ status := some status } : AttemptChange).Keeps row.status := by
        apply keeps_initialDispatchStatus target
        unfold initialDispatchStatus
        rw [moves]
        rfl
      intro unretired
      rw [sameStatus] at unretired ⊢
      exact again unretired
    · exact moded.trans identified

theorem journal_completeAttempt_of_retired (known : state.HasRound roundId)
    (retired : state.attempts.Retired roundId role) (status : Status) :
    (state.completeAttempt roundId role status artifact).journal = state.journal := by
  unfold completeAttempt ensureAttempt
  rw [ensureRound_of_hasRound known, updateAttempt_of_retired retired,
    updateAttempt_of_retired retired]

theorem journal_observeAttempt_of_inert (known : state.HasRound roundId)
    (inert : state.attempts.Inert (state.roundStatus roundId) roundId role artifact) :
    (state.observeAttempt roundId role artifact).journal = state.journal := by
  unfold AttemptTable.Inert at inert
  unfold observeAttempt
  split_ifs at inert ⊢ with dispatch error invalid linked result
  · rcases inert with linked | placed
    · obtain ⟨row, found⟩ := latest_of_linkExists linked
      unfold observeDispatch
      rw [if_pos linked]
      exact journal_setAttemptExecution found _
    · exact journal_observeDispatch_of_placed known placed
  · unfold observeError
    rcases inert with linked | retired
    · rw [if_pos linked]
    · obtain ⟨row, found, superseded⟩ := retired
      split
      · rfl
      · rw [Option.mem_def.mp found]
        rw [updateAttempt_of_retired ⟨row, found, superseded⟩]
  · rfl
  · rcases inert with alreadyLinked | retired
    · exact absurd alreadyLinked linked
    · exact journal_completeAttempt_of_retired known retired _
  · unfold observeResult
    split_ifs with resultLinked stopped
    · rfl
    · rfl
    · rcases inert with alreadyLinked | alreadyStopped | retired
      · exact absurd alreadyLinked resultLinked
      · exact absurd alreadyStopped stopped
      · exact journal_completeAttempt_of_retired known retired _
  · rfl

theorem links_observeAttempt_of_inert
    (inert : state.attempts.Inert (state.roundStatus roundId) roundId role artifact)
    {other : Nat} {name : Role}
    (unplaced : ¬ state.attempts.Placed (state.roundStatus other) other name) (artifactId : Nat) :
    (state.observeAttempt roundId role artifact).attempts.linkExists other name
        Attempt.dispatchArtifactId artifactId =
      state.attempts.linkExists other name Attempt.dispatchArtifactId artifactId := by
  by_cases same : roundId = other ∧ role = name
  · obtain ⟨rfl, rfl⟩ := same
    have unretired : ¬ state.attempts.Retired roundId role := fun retired => unplaced (.inl retired)
    unfold AttemptTable.Inert at inert
    unfold observeAttempt
    split_ifs at inert ⊢ with dispatch error invalid linked result
    · rcases inert with linked | placed
      · obtain ⟨row, found⟩ := latest_of_linkExists linked
        have rows := setAttemptExecution_rows found artifact.payload.providerExecutionMode
        unfold observeDispatch
        rw [if_pos linked]
        apply AttemptTable.linkExists_of_columns
        rw [rows]
        apply map_modifyFirst
        intro _ _
        rfl
      · exact absurd placed unplaced
    · rw [observeError_of_inert inert]
    · rfl
    · rcases inert with alreadyLinked | retired
      · exact absurd alreadyLinked linked
      · exact absurd retired unretired
    · unfold observeResult
      split_ifs with resultLinked stopped
      · rfl
      · rfl
      · rcases inert with alreadyLinked | alreadyStopped | retired
        · exact absurd alreadyLinked resultLinked
        · exact absurd alreadyStopped stopped
        · exact absurd retired unretired
    · rfl
  · have slice := (sameSlice_writeRule other roundId name).observeAttempt role same state artifact
    rw [AttemptTable.linkExists_eq_slice, AttemptTable.linkExists_eq_slice, slice]

end Inert

/-! ## States that only differ in bookkeeping -/

structure Unmoved (before after : TaskState) : Prop where
  views : after.attemptViews = before.attemptViews
  links : ∀ roundId role,
    ¬ before.attempts.Placed (before.roundStatus roundId) roundId role → ∀ artifactId,
      after.attempts.linkExists roundId role Attempt.dispatchArtifactId artifactId =
        before.attempts.linkExists roundId role Attempt.dispatchArtifactId artifactId
  rounds : after.roundStatuses = before.roundStatuses
  artifacts : after.artifacts = before.artifacts
  status : after.status = before.status
  jobs : after.jobs = before.jobs
  journal : after.journal = before.journal

namespace Unmoved

theorem of_attempts (attempts : next.attempts = state.attempts)
    (rounds : next.roundStatuses = state.roundStatuses)
    (artifacts : next.artifacts = state.artifacts) (status : next.status = state.status)
    (jobs : next.jobs = state.jobs) (journal : next.journal = state.journal) :
    Unmoved state next where
  views := by
    unfold attemptViews
    rw [attempts]
  links _ _ _ _ := by rw [attempts]
  rounds := rounds
  artifacts := artifacts
  status := status
  jobs := jobs
  journal := journal

theorem refl (state : TaskState) : Unmoved state state := of_attempts rfl rfl rfl rfl rfl rfl

variable (unmoved : Unmoved state next)
include unmoved

theorem placed_iff (roundId : Nat) (role : Role) :
    next.attempts.Placed (next.roundStatus roundId) roundId role ↔
      state.attempts.Placed (state.roundStatus roundId) roundId role := by
  rw [roundStatus_congr unmoved.rounds]
  exact AttemptTable.placed_congr unmoved.views _ _ _

theorem trans (later : Unmoved next last) : Unmoved state last where
  views := later.views.trans unmoved.views
  links roundId role unplaced artifactId := by
    rw [later.links roundId role (by rw [unmoved.placed_iff]; exact unplaced),
      unmoved.links roundId role unplaced]
  rounds := later.rounds.trans unmoved.rounds
  artifacts := later.artifacts.trans unmoved.artifacts
  status := later.status.trans unmoved.status
  jobs := later.jobs.trans unmoved.jobs
  journal := later.journal.trans unmoved.journal

theorem inert {roundId : Nat} {role : Role}
    (inert : state.attempts.Inert (state.roundStatus roundId) roundId role artifact) :
    next.attempts.Inert (state.roundStatus roundId) roundId role artifact := by
  have same := unmoved.views
  have placed := AttemptTable.placed_congr same (state.roundStatus roundId) roundId role
  unfold AttemptTable.Inert at inert ⊢
  rw [AttemptTable.retired_congr same,
    AttemptTable.linkExists_congr same Attempt.errorArtifactId AttemptView.errorArtifactId
      (fun _ => rfl),
    AttemptTable.linkExists_congr same Attempt.completionArtifactId
      AttemptView.completionArtifactId (fun _ => rfl)]
  split_ifs at inert ⊢ with dispatch
  · by_cases stays : state.attempts.Placed (state.roundStatus roundId) roundId role
    · right
      rw [← AttemptTable.retired_congr same]
      exact placed.mpr stays
    · rcases inert with linked | already
      · left
        rw [unmoved.links roundId role stays]
        exact linked
      · exact absurd already stays
  all_goals exact inert

theorem replaysInertly (inertly : state.ReplaysInertly artifact) :
    next.ReplaysInertly artifact := by
  unfold ReplaysInertly AttemptTable.ReplaysInertly at inertly ⊢
  rw [latestRoundId_congr unmoved.rounds]
  intro role actor
  rw [roundStatus_congr unmoved.rounds]
  exact unmoved.inert (inertly role actor)

end Unmoved

theorem unmoved_updateAttempt {status : Status} (found : state.attempts.latest? roundId role = some row)
    (keeps : ({ status := some status } : AttemptChange).Keeps row.status) :
    Unmoved state (state.updateAttempt roundId role { status := some status }) := by
  have journal := journal_updateAttempt found keeps
  by_cases retired : row.status = .superseded
  · rw [updateAttempt_of_retired ⟨row, found, retired⟩]
    exact .refl state
  · obtain ⟨same, once⟩ := keeps retired
    have inPlace : state.updateAttempt roundId role { status := some status } =
        state.modifyLatestAttempt roundId role
          (({ status := some status } : AttemptChange).apply state.now)
          fun _ => ⟨rfl, rfl, rfl⟩ := by
      unfold updateAttempt
      rw [found]
      dsimp only
      rw [if_neg retired]
      split
      · rename_i reopening
        rw [if_neg fun terminal => once ⟨reopening, terminal⟩]
      · rfl
    rw [inPlace] at journal ⊢
    refine {
      views := ?_
      links := ?_
      rounds := rfl
      artifacts := rfl
      status := rfl
      jobs := rfl
      journal := journal }
    · apply map_modifyFirst
      intro stored storedFound
      have sameRow : stored = row := Option.some.inj (storedFound.symm.trans found)
      subst sameRow
      simp [Attempt.view, AttemptChange.apply, same]
    · intro other name _ artifactId
      apply AttemptTable.linkExists_of_columns
      apply map_modifyFirst
      simp [AttemptChange.apply]

structure Beside (before after : TaskState) : Prop where
  artifacts : after.artifacts = before.artifacts
  status : after.status = before.status
  jobs : after.jobs = before.jobs

theorem Beside.writeRule (roundId : Nat) : WriteRule Beside roundId fun _ => True where
  refl _ := ⟨rfl, rfl, rfl⟩
  trans first second := ⟨second.artifacts.trans first.artifacts,
    second.status.trans first.status, second.jobs.trans first.jobs⟩
  ensureRound state := by
    unfold TaskState.ensureRound
    split <;> exact ⟨rfl, rfl, rfl⟩
  modifyRound _ _ _ _ := ⟨rfl, rfl, rfl⟩
  updateAttempt state role change _ := by
    unfold TaskState.updateAttempt TaskState.ensureRound
    split
    · split <;> exact ⟨rfl, rfl, rfl⟩
    · split
      · exact ⟨rfl, rfl, rfl⟩
      · split
        · split <;> exact ⟨rfl, rfl, rfl⟩
        · exact ⟨rfl, rfl, rfl⟩
  putMode _ _ _ _ := ⟨rfl, rfl, rfl⟩

theorem journal_observeRound (known : state.HasRound roundId) (artifact : Artifact) :
    (state.observeRound roundId artifact).journal = state.journal := by
  have routed : ∀ route requiredRoles,
      (state.setRoundRoute roundId route requiredRoles).journal = state.journal := by
    intro route requiredRoles
    unfold setRoundRoute
    rw [ensureRound_of_hasRound known]
    rfl
  have asked : ∀ next : TaskState, next.HasRound roundId → ∀ confirmation,
      (next.setRoundConfirmation roundId confirmation).journal = next.journal := by
    intro next nextKnown confirmation
    unfold setRoundConfirmation
    rw [ensureRound_of_hasRound nextKnown]
    rfl
  unfold observeRound
  dsimp only
  split
  · split
    · have nextKnown := (hasRound_congr (setRoundRoute_roundStatuses known artifact.payload.route
        artifact.payload.requiredRoles) roundId).mpr known
      rw [asked _ nextKnown, routed]
    · exact asked state known _
  · split
    · exact routed _ _
    · rfl

theorem unmoved_observeArtifact (positive : 0 < artifact.id)
    (known : state.HasRound (state.artifactRound artifact.payload)) (inert : state.ReplaysInertly artifact) :
    Unmoved state (state.observeArtifact artifact) := by
  have statuses := observeRound_roundStatuses known artifact
  have attempts := observeRound_attempts state (state.artifactRound artifact.payload) artifact
  have beside : Beside state (state.observeArtifact artifact) :=
    WriteRule.observeArtifact state artifact (Beside.writeRule _) fun _ _ => trivial
  have roundJournal := journal_observeRound known artifact
  refine {
    views := (observeArtifact_of_inert positive known inert).1
    links := ?_
    rounds := observeArtifact_roundStatuses known
    artifacts := beside.artifacts
    status := beside.status
    jobs := beside.jobs
    journal := ?_ }
  · intro other name unplaced artifactId
    rw [← attempts, ← roundStatus_congr statuses] at unplaced
    unfold observeArtifact
    split
    · rw [attempts]
    · rename_i role actor
      have roleInert : state.attempts.Inert
          (state.roundStatus (state.artifactRound artifact.payload))
          (state.artifactRound artifact.payload) role artifact := inert role actor
      rw [← roundStatus_congr statuses, ← attempts] at roleInert
      rw [links_observeAttempt_of_inert roleInert unplaced, attempts]
  · unfold observeArtifact
    split
    · exact roundJournal
    · rename_i role actor
      have roleInert : state.attempts.Inert
          (state.roundStatus (state.artifactRound artifact.payload))
          (state.artifactRound artifact.payload) role artifact := inert role actor
      rw [← roundStatus_congr statuses, ← attempts] at roleInert
      have observedKnown := (hasRound_congr statuses (state.artifactRound artifact.payload)).mpr
        known
      rw [journal_observeAttempt_of_inert observedKnown roleInert]
      exact roundJournal

theorem unmoved_replay (seen : List Artifact) (positive : ∀ artifact ∈ seen, 0 < artifact.id)
    (known : ∀ artifact ∈ seen, state.HasRound (state.artifactRound artifact.payload))
    (inert : ∀ artifact ∈ seen, state.ReplaysInertly artifact) :
    Unmoved state (seen.foldl observeArtifact state) := by
  induction seen generalizing state with
  | nil => exact .refl state
  | cons head rest ih =>
      have first := unmoved_observeArtifact (positive head List.mem_cons_self)
        (known head List.mem_cons_self) (inert head List.mem_cons_self)
      apply first.trans
      apply ih
      · exact fun artifact member => positive artifact (List.mem_cons_of_mem _ member)
      · intro artifact member
        rw [artifactRound_congr first.rounds, hasRound_congr first.rounds]
        exact known artifact (List.mem_cons_of_mem _ member)
      · exact fun artifact member =>
          first.replaysInertly (inert artifact (List.mem_cons_of_mem _ member))

/-- The repair finds nothing to do: every stored artifact is inert and names a
round that exists, no attempt and no round waits for its closing, and the task and
its jobs show their projection. -/
structure Settled (state : TaskState) : Prop where
  replay : state.ReplaySettled
  known : ∀ roundId ∈ state.artifactRoundIds, state.HasRound roundId
  rounds : ∀ roundId, state.HasRound roundId →
    state.repairedRoundStatus roundId = state.roundStatus roundId
  projected : state.syncLegacyProjection = state

theorem settled_iff : state.Settled ↔
    state.ReplaySettled ∧ (∀ roundId ∈ state.artifactRoundIds, state.HasRound roundId) ∧
      (∀ row ∈ state.rounds.rows,
        state.repairedRoundStatus row.roundId = state.roundStatus row.roundId) ∧
      state.syncLegacyProjection = state := by
  constructor
  · intro settled
    refine ⟨settled.replay, settled.known, ?_, settled.projected⟩
    intro row member
    exact settled.rounds _ (hasRound_iff.mpr ⟨row, RoundTable.find?_of_mem member⟩)
  · rintro ⟨replay, known, rounds, projected⟩
    refine ⟨replay, known, ?_, projected⟩
    intro roundId stored
    obtain ⟨row, found⟩ := hasRound_iff.mp stored
    rw [← RoundTable.roundId_of_find? found]
    exact rounds row (List.mem_of_find?_eq_some found)

instance (state : TaskState) : DecidablePred state.HasRound := fun roundId =>
  decidable_of_iff (∃ entry ∈ state.roundStatuses, entry.1 = roundId) (by simp [HasRound])

instance (state : TaskState) : Decidable state.Settled := decidable_of_iff' _ settled_iff

theorem legacyProjectionStatus_congr {first second : Option Attempt} (roundStatus : Status)
    (same : first.map Attempt.status = second.map Attempt.status) :
    legacyProjectionStatus roundStatus first = legacyProjectionStatus roundStatus second := by
  cases first <;> cases second <;> simp_all [legacyProjectionStatus]

theorem projected_of_unmoved (unmoved : Unmoved state next)
    (projected : state.syncLegacyProjection = state) : next.syncLegacyProjection = next := by
  have active : next.activeRoundId 1 = state.activeRoundId 1 := activeRoundId_congr unmoved.rounds 1
  have status : next.syncLegacyProjection.status = next.status := by
    have same := congrArg TaskState.status projected
    unfold syncLegacyProjection at same ⊢
    dsimp only at same ⊢
    rw [active, roundStatus_congr unmoved.rounds, unmoved.status]
    exact same
  have jobs : next.syncLegacyProjection.jobs = next.jobs := by
    have same := congrArg TaskState.jobs projected
    unfold syncLegacyProjection at same ⊢
    rw [unmoved.jobs]
    refine Eq.trans (List.map_congr_left ?_) same
    intro job _
    rw [active, roundStatus_congr unmoved.rounds,
      legacyProjectionStatus_congr _ (AttemptTable.latest?_status_congr unmoved.views _ _)]
  exact congrArg₂ (fun status jobs => ({ next with status := status, jobs := jobs } : TaskState))
    status jobs

theorem supersedeRounds_of_closed {closing : Nat → Bool}
    (rounds : ∀ row ∈ state.rounds.rows, ¬ (closing row.roundId ∧ row.status ∉ roundClosed))
    (attempts : ∀ row ∈ state.attempts.rows,
      ¬ (closing row.roundId ∧ row.status ∉ attemptClosed)) :
    state.supersedeRounds closing = state := by
  have sameRounds : (state.supersedeRounds closing).rounds = state.rounds := by
    have rows : (state.supersedeRounds closing).rounds.rows = state.rounds.rows := by
      conv_rhs => rw [← List.map_id state.rounds.rows]
      exact List.map_congr_left fun row member => if_neg (rounds row member)
    cases after : (state.supersedeRounds closing).rounds
    cases before : state.rounds
    simpa [after, before] using rows
  have sameAttempts : (state.supersedeRounds closing).attempts = state.attempts := by
    have rows : (state.supersedeRounds closing).attempts.rows = state.attempts.rows := by
      conv_rhs => rw [← List.map_id state.attempts.rows]
      exact List.map_congr_left fun row member => if_neg (attempts row member)
    cases after : (state.supersedeRounds closing).attempts
    cases before : state.attempts
    simpa [after, before] using rows
  have sameJournal : (state.supersedeRounds closing).journal = state.journal := by
    have noRounds : state.rounds.rows.filter (fun row =>
        closing row.roundId ∧ row.status ∉ roundClosed) = [] := by
      simpa using rounds
    have noAttempts : state.attempts.rows.filter (fun row =>
        closing row.roundId ∧ row.status ∉ attemptClosed) = [] := by
      simpa using attempts
    unfold supersedeRounds
    rw [noRounds, noAttempts]
    rfl
  have shape : state.supersedeRounds closing =
      { state with
        rounds := (state.supersedeRounds closing).rounds
        attempts := (state.supersedeRounds closing).attempts
        journal := (state.supersedeRounds closing).journal } := rfl
  rw [shape, sameRounds, sameAttempts, sameJournal]

namespace Settled

variable (settled : state.Settled) (present : state.HasRound 1)
include settled

theorem repairedLatestRound : state.repairedLatestRound = state.latestRoundId 1 := by
  unfold TaskState.repairedLatestRound
  cases greatest : state.artifactRoundIds.max? with
  | none => simp
  | some current =>
      have known := settled.known current (List.max?_mem greatest)
      have bound := le_latestRoundId known 1
      simp only [Option.getD_some]
      omega

include present in
theorem artifactRound_known (member : artifact ∈ state.artifacts.rows) :
    state.HasRound (state.artifactRound artifact.payload) := by
  unfold artifactRound
  split
  · exact hasRound_latestRoundId (rows_ne_nil_of_hasRound present) 1
  · rename_i explicit
    apply settled.known
    refine List.mem_filter.mpr ⟨List.mem_map.mpr ⟨artifact, member, rfl⟩, ?_⟩
    simpa using Nat.pos_of_ne_zero explicit

include present in
theorem inert_iff (member : artifact ∈ state.artifacts.rows) :
    state.attempts.ReplaysInertly state.repairedRoundStatus state.repairedLatestRound artifact ↔
      state.ReplaysInertly artifact := by
  have known := settled.artifactRound_known present member
  have round : replayRound (state.latestRoundId 1) artifact.payload =
      state.artifactRound artifact.payload := rfl
  unfold ReplaysInertly AttemptTable.ReplaysInertly
  rw [settled.repairedLatestRound, round, settled.rounds _ known]

theorem repairRounds : state.repairRounds = state := by
  unfold TaskState.repairRounds
  cases greatest : state.artifactRoundIds.max? with
  | none => rfl
  | some current =>
      have known := settled.known current (List.max?_mem greatest)
      have prior : state.supersedePriorRounds current = state := by
        unfold supersedePriorRounds
        split
        · rfl
        · rename_i several
          apply supersedeRounds_of_closed
          · rintro row member ⟨earlier, unclosed⟩
            have found := RoundTable.find?_of_mem member
            have status : state.roundStatus row.roundId = row.status := by
              simp only [roundStatus, found]
            have repaired := settled.rounds row.roundId (hasRound_iff.mpr ⟨row, found⟩)
            simp only [decide_eq_true_eq] at earlier
            unfold repairedRoundStatus at repaired
            rw [greatest] at repaired
            dsimp only at repaired
            rw [if_neg (by omega), status, if_pos ⟨by omega, earlier, unclosed⟩] at repaired
            rw [← repaired] at unclosed
            exact unclosed (by decide)
          · rintro row member ⟨earlier, unclosed⟩
            apply settled.replay.closed row member
            exact ⟨current, greatest, by omega, by simpa using earlier, unclosed⟩
      have repaired := settled.rounds current known
      unfold repairedRoundStatus at repaired
      rw [greatest] at repaired
      simp only [↓reduceIte] at repaired
      dsimp only
      rw [ensureRounds_of_hasRound fun id member => settled.known id (mem_sortedIds.mp member),
        prior, repaired]
      unfold setRoundStatus
      rw [ensureRound_of_hasRound known, putRoundStatus_same known, settled.projected]

include present

theorem backfillTask : Unmoved state state.backfillTask := by
  have replayed : Unmoved state (state.artifacts.rows.foldl observeArtifact state) := by
    apply unmoved_replay
    · exact fun artifact member => (state.artifacts.bounded artifact member).1
    · exact fun artifact member => settled.artifactRound_known present member
    · intro artifact member
      rw [← settled.inert_iff present member]
      exact settled.replay.inert artifact member
  unfold TaskState.backfillTask repairTaskFromArtifacts
  rw [if_neg (rows_ne_nil_of_hasRound present), settled.repairRounds]
  unfold replayArtifacts
  rw [projected_of_unmoved replayed settled.projected]
  exact replayed

theorem congr (unmoved : Unmoved state next) : next.Settled := by
  have ids : next.artifactRoundIds = state.artifactRoundIds := by
    unfold artifactRoundIds
    rw [unmoved.artifacts]
  have statuses := roundStatus_congr unmoved.rounds
  have repaired : next.repairedRoundStatus = state.repairedRoundStatus := by
    funext roundId
    unfold repairedRoundStatus
    rw [ids, statuses, unmoved.status]
  have latest : next.repairedLatestRound = state.repairedLatestRound := by
    unfold TaskState.repairedLatestRound
    rw [ids, latestRoundId_congr unmoved.rounds]
  refine {
    replay := ⟨?_, ?_⟩
    known := ?_
    rounds := ?_
    projected := projected_of_unmoved unmoved settled.projected }
  · intro row member closed
    have viewed : row.view ∈ state.attemptViews := by
      rw [← unmoved.views]
      exact List.mem_map_of_mem member
    obtain ⟨old, oldMember, same⟩ := List.mem_map.mp viewed
    apply settled.replay.closed old oldMember
    obtain ⟨current, greatest, several, earlier, unclosed⟩ := closed
    rw [ids] at greatest
    have sameRound : old.roundId = row.roundId := congrArg AttemptView.roundId same
    have sameStatus : old.status = row.status := congrArg AttemptView.status same
    exact ⟨current, greatest, several, sameRound ▸ earlier, sameStatus ▸ unclosed⟩
  · intro artifact member role actor
    rw [unmoved.artifacts] at member
    have known := settled.artifactRound_known present member
    have inert := settled.replay.inert artifact member role actor
    have round : replayRound (state.latestRoundId 1) artifact.payload =
        state.artifactRound artifact.payload := rfl
    rw [settled.repairedLatestRound, round, settled.rounds _ known] at inert
    rw [repaired, latest, settled.repairedLatestRound, round, settled.rounds _ known]
    exact unmoved.inert inert
  · intro roundId named
    rw [ids] at named
    rw [hasRound_congr unmoved.rounds]
    exact settled.known roundId named
  · intro roundId known
    rw [hasRound_congr unmoved.rounds] at known
    rw [repaired, statuses]
    exact settled.rounds roundId known

end Settled

end TaskState

end Wlcodex.Relay
