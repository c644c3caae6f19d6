import Wlcodex.Relay.OldestInput
import Wlcodex.Relay.SettledRepair

namespace Wlcodex.Relay

open Wlcodex.Lib

/-! A round that waits for its user. -/

/-- The link by which `observe_artifact` knows an artifact that moves attempts. -/
def linkColumn (type : ArtifactType) : Option (Attempt → Option Nat) :=
  if type = .roleDispatchMetadata then some Attempt.dispatchArtifactId
  else if type = .roleError then none
  else if type = .roleArtifactInvalid ∨ type ∈ ArtifactType.result then some Attempt.completionArtifactId
  else none

namespace TaskState

variable {state next last : TaskState} {roundId : Nat} {role : Role}

def Booked (state : TaskState) (roundId : Nat) (role : Role) (artifact : Artifact) : Prop :=
  state.artifactRound artifact.payload = roundId → artifact.payload.actor = some role →
    ∀ column ∈ linkColumn artifact.type,
      ∃ row ∈ state.attempts.slice roundId role, column row = some artifact.id

instance (state : TaskState) (roundId : Nat) (role : Role) : DecidablePred (state.Booked roundId role) :=
  fun artifact => inferInstanceAs (Decidable (state.artifactRound artifact.payload = roundId →
    artifact.payload.actor = some role → ∀ column ∈ linkColumn artifact.type,
      ∃ row ∈ state.attempts.slice roundId role, column row = some artifact.id))

/-! ## What a replay leaves of attempts whose artifacts are linked -/

def KeepsLinks (roundId : Nat) (role : Role) (before after : TaskState) : Prop :=
  ∀ row ∈ before.attempts.slice roundId role, ∃ kept ∈ after.attempts.slice roundId role,
    kept.dispatchArtifactId = row.dispatchArtifactId ∧ kept.completionArtifactId = row.completionArtifactId

variable {row : Attempt} {artifact : Artifact}

theorem KeepsLinks.booked (links : KeepsLinks roundId role state next)
    (round : next.artifactRound artifact.payload = state.artifactRound artifact.payload)
    (booked : state.Booked roundId role artifact) : next.Booked roundId role artifact := by
  intro sameRound actor column listed
  rw [round] at sameRound
  obtain ⟨row, member, linked⟩ := booked sameRound actor column listed
  obtain ⟨kept, stored, dispatch, completion⟩ := links row member
  refine ⟨kept, stored, ?_⟩
  rw [← linked]
  unfold linkColumn at listed
  split_ifs at listed
  · cases listed
    exact dispatch
  · cases listed
  · cases listed
    exact completion
  · cases listed

theorem keepsLinks_modifyLatestAttempt {change : Attempt → Attempt}
    {sameKey : KeepsKey change}
    (links : ∀ row, (change row).dispatchArtifactId = row.dispatchArtifactId ∧
      (change row).completionArtifactId = row.completionArtifactId) :
    KeepsLinks roundId role state (state.modifyLatestAttempt roundId role change sameKey) := by
  intro row member
  obtain ⟨stored, own⟩ := List.mem_filter.mp member
  by_cases latest : state.attempts.latest? roundId role = some row
  · have written : (state.modifyLatestAttempt roundId role change sameKey).attempts.latest? roundId role =
        some (change row) := by
      unfold modifyLatestAttempt
      rw [AttemptTable.latest?_modifyLatest, latest]
      rfl
    have key := AttemptTable.key_of_latest? _ written
    exact ⟨change row, List.mem_filter.mpr ⟨List.mem_of_find?_eq_some written, decide_eq_true key⟩, links row⟩
  · exact ⟨row, List.mem_filter.mpr ⟨mem_modifyFirst_of_mem stored latest, own⟩, rfl, rfl⟩

theorem keepsLinks_insertAttempt (row : Attempt) : KeepsLinks roundId role state (state.insertAttempt row) := by
  intro other member
  obtain ⟨stored, own⟩ := List.mem_filter.mp member
  exact ⟨other, List.mem_filter.mpr ⟨List.mem_cons_of_mem _ stored, own⟩, rfl, rfl⟩

/-- The links of a role's attempts stay, and its latest attempt keeps its status or gets that of a
stopped round. -/
structure Holding (roundId : Nat) (role : Role) (before after : TaskState) : Prop where
  roundStatus : after.roundStatus roundId = before.roundStatus roundId
  links : KeepsLinks roundId role before after
  status : (after.attempts.latest? roundId role).map Attempt.status =
      (before.attempts.latest? roundId role).map Attempt.status ∨
    before.roundStatus roundId ∈ roundStopped ∧
      (after.attempts.latest? roundId role).map Attempt.status = some (before.roundStatus roundId)

namespace Holding

theorem of_slice (slice : SameSlice roundId role state next)
    (roundStatus : next.roundStatus roundId = state.roundStatus roundId) : Holding roundId role state next where
  roundStatus := roundStatus
  links := fun row member => ⟨row, by rw [slice]; exact member, rfl, rfl⟩
  status := .inl (by rw [AttemptTable.latest?_eq_head?, slice, ← AttemptTable.latest?_eq_head?])

theorem refl (state : TaskState) : Holding roundId role state state := of_slice rfl rfl

theorem trans (first : Holding roundId role state next) (second : Holding roundId role next last) :
    Holding roundId role state last where
  roundStatus := second.roundStatus.trans first.roundStatus
  links := by
    intro row member
    obtain ⟨kept, middle, dispatch, completion⟩ := first.links row member
    obtain ⟨final, stored, finalDispatch, finalCompletion⟩ := second.links kept middle
    exact ⟨final, stored, finalDispatch.trans dispatch, finalCompletion.trans completion⟩
  status := by
    rw [← first.roundStatus]
    rcases second.status with same | stopped
    · rw [same, first.roundStatus]
      exact first.status
    · exact .inr stopped

theorem latest (holding : Holding roundId role state next) {row : Attempt}
    (found : state.attempts.latest? roundId role = some row) :
    ∃ stored, next.attempts.latest? roundId role = some stored := by
  cases latest : next.attempts.latest? roundId role with
  | some stored => exact ⟨stored, rfl⟩
  | none =>
      rcases holding.status with same | ⟨-, stopped⟩
      · rw [latest, found] at same
        cases same
      · rw [latest] at stopped
        cases stopped

end Holding

theorem holding_modifyLatestAttempt {change : Attempt → Attempt}
    {sameKey : KeepsKey change}
    (links : ∀ row, (change row).dispatchArtifactId = row.dispatchArtifactId ∧
      (change row).completionArtifactId = row.completionArtifactId)
    (status : ∀ row, state.attempts.latest? roundId role = some row → (change row).status = row.status ∨
      state.roundStatus roundId ∈ roundStopped ∧ (change row).status = state.roundStatus roundId) :
    Holding roundId role state (state.modifyLatestAttempt roundId role change sameKey) where
  roundStatus := rfl
  links := keepsLinks_modifyLatestAttempt links
  status := by
    unfold modifyLatestAttempt
    rw [AttemptTable.latest?_modifyLatest]
    cases found : state.attempts.latest? roundId role with
    | none => exact .inl rfl
    | some row =>
        rcases status row found with same | stopped
        · exact .inl (congrArg some same)
        · exact .inr ⟨stopped.1, congrArg some stopped.2⟩

theorem holding_setAttemptExecution
    (found : state.attempts.latest? roundId role = some row) (mode : ExecutionMode) :
    Holding roundId role state (state.setAttemptExecution roundId role mode) := by
  unfold setAttemptExecution
  rw [found]
  exact holding_modifyLatestAttempt (fun _ => ⟨rfl, rfl⟩) fun _ _ => .inl rfl

theorem linkExists_of_linked {table : AttemptTable} {column : Attempt → Option Nat} {artifactId : Nat}
    (linked : ∃ row ∈ table.slice roundId role, column row = some artifactId) :
    table.linkExists roundId role column artifactId := by
  obtain ⟨row, member, same⟩ := linked
  rw [AttemptTable.linkExists_eq_slice, Bool.or_eq_true]
  exact .inl (List.any_eq_true.mpr ⟨row, member, decide_eq_true same⟩)

theorem holding_observeError (found : state.attempts.latest? roundId role = some row)
    (artifact : Artifact) : Holding roundId role state (state.observeError roundId role artifact) := by
  unfold observeError
  split
  · exact .refl state
  · rw [found]
    dsimp only
    unfold updateAttempt
    rw [found]
    dsimp only
    split
    · exact .refl state
    · have stays : ¬((if state.roundStatus roundId ∈ roundStopped then some (state.roundStatus roundId)
          else none) = some .queued ∨
          (if state.roundStatus roundId ∈ roundStopped then some (state.roundStatus roundId) else none) =
            some .streaming) := by
        split
        next stopped =>
          rintro (same | same)
          · rw [Option.some.inj same] at stopped
            revert stopped
            decide
          · rw [Option.some.inj same] at stopped
            revert stopped
            decide
        · rintro (same | same)
          · cases same
          · cases same
      rw [if_neg stays]
      refine holding_modifyLatestAttempt (fun _ => ⟨rfl, rfl⟩) fun row _ => ?_
      split
      next stopped => exact .inr ⟨stopped, rfl⟩
      · exact .inl rfl

theorem holding_observeAttempt (found : state.attempts.latest? roundId role = some row)
    (linked : ∀ column ∈ linkColumn artifact.type,
      ∃ row ∈ state.attempts.slice roundId role, column row = some artifact.id) :
    Holding roundId role state (state.observeAttempt roundId role artifact) := by
  unfold linkColumn at linked
  unfold observeAttempt
  split
  next dispatch =>
    rw [if_pos dispatch] at linked
    unfold observeDispatch
    rw [if_pos (linkExists_of_linked (linked _ rfl))]
    exact holding_setAttemptExecution found _
  next notDispatch =>
  rw [if_neg notDispatch] at linked
  split
  · exact holding_observeError found artifact
  next notError =>
  rw [if_neg notError] at linked
  split
  next invalid =>
    rw [if_pos (.inl invalid)] at linked
    rw [if_pos (linkExists_of_linked (linked _ rfl))]
    exact .refl state
  split
  next result =>
    rw [if_pos (.inr result)] at linked
    unfold observeResult
    rw [if_pos (linkExists_of_linked (linked _ rfl))]
    exact .refl state
  · exact .refl state

theorem holding_observeArtifact (known : state.HasRound (state.artifactRound artifact.payload))
    (found : state.attempts.latest? roundId role = some row) (booked : state.Booked roundId role artifact) :
    Holding roundId role state (state.observeArtifact artifact) := by
  have statuses := observeRound_roundStatuses known artifact
  by_cases own : state.artifactRound artifact.payload = roundId ∧ artifact.payload.actor = some role
  · obtain ⟨sameRound, actor⟩ := own
    have attempts : (state.observeRound roundId artifact).attempts = state.attempts := observeRound_attempts ..
    unfold observeArtifact
    rw [actor, sameRound]
    rw [sameRound] at statuses
    have slice : SameSlice roundId role state (state.observeRound roundId artifact) := by
      unfold SameSlice
      rw [attempts]
    have stored : (state.observeRound roundId artifact).attempts.latest? roundId role = some row := by
      rw [attempts]
      exact found
    refine (Holding.of_slice slice (roundStatus_congr statuses _)).trans (holding_observeAttempt stored ?_)
    rw [attempts]
    exact booked sameRound actor
  · refine .of_slice ?_ (roundStatus_congr (observeArtifact_roundStatuses known) _)
    apply WriteRule.observeArtifact state artifact (sameSlice_writeRule roundId _ role)
    intro name actor both
    exact own ⟨both.1, by rw [← both.2]; exact actor⟩

theorem holding_replay (seen : List Artifact)
    (known : ∀ artifact ∈ seen, state.HasRound (state.artifactRound artifact.payload))
    (found : state.attempts.latest? roundId role = some row)
    (booked : ∀ artifact ∈ seen, state.Booked roundId role artifact) :
    Holding roundId role state (seen.foldl TaskState.observeArtifact state) := by
  induction seen generalizing state row with
  | nil => exact .refl state
  | cons head rest ih =>
      have headKnown := known head List.mem_cons_self
      have statuses := observeArtifact_roundStatuses headKnown
      have first := holding_observeArtifact headKnown found (booked head List.mem_cons_self)
      obtain ⟨stored, storedFound⟩ := first.latest found
      refine first.trans (ih ?_ storedFound fun later member =>
        first.links.booked (artifactRound_congr statuses _) (booked later (List.mem_cons_of_mem _ member)))
      intro later member
      rw [artifactRound_congr statuses, hasRound_congr statuses]
      exact known later (List.mem_cons_of_mem _ member)

section Repair

variable (steady : state.Steady roundId) (below : ∀ named ∈ state.artifactRoundIds, named ≤ roundId)
include steady

omit steady in
include below in
theorem slice_repairRounds : SameSlice roundId role state state.repairRounds := by
  unfold SameSlice AttemptTable.slice
  rw [repairRounds_attempts, List.filter_map]
  have sameKeys : (fun row : Attempt => decide (row.roundId = roundId ∧ row.role = role)) ∘
      (fun row : Attempt => if state.ClosedByRepair row then
        { row with status := Status.superseded, updatedAt := state.now } else row) =
      fun row => decide (row.roundId = roundId ∧ row.role = role) := by
    funext row
    simp only [Function.comp_apply]
    split <;> rfl
  rw [sameKeys]
  conv_rhs => rw [← List.map_id (List.filter _ state.attempts.rows)]
  refine List.map_congr_left fun row member => if_neg ?_
  rintro ⟨current, greatest, -, earlier, -⟩
  have key : row.roundId = roundId ∧ row.role = role := of_decide_eq_true (List.mem_filter.mp member).2
  have bound := below current (List.max?_mem greatest)
  omega

theorem repairedLatestRound_of_steady : state.repairedLatestRound = state.latestRoundId 1 := by
  unfold repairedLatestRound
  cases greatest : state.artifactRoundIds.max? with
  | none => exact Nat.max_zero _
  | some current =>
      have bound := le_latestRoundId (steady.known current (List.max?_mem greatest)) 1
      exact max_eq_left bound

theorem artifactRound_repairRounds_of_steady (payload : Payload) :
    state.repairRounds.artifactRound payload = state.artifactRound payload := by
  rw [artifactRound_repairRounds steady.present]
  unfold replayRound artifactRound
  rw [repairedLatestRound_of_steady steady]

theorem artifactRound_backfillTask_of_steady (payload : Payload) :
    state.backfillTask.artifactRound payload = state.artifactRound payload := by
  unfold artifactRound
  rw [latestRoundId_backfillTask steady.present, repairedLatestRound_of_steady steady]

include below

theorem holding_backfillTask (found : state.attempts.latest? roundId role = some row)
    (booked : ∀ artifact ∈ state.artifacts.rows, state.Booked roundId role artifact) :
    Holding roundId role state state.backfillTask := by
  have slice : SameSlice roundId role state state.repairRounds := slice_repairRounds below
  have known : state.repairRounds.HasRound roundId := hasRound_repairRounds.mpr (.inr steady.hasRound)
  have repaired : Holding roundId role state state.repairRounds := by
    refine .of_slice slice ?_
    rw [roundStatus_repairRounds known, steady.repairedRoundStatus]
  have booked : ∀ artifact ∈ state.artifacts.rows, state.repairRounds.Booked roundId role artifact := by
    intro artifact member sameRound actor column listed
    rw [artifactRound_repairRounds_of_steady steady] at sameRound
    rw [slice]
    exact booked artifact member sameRound actor column listed
  obtain ⟨stored, storedFound⟩ := repaired.latest found
  have replayed := holding_replay state.artifacts.rows
    (knownRound_repairRounds (rows_ne_nil_of_hasRound steady.present)) storedFound booked
  rw [backfillTask_eq steady.present]
  exact (repaired.trans replayed).trans (.of_slice rfl (roundStatus_congr
    (roundStatuses_of_rounds (syncLegacyProjection_rounds _)) _))

end Repair

/-- The role's attempt in the current round can be queued, and no repair moves it afterwards. -/
structure Resuming (state : TaskState) (roundId : Nat) (role : Role) : Prop where
  steady : state.Steady roundId
  below : ∀ named ∈ state.artifactRoundIds, named ≤ roundId
  employed : state.HasJob role
  booked : ∀ artifact ∈ state.artifacts.rows, state.Booked roundId role artifact
  open_ : ∃ row ∈ state.attempts.latest? roundId role, row.status ≠ .superseded

def followup (roundId : Nat) (role : Role) : Payload :=
  { relayRole := some role, roundId := some roundId, artifactType := some .userFollowup }

namespace Resuming

variable (resuming : state.Resuming roundId role)
include resuming

theorem of_links (links : KeepsLinks roundId role state next)
    (open_ : ∃ row ∈ next.attempts.latest? roundId role, row.status ≠ .superseded)
    (steady : next.Steady roundId) (artifacts : next.artifacts = state.artifacts)
    (employed : next.HasJob role)
    (rounds : ∀ payload, next.artifactRound payload = state.artifactRound payload) :
    next.Resuming roundId role := by
  refine ⟨steady, ?_, employed, ?_, open_⟩
  · unfold artifactRoundIds
    rw [artifacts]
    exact resuming.below
  · intro artifact member
    rw [artifacts] at member
    exact links.booked (rounds _) (resuming.booked artifact member)

theorem of_holding (holding : Holding roundId role state next) (steady : next.Steady roundId)
    (artifacts : next.artifacts = state.artifacts) (employed : next.HasJob role)
    (rounds : ∀ payload, next.artifactRound payload = state.artifactRound payload) :
    next.Resuming roundId role := by
  refine resuming.of_links holding.links ?_ steady artifacts employed rounds
  obtain ⟨row, found, unretired⟩ := resuming.open_
  obtain ⟨stored, storedFound⟩ := holding.latest found
  refine ⟨stored, storedFound, ?_⟩
  rcases holding.status with same | ⟨stopped, same⟩
  · rw [storedFound, Option.mem_def.mp found] at same
    rw [Option.some.inj same]
    exact unretired
  · rw [storedFound] at same
    rw [Option.some.inj same]
    intro retired
    rw [retired] at stopped
    revert stopped
    decide

theorem of_attempts (attempts : next.attempts = state.attempts) (steady : next.Steady roundId)
    (artifacts : next.artifacts = state.artifacts) (employed : next.HasJob role)
    (rounds : ∀ payload, next.artifactRound payload = state.artifactRound payload) :
    next.Resuming roundId role := by
  refine resuming.of_links (fun row member => ⟨row, ?_, rfl, rfl⟩) ?_ steady artifacts employed rounds
  · rw [attempts]
    exact member
  · rw [attempts]
    exact resuming.open_

theorem syncLegacyProjection : state.syncLegacyProjection.Resuming roundId role := by
  have statuses := roundStatuses_of_rounds (syncLegacyProjection_rounds state)
  have status : state.syncLegacyProjection.status = state.status := by
    change state.roundStatus (state.activeRoundId 1) = state.status
    rw [resuming.steady.active, resuming.steady.shown]
  exact resuming.of_attempts rfl (resuming.steady.congr statuses status rfl) rfl
    ((Untriggered.syncLegacyProjection state).toLasting.hasJob resuming.employed)
    (artifactRound_congr statuses)

theorem holding_backfillTask : Holding roundId role state state.backfillTask := by
  obtain ⟨row, found, -⟩ := resuming.open_
  exact TaskState.holding_backfillTask resuming.steady resuming.below found resuming.booked

theorem backfillTask : state.backfillTask.Resuming roundId role :=
  resuming.of_holding resuming.holding_backfillTask resuming.steady.backfillTask
    (artifacts_backfillTask resuming.steady.present)
    ((Untriggered.backfillTask state).toLasting.hasJob resuming.employed)
    (artifactRound_backfillTask_of_steady resuming.steady)

theorem storeRoundId : state.storeRoundId.1 = roundId ∧ state.storeRoundId.2.Resuming roundId role := by
  refine ⟨?_, resuming.backfillTask⟩
  have repaired := resuming.backfillTask.steady
  exact (activeRoundId_fallback repaired.present _ 1).trans repaired.active

theorem modifyRound {change : Round → Round} (sameId : ∀ row, (change row).roundId = row.roundId)
    (sameStatus : ∀ row, (change row).status = row.status) :
    (state.modifyRound roundId change sameId).Resuming roundId role := by
  have statuses := modifyRound_roundStatuses state roundId sameId sameStatus
  exact resuming.of_holding (.of_slice rfl (roundStatus_congr statuses _))
    (resuming.steady.congr statuses rfl rfl) rfl resuming.employed fun payload => artifactRound_congr statuses payload

theorem setRoundExecution (mode : ExecutionMode) (goal : String) (criteria : List String)
    (reason : WaitingReason) : (state.setRoundExecution roundId mode goal criteria reason).Resuming roundId role := by
  unfold TaskState.setRoundExecution
  rw [ensureRound_of_hasRound resuming.steady.hasRound]
  apply resuming.modifyRound
  intro row
  rfl

theorem clearRoundConfirmation : (state.clearRoundConfirmation roundId).Resuming roundId role := by
  unfold TaskState.clearRoundConfirmation TaskState.setRoundConfirmation
  rw [ensureRound_of_hasRound resuming.steady.hasRound]
  apply resuming.modifyRound
  intro row
  rfl

theorem fileFollowup : ({ state with
    artifacts := state.artifacts.append .userFollowup (followup roundId role) } :
      TaskState).syncLegacyProjection.Resuming roundId role := by
  have ids : ({ state with
      artifacts := state.artifacts.append .userFollowup (followup roundId role) } :
        TaskState).syncLegacyProjection.artifactRoundIds =
      state.artifactRoundIds ++ if 0 < roundId then [roundId] else [] := by
    unfold artifactRoundIds
    change ((state.artifacts.rows ++ [_]).map _).filter _ = _
    unfold followup Payload.explicitRound
    simp [List.filter_cons]
  have steady : ({ state with
      artifacts := state.artifacts.append .userFollowup (followup roundId role) } :
        TaskState).syncLegacyProjection.Steady roundId := by
    by_cases positive : 0 < roundId
    · rw [if_pos positive] at ids
      exact resuming.steady.file rfl ids
    · rw [if_neg positive, List.append_nil] at ids
      refine resuming.steady.congr rfl ?_ ids
      change state.roundStatus (state.activeRoundId 1) = state.status
      rw [resuming.steady.active, resuming.steady.shown]
  refine ⟨steady, ?_, ?_, ?_, resuming.open_⟩
  · intro named member
    rw [ids, List.mem_append] at member
    rcases member with stored | new
    · exact resuming.below named stored
    · split at new
      · exact (List.mem_singleton.mp new).le
      · cases new
  · exact (Untriggered.syncLegacyProjection _).toLasting.hasJob resuming.employed
  · intro artifact member
    rcases List.mem_append.mp member with stored | new
    · exact resuming.booked artifact stored
    · rw [List.mem_singleton.mp new]
      intro _ _ column listed
      cases listed

theorem saveFollowup : (state.saveArtifact (some role) .userFollowup
    { roundId := some roundId }).Resuming roundId role := by
  have typed : isRelayArtifactType .userFollowup ∧ ∀ name ∈ some role, state.HasJob name := by
    refine ⟨by decide, fun name own => ?_⟩
    cases own
    exact resuming.employed
  unfold saveArtifact fileArtifact
  rw [if_pos typed]
  exact resuming.storeRoundId.2.fileFollowup

theorem hasRound_setRoundStatus (other : Nat) :
    (state.setRoundStatus roundId .running).HasRound other ↔ state.HasRound other := by
  rw [TaskState.hasRound_setRoundStatus]
  exact ⟨fun named => named.elim (fun own => own ▸ resuming.steady.hasRound) id, .inr⟩

theorem steady_setRoundStatus : (state.setRoundStatus roundId .running).Steady roundId := by
  have present := resuming.steady.present
  have has := resuming.hasRound_setRoundStatus
  have active : (state.setRoundStatus roundId .running).activeRoundId 1 = roundId := by
    have runs : (state.setRoundStatus roundId .running).Live roundId :=
      live_setRoundStatus.mpr (.inl ⟨rfl, by decide⟩)
    obtain ⟨topLive, top⟩ := activeRoundId_of_live runs 1
    refine le_antisymm ?_ (top roundId runs)
    rcases live_setRoundStatus.mp topLive with ⟨same, -⟩ | ⟨-, before⟩
    · exact same.le
    · have bound := (activeRoundId_of_live before 1).2 _ before
      rw [resuming.steady.active] at bound
      exact bound
  have ids : (state.setRoundStatus roundId .running).artifactRoundIds = state.artifactRoundIds := by
    unfold artifactRoundIds
    rw [setRoundStatus_artifacts]
  refine ⟨(has 1).mpr present, active, ?_, ?_, ?_⟩
  · have shown : (state.setRoundStatus roundId .running).status = (state.setRoundStatus roundId .running).roundStatus
        ((state.setRoundStatus roundId .running).activeRoundId 1) := rfl
    rw [shown, active]
  · intro named member
    rw [ids] at member
    exact (has named).mpr (resuming.steady.known named member)
  · intro current greatest _ later
    rw [ids] at greatest
    have bound := resuming.below current (List.max?_mem greatest)
    omega

theorem setRoundStatus : (state.setRoundStatus roundId .running).Resuming roundId role := by
  refine resuming.of_attempts (setRoundStatus_attempts ..) resuming.steady_setRoundStatus
    (setRoundStatus_artifacts ..)
    ((Untriggered.setRoundStatus state roundId .running).toLasting.hasJob resuming.employed) fun payload => ?_
  have latest : (state.setRoundStatus roundId .running).latestRoundId 1 = state.latestRoundId 1 := by
    have rows := rows_ne_nil_of_hasRound resuming.steady.present
    apply latestRoundId_eq_of_greatest
    · exact (resuming.hasRound_setRoundStatus _).mpr (hasRound_latestRoundId rows 1)
    · exact fun other known => le_latestRoundId ((resuming.hasRound_setRoundStatus other).mp known) 1
  unfold artifactRound
  rw [latest]

theorem updateTaskStatus : (state.updateTaskStatus .running).Resuming roundId role ∧
    (state.updateTaskStatus .running).roundStatus roundId = .running := by
  obtain ⟨named, repaired⟩ := resuming.storeRoundId
  unfold TaskState.updateTaskStatus
  dsimp only
  rw [named]
  refine ⟨repaired.setRoundStatus.syncLegacyProjection, ?_⟩
  rw [roundStatus_congr (roundStatuses_of_rounds (syncLegacyProjection_rounds _)),
    roundStatus_setRoundStatus _ repaired.steady.hasRound, if_pos rfl]

theorem queueAttempt : (state.updateAttempt roundId role { status := some .queued }).Resuming roundId role ∧
    ∃ row ∈ (state.updateAttempt roundId role { status := some .queued }).attempts.latest? roundId role,
      row.status = .queued := by
  obtain ⟨row, found, unretired⟩ := resuming.open_
  have rounds := updateAttempt_rounds_of_hasRound role resuming.steady.hasRound { status := some .queued }
  have statuses := roundStatuses_of_rounds rounds
  have beside := (Beside.writeRule roundId).updateAttempt state role { status := some .queued } trivial
  have queued := (@outcome_queued_status roundId role _ state.now).mpr fun other (own : other ∈
      state.attempts.latest? roundId role) => by
    rw [Option.mem_def.mp found] at own
    cases own
    exact unretired
  have latest := @latest?_updateAttempt state roundId role { status := some .queued }
  refine ⟨resuming.of_links ?_ ⟨_, latest, ?_⟩ (resuming.steady.congr statuses beside.status ?_)
    beside.artifacts ?_ (artifactRound_congr statuses), _, latest, queued⟩
  · unfold updateAttempt
    rw [found]
    dsimp only
    rw [if_neg unretired, if_pos (.inl rfl)]
    split
    · exact keepsLinks_insertAttempt _
    · exact keepsLinks_modifyLatestAttempt fun _ => ⟨rfl, rfl⟩
  · rw [queued]
    decide
  · unfold artifactRoundIds
    rw [beside.artifacts]
  · unfold HasJob
    rw [beside.jobs]
    exact resuming.employed

theorem updateRoleStatus (running : state.roundStatus roundId = .running) :
    (state.updateRoleStatus role .queued).Resuming roundId role ∧
    (state.updateRoleStatus role .queued).roundStatus roundId = .running ∧
    ∃ row ∈ (state.updateRoleStatus role .queued).attempts.latest? roundId role, row.status = .queued := by
  obtain ⟨named, repaired⟩ := resuming.storeRoundId
  obtain ⟨written, queued⟩ := repaired.queueAttempt
  rw [updateRoleStatus_eq state (by decide), named]
  refine ⟨written.syncLegacyProjection, ?_, queued⟩
  rw [roundStatus_congr (roundStatuses_of_rounds (syncLegacyProjection_rounds _)), roundStatus_congr
    (roundStatuses_of_rounds (updateAttempt_rounds_of_hasRound role repaired.steady.hasRound _))]
  exact resuming.holding_backfillTask.roundStatus.trans running

end Resuming

end TaskState

end Wlcodex.Relay
