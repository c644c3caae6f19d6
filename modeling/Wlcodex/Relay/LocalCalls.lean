import Wlcodex.Relay.CurrentRound

namespace Wlcodex.Relay

/-! The calls that a handler makes on the current round. -/

namespace TaskState

section Status

variable (state : TaskState) (roundId : Nat) (role : Role)

theorem updateAttempt_status (change : AttemptChange) :
    (state.updateAttempt roundId role change).status = state.status := by
  unfold updateAttempt
  split
  · exact ensureRound_status state roundId _ _
  · split
    · rfl
    · split
      · split <;> rfl
      · rfl

end Status

variable {mode : ExecutionMode} {speaks : Nat → Role → Prop} {roundId : Nat} {status : Status}
  {moves : Status → Prop} {state : TaskState}

theorem modifyRound_contracts_of_mem {change : Round → Round} {other : Nat}
    (sameId : ∀ row, (change row).roundId = row.roundId)
    (same : ∀ row ∈ state.rounds.rows, row.roundId = other →
      (change row).status = row.status ∧ (change row).executionMode = row.executionMode) :
    (state.modifyRound other change sameId).contracts = state.contracts := by
  unfold contracts modifyRound RoundTable.modify
  rw [List.map_map]
  refine List.map_congr_left ?_
  intro row member
  simp only [Function.comp_apply]
  split
  · rename_i named
    rw [sameId, (same row member named).1, (same row member named).2]
  · rfl

theorem InOrder.mode_of_mem {row : Round} (order : InOrder mode roundId status state.contracts)
    (member : row ∈ state.rounds.rows) : row.executionMode = mode :=
  (order.prior _ (List.mem_map.mpr ⟨row, member, rfl⟩)).1

theorem InOrder.putRoundStatus {next : Status}
    (order : InOrder mode roundId status state.contracts) (open_ : next ≠ .superseded) :
    InOrder mode roundId next (state.putRoundStatus roundId next).contracts where
  ids := by
    intro other
    rw [← order.ids other]
    unfold contracts TaskState.putRoundStatus RoundTable.modify
    simp only [List.map_map]
    rw [List.map_congr_left]
    intro row _
    simp only [Function.comp_apply]
    split <;> rfl
  active := by
    obtain ⟨row, found, _, rowMode⟩ := find?_of_contract order.active
    have named := RoundTable.roundId_of_find? found
    unfold contracts TaskState.putRoundStatus RoundTable.modify
    simp only [List.map_map]
    refine List.mem_map.mpr ⟨row, List.mem_of_find?_eq_some found, ?_⟩
    simp [named, rowMode]
  open_ := open_
  prior := by
    intro entry member
    unfold contracts TaskState.putRoundStatus RoundTable.modify at member
    simp only [List.map_map] at member
    obtain ⟨row, rowMember, rfl⟩ := List.mem_map.mp member
    have stored := order.prior _ (List.mem_map.mpr ⟨row, rowMember, rfl⟩)
    simp only [Function.comp_apply] at stored ⊢
    split
    · rename_i named
      exact ⟨stored.1, .inl named⟩
    · exact stored

section Calls

variable (current : Current mode speaks roundId state)
include current

theorem Current.updateAttempt (role : Role) (change : AttemptChange) (voiced : speaks roundId role) :
    Stays mode speaks roundId moves state (state.updateAttempt roundId role change) := by
  have known := current.order.hasRound
  refine current.stays (updateAttempt_rounds_of_hasRound role known change)
    (updateAttempt_status state roundId role change) (by simp) ?_
  exact extends_updateAttempt state roundId (fun unknown => absurd known unknown) role change
    fun _ => voiced

theorem Current.voiced_of_latest? {other : Nat} {role : Role} {row : Attempt}
    (latest : state.attempts.latest? other role = some row) : speaks other role := by
  have selected := List.find?_some latest
  simp only [decide_eq_true_eq] at selected
  have spoken := current.voices row (List.mem_of_find?_eq_some latest)
  rw [selected.1, selected.2] at spoken
  exact spoken

theorem Current.modifyLatestAttempt (role : Role) (change : Attempt → Attempt)
    (sameKey : KeepsKey change) :
    Stays mode speaks roundId moves state
      (state.modifyLatestAttempt roundId role change sameKey) := by
  exact current.stays rfl rfl rfl
    (extends_modifyLatestAttempt state roundId role change sameKey fun _ latest _ =>
      current.voiced_of_latest? latest)

theorem Current.setAttemptExecution (role : Role) (execution : ExecutionMode) (voiced : speaks roundId role) :
    Stays mode speaks roundId moves state
      (state.setAttemptExecution roundId role execution) := by
  have known := current.order.hasRound
  have sameStatus : (state.setAttemptExecution roundId role execution).status = state.status := by
    unfold TaskState.setAttemptExecution
    split
    · exact (updateAttempt_status _ roundId role _).trans (ensureRound_status state roundId _ _)
    · rfl
  refine current.stays (setAttemptExecution_rounds role known execution) sameStatus (by simp) ?_
  exact extends_setAttemptExecution state roundId (fun unknown => absurd known unknown) role
    execution fun _ _ => voiced

theorem Current.saveArtifact (role : Option Role) (type : ArtifactType) (payload : Payload)
    {other : Nat} (placed : payload.roundId.getD roundId = (other : Int))
    (known : 0 < other ∧ other ≤ roundId)
    (voiced : payload.artifactType.getD type ∈ ArtifactType.booked →
      ∀ actor ∈ (payload.relayRole.or role).or payload.role, speaks other actor) :
    Stays mode speaks roundId moves state (state.saveArtifact role type payload) := by
  unfold TaskState.saveArtifact
  split
  · have repaired : Stays mode speaks roundId moves state state.backfillTask :=
      current.backfillTask
    have order := repaired.current.order
    unfold fileArtifact storeRoundId currentRoundId
    simp only [order.activeRoundId]
    generalize payloadEquation : filedPayload payload role type roundId = filed
    have explicit : filed.explicitRound = other := by
      rw [← payloadEquation]
      cases named : payload.roundId with
      | none | some =>
          rw [named] at placed
          simp [filedPayload, Payload.explicitRound, named, placed]
    have filedVoice : ∀ id, (⟨id, type, filed⟩ : Artifact).type ∈ ArtifactType.booked →
        ∀ actor ∈ filed.actor, speaks filed.explicitRound actor := by
      intro id
      rw [explicit, ← payloadEquation]
      simp only [Artifact.type, filedPayload, Payload.actor]
      have sameType : (payload.artifactType.or (some type)).getD type =
          payload.artifactType.getD type := by
        cases payload.artifactType <;> rfl
      rw [sameType]
      exact voiced
    have appended : ∀ artifact ∈ (state.backfillTask.artifacts.append type filed).rows,
        state.backfillTask.Filed speaks artifact := by
      intro artifact member
      rcases List.mem_append.mp member with old | new
      · exact repaired.current.filed artifact old
      · simp only [List.mem_singleton] at new
        subst new
        refine ⟨?_, ?_, filedVoice _⟩
        · simpa [explicit] using known.1
        · simpa [explicit] using order.hasRound_iff_le.mpr known
    have newFiled := appended ⟨state.backfillTask.artifacts.lastId + 1, type, filed⟩
      (List.mem_append.mpr (.inr (List.mem_singleton.mpr rfl)))
    generalize artifactEquation :
      (⟨state.backfillTask.artifacts.lastId + 1, type, filed⟩ : Artifact) = artifact at newFiled ⊢
    generalize stateEquation : { state.backfillTask with
      artifacts := state.backfillTask.artifacts.append type filed } = next
    have sameContracts : next.contracts = state.backfillTask.contracts := by rw [← stateEquation]; rfl
    obtain ⟨observedContracts, observed⟩ :=
      observeArtifact_of_filed moves (newFiled.congr sameContracts)
    have appendWrites : Extends (Spoken speaks moves) state.backfillTask next := by
      rw [← stateEquation]
      exact extends_appendArtifact _ _ _
    have nextOrder : InOrder mode roundId state.backfillTask.status
        (next.observeArtifact artifact).contracts := by
      rw [observedContracts, sameContracts]
      exact order
    refine current.stays_of_sync nextOrder ?_ (repaired.writes.trans (appendWrites.trans observed))
    intro stored member
    have storedRows : stored ∈ (state.backfillTask.artifacts.append type filed).rows := by
      rw [artifacts_eq_of_ledgers (ledgers_observeArtifact next artifact), ← stateEquation] at member
      exact member
    exact (appended stored storedRows).congr (observedContracts.trans sameContracts)
  · exact current.refl

theorem Current.syncLegacyProjection :
    Stays mode speaks roundId moves state state.syncLegacyProjection :=
  current.stays_of_sync current.order current.filed (.refl state)

theorem Current.storeRoundId (moves : Status → Prop) : state.storeRoundId.1 = roundId ∧
    Stays mode speaks roundId moves state state.storeRoundId.2 := by
  have repaired : Stays mode speaks roundId moves state state.backfillTask := current.backfillTask
  exact ⟨repaired.current.order.activeRoundId _, repaired⟩

theorem Current.updateRoleStatus (role : Role) (next : Status) (voiced : next = .idle ∨ speaks roundId role) :
    Stays mode speaks roundId moves state (state.updateRoleStatus role next) := by
  obtain ⟨sameRound, repaired⟩ := current.storeRoundId moves
  unfold TaskState.updateRoleStatus
  generalize state.storeRoundId = stored at sameRound repaired ⊢
  obtain ⟨storedRound, stored⟩ := stored
  simp only at sameRound repaired ⊢
  subst sameRound
  have written : ∀ change : AttemptChange, speaks storedRound role →
      Stays mode speaks storedRound moves state
        (stored.updateAttempt storedRound role change).syncLegacyProjection := by
    intro change voiced
    have updated : Stays mode speaks storedRound moves stored _ :=
      repaired.current.updateAttempt role change voiced
    exact repaired.trans (updated.trans updated.current.syncLegacyProjection)
  split
  · split
    · exact repaired.trans (repaired.current.stays rfl rfl rfl (.of_same rfl rfl rfl))
    · rename_i row latestEquation
      -- a role that is reset has an attempt, so it spoke before
      exact written _ (repaired.current.voiced_of_latest? latestEquation)
  · rename_i notIdle
    exact written _ (voiced.resolve_left notIdle)

theorem Current.updateTaskStatus (next : Status) (open_ : next ≠ .superseded) (moved : moves next) :
    Stays mode speaks roundId moves state (state.updateTaskStatus next) := by
  obtain ⟨sameRound, repaired⟩ := current.storeRoundId moves
  unfold TaskState.updateTaskStatus
  generalize state.storeRoundId = stored at sameRound repaired ⊢
  obtain ⟨storedRound, stored⟩ := stored
  subst sameRound
  have known := repaired.current.order.hasRound
  have written : Stays mode speaks storedRound moves stored
      (stored.setRoundStatus storedRound next) := by
    unfold setRoundStatus
    rw [ensureRound_of_hasRound known]
    refine repaired.current.stays_of_sync (repaired.current.order.putRoundStatus open_) ?_
      (extends_putRoundStatus stored storedRound next fun _ _ => moved)
    intro artifact member
    obtain ⟨positive, artifactKnown, voiced⟩ := repaired.current.filed artifact member
    exact ⟨positive, (hasRound_putRoundStatus next _).mpr artifactKnown, voiced⟩
  exact repaired.trans (written.trans written.current.syncLegacyProjection)

theorem Current.updateRoleMetadata (role : Role) (metadata : RoleMetadata) (voiced : speaks roundId role) :
    Stays mode speaks roundId moves state (state.updateRoleMetadata role metadata) := by
  unfold TaskState.updateRoleMetadata
  split
  · exact current.refl
  · simp only
    have assignedStays : Stays mode speaks roundId moves state
        (metadata.agentRunId.elim state (state.putJobRun role)) := by
      cases metadata.agentRunId with
      | none => exact current.refl
      | some run => exact current.stays rfl rfl rfl (.of_same rfl rfl rfl)
    generalize metadata.agentRunId.elim state (state.putJobRun role) = assigned
      at assignedStays ⊢
    obtain ⟨sameRound, repaired⟩ := assignedStays.current.storeRoundId moves
    generalize assigned.storeRoundId = stored at sameRound repaired ⊢
    obtain ⟨storedRound, stored⟩ := stored
    subst sameRound
    generalize payloadEquation : ({
      relayRole := some role
      provider := metadata.provider
      nativeSessionId := metadata.nativeSessionId
      agentRunId := metadata.agentRunId
      turnId := metadata.turnId
      activeTurnId := metadata.activeTurnId
      providerExecutionMode := metadata.executionMode
      dispatchVerified := some metadata.dispatchVerified } : Payload) = payload
    have saved : Stays mode speaks storedRound moves stored
        (stored.saveArtifact (some role) .roleDispatchMetadata payload) := by
      have order := repaired.current.order
      refine repaired.current.saveArtifact (some role) _ _ ?_ ⟨order.positive, le_rfl⟩ ?_
      · rw [← payloadEquation]
        rfl
      · rw [← payloadEquation]
        intro _ actor named
        simp only [Option.some_or, Option.mem_def, Option.some.injEq] at named
        subst named
        exact voiced
    have updated : Stays mode speaks storedRound moves _ _ :=
      saved.current.updateAttempt role {
        status := if metadata.dispatchVerified then some .streaming else none
        provider := metadata.provider
        nativeSessionId := metadata.nativeSessionId
        agentRunId := metadata.agentRunId
        turnId := metadata.turnId
        activeTurnId := metadata.activeTurnId
        dispatchArtifactId :=
          some (stored.saveArtifact (some role) .roleDispatchMetadata payload).artifacts.lastId }
        voiced
    have executed : Stays mode speaks storedRound moves _ _ :=
      updated.current.setAttemptExecution role metadata.executionMode voiced
    exact assignedStays.trans (repaired.trans (saved.trans (updated.trans
      (executed.trans executed.current.syncLegacyProjection))))

theorem Current.modifyRound {change : Round → Round} (sameId : ∀ row, (change row).roundId = row.roundId)
    (same : ∀ row ∈ state.rounds.rows, row.roundId = roundId →
      (change row).status = row.status ∧ (change row).executionMode = row.executionMode) :
    Stays mode speaks roundId moves state (state.modifyRound roundId change sameId) :=
  have writes : Extends (Spoken speaks moves) state (state.modifyRound roundId change sameId) :=
    extends_modifyRound state roundId sameId
  ⟨current.congr (modifyRound_contracts_of_mem sameId same) rfl rfl writes, writes⟩

theorem Current.setRoundExecution (goal : String) (criteria : List String) (reason : WaitingReason) :
    Stays mode speaks roundId moves state
      (state.setRoundExecution roundId mode goal criteria reason) := by
  unfold TaskState.setRoundExecution
  rw [ensureRound_of_hasRound current.order.hasRound]
  refine current.modifyRound _ ?_
  intro row member _
  exact ⟨rfl, (current.order.mode_of_mem member).symm⟩

theorem Current.setRoundConfirmation (confirmation : Confirmation) :
    Stays mode speaks roundId moves state
      (state.setRoundConfirmation roundId confirmation) := by
  unfold TaskState.setRoundConfirmation
  rw [ensureRound_of_hasRound current.order.hasRound]
  exact current.modifyRound _ fun _ _ _ => ⟨rfl, rfl⟩

theorem Current.claimQueuedAttemptDispatch (role : Role) :
    Stays mode speaks roundId moves state
      (state.claimQueuedAttemptDispatch roundId role).2 := by
  unfold TaskState.claimQueuedAttemptDispatch
  split
  · exact current.refl
  · split
    · exact current.modifyLatestAttempt role _ _
    · exact current.refl

theorem Current.moveApproval (key : Option ApprovalKey) (before after : ConfirmationSource) :
    Stays mode speaks roundId moves state
      (state.moveApproval roundId key before after).2 := by
  unfold TaskState.moveApproval
  split
  · exact current.refl
  · split
    · exact current.refl
    · split
      · refine current.modifyRound ?_ fun _ _ _ => ⟨rfl, rfl⟩
        exact fun _ => rfl
      · exact current.refl

theorem Current.finalizeProviderNativeApprovalAction (role : Role) (requestId : String)
    (eventId : Int) (interrupted : Bool) (moved : ∀ next ∈ [Status.running, Status.interrupted], moves next) :
    Stays mode speaks roundId moves state
      (state.finalizeProviderNativeApprovalAction roundId role requestId eventId
        interrupted).2 := by
  unfold TaskState.finalizeProviderNativeApprovalAction
  split
  · exact current.refl
  · split
    · exact current.refl
    · split
      · generalize nextEquation : (if interrupted = true then Status.interrupted
          else Status.running) = next
        have open_ : next ≠ .superseded := by
          rw [← nextEquation]
          split <;> decide
        have nextMoved : moves next := by
          refine moved next ?_
          rw [← nextEquation]
          split <;> simp
        have put : Extends (Spoken speaks moves) state (state.putRoundStatus roundId next) :=
          extends_putRoundStatus state roundId next fun _ _ => nextMoved
        have voiced : ∀ row, state.attempts.latest? roundId role = some row →
            speaks roundId role := fun _ latest => current.voiced_of_latest? latest
        refine current.stays_of ?_ ?_ (put.trans ((extends_modifyRound _ roundId _).trans
          ((extends_modifyLatestAttempt _ roundId role _ _ fun row latest _ =>
            voiced row (by exact latest)).trans
            (extends_projectApproval _ _ _ _))))
        · have order := current.order.putRoundStatus open_
          have sameContracts : ((state.putRoundStatus roundId next).modifyRound roundId
              (fun row => { row with waitingReason := .none, confirmation := .none })
              fun _ => rfl).contracts = (state.putRoundStatus roundId next).contracts :=
            modifyRound_contracts (state.putRoundStatus roundId next) roundId _ (fun _ => rfl)
              fun _ => rfl
          rw [← sameContracts] at order
          exact order
        · intro artifact member
          obtain ⟨positive, artifactKnown, spoken⟩ := current.filed artifact member
          refine ⟨positive, ?_, spoken⟩
          exact (hasRound_of_map rfl (by intro row; split <;> rfl) _).mpr
            ((hasRound_putRoundStatus next _).mpr artifactKnown)
      · exact current.refl

theorem Current.annotateQuestion (artifactId : Nat) (provenance : Provenance) :
    Stays mode speaks roundId moves state (state.annotateQuestion artifactId provenance) where
  current := {
    order := current.order
    filed := by
      intro artifact member
      obtain ⟨stored, storedMember, rfl⟩ := List.mem_map.mp member
      have filed := current.filed stored storedMember
      split
      · exact filed
      · exact filed
    voices := current.voices }
  writes := .of_same rfl rfl rfl

end Calls

/-- The calls on the current round: by roles that may speak in it, moving it only
where `moves` allows. -/
def Local (mode : ExecutionMode) (speaks : Nat → Role → Prop) (roundId : Nat)
    (moves : Status → Prop) : StoreOp → Prop
  | .saveArtifact role type payload =>
      ∃ other : Nat, payload.roundId.getD roundId = (other : Int) ∧
        (0 < other ∧ other ≤ roundId) ∧
        (payload.artifactType.getD type ∈ ArtifactType.booked →
          ∀ actor ∈ (payload.relayRole.or role).or payload.role, speaks other actor)
  | .updateRoleStatus role status => status = .idle ∨ speaks roundId role
  | .updateTaskStatus status => status ≠ .superseded ∧ moves status
  | .updateRoleMetadata role _ => speaks roundId role
  | .setRoundExecution other otherMode _ _ _ => other = roundId ∧ otherMode = mode
  | .setRoundConfirmation other _ => other = roundId
  | .clearRoundConfirmation other => other = roundId
  | .claimQueuedAttemptDispatch other _ => other = roundId
  | .claimApproval other _ _ _ => other = roundId
  | .restoreApproval other _ _ _ => other = roundId
  | .finalizeApproval other _ _ _ _ => other = roundId ∧ moves .running ∧ moves .interrupted
  | .claimCompletion _ _ _ _ _ => True
  | .markCompletionApplied _ _ _ => True
  | .markCompletionIgnoredStale _ _ => True
  | .releaseCompletion _ _ => True
  | .recordGoalAcceptance _ => True
  | .annotateQuestion _ _ => True
  | .backfillTask => True
  | .elsewhere _ _ => True
  | .startFollowupRound _ => False
  | .quarantineStaleUnverifiedDispatches _ _ => False
  | .replaceApproval _ _ _ => False

theorem Current.step {op : StoreOp} (current : Current mode speaks roundId state)
    (isLocal : Local mode speaks roundId moves op) :
    Stays mode speaks roundId moves state (state.step op) := by
  cases op with
  | saveArtifact role type payload =>
      obtain ⟨other, placed, known, voiced⟩ := isLocal
      exact current.saveArtifact role type payload placed known voiced
  | updateRoleStatus role status => exact current.updateRoleStatus role status isLocal
  | updateTaskStatus status => exact current.updateTaskStatus status isLocal.1 isLocal.2
  | updateRoleMetadata role metadata => exact current.updateRoleMetadata role metadata isLocal
  | setRoundExecution other otherMode goal criteria reason =>
      obtain ⟨rfl, rfl⟩ := isLocal
      exact current.setRoundExecution goal criteria reason
  | setRoundConfirmation other confirmation =>
      subst isLocal
      exact current.setRoundConfirmation confirmation
  | clearRoundConfirmation other =>
      subst isLocal
      exact current.setRoundConfirmation .none
  | claimQueuedAttemptDispatch other role =>
      subst isLocal
      exact current.claimQueuedAttemptDispatch role
  | claimApproval | restoreApproval =>
      subst isLocal
      exact current.moveApproval _ _ _
  | finalizeApproval other role requestId eventId interrupted =>
      obtain ⟨rfl, running, stopped⟩ := isLocal
      refine current.finalizeProviderNativeApprovalAction role requestId eventId interrupted ?_
      simpa using ⟨running, stopped⟩
  | claimCompletion other role event run lease =>
      simp only [TaskState.step]
      split
      · exact current.stays rfl rfl rfl (.of_same rfl rfl rfl)
      · exact current.refl
  | markCompletionApplied | markCompletionIgnoredStale | releaseCompletion =>
      exact current.stays rfl rfl rfl (.of_same rfl rfl rfl)
  | recordGoalAcceptance attempt =>
      simp only [TaskState.step, recordGoalAcceptance]
      split
      · exact current.stays rfl rfl rfl (.of_same rfl rfl rfl)
      · exact current.refl
  | annotateQuestion artifactId provenance =>
      exact current.annotateQuestion artifactId provenance
  | backfillTask => exact current.backfillTask
  | elsewhere elapsed artifacts =>
      exact ⟨⟨current.order, current.filed, current.voices⟩, .of_same rfl rfl rfl⟩
  | startFollowupRound | quarantineStaleUnverifiedDispatches | replaceApproval => exact absurd isLocal id

structure AllClosed (mode : ExecutionMode) (roundId : Nat) (state : TaskState) : Prop where
  ids : ∀ other, other ∈ state.contracts.map Prod.fst ↔ 0 < other ∧ other ≤ roundId
  closed : ∀ entry ∈ state.contracts, entry.2.2 = mode ∧ entry.2.1 ∈ roundClosed

theorem InOrder.supersede (order : InOrder mode roundId status state.contracts) :
    AllClosed mode roundId (state.supersedeRounds fun other => other = roundId) where
  ids := by
    intro other
    rw [← order.ids other]
    unfold contracts supersedeRounds RoundTable.modify
    simp only [List.map_map]
    rw [List.map_congr_left]
    intro row _
    simp only [Function.comp_apply]
    split <;> rfl
  closed := by
    intro entry member
    unfold contracts supersedeRounds RoundTable.modify at member
    simp only [List.map_map] at member
    obtain ⟨row, rowMember, rfl⟩ := List.mem_map.mp member
    obtain ⟨sameMode, place⟩ := order.prior _ (List.mem_map.mpr ⟨row, rowMember, rfl⟩)
    simp only [Function.comp_apply] at sameMode place ⊢
    split
    · exact ⟨sameMode, by simp [roundClosed]⟩
    · rename_i kept
      refine ⟨sameMode, ?_⟩
      rcases place with same | closed
      · by_contra reopened
        exact kept ⟨by simpa using same, reopened⟩
      · exact closed

theorem AllClosed.open_ {next : TaskState} (allClosed : AllClosed mode roundId state)
    (contracts : next.contracts = (roundId + 1, .running, mode) :: state.contracts) :
    InOrder mode (roundId + 1) .running next.contracts where
  ids := by
    intro other
    rw [contracts, List.map_cons, List.mem_cons, allClosed.ids]
    omega
  active := by
    rw [contracts]
    exact List.mem_cons_self
  open_ := by decide
  prior := by
    intro entry member
    rw [contracts] at member
    rcases List.mem_cons.mp member with rfl | old
    · exact ⟨rfl, .inl rfl⟩
    · obtain ⟨sameMode, closed⟩ := allClosed.closed entry old
      exact ⟨sameMode, .inr closed⟩

theorem AllClosed.contracts_opened (allClosed : AllClosed mode roundId state)
    (trigger : TriggerKind) (artifact : Option Nat) (goal : String) (criteria : List String)
    (reason : WaitingReason) :
    ((state.ensureRound (roundId + 1) trigger artifact).setRoundExecution (roundId + 1) mode goal
      criteria reason).contracts = (roundId + 1, .running, mode) :: state.contracts := by
  have unknown : ¬ state.HasRound (roundId + 1) := by
    intro known
    obtain ⟨otherMode, member⟩ := contract_of_hasRound known
    have bound := (allClosed.ids _).mp (List.mem_map.mpr ⟨_, member, rfl⟩)
    omega
  have absent : state.rounds.find? (roundId + 1) = none := by
    cases found : state.rounds.find? (roundId + 1) with
    | none => rfl
    | some row => exact absurd (hasRound_iff.mpr ⟨row, found⟩) unknown
  have absentOpened :
      state.rounds.find? (Round.opened (roundId + 1) trigger artifact).roundId = none := absent
  have openedRows : (state.ensureRound (roundId + 1) trigger artifact).rounds.rows =
      Round.opened (roundId + 1) trigger artifact :: state.rounds.rows := by
    unfold ensureRound
    simp only [absent]
    exact RoundTable.insertNew_rows absentOpened
  have opened : (state.ensureRound (roundId + 1) trigger artifact).HasRound (roundId + 1) :=
    (hasRound_ensureRound trigger artifact _).mpr (.inl rfl)
  unfold TaskState.setRoundExecution
  rw [ensureRound_of_hasRound opened]
  unfold contracts modifyRound RoundTable.modify
  simp only [openedRows, List.map_map, List.map_cons]
  refine congrArg₂ List.cons (by simp [Round.opened]) (List.map_congr_left ?_)
  intro row member
  have contract : (row.roundId, row.status, row.executionMode) ∈ state.contracts :=
    List.mem_map.mpr ⟨row, member, rfl⟩
  have bound := (allClosed.ids row.roundId).mp (List.mem_map.mpr ⟨_, contract, rfl⟩)
  simp only [Function.comp_apply]
  rw [if_neg (by omega)]

theorem Current.startFollowupRound (current : Current mode speaks roundId state)
    (trigger : Option Nat) (voiced : speaks (roundId + 1) .director)
    (closing : moves .superseded) (opening : moves .running) :
    (state.startFollowupRound trigger).1 = roundId + 1 ∧
      Stays mode speaks (roundId + 1) moves state (state.startFollowupRound trigger).2 := by
  have repaired : Stays mode speaks roundId moves state state.backfillTask := current.backfillTask
  unfold TaskState.startFollowupRound currentRoundId
  generalize state.backfillTask = stored at repaired ⊢
  have order := repaired.current.order
  simp only [order.activeRoundId, order.executionMode]
  refine ⟨trivial, ?_⟩
  have closed := order.supersede
  have closes : Extends (Spoken speaks moves) stored
      (stored.supersedeRounds fun other => other = roundId) :=
    extends_supersedeRounds stored _ (fun _ _ _ _ => closing) repaired.current.voices
  generalize previousEquation :
    (stored.supersedeRounds fun other => other = roundId) = previous at closed closes ⊢
  have opened : Extends (Spoken speaks moves) previous
      (previous.ensureRound (roundId + 1) .userFollowup trigger) :=
    extends_ensureRound previous _ _ _ fun _ => opening
  have contracted : Extends (Spoken speaks moves) previous _ :=
    opened.trans (extends_setRoundExecution _ (roundId + 1) (fun _ => opening) mode
      (stored.roundExecution roundId).executionGoal
      (stored.roundExecution roundId).acceptanceCriteria
      (stored.roundExecution roundId).waitingReason)
  have openedOrder := closed.open_ (closed.contracts_opened .userFollowup trigger
    (stored.roundExecution roundId).executionGoal
    (stored.roundExecution roundId).acceptanceCriteria
    (stored.roundExecution roundId).waitingReason)
  have sameArtifacts : ((previous.ensureRound (roundId + 1) .userFollowup trigger).setRoundExecution
      (roundId + 1) mode (stored.roundExecution roundId).executionGoal
      (stored.roundExecution roundId).acceptanceCriteria
      (stored.roundExecution roundId).waitingReason).artifacts = stored.artifacts := by
    rw [artifacts_eq_of_ledgers (ledgers_setRoundExecution _ _ _ _ _ _),
      artifacts_eq_of_ledgers (ledgers_ensureRound _ _ _ _), ← previousEquation]
    rfl
  generalize (previous.ensureRound (roundId + 1) .userFollowup trigger).setRoundExecution
    (roundId + 1) mode (stored.roundExecution roundId).executionGoal
    (stored.roundExecution roundId).acceptanceCriteria
    (stored.roundExecution roundId).waitingReason = next
    at contracted openedOrder sameArtifacts ⊢
  have known := openedOrder.hasRound
  have ensuredRounds := ensureAttempt_rounds .director known .queued {}
  have ensuredKnown := (hasRound_of_rounds ensuredRounds (roundId + 1)).mpr known
  have executedRounds := setAttemptExecution_rounds .director ensuredKnown mode
  have ensured : Extends (Spoken speaks moves) next _ :=
    extends_ensureAttempt next (roundId + 1) (fun _ => opening) .director .queued {}
      fun _ => voiced
  have executed : Extends (Spoken speaks moves) _ _ :=
    extends_setAttemptExecution (next.ensureAttempt (roundId + 1) .director .queued {})
      (roundId + 1) (fun _ => opening) .director mode fun _ _ => voiced
  have writes := repaired.writes.trans (closes.trans (contracted.trans (ensured.trans executed)))
  have finalOrder : InOrder mode (roundId + 1) .running
      ((next.ensureAttempt (roundId + 1) .director .queued {}).setAttemptExecution
        (roundId + 1) .director mode).contracts := by
    rw [contracts_of_rounds (executedRounds.trans ensuredRounds)]
    exact openedOrder
  refine current.stays_of_sync finalOrder ?_ writes
  intro artifact member
  simp only [setAttemptExecution_artifacts, ensureAttempt_artifacts, sameArtifacts] at member
  obtain ⟨positive, artifactKnown, spoken⟩ := repaired.current.filed artifact member
  refine ⟨positive, ?_, spoken⟩
  exact (closes.trans (contracted.trans (ensured.trans executed))).rounds _ artifactKnown

end TaskState

end Wlcodex.Relay
