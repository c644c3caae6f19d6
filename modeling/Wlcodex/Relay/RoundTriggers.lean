import Wlcodex.Relay.PendingConsumption

namespace Wlcodex.Relay

/-! The rounds that an artifact opened. -/

namespace TaskState

/-- The rows with one `trigger_artifact_id`. -/
def triggered (state : TaskState) (artifactId : Nat) : List Nat :=
  (state.rounds.rows.filter fun row => row.triggerArtifactId = some artifactId).map Round.roundId

theorem followupRound?_eq (state : TaskState) (transitionId : Nat) :
    Service.followupRound? state transitionId = (state.triggered transitionId).min? := rfl

structure Lasting (before after : TaskState) : Prop where
  roles : after.jobs.map Job.role = before.jobs.map Job.role
  grows : ∀ roundId, before.HasRound roundId → after.HasRound roundId

structure Untriggered (before after : TaskState) : Prop extends Lasting before after where
  triggered : ∀ artifactId, after.triggered artifactId = before.triggered artifactId

namespace Lasting

variable {state middle last : TaskState}

theorem trans (first : Lasting state middle) (second : Lasting middle last) :
    Lasting state last where
  roles := second.roles.trans first.roles
  grows roundId known := second.grows roundId (first.grows roundId known)

theorem hasJob (lasting : Lasting state last) {role : Role} (employed : state.HasJob role) :
    last.HasJob role := by
  obtain ⟨job, member, rfl⟩ := employed
  have listed : job.role ∈ last.jobs.map Job.role := by
    rw [lasting.roles]
    exact List.mem_map_of_mem member
  obtain ⟨other, otherMember, same⟩ := List.mem_map.mp listed
  exact ⟨other, otherMember, same⟩

theorem ensureRound (state : TaskState) (roundId : Nat) (trigger : TriggerKind)
    (artifact : Option Nat) : Lasting state (state.ensureRound roundId trigger artifact) where
  roles := by
    unfold TaskState.ensureRound
    split <;> rfl
  grows other known := (hasRound_ensureRound trigger artifact other).mpr (.inr known)

end Lasting

namespace Untriggered

variable {state middle last : TaskState} {roundId : Nat}

theorem of_rounds (rounds : last.rounds = state.rounds)
    (roles : last.jobs.map Job.role = state.jobs.map Job.role) : Untriggered state last where
  triggered artifactId := by
    unfold TaskState.triggered
    rw [rounds]
  roles := roles
  grows roundId known := (hasRound_of_rounds rounds roundId).mpr known

theorem refl (state : TaskState) : Untriggered state state := of_rounds rfl rfl

theorem of_jobs {change : Job → Job} (rounds : last.rounds = state.rounds)
    (jobs : last.jobs = state.jobs.map change) (sameRole : ∀ job, (change job).role = job.role) :
    Untriggered state last := by
  apply of_rounds rounds
  rw [jobs, List.map_map]
  apply List.map_congr_left
  intro job _
  exact sameRole job

theorem trans (first : Untriggered state middle) (second : Untriggered middle last) :
    Untriggered state last where
  toLasting := first.toLasting.trans second.toLasting
  triggered artifactId := (second.triggered artifactId).trans (first.triggered artifactId)

theorem followupRound? (untriggered : Untriggered state last) (transitionId : Nat) :
    Service.followupRound? last transitionId = Service.followupRound? state transitionId := by
  rw [followupRound?_eq, followupRound?_eq, untriggered.triggered]

theorem of_map {change : Round → Round} (rows : last.rounds.rows = state.rounds.rows.map change)
    (sameId : ∀ row, (change row).roundId = row.roundId)
    (sameTrigger : ∀ row, (change row).triggerArtifactId = row.triggerArtifactId)
    (roles : last.jobs.map Job.role = state.jobs.map Job.role) : Untriggered state last where
  triggered artifactId := by
    unfold TaskState.triggered
    rw [rows, List.filter_map, List.map_map]
    have sameFilter : ((fun row : Round => decide (row.triggerArtifactId = some artifactId)) ∘
        change) = fun row => decide (row.triggerArtifactId = some artifactId) := by
      funext row
      simp only [Function.comp_apply, sameTrigger]
    rw [sameFilter]
    apply List.map_congr_left
    intro row _
    exact sameId row
  roles := roles
  grows roundId known := (hasRound_of_map rows sameId roundId).mpr known

theorem modifyRound (state : TaskState) {change : Round → Round}
    (sameId : ∀ row, (change row).roundId = row.roundId)
    (sameTrigger : ∀ row, (change row).triggerArtifactId = row.triggerArtifactId) :
    Untriggered state (state.modifyRound roundId change sameId) := by
  apply of_map rfl
  · intro row
    split
    · exact sameId row
    · rfl
  · intro row
    split
    · exact sameTrigger row
    · rfl
  · rfl

theorem ensureRound (state : TaskState) (roundId : Nat) (trigger : TriggerKind) :
    Untriggered state (state.ensureRound roundId trigger none) := by
  cases found : state.rounds.find? roundId with
  | some row =>
      have updates : state.ensureRound roundId trigger none = state.modifyRound roundId
          (fun row => { row with triggerArtifactId := row.triggerArtifactId.or none })
          fun _ => rfl := by
        unfold TaskState.ensureRound
        rw [found]
      rw [updates]
      apply modifyRound
      intro row
      exact Option.or_none
  | none =>
      have inserts : (state.ensureRound roundId trigger none).rounds.rows =
          Round.opened roundId trigger none :: state.rounds.rows := by
        unfold TaskState.ensureRound
        rw [found]
        exact RoundTable.insertNew_rows found
      refine ⟨.ensureRound state roundId trigger none, ?_⟩
      intro artifactId
      unfold TaskState.triggered
      rw [inserts, List.filter_cons_of_neg]
      simp [Round.opened]

theorem modifyLatestAttempt (state : TaskState) (roundId : Nat) (role : Role) (change : Attempt → Attempt)
    (sameKey : KeepsKey change) :
    Untriggered state (state.modifyLatestAttempt roundId role change sameKey) := of_rounds rfl rfl

theorem updateAttempt (state : TaskState) (roundId : Nat) (role : Role) (change : AttemptChange) :
    Untriggered state (state.updateAttempt roundId role change) := by
  unfold TaskState.updateAttempt
  split
  · exact (ensureRound state roundId _).trans (of_rounds rfl rfl)
  · split
    · exact refl state
    · split
      · split
        · exact of_rounds rfl rfl
        · exact of_rounds rfl rfl
      · exact of_rounds rfl rfl

theorem writeRule (roundId : Nat) : WriteRule Untriggered roundId fun _ => True where
  refl := refl
  trans := trans
  ensureRound state := ensureRound state roundId .backfill
  modifyRound state _ sameId kept := modifyRound state sameId fun row => (kept row).2
  updateAttempt state role change _ := updateAttempt state roundId role change
  putMode _ _ _ _ := of_rounds rfl rfl

theorem supersedeRounds (state : TaskState) (closing : Nat → Bool) :
    Untriggered state (state.supersedeRounds closing) := by
  apply of_map rfl
  · intro row
    split <;> rfl
  · intro row
    split <;> rfl
  · rfl

theorem supersedePriorRounds (state : TaskState) (current : Nat) :
    Untriggered state (state.supersedePriorRounds current) := by
  unfold TaskState.supersedePriorRounds
  split
  · exact refl state
  · exact supersedeRounds state _

theorem putRoundStatus (state : TaskState) (roundId : Nat) (status : Status) :
    Untriggered state (state.putRoundStatus roundId status) := by
  apply of_map rfl
  · intro row
    split <;> rfl
  · intro row
    split <;> rfl
  · rfl

theorem syncLegacyProjection (state : TaskState) :
    Untriggered state state.syncLegacyProjection :=
  of_jobs (syncLegacyProjection_rounds state) rfl fun _ => rfl

theorem setRoundStatus (state : TaskState) (roundId : Nat) (status : Status) :
    Untriggered state (state.setRoundStatus roundId status) :=
  ((ensureRound state roundId .backfill).trans (putRoundStatus _ roundId status)).trans
    (syncLegacyProjection _)

theorem ensureRounds (state : TaskState) (ids : List Nat) :
    Untriggered state (state.ensureRounds ids) := by
  induction ids generalizing state with
  | nil => exact refl state
  | cons head rest ih => exact (ensureRound state head _).trans (ih _)

theorem repairRounds (state : TaskState) : Untriggered state state.repairRounds := by
  unfold TaskState.repairRounds
  split
  · exact refl state
  · exact ((ensureRounds state _).trans (supersedePriorRounds _ _)).trans (setRoundStatus _ _ _)

theorem replay (state : TaskState) (seen : List Artifact) :
    Untriggered state (seen.foldl observeArtifact state) :=
  WriteRule.replay writeRule state seen

theorem staff (state : TaskState) (roundId : Nat) (jobs : List Job) :
    Untriggered state (jobs.foldl (fun (next : TaskState) job =>
      if job.status = .idle then next
      else next.ensureAttempt roundId job.role job.status { agentRunId := job.agentRunId })
      state) := by
  induction jobs generalizing state with
  | nil => exact refl state
  | cons head rest ih =>
      apply trans _ (ih _)
      dsimp only
      split
      · exact refl state
      · exact (writeRule roundId).ensureAttempt head.role trivial state _ _

theorem migrateTask (state : TaskState) : Untriggered state state.migrateTask := by
  apply trans _ (syncLegacyProjection _)
  apply trans _ (replay _ _)
  apply trans _ (staff _ _ _)
  exact ((ensureRounds state _).trans (supersedePriorRounds _ _)).trans (setRoundStatus _ _ _)

theorem backfillTask (state : TaskState) : Untriggered state state.backfillTask := by
  unfold TaskState.backfillTask
  split
  · exact migrateTask state
  · exact ((repairRounds state).trans (replay _ _)).trans (syncLegacyProjection _)

theorem backfillCommits {cut : TaskState} (member : cut ∈ state.backfillCommits) :
    Untriggered state cut := by
  unfold TaskState.backfillCommits at member
  simp only [List.mem_append, List.mem_map, List.mem_singleton] at member
  rcases member with ((⟨ids, _, rfl⟩ | repair) | ⟨seen, _, rfl⟩) | rfl
  · exact ensureRounds state ids
  · cases greatest : state.artifactRoundIds.max? with
    | none =>
        rw [greatest] at repair
        cases repair
    | some current =>
        rw [greatest] at repair
        have closed := (ensureRounds state (sortedIds state.artifactRoundIds)).trans
          (supersedePriorRounds _ current)
        simp only [List.mem_cons, List.not_mem_nil, or_false] at repair
        rcases repair with rfl | rfl | rfl
        · exact closed
        · exact closed.trans (ensureRound _ current .backfill)
        · exact (closed.trans (ensureRound _ current .backfill)).trans (putRoundStatus _ current _)
  · exact (repairRounds state).trans (replay _ seen)
  · exact backfillTask state

theorem observeArtifact (state : TaskState) (artifact : Artifact) :
    Untriggered state (state.observeArtifact artifact) :=
  WriteRule.observeArtifact state artifact (writeRule _) fun _ _ => trivial

theorem storeRoundId (state : TaskState) : Untriggered state state.storeRoundId.2 :=
  backfillTask state

theorem saveArtifact (state : TaskState) (role : Option Role) (type : ArtifactType)
    (payload : Payload) : Untriggered state (state.saveArtifact role type payload) := by
  unfold TaskState.saveArtifact
  split
  · unfold TaskState.fileArtifact
    apply trans _ (syncLegacyProjection _)
    apply trans _ (observeArtifact _ _)
    exact (storeRoundId state).trans (of_rounds rfl rfl)
  · exact refl state

theorem updateRoleStatus (state : TaskState) (role : Role) (status : Status) :
    Untriggered state (state.updateRoleStatus role status) := by
  unfold TaskState.updateRoleStatus
  dsimp only
  have written : ∀ status, Untriggered state
      ((state.storeRoundId.2.updateAttempt state.storeRoundId.1 role
        { status := status }).syncLegacyProjection) := fun status =>
    ((storeRoundId state).trans (updateAttempt _ _ role _)).trans (syncLegacyProjection _)
  split
  · split
    · apply (storeRoundId state).trans
      refine of_jobs (by rfl) rfl ?_
      intro job
      split <;> rfl
    · exact written _
  · exact written _

theorem updateRoleMetadata (state : TaskState) (role : Role) (metadata : RoleMetadata) :
    Untriggered state (state.updateRoleMetadata role metadata) := by
  unfold TaskState.updateRoleMetadata
  split
  · exact refl state
  · dsimp only
    apply trans _ (syncLegacyProjection _)
    apply trans _ ((writeRule _).setAttemptExecution role trivial _ _)
    apply trans _ (updateAttempt _ _ role _)
    apply trans _ (saveArtifact _ _ _ _)
    apply trans _ (storeRoundId _)
    cases metadata.agentRunId with
    | none => exact refl state
    | some run =>
        refine of_jobs (by rfl) rfl ?_
        intro job
        split <;> rfl

theorem moveApproval (state : TaskState) (roundId : Nat) (key : Option ApprovalKey)
    (before after : ConfirmationSource) :
    Untriggered state (state.moveApproval roundId key before after).2 := by
  unfold TaskState.moveApproval
  split
  · exact refl state
  · split
    · exact refl state
    · split
      · apply modifyRound
        · intro row
          rfl
        · intro row
          rfl
      · exact refl state

theorem awaitApproval (state : TaskState) (roundId : Nat) (request : ApprovalRequest) :
    Untriggered state (state.awaitApproval roundId request) := by
  unfold TaskState.awaitApproval
  split
  · exact of_rounds rfl rfl
  · exact of_rounds rfl rfl

theorem projectApproval (state : TaskState) (role : Role) (taskStatus roleStatus : Status) :
    Untriggered state (state.projectApproval role taskStatus roleStatus) := by
  refine of_jobs (by rfl) rfl ?_
  intro job
  split <;> rfl

theorem replaceProviderNativeApproval (state : TaskState) (roundId : Nat)
    (request : ApprovalRequest) (expected : Option ApprovalKey) :
    Untriggered state (state.replaceProviderNativeApproval roundId request expected).2 := by
  unfold TaskState.replaceProviderNativeApproval
  split
  · exact refl state
  · split
    · exact refl state
    · split
      · dsimp only
        apply trans _ (projectApproval _ _ _ _)
        apply trans _ (awaitApproval _ _ _)
        apply (putRoundStatus state roundId .waitingUser).trans
        apply modifyRound
        intro row
        rfl
      · exact refl state

theorem finalizeProviderNativeApprovalAction (state : TaskState) (roundId : Nat) (role : Role)
    (requestId : String) (eventId : Int) (interrupted : Bool) :
    Untriggered state (state.finalizeProviderNativeApprovalAction roundId role requestId eventId
      interrupted).2 := by
  unfold TaskState.finalizeProviderNativeApprovalAction
  split
  · exact refl state
  · split
    · exact refl state
    · split
      · dsimp only
        apply trans _ (projectApproval _ _ _ _)
        apply trans _ (modifyLatestAttempt _ _ _ _ _)
        apply (putRoundStatus state roundId _).trans
        apply modifyRound
        intro row
        rfl
      · exact refl state

end Untriggered

/-- The round that `start_followup_round` opens. -/
def nextRoundId (state : TaskState) : Nat := state.backfillTask.activeRoundId 1 + 1

/-- `start_followup_round` once it has closed the current round. -/
def closedForFollowup (state : TaskState) : TaskState :=
  state.backfillTask.supersedeRounds fun roundId => roundId = state.backfillTask.activeRoundId 1

def openedFollowup (state : TaskState) (trigger : Option Nat) : TaskState :=
  state.closedForFollowup.ensureRound state.nextRoundId .userFollowup trigger

theorem Untriggered.closedForFollowup (state : TaskState) :
    Untriggered state state.closedForFollowup :=
  (Untriggered.backfillTask state).trans (Untriggered.supersedeRounds _ _)

variable {state cut : TaskState}

theorem Untriggered.followupCommits {trigger : Option Nat} (member : cut ∈ state.followupCommits trigger) :
    Untriggered state cut ∨ Untriggered (state.openedFollowup trigger) cut := by
  have inherited := fun (mode : ExecutionMode) (goal : String) (criteria : List String)
      (reason : WaitingReason) => (Untriggered.writeRule state.nextRoundId).setRoundExecution
    (state.openedFollowup trigger) mode goal criteria reason
  rcases List.mem_append.mp member with repaired | opening
  · exact .inl (Untriggered.backfillCommits repaired)
  · simp only [List.mem_cons, List.not_mem_nil, or_false] at opening
    rcases opening with rfl | rfl | rfl | rfl | rfl | rfl
    · exact .inl (closedForFollowup state)
    · exact .inr (.refl _)
    · exact .inr (inherited _ _ _ _)
    · exact .inr ((inherited _ _ _ _).trans
        ((Untriggered.writeRule _).ensureAttempt .director trivial _ _ _))
    · exact .inr (((inherited _ _ _ _).trans
        ((Untriggered.writeRule _).ensureAttempt .director trivial _ _ _)).trans
        ((Untriggered.writeRule _).setAttemptExecution .director trivial _ _))
    · exact .inr ((((inherited _ _ _ _).trans
        ((Untriggered.writeRule _).ensureAttempt .director trivial _ _ _)).trans
        ((Untriggered.writeRule _).setAttemptExecution .director trivial _ _)).trans
        (Untriggered.syncLegacyProjection _))

theorem Untriggered.startFollowupRound (state : TaskState) (trigger : Option Nat) :
    Untriggered (state.openedFollowup trigger) (state.startFollowupRound trigger).2 := by
  apply Untriggered.trans _ (Untriggered.syncLegacyProjection _)
  apply Untriggered.trans _ ((Untriggered.writeRule _).setAttemptExecution .director trivial _ _)
  apply Untriggered.trans _ ((Untriggered.writeRule _).ensureAttempt .director trivial _ _ _)
  exact (Untriggered.writeRule _).setRoundExecution _ _ _ _ _

theorem Untriggered.step (state : TaskState) {op : StoreOp}
    (unmarked : ∀ trigger, op ≠ .startFollowupRound (some trigger)) :
    Untriggered state (state.step op) := by
  cases op with
  | saveArtifact role type payload => exact saveArtifact state role type payload
  | updateRoleStatus role status => exact updateRoleStatus state role status
  | updateTaskStatus status =>
      exact ((storeRoundId state).trans (setRoundStatus _ _ status)).trans (syncLegacyProjection _)
  | updateRoleMetadata role metadata => exact updateRoleMetadata state role metadata
  | startFollowupRound trigger =>
      cases trigger with
      | some id => exact absurd rfl (unmarked id)
      | none =>
          exact ((closedForFollowup state).trans (ensureRound _ _ _)).trans
            (startFollowupRound state none)
  | setRoundExecution roundId mode goal criteria reason =>
      exact (writeRule roundId).setRoundExecution state mode goal criteria reason
  | setRoundConfirmation roundId confirmation =>
      exact (writeRule roundId).setRoundConfirmation state confirmation
  | clearRoundConfirmation roundId => exact (writeRule roundId).setRoundConfirmation state .none
  | claimQueuedAttemptDispatch roundId role =>
      change Untriggered state (state.claimQueuedAttemptDispatch roundId role).2
      unfold TaskState.claimQueuedAttemptDispatch
      split
      · exact refl state
      · split
        · exact of_rounds rfl rfl
        · exact refl state
  | quarantineStaleUnverifiedDispatches roundId seconds => exact of_rounds rfl rfl
  | claimApproval roundId requestId eventId action => exact moveApproval state roundId _ _ _
  | restoreApproval roundId requestId eventId action => exact moveApproval state roundId _ _ _
  | replaceApproval roundId request expected =>
      exact replaceProviderNativeApproval state roundId request expected
  | finalizeApproval roundId role requestId eventId interrupted =>
      exact finalizeProviderNativeApprovalAction state roundId role requestId eventId interrupted
  | claimCompletion roundId role event run lease =>
      unfold TaskState.step
      dsimp only
      split
      · exact of_rounds rfl rfl
      · exact refl state
  | markCompletionApplied event run artifact => exact of_rounds rfl rfl
  | markCompletionIgnoredStale event run => exact of_rounds rfl rfl
  | releaseCompletion event run => exact of_rounds rfl rfl
  | recordGoalAcceptance attempt =>
      unfold TaskState.step TaskState.recordGoalAcceptance
      dsimp only
      split
      · exact of_rounds rfl rfl
      · exact refl state
  | annotateQuestion artifactId provenance => exact of_rounds rfl rfl
  | backfillTask => exact backfillTask state
  | elsewhere elapsed artifacts => exact of_rounds rfl rfl

theorem Lasting.openedFollowup (state : TaskState) (trigger : Option Nat) :
    Lasting state (state.openedFollowup trigger) :=
  (Untriggered.closedForFollowup state).toLasting.trans (.ensureRound _ _ _ trigger)

theorem Lasting.step (state : TaskState) (op : StoreOp) : Lasting state (state.step op) := by
  by_cases marked : ∃ trigger, op = .startFollowupRound (some trigger)
  · obtain ⟨trigger, rfl⟩ := marked
    exact (Lasting.openedFollowup state (some trigger)).trans
      (Untriggered.startFollowupRound state (some trigger)).toLasting
  · push Not at marked
    exact (Untriggered.step state marked).toLasting

theorem Untriggered.saveCommits {role : Option Role} {type : ArtifactType}
    {payload : Payload} (member : cut ∈ state.saveCommits role type payload) :
    Untriggered state cut := by
  rcases List.mem_append.mp member with repaired | filed
  · exact Untriggered.backfillCommits repaired
  · have inserted : ∀ artifacts : ArtifactLog,
        Untriggered state { state.storeRoundId.2 with artifacts := artifacts } := fun artifacts =>
      (Untriggered.storeRoundId state).trans (Untriggered.of_rounds rfl rfl)
    simp only [List.mem_cons, List.not_mem_nil, or_false] at filed
    rcases filed with rfl | rfl | rfl
    · exact inserted _
    · exact (inserted _).trans (Untriggered.observeArtifact _ _)
    · exact ((inserted _).trans (Untriggered.observeArtifact _ _)).trans
        (Untriggered.syncLegacyProjection _)

theorem Untriggered.commits {op : StoreOp} (unmarked : ∀ trigger, op ≠ .startFollowupRound (some trigger))
    (member : cut ∈ state.commits op) : Untriggered state cut := by
  have whole := Untriggered.step state unmarked
  cases op with
  | startFollowupRound trigger =>
      cases trigger with
      | some id => exact absurd rfl (unmarked id)
      | none =>
          rcases Untriggered.followupCommits member with before | after
          · exact before
          · exact ((closedForFollowup state).trans (ensureRound _ _ _)).trans after
  | saveArtifact role type payload =>
      unfold TaskState.commits at member
      dsimp only at member
      split at member
      · exact Untriggered.saveCommits member
      · cases member
  | updateRoleStatus | updateTaskStatus =>
      rcases List.mem_append.mp member with repaired | last
      · exact Untriggered.backfillCommits repaired
      · rw [List.mem_singleton.mp last]
        exact whole
  | backfillTask => exact Untriggered.backfillCommits member
  | _ =>
      rw [List.mem_singleton.mp member]
      exact whole

theorem Lasting.commits {op : StoreOp} (member : cut ∈ state.commits op) :
    Lasting state cut := by
  by_cases marked : ∃ trigger, op = .startFollowupRound (some trigger)
  · obtain ⟨trigger, rfl⟩ := marked
    rcases Untriggered.followupCommits member with before | after
    · exact before.toLasting
    · exact (Lasting.openedFollowup state (some trigger)).trans after.toLasting
  · push Not at marked
    exact (Untriggered.commits marked member).toLasting

theorem crashed_mem (state : TaskState) (op : StoreOp) (commits : Nat) :
    state.crashed op commits = state ∨ state.crashed op commits ∈ state.commits op := by
  unfold crashed
  cases last : ((state.commits op).take commits).getLast? with
  | none => exact .inl rfl
  | some cut => exact .inr (List.mem_of_mem_take (List.mem_of_getLast? last))

theorem Lasting.crashed (state : TaskState) (op : StoreOp) (commits : Nat) :
    Lasting state (state.crashed op commits) := by
  rcases crashed_mem state op commits with same | cut
  · rw [same]
    exact (Untriggered.refl state).toLasting
  · exact Lasting.commits cut

end TaskState

end Wlcodex.Relay
