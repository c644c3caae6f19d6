import Wlcodex.Relay.GoalCompletion

namespace Wlcodex.Relay

/-! Acceptance evidence is bound to the newest implementation report. -/

namespace TaskState

variable (state : TaskState)

def stored : ArtifactLog × List GoalAcceptanceRecord :=
  (state.artifacts, state.records)

theorem stored_of_ledgers {state next : TaskState} (kept : next.ledgers = state.ledgers) :
    next.stored = state.stored := by
  unfold stored
  rw [artifacts_eq_of_ledgers kept, records_eq_of_ledgers kept]

theorem stored_saveArtifact (role : Option Role) (type : ArtifactType)
    (payload : Payload) :
    (state.saveArtifact role type payload).stored = state.stored ∨
      ∃ filed, (state.saveArtifact role type payload).stored =
        (state.artifacts.append type filed, state.records) := by
  rcases ledgers_saveArtifact state role type payload with kept | appended
  · exact .inl (stored_of_ledgers kept)
  · refine .inr ⟨filedPayload payload role type state.storeRoundId.1, ?_⟩
    exact Prod.ext (congrArg Ledgers.artifacts appended) (congrArg Ledgers.records appended)

theorem stored_updateRoleMetadata (role : Role) (metadata : RoleMetadata) :
    (state.updateRoleMetadata role metadata).stored = state.stored ∨
      ∃ type filed, (state.updateRoleMetadata role metadata).stored =
        (state.artifacts.append type filed, state.records) := by
  unfold updateRoleMetadata
  split
  · exact .inl rfl
  · simp only
    have assigned : (metadata.agentRunId.elim state (state.putJobRun role)).ledgers =
        state.ledgers := by
      cases metadata.agentRunId <;> rfl
    rw [← ledgers_storeRoundId] at assigned
    generalize (metadata.agentRunId.elim state (state.putJobRun role)).storeRoundId = placed
      at assigned ⊢
    have sameStored := stored_of_ledgers assigned
    rw [stored_of_ledgers (ledgers_syncLegacyProjection _),
      stored_of_ledgers (ledgers_setAttemptExecution _ _ _ _),
      stored_of_ledgers (ledgers_updateAttempt _ _ _ _)]
    rcases stored_saveArtifact placed.2 (some role) .roleDispatchMetadata _ with kept | ⟨filed, appended⟩
    · exact .inl (kept.trans sameStored)
    · refine .inr ⟨.roleDispatchMetadata, filed, appended.trans ?_⟩
      rw [artifacts_eq_of_ledgers assigned, records_eq_of_ledgers assigned]

theorem stored_step (op : StoreOp) :
    (state.step op).stored = state.stored ∨
    (∃ type filed, (state.step op).stored = (state.artifacts.append type filed, state.records)) ∨
    (∃ attempt record, state.AcceptsScope attempt ∧
      record.implementationArtifactId = attempt.implementationArtifactId ∧
      (state.step op).stored = (state.artifacts, state.records ++ [record])) ∨
    (∃ artifactId provenance, (state.step op).stored =
      (state.artifacts.rewrite artifactId (Provenance.annotate provenance), state.records)) ∨
    ∃ count, (state.step op).stored = (state.artifacts.skip count, state.records) := by
  cases op with
  | saveArtifact role type payload =>
      rcases stored_saveArtifact state role type payload with kept | ⟨filed, appended⟩
      · exact .inl kept
      · exact .inr (.inl ⟨type, filed, appended⟩)
  | updateRoleMetadata role metadata =>
      rcases stored_updateRoleMetadata state role metadata with kept | appended
      · exact .inl kept
      · exact .inr (.inl appended)
  | recordGoalAcceptance attempt =>
      simp only [step, recordGoalAcceptance]
      split
      · rename_i accepted
        exact .inr (.inr (.inl ⟨attempt, _, accepted, rfl, rfl⟩))
      · exact .inl rfl
  | annotateQuestion artifactId provenance =>
      exact .inr (.inr (.inr (.inl ⟨artifactId, provenance, rfl⟩)))
  | elsewhere elapsed artifacts => exact .inr (.inr (.inr (.inr ⟨artifacts, rfl⟩)))
  | updateRoleStatus role status =>
      exact .inl (stored_of_ledgers (ledgers_updateRoleStatus state role status))
  | updateTaskStatus status =>
      exact .inl (stored_of_ledgers (ledgers_updateTaskStatus state status))
  | startFollowupRound trigger =>
      exact .inl (stored_of_ledgers (ledgers_startFollowupRound state trigger))
  | setRoundExecution roundId mode goal criteria reason =>
      exact .inl
        (stored_of_ledgers (ledgers_setRoundExecution state roundId mode goal criteria reason))
  | setRoundConfirmation roundId confirmation =>
      exact .inl (stored_of_ledgers (ledgers_setRoundConfirmation state roundId confirmation))
  | clearRoundConfirmation roundId =>
      exact .inl (stored_of_ledgers (ledgers_setRoundConfirmation state roundId _))
  | claimQueuedAttemptDispatch roundId role =>
      exact .inl (stored_of_ledgers (ledgers_claimQueuedAttemptDispatch state roundId role))
  | quarantineStaleUnverifiedDispatches roundId seconds => exact .inl rfl
  | claimApproval roundId requestId eventId action =>
      exact .inl (stored_of_ledgers (ledgers_moveApproval state roundId _ _ _))
  | restoreApproval roundId requestId eventId action =>
      exact .inl (stored_of_ledgers (ledgers_moveApproval state roundId _ _ _))
  | replaceApproval roundId request expected =>
      exact .inl
        (stored_of_ledgers (ledgers_replaceProviderNativeApproval state roundId request expected))
  | finalizeApproval roundId role requestId eventId interrupted =>
      exact .inl (stored_of_ledgers (ledgers_finalizeProviderNativeApprovalAction state roundId
        role requestId eventId interrupted))
  | claimCompletion roundId role event run lease =>
      simp only [step]
      split <;> exact .inl rfl
  | markCompletionApplied event run artifact => exact .inl rfl
  | markCompletionIgnoredStale event run => exact .inl rfl
  | releaseCompletion event run => exact .inl rfl
  | backfillTask => exact .inl (stored_of_ledgers (ledgers_backfillTask state))

def unannotated (artifact : Artifact) : Artifact :=
  { artifact with
    payload := Provenance.annotate ⟨.empty, .empty, 0, "", none, ""⟩ artifact.payload }

def logReports (log : ArtifactLog) : List (Nat × Artifact) :=
  (annotateArtifactRounds 1 log.rows).map fun entry => (entry.1, unannotated entry.2)

theorem annotateArtifactRounds_append (first : Nat) (earlier later : List Artifact) :
    ∃ next, annotateArtifactRounds first (earlier ++ later) =
      annotateArtifactRounds first earlier ++ annotateArtifactRounds next later := by
  induction earlier generalizing first with
  | nil => exact ⟨first, rfl⟩
  | cons head rest ih =>
      obtain ⟨next, split⟩ := ih (if head.payload.explicitRound ≠ 0 then
        head.payload.explicitRound else if head.type = .userFollowup then first + 1 else first)
      exact ⟨next, congrArg (List.cons _) split⟩

theorem annotateArtifactRounds_map {change : Artifact → Artifact}
    (sameRound : ∀ artifact, (change artifact).payload.explicitRound =
      artifact.payload.explicitRound)
    (sameType : ∀ artifact, (change artifact).type = artifact.type)
    (first : Nat) (artifacts : List Artifact) :
    annotateArtifactRounds first (artifacts.map change) =
      (annotateArtifactRounds first artifacts).map fun entry => (entry.1, change entry.2) := by
  induction artifacts generalizing first with
  | nil => rfl
  | cons head rest ih =>
      simp only [List.map_cons, annotateArtifactRounds, sameRound, sameType, ih]

theorem map_snd_annotateArtifactRounds (first : Nat) (artifacts : List Artifact) :
    (annotateArtifactRounds first artifacts).map Prod.snd = artifacts := by
  induction artifacts generalizing first with
  | nil => rfl
  | cons head rest ih => simp only [annotateArtifactRounds, List.map_cons, ih]

structure Retains (before after : TaskState) : Prop where
  reports : logReports before.artifacts <+: logReports after.artifacts
  lastId : before.artifacts.lastId ≤ after.artifacts.lastId
  records : before.records <+: after.records

theorem Retains.refl : Retains state state :=
  ⟨List.prefix_rfl, le_rfl, List.prefix_rfl⟩

theorem Retains.trans {first second third : TaskState} (earlier : Retains first second)
    (later : Retains second third) : Retains first third :=
  ⟨earlier.reports.trans later.reports, earlier.lastId.trans later.lastId,
    earlier.records.trans later.records⟩

theorem retains_of_stored {state next : TaskState} {log : ArtifactLog}
    {records : List GoalAcceptanceRecord} (stores : next.stored = (log, records))
    (reports : logReports state.artifacts <+: logReports log)
    (lastId : state.artifacts.lastId ≤ log.lastId) (grown : state.records <+: records) :
    Retains state next := by
  have sameLog : next.artifacts = log := congrArg Prod.fst stores
  have sameRecords : next.records = records := congrArg Prod.snd stores
  rw [← sameLog] at reports lastId
  rw [← sameRecords] at grown
  exact ⟨reports, lastId, grown⟩

theorem logReports_append (log : ArtifactLog) (type : ArtifactType) (payload : Payload) :
    logReports log <+: logReports (log.append type payload) := by
  obtain ⟨next, split⟩ := annotateArtifactRounds_append 1 log.rows [⟨log.lastId + 1, type, payload⟩]
  unfold logReports
  simp only [ArtifactLog.append]
  rw [split, List.map_append]
  exact List.prefix_append _ _

theorem logReports_rewrite (log : ArtifactLog) (artifactId : Nat) (provenance : Provenance) :
    logReports (log.rewrite artifactId provenance.annotate) = logReports log := by
  unfold logReports
  simp only [ArtifactLog.rewrite]
  rw [annotateArtifactRounds_map, List.map_map]
  · refine List.map_congr_left ?_
    intro entry _
    simp only [Function.comp_apply]
    split <;> rfl
  · intro artifact
    split <;> rfl
  · intro artifact
    split <;> rfl

theorem retains_step (op : StoreOp) : Retains state (state.step op) := by
  rcases stored_step state op with kept | ⟨type, filed, appended⟩ | ⟨attempt, record, _, _, recorded⟩ |
    ⟨artifactId, provenance, annotated⟩ | ⟨count, skipped⟩
  · exact retains_of_stored kept List.prefix_rfl le_rfl List.prefix_rfl
  · exact retains_of_stored appended (logReports_append _ _ _) (Nat.le_succ _) List.prefix_rfl
  · exact retains_of_stored recorded List.prefix_rfl le_rfl (List.prefix_append _ _)
  · have reports := logReports_rewrite state.artifacts artifactId provenance
    exact retains_of_stored annotated (reports ▸ List.prefix_rfl) le_rfl List.prefix_rfl
  · exact retains_of_stored skipped List.prefix_rfl (Nat.le_add_right _ _) List.prefix_rfl

theorem retains_foldl (ops : List StoreOp) :
    Retains state (ops.foldl step state) := by
  induction ops generalizing state with
  | nil => exact .refl state
  | cons op rest ih => exact (retains_step state op).trans (ih (state.step op))

def RecordsBound : Prop :=
  ∀ record ∈ state.records, ∀ report ∈ record.implementationArtifactId,
    report ≤ state.artifacts.lastId

theorem recordsBound_step (op : StoreOp) (bound : state.RecordsBound) :
    (state.step op).RecordsBound := by
  have grown := (retains_step state op).lastId
  have old : (state.step op).records = state.records → (state.step op).RecordsBound := by
    intro same record member report named
    rw [same] at member
    exact (bound record member report named).trans grown
  rcases stored_step state op with kept | ⟨type, filed, appended⟩ |
    ⟨attempt, record, accepted, sameReport, recorded⟩ | ⟨artifactId, provenance, annotated⟩ |
    ⟨count, skipped⟩
  · exact old (congrArg Prod.snd kept)
  · exact old (congrArg Prod.snd appended)
  · have records := congrArg Prod.snd recorded
    simp only [stored] at records
    intro stored member report named
    rw [records] at member
    rcases List.mem_append.mp member with earlier | new
    · exact (bound stored earlier report named).trans grown
    · simp only [List.mem_singleton] at new
      subst new
      -- the scope check has found the report among the stored artifacts
      rw [sameReport] at named
      obtain ⟨_, _, _, inScope⟩ := accepted
      simp only [Option.mem_def.mp named] at inScope
      unfold scopedArtifact? at inScope
      cases found : state.artifacts.rows.find? fun artifact => artifact.id = report with
      | none => simp [found] at inScope
      | some artifact =>
          have sameId := List.find?_some found
          have known := state.artifacts.bounded artifact (List.mem_of_find?_eq_some found)
          simp only [decide_eq_true_eq] at sameId
          omega
  · exact old (congrArg Prod.snd annotated)
  · exact old (congrArg Prod.snd skipped)

theorem recordsBound_foldl {state : TaskState} (bound : state.RecordsBound)
    (ops : List StoreOp) : (ops.foldl step state).RecordsBound := by
  induction ops generalizing state with
  | nil => exact bound
  | cons op rest ih => exact ih (recordsBound_step state op bound)

theorem records_created (start : Nat) : (created start).records = [] := by
  have initial : (blank start).createInitialRound.records = [] := rfl
  rcases stored_saveArtifact (blank start).createInitialRound (some .director) .relayBoard {} with
    kept | ⟨filed, appended⟩
  · exact (congrArg Prod.snd kept).trans initial
  · exact (congrArg Prod.snd appended).trans initial

theorem recordsBound_after (start : Nat) (ops : List StoreOp) :
    (after start ops).RecordsBound := by
  apply recordsBound_foldl
  intro record member
  rw [records_created] at member
  cases member

theorem eligible_unannotated (roundId : Nat) (entry : Nat × Artifact) :
    eligibleImplementation roundId (entry.1, unannotated entry.2) =
      eligibleImplementation roundId entry := rfl

theorem le_of_getLast? {α : Type} {key : α → Nat} {list : List α} {last element : α}
    (ordered : list.Pairwise fun earlier later => key earlier < key later)
    (isLast : list.getLast? = some last) (member : element ∈ list) : key element ≤ key last := by
  obtain ⟨front, rfl⟩ := List.getLast?_eq_some_iff.mp isLast
  rcases List.mem_append.mp member with earlier | same
  · exact le_of_lt ((List.pairwise_append.mp ordered).2.2 element earlier last (by simp))
  · rw [List.mem_singleton.mp same]

theorem id_le_currentGoalImplementation {state : TaskState} {roundId : Nat}
    {entry : Nat × Artifact} {newest : Artifact} (member : entry ∈ state.relayArtifacts)
    (eligible : eligibleImplementation roundId entry)
    (current : state.currentGoalImplementation? roundId = some newest) :
    entry.2.id ≤ newest.id := by
  refine le_of_getLast? ?_ current
    (List.mem_map.mpr ⟨entry, List.mem_filter.mpr ⟨member, eligible⟩, rfl⟩)
  have kept : ((state.relayArtifacts.filter (eligibleImplementation roundId)).map Prod.snd).Sublist
      (state.relayArtifacts.map Prod.snd) := List.filter_sublist.map Prod.snd
  have rows : state.relayArtifacts.map Prod.snd = state.artifacts.rows :=
    map_snd_annotateArtifactRounds 1 state.artifacts.rows
  rw [rows] at kept
  exact List.Pairwise.sublist kept state.artifacts.ascending

theorem Retains.relayArtifacts {before after : TaskState} (retains : Retains before after)
    {entry : Nat × Artifact} (member : entry ∈ before.relayArtifacts) :
    ∃ kept ∈ after.relayArtifacts, kept.1 = entry.1 ∧
      unannotated kept.2 = unannotated entry.2 := by
  have reported : (entry.1, unannotated entry.2) ∈ logReports before.artifacts :=
    List.mem_map.mpr ⟨entry, member, rfl⟩
  obtain ⟨kept, keptMember, same⟩ := List.mem_map.mp (retains.reports.subset reported)
  have parts := Prod.mk.inj same
  exact ⟨kept, keptMember, parts.1, parts.2⟩

def AcceptedEvidence (report : Artifact)
    (record : GoalAcceptanceRecord) : Prop :=
  record.roundId = state.detailRoundId ∧ record.implementationArtifactId = some report.id ∧
    record.implementationRunId = positiveRun report.payload.implementationRunId ∧
    record.implementationRunId.isSome ∧ record.verifierRole ∈ [Role.tester, Role.auditor] ∧
    state.AcceptsCompletion state.detailRoundId
      (normalizeAcceptanceCriteria
        (state.roundExecution state.detailRoundId).acceptanceCriteria) record

/-- After an eligible implementation report is saved, the gate of its goal-mode
round stays closed until a record is appended for the report that is newest
then. -/
theorem gate_opens_on_evidence_for_newest_report (start : Nat) (earlier later : List StoreOp)
    (payload : Payload) {report : Nat × Artifact} {final : TaskState}
    (saved : report ∈ ((after start earlier).saveArtifact (some .implementer)
      .implementationReport payload).relayArtifacts)
    (isNew : (after start earlier).artifacts.lastId < report.2.id)
    (runs : later.foldl step ((after start earlier).saveArtifact (some .implementer)
      .implementationReport payload) = final)
    (eligible : eligibleImplementation final.detailRoundId report)
    (goal : (final.roundExecution final.detailRoundId).executionMode = .goal)
    (opened : final.finalSummaryCompletionError = "") :
    ∃ newest, final.currentGoalImplementation? final.detailRoundId = some newest ∧
      report.2.id ≤ newest.id ∧
      ∃ record ∈ final.records.drop (after start earlier).records.length,
        final.AcceptedEvidence newest record := by
  obtain ⟨newest, run, current, sameRun, role, verifier, record, isLatest, accepts⟩ :=
    accepts_of_goalCompletionError (goalCompletionError_of_accepted goal opened)
  have retains : Retains ((after start earlier).saveArtifact (some .implementer)
      .implementationReport payload) final := by
    rw [← runs]
    exact retains_foldl _ later
  have retainsSave : Retains (after start earlier) ((after start earlier).saveArtifact
      (some .implementer) .implementationReport payload) :=
    retains_step _ (.saveArtifact (some .implementer) .implementationReport payload)
  obtain ⟨kept, keptMember, sameRound, sameReport⟩ := retains.relayArtifacts saved
  have sameId : kept.2.id = report.2.id := by
    have ids := congrArg Artifact.id sameReport
    exact ids
  have keptEligible : eligibleImplementation final.detailRoundId kept := by
    rw [← eligible_unannotated, sameRound, sameReport, eligible_unannotated]
    exact eligible
  have newer := id_le_currentGoalImplementation keptMember keptEligible current
  rw [sameId] at newer
  have found := List.mem_of_getLast? isLatest
  obtain ⟨member, bound⟩ := List.mem_filter.mp found
  simp only [decide_eq_true_eq] at bound
  obtain ⟨recordRound, recordReport, recordRun, recordRole⟩ := bound
  refine ⟨newest, current, newer, record, ?_, recordRound, recordReport, ?_, ?_, ?_, accepts⟩
  · -- a record of the earlier run names an older report
    obtain ⟨appended, grown⟩ := (retainsSave.trans retains).records
    rw [← grown] at member ⊢
    rw [List.drop_left]
    rcases List.mem_append.mp member with old | new
    · have older := recordsBound_after start earlier record old newest.id recordReport
      omega
    · exact new
  · rw [recordRun, sameRun]
  · rw [recordRun]
    rfl
  · rw [recordRole]
    exact verifier

theorem gate_opens_on_evidence_for_newest_report_run :
    let earlier : List StoreOp :=
      [.setRoundExecution 1 .goal "ship" ["tests pass"] .none,
        .saveArtifact (some .director) .routingDecision
          { status := some .passed, route := .fullRelay,
            requiredRoles := [.director, .implementer, .tester] }]
    let payload : Payload :=
      { status := some .passed, evidenceRefs := ["diff"], implementationRunId := some 11 }
    let later : List StoreOp :=
      [.saveArtifact (some .tester) .testReport
          { status := some .passed, evidenceRefs := ["log"] },
        .recordGoalAcceptance ⟨1, some 3, some 11, 4, .tester, ["tests pass"], true, true, some 0,
          .passed, .passed⟩]
    let final := later.foldl step
      ((after 0 earlier).saveArtifact (some .implementer) .implementationReport payload)
    final.finalSummaryCompletionError = "" ∧
      ∃ newest, final.currentGoalImplementation? final.detailRoundId = some newest ∧
        3 ≤ newest.id ∧
        ∃ record ∈ final.records.drop (after 0 earlier).records.length,
          final.AcceptedEvidence newest record := by
  intro earlier payload later final
  have opened : final.finalSummaryCompletionError = "" := by decide +kernel
  let report : Nat × Artifact :=
    (1, ⟨3, .implementationReport, filedPayload payload (some .implementer) .implementationReport 1⟩)
  have saved : report ∈ ((after 0 earlier).saveArtifact (some .implementer)
      .implementationReport payload).relayArtifacts := by decide +kernel
  exact ⟨opened, gate_opens_on_evidence_for_newest_report 0 earlier later payload saved
    (by decide +kernel) rfl (by decide +kernel) (by decide +kernel) opened⟩

end TaskState

namespace Service

/-- The tester verifies the first report, the auditor sends the implementation
back, and only the auditor verifies the second report.  The gate is open although the
required tester has no record for the newest report. -/
theorem gate_opens_without_tester_record :
    let verified : Except String GoalDeclaration := .ok verifiedRun
    let audited : List ServiceInput :=
      [.dispatch smoothWorld,
        answers .director (decision [.director, .implementer, .tester, .auditor]),
        answers .implementer (report .passed .implementer .implementationReport),
        answers .tester (report .passed .tester .testReport none verified),
        answers .auditor (report .failed .auditor .auditReport (some .implementer) verified),
        answers .implementer (report .passed .implementer .implementationReport (some .auditor)),
        answers .auditor (report .passed .auditor .auditReport none verified)]
    let final := audited.foldl serve (opened 0 goalRequest)
    final.finalSummaryCompletionError = "" ∧ .tester ∈ final.requiredRoles ∧
      ∃ newest ∈ final.currentGoalImplementation? final.detailRoundId,
        ∀ record ∈ final.records, record.verifierRole = .tester →
          record.implementationArtifactId ≠ some newest.id := by
  decide +kernel

end Service

end Wlcodex.Relay
