import Wlcodex.Relay.Ledgers
import Wlcodex.Relay.RoundTriggers

namespace Wlcodex.Relay

/-! The durable marks of a pending input. -/

namespace TaskState

/-- The artifacts of one type that carry a `pending_input_id`. -/
def marks (state : TaskState) (type : ArtifactType) (pendingId : Nat) : List Nat :=
  (state.artifacts.rows.filter fun artifact =>
    artifact.type = type ∧ artifact.payload.pendingInputId = pendingId).map Artifact.id

def Marking (type : ArtifactType) (pendingId : Nat) : Prop :=
  type = .pendingInputTransition ∨ type = .userFollowup ∧ pendingId ≠ 0

instance (type : ArtifactType) (pendingId : Nat) : Decidable (Marking type pendingId) :=
  inferInstanceAs (Decidable (type = .pendingInputTransition ∨
    type = .userFollowup ∧ pendingId ≠ 0))

theorem marks_of_artifacts {state next : TaskState} (same : next.artifacts = state.artifacts)
    (type : ArtifactType) (pendingId : Nat) :
    next.marks type pendingId = state.marks type pendingId := by
  unfold marks
  rw [same]

theorem marks_of_ledgers {state next : TaskState} (same : next.ledgers = state.ledgers)
    (type : ArtifactType) (pendingId : Nat) :
    next.marks type pendingId = state.marks type pendingId :=
  marks_of_artifacts (artifacts_eq_of_ledgers same) type pendingId

def savedType (type : ArtifactType) (payload : Payload) : ArtifactType :=
  payload.artifactType.getD type

variable {type : ArtifactType} {op : StoreOp} {payload : Payload} {roundId : Nat}
  {role : Option Role}

theorem marks_of_append {state next : TaskState}
    (appended : next.artifacts = state.artifacts.append type
      (filedPayload payload role type roundId)) (kind : ArtifactType) (pendingId : Nat) :
    next.marks kind pendingId = state.marks kind pendingId ++
      if savedType type payload = kind ∧ payload.pendingInputId = pendingId then
        [state.artifacts.lastId + 1] else [] := by
  have seen : ∀ id, Artifact.type ⟨id, type, filedPayload payload role type roundId⟩ =
      savedType type payload := by
    intro id
    unfold Artifact.type filedPayload savedType
    cases payload.artifactType <;> rfl
  have pending : (filedPayload payload role type roundId).pendingInputId =
      payload.pendingInputId := rfl
  unfold marks
  rw [appended]
  simp only [ArtifactLog.append, List.filter_append, List.map_append]
  by_cases marking : savedType type payload = kind ∧ payload.pendingInputId = pendingId
  · rw [if_pos marking, List.filter_cons_of_pos]
    · rfl
    · simpa only [seen, pending, decide_eq_true_eq] using marking
  · rw [if_neg marking, List.filter_cons_of_neg]
    · rfl
    · simpa only [seen, pending, decide_eq_true_eq] using marking

structure Unmarked (before after : TaskState) : Prop extends Untriggered before after where
  marks : ∀ type pendingId, Marking type pendingId →
    after.marks type pendingId = before.marks type pendingId

namespace Unmarked

variable {state middle last : TaskState}

theorem of_ledgers (untriggered : Untriggered state last) (same : last.ledgers = state.ledgers) :
    Unmarked state last where
  toUntriggered := untriggered
  marks type pendingId _ := marks_of_ledgers same type pendingId

theorem refl (state : TaskState) : Unmarked state state := of_ledgers (.refl state) rfl

theorem trans (first : Unmarked state middle) (second : Unmarked middle last) :
    Unmarked state last where
  toUntriggered := first.toUntriggered.trans second.toUntriggered
  marks type pendingId marking :=
    (second.marks type pendingId marking).trans (first.marks type pendingId marking)

theorem backfillTask (state : TaskState) : Unmarked state state.backfillTask :=
  of_ledgers (.backfillTask state) (ledgers_backfillTask state)

end Unmarked

theorem ledgers_backfillCommits {state cut : TaskState} (member : cut ∈ state.backfillCommits) :
    cut.ledgers = state.ledgers := by
  unfold TaskState.backfillCommits at member
  simp only [List.mem_append, List.mem_map, List.mem_singleton] at member
  rcases member with ((⟨ids, _, rfl⟩ | repair) | ⟨seen, _, rfl⟩) | rfl
  · simp
  · cases greatest : state.artifactRoundIds.max? with
    | none =>
        rw [greatest] at repair
        cases repair
    | some current =>
        rw [greatest] at repair
        simp only [List.mem_cons, List.not_mem_nil, or_false] at repair
        rcases repair with rfl | rfl | rfl
        · simp
        · simp
        · simp
  · simp
  · simp

theorem Unmarked.backfillCommits {state cut : TaskState} (member : cut ∈ state.backfillCommits) :
    Unmarked state cut := of_ledgers (.backfillCommits member) (ledgers_backfillCommits member)

def Saves (type : ArtifactType) (payload : Payload) : Prop :=
  Marking (savedType type payload) payload.pendingInputId

def Plain : StoreOp → Prop
  | .saveArtifact _ type payload => ¬ Saves type payload
  | .startFollowupRound trigger => trigger = none
  | _ => True

instance : DecidablePred Plain
  | .saveArtifact _ type payload =>
      inferInstanceAs (Decidable (¬ Marking (savedType type payload) payload.pendingInputId))
  | .startFollowupRound trigger => inferInstanceAs (Decidable (trigger = none))
  | .updateRoleStatus .. | .updateTaskStatus .. | .updateRoleMetadata .. | .setRoundExecution ..
  | .setRoundConfirmation .. | .clearRoundConfirmation .. | .claimQueuedAttemptDispatch ..
  | .quarantineStaleUnverifiedDispatches .. | .claimApproval .. | .restoreApproval ..
  | .replaceApproval .. | .finalizeApproval .. | .claimCompletion .. | .markCompletionApplied ..
  | .markCompletionIgnoredStale .. | .releaseCompletion .. | .recordGoalAcceptance ..
  | .annotateQuestion .. | .backfillTask | .elsewhere .. => isTrue trivial

namespace Unmarked

theorem of_append {state next : TaskState} (untriggered : Untriggered state next) (plain : ¬ Saves type payload)
    (appended : next.artifacts = state.artifacts.append type
      (filedPayload payload role type roundId)) : Unmarked state next where
  toUntriggered := untriggered
  marks kind pendingId marking := by
    rw [marks_of_append appended, if_neg, List.append_nil]
    rintro ⟨rfl, rfl⟩
    exact plain marking

theorem saveArtifact (state : TaskState) (role : Option Role) (plain : ¬ Saves type payload) :
    Unmarked state (state.saveArtifact role type payload) := by
  have untriggered := Untriggered.saveArtifact state role type payload
  rcases ledgers_saveArtifact state role type payload with same | appended
  · exact of_ledgers untriggered same
  · exact of_append untriggered plain (congrArg Ledgers.artifacts appended)

theorem updateRoleMetadata (state : TaskState) (role : Role) (metadata : RoleMetadata) :
    Unmarked state (state.updateRoleMetadata role metadata) := by
  refine ⟨.updateRoleMetadata state role metadata, ?_⟩
  intro kind pendingId marking
  unfold TaskState.updateRoleMetadata
  split
  · rfl
  · have assigned : (metadata.agentRunId.elim state (state.putJobRun role)).ledgers =
        state.ledgers := by
      cases metadata.agentRunId <;> rfl
    rw [marks_of_ledgers (ledgers_syncLegacyProjection _),
      marks_of_ledgers (ledgers_setAttemptExecution _ _ _ _),
      marks_of_ledgers (ledgers_updateAttempt _ _ _ _),
      (saveArtifact _ _ _).marks kind pendingId marking,
      marks_of_ledgers (ledgers_storeRoundId _), marks_of_ledgers assigned]
    unfold Saves Marking savedType
    simp

theorem annotateQuestion (state : TaskState) (artifactId : Nat) (provenance : Provenance) :
    Unmarked state (state.annotateQuestion artifactId provenance) where
  toUntriggered := .of_rounds rfl rfl
  marks kind pendingId _ := by
    unfold TaskState.marks TaskState.annotateQuestion ArtifactLog.rewrite
    simp only [List.filter_map, List.map_map]
    have sameFilter : ((fun artifact : Artifact => decide (artifact.type = kind ∧
        artifact.payload.pendingInputId = pendingId)) ∘ fun row => if row.id = artifactId then
          { row with payload := provenance.annotate row.payload } else row) =
        fun artifact => decide (artifact.type = kind ∧
          artifact.payload.pendingInputId = pendingId) := by
      funext row
      dsimp only [Function.comp_apply]
      split <;> rfl
    rw [sameFilter]
    apply List.map_congr_left
    intro row _
    dsimp only [Function.comp_apply]
    split <;> rfl

theorem step (state : TaskState) (plain : Plain op) :
    Unmarked state (state.step op) := by
  have untriggered : Untriggered state (state.step op) := by
    apply Untriggered.step
    rintro trigger rfl
    cases plain
  cases op with
  | saveArtifact role type payload => exact saveArtifact state role plain
  | updateRoleMetadata role metadata => exact updateRoleMetadata state role metadata
  | annotateQuestion artifactId provenance => exact annotateQuestion state artifactId provenance
  | claimCompletion roundId role event run lease =>
      refine ⟨untriggered, fun kind pendingId _ => marks_of_artifacts ?_ kind pendingId⟩
      unfold TaskState.step
      dsimp only
      split <;> rfl
  | recordGoalAcceptance attempt =>
      refine ⟨untriggered, fun kind pendingId _ => marks_of_artifacts ?_ kind pendingId⟩
      unfold TaskState.step TaskState.recordGoalAcceptance
      dsimp only
      split <;> rfl
  | markCompletionApplied | markCompletionIgnoredStale | releaseCompletion =>
      exact ⟨untriggered, fun kind pendingId _ => marks_of_artifacts rfl kind pendingId⟩
  | elsewhere elapsed artifacts => exact ⟨untriggered, fun _ _ _ => rfl⟩
  | startFollowupRound trigger => exact of_ledgers untriggered (ledgers_startFollowupRound state _)
  | updateRoleStatus role status => exact of_ledgers untriggered (ledgers_updateRoleStatus state _ _)
  | updateTaskStatus status => exact of_ledgers untriggered (ledgers_updateTaskStatus state _)
  | setRoundExecution roundId mode goal criteria reason =>
      exact of_ledgers untriggered (ledgers_setRoundExecution state _ _ _ _ _)
  | setRoundConfirmation | clearRoundConfirmation =>
      exact of_ledgers untriggered (ledgers_setRoundConfirmation state _ _)
  | claimQueuedAttemptDispatch roundId role =>
      exact of_ledgers untriggered (ledgers_claimQueuedAttemptDispatch state _ _)
  | quarantineStaleUnverifiedDispatches roundId seconds => exact of_ledgers untriggered rfl
  | claimApproval | restoreApproval =>
      exact of_ledgers untriggered (ledgers_moveApproval state _ _ _ _)
  | replaceApproval roundId request expected =>
      exact of_ledgers untriggered (ledgers_replaceProviderNativeApproval state _ _ _)
  | finalizeApproval roundId role requestId eventId interrupted =>
      exact of_ledgers untriggered
        (ledgers_finalizeProviderNativeApprovalAction state _ _ _ _ _)
  | backfillTask => exact backfillTask state

end Unmarked

theorem ledgers_followupCommits {state cut : TaskState} {trigger : Option Nat}
    (member : cut ∈ state.followupCommits trigger) : cut.ledgers = state.ledgers := by
  rcases List.mem_append.mp member with repaired | opening
  · exact ledgers_backfillCommits repaired
  · simp only [List.mem_cons, List.not_mem_nil, or_false] at opening
    rcases opening with rfl | rfl | rfl | rfl | rfl | rfl <;> simp

/-- What any commit of a call, or the whole call, can do to the marks: nothing,
one artifact more, or one round more. -/
inductive Marks (state cut : TaskState) : StoreOp → Prop where
  | none {op : StoreOp} (unmarked : Unmarked state cut) : Marks state cut op
  | artifact {role : Option Role} {type : ArtifactType} {payload : Payload} {roundId : Nat}
      (untriggered : Untriggered state cut)
      (appended : cut.artifacts = state.artifacts.append type
        (filedPayload payload role type roundId)) :
      Marks state cut (.saveArtifact role type payload)
  | round {trigger : Nat} (opened : Untriggered (state.openedFollowup (some trigger)) cut)
      (kept : cut.ledgers = state.ledgers) :
      Marks state cut (.startFollowupRound (some trigger))

theorem marks_saveCommits {state cut : TaskState} (member : cut ∈ state.saveCommits role type payload) :
    Marks state cut (.saveArtifact role type payload) := by
  have untriggered := Untriggered.saveCommits member
  have log : state.storeRoundId.2.artifacts = state.artifacts :=
    artifacts_eq_of_ledgers (ledgers_storeRoundId state)
  rcases List.mem_append.mp member with repaired | filed
  · exact .none (.backfillCommits repaired)
  · apply Marks.artifact untriggered
    simp only [List.mem_cons, List.not_mem_nil, or_false] at filed
    rw [← log]
    rcases filed with rfl | rfl | rfl
    · rfl
    · exact artifacts_eq_of_ledgers (ledgers_observeArtifact _ _)
    · exact artifacts_eq_of_ledgers ((ledgers_syncLegacyProjection _).trans
        (ledgers_observeArtifact _ _))

theorem marks_commits {state cut : TaskState} (member : cut ∈ state.commits op) :
    Marks state cut op := by
  by_cases plain : Plain op
  · have whole := Unmarked.step state plain
    cases op with
    | startFollowupRound trigger =>
        cases plain
        exact .none (.of_ledgers (Untriggered.commits (fun _ => by simp) member)
          (ledgers_followupCommits member))
    | saveArtifact role type payload =>
        unfold commits at member
        dsimp only at member
        split at member
        · exact marks_saveCommits member
        · cases member
    | updateRoleStatus | updateTaskStatus =>
        rcases List.mem_append.mp member with repaired | last
        · exact .none (.backfillCommits repaired)
        · rw [List.mem_singleton.mp last]
          exact .none whole
    | backfillTask => exact .none (.backfillCommits member)
    | _ =>
        rw [List.mem_singleton.mp member]
        exact .none whole
  · cases op with
    | startFollowupRound trigger =>
        obtain ⟨id, rfl⟩ := Option.ne_none_iff_exists'.mp plain
        have kept := ledgers_followupCommits member
        rcases Untriggered.followupCommits member with before | after
        · exact .none (.of_ledgers before kept)
        · exact .round after kept
    | saveArtifact role type payload =>
        unfold commits at member
        dsimp only at member
        split at member
        · exact marks_saveCommits member
        · cases member
    | _ => exact absurd trivial plain

theorem marks_crashed (state : TaskState) (op : StoreOp) (commits : Nat) :
    Marks state (state.crashed op commits) op := by
  rcases crashed_mem state op commits with same | cut
  · rw [same]
    exact .none (.refl state)
  · exact marks_commits cut

theorem marks_step (state : TaskState) (op : StoreOp) : Marks state (state.step op) op := by
  by_cases plain : Plain op
  · exact .none (.step state plain)
  · cases op with
    | startFollowupRound trigger =>
        obtain ⟨id, rfl⟩ := Option.ne_none_iff_exists'.mp plain
        exact .round (.startFollowupRound state (some id)) (ledgers_startFollowupRound state _)
    | saveArtifact role type payload =>
        have untriggered := Untriggered.saveArtifact state role type payload
        rcases ledgers_saveArtifact state role type payload with same | appended
        · exact .none (.of_ledgers untriggered same)
        · exact .artifact untriggered (congrArg Ledgers.artifacts appended)
    | _ => exact absurd trivial plain

theorem mem_triggered {state : TaskState} {artifactId roundId : Nat} :
    roundId ∈ state.triggered artifactId ↔
      ∃ row ∈ state.rounds.rows, row.triggerArtifactId = some artifactId ∧ row.roundId = roundId := by
  unfold triggered
  simp [and_assoc]

def Untaken (state : TaskState) (roundId : Nat) : Prop :=
  ∀ row ∈ state.rounds.rows, row.roundId = roundId → row.triggerArtifactId = none

instance (state : TaskState) : DecidablePred state.Untaken := fun roundId =>
  inferInstanceAs (Decidable (∀ row ∈ state.rounds.rows, row.roundId = roundId →
    row.triggerArtifactId = none))

theorem untaken_iff {state : TaskState} :
    state.Untaken roundId ↔ ∀ artifactId, roundId ∉ state.triggered artifactId := by
  constructor
  · intro untaken artifactId member
    obtain ⟨row, rowMember, opened, named⟩ := mem_triggered.mp member
    rw [untaken row rowMember named] at opened
    cases opened
  · intro free row member named
    cases opened : row.triggerArtifactId with
    | none => rfl
    | some artifactId =>
        exact absurd (mem_triggered.mpr ⟨row, member, opened, named⟩) (free artifactId)

theorem mem_triggered_ensureRound {state : TaskState} {kind : TriggerKind} {trigger artifactId other : Nat} :
    other ∈ (state.ensureRound roundId kind (some trigger)).triggered artifactId ↔
      other ∈ state.triggered artifactId ∨
        artifactId = trigger ∧ other = roundId ∧ state.Untaken roundId := by
  cases found : state.rounds.find? roundId with
  | none =>
      have absent : ∀ row ∈ state.rounds.rows, row.roundId ≠ roundId := by
        intro row member
        simpa using List.find?_eq_none.mp found row member
      have rows : (state.ensureRound roundId kind (some trigger)).rounds.rows =
          Round.opened roundId kind (some trigger) :: state.rounds.rows := by
        unfold ensureRound
        rw [found]
        exact RoundTable.insertNew_rows found
      have untaken : state.Untaken roundId := fun row member named =>
        absurd named (absent row member)
      rw [mem_triggered, mem_triggered, rows]
      simp only [List.mem_cons, exists_eq_or_imp, Round.opened, Option.some.injEq]
      constructor
      · rintro (⟨rfl, rfl⟩ | stored)
        · exact .inr ⟨rfl, rfl, untaken⟩
        · exact .inl stored
      · rintro (stored | ⟨rfl, rfl, _⟩)
        · exact .inr stored
        · exact .inl ⟨rfl, rfl⟩
  | some row =>
      have named := RoundTable.roundId_of_find? found
      have rowMember : row ∈ state.rounds.rows := List.mem_of_find?_eq_some found
      have rows : (state.ensureRound roundId kind (some trigger)).rounds.rows =
          state.rounds.rows.map fun row => if row.roundId = roundId then
            { row with triggerArtifactId := row.triggerArtifactId.or (some trigger) } else row := by
        unfold ensureRound
        rw [found]
        rfl
      rw [mem_triggered, mem_triggered, rows]
      constructor
      · rintro ⟨_, member, opened, sameId⟩
        obtain ⟨stored, storedMember, rfl⟩ := List.mem_map.mp member
        by_cases chosen : stored.roundId = roundId
        · rw [if_pos chosen] at opened sameId
          cases before : stored.triggerArtifactId with
          | some earlier =>
              rw [before] at opened
              exact .inl ⟨stored, storedMember, before.trans opened, sameId⟩
          | none =>
              rw [before] at opened
              cases opened
              refine .inr ⟨rfl, sameId.symm.trans chosen, ?_⟩
              intro other otherMember otherNamed
              have same := RoundTable.find?_of_mem otherMember
              rw [otherNamed, ← chosen, RoundTable.find?_of_mem storedMember] at same
              cases same
              exact before
        · rw [if_neg chosen] at opened sameId
          exact .inl ⟨stored, storedMember, opened, sameId⟩
      · rintro (⟨stored, storedMember, opened, sameId⟩ | ⟨rfl, rfl, untaken⟩)
        · refine ⟨_, List.mem_map_of_mem storedMember, ?_, ?_⟩
          · split
            · simp [opened]
            · exact opened
          · split
            · exact sameId
            · exact sameId
        · refine ⟨_, List.mem_map_of_mem rowMember, ?_, ?_⟩
          · rw [if_pos named]
            simp [untaken row rowMember named]
          · rw [if_pos named]
            exact named

theorem mem_triggered_openedFollowup {state cut : TaskState} {trigger artifactId other : Nat}
    (opened : Untriggered (state.openedFollowup (some trigger)) cut) :
    other ∈ cut.triggered artifactId ↔
      other ∈ state.triggered artifactId ∨
        artifactId = trigger ∧ other = state.nextRoundId ∧ state.Untaken state.nextRoundId := by
  have closed := Untriggered.closedForFollowup state
  rw [opened.triggered]
  unfold openedFollowup
  rw [mem_triggered_ensureRound, closed.triggered, untaken_iff, untaken_iff]
  simp only [closed.triggered]

structure Marked (state : TaskState) : Prop where
  artifacts : ∀ type pendingId, Marking type pendingId →
    ∀ first ∈ state.marks type pendingId, ∀ second ∈ state.marks type pendingId, first = second
  rounds : ∀ artifactId, ∀ first ∈ state.triggered artifactId,
    ∀ second ∈ state.triggered artifactId, first = second

def Fits (state : TaskState) : StoreOp → Prop
  | .saveArtifact _ type payload =>
      Saves type payload → state.marks (savedType type payload) payload.pendingInputId = []
  | .startFollowupRound (some trigger) => state.triggered trigger = []
  | _ => True

theorem fits_of_plain {state : TaskState} (plain : Plain op) : state.Fits op := by
  cases op with
  | saveArtifact role type payload => exact fun saves => absurd saves plain
  | startFollowupRound trigger =>
      cases plain
      trivial
  | _ => trivial

theorem Marked.of_marks {state cut : TaskState} (marked : state.Marked)
    (fits : state.Fits op) (change : Marks state cut op) : cut.Marked := by
  cases change with
  | none unmarked =>
      constructor
      · intro type pendingId marking
        rw [unmarked.marks type pendingId marking]
        exact marked.artifacts type pendingId marking
      · intro artifactId
        rw [unmarked.triggered]
        exact marked.rounds artifactId
  | @artifact role type payload roundId untriggered appended =>
      constructor
      · intro kind pendingId marking
        rw [marks_of_append appended]
        split
        · rename_i same
          obtain ⟨rfl, rfl⟩ := same
          rw [fits marking]
          simp
        · rw [List.append_nil]
          exact marked.artifacts kind pendingId marking
      · intro artifactId
        rw [untriggered.triggered]
        exact marked.rounds artifactId
  | @round trigger opened kept =>
      constructor
      · intro type pendingId marking
        rw [marks_of_ledgers kept]
        exact marked.artifacts type pendingId marking
      · intro artifactId first firstMember second secondMember
        rw [mem_triggered_openedFollowup opened] at firstMember secondMember
        have missing : state.triggered trigger = [] := fits
        rcases firstMember with before | ⟨rfl, rfl, _⟩
        · rcases secondMember with alsoBefore | ⟨rfl, rfl, _⟩
          · exact marked.rounds artifactId first before second alsoBefore
          · rw [missing] at before
            cases before
        · rcases secondMember with before | ⟨_, rfl, _⟩
          · rw [missing] at before
            cases before
          · rfl

theorem mem_marks_of_marks {state cut : TaskState} (change : Marks state cut op) {pendingId id : Nat} (marking : Marking type pendingId)
    (member : id ∈ state.marks type pendingId) : id ∈ cut.marks type pendingId := by
  cases change with
  | none unmarked =>
      rw [unmarked.marks type pendingId marking]
      exact member
  | artifact untriggered appended =>
      rw [marks_of_append appended]
      exact List.mem_append_left _ member
  | round opened kept =>
      rw [marks_of_ledgers kept]
      exact member

theorem mem_triggered_of_marks {state cut : TaskState}
    (change : Marks state cut op) {artifactId roundId : Nat}
    (member : roundId ∈ state.triggered artifactId) : roundId ∈ cut.triggered artifactId := by
  cases change with
  | none unmarked =>
      rw [unmarked.triggered]
      exact member
  | artifact untriggered appended =>
      rw [untriggered.triggered]
      exact member
  | round opened kept => exact (mem_triggered_openedFollowup opened).mpr (.inl member)

end TaskState

end Wlcodex.Relay
