import Wlcodex.Relay.Presentation

namespace Wlcodex.Relay

/-! When a task is listed under the state that its card shows. -/

namespace TaskRows

def knownStatuses : List String :=
  ["queued", "running", "waiting_user", "blocked", "failed", "completed", "interrupted"]

def listed (column : RoundRow → String) (rows : TaskRows) : String :=
  (rows.currentRound?.map column).getD ""

variable {status : String}

theorem strip_of_mem_knownStatuses (known : status ∈ knownStatuses) :
    strip status = status := by
  simp only [knownStatuses, List.mem_cons, List.not_mem_nil, or_false] at known
  obtain rfl | rfl | rfl | rfl | rfl | rfl | rfl := known <;> decide

theorem strip_of_mem_recoverySources {source : String} (recovers : source ∈ recoverySources) :
    strip source = source := by
  simp only [recoverySources, List.mem_cons, List.not_mem_nil, or_false] at recovers
  obtain rfl | rfl := recovers <;> decide

variable {approvalWait : Bool}

theorem rawState_eq_running_iff :
    rawState status approvalWait = .running ↔ status ∈ ["queued", "running"] := by
  unfold rawState
  split_ifs with active <;> simp [active]

theorem rawState_eq_stale_iff :
    rawState status approvalWait = .stale ↔ status ∉ knownStatuses := by
  unfold rawState knownStatuses
  split_ifs with active <;> simp_all
  obtain rfl | rfl := active <;> simp

theorem rawState_eq_blocked_iff :
    rawState status approvalWait = .blocked ↔ status = "blocked" := by
  unfold rawState
  split_ifs with active waiting
  · have active : status = "queued" ∨ status = "running" := by simpa using active
    obtain rfl | rfl := active <;> simp
  all_goals simp_all

theorem rawState_congr_iff {one other : Bool} :
    rawState status one = rawState status other ↔ (status = "waiting_user" → one = other) := by
  cases one <;> cases other <;> simp [rawState]
  all_goals
    split_ifs with active waiting
    · obtain rfl | rfl := active <;> simp
    all_goals simp_all

theorem rawState_decide (status : String) (approvalWait : Prop) [Decidable approvalWait] :
    rawState status (decide approvalWait) =
      if status ∈ ["queued", "running"] then .running
      else if status = "waiting_user" ∧ approvalWait then .waitingApproval
      else if status = "waiting_user" then .waitingUser
      else if status = "blocked" then .blocked
      else if status = "failed" then .failed
      else if status = "completed" then .completed
      else if status = "interrupted" then .interrupted
      else .stale := by
  by_cases waiting : status = "waiting_user"
  · by_cases waits : approvalWait <;> simp [rawState, waiting, waits]
  · simp [rawState, waiting]

theorem presentationState_eq (julianday : String → Option Int) (now : Int) (rows : TaskRows) :
    rows.presentationState julianday now =
      if rows.listed RoundRow.confirmationSource ∈ recoverySources then .blocked
      else if rows.run.status ∈ ["queued", "running"] ∧
          (rows.run.updatedAt = "" ∨
            (julianday rows.run.updatedAt).all fun updatedAt => now - updatedAt > freshFor) then .stale
      else rawState rows.run.status (rows.listed RoundRow.waitingReason ∈ approvalReasons ∨
        likeApproval (rows.listed RoundRow.confirmationKind)) := by
  rw [rawState_decide]
  rfl

end TaskRows

theorem presentationStaleReason_eq_empty_iff {now updatedAt : Int} :
    presentationStaleReason now updatedAt = "" ↔ ¬ now - updatedAt > freshFor := by
  unfold presentationStaleReason
  split
  · simp [*]
  · simp [*]

theorem state_buildRelayPresentation (now : Int) (status : String) (updatedAt : Int)
    (messages : List String) (execution : RoundExecution) :
    (buildRelayPresentation now status updatedAt messages execution).state =
      if strip execution.confirmationSource ∈ recoverySources ∨
          messages.any fun message => recoveryMarkers.any (contains message) then .blocked
      else if strip status ∈ ["queued", "running"] ∧ now - updatedAt > freshFor then .stale
      else rawState (strip status) (strip execution.waitingReason ∈ approvalReasons ∨
        "_approval".toList <:+ (strip execution.confirmationKind).toList) := by
  simp only [buildRelayPresentation, decide_eq_true_eq]
  split
  · simp only [reduceCtorEq, if_false, ne_eq, not_true_eq_false, false_and]
  · simp only [TaskRows.rawState_eq_running_iff]
    by_cases active : strip status ∈ ["queued", "running"]
    · simp only [active, if_true, ne_eq, presentationStaleReason_eq_empty_iff, not_not, and_true,
        true_and]
    · simp only [active, if_false, ne_eq, not_true_eq_false, false_and]

namespace TaskRows

variable (convert : Conversions) (julianday fromisoformat : String → Option Int) (now : Int)

def shown (rows : TaskRows) : RoundExecution :=
  roundExecution rows (currentRoundIdReadonly convert rows)

variable {rows : TaskRows}

theorem shown_source_of_listed (recovers : rows.listed RoundRow.confirmationSource ∈ recoverySources) :
    (rows.shown convert).confirmationSource = rows.listed RoundRow.confirmationSource := by
  unfold listed currentRound? at *
  cases latest : latestRoundId? (liveRounds rows.rounds) with
  | none =>
      rw [latest] at recovers
      simp [recoverySources] at recovers
  | some roundId =>
      simp only [shown, currentRoundIdReadonly, roundExecution, latest, Option.bind_some] at *
      cases found : rows.round? roundId with
      | none =>
          rw [found] at recovers
          simp [recoverySources] at recovers
      | some round => rfl

def Unverified (rows : TaskRows) : Prop :=
  ∃ job ∈ rows.jobs, ∃ marker ∈ recoveryMarkers,
    contains (errorMessage convert (artifactsForRound (relayArtifacts convert rows)
      (currentRoundIdReadonly convert rows)) job) marker

def Recovering (rows : TaskRows) : Prop :=
  strip (rows.shown convert).confirmationSource ∈ recoverySources ∨ rows.Unverified convert

def Overdue (rows : TaskRows) : Prop :=
  ∃ updatedAt, fromisoformat rows.run.updatedAt = some updatedAt ∧ now - updatedAt > freshFor

/-- The columns of a task that needs no recovery mean the same to SQL and to Python. -/
structure ReadAlike (rows : TaskRows) : Prop where
  trimmed : strip rows.run.status = rows.run.status ∨ strip rows.run.status ∉ knownStatuses ∨
    strip rows.run.status ∈ ["queued", "running"] ∧ rows.Overdue fromisoformat now
  dated : rows.run.status ∈ ["queued", "running"] →
    rows.run.updatedAt ≠ "" ∧ (julianday rows.run.updatedAt).isSome ∨
      rows.Overdue fromisoformat now
  asked : rows.run.status = "waiting_user" →
    ((rows.listed RoundRow.waitingReason ∈ approvalReasons ∨
        "_approval".toList <:+ (rows.listed RoundRow.confirmationKind).toList.map Char.toLower) ↔
      (strip (rows.shown convert).waitingReason ∈ approvalReasons ∨
        "_approval".toList <:+ (strip (rows.shown convert).confirmationKind).toList))

theorem not_known_of_not_trimmed {status : String} (trims : strip status ≠ status) :
    status ∉ knownStatuses :=
  fun known => trims (strip_of_mem_knownStatuses known)

theorem mem_knownStatuses_of_active {status : String} (active : status ∈ ["queued", "running"]) :
    status ∈ knownStatuses := by
  simp only [List.mem_cons, List.not_mem_nil, or_false] at active
  obtain rfl | rfl := active <;> decide

variable {julianday fromisoformat}

variable {updatedAt : Int}

theorem listed_overdue_iff
    (exact_ : ∀ text one other, julianday text = some one → fromisoformat text = some other →
      one = other)
    (read : fromisoformat rows.run.updatedAt = some updatedAt) :
    ((rows.run.updatedAt = "" ∨
        (julianday rows.run.updatedAt).all fun updatedAt => now - updatedAt > freshFor) ↔
      now - updatedAt > freshFor) ↔
    (rows.run.updatedAt ≠ "" ∧ (julianday rows.run.updatedAt).isSome ∨
      now - updatedAt > freshFor) := by
  cases day : julianday rows.run.updatedAt with
  | none => simp
  | some other =>
      obtain rfl := exact_ _ _ _ day read
      simp only [Option.all_some, decide_eq_true_eq, Option.isSome_some, and_true]
      tauto

section

variable (read : fromisoformat rows.run.updatedAt = some updatedAt)

include read

theorem overdue_iff :
    rows.Overdue fromisoformat now ↔ now - updatedAt > freshFor := by
  simp [Overdue, read]

theorem readAlike_iff_of_active (active : rows.run.status ∈ ["queued", "running"]) :
    rows.ReadAlike convert julianday fromisoformat now ↔
      rows.run.updatedAt ≠ "" ∧ (julianday rows.run.updatedAt).isSome ∨
        now - updatedAt > freshFor := by
  have trimmed := strip_of_mem_knownStatuses (mem_knownStatuses_of_active active)
  constructor
  · intro alike
    have dated := alike.dated active
    rwa [overdue_iff now read] at dated
  · intro dated
    refine ⟨.inl trimmed, fun _ => ?_, fun waiting => ?_⟩
    · rwa [overdue_iff now read]
    · rw [waiting] at active
      simp at active

theorem readAlike_iff_of_blanks (blanks : strip rows.run.status ≠ rows.run.status) :
    rows.ReadAlike convert julianday fromisoformat now ↔
      strip rows.run.status ∉ knownStatuses ∨
        strip rows.run.status ∈ ["queued", "running"] ∧ now - updatedAt > freshFor := by
  have unknown := not_known_of_not_trimmed blanks
  constructor
  · intro alike
    have trimmed := alike.trimmed.resolve_left blanks
    rwa [overdue_iff now read] at trimmed
  · intro trimmed
    refine ⟨.inr ?_, fun active => absurd (mem_knownStatuses_of_active active) unknown,
      fun waiting => ?_⟩
    · rwa [overdue_iff now read]
    · rw [waiting] at unknown
      exact absurd (by decide) unknown

end

theorem states_eq_iff_readAlike
    (exact_ : ∀ text one other, julianday text = some one → fromisoformat text = some other →
      one = other)
    (read : fromisoformat rows.run.updatedAt = some updatedAt) :
    (if strip rows.run.status ∈ ["queued", "running"] ∧ now - updatedAt > freshFor then .stale
      else rawState (strip rows.run.status)
        (strip (rows.shown convert).waitingReason ∈ approvalReasons ∨
          "_approval".toList <:+ (strip (rows.shown convert).confirmationKind).toList)) =
    (if rows.run.status ∈ ["queued", "running"] ∧
        (rows.run.updatedAt = "" ∨
          (julianday rows.run.updatedAt).all fun updatedAt => now - updatedAt > freshFor) then
        PresentationState.stale
      else rawState rows.run.status (rows.listed RoundRow.waitingReason ∈ approvalReasons ∨
        likeApproval (rows.listed RoundRow.confirmationKind))) ↔
    rows.ReadAlike convert julianday fromisoformat now := by
  by_cases trimmed : strip rows.run.status = rows.run.status
  · rw [trimmed]
    by_cases active : rows.run.status ∈ ["queued", "running"]
    · -- an active task: only the freshness can differ
      have running (approvalWait : Bool) : rawState rows.run.status approvalWait = .running :=
        rawState_eq_running_iff.mpr active
      simp only [active, true_and, running]
      rw [readAlike_iff_of_active convert now read active, ← listed_overdue_iff now exact_ read]
      split_ifs with late listedLate listedLate <;> simp_all
    · simp only [active, false_and, if_false, rawState_congr_iff]
      refine ⟨fun same => ⟨.inl trimmed, fun holds => absurd holds active, fun waiting => ?_⟩,
        fun alike waiting => ?_⟩
      · have equal := same waiting
        simp only [likeApproval, decide_eq_true_eq, decide_eq_decide] at equal
        exact equal.symm
      · have asked := alike.asked waiting
        simp only [likeApproval, decide_eq_true_eq, decide_eq_decide]
        exact asked.symm
  · -- SQL does not know a status with blanks around it
    have unknown := not_known_of_not_trimmed trimmed
    have inactive : rows.run.status ∉ ["queued", "running"] :=
      fun active => unknown (mem_knownStatuses_of_active active)
    simp only [inactive, false_and, if_false, rawState_eq_stale_iff.mpr unknown]
    rw [readAlike_iff_of_blanks convert now read trimmed]
    by_cases late : strip rows.run.status ∈ ["queued", "running"] ∧ now - updatedAt > freshFor
    · simp only [late, and_self, if_true, or_true]
    · simp only [late, if_false, or_false, rawState_eq_stale_iff]

theorem recovering_iff :
    (strip (rows.shown convert).confirmationSource ∈ recoverySources ∨
      ((rows.jobs.map (errorMessage convert (artifactsForRound (relayArtifacts convert rows)
        (currentRoundIdReadonly convert rows)))).any fun message =>
          recoveryMarkers.any (contains message))) ↔ rows.Recovering convert := by
  simp only [Recovering, Unverified, List.any_map, List.any_eq_true, Function.comp_apply]

theorem shown_state (read : fromisoformat rows.run.updatedAt = some updatedAt) :
    (summaryFromTaskRow convert fromisoformat now rows).map RelayPresentation.state =
      some (buildRelayPresentation now rows.run.status updatedAt
        (rows.jobs.map (errorMessage convert (artifactsForRound (relayArtifacts convert rows)
          (currentRoundIdReadonly convert rows)))) (rows.shown convert)).state := by
  simp only [summaryFromTaskRow, read]
  rfl

theorem shown_state_of_recovering (read : fromisoformat rows.run.updatedAt = some updatedAt)
    (recovers : rows.Recovering convert) :
    (summaryFromTaskRow convert fromisoformat now rows).map RelayPresentation.state =
      some .blocked := by
  rw [shown_state convert now read, state_buildRelayPresentation,
    if_pos ((recovering_iff convert).mpr recovers)]

theorem presentationState_eq_blocked_iff
    (listed_ : rows.listed RoundRow.confirmationSource ∉ recoverySources) :
    rows.presentationState julianday now = .blocked ↔ rows.run.status = "blocked" := by
  rw [presentationState_eq, if_neg listed_]
  split_ifs with late
  · refine iff_of_false (by simp) fun blocked => ?_
    rw [blocked] at late
    simp at late
  · exact rawState_eq_blocked_iff

/-- A task is listed, counted and paged under the state that its card shows exactly when its
rows ask both for recovery, or neither and are read alike. -/
theorem listed_as_shown_iff
    (exact_ : ∀ text one other, julianday text = some one → fromisoformat text = some other →
      one = other) (rows : TaskRows) :
    (summaryFromTaskRow convert fromisoformat now rows).map RelayPresentation.state =
        some (rows.presentationState julianday now) ↔
      (fromisoformat rows.run.updatedAt).isSome ∧
        (rows.listed RoundRow.confirmationSource ∈ recoverySources ∨
          rows.Recovering convert ∧ rows.run.status = "blocked" ∨
          ¬ rows.Recovering convert ∧ rows.ReadAlike convert julianday fromisoformat now) := by
  cases read : fromisoformat rows.run.updatedAt with
  | none => simp [summaryFromTaskRow, read]
  | some updatedAt =>
      simp only [Option.isSome_some, true_and]
      by_cases listed_ : rows.listed RoundRow.confirmationSource ∈ recoverySources
      · have recovers : rows.Recovering convert := by
          left
          rw [shown_source_of_listed convert listed_, strip_of_mem_recoverySources listed_]
          exact listed_
        rw [shown_state_of_recovering convert now read recovers, presentationState_eq,
          if_pos listed_]
        simp only [listed_, true_or]
      · by_cases recovers : rows.Recovering convert
        · rw [shown_state_of_recovering convert now read recovers, Option.some_inj, eq_comm,
            presentationState_eq_blocked_iff now listed_]
          simp only [recovers, listed_, false_or, true_and, not_true_eq_false, false_and, or_false]
        · rw [shown_state convert now read, state_buildRelayPresentation,
            if_neg (mt (recovering_iff convert).mp recovers), presentationState_eq,
            if_neg listed_, Option.some_inj, states_eq_iff_readAlike convert now exact_ read]
          simp only [recovers, listed_, false_or, false_and, not_false_eq_true, true_and]

end TaskRows

def plainConversions : Conversions := ⟨fun _ => "", fun _ => none⟩

def readNoon (text : String) : Option Int :=
  if text = "2026-07-01T12:00:00+00:00" then some 1782907200000000 else none

def plannedRows : TaskRows where
  run := ⟨"waiting_user", "2026-07-01T12:00:00+00:00"⟩
  rounds := [⟨1, "waiting_user", "plan_approval", "relay", "plan_approval"⟩]
  rounds_nodup := by simp
  jobs := [⟨"director", "waiting"⟩]
  artifacts := []

theorem listed_as_shown_planned :
    (summaryFromTaskRow plainConversions readNoon 1782907200000001 plannedRows).map
        RelayPresentation.state =
      some (plannedRows.presentationState readNoon 1782907200000001) := by
  have read : ∀ text one other, readNoon text = some one → readNoon text = some other →
      one = other := fun text one other first second => Option.some.inj (first.symm.trans second)
  refine (TaskRows.listed_as_shown_iff plainConversions 1782907200000001 read plannedRows).mpr
    ⟨by decide +kernel, .inr (.inr ⟨?_, .inl (by decide +kernel), ?_, ?_⟩)⟩
  · rintro (source | ⟨job, member, marker, marks, found⟩)
    · revert source
      decide +kernel
    · obtain rfl := List.mem_singleton.mp member
      revert marker
      decide +kernel
  · intro active
    simp [plannedRows] at active
  · intro _
    decide +kernel

def resumedRows : TaskRows where
  run := ⟨"running", "2026-07-01T12:00:00+00:00"⟩
  rounds := [⟨1, "running", "none", "", ""⟩]
  rounds_nodup := by simp
  jobs := [⟨"director", "streaming"⟩, ⟨"implementer", "blocked"⟩]
  artifacts := [⟨"role_error", "派发结果无法验证：服务在启动 Provider 时发生异常。",
    [("relay_role", .string "implementer"), ("round_id", .int 1),
      ("error", .string "派发结果无法验证：服务在启动 Provider 时发生异常。")]⟩]

theorem resumed_listed_running_shown_blocked :
    resumedRows.presentationState readNoon 1782907200000001 = .running ∧
      (summaryFromTaskRow plainConversions readNoon 1782907200000001 resumedRows).map
        RelayPresentation.state = some .blocked := by
  decide +kernel

end Wlcodex.Relay
