import Wlcodex.Projector.Appends

namespace Wlcodex.Projector

open Wlcodex.Lib
open Wlcodex.State

/-! A log that is projected a second time. -/

variable {builtins : Builtins} {lower : String → String} {log : List RuntimeEvent}

def AgentRow.columns (row : AgentRow) : AgentRowStatus × Int × Int × Option String × String :=
  (row.status, row.tokenInput, row.tokenOutput, row.externalSessionId, row.completionSummary)

structure Unchanged (before after : Tables) : Prop where
  agentRuns : ∀ id, (after.agentRuns id).map AgentRow.columns = (before.agentRuns id).map AgentRow.columns
  orchestrationRuns : after.orchestrationRuns = before.orchestrationRuns
  tasks : ∀ id, (after.tasks id).map TaskRow.status = (before.tasks id).map TaskRow.status
  approvalRequests : after.approvalRequests = before.approvalRequests
  usageEvents : after.usageEvents.Perm before.usageEvents
  taskEvents : after.taskEvents.Perm before.taskEvents
  orchestrationDecisions : after.orchestrationDecisions.Perm before.orchestrationDecisions

def UsageOutcome.counts? : UsageOutcome → Option UsageCounts
  | .counted counts | .added counts _ => some counts
  | .raised => none

def spentOn (builtins : Builtins) (usage : List UsageRow) (id : Int) (event : RuntimeEvent) :
    Option UsageCounts :=
  if event.agentRunId = some id then
    match event.eventType with
    | .modelUsageUpdated => (usageOutcome builtins usage event).counts?
    | _ => none
  else none

structure Repeatable (builtins : Builtins) (log : List RuntimeEvent) (tables : Tables) : Prop where
  decisions : ∀ event ∈ log, event.eventType = .verification .decisionRecorded →
    event.orchestrationRunId = none
  usage : ∀ event ∈ log, event.eventType = .modelUsageUpdated →
    (usageOutcome builtins tables.usageEvents event).rows = []
  taskEvents : ∀ event ∈ log, (taskEventRow? builtins event).isSome = true →
    raises builtins tables event = true
  tokens : ∀ id, (tables.agentRuns id).isSome = true →
    let counts := log.filterMap (spentOn builtins tables.usageEvents id)
    (counts.map UsageCounts.input).sum = 0 ∧ (counts.map UsageCounts.output).sum = 0
  findings : ∀ id, (tables.agentRuns id).isSome = true → (∃ event ∈ log, flags id event = true) →
    ∃ event ∈ log, agentKind id event = some .completed

variable {tables : Tables} {event : RuntimeEvent}

theorem newUsage_eq_nil_iff :
    newUsage builtins tables event = [] ↔ (event.eventType = .modelUsageUpdated →
      (usageOutcome builtins tables.usageEvents event).rows = []) := by
  unfold newUsage
  cases event.eventType with
  | modelUsageUpdated => simp
  | run kind | agent kind | approval kind | watchdog kind | verification kind | conversation kind
  | approvalSuperseded | other name => simp

theorem newTaskEvents_eq_nil_iff :
    newTaskEvents builtins tables event = [] ↔
      ((taskEventRow? builtins event).isSome = true → raises builtins tables event = true) := by
  unfold newTaskEvents
  cases raises builtins tables event with
  | true => simp
  | false =>
      cases taskEventRow? builtins event with
      | none | some => simp

theorem newDecisions_eq_nil_iff :
    newDecisions builtins event = [] ↔ (event.eventType = .verification .decisionRecorded →
      event.orchestrationRunId = none) := by
  unfold newDecisions decisionRow?
  cases event.eventType with
  | verification kind =>
      cases kind with
      | decisionRecorded =>
          cases event.orchestrationRunId with
          | none | some => simp
      | started | completed | retryRequested => simp
  | run kind | agent kind | approval kind | watchdog kind | modelUsageUpdated | conversation kind
  | approvalSuperseded | other name => simp

/-- What an event appends is decided by the usage rows and by which runs have ended. -/
structure Held (before now : Tables) : Prop where
  usage : now.usageEvents = before.usageEvents
  ended : ∀ id, (now.orchestrationRuns id).any RunRow.isTerminal =
    (before.orchestrationRuns id).any RunRow.isTerminal

variable {before now : Tables}

theorem raises_held (held : Held before now) (event : RuntimeEvent) :
    raises builtins now event = raises builtins before event := by
  unfold raises
  cases event.eventType with
  | run kind =>
      unfold runRaises closedTo Tables.runOf
      cases event.orchestrationRunId with
      | none => rfl
      | some id =>
          rw [Option.bind_some, Option.bind_some, held.ended id]
  | modelUsageUpdated =>
      rw [held.usage]
  | agent kind | approval kind | watchdog kind | verification kind | conversation kind
  | approvalSuperseded | other name => rfl

def Quiet (builtins : Builtins) (tables : Tables) (event : RuntimeEvent) : Prop :=
  newUsage builtins tables event = [] ∧ newTaskEvents builtins tables event = []

theorem quiet_held (held : Held before now) (event : RuntimeEvent) :
    Quiet builtins now event ↔ Quiet builtins before event := by
  unfold Quiet
  rw [newUsage_eq_nil_iff, newUsage_eq_nil_iff, newTaskEvents_eq_nil_iff, newTaskEvents_eq_nil_iff,
    raises_held held, held.usage]

def Closed (log : List RuntimeEvent) (tables : Tables) : Prop :=
  ∀ id kind, ∀ event ∈ log, runKind id event = some kind → endsRun kind = true →
    (tables.orchestrationRuns id).any RunRow.isTerminal = true

theorem rebuild_runs (log : List RuntimeEvent) (tables : Tables) (id : Int) :
    (rebuild builtins lower log tables).orchestrationRuns id =
      log.foldl (runStep builtins log id) (tables.orchestrationRuns id) :=
  (List.foldl_hom (Tables.orchestrationRuns · id)
    fun tables event => (apply_orchestrationRuns tables event id).symm).symm

theorem rebuild_closed (log : List RuntimeEvent) (tables : Tables) :
    Closed log (rebuild builtins lower log tables) := by
  intro id kind event member named ends
  rw [rebuild_runs]
  obtain ⟨earlier, later, split⟩ := List.append_of_mem member
  have step (row : Option RunRow) :
      (runStep builtins log id row event).any RunRow.isTerminal = true := by
    have undecided : ¬isDecisionOf id event := by
      rintro ⟨type, -⟩
      unfold runKind at named
      rw [type] at named
      simp at named
    rw [runStep_of_undecided undecided, named]
    dsimp only [Option.elim_some]
    rw [projectRunRow_open (closedTo_of_ends ends row)]
    exact RunRow.written_terminal _ ends
  generalize tables.orchestrationRuns id = row
  have both : log.foldl (runStep builtins log id) row =
      later.foldl (runStep builtins log id)
        (runStep builtins log id (earlier.foldl (runStep builtins log id) row) event) := by
    conv_lhs => rw [split]
    rw [List.foldl_append, List.foldl_cons, ← split]
  rw [both]
  exact foldl_runStep_terminal (step _)

theorem RunRow.written_going {kind : RunEvent} {pass : Bool} {row : RunRow}
    (going : endsRun kind = false) (opened : row.isTerminal = false) :
    (row.written builtins event kind pass).isTerminal = false := by
  unfold RunRow.written RunRow.write
  cases kind with
  | requested =>
      cases maxRounds? builtins event.payload with
      | none | some => exact opened
  | phaseChanged =>
      cases verifyRound? builtins event.payload with
      | none | some => exact opened
  | started | recoveryRequired => rfl
  | cancelRequested => exact opened
  | completed | failed | cancelled => cases going

theorem runStep_going {id : Int} {row : Option RunRow}
    (going : ∀ kind, runKind id event = some kind → endsRun kind = false)
    (opened : row.any RunRow.isTerminal = false) :
    (runStep builtins log id row event).any RunRow.isTerminal = false := by
  unfold runKind at going
  unfold runStep
  split
  next named =>
    rw [if_pos named] at going
    cases type : event.eventType with
    | run kind =>
        rw [type] at going
        have mine : (upsertOrchestrationRun builtins event row).isTerminal = false := by
          cases row with
          | none => rfl
          | some row => exact opened
        dsimp only
        rw [projectRunRow_open (closedTo_of_open opened)]
        exact RunRow.written_going (going kind rfl) mine
    | verification kind =>
        cases kind with
        | decisionRecorded =>
            cases row with
            | none => rfl
            | some row => exact opened
        | started | completed | retryRequested => exact opened
    | agent kind | modelUsageUpdated | approval kind | watchdog kind | conversation kind
    | approvalSuperseded | other name => exact opened
  · exact opened

theorem held_step (closed : Closed log before)
    (held : Held before now) (member : event ∈ log) (quiet : newUsage builtins now event = []) :
    Held before (apply builtins lower log now event) := by
  refine ⟨?_, fun id => ?_⟩
  · rw [(apply_appends now event).usageEvents, quiet, List.append_nil]
    exact held.usage
  · rw [apply_orchestrationRuns]
    have same := held.ended id
    cases ended : (before.orchestrationRuns id).any RunRow.isTerminal with
    | true => exact runStep_terminal (same.trans ended)
    | false =>
        refine runStep_going (fun kind named => ?_) (same.trans ended)
        rw [Bool.eq_false_iff]
        intro ends
        rw [closed id kind event member named ends] at ended
        cases ended

theorem Held.refl (tables : Tables) : Held tables tables := ⟨rfl, fun _ => rfl⟩

theorem along_quiet_iff {tables : Tables} (closed : Closed log tables) :
    Along (apply builtins lower log) (Quiet builtins) tables log ↔
      ∀ event ∈ log, Quiet builtins tables event := by
  constructor
  · intro quiet
    refine @forall_of_along _ _ (apply builtins lower log) (Quiet builtins tables) tables log
      (along_of_invariant ?_ ?_ (Held.refl tables) (along_mem quiet))
    · exact fun now event held taken => held_step closed held taken.2 taken.1.1
    · exact fun now event held taken => (quiet_held held event).mp taken.1
  · intro quiet
    have every : ∀ event ∈ log, Quiet builtins tables event ∧ event ∈ log :=
      fun event member => ⟨quiet event member, member⟩
    refine along_of_invariant ?_ ?_ (Held.refl tables) (along_of_forall every)
    · exact fun now event held taken =>
        held_step closed held taken.2 ((quiet_held held event).mpr taken.1).1
    · exact fun now event held taken => (quiet_held held event).mpr taken.1

theorem appended_perm_iff {tables : Tables} (closed : Closed log tables) :
    let after := rebuild builtins lower log tables
    after.usageEvents.Perm tables.usageEvents ∧ after.taskEvents.Perm tables.taskEvents ∧
        after.orchestrationDecisions.Perm tables.orchestrationDecisions ↔
      (∀ event ∈ log, Quiet builtins tables event) ∧ ∀ event ∈ log, newDecisions builtins event = [] := by
  have usage := @column_perm_iff _ _ (apply builtins lower log) _ Tables.usageEvents
    (newUsage builtins) (fun state event => (apply_appends state event).usageEvents) tables log
  have summaries := @column_perm_iff _ _ (apply builtins lower log) _ Tables.taskEvents
    (newTaskEvents builtins) (fun state event => (apply_appends state event).taskEvents) tables log
  have decisions := @column_perm_iff _ _ (apply builtins lower log) _ Tables.orchestrationDecisions
    (fun _ => newDecisions builtins)
    (fun state event => (apply_appends state event).orchestrationDecisions) tables log
  dsimp only
  unfold rebuild
  rw [usage, summaries, decisions, ← and_assoc, ← along_and]
  exact and_congr (along_quiet_iff closed) ⟨forall_of_along, along_of_forall⟩

theorem rebuild_bare (log : List RuntimeEvent) (tables : Tables) (id : Int) :
    ((rebuild builtins lower log tables).agentRuns id).map AgentRow.bare =
      log.foldl (agentWrite builtins id) ((tables.agentRuns id).map AgentRow.bare) := by
  refine (List.foldl_hom (fun tables : Tables => (tables.agentRuns id).map AgentRow.bare)
    fun tables event => ?_).symm
  rw [apply_agentRuns]
  exact (agentStep_bare tables.usageEvents id (tables.agentRuns id) event).symm

theorem rebuild_agentRuns {events : List RuntimeEvent} (id : Int)
    (quiet : Along (apply builtins lower log) (Quiet builtins) tables events) :
    (events.foldl (apply builtins lower log) tables).agentRuns id =
      events.foldl (agentStep builtins tables.usageEvents id) (tables.agentRuns id) := by
  induction events generalizing tables with
  | nil => rfl
  | cons event rest ih =>
      have kept : (apply builtins lower log tables event).usageEvents = tables.usageEvents := by
        rw [(apply_appends tables event).usageEvents, quiet.1.1, List.append_nil]
      rw [List.foldl_cons, ih quiet.2, kept, apply_agentRuns]
      rfl

def inputOf (counts : Option UsageCounts) : Int := counts.elim 0 UsageCounts.input

def outputOf (counts : Option UsageCounts) : Int := counts.elim 0 UsageCounts.output

theorem AgentRow.noteSession_tokens (session : String) (row : AgentRow) :
    (row.noteSession session).tokenInput = row.tokenInput ∧
      (row.noteSession session).tokenOutput = row.tokenOutput := by
  unfold AgentRow.noteSession
  split
  · exact ⟨rfl, rfl⟩
  · exact ⟨rfl, rfl⟩

theorem projectAgentRow_tokens {event : RuntimeEvent} {kind : AgentEvent} (row : AgentRow) :
    ∃ next, projectAgentRow builtins event kind (some row) = some next ∧
      next.tokenInput = row.tokenInput ∧ next.tokenOutput = row.tokenOutput := by
  cases closed : row.closedTo kind with
  | true =>
      refine ⟨_, projectAgentRow_closed closed, ?_⟩
      split
      · exact AgentRow.noteSession_tokens _ row
      · exact ⟨rfl, rfl⟩
  | false =>
      refine ⟨_, projectAgentRow_write (by exact closed), ?_⟩
      cases kind with
      | completed | activity | heartbeat => exact AgentRow.noteSession_tokens _ _
      | queued | started | waitingForApproval | failed | timedOut | orphaned => exact ⟨rfl, rfl⟩

theorem agentStep_tokens (usage : List UsageRow) (id : Int) (row : AgentRow) (event : RuntimeEvent) :
    ∃ next, agentStep builtins usage id (some row) event = some next ∧
      next.tokenInput = row.tokenInput + inputOf (spentOn builtins usage id event) ∧
      next.tokenOutput = row.tokenOutput + outputOf (spentOn builtins usage id event) := by
  have same {next : AgentRow}
      (kept : next.tokenInput = row.tokenInput ∧ next.tokenOutput = row.tokenOutput) :
      next.tokenInput = row.tokenInput + inputOf none ∧
        next.tokenOutput = row.tokenOutput + outputOf none := by
    unfold inputOf outputOf
    rw [Option.elim_none, Option.elim_none, Int.add_zero, Int.add_zero]
    exact kept
  unfold agentStep spentOn
  split
  · cases event.eventType with
    | agent kind =>
        obtain ⟨next, written, kept⟩ := @projectAgentRow_tokens builtins event kind row
        exact ⟨next, written, same kept⟩
    | modelUsageUpdated =>
        cases usageOutcome builtins usage event with
        | counted | added => exact ⟨_, rfl, rfl, rfl⟩
        | raised => exact ⟨row, rfl, same ⟨rfl, rfl⟩⟩
    | run kind | approval kind | watchdog kind | verification kind | conversation kind
    | approvalSuperseded | other name =>
        dsimp only
        split
        · exact ⟨_, rfl, same ⟨rfl, rfl⟩⟩
        · exact ⟨row, rfl, same ⟨rfl, rfl⟩⟩
  · exact ⟨row, rfl, same ⟨rfl, rfl⟩⟩

theorem foldl_agentStep_tokens (usage : List UsageRow) (id : Int) (row : AgentRow)
    (events : List RuntimeEvent) :
    let counts := events.filterMap (spentOn builtins usage id)
    ∃ last, events.foldl (agentStep builtins usage id) (some row) = some last ∧
      last.tokenInput = row.tokenInput + (counts.map UsageCounts.input).sum ∧
      last.tokenOutput = row.tokenOutput + (counts.map UsageCounts.output).sum := by
  induction events generalizing row with
  | nil => exact ⟨row, rfl, (Int.add_zero _).symm, (Int.add_zero _).symm⟩
  | cons event rest ih =>
      obtain ⟨next, written, input, output⟩ := @agentStep_tokens builtins usage id row event
      obtain ⟨last, ended, inputs, outputs⟩ := ih next
      refine ⟨last, by rw [List.foldl_cons, written, ended], ?_⟩
      rw [inputs, outputs, input, output, Int.add_assoc, Int.add_assoc]
      cases spent : spentOn builtins usage id event with
      | none =>
          rw [List.filterMap_cons_none spent]
          exact ⟨congrArg (row.tokenInput + ·) (Int.zero_add _),
            congrArg (row.tokenOutput + ·) (Int.zero_add _)⟩
      | some counts =>
          rw [List.filterMap_cons_some spent]
          exact ⟨rfl, rfl⟩

theorem agent_columns_iff (id : Int)
    (quiet : Along (apply builtins lower log) (Quiet builtins) (rebuild builtins lower log before) log) :
    let tables := rebuild builtins lower log before
    let counts := log.filterMap (spentOn builtins tables.usageEvents id)
    ((rebuild builtins lower log tables).agentRuns id).map AgentRow.columns =
        (tables.agentRuns id).map AgentRow.columns ↔
      ((tables.agentRuns id).isSome = true →
        ((counts.map UsageCounts.input).sum = 0 ∧ (counts.map UsageCounts.output).sum = 0) ∧
        ((∃ event ∈ log, flags id event = true) →
          ∃ event ∈ log, agentKind id event = some .completed)) := by
  dsimp only
  have first := @rebuild_bare builtins lower log before id
  have second := @rebuild_bare builtins lower log (rebuild builtins lower log before) id
  have once := rebuild_agentRuns id quiet
  generalize rebuild builtins lower log before = tables at first second once ⊢
  change (rebuild builtins lower log tables).agentRuns id = _ at once
  cases found : tables.agentRuns id with
  | none =>
      rw [found, Option.map_none] at first second
      have nothing : log.foldl (agentWrite builtins id) none = none := by
        cases row : before.agentRuns id with
        | none =>
            rw [row] at first
            exact first.symm
        | some held =>
            obtain ⟨last, ended, -⟩ := @foldl_onward builtins id log held.bare
            rw [row, Option.map_some, ended] at first
            cases first
      rw [Option.map_eq_none_iff.mp (second.trans nothing)]
      exact ⟨fun _ => (by simp), fun _ => rfl⟩
  | some final =>
      rw [found, Option.map_some] at first second
      obtain ⟨last, ended, inputs, outputs⟩ :=
        @foldl_agentStep_tokens builtins tables.usageEvents id final log
      rw [found, ended] at once
      rw [once, Option.map_some] at second
      rw [once, Option.map_some, Option.map_some, Option.some_inj]
      constructor
      · intro same _
        obtain ⟨-, input, output, -, summary⟩ := by simpa [AgentRow.columns] using same
        refine ⟨⟨by omega, by omega⟩, fun ⟨event, member, flagged⟩ => ?_⟩
        by_contra! uncovered
        have grown := summary_grows uncovered second.symm
        have some_ : 0 < (log.filter (flags id)).length :=
          List.length_pos_of_mem (List.mem_filter.mpr ⟨member, flagged⟩)
        have long := congrArg String.length summary
        change final.completionSummary.length + _ ≤ last.completionSummary.length at grown
        omega
      · intro holds
        obtain ⟨⟨input, output⟩, covered⟩ := holds rfl
        obtain ⟨other, done, status, session, summary⟩ := agent_fixed first.symm covered
        cases done.symm.trans second.symm
        unfold AgentRow.columns
        rw [inputs, outputs, input, output, Int.add_zero, Int.add_zero]
        exact congrArg₂ Prod.mk status (by
          exact congrArg (Prod.mk _) (congrArg (Prod.mk _) (congrArg₂ Prod.mk session summary)))

theorem Quiet.unsummarised (quiet : Quiet builtins tables event)
    (going : raises builtins tables event = false) : taskEventRow? builtins event = none := by
  rw [← Option.not_isSome_iff_eq_none]
  intro summarised
  rw [newTaskEvents_eq_nil_iff.mp quiet.2 summarised] at going
  cases going

theorem apply_tasks_quiet (quiet : Quiet builtins tables event) :
    (apply builtins lower log tables event).tasks = tables.tasks := by
  by_cases run : ∃ kind, event.eventType = .run kind
  · obtain ⟨kind, type⟩ := run
    obtain ⟨pass, written⟩ := @apply_tasks_run builtins lower log event kind type tables
    funext id
    rw [written]
    split
    next both =>
      have going : raises builtins tables event = false := by
        unfold raises
        rw [type]
        exact both.2
      have silent := quiet.unsummarised going
      unfold taskEventRow? at silent
      rw [both.1, type] at silent
      unfold eventSummary at silent
      rw [type] at silent
      cases kind with
      | cancelRequested => rfl
      | requested | started | phaseChanged | completed | failed | recoveryRequired | cancelled =>
          cases silent
    · rfl
  · exact (apply_spared (fun kind type => run ⟨kind, type⟩) tables).tasks

theorem rebuild_tasks (quiet : Along (apply builtins lower log) (Quiet builtins) tables log) :
    (rebuild builtins lower log tables).tasks = tables.tasks := by
  refine @invariant_foldl _ _ (apply builtins lower log) (Quiet builtins)
    (fun state => state.tasks = tables.tasks) ?_ tables log rfl quiet
  exact fun state event same taken => (apply_tasks_quiet taken).trans same

theorem resolve_twice (row : Option ApprovalRow) :
    (row.map (ApprovalRow.resolve .expired none)).map (ApprovalRow.resolve .expired none) =
      row.map (ApprovalRow.resolve .expired none) := by
  cases row with
  | none => rfl
  | some row =>
      by_cases pending : row.status = .pending
      · simp [ApprovalRow.resolve, pending]
      · simp [ApprovalRow.resolve, pending]

theorem approvalStep_quiet {tables : Tables} {event : RuntimeEvent} (quiet : Quiet builtins tables event)
    (id : Int) (key : String) :
    (∀ row, approvalStep builtins lower id key row event = row) ∨
      ∀ row, approvalStep builtins lower id key row event =
        row.map (ApprovalRow.resolve .expired none) := by
  unfold approvalStep
  split
  next both =>
    cases type : event.eventType with
    | approval kind =>
        have going : raises builtins tables event = false := by
          unfold raises
          rw [type]
        have silent := quiet.unsummarised going
        unfold taskEventRow? at silent
        rw [both.1, type] at silent
        unfold eventSummary at silent
        rw [type] at silent
        cases kind with
        | requested | resolved => cases silent
        | expired => exact .inr fun _ => rfl
    | agent kind | run kind | modelUsageUpdated | watchdog kind | verification kind
    | conversation kind | approvalSuperseded | other name => exact .inl fun _ => rfl
  · exact .inl fun _ => rfl

theorem approvals_fixed (quiet : ∀ event ∈ log, Quiet builtins tables event)
    (id : Int) (key : String) (row : Option ApprovalRow) :
    let once := log.foldl (approvalStep builtins lower id key) row
    log.foldl (approvalStep builtins lower id key) once = once := by
  refine foldl_eq_of_forall fun event member => ?_
  rcases @approvalStep_quiet builtins lower tables event (quiet event member) id key with idle | expires
  · exact idle _
  · obtain ⟨earlier, later, split⟩ := List.append_of_mem member
    have within : ∀ other ∈ later, Quiet builtins tables other := fun other inside =>
      quiet other (by rw [split]; exact List.mem_append_right _ (.tail event inside))
    rw [expires]
    conv_lhs => rw [split]
    conv_rhs => rw [split]
    rw [List.foldl_append, List.foldl_cons, expires]
    refine @invariant_foldl _ _ (approvalStep builtins lower id key) (fun _ other => other ∈ later)
      (fun row => row.map (ApprovalRow.resolve .expired none) = row) (fun row other fixed inside => ?_)
      _ later (resolve_twice _) (along_of_forall fun other inside => inside)
    rcases @approvalStep_quiet builtins lower tables other (within other inside) id key with same | again
    · rw [same]
      exact fixed
    · rw [again]
      exact resolve_twice row

theorem rebuild_approvals (log : List RuntimeEvent) (tables : Tables) (id : Int) (key : String) :
    (rebuild builtins lower log tables).approvalRequests id key =
      log.foldl (approvalStep builtins lower id key) (tables.approvalRequests id key) :=
  (List.foldl_hom (Tables.approvalRequests · id key)
    fun tables event => (apply_approvalRequests tables event id key).symm).symm

/-- Once a log has been projected, another `rebuild` leaves the tables as they are exactly if the
log is repeatable over them. -/
theorem rebuild_unchanged_iff (builtins : Builtins) (lower : String → String) (log : List RuntimeEvent)
    (before : Tables) :
    let tables := rebuild builtins lower log before
    Unchanged tables (rebuild builtins lower log tables) ↔ Repeatable builtins log tables := by
  have closed := @rebuild_closed builtins lower log before
  have appended := @appended_perm_iff builtins lower log _ closed
  constructor
  · intro unchanged
    obtain ⟨quiet, decisions⟩ := appended.mp
      ⟨unchanged.usageEvents, unchanged.taskEvents, unchanged.orchestrationDecisions⟩
    have agents id := (agent_columns_iff id ((along_quiet_iff closed).mpr quiet)).mp
      (unchanged.agentRuns id)
    refine ⟨fun event member => newDecisions_eq_nil_iff.mp (decisions event member),
      fun event member => newUsage_eq_nil_iff.mp (quiet event member).1,
      fun event member => newTaskEvents_eq_nil_iff.mp (quiet event member).2,
      fun id found => (agents id found).1, fun id found => (agents id found).2⟩
  · intro repeatable
    have quiet : ∀ event ∈ log, Quiet builtins (rebuild builtins lower log before) event :=
      fun event member => ⟨newUsage_eq_nil_iff.mpr (repeatable.usage event member),
        newTaskEvents_eq_nil_iff.mpr (repeatable.taskEvents event member)⟩
    have along := (@along_quiet_iff builtins lower log _ closed).mpr quiet
    obtain ⟨usage, summaries, decisions⟩ := appended.mpr ⟨quiet, fun event member =>
      newDecisions_eq_nil_iff.mpr (repeatable.decisions event member)⟩
    refine ⟨fun id => ?_, funext fun id => ?_, fun id => ?_, funext fun id => funext fun key => ?_,
      usage, summaries, decisions⟩
    · exact (agent_columns_iff id along).mpr fun found =>
        ⟨repeatable.tokens id found, repeatable.findings id found⟩
    · have undecided : ∀ event ∈ log, ¬isDecisionOf id event := by
        rintro event member ⟨type, named⟩
        rw [repeatable.decisions event member type] at named
        cases named
      rw [rebuild_runs, rebuild_runs]
      exact run_fixed undecided (before.orchestrationRuns id)
    · rw [rebuild_tasks along]
    · rw [rebuild_approvals, rebuild_approvals]
      exact approvals_fixed quiet id key (before.approvalRequests id key)

def countedTwice : List RuntimeEvent :=
  [{ id := 1, eventType := .agent .started, aggregateId := "agent-1", agentRunId := some 1 },
    { id := 2, eventType := .modelUsageUpdated, aggregateId := "agent-1", agentRunId := some 1,
      payload := [("agent", .string "codex"), ("source", .string "exact"),
        ("input_tokens", .int 10), ("output_tokens", .int 5)] }]

theorem second_rebuild_counts_again :
    let tables := rebuild sampleBuiltins id countedTwice {}
    let again := rebuild sampleBuiltins id countedTwice tables
    (tables.agentRuns 1).map AgentRow.tokenInput = some 10 ∧
      (again.agentRuns 1).map AgentRow.tokenInput = some 20 ∧
      tables.usageEvents.length = 1 ∧ again.usageEvents.length = 2 ∧ ¬Unchanged tables again := by
  have once : (rebuild sampleBuiltins id countedTwice {}).usageEvents.length = 1 := by decide
  have twice : (rebuild sampleBuiltins id countedTwice
      (rebuild sampleBuiltins id countedTwice {})).usageEvents.length = 2 := by decide
  refine ⟨by decide, by decide, once, twice, fun unchanged => ?_⟩
  have same := unchanged.usageEvents.length_eq
  cases same

end Wlcodex.Projector
