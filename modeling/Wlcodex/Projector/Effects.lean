import Wlcodex.Projector.Tables

namespace Wlcodex.Projector

open Wlcodex.State

/-! What one event writes into each table. -/

variable {builtins : Builtins} {lower : String → String} {log : List RuntimeEvent}

def unreadable (builtins : Builtins) (event : RuntimeEvent) (kind : RunEvent) : Bool :=
  kind = .requested && (maxRounds? builtins event.payload).isNone ||
    kind = .phaseChanged && (verifyRound? builtins event.payload).isNone

def closedTo (kind : RunEvent) (row : Option RunRow) : Bool :=
  row.any RunRow.isTerminal && !endsRun kind

def runRaises (builtins : Builtins) (tables : Tables) (event : RuntimeEvent) (kind : RunEvent) : Bool :=
  event.orchestrationRunId.isSome && !closedTo kind (tables.runOf event) &&
    unreadable builtins event kind

theorem RunRow.write_isNone (builtins : Builtins) (event : RuntimeEvent) (kind : RunEvent) (pass : Bool) (row : RunRow) :
    (row.write builtins event kind pass).isNone = unreadable builtins event kind := by
  cases kind with
  | requested | phaseChanged => simp [RunRow.write, unreadable]
  | completed => cases pass <;> rfl
  | started | failed | recoveryRequired | cancelled | cancelRequested => rfl

theorem projectRunRow_snd (event : RuntimeEvent) (kind : RunEvent) (row : Option RunRow) :
    (projectRunRow builtins log event kind row).2 =
      (!closedTo kind row && unreadable builtins event kind) := by
  unfold projectRunRow
  cases closed : closedTo kind row with
  | true =>
      unfold closedTo at closed
      rw [if_pos closed]
      rfl
  | false =>
      unfold closedTo at closed
      rw [if_neg (by simp [closed])]
      have isNone := RunRow.write_isNone builtins event kind
        (hasPassVerification log event (some (upsertOrchestrationRun builtins event row)))
        (upsertOrchestrationRun builtins event row)
      dsimp only
      split
      next written =>
        rw [written] at isNone
        rw [← isNone]
        rfl
      next raised =>
        rw [raised] at isNone
        rw [← isNone]
        rfl

theorem projectOrchestrationEvent_snd (log : List RuntimeEvent) (tables : Tables)
    (event : RuntimeEvent) (kind : RunEvent) :
    (projectOrchestrationEvent builtins log tables event kind).2 =
      runRaises builtins tables event kind := by
  unfold projectOrchestrationEvent runRaises Tables.runOf
  cases event.orchestrationRunId with
  | none => rfl
  | some id => exact projectRunRow_snd event kind (tables.orchestrationRuns id)

def agentStep (builtins : Builtins) (usage : List UsageRow) (id : Int) (row : Option AgentRow)
    (event : RuntimeEvent) : Option AgentRow :=
  if event.agentRunId = some id then
    match event.eventType with
    | .agent kind => projectAgentRow builtins event kind row
    | .modelUsageUpdated =>
        match usageOutcome builtins usage event with
        | .counted counts => row.map (.spend counts)
        | .added counts _ => row.map (.spend counts)
        | .raised => row
    | type => if type ∈ securityEvents then row.map (.flag (securityNote builtins event)) else row
  else row

def runStep (builtins : Builtins) (log : List RuntimeEvent) (id : Int) (row : Option RunRow)
    (event : RuntimeEvent) : Option RunRow :=
  if event.orchestrationRunId = some id then
    match event.eventType with
    | .run kind => (projectRunRow builtins log event kind row).1
    | .verification .decisionRecorded => row.map fun run =>
        { run with lastVerificationResult := builtins.textField event.payload "decision" "" }
    | _ => row
  else row

theorem update_row {α : Type*} (table : Int → α) (row : α → α) (id key : Int) :
    Function.update table key (row (table key)) id = if some key = some id then row (table id) else table id := by
  by_cases same : id = key
  · subst same
    simp
  · rw [Function.update_of_ne same, if_neg fun both => same (Option.some.inj both).symm]

theorem projectAgentEvent_agentRuns (tables : Tables) (event : RuntimeEvent) (kind : AgentEvent)
    (id : Int) : (projectAgentEvent builtins tables event kind).agentRuns id =
      if event.agentRunId = some id then projectAgentRow builtins event kind (tables.agentRuns id)
      else tables.agentRuns id := by
  unfold projectAgentEvent
  cases event.agentRunId with
  | none => rfl
  | some key => exact update_row _ (projectAgentRow builtins event kind) id key

theorem Tables.spend_agentRuns (event : RuntimeEvent) (counts : UsageCounts) (tables : Tables) (id : Int) :
    (tables.spend event counts).agentRuns id =
      if event.agentRunId = some id then (tables.agentRuns id).map (.spend counts)
      else tables.agentRuns id := by
  unfold Tables.spend
  cases event.agentRunId with
  | none => rfl
  | some key => exact update_row _ (Option.map (AgentRow.spend counts)) id key

theorem projectSecurityEvent_agentRuns (tables : Tables) (event : RuntimeEvent) (id : Int) :
    (projectSecurityEvent builtins tables event).agentRuns id =
      if event.agentRunId = some id then
        (tables.agentRuns id).map (.flag (securityNote builtins event))
      else tables.agentRuns id := by
  unfold projectSecurityEvent
  cases event.agentRunId with
  | none => rfl
  | some key => exact update_row _ (Option.map (AgentRow.flag (securityNote builtins event))) id key

theorem projectOrchestrationEvent_runs (tables : Tables) (event : RuntimeEvent) (kind : RunEvent)
    (id : Int) : (projectOrchestrationEvent builtins log tables event kind).1.orchestrationRuns id =
      if event.orchestrationRunId = some id then
        (projectRunRow builtins log event kind (tables.orchestrationRuns id)).1
      else tables.orchestrationRuns id := by
  unfold projectOrchestrationEvent
  cases event.orchestrationRunId with
  | none => rfl
  | some key => exact update_row _ (fun row => (projectRunRow builtins log event kind row).1) id key

/-! ### Handlers leave the other tables alone -/

theorem projectOrchestrationEvent_frame (builtins : Builtins) (log : List RuntimeEvent) (tables : Tables)
    (event : RuntimeEvent) (kind : RunEvent) :
    ∃ runs, (projectOrchestrationEvent builtins log tables event kind).1 =
      { tables with orchestrationRuns := runs } := by
  unfold projectOrchestrationEvent
  cases event.orchestrationRunId with
  | none => exact ⟨tables.orchestrationRuns, rfl⟩
  | some id => exact ⟨_, rfl⟩

theorem projectTaskStatusEvent_frame (builtins : Builtins) (log : List RuntimeEvent) (tables : Tables)
    (event : RuntimeEvent) (kind : RunEvent) :
    ∃ tasks, projectTaskStatusEvent builtins log tables event kind = { tables with tasks := tasks } := by
  unfold projectTaskStatusEvent
  cases event.taskId with
  | none => exact ⟨tables.tasks, rfl⟩
  | some id =>
      cases taskUpdate builtins event kind (hasPassVerification log event (tables.runOf event)) with
      | none => exact ⟨tables.tasks, rfl⟩
      | some update => exact ⟨_, rfl⟩

theorem projectAgentEvent_frame (builtins : Builtins) (tables : Tables) (event : RuntimeEvent) (kind : AgentEvent) :
    ∃ runs, projectAgentEvent builtins tables event kind = { tables with agentRuns := runs } := by
  unfold projectAgentEvent
  cases event.agentRunId with
  | none => exact ⟨tables.agentRuns, rfl⟩
  | some id => exact ⟨_, rfl⟩

theorem projectSecurityEvent_frame (builtins : Builtins) (tables : Tables) (event : RuntimeEvent) :
    ∃ runs, projectSecurityEvent builtins tables event = { tables with agentRuns := runs } := by
  unfold projectSecurityEvent
  cases event.agentRunId with
  | none => exact ⟨tables.agentRuns, rfl⟩
  | some id => exact ⟨_, rfl⟩

theorem Tables.spend_frame (event : RuntimeEvent) (counts : UsageCounts) (tables : Tables) :
    ∃ runs, tables.spend event counts = { tables with agentRuns := runs } := by
  unfold Tables.spend
  cases event.agentRunId with
  | none => exact ⟨tables.agentRuns, rfl⟩
  | some id => exact ⟨_, rfl⟩

theorem projectApprovalEvent_frame (builtins : Builtins) (lower : String → String) (tables : Tables)
    (event : RuntimeEvent) (kind : ApprovalEvent) :
    ∃ requests, projectApprovalEvent builtins lower tables event kind =
      { tables with approvalRequests := requests } := by
  unfold projectApprovalEvent
  cases event.taskId with
  | none => exact ⟨tables.approvalRequests, rfl⟩
  | some id => exact ⟨_, rfl⟩

theorem projectVerificationEvent_frame (builtins : Builtins) (tables : Tables) (event : RuntimeEvent)
    (kind : VerificationEvent) :
    ∃ decisions runs, projectVerificationEvent builtins tables event kind =
      { tables with orchestrationDecisions := decisions, orchestrationRuns := runs } := by
  unfold projectVerificationEvent
  split
  · exact ⟨_, _, rfl⟩
  · exact ⟨tables.orchestrationDecisions, tables.orchestrationRuns, rfl⟩

theorem apply_run {event : RuntimeEvent} {kind : RunEvent} (type : event.eventType = .run kind)
    (tables : Tables) : apply builtins lower log tables event =
      if runRaises builtins tables event kind then
        (projectOrchestrationEvent builtins log tables event kind).1
      else
        projectTaskEvent builtins (projectTaskStatusEvent builtins log
          (projectOrchestrationEvent builtins log tables event kind).1 event kind) event := by
  rw [← projectOrchestrationEvent_snd log]
  unfold apply
  rw [type]

structure Spared (before after : Tables) (type : EventType) : Prop where
  tasks : after.tasks = before.tasks
  orchestrationRuns : (∀ kind, type ≠ .verification kind) → after.orchestrationRuns = before.orchestrationRuns
  approvalRequests : (∀ kind, type ≠ .approval kind) → after.approvalRequests = before.approvalRequests

/-- What an event that is not of a run leaves alone. -/
theorem apply_spared {event : RuntimeEvent} (other : ∀ kind, event.eventType ≠ .run kind) (tables : Tables) :
    Spared tables (apply builtins lower log tables event) event.eventType := by
  unfold apply
  cases type : event.eventType with
  | run kind => exact absurd type (other kind)
  | agent kind =>
      obtain ⟨runs, framed⟩ := projectAgentEvent_frame builtins tables event kind
      dsimp only
      rw [framed]
      exact ⟨rfl, fun _ => rfl, fun _ => rfl⟩
  | modelUsageUpdated =>
      unfold projectUsageEvent
      cases outcome : usageOutcome builtins tables.usageEvents event with
      | counted counts =>
          obtain ⟨runs, framed⟩ := Tables.spend_frame event counts tables
          dsimp only
          rw [framed]
          exact ⟨rfl, fun _ => rfl, fun _ => rfl⟩
      | added counts row =>
          obtain ⟨runs, framed⟩ := Tables.spend_frame event counts
            { tables with usageEvents := tables.usageEvents ++ [row] }
          dsimp only
          rw [framed]
          exact ⟨rfl, fun _ => rfl, fun _ => rfl⟩
      | raised => exact ⟨rfl, fun _ => rfl, fun _ => rfl⟩
  | approval kind =>
      obtain ⟨requests, framed⟩ := projectApprovalEvent_frame builtins lower tables event kind
      dsimp only
      rw [framed]
      exact ⟨rfl, fun _ => rfl, fun not => absurd rfl (not kind)⟩
  | verification kind =>
      obtain ⟨decisions, runs, framed⟩ := projectVerificationEvent_frame builtins
        (projectTaskEvent builtins tables event) event kind
      dsimp only
      rw [framed]
      exact ⟨rfl, fun not => absurd rfl (not kind), fun _ => rfl⟩
  | watchdog | conversation | approvalSuperseded => exact ⟨rfl, fun _ => rfl, fun _ => rfl⟩
  | other name =>
      dsimp only
      split
      · obtain ⟨runs, framed⟩ := projectSecurityEvent_frame builtins tables event
        rw [framed]
        exact ⟨rfl, fun _ => rfl, fun _ => rfl⟩
      · exact ⟨rfl, fun _ => rfl, fun _ => rfl⟩

theorem apply_agentRuns (tables : Tables) (event : RuntimeEvent) (id : Int) :
    (apply builtins lower log tables event).agentRuns id =
      agentStep builtins tables.usageEvents id (tables.agentRuns id) event := by
  unfold agentStep
  cases type : event.eventType with
  | agent kind =>
      unfold apply
      rw [type]
      exact projectAgentEvent_agentRuns tables event kind id
  | run kind =>
      obtain ⟨runs, framed⟩ := projectOrchestrationEvent_frame builtins log tables event kind
      rw [apply_run type, framed]
      split
      · simp [securityEvents]
      · obtain ⟨tasks, done⟩ := projectTaskStatusEvent_frame builtins log
          { tables with orchestrationRuns := runs } event kind
        rw [done]
        simp [securityEvents, projectTaskEvent]
  | modelUsageUpdated =>
      unfold apply
      rw [type]
      unfold projectUsageEvent
      cases outcome : usageOutcome builtins tables.usageEvents event with
      | counted counts => exact Tables.spend_agentRuns event counts tables id
      | added counts row => exact Tables.spend_agentRuns event counts _ id
      | raised => simp
  | approval kind =>
      obtain ⟨requests, framed⟩ := projectApprovalEvent_frame builtins lower tables event kind
      unfold apply
      rw [type]
      simp [framed, projectTaskEvent, securityEvents]
  | verification kind =>
      obtain ⟨decisions, runs, framed⟩ := projectVerificationEvent_frame builtins
        (projectTaskEvent builtins tables event) event kind
      unfold apply
      rw [type]
      dsimp only
      rw [framed]
      simp [projectTaskEvent, securityEvents]
  | watchdog | conversation | approvalSuperseded =>
      unfold apply
      rw [type]
      simp [projectTaskEvent, securityEvents]
  | other name =>
      unfold apply
      rw [type]
      dsimp only
      by_cases security : EventType.other name ∈ securityEvents
      · rw [if_pos security, if_pos security]
        exact projectSecurityEvent_agentRuns tables event id
      · rw [if_neg security, if_neg security, ite_self]
        rfl

theorem apply_orchestrationRuns (tables : Tables) (event : RuntimeEvent) (id : Int) :
    (apply builtins lower log tables event).orchestrationRuns id =
      runStep builtins log id (tables.orchestrationRuns id) event := by
  unfold runStep
  cases type : event.eventType with
  | run kind =>
      rw [apply_run type]
      split
      · exact projectOrchestrationEvent_runs tables event kind id
      · obtain ⟨tasks, done⟩ := projectTaskStatusEvent_frame builtins log
          (projectOrchestrationEvent builtins log tables event kind).1 event kind
        rw [done]
        exact projectOrchestrationEvent_runs tables event kind id
  | verification kind =>
      unfold apply
      rw [type]
      cases kind with
      | decisionRecorded =>
          unfold projectVerificationEvent decisionRow?
          cases event.orchestrationRunId with
          | none => rfl
          | some key => exact update_row _ (Option.map _) id key
      | started | completed | retryRequested => exact (ite_self _).symm
  | agent | modelUsageUpdated | approval | watchdog | conversation | approvalSuperseded | other =>
      have spared := @apply_spared builtins lower log event (by simp [type]) tables
      rw [spared.orchestrationRuns (by simp [type])]
      exact (ite_self _).symm

theorem projectTaskStatusEvent_tasks (tables : Tables) (event : RuntimeEvent) (kind : RunEvent)
    (id : Int) : (projectTaskStatusEvent builtins log tables event kind).tasks id =
      if event.taskId = some id then
        ((taskUpdate builtins event kind (hasPassVerification log event (tables.runOf event))).map
          fun update => (tables.tasks id).map update.set).getD (tables.tasks id)
      else tables.tasks id := by
  unfold projectTaskStatusEvent
  cases event.taskId with
  | none => rfl
  | some key =>
      cases taskUpdate builtins event kind (hasPassVerification log event (tables.runOf event)) with
      | none => exact (ite_self _).symm
      | some update => exact update_row _ (Option.map update.set) id key

theorem apply_tasks_run {event : RuntimeEvent} {kind : RunEvent} (type : event.eventType = .run kind)
    (tables : Tables) : ∃ pass, ∀ id,
      (apply builtins lower log tables event).tasks id =
        if event.taskId = some id ∧ runRaises builtins tables event kind = false then
          ((taskUpdate builtins event kind pass).map fun update =>
            (tables.tasks id).map update.set).getD (tables.tasks id)
        else tables.tasks id := by
  obtain ⟨runs, framed⟩ := projectOrchestrationEvent_frame builtins log tables event kind
  refine ⟨hasPassVerification log event
    (({ tables with orchestrationRuns := runs } : Tables).runOf event), fun id => ?_⟩
  rw [apply_run type, framed]
  cases raises : runRaises builtins tables event kind with
  | true => rw [if_pos rfl, if_neg (by simp)]
  | false =>
      change (projectTaskStatusEvent builtins log _ event kind).tasks id = _
      rw [projectTaskStatusEvent_tasks]
      simp only [and_true]

end Wlcodex.Projector
