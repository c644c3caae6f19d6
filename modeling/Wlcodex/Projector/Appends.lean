import Wlcodex.Projector.AgentRows

namespace Wlcodex.Projector

open Wlcodex.State

/-! What one event appends to the tables without keys, and what it leaves of an approval. -/

variable {builtins : Builtins} {lower : String → String} {log : List RuntimeEvent}

def UsageOutcome.rows : UsageOutcome → List UsageRow
  | .added _ row => [row]
  | .counted _ | .raised => []

def UsageOutcome.raises : UsageOutcome → Bool
  | .raised => true
  | .counted _ | .added _ _ => false

def raises (builtins : Builtins) (tables : Tables) (event : RuntimeEvent) : Bool :=
  match event.eventType with
  | .run kind => runRaises builtins tables event kind
  | .modelUsageUpdated => (usageOutcome builtins tables.usageEvents event).raises
  | _ => false

def newUsage (builtins : Builtins) (tables : Tables) (event : RuntimeEvent) : List UsageRow :=
  match event.eventType with
  | .modelUsageUpdated => (usageOutcome builtins tables.usageEvents event).rows
  | _ => []

def newTaskEvents (builtins : Builtins) (tables : Tables) (event : RuntimeEvent) : List TaskEventRow :=
  if raises builtins tables event then [] else (taskEventRow? builtins event).toList

def newDecisions (builtins : Builtins) (event : RuntimeEvent) : List DecisionRow :=
  match event.eventType with
  | .verification .decisionRecorded => (decisionRow? builtins event).toList
  | _ => []

structure Appends (before after : Tables) (usage : List UsageRow) (taskEvents : List TaskEventRow)
    (decisions : List DecisionRow) : Prop where
  usageEvents : after.usageEvents = before.usageEvents ++ usage
  taskEvents : after.taskEvents = before.taskEvents ++ taskEvents
  orchestrationDecisions : after.orchestrationDecisions = before.orchestrationDecisions ++ decisions

theorem appends_summary {before after : Tables} (usage : after.usageEvents = before.usageEvents)
    (taskEvents : after.taskEvents = before.taskEvents)
    (decisions : after.orchestrationDecisions = before.orchestrationDecisions) (event : RuntimeEvent) :
    Appends before (projectTaskEvent builtins after event) [] (taskEventRow? builtins event).toList [] := by
  refine ⟨?_, ?_, ?_⟩
  · rw [List.append_nil]
    exact usage
  · exact congrArg (· ++ _) taskEvents
  · rw [List.append_nil]
    exact decisions

theorem apply_appends (tables : Tables) (event : RuntimeEvent) :
    Appends tables (apply builtins lower log tables event) (newUsage builtins tables event)
      (newTaskEvents builtins tables event) (newDecisions builtins event) := by
  unfold newUsage newTaskEvents newDecisions raises
  cases type : event.eventType with
  | agent kind =>
      obtain ⟨runs, framed⟩ := projectAgentEvent_frame builtins tables event kind
      unfold apply
      rw [type]
      dsimp only
      rw [framed]
      exact appends_summary (by rfl) (by rfl) (by rfl) event
  | run kind =>
      obtain ⟨runs, framed⟩ := projectOrchestrationEvent_frame builtins log tables event kind
      rw [apply_run type, framed]
      split
      · exact ⟨by simp, by simp, by simp⟩
      · obtain ⟨tasks, done⟩ := projectTaskStatusEvent_frame builtins log
          { tables with orchestrationRuns := runs } event kind
        rw [done]
        exact appends_summary (by rfl) (by rfl) (by rfl) event
  | modelUsageUpdated =>
      unfold apply
      rw [type]
      unfold projectUsageEvent
      cases outcome : usageOutcome builtins tables.usageEvents event with
      | counted counts =>
          obtain ⟨runs, framed⟩ := Tables.spend_frame event counts tables
          dsimp only
          rw [framed]
          exact appends_summary (by rfl) (by rfl) (by rfl) event
      | added counts row =>
          obtain ⟨runs, framed⟩ := Tables.spend_frame event counts
            { tables with usageEvents := tables.usageEvents ++ [row] }
          dsimp only
          rw [framed]
          exact ⟨rfl, rfl, (List.append_nil _).symm⟩
      | raised => exact ⟨by simp [UsageOutcome.rows], by simp [UsageOutcome.raises], by simp⟩
  | approval kind =>
      obtain ⟨requests, framed⟩ := projectApprovalEvent_frame builtins lower tables event kind
      unfold apply
      rw [type]
      dsimp only
      rw [framed]
      exact appends_summary (by rfl) (by rfl) (by rfl) event
  | verification kind =>
      unfold apply
      rw [type]
      unfold projectVerificationEvent
      cases kind with
      | decisionRecorded =>
          cases decisionRow? builtins event with
          | none => exact appends_summary (by rfl) (by rfl) (by rfl) event
          | some row => exact ⟨(List.append_nil _).symm, rfl, rfl⟩
      | started | completed | retryRequested => exact appends_summary (by rfl) (by rfl) (by rfl) event
  | watchdog kind | conversation kind | approvalSuperseded =>
      unfold apply
      rw [type]
      simpa [securityEvents] using appends_summary (by rfl) (by rfl) (by rfl) event
  | other name =>
      unfold apply
      rw [type]
      dsimp only
      split
      · obtain ⟨runs, framed⟩ := projectSecurityEvent_frame builtins tables event
        rw [framed]
        exact appends_summary (by rfl) (by rfl) (by rfl) event
      · exact appends_summary (by rfl) (by rfl) (by rfl) event

def approvalStep (builtins : Builtins) (lower : String → String) (id : Int) (key : String)
    (row : Option ApprovalRow) (event : RuntimeEvent) : Option ApprovalRow :=
  if event.taskId = some id ∧ approvalKey builtins event = key then
    match event.eventType with
    | .approval kind => projectApprovalRow builtins lower event kind row
    | _ => row
  else row

theorem projectApprovalEvent_requests (tables : Tables) (event : RuntimeEvent) (kind : ApprovalEvent)
    (id : Int) (key : String) :
    (projectApprovalEvent builtins lower tables event kind).approvalRequests id key =
      if event.taskId = some id ∧ approvalKey builtins event = key then
        projectApprovalRow builtins lower event kind (tables.approvalRequests id key)
      else tables.approvalRequests id key := by
  unfold projectApprovalEvent
  cases event.taskId with
  | none => rfl
  | some task =>
      dsimp only
      by_cases same : task = id
      · subst same
        rw [Function.update_self]
        by_cases named : approvalKey builtins event = key
        · subst named
          rw [Function.update_self, if_pos ⟨rfl, rfl⟩]
        · rw [Function.update_of_ne (Ne.symm named), if_neg fun both => named both.2]
      · rw [Function.update_of_ne (Ne.symm same), if_neg fun both => same (Option.some.inj both.1)]

theorem apply_approvalRequests (tables : Tables) (event : RuntimeEvent) (id : Int) (key : String) :
    (apply builtins lower log tables event).approvalRequests id key =
      approvalStep builtins lower id key (tables.approvalRequests id key) event := by
  unfold approvalStep
  cases type : event.eventType with
  | approval kind =>
      unfold apply
      rw [type]
      exact projectApprovalEvent_requests tables event kind id key
  | run kind =>
      obtain ⟨runs, framed⟩ := projectOrchestrationEvent_frame builtins log tables event kind
      rw [apply_run type, framed]
      rw [ite_self]
      split
      · rfl
      · obtain ⟨tasks, done⟩ := projectTaskStatusEvent_frame builtins log
          { tables with orchestrationRuns := runs } event kind
        rw [done]
        rfl
  | agent | modelUsageUpdated | verification | watchdog | conversation | approvalSuperseded | other =>
      have spared := @apply_spared builtins lower log event (by simp [type]) tables
      rw [spared.approvalRequests (by simp [type])]
      exact (ite_self _).symm

end Wlcodex.Projector
