import Wlcodex.Projector.Effects

namespace Wlcodex.Projector

open Wlcodex.Lib
open Wlcodex.State

/-! A row that a run or an agent has ended stays ended. -/

variable {builtins : Builtins} {lower : String → String} {log : List RuntimeEvent}

def TaskRow.isTerminal (row : TaskRow) : Bool := row.status ∈ [.done, .failed, .aborted]

structure StaysTerminal (before after : Tables) : Prop where
  agentRuns : ∀ id, (before.agentRuns id).any AgentRow.isTerminal = true →
    (after.agentRuns id).any AgentRow.isTerminal = true
  orchestrationRuns : ∀ id, (before.orchestrationRuns id).any RunRow.isTerminal = true →
    (after.orchestrationRuns id).any RunRow.isTerminal = true
  tasks : ∀ id, (before.tasks id).any TaskRow.isTerminal = true →
    (after.tasks id).any TaskRow.isTerminal = true

def Reactivates (builtins : Builtins) (tables : Tables) (event : RuntimeEvent) : Prop :=
  ∃ kind ∈ [RunEvent.started, .phaseChanged, .recoveryRequired], event.eventType = .run kind ∧
    runRaises builtins tables event kind = false ∧
    ∃ id, event.taskId = some id ∧ (tables.tasks id).any TaskRow.isTerminal = true

theorem AgentRow.noteSession_status (session : String) (row : AgentRow) :
    (row.noteSession session).status = row.status := by
  unfold AgentRow.noteSession
  split
  · rfl
  · rfl

theorem projectAgentRow_terminal {event : RuntimeEvent} {kind : AgentEvent} {row : AgentRow}
    (terminal : row.isTerminal = true) :
    (projectAgentRow builtins event kind (some row)).any AgentRow.isTerminal = true := by
  unfold projectAgentRow
  by_cases queued : kind = .queued
  · rw [if_pos queued]
    exact terminal
  · rw [if_neg queued, Option.any_some, terminal, Bool.true_and]
    cases ends : endsAgent kind with
    | false =>
        rw [if_pos (by simp)]
        split
        · rw [Option.map_some, Option.any_some, AgentRow.isTerminal, AgentRow.noteSession_status]
          exact terminal
        · exact terminal
    | true =>
        rw [if_neg (by simp), Option.any_some, AgentRow.isTerminal]
        cases kind with
        | completed =>
            dsimp only [AgentRow.write]
            rw [AgentRow.noteSession_status]
            rfl
        | failed | timedOut | orphaned => rfl
        | queued | started | activity | heartbeat | waitingForApproval => cases ends

variable {event : RuntimeEvent} {kind : RunEvent}

theorem agentStep_terminal {usage : List UsageRow} {id : Int}
    {row : Option AgentRow} (terminal : row.any AgentRow.isTerminal = true) :
    (agentStep builtins usage id row event).any AgentRow.isTerminal = true := by
  cases row with
  | none => cases terminal
  | some row =>
      unfold agentStep
      split
      · cases event.eventType with
        | agent kind => exact projectAgentRow_terminal terminal
        | modelUsageUpdated =>
            cases usageOutcome builtins usage event with
            | counted | added | raised => exact terminal
        | run kind | approval kind | watchdog kind | verification kind | conversation kind
        | approvalSuperseded | other name =>
            dsimp only
            split
            · exact terminal
            · exact terminal
      · exact terminal

theorem RunRow.write_terminal {pass : Bool} {row next : RunRow}
    (ends : endsRun kind = true) (written : row.write builtins event kind pass = some next) :
    next.isTerminal = true := by
  cases kind with
  | completed =>
      cases written
      cases pass with
      | true | false => rfl
  | failed | cancelled =>
      cases written
      rfl
  | requested | started | phaseChanged | recoveryRequired | cancelRequested => cases ends

theorem projectRunRow_terminal {row : RunRow} (terminal : row.isTerminal = true) :
    (projectRunRow builtins log event kind (some row)).1.any RunRow.isTerminal = true := by
  unfold projectRunRow
  rw [Option.any_some, terminal, Bool.true_and]
  cases ends : endsRun kind with
  | false =>
      exact terminal
  | true =>
      rw [if_neg (by simp)]
      dsimp only
      split
      next written => exact RunRow.write_terminal ends written
      · exact terminal

theorem runStep_terminal {id : Int} {row : Option RunRow} (terminal : row.any RunRow.isTerminal = true) :
    (runStep builtins log id row event).any RunRow.isTerminal = true := by
  cases row with
  | none => cases terminal
  | some row =>
      unfold runStep
      split
      · cases event.eventType with
        | run kind => exact projectRunRow_terminal terminal
        | verification kind =>
            cases kind with
            | decisionRecorded | started | completed | retryRequested => exact terminal
        | agent kind | modelUsageUpdated | approval kind | watchdog kind | conversation kind
        | approvalSuperseded | other name => exact terminal
      · exact terminal

theorem taskUpdate_active {pass : Bool} {update : TaskRow}
    (updated : taskUpdate builtins event kind pass = some update) :
    update.isTerminal = false ↔ kind ∈ [RunEvent.started, .phaseChanged, .recoveryRequired] := by
  cases kind with
  | completed =>
      cases updated
      cases pass with
      | true | false => decide
  | started | phaseChanged | failed | recoveryRequired | cancelled =>
      cases updated
      simp [TaskRow.isTerminal]
  | requested | cancelRequested => cases updated

theorem any_map_set (update : TaskRow) (row : Option TaskRow) :
    (row.map update.set).any TaskRow.isTerminal = (row.isSome && update.isTerminal) := by
  cases row with
  | none | some => rfl

theorem terminal_isSome {row : Option TaskRow} (terminal : row.any TaskRow.isTerminal = true) :
    row.isSome = true := by
  cases row with
  | none => cases terminal
  | some row => rfl

theorem tasks_stay_iff (tables : Tables) (event : RuntimeEvent) :
    (∀ id, (tables.tasks id).any TaskRow.isTerminal = true →
      ((apply builtins lower log tables event).tasks id).any TaskRow.isTerminal = true) ↔
      ¬Reactivates builtins tables event := by
  by_cases isRun : ∃ kind, event.eventType = .run kind
  · obtain ⟨kind, type⟩ := isRun
    obtain ⟨pass, written⟩ := @apply_tasks_run builtins lower log event kind type tables
    constructor
    · rintro stays ⟨late, active, lateType, raises, id, named, terminal⟩
      cases type.symm.trans lateType
      have after := stays id terminal
      rw [written id, if_pos ⟨named, raises⟩] at after
      cases updated : taskUpdate builtins event kind pass with
      | none =>
          simp only [List.mem_cons, List.not_mem_nil, or_false] at active
          rcases active with rfl | rfl | rfl
          · cases updated
          · cases updated
          · cases updated
      | some update =>
          rw [updated, Option.map_some, Option.getD_some, any_map_set] at after
          rw [(taskUpdate_active updated).mpr active] at after
          simp at after
    · intro calm id terminal
      rw [written id]
      split
      next taken =>
        cases updated : taskUpdate builtins event kind pass with
        | none => exact terminal
        | some update =>
            rw [Option.map_some, Option.getD_some, any_map_set, terminal_isSome terminal, Bool.true_and]
            by_contra active
            have late := (taskUpdate_active updated).mp (Bool.eq_false_iff.mpr active)
            exact calm ⟨kind, late, type, taken.2, id, taken.1, terminal⟩
      · exact terminal
  · have other : ∀ kind, event.eventType ≠ .run kind := fun kind type => isRun ⟨kind, type⟩
    rw [(apply_spared other _).tasks]
    refine iff_of_true (fun id terminal => terminal) ?_
    rintro ⟨kind, -, type, -⟩
    exact other kind type

theorem StaysTerminal.refl (tables : Tables) : StaysTerminal tables tables :=
  ⟨fun _ terminal => terminal, fun _ terminal => terminal, fun _ terminal => terminal⟩

theorem StaysTerminal.trans (first second third : Tables) (earlier : StaysTerminal first second)
    (later : StaysTerminal second third) : StaysTerminal first third where
  agentRuns id terminal := later.agentRuns id (earlier.agentRuns id terminal)
  orchestrationRuns id terminal := later.orchestrationRuns id (earlier.orchestrationRuns id terminal)
  tasks id terminal := later.tasks id (earlier.tasks id terminal)

theorem staysTerminal_apply_iff (tables : Tables) (event : RuntimeEvent) :
    StaysTerminal tables (apply builtins lower log tables event) ↔
      ¬Reactivates builtins tables event := by
  rw [← @tasks_stay_iff builtins lower log]
  refine ⟨fun stays => stays.tasks, fun tasks => ⟨fun id terminal => ?_, fun id terminal => ?_, tasks⟩⟩
  · rw [apply_agentRuns]
    exact agentStep_terminal terminal
  · rw [apply_orchestrationRuns]
    exact runStep_terminal terminal

/-- In every run of the projector, whatever is terminal at some point is terminal at every later
point, exactly if no step of the run reactivates an ended task. -/
theorem terminal_rows_stay_iff (builtins : Builtins) (lower : String → String)
    (log : List RuntimeEvent) (tables : Tables) (events : List RuntimeEvent) :
    (∀ earlier middle later, events = earlier ++ middle ++ later →
      StaysTerminal (earlier.foldl (apply builtins lower log) tables)
        ((earlier ++ middle).foldl (apply builtins lower log) tables)) ↔
      Along (apply builtins lower log) (fun tables event => ¬Reactivates builtins tables event)
        tables events := by
  rw [related_iff_along StaysTerminal.refl StaysTerminal.trans]
  simp only [staysTerminal_apply_iff]

def latePhase : List RuntimeEvent :=
  [{ id := 1, eventType := .run .cancelled, aggregateId := "run:7", orchestrationRunId := some 7,
     taskId := some 5 },
   { id := 2, eventType := .run .phaseChanged, aggregateId := "run:7", orchestrationRunId := some 7,
     taskId := some 5, payload := [("phase", .string "running_verification")] }]

def afterLatePhase (count : Nat) : Tables :=
  (latePhase.take count).foldl (apply sampleBuiltins id latePhase)
    { tasks := fun id => if id = 5 then some { status := .running } else none }

/-- The cancelled task runs again, while its run stays aborted. -/
theorem late_phase_reactivates_task :
    ((afterLatePhase 1).tasks 5).map TaskRow.status = some .aborted ∧
      ((afterLatePhase 2).tasks 5).map TaskRow.status = some .running ∧
      ((afterLatePhase 2).orchestrationRuns 7).map RunRow.status = some .aborted := by
  refine ⟨rfl, rfl, rfl⟩

end Wlcodex.Projector
