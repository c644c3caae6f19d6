import Wlcodex.Projector.Terminal

namespace Wlcodex.Projector

open Wlcodex.State

/-! The row of a run when a log without decisions is projected once more. -/

variable {builtins : Builtins} {log : List RuntimeEvent}

def runKind (id : Int) (event : RuntimeEvent) : Option RunEvent :=
  if event.orchestrationRunId = some id then
    match event.eventType with
    | .run kind => some kind
    | _ => none
  else none

def RunRow.written (builtins : Builtins) (event : RuntimeEvent) (kind : RunEvent) (pass : Bool)
    (row : RunRow) : RunRow := (row.write builtins event kind pass).getD row

def isDecisionOf (id : Int) (event : RuntimeEvent) : Prop :=
  event.eventType = .verification .decisionRecorded ∧ event.orchestrationRunId = some id

variable {id : Int} {event : RuntimeEvent}

theorem runStep_of_undecided (undecided : ¬isDecisionOf id event)
    (row : Option RunRow) : runStep builtins log id row event =
      (runKind id event).elim row fun kind => (projectRunRow builtins log event kind row).1 := by
  unfold runStep runKind
  split
  next named =>
    cases type : event.eventType with
    | run kind => rfl
    | verification kind =>
        cases kind with
        | decisionRecorded => exact absurd ⟨type, named⟩ undecided
        | started | completed | retryRequested => rfl
    | agent kind | modelUsageUpdated | approval kind | watchdog kind | conversation kind
    | approvalSuperseded | other name => rfl
  · rfl

variable {kind : RunEvent}

theorem projectRunRow_closed {row : Option RunRow}
    (closed : closedTo kind row = true) : (projectRunRow builtins log event kind row).1 = row := by
  unfold closedTo at closed
  unfold projectRunRow
  rw [if_pos closed]

theorem projectRunRow_open {event : RuntimeEvent} {row : Option RunRow} (opened : closedTo kind row = false) :
    let held := upsertOrchestrationRun builtins event row
    (projectRunRow builtins log event kind row).1 =
      some (held.written builtins event kind (hasPassVerification log event (some held))) := by
  unfold closedTo at opened
  unfold projectRunRow RunRow.written
  rw [if_neg (by simp [opened])]
  dsimp only
  split
  next written => rw [written]; rfl
  next raises => rw [raises]; rfl

theorem runStep_some (id : Int) (row : RunRow) (event : RuntimeEvent) :
    ∃ next, runStep builtins log id (some row) event = some next := by
  unfold runStep
  split
  · cases event.eventType with
    | run kind =>
        cases closed : closedTo kind (some row) with
        | true => exact ⟨row, projectRunRow_closed closed⟩
        | false => exact ⟨_, projectRunRow_open closed⟩
    | verification kind =>
        cases kind with
        | decisionRecorded => exact ⟨_, rfl⟩
        | started | completed | retryRequested => exact ⟨row, rfl⟩
    | agent kind | modelUsageUpdated | approval kind | watchdog kind | conversation kind
    | approvalSuperseded | other name => exact ⟨row, rfl⟩
  · exact ⟨row, rfl⟩

theorem foldl_runStep_some (events : List RuntimeEvent) (id : Int) (row : RunRow) :
    ∃ last, events.foldl (runStep builtins log id) (some row) = some last := by
  induction events generalizing row with
  | nil => exact ⟨row, rfl⟩
  | cons event rest ih =>
      obtain ⟨next, written⟩ := @runStep_some builtins log id row event
      rw [List.foldl_cons, written]
      exact ih next

structure RunRow.Between (now row final : RunRow) : Prop where
  conversationId : row.conversationId = now.conversationId ∨ row.conversationId = final.conversationId
  goal : row.goal = now.goal ∨ row.goal = final.goal
  status : row.status = now.status ∨ row.status = final.status
  currentStep : row.currentStep = now.currentStep ∨ row.currentStep = final.currentStep
  verifyRound : row.verifyRound = now.verifyRound ∨ row.verifyRound = final.verifyRound
  maxVerifyRounds :
    row.maxVerifyRounds = now.maxVerifyRounds ∨ row.maxVerifyRounds = final.maxVerifyRounds
  lastCodexAnalysis :
    row.lastCodexAnalysis = now.lastCodexAnalysis ∨ row.lastCodexAnalysis = final.lastCodexAnalysis
  lastClaudeSummary :
    row.lastClaudeSummary = now.lastClaudeSummary ∨ row.lastClaudeSummary = final.lastClaudeSummary
  lastVerificationResult : row.lastVerificationResult = now.lastVerificationResult ∨
    row.lastVerificationResult = final.lastVerificationResult

variable {final row : RunRow}

theorem RunRow.Between.eq (between : Between final row final) : row = final := by
  obtain ⟨first, second, third, fourth, fifth, sixth, seventh, eighth, ninth⟩ := between
  cases row
  simp_all

theorem orText_between {text now row final : String} (between : row = now ∨ row = final) :
    orText text row = orText text now ∨ orText text row = final := by
  unfold orText
  split
  · exact between
  · exact .inl rfl

theorem RunRow.Between.written {first second : Bool}
    {now : RunRow} (between : Between now row final) (open_ : endsRun kind = false) :
    Between (now.written builtins event kind first) (row.written builtins event kind second) final := by
  unfold RunRow.written RunRow.write
  cases kind with
  | requested =>
      cases maxRounds? builtins event.payload with
      | none => exact between
      | some rounds => exact { between with goal := .inl rfl, maxVerifyRounds := .inl rfl }
  | phaseChanged =>
      cases verifyRound? builtins event.payload with
      | none => exact between
      | some round =>
          refine { between with
            currentStep := .inl rfl
            lastCodexAnalysis := orText_between between.lastCodexAnalysis
            lastClaudeSummary := orText_between between.lastClaudeSummary
            verifyRound := ?_ }
          by_cases counted : 0 ≤ round
          · exact .inl ((if_pos counted).trans (if_pos counted).symm)
          · refine between.verifyRound.imp (fun same => ?_) fun same => ?_
            · exact (if_neg counted).trans (same.trans (if_neg counted).symm)
            · exact (if_neg counted).trans same
  | started | recoveryRequired => exact { between with status := .inl rfl, currentStep := .inl rfl }
  | cancelRequested => exact between
  | completed | failed | cancelled => cases open_

variable {events : List RuntimeEvent}

theorem foldl_runStep_terminal {row : Option RunRow} (terminal : row.any RunRow.isTerminal = true) :
    (events.foldl (runStep builtins log id) row).any RunRow.isTerminal = true := by
  induction events generalizing row with
  | nil => exact terminal
  | cons event rest ih => exact ih (runStep_terminal terminal)

theorem RunRow.written_terminal {pass : Bool} (row : RunRow)
    (ends : endsRun kind = true) : (row.written builtins event kind pass).isTerminal = true := by
  cases kind with
  | completed =>
      cases pass with
      | true | false => rfl
  | failed | cancelled => rfl
  | requested | started | phaseChanged | recoveryRequired | cancelRequested => cases ends

theorem closedTo_of_ends (ends : endsRun kind = true) (row : Option RunRow) :
    closedTo kind row = false := by
  rw [closedTo, ends, Bool.not_true, Bool.and_false]

theorem closedTo_of_open {row : Option RunRow}
    (opened : row.any RunRow.isTerminal = false) : closedTo kind row = false := by
  rw [closedTo, opened, Bool.false_and]

def Beside (final : RunRow) (now : Option RunRow) (row : RunRow) : Prop :=
  RunRow.Between (now.getD final) row final

theorem RunRow.between_final (now final : RunRow) : Between now final final :=
  ⟨.inr rfl, .inr rfl, .inr rfl, .inr rfl, .inr rfl, .inr rfl, .inr rfl, .inr rfl, .inr rfl⟩

variable {now : Option RunRow}

theorem Beside.upsert (beside : Beside final now row) (event : RuntimeEvent) :
    RunRow.Between (upsertOrchestrationRun builtins event now) row final := by
  cases now with
  | some held => exact beside
  | none =>
      rw [RunRow.Between.eq beside]
      exact RunRow.between_final _ final

theorem Beside.opened (beside : Beside final now row)
    (opened : final.isTerminal = false) (before : now.any RunRow.isTerminal = false) :
    row.isTerminal = false := by
  unfold RunRow.isTerminal at opened ⊢
  rcases RunRow.Between.status beside with same | same
  · rw [same]
    cases now with
    | none => exact opened
    | some held => exact before
  · rw [same]
    exact opened

theorem open_of_foldl (opened : final.isTerminal = false)
    (ends : events.foldl (runStep builtins log id) now = some final) :
    now.any RunRow.isTerminal = false := by
  rw [Bool.eq_false_iff]
  intro terminal
  have last : (events.foldl (runStep builtins log id) now).any RunRow.isTerminal = true :=
    foldl_runStep_terminal terminal
  rw [ends, Option.any_some, opened] at last
  cases last

theorem fixed_of_open (undecided : ∀ event ∈ events, ¬isDecisionOf id event)
    (opened : final.isTerminal = false) (ends : events.foldl (runStep builtins log id) now = some final)
    (beside : Beside final now row) :
    events.foldl (runStep builtins log id) (some row) = some final := by
  induction events generalizing now row with
  | nil =>
      cases ends
      exact congrArg some (RunRow.Between.eq beside)
  | cons event rest ih =>
      have before := open_of_foldl opened ends
      rw [List.forall_mem_cons] at undecided
      rw [List.foldl_cons] at ends ⊢
      have after := open_of_foldl opened ends
      rw [runStep_of_undecided undecided.1] at ends after ⊢
      cases named : runKind id event with
      | none =>
          rw [named] at ends
          exact ih undecided.2 ends beside
      | some kind =>
          rw [named] at ends after
          dsimp only [Option.elim_some] at ends after ⊢
          have mine := beside.opened opened before
          rw [projectRunRow_open (closedTo_of_open before)] at ends after
          rw [projectRunRow_open (closedTo_of_open (by exact mine))]
          have going : endsRun kind = false := by
            rw [Bool.eq_false_iff]
            intro ending
            rw [Option.any_some, RunRow.written_terminal _ ending] at after
            cases after
          exact ih undecided.2 ends ((beside.upsert event).written going)

/-- The second projection of an ended run: it differs from the end in its status and step only, and
in these no longer once the first one has the final verification result. -/
structure RunRow.Behind (final : RunRow) (now : Option RunRow) (row : RunRow) : Prop where
  same : row = { final with status := row.status, currentStep := row.currentStep }
  terminal : row.isTerminal = true
  early : now.any RunRow.isTerminal = false → row = final
  settled : ∀ held, now = some held → held.lastVerificationResult = final.lastVerificationResult →
    (row.status = held.status ∨ row.status = final.status) ∧
      (row.currentStep = held.currentStep ∨ row.currentStep = final.currentStep)

theorem RunRow.behind_final (terminal : final.isTerminal = true) (now : Option RunRow) :
    Behind final now final :=
  ⟨rfl, terminal, fun _ => rfl, fun _ _ _ => ⟨.inr rfl, .inr rfl⟩⟩

def withoutPass : String := "run_completed_without_verification_pass"

theorem RunRow.written_result {event : RuntimeEvent} {kind : RunEvent} {pass : Bool} (row : RunRow) :
    (row.written builtins event kind pass).lastVerificationResult = row.lastVerificationResult ∨
      (row.written builtins event kind pass).lastVerificationResult = withoutPass := by
  unfold RunRow.written RunRow.write
  cases kind with
  | requested =>
      cases maxRounds? builtins event.payload with
      | none | some => exact .inl rfl
  | phaseChanged =>
      cases verifyRound? builtins event.payload with
      | none | some => exact .inl rfl
  | completed =>
      cases pass with
      | true => exact .inl rfl
      | false => exact .inr rfl
  | started | failed | recoveryRequired | cancelled | cancelRequested => exact .inl rfl

theorem result_of_foldl {held : RunRow} (undecided : ∀ event ∈ events, ¬isDecisionOf id event)
    (ends : events.foldl (runStep builtins log id) (some held) = some final) :
    final.lastVerificationResult = held.lastVerificationResult ∨
      final.lastVerificationResult = withoutPass := by
  induction events generalizing held with
  | nil =>
      cases ends
      exact .inl rfl
  | cons event rest ih =>
      rw [List.forall_mem_cons] at undecided
      rw [List.foldl_cons, runStep_of_undecided undecided.1] at ends
      cases named : runKind id event with
      | none =>
          rw [named] at ends
          exact ih undecided.2 ends
      | some kind =>
          rw [named] at ends
          dsimp only [Option.elim_some] at ends
          cases closed : closedTo kind (some held) with
          | true =>
              rw [projectRunRow_closed closed] at ends
              exact ih undecided.2 ends
          | false =>
              rw [projectRunRow_open closed] at ends
              rcases ih undecided.2 ends with kept | failed
              · rw [kept]
                exact RunRow.written_result _
              · exact .inr failed

theorem hasPass_of_undecided
    (undecided : ∀ other ∈ log, ¬isDecisionOf id other) (named : event.orchestrationRunId = some id) (passes : hasPassVerification log event (some row) = true) :
    row.lastVerificationResult = "pass" := by
  unfold hasPassVerification at passes
  rw [if_neg (by simp [named])] at passes
  split at passes
  · cases passes
  · rw [Option.any_some, Bool.or_eq_true, decide_eq_true_eq] at passes
    rcases passes with reads | recorded
    · exact reads
    · obtain ⟨other, member, both⟩ := List.any_eq_true.mp recorded
      obtain ⟨inside, found⟩ := List.mem_filter.mp member
      have decides := of_decide_eq_true (Bool.and_eq_true_iff.mp both).1
      have same := (of_decide_eq_true found).2.1
      exact absurd ⟨decides, same.trans named⟩ (undecided other inside)

theorem hasPass_congr (event : RuntimeEvent) {first second : RunRow}
    (same : first.lastVerificationResult = second.lastVerificationResult) :
    hasPassVerification log event (some first) = hasPassVerification log event (some second) := by
  unfold hasPassVerification
  simp only [Option.any_some, same]

theorem runKind_named
    (named : runKind id event = some kind) : event.orchestrationRunId = some id := by
  unfold runKind at named
  split at named
  next same => exact same
  · cases named

theorem RunRow.completed_eq {pass : Bool} (row : RunRow) :
    row.written builtins event .completed pass = { row with
      status := if pass then .passed else .failed
      currentStep := if pass then "completed" else "failed"
      lastVerificationResult := if pass then row.lastVerificationResult else withoutPass } := by
  cases pass with
  | true | false => rfl

section Ended

variable {id : Int} {final row : RunRow} {now : Option RunRow} {event : RuntimeEvent}

theorem RunRow.Behind.result (behind : Behind final now row) :
    row.lastVerificationResult = final.lastVerificationResult := by
  rw [behind.same]

theorem RunRow.Behind.upsert (behind : Behind final now row)
    (result : (upsertOrchestrationRun builtins event now).lastVerificationResult =
      final.lastVerificationResult) :
    (row.status = (upsertOrchestrationRun builtins event now).status ∨ row.status = final.status) ∧
      (row.currentStep = (upsertOrchestrationRun builtins event now).currentStep ∨
        row.currentStep = final.currentStep) := by
  cases now with
  | none =>
      have early := behind.early rfl
      exact ⟨.inr (congrArg RunRow.status early), .inr (congrArg RunRow.currentStep early)⟩
  | some held => exact behind.settled held rfl result

theorem RunRow.Behind.completed (behind : Behind final now row)
    (undecided : ∀ other ∈ log, ¬isDecisionOf id other) (named : event.orchestrationRunId = some id)
    {held : RunRow}
    (later : final.lastVerificationResult = (held.written builtins event .completed
        (hasPassVerification log event (some held))).lastVerificationResult ∨
      final.lastVerificationResult = withoutPass) :
    Behind final
      (some (held.written builtins event .completed (hasPassVerification log event (some held))))
      (row.written builtins event .completed (hasPassVerification log event (some row))) := by
  have mine := behind.result
  by_cases result : held.lastVerificationResult = final.lastVerificationResult
  · -- both rows read the same result
    have both := @hasPass_congr log event _ _ (mine.trans result.symm)
    rw [both]
    cases passes : hasPassVerification log event (some held) with
    | true =>
        refine ⟨?_, rfl, fun opened => (by cases opened), fun _ same _ => ?_⟩
        · rw [behind.same]
          rfl
        · cases same
          exact ⟨.inl rfl, .inl rfl⟩
    | false =>
        rw [passes] at later
        have last : final.lastVerificationResult = withoutPass := later.elim (fun same => same) fun failed => failed
        refine ⟨?_, rfl, fun opened => (by cases opened), fun _ same _ => ?_⟩
        · rw [RunRow.completed_eq, behind.same, last]
          rfl
        · cases same
          exact ⟨.inl rfl, .inl rfl⟩
  · -- the completion failed in between: the second projection knows that from the start
    have last : final.lastVerificationResult = withoutPass := by
      refine later.elim (fun same => ?_) fun failed => failed
      rcases @RunRow.written_result builtins event .completed
        (hasPassVerification log event (some held)) held with kept | failed
      · exact absurd (same.trans kept).symm result
      · exact same.trans failed
    have fails : hasPassVerification log event (some row) = false := by
      rw [Bool.eq_false_iff]
      intro passes
      have reads := hasPass_of_undecided undecided named passes
      rw [mine, last] at reads
      exact absurd reads (by decide)
    rw [fails]
    refine ⟨?_, rfl, fun opened => ?_, fun next same agrees => ?_⟩
    · rw [RunRow.completed_eq, behind.same, last]
      rfl
    · rw [Option.any_some, RunRow.written_terminal held rfl] at opened
      cases opened
    · cases same
      cases passes : hasPassVerification log event (some held) with
      | true =>
          rw [passes] at agrees
          exact absurd agrees result
      | false => exact ⟨.inl rfl, .inl rfl⟩

theorem RunRow.Behind.written {kind : RunEvent} (ends : endsRun kind = true)
    (behind : Behind final now row) (undecided : ∀ other ∈ log, ¬isDecisionOf id other)
    (named : event.orchestrationRunId = some id)
    (later : let held := upsertOrchestrationRun builtins event now
      final.lastVerificationResult = (held.written builtins event kind
          (hasPassVerification log event (some held))).lastVerificationResult ∨
        final.lastVerificationResult = withoutPass) :
    let held := upsertOrchestrationRun builtins event now
    Behind final (some (held.written builtins event kind (hasPassVerification log event (some held))))
      (row.written builtins event kind (hasPassVerification log event (some row))) := by
  cases kind with
  | completed => exact behind.completed undecided named later
  | failed | cancelled =>
      refine ⟨?_, rfl, fun opened => (by cases opened), fun held same result => ?_⟩
      · conv_lhs => rw [behind.same]
        rfl
      · cases same
        exact ⟨.inl rfl, (behind.upsert result).2⟩
  | requested | started | phaseChanged | recoveryRequired | cancelRequested => cases ends

theorem fixed_of_ended {events : List RuntimeEvent} (undecided : ∀ other ∈ log, ¬isDecisionOf id other)
    (terminal : final.isTerminal = true) (within : ∀ event ∈ events, event ∈ log)
    (ends : events.foldl (runStep builtins log id) now = some final) (behind : RunRow.Behind final now row) :
    events.foldl (runStep builtins log id) (some row) = some final := by
  induction events generalizing now row with
  | nil =>
      cases ends
      obtain ⟨status, step⟩ := behind.settled final rfl rfl
      rw [or_self] at status step
      rw [List.foldl_nil, behind.same, status, step]
  | cons event rest ih =>
      rw [List.forall_mem_cons] at within
      have mine := undecided event within.1
      rw [List.foldl_cons, runStep_of_undecided mine] at ends ⊢
      cases named : runKind id event with
      | none =>
          rw [named] at ends
          exact ih within.2 ends behind
      | some kind =>
          rw [named] at ends
          dsimp only [Option.elim_some] at ends ⊢
          cases ending : endsRun kind with
          | true =>
              rw [projectRunRow_open (closedTo_of_ends ending _)] at ends ⊢
              refine ih within.2 ends (behind.written ending undecided (runKind_named named) ?_)
              exact result_of_foldl (fun other member => undecided other (within.2 other member)) ends
          | false =>
              have closed : closedTo kind (some row) = true := by
                rw [closedTo, Option.any_some, behind.terminal, ending]
                rfl
              rw [projectRunRow_closed closed]
              cases early : now.any RunRow.isTerminal with
              | false =>
                  rw [behind.early early]
                  exact ih within.2 ends (RunRow.behind_final terminal _)
              | true =>
                  rw [projectRunRow_closed (by rw [closedTo, early, ending]; rfl)] at ends
                  exact ih within.2 ends behind

end Ended

/-! ### The row of a run is the same after a second projection -/

theorem run_fixed (undecided : ∀ event ∈ log, ¬isDecisionOf id event) (row : Option RunRow) :
    let once := log.foldl (runStep builtins log id) row
    log.foldl (runStep builtins log id) once = once := by
  cases ends : log.foldl (runStep builtins log id) row with
  | none =>
      cases row with
      | none => exact ends
      | some held =>
          obtain ⟨last, kept⟩ := @foldl_runStep_some builtins log log id held
          rw [kept] at ends
          cases ends
  | some final =>
      cases terminal : final.isTerminal with
      | false => exact fixed_of_open undecided terminal ends (RunRow.between_final _ final)
      | true =>
          exact fixed_of_ended undecided terminal (fun _ member => member) ends
            (RunRow.behind_final terminal row)

end Wlcodex.Projector
