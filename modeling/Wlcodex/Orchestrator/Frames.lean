import Wlcodex.Orchestrator.Runner

namespace Wlcodex.Orchestrator

open Wlcodex.Lib Act
open Wlcodex.Bridge (Verdict)

/-! What the handlers of the progress leave alone. -/

inductive Outcome where
  | completed
  | failed
  deriving DecidableEq

def RuntimeEvent.outcome? : RuntimeEvent → Option Outcome
  | runCompleted _ => some .completed
  | runFailed _ _ _ _ => some .failed
  | _ => none

def RuntimeEvent.verdict? : RuntimeEvent → Option (Int × Verdict)
  | verificationDecisionRecorded decision _ verifyRound false => some (verifyRound, decision)
  | _ => none

def outcomes (events : List RuntimeEvent) : List Outcome := events.filterMap RuntimeEvent.outcome?

def verdicts (events : List RuntimeEvent) : List (Int × Verdict) := events.filterMap RuntimeEvent.verdict?

def RuntimeEvent.Plain (event : RuntimeEvent) : Prop := event.outcome? = none ∧ event.verdict? = none

def Desk.settled (desk : Desk) : List (Int × Verdict) × List Outcome × Bool :=
  (verdicts desk.events, outcomes desk.events, desk.locals.terminalSent)

/-- The part of it that a `complete` leaves alone. -/
def Desk.verdicts (desk : Desk) : List (Int × Verdict) := Orchestrator.verdicts desk.events

def Desk.outcome (desk : Desk) : List Outcome × Bool := (outcomes desk.events, desk.locals.terminalSent)

def Desk.fresh (desk : Desk) : Desk := { desk with claudeRunId := none, latestSessionId := "", locals := {} }

def plainLaunch : Launch where
  prompt := "add a test"
  orchestrationRunId := 1
  codexAnalysisRunId := 1
  renderer := none
  heartbeatDue _ := false
  arrivals _ := []

def emptyDesk : Desk where
  taskStatus := .running
  agentRuns := [{ id := 1, agent := "codex", role := "analysis", status := "running" }]
  nextAgentRunId := 2

section Events

variable (events : List RuntimeEvent)

theorem outcomes_append (more : List RuntimeEvent) : outcomes (events ++ more) = outcomes events ++ outcomes more :=
  List.filterMap_append

theorem verdicts_append (more : List RuntimeEvent) : verdicts (events ++ more) = verdicts events ++ verdicts more :=
  List.filterMap_append

theorem plain_events {more : List RuntimeEvent} (plain : ∀ event ∈ more, event.Plain) :
    outcomes (events ++ more) = outcomes events ∧ verdicts (events ++ more) = verdicts events := by
  have none : outcomes more = [] ∧ verdicts more = [] :=
    ⟨List.filterMap_eq_nil_iff.mpr fun event member => (plain event member).1,
      List.filterMap_eq_nil_iff.mpr fun event member => (plain event member).2⟩
  rw [outcomes_append, verdicts_append, none.1, none.2, List.append_nil, List.append_nil]
  exact ⟨rfl, rfl⟩

theorem Arrival.plain (arrival : Arrival) : arrival.event.Plain := by
  cases arrival <;> exact ⟨rfl, rfl⟩

theorem driftEvent_plain (aggregate : Nat) (agent finding : String) : (driftEvent aggregate agent finding).Plain := by
  unfold driftEvent
  split <;> exact ⟨rfl, rfl⟩

theorem Lifecycle.plain (kind : Lifecycle) (id : Nat) : (kind.event id).Plain := by
  cases kind <;> exact ⟨rfl, rfl⟩

end Events

namespace Desk

variable (desk : Desk)

theorem settled_events {more : List RuntimeEvent} (plain : ∀ event ∈ more, event.Plain) :
    ({ desk with events := desk.events ++ more } : Desk).settled = desk.settled := by
  unfold settled
  rw [(plain_events desk.events plain).1, (plain_events desk.events plain).2]

theorem settled_append {event : RuntimeEvent} (plain : event.Plain) : (desk.append event).settled = desk.settled :=
  desk.settled_events fun _ member => (List.mem_singleton.mp member) ▸ plain

@[simp] theorem settled_wait (launch : Launch) : (desk.wait launch).settled = desk.settled := by
  refine desk.settled_events fun event member => ?_
  obtain ⟨arrival, -, rfl⟩ := List.mem_map.mp member
  exact arrival.plain

@[simp] theorem settled_endAgentRun (id : Nat) (status summary : String) :
    (desk.endAgentRun id status summary).settled = desk.settled := rfl

theorem settled_assign {update : Locals → Locals} (kept : (update desk.locals).terminalSent = desk.locals.terminalSent) :
    (desk.assign update).settled = desk.settled := by
  unfold settled assign
  rw [kept]

theorem settled_noteSession (id : Nat) (sessionId : String) :
    (desk.noteSession id sessionId).settled = desk.settled := by
  unfold noteSession
  split <;> rfl

theorem settled_startClaudeRun (launch : Launch) : (desk.startClaudeRun launch).settled = desk.settled :=
  @settled_append _ (.agentRunStarted _ _ _) ⟨rfl, rfl⟩

theorem settled_ensureClaudeRun (launch : Launch) : (desk.ensureClaudeRun launch).settled = desk.settled := by
  unfold ensureClaudeRun
  split
  · rfl
  · exact desk.settled_startClaudeRun _

theorem settled_logDrift (aggregate : Nat) (agent : String) (findings : List String) :
    (desk.logDrift aggregate agent findings).settled = desk.settled := by
  refine desk.settled_events fun event member => ?_
  obtain ⟨finding, -, rfl⟩ := List.mem_map.mp member
  exact driftEvent_plain aggregate agent finding

theorem settled_endClaudeRun (launch : Launch) (status text : String) :
    (desk.endClaudeRun launch status text).1.settled = desk.settled := by
  unfold endClaudeRun
  split <;> rfl

theorem settled_failAgent (launch : Launch) (agent text : String) :
    (desk.failAgent launch agent text).settled = desk.settled := by
  unfold failAgent
  split
  · have same := desk.settled_endClaudeRun launch "failed" text
    exact same
  · split <;> rfl

theorem settled_endVerification (text : String) : (desk.endVerification text).1.settled = desk.settled := by
  unfold endVerification
  split <;> rfl

theorem settled_startVerification (launch : Launch) (verifyRound : Int) :
    (desk.startVerification launch verifyRound).settled = desk.settled := rfl

end Desk

structure Patient {μ : Type} (launch : Launch) (measure : Desk → μ) : Prop where
  wait : ∀ desk : Desk, measure (desk.wait launch) = measure desk
  awaited : ∀ desk : Desk, measure { desk with awaited := desk.awaited + 1 } = measure desk

section Calls

variable {μ : Type} {launch : Launch} {measure : Desk → μ} (patient : Patient launch measure)

include patient

theorem keeps_render (event : InteractionEvent) : (render launch event).Keeps measure := by
  unfold render
  split
  · exact keeps_pure ()
  · refine keeps_bind keeps_get fun desk => keeps_bind (keeps_modify patient.wait) fun _ => ?_
    split
    · exact keeps_raise _
    · exact keeps_pure ()

theorem keeps_usesRuntimeProgress : (usesRuntimeProgress launch).Keeps measure := by
  unfold usesRuntimeProgress
  split
  · exact keeps_pure false
  · split
    · exact keeps_pure _
    · refine keeps_bind keeps_get fun desk => keeps_bind (keeps_modify patient.awaited) fun _ => ?_
      split
      · exact keeps_raise _
      · exact keeps_pure _

theorem keeps_handlePhaseProgress (progress : Progress) : (handlePhaseProgress launch progress).Keeps measure :=
  keeps_bind (keeps_usesRuntimeProgress patient) fun _ => keeps_ite (keeps_pure ()) (keeps_render patient _)

end Calls

theorem patient_settled (launch : Launch) : Patient launch Desk.settled where
  wait desk := desk.settled_wait launch
  awaited _ := rfl

section Handlers

variable (launch : Launch)

theorem keeps_log {event : RuntimeEvent} (plain : event.Plain) : (log event).Keeps Desk.settled :=
  keeps_modify fun desk => desk.settled_append plain

theorem settled_render (event : InteractionEvent) : (render launch event).Keeps Desk.settled :=
  keeps_render (patient_settled launch) event

theorem settled_usesRuntimeProgress : (usesRuntimeProgress launch).Keeps Desk.settled :=
  keeps_usesRuntimeProgress (patient_settled launch)

theorem settled_onImplDelta (progress : Progress) : (onImplDelta launch progress).Keeps Desk.settled := by
  unfold onImplDelta
  split
  · exact keeps_pure ()
  · refine keeps_bind keeps_get fun desk => keeps_bind (keeps_modify fun desk => desk.settled_assign rfl) fun _ => ?_
    split
    · split
      · exact keeps_bind (settled_usesRuntimeProgress launch) fun shown => keeps_bind keeps_get fun desk =>
          keeps_ite (settled_render launch _) (keeps_pure ())
      · exact keeps_pure ()
    · exact keeps_bind (keeps_modify fun desk => desk.settled_assign rfl) fun _ =>
        keeps_bind (keeps_modify fun desk => desk.settled_ensureClaudeRun launch) fun _ =>
        keeps_bind (keeps_log ⟨rfl, rfl⟩) fun _ =>
        keeps_bind (settled_usesRuntimeProgress launch) fun quiet =>
        keeps_ite (settled_render launch _) (keeps_bind (settled_render launch _) fun _ => settled_render launch _)

theorem settled_onAnalysisStarted : (onAnalysisStarted launch).Keeps Desk.settled :=
  keeps_bind (keeps_log ⟨rfl, rfl⟩) fun _ => keeps_bind (keeps_log ⟨rfl, rfl⟩) fun _ => settled_render launch _

theorem settled_onAnalysisComplete (progress : Progress) : (onAnalysisComplete launch progress).Keeps Desk.settled :=
  keeps_bind (keeps_modify fun desk => desk.settled_assign rfl) fun _ =>
    keeps_bind (keeps_modify fun desk => desk.settled_endAgentRun _ _ _) fun _ => keeps_log ⟨rfl, rfl⟩

theorem settled_onImplComplete (progress : Progress) : (onImplComplete launch progress).Keeps Desk.settled :=
  keeps_bind (keeps_modify fun desk => desk.settled_assign rfl) fun _ =>
    keeps_bind (keeps_modify fun desk => desk.settled_logDrift _ _ _) fun _ =>
    keeps_bind (keeps_modify fun desk => desk.settled_endClaudeRun launch _ _) fun _ => settled_render launch _

theorem settled_onVerifyStarted {ω : Type} (progress : Progress) :
    (onVerifyStarted launch progress).Keeps fun both : Orchestra ω × Desk => both.2.settled := by
  have injects : (injectPendingContext launch).Keeps fun both : Orchestra ω × Desk => both.2.settled := by
    refine keeps_bind keeps_get fun state => keeps_ite (keeps_pure false) ?_
    exact keeps_bind (keeps_first fun desk => keeps_modify fun orchestra => rfl) fun _ => keeps_pure true
  exact keeps_bind keeps_get fun before =>
    keeps_bind (keeps_second fun _ => keeps_modify fun desk => desk.settled_startVerification launch _) fun _ =>
    keeps_bind injects fun hadPending =>
    keeps_bind (keeps_second fun _ => keeps_modify fun desk => desk.settled_assign rfl) fun _ =>
    keeps_bind (keeps_second fun _ => keeps_log ⟨rfl, rfl⟩) fun _ =>
    keeps_bind (keeps_second fun _ => keeps_log ⟨rfl, rfl⟩) fun _ =>
    keeps_bind (keeps_second fun _ => keeps_log ⟨rfl, rfl⟩) fun _ => keeps_second fun _ => settled_render launch _

theorem verdicts_of_settled {before after : Desk} (same : after.settled = before.settled) :
    after.verdicts = before.verdicts := congrArg Prod.fst same

theorem outcome_of_settled {before after : Desk} (same : after.settled = before.settled) :
    after.outcome = before.outcome := congrArg Prod.snd same

def Desk.ruled (desk : Desk) (verifyRound : Int) (decision : Verdict) : List (Int × Verdict) × List Outcome × Bool :=
  (desk.verdicts ++ [(verifyRound, decision)], desk.outcome)

theorem settled_ruling (desk : Desk) (decision : Verdict) (reason : String) (verifyRound : Int) :
    (desk.append (.verificationDecisionRecorded decision reason verifyRound false)).settled =
      desk.ruled verifyRound decision := by
  unfold Desk.settled Desk.ruled Desk.verdicts Desk.outcome Desk.append
  rw [outcomes_append, verdicts_append]
  exact congrArg (fun outcomes => (_, outcomes, desk.locals.terminalSent)) (List.append_nil _)

def closeVerification (hadPending : Bool) (decision : Verdict) (verifyRound : Int) (text : String) : Act Desk Unit := do
  if hadPending then log (.pendingContextReviewed launch.orchestrationRunId) else pure ()
  if decision = .retry then log (.verificationRetryRequested verifyRound (front 500 text)) else pure ()
  let desk ← get
  change fun desk => (desk.endVerification text).1
  log (.agentRunCompleted (desk.endVerification text).2 (front 2000 text))
  if decision = .retry then pure () else log (.verificationCompleted decision verifyRound)

theorem settled_closeVerification (hadPending : Bool) (decision : Verdict) (verifyRound : Int) (text : String) :
    (closeVerification launch hadPending decision verifyRound text).Keeps Desk.settled := by
  have ends : Keeps Desk.settled (do
      let desk ← get
      change fun desk => (desk.endVerification text).1
      log (.agentRunCompleted (desk.endVerification text).2 (front 2000 text))
      if decision = .retry then pure () else log (.verificationCompleted decision verifyRound)) :=
    keeps_bind keeps_get fun desk => keeps_bind (keeps_modify fun desk => desk.settled_endVerification text) fun _ =>
      keeps_bind (keeps_log ⟨rfl, rfl⟩) fun _ => keeps_ite (keeps_pure ()) (keeps_log ⟨rfl, rfl⟩)
  have retries := @keeps_ite _ _ _ _ _ (decision = .retry) _ _
    (keeps_bind (@keeps_log (.verificationRetryRequested verifyRound (front 500 text)) ⟨rfl, rfl⟩) fun _ => ends) ends
  exact keeps_ite (keeps_bind (keeps_log ⟨rfl, rfl⟩) fun _ => retries) retries

theorem closeVerification_returns (hadPending : Bool) (decision : Verdict) (verifyRound : Int) (text : String)
    (desk : Desk) : ((closeVerification launch hadPending decision verifyRound text).run desk).1 = .value () := by
  cases hadPending <;> cases decision <;> rfl

section Verification

variable {ω : Type} (chief : Chief ω) (progress : Progress)

def ruling : Verdict := recordedDecision chief (firstText progress.fullText progress.text)

def Desk.withRuling (desk : Desk) (verifyRound : Int) : Desk :=
  let text := firstText progress.fullText progress.text
  let noted := desk.assign fun locals =>
    { locals with verifyRound, verificationText := text, lastVerificationDecision := some (ruling chief progress) }
  (noted.logDrift (noted.locals.codexVerificationRunId.getD launch.orchestrationRunId) "codex"
    (detectVerificationDeliveryDrift text)).append
      (.verificationDecisionRecorded (ruling chief progress) (front 500 text) verifyRound false)

theorem settled_withRuling (desk : Desk) (verifyRound : Int) :
    (desk.withRuling launch chief progress verifyRound).settled = desk.ruled verifyRound (ruling chief progress) := by
  unfold Desk.withRuling
  rw [settled_ruling]
  unfold Desk.ruled
  have same := fun desk : Desk => desk.settled_logDrift (desk.locals.codexVerificationRunId.getD launch.orchestrationRunId)
    "codex" (detectVerificationDeliveryDrift (firstText progress.fullText progress.text))
  rw [verdicts_of_settled (same _), outcome_of_settled (same _)]
  rfl

theorem onVerifyComplete_run {desk : Desk} {hadPending : Bool} (known : desk.locals.hadPendingForVerify = some hadPending) :
    (onVerifyComplete chief launch progress).run desk =
      (closeVerification launch hadPending (ruling chief progress) (roundOr progress desk.locals.verifyRound)
        (firstText progress.fullText progress.text)).run
          (desk.withRuling launch chief progress (roundOr progress desk.locals.verifyRound)) := by
  unfold onVerifyComplete
  rw [run_get_bind]
  rw [known]
  rfl

theorem onVerifyComplete_unbound {desk : Desk} (unbound : desk.locals.hadPendingForVerify = none) :
    ∃ message, (onVerifyComplete chief launch progress).run desk =
      (.raised message, desk.withRuling launch chief progress (roundOr progress desk.locals.verifyRound)) := by
  unfold onVerifyComplete
  rw [run_get_bind]
  rw [unbound]
  exact ⟨_, rfl⟩

theorem onVerifyComplete_rules (desk : Desk) :
    ((onVerifyComplete chief launch progress).run desk).2.settled =
      desk.ruled (roundOr progress desk.locals.verifyRound) (ruling chief progress) := by
  cases known : desk.locals.hadPendingForVerify with
  | none =>
      obtain ⟨message, ran⟩ := onVerifyComplete_unbound launch chief progress known
      rw [ran]
      exact settled_withRuling launch chief progress desk _
  | some hadPending =>
      rw [onVerifyComplete_run launch chief progress known, settled_closeVerification launch _ _ _ _ _]
      exact settled_withRuling launch chief progress desk _

theorem onVerifyComplete_returns {desk : Desk} (started : desk.locals.hadPendingForVerify.isSome) :
    ((onVerifyComplete chief launch progress).run desk).1 = .value () := by
  obtain ⟨hadPending, known⟩ := Option.isSome_iff_exists.mp started
  rw [onVerifyComplete_run launch chief progress known]
  exact closeVerification_returns launch _ _ _ _ _

end Verification

section Ends

variable {ω : Type} (chief : Chief ω) (progress : Progress)

theorem verdicts_append_plain (desk : Desk) {event : RuntimeEvent} (plain : event.verdict? = none) :
    (desk.append event).verdicts = desk.verdicts := by
  unfold Desk.verdicts Desk.append
  rw [verdicts_append]
  unfold verdicts
  rw [List.filterMap_cons_none plain, List.filterMap_nil, List.append_nil]

theorem patient_verdicts : Patient launch Desk.verdicts where
  wait desk := verdicts_of_settled (desk.settled_wait launch)
  awaited _ := rfl

theorem verdicts_render (event : InteractionEvent) : (render launch event).Keeps Desk.verdicts :=
  keeps_render (patient_verdicts launch) event

theorem verdicts_renderText (text : String) : (renderText launch text).Keeps Desk.verdicts :=
  keeps_ite (keeps_pure ()) (verdicts_render launch _)

theorem verdicts_failRun (desk : Desk) : (desk.failRun launch progress).verdicts = desk.verdicts := by
  refine (verdicts_append_plain _ rfl).trans ((verdicts_of_settled (Desk.settled_failAgent _ launch _ _)).trans ?_)
  rfl

theorem verdicts_onFailed : (onFailed launch progress).Keeps Desk.verdicts :=
  keeps_bind (keeps_modify (verdicts_failRun launch progress)) fun _ => verdicts_render launch _

theorem verdicts_onPassed : (onPassed chief launch).Keeps Desk.verdicts := by
  have passes : Keeps Desk.verdicts (do
      change Desk.passRun
      render launch .runCompleted) :=
    keeps_bind (keeps_modify fun desk => verdicts_append_plain _ rfl) fun _ => verdicts_render launch _
  refine keeps_bind keeps_get fun desk => keeps_ite (keeps_bind (verdicts_renderText launch _) fun _ => ?_) passes
  exact keeps_bind (keeps_modify fun desk => verdicts_append_plain _ rfl) fun _ => passes

theorem verdicts_onNeedsUser : (onNeedsUser launch progress).Keeps Desk.verdicts :=
  keeps_bind (keeps_modify fun _ => rfl) fun _ => keeps_bind keeps_get fun _ =>
    keeps_bind (verdicts_renderText launch _) fun _ =>
    keeps_bind (keeps_modify fun _ => verdicts_append_plain _ rfl) fun _ => verdicts_render launch _

theorem verdicts_onComplete : (onComplete chief launch progress).Keeps Desk.verdicts := by
  refine keeps_bind (keeps_modify fun _ => rfl) fun _ => keeps_bind keeps_get fun _ => keeps_ite ?_ (keeps_ite ?_ ?_)
  · split
    · exact verdicts_onPassed launch chief
    · exact verdicts_onPassed launch chief
    · exact keeps_bind (keeps_modify fun _ => verdicts_append_plain _ rfl) fun _ => verdicts_render launch _
  · exact verdicts_onNeedsUser launch progress
  · exact keeps_bind (keeps_modify fun _ => verdicts_append_plain _ rfl) fun _ => verdicts_render launch _

theorem verdicts_onException (exc : String) : (onException launch exc).Keeps Desk.verdicts :=
  keeps_bind (keeps_modify fun _ => verdicts_append_plain _ rfl) fun _ => verdicts_render launch _

theorem events_conclude (desk : Desk) : (desk.conclude launch).events = desk.events := by
  have recorded : desk.recordDecision.events = desk.events := by
    unfold Desk.recordDecision
    dsimp only
    split <;> rfl
  exact (apply_ite Desk.events _ _ _).trans ((ite_self _).trans recorded)

end Ends

section Settling

theorem settles_render (event : InteractionEvent) : (render launch event).Settles := by
  unfold render
  split
  · exact settles_pure ()
  · refine settles_bind settles_get fun desk => settles_bind (settles_modify _) fun _ => ?_
    split
    · exact settles_raise _
    · exact settles_pure ()

theorem settles_usesRuntimeProgress : (usesRuntimeProgress launch).Settles := by
  unfold usesRuntimeProgress
  split
  · exact settles_pure false
  · split
    · exact settles_pure _
    · refine settles_bind settles_get fun desk => settles_bind (settles_modify _) fun _ => ?_
      split
      · exact settles_raise _
      · exact settles_pure _

variable (progress : Progress)

theorem settles_handlePhaseProgress : (handlePhaseProgress launch progress).Settles :=
  settles_bind (settles_usesRuntimeProgress launch) fun _ => settles_ite (settles_pure ()) (settles_render launch _)

theorem settles_onImplDelta : (onImplDelta launch progress).Settles := by
  have noticed : Settles (do
      let quiet ← usesRuntimeProgress launch
      if quiet then pure ()
      else render launch (.textDelta ("\n\n" ++ renderUserProgressText progress.phase true))
      render launch (.runtimeProgress "running_implementation" "claude" (retryCount progress))) :=
    settles_bind (settles_usesRuntimeProgress launch) fun quiet =>
      settles_ite (settles_render launch _) (settles_bind (settles_render launch _) fun _ => settles_render launch _)
  refine settles_ite (settles_pure ()) (settles_bind settles_get fun desk => settles_bind (settles_modify _) fun _ => ?_)
  split
  · exact settles_ite (settles_bind (settles_usesRuntimeProgress launch) fun shown => settles_bind settles_get fun desk =>
      settles_ite (settles_render launch _) (settles_pure ())) (settles_pure ())
  · exact settles_bind (settles_modify _) fun _ => settles_bind (settles_modify _) fun _ =>
      settles_bind (settles_modify _) fun _ => noticed

theorem settles_onVerifyStarted {ω : Type} :
    (onVerifyStarted launch progress : Act (Orchestra ω × Desk) Unit).Settles := by
  have writes : ∀ update : Desk → Desk, ((change update).second : Act (Orchestra ω × Desk) Unit).Settles :=
    fun update => settles_second (settles_modify update)
  have injects : (injectPendingContext launch : Act (Orchestra ω × Desk) Bool).Settles :=
    settles_bind settles_get fun _ => settles_ite (settles_pure false)
      (settles_bind (settles_first (settles_modify _)) fun _ => settles_pure true)
  exact settles_bind settles_get fun before => settles_bind (writes _) fun _ => settles_bind injects fun _ =>
    settles_bind (writes _) fun _ => settles_bind (writes _) fun _ => settles_bind (writes _) fun _ =>
    settles_bind (writes _) fun _ => settles_second (settles_render launch _)

variable {ω : Type} (chief : Chief ω)

theorem settles_onVerifyComplete : (onVerifyComplete chief launch progress).Settles := by
  intro desk
  cases known : desk.locals.hadPendingForVerify with
  | none =>
      obtain ⟨message, ran⟩ := onVerifyComplete_unbound launch chief progress known
      exact ⟨_, .inr ⟨message, ran⟩⟩
  | some hadPending =>
      refine ⟨_, .inl ⟨(), Prod.ext ?_ rfl⟩⟩
      exact onVerifyComplete_returns launch chief progress (Option.isSome_iff_exists.mpr ⟨hadPending, known⟩)

theorem settles_renderText (text : String) : (renderText launch text).Settles :=
  settles_ite (settles_pure ()) (settles_render launch _)

theorem settles_onPassed : (onPassed chief launch).Settles := by
  have passes : Settles (do
      change Desk.passRun
      render launch .runCompleted) := settles_bind (settles_modify _) fun _ => settles_render launch _
  exact settles_bind settles_get fun desk => settles_ite (settles_bind (settles_renderText launch _) fun _ =>
    settles_bind (settles_modify _) fun _ => passes) passes

theorem settles_onComplete : (onComplete chief launch progress).Settles := by
  have ends : ∀ (update : Desk → Desk) (event : InteractionEvent), Settles (do
      change update
      render launch event) := fun update event => settles_bind (settles_modify update) fun _ => settles_render launch event
  refine settles_bind (settles_modify _) fun _ => settles_bind settles_get fun desk => settles_ite ?_ (settles_ite ?_ ?_)
  · split
    · exact settles_onPassed launch chief
    · exact settles_onPassed launch chief
    · exact ends _ _
  · exact settles_bind (settles_modify _) fun _ => settles_bind settles_get fun desk =>
      settles_bind (settles_renderText launch _) fun _ => ends _ _
  · exact ends _ _

theorem settles_onPhase : (onPhase chief launch progress).Settles := by
  have phased : ∀ handler : Act (Orchestra ω × Desk) Unit, handler.Settles → Settles (do
      (handlePhaseProgress launch progress).second
      handler) :=
    fun handler settles => settles_bind (settles_second (settles_handlePhaseProgress launch progress)) fun _ => settles
  have writes : ∀ (update : Desk → Desk) (next : Act Desk Unit), next.Settles → Settles (do
      change update
      next) := fun update next settles => settles_bind (settles_modify update) fun _ => settles
  unfold onPhase
  split
  · exact settles_second (settles_onImplDelta launch progress)
  · exact phased _ (settles_second (writes _ _ (writes _ _ (settles_render launch _))))
  · exact phased _ (settles_second (writes _ _ (writes _ _ (settles_modify _))))
  · exact phased _ (settles_second (writes _ _ (writes _ _ (writes _ _ (settles_render launch _)))))
  · exact phased _ (settles_onVerifyStarted launch progress)
  · exact phased _ (settles_second (settles_onVerifyComplete launch progress chief))
  · exact settles_second (writes _ _ (settles_render launch _))
  · exact settles_second (settles_onComplete launch progress chief)
  · exact settles_pure ()

theorem settles_onProgress : (onProgress chief launch progress).Settles :=
  settles_bind (settles_second (settles_modify _)) fun _ => settles_bind settles_get fun _ =>
    settles_ite (settles_pure ()) (settles_onPhase launch progress chief)

end Settling

section Item

variable {ω : Type} (chief : Chief ω) (progress : Progress) {both : Orchestra ω × Desk}

theorem onProgress_open (isOpen : both.2.locals.terminalSent = false) :
    (onProgress chief launch progress).run both = (onPhase chief launch progress).run (both.1, both.2.wait launch) := by
  have notEnded : ¬(both.2.wait launch).locals.terminalSent = true := by
    change ¬both.2.locals.terminalSent = true
    rw [isOpen]
    exact Bool.false_ne_true
  exact congrArg (fun act : Act (Orchestra ω × Desk) Unit => act.run (both.1, both.2.wait launch)) (if_neg notEnded)

theorem onProgress_ended (ended : both.2.locals.terminalSent = true) :
    (onProgress chief launch progress).run both = (.value (), both.1, both.2.wait launch) :=
  congrArg (fun act : Act (Orchestra ω × Desk) Unit => act.run (both.1, both.2.wait launch)) (if_pos ended)

end Item

section Around

variable {ω : Type} (chief : Chief ω)

def finish : Except String Unit → Act (Orchestra ω × Desk) Unit
  | .error exc => do
      (onException launch exc).second
      (change fun desk => desk.conclude launch).second
  | .ok () => (change fun desk => desk.conclude launch).second

def begun (orchestra : Orchestra ω) (desk : Desk) : Orchestra ω × Desk :=
  ((injectPendingContext launch).run (orchestra, desk.fresh.append (.phaseChanged "running_analysis" 0))).2

theorem settled_begun (orchestra : Orchestra ω) (desk : Desk) :
    (begun launch orchestra desk).2.settled = desk.fresh.settled := by
  have injects : (injectPendingContext launch).Keeps fun both : Orchestra ω × Desk => both.2.settled :=
    keeps_bind keeps_get fun _ => keeps_ite (keeps_pure false)
      (keeps_bind (keeps_first fun _ => keeps_modify fun _ => rfl) fun _ => keeps_pure true)
  exact (injects _).trans (Desk.settled_append _ ⟨rfl, rfl⟩)

theorem injectPendingContext_returns (both : Orchestra ω × Desk) :
    ∃ hadPending, (injectPendingContext launch).run both = (.value hadPending, ((injectPendingContext launch).run both).2) := by
  unfold injectPendingContext
  rw [run_get_bind]
  dsimp only
  split <;> exact ⟨_, rfl⟩

end Around

end Handlers

end Wlcodex.Orchestrator
