import Wlcodex.State.Snapshot

namespace Wlcodex.State

open Wlcodex.Lib

/-! A run is completed only after a decision that lets it pass. -/

variable {builtins : Builtins}

structure OrchestrationState.Taken (event : RuntimeEvent) (kind : RunEvent)
    (run next : OrchestrationState) : Prop where
  key : next.aggregateId = run.aggregateId
  conversation : next.conversationId = orId event.conversationId run.conversationId
  runId : next.orchestrationRunId = orId event.orchestrationRunId run.orchestrationRunId
  result : next.lastVerificationResult = run.lastVerificationResult
  ends : kind ∈ [RunEvent.completed, .failed, .cancelled] → next.status.isTerminal = true
  completes : next.status = .completed →
    run.lastVerificationResult = "pass" ∧ kind = .completed ∨
      run.status = .completed ∧ kind ∈ [RunEvent.phaseChanged, .cancelRequested]

variable {event : RuntimeEvent} {next run : OrchestrationState}

theorem OrchestrationState.taken_of_take {kind : RunEvent} (taken : run.take builtins event kind = some next) :
    Taken event kind run next := by
  unfold OrchestrationState.take at taken
  cases kind with
  | requested =>
      obtain ⟨rounds, -, made⟩ := Option.bind_eq_some_iff.mp taken
      cases made
      exact ⟨rfl, rfl, rfl, rfl, fun ends => absurd ends (by decide), nofun⟩
  | started | recoveryRequired =>
      cases taken
      exact ⟨rfl, rfl, rfl, rfl, fun ends => absurd ends (by decide), nofun⟩
  | phaseChanged =>
      obtain ⟨round, -, made⟩ := Option.bind_eq_some_iff.mp taken
      cases made
      exact ⟨rfl, rfl, rfl, rfl, fun ends => absurd ends (by decide), fun done => .inr ⟨done, by decide⟩⟩
  | completed =>
      dsimp only at taken
      split at taken
      · cases taken
        exact ⟨rfl, rfl, rfl, rfl, fun _ => rfl, nofun⟩
      next pass =>
        cases taken
        exact ⟨rfl, rfl, rfl, rfl, fun _ => rfl, fun _ => .inl ⟨not_not.mp pass, rfl⟩⟩
  | failed | cancelled =>
      cases taken
      exact ⟨rfl, rfl, rfl, rfl, fun _ => rfl, nofun⟩
  | cancelRequested =>
      cases taken
      exact ⟨rfl, rfl, rfl, rfl, fun ends => absurd ends (by decide), fun done => .inr ⟨done, by decide⟩⟩

structure OrchestrationState.Verified (builtins : Builtins) (event : RuntimeEvent)
    (kind : VerificationEvent) (run next : OrchestrationState) : Prop where
  key : next.aggregateId = run.aggregateId
  conversation : next.conversationId = run.conversationId
  runId : next.orchestrationRunId = run.orchestrationRunId
  status : next.status = run.status
  result : next.lastVerificationResult =
    if kind = .decisionRecorded then builtins.textField event.payload "decision" ""
    else run.lastVerificationResult

theorem OrchestrationState.verified_of_verify {kind : VerificationEvent} (verified : run.verify builtins event kind = some next) :
    Verified builtins event kind run next := by
  cases kind with
  | decisionRecorded | started | completed =>
      cases verified
      exact ⟨rfl, rfl, rfl, rfl, rfl⟩
  | retryRequested =>
      obtain ⟨round, -, made⟩ := Option.bind_eq_some_iff.mp verified
      cases made
      exact ⟨rfl, rfl, rfl, rfl, rfl⟩

def decidedRun (event : RuntimeEvent) (runs : List OrchestrationState) : Option OrchestrationState :=
  if event.eventType = .verification .decisionRecorded ∧ event.orchestrationRunId ≠ none then
    runs.find? (OrchestrationState.isOpenAt event.orchestrationRunId)
  else none

theorem decidedRun_of_type (event : RuntimeEvent) (runs : List OrchestrationState)
    (other : event.eventType ≠ .verification .decisionRecorded) : decidedRun event runs = none :=
  if_neg fun both => other both.1

/-- What an event does to the runs: nothing, an entry that takes it, or an open run that is
verified. -/
inductive RunsStep (builtins : Builtins) (event : RuntimeEvent) (runs : List OrchestrationState) :
    List OrchestrationState → Prop where
  | same (undecided : decidedRun event runs = none) : RunsStep builtins event runs runs
  | taken (kind : RunEvent) (type : event.eventType = .run kind)
      (accepts : (runAt event.aggregateId runs).refuses kind = false) {next : List OrchestrationState}
      (done : upsert (fun run => run.aggregateId = event.aggregateId)
        { aggregateId := event.aggregateId } (OrchestrationState.take builtins event kind) runs =
          some next) : RunsStep builtins event runs next
  | verified (kind : VerificationEvent) (type : event.eventType = .verification kind)
      (named : event.orchestrationRunId ≠ none) {next : List OrchestrationState}
      (done : changeFirst (OrchestrationState.isOpenAt event.orchestrationRunId)
        (OrchestrationState.verify builtins event kind) runs = some next) :
      RunsStep builtins event runs next

variable {snapshot : Snapshot}

theorem runsStep_of_apply {next : Snapshot} (applied : applyEvent builtins snapshot event = some next) :
    RunsStep builtins event snapshot.orchestrations next.orchestrations := by
  have undecided := decidedRun_of_type event snapshot.orchestrations
  unfold applyEvent at applied
  cases type : event.eventType with
  | run kind =>
      rw [type] at applied
      simp only [applyOrchestrationEvent] at applied
      split at applied
      · cases applied
        exact .same (undecided (by simp [type]))
      next accepts =>
        obtain ⟨runs, done, made⟩ := Option.bind_eq_some_iff.mp applied
        cases made
        exact .taken kind type (Bool.eq_false_iff.mpr accepts) done
  | agent kind =>
      rw [type] at applied
      simp only [applyAgentEvent] at applied
      split at applied
      · cases applied
        exact .same (undecided (by simp [type]))
      · obtain ⟨agents, -, made⟩ := Option.bind_eq_some_iff.mp applied
        cases made
        exact .same (undecided (by simp [type]))
  | modelUsageUpdated =>
      rw [type] at applied
      obtain ⟨usage, -, onward⟩ := Option.bind_eq_some_iff.mp applied
      obtain ⟨totals, -, made⟩ := Option.bind_eq_some_iff.mp onward
      cases made
      exact .same (undecided (by simp [type]))
  | approval kind =>
      rw [type] at applied
      simp only [applyApprovalEvent] at applied
      split at applied
      · cases applied
        exact .same (undecided (by simp [type]))
      · obtain ⟨approvals, -, made⟩ := Option.bind_eq_some_iff.mp applied
        cases made
        exact .same (undecided (by simp [type]))
  | watchdog kind =>
      rw [type] at applied
      cases applied
      unfold applyTimeoutEvent
      split
      · exact .same (undecided (by simp [type]))
      · exact .same (undecided (by simp [type]))
  | verification kind =>
      rw [type] at applied
      obtain ⟨runs, done, made⟩ := Option.bind_eq_some_iff.mp applied
      cases made
      unfold verifiedRuns at done
      split at done
      next unnamed =>
        cases done
        exact .same (if_neg fun both => both.2 unnamed)
      next named => exact .verified kind type named done
  | conversation kind =>
      rw [type] at applied
      simp only [applyConversationEvent] at applied
      split at applied
      · cases applied
        exact .same (undecided (by simp [type]))
      · obtain ⟨conversations, -, made⟩ := Option.bind_eq_some_iff.mp applied
        cases made
        exact .same (undecided (by simp [type]))
  | approvalSuperseded | other =>
      rw [type] at applied
      cases applied
      exact .same (undecided (by simp [type]))

variable {runs : List OrchestrationState}

theorem runAt_of_mem (unique : (runs.map OrchestrationState.aggregateId).Nodup) (member : run ∈ runs) :
    runAt run.aggregateId runs = run := by
  have found : runs.find? (fun other => other.aggregateId = run.aggregateId) = some run := by
    induction runs with
    | nil => cases member
    | cons head rest ih =>
        rw [List.map_cons, List.nodup_cons] at unique
        rcases List.mem_cons.mp member with rfl | later
        · exact List.find?_cons_of_pos (by simp)
        · have other : head.aggregateId ≠ run.aggregateId := by
            intro same
            exact unique.1 (same ▸ List.mem_map_of_mem later)
          rw [List.find?_cons_of_neg (by simpa using other)]
          exact ih unique.2 later
  rw [runAt, found, Option.getD_some]

inductive RunStep (builtins : Builtins) (event : RuntimeEvent) (runs : List OrchestrationState)
    (aggregateId : String) (run : OrchestrationState) : OrchestrationState → Prop where
  | same (undecided : (decidedRun event runs).map OrchestrationState.aggregateId ≠ some aggregateId) :
      RunStep builtins event runs aggregateId run run
  | taken (kind : RunEvent) (type : event.eventType = .run kind)
      (named : event.aggregateId = aggregateId) (accepts : run.refuses kind = false)
      {next : OrchestrationState} (done : run.take builtins event kind = some next) :
      RunStep builtins event runs aggregateId run next
  | verified (kind : VerificationEvent) (type : event.eventType = .verification kind)
      (named : event.orchestrationRunId ≠ none)
      (found : runs.find? (OrchestrationState.isOpenAt event.orchestrationRunId) = some run)
      (key : run.aggregateId = aggregateId)
      {next : OrchestrationState} (done : run.verify builtins event kind = some next) :
      RunStep builtins event runs aggregateId run next

theorem runStep_of_runsStep {next : List OrchestrationState}
    (unique : (runs.map OrchestrationState.aggregateId).Nodup)
    (step : RunsStep builtins event runs next) (aggregateId : String) :
    RunStep builtins event runs aggregateId (runAt aggregateId runs) (runAt aggregateId next) := by
  cases step with
  | same undecided => exact .same (by simp [undecided])
  | taken kind type accepts done =>
      have keeps : ∀ run next, OrchestrationState.take builtins event kind run = some next →
          next.aggregateId = run.aggregateId := fun _ _ taken => (OrchestrationState.taken_of_take taken).key
      by_cases named : aggregateId = event.aggregateId
      · subst named
        obtain ⟨taken, changed, found⟩ := find?_key_upsert keeps (by rfl) done
        have result : runAt event.aggregateId next = taken := by
          rw [runAt, found, Option.getD_some]
        rw [result]
        exact .taken kind type rfl accepts changed
      · have undecided := decidedRun_of_type event runs (by simp [type])
        have kept : runAt aggregateId next = runAt aggregateId runs := by
          rw [runAt, find?_key_upsert_of_ne keeps (by rfl) named done, runAt]
        rw [kept]
        exact .same (by simp [undecided])
  | verified kind type named done =>
      have keeps : ∀ run next, OrchestrationState.verify builtins event kind run = some next →
          next.aggregateId = run.aggregateId :=
        fun _ _ verified => (OrchestrationState.verified_of_verify verified).key
      by_cases found : ∃ run, runs.find? (OrchestrationState.isOpenAt event.orchestrationRunId) = some run ∧
          run.aggregateId = aggregateId
      · obtain ⟨run, found, rfl⟩ := found
        obtain ⟨verified, changed⟩ := exists_of_changeFirst found done
        have result : runAt run.aggregateId next = verified := by
          rw [runAt, find?_key_changeFirst_of_found unique keeps found changed done, Option.getD_some]
        rw [result, runAt_of_mem unique (List.mem_of_find?_eq_some found)]
        exact .verified kind type named found rfl changed
      · have others : ∀ run, runs.find? (OrchestrationState.isOpenAt event.orchestrationRunId) = some run →
            run.aggregateId ≠ aggregateId := fun run here same => found ⟨run, here, same⟩
        have kept : runAt aggregateId next = runAt aggregateId runs := by
          rw [runAt, find?_key_changeFirst_of_other keeps others done, runAt]
        rw [kept]
        refine .same ?_
        intro decided
        obtain ⟨run, at_, same⟩ := Option.map_eq_some_iff.mp decided
        unfold decidedRun at at_
        split at at_
        · exact others run at_ same
        · cases at_

structure RunsSound (runs : List OrchestrationState) : Prop where
  unique : (runs.map OrchestrationState.aggregateId).Nodup
  passed : ∀ run ∈ runs, run.status = .completed → run.lastVerificationResult = "pass"

theorem passed_of_taken {kind : RunEvent}
    (passed : run.status = .completed → run.lastVerificationResult = "pass")
    (taken : run.take builtins event kind = some next) (done : next.status = .completed) :
    next.lastVerificationResult = "pass" := by
  have spec := OrchestrationState.taken_of_take taken
  rw [spec.result]
  rcases spec.completes done with ⟨pass, -⟩ | ⟨already, -⟩
  · exact pass
  · exact passed already

theorem RunsSound.step {next : List OrchestrationState}
    (sound : RunsSound runs) (step : RunsStep builtins event runs next) : RunsSound next := by
  cases step with
  | same undecided => exact sound
  | taken kind type accepts done =>
      refine ⟨nodup_upsert (fun _ _ taken => (OrchestrationState.taken_of_take taken).key) (by rfl)
        sound.unique done, forall_upsert ?_ sound.passed ?_ done⟩
      · intro run found passed next taken
        exact passed_of_taken passed taken
      · intro absent next taken
        exact passed_of_taken (fun done => by cases done) taken
  | verified kind type named done =>
      refine ⟨?_, forall_changeFirst ?_ sound.passed done⟩
      · rw [map_changeFirst (fun _ _ verified =>
          (OrchestrationState.verified_of_verify verified).key) done]
        exact sound.unique
      · -- a completed run is not open, so no decision is put on it
        intro run found passed next verified completed
        have opened := List.find?_some found
        rw [(OrchestrationState.verified_of_verify verified).status] at completed
        simp [OrchestrationState.isOpenAt, completed, RunStatus.isTerminal] at opened

variable {events : List RuntimeEvent}

theorem replay_sound {next : Snapshot} (sound : RunsSound snapshot.orchestrations)
    (replayed : events.foldlM (applyEvent builtins) snapshot = some next) :
    RunsSound next.orchestrations :=
  @invariant_foldlM _ _ _ _ (fun snapshot => RunsSound snapshot.orchestrations)
    (fun _ _ _ sound _ applied => sound.step (runsStep_of_apply applied)) _ _ _ sound
    (along_true snapshot events) replayed

def decisionsBeforeEnd (builtins : Builtins) (aggregateId : String) :
    Snapshot → List RuntimeEvent → List String
  | _, [] => []
  | snapshot, event :: rest =>
      if (runAt aggregateId snapshot.orchestrations).status.isTerminal then []
      else
        (if (decidedRun event snapshot.orchestrations).map OrchestrationState.aggregateId =
            some aggregateId then
          [builtins.textField event.payload "decision" ""]
        else []) ++
          decisionsBeforeEnd builtins aggregateId ((applyEvent builtins snapshot event).getD snapshot) rest

variable {aggregateId : String}

theorem RunStep.result (step : RunStep builtins event runs aggregateId run next) :
    next.lastVerificationResult =
      if (decidedRun event runs).map OrchestrationState.aggregateId = some aggregateId then
        builtins.textField event.payload "decision" ""
      else run.lastVerificationResult := by
  cases step with
  | same undecided => rw [if_neg undecided]
  | taken kind type named accepts done =>
      rw [decidedRun_of_type event runs (by simp [type]), if_neg (by simp)]
      exact (OrchestrationState.taken_of_take done).result
  | verified kind type named found key done =>
      rw [(OrchestrationState.verified_of_verify done).result]
      by_cases decision : kind = .decisionRecorded
      · have decided : decidedRun event runs = some run :=
          (if_pos ⟨decision ▸ type, named⟩).trans found
        rw [if_pos decision, if_pos (by rw [decided, Option.map_some, key])]
      · have undecided : decidedRun event runs = none :=
          decidedRun_of_type event runs (by simp [type, decision])
        rw [if_neg decision, if_neg (by simp [undecided])]

theorem RunStep.ended (step : RunStep builtins event runs aggregateId run next)
    (ended : run.status.isTerminal = true) :
    next.status.isTerminal = true ∧ next.lastVerificationResult = run.lastVerificationResult := by
  cases step with
  | same undecided => exact ⟨ended, rfl⟩
  | taken kind type named accepts done =>
      have spec := OrchestrationState.taken_of_take done
      refine ⟨spec.ends ?_, spec.result⟩
      by_contra ongoing
      simp [OrchestrationState.refuses, ended, ongoing] at accepts
  | verified kind type named found key done =>
      have opened := List.find?_some found
      simp [OrchestrationState.isOpenAt, ended] at opened

theorem result_of_ended {next : Snapshot} (sound : RunsSound snapshot.orchestrations)
    (ended : (runAt aggregateId snapshot.orchestrations).status.isTerminal = true)
    (replayed : events.foldlM (applyEvent builtins) snapshot = some next) :
    (runAt aggregateId next.orchestrations).lastVerificationResult =
      (runAt aggregateId snapshot.orchestrations).lastVerificationResult := by
  induction events generalizing snapshot with
  | nil =>
      cases replayed
      rfl
  | cons event rest ih =>
      obtain ⟨middle, applied, onward⟩ := Option.bind_eq_some_iff.mp replayed
      have step := runsStep_of_apply applied
      have kept := (runStep_of_runsStep sound.unique step aggregateId).ended ended
      rw [ih (sound.step step) kept.1 onward, kept.2]

theorem result_eq_getLast {next : Snapshot} (sound : RunsSound snapshot.orchestrations)
    (replayed : events.foldlM (applyEvent builtins) snapshot = some next) :
    (runAt aggregateId next.orchestrations).lastVerificationResult =
      (decisionsBeforeEnd builtins aggregateId snapshot events).getLastD
        (runAt aggregateId snapshot.orchestrations).lastVerificationResult := by
  induction events generalizing snapshot with
  | nil =>
      cases replayed
      rfl
  | cons event rest ih =>
      unfold decisionsBeforeEnd
      split
      next ended => exact result_of_ended sound ended replayed
      · rw [List.foldlM_cons] at replayed
        obtain ⟨middle, applied, onward⟩ := Option.bind_eq_some_iff.mp replayed
        have step := runsStep_of_apply applied
        have result := (runStep_of_runsStep sound.unique step aggregateId).result
        rw [ih (sound.step step) onward, applied, Option.getD_some, result]
        split
        · rw [List.singleton_append, List.getLastD_cons]
        · rw [List.nil_append]

end Wlcodex.State
