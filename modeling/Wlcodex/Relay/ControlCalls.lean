import Wlcodex.Relay.OutputCalls

namespace Wlcodex.Relay

open Wlcodex.Lib

/-! The calls of round controls, user messages and completed provider turns. -/

namespace TaskState

variable {mode : ExecutionMode} {speaks : Nat → Role → Prop} {roundId : Nat} {state : TaskState}

theorem waitingRole_scan {roles : List Role} {found : Option Role}
    (scanned : waitingRoleForRound.scan state roundId roles = some found) :
    (∀ role ∈ found, ∃ row, state.attempts.latest? roundId role = some row) ∧
      (found = none → ∀ role ∈ roles, ∃ row, state.attempts.latest? roundId role = some row) := by
  induction roles with
  | nil =>
      simp only [waitingRoleForRound.scan, Option.some.injEq] at scanned
      subst scanned
      simp
  | cons head rest ih =>
      unfold waitingRoleForRound.scan at scanned
      cases latest : state.attempts.latest? roundId head with
      | none => simp [latest] at scanned
      | some row =>
          simp only [latest] at scanned
          split at scanned
          · cases scanned
            simp [latest]
          · obtain ⟨named, exhausted⟩ := ih scanned
            refine ⟨named, fun none_ role member => ?_⟩
            rcases List.mem_cons.mp member with rfl | inRest
            · exact ⟨row, latest⟩
            · exact exhausted none_ role inRest

theorem Current.voiced_of_waiting {role : Role} (current : Current mode speaks roundId state)
    (directed : speaks roundId .director)
    (waiting : state.waitingRoleForRound roundId = some role) : speaks roundId role := by
  unfold waitingRoleForRound at waiting
  cases scanned : waitingRoleForRound.scan state roundId relayRoleIds with
  | none => simp [scanned] at waiting
  | some found =>
      obtain ⟨named, exhausted⟩ := waitingRole_scan scanned
      cases found with
      | some first =>
          simp only [scanned, Option.some.injEq] at waiting
          subst waiting
          obtain ⟨row, latest⟩ := named first rfl
          exact current.voiced_of_latest? latest
      | none =>
          simp only [scanned, Option.some.injEq] at waiting
          cases waitingJob : state.jobs.find? fun job =>
            job.role ∈ relayRoleIds ∧ job.status = .waiting with
          | none =>
              rw [waitingJob] at waiting
              subst waiting
              exact directed
          | some job =>
              rw [waitingJob] at waiting
              subst waiting
              have selected := List.find?_some waitingJob
              simp only [decide_eq_true_eq] at selected
              obtain ⟨row, latest⟩ := exhausted rfl job.role selected.1
              exact current.voiced_of_latest? latest

end TaskState

namespace Service

open Script TaskState

variable {mode : ExecutionMode} {speaks : Nat → Role → Prop} {completes : TaskState → Prop}
  {roundId : Nat} {state : TaskState}

/-- An `approve_plan` control that is applied: to the current round, which waits
for no provider, on a plan of that round. -/
def ApprovesPlan (detail : TaskState) (control : RoundControl) : Prop :=
  control.decision = .approvePlan ∧ control.roundId = detail.detailRoundId ∧
    (detail.roundExecution control.roundId).confirmation.source ∉
      [.providerNativeApproval, .providerNativeResolving, .providerNativeSuperseding] ∧
    ∃ plan ∈ planArtifact? detail control.artifactId, plan.1 = control.roundId

instance (detail : TaskState) (control : RoundControl) :
    Decidable (ApprovesPlan detail control) :=
  inferInstanceAs (Decidable (_ ∧ _ ∧ _ ∧ ∃ plan ∈ planArtifact? detail control.artifactId, _))

variable {control : RoundControl}

theorem within_resolveApproval (sameRound : control.roundId = roundId)
    (role : Role) (requestId : String) (eventId : Int) (answer : ResolveAnswer) :
    Within mode speaks roundId Unfinished
      (resolveApproval control role requestId eventId answer) fun _ => True := by
  refine keeps_get.bind fun _ _ => ?_
  refine Keeps.bind (within_perform sameRound) fun _ _ => ?_
  refine keeps_ite (fun _ => keeps_raised) fun _ => keeps_ite (fun _ => ?_) fun _ => ?_
  · exact Keeps.bind (within_perform sameRound) fun _ _ => keeps_raised
  · have finalized : Local mode speaks roundId Unfinished (.finalizeApproval control.roundId role
        requestId eventId (control.decision = .cancelPlan)) :=
      ⟨sameRound, unfinished_of_ne _ (by decide), unfinished_of_ne _ (by decide)⟩
    refine keeps_get.bind fun _ _ => ?_
    refine Keeps.bind (within_perform finalized) fun _ _ => ?_
    exact keeps_ite (fun _ => within_getTaskDetail.bind fun _ _ => keeps_pure trivial) fun _ =>
      keeps_raised

theorem within_applyProviderNativeApprovalControl (world : World)
    (sameRound : control.roundId = roundId) (confirmation : Confirmation) (answer : ResolveAnswer) :
    Within mode speaks roundId Unfinished
      (applyProviderNativeApprovalControl world control confirmation answer) fun _ => True := by
  have resolved : ∀ provider : String, Within mode speaks roundId Unfinished (
      if provider = "" ∨ strip confirmation.providerRequestId = "" ∨ answer = .unsupported then
        raised
      else resolveApproval control (confirmation.role.getD .director)
        (strip confirmation.providerRequestId) confirmation.runtimeEventId answer)
      fun _ => True := fun provider =>
    keeps_ite (fun _ => keeps_raised) fun _ => within_resolveApproval sameRound _ _ _ _
  unfold applyProviderNativeApprovalControl
  split
  · exact resolved _
  · exact within_getTaskDetail.bind fun _ _ => resolved _

theorem within_cancelPlan :
    Within mode speaks roundId Unfinished (cancelPlan roundId) fun _ => True := by
  refine Keeps.bind (within_perform rfl) fun _ _ => ?_
  refine (within_updateTaskStatus unfinished_of_ne (by decide) (by decide)).bind fun _ _ => ?_
  exact within_getTaskDetail.bind fun _ _ => keeps_pure trivial

theorem within_resumeWaitingRole (world : World) {detail : TaskState} (sameRound : control.roundId = roundId)
    (voiced : ∀ role, detail.waitingRoleForRound roundId = some role → speaks roundId role) :
    Within mode speaks roundId Unfinished (resumeWaitingRole world detail control)
      fun _ => True := by
  subst sameRound
  unfold resumeWaitingRole
  cases waiting : detail.waitingRoleForRound control.roundId with
  | none => exact keeps_raised
  | some role =>
      have spoken := voiced role waiting
      have resumed : Within mode speaks control.roundId Unfinished (do
          setWaitingReason control.roundId fun _ => .none
          perform (.clearRoundConfirmation control.roundId)
          perform (.updateTaskStatus .running)
          perform (.updateRoleStatus role .queued)
          let _ ← getTaskDetail
          if control.dispatchNext then dispatchRole world role) fun _ => True := by
        refine (within_setWaitingReason _).bind fun _ _ => ?_
        refine Keeps.bind (within_perform rfl) fun _ _ => ?_
        refine (within_updateTaskStatus unfinished_of_ne (by decide) (by decide)).bind
          fun _ _ => ?_
        refine (within_updateRoleStatus spoken _).bind fun _ _ => ?_
        refine within_getTaskDetail.bind fun _ _ => ?_
        exact keeps_ite (fun _ => within_dispatchRole spoken unfinished_of_ne world) fun _ =>
          keeps_pure trivial
      refine keeps_ite (fun _ => ?_) fun _ => resumed
      exact Keeps.bind (within_saveOwn spoken rfl rfl) fun _ _ => resumed

theorem within_approvePlan (world : World)
    (sameRound : control.roundId = roundId) (role : Role) (approved : ∀ role, speaks roundId role) :
    Within mode speaks roundId Unfinished (approvePlan world control role) fun _ => True := by
  subst sameRound
  refine (within_updateRoleStatus (approved _) _).bind fun _ _ => ?_
  refine (within_updateTaskStatus unfinished_of_ne (by decide) (by decide)).bind fun _ _ => ?_
  refine (within_setWaitingReason _).bind fun _ _ => ?_
  refine Keeps.bind (within_perform rfl) fun _ _ => ?_
  refine within_getTaskDetail.bind fun refreshed _ => ?_
  have read : Within mode speaks control.roundId Unfinished (do let _ ← getTaskDetail)
      fun _ => True := within_getTaskDetail.bind fun _ _ => keeps_pure trivial
  cases refreshed.nextRequired role with
  | none => exact read
  | some next =>
      refine (within_createHandoffPacket _ _ _).bind fun _ _ => ?_
      exact (within_queueRole (approved _) unfinished_of_ne world _).bind fun _ _ => read

theorem admitted_applyRoundControl (world : World) (control : RoundControl)
    (answer : ResolveAnswer) (directed : ∀ roundId, speaks roundId .director)
    (approved : ApprovesPlan state.backfillTask.backfillTask control →
      ∀ role, speaks roundId role)
    (current : Current mode speaks roundId state) :
    Admitted mode speaks completes .director (applyRoundControl world control answer) state
      fun _ => Served mode speaks .director := by
  refine admitted_getTaskDetail current fun repaired => ?_
  have sameRound := repaired.detailRoundId
  simp only [sameRound]
  split
  · exact ⟨roundId, repaired, directed roundId⟩
  · rename_i isCurrent
    have named := not_not.mp isCurrent
    refine admitted_getTaskDetail repaired fun again => ?_
    generalize state.backfillTask.backfillTask = detail at again approved ⊢
    split
    · exact (within_applyProviderNativeApprovalControl world named _ answer).served
        (directed _) again
    · rename_i notPending
      split
      · exact ⟨roundId, again, directed roundId⟩
      · rename_i settled
        have resumed : Within mode speaks roundId Unfinished
            (resumeWaitingRole world detail control) fun _ => True :=
          within_resumeWaitingRole world named fun role waiting =>
            again.voiced_of_waiting (directed roundId) waiting
        cases decision : control.decision with
        | cancelPlan =>
            rw [named]
            exact within_cancelPlan.served (directed _) again
        | revisePlan | continue_ => exact resumed.served (directed _) again
        | approvePlan =>
            cases plan : planArtifact? detail control.artifactId with
            | none => exact ⟨roundId, again, directed roundId⟩
            | some found =>
                dsimp only
                split
                · exact ⟨roundId, again, directed roundId⟩
                · rename_i sameRound
                  have applies : ApprovesPlan detail control := by
                    refine ⟨decision, named.trans again.detailRoundId.symm, ?_, _, plan,
                      not_not.mp sameRound⟩
                    simp only [List.mem_cons, List.not_mem_nil, or_false, not_or] at settled ⊢
                    exact ⟨notPending, settled⟩
                  exact (within_approvePlan world named _ (approved applies)).served
                    (directed _) again

theorem admitted_addUserMessage (world : World) (answer : FollowupAnswer)
    (directed : ∀ roundId, speaks roundId .director) (current : Current mode speaks roundId state) :
    Admitted mode speaks completes .director (addUserMessage world answer) state
      fun _ => Served mode speaks .director := by
  have known : 0 < roundId + 1 ∧ roundId + 1 ≤ roundId + 1 := ⟨Nat.succ_pos _, le_rfl⟩
  have routed : Within mode speaks (roundId + 1) Unfinished (routeToDirector (roundId + 1) 0)
      fun _ => True := within_routeToDirector known (directed _) 0
  cases answer with
  | frozen => exact ⟨roundId, current, directed roundId⟩
  | dispatch =>
      refine admitted_getTaskDetail current fun repaired => ?_
      refine holds_bind (admitted_startFollowupRound directed none repaired) ?_
      rintro _ opened ⟨rfl, opens⟩
      refine Within.served (routed.bind fun _ _ => ?_) (directed _) opens
      exact within_dispatchRole (directed _) unfinished_of_ne world
  | continued metadata =>
      refine admitted_getTaskDetail current fun repaired => ?_
      refine holds_bind (admitted_startFollowupRound directed none repaired) ?_
      rintro _ opened ⟨rfl, opens⟩
      refine Within.served (routed.bind fun _ _ => ?_) (directed _) opens
      refine Keeps.bind (within_perform (directed (roundId + 1))) fun _ _ => ?_
      exact within_updateRoleStatus (directed _) _

def Reclaimed (before after : TaskState) : Prop :=
  ∃ claims, after = { before with claims := claims }

def Projects (state : TaskState) (completion : Completion) : Prop :=
  ∃ projection, (claimRuntimeCompletionProjection completion).value? TaskState.step state =
      some projection ∧
    ¬ projection.applied ∧ projection.acquired ∧
    ¬ (projection.recovered ∧ (state.completionArtifactId? completion.role
      completion.runtimeEventId completion.agentRunId).isSome)

variable {role : Role}

theorem admitted_claimRuntimeCompletionProjection (completion : Completion)
    (voiced : speaks roundId role) (current : Current mode speaks roundId state) :
    Admitted mode speaks completes role (claimRuntimeCompletionProjection completion) state
      fun _ next => Reclaimed state next ∧ Current mode speaks roundId next := by
  refine holds_get ?_
  generalize completionOrigin? state completion = origin
  dsimp only
  split
  · exact ⟨⟨state.claims, rfl⟩, current⟩
  · generalize ((origin.map Attempt.roundId).getD state.detailRoundId : Int) = claimed
    cases result : claimCompletionEventResult state.claims state.now claimed
        (some completion.role) completion.runtimeEventId completion.agentRunId 900 with
    | error error => exact ⟨roundId, current, voiced⟩
    | ok granted =>
        obtain ⟨claim, claims⟩ := granted
        have claimLocal : Local mode speaks roundId Unfinished
            (.claimCompletion claimed (some completion.role) completion.runtimeEventId
              completion.agentRunId 900) := trivial
        have stepped : state.step (.claimCompletion claimed (some completion.role)
            completion.runtimeEventId completion.agentRunId 900) =
            { state with claims := claims } := by
          simp only [TaskState.step, result]
        refine admitted_perform current claimLocal ?_
        rw [stepped]
        intro held
        split
        · exact ⟨⟨claims, rfl⟩, held⟩
        · split
          · exact ⟨⟨claims, rfl⟩, held⟩
          · have staleLocal : Local mode speaks roundId Unfinished
                (.markCompletionIgnoredStale completion.runtimeEventId completion.agentRunId) :=
              trivial
            split
            · refine admitted_perform held staleLocal fun ignored => ?_
              exact ⟨⟨_, rfl⟩, ignored⟩
            · exact ⟨⟨claims, rfl⟩, held⟩

theorem Reclaimed.completionArtifactId? {before after : TaskState}
    (reclaimed : Reclaimed before after) (role : Role) (runtimeEventId : Int) (agentRunId : Option Int) :
    after.completionArtifactId? role runtimeEventId agentRunId =
      before.completionArtifactId? role runtimeEventId agentRunId := by
  obtain ⟨claims, rfl⟩ := reclaimed
  rfl

theorem admitted_fenced (completion : Completion) {project : Handler Unit} (voiced : speaks roundId role)
    (projects : Projects state completion → ∀ next, Reclaimed state next →
      Current mode speaks roundId next →
      Admitted mode speaks completes role project next fun _ => Served mode speaks role)
    (current : Current mode speaks roundId state) :
    Admitted mode speaks completes role (fenced completion project) state
      fun _ => Served mode speaks role := by
  have finished : ∀ next, Served mode speaks role next →
      Admitted mode speaks completes role (finishRuntimeCompletionProjection completion) next
        fun _ => Served mode speaks role := by
    rintro next ⟨nextRound, nextCurrent, nextVoiced⟩
    have isLocal : ∀ artifactId, Local mode speaks nextRound Unfinished (.markCompletionApplied
        completion.runtimeEventId completion.agentRunId artifactId) := fun _ => trivial
    exact Within.served (keeps_get.bind fun _ _ => within_perform (isLocal _)) nextVoiced nextCurrent
  refine holds_bind (holds_value?
    (admitted_claimRuntimeCompletionProjection completion voiced current)) ?_
  rintro projection next ⟨returned, reclaimed, held⟩
  split
  · exact ⟨roundId, held, voiced⟩
  · rename_i granted
    refine holds_get ?_
    rw [reclaimed.completionArtifactId?]
    split
    · exact finished next ⟨roundId, held, voiced⟩
    · rename_i unstored
      have lets : Projects state completion := by
        rw [not_or, not_not] at granted
        exact ⟨projection, returned, granted.1, granted.2, unstored⟩
      refine holds_bind (holds_recover (projects lets next reclaimed held) ?_) fun _ => finished
      rintro raisedState ⟨raisedRound, raisedCurrent, raisedVoiced⟩
      have isLocal : Local mode speaks raisedRound Unfinished (.releaseCompletion
        completion.runtimeEventId completion.agentRunId) := trivial
      exact Within.served (Keeps.bind (within_perform isLocal) fun _ _ => keeps_raised)
        raisedVoiced raisedCurrent

section Completions

variable {completion : Completion} (voiced : speaks roundId completion.role)
include voiced

theorem within_rejectCompletion (world : World) (error : String) :
    Within mode speaks roundId Unfinished (rejectCompletion world completion error)
      fun _ => True := by
  refine (within_recordInvalidSemanticArtifact voiced _ _ _).bind fun _ _ => ?_
  refine (within_retryRole voiced unfinished_of_ne world _ _).bind fun _ _ => ?_
  exact keeps_ite (fun _ => keeps_pure trivial) fun _ =>
    within_blockRoleWithError voiced unfinished_of_ne _ _

theorem admitted_handlePlainFollowupResponse (semanticInvalid : Bool)
    (answered : semanticInvalid = false → ∀ next, completes next)
    (current : Current mode speaks roundId state) :
    Admitted mode speaks completes completion.role (handlePlainFollowupResponse completion.role
      completion.runtimeEventId semanticInvalid) state
      fun _ => Served mode speaks completion.role := by
  refine within_currentRoundId.then voiced current ?_
  rintro _ repaired rfl current
  refine Within.then (within_saveOwn voiced rfl rfl) voiced current fun _ saved _ current => ?_
  split
  · refine Within.served ((within_updateRoleStatus voiced _).bind fun _ _ => ?_) voiced current
    exact within_updateTaskStatus unfinished_of_ne (by decide) (by decide)
  · rename_i plain
    refine (within_updateRoleStatus voiced _).then voiced current fun _ passed _ current => ?_
    have completed : Stays mode speaks _ (fun _ => True) _ _ :=
      current.updateTaskStatus .completed (by decide) trivial
    refine ⟨⟨_, current, .inr (.inr ⟨rfl, answered (by simpa using plain) _⟩)⟩, ?_⟩
    exact Within.served (within_getTaskDetail.bind fun _ _ => keeps_pure trivial) voiced
      completed.current

theorem admitted_answerFollowup (error : String) (protocolAttempt : Bool)
    (answered : protocolAttempt = false → ∀ next, completes next)
    (current : Current mode speaks roundId state) :
    Admitted mode speaks completes completion.role
      (answerFollowup completion error protocolAttempt) state
      fun _ => Served mode speaks completion.role := by
  unfold answerFollowup
  split
  · exact (within_recordInvalidSemanticArtifact voiced _ _ _).then voiced current
      fun _ _ _ current => admitted_handlePlainFollowupResponse voiced _ answered current
  · exact admitted_handlePlainFollowupResponse voiced _ answered current

theorem admitted_handleRoleCompletionEvent (world : World) (message : RoleMessage)
    (outputs : ∀ next, Reclaimed state next → Current mode speaks roundId next →
      Admitted mode speaks completes completion.role (handleRoleOutput world completion.role
        (.message message) true completion.runtimeEventId) next
        fun _ => Served mode speaks completion.role)
    (current : Current mode speaks roundId state) :
    Admitted mode speaks completes completion.role
      (handleRoleCompletionEvent world completion message) state
      fun _ => Served mode speaks completion.role := by
  unfold handleRoleCompletionEvent
  split
  · exact ⟨roundId, current, voiced⟩
  · refine admitted_fenced completion voiced ?_ current
    intro _ next reclaimed held
    refine holds_get ?_
    split
    · exact ⟨roundId, held, voiced⟩
    · exact outputs next reclaimed held

theorem admitted_applyNativeCompletionOutput (world : World)
    (outputs : ∀ message, completion.output = some (.message message) → ∀ next,
      Reclaimed state next → Current mode speaks roundId next →
      Admitted mode speaks completes completion.role (handleRoleOutput world completion.role
        (.message message) true completion.runtimeEventId) next
        fun _ => Served mode speaks completion.role)
    (answered : ∀ error, completion.output = some (.malformed error false) →
      AcceptsPlainFollowup state.backfillTask completion.role →
      Projects state.backfillTask completion → ∀ next, completes next)
    (current : Current mode speaks roundId state) :
    Admitted mode speaks completes completion.role (applyNativeCompletionOutput world completion)
      state fun _ => Served mode speaks completion.role := by
  unfold applyNativeCompletionOutput
  cases output : completion.output with
  | none =>
      dsimp only
      split
      · refine admitted_fenced completion voiced ?_ current
        intro _ next _ held
        exact (within_blockRoleWithError voiced unfinished_of_ne _ none).served voiced held
      · exact ⟨roundId, current, voiced⟩
  | some text =>
      cases text with
      | message message =>
          refine holds_recover (admitted_handleRoleCompletionEvent voiced world message
            (outputs message output) current) ?_
          rintro raisedState ⟨raisedRound, raisedCurrent, raisedVoiced⟩
          refine Within.served ((within_updateRoleStatus raisedVoiced _).bind fun _ _ => ?_)
            raisedVoiced raisedCurrent
          exact within_updateTaskStatus unfinished_of_ne (by decide) (by decide)
      | malformed error protocolAttempt =>
          have rejected : ∀ next, Current mode speaks roundId next →
              Admitted mode speaks completes completion.role
                (if protocolAttempt then
                  fenced completion (rejectCompletion world completion error) else pure ()) next
                fun _ => Served mode speaks completion.role := by
            intro next held
            split
            · refine admitted_fenced completion voiced ?_ held
              intro _ after _ reclaimed
              exact (within_rejectCompletion voiced world error).served voiced reclaimed
            · exact ⟨roundId, held, voiced⟩
          dsimp only
          split
          · refine admitted_getTaskDetail current fun repaired => ?_
            by_cases accepts : AcceptsPlainFollowup state.backfillTask completion.role
            · simp only [accepts, decide_true]
              refine admitted_fenced completion voiced ?_ repaired
              intro projects next _ held
              refine admitted_answerFollowup voiced error protocolAttempt ?_ held
              rintro rfl
              exact answered error output accepts projects
            · simp only [accepts, decide_false]
              exact rejected _ repaired
          · exact rejected state current

end Completions

end Service

end Wlcodex.Relay
