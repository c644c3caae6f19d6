import Wlcodex.Relay.RoundControl
import Wlcodex.Relay.SettledRepair

namespace Wlcodex.Relay

open Wlcodex.Lib

/-! `approve_plan` sent again for a plan that was approved before. -/

namespace TaskState

variable {state next : TaskState} {roundId : Nat} {role : Role}

namespace Unmoved

variable (unmoved : Unmoved state next)
include unmoved

theorem detailRoundId : next.detailRoundId = state.detailRoundId := by
  unfold TaskState.detailRoundId artifactRoundFallback relayArtifacts
  rw [unmoved.artifacts]
  exact activeRoundId_congr unmoved.rounds _

theorem planArtifact? (artifactId : Nat) :
    Service.planArtifact? next artifactId = Service.planArtifact? state artifactId := by
  unfold Service.planArtifact? relayArtifacts
  rw [unmoved.artifacts]

theorem nextRequired (role : Role) : next.nextRequired role = state.nextRequired role := by
  have decision : next.routingDecision? = state.routingDecision? := by
    unfold TaskState.routingDecision? artifactsForRound relayArtifacts
    rw [unmoved.artifacts, unmoved.detailRoundId]
  unfold TaskState.nextRequired requiredRoles decidedRoute completedRequiredRoles completedRoles
  rw [decision, unmoved.jobs]

theorem hasRound : next.HasRound roundId ↔ state.HasRound roundId :=
  hasRound_congr unmoved.rounds roundId

theorem latest_status :
    (next.attempts.latest? roundId role).map Attempt.status =
      (state.attempts.latest? roundId role).map Attempt.status :=
  AttemptTable.latest?_status_congr unmoved.views roundId role

end Unmoved

section Calls

variable (settled : state.Settled) (present : state.HasRound 1)
include settled present

theorem Settled.storeRoundId :
    state.storeRoundId.1 = state.detailRoundId ∧ Unmoved state state.storeRoundId.2 := by
  have repaired := settled.backfillTask present
  exact ⟨activeRoundId_congr repaired.rounds _, repaired⟩

theorem Settled.passAgain
    (passed : ∃ row ∈ state.attempts.latest? state.detailRoundId role,
      row.status = .passed ∨ row.status = .superseded) :
    Unmoved state (state.updateRoleStatus role .passed) := by
  obtain ⟨sameRound, repaired⟩ := settled.storeRoundId present
  have statuses : (state.storeRoundId.2.attempts.latest? state.detailRoundId role).map
      Attempt.status = (state.attempts.latest? state.detailRoundId role).map Attempt.status :=
    repaired.latest_status
  obtain ⟨row, found, status⟩ := passed
  rw [Option.mem_def.mp found] at statuses
  obtain ⟨stored, storedFound, sameStatus⟩ := Option.map_eq_some_iff.mp statuses
  have keeps : ({ status := some .passed } : AttemptChange).Keeps stored.status := by
    intro unretired
    rw [sameStatus] at unretired ⊢
    rcases status with isPassed | retired
    · rw [isPassed]
      exact ⟨rfl, by simp⟩
    · exact absurd retired unretired
  have written := unmoved_updateAttempt storedFound keeps
  rw [updateRoleStatus_eq state (by decide), sameRound]
  have moved := repaired.trans written
  rw [projected_of_unmoved moved settled.projected]
  exact moved

theorem Settled.runAgain (running : state.roundStatus state.detailRoundId = .running) :
    Unmoved state (state.updateTaskStatus .running) := by
  obtain ⟨sameRound, repaired⟩ := settled.storeRoundId present
  have known : state.storeRoundId.2.HasRound state.detailRoundId := by
    rw [← sameRound]
    exact hasRound_storeRoundId state present
  have kept : state.storeRoundId.2.roundStatus state.detailRoundId = .running := by
    rw [roundStatus_congr repaired.rounds]
    exact running
  have projected := projected_of_unmoved repaired settled.projected
  unfold updateTaskStatus
  dsimp only
  rw [sameRound, ← kept]
  unfold setRoundStatus
  rw [ensureRound_of_hasRound known, putRoundStatus_same known, projected, projected]
  exact repaired

end Calls

theorem unmoved_modifyRound {change : Round → Round} (sameId : ∀ row, (change row).roundId = row.roundId)
    (sameStatus : ∀ row, (change row).status = row.status) :
    Unmoved state (state.modifyRound roundId change sameId) :=
  .of_attempts rfl (modifyRound_roundStatuses state roundId sameId sameStatus) rfl rfl rfl rfl

theorem unmoved_setRoundExecution (known : state.HasRound roundId) (mode : ExecutionMode)
    (goal : String) (criteria : List String) (reason : WaitingReason) :
    Unmoved state (state.setRoundExecution roundId mode goal criteria reason) := by
  unfold setRoundExecution
  rw [ensureRound_of_hasRound known]
  apply unmoved_modifyRound
  intro row
  rfl

theorem unmoved_clearRoundConfirmation (known : state.HasRound roundId) :
    Unmoved state (state.clearRoundConfirmation roundId) := by
  unfold clearRoundConfirmation setRoundConfirmation
  rw [ensureRound_of_hasRound known]
  apply unmoved_modifyRound
  intro row
  rfl

end TaskState

def StoreOp.Starts (op : StoreOp) (role : Role) : Prop :=
  match op with
  | .updateRoleStatus name status => name = role ∧ status = .queued
  | .claimQueuedAttemptDispatch _ name => name = role
  | _ => False

instance (op : StoreOp) (role : Role) : Decidable (op.Starts role) := by
  unfold StoreOp.Starts
  split <;> infer_instance

namespace Service

open Script TaskState

variable {state : TaskState}

/-- The plan is done with: the roles that the decision requires have passed, the
plan's own among them, and the round runs. -/
@[mk_iff]
structure PlanDone (state : TaskState) (roundId : Nat) (role : Role) : Prop where
  running : state.roundStatus roundId = .running
  passed : ∃ row ∈ state.attempts.latest? roundId role,
    row.status = .passed ∨ row.status = .superseded
  last : state.nextRequired role = none

instance (state : TaskState) (roundId : Nat) (role : Role) :
    Decidable (PlanDone state roundId role) := decidable_of_iff' _ (planDone_iff ..)

theorem PlanDone.congr {next : TaskState} {roundId : Nat} {role : Role}
    (done : PlanDone state roundId role) (unmoved : Unmoved state next) :
    PlanDone next roundId role where
  running := by
    rw [roundStatus_congr unmoved.rounds]
    exact done.running
  passed := by
    obtain ⟨row, found, status⟩ := done.passed
    have same : (next.attempts.latest? roundId role).map Attempt.status =
        (state.attempts.latest? roundId role).map Attempt.status := unmoved.latest_status
    rw [Option.mem_def.mp found] at same
    obtain ⟨stored, storedFound, sameStatus⟩ := Option.map_eq_some_iff.mp same
    exact ⟨stored, storedFound, sameStatus ▸ status⟩
  last := by
    rw [unmoved.nextRequired]
    exact done.last

/-- Where `approve_plan` has nothing left to do.  The repair is settled, and the
control is refused (for another round, while a native approval is in progress, or
without a plan of the round) or the plan is done with. -/
def ApprovalSpent (state : TaskState) (control : RoundControl) : Prop :=
  state.Settled ∧
    (control.roundId ≠ state.detailRoundId ∨
      (state.backfillTask.backfillTask.roundExecution control.roundId).confirmation.source ∈
        [.providerNativeResolving, .providerNativeSuperseding] ∨
      (state.backfillTask.backfillTask.roundExecution control.roundId).confirmation.source ≠
          .providerNativeApproval ∧
        ∀ plan ∈ planArtifact? state control.artifactId, plan.1 = control.roundId →
          PlanDone state control.roundId (plan.2.payload.actor.getD .architect))

instance (state : TaskState) (control : RoundControl) : Decidable (ApprovalSpent state control) :=
  inferInstanceAs (Decidable (_ ∧ (_ ∨ _ ∨ _ ∧ ∀ plan ∈ planArtifact? state control.artifactId,
    plan.1 = control.roundId → _)))

def Idles (state : TaskState) {α : Type} (handler : Handler α) (current : TaskState) : Prop :=
  handler.Holds TaskState.step (fun _ op => ∀ role, ¬ op.Starts role) (Unmoved state) current
    fun _ => Unmoved state

theorem idles_getTaskDetail {current : TaskState} {α : Type} {next : TaskState → Handler α}
    (rest : Idles state (next current.backfillTask) current.backfillTask) :
    Idles state (getTaskDetail >>= next) current := ⟨fun _ starts => starts, rest⟩

section Done

variable (settled : state.Settled) (present : state.HasRound 1)
include settled present

theorem keeps_getTaskDetail :
    getTaskDetail.Keeps TaskState.step (Unmoved state) (fun op => ∀ role, ¬ op.Starts role)
      (Unmoved state) := by
  refine Keeps.bind (keeps_perform ?_ fun _ starts => starts) fun _ _ => keeps_get
  intro current moved
  exact moved.trans ((settled.congr present moved).backfillTask (moved.hasRound.mpr present))

omit settled present in
theorem keeps_setWaitingReason {roundId : Nat} (known : state.HasRound roundId) :
    (setWaitingReason roundId fun _ => .none).Keeps TaskState.step (Unmoved state)
      (fun op => ∀ role, ¬ op.Starts role) fun _ => True := by
  refine keeps_get.bind fun _ _ => keeps_perform ?_ fun _ starts => starts
  intro current moved
  exact moved.trans (unmoved_setRoundExecution (moved.hasRound.mpr known) _ _ _ _)

theorem keeps_approvePlan (world : World) {control : RoundControl} {role : Role}
    (here : control.roundId = state.detailRoundId) (done : PlanDone state control.roundId role) :
    (approvePlan world control role).Keeps TaskState.step (Unmoved state)
      (fun op => ∀ role, ¬ op.Starts role) fun _ => True := by
  have known : state.HasRound control.roundId := by
    rw [here]
    exact hasRound_activeRoundId present _
  refine Keeps.bind (keeps_perform ?_ ?_) fun _ _ => ?_
  · intro current moved
    have passed := (done.congr moved).passed
    rw [here, ← moved.detailRoundId] at passed
    exact moved.trans ((settled.congr present moved).passAgain (moved.hasRound.mpr present) passed)
  · rintro name ⟨-, queued⟩
    cases queued
  refine Keeps.bind (keeps_perform ?_ fun _ starts => starts) fun _ _ => ?_
  · intro current moved
    have running := (done.congr moved).running
    rw [here, ← moved.detailRoundId] at running
    exact moved.trans ((settled.congr present moved).runAgain (moved.hasRound.mpr present) running)
  refine (keeps_setWaitingReason known).bind fun _ _ => ?_
  refine Keeps.bind (keeps_perform ?_ fun _ starts => starts) fun _ _ => ?_
  · intro current moved
    exact moved.trans (unmoved_clearRoundConfirmation (moved.hasRound.mpr known))
  refine (keeps_getTaskDetail settled present).bind fun refreshed moved => ?_
  rw [moved.nextRequired, done.last]
  exact (keeps_getTaskDetail settled present).bind fun _ _ => keeps_pure trivial

end Done

theorem idles_applyRoundControl (world : World) {control : RoundControl} (answer : ResolveAnswer)
    (approves : control.decision = .approvePlan) (present : state.HasRound 1)
    (spent : ApprovalSpent state control) :
    Idles state (applyRoundControl world control answer) state := by
  obtain ⟨settled, cases_⟩ := spent
  have first := settled.backfillTask present
  have again := settled.congr present first
  have second := first.trans (again.backfillTask (first.hasRound.mpr present))
  refine idles_getTaskDetail ?_
  dsimp only
  rw [first.detailRoundId]
  split
  · exact first
  · rename_i notElsewhere
    have here := not_not.mp notElsewhere
    refine idles_getTaskDetail ?_
    generalize state.backfillTask.backfillTask = detail at second cases_ ⊢
    rcases cases_ with elsewhere | inProgress | ⟨notNative, done⟩
    · exact absurd here elsewhere
    · rw [if_neg, if_pos inProgress]
      · exact second
      · intro native
        rw [native] at inProgress
        revert inProgress
        decide
    · rw [if_neg notNative]
      split
      · exact second
      · rw [approves]
        rw [second.planArtifact?]
        cases plan : planArtifact? state control.artifactId with
        | none => exact second
        | some found =>
            dsimp only
            split
            · exact second
            · rename_i sameRound
              have kept := keeps_approvePlan settled present world here
                (done _ plan (not_not.mp sameRound)) detail second
              exact holds_mono (fun _ _ allowed => allowed.2) (fun _ aborted => aborted)
                (fun _ _ both => both.2) kept

/-- The state in which the second of two round controls is received: the first
one is handled after `earlier`, and `between` happens before the second. -/
def betweenControls (start : Nat) (earlier : List StoreOp) (world : World) (first : RoundControl)
    (answer : ResolveAnswer) (between : List StoreOp) : TaskState :=
  between.foldl TaskState.step
    ((applyRoundControl world first answer).final TaskState.step (after start earlier))

/-- In every run with two approvals of a plan: where the second one is spent, it
moves no status of the task, of a round, of an attempt or of a job, and starts no
role, in particular none that the first one has started. -/
theorem repeated_approval_takes_no_effect (start : Nat) (earlier between : List StoreOp)
    (world again : World) (first second : RoundControl) (answer answerAgain : ResolveAnswer)
    (approves : second.decision = .approvePlan)
    (spent : ApprovalSpent (betweenControls start earlier world first answer between) second) :
    Unmoved (betweenControls start earlier world first answer between)
        ((applyRoundControl again second answerAgain).final TaskState.step
          (betweenControls start earlier world first answer between)) ∧
      ∀ role, (∃ op ∈ (applyRoundControl world first answer).calls TaskState.step
          (after start earlier), op.Starts role) →
        ∀ op ∈ (applyRoundControl again second answerAgain).calls TaskState.step
          (betweenControls start earlier world first answer between), ¬ op.Starts role := by
  have present : (betweenControls start earlier world first answer between).HasRound 1 := by
    have reached := hasRound_one_after start (earlier ++
      ((applyRoundControl world first answer).calls TaskState.step (after start earlier) ++
        between))
    unfold after at reached
    rw [List.foldl_append, List.foldl_append] at reached
    unfold betweenControls
    rw [final_eq_foldl]
    exact reached
  have idles := idles_applyRoundControl again answerAgain approves present spent
  constructor
  · exact final_of_holds idles
  · intro role _ op member
    exact forall_of_along (along_of_holds idles) op member role

def plannedRound (roles : List Role) : List StoreOp :=
  [.saveArtifact (some .director) .routingDecision
      { route := .fullRelay, requiredRoles := roles },
    .updateRoleStatus .architect .queued,
    .saveArtifact (some .architect) .architecturePlan { status := some .passed }]

def approval : RoundControl where
  roundId := 1
  decision := .approvePlan

theorem repeated_approval_takes_no_effect_last_role :
    Unmoved (betweenControls 0 (plannedRound [.director, .architect]) {} approval .unsupported [])
      ((applyRoundControl {} approval .unsupported).final TaskState.step
        (betweenControls 0 (plannedRound [.director, .architect]) {} approval .unsupported [])) :=
  (repeated_approval_takes_no_effect 0 (plannedRound [.director, .architect]) [] {} {} approval
    approval .unsupported .unsupported rfl (by decide +kernel)).1

def acceptingWorld : World where
  dispatch := .verified { nativeSessionId := "session-1", dispatchVerified := true }

/-- A double click: the second approval takes the implementer, which the first one
started, back from streaming to queued and dispatches it again. -/
theorem doubled_approval_restarts_implementer :
    (∃ op ∈ (applyRoundControl acceptingWorld approval .unsupported).calls TaskState.step
        (after 0 (plannedRound [.director, .architect, .implementer])), op.Starts .implementer) ∧
      (∃ op ∈ (applyRoundControl acceptingWorld approval .unsupported).calls TaskState.step
          (betweenControls 0 (plannedRound [.director, .architect, .implementer]) acceptingWorld
            approval .unsupported []), op.Starts .implementer) ∧
      StatusWrite.attempt 1 .implementer 1 .queued ∈
        written (betweenControls 0 (plannedRound [.director, .architect, .implementer])
            acceptingWorld approval .unsupported [])
          ((applyRoundControl acceptingWorld approval .unsupported).final TaskState.step
            (betweenControls 0 (plannedRound [.director, .architect, .implementer])
              acceptingWorld approval .unsupported [])) := by
  decide +kernel

end Service

end Wlcodex.Relay
