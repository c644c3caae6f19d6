import Wlcodex.Relay.WaitingRole

namespace Wlcodex.Relay

open Wlcodex.Lib

/-! `continue` and `revise_plan` reach the waiting role. -/

def earlierRoles (role : Role) : List Role := relayRoleIds.takeWhile (· ≠ role)

namespace TaskState

variable {state detail : TaskState} {roundId : Nat} {role : Role}

def Waits (detail : TaskState) (roundId : Nat) (role : Role) : Prop :=
  ∃ row ∈ detail.attempts.latest? roundId role, row.status = .waiting

instance (detail : TaskState) (roundId : Nat) : DecidablePred (detail.Waits roundId) := fun role =>
  inferInstanceAs (Decidable (∃ row ∈ detail.attempts.latest? roundId role, row.status = .waiting))

/-- The first role, in the order of the relay, whose latest attempt of the round is waiting. -/
structure FirstWaiting (detail : TaskState) (roundId : Nat) (role : Role) : Prop where
  listed : role ∈ relayRoleIds
  waits : detail.Waits roundId role
  first : ∀ earlier ∈ earlierRoles role, ¬detail.Waits roundId earlier

def Unskipped (detail : TaskState) (roundId : Nat) (role : Role) : Prop :=
  ∀ earlier ∈ earlierRoles role, (detail.attempts.latest? roundId earlier).isSome

instance (detail : TaskState) (roundId : Nat) : DecidablePred (detail.Unskipped roundId) := fun role =>
  inferInstanceAs (Decidable (∀ earlier ∈ earlierRoles role, (detail.attempts.latest? roundId earlier).isSome))

theorem scan_append (later : List Role) (waits : detail.Waits roundId role) (earlier : List Role)
    (first : ∀ other ∈ earlier, ¬detail.Waits roundId other) :
    waitingRoleForRound.scan detail roundId (earlier ++ role :: later) =
      if ∀ other ∈ earlier, (detail.attempts.latest? roundId other).isSome then some (some role) else none := by
  induction earlier with
  | nil =>
      obtain ⟨row, found, waiting⟩ := waits
      rw [List.nil_append, waitingRoleForRound.scan, Option.mem_def.mp found, if_pos (by simp)]
      exact if_pos waiting
  | cons other earlier ih =>
      rw [List.cons_append, waitingRoleForRound.scan]
      cases found : detail.attempts.latest? roundId other with
      | none =>
          rw [if_neg]
          intro every
          have here := every other List.mem_cons_self
          rw [found] at here
          cases here
      | some row =>
          dsimp only
          rw [if_neg fun waiting => first other List.mem_cons_self ⟨row, found, waiting⟩,
            ih fun name member => first name (List.mem_cons_of_mem _ member)]
          refine if_congr ?_ rfl rfl
          rw [List.forall_mem_cons, found]
          exact (and_iff_right rfl).symm

theorem relayRoleIds_split (listed : role ∈ relayRoleIds) :
    ∃ later, relayRoleIds = earlierRoles role ++ role :: later := by
  simp only [relayRoleIds, List.mem_cons, List.not_mem_nil, or_false] at listed
  rcases listed with rfl | rfl | rfl | rfl | rfl
  · exact ⟨_, rfl⟩
  · exact ⟨_, rfl⟩
  · exact ⟨_, rfl⟩
  · exact ⟨_, rfl⟩
  · exact ⟨_, rfl⟩

theorem FirstWaiting.waitingRoleForRound (first : detail.FirstWaiting roundId role) :
    detail.waitingRoleForRound roundId = if detail.Unskipped roundId role then some role else none := by
  obtain ⟨later, split⟩ := relayRoleIds_split first.listed
  have scanned : waitingRoleForRound.scan detail roundId relayRoleIds =
      if detail.Unskipped roundId role then some (some role) else none := by
    rw [split]
    exact scan_append later first.waits _ first.first
  unfold TaskState.waitingRoleForRound
  rw [scanned]
  by_cases unskipped : detail.Unskipped roundId role
  · rw [if_pos unskipped, if_pos unskipped]
  · rw [if_neg unskipped, if_neg unskipped]

end TaskState

namespace Service

open Script TaskState

variable {state detail : TaskState} {role : Role} {world : World} {control : RoundControl} {answer : ResolveAnswer}

def handedOver (control : RoundControl) (role : Role) (detail : TaskState) : TaskState :=
  let saved :=
    if control.comments then detail.saveArtifact (some role) .userFollowup { roundId := some control.roundId }
    else detail
  let execution := saved.roundExecution control.roundId
  let cleared := (saved.setRoundExecution control.roundId execution.executionMode execution.executionGoal
    execution.acceptanceCriteria .none).clearRoundConfirmation control.roundId
  ((cleared.updateTaskStatus .running).updateRoleStatus role .queued).backfillTask

def dispatchNext (world : World) (control : RoundControl) (role : Role) : Handler Unit :=
  if control.dispatchNext then dispatchRole world role else pure ()

theorem resumeWaitingRole_eq (found : detail.waitingRoleForRound control.roundId = some role) :
    (resumeWaitingRole world detail control).final TaskState.step state =
        (dispatchNext world control role).final TaskState.step (handedOver control role state) ∧
      (resumeWaitingRole world detail control).value? TaskState.step state =
        (dispatchNext world control role).value? TaskState.step (handedOver control role state) := by
  unfold resumeWaitingRole handedOver
  rw [found]
  dsimp only
  split
  · exact ⟨rfl, rfl⟩
  · exact ⟨rfl, rfl⟩

def readDetail (state : TaskState) : TaskState := state.backfillTask.backfillTask

/-- A `continue` or `revise_plan` of the current round, which no native approval holds. -/
structure Resumes (detail : TaskState) (control : RoundControl) : Prop where
  decision : control.decision = .continue_ ∨ control.decision = .revisePlan
  free : (detail.roundExecution control.roundId).confirmation.source ∉
    [.providerNativeApproval, .providerNativeResolving, .providerNativeSuperseding]

theorem applyRoundControl_eq (resumes : Resumes (readDetail state) control)
    (current : control.roundId = state.backfillTask.detailRoundId) :
    (applyRoundControl world control answer).final TaskState.step state =
        (resumeWaitingRole world (readDetail state) control).final TaskState.step (readDetail state) ∧
      (applyRoundControl world control answer).value? TaskState.step state =
        (resumeWaitingRole world (readDetail state) control).value? TaskState.step (readDetail state) := by
  obtain ⟨decision, free⟩ := resumes
  unfold readDetail at free
  rw [List.mem_cons, not_or] at free
  have ends {α : Type} (observe : Handler Unit → TaskState → α)
      (reads : ∀ (next : TaskState → Handler Unit) (state : TaskState),
        observe (getTaskDetail >>= next) state = observe (next state.backfillTask) state.backfillTask) :
      observe (applyRoundControl world control answer) state =
        observe (resumeWaitingRole world (readDetail state) control) (readDetail state) := by
    refine (reads (fun repaired => if control.roundId ≠ repaired.detailRoundId then raised else
      getTaskDetail >>= _) state).trans ?_
    rw [if_neg (not_not.mpr current)]
    refine (reads _ state.backfillTask).trans ?_
    rw [if_neg free.1, if_neg free.2]
    rcases decision with continues | revises
    · rw [continues]
      rfl
    · rw [revises]
      rfl
  exact ⟨ends (fun script => script.final TaskState.step) fun _ _ => rfl,
    ends (fun script => script.value? TaskState.step) fun _ _ => rfl⟩

/-- The call raises nothing, and hands the role over queued: to its own dispatch, if it is asked for, or as
it leaves the task. -/
structure HandsOver (world : World) (control : RoundControl) (answer : ResolveAnswer) (role : Role)
    (state : TaskState) : Prop where
  returns : ((applyRoundControl world control answer).value? TaskState.step state).isSome
  final : (applyRoundControl world control answer).final TaskState.step state =
    (dispatchNext world control role).final TaskState.step (handedOver control role (readDetail state))
  queued : ∃ row ∈ (handedOver control role (readDetail state)).attempts.latest? control.roundId role,
    row.status = .queued

theorem queued_handedOver (resuming : state.Resuming control.roundId role) :
    ∃ row ∈ (handedOver control role state).attempts.latest? control.roundId role, row.status = .queued := by
  unfold handedOver
  generalize saving : (if control.comments then state.saveArtifact (some role) .userFollowup
    { roundId := some control.roundId } else state) = saved
  have stored : saved.Resuming control.roundId role := by
    rw [← saving]
    split
    · exact resuming.saveFollowup
    · exact resuming
  have cleared := (stored.setRoundExecution (saved.roundExecution control.roundId).executionMode
    (saved.roundExecution control.roundId).executionGoal
    (saved.roundExecution control.roundId).acceptanceCriteria .none).clearRoundConfirmation
  obtain ⟨running, runs⟩ := cleared.updateTaskStatus
  obtain ⟨queued, runs, row, found, status⟩ := running.updateRoleStatus runs
  -- the last repair keeps the role queued, as the round runs
  have holding := queued.holding_backfillTask
  obtain ⟨kept, keptFound⟩ := holding.latest found
  refine ⟨kept, keptFound, ?_⟩
  rcases holding.status with same | ⟨stopped, -⟩
  · rw [keptFound, Option.mem_def.mp found] at same
    exact (Option.some.inj same).trans status
  · rw [runs] at stopped
    exact absurd stopped (by decide)

theorem returns_dispatchNext (employed : state.HasJob role) :
    ((dispatchNext world control role).value? TaskState.step state).isSome := by
  unfold dispatchNext
  split
  · have holds := @holds_dispatchRole state (fun _ => False) world role employed
    rw [Option.isSome_iff_ne_none]
    exact fun raises => (ends_of_holds holds).2 raises
  · rfl

theorem hasJob_handedOver (employed : state.HasJob role) : (handedOver control role state).HasJob role := by
  unfold handedOver
  generalize saving : (if control.comments then state.saveArtifact (some role) .userFollowup
    { roundId := some control.roundId } else state) = saved
  have stored : Lasting state saved := by
    rw [← saving]
    split
    · exact .step state (.saveArtifact _ _ _)
    · exact (Untriggered.refl state).toLasting
  refine (Lasting.step _ .backfillTask).hasJob ?_
  refine (Lasting.step _ (.updateRoleStatus role .queued)).hasJob ?_
  refine (Lasting.step _ (.updateTaskStatus .running)).hasJob ?_
  refine (Lasting.step _ (.clearRoundConfirmation control.roundId)).hasJob ?_
  exact (Lasting.step _ (.setRoundExecution _ _ _ _ _)).hasJob (stored.hasJob employed)

theorem hasJob_after (start : Nat) (ops : List StoreOp) (listed : role ∈ relayRoleIds) :
    (after start ops).HasJob role := by
  unfold after
  induction ops using List.reverseRecOn with
  | nil => exact hasJob_created start listed
  | append_singleton ops op ih =>
      rw [List.foldl_append]
      exact (Lasting.step _ op).hasJob ih

theorem resuming_readDetail (present : state.HasRound 1) (employed : state.HasJob role)
    (current : control.roundId = state.backfillTask.detailRoundId)
    (waits : (readDetail state).Waits control.roundId role)
    (anchored : ∀ artifact ∈ state.artifacts.rows, (readDetail state).Booked control.roundId role artifact ∧
      artifact.payload.explicitRound ≤ control.roundId) :
    (readDetail state).Resuming control.roundId role := by
  have once := steady_backfillTask present
  have named : state.backfillTask.activeRoundId 1 = control.roundId :=
    (activeRoundId_fallback once.present 1 _).trans current.symm
  rw [named] at once
  have artifacts : (readDetail state).artifacts = state.artifacts :=
    (artifacts_backfillTask once.present).trans (artifacts_backfillTask present)
  refine ⟨once.backfillTask, ?_, ?_, ?_, ?_⟩
  · intro round member
    unfold artifactRoundIds at member
    rw [artifacts] at member
    obtain ⟨artifact, stored, rfl⟩ := List.mem_map.mp (List.mem_filter.mp member).1
    exact (anchored artifact stored).2
  · exact ((Lasting.step state .backfillTask).trans (.step _ .backfillTask)).hasJob employed
  · intro artifact member
    rw [artifacts] at member
    exact (anchored artifact member).1
  · obtain ⟨row, found, waiting⟩ := waits
    refine ⟨row, found, ?_⟩
    rw [waiting]
    decide

/-- In every reachable state with a waiting role, the call raises exactly where a role before it has no
attempt in the round.  Elsewhere it hands the role over queued, if each artifact that moves the role is
linked with one of its attempts and none names a later round. -/
theorem waiting_role_resumed (start : Nat) (ops : List StoreOp) (world : World) (control : RoundControl)
    (answer : ResolveAnswer) (role : Role)
    (current : control.roundId = (after start ops).backfillTask.detailRoundId)
    (resumes : Resumes (readDetail (after start ops)) control)
    (first : (readDetail (after start ops)).FirstWaiting control.roundId role) :
    (((applyRoundControl world control answer).value? TaskState.step (after start ops)).isSome ↔
      (readDetail (after start ops)).Unskipped control.roundId role) ∧
    ((readDetail (after start ops)).Unskipped control.roundId role →
      (∀ artifact ∈ (after start ops).artifacts.rows,
        (readDetail (after start ops)).Booked control.roundId role artifact ∧
          artifact.payload.explicitRound ≤ control.roundId) →
      HandsOver world control answer role (after start ops)) := by
  have present := hasRound_one_after start ops
  have employed := hasJob_after start ops first.listed
  generalize after start ops = state at present employed current resumes first ⊢
  have detailEmployed : (readDetail state).HasJob role :=
    ((Lasting.step state .backfillTask).trans (.step _ .backfillTask)).hasJob employed
  have runs := @applyRoundControl_eq state world control answer resumes current
  rw [runs.2]
  have scanned := first.waitingRoleForRound
  constructor
  · by_cases unskipped : (readDetail state).Unskipped control.roundId role
    · rw [if_pos unskipped] at scanned
      rw [(resumeWaitingRole_eq scanned).2]
      exact iff_of_true (returns_dispatchNext (hasJob_handedOver detailEmployed)) unskipped
    · rw [if_neg unskipped] at scanned
      refine iff_of_false ?_ unskipped
      unfold resumeWaitingRole
      rw [scanned]
      exact Bool.false_ne_true
  · intro unskipped anchored
    rw [if_pos unskipped] at scanned
    obtain ⟨final, value⟩ := @resumeWaitingRole_eq (readDetail state) _ role world control scanned
    refine ⟨?_, runs.1.trans final, queued_handedOver ?_⟩
    · rw [runs.2, value]
      exact returns_dispatchNext (hasJob_handedOver detailEmployed)
    · exact resuming_readDetail present employed current first.waits anchored

def planWaits : TaskState :=
  after 0 [.updateRoleStatus .director .passed, .updateRoleStatus .architect .queued,
    .updateRoleStatus .architect .waiting, .updateTaskStatus .waitingUser]

def continues : RoundControl := { roundId := 1, decision := .continue_, dispatchNext := false }

theorem plan_resumed : HandsOver {} continues .unsupported .architect planWaits := by
  have first : (readDetail planWaits).FirstWaiting continues.roundId .architect :=
    ⟨by decide, by decide +kernel, by decide +kernel⟩
  have resumes : Resumes (readDetail planWaits) continues := ⟨.inl rfl, by decide +kernel⟩
  have anchored : ∀ artifact ∈ planWaits.artifacts.rows,
      (readDetail planWaits).Booked continues.roundId .architect artifact ∧
        artifact.payload.explicitRound ≤ continues.roundId := by decide +kernel
  exact (waiting_role_resumed 0 _ {} continues .unsupported .architect (by decide +kernel) resumes first).2
    (by decide +kernel) anchored

def implementerWaits : TaskState :=
  after 0 [.saveArtifact (some .director) .routingDecision
      { route := .coreRelay, requiredRoles := [.director, .implementer, .auditor] },
    .updateRoleStatus .director .passed, .updateRoleStatus .implementer .queued,
    .updateRoleStatus .implementer .waiting, .updateTaskStatus .waitingUser]

/-- The scan for the waiting role raises at the architect. -/
theorem skipped_architect_raises :
    (readDetail implementerWaits).FirstWaiting continues.roundId .implementer ∧
      Resumes (readDetail implementerWaits) continues ∧
      continues.roundId = implementerWaits.backfillTask.detailRoundId ∧
      (applyRoundControl {} continues .unsupported).value? TaskState.step implementerWaits = none :=
  ⟨⟨by decide, by decide +kernel, by decide +kernel⟩, ⟨.inl rfl, by decide +kernel⟩, by decide +kernel,
    by decide +kernel⟩

end Service

end Wlcodex.Relay
