import Wlcodex.Relay.ServiceSpecs

namespace Wlcodex.Relay

open Wlcodex.Lib

/-! Handlers that may leave the current round. -/

namespace Service

open Script TaskState

def Served (mode : ExecutionMode) (speaks : Nat → Role → Prop) (role : Role)
    (state : TaskState) : Prop :=
  ∃ roundId, Current mode speaks roundId state ∧ speaks roundId role

def Unfinished (status : Status) : Prop := status ≠ .completed

/-- The calls of a handler; it completes a round only where `completes` holds. -/
def Guarded (mode : ExecutionMode) (speaks : Nat → Role → Prop) (completes : TaskState → Prop)
    (state : TaskState) (op : StoreOp) : Prop :=
  ∃ roundId, Current mode speaks roundId state ∧
    (Local mode speaks roundId Unfinished op ∨ (∃ trigger, op = .startFollowupRound trigger) ∨
      op = .updateTaskStatus .completed ∧ completes state)

def Admitted (mode : ExecutionMode) (speaks : Nat → Role → Prop) (completes : TaskState → Prop)
    (role : Role) {α : Type} (handler : Handler α) (state : TaskState)
    (post : α → TaskState → Prop) : Prop :=
  handler.Holds TaskState.step (Guarded mode speaks completes) (Served mode speaks role) state post

variable {mode : ExecutionMode} {speaks : Nat → Role → Prop} {completes : TaskState → Prop}
  {role : Role} {roundId : Nat} {state : TaskState} {α β : Type}

theorem Guarded.stays (directed : ∀ roundId, speaks roundId .director) {op : StoreOp}
    (guarded : Guarded mode speaks completes state op) :
    ∃ roundId, Stays mode speaks roundId
      (fun status => status = .completed → op = .updateTaskStatus .completed ∧ completes state)
      state (state.step op) := by
  obtain ⟨roundId, current, isLocal | ⟨trigger, rfl⟩ | ⟨rfl, allowed⟩⟩ := guarded
  · have stays : Stays mode speaks roundId Unfinished state (state.step op) :=
      current.step isLocal
    refine ⟨roundId, stays.current, ?_⟩
    exact stays.writes.mono fun write spoken => by
      cases write with
      | round other status => exact fun same => absurd same spoken
      | attempt other role attemptNo status => exact spoken
  · refine ⟨roundId + 1, ?_⟩
    exact (current.startFollowupRound trigger (directed _) (by simp) (by simp)).2
  · refine ⟨roundId, ?_⟩
    exact current.updateTaskStatus .completed (by decide) fun _ => ⟨rfl, allowed⟩

theorem Guarded.extends (directed : ∀ roundId, speaks roundId .director) {op : StoreOp}
    (guarded : Guarded mode speaks completes state op) :
    Extends (Spoken speaks fun status =>
      status = .completed → op = .updateTaskStatus .completed ∧ completes state)
      state (state.step op) := by
  obtain ⟨_, stays⟩ := guarded.stays directed
  exact stays.writes

theorem Within.admitted {handler : Handler α} {post : α → Prop}
    (within : Within mode speaks roundId Unfinished handler post) (voiced : speaks roundId role)
    (current : Current mode speaks roundId state) :
    Admitted mode speaks completes role handler state fun value next =>
      post value ∧ Current mode speaks roundId next :=
  holds_mono (fun _ _ both => ⟨roundId, both.1, .inl both.2⟩)
    (fun _ kept => ⟨roundId, kept, voiced⟩) (fun _ _ both => both) (within state current)

theorem Within.served {handler : Handler α}
    (within : Within mode speaks roundId Unfinished handler fun _ => True) (voiced : speaks roundId role)
    (current : Current mode speaks roundId state) :
    Admitted mode speaks completes role handler state fun _ => Served mode speaks role :=
  holds_mono (fun _ _ allowed => allowed) (fun _ aborted => aborted)
    (fun _ _ both => ⟨roundId, both.2, voiced⟩) (within.admitted voiced current)

theorem Within.then {first : Handler α} {middle : α → Prop} {next : α → Handler β}
    {post : β → TaskState → Prop}
    (within : Within mode speaks roundId Unfinished first middle) (voiced : speaks roundId role)
    (current : Current mode speaks roundId state)
    (rest : ∀ value next_, middle value → Current mode speaks roundId next_ →
      Admitted mode speaks completes role (next value) next_ post) :
    Admitted mode speaks completes role (first >>= next) state post :=
  holds_bind (within.admitted voiced current) fun value next_ both =>
    rest value next_ both.1 both.2

theorem unfinished_of_ne (status : Status) (unfinished : status ≠ .completed) :
    Unfinished status := unfinished

section Pending

variable (directed : ∀ roundId, speaks roundId .director)

theorem within_routeToDirector {other : Nat} (known : 0 < other ∧ other ≤ roundId)
    (voiced : speaks roundId .director) (pendingId : Nat) :
    Within mode speaks roundId Unfinished (routeToDirector other pendingId) fun _ => True := by
  have saved : ∀ type : ArtifactType, type ∉ ArtifactType.booked →
      Within mode speaks roundId Unfinished (saveArtifact (some .director) type
        { roundId := some other, pendingInputId := pendingId }) fun _ => True := by
    intro type unbooked
    exact within_saveArtifact rfl known fun booked => absurd booked unbooked
  refine (saved .relayBoard (by decide)).bind fun _ _ => ?_
  refine (within_updateRoleStatus voiced _).bind fun _ _ => ?_
  refine within_getTaskDetail.bind fun _ _ => ?_
  exact (saved .userFollowup (by decide)).bind fun _ _ => keeps_pure trivial

include directed

theorem within_projectPendingInput (world : World) (claim : PendingClaim) {other : Nat}
    (known : 0 < other ∧ other ≤ roundId) (dispatchNext : Bool) :
    Within mode speaks roundId Unfinished (projectPendingInput world claim other dispatchNext)
      fun _ => True := by
  have dispatched : Within mode speaks roundId Unfinished
      (if dispatchNext ∧ claim.openBeforeDispatch ∧ claim.renewed then
        dispatchRole world .director else pure ()) fun _ => True :=
    keeps_ite (fun _ => within_dispatchRole (directed _) unfinished_of_ne world) fun _ =>
      keeps_pure trivial
  refine keeps_get.bind fun state _ => ?_
  refine keeps_ite (fun _ => ?_) fun _ => dispatched
  refine within_getTaskDetail.bind fun _ _ => ?_
  exact (within_routeToDirector known (directed _) _).bind fun _ _ => dispatched

theorem admitted_startFollowupRound (trigger : Option Nat) (current : Current mode speaks roundId state) :
    Admitted mode speaks completes .director (startFollowupRound trigger) state fun value next =>
      value = roundId + 1 ∧ Current mode speaks (roundId + 1) next := by
  have started : _ ∧ Stays mode speaks (roundId + 1) Unfinished state _ :=
    current.startFollowupRound trigger (directed _) (unfinished_of_ne _ (by decide))
      (unfinished_of_ne _ (by decide))
  exact ⟨⟨roundId, current, .inr (.inl ⟨trigger, rfl⟩)⟩, started.1, started.2.current⟩

omit directed in
theorem followupRound?_known {transitionId other : Nat} (current : Current mode speaks roundId state)
    (found : followupRound? state transitionId = some other) : 0 < other ∧ other ≤ roundId := by
  have member := List.min?_mem found
  obtain ⟨row, rowMember, rfl⟩ := List.mem_map.mp member
  have stored := RoundTable.find?_of_mem (List.mem_filter.mp rowMember).1
  exact current.order.hasRound_iff_le.mp (hasRound_iff.mpr ⟨row, stored⟩)

theorem admitted_openPendingRound (world : World) (claim : PendingClaim)
    (transitionId source : Nat) (dispatchNext : Bool) (current : Current mode speaks roundId state) :
    Admitted mode speaks completes .director
      (openPendingRound world claim transitionId source dispatchNext) state
      fun _ => Served mode speaks .director := by
  refine holds_get ?_
  cases found : followupRound? state transitionId with
  | some other =>
      have known := followupRound?_known current found
      exact (within_projectPendingInput directed world claim known dispatchNext).served (directed _) current
  | none =>
      refine within_currentRoundId.then (directed _) current fun value next _ kept => ?_
      split
      · refine holds_bind (admitted_startFollowupRound directed _ kept) ?_
        rintro _ opened ⟨rfl, opens⟩
        have known : 0 < roundId + 1 ∧ roundId + 1 ≤ roundId + 1 := ⟨Nat.succ_pos _, le_rfl⟩
        exact (within_projectPendingInput directed world claim known dispatchNext).served (directed _) opens
      · exact ⟨roundId, kept, directed _⟩

theorem admitted_consumePendingAfterRound (world : World) (finished : Nat) (dispatchNext : Bool)
    (current : Current mode speaks roundId state) :
    Admitted mode speaks completes .director (consumePendingAfterRound world finished dispatchNext) state
      fun _ => Served mode speaks .director := by
  unfold consumePendingAfterRound
  cases world.pending with
  | none => exact ⟨roundId, current, directed _⟩
  | some claim =>
      dsimp only
      split
      · refine holds_get ?_
        cases transitionArtifact? state claim.id with
        | some transition =>
            exact within_currentRoundId.then (directed _) current fun _ _ _ kept =>
              admitted_openPendingRound directed world claim _ _ dispatchNext kept
        | none =>
            refine within_currentRoundId.then (directed _) current fun value next same kept => ?_
            split
            · rename_i isCurrent
              rw [same] at isCurrent
              subst isCurrent
              have known : 0 < max 1 finished ∧ max 1 finished ≤ max 1 finished :=
                ⟨kept.order.positive, le_rfl⟩
              refine Within.then (within_saveArtifact (by simp only [Option.getD_some]; omega)
                known ?_) (directed _) kept ?_
              · simp [ArtifactType.booked, ArtifactType.result]
              · exact fun transitionId _ _ after =>
                  admitted_openPendingRound directed world claim transitionId _ dispatchNext after
            · exact ⟨roundId, kept, directed _⟩
      · exact ⟨roundId, current, directed _⟩

end Pending

section Outputs

variable (voiced : speaks roundId role)
include voiced

theorem within_rejectOutput (world : World) (error : String) (protocolAttempt dispatchNext : Bool)
    (runtimeEventId : Int) :
    Within mode speaks roundId Unfinished
      (rejectOutput world role error protocolAttempt dispatchNext runtimeEventId)
      fun _ => True := by
  have blocked : ∀ retried : Bool, Within mode speaks roundId Unfinished
      (if retried then pure () else blockRoleWithError role error) fun _ => True := fun retried =>
    keeps_ite (fun _ => keeps_pure trivial) fun _ =>
      within_blockRoleWithError voiced unfinished_of_ne _ _
  unfold rejectOutput
  dsimp only
  split
  · refine Keeps.bind (within_recordInvalidSemanticArtifact voiced _ _ _) fun _ _ => ?_
    refine keeps_ite (fun _ => ?_) fun _ => blocked false
    exact (within_retryRole voiced unfinished_of_ne world _ _).bind fun _ _ => blocked _
  · refine keeps_ite (fun _ => ?_) fun _ => blocked false
    exact (within_retryRole voiced unfinished_of_ne world _ _).bind fun _ _ => blocked _

theorem within_refuseOutput (world : World) (verdict : RoleGuardrailResult) (dispatchNext : Bool) :
    Within mode speaks roundId Unfinished (refuseOutput world role verdict dispatchNext)
      fun _ => True := by
  have stopped : ∀ retried : Bool, Within mode speaks roundId Unfinished
      (if retried then pure ()
        else if verdict.action = .waitingUser then waitRoleWithGuardrail role verdict.reason
        else blockRoleWithError role verdict.reason (some .guardrail)) fun _ => True := by
    intro retried
    refine keeps_ite (fun _ => keeps_pure trivial) fun _ => keeps_ite (fun _ => ?_) fun _ => ?_
    · exact within_waitRoleWithGuardrail voiced unfinished_of_ne _
    · exact within_blockRoleWithError voiced unfinished_of_ne _ _
  refine keeps_ite (fun _ => ?_) fun _ => stopped false
  exact (within_retryRole voiced unfinished_of_ne world _ _).bind fun _ _ => stopped _

theorem within_awaitPlanApproval (job : JobIdentity) (runtimeEventId : Int) :
    Within mode speaks roundId Unfinished (awaitPlanApproval role job roundId runtimeEventId)
      fun _ => True := by
  refine (within_setWaitingReason _).bind fun _ _ => ?_
  refine Keeps.bind (within_perform rfl) fun _ _ => ?_
  refine (within_updateRoleStatus voiced _).bind fun _ _ => ?_
  exact within_updateTaskStatus unfinished_of_ne (by decide) (by decide)

omit voiced in
theorem within_awaitAnswer (reason : WaitingReason) (job : JobIdentity) (artifactId : Nat)
    (runtimeEventId : Int) :
    Within mode speaks roundId Unfinished
      (awaitAnswer role reason job roundId artifactId runtimeEventId) fun _ => True := by
  have annotated : Local mode speaks roundId Unfinished
      (.annotateQuestion artifactId (job.provenance runtimeEventId)) := trivial
  refine Keeps.bind (within_perform annotated) fun _ _ => ?_
  refine (within_setWaitingReason _).bind fun _ _ => ?_
  refine Keeps.bind (within_perform rfl) fun _ _ => ?_
  exact within_updateTaskStatus unfinished_of_ne (by decide) (by decide)

theorem within_followDecision (world : World) (envelope : RoleEnvelope)
    (decision : RoutingDecision) (job : JobIdentity) (dispatchNext : Bool) (runtimeEventId : Int)
    (queued : decision.route ∉ [Route.waitingUser, Route.blocked] → ∀ next,
      firstRequiredRoleAfterDirector decision.requiredRoles decision.route = some next →
        speaks roundId next) :
    Within mode speaks roundId Unfinished
      (followDecision world role envelope decision job roundId dispatchNext runtimeEventId)
      fun _ => True := by
  refine keeps_ite (fun _ => ?_) fun proceeds => keeps_ite (fun _ => ?_) fun decided => ?_
  · exact (within_updateRoleStatus voiced _).bind fun _ _ =>
      within_updateTaskStatus unfinished_of_ne (by decide) (by decide)
  · refine (within_updateRoleStatus voiced _).bind fun _ _ => ?_
    refine (within_setWaitingReason _).bind fun _ _ => ?_
    refine Keeps.bind (within_perform rfl) fun _ _ => ?_
    exact within_updateTaskStatus unfinished_of_ne (by decide) (by decide)
  · refine (within_updateRoleStatus voiced _).bind fun _ _ => ?_
    refine (within_updateTaskStatus unfinished_of_ne (by decide) (by decide)).bind fun _ _ => ?_
    refine keeps_ite (fun _ => within_queueRole voiced unfinished_of_ne world true) fun _ => ?_
    cases target : firstRequiredRoleAfterDirector decision.requiredRoles decision.route with
    | none => exact keeps_pure trivial
    | some next =>
        have open_ : decision.route ∉ [Route.waitingUser, Route.blocked] := by
          simp only [List.mem_cons, List.not_mem_nil, or_false, not_or]
          exact ⟨fun waits => decided (.inl waits), proceeds⟩
        exact (within_createHandoffPacket _ _ _).bind fun _ _ =>
          within_queueRole (queued open_ next target) unfinished_of_ne world dispatchNext

theorem within_handleRoutingDecision (world : World) (message : RoleMessage)
    (dispatchNext : Bool) (runtimeEventId : Int)
    (queued : ∀ execution : Round, execution.executionMode = mode → ∀ decision,
      decisionError? execution decision = none →
      decision.route ∉ [Route.waitingUser, Route.blocked] → ∀ next,
      firstRequiredRoleAfterDirector decision.requiredRoles decision.route = some next →
        speaks roundId next) :
    Within mode speaks roundId Unfinished
      (handleRoutingDecision world role message dispatchNext runtimeEventId) fun _ => True := by
  refine keeps_ite (fun _ => within_blockRoleWithError voiced unfinished_of_ne _ _) fun _ => ?_
  refine within_getTaskDetail.bind fun detail _ => ?_
  cases normalizeRoutingDecision world.prompt message.routing with
  | error error => exact within_blockRoleWithError voiced unfinished_of_ne _ _
  | ok decision =>
      refine within_currentRoundId.bind fun value same => ?_
      rw [same]
      refine keeps_get.bind fun state current => ?_
      cases refused : decisionError? (state.roundExecution roundId) decision with
      | some error => exact within_blockRoleWithError voiced unfinished_of_ne _ _
      | none =>
          have saved : ∀ asks, Within mode speaks roundId Unfinished
              (saveArtifact (some role) .routingDecision
                (decisionPayload message.envelope decision roundId runtimeEventId asks))
              fun _ => True := by
            intro asks
            cases asks <;> exact within_saveOwn voiced rfl rfl
          refine (saved _).bind fun _ _ => ?_
          exact within_followDecision voiced world _ _ _ _ _ fun open_ next target =>
            queued _ current.order.executionMode decision refused open_ next target

end Outputs

end Service

end Wlcodex.Relay
