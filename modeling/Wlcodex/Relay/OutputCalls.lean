import Wlcodex.Relay.GuardedCalls

namespace Wlcodex.Relay

open Wlcodex.Lib

/-! The calls of `handle_role_output`. -/

namespace Service

open Script TaskState

variable {mode : ExecutionMode} {speaks : Nat → Role → Prop} {completes : TaskState → Prop}
  {role : Role} {roundId : Nat} {state : TaskState} {α : Type} {post : α → TaskState → Prop}

theorem admitted_getTaskDetail {next : TaskState → Handler α} (current : Current mode speaks roundId state)
    (rest : Current mode speaks roundId state.backfillTask →
      Admitted mode speaks completes role (next state.backfillTask) state.backfillTask post) :
    Admitted mode speaks completes role (getTaskDetail >>= next) state post := by
  have repaired : Stays mode speaks roundId Unfinished state state.backfillTask :=
    current.backfillTask
  exact ⟨⟨roundId, current, .inl trivial⟩, rest repaired.current⟩

theorem admitted_perform {op : StoreOp} {next : Unit → Handler α}
    (current : Current mode speaks roundId state) (isLocal : Local mode speaks roundId Unfinished op)
    (rest : Current mode speaks roundId (state.step op) →
      Admitted mode speaks completes role (next ()) (state.step op) post) :
    Admitted mode speaks completes role (perform op >>= next) state post :=
  ⟨⟨roundId, current, .inl isLocal⟩, rest (current.step isLocal).current⟩

theorem admitted_saveArtifact {author : Option Role} {type : ArtifactType} {payload : Payload}
    {next : Nat → Handler α} (current : Current mode speaks roundId state)
    (isLocal : Local mode speaks roundId Unfinished (.saveArtifact author type payload))
    (rest : Current mode speaks roundId (state.saveArtifact author type payload) →
      Admitted mode speaks completes role
        (next (state.saveArtifact author type payload).artifacts.lastId)
        (state.saveArtifact author type payload) post) :
    Admitted mode speaks completes role (saveArtifact author type payload >>= next) state post :=
  ⟨⟨roundId, current, .inl isLocal⟩, rest (current.step isLocal).current⟩

theorem within_resetRoles (roles : List Role) :
    Within mode speaks roundId Unfinished (resetRoles roles) fun _ => True := by
  induction roles with
  | nil => exact keeps_pure trivial
  | cons role rest ih =>
      have idle : Local mode speaks roundId Unfinished (.updateRoleStatus role .idle) := .inl rfl
      exact (within_perform idle).bind fun _ _ => ih

def Preparing (role : Role) (envelope : RoleEnvelope) : StoreOp → Prop
  | .backfillTask => True
  | .saveArtifact author type payload =>
      author = some role ∧ type = envelope.artifactType ∧ payload.artifactType = some type ∧
        payload.relayRole = none
  | .recordGoalAcceptance _ => True
  | .updateRoleStatus named _ => named = role
  | _ => False

section Handoff

variable {envelope : RoleEnvelope} {ready : TaskState → Prop}
  (voiced : speaks roundId role)
  (kept : ∀ state op, Current mode speaks roundId state → ready state →
    Preparing role envelope op → ready (state.step op))
  (targets : HandsOff envelope ∨ Reworks role envelope → ∀ detail,
    Current mode speaks roundId detail → ready detail → ∀ target,
    detail.resolveHandoffTarget role envelope.handoffTo envelope.nextRole = .ok (some target) →
      speaks roundId target)
  (gated : IsFinalSummary role envelope → ∀ detail : TaskState,
    detail.finalSummaryCompletionError = "" → completes detail)
  (directed : ∀ roundId, speaks roundId .director)

include voiced kept in
theorem admitted_recordGoalAcceptance (world : World) (message : RoleMessage) (artifactId : Nat)
    {next : String → Handler α} (current : Current mode speaks roundId state) (isReady : ready state)
    (rest : ∀ error after, Current mode speaks roundId after → ready after →
      Admitted mode speaks completes role (next error) after post) :
    Admitted mode speaks completes role
      (recordGoalAcceptanceForOutput world role message artifactId roundId >>= next) state
      post := by
  have recorded : Admitted mode speaks completes role
      (recordGoalAcceptanceForOutput world role message artifactId roundId) state
      fun _ after => Current mode speaks roundId after ∧ ready after := by
    refine holds_get ?_
    cases state.acceptanceForOutput? role message artifactId roundId world.test with
    | none => exact ⟨current, isReady⟩
    | some recorded =>
        obtain ⟨attempt, error⟩ := recorded
        have isLocal : Local mode speaks roundId Unfinished
          (.recordGoalAcceptance attempt) := trivial
        dsimp only
        split
        · exact ⟨⟨roundId, current, .inl isLocal⟩, (current.step isLocal).current,
            kept state (.recordGoalAcceptance attempt) current isReady trivial⟩
        · exact ⟨roundId, current, voiced⟩
  exact holds_bind recorded fun error after both => rest error after both.1 both.2

include voiced

section Targets

include kept targets

theorem admitted_handOff (world : World) (dispatchNext : Bool) (handsOff : HandsOff envelope)
    (current : Current mode speaks roundId state) (isReady : ready state) :
    Admitted mode speaks completes role (handOff world role envelope dispatchNext) state
      fun _ => Served mode speaks role := by
  refine admitted_getTaskDetail current fun repaired => ?_
  have stillReady := kept state .backfillTask current isReady trivial
  have resolved := targets (.inl handsOff) _ repaired stillReady
  cases target : state.backfillTask.resolveHandoffTarget role envelope.handoffTo
      envelope.nextRole with
  | error error =>
      exact (within_blockRoleWithError voiced unfinished_of_ne error none).served voiced repaired
  | ok next =>
      cases next with
      | none => exact ⟨roundId, repaired, voiced⟩
      | some next =>
          have within : Within mode speaks roundId Unfinished (do
              perform (.updateTaskStatus .running)
              resetRoles (rolesAfter state.backfillTask next)
              createHandoffPacket role next envelope.evidenceRefs
              queueRole world next dispatchNext) fun _ => True := by
            refine (within_updateTaskStatus unfinished_of_ne (by decide) (by decide)).bind
              fun _ _ => ?_
            refine (within_resetRoles _).bind fun _ _ => ?_
            refine (within_createHandoffPacket _ _ _).bind fun _ _ => ?_
            exact within_queueRole (resolved next target) unfinished_of_ne world dispatchNext
          exact within.served voiced repaired

theorem admitted_rework (world : World) (dispatchNext : Bool) {otherwise : Handler Unit}
    (reworks : Reworks role envelope) (current : Current mode speaks roundId state) (isReady : ready state)
    (rest : ∀ next, Current mode speaks roundId next → ready next →
      Admitted mode speaks completes role otherwise next fun _ => Served mode speaks role) :
    Admitted mode speaks completes role (rework world role envelope dispatchNext otherwise) state
      fun _ => Served mode speaks role := by
  refine admitted_getTaskDetail current fun repaired => ?_
  have stillReady := kept state .backfillTask current isReady trivial
  have resolved := targets (.inr reworks) _ repaired stillReady
  cases target : state.backfillTask.resolveHandoffTarget role envelope.handoffTo
      envelope.nextRole with
  | error error =>
      exact (within_blockRoleWithError voiced unfinished_of_ne error none).served voiced repaired
  | ok next =>
      dsimp only
      split
      · rename_i toImplementer
        subst toImplementer
        have within : Within mode speaks roundId Unfinished (do
            createHandoffPacket role .implementer envelope.evidenceRefs
            perform (.updateTaskStatus .running)
            queueRole world .implementer dispatchNext) fun _ => True := by
          refine (within_createHandoffPacket _ _ _).bind fun _ _ => ?_
          refine (within_updateTaskStatus unfinished_of_ne (by decide) (by decide)).bind
            fun _ _ => ?_
          exact within_queueRole (resolved _ target) unfinished_of_ne world dispatchNext
        exact within.served voiced repaired
      · exact rest _ repaired stillReady

end Targets

include gated directed in
theorem admitted_completeTask (world : World) (finished : Nat) (dispatchNext : Bool)
    (summary : IsFinalSummary role envelope) (current : Current mode speaks roundId state) :
    Admitted mode speaks completes role (completeTask world role finished dispatchNext) state
      fun _ => Served mode speaks role := by
  refine admitted_getTaskDetail current fun repaired => ?_
  split
  · exact (within_blockRoleWithError voiced unfinished_of_ne _ none).served voiced repaired
  · rename_i accepted
    have completed : Stays mode speaks roundId (fun _ => True) _ _ :=
      repaired.updateTaskStatus .completed (by decide) trivial
    refine ⟨⟨roundId, repaired, .inr (.inr ⟨rfl, gated summary _ (not_not.mp accepted)⟩)⟩, ?_⟩
    -- only the director summarizes, and it may speak in the next round
    obtain ⟨_, rfl, _⟩ := summary
    exact admitted_getTaskDetail completed.current fun again =>
      admitted_consumePendingAfterRound directed world finished dispatchNext again

include kept targets gated directed

theorem admitted_advance (world : World) (finished : Nat) (dispatchNext : Bool)
    (current : Current mode speaks roundId state) (isReady : ready state) :
    Admitted mode speaks completes role (advance world role envelope finished dispatchNext) state
      fun _ => Served mode speaks role := by
  have moves : ∀ status, status ≠ .superseded → status ≠ .completed →
      Admitted mode speaks completes role (perform (.updateTaskStatus status)) state
        fun _ => Served mode speaks role := fun status open_ unfinished =>
    (within_updateTaskStatus unfinished_of_ne open_ unfinished).served voiced current
  unfold advance
  split
  · exact moves _ (by decide) (by decide)
  · split
    · exact moves _ (by decide) (by decide)
    · split
      · rename_i summary
        exact admitted_completeTask voiced gated directed world finished dispatchNext summary
          current
      · split
        · rename_i handsOff
          exact admitted_handOff voiced kept targets world dispatchNext handsOff current isReady
        · split
          · exact moves _ (by decide) (by decide)
          · exact ⟨roundId, current, voiced⟩

theorem admitted_concludeOutput (world : World) (job : JobIdentity) (artifactId : Nat)
    (dispatchNext : Bool) (runtimeEventId : Int)
    (current : Current mode speaks roundId state) (isReady : ready state) :
    Admitted mode speaks completes role
      (concludeOutput world role envelope job roundId artifactId dispatchNext runtimeEventId)
      state fun _ => Served mode speaks role := by
  have spoken : Local mode speaks roundId Unfinished
      (.updateRoleStatus role (roleStatus envelope)) := .inr voiced
  refine admitted_perform current spoken fun updated => ?_
  have stillReady := kept state (.updateRoleStatus role (roleStatus envelope)) current isReady rfl
  have advances : ∀ next, Current mode speaks roundId next → ready next →
      Admitted mode speaks completes role (advance world role envelope roundId dispatchNext) next
        fun _ => Served mode speaks role := fun next nextCurrent nextReady =>
    admitted_advance voiced kept targets gated directed world roundId dispatchNext nextCurrent
      nextReady
  cases envelope.interrupt? with
  | some reason => exact (within_awaitAnswer reason job artifactId runtimeEventId).served voiced updated
  | none =>
      dsimp only
      split
      · rename_i reworks
        exact admitted_rework voiced kept targets world dispatchNext reworks updated stillReady
          advances
      · exact advances _ updated stillReady

variable (ready) in
omit targets in
theorem admitted_acceptOutput (world : World) (detail : TaskState) {message : RoleMessage}
    (sameEnvelope : message.envelope = envelope) (dispatchNext : Bool) (runtimeEventId : Int)
    (approved : (∀ execution : Round, execution.executionMode = mode →
        ¬ RequiresPlanApproval execution role envelope) →
      HandsOff envelope ∨ Reworks role envelope → ∀ detail,
      Current mode speaks roundId detail → ready detail → ∀ target,
      detail.resolveHandoffTarget role envelope.handoffTo envelope.nextRole =
        .ok (some target) → speaks roundId target)
    (current : Current mode speaks roundId state) (isReady : ready state) :
    Admitted mode speaks completes role
      (acceptOutput world detail role message roundId dispatchNext runtimeEventId) state
      fun _ => Served mode speaks role := by
  subst sameEnvelope
  have preparing : Preparing role message.envelope (.saveArtifact (some role)
      message.envelope.artifactType
      (outputPayload detail role message.envelope roundId runtimeEventId)) :=
    ⟨rfl, rfl, rfl, rfl⟩
  have savedLocal : Local mode speaks roundId Unfinished (.saveArtifact (some role)
      message.envelope.artifactType
      (outputPayload detail role message.envelope roundId runtimeEventId)) := by
    refine ⟨roundId, rfl, ⟨current.order.positive, le_rfl⟩, ?_⟩
    rintro _ actor ⟨⟩
    exact voiced
  refine admitted_saveArtifact current savedLocal fun saved => ?_
  have savedReady := kept state _ current isReady preparing
  refine holds_get ?_
  split
  · exact (within_awaitPlanApproval voiced _ runtimeEventId).served voiced saved
  · rename_i ungated
    have handsOn := approved fun execution sameMode gated => ungated
      ⟨saved.order.executionMode.trans (sameMode.symm.trans gated.1), gated.2⟩
    refine admitted_recordGoalAcceptance voiced kept world message _ saved savedReady ?_
    intro error after recorded stillReady
    split
    · exact (within_blockRoleWithError voiced unfinished_of_ne _ none).served voiced recorded
    · exact admitted_concludeOutput voiced kept handsOn gated directed world _ _ dispatchNext
        runtimeEventId recorded stillReady

end Handoff

theorem admitted_handleRoleOutput (ready : TaskState → Prop) (world : World)
    (output : RoleOutput) (dispatchNext : Bool) (runtimeEventId : Int)
    (voiced : speaks roundId role) (directed : ∀ roundId, speaks roundId .director)
    (queued : ∀ execution : Round, execution.executionMode = mode → ∀ decision,
      decisionError? execution decision = none →
      decision.route ∉ [Route.waitingUser, Route.blocked] → ∀ next,
      firstRequiredRoleAfterDirector decision.requiredRoles decision.route = some next →
        speaks roundId next)
    (accepts : ∀ message, output = .message message →
      (guardrailRoleEnvelope message.envelope role).action = .accepted →
      message.envelope.artifactType ≠ .routingDecision →
      ∀ detail, Current mode speaks roundId detail → ready detail →
        Admitted mode speaks completes role
          (acceptOutput world detail role message roundId dispatchNext runtimeEventId) detail
          fun _ => Served mode speaks role)
    (initial : (role = .director → state.backfillTask.backfillTask.routingDecision? ≠ none) →
      ready state.backfillTask.backfillTask)
    (drafted : role = .director → ∀ message target, output = .message message →
      message.envelope.handoffTo = some target →
      ready (state.backfillTask.backfillTask.saveArtifact (some .director) .routingDecision
        (followupPayload state.backfillTask.backfillTask message.envelope target)).backfillTask)
    (current : Current mode speaks roundId state) :
    Admitted mode speaks completes role
      (handleRoleOutput world role output dispatchNext runtimeEventId) state
      fun _ => Served mode speaks role := by
  refine admitted_getTaskDetail current fun repaired => ?_
  have sameRound := repaired.detailRoundId
  simp only [sameRound]
  cases output with
  | malformed error protocolAttempt =>
      exact (within_rejectOutput voiced world error protocolAttempt dispatchNext
        runtimeEventId).served voiced repaired
  | message message =>
      dsimp only
      split
      · exact (within_refuseOutput voiced world _ dispatchNext).served voiced repaired
      · rename_i accepted
        split
        · exact (within_handleRoutingDecision voiced world message dispatchNext runtimeEventId
            queued).served voiced repaired
        · rename_i isResult
          have accept := accepts message rfl (not_not.mp accepted) isResult
          refine admitted_getTaskDetail repaired fun again => ?_
          split
          · rename_i undecided
            have blocked : Admitted mode speaks completes role (blockRoleWithError role
                ("director must produce routing_decision before " ++
                  message.envelope.artifactType.text)) state.backfillTask.backfillTask
                fun _ => Served mode speaks role :=
              (within_blockRoleWithError voiced unfinished_of_ne _ none).served voiced again
            unfold ensureFollowupRoutingDecision
            cases handoff : message.envelope.handoffTo with
            | none => exact blocked
            | some target =>
                dsimp only
                split
                · exact blocked
                · have decided : Local mode speaks roundId Unfinished
                      (.saveArtifact (some .director) .routingDecision
                        (followupPayload state.backfillTask.backfillTask message.envelope
                          target)) := by
                    refine ⟨roundId, ?_, ⟨again.order.positive, le_rfl⟩, ?_⟩
                    · simp [followupPayload, again.detailRoundId]
                    · rintro _ actor ⟨⟩
                      exact directed roundId
                  have saved : Current mode speaks roundId (state.backfillTask.backfillTask.step _) :=
                    (again.step decided).current
                  refine ⟨⟨roundId, again, .inl decided⟩, admitted_getTaskDetail saved ?_⟩
                  intro drafts
                  exact accept _ drafts (drafted undecided.1 message target rfl handoff)
          · rename_i decided
            exact accept _ again (initial fun isDirector none_ => decided ⟨isDirector, none_⟩)

end Service

end Wlcodex.Relay
