import Wlcodex.Relay.ApprovalActions
import Wlcodex.Relay.Ledgers
import Wlcodex.Relay.ReplayConfirmation
import Wlcodex.Relay.Routing

namespace Wlcodex.Relay

open Wlcodex.Lib

/-! Deliveries of `approval.requested` events. -/

structure Delivery where
  request : ApprovalRequest
  roundId : Nat
  previous : ApprovalKey
  deriving DecidableEq, Repr

namespace TaskState

/-- `_handle_provider_approval_requested` up to its first `await`, with the
request it assembles from the event and the role's job. -/
def beginApprovalRequested (state : TaskState) (request : ApprovalRequest) :
    Option Delivery × TaskState :=
  let state := state.detail
  let roundId := state.detailRoundId
  if state.roundStatus roundId = .superseded then (none, state)
  else
    match ApprovalKey.ofCall request.requestId request.eventId with
    | none => (none, state)
    | some key =>
        let previous := (state.roundExecution roundId).confirmation
        if previous.source = .providerNativeApproval ∧ key.Names previous then (none, state)
        else if previous.source = .providerNativeResolving ∨
            previous.source = .providerNativeSuperseding then (none, state)
        else if key.eventId < previous.runtimeEventId then (none, state)
        else if previous.source = .providerNativeApproval ∧ previous.providerRequestId ≠ "" ∧
            0 < previous.runtimeEventId then
          let (claimed, state) := state.claimProviderNativeApprovalAction roundId
            previous.providerRequestId previous.runtimeEventId .superseding
          if claimed then
            (some ⟨request, roundId, previous.providerRequestId, previous.runtimeEventId⟩, state)
          else (none, state)
        else (none, (state.replaceProviderNativeApproval roundId request none).2)

def finishApprovalRequested (state : TaskState) (delivery : Delivery) (cancelled : Bool) :
    TaskState :=
  if cancelled then
    (state.replaceProviderNativeApproval delivery.roundId delivery.request
      (some delivery.previous)).2
  else
    (state.restoreProviderNativeApprovalAction delivery.roundId delivery.previous.requestId
      delivery.previous.eventId .superseding).2

def Shows (state : TaskState) (roundId : Nat) (requestId : String) : Prop :=
  ∃ confirmation ∈ state.confirmationAt roundId,
    confirmation.source = .providerNativeApproval ∧ confirmation.providerRequestId = requestId

instance (state : TaskState) (roundId : Nat) (requestId : String) :
    Decidable (state.Shows roundId requestId) :=
  inferInstanceAs (Decidable (∃ confirmation ∈ state.confirmationAt roundId, _ ∧ _))

def ClosedTo (state : TaskState) (roundId : Nat) (key : ApprovalKey) : Prop :=
  let confirmation := (state.roundExecution roundId).confirmation
  state.roundStatus roundId = .superseded ∨
    confirmation.source = .providerNativeResolving ∨
    confirmation.source = .providerNativeSuperseding ∨
    (confirmation.source = .providerNativeApproval ∧ confirmation.providerRequestId ≠ "" ∧
      0 < confirmation.runtimeEventId) ∨
    key.eventId < confirmation.runtimeEventId

instance (state : TaskState) (roundId : Nat) (key : ApprovalKey) :
    Decidable (state.ClosedTo roundId key) :=
  inferInstanceAs (Decidable (_ ∨ _ ∨ _ ∨ (_ ∧ _ ∧ _) ∨ _))

def ArtifactAsks (state : TaskState) (requestId : String) : Prop :=
  ∃ artifact ∈ state.artifacts.rows, artifact.payload.status = some .waiting ∧
    (artifactConfirmation artifact.payload).source = .providerNativeApproval ∧
    artifact.payload.providerRequestId = requestId

instance (state : TaskState) (requestId : String) : Decidable (state.ArtifactAsks requestId) :=
  inferInstanceAs (Decidable (∃ artifact ∈ state.artifacts.rows, _ ∧ _ ∧ _))

variable {state : TaskState} {roundId : Nat} {requestId : String}

theorem shows_detail (known : state.HasRound roundId) (silent : ¬ state.ArtifactAsks requestId)
    (shown : state.detail.Shows roundId requestId) : state.Shows roundId requestId := by
  obtain ⟨confirmation, current, source, named⟩ := shown
  have read : state.detail.confirmationAt roundId = state.backfillTask.confirmationAt roundId := rfl
  rw [read, confirmationAt_backfillTask known] at current
  cases waiting : lastWaiting? state.artifacts.rows state.repairedLatestRound roundId with
  | none =>
      rw [waiting] at current
      exact ⟨confirmation, current, source, named⟩
  | some artifact =>
      exfalso
      rw [waiting] at current
      simp only [Option.map_some, Option.some_or, Option.mem_some_iff] at current
      subst current
      have member := List.mem_of_getLast? waiting
      obtain ⟨stored, waits⟩ := List.mem_filter.mp member
      simp only [waitsIn, decide_eq_true_eq] at waits
      exact silent ⟨artifact, stored, waits.1, source, named⟩

theorem roundExecution_confirmation
    {confirmation : Confirmation} (current : state.confirmationAt roundId = some confirmation) :
    (state.roundExecution roundId).confirmation = confirmation := by
  obtain ⟨row, found, rfl⟩ := Option.map_eq_some_iff.mp current
  simp [roundExecution, found]

theorem shows_of_claim {acting : Nat} {claimedId : String} {eventId : Int} {action : ApprovalAction}
    (shown : (state.claimProviderNativeApprovalAction acting claimedId eventId action).2.Shows
      roundId requestId) : state.Shows roundId requestId := by
  obtain ⟨confirmation, current, source, named⟩ := shown
  simp only [claimProviderNativeApprovalAction] at current
  rcases state.moveApproval_cases acting (ApprovalKey.ofCall claimedId eventId)
      .providerNativeApproval action.source with ⟨_, _, _, _, _, _, _, moved⟩ | refused
  · rw [moved roundId] at current
    split at current
    · rw [Option.mem_some_iff] at current
      subst current
      cases action <;> cases source
    · exact ⟨confirmation, current, source, named⟩
  · rw [refused] at current
    exact ⟨confirmation, current, source, named⟩

theorem shows_of_begin {request : ApprovalRequest} {key : ApprovalKey}
    (identity : ApprovalKey.ofCall request.requestId request.eventId = some key)
    (closed : roundId = state.detail.detailRoundId → state.detail.ClosedTo roundId key)
    (shown : (state.beginApprovalRequested request).2.Shows roundId requestId) :
    state.detail.Shows roundId requestId := by
  unfold beginApprovalRequested at shown
  simp only [identity] at shown
  split_ifs at shown with superseded duplicate inFlight stale offered claimed
  · exact shown
  · exact shown
  · exact shown
  · exact shown
  · exact shows_of_claim shown
  · exact shows_of_claim shown
  · obtain ⟨confirmation, current, source, named⟩ := shown
    rcases state.detail.replaceProviderNativeApproval_cases state.detail.detailRoundId request
        none with ⟨_, _, _, _, _, _, moved⟩ | ⟨_, unchanged⟩
    · rw [moved roundId] at current
      split at current
      · rename_i here
        exfalso
        rcases closed here with isSuperseded | resolving | superseding | shows | newer
        · exact superseded (here ▸ isSuperseded)
        · exact inFlight (.inl (here ▸ resolving))
        · exact inFlight (.inr (here ▸ superseding))
        · exact offered (here ▸ shows)
        · exact stale (here ▸ newer)
      · exact ⟨confirmation, current, source, named⟩
    · rw [unchanged] at current
      exact ⟨confirmation, current, source, named⟩

def ReservedFor (state : TaskState) (delivery : Delivery) : Prop :=
  ∃ confirmation ∈ state.confirmationAt delivery.roundId,
    confirmation.source = .providerNativeSuperseding ∧ delivery.previous.Names confirmation

instance (state : TaskState) (delivery : Delivery) : Decidable (state.ReservedFor delivery) :=
  inferInstanceAs (Decidable (∃ confirmation ∈ state.confirmationAt delivery.roundId, _ ∧ _))

theorem previous_of_begin {request : ApprovalRequest} {delivery : Delivery}
    (waits : (state.beginApprovalRequested request).1 = some delivery) :
    ApprovalKey.ofCall delivery.previous.requestId delivery.previous.eventId =
      some delivery.previous := by
  unfold beginApprovalRequested at waits
  simp only at waits
  split at waits
  · cases waits
  · split at waits
    · cases waits
    · split_ifs at waits with duplicate inFlight stale offered claimed
      cases waits
      rcases state.detail.moveApproval_cases state.detail.detailRoundId
          (ApprovalKey.ofCall _ _) .providerNativeApproval ApprovalAction.superseding.source with
        ⟨_, named, confirmation, keyEquation, current, _, names, _⟩ | refused
      · simp only
        rw [keyEquation, Option.some.injEq, ApprovalKey.mk.injEq,
          roundExecution_confirmation current]
        exact ⟨names.1.symm, names.2.symm⟩
      · simp only [claimProviderNativeApprovalAction, refused] at claimed
        cases claimed

theorem finish_of_not_reserved {delivery : Delivery}
    (clean : ApprovalKey.ofCall delivery.previous.requestId delivery.previous.eventId =
      some delivery.previous)
    (lost : ¬ state.ReservedFor delivery) (cancelled : Bool) :
    state.finishApprovalRequested delivery cancelled = state := by
  have requested : delivery.previous.requestId ≠ "" := by
    intro empty
    unfold ApprovalKey.ofCall at clean
    rw [empty] at clean
    simp [strip] at clean
  cases cancelled with
  | true =>
      rcases state.replaceProviderNativeApproval_cases delivery.roundId delivery.request
          (some delivery.previous) with ⟨_, _, confirmation, _, current, outcome, _⟩ | ⟨_, unchanged⟩
      · exfalso
        unfold TaskState.replaceOutcome at outcome
        simp only at outcome
        split_ifs at outcome with duplicate stale expected
        refine lost ⟨confirmation, current, ?_⟩
        by_contra unreserved
        refine expected ⟨requested, ?_⟩
        by_cases names : delivery.previous.Names confirmation
        · exact .inr fun source => unreserved ⟨source, names⟩
        · exact .inl names
      · exact unchanged
  | false =>
      simp only [finishApprovalRequested, Bool.false_eq_true, ↓reduceIte,
        restoreProviderNativeApprovalAction]
      rcases state.moveApproval_cases delivery.roundId
          (ApprovalKey.ofCall delivery.previous.requestId delivery.previous.eventId)
          ApprovalAction.superseding.source .providerNativeApproval with
        ⟨_, named, confirmation, keyEquation, current, source, names, _⟩ | refused
      · exfalso
        rw [clean, Option.some.injEq] at keyEquation
        subst keyEquation
        exact lost ⟨confirmation, current, source, names⟩
      · rw [refused]

theorem confirmationAt_finish (state : TaskState) (delivery : Delivery) (cancelled : Bool) (elsewhere : roundId ≠ delivery.roundId) :
    (state.finishApprovalRequested delivery cancelled).confirmationAt roundId =
      state.confirmationAt roundId := by
  unfold finishApprovalRequested
  split
  · rcases state.replaceProviderNativeApproval_cases delivery.roundId delivery.request
        (some delivery.previous) with ⟨_, _, _, _, _, _, moved⟩ | ⟨_, unchanged⟩
    · rw [moved roundId, if_neg elsewhere]
    · rw [unchanged]
  · unfold restoreProviderNativeApprovalAction
    rcases state.moveApproval_cases delivery.roundId
        (ApprovalKey.ofCall delivery.previous.requestId delivery.previous.eventId)
        ApprovalAction.superseding.source .providerNativeApproval with
      ⟨_, _, _, _, _, _, _, moved⟩ | refused
    · rw [moved roundId, if_neg elsewhere]
    · rw [refused]

end TaskState

inductive DeliveryInput where
  /-- An `approval.requested` event reaches the handler. -/
  | deliver (request : ApprovalRequest)
  /-- The provider answers the cancellation a delivery waits for. -/
  | answer (delivery : Delivery) (cancelled : Bool)
  /-- A worker makes one of the four store calls on a round. -/
  | act (roundId : Nat) (op : ApprovalOp)
  deriving DecidableEq, Repr

def DeliveryInput.delivered? : DeliveryInput → Option ApprovalKey
  | .deliver request => ApprovalKey.ofCall request.requestId request.eventId
  | .answer delivery _ => ApprovalKey.ofCall delivery.request.requestId delivery.request.eventId
  | .act _ _ => none

def ApprovalOp.finalized? (roundId : Nat) (state : TaskState) : ApprovalOp → Option ApprovalKey
  | .finalize role requestId eventId interrupted =>
      if (state.finalizeProviderNativeApprovalAction roundId role requestId eventId
          interrupted).1 then
        ApprovalKey.ofCall requestId eventId
      else none
  | _ => none

structure DeliveryRun where
  task : TaskState
  waiting : List Delivery
  /-- The approvals finalized so far, each with its round. -/
  finalized : List (Nat × ApprovalKey)

namespace DeliveryRun

def step (run : DeliveryRun) : DeliveryInput → DeliveryRun
  | .deliver request =>
      let (delivery, task) := run.task.beginApprovalRequested request
      { run with task := task, waiting := delivery.toList ++ run.waiting }
  | .answer delivery cancelled =>
      if delivery ∈ run.waiting then
        { run with
          task := run.task.finishApprovalRequested delivery cancelled
          waiting := run.waiting.erase delivery }
      else run
  | .act roundId op =>
      { run with
        task := op.perform roundId run.task
        finalized :=
          ((op.finalized? roundId run.task).map fun key => (roundId, key)).toList ++
            run.finalized }

def Guarded (run : DeliveryRun) : DeliveryInput → Prop
  | .deliver request =>
      ∀ key ∈ ApprovalKey.ofCall request.requestId request.eventId,
        ∀ entry ∈ run.finalized, entry.2 = key →
          ¬ run.task.ArtifactAsks key.requestId ∧
            (entry.1 = run.task.detail.detailRoundId → run.task.detail.ClosedTo entry.1 key)
  | .answer delivery _ =>
      ∀ key ∈ ApprovalKey.ofCall delivery.request.requestId delivery.request.eventId,
        (delivery.roundId, key) ∈ run.finalized → ¬ run.task.ReservedFor delivery
  | .act _ _ => True

instance (run : DeliveryRun) : DecidablePred run.Guarded
  | .deliver request =>
      inferInstanceAs (Decidable (∀ key ∈ ApprovalKey.ofCall request.requestId request.eventId,
        ∀ entry ∈ run.finalized, entry.2 = key → _ ∧ (_ → _)))
  | .answer delivery _ =>
      inferInstanceAs (Decidable (∀ key ∈ ApprovalKey.ofCall delivery.request.requestId
        delivery.request.eventId, _ ∈ run.finalized → ¬ _))
  | .act _ _ => isTrue trivial

def StaysResolved (run : DeliveryRun) (input : DeliveryInput) : Prop :=
  ∀ key ∈ input.delivered?, ∀ entry ∈ run.finalized, entry.2 = key →
    (run.step input).task.Shows entry.1 key.requestId → run.task.Shows entry.1 key.requestId

structure Sound (run : DeliveryRun) : Prop where
  rounds : ∀ entry ∈ run.finalized, run.task.HasRound entry.1
  reservations : ∀ delivery ∈ run.waiting,
    ApprovalKey.ofCall delivery.previous.requestId delivery.previous.eventId =
      some delivery.previous

end DeliveryRun

namespace TaskState

section Rounds

variable {state : TaskState} {roundId : Nat} (known : state.HasRound roundId)
include known

theorem hasRound_step (op : StoreOp) : (state.step op).HasRound roundId := by
  have grown : Extends (fun _ => True) state (state.step op) :=
    extends_step (fun _ => trivial) state op
  exact grown.rounds roundId known

theorem hasRound_perform (acting : Nat) (op : ApprovalOp) :
    (op.perform acting state).HasRound roundId := by
  cases op with
  | claim requestId eventId action =>
      exact hasRound_step known (.claimApproval acting requestId eventId action)
  | restore requestId eventId action =>
      exact hasRound_step known (.restoreApproval acting requestId eventId action)
  | replace request expected =>
      exact hasRound_step known (.replaceApproval acting request expected)
  | finalize role requestId eventId interrupted =>
      exact hasRound_step known (.finalizeApproval acting role requestId eventId interrupted)

theorem hasRound_begin (request : ApprovalRequest) :
    (state.beginApprovalRequested request).2.HasRound roundId := by
  have read : state.detail.HasRound roundId := hasRound_step known .backfillTask
  unfold beginApprovalRequested
  simp only
  split
  · exact read
  · split
    · exact read
    · split_ifs
      · exact read
      · exact read
      · exact read
      · exact hasRound_perform read _ (.claim _ _ .superseding)
      · exact hasRound_perform read _ (.claim _ _ .superseding)
      · exact hasRound_perform read _ (.replace request none)

theorem hasRound_finish (delivery : Delivery) (cancelled : Bool) :
    (state.finishApprovalRequested delivery cancelled).HasRound roundId := by
  unfold finishApprovalRequested
  split
  · exact hasRound_perform known _ (.replace delivery.request (some delivery.previous))
  · exact hasRound_perform known _ (.restore _ _ .superseding)

end Rounds

end TaskState

namespace DeliveryRun

theorem hasRound_finalized {state : TaskState} {roundId : Nat} {op : ApprovalOp}
    {key : ApprovalKey} (finalized : op.finalized? roundId state = some key) :
    state.HasRound roundId := by
  cases op with
  | finalize role requestId eventId interrupted =>
      rcases state.finalizeProviderNativeApprovalAction_cases roundId role requestId eventId
          interrupted with ⟨_, _, _, _, current, _⟩ | refused
      · obtain ⟨row, found, _⟩ := Option.map_eq_some_iff.mp current
        exact TaskState.hasRound_iff.mpr ⟨row, found⟩
      · simp only [ApprovalOp.finalized?, refused] at finalized
        cases finalized
  | claim | restore | replace => cases finalized

theorem sound_step (run : DeliveryRun) (input : DeliveryInput) (sound : run.Sound) :
    (run.step input).Sound := by
  cases input with
  | deliver request =>
      refine ⟨fun entry member => TaskState.hasRound_begin (sound.rounds entry member) request, ?_⟩
      intro delivery member
      rcases List.mem_append.mp member with started | earlier
      · exact TaskState.previous_of_begin (Option.mem_toList.mp started)
      · exact sound.reservations delivery earlier
  | answer delivery cancelled =>
      simp only [step]
      split
      · refine ⟨fun entry member =>
          TaskState.hasRound_finish (sound.rounds entry member) delivery cancelled, ?_⟩
        exact fun other member => sound.reservations other (List.mem_of_mem_erase member)
      · exact sound
  | act roundId op =>
      refine ⟨?_, sound.reservations⟩
      intro entry member
      rcases List.mem_append.mp member with fresh | earlier
      · rw [Option.mem_toList] at fresh
        obtain ⟨key, finalized, rfl⟩ := Option.map_eq_some_iff.mp fresh
        exact TaskState.hasRound_perform (hasRound_finalized finalized) roundId op
      · exact TaskState.hasRound_perform (sound.rounds entry earlier) roundId op

theorem staysResolved_of_guarded (run : DeliveryRun) (input : DeliveryInput) (sound : run.Sound)
    (guarded : run.Guarded input) : run.StaysResolved input := by
  rintro key delivered entry member rfl shown
  cases input with
  | deliver request =>
      obtain ⟨silent, closed⟩ := guarded entry.2 delivered entry member rfl
      exact TaskState.shows_detail (sound.rounds entry member) silent
        (TaskState.shows_of_begin delivered closed shown)
  | answer delivery cancelled =>
      simp only [step] at shown
      split at shown
      · rename_i waits
        by_cases here : entry.1 = delivery.roundId
        · have lost := guarded entry.2 delivered (by rw [← here]; exact member)
          rwa [TaskState.finish_of_not_reserved (sound.reservations delivery waits) lost] at shown
        · unfold TaskState.Shows at shown ⊢
          rwa [TaskState.confirmationAt_finish run.task delivery cancelled here] at shown
      · exact shown
  | act roundId op => cases delivered

end DeliveryRun

open DeliveryRun

/-- In every interleaving of deliveries, cancellations and store calls in which
the deliveries of finalized events meet their guards, no delivery offers a
finalized approval again. -/
theorem finalized_approval_stays_resolved (state : TaskState) (inputs : List DeliveryInput)
    (guarded : Along DeliveryRun.step Guarded ⟨state, [], []⟩ inputs) :
    Along DeliveryRun.step StaysResolved ⟨state, [], []⟩ inputs :=
  along_of_invariant (fun run input sound _ => sound_step run input sound)
    staysResolved_of_guarded ⟨by simp, by simp⟩ guarded

def laterApproval : ApprovalRequest :=
  { commandApproval with requestId := "approve-2", eventId := 9 }

theorem finalized_approval_stays_resolved_later_event :
    let inputs : List DeliveryInput :=
      [.deliver commandApproval, .act 1 (.claim "approve-1" 5 .resolving),
        .act 1 (.finalize .implementer "approve-1" 5 false), .deliver laterApproval,
        .act 1 (.claim "approve-2" 9 .resolving), .deliver commandApproval]
    Along DeliveryRun.step Guarded ⟨.created 0, [], []⟩ inputs ∧
      Along DeliveryRun.step StaysResolved ⟨.created 0, [], []⟩ inputs := by
  intro inputs
  have guarded : Along DeliveryRun.step Guarded ⟨.created 0, [], []⟩ inputs := by
    decide +kernel
  exact ⟨guarded, finalized_approval_stays_resolved (.created 0) inputs guarded⟩

/-- An approval is resolved and its event is delivered again: it is on offer
again. -/
theorem redelivered_event_offers_finalized_approval :
    let before : List DeliveryInput :=
      [.deliver commandApproval, .act 1 (.claim "approve-1" 5 .resolving),
        .act 1 (.finalize .implementer "approve-1" 5 false)]
    let run := before.foldl DeliveryRun.step ⟨.created 0, [], []⟩
    (1, ⟨"approve-1", 5⟩) ∈ run.finalized ∧ ¬ run.StaysResolved (.deliver commandApproval) := by
  intro before run
  have finalized : (1, ⟨"approve-1", 5⟩) ∈ run.finalized := by decide +kernel
  refine ⟨finalized, ?_⟩
  intro resolved
  have shown : (run.step (.deliver commandApproval)).task.Shows 1 "approve-1" := by
    decide +kernel
  have unshown : ¬ run.task.Shows 1 "approve-1" := by decide +kernel
  exact unshown (resolved ⟨"approve-1", 5⟩ (by decide +kernel) _ finalized rfl shown)

end Wlcodex.Relay
