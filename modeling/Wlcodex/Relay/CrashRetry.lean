import Wlcodex.Relay.PendingMarks
import Wlcodex.Relay.OldestInput

namespace Wlcodex.Relay

open Wlcodex.Lib

/-! Consumers that die and consumers that try again. -/

namespace TaskState

structure Remembers (before after : TaskState) : Prop where
  marks : ∀ type pendingId, Marking type pendingId →
    ∀ id ∈ before.marks type pendingId, id ∈ after.marks type pendingId
  rounds : ∀ artifactId, ∀ roundId ∈ before.triggered artifactId, roundId ∈ after.triggered artifactId

theorem Remembers.of_marks {state cut : TaskState} {op : StoreOp} (change : Marks state cut op) :
    Remembers state cut where
  marks _ _ marking _ member := mem_marks_of_marks change marking member
  rounds _ _ member := mem_triggered_of_marks change member

theorem Remembers.trans {state middle last : TaskState} (first : Remembers state middle)
    (second : Remembers middle last) : Remembers state last where
  marks type pendingId marking id member :=
    second.marks type pendingId marking id (first.marks type pendingId marking id member)
  rounds artifactId roundId member :=
    second.rounds artifactId roundId (first.rounds artifactId roundId member)

theorem Unmarked.remembers {state next : TaskState} (unmarked : Unmarked state next) :
    Remembers state next := by
  have change : Marks state next .backfillTask := .none unmarked
  exact .of_marks change

theorem unmarked_created (start : Nat) : Unmarked (blank start) (created start) := by
  have opened : Unmarked (blank start) (blank start).createInitialRound := by
    apply Unmarked.of_ledgers _ (ledgers_createInitialRound _)
    exact ((Untriggered.ensureRound _ 1 .initial).trans
      ((Untriggered.writeRule 1).ensureAttempt .director trivial _ _ _)).trans
      (Untriggered.syncLegacyProjection _)
  apply opened.trans
  apply Unmarked.saveArtifact
  unfold Saves Marking savedType
  simp

def Bound (state : TaskState) (pendingId roundId : Nat) : Prop :=
  ∃ transition ∈ state.marks .pendingInputTransition pendingId,
    roundId ∈ state.triggered transition

theorem Remembers.bound {state next : TaskState} (remembers : Remembers state next)
    {pendingId roundId : Nat} (bound : state.Bound pendingId roundId) :
    next.Bound pendingId roundId := by
  obtain ⟨transition, marked, opened⟩ := bound
  exact ⟨transition, remembers.marks _ _ (.inl rfl) transition marked,
    remembers.rounds transition roundId opened⟩

end TaskState

namespace Service

open Script TaskState

theorem only_getTaskDetail : getTaskDetail.Only Plain :=
  only_bind (only_perform trivial) fun _ => only_get

theorem only_currentRoundId : currentRoundId.Only Plain :=
  only_bind only_getTaskDetail fun _ => trivial

theorem only_setWaitingReason (roundId : Nat) (reason : Round → WaitingReason) :
    (setWaitingReason roundId reason).Only Plain :=
  only_bind only_get fun _ => only_perform trivial

theorem only_markRoleFallback (world : World) (role : Role) :
    (markRoleFallback world role).Only Plain :=
  only_bind (only_perform trivial) fun _ =>
    only_bind (only_perform trivial) fun _ => only_perform trivial

theorem only_startRole (world : World) (roundId : Nat) (role : Role) :
    (startRole world roundId role).Only Plain := by
  unfold startRole
  cases world.dispatch with
  | unregistered => exact only_markRoleFallback world role
  | failed =>
      exact only_bind (only_setWaitingReason _ _) fun _ => only_markRoleFallback world role
  | verified metadata =>
      exact only_bind (only_setWaitingReason _ _) fun _ =>
        only_bind (only_perform trivial) fun _ => only_perform trivial

theorem only_claimAndStart (world : World) (roundId : Nat) (role : Role) :
    (claimAndStart world roundId role).Only Plain := by
  intro state
  apply only_bind (only_perform trivial)
  intro _
  split
  · exact only_startRole world roundId role
  · trivial

theorem only_dispatchRole (world : World) (role : Role) : (dispatchRole world role).Only Plain := by
  unfold dispatchRole
  split
  · apply only_bind only_getTaskDetail
    intro detail
    split
    · trivial
    · split
      · exact only_bind (only_perform trivial) fun _ => only_claimAndStart world _ role
      · split
        · exact only_claimAndStart world _ role
        · trivial
  · trivial

def Unoccupied (clear : Prop) (state : TaskState) : StoreOp → Prop
  | .startFollowupRound (some _) => clear → state.Untaken state.nextRoundId
  | _ => True

instance (clear : Prop) [Decidable clear] (state : TaskState) :
    DecidablePred (Unoccupied clear state) := fun op => by
  unfold Unoccupied
  split <;> infer_instance

variable {clear : Prop} {state : TaskState}

abbrev Careful {α : Type} (clear : Prop) (handler : Handler α) (state : TaskState)
    (post : α → TaskState → Prop) : Prop :=
  handler.Relies TaskState.step (Unoccupied clear) Fits state post

theorem careful_of_only {α : Type} {handler : Handler α} (plain : handler.Only Plain) :
    Careful clear handler state fun _ next => Unmarked state next := by
  induction handler generalizing state with
  | done value => exact .refl state
  | raised => trivial
  | read rest ih => exact ih state (plain state)
  | call op rest ih =>
      refine ⟨fits_of_plain plain.1, fun _ => relies_mono (ih plain.2) ?_⟩
      intro _ next unmarked
      exact (Unmarked.step state plain.1).trans unmarked

theorem careful_saveTransition {payload : Payload} (plain : payload.artifactType = none)
    (missing : state.marks .pendingInputTransition payload.pendingInputId = []) :
    Careful clear (saveArtifact none .pendingInputTransition payload) state fun id next =>
      id ∈ next.marks .pendingInputTransition payload.pendingInputId := by
  have seen : savedType .pendingInputTransition payload = .pendingInputTransition := by
    unfold savedType
    rw [plain]
    rfl
  apply relies_call
  · intro _
    rw [seen]
    exact missing
  · intro _
    change (state.saveArtifact none .pendingInputTransition payload).artifacts.lastId ∈ _
    have appended : (state.saveArtifact none .pendingInputTransition payload).artifacts =
        state.artifacts.append .pendingInputTransition
          (filedPayload payload none .pendingInputTransition state.storeRoundId.1) := by
      exact congrArg Ledgers.artifacts (ledgers_fileArtifact state _ _ _)
    change _ ∈ TaskState.marks (state.saveArtifact none .pendingInputTransition payload) _ _
    rw [marks_of_append appended, if_pos ⟨seen, rfl⟩, appended]
    exact List.mem_append_right _ List.mem_cons_self

theorem careful_startFollowupRound {trigger : Nat} (missing : state.triggered trigger = []) :
    Careful clear (startFollowupRound (some trigger)) state fun roundId next =>
      Remembers state next ∧ (clear → roundId ∈ next.triggered trigger) := by
  apply relies_call
  · exact missing
  · intro unoccupied
    refine ⟨.of_marks (marks_step state _), ?_⟩
    intro isClear
    exact (mem_triggered_openedFollowup (Untriggered.startFollowupRound state (some trigger))).mpr
      (.inr ⟨rfl, rfl, unoccupied isClear⟩)

theorem careful_saveArtifact {role : Option Role} {type : ArtifactType} {payload : Payload}
    (fits : state.Fits (.saveArtifact role type payload)) :
    Careful clear (saveArtifact role type payload) state fun _ next =>
      Marks state next (.saveArtifact role type payload) := by
  apply relies_call fits
  intro _
  apply relies_get
  exact relies_pure (marks_step state _)

theorem careful_routeToDirector (roundId : Nat) {pendingId : Nat}
    (missing : pendingId ≠ 0 → state.marks .userFollowup pendingId = []) :
    Careful clear (routeToDirector roundId pendingId) state fun _ next => Remembers state next := by
  have board : ∀ payload : Payload, payload.artifactType = none →
      (saveArtifact (some .director) .relayBoard payload).Only Plain := by
    intro payload plain
    refine only_bind (only_perform ?_) fun _ => only_bind only_get fun _ => trivial
    unfold Plain Saves Marking savedType
    simp [plain]
  apply relies_bind (careful_of_only (board _ rfl))
  intro _ boarded boardedUnmarked
  refine relies_bind (careful_of_only (only_perform trivial)) ?_
  intro _ queued queuedUnmarked
  apply relies_bind (careful_of_only only_getTaskDetail)
  intro _ read readUnmarked
  have unmarked := (boardedUnmarked.trans queuedUnmarked).trans readUnmarked
  apply relies_bind (careful_saveArtifact ?_)
  · intro _ saved change
    exact relies_pure (unmarked.remembers.trans (.of_marks change))
  · intro saves
    have marking : Marking .userFollowup pendingId := saves
    change read.marks .userFollowup pendingId = []
    rw [unmarked.marks _ _ marking]
    rcases marking with impossible | ⟨_, positive⟩
    · cases impossible
    · exact missing positive

end Service

namespace Consumer

open Script TaskState

def Sanctioned (taskId : Nat) (clear : Prop) (desk : Desk) : DeskOp → Prop
  | .task op => desk.task.Fits op
  | .crash op _ => desk.task.Fits op
  | .queue (.consume claim roundId) => clear → claim.pendingInput.taskId = taskId →
      desk.task.Bound claim.pendingInput.id roundId
  | .queue _ => True
  | .enqueue input => input.status = .pending

def Unoccupied (clear : Prop) (desk : Desk) : DeskOp → Prop
  | .task op => Service.Unoccupied clear desk.task op
  | _ => True

instance (clear : Prop) [Decidable clear] (desk : Desk) :
    DecidablePred (Unoccupied clear desk) := fun op => by
  unfold Unoccupied
  split <;> infer_instance

variable {home : Nat → String} {taskId : Nat} {clear : Prop} {desk : Desk}

theorem unoccupied_of_not {clear : Prop} (notClear : ¬ clear) {desk : Desk} (op : DeskOp) :
    Unoccupied clear desk op := by
  unfold Unoccupied Service.Unoccupied
  split
  · split
    · exact fun isClear => absurd isClear notClear
    · trivial
  · trivial

abbrev Careful {α : Type} (home : Nat → String) (taskId : Nat) (clear : Prop)
    (script : DeskHandler α) (desk : Desk) (post : α → Desk → Prop) : Prop :=
  script.Relies (Desk.step home) (Unoccupied clear) (Sanctioned taskId clear) desk post

theorem careful_onTask {α : Type} {handler : Handler α} {post : α → TaskState → Prop}
    (careful : Service.Careful clear handler desk.task post) :
    Careful home taskId clear (onTask handler) desk fun value next => post value next.task := by
  obtain ⟨task, queue⟩ := desk
  induction handler generalizing task with
  | done value => exact careful
  | raised => trivial
  | read rest ih => exact ih task task careful
  | call op rest ih =>
      exact ⟨careful.1, fun met => ih (task.step op) (careful.2 met)⟩

theorem careful_releaseClaim (claim : PendingInputClaim) :
    Careful home taskId clear (releaseClaim claim) desk fun _ _ => True :=
  relies_call trivial fun _ => relies_pure trivial

theorem careful_renewClaim (claim : PendingInputClaim) :
    Careful home taskId clear (renewClaim claim) desk fun value next =>
      next.task = desk.task ∧ ∀ renewed ∈ value, renewed.pendingInput = claim.pendingInput := by
  apply relies_call trivial
  intro _
  split
  · rename_i renewed _ renewal
    refine relies_pure ⟨rfl, ?_⟩
    rintro _ ⟨⟩
    unfold QueueState.renewPendingInputClaim at renewal
    split at renewal
    · split at renewal
      · cases renewal
        rfl
      · cases renewal
    · cases renewal
  · trivial

section Consume

variable (world : World) (passage : Passage) {claim : PendingInputClaim} (dispatchNext : Bool)

variable {roundId : Nat}

theorem careful_markConsumed (bound : clear → desk.task.Bound claim.pendingInput.id roundId) :
    Careful home taskId clear (markConsumed claim roundId) desk fun _ _ => True := by
  apply relies_bind (careful_renewClaim claim)
  rintro renewed next ⟨sameTask, sameInput⟩
  split
  · exact relies_pure trivial
  · rename_i renewed
    apply relies_call
    · intro isClear _
      rw [sameTask, sameInput renewed rfl]
      exact bound isClear
    · intro _
      split
      · exact relies_pure trivial
      · trivial

theorem careful_deliverInput (bound : clear → desk.task.Bound claim.pendingInput.id roundId) :
    Careful home taskId clear (deliverInput world passage claim dispatchNext roundId) desk
      fun _ _ => True := by
  unfold deliverInput
  split
  · split
    · apply relies_bind (careful_renewClaim claim)
      rintro renewed next ⟨sameTask, sameInput⟩
      split
      · exact relies_pure trivial
      · rename_i renewed
        apply relies_bind (careful_onTask (Service.careful_of_only
          (Service.only_dispatchRole world .director)))
        intro _ started unmarked
        apply relies_call trivial
        intro _
        apply careful_markConsumed
        intro isClear
        rw [sameInput renewed rfl]
        have before := bound isClear
        rw [← sameTask] at before
        exact unmarked.remembers.bound before
    · exact careful_releaseClaim claim
  · exact careful_markConsumed bound

theorem marks_nil_of_find?_none {state : TaskState} {type : ArtifactType} {pendingId : Nat}
    (missing : state.artifacts.rows.reverse.find? (fun artifact =>
      artifact.type = type ∧ artifact.payload.pendingInputId = pendingId) = none) :
    state.marks type pendingId = [] := by
  unfold TaskState.marks
  rw [List.map_eq_nil_iff, List.filter_eq_nil_iff]
  intro artifact member
  exact List.find?_eq_none.mp missing artifact (List.mem_reverse.mpr member)

theorem careful_projectInput (bound : clear → desk.task.Bound claim.pendingInput.id roundId) :
    Careful home taskId clear (projectInput world passage claim dispatchNext roundId) desk
      fun _ _ => True := by
  apply relies_get
  split
  · rename_i missing
    have unmarked := marks_nil_of_find?_none (Option.isNone_iff_eq_none.mp missing)
    apply relies_bind (careful_onTask (Service.careful_of_only Service.only_getTaskDetail))
    intro _ read readUnmarked
    apply relies_bind (careful_onTask (Service.careful_routeToDirector roundId ?_))
    · intro _ routed remembers
      apply careful_deliverInput
      intro isClear
      exact remembers.bound (readUnmarked.remembers.bound (bound isClear))
    · intro positive
      rw [readUnmarked.marks _ _ (.inr ⟨rfl, positive⟩)]
      exact unmarked
  · exact careful_deliverInput world passage dispatchNext bound

theorem careful_openRound {transitionId : Nat} (sourceRoundId : Nat)
    (marked : transitionId ∈ desk.task.marks .pendingInputTransition claim.pendingInput.id) :
    Careful home taskId clear (openRound world passage claim dispatchNext transitionId
      sourceRoundId) desk fun _ _ => True := by
  apply relies_get
  cases followup : Service.followupRound? desk.task transitionId with
  | some roundId =>
      apply careful_projectInput
      intro _
      exact ⟨transitionId, marked, (List.min?_eq_some_iff.mp followup).1⟩
  | none =>
      rw [followupRound?_eq, List.min?_eq_none_iff] at followup
      apply relies_bind (careful_onTask (Service.careful_of_only Service.only_currentRoundId))
      intro current read readUnmarked
      split
      · split
        · rw [← readUnmarked.triggered] at followup
          apply relies_bind (careful_onTask (Service.careful_startFollowupRound followup))
          rintro roundId opened ⟨remembers, taken⟩
          apply careful_projectInput
          intro isClear
          exact ⟨transitionId, remembers.marks _ _ (.inl rfl) _
            (readUnmarked.remembers.marks _ _ (.inl rfl) _ marked), taken isClear⟩
        · exact careful_releaseClaim claim
      · exact careful_releaseClaim claim

theorem careful_consumeClaimedPendingInput (sourceRoundId : Option Nat) :
    Careful home taskId clear
      (consumeClaimedPendingInput world passage claim dispatchNext sourceRoundId) desk
      fun _ _ => True := by
  unfold consumeClaimedPendingInput
  split
  · apply relies_get
    cases found : Service.transitionArtifact? desk.task claim.pendingInput.id with
    | some transition =>
        apply relies_bind (careful_onTask (Service.careful_of_only Service.only_currentRoundId))
        intro _ read readUnmarked
        apply careful_openRound
        apply readUnmarked.remembers.marks _ _ (.inl rfl)
        have member := List.mem_of_find?_eq_some found
        have kind := List.find?_some found
        exact List.mem_map_of_mem (List.mem_filter.mpr ⟨List.mem_reverse.mp member, kind⟩)
    | none =>
        have missing := marks_nil_of_find?_none found
        apply relies_bind (careful_onTask (Service.careful_of_only Service.only_currentRoundId))
        intro current read readUnmarked
        split
        · rw [← readUnmarked.marks _ _ (.inl rfl)] at missing
          apply relies_bind (careful_onTask (Service.careful_saveTransition rfl missing))
          intro transitionId saved marked
          exact careful_openRound world passage dispatchNext _ marked
        · exact careful_releaseClaim claim
  · exact careful_releaseClaim claim

end Consume

theorem careful_claimAndConsume (world : World) (passage : Passage) (owner : String)
    (scope : QueueState.ClaimScope) (dispatchNext : Bool) (sourceRoundId : Option Nat) :
    Careful home taskId clear
      (claimAndConsume home world passage taskId owner scope dispatchNext sourceRoundId) desk
      fun _ _ => True := by
  unfold claimAndConsume
  split
  · apply relies_get
    apply relies_call trivial
    intro _
    split
    · apply relies_recover (careful_consumeClaimedPendingInput world passage dispatchNext _)
      intro next
      exact relies_call trivial fun _ => trivial
    · exact relies_pure trivial
    · trivial
  · exact relies_pure trivial

end Consumer

structure Visit where
  world : World
  passage : Passage
  owner : String
  pendingInputId : Option Nat
  queuedThroughRoundId : Option Nat
  dispatchNext : Bool
  sourceRoundId : Option Nat
  calls : Nat
  cut : Option Nat

/-- `consume_pending_after_round` and the recovery of one marked input. -/
def Visit.script (visit : Visit) (home : Nat → String) (taskId : Nat) :
    DeskHandler (Option Nat) :=
  Consumer.claimAndConsume home visit.world visit.passage taskId visit.owner
    { taskId := some taskId
      pendingInputId := visit.pendingInputId
      queuedThroughRoundId := visit.queuedThroughRoundId } visit.dispatchNext visit.sourceRoundId

def DeskOp.Foreign (taskId : Nat) : DeskOp → Prop
  | .task op => TaskState.Plain op
  | .crash op _ => TaskState.Plain op
  | .queue (.consume claim _) => claim.pendingInput.taskId ≠ taskId
  | .queue _ => True
  | .enqueue input => input.status = .pending

inductive DeskEvent (taskId : Nat) where
  | visit (visit : Visit)
  | other (op : DeskOp) (foreign : op.Foreign taskId)

namespace DeskEvent

variable {taskId : Nat} (home : Nat → String)

def ops (desk : Desk) : DeskEvent taskId → List DeskOp
  | .visit worker =>
      let calls := (worker.script home taskId).calls (Desk.step home) desk
      calls.take worker.calls ++
        match worker.cut, calls[worker.calls]? with
        | some commits, some (.task op) => [.crash op commits]
        | _, _ => []
  | .other op _ => [op]

def happen (desk : Desk) (event : DeskEvent taskId) : Desk :=
  (event.ops home desk).foldl (Desk.step home) desk

def Unobstructed (desk : Desk) (event : DeskEvent taskId) : Prop :=
  Along (Desk.step home) (Consumer.Unoccupied True) desk (event.ops home desk)

instance (desk : Desk) (event : DeskEvent taskId) : Decidable (event.Unobstructed home desk) :=
  inferInstanceAs (Decidable (Along (Desk.step home) (Consumer.Unoccupied True) desk
    (event.ops home desk)))

end DeskEvent

namespace Desk

def Settled (taskId : Nat) (desk : Desk) : Prop :=
  ∀ input ∈ desk.queue.inputs, input.taskId = taskId → input.status = .consumed →
    ∃ roundId, input.consumedRoundId = some roundId ∧ desk.task.Bound input.id roundId

variable {home : Nat → String} {taskId : Nat} {clear : Prop} {desk : Desk}

theorem Settled.of_task {next : TaskState} (settled : desk.Settled taskId)
    (remembers : TaskState.Remembers desk.task next) :
    Settled taskId { desk with task := next } := by
  intro input stored ofTask consumed
  obtain ⟨roundId, named, bound⟩ := settled input stored ofTask consumed
  exact ⟨roundId, named, remembers.bound bound⟩

theorem mem_inputs_consume {state next : QueueState} {claim : PendingInputClaim}
    (success : state.consumePendingInputClaim claim roundId = .ok next) {input : PendingInput}
    (stored : input ∈ next.inputs) :
    input ∈ state.inputs ∨ input.id = claim.pendingInput.id ∧
      input.taskId = claim.pendingInput.taskId ∧ input.consumedRoundId = some roundId := by
  unfold QueueState.consumePendingInputClaim at success
  split at success
  · split at success
    · cases success
      rcases Keyed.mem_update.mp stored with ⟨old, _, chosen, rfl⟩ | ⟨kept, _⟩
      · simp only [decide_eq_true_eq] at chosen
        exact .inr ⟨chosen.1, chosen.2.1, rfl⟩
      · exact .inl kept
    · cases success
  · cases success

theorem Settled.of_queue (settled : desk.Settled taskId) {op : QueueOp}
    (sanctioned : Consumer.Sanctioned taskId True desk (.queue op)) :
    Settled taskId (desk.step home (.queue op)) := by
  intro input stored ofTask consumed
  have moved : (desk.queue.step home op).inputs = desk.queue.inputs ∨ _ :=
    QueueState.inputs_step op
  rcases moved with kept | ⟨claim, roundId, next, rfl, success, stepEq⟩
  · change input ∈ (desk.queue.step home op).inputs at stored
    rw [kept] at stored
    exact settled input stored ofTask consumed
  · change input ∈ (desk.queue.step home (.consume claim roundId)).inputs at stored
    rw [stepEq] at stored
    rcases mem_inputs_consume success stored with before | ⟨sameId, sameTask, named⟩
    · exact settled input before ofTask consumed
    · refine ⟨roundId, named, ?_⟩
      have bound := sanctioned trivial (sameTask.symm.trans ofTask)
      rw [← sameId] at bound
      exact bound

theorem Settled.of_enqueue (settled : desk.Settled taskId) {input : PendingInput}
    (pending : input.status = .pending) : Settled taskId (desk.step home (.enqueue input)) := by
  intro row stored ofTask consumed
  change row ∈ ((desk.queue.inputs.insert? input).elim desk.queue _).inputs at stored
  cases inserted : desk.queue.inputs.insert? input with
  | none =>
      rw [inserted] at stored
      exact settled row stored ofTask consumed
  | some inputs =>
      rw [inserted] at stored
      rcases (Keyed.mem_insert? inserted).mp stored with rfl | before
      · rw [pending] at consumed
        cases consumed
      · exact settled row before ofTask consumed

structure Accounted (taskId : Nat) (clear : Prop) (desk : Desk) : Prop where
  marked : desk.task.Marked
  settled : clear → desk.Settled taskId

theorem Accounted.step (accounted : desk.Accounted taskId clear) {op : DeskOp}
    (sanctioned : Consumer.Sanctioned taskId clear desk op) :
    (desk.step home op).Accounted taskId clear := by
  cases op with
  | task op =>
      have change := TaskState.marks_step desk.task op
      exact ⟨accounted.marked.of_marks sanctioned change, fun isClear =>
        (accounted.settled isClear).of_task (.of_marks change)⟩
  | crash op commits =>
      have change := TaskState.marks_crashed desk.task op commits
      exact ⟨accounted.marked.of_marks sanctioned change, fun isClear =>
        (accounted.settled isClear).of_task (.of_marks change)⟩
  | queue op =>
      refine ⟨accounted.marked, fun isClear => (accounted.settled isClear).of_queue ?_⟩
      cases op with
      | consume claim roundId => exact fun _ => sanctioned isClear
      | _ => trivial
  | enqueue input =>
      exact ⟨accounted.marked, fun isClear => (accounted.settled isClear).of_enqueue sanctioned⟩

theorem accounted_created (start now : Nat) : (created start now).Accounted taskId clear := by
  have unmarked : ∀ type pendingId, TaskState.Marking type pendingId →
      (TaskState.created start).marks type pendingId = [] :=
    (TaskState.unmarked_created start).marks
  have untriggered : ∀ artifactId, (TaskState.created start).triggered artifactId = [] :=
    (TaskState.unmarked_created start).triggered
  refine ⟨⟨?_, ?_⟩, ?_⟩
  · intro type pendingId marking
    change ∀ first ∈ (TaskState.created start).marks type pendingId, _
    rw [unmarked type pendingId marking]
    simp
  · intro artifactId
    change ∀ first ∈ (TaskState.created start).triggered artifactId, _
    rw [untriggered]
    simp
  · intro _ input stored
    exact absurd stored (Keyed.not_mem_empty input)

theorem sanctioned_of_foreign {op : DeskOp} (foreign : op.Foreign taskId) :
    Consumer.Sanctioned taskId clear desk op := by
  cases op with
  | task | crash => exact TaskState.fits_of_plain foreign
  | enqueue input => exact foreign
  | queue op =>
      cases op with
      | consume claim roundId => exact fun _ ofTask => absurd ofTask foreign
      | _ => trivial

theorem along_sanctioned (event : DeskEvent taskId) (met : clear → event.Unobstructed home desk) :
    Along (Desk.step home) (Consumer.Sanctioned taskId clear) desk (event.ops home desk) := by
  cases event with
  | other op foreign => exact ⟨sanctioned_of_foreign foreign, trivial⟩
  | visit worker =>
      obtain ⟨calls, callsEq⟩ : ∃ calls,
          calls = (worker.script home taskId).calls (Desk.step home) desk := ⟨_, rfl⟩
      have opsEq : (DeskEvent.visit worker : DeskEvent taskId).ops home desk = calls.take worker.calls ++
          match worker.cut, calls[worker.calls]? with
          | some commits, some (.task op) => [.crash op commits]
          | _, _ => [] := by
        rw [callsEq]
        rfl
      have careful : Consumer.Careful home taskId clear (worker.script home taskId) desk
          fun _ _ => True := Consumer.careful_claimAndConsume _ _ _ _ _ _
      have relied : Along (Desk.step home) (Consumer.Unoccupied clear) desk
          (calls.take worker.calls) := by
        by_cases isClear : clear
        · have whole := met isClear
          unfold DeskEvent.Unobstructed at whole
          rw [opsEq, along_append] at whole
          rw [eq_true isClear]
          exact whole.1
        · apply along_mono _ (along_true desk _)
          intro state op _
          exact Consumer.unoccupied_of_not isClear op
      rw [callsEq] at relied
      have sanctioned := Script.along_of_relies careful worker.calls relied
      rw [← callsEq, List.take_add_one, along_append] at sanctioned
      rw [opsEq, along_append]
      refine ⟨sanctioned.1, ?_⟩
      -- a call that is cut short is sanctioned as the whole call is
      split
      · rename_i commits op _ next
        rw [next] at sanctioned
        exact ⟨sanctioned.2.1, trivial⟩
      · trivial

theorem Accounted.happen (accounted : desk.Accounted taskId clear) (event : DeskEvent taskId)
    (met : clear → event.Unobstructed home desk) :
    (event.happen home desk).Accounted taskId clear := by
  apply invariant_foldl _ accounted (along_sanctioned event met)
  intro state op accounted sanctioned
  exact accounted.step sanctioned

theorem accounted_run (start now : Nat) (events : List (DeskEvent taskId))
    (met : clear → Along (DeskEvent.happen home) (fun desk event => event.Unobstructed home desk)
      (created start now) events) :
    (events.foldl (DeskEvent.happen home) (created start now)).Accounted taskId clear := by
  have initial : (created start now).Accounted taskId clear := accounted_created start now
  generalize created start now = desk at met initial ⊢
  induction events generalizing desk with
  | nil => exact initial
  | cons event rest ih =>
      exact ih _ (fun isClear => (met isClear).2)
        (initial.happen event fun isClear => (met isClear).1)

theorem length_le_one {ids : List Nat} (nodup : ids.Nodup)
    (same : ∀ first ∈ ids, ∀ second ∈ ids, first = second) : ids.length ≤ 1 := by
  match ids with
  | [] => simp
  | [id] => simp
  | first :: second :: rest =>
      have equal := same first (by simp) second (by simp)
      simp [equal] at nodup

theorem eq_singleton {ids : List Nat} {id : Nat} (nodup : ids.Nodup) (member : id ∈ ids)
    (same : ∀ first ∈ ids, ∀ second ∈ ids, first = second) : ids = [id] := by
  obtain ⟨only, rfl⟩ := List.length_eq_one_iff.mp
    (le_antisymm (length_le_one nodup same) (List.length_pos_of_mem member))
  rw [List.mem_singleton.mp member]

theorem nodup_marks (state : TaskState) (type : ArtifactType) (pendingId : Nat) :
    (state.marks type pendingId).Nodup := by
  apply List.Pairwise.map (R := fun first second : Artifact => first.id < second.id)
  · intro first second earlier
    exact Nat.ne_of_lt earlier
  · exact state.artifacts.ascending.filter _

theorem nodup_triggered (state : TaskState) (artifactId : Nat) :
    (state.triggered artifactId).Nodup := by
  apply List.Pairwise.map (R := fun first second : Round => first.roundId ≠ second.roundId)
  · intro first second different
    exact different
  · exact state.rounds.unique.filter _

end Desk

/-- Any number of consumers that stop anywhere, between any other calls: each
pending input has one transition, one round that the transition opened and one
follow-up at most; and where no consumer finds the round that it opens taken by
another artifact, every consumed input is consumed in exactly that round. -/
theorem pending_input_marked_once (home : Nat → String) (taskId start now : Nat)
    (events : List (DeskEvent taskId)) :
    let desk := events.foldl (DeskEvent.happen home) (Desk.created start now)
    (∀ pendingId, (desk.task.marks .pendingInputTransition pendingId).length ≤ 1) ∧
      (∀ artifactId, (desk.task.triggered artifactId).length ≤ 1) ∧
      (∀ pendingId, pendingId ≠ 0 → (desk.task.marks .userFollowup pendingId).length ≤ 1) ∧
      (Along (DeskEvent.happen home) (fun desk event => event.Unobstructed home desk)
          (Desk.created start now) events →
        ∀ input ∈ desk.queue.inputs, input.taskId = taskId → input.status = .consumed →
          ∃ transition roundId,
            desk.task.marks .pendingInputTransition input.id = [transition] ∧
            desk.task.triggered transition = [roundId] ∧
            input.consumedRoundId = some roundId) := by
  intro desk
  have accounted : desk.Accounted taskId False := Desk.accounted_run start now events nofun
  have transitions := fun pendingId =>
    accounted.marked.artifacts .pendingInputTransition pendingId (.inl rfl)
  refine ⟨?_, ?_, ?_, ?_⟩
  · intro pendingId
    exact Desk.length_le_one (Desk.nodup_marks _ _ _) (transitions pendingId)
  · intro artifactId
    exact Desk.length_le_one (Desk.nodup_triggered _ _) (accounted.marked.rounds artifactId)
  · intro pendingId positive
    exact Desk.length_le_one (Desk.nodup_marks _ _ _)
      (accounted.marked.artifacts .userFollowup pendingId (.inr ⟨rfl, positive⟩))
  · intro met input stored ofTask consumed
    have settled : desk.Accounted taskId True := Desk.accounted_run start now events fun _ => met
    obtain ⟨roundId, named, transition, marked, opened⟩ :=
      settled.settled trivial input stored ofTask consumed
    exact ⟨transition, roundId,
      Desk.eq_singleton (Desk.nodup_marks _ _ _) marked (transitions input.id),
      Desk.eq_singleton (Desk.nodup_triggered _ _) opened (accounted.marked.rounds transition),
      named⟩

/-- `consume_pending_after_round` of the first round, to its end. -/
def wholeVisit (owner : String) : Visit where
  world := startingWorld
  passage := {}
  owner := owner
  pendingInputId := none
  queuedThroughRoundId := some 1
  dispatchNext := true
  sourceRoundId := some 1
  calls := 40
  cut := none

/-- The first worker dies inside `start_followup_round`, after the row of the new
round; the recovery comes when its lease has run out. -/
def recoveredRun : List (DeskEvent 1) :=
  [.other (.enqueue ⟨1, 1, 1, .pending, "next", 0, none⟩) rfl,
    .other (.task (.updateTaskStatus .completed)) trivial,
    .visit { wholeVisit "worker" with calls := 4, cut := some 11 },
    .other (.queue (.elapse 300000000)) trivial,
    .visit { wholeVisit "recovery" with
      pendingInputId := some 1, queuedThroughRoundId := none, sourceRoundId := none }]

theorem pending_input_marked_once_recovery :
    let desk := recoveredRun.foldl (DeskEvent.happen sharedHome) (Desk.created 0 0)
    (desk.queue.inputs.rows.map fun input => (input.status, input.consumedRoundId)) =
        [(.consumed, some 2)] ∧
      ∀ input ∈ desk.queue.inputs, input.taskId = 1 → input.status = .consumed →
        ∃ transition roundId,
          desk.task.marks .pendingInputTransition input.id = [transition] ∧
          desk.task.triggered transition = [roundId] ∧ input.consumedRoundId = some roundId :=
  ⟨by decide +kernel,
    (pending_input_marked_once sharedHome 1 0 0 recoveredRun).2.2.2 (by decide +kernel)⟩

def reoccupiedRun : List (DeskEvent 1) :=
  [.other (.enqueue ⟨1, 1, 1, .pending, "first", 0, none⟩) rfl,
    .other (.enqueue ⟨2, 1, 1, .pending, "second", 1, none⟩) rfl,
    .other (.task (.updateTaskStatus .completed)) trivial,
    .visit (wholeVisit "worker"),
    .other (.crash (.startFollowupRound none) 14) rfl,
    .visit (wholeVisit "other")]

/-- The second input is consumed in a round that its transition has not opened. -/
theorem second_input_consumed_in_first_ones_round :
    let desk := reoccupiedRun.foldl (DeskEvent.happen sharedHome) (Desk.created 0 0)
    (desk.queue.inputs.rows.map fun input => (input.id, input.status, input.consumedRoundId)) =
        [(2, .consumed, some 2), (1, .consumed, some 2)] ∧
      desk.task.marks .pendingInputTransition 1 = [2] ∧ desk.task.triggered 2 = [2] ∧
      desk.task.marks .pendingInputTransition 2 = [6] ∧ desk.task.triggered 6 = [] := by
  decide +kernel

end Wlcodex.Relay
