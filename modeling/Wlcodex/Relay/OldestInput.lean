import Wlcodex.Relay.RoundControl
import Wlcodex.Relay.RoundTriggers
import Wlcodex.Relay.SteadyRound
import Wlcodex.Relay.WorkspaceFence

namespace Wlcodex.Relay

open Wlcodex.Lib

/-! The oldest queued input of a task. -/

namespace QueueState

instance : Std.Total queuedBefore where
  total first second := by
    unfold queuedBefore
    omega

instance : IsTrans PendingInput queuedBefore where
  trans first second third := by
    unfold queuedBefore
    omega

variable {home : Nat → String} {state : QueueState}

variable {next : QueueState}

theorem step_claim {workspace owner : String} {scope : ClaimScope} {seconds : Int}
    {answer : Option PendingInputClaim}
    (claimed : state.claimPendingInputForWorkspace home workspace owner scope seconds =
      .ok (answer, next)) : state.step home (.claim workspace owner scope seconds) = next := by
  unfold step
  dsimp only
  rw [claimed]

theorem step_renew (home : Nat → String) {claim : PendingInputClaim} {seconds : Int}
    {answer : Option PendingInputClaim}
    (renewal : state.renewPendingInputClaim claim seconds = .ok (answer, next)) :
    state.step home (.renew claim seconds) = next := by
  unfold step
  dsimp only
  rw [renewal]

theorem step_consume (home : Nat → String) {claim : PendingInputClaim} {roundId : Nat}
    (consumption : state.consumePendingInputClaim claim roundId = .ok next) :
    state.step home (.consume claim roundId) = next := by
  unfold step
  dsimp only
  rw [consumption]

variable {input : PendingInput}

theorem selected?_eq_of_oldest {workspace : String} {scope : ClaimScope}
    (stored : input ∈ state.inputs) (claimable : state.Claimable home workspace scope input)
    (oldest : ∀ other ∈ state.inputs, state.Claimable home workspace scope other →
      queuedBefore input other) : state.selected? home workspace scope = some input := by
  have listed : input ∈ state.inputs.rows.insertionSort queuedBefore :=
    (List.mem_insertionSort queuedBefore).mpr stored
  have sorted := List.pairwise_insertionSort queuedBefore state.inputs.rows
  cases found : state.selected? home workspace scope with
  | none =>
      have skipped := List.find?_eq_none.mp found input listed
      exact absurd claimable (by simpa using skipped)
  | some first =>
      obtain ⟨firstStored, firstClaimable⟩ := selected?_spec found
      have before := oldest first firstStored firstClaimable
      rcases eq_or_of_find?_eq_some sorted found listed (decide_eq_true claimable) with rfl | after
      · rfl
      · have sameId : first.id = input.id := by
          unfold queuedBefore at before after
          omega
        rw [state.inputs.eq_of_key firstStored stored sameId]

structure Grants (home : Nat → String) (state : QueueState) (claim : PendingInputClaim)
    (left : Nat) : Prop where
  fenced : Fenced home state
  stored : claim.pendingInput ∈ state.inputs
  pending : claim.pendingInput.status = .pending
  lease : ∃ lease ∈ state.leases, Holds claim lease ∧ lease.expiresAt = state.now + left

namespace Grants

variable {claim : PendingInputClaim} {left : Nat}

section

variable (grants : Grants home state claim left)

include grants

theorem leased (time : 0 < left) :
    ∃ lease ∈ state.leases.rows, Holds claim lease ∧ state.Active lease.expiresAt := by
  obtain ⟨lease, member, holds, expires⟩ := grants.lease
  refine ⟨lease, member, holds, ?_⟩
  unfold Active
  omega

theorem locked (time : 0 < left) :
    ∃ lock ∈ state.locks.rows, Locks claim lock ∧ state.Active lock.expiresAt := by
  obtain ⟨lease, member, holds, active⟩ := grants.leased time
  exact ⟨lease.lock, grants.fenced.exclusive.lock_of_active member active,
    locks_lock_iff.mpr holds, active⟩

theorem elapse {time : Nat} (within : time ≤ left) :
    Grants home (state.step home (.elapse time)) claim (left - time) := by
  obtain ⟨lease, member, holds, expires⟩ := grants.lease
  refine ⟨fenced_elapse grants.fenced time, grants.stored, grants.pending,
    lease, member, holds, ?_⟩
  change lease.expiresAt = state.now + time + (left - time)
  omega

theorem renew (time : 0 < left) :
    state.renewPendingInputClaim claim 300 =
        .ok (some { claim with expiresAt := state.expiry 300 },
          state.renewed claim (state.expiry 300)) ∧
      Grants home (state.renewed claim (state.expiry 300))
        { claim with expiresAt := state.expiry 300 } 300000000 := by
  have leased := grants.leased time
  constructor
  · unfold renewPendingInputClaim
    rw [if_pos leased, if_pos (grants.locked time)]
  · obtain ⟨lease, member, holds, active⟩ := leased
    refine ⟨fenced_renewed grants.fenced claim _, grants.stored, grants.pending,
      { lease with expiresAt := state.expiry 300 }, ?_, holds, rfl⟩
    exact Keyed.mem_update.mpr (.inl ⟨lease, member, by simpa using ⟨holds, active⟩, rfl⟩)

theorem renew_late {time : Nat} (expired : left ≤ time) :
    (state.step home (.elapse time)).renewPendingInputClaim claim 300 =
      .ok (none, state.step home (.elapse time)) := by
  unfold renewPendingInputClaim
  rw [if_neg]
  rintro ⟨other, otherMember, otherHolds, active⟩
  obtain ⟨lease, member, holds, expires⟩ := grants.lease
  rw [state.leases.eq_of_key otherMember member (otherHolds.1.trans holds.1.symm)] at active
  change state.now + time < lease.expiresAt at active
  omega

theorem consume (time : 0 < left) (roundId : Nat) :
    ∃ next, state.consumePendingInputClaim claim roundId = .ok next ∧
      { claim.pendingInput with status := .consumed, consumedRoundId := some roundId } ∈
        next.inputs := by
  unfold consumePendingInputClaim
  rw [if_pos (grants.leased time),
    if_pos ⟨claim.pendingInput, grants.stored, rfl, rfl, grants.pending⟩]
  refine ⟨_, rfl, ?_⟩
  exact Keyed.mem_update.mpr
    (.inl ⟨claim.pendingInput, grants.stored, by simpa using grants.pending, rfl⟩)

end

end Grants

section Oldest

variable {workspace owner : String} {scope : ClaimScope} {input : PendingInput}
  (fenced : Fenced home state) (stripped : strip workspace = workspace)
  (free : ∀ lease ∈ state.leases, lease.workspace = workspace → ¬ state.Active lease.expiresAt)
  (stored : input ∈ state.inputs) (claimable : state.Claimable home workspace scope input)
  (oldest : ∀ other ∈ state.inputs, state.Claimable home workspace scope other →
    queuedBefore input other)

include fenced free

theorem unlocked_of_free :
    ((state.locks.find? workspace).any fun lock => state.Active lock.expiresAt) = false := by
  cases found : state.locks.find? workspace with
  | none => rfl
  | some lock =>
      obtain ⟨member, inside⟩ := Keyed.find?_eq_some_iff.mp found
      simp only [Option.any_some, decide_eq_false_iff_not]
      intro active
      obtain ⟨lease, leaseMember, leaseActive, rfl⟩ :=
        (fenced.exclusive.agree lock).mp ⟨member, active⟩
      exact free lease leaseMember inside leaseActive

include stripped stored claimable oldest

theorem claimUnlocked_oldest (owned : owner ≠ "") (left : Nat)
    (unlocked : ∀ lock ∈ state.locks, lock.workspace ≠ workspace) :
    ∃ claim next, claim.pendingInput = input ∧
      state.claimUnlocked home workspace owner scope (state.now + left) = .ok (some claim, next) ∧
      Grants home next claim left := by
  have inHome : workspace = home input.taskId := by
    rw [← candidateWorkspace_eq fenced stored]
    exact claimable.2.2.2.2.1.symm
  have queued : state.Queued input.id input.taskId := ⟨input, stored, rfl, rfl⟩
  obtain ⟨count, leaseEq⟩ := leaseFor_eq fenced stored workspace owner (state.now + left)
  -- a stale lease of the input is taken over
  obtain ⟨leases, put⟩ : ∃ leases, state.putLease
      ⟨input.id, input.taskId, workspace, owner, state.now + left, count⟩ = some leases := by
    unfold putLease
    cases found : state.leases.find? input.id with
    | some lease => exact ⟨_, rfl⟩
    | none =>
        apply Option.isSome_iff_exists.mp
        exact Keyed.insert?_isSome (Keyed.find?_eq_none_iff.mp found)
  obtain ⟨locks, insert⟩ : ∃ locks, state.locks.insert?
      ⟨workspace, input.id, input.taskId, owner, state.now + left⟩ = some locks := by
    apply Option.isSome_iff_exists.mp
    exact Keyed.insert?_isSome unlocked
  have putLock : state.putLock ⟨workspace, input.id, input.taskId, owner, state.now + left⟩ =
      some locks := by
    unfold QueueState.putLock
    rw [if_neg, insert]
    rintro ⟨row, member, sameInput⟩
    obtain ⟨rowQueued, rowHome⟩ := fenced.locks row member
    rw [sameInput] at rowQueued
    apply unlocked row member
    rw [rowHome, rowQueued.taskId_eq queued, inHome]
  refine ⟨⟨input, workspace, owner, state.now + left, count⟩,
    { state with leases := leases, locks := locks }, rfl, ?_, ?_⟩
  · unfold claimUnlocked
    rw [if_neg, selected?_eq_of_oldest stored claimable oldest]
    · dsimp only
      rw [leaseEq, put]
      dsimp only [QueueLease.lock]
      rw [putLock]
    · rintro ⟨lease, member, inside, _, active⟩
      exact free lease member inside active
  · refine ⟨?_, stored, claimable.1, _, (mem_putLease put).mpr (.inl rfl), ⟨rfl, rfl, rfl, rfl⟩,
      rfl⟩
    exact fenced_grant fenced ⟨input.id, input.taskId, workspace, owner, state.now + left, count⟩
      queued inHome stripped owned free unlocked put insert

theorem claim_oldest (named : workspace ≠ "") (owned : strip owner ≠ "") :
    ∃ claim next, claim.pendingInput = input ∧
      state.claimPendingInputForWorkspace home workspace owner scope 300 = .ok (some claim, next) ∧
      Grants home next claim 300000000 := by
  have unlocked := unlocked_of_free fenced free
  unfold claimPendingInputForWorkspace
  rw [stripped, if_neg (by tauto), unlocked, if_neg (by decide)]
  apply claimUnlocked_oldest (fenced_unlock fenced unlocked) stripped free stored claimable oldest
    owned 300000000
  intro lock member inside
  have kept := (Keyed.mem_erase.mp member).2
  simp only [decide_eq_false_iff_not] at kept
  exact kept inside

end Oldest

end QueueState

namespace QueueState

structure Oldest (state : QueueState) (taskId roundId : Nat) (input : PendingInput) : Prop where
  stored : input ∈ state.inputs
  pending : input.status = .pending
  ofTask : input.taskId = taskId
  due : input.earliestRound ≤ roundId
  first : ∀ other ∈ state.inputs, other.status = .pending → other.taskId = taskId →
    other.earliestRound ≤ roundId → queuedBefore input other

variable {state : QueueState} {roundId taskId : Nat} {input : PendingInput}

theorem oldest_iff :
    state.Oldest taskId roundId input ↔
      input ∈ state.inputs.rows ∧ input.status = .pending ∧ input.taskId = taskId ∧
        input.earliestRound ≤ roundId ∧
        ∀ other ∈ state.inputs.rows, other.status = .pending → other.taskId = taskId →
          other.earliestRound ≤ roundId → queuedBefore input other :=
  ⟨fun oldest => ⟨oldest.stored, oldest.pending, oldest.ofTask, oldest.due, oldest.first⟩,
    fun ⟨stored, pending, ofTask, due, first⟩ => ⟨stored, pending, ofTask, due, first⟩⟩

instance (state : QueueState) (taskId roundId : Nat) :
    DecidablePred (state.Oldest taskId roundId) := fun _ => decidable_of_iff _ oldest_iff.symm

theorem Oldest.positive
    (oldest : state.Oldest taskId roundId input) : 0 < roundId := by
  have due := oldest.due
  unfold PendingInput.earliestRound at due
  split at due
  · omega
  · omega

theorem Oldest.claimable {home : Nat → String} (oldest : state.Oldest taskId roundId input)
    (fenced : Fenced home state)
    (free : ∀ lease ∈ state.leases, lease.workspace = home taskId →
      ¬ state.Active lease.expiresAt) :
    state.Claimable home (home taskId)
        { taskId := some taskId, queuedThroughRoundId := some roundId } input ∧
      ∀ other ∈ state.inputs, state.Claimable home (home taskId)
        { taskId := some taskId, queuedThroughRoundId := some roundId } other →
        queuedBefore input other := by
  constructor
  · refine ⟨oldest.pending, ?_, ?_, ?_, ?_, ?_⟩
    · rintro _ ⟨⟩
      exact oldest.ofTask
    · rintro _ ⟨⟩
    · rintro _ ⟨⟩
      exact oldest.due
    · rw [candidateWorkspace_eq fenced oldest.stored, oldest.ofTask]
    · intro lease found
      right
      obtain ⟨member, sameInput⟩ := Keyed.find?_eq_some_iff.mp found
      obtain ⟨queued, inHome, _⟩ := fenced.leases lease member
      apply free lease member
      rw [inHome, queued.taskId_eq ⟨input, oldest.stored, sameInput.symm, oldest.ofTask⟩]
  · rintro other stored ⟨pending, ofTask, _, due, _⟩
    exact oldest.first other stored pending (ofTask taskId rfl) (due roundId rfl)

end QueueState

namespace Service

open Script

theorem calm_getTaskDetail : getTaskDetail.Calm :=
  calm_bind (calm_perform _) fun _ => calm_get

theorem calm_saveArtifact (role : Option Role) (type : ArtifactType) (payload : Payload) :
    (saveArtifact role type payload).Calm :=
  calm_bind (calm_perform _) fun _ => calm_bind calm_get fun _ => trivial

theorem calm_setWaitingReason (roundId : Nat) (reason : Round → WaitingReason) :
    (setWaitingReason roundId reason).Calm :=
  calm_bind calm_get fun _ => calm_perform _

theorem calm_markRoleFallback (world : World) (role : Role) :
    (markRoleFallback world role).Calm :=
  calm_bind (calm_perform _) fun _ => calm_bind (calm_perform _) fun _ => calm_perform _

theorem calm_startRole (world : World) (roundId : Nat) (role : Role) :
    (startRole world roundId role).Calm := by
  unfold startRole
  cases world.dispatch with
  | unregistered => exact calm_markRoleFallback world role
  | failed =>
      exact calm_bind (calm_setWaitingReason _ _) fun _ => calm_markRoleFallback world role
  | verified metadata =>
      exact calm_bind (calm_setWaitingReason _ _) fun _ =>
        calm_bind (calm_perform _) fun _ => calm_perform _

theorem calm_claimAndStart (world : World) (roundId : Nat) (role : Role) :
    (claimAndStart world roundId role).Calm := by
  intro state
  apply calm_bind (calm_perform _)
  intro _
  split
  · exact calm_startRole world roundId role
  · trivial

theorem calm_startFollowupRound (trigger : Option Nat) : (startFollowupRound trigger).Calm :=
  calm_bind calm_get fun _ => calm_bind (calm_perform _) fun _ => trivial

theorem calm_routeToDirector (roundId pendingId : Nat) : (routeToDirector roundId pendingId).Calm := by
  intro _
  apply calm_bind (calm_perform _)
  intro _
  apply calm_bind calm_getTaskDetail
  intro _
  exact calm_bind (calm_saveArtifact _ _ _) fun _ => trivial

variable {state : TaskState} {aborted : TaskState → Prop}

theorem holds_getTaskDetail :
    getTaskDetail.Holds TaskState.step (fun _ _ => True) aborted state fun detail next =>
      detail = state.backfillTask ∧ next = state.backfillTask := ⟨trivial, rfl, rfl⟩

theorem holds_currentRoundId {roundId : Nat} (steady : state.backfillTask.Steady roundId) :
    currentRoundId.Holds TaskState.step (fun _ _ => True) aborted state fun value next =>
      value = roundId ∧ next = state.backfillTask := by
  apply holds_bind holds_getTaskDetail
  rintro _ _ ⟨rfl, rfl⟩
  refine holds_pure ⟨?_, rfl⟩
  exact (TaskState.activeRoundId_fallback steady.present _ 1).trans steady.active

theorem holds_saveArtifact (role : Option Role) (type : ArtifactType) (payload : Payload) :
    (saveArtifact role type payload).Holds TaskState.step (fun _ _ => True) aborted state
      fun _ next => next = state.saveArtifact role type payload := ⟨trivial, rfl⟩

theorem holds_dispatchRole (world : World) {role : Role} (employed : state.HasJob role) :
    (dispatchRole world role).Holds TaskState.step (fun _ _ => True) aborted state
      fun _ _ => True := by
  unfold dispatchRole
  split
  · apply holds_bind holds_getTaskDetail
    rintro _ _ ⟨rfl, rfl⟩
    obtain ⟨job, member, isRole⟩ :=
      (TaskState.Untriggered.backfillTask state).toLasting.hasJob employed
    cases found : state.backfillTask.jobs.find? fun job => job.role = role with
    | none =>
        have missing := List.find?_eq_none.mp found job member
        exact absurd isRole (by simpa using missing)
    | some job =>
        dsimp only
        split
        · exact ⟨trivial, holds_of_calm (calm_claimAndStart world _ role) _⟩
        · split
          · exact holds_of_calm (calm_claimAndStart world _ role) _
          · exact holds_pure trivial
  · exact holds_pure trivial

end Service

def Passage.Open (passage : Passage) : Prop :=
  passage.openAtClaim = true ∧ passage.openBeforeTransition = true ∧
    passage.openBeforeRound = true ∧ passage.openBeforeDispatch = true

namespace Consumer

open Script QueueState

variable {home : Nat → String} {aborted : Desk → Prop} {desk : Desk}

abbrev Ends {α : Type} (home : Nat → String) (aborted : Desk → Prop) (script : DeskHandler α)
    (desk : Desk) (post : α → Desk → Prop) : Prop :=
  script.Holds (Desk.step home) (fun _ _ => True) aborted desk post

theorem ends_onTask {α : Type} {handler : Handler α} {post : α → TaskState → Prop}
    (holds : handler.Holds TaskState.step (fun _ _ => True) (fun _ => False) desk.task post) :
    Ends home aborted (onTask handler) desk fun value next =>
      post value next.task ∧ next.queue = desk.queue := by
  obtain ⟨task, queue⟩ := desk
  induction handler generalizing task with
  | done value => exact ⟨holds, rfl⟩
  | raised => exact absurd holds id
  | read rest ih => exact ih task task holds
  | call op rest ih => exact ⟨trivial, ih (task.step op) holds.2⟩

theorem lasting_of_calm {α : Type} {handler : Handler α} {state : TaskState} {post : α → TaskState → Prop}
    (holds : handler.Holds TaskState.step (fun _ _ => True) (fun _ => False) state post) :
    handler.Holds TaskState.step (fun _ _ => True) (fun _ => False) state fun value next =>
      post value next ∧ TaskState.Lasting state next := by
  induction handler generalizing state with
  | done value => exact ⟨holds, (TaskState.Untriggered.refl state).toLasting⟩
  | raised => exact holds
  | read rest ih => exact ih state holds
  | call op rest ih =>
      refine ⟨trivial, holds_mono (fun _ _ ok => ok) (fun _ raises => raises) ?_
        (ih holds.2)⟩
      intro value next both
      exact ⟨both.1, (TaskState.Lasting.step state op).trans both.2⟩

variable {claim : PendingInputClaim} {left : Nat}

theorem ends_renewClaim (grants : Grants home desk.queue claim left) (time : 0 < left) :
    Ends home aborted (renewClaim claim) desk fun value next =>
      next.task = desk.task ∧ ∃ renewed, value = some renewed ∧
        renewed.pendingInput = claim.pendingInput ∧ Grants home next.queue renewed 300000000 := by
  obtain ⟨renewal, granted⟩ := grants.renew time
  apply holds_get
  apply holds_call trivial
  rw [renewal]
  have queue : (desk.step home (.queue (.renew claim 300))).queue =
      desk.queue.renewed claim (desk.queue.expiry 300) := step_renew home renewal
  refine holds_pure ⟨rfl, _, rfl, rfl, ?_⟩
  rw [queue]
  exact granted

def Consumed (input : PendingInput) (desk : Desk) : Prop :=
  ∃ row ∈ desk.queue.inputs, row.id = input.id ∧ row.status = .consumed

instance (input : PendingInput) : DecidablePred (Consumed input) := fun desk =>
  inferInstanceAs (Decidable (∃ row ∈ desk.queue.inputs.rows,
    row.id = input.id ∧ row.status = .consumed))

theorem not_consumed (stored : input ∈ desk.queue.inputs)
    (pending : input.status = .pending) : ¬ Consumed input desk := by
  rintro ⟨row, member, sameId, consumed⟩
  rw [desk.queue.inputs.eq_of_key member stored sameId, pending] at consumed
  cases consumed

theorem ends_markConsumed (roundId : Nat) (grants : Grants home desk.queue claim left) (time : 0 < left) :
    Ends home aborted (markConsumed claim roundId) desk fun _ next =>
      Consumed claim.pendingInput next := by
  apply holds_bind (ends_renewClaim grants time)
  rintro _ next ⟨_, renewed, rfl, sameInput, granted⟩
  obtain ⟨last, consumption, member⟩ := granted.consume (by omega) roundId
  apply holds_get
  apply holds_call trivial
  rw [consumption]
  have queue : (next.step home (.queue (.consume renewed roundId))).queue = last :=
    step_consume home consumption
  rw [← queue] at member
  have sameId : renewed.pendingInput.id = claim.pendingInput.id := by rw [sameInput]
  exact holds_pure ⟨_, member, sameId, rfl⟩

section Late

variable {claim : PendingInputClaim} {left time : Nat}
  (grants : Grants home desk.queue claim left) (expired : left ≤ time)
include grants expired

theorem ends_renewClaim_late :
    Ends home aborted (renewClaim claim) (desk.step home (.queue (.elapse time))) fun value next =>
      value = none ∧ next.queue = desk.queue.step home (.elapse time) := by
  have renewal := grants.renew_late expired
  apply holds_get
  apply holds_call trivial
  have elapsed : (desk.step home (.queue (.elapse time))).queue =
      desk.queue.step home (.elapse time) := rfl
  rw [elapsed, renewal]
  refine holds_pure ⟨rfl, ?_⟩
  exact step_renew home renewal

theorem ends_markConsumed_late (roundId : Nat) :
    Ends home aborted (markConsumed claim roundId) (desk.step home (.queue (.elapse time)))
      fun _ next => ¬ Consumed claim.pendingInput next := by
  apply holds_bind (ends_renewClaim_late grants expired)
  rintro _ next ⟨rfl, queue⟩
  apply not_consumed _ grants.pending
  rw [queue]
  exact grants.stored

end Late

theorem ends_releaseClaim (grants : Grants home desk.queue claim left) :
    Ends home aborted (releaseClaim claim) desk fun _ next =>
      ¬ Consumed claim.pendingInput next := by
  apply holds_call trivial
  apply not_consumed _ grants.pending
  change claim.pendingInput ∈ (desk.queue.releasePendingInputClaim claim).2.inputs
  unfold releasePendingInputClaim
  split
  · exact grants.stored
  · exact grants.stored

def Timely (passage : Passage) (dispatchNext : Bool) : Prop :=
  dispatchNext = true → passage.startTime < 300000000

section Consume

variable (world : World) {passage : Passage} {claim : PendingInputClaim} (dispatchNext : Bool)
  {left : Nat}

theorem ends_deliverInput (roundId : Nat) (gate : passage.openBeforeDispatch = true)
    (grants : Grants home desk.queue claim left) (time : 0 < left) (employed : desk.task.HasJob .director) :
    Ends home aborted (deliverInput world passage claim dispatchNext roundId) desk fun _ next =>
      Consumed claim.pendingInput next ↔ Timely passage dispatchNext := by
  unfold deliverInput Timely
  cases dispatchNext with
  | false =>
      refine holds_mono (fun _ _ ok => ok) (fun _ raises => raises) ?_
        (ends_markConsumed roundId grants time)
      intro _ next consumed
      simp only [consumed, true_iff]
      intro impossible
      cases impossible
  | true =>
      rw [if_pos rfl, if_pos gate]
      apply holds_bind (ends_renewClaim grants time)
      rintro _ next ⟨sameTask, renewed, rfl, sameInput, granted⟩
      rw [← sameTask] at employed
      apply holds_bind (ends_onTask (Service.holds_dispatchRole world employed))
      rintro _ started ⟨_, sameQueue⟩
      rw [← sameQueue] at granted
      apply holds_call trivial
      rw [← sameInput]
      by_cases timely : passage.startTime < 300000000
      · refine holds_mono (fun _ _ ok => ok) (fun _ raises => raises) ?_
          (ends_markConsumed roundId (granted.elapse timely.le) (by omega))
        intro _ last consumed
        simp only [consumed, timely, implies_true]
      · refine holds_mono (fun _ _ ok => ok) (fun _ raises => raises) ?_
          (ends_markConsumed_late granted (Nat.le_of_not_lt timely) roundId)
        intro _ last unconsumed
        simp only [unconsumed, timely, imp_false, not_true]

theorem ends_projectInput (roundId : Nat) (gate : passage.openBeforeDispatch = true)
    (grants : Grants home desk.queue claim left) (time : 0 < left) (employed : desk.task.HasJob .director) :
    Ends home aborted (projectInput world passage claim dispatchNext roundId) desk fun _ next =>
      Consumed claim.pendingInput next ↔ Timely passage dispatchNext := by
  apply holds_get
  split
  · apply holds_bind (ends_onTask (lasting_of_calm (holds_of_calm Service.calm_getTaskDetail _)))
    rintro _ read ⟨⟨_, readLasting⟩, readQueue⟩
    apply holds_bind (ends_onTask (lasting_of_calm
      (holds_of_calm (Service.calm_routeToDirector _ _) _)))
    rintro _ routed ⟨⟨_, routedLasting⟩, routedQueue⟩
    apply ends_deliverInput world dispatchNext roundId gate _ time
      (routedLasting.hasJob (readLasting.hasJob employed))
    rw [routedQueue, readQueue]
    exact grants
  · exact ends_deliverInput world dispatchNext roundId gate grants time employed

variable {roundId : Nat}

theorem ends_openRound (transitionId sourceRoundId : Nat)
    (gates : passage.openBeforeRound = true ∧ passage.openBeforeDispatch = true)
    (grants : Grants home desk.queue claim left) (time : 0 < left)
    (employed : desk.task.HasJob .director) (steady : desk.task.Steady roundId) :
    Ends home aborted (openRound world passage claim dispatchNext transitionId sourceRoundId) desk
      fun _ next => Consumed claim.pendingInput next ↔
        (Service.followupRound? desk.task transitionId ≠ none ∨ roundId = sourceRoundId) ∧
          Timely passage dispatchNext := by
  apply holds_get
  cases followup : Service.followupRound? desk.task transitionId with
  | some opened =>
      refine holds_mono (fun _ _ ok => ok) (fun _ raises => raises) ?_
        (ends_projectInput world dispatchNext opened gates.2 grants time employed)
      simp
  | none =>
      apply holds_bind (ends_onTask (lasting_of_calm (Service.holds_currentRoundId steady.backfillTask)))
      rintro _ read ⟨⟨⟨rfl, _⟩, readLasting⟩, readQueue⟩
      simp only [ne_eq, not_true_eq_false, false_or]
      rw [← readQueue] at grants
      split
      · rename_i current
        rw [if_pos gates.1]
        apply holds_bind (ends_onTask (lasting_of_calm
          (holds_of_calm (Service.calm_startFollowupRound _) _)))
        rintro opened next ⟨⟨_, nextLasting⟩, nextQueue⟩
        rw [← nextQueue] at grants
        simp only [current, true_and]
        exact ends_projectInput world dispatchNext opened gates.2 grants time
          (nextLasting.hasJob (readLasting.hasJob employed))
      · rename_i moved
        simp only [moved, false_and, iff_false]
        exact ends_releaseClaim grants

theorem sourceRound_some (positive : 0 < roundId) :
    sourceRound claim (some roundId) = roundId := by
  unfold sourceRound orRound
  rw [Option.getD_some, if_neg (by omega)]
  omega

theorem eq_pinnedRound_iff {transition : Artifact} (positive : 0 < roundId) :
    roundId = pinnedRound claim transition (some roundId) ↔
      transition.payload.sourceRoundId = 0 ∨ transition.payload.sourceRoundId = roundId := by
  unfold pinnedRound orRound
  rw [Option.getD_some, if_neg (c := roundId = 0) (by omega)]
  split
  · omega
  · omega

def Ready (task : TaskState) (input : PendingInput) (roundId : Nat) : Prop :=
  ∀ transition ∈ Service.transitionArtifact? task input.id,
    Service.followupRound? task transition.id ≠ none ∨
      transition.payload.sourceRoundId = 0 ∨ transition.payload.sourceRoundId = roundId

theorem ends_consumeClaimedPendingInput (positive : 0 < roundId)
    (gates : passage.openBeforeTransition = true ∧ passage.openBeforeRound = true ∧
      passage.openBeforeDispatch = true)
    (grants : Grants home desk.queue claim left) (time : 0 < left)
    (employed : desk.task.HasJob .director) (steady : desk.task.backfillTask.Steady roundId) :
    Ends home aborted
      (consumeClaimedPendingInput world passage claim dispatchNext (some roundId)) desk
      fun _ next => Consumed claim.pendingInput next ↔
        Ready desk.task claim.pendingInput roundId ∧ Timely passage dispatchNext := by
  unfold consumeClaimedPendingInput
  rw [if_pos gates.1]
  apply holds_get
  unfold Ready
  cases found : Service.transitionArtifact? desk.task claim.pendingInput.id with
  | some transition =>
      apply holds_bind (ends_onTask (lasting_of_calm (Service.holds_currentRoundId steady)))
      rintro _ read ⟨⟨⟨rfl, repaired⟩, lasting⟩, sameQueue⟩
      rw [← repaired] at steady
      rw [← sameQueue] at grants
      have sameFollowup : Service.followupRound? read.task transition.id =
          Service.followupRound? desk.task transition.id := by
        rw [repaired]
        exact (TaskState.Untriggered.backfillTask desk.task).followupRound? transition.id
      refine holds_mono (fun _ _ ok => ok) (fun _ raises => raises) ?_
        (ends_openRound world dispatchNext transition.id _ gates.2 grants time
          (lasting.hasJob employed) steady)
      intro _ next outcome
      rw [outcome, sameFollowup, eq_pinnedRound_iff positive]
      simp
  | none =>
      apply holds_bind (ends_onTask (lasting_of_calm (Service.holds_currentRoundId steady)))
      rintro current read ⟨⟨⟨isCurrent, repaired⟩, lasting⟩, sameQueue⟩
      rw [← repaired] at steady
      rw [← sameQueue] at grants
      rw [sourceRound_some positive, if_pos isCurrent]
      apply holds_bind (ends_onTask (lasting_of_calm (Service.holds_saveArtifact _ _ _)))
      rintro transitionId saved ⟨⟨filed, savedLasting⟩, savedQueue⟩
      rw [← savedQueue] at grants
      have savedSteady : saved.task.Steady roundId := by
        rw [filed]
        exact steady.saveTransition positive ⟨rfl, rfl, rfl, rfl⟩
      refine holds_mono (fun _ _ ok => ok) (fun _ raises => raises) ?_
        (ends_openRound world dispatchNext transitionId _ gates.2 grants time
          (savedLasting.hasJob (lasting.hasJob employed)) savedSteady)
      intro _ next outcome
      rw [outcome]
      simp

theorem ends_consumePendingAfterRound {taskId : Nat} {owner : String}
    (positive : 0 < roundId) (open_ : passage.Open)
    (fenced : QueueState.Fenced home desk.queue) (stripped : strip (home taskId) = home taskId)
    (named : home taskId ≠ "") (owned : strip owner ≠ "")
    (free : ∀ lease ∈ desk.queue.leases, lease.workspace = home taskId →
      ¬ desk.queue.Active lease.expiresAt)
    (oldest : desk.queue.Oldest taskId roundId input)
    (employed : desk.task.HasJob .director) (steady : desk.task.backfillTask.Steady roundId) :
    Ends home aborted
      (consumePendingAfterRound home world passage taskId owner roundId dispatchNext) desk
      fun _ next => Consumed input next ↔
        Ready desk.task input roundId ∧ Timely passage dispatchNext := by
  obtain ⟨claimable, first⟩ := oldest.claimable fenced free
  obtain ⟨claim, next, rfl, claimed, granted⟩ :=
    claim_oldest fenced stripped free oldest.stored claimable first named owned
  unfold consumePendingAfterRound claimAndConsume
  rw [if_pos open_.1]
  apply holds_get
  apply holds_call trivial
  rw [claimed]
  have queue : (desk.step home (.queue (.claim (home taskId) owner
      { taskId := some taskId, queuedThroughRoundId := some roundId } 300))).queue = next :=
    step_claim claimed
  rw [← queue] at granted
  have calm : Ends home (fun _ => False)
      (consumeClaimedPendingInput world passage claim dispatchNext (some roundId)) _ _ :=
    ends_consumeClaimedPendingInput world dispatchNext positive open_.2 granted (by omega) employed
      steady
  exact holds_recover calm fun _ raises => raises.elim

end Consume

end Consumer

theorem strip_of_ends {text : String} {head last : Char} {middle : List Char}
    (ends : text.toList = head :: (middle ++ [last])) (headInk : isSpace head = false)
    (lastInk : isSpace last = false) : strip text = text := by
  unfold strip
  rw [ends, List.dropWhile_cons_of_neg (by simp [headInk]), ← List.cons_append,
    List.reverse_append, List.reverse_singleton, List.singleton_append,
    List.dropWhile_cons_of_neg (by simp [lastInk]), List.reverse_cons, List.reverse_reverse,
    List.cons_append, ← ends, String.ofList_toList]

theorem isSpace_of_isDigit {digit : Char} (isDigit : digit.isDigit = true) :
    isSpace digit = false := by
  have range : 48 ≤ digit.toNat ∧ digit.toNat ≤ 57 := Char.isDigit_iff_toNat.mp isDigit
  unfold isSpace
  simp
  omega

theorem strip_relayTask (taskId : Nat) :
    strip ("relay-task:" ++ toString taskId) = "relay-task:" ++ toString taskId := by
  have nonempty : Nat.toDigits 10 taskId ≠ [] := Nat.toDigits_ne_nil
  have digits : (toString taskId).toList =
      (Nat.toDigits 10 taskId).dropLast ++ [(Nat.toDigits 10 taskId).getLast nonempty] := by
    rw [List.dropLast_append_getLast]
    exact Nat.toList_repr
  have isDigit : ((Nat.toDigits 10 taskId).getLast nonempty).isDigit = true :=
    Nat.isDigit_of_mem_toDigits (by decide) (by decide) (List.getLast_mem nonempty)
  have ends : ("relay-task:" ++ toString taskId).toList =
      'r' :: (("elay-task:".toList ++ (Nat.toDigits 10 taskId).dropLast) ++
        [(Nat.toDigits 10 taskId).getLast nonempty]) := by
    rw [String.toList_append, digits, List.append_assoc]
    rfl
  exact strip_of_ends ends (by decide) (isSpace_of_isDigit isDigit)

section Workspace

variable {workspaces : Nat → Option String} {taskId : Nat}

theorem strip_workspaceForTask (relay : (workspaces taskId).isSome) :
    strip (workspaceForTask workspaces taskId) = workspaceForTask workspaces taskId := by
  unfold workspaceForTask
  obtain ⟨workspace, named⟩ := Option.isSome_iff_exists.mp relay
  rw [named]
  dsimp only
  unfold orText
  split
  · exact strip_relayTask taskId
  · exact strip_strip workspace

theorem workspaceForTask_ne_empty (relay : (workspaces taskId).isSome) :
    workspaceForTask workspaces taskId ≠ "" := by
  unfold workspaceForTask
  obtain ⟨workspace, named⟩ := Option.isSome_iff_exists.mp relay
  rw [named]
  dsimp only
  unfold orText
  split
  · intro empty
    have letters := congrArg String.toList empty
    rw [String.toList_append] at letters
    cases letters
  · assumption

end Workspace

namespace Desk

def created (start now : Nat) : Desk := ⟨TaskState.created start, ⟨now, .empty, .empty, .empty⟩⟩

end Desk

theorem QueueState.fenced_enqueue {home : Nat → String} {state : QueueState} {inputs : Keyed PendingInput.id} (fenced : Fenced home state)
    (inserted : state.inputs.insert? input = some inputs) :
    Fenced home { state with inputs := inputs } := by
  have queued : ∀ id taskId, state.Queued id taskId →
      Queued { state with inputs := inputs } id taskId := by
    rintro id taskId ⟨row, member, named⟩
    exact ⟨row, (Keyed.mem_insert? inserted).mpr (.inr member), named⟩
  refine ⟨?_, ?_, fenced.exclusive.single, fenced.exclusive.agree⟩
  · intro lease member
    obtain ⟨inQueue, rest⟩ := fenced.leases lease member
    exact ⟨queued _ _ inQueue, rest⟩
  · intro lock member
    obtain ⟨inQueue, rest⟩ := fenced.locks lock member
    exact ⟨queued _ _ inQueue, rest⟩

theorem TaskState.hasJob_created (start : Nat) {role : Role} (listed : role ∈ relayRoleIds) :
    (created start).HasJob role := by
  have blank : (TaskState.blank start).HasJob role := ⟨_, List.mem_map_of_mem listed, rfl⟩
  have created : Untriggered (TaskState.blank start) (created start) :=
    (((Untriggered.ensureRound _ 1 .initial).trans
      ((Untriggered.writeRule 1).ensureAttempt .director trivial _ _ _)).trans
      (Untriggered.syncLegacyProjection _)).trans (Untriggered.saveArtifact _ _ _ _)
  exact created.toLasting.hasJob blank

namespace Desk

structure Sound (home : Nat → String) (desk : Desk) : Prop where
  present : desk.task.HasRound 1
  employed : desk.task.HasJob .director
  fenced : QueueState.Fenced home desk.queue

variable {home : Nat → String} {desk : Desk}

theorem Sound.task (sound : desk.Sound home) {next : TaskState}
    (lasting : TaskState.Lasting desk.task next) : Sound home { desk with task := next } :=
  ⟨lasting.grows 1 sound.present, lasting.hasJob sound.employed, sound.fenced⟩

theorem Sound.step (sound : desk.Sound home) (op : DeskOp) : (desk.step home op).Sound home := by
  cases op with
  | task op => exact sound.task (.step desk.task op)
  | queue op => exact ⟨sound.present, sound.employed, QueueState.fenced_step sound.fenced op⟩
  | crash op commits => exact sound.task (.crashed desk.task op commits)
  | enqueue input =>
      refine ⟨sound.present, sound.employed, ?_⟩
      change QueueState.Fenced home ((desk.queue.inputs.insert? input).elim desk.queue _)
      cases inserted : desk.queue.inputs.insert? input with
      | none => exact sound.fenced
      | some inputs => exact QueueState.fenced_enqueue sound.fenced inserted

theorem sound_created (start now : Nat) : (created start now).Sound home where
  present := TaskState.hasRound_one_created start
  employed := TaskState.hasJob_created start (by decide)
  fenced := QueueState.fenced_initial now .empty

theorem sound_after (start now : Nat) (ops : List DeskOp) :
    (ops.foldl (Desk.step home) (created start now)).Sound home := by
  apply invariant_foldl _ (sound_created start now) (along_true _ ops)
  intro state op sound _
  exact sound.step op

/-- An input is consumed at most once, and nothing else becomes of it. -/
def KeepsInputs (before after : QueueState) : Prop :=
  ∀ input ∈ before.inputs, ∃ later ∈ after.inputs, later = input ∨
    input.status = .pending ∧ ∃ roundId, later = (QueueState.consumedPatch roundId).apply input

theorem keepsInputs_step (op : DeskOp) : KeepsInputs desk.queue (desk.step home op).queue := by
  intro input member
  cases op with
  | task | crash => exact ⟨input, member, .inl rfl⟩
  | enqueue other =>
      refine ⟨input, ?_, .inl rfl⟩
      change input ∈ ((desk.queue.inputs.insert? other).elim desk.queue _).inputs
      cases inserted : desk.queue.inputs.insert? other with
      | none => exact member
      | some inputs => exact (Keyed.mem_insert? inserted).mpr (.inr member)
  | queue op =>
      change ∃ later ∈ (desk.queue.step home op).inputs, _
      rcases @QueueState.inputs_step home desk.queue op with same | ⟨claim, roundId, next, rfl, consumed, stepped⟩
      · exact ⟨input, same ▸ member, .inl rfl⟩
      · rw [stepped]
        unfold QueueState.consumePendingInputClaim at consumed
        split_ifs at consumed
        cases consumed
        refine ⟨_, List.mem_map_of_mem member, ?_⟩
        split
        next taken => exact .inr ⟨(of_decide_eq_true taken).2.2, roundId, rfl⟩
        · exact .inl rfl

/-- However store and queue calls interleave and wherever they crash, a task keeps its roles and its rounds,
and the queue its inputs. -/
theorem history_kept (home : Nat → String) (desk : Desk) (ops : List DeskOp) :
    TaskState.Lasting desk.task (ops.foldl (step home) desk).task ∧
      KeepsInputs desk.queue (ops.foldl (step home) desk).queue := by
  induction ops generalizing desk with
  | nil => exact ⟨(TaskState.Untriggered.refl desk.task).toLasting, fun input member => ⟨input, member, .inl rfl⟩⟩
  | cons op ops ih =>
      obtain ⟨lasting, inputs⟩ := ih (desk.step home op)
      refine ⟨.trans ?_ lasting, fun input member => ?_⟩
      · cases op with
        | task op => exact .step desk.task op
        | crash op commits => exact .crashed desk.task op commits
        | queue | enqueue => exact (TaskState.Untriggered.refl desk.task).toLasting
      · obtain ⟨middle, inside, same | ⟨pending, roundId, taken⟩⟩ := @keepsInputs_step home desk op input member
        · exact same ▸ inputs middle inside
        · obtain ⟨later, laterMember, same | ⟨again, _⟩⟩ := inputs middle inside
          · exact ⟨later, laterMember, .inr ⟨pending, roundId, same.trans taken⟩⟩
          · simp [taken, QueueState.consumedPatch] at again

end Desk

theorem TaskState.steady_storeRoundId {state : TaskState} (present : state.HasRound 1) :
    state.backfillTask.Steady state.storeRoundId.1 := by
  have repaired := steady_backfillTask present
  have current : state.storeRoundId.1 = state.backfillTask.activeRoundId 1 :=
    activeRoundId_fallback repaired.present _ 1
  rw [current]
  exact repaired

/-- In every reachable state without a live lease in the workspace, the oldest
input that is due after the current round is consumed by an undisturbed
`consume_pending_after_round` exactly when its transition, if it has one, has
opened its round or names the current round, and the provider starts in time. -/
theorem oldest_pending_input_consumed_iff (workspaces : Nat → Option String) (start now : Nat)
    (ops : List DeskOp) (world : World) (passage : Passage) (taskId : Nat) (owner : String)
    (dispatchNext : Bool) (input : PendingInput) :
    let home := workspaceForTask workspaces
    let desk := ops.foldl (Desk.step home) (Desk.created start now)
    let current := desk.task.storeRoundId.1
    (workspaces taskId).isSome → strip owner ≠ "" → passage.Open →
    (∀ lease ∈ desk.queue.leases, lease.workspace = home taskId →
      ¬ desk.queue.Active lease.expiresAt) →
    desk.queue.Oldest taskId current input →
    (Consumer.Consumed input ((Consumer.consumePendingAfterRound home world passage taskId owner
        current dispatchNext).final (Desk.step home) desk) ↔
      Consumer.Ready desk.task input current ∧ Consumer.Timely passage dispatchNext) := by
  intro home desk current relay owned open_ free oldest
  have sound : desk.Sound home := Desk.sound_after start now ops
  have steady := TaskState.steady_storeRoundId sound.present
  have positive : 0 < current := oldest.positive
  exact Script.final_of_holds (Consumer.ends_consumePendingAfterRound world dispatchNext positive
    open_ sound.fenced (strip_workspaceForTask relay) (workspaceForTask_ne_empty relay) owned free
    oldest sound.employed steady)

section Stranded

def queuedBehindFirstRound : List DeskOp :=
  [.enqueue ⟨1, 1, 1, .pending, "next", 0, none⟩, .task (.updateTaskStatus .completed)]

def sharedHome : Nat → String := workspaceForTask fun _ => some "/srv/repo"

def startingWorld : World where
  dispatch := .verified { nativeSessionId := "session", dispatchVerified := true }

theorem oldest_pending_input_consumed_first_round :
    let desk := queuedBehindFirstRound.foldl (Desk.step sharedHome) (Desk.created 0 0)
    let input : PendingInput := ⟨1, 1, 1, .pending, "next", 0, none⟩
    desk.queue.Oldest 1 desk.task.storeRoundId.1 input ∧
      Consumer.Consumed input ((Consumer.consumePendingAfterRound sharedHome startingWorld {} 1
        "worker" desk.task.storeRoundId.1 true).final (Desk.step sharedHome) desk) := by
  intro desk input
  have oldest : desk.queue.Oldest 1 desk.task.storeRoundId.1 input := by decide +kernel
  refine ⟨oldest, (oldest_pending_input_consumed_iff (fun _ => some "/srv/repo") 0 0
    queuedBehindFirstRound startingWorld {} 1 "worker" true input rfl (by decide)
    ⟨rfl, rfl, rfl, rfl⟩ ?_ oldest).mpr ⟨?_, fun _ => by decide⟩⟩
  · intro lease member
    cases member
  · intro transition found
    cases found

def strandedRun : List DeskOp :=
  let claimed := queuedBehindFirstRound.foldl (Desk.step sharedHome) (Desk.created 0 0)
  let died := queuedBehindFirstRound ++
    ((Consumer.consumePendingAfterRound sharedHome startingWorld {} 1 "worker" 1 true).calls
      (Desk.step sharedHome) claimed).take 3
  let asked := died.foldl (Desk.step sharedHome) (Desk.created 0 0)
  died ++ (Consumer.onTask (Service.addUserMessage startingWorld .dispatch)).calls
    (Desk.step sharedHome) asked ++ [.task (.updateTaskStatus .completed),
      .queue (.elapse 300000000)]

theorem stranded_input_released :
    let desk := strandedRun.foldl (Desk.step sharedHome) (Desk.created 0 0)
    let last := (Consumer.consumePendingAfterRound sharedHome startingWorld {} 1 "other" 2
      true).final (Desk.step sharedHome) desk
    desk.task.storeRoundId.1 = 2 ∧ desk.task.roundStatus 2 = .completed ∧
      (∀ lease ∈ desk.queue.leases.rows, ¬ desk.queue.Active lease.expiresAt) ∧
      desk.queue.Oldest 1 2 ⟨1, 1, 1, .pending, "next", 0, none⟩ ∧
      ¬ Consumer.Consumed ⟨1, 1, 1, .pending, "next", 0, none⟩ last ∧ last.queue.leases.rows = [] := by
  decide +kernel

end Stranded

end Wlcodex.Relay
