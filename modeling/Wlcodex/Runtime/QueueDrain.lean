import Wlcodex.Relay.WorkspaceFence
import Wlcodex.Runtime.Maintenance

namespace Wlcodex.Relay

open Wlcodex.Lib
open Wlcodex.Runtime (WorkTables)

/-! The queue of relay inputs with all its writers, and what the maintenance drain
counts of it. -/

def PendingStatus.text : PendingStatus → String
  | .pending => "pending"
  | .steered => "steered"
  | .consumed => "consumed"
  | .cancelled => "cancelled"

namespace QueueState

/-- `queue_pending_input`.  No input is ever deleted, so the next id is one past the
greatest. -/
def queuePendingInput (state : QueueState) (taskId : Nat) (text : String)
    (queuedAfterRoundId : Nat) : QueueState :=
  let id := (state.inputs.rows.map PendingInput.id).foldr max 0 + 1
  match state.inputs.insert? ⟨id, taskId, queuedAfterRoundId, .pending, text, state.now, none⟩ with
  | some inputs => { state with inputs }
  | none => state

/-- `UPDATE relay_pending_inputs ... WHERE id = ? AND team_run_id = ? AND status =
'pending'`. -/
def updatePending (state : QueueState) (taskId pendingInputId : Nat)
    (patch : Patch PendingInput.id) : QueueState :=
  { state with
    inputs := state.inputs.update (fun input => input.id = pendingInputId ∧
      input.taskId = taskId ∧ input.status = .pending) patch }

def markPendingInputSteered (state : QueueState) (taskId pendingInputId : Nat) : QueueState :=
  state.updatePending taskId pendingInputId
    ⟨fun input => { input with status := .steered }, fun _ => rfl⟩

def markPendingInputConsumed (state : QueueState) (taskId pendingInputId consumedRoundId : Nat) :
    QueueState :=
  state.updatePending taskId pendingInputId (consumedPatch consumedRoundId)

def cancelPendingInput (state : QueueState) (taskId pendingInputId : Nat) : QueueState :=
  state.updatePending taskId pendingInputId
    ⟨fun input => { input with status := .cancelled }, fun _ => rfl⟩

end QueueState

inductive InputOp where
  | enqueue (taskId : Nat) (text : String) (queuedAfterRoundId : Nat)
  | steer (taskId pendingInputId : Nat)
  | markConsumed (taskId pendingInputId consumedRoundId : Nat)
  | cancel (taskId pendingInputId : Nat)
  /-- A worker claims, renews, releases or consumes, or time passes. -/
  | work (op : QueueOp)
  deriving DecidableEq, Repr

namespace QueueState

def inputStep (home : Nat → String) (state : QueueState) : InputOp → QueueState
  | .enqueue taskId text roundId => state.queuePendingInput taskId text roundId
  | .steer taskId id => state.markPendingInputSteered taskId id
  | .markConsumed taskId id roundId => state.markPendingInputConsumed taskId id roundId
  | .cancel taskId id => state.cancelPendingInput taskId id
  | .work op => state.step home op

def emptyQueue : QueueState := ⟨0, .empty, .empty, .empty⟩

def fill (state : QueueState) (tables : WorkTables) : WorkTables :=
  { tables with
    relayPendingInputs := state.inputs.rows.map fun input => input.status.text
    relayWorkspaceQueueLeases := state.leases.rows.length
    relayWorkspaceQueueLocks := state.locks.rows.length }

def relayQueueCounts (state : QueueState) (tables : WorkTables) : List (String × Nat) :=
  (state.fill tables).activeWorkQueries.filter fun count =>
    count.1 ∈ ["Relay queued inputs", "Relay queue leases", "Relay workspace queue locks"]

theorem relayQueueCounts_eq (state : QueueState) (tables : WorkTables) :
    state.relayQueueCounts tables =
      [("Relay queued inputs", WorkTables.countIn
          (state.inputs.rows.map fun input => input.status.text) ["pending", "claimed", "steered"]),
        ("Relay queue leases", state.leases.rows.length),
        ("Relay workspace queue locks", state.locks.rows.length)] := by
  simp [relayQueueCounts, WorkTables.activeWorkQueries, fill]

def Pending (state : QueueState) (taskId pendingInputId : Nat) : Prop :=
  ∃ input ∈ state.inputs.rows, input.id = pendingInputId ∧ input.taskId = taskId ∧
    input.status = .pending

instance (state : QueueState) (taskId pendingInputId : Nat) :
    Decidable (state.Pending taskId pendingInputId) := by
  unfold Pending
  infer_instance

def Orderly (state : QueueState) : InputOp → Prop
  | .steer taskId id => ¬ state.Pending taskId id
  | .markConsumed taskId id _ => state.Pending taskId id →
      ∀ lease ∈ state.leases.rows, lease.pendingInputId ≠ id
  | .cancel taskId id => state.Pending taskId id →
      ∀ lease ∈ state.leases.rows, lease.pendingInputId ≠ id
  | _ => True

instance (state : QueueState) : DecidablePred state.Orderly := by
  intro op
  cases op <;> unfold Orderly <;> infer_instance

structure Tidy (home : Nat → String) (state : QueueState) : Prop where
  fenced : Fenced home state
  backed : ∀ lock ∈ state.locks, ∃ lease ∈ state.leases, lock.workspace = lease.workspace ∧
    lock.pendingInputId = lease.pendingInputId ∧ lock.taskId = lease.taskId ∧
    lock.owner = lease.owner
  leased : ∀ lease ∈ state.leases, ∃ input ∈ state.inputs,
    input.id = lease.pendingInputId ∧ input.status = .pending
  unsteered : ∀ input ∈ state.inputs, input.status ≠ .steered

section Steps

variable {home : Nat → String} {state : QueueState}

theorem fenced_inputs (fenced : Fenced home state) {inputs : Keyed PendingInput.id}
    (queued : ∀ id taskId, state.Queued id taskId → Queued { state with inputs } id taskId) :
    Fenced home { state with inputs } := by
  refine ⟨fun lease member => ?_, fun lock member => ?_,
    fenced.exclusive.single, fenced.exclusive.agree⟩
  · obtain ⟨inQueue, rest⟩ := fenced.leases lease member
    exact ⟨queued _ _ inQueue, rest⟩
  · obtain ⟨inQueue, rest⟩ := fenced.locks lock member
    exact ⟨queued _ _ inQueue, rest⟩

theorem tidy_queuePendingInput (tidy : Tidy home state) (taskId : Nat) (text : String)
    (roundId : Nat) : Tidy home (state.queuePendingInput taskId text roundId) := by
  unfold queuePendingInput
  dsimp only
  split
  next inputs inserted =>
    refine ⟨fenced_inputs tidy.fenced ?_, tidy.backed, ?_, ?_⟩
    · rintro id task ⟨input, member, named⟩
      exact ⟨input, (Keyed.mem_insert? inserted).mpr (.inr member), named⟩
    · intro lease member
      obtain ⟨input, stored, named⟩ := tidy.leased lease member
      exact ⟨input, (Keyed.mem_insert? inserted).mpr (.inr stored), named⟩
    · intro input member
      rcases (Keyed.mem_insert? inserted).mp member with rfl | stored
      · exact PendingStatus.noConfusion
      · exact tidy.unsteered input stored
  · exact tidy

theorem tidy_updatePending (tidy : Tidy home state) {taskId id : Nat} {patch : Patch PendingInput.id}
    (unleased : state.Pending taskId id → ∀ lease ∈ state.leases.rows, lease.pendingInputId ≠ id)
    (sameTask : ∀ input, (patch.apply input).taskId = input.taskId)
    (closed : ∀ input, (patch.apply input).status ≠ .steered) :
    Tidy home (state.updatePending taskId id patch) := by
  refine ⟨fenced_inputs tidy.fenced ?_, tidy.backed, ?_, ?_⟩
  · rintro queuedId task ⟨input, member, rfl, rfl⟩
    by_cases chosen : input.id = id ∧ input.taskId = taskId ∧ input.status = .pending
    · exact ⟨_, Keyed.mem_update.mpr (.inl ⟨input, member, by simpa using chosen, rfl⟩),
        patch.sameKey input, sameTask input⟩
    · exact ⟨input, Keyed.mem_update.mpr (.inr ⟨member, by simpa using chosen⟩), rfl, rfl⟩
  · intro lease member
    obtain ⟨input, stored, named, pending⟩ := tidy.leased lease member
    refine ⟨input, Keyed.mem_update.mpr (.inr ⟨stored, ?_⟩), named, pending⟩
    simp only [decide_eq_false_iff_not]
    rintro ⟨same, task, _⟩
    exact unleased ⟨input, stored, same, task, pending⟩ lease member (named.symm.trans same)
  · intro input member
    rcases Keyed.mem_update.mp member with ⟨old, _, _, rfl⟩ | ⟨stored, _⟩
    · exact closed old
    · exact tidy.unsteered input stored

theorem tidy_steer (tidy : Tidy home state) {taskId id : Nat} (idle : ¬ state.Pending taskId id) :
    Tidy home (state.markPendingInputSteered taskId id) := by
  have same : state.markPendingInputSteered taskId id = state := by
    unfold markPendingInputSteered updatePending
    rw [Keyed.update_of_none]
    intro input member
    simp only [decide_eq_false_iff_not]
    exact fun chosen => idle ⟨input, member, chosen⟩
  rw [same]
  exact tidy

variable {answer : Option PendingInputClaim} {next : QueueState}

section

variable (tidy : Tidy home state)

include tidy

theorem tidy_claimUnlocked {workspace owner : String} {scope : ClaimScope} {expiresAt : Nat}
    (fenced : Fenced home next) (unlocked : ∀ lock ∈ state.locks, lock.workspace ≠ workspace)
    (claimed : state.claimUnlocked home workspace owner scope expiresAt = .ok (answer, next)) :
    Tidy home next := by
  rcases claimUnlocked_cases claimed with
    ⟨_, rfl⟩ | ⟨input, leases, locks, found, _, put, putLock, _, rfl⟩
  · exact tidy
  · obtain ⟨stored, selected⟩ := selected?_spec found
    have inHome : home input.taskId = workspace := by
      rw [← candidateWorkspace_eq tidy.fenced stored]
      exact selected.2.2.2.2.1
    obtain ⟨count, leaseEq⟩ := leaseFor_eq tidy.fenced stored workspace owner expiresAt
    rw [leaseEq] at put putLock
    refine ⟨fenced, ?_, ?_, tidy.unsteered⟩
    · intro lock member
      rcases (Keyed.mem_insert? putLock).mp member with rfl | old
      · exact ⟨_, (mem_putLease put).mpr (.inl rfl), rfl, rfl, rfl, rfl⟩
      · obtain ⟨lease, leaseMember, same⟩ := tidy.backed lock old
        refine ⟨lease, (mem_putLease put).mpr (.inr ⟨leaseMember, ?_⟩), same⟩
        intro own
        -- another lock of the input would be in the workspace that was just unlocked
        have ofInput : state.Queued input.id lock.taskId := by
          rw [show input.id = lock.pendingInputId from own.symm.trans same.2.1.symm]
          exact (tidy.fenced.locks lock old).1
        have sameTask : lock.taskId = input.taskId := ofInput.taskId_eq ⟨input, stored, rfl, rfl⟩
        apply unlocked lock old
        rw [(tidy.fenced.locks lock old).2, sameTask, inHome]
    · intro lease member
      rcases (mem_putLease put).mp member with rfl | ⟨old, _⟩
      · exact ⟨input, stored, rfl, selected.1⟩
      · exact tidy.leased lease old

theorem tidy_claim {workspace owner : String} {scope : ClaimScope} {seconds : Int}
    (claimed : state.claimPendingInputForWorkspace home workspace owner scope seconds =
      .ok (answer, next)) : Tidy home next := by
  have fenced := fenced_claim tidy.fenced claimed
  rcases claim_cases claimed with ⟨_, rfl⟩ | ⟨_, unlocked, granted⟩
  · exact tidy
  · refine tidy_claimUnlocked ⟨fenced_unlock tidy.fenced unlocked, ?_, tidy.leased,
      tidy.unsteered⟩ fenced ?_ granted
    · exact fun lock member => tidy.backed lock (Keyed.mem_erase.mp member).1
    · intro lock member
      simpa only [decide_eq_false_iff_not] using (Keyed.mem_erase.mp member).2

theorem tidy_renewed (claim : PendingInputClaim) (expiresAt : Nat) :
    Tidy home (state.renewed claim expiresAt) := by
  refine ⟨fenced_renewed tidy.fenced claim expiresAt, ?_, ?_, tidy.unsteered⟩
  · intro lock member
    have before : ∃ old ∈ state.locks, old.workspace = lock.workspace ∧
        old.pendingInputId = lock.pendingInputId ∧ old.taskId = lock.taskId ∧
        old.owner = lock.owner := by
      rcases Keyed.mem_update.mp member with ⟨old, stored, _, rfl⟩ | ⟨stored, _⟩
      · exact ⟨old, stored, rfl, rfl, rfl, rfl⟩
      · exact ⟨lock, stored, rfl, rfl, rfl, rfl⟩
    obtain ⟨old, stored, workspace, id, task, owner⟩ := before
    rw [← workspace, ← id, ← task, ← owner]
    obtain ⟨lease, leaseMember, same⟩ := tidy.backed old stored
    by_cases chosen : Holds claim lease ∧ state.Active lease.expiresAt
    · exact ⟨_, Keyed.mem_update.mpr (.inl ⟨lease, leaseMember, by simpa using chosen, rfl⟩), same⟩
    · exact ⟨lease, Keyed.mem_update.mpr (.inr ⟨leaseMember, by simpa using chosen⟩), same⟩
  · intro lease member
    rcases Keyed.mem_update.mp member with ⟨old, stored, _, rfl⟩ | ⟨stored, _⟩
    · exact tidy.leased old stored
    · exact tidy.leased lease stored

theorem tidy_renew {claim : PendingInputClaim} {seconds : Int}
    (renewal : state.renewPendingInputClaim claim seconds = .ok (answer, next)) :
    Tidy home next := by
  unfold renewPendingInputClaim at renewal
  split at renewal
  · split at renewal
    · cases renewal
      exact tidy_renewed tidy claim _
    · cases renewal
  · cases renewal
    exact tidy

theorem tidy_release (claim : PendingInputClaim) :
    Tidy home (state.releasePendingInputClaim claim).2 := by
  have fenced := fenced_release tidy.fenced claim
  unfold releasePendingInputClaim at fenced ⊢
  split at fenced
  next held =>
    rw [if_pos held]
    refine ⟨fenced, ?_, ?_, tidy.unsteered⟩
    · intro lock member
      obtain ⟨stored, kept⟩ := Keyed.mem_erase.mp member
      obtain ⟨lease, leaseMember, same⟩ := tidy.backed lock stored
      refine ⟨lease, Keyed.mem_erase.mpr ⟨leaseMember, ?_⟩, same⟩
      simp only [decide_eq_false_iff_not] at kept ⊢
      rintro ⟨id, task, workspace, owner⟩
      exact kept ⟨same.1.trans workspace, same.2.1.trans id, same.2.2.1.trans task,
        same.2.2.2.trans owner⟩
    · exact fun lease member => tidy.leased lease (Keyed.mem_erase.mp member).1
  next free =>
    rw [if_neg free]
    exact tidy

theorem tidy_consume {claim : PendingInputClaim} {roundId : Nat} (consumed : state.consumePendingInputClaim claim roundId = .ok next) :
    Tidy home next := by
  have fenced := fenced_consume tidy.fenced consumed
  unfold consumePendingInputClaim at consumed
  split at consumed
  next held =>
    obtain ⟨holder, holderMember, holds, _⟩ := held
    -- the input has one lease row, the one the claim holds
    have only : ∀ lease ∈ state.leases, lease.pendingInputId = claim.pendingInput.id →
        lease = holder := fun lease member same =>
      state.leases.eq_of_key member holderMember (same.trans holds.1.symm)
    split at consumed
    · cases consumed
      refine ⟨fenced, ?_, ?_, ?_⟩
      · intro lock member
        obtain ⟨stored, kept⟩ := Keyed.mem_erase.mp member
        obtain ⟨lease, leaseMember, same⟩ := tidy.backed lock stored
        refine ⟨lease, Keyed.mem_erase.mpr ⟨leaseMember, ?_⟩, same⟩
        simp only [decide_eq_false_iff_not] at kept ⊢
        rintro ⟨id, _⟩
        obtain rfl := only lease leaseMember id
        exact kept ⟨same.1.trans holds.2.2.1, same.2.1.trans holds.1,
          same.2.2.1.trans holds.2.1, same.2.2.2.trans holds.2.2.2⟩
      · intro lease member
        obtain ⟨stored, kept⟩ := Keyed.mem_erase.mp member
        obtain ⟨input, inputMember, named, pending⟩ := tidy.leased lease stored
        refine ⟨input, Keyed.mem_update.mpr (.inr ⟨inputMember, ?_⟩), named, pending⟩
        simp only [decide_eq_false_iff_not] at kept ⊢
        rintro ⟨id, _⟩
        obtain rfl := only lease stored (named.symm.trans id)
        exact kept ⟨holds.1, holds.2.2.2⟩
      · intro input member
        rcases Keyed.mem_update.mp member with ⟨old, _, _, rfl⟩ | ⟨stored, _⟩
        · exact PendingStatus.noConfusion
        · exact tidy.unsteered input stored
    · cases consumed
  · cases consumed

theorem tidy_work (op : QueueOp) : Tidy home (state.step home op) := by
  cases op with
  | claim workspace owner scope seconds =>
      simp only [step]
      split
      next claimed => exact tidy_claim tidy claimed
      · exact tidy
  | renew claim seconds =>
      simp only [step]
      split
      next renewal => exact tidy_renew tidy renewal
      · exact tidy
  | release claim => exact tidy_release tidy claim
  | consume claim roundId =>
      simp only [step]
      split
      next consumed => exact tidy_consume tidy consumed
      · exact tidy
  | elapse time => exact ⟨fenced_elapse tidy.fenced time, tidy.backed, tidy.leased, tidy.unsteered⟩

theorem tidy_inputStep {op : InputOp} (orderly : state.Orderly op) :
    Tidy home (state.inputStep home op) := by
  cases op with
  | enqueue taskId text roundId => exact tidy_queuePendingInput tidy taskId text roundId
  | steer taskId id => exact tidy_steer tidy orderly
  | markConsumed | cancel =>
      exact tidy_updatePending tidy orderly (fun _ => rfl) fun _ => PendingStatus.noConfusion
  | work op => exact tidy_work tidy op

end

theorem tidy_empty (home : Nat → String) : Tidy home emptyQueue := by
  refine ⟨fenced_initial 0 .empty, ?_, ?_, ?_⟩
  · exact fun lock member => absurd member (Keyed.not_mem_empty lock)
  · exact fun lease member => absurd member (Keyed.not_mem_empty lease)
  · exact fun input member => absurd member (Keyed.not_mem_empty input)

end Steps

def Quiet (state : QueueState) : Prop :=
  (∀ input ∈ state.inputs, input.status ≠ .pending) ∧
    ∀ lease ∈ state.leases, ¬ state.Active lease.expiresAt

theorem counts_of_tidy {home : Nat → String} {state : QueueState} (tidy : Tidy home state)
    (quiet : state.Quiet) (tables : WorkTables) :
    ∀ count ∈ state.relayQueueCounts tables, count.2 = 0 := by
  have noLease : state.leases.rows = [] := by
    refine List.eq_nil_iff_forall_not_mem.mpr fun lease member => ?_
    obtain ⟨input, stored, _, pending⟩ := tidy.leased lease member
    exact quiet.1 input stored pending
  have noLock : state.locks.rows = [] := by
    refine List.eq_nil_iff_forall_not_mem.mpr fun lock member => ?_
    obtain ⟨lease, stored, _⟩ := tidy.backed lock member
    exact absurd (show lease ∈ state.leases.rows from stored) (by rw [noLease]; exact List.not_mem_nil)
  have noInput : WorkTables.countIn (state.inputs.rows.map fun input => input.status.text)
      ["pending", "claimed", "steered"] = 0 := by
    refine List.countP_eq_zero.mpr fun text member => ?_
    obtain ⟨input, stored, rfl⟩ := List.mem_map.mp member
    cases status : input.status with
    | pending => exact absurd status (quiet.1 input stored)
    | steered => exact absurd status (tidy.unsteered input stored)
    | consumed | cancelled => decide
  rw [relayQueueCounts_eq, noLease, noLock, noInput]
  simp

/-- The drain completes after every history in which nothing is steered and no
leased input is closed but through its claim. -/
theorem queue_drain_completes (home : Nat → String) (tables : WorkTables) (ops : List InputOp)
    (orderly : Along (inputStep home) Orderly emptyQueue ops) :
    let state := ops.foldl (inputStep home) emptyQueue
    state.Quiet → ∀ count ∈ state.relayQueueCounts tables, count.2 = 0 := by
  intro state quiet
  have keeps : ∀ state op, Tidy home state → state.Orderly op → Tidy home (state.inputStep home op) :=
    fun _ _ tidy orderly => tidy_inputStep tidy orderly
  exact counts_of_tidy (invariant_foldl keeps (tidy_empty home) orderly) quiet tables

instance (state : QueueState) : Decidable state.Quiet :=
  inferInstanceAs (Decidable ((∀ input ∈ state.inputs.rows, input.status ≠ .pending) ∧
    ∀ lease ∈ state.leases.rows, ¬ state.Active lease.expiresAt))

theorem queue_drain_completes_consumed :
    let ops : List InputOp := [.enqueue 7 "next" 1, .enqueue 7 "later" 1, .cancel 7 2,
      .work (.claim "w" "o" {} 300),
      .work (.consume ⟨⟨1, 7, 1, .pending, "next", 0, none⟩, "w", "o", 300000000, 1⟩ 2)]
    ∀ count ∈ (ops.foldl (inputStep fun _ => "w") emptyQueue).relayQueueCounts {}, count.2 = 0 :=
  queue_drain_completes (fun _ => "w") {} _ (by decide +kernel) (by decide +kernel)

/-- A steered input counts for ever, and so do the lease and the lock of an input
that was cancelled while it was claimed. -/
theorem queue_drain_stuck :
    let steered := [InputOp.enqueue 7 "next" 1, .steer 7 1].foldl (inputStep fun _ => "w") emptyQueue
    let cancelled := [InputOp.enqueue 7 "next" 1, .work (.claim "w" "o" {} 300), .cancel 7 1,
      .work (.elapse 300000000)].foldl (inputStep fun _ => "w") emptyQueue
    (steered.Quiet ∧ ("Relay queued inputs", 1) ∈ steered.relayQueueCounts {}) ∧
      cancelled.Quiet ∧ ("Relay queue leases", 1) ∈ cancelled.relayQueueCounts {} ∧
      ("Relay workspace queue locks", 1) ∈ cancelled.relayQueueCounts {} := by
  decide +kernel

end QueueState

end Wlcodex.Relay
