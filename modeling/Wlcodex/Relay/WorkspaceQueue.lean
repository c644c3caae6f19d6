import Mathlib.Data.List.Sort
import Wlcodex.Lib.Keyed
import Wlcodex.Lib.Run
import Wlcodex.Relay.Vocabulary

namespace Wlcodex.Relay

open Wlcodex.Lib

/-! The pending-input queue of `RelayStore`. Times are microseconds. -/

inductive PendingStatus where
  | pending
  | steered
  | consumed
  | cancelled
  deriving DecidableEq, Repr

/-- A row of `relay_pending_inputs`. -/
structure PendingInput where
  id : Nat
  taskId : Nat
  queuedAfterRoundId : Nat
  status : PendingStatus
  text : String
  createdAt : Nat
  consumedRoundId : Option Nat
  deriving DecidableEq, Repr

def PendingInput.earliestRound (input : PendingInput) : Nat :=
  if input.queuedAfterRoundId = 0 then 1 else input.queuedAfterRoundId

/-- A row of `relay_workspace_queue_locks`. -/
structure QueueLock where
  workspace : String
  pendingInputId : Nat
  taskId : Nat
  owner : String
  expiresAt : Nat
  deriving DecidableEq, Repr

/-- A row of `relay_workspace_queue_leases`. -/
structure QueueLease where
  pendingInputId : Nat
  taskId : Nat
  workspace : String
  owner : String
  expiresAt : Nat
  attemptCount : Nat
  deriving DecidableEq, Repr

def QueueLease.lock (lease : QueueLease) : QueueLock where
  workspace := lease.workspace
  pendingInputId := lease.pendingInputId
  taskId := lease.taskId
  owner := lease.owner
  expiresAt := lease.expiresAt

/-- `RelayPendingInputClaim`: what a worker keeps of its lease. -/
structure PendingInputClaim where
  pendingInput : PendingInput
  workspace : String
  owner : String
  expiresAt : Nat
  attemptCount : Nat
  deriving DecidableEq, Repr

inductive QueueError where
  /-- A unique index of the lock table is violated. -/
  | lockTaken
  /-- `pending input workspace lock is no longer owned`. -/
  | lockLost
  /-- `pending input claim is no longer owned`. -/
  | claimLost
  /-- `pending input is no longer consumable`. -/
  | notConsumable
  deriving DecidableEq, Repr

structure QueueState where
  now : Nat
  inputs : Keyed PendingInput.id
  leases : Keyed QueueLease.pendingInputId
  locks : Keyed QueueLock.workspace
  deriving DecidableEq

namespace QueueState

/-- `now + timedelta(seconds=max(1, int(lease_seconds or 300)))`. -/
def expiry (state : QueueState) (leaseSeconds : Int) : Nat :=
  state.now + (max 1 (if leaseSeconds = 0 then 300 else leaseSeconds)).toNat * 1000000

/-- `_relay_lease_is_active`; the stored texts order as the times do. -/
def Active (state : QueueState) (expiresAt : Nat) : Prop := state.now < expiresAt

instance (state : QueueState) : DecidablePred state.Active := fun expiresAt =>
  inferInstanceAs (Decidable (state.now < expiresAt))

def queuedBefore (first second : PendingInput) : Prop :=
  first.createdAt < second.createdAt ∨
    first.createdAt = second.createdAt ∧ first.id ≤ second.id

instance : DecidableRel queuedBefore := fun first second =>
  inferInstanceAs (Decidable (first.createdAt < second.createdAt ∨
    first.createdAt = second.createdAt ∧ first.id ≤ second.id))

structure ClaimScope where
  taskId : Option Nat := none
  pendingInputId : Option Nat := none
  queuedThroughRoundId : Option Nat := none
  deriving DecidableEq, Repr

section Claim

-- `_workspace_for_task_locked`: empty for a run that is no relay task
variable (home : Nat → String)

def candidateWorkspace (state : QueueState) (input : PendingInput) : String :=
  let leased := strip (((state.leases.find? input.id).map QueueLease.workspace).getD "")
  if leased = "" then home input.taskId else leased

def Claimable (state : QueueState) (workspace : String) (scope : ClaimScope)
    (input : PendingInput) : Prop :=
  input.status = .pending ∧ (∀ taskId ∈ scope.taskId, input.taskId = taskId) ∧
    (∀ id ∈ scope.pendingInputId, input.id = id) ∧
    (∀ roundId ∈ scope.queuedThroughRoundId, input.earliestRound ≤ roundId) ∧
    state.candidateWorkspace home input = workspace ∧
    ∀ lease ∈ state.leases.find? input.id, strip lease.owner = "" ∨ ¬ state.Active lease.expiresAt

instance (state : QueueState) (workspace : String) (scope : ClaimScope) :
    DecidablePred (state.Claimable home workspace scope) := fun input =>
  inferInstanceAs (Decidable (input.status = .pending ∧
    (∀ taskId ∈ scope.taskId, input.taskId = taskId) ∧
    (∀ id ∈ scope.pendingInputId, input.id = id) ∧
    (∀ roundId ∈ scope.queuedThroughRoundId, input.earliestRound ≤ roundId) ∧
    state.candidateWorkspace home input = workspace ∧
    ∀ lease ∈ state.leases.find? input.id,
      strip lease.owner = "" ∨ ¬ state.Active lease.expiresAt))

def selected? (state : QueueState) (workspace : String) (scope : ClaimScope) :
    Option PendingInput :=
  (state.inputs.rows.insertionSort queuedBefore).find? fun input =>
    state.Claimable home workspace scope input

def leaseFor (state : QueueState) (input : PendingInput) (workspace owner : String)
    (expiresAt : Nat) : QueueLease :=
  match state.leases.find? input.id with
  | some lease =>
      { lease with
        workspace := workspace
        owner := owner
        expiresAt := expiresAt
        attemptCount := lease.attemptCount + 1 }
  | none => ⟨input.id, input.taskId, workspace, owner, expiresAt, 1⟩

/-- `UPDATE` of the stale lease or `INSERT OR IGNORE` of a new one. -/
def putLease (state : QueueState) (lease : QueueLease) : Option (Keyed QueueLease.pendingInputId) :=
  match state.leases.find? lease.pendingInputId with
  | some _ =>
      some (state.leases.update (fun row => row.pendingInputId = lease.pendingInputId)
        ⟨fun row => { lease with pendingInputId := row.pendingInputId }, fun _ => rfl⟩)
  | none => state.leases.insert? lease

/-- `INSERT INTO relay_workspace_queue_locks`, unique by workspace and by input. -/
def putLock (state : QueueState) (lock : QueueLock) : Option (Keyed QueueLock.workspace) :=
  if ∃ row ∈ state.locks.rows, row.pendingInputId = lock.pendingInputId then none
  else state.locks.insert? lock

def claimUnlocked (state : QueueState) (workspace owner : String) (scope : ClaimScope)
    (expiresAt : Nat) : Except QueueError (Option PendingInputClaim × QueueState) :=
  if ∃ lease ∈ state.leases.rows,
      lease.workspace = workspace ∧ lease.owner ≠ "" ∧ state.Active lease.expiresAt then
    .ok (none, state)
  else
    match state.selected? home workspace scope with
    | none => .ok (none, state)
    | some input =>
        let lease := state.leaseFor input workspace owner expiresAt
        match state.putLease lease with
        | none => .ok (none, state)
        | some leases =>
            match state.putLock { lease.lock with taskId := input.taskId } with
            | none => .error .lockTaken
            | some locks =>
                .ok (some ⟨input, workspace, owner, lease.expiresAt, lease.attemptCount⟩,
                  { state with leases := leases, locks := locks })

def claimPendingInputForWorkspace (state : QueueState) (workspace leaseOwner : String)
    (scope : ClaimScope) (leaseSeconds : Int) :
    Except QueueError (Option PendingInputClaim × QueueState) :=
  let workspace := strip workspace
  let owner := strip leaseOwner
  if workspace = "" ∨ owner = "" then .ok (none, state)
  else if (state.locks.find? workspace).any fun lock => state.Active lock.expiresAt then
    .ok (none, state)
  else
    claimUnlocked home
      { state with locks := state.locks.erase fun lock => lock.workspace = workspace }
      workspace owner scope (state.expiry leaseSeconds)

end Claim

def Holds (claim : PendingInputClaim) (lease : QueueLease) : Prop :=
  lease.pendingInputId = claim.pendingInput.id ∧ lease.taskId = claim.pendingInput.taskId ∧
    lease.workspace = claim.workspace ∧ lease.owner = claim.owner

instance (claim : PendingInputClaim) : DecidablePred (Holds claim) := fun lease =>
  inferInstanceAs (Decidable (lease.pendingInputId = claim.pendingInput.id ∧
    lease.taskId = claim.pendingInput.taskId ∧ lease.workspace = claim.workspace ∧
    lease.owner = claim.owner))

def Locks (claim : PendingInputClaim) (lock : QueueLock) : Prop :=
  lock.workspace = claim.workspace ∧ lock.pendingInputId = claim.pendingInput.id ∧
    lock.taskId = claim.pendingInput.taskId ∧ lock.owner = claim.owner

instance (claim : PendingInputClaim) : DecidablePred (Locks claim) := fun lock =>
  inferInstanceAs (Decidable (lock.workspace = claim.workspace ∧
    lock.pendingInputId = claim.pendingInput.id ∧ lock.taskId = claim.pendingInput.taskId ∧
    lock.owner = claim.owner))

def renewed (state : QueueState) (claim : PendingInputClaim) (expiresAt : Nat) : QueueState :=
  { state with
    leases := state.leases.update (fun lease => Holds claim lease ∧ state.Active lease.expiresAt)
      ⟨fun lease => { lease with expiresAt := expiresAt }, fun _ => rfl⟩
    locks := state.locks.update (fun lock => Locks claim lock ∧ state.Active lock.expiresAt)
      ⟨fun lock => { lock with expiresAt := expiresAt }, fun _ => rfl⟩ }

def renewPendingInputClaim (state : QueueState) (claim : PendingInputClaim)
    (leaseSeconds : Int) : Except QueueError (Option PendingInputClaim × QueueState) :=
  let expiresAt := state.expiry leaseSeconds
  if ∃ lease ∈ state.leases.rows, Holds claim lease ∧ state.Active lease.expiresAt then
    if ∃ lock ∈ state.locks.rows, Locks claim lock ∧ state.Active lock.expiresAt then
      .ok (some { claim with expiresAt := expiresAt }, state.renewed claim expiresAt)
    else .error .lockLost
  else .ok (none, state)

def releasePendingInputClaim (state : QueueState) (claim : PendingInputClaim) :
    Bool × QueueState :=
  if ∃ lease ∈ state.leases.rows, Holds claim lease then
    (true, { state with
      leases := state.leases.erase fun lease => Holds claim lease
      locks := state.locks.erase fun lock => Locks claim lock })
  else (false, state)

def consumedPatch (consumedRoundId : Nat) : Patch PendingInput.id :=
  ⟨fun input => { input with status := .consumed, consumedRoundId := some consumedRoundId },
    fun _ => rfl⟩

def consumePendingInputClaim (state : QueueState) (claim : PendingInputClaim)
    (consumedRoundId : Nat) : Except QueueError QueueState :=
  if ∃ lease ∈ state.leases.rows, Holds claim lease ∧ state.Active lease.expiresAt then
    if ∃ input ∈ state.inputs.rows, input.id = claim.pendingInput.id ∧
        input.taskId = claim.pendingInput.taskId ∧ input.status = .pending then
      .ok { state with
        inputs := state.inputs.update
          (fun input => input.id = claim.pendingInput.id ∧
            input.taskId = claim.pendingInput.taskId ∧ input.status = .pending)
          (consumedPatch consumedRoundId)
        leases := state.leases.erase fun lease =>
          lease.pendingInputId = claim.pendingInput.id ∧ lease.owner = claim.owner
        locks := state.locks.erase fun lock => Locks claim lock }
    else .error .notConsumable
  else .error .claimLost

end QueueState

inductive QueueOp where
  | claim (workspace leaseOwner : String) (scope : QueueState.ClaimScope) (leaseSeconds : Int)
  | renew (claim : PendingInputClaim) (leaseSeconds : Int)
  | release (claim : PendingInputClaim)
  | consume (claim : PendingInputClaim) (consumedRoundId : Nat)
  | elapse (time : Nat)
  deriving DecidableEq, Repr

namespace QueueState

def step (home : Nat → String) (state : QueueState) : QueueOp → QueueState
  | .claim workspace owner scope seconds =>
      match state.claimPendingInputForWorkspace home workspace owner scope seconds with
      | .ok (_, next) => next
      | .error _ => state
  | .renew claim seconds =>
      match state.renewPendingInputClaim claim seconds with
      | .ok (_, next) => next
      | .error _ => state
  | .release claim => (state.releasePendingInputClaim claim).2
  | .consume claim roundId =>
      match state.consumePendingInputClaim claim roundId with
      | .ok next => next
      | .error _ => state
  | .elapse time => { state with now := state.now + time }

end QueueState

end Wlcodex.Relay
