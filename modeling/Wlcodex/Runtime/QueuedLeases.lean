import Wlcodex.Lib.Run
import Wlcodex.Runtime.Redaction

namespace Wlcodex.Runtime

open Wlcodex.Relay (strip)

/-! Leases over queued runs. -/

inductive PlainKind where
  | queued
  | started
  | recoveryRequired
  | other
  deriving DecidableEq

inductive LeaseKind where
  | plain (kind : PlainKind)
  | claimed (owner : String) (expiresAt : Nat)
  | released
  | consumed
  deriving DecidableEq

def LeaseKind.isLease : LeaseKind → Bool
  | .plain _ => false
  | _ => true

/-- A row of `runtime_events`. -/
structure LeaseRow where
  id : Nat
  kind : LeaseKind
  causationId : Option Nat
  conversationId : Option Nat
  deriving DecidableEq

structure QueuedRunClaim where
  queuedId : Nat
  conversationId : Option Nat
  claimId : Nat
  workspaceAlias : String
  leaseOwner : String
  deriving DecidableEq

/-- The events, newest first, the workspaces of the conversations, the clock, and the
claims that were handed out. -/
structure LeaseStore where
  rows : List LeaseRow
  nextId : Nat
  workspaceOf : Nat → Option String
  now : Nat
  claims : List QueuedRunClaim

namespace LeaseStore

def append (store : LeaseStore) (kind : LeaseKind) (causationId conversationId : Option Nat) : LeaseStore :=
  { store with rows := ⟨store.nextId, kind, causationId, conversationId⟩ :: store.rows, nextId := store.nextId + 1 }

/-- `_latest_queued_run_lease_event_locked`. -/
def latestLease? (store : LeaseStore) (queuedId : Nat) : Option LeaseRow :=
  store.rows.find? fun row => row.causationId = some queuedId ∧ row.kind.isLease

/-- `_queued_run_is_consumed_locked`. -/
def isConsumed (store : LeaseStore) (queued : LeaseRow) : Bool :=
  (store.rows.any fun row => row.causationId = some queued.id ∧
      row.kind ∈ [.consumed, .plain .started, .plain .recoveryRequired]) ||
    store.rows.any fun row => row.conversationId.isSome ∧ row.conversationId = queued.conversationId ∧
      row.id > queued.id ∧ row.causationId = none ∧ row.kind ∈ [.consumed, .plain .started]

def expiredAt (time : Nat) : LeaseKind → Bool
  | .claimed _ expiresAt => expiresAt ≤ time
  | _ => true

def Claimable (store : LeaseStore) (workspace : String) (time : Nat) (row : LeaseRow) : Prop :=
  row.kind = .plain .queued ∧ row.conversationId.bind store.workspaceOf = some workspace ∧
    store.isConsumed row = false ∧ ∀ latest ∈ store.latestLease? row.id, expiredAt time latest.kind

instance (store : LeaseStore) (workspace : String) (time : Nat) (row : LeaseRow) :
    Decidable (store.Claimable workspace time row) := by
  unfold Claimable
  infer_instance

def nextQueued? (store : LeaseStore) (workspace : String) (time : Nat) : Option LeaseRow :=
  store.rows.reverse.find? fun row => store.Claimable workspace time row

end LeaseStore

/-- `max(1, int(lease_seconds or 300))`, in microseconds. -/
def leaseSpan (seconds : Int) : Nat :=
  (max 1 (if seconds = 0 then 300 else seconds)).toNat * 1000000

section Leases

variable (words : WordClass)

/-- The owner in the payload of a claim, as `redact_payload` leaves it. -/
def storedOwner (owner : String) : String :=
  String.ofList (capString (some 10000) (redactTextContent words owner.toList))

namespace LeaseStore

/-- `claim_next_queued_run_for_workspace`; the clock is read before the transaction
begins. -/
def claimNextQueuedRunForWorkspace (store : LeaseStore) (workspaceAlias leaseOwner : String) (seconds : Int)
    (waited : Nat) : LeaseStore :=
  let workspace := strip workspaceAlias
  let owner := strip leaseOwner
  let time := store.now - waited
  if workspace = "" ∨ owner = "" then store
  else
    match store.nextQueued? workspace time with
    | none => store
    | some queued =>
        { store.append (.claimed (storedOwner words owner) (time + leaseSpan seconds)) (some queued.id)
            queued.conversationId with
          claims := ⟨queued.id, queued.conversationId, store.nextId, workspace, owner⟩ :: store.claims }

def matchesOwner (store : LeaseStore) (claim : QueuedRunClaim) : Bool :=
  match store.latestLease? claim.queuedId with
  | some ⟨_, .claimed owner _, _, _⟩ => owner = claim.leaseOwner
  | _ => false

def releaseQueuedRunClaim (store : LeaseStore) (claim : QueuedRunClaim) : LeaseStore :=
  if store.matchesOwner claim then store.append .released (some claim.queuedId) claim.conversationId
  else store

def consumeQueuedRunClaim (store : LeaseStore) (claim : QueuedRunClaim) : LeaseStore :=
  if store.rows.any fun row => row.causationId = some claim.queuedId ∧ row.kind = .consumed then store
  else if store.matchesOwner claim then store.append .consumed (some claim.queuedId) claim.conversationId
  else store

end LeaseStore

inductive LeaseOp where
  | claim (workspaceAlias leaseOwner : String) (seconds : Int) (waited : Nat)
  | release (claim : QueuedRunClaim)
  | consume (claim : QueuedRunClaim)
  | append (kind : PlainKind) (causationId conversationId : Option Nat)
  | session (conversationId : Nat) (workspaceAlias : Option String)
  | tick (elapsed : Nat)

def leaseStep (store : LeaseStore) : LeaseOp → LeaseStore
  | .claim workspaceAlias leaseOwner seconds waited =>
      store.claimNextQueuedRunForWorkspace words workspaceAlias leaseOwner seconds waited
  | .release claim => store.releaseQueuedRunClaim claim
  | .consume claim => store.consumeQueuedRunClaim claim
  | .append kind causationId conversationId => store.append (.plain kind) causationId conversationId
  | .session conversationId workspaceAlias =>
      { store with workspaceOf := Function.update store.workspaceOf conversationId workspaceAlias }
  | .tick elapsed => { store with now := store.now + elapsed }

def LeaseStore.empty : LeaseStore := ⟨[], 1, fun _ => none, 0, []⟩

end Leases

end Wlcodex.Runtime
