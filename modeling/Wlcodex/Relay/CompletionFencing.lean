import Wlcodex.Relay.CompletionReplay

namespace Wlcodex.Relay

open Wlcodex.Lib

/-! Workers on one claim table. -/

structure Grant where
  worker : Nat
  identity : Identity
  /-- The row that was inserted or recovered. -/
  key : EventKey
  grantedAt : Nat
  deriving DecidableEq, Repr

def Grant.Live (leaseSeconds : Int) (now : Nat) (grant : Grant) : Prop :=
  claimCutoff now leaseSeconds ≤ grant.grantedAt

instance (leaseSeconds : Int) (now : Nat) (grant : Grant) :
    Decidable (grant.Live leaseSeconds now) :=
  inferInstanceAs (Decidable (_ ≤ _))

inductive WorkerCall where
  | claim (roundId : Int) (role : Option Role) (runtimeEventId : Int) (agentRunId : Option Int)
  | markApplied (runtimeEventId : Int) (agentRunId : Option Int) (artifactId : Option Nat)
  | markIgnoredStale (runtimeEventId : Int) (agentRunId : Option Int)
  | release (runtimeEventId : Int) (agentRunId : Option Int)
  deriving DecidableEq, Repr

inductive FencingOp where
  | call (worker : Nat) (call : WorkerCall)
  | tick (elapsed : Nat)
  deriving DecidableEq, Repr

structure FencedStore where
  now : Nat
  table : ClaimTable
  grants : List Grant
  deriving DecidableEq

namespace FencedStore

def empty : FencedStore where
  now := 0
  table := .empty
  grants := []

def ended (state : FencedStore) (worker : Nat) (identity : Identity) : List Grant :=
  state.grants.filter fun grant => ¬ (grant.worker = worker ∧ grant.identity = identity)

def step (leaseSeconds : Int) (state : FencedStore) : FencingOp → FencedStore
  | .call worker (.claim roundId role event run) =>
      match claimCompletionEventResult state.table state.now roundId role event run
          leaseSeconds with
      | .error _ => state
      | .ok (claim, table) =>
          { state with
            table := table
            grants :=
              match claim.acquired, claim.eventKey with
              | true, some key =>
                  ⟨worker, Identity.ofCall event run, key, state.now⟩ :: state.grants
              | _, _ => state.grants }
  | .call worker (.markApplied event run artifact) =>
      { state with
        table := markCompletionEventApplied state.table state.now event run artifact
        grants := state.ended worker (Identity.ofCall event run) }
  | .call worker (.markIgnoredStale event run) =>
      { state with
        table := markCompletionEventIgnoredStale state.table state.now event run
        grants := state.ended worker (Identity.ofCall event run) }
  | .call worker (.release event run) =>
      { state with
        table := releaseCompletionEventClaim state.table event run
        grants := state.ended worker (Identity.ofCall event run) }
  | .tick elapsed => { state with now := state.now + elapsed }

end FencedStore

section Fencing

variable (leaseSeconds : Int)

def FencedStore.SingleHolder (state : FencedStore) : Prop :=
  ∀ first ∈ state.grants, ∀ second ∈ state.grants,
    first.Live leaseSeconds state.now → second.Live leaseSeconds state.now →
    first.identity = second.identity → first.worker = second.worker

instance (state : FencedStore) : Decidable (state.SingleHolder leaseSeconds) :=
  inferInstanceAs (Decidable (∀ first ∈ state.grants, ∀ second ∈ state.grants, _ → _ → _ → _))

def FencedStore.RespectsGrants (state : FencedStore) : FencingOp → Prop
  | .call _ (.claim _ _ event run) =>
      ∀ row ∈ pickRow? state.table (Identity.ofCall event run),
        row.Expired state.now leaseSeconds →
        ∀ other ∈ state.table.rows, other ≠ row → (Identity.ofCall event run).Selects other →
          ∀ grant ∈ state.grants, grant.key = other.eventKey →
            ¬ grant.Live leaseSeconds state.now
  | .call worker (.release event run) =>
      ∀ row ∈ state.table.rows, row.status = .claimed →
        (Identity.ofCall event run).Selects row →
        ∀ grant ∈ state.grants, grant.key = row.eventKey →
          grant.Live leaseSeconds state.now →
            grant.worker = worker ∧ grant.identity = Identity.ofCall event run
  | _ => True

instance (state : FencedStore) : DecidablePred (state.RespectsGrants leaseSeconds)
  | .call _ (.claim _ _ event run) =>
      inferInstanceAs (Decidable (∀ row ∈ pickRow? state.table (Identity.ofCall event run),
        row.Expired state.now leaseSeconds →
        ∀ other ∈ state.table.rows, other ≠ row → (Identity.ofCall event run).Selects other →
          ∀ grant ∈ state.grants, grant.key = other.eventKey →
            ¬ grant.Live leaseSeconds state.now))
  | .call worker (.release event run) =>
      inferInstanceAs (Decidable (∀ row ∈ state.table.rows, row.status = .claimed →
        (Identity.ofCall event run).Selects row →
        ∀ grant ∈ state.grants, grant.key = row.eventKey →
          grant.Live leaseSeconds state.now →
            grant.worker = worker ∧ grant.identity = Identity.ofCall event run))
  | .call _ (.markApplied ..) => isTrue trivial
  | .call _ (.markIgnoredStale ..) => isTrue trivial
  | .tick .. => isTrue trivial

def Grant.Backed (grant : Grant) (table : ClaimTable) : Prop :=
  ∃ row ∈ table.rows, row.eventKey = grant.key ∧ grant.identity.Selects row ∧
    (row.status = .claimed → row.updatedAt = grant.grantedAt)

structure Fenced (state : FencedStore) : Prop where
  backed : ∀ grant ∈ state.grants, grant.Live leaseSeconds state.now → grant.Backed state.table
  single : ∀ first ∈ state.grants, ∀ second ∈ state.grants,
    first.Live leaseSeconds state.now → second.Live leaseSeconds state.now →
    first.identity = second.identity ∨ first.key = second.key → first = second

variable {leaseSeconds}

theorem fenced_empty : Fenced leaseSeconds .empty where
  backed := by simp [FencedStore.empty]
  single := by simp [FencedStore.empty]

theorem Grant.Live.earlier {grant : Grant} {now : Nat} (elapsed : Nat)
    (live : grant.Live leaseSeconds (now + elapsed)) : grant.Live leaseSeconds now := by
  unfold Grant.Live claimCutoff at *
  omega

theorem Grant.Live.unexpired {grant : Grant} {now : Nat} {row : ClaimRow} (live : grant.Live leaseSeconds now)
    (current : row.status = .claimed → row.updatedAt = grant.grantedAt) :
    ¬ row.Expired now leaseSeconds := by
  rintro ⟨claimed, old⟩
  unfold Grant.Live at live
  rw [current claimed] at old
  omega

theorem Fenced.shrink {state next : FencedStore} (fenced : Fenced leaseSeconds state)
    (kept : ∀ grant ∈ next.grants, grant.Live leaseSeconds next.now →
      grant ∈ state.grants ∧ grant.Live leaseSeconds state.now ∧
        (grant.Backed state.table → grant.Backed next.table)) :
    Fenced leaseSeconds next where
  backed grant member live := by
    obtain ⟨before, liveBefore, carries⟩ := kept grant member live
    exact carries (fenced.backed grant before liveBefore)
  single first firstMember second secondMember firstLive secondLive overlap := by
    obtain ⟨firstBefore, firstLiveBefore, _⟩ := kept first firstMember firstLive
    obtain ⟨secondBefore, secondLiveBefore, _⟩ := kept second secondMember secondLive
    exact fenced.single first firstBefore second secondBefore firstLiveBefore secondLiveBefore
      overlap

variable {state : FencedStore}

theorem Fenced.grant {table : ClaimTable} {granted : Grant} (fenced : Fenced leaseSeconds state)
    (apart : ∀ grant ∈ state.grants, grant.Live leaseSeconds state.now →
      grant.identity ≠ granted.identity ∧ grant.key ≠ granted.key)
    (carries : ∀ grant ∈ state.grants, grant.Live leaseSeconds state.now →
      grant.Backed state.table → grant.Backed table)
    (backed : granted.Backed table) :
    Fenced leaseSeconds { state with table := table, grants := granted :: state.grants } where
  backed grant member live := by
    rcases List.mem_cons.mp member with rfl | member
    · exact backed
    · exact carries grant member live (fenced.backed grant member live)
  single first firstMember second secondMember firstLive secondLive overlap := by
    rcases List.mem_cons.mp firstMember with rfl | firstOld
    · rcases List.mem_cons.mp secondMember with rfl | secondOld
      · rfl
      · obtain ⟨otherIdentity, otherKey⟩ := apart second secondOld secondLive
        rcases overlap with sameIdentity | sameKey
        · exact absurd sameIdentity.symm otherIdentity
        · exact absurd sameKey.symm otherKey
    · rcases List.mem_cons.mp secondMember with rfl | secondOld
      · obtain ⟨otherIdentity, otherKey⟩ := apart first firstOld firstLive
        rcases overlap with sameIdentity | sameKey
        · exact absurd sameIdentity otherIdentity
        · exact absurd sameKey otherKey
      · exact fenced.single first firstOld second secondOld firstLive secondLive overlap

theorem Grant.Backed.settle {grant : Grant} {table next : ClaimTable} {change : ClaimRow → ClaimRow}
    (rows : next.rows = table.rows.map change) (sameKey : ∀ row, (change row).eventKey = row.eventKey)
    (sameEvent : ∀ row, (change row).runtimeEventId = row.runtimeEventId)
    (sameRun : ∀ row, (change row).agentRunId = row.agentRunId)
    (settles : ∀ row, (change row).status = .claimed → change row = row)
    (backed : grant.Backed table) : grant.Backed next := by
  obtain ⟨row, member, keyEquation, selects, current⟩ := backed
  refine ⟨change row, ?_, (sameKey row).trans keyEquation, ?_, ?_⟩
  · rw [rows]
    exact List.mem_map_of_mem member
  · unfold Identity.Selects Identity.SharesId at *
    rw [sameKey, sameEvent, sameRun]
    exact selects
  · intro claimed
    have unchanged := settles row claimed
    rw [unchanged] at claimed ⊢
    exact current claimed

theorem mem_ended {worker : Nat} {identity : Identity} {grant : Grant}
    (member : grant ∈ state.ended worker identity) :
    grant ∈ state.grants ∧ ¬ (grant.worker = worker ∧ grant.identity = identity) := by
  obtain ⟨before, notEnded⟩ := List.mem_filter.mp member
  exact ⟨before, of_decide_eq_true notEnded⟩

theorem fenced_claim (worker : Nat) (roundId : Int) (role : Option Role)
    (event : Int) (run : Option Int) (fenced : Fenced leaseSeconds state)
    (respects : state.RespectsGrants leaseSeconds (.call worker (.claim roundId role event run))) :
    Fenced leaseSeconds
      (state.step leaseSeconds (.call worker (.claim roundId role event run))) := by
  rcases claim_cases state.table state.now roundId role event run leaseSeconds with
    ⟨keyless, claim, outcome, acquired⟩ |
    ⟨key, next, keyEquation, picked, rows, claim, outcome, acquired, claimKey⟩ |
    ⟨row, picked, unexpired, claim, outcome, refused, settled⟩ |
    ⟨row, next, picked, expired, free, rows, claim, outcome, acquired, claimKey⟩ |
    ⟨row, picked, expired, _, outcome⟩
  · have noKey : claim.eventKey = none := by
      unfold claimCompletionEventResult at outcome
      simp only at outcome
      split at outcome
      · cases outcome
        rfl
      · rename_i key keyEquation
        rw [keyless] at keyEquation
        cases keyEquation
    simpa [FencedStore.step, outcome, noKey] using fenced
  · have unselected := pickRow?_eq_none_iff.mp picked
    simp only [FencedStore.step, outcome, acquired, claimKey]
    refine fenced.grant ?_ ?_ ?_
    · intro grant member live
      obtain ⟨row, rowMember, rowKey, selects, _⟩ := fenced.backed grant member live
      constructor
      · intro sameIdentity
        rw [sameIdentity] at selects
        exact unselected row rowMember selects
      · intro sameKey
        refine unselected row rowMember (.inl ?_)
        rw [keyEquation, rowKey, sameKey]
    · rintro grant _ _ ⟨row, rowMember, backed⟩
      refine ⟨row, ?_, backed⟩
      rw [rows]
      exact List.mem_cons_of_mem _ rowMember
    · refine ⟨newClaimRow (Identity.ofCall event run) key (role.getD .director)
        (max 1 roundId).toNat state.now, ?_, rfl, .inl keyEquation, fun _ => rfl⟩
      rw [rows]
      exact List.mem_cons_self
  · simpa [FencedStore.step, outcome, refused] using fenced
  · have member := pickRow?_mem picked
    simp only [FencedStore.step, outcome, acquired, claimKey]
    have elsewhere : ∀ grant ∈ state.grants, grant.Live leaseSeconds state.now →
        grant.key ≠ row.eventKey := by
      intro grant grantMember live sameKey
      obtain ⟨held, heldMember, heldKey, _, current⟩ := fenced.backed grant grantMember live
      have same := state.table.eq_of_eventKey_eq heldMember member (heldKey.trans sameKey)
      exact live.unexpired current (same ▸ expired)
    refine fenced.grant ?_ ?_ ?_
    · intro grant grantMember live
      refine ⟨?_, elsewhere grant grantMember live⟩
      intro sameIdentity
      obtain ⟨held, heldMember, heldKey, selects, current⟩ :=
        fenced.backed grant grantMember live
      have different : held ≠ row := by
        rintro rfl
        exact live.unexpired current expired
      rw [sameIdentity] at selects
      exact respects row picked expired held heldMember different selects
        grant grantMember heldKey.symm live
    · rintro grant grantMember live ⟨held, heldMember, heldKey, selects, current⟩
      refine ⟨held, ?_, heldKey, selects, current⟩
      rw [rows, List.mem_map]
      refine ⟨held, heldMember, if_neg ?_⟩
      exact heldKey ▸ elsewhere grant grantMember live
    · refine ⟨row.recover (Identity.ofCall event run) state.now, ?_, rfl,
        (pickRow?_selects picked).recover state.now, fun _ => rfl⟩
      rw [rows, List.mem_map]
      exact ⟨row, member, if_pos rfl⟩
  · simpa [FencedStore.step, outcome] using fenced

theorem fenced_step (state : FencedStore) (op : FencingOp) (fenced : Fenced leaseSeconds state)
    (respects : state.RespectsGrants leaseSeconds op) :
    Fenced leaseSeconds (state.step leaseSeconds op) := by
  cases op with
  | tick elapsed =>
      exact fenced.shrink fun grant member live =>
        ⟨member, live.earlier elapsed, fun backed => backed⟩
  | call worker call =>
      cases call with
      | claim roundId role event run => exact fenced_claim worker roundId role event run fenced respects
      | markApplied | markIgnoredStale =>
          refine fenced.shrink fun grant member live => ⟨(mem_ended member).1, live, ?_⟩
          refine Grant.Backed.settle rfl ?_ ?_ ?_ ?_ <;> intro row <;> split <;> simp
      | release event run =>
          refine fenced.shrink fun grant member live => ⟨(mem_ended member).1, live, ?_⟩
          rintro ⟨row, rowMember, rowKey, selects, current⟩
          refine ⟨row, List.mem_filter.mpr ⟨rowMember, ?_⟩, rowKey, selects, current⟩
          -- a row of this grant would be deleted only by the grant's own worker
          by_contra deleted
          simp only [Bool.not_eq_true, Bool.not_eq_false', decide_eq_true_eq] at deleted
          obtain ⟨before, notEnded⟩ := mem_ended member
          exact notEnded (respects row rowMember deleted.1 deleted.2 grant before rowKey.symm live)

/-- In every state that calls respecting the live grants can reach, at most one
worker holds a live claim for one identity. -/
theorem completion_claim_single_holder (ops : List FencingOp)
    (respects : Along (FencedStore.step leaseSeconds)
      (FencedStore.RespectsGrants leaseSeconds) .empty ops) :
    (ops.foldl (FencedStore.step leaseSeconds) .empty).SingleHolder leaseSeconds := by
  have fenced := invariant_foldl fenced_step fenced_empty respects
  intro first firstMember second secondMember firstLive secondLive sameIdentity
  rw [fenced.single first firstMember second secondMember firstLive secondLive
    (.inl sameIdentity)]

end Fencing

theorem completion_claim_single_holder_late_mark :
    let ops : List FencingOp :=
      [.call 1 (.claim 1 (some .tester) 5 (some 7)), .tick 901000000,
        .call 2 (.claim 1 (some .tester) 5 (some 7)),
        .call 1 (.markIgnoredStale 5 (some 7)), .call 1 (.markApplied 5 (some 7) none),
        .call 3 (.claim 1 (some .tester) 5 (some 7))]
    (ops.foldl (FencedStore.step 900) .empty).SingleHolder 900 :=
  completion_claim_single_holder _ (by decide)

/-- Worker 1 claims and stalls past its lease, worker 2 recovers the claim,
worker 1 releases late, and worker 3 acquires the completion worker 2 holds. -/
theorem late_release_admits_third_worker :
    let ops : List FencingOp :=
      [.call 1 (.claim 1 (some .tester) 5 (some 7)), .tick 901000000,
        .call 2 (.claim 1 (some .tester) 5 (some 7)), .call 1 (.release 5 (some 7)),
        .call 3 (.claim 1 (some .tester) 5 (some 7))]
    ¬ (ops.foldl (FencedStore.step 900) .empty).SingleHolder 900 := by
  decide

end Wlcodex.Relay
