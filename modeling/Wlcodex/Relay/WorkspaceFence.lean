import Mathlib.Data.List.DropRight
import Wlcodex.Relay.WorkspaceQueue

namespace Wlcodex.Relay

open Wlcodex.Lib

/-! Mutual exclusion on a workspace. -/

theorem dropWhile_of_prefix {p : Char → Bool} {whole front : List Char}
    (isPrefix : front <+: whole.dropWhile p) : front.dropWhile p = front := by
  cases front with
  | nil => rfl
  | cons head rest =>
      obtain ⟨tail, whole_eq⟩ := isPrefix
      have kept : (head :: (rest ++ tail)).dropWhile p = head :: (rest ++ tail) := by
        rw [← List.cons_append, whole_eq]
        exact List.dropWhile_idempotent p whole
      cases blank : p head with
      | false => simp [blank]
      | true =>
          have shorter := List.length_dropWhile_le p (rest ++ tail)
          rw [List.dropWhile_cons_of_pos blank] at kept
          rw [kept, List.length_cons] at shorter
          omega

theorem strip_strip (text : String) : strip (strip text) = strip text := by
  have inner := dropWhile_of_prefix
    (List.rdropWhile_prefix isSpace (text.toList.dropWhile isSpace))
  simp only [List.rdropWhile] at inner
  unfold strip
  simp only [String.toList_ofList, inner, List.reverse_reverse]
  rw [List.dropWhile_idempotent]

namespace QueueState

/-- Each workspace has one live lease at most, and exactly the locks of the live
leases are live. -/
structure Exclusive (state : QueueState) : Prop where
  single : ∀ first ∈ state.leases, ∀ second ∈ state.leases,
    state.Active first.expiresAt → state.Active second.expiresAt →
    first.workspace = second.workspace → first = second
  agree : ∀ lock : QueueLock, (lock ∈ state.locks ∧ state.Active lock.expiresAt) ↔
    ∃ lease ∈ state.leases, state.Active lease.expiresAt ∧ lease.lock = lock

def Queued (state : QueueState) (id taskId : Nat) : Prop :=
  ∃ input ∈ state.inputs, input.id = id ∧ input.taskId = taskId

theorem Queued.taskId_eq {state : QueueState} {id taskId other : Nat}
    (first : state.Queued id taskId) (second : state.Queued id other) : taskId = other := by
  obtain ⟨input, member, sameId, rfl⟩ := first
  obtain ⟨another, anotherMember, anotherId, rfl⟩ := second
  rw [state.inputs.eq_of_key member anotherMember (sameId.trans anotherId.symm)]

variable {home : Nat → String}

/-- Leases and locks stay in the workspace of the task that queued their input,
and live ones come in pairs. -/
structure Fenced (home : Nat → String) (state : QueueState) : Prop where
  leases : ∀ lease ∈ state.leases, state.Queued lease.pendingInputId lease.taskId ∧
    lease.workspace = home lease.taskId ∧ strip lease.workspace = lease.workspace ∧
    lease.owner ≠ ""
  locks : ∀ lock ∈ state.locks, state.Queued lock.pendingInputId lock.taskId ∧
    lock.workspace = home lock.taskId
  exclusive : state.Exclusive

theorem Exclusive.lock_of_active {state : QueueState} (exclusive : state.Exclusive)
    {lease : QueueLease} (member : lease ∈ state.leases) (active : state.Active lease.expiresAt) :
    lease.lock ∈ state.locks :=
  ((exclusive.agree lease.lock).mpr ⟨lease, member, active, rfl⟩).1

section Steps

variable {state : QueueState}

theorem fenced_elapse (fenced : Fenced home state) (time : Nat) :
    Fenced home { state with now := state.now + time } := by
  have earlier : ∀ expiresAt, Active { state with now := state.now + time } expiresAt →
      state.Active expiresAt := by
    intro expiresAt active
    exact (Nat.le_add_right _ _).trans_lt active
  refine ⟨fenced.leases, fenced.locks, ?_, ?_⟩
  · intro first firstMember second secondMember firstActive secondActive same
    exact fenced.exclusive.single first firstMember second secondMember (earlier _ firstActive)
      (earlier _ secondActive) same
  · intro lock
    constructor
    · rintro ⟨member, active⟩
      obtain ⟨lease, leaseMember, _, rfl⟩ :=
        (fenced.exclusive.agree lock).mp ⟨member, earlier _ active⟩
      exact ⟨lease, leaseMember, active, rfl⟩
    · rintro ⟨lease, member, active, rfl⟩
      exact ⟨fenced.exclusive.lock_of_active member (earlier _ active), active⟩

theorem fenced_drop (fenced : Fenced home state) {dropped : QueueLease → Bool} {unlocked : QueueLock → Bool}
    (together : ∀ lease ∈ state.leases, state.Active lease.expiresAt →
      unlocked lease.lock = dropped lease) {inputs : Keyed PendingInput.id}
    (queued : ∀ id taskId, state.Queued id taskId → Queued { state with inputs := inputs } id taskId) :
    Fenced home { state with
      inputs := inputs
      leases := state.leases.erase dropped
      locks := state.locks.erase unlocked } := by
  refine ⟨?_, ?_, ?_, ?_⟩
  · intro lease member
    obtain ⟨inQueue, rest⟩ := fenced.leases lease (Keyed.mem_erase.mp member).1
    exact ⟨queued _ _ inQueue, rest⟩
  · intro lock member
    obtain ⟨inQueue, rest⟩ := fenced.locks lock (Keyed.mem_erase.mp member).1
    exact ⟨queued _ _ inQueue, rest⟩
  · intro first firstMember second secondMember
    exact fenced.exclusive.single first (Keyed.mem_erase.mp firstMember).1 second
      (Keyed.mem_erase.mp secondMember).1
  · intro lock
    simp only [Keyed.mem_erase]
    constructor
    · rintro ⟨⟨member, kept⟩, active⟩
      obtain ⟨lease, leaseMember, leaseActive, rfl⟩ :=
        (fenced.exclusive.agree lock).mp ⟨member, active⟩
      exact ⟨lease, ⟨leaseMember, by rw [← together lease leaseMember leaseActive]; exact kept⟩,
        active, rfl⟩
    · rintro ⟨lease, ⟨member, kept⟩, active, rfl⟩
      refine ⟨⟨fenced.exclusive.lock_of_active member active, ?_⟩, active⟩
      rw [together lease member active]
      exact kept

variable {claim : PendingInputClaim} {lease : QueueLease}

theorem locks_lock_iff :
    Locks claim lease.lock ↔ Holds claim lease := by
  unfold Locks Holds QueueLease.lock
  tauto

theorem fenced_release (fenced : Fenced home state) (claim : PendingInputClaim) :
    Fenced home (state.releasePendingInputClaim claim).2 := by
  unfold releasePendingInputClaim
  split
  · apply fenced_drop fenced
    · intro lease _ _
      simp only [locks_lock_iff]
    · intro id taskId queued
      exact queued
  · exact fenced

variable {next : QueueState}

theorem fenced_consume (fenced : Fenced home state) {roundId : Nat} (consumed : state.consumePendingInputClaim claim roundId = .ok next) :
    Fenced home next := by
  unfold consumePendingInputClaim at consumed
  split at consumed
  · rename_i held
    obtain ⟨holder, holderMember, holds, _⟩ := held
    split at consumed
    · cases consumed
      apply fenced_drop fenced
      · intro lease member _
        -- the lease of an input is one row, so its owner names the holder
        rw [Bool.eq_iff_iff]
        simp only [decide_eq_true_eq, locks_lock_iff]
        constructor
        · intro lockHolds
          exact ⟨lockHolds.1, lockHolds.2.2.2⟩
        · rintro ⟨sameInput, _⟩
          rw [state.leases.eq_of_key member holderMember (sameInput.trans holds.1.symm)]
          exact holds
      · rintro id taskId ⟨input, member, rfl, rfl⟩
        by_cases chosen : input.id = claim.pendingInput.id ∧
            input.taskId = claim.pendingInput.taskId ∧ input.status = .pending
        · exact ⟨_, Keyed.mem_update.mpr (.inl ⟨input, member, by simpa using chosen, rfl⟩),
            rfl, rfl⟩
        · exact ⟨input, Keyed.mem_update.mpr (.inr ⟨member, by simpa using chosen⟩), rfl, rfl⟩
    · cases consumed
  · cases consumed

variable {expiresAt : Nat}

theorem mem_renewed_leases (active : (state.renewed claim expiresAt).Active lease.expiresAt) :
    lease ∈ (state.renewed claim expiresAt).leases ↔
      ∃ old ∈ state.leases, state.Active old.expiresAt ∧
        lease = if Holds claim old then { old with expiresAt := expiresAt } else old := by
  unfold renewed
  simp only [Keyed.mem_update, decide_eq_true_eq, decide_eq_false_iff_not]
  constructor
  · rintro (⟨old, member, ⟨holds, oldActive⟩, rfl⟩ | ⟨member, skipped⟩)
    · exact ⟨old, member, oldActive, (if_pos holds).symm⟩
    · exact ⟨lease, member, active, (if_neg fun holds => skipped ⟨holds, active⟩).symm⟩
  · rintro ⟨old, member, oldActive, rfl⟩
    by_cases holds : Holds claim old
    · rw [if_pos holds]
      exact .inl ⟨old, member, ⟨holds, oldActive⟩, rfl⟩
    · rw [if_neg holds]
      exact .inr ⟨member, fun both => holds both.1⟩

theorem mem_renewed_locks {lock : QueueLock}
    (active : (state.renewed claim expiresAt).Active lock.expiresAt) :
    lock ∈ (state.renewed claim expiresAt).locks ↔
      ∃ old ∈ state.locks, state.Active old.expiresAt ∧
        lock = if Locks claim old then { old with expiresAt := expiresAt } else old := by
  unfold renewed
  simp only [Keyed.mem_update, decide_eq_true_eq, decide_eq_false_iff_not]
  constructor
  · rintro (⟨old, member, ⟨holds, oldActive⟩, rfl⟩ | ⟨member, skipped⟩)
    · exact ⟨old, member, oldActive, (if_pos holds).symm⟩
    · exact ⟨lock, member, active, (if_neg fun holds => skipped ⟨holds, active⟩).symm⟩
  · rintro ⟨old, member, oldActive, rfl⟩
    by_cases holds : Locks claim old
    · rw [if_pos holds]
      exact .inl ⟨old, member, ⟨holds, oldActive⟩, rfl⟩
    · rw [if_neg holds]
      exact .inr ⟨member, fun both => holds both.1⟩

theorem lock_renewed (claim : PendingInputClaim) (expiresAt : Nat) (lease : QueueLease) :
    (if Locks claim lease.lock then { lease.lock with expiresAt := expiresAt } else lease.lock) =
      (if Holds claim lease then { lease with expiresAt := expiresAt } else lease).lock := by
  by_cases holds : Holds claim lease
  · rw [if_pos holds, if_pos (locks_lock_iff.mpr holds)]
    rfl
  · rw [if_neg holds, if_neg fun locked => holds (locks_lock_iff.mp locked)]

theorem exclusive_renewed (exclusive : state.Exclusive) (claim : PendingInputClaim)
    (expiresAt : Nat) : (state.renewed claim expiresAt).Exclusive := by
  constructor
  · intro first firstMember second secondMember firstActive secondActive same
    obtain ⟨old, oldMember, oldActive, rfl⟩ := (mem_renewed_leases firstActive).mp firstMember
    obtain ⟨other, otherMember, otherActive, rfl⟩ :=
      (mem_renewed_leases secondActive).mp secondMember
    have kept : ∀ lease : QueueLease, (if Holds claim lease then
        { lease with expiresAt := expiresAt } else lease).workspace = lease.workspace := by
      intro lease
      split
      · rfl
      · rfl
    rw [kept, kept] at same
    rw [exclusive.single old oldMember other otherMember oldActive otherActive same]
  · intro lock
    constructor
    · rintro ⟨member, active⟩
      obtain ⟨old, oldMember, oldActive, rfl⟩ := (mem_renewed_locks active).mp member
      obtain ⟨lease, leaseMember, leaseActive, rfl⟩ :=
        (exclusive.agree old).mp ⟨oldMember, oldActive⟩
      rw [lock_renewed] at active ⊢
      exact ⟨_, (mem_renewed_leases active).mpr ⟨lease, leaseMember, leaseActive, rfl⟩, active, rfl⟩
    · rintro ⟨lease, member, active, rfl⟩
      obtain ⟨old, oldMember, oldActive, rfl⟩ := (mem_renewed_leases active).mp member
      refine ⟨(mem_renewed_locks active).mpr
        ⟨old.lock, exclusive.lock_of_active oldMember oldActive, oldActive, ?_⟩, active⟩
      exact (lock_renewed claim expiresAt old).symm

theorem fenced_renewed (fenced : Fenced home state) (claim : PendingInputClaim)
    (expiresAt : Nat) : Fenced home (state.renewed claim expiresAt) := by
  refine ⟨?_, ?_, exclusive_renewed fenced.exclusive claim expiresAt⟩
  · intro lease member
    rcases Keyed.mem_update.mp member with ⟨old, oldMember, _, rfl⟩ | ⟨kept, _⟩
    · exact fenced.leases old oldMember
    · exact fenced.leases lease kept
  · intro lock member
    rcases Keyed.mem_update.mp member with ⟨old, oldMember, _, rfl⟩ | ⟨kept, _⟩
    · exact fenced.locks old oldMember
    · exact fenced.locks lock kept

variable {seconds : Int} {answer : Option PendingInputClaim}

theorem fenced_renew (fenced : Fenced home state)
    (renewal : state.renewPendingInputClaim claim seconds = .ok (answer, next)) :
    Fenced home next := by
  unfold renewPendingInputClaim at renewal
  split at renewal
  · split at renewal
    · cases renewal
      exact fenced_renewed fenced claim (state.expiry seconds)
    · cases renewal
  · cases renewal
    exact fenced

variable {input : PendingInput}

theorem candidateWorkspace_eq (fenced : Fenced home state)
    (member : input ∈ state.inputs) : state.candidateWorkspace home input = home input.taskId := by
  unfold candidateWorkspace
  cases found : state.leases.find? input.id with
  | none => rfl
  | some lease =>
      obtain ⟨leaseMember, sameInput⟩ := Keyed.find?_eq_some_iff.mp found
      obtain ⟨queued, inHome, stripped, _⟩ := fenced.leases lease leaseMember
      have sameTask : input.taskId = lease.taskId :=
        Queued.taskId_eq ⟨input, member, sameInput.symm, rfl⟩ queued
      simp only [Option.map_some, Option.getD_some, stripped]
      rw [inHome, sameTask]
      exact ite_self _

theorem leaseFor_eq (fenced : Fenced home state)
    (member : input ∈ state.inputs) (workspace owner : String) (expiresAt : Nat) :
    ∃ count, state.leaseFor input workspace owner expiresAt =
      ⟨input.id, input.taskId, workspace, owner, expiresAt, count⟩ := by
  unfold leaseFor
  cases found : state.leases.find? input.id with
  | none => exact ⟨1, rfl⟩
  | some lease =>
      obtain ⟨leaseMember, sameInput⟩ := Keyed.find?_eq_some_iff.mp found
      have sameTask : lease.taskId = input.taskId :=
        (fenced.leases lease leaseMember).1.taskId_eq ⟨input, member, sameInput.symm, rfl⟩
      refine ⟨lease.attemptCount + 1, ?_⟩
      dsimp only
      rw [sameInput, sameTask]

theorem mem_putLease {row : QueueLease} {leases : Keyed QueueLease.pendingInputId}
    (put : state.putLease lease = some leases) :
    row ∈ leases ↔
      row = lease ∨ (row ∈ state.leases ∧ row.pendingInputId ≠ lease.pendingInputId) := by
  unfold putLease at put
  cases found : state.leases.find? lease.pendingInputId with
  | none =>
      rw [found] at put
      rw [Keyed.mem_insert? put]
      refine or_congr_right ?_
      constructor
      · intro member
        exact ⟨member, Keyed.find?_eq_none_iff.mp found row member⟩
      · exact And.left
  | some stored =>
      rw [found] at put
      cases put
      rw [Keyed.mem_update]
      obtain ⟨storedMember, sameInput⟩ := Keyed.find?_eq_some_iff.mp found
      refine or_congr ?_ (and_congr_right fun _ => by simp)
      constructor
      · rintro ⟨old, _, chosen, rfl⟩
        simp only [decide_eq_true_eq] at chosen
        simp only [chosen]
      · rintro rfl
        refine ⟨stored, storedMember, by simpa using sameInput, ?_⟩
        simp only [sameInput]

variable {workspace : String}

theorem no_lease_of_unlocked (fenced : Fenced home state)
    (unlocked : ((state.locks.find? workspace).any fun lock => state.Active lock.expiresAt) = false) (member : lease ∈ state.leases) (inside : lease.workspace = workspace) :
    ¬ state.Active lease.expiresAt := by
  intro active
  have locked := fenced.exclusive.lock_of_active member active
  have found : state.locks.find? workspace = some lease.lock :=
    Keyed.find?_eq_some_iff.mpr ⟨locked, inside⟩
  rw [found] at unlocked
  simp only [Option.any_some, decide_eq_false_iff_not] at unlocked
  exact unlocked active

theorem fenced_unlock (fenced : Fenced home state)
    (unlocked : ((state.locks.find? workspace).any fun lock => state.Active lock.expiresAt) = false) :
    Fenced home { state with locks := state.locks.erase fun lock => lock.workspace = workspace } := by
  refine ⟨fenced.leases, fun lock member => fenced.locks lock (Keyed.mem_erase.mp member).1,
    fenced.exclusive.single, ?_⟩
  intro lock
  simp only [Keyed.mem_erase, decide_eq_false_iff_not]
  constructor
  · rintro ⟨⟨member, _⟩, active⟩
    exact (fenced.exclusive.agree lock).mp ⟨member, active⟩
  · rintro ⟨lease, member, active, rfl⟩
    refine ⟨⟨fenced.exclusive.lock_of_active member active, ?_⟩, active⟩
    intro inside
    exact no_lease_of_unlocked fenced unlocked member inside active

theorem fenced_grant (fenced : Fenced home state) (lease : QueueLease)
    {leases : Keyed QueueLease.pendingInputId} {locks : Keyed QueueLock.workspace}
    (queued : state.Queued lease.pendingInputId lease.taskId) (inHome : lease.workspace = home lease.taskId)
    (stripped : strip lease.workspace = lease.workspace) (owned : lease.owner ≠ "")
    (free : ∀ row ∈ state.leases, row.workspace = lease.workspace → ¬ state.Active row.expiresAt)
    (unlocked : ∀ lock ∈ state.locks, lock.workspace ≠ lease.workspace)
    (put : state.putLease lease = some leases) (putLock : state.locks.insert? lease.lock = some locks) :
    Fenced home { state with leases := leases, locks := locks } := by
  refine ⟨?_, ?_, ?_, ?_⟩
  · intro row member
    rcases (mem_putLease put).mp member with rfl | ⟨stored, _⟩
    · exact ⟨queued, inHome, stripped, owned⟩
    · exact fenced.leases row stored
  · intro lock member
    rcases (Keyed.mem_insert? putLock).mp member with rfl | stored
    · exact ⟨queued, inHome⟩
    · exact fenced.locks lock stored
  · intro first firstMember second secondMember firstActive secondActive same
    rcases (mem_putLease put).mp firstMember with rfl | ⟨firstStored, _⟩ <;>
      rcases (mem_putLease put).mp secondMember with rfl | ⟨secondStored, _⟩
    · rfl
    · exact absurd secondActive (free second secondStored same.symm)
    · exact absurd firstActive (free first firstStored same)
    · exact fenced.exclusive.single first firstStored second secondStored firstActive secondActive
        same
  · intro lock
    simp only [Keyed.mem_insert? putLock, mem_putLease put]
    constructor
    · rintro ⟨rfl | stored, active⟩
      · exact ⟨lease, .inl rfl, active, rfl⟩
      · obtain ⟨row, member, rowActive, rfl⟩ := (fenced.exclusive.agree lock).mp ⟨stored, active⟩
        refine ⟨row, .inr ⟨member, ?_⟩, rowActive, rfl⟩
        intro sameInput
        have sameTask : row.taskId = lease.taskId :=
          (fenced.leases row member).1.taskId_eq (sameInput ▸ queued)
        apply unlocked row.lock stored
        change row.workspace = lease.workspace
        rw [(fenced.leases row member).2.1, sameTask, inHome]
    · rintro ⟨row, rfl | ⟨member, _⟩, active, rfl⟩
      · exact ⟨.inl rfl, active⟩
      · exact ⟨.inr (fenced.exclusive.lock_of_active member active), active⟩

variable {scope : ClaimScope}

theorem selected?_spec (found : state.selected? home workspace scope = some input) :
    input ∈ state.inputs ∧ state.Claimable home workspace scope input := by
  constructor
  · exact (List.mem_insertionSort queuedBefore).mp (List.mem_of_find?_eq_some found)
  · simpa only [decide_eq_true_eq] using List.find?_some found

variable {owner : String}

theorem claimUnlocked_cases
    (claimed : state.claimUnlocked home workspace owner scope expiresAt = .ok (answer, next)) :
    (answer = none ∧ next = state) ∨
    ∃ input leases locks,
      state.selected? home workspace scope = some input ∧
      (∀ lease ∈ state.leases, lease.workspace = workspace → lease.owner ≠ "" →
        ¬ state.Active lease.expiresAt) ∧
      state.putLease (state.leaseFor input workspace owner expiresAt) = some leases ∧
      state.locks.insert? { (state.leaseFor input workspace owner expiresAt).lock with
        taskId := input.taskId } = some locks ∧
      answer = some ⟨input, workspace, owner,
        (state.leaseFor input workspace owner expiresAt).expiresAt,
        (state.leaseFor input workspace owner expiresAt).attemptCount⟩ ∧
      next = { state with leases := leases, locks := locks } := by
  unfold claimUnlocked at claimed
  split at claimed
  · cases claimed
    exact .inl ⟨rfl, rfl⟩
  · rename_i free
    cases found : state.selected? home workspace scope with
    | none =>
        rw [found] at claimed
        cases claimed
        exact .inl ⟨rfl, rfl⟩
    | some input =>
        rw [found] at claimed
        dsimp only at claimed
        split at claimed
        · cases claimed
          exact .inl ⟨rfl, rfl⟩
        · rename_i leases put
          split at claimed
          · cases claimed
          · rename_i locks putLock
            cases claimed
            unfold QueueState.putLock at putLock
            split at putLock
            · cases putLock
            · refine .inr ⟨input, leases, locks, rfl, ?_, put, putLock, rfl, rfl⟩
              intro lease member inside owned active
              exact free ⟨lease, member, inside, owned, active⟩

theorem fenced_claimUnlocked (fenced : Fenced home state)
    (stripped : strip workspace = workspace) (owned : owner ≠ "")
    (unlocked : ∀ lock ∈ state.locks, lock.workspace ≠ workspace)
    (claimed : state.claimUnlocked home workspace owner scope expiresAt = .ok (answer, next)) :
    Fenced home next := by
  rcases claimUnlocked_cases claimed with
    ⟨_, rfl⟩ | ⟨input, leases, locks, found, free, put, putLock, _, rfl⟩
  · exact fenced
  · obtain ⟨stored, selected⟩ := selected?_spec found
    have inHome : workspace = home input.taskId := by
      rw [← candidateWorkspace_eq fenced stored]
      exact selected.2.2.2.2.1.symm
    obtain ⟨count, leaseEq⟩ := leaseFor_eq fenced stored workspace owner expiresAt
    rw [leaseEq] at put putLock
    have queued : state.Queued input.id input.taskId := ⟨input, stored, rfl, rfl⟩
    apply fenced_grant fenced ⟨input.id, input.taskId, workspace, owner, expiresAt, count⟩ queued
      inHome stripped owned ?_ unlocked put putLock
    intro row member inside
    exact free row member inside (fenced.leases row member).2.2.2

theorem claim_cases
    (claimed : state.claimPendingInputForWorkspace home workspace owner scope seconds =
      .ok (answer, next)) :
    (answer = none ∧ next = state) ∨
    (strip owner ≠ "" ∧
      ((state.locks.find? (strip workspace)).any fun lock => state.Active lock.expiresAt) = false ∧
      claimUnlocked home
        { state with locks := state.locks.erase fun lock => lock.workspace = strip workspace }
        (strip workspace) (strip owner) scope (state.expiry seconds) = .ok (answer, next)) := by
  unfold claimPendingInputForWorkspace at claimed
  dsimp only at claimed
  split at claimed
  · cases claimed
    exact .inl ⟨rfl, rfl⟩
  · rename_i named
    split at claimed
    · cases claimed
      exact .inl ⟨rfl, rfl⟩
    · rename_i unlocked
      exact .inr ⟨fun empty => named (.inr empty), by simpa using unlocked, claimed⟩

theorem fenced_claim (fenced : Fenced home state)
    (claimed : state.claimPendingInputForWorkspace home workspace owner scope seconds =
      .ok (answer, next)) : Fenced home next := by
  rcases claim_cases claimed with ⟨_, rfl⟩ | ⟨owned, unlocked, granted⟩
  · exact fenced
  · apply fenced_claimUnlocked (fenced_unlock fenced unlocked) (strip_strip workspace) owned ?_ granted
    intro lock member inside
    have kept := (Keyed.mem_erase.mp member).2
    simp only [decide_eq_false_iff_not] at kept
    exact kept inside

theorem fenced_step (fenced : Fenced home state) (op : QueueOp) :
    Fenced home (state.step home op) := by
  cases op with
  | claim workspace owner scope seconds =>
      unfold step
      dsimp only
      split
      · rename_i claimed
        exact fenced_claim fenced claimed
      · exact fenced
  | renew claim seconds =>
      unfold step
      dsimp only
      split
      · rename_i renewed
        exact fenced_renew fenced renewed
      · exact fenced
  | release claim => exact fenced_release fenced claim
  | consume claim roundId =>
      unfold step
      dsimp only
      split
      · rename_i consumed
        exact fenced_consume fenced consumed
      · exact fenced
  | elapse time => exact fenced_elapse fenced time

def consumption? (state : QueueState) : QueueOp → Option (Nat × String)
  | .consume claim roundId =>
      match state.consumePendingInputClaim claim roundId with
      | .ok _ => some (claim.pendingInput.id, claim.owner)
      | .error _ => none
  | _ => none

def consumptions (home : Nat → String) : QueueState → List QueueOp → List (Nat × String)
  | _, [] => []
  | state, op :: rest => (state.consumption? op).toList ++ consumptions home (state.step home op) rest

def ConsumesAsHolder (home : Nat → String) (state : QueueState) (op : QueueOp) : Prop :=
  ∀ input ∈ state.inputs, ∀ later ∈ (state.step home op).inputs, later.id = input.id →
    input.status ≠ .consumed → later.status = .consumed →
      ∃ lease ∈ state.leases, lease.pendingInputId = input.id ∧ state.Active lease.expiresAt ∧
        state.consumption? op = some (input.id, lease.owner)

theorem consume_spec {roundId : Nat} (consumed : state.consumePendingInputClaim claim roundId = .ok next) :
    (∃ lease ∈ state.leases, Holds claim lease ∧ state.Active lease.expiresAt) ∧
      (∃ input ∈ state.inputs, input.id = claim.pendingInput.id ∧ input.status = .pending) ∧
      ∀ later ∈ next.inputs,
        (later.id = claim.pendingInput.id ∧ later.status = .consumed) ∨
          (later ∈ state.inputs ∧ later.id ≠ claim.pendingInput.id) := by
  unfold consumePendingInputClaim at consumed
  split at consumed
  · rename_i held
    split at consumed
    · rename_i queued
      cases consumed
      obtain ⟨input, member, sameId, sameTask, pending⟩ := queued
      refine ⟨held, ⟨input, member, sameId, pending⟩, ?_⟩
      intro later laterMember
      rcases Keyed.mem_update.mp laterMember with ⟨old, _, chosen, rfl⟩ | ⟨stored, skipped⟩
      · simp only [decide_eq_true_eq] at chosen
        exact .inl ⟨chosen.1, rfl⟩
      · simp only [decide_eq_false_iff_not] at skipped
        refine .inr ⟨stored, ?_⟩
        intro same
        have one := state.inputs.eq_of_key stored member (same.trans sameId.symm)
        subst one
        exact skipped ⟨sameId, sameTask, pending⟩
    · cases consumed
  · cases consumed

theorem inputs_claim
    (claimed : state.claimPendingInputForWorkspace home workspace owner scope seconds =
      .ok (answer, next)) : next.inputs = state.inputs := by
  rcases claim_cases claimed with ⟨_, rfl⟩ | ⟨_, _, granted⟩
  · rfl
  · rcases claimUnlocked_cases granted with ⟨_, rfl⟩ | ⟨_, _, _, _, _, _, _, _, rfl⟩
    · rfl
    · rfl

theorem inputs_renew (renewal : state.renewPendingInputClaim claim seconds = .ok (answer, next)) :
    next.inputs = state.inputs := by
  unfold renewPendingInputClaim at renewal
  split at renewal
  · split at renewal
    · cases renewal
      rfl
    · cases renewal
  · cases renewal
    rfl

theorem inputs_step (op : QueueOp) :
    (state.step home op).inputs = state.inputs ∨
      ∃ claim roundId next, op = .consume claim roundId ∧
        state.consumePendingInputClaim claim roundId = .ok next ∧ state.step home op = next := by
  cases op with
  | claim workspace owner scope seconds =>
      left
      unfold step
      dsimp only
      split
      · rename_i claimed
        exact inputs_claim claimed
      · rfl
  | renew claim seconds =>
      left
      unfold step
      dsimp only
      split
      · rename_i renewal
        exact inputs_renew renewal
      · rfl
  | release claim =>
      left
      simp only [step, releasePendingInputClaim]
      split
      · rfl
      · rfl
  | consume claim roundId =>
      cases consumed : state.consumePendingInputClaim claim roundId with
      | ok next => exact .inr ⟨claim, roundId, next, rfl, consumed, by simp only [step, consumed]⟩
      | error problem =>
          left
          simp only [step, consumed]
  | elapse time => exact .inl rfl

theorem consumesAsHolder (op : QueueOp) : state.ConsumesAsHolder home op := by
  intro input member later laterMember same notConsumed consumed
  rcases inputs_step op with kept | ⟨claim, roundId, next, rfl, success, stepEq⟩
  · rw [kept] at laterMember
    have one := state.inputs.eq_of_key laterMember member same
    subst one
    exact absurd consumed notConsumed
  · obtain ⟨⟨lease, leaseMember, holds, active⟩, _, rows⟩ := consume_spec success
    rw [stepEq] at laterMember
    rcases rows later laterMember with ⟨sameId, _⟩ | ⟨stored, _⟩
    · refine ⟨lease, leaseMember, holds.1.trans (sameId.symm.trans same), active, ?_⟩
      simp only [consumption?, success, holds.2.2.2]
      rw [← sameId, same]
    · have one := state.inputs.eq_of_key stored member same
      subst one
      exact absurd consumed notConsumed

theorem pending_of_consumption? (home : Nat → String) {op : QueueOp} {id : Nat}
    (consumed : state.consumption? op = some (id, owner)) :
    (∃ input ∈ state.inputs, input.id = id ∧ input.status = .pending) ∧
      ∀ later ∈ (state.step home op).inputs, later.id = id → later.status = .consumed := by
  cases op with
  | consume claim roundId =>
      cases success : state.consumePendingInputClaim claim roundId with
      | error problem =>
          simp only [consumption?, success] at consumed
          cases consumed
      | ok next =>
          simp only [consumption?, success, Option.some.injEq, Prod.mk.injEq] at consumed
          obtain ⟨rfl, _⟩ := consumed
          obtain ⟨_, pending, rows⟩ := consume_spec success
          refine ⟨pending, ?_⟩
          intro later laterMember same
          simp only [step, success] at laterMember
          rcases rows later laterMember with ⟨_, status⟩ | ⟨_, different⟩
          · exact status
          · exact absurd same different
  | claim | renew | release | elapse => cases consumed

theorem pending_of_step {op : QueueOp} {later : PendingInput}
    (member : later ∈ (state.step home op).inputs) (pending : later.status = .pending) :
    later ∈ state.inputs := by
  rcases inputs_step op with kept | ⟨claim, roundId, next, rfl, success, stepEq⟩
  · rwa [kept] at member
  · rw [stepEq] at member
    rcases (consume_spec success).2.2 later member with ⟨_, consumed⟩ | ⟨stored, _⟩
    · rw [pending] at consumed
      cases consumed
    · exact stored

theorem pending_of_mem_consumptions {id : Nat} {ops : List QueueOp}
    (member : id ∈ (consumptions home state ops).map Prod.fst) :
    ∃ input ∈ state.inputs, input.id = id ∧ input.status = .pending := by
  induction ops generalizing state with
  | nil => cases member
  | cons op rest ih =>
      rw [consumptions, List.map_append, List.mem_append] at member
      rcases member with now | later
      · obtain ⟨⟨_, owner⟩, consumed, rfl⟩ := List.mem_map.mp now
        exact (pending_of_consumption? home (Option.mem_toList.mp consumed)).1
      · obtain ⟨input, inputMember, sameId, pending⟩ := ih later
        exact ⟨input, pending_of_step inputMember pending, sameId, pending⟩

theorem nodup_consumptions (ops : List QueueOp) :
    ((consumptions home state ops).map Prod.fst).Nodup := by
  induction ops generalizing state with
  | nil => exact .nil
  | cons op rest ih =>
      rw [consumptions, List.map_append, List.nodup_append]
      refine ⟨?_, ih, ?_⟩
      · cases state.consumption? op with
        | none => exact .nil
        | some consumed => exact List.nodup_singleton _
      · intro first now second later same
        subst same
        obtain ⟨⟨_, owner⟩, consumed, rfl⟩ := List.mem_map.mp now
        obtain ⟨input, inputMember, sameId, pending⟩ := pending_of_mem_consumptions later
        have status := (pending_of_consumption? home (Option.mem_toList.mp consumed)).2 input
          inputMember sameId
        rw [pending] at status
        cases status

end Steps

theorem fenced_initial {home : Nat → String} (now : Nat) (inputs : Keyed PendingInput.id) :
    Fenced home ⟨now, inputs, .empty, .empty⟩ := by
  refine ⟨?_, ?_, ?_, ?_⟩
  · intro lease member
    exact absurd member (Keyed.not_mem_empty lease)
  · intro lock member
    exact absurd member (Keyed.not_mem_empty lock)
  · intro first member
    exact absurd member (Keyed.not_mem_empty first)
  · intro lock
    constructor
    · rintro ⟨member, _⟩
      exact absurd member (Keyed.not_mem_empty lock)
    · rintro ⟨lease, member, _⟩
      exact absurd member (Keyed.not_mem_empty lease)

/-- Any number of workers on empty lease and lock tables: in every state they
reach a workspace has one live lease at most, with exactly its lock beside it;
no input is consumed twice, and none but by the owner of its live lease. -/
theorem workspace_queue_exclusive (home : Nat → String) (now : Nat)
    (inputs : Keyed PendingInput.id) (ops : List QueueOp) :
    let initial : QueueState := ⟨now, inputs, .empty, .empty⟩
    (ops.foldl (step home) initial).Exclusive ∧
      ((consumptions home initial ops).map Prod.fst).Nodup ∧
      Along (step home) (ConsumesAsHolder home) initial ops := by
  intro initial
  have start : Fenced home initial := fenced_initial now inputs
  have always : Along (step home) (fun _ _ => True) initial ops := along_true initial ops
  have keeps : ∀ state op, Fenced home state → True → Fenced home (state.step home op) :=
    fun state op fenced _ => fenced_step fenced op
  refine ⟨?_, nodup_consumptions ops, ?_⟩
  · exact (invariant_foldl keeps start always).exclusive
  · exact along_mono (fun state op _ => consumesAsHolder op) always

end QueueState

end Wlcodex.Relay
