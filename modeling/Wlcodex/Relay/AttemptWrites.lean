import Wlcodex.Relay.ActiveRound

namespace Wlcodex.Relay

open Wlcodex.Lib

/-! What one attempt write leaves as the latest attempt. -/

/-- The latest attempt of a round and role after `update_attempt`. -/
def AttemptChange.outcome (change : AttemptChange) (roundId : Nat) (role : Role) (now : Nat) :
    Option Attempt → Attempt
  | none => change.first roundId role (change.status.getD .queued) now
  | some row =>
      if row.status = .superseded then row
      else if (change.status = some .queued ∨ change.status = some .streaming) ∧
          row.status ∈ Status.attemptTerminal then
        change.next row (change.status.getD row.status) now
      else change.apply now row

namespace AttemptTable

variable (table : AttemptTable) {roundId other : Nat} {role name : Role}

theorem key_of_latest? {row : Attempt} (found : table.latest? roundId role = some row) :
    row.roundId = roundId ∧ row.role = role := by
  simpa using List.find?_some found

theorem latest?_insertNext (row : Attempt) :
    (table.insertNext row).latest? row.roundId row.role =
      some { row with attemptNo := table.nextNo row.roundId row.role } := by
  simp [latest?, insertNext]

theorem latest?_insertNext_of_ne (row : Attempt) (different : ¬ (row.roundId = other ∧ row.role = name)) :
    (table.insertNext row).latest? other name = table.latest? other name := by
  unfold latest? insertNext
  rw [List.find?_cons_of_neg]
  simpa using different

theorem latest?_modifyLatest (change : Attempt → Attempt)
    (sameKey : KeepsKey change) :
    (table.modifyLatest roundId role change sameKey).latest? roundId role =
      (table.latest? roundId role).map change := by
  apply TaskState.latest?_of_modifyFirst rfl
  intro row
  exact ⟨(sameKey row).1, (sameKey row).2.1⟩

theorem latest?_modifyLatest_of_ne (change : Attempt → Attempt)
    (sameKey : KeepsKey change)
    (different : ¬ (roundId = other ∧ role = name)) :
    (table.modifyLatest roundId role change sameKey).latest? other name =
      table.latest? other name := by
  apply find?_modifyFirst_of_disjoint
  · intro row selected
    simp only [decide_eq_true_eq] at selected
    simp only [decide_eq_false_iff_not]
    rw [selected.1, selected.2]
    exact different
  · intro row selected
    rw [(sameKey row).1, (sameKey row).2.1]
    exact selected

end AttemptTable

namespace TaskState

variable (state : TaskState) {roundId : Nat} {role : Role}

theorem latest?_updateAttempt (change : AttemptChange) :
    (state.updateAttempt roundId role change).attempts.latest? roundId role =
      some (change.outcome roundId role state.now (state.attempts.latest? roundId role)) := by
  unfold updateAttempt AttemptChange.outcome
  cases found : state.attempts.latest? roundId role with
  | none =>
      have inserted := (state.ensureRound roundId .backfill none).attempts.latest?_insertNext
        (change.first roundId role (change.status.getD .queued)
          (state.ensureRound roundId .backfill none).now)
      simp only [AttemptTable.nextNo, AttemptChange.first, ensureRound_attempts, ensureRound_now,
        found] at inserted
      simpa [insertAttempt, AttemptChange.first] using inserted
  | some row =>
      obtain ⟨rfl, rfl⟩ := state.attempts.key_of_latest? found
      dsimp only
      by_cases retired : row.status = .superseded
      · rw [if_pos retired, if_pos retired]
        exact found
      · rw [if_neg retired, if_neg retired]
        have updated : (state.modifyLatestAttempt row.roundId row.role (change.apply state.now)
            fun _ => ⟨rfl, rfl, rfl⟩).attempts.latest? row.roundId row.role =
              some (change.apply state.now row) := by
          simp [modifyLatestAttempt, AttemptTable.latest?_modifyLatest, found]
        by_cases reopening : change.status = some .queued ∨ change.status = some .streaming
        · rw [if_pos reopening]
          by_cases terminal : row.status ∈ Status.attemptTerminal
          · rw [if_pos terminal, if_pos ⟨reopening, terminal⟩]
            have inserted := state.attempts.latest?_insertNext
              (change.next row (change.status.getD row.status) state.now)
            simpa [insertAttempt, AttemptChange.next, AttemptTable.nextNo, found] using inserted
          · rw [if_neg terminal, if_neg fun both => terminal both.2]
            exact updated
        · rw [if_neg reopening, if_neg fun both => reopening both.1]
          exact updated

/-- The latest attempt of a role in the current round, as every caller reads it:
`current_round_id` repairs first. -/
def currentAttempt? (role : Role) : Option Attempt :=
  state.storeRoundId.2.attempts.latest? state.storeRoundId.1 role

def AwaitsDispatch (role : Role) : Prop :=
  (∃ row ∈ state.attempts.latest? (state.activeRoundId state.artifactRoundFallback) role,
      row.status = .queued) ∧
    (state.claimQueuedAttemptDispatch (state.activeRoundId state.artifactRoundFallback) role).1 =
      true

theorem awaitsDispatch_iff :
    state.AwaitsDispatch role ↔
      (state.attempts.latest? (state.activeRoundId state.artifactRoundFallback) role).map
        Attempt.status = some .queued := by
  unfold AwaitsDispatch claimQueuedAttemptDispatch
  cases state.attempts.latest? (state.activeRoundId state.artifactRoundFallback) role with
  | none => simp
  | some row =>
      by_cases queued : row.status = .queued
      · simp [queued]
      · simp [queued]

theorem outcome_queued_status (latest : Option Attempt) (now : Nat) :
    (({ status := some .queued } : AttemptChange).outcome roundId role now latest).status =
        .queued ↔ ∀ row ∈ latest, row.status ≠ .superseded := by
  cases latest with
  | none => simp [AttemptChange.outcome, AttemptChange.first]
  | some row =>
      simp only [AttemptChange.outcome, true_or, true_and, Option.mem_def, Option.some.injEq,
        forall_eq']
      by_cases retired : row.status = .superseded
      · simp [retired]
      · rw [if_neg retired]
        simp only [retired, ne_eq, not_false_iff, iff_true]
        split
        · rfl
        · rfl

theorem updateRoleStatus_eq {status : Status} (notIdle : status ≠ .idle) :
    state.updateRoleStatus role status =
      (state.storeRoundId.2.updateAttempt state.storeRoundId.1 role
        { status := some status }).syncLegacyProjection := by
  exact if_neg notIdle

theorem hasRound_storeRoundId {known : Nat} (present : state.HasRound known) :
    state.storeRoundId.2.HasRound state.storeRoundId.1 := by
  have repaired := (extends_backfillTask (fun _ => trivial) state).rounds known present
  exact hasRound_activeRoundId repaired state.artifactRoundFallback

theorem activeRoundId_updateRoleStatus {known : Nat} (present : state.HasRound known)
    {status : Status} (notIdle : status ≠ .idle) (fallback : Nat) :
    (state.updateRoleStatus role status).activeRoundId fallback = state.storeRoundId.1 := by
  have current := state.hasRound_storeRoundId present
  have rounds := updateAttempt_rounds_of_hasRound role current { status := some status }
  rw [state.updateRoleStatus_eq notIdle]
  rw [activeRoundId_congr (roundStatuses_of_rounds (syncLegacyProjection_rounds _)),
    activeRoundId_congr (roundStatuses_of_rounds rounds)]
  exact activeRoundId_fallback current fallback state.artifactRoundFallback

/-- In every reachable state, queueing a role makes its latest attempt of the
current round claimable exactly when that attempt, if there is one, is not
superseded: a role that was reset in this round stays out of reach. -/
theorem queueing_takes_effect_iff (start : Nat) (ops : List StoreOp) (role : Role) :
    ((after start ops).updateRoleStatus role .queued).AwaitsDispatch role ↔
      ∀ row ∈ (after start ops).currentAttempt? role, row.status ≠ .superseded := by
  have present := hasRound_one_after start ops
  generalize after start ops = state at present ⊢
  rw [awaitsDispatch_iff, state.activeRoundId_updateRoleStatus present (by decide),
    state.updateRoleStatus_eq (by decide), syncLegacyProjection_attempts, latest?_updateAttempt]
  simp only [Option.map_some, Option.some.injEq]
  exact outcome_queued_status _ _

/-- A tester is queued, reset with the roles after a handoff, and queued again
when its turn comes. -/
theorem reset_role_is_not_queued :
    ¬ ((after 0 [.updateRoleStatus .tester .queued, .updateRoleStatus .tester .idle])
      |>.updateRoleStatus .tester .queued).AwaitsDispatch .tester := by
  rw [awaitsDispatch_iff]
  decide +kernel

end TaskState

end Wlcodex.Relay
