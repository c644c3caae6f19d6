import Wlcodex.Relay.AttemptWrites

namespace Wlcodex.Relay

open Wlcodex.Lib

/-! The attempts of one role in one round. -/

namespace AttemptTable

theorem eq_of_number (table : AttemptTable) {first second : Attempt} (member : first ∈ table.rows)
    (secondMember : second ∈ table.rows) (sameRound : first.roundId = second.roundId)
    (sameRole : first.role = second.role) (sameNo : first.attemptNo = second.attemptNo) :
    first = second := by
  by_contra different
  have apart : table.rows.Pairwise fun first second =>
      ¬ (first.roundId = second.roundId ∧ first.role = second.role ∧
        first.attemptNo = second.attemptNo) := by
    apply table.ordered.imp
    rintro newer older numbered ⟨round, role, number⟩
    have below := numbered round role
    omega
  have symmetric : Std.Symm fun first second : Attempt =>
      ¬ (first.roundId = second.roundId ∧ first.role = second.role ∧
        first.attemptNo = second.attemptNo) :=
    ⟨fun _ _ distinct same => distinct ⟨same.1.symm, same.2.1.symm, same.2.2.symm⟩⟩
  exact apart.forall member secondMember different ⟨sameRound, sameRole, sameNo⟩

def slice (table : AttemptTable) (roundId : Nat) (role : Role) : List Attempt :=
  table.rows.filter fun row => row.roundId = roundId ∧ row.role = role

theorem latest?_eq_head? (table : AttemptTable) (roundId : Nat) (role : Role) :
    table.latest? roundId role = (table.slice roundId role).head? := by
  unfold latest? slice
  rw [List.head?_filter]

theorem linkExists_eq_slice (table : AttemptTable) (roundId : Nat) (role : Role)
    (column : Attempt → Option Nat) (artifactId : Nat) :
    table.linkExists roundId role column artifactId =
      ((table.slice roundId role).any (fun row => column row = some artifactId) ||
        ((table.slice roundId role).head?.bind column).any fun linked => artifactId < linked) := by
  unfold linkExists
  rw [latest?_eq_head?]
  rw [slice, List.any_filter]
  simp [Bool.and_assoc]

end AttemptTable

namespace TaskState

def SameSlice (roundId : Nat) (role : Role) (before after : TaskState) : Prop :=
  after.attempts.slice roundId role = before.attempts.slice roundId role

theorem sameSlice_updateAttempt (state : TaskState) {roundId other : Nat} {role name : Role}
    (different : ¬ (other = roundId ∧ name = role)) (change : AttemptChange) :
    SameSlice roundId role state (state.updateAttempt other name change) := by
  have apart : ∀ row : Attempt, row.roundId = other → row.role = name →
      ¬ (row.roundId = roundId ∧ row.role = role) := by
    rintro row rfl rfl
    exact different
  have inPlace : SameSlice roundId role state (state.modifyLatestAttempt other name
      (change.apply state.now) fun _ => ⟨rfl, rfl, rfl⟩) := by
    apply filter_modifyFirst_of_disjoint
    · intro row selected
      simp only [decide_eq_true_eq] at selected
      simpa using apart row selected.1 selected.2
    · intro row selected
      exact selected
  have inserted : ∀ (next : TaskState) (row : Attempt), next.attempts = state.attempts →
      row.roundId = other → row.role = name →
      SameSlice roundId role state (next.insertAttempt row) := by
    intro next row same sameRound sameRole
    unfold SameSlice AttemptTable.slice TaskState.insertAttempt AttemptTable.insertNext
    rw [List.filter_cons_of_neg (by simpa using apart row sameRound sameRole), same]
  unfold TaskState.updateAttempt
  cases found : state.attempts.latest? other name with
  | none => exact inserted _ _ (ensureRound_attempts ..) rfl rfl
  | some row =>
      obtain ⟨sameRound, sameRole⟩ := state.attempts.key_of_latest? found
      dsimp only
      split
      · rfl
      · split
        · split
          · exact inserted state _ rfl sameRound sameRole
          · exact inPlace
        · exact inPlace

theorem sameSlice_writeRule (roundId other : Nat) (role : Role) :
    WriteRule (SameSlice roundId role) other fun name => ¬ (other = roundId ∧ name = role) where
  refl _ := rfl
  trans first second := second.trans first
  ensureRound state := by
    unfold SameSlice
    rw [ensureRound_attempts]
  modifyRound _ _ _ _ := rfl
  updateAttempt state _ change different := sameSlice_updateAttempt state different change
  putMode state name mode different := by
    apply filter_modifyFirst_of_disjoint
    · rintro row selected
      simp only [decide_eq_true_eq] at selected
      simp only [decide_eq_false_iff_not]
      rw [selected.1, selected.2]
      exact different
    · intro row selected
      exact selected

section Row

variable {state : TaskState} {row : Attempt}

def Behind (state : TaskState) (row : Attempt) : Prop :=
  row ∈ state.attempts.rows ∧
    ∃ newer ∈ state.attempts.latest? row.roundId row.role, row.attemptNo < newer.attemptNo

theorem behind_of_not_latest (member : row ∈ state.attempts.rows)
    (passed : state.attempts.latest? row.roundId row.role ≠ some row) : state.Behind row := by
  refine ⟨member, ?_⟩
  cases found : state.attempts.latest? row.roundId row.role with
  | none =>
      have missing := List.find?_eq_none.mp found row member
      simp at missing
  | some newer =>
      obtain ⟨sameRound, sameRole⟩ := state.attempts.key_of_latest? found
      have bound := AttemptTable.attemptNo_le_of_latest? found member rfl rfl
      refine ⟨newer, rfl, lt_of_le_of_ne bound ?_⟩
      intro sameNo
      apply passed
      rw [found, state.attempts.eq_of_number member (List.mem_of_find?_eq_some found)
        sameRound.symm sameRole.symm sameNo]

theorem Behind.not_latest (behind : state.Behind row) :
    state.attempts.latest? row.roundId row.role ≠ some row := by
  obtain ⟨-, newer, found, above⟩ := behind
  intro same
  rw [same] at found
  cases found
  exact lt_irrefl _ above

theorem Behind.insertAttempt {next : TaskState} {new : Attempt} (behind : state.Behind row)
    (same : next.attempts = state.attempts) : (next.insertAttempt new).Behind row := by
  obtain ⟨member, newer, found, above⟩ := behind
  refine ⟨List.mem_cons_of_mem _ (same ▸ member), ?_⟩
  unfold TaskState.insertAttempt
  rw [same]
  by_cases sameKey : new.roundId = row.roundId ∧ new.role = row.role
  · refine ⟨{ new with attemptNo := state.attempts.nextNo new.roundId new.role }, ?_, ?_⟩
    · rw [← sameKey.1, ← sameKey.2]
      exact state.attempts.latest?_insertNext new
    · have latest : state.attempts.latest? new.roundId new.role = some newer := by
        rw [sameKey.1, sameKey.2]
        exact found
      simp only [AttemptTable.nextNo, latest, Option.map_some, Option.getD_some]
      omega
  · rw [state.attempts.latest?_insertNext_of_ne new sameKey]
    exact ⟨newer, found, above⟩

theorem Behind.modifyLatestAttempt (behind : state.Behind row) (roundId : Nat) (role : Role)
    (change : Attempt → Attempt)
    (sameKey : KeepsKey change) :
    (state.modifyLatestAttempt roundId role change sameKey).Behind row := by
  have passed := behind.not_latest
  obtain ⟨member, newer, found, above⟩ := behind
  have kept : row ∈ (state.modifyLatestAttempt roundId role change sameKey).attempts.rows := by
    apply mem_modifyFirst_of_mem member
    intro chosen
    have key := state.attempts.key_of_latest? chosen
    rw [← key.1, ← key.2] at chosen
    exact passed chosen
  refine ⟨kept, ?_⟩
  unfold TaskState.modifyLatestAttempt
  by_cases same : roundId = row.roundId ∧ role = row.role
  · obtain ⟨rfl, rfl⟩ := same
    rw [AttemptTable.latest?_modifyLatest, Option.mem_def.mp found]
    refine ⟨change newer, rfl, ?_⟩
    rw [(sameKey newer).2.2]
    exact above
  · rw [AttemptTable.latest?_modifyLatest_of_ne _ _ _ same]
    exact ⟨newer, found, above⟩

theorem Behind.writeRule (row : Attempt) (roundId : Nat) :
    WriteRule (fun before after => before.Behind row → after.Behind row) roundId
      fun _ => True where
  refl _ behind := behind
  trans first second behind := second (first behind)
  ensureRound state behind := by
    unfold TaskState.Behind
    rw [ensureRound_attempts]
    exact behind
  modifyRound _ _ _ _ behind := behind
  updateAttempt state role change _ behind := by
    unfold TaskState.updateAttempt
    split
    · exact behind.insertAttempt (ensureRound_attempts ..)
    · split
      · exact behind
      · split
        · split
          · exact behind.insertAttempt rfl
          · exact behind.modifyLatestAttempt ..
        · exact behind.modifyLatestAttempt ..
  putMode _ _ _ _ behind := behind.modifyLatestAttempt ..

end Row

end TaskState

end Wlcodex.Relay
