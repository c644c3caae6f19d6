import Wlcodex.Relay.AttemptSlices
import Wlcodex.Relay.Ledgers

namespace Wlcodex.Relay

open Wlcodex.Lib

/-! The quarantine of abandoned dispatches. -/

namespace AttemptTable

def Books (attempts : AttemptTable) (roundStatus : Status) (roundId : Nat) (role : Role)
    (artifact : Artifact) : Prop :=
  if artifact.type = .roleDispatchMetadata then True
  else if artifact.type = .roleError then
    attempts.linkExists roundId role Attempt.errorArtifactId artifact.id = false
  else if artifact.type = .roleArtifactInvalid then
    attempts.linkExists roundId role Attempt.completionArtifactId artifact.id = false
  else if artifact.type ∈ ArtifactType.result then
    attempts.linkExists roundId role Attempt.completionArtifactId artifact.id = false ∧
      ¬ (roundStatus ∈ roundStopped ∧ artifact.payload.runtimeEventId = 0)
  else False

instance (attempts : AttemptTable) (roundStatus : Status) (roundId : Nat) (role : Role)
    (artifact : Artifact) : Decidable (attempts.Books roundStatus roundId role artifact) := by
  unfold Books
  infer_instance

end AttemptTable

namespace TaskState

structure Stamps (before after : TaskState) : Prop where
  now : after.now = before.now
  rows : ∀ row ∈ after.attempts.rows, row ∈ before.attempts.rows ∨ row.updatedAt = before.now

namespace Stamps

theorem of_same {before after : TaskState} (now : after.now = before.now)
    (attempts : after.attempts = before.attempts) : Stamps before after :=
  ⟨now, fun _ member => .inl (attempts ▸ member)⟩

theorem refl (state : TaskState) : Stamps state state := of_same rfl rfl

theorem trans {first second third : TaskState} (earlier : Stamps first second)
    (later : Stamps second third) : Stamps first third := by
  refine ⟨later.now.trans earlier.now, ?_⟩
  intro row member
  rcases later.rows row member with kept | stamped
  · exact earlier.rows row kept
  · exact .inr (stamped.trans earlier.now)

theorem modifyLatestAttempt (state : TaskState) (roundId : Nat) (role : Role) (change : Attempt → Attempt)
    (sameKey : KeepsKey change)
    (stamped : ∀ row, (change row).updatedAt = state.now) :
    Stamps state (state.modifyLatestAttempt roundId role change sameKey) := by
  refine ⟨rfl, ?_⟩
  intro row member
  rcases mem_modifyFirst member with kept | ⟨old, _, rfl⟩
  · exact .inl kept
  · exact .inr (stamped old)

theorem insertAttempt (state : TaskState) {row : Attempt} (stamped : row.updatedAt = state.now) :
    Stamps state (state.insertAttempt row) := by
  refine ⟨rfl, ?_⟩
  intro other member
  rcases List.mem_cons.mp member with rfl | kept
  · exact .inr stamped
  · exact .inl kept

theorem updateAttempt (state : TaskState) (roundId : Nat) (role : Role) (change : AttemptChange) :
    Stamps state (state.updateAttempt roundId role change) := by
  have inPlace := modifyLatestAttempt state roundId role (change.apply state.now)
    (fun _ => ⟨rfl, rfl, rfl⟩) fun _ => rfl
  unfold TaskState.updateAttempt
  split
  · have opened : Stamps state (state.ensureRound roundId .backfill none) :=
      of_same (ensureRound_now ..) (ensureRound_attempts ..)
    exact opened.trans (insertAttempt _ rfl)
  · split
    · exact refl state
    · split
      · split
        · exact insertAttempt state rfl
        · exact inPlace
      · exact inPlace

theorem writeRule (roundId : Nat) : WriteRule Stamps roundId fun _ => True where
  refl := refl
  trans := trans
  ensureRound _ := of_same (ensureRound_now ..) (ensureRound_attempts ..)
  modifyRound _ _ _ _ := of_same rfl rfl
  updateAttempt state role change _ := updateAttempt state roundId role change
  putMode state role mode _ :=
    modifyLatestAttempt state roundId role
      (fun row => { row with executionMode := mode, updatedAt := state.now })
      (fun _ => ⟨rfl, rfl, rfl⟩) fun _ => rfl

theorem repairRounds (state : TaskState) : Stamps state state.repairRounds := by
  have now : state.repairRounds.now = state.now := by
    unfold TaskState.repairRounds TaskState.setRoundStatus TaskState.putRoundStatus
      supersedePriorRounds supersedeRounds
    cases state.artifactRoundIds.max? with
    | none => rfl
    | some current =>
        dsimp only
        split <;> simp [syncLegacyProjection]
  refine ⟨now, ?_⟩
  intro row member
  rw [repairRounds_attempts] at member
  obtain ⟨old, oldMember, rfl⟩ := List.mem_map.mp member
  split
  · exact .inr rfl
  · exact .inl oldMember

theorem backfillTask {state : TaskState} (present : state.HasRound 1) :
    Stamps state state.backfillTask := by
  unfold TaskState.backfillTask repairTaskFromArtifacts
  rw [if_neg (rows_ne_nil_of_hasRound present)]
  exact ((repairRounds state).trans (WriteRule.replay writeRule _ _)).trans (of_same rfl rfl)

theorem not_mem {before after : TaskState} {row : Attempt} (stamps : Stamps before after)
    (gone : row ∉ before.attempts.rows) (old : row.updatedAt ≠ before.now) :
    row ∉ after.attempts.rows := by
  intro member
  rcases stamps.rows row member with kept | stamped
  · exact gone kept
  · exact old stamped

end Stamps

section Row

variable {state : TaskState} {row : Attempt}

def BooksOn (state : TaskState) (row : Attempt) (artifact : Artifact) : Prop :=
  artifact.payload.actor = some row.role ∧
    state.artifactRound artifact.payload = row.roundId ∧
    state.attempts.Books (state.roundStatus row.roundId) row.roundId row.role artifact

theorem observeAttempt_of_not_books {roundId : Nat} {role : Role} {artifact : Artifact}
    (idle : ¬ state.attempts.Books (state.roundStatus roundId) roundId role artifact) :
    (state.observeAttempt roundId role artifact).attempts = state.attempts := by
  unfold AttemptTable.Books at idle
  unfold observeAttempt observeError observeResult
  split at idle
  · exact absurd trivial idle
  · rename_i notDispatch
    rw [if_neg notDispatch]
    split at idle
    · rename_i isError
      rw [if_pos isError, if_pos (by simpa using idle)]
    · rename_i notError
      rw [if_neg notError]
      split at idle
      · rename_i isInvalid
        rw [if_pos isInvalid, if_pos (by simpa using idle)]
      · rename_i notInvalid
        rw [if_neg notInvalid]
        split at idle
        · rename_i isResult
          rw [if_pos isResult]
          split
          · rfl
          · rename_i unlinked
            rw [if_pos]
            by_contra running
            exact idle ⟨by simpa using unlinked, running⟩
        · rename_i notResult
          rw [if_neg notResult]

theorem sameSlice_observeArtifact {artifact : Artifact}
    (known : state.HasRound (state.artifactRound artifact.payload)) (idle : ¬ state.BooksOn row artifact) :
    SameSlice row.roundId row.role state (state.observeArtifact artifact) := by
  by_cases sameKey : artifact.payload.actor = some row.role ∧
      state.artifactRound artifact.payload = row.roundId
  · obtain ⟨actor, sameRound⟩ := sameKey
    have statuses := observeRound_roundStatuses known artifact
    unfold TaskState.observeArtifact SameSlice
    rw [actor]
    rw [observeAttempt_of_not_books, observeRound_attempts]
    rw [observeRound_attempts, roundStatus_congr statuses, sameRound]
    exact fun books => idle ⟨actor, sameRound, books⟩
  · apply WriteRule.observeArtifact state artifact (sameSlice_writeRule row.roundId _ row.role)
    intro name actor both
    exact sameKey ⟨by rw [← both.2]; exact actor, both.1⟩

theorem not_mem_of_latest? {table : AttemptTable} {roundId : Nat} {role : Role} {latest : Attempt}
    (found : table.latest? roundId role = some latest) (sameRound : row.roundId = roundId)
    (sameRole : row.role = role) (sameNo : latest.attemptNo = row.attemptNo)
    (different : latest ≠ row) : row ∉ table.rows := by
  intro member
  obtain ⟨latestRound, latestRole⟩ := table.key_of_latest? found
  apply different
  exact table.eq_of_number (List.mem_of_find?_eq_some found) member
    (latestRound.trans sameRound.symm) (latestRole.trans sameRole.symm) sameNo

/-- What the write lemmas share: the row is the latest of its role, a dispatch in
progress, and older than this call. -/
structure OldDispatch (state : TaskState) (row : Attempt) : Prop where
  latest : state.attempts.latest? row.roundId row.role = some row
  dispatching : row.status = .dispatching
  old : row.updatedAt ≠ state.now

namespace OldDispatch

theorem congr {next : TaskState} (old : OldDispatch state row)
    (slice : SameSlice row.roundId row.role state next) (now : next.now = state.now) :
    OldDispatch next row where
  latest := by
    rw [AttemptTable.latest?_eq_head?, slice, ← AttemptTable.latest?_eq_head?]
    exact old.latest
  dispatching := old.dispatching
  old := by
    rw [now]
    exact old.old

variable (old : OldDispatch state row)
include old

theorem outcome (change : AttemptChange) :
    change.outcome row.roundId row.role state.now (some row) = change.apply state.now row := by
  simp [AttemptChange.outcome, old.dispatching, Status.attemptTerminal]

theorem not_mem_updateAttempt (change : AttemptChange) :
    row ∉ (state.updateAttempt row.roundId row.role change).attempts.rows := by
  have found : (state.updateAttempt row.roundId row.role change).attempts.latest? row.roundId
      row.role = some (change.apply state.now row) := by
    rw [latest?_updateAttempt, old.latest, old.outcome]
  apply not_mem_of_latest? found rfl rfl rfl
  intro same
  exact old.old (congrArg Attempt.updatedAt same).symm

theorem not_mem_ensureAttempt (status : Status) (change : AttemptChange) :
    row ∉ (state.ensureAttempt row.roundId row.role status change).attempts.rows := by
  have ensured : OldDispatch (state.ensureRound row.roundId .backfill none) row := by
    apply old.congr
    · exact congrArg (fun table => table.slice row.roundId row.role) (ensureRound_attempts ..)
    · exact ensureRound_now ..
  exact ensured.not_mem_updateAttempt _

theorem not_mem_setAttemptExecution (mode : ExecutionMode) :
    row ∉ (state.setAttemptExecution row.roundId row.role mode).attempts.rows := by
  have found : (state.setAttemptExecution row.roundId row.role mode).attempts.latest? row.roundId
      row.role = some { row with executionMode := mode, updatedAt := state.now } := by
    unfold TaskState.setAttemptExecution TaskState.modifyLatestAttempt
    rw [old.latest]
    rw [AttemptTable.latest?_modifyLatest, old.latest]
    rfl
  apply not_mem_of_latest? found rfl rfl rfl
  intro same
  exact old.old (congrArg Attempt.updatedAt same).symm

theorem not_mem_completeAttempt (status : Status) (artifact : Artifact) :
    row ∉ (state.completeAttempt row.roundId row.role status artifact).attempts.rows := by
  have ensured := (Stamps.writeRule row.roundId).ensureAttempt row.role trivial state status {}
  apply (Stamps.updateAttempt _ row.roundId row.role _).not_mem
    (old.not_mem_ensureAttempt status {})
  rw [ensured.now]
  exact old.old

theorem not_mem_observeDispatch (artifact : Artifact) :
    row ∉ (state.observeDispatch row.roundId row.role artifact).attempts.rows := by
  have rule := Stamps.writeRule row.roundId
  unfold TaskState.observeDispatch
  dsimp only
  split
  · exact old.not_mem_setAttemptExecution _
  · have ensured := rule.ensureAttempt row.role trivial state
      (initialDispatchStatus (state.roundStatus row.roundId)
        (state.attempts.latest? row.roundId row.role)) (dispatchChange artifact)
    have moded := ensured.trans
      (rule.setAttemptExecution row.role trivial _ artifact.payload.providerExecutionMode)
    have gone := (rule.setAttemptExecution row.role trivial _
      artifact.payload.providerExecutionMode).not_mem
      (old.not_mem_ensureAttempt (initialDispatchStatus (state.roundStatus row.roundId)
        (state.attempts.latest? row.roundId row.role)) (dispatchChange artifact))
      (by rw [ensured.now]; exact old.old)
    split
    · apply (Stamps.updateAttempt _ row.roundId row.role _).not_mem gone
      rw [moded.now]
      exact old.old
    · exact gone

theorem not_mem_observeAttempt {artifact : Artifact}
    (books : state.attempts.Books (state.roundStatus row.roundId) row.roundId row.role artifact) :
    row ∉ (state.observeAttempt row.roundId row.role artifact).attempts.rows := by
  unfold AttemptTable.Books at books
  unfold TaskState.observeAttempt
  split
  · exact old.not_mem_observeDispatch artifact
  · rename_i notDispatch
    rw [if_neg notDispatch] at books
    split
    · rename_i isError
      rw [if_pos isError] at books
      unfold TaskState.observeError
      rw [if_neg (by simp [books]), old.latest]
      exact old.not_mem_updateAttempt _
    · rename_i notError
      rw [if_neg notError] at books
      split
      · rename_i isInvalid
        rw [if_pos isInvalid] at books
        rw [if_neg (by simp [books])]
        exact old.not_mem_completeAttempt _ _
      · rename_i notInvalid
        rw [if_neg notInvalid] at books
        split
        · rename_i isResult
          rw [if_pos isResult] at books
          unfold TaskState.observeResult
          rw [if_neg (by simp [books.1]), if_neg books.2]
          exact old.not_mem_completeAttempt _ _
        · rename_i notResult
          rw [if_neg notResult] at books
          exact absurd books id

theorem not_mem_observeArtifact {artifact : Artifact}
    (known : state.HasRound (state.artifactRound artifact.payload)) (books : state.BooksOn row artifact) :
    row ∉ (state.observeArtifact artifact).attempts.rows := by
  obtain ⟨actor, sameRound, booked⟩ := books
  have statuses := observeRound_roundStatuses known artifact
  rw [sameRound] at statuses
  have observed := (Stamps.writeRule row.roundId).observeRound state artifact
  have still : OldDispatch (state.observeRound row.roundId artifact) row := by
    apply old.congr
    · exact congrArg (fun table => table.slice row.roundId row.role) (observeRound_attempts ..)
    · exact observed.now
  unfold TaskState.observeArtifact
  rw [actor, sameRound]
  apply still.not_mem_observeAttempt
  rw [observeRound_attempts, roundStatus_congr statuses]
  exact booked

end OldDispatch

theorem booksOn_observeArtifact {artifact later : Artifact}
    (known : state.HasRound (state.artifactRound artifact.payload)) (idle : ¬ state.BooksOn row artifact) :
    (state.observeArtifact artifact).BooksOn row later ↔ state.BooksOn row later := by
  have statuses := observeArtifact_roundStatuses known
  have slice := sameSlice_observeArtifact known idle
  unfold SameSlice at slice
  unfold BooksOn AttemptTable.Books
  simp only [artifactRound_congr statuses, roundStatus_congr statuses,
    AttemptTable.linkExists_eq_slice, slice]

theorem OldDispatch.mem_replay_iff (seen : List Artifact) (old : OldDispatch state row)
    (known : ∀ artifact ∈ seen, state.HasRound (state.artifactRound artifact.payload)) :
    row ∈ (seen.foldl TaskState.observeArtifact state).attempts.rows ↔
      ∀ artifact ∈ seen, ¬ state.BooksOn row artifact := by
  induction seen generalizing state with
  | nil => simpa using List.mem_of_find?_eq_some old.latest
  | cons head rest ih =>
      have headKnown := known head List.mem_cons_self
      have statuses := observeArtifact_roundStatuses headKnown
      have stamped := WriteRule.observeArtifact state head (Stamps.writeRule _) fun _ _ => trivial
      rw [List.foldl_cons, List.forall_mem_cons]
      by_cases books : state.BooksOn row head
      · simp only [books, not_true_eq_false, false_and, iff_false]
        apply (WriteRule.replay Stamps.writeRule _ rest).not_mem
          (old.not_mem_observeArtifact headKnown books)
        rw [stamped.now]
        exact old.old
      · simp only [books, not_false_eq_true, true_and]
        rw [ih (old.congr (sameSlice_observeArtifact headKnown books) stamped.now)]
        · exact forall₂_congr fun later _ => not_congr (booksOn_observeArtifact headKnown books)
        · intro later member
          rw [artifactRound_congr statuses, hasRound_congr statuses]
          exact known later (List.mem_cons_of_mem _ member)

section Repair

variable (dispatching : row.status = .dispatching)
include dispatching

theorem not_closed_of_same_round (spared : ¬ state.ClosedByRepair row) {other : Attempt}
    (sameRound : other.roundId = row.roundId) : ¬ state.ClosedByRepair other := by
  rintro ⟨current, greatest, several, earlier, -⟩
  apply spared
  refine ⟨current, greatest, several, sameRound ▸ earlier, ?_⟩
  simp [dispatching, attemptClosed]

theorem sameSlice_repairRounds (spared : ¬ state.ClosedByRepair row) :
    SameSlice row.roundId row.role state state.repairRounds := by
  unfold SameSlice AttemptTable.slice
  rw [repairRounds_attempts, List.filter_map]
  have sameKeys : (fun other : Attempt =>
      decide (other.roundId = row.roundId ∧ other.role = row.role)) ∘ (fun other : Attempt =>
        if state.ClosedByRepair other then
          { other with status := Status.superseded, updatedAt := state.now }
        else other) =
      fun other => decide (other.roundId = row.roundId ∧ other.role = row.role) := by
    funext other
    simp only [Function.comp_apply]
    split <;> rfl
  rw [sameKeys]
  conv_rhs => rw [← List.map_id (List.filter _ state.attempts.rows)]
  apply List.map_congr_left
  intro other member
  have key : other.roundId = row.roundId ∧ other.role = row.role := by
    simpa using (List.mem_filter.mp member).2
  exact if_neg (not_closed_of_same_round dispatching spared key.1)

theorem mem_repairRounds_iff (member : row ∈ state.attempts.rows) :
    row ∈ state.repairRounds.attempts.rows ↔ ¬ state.ClosedByRepair row := by
  rw [repairRounds_attempts, List.mem_map]
  constructor
  · rintro ⟨old, -, image⟩ closed
    split at image
    · rw [← image] at dispatching
      cases dispatching
    · rename_i spared
      exact spared (image ▸ closed)
  · intro spared
    exact ⟨row, member, if_neg spared⟩

end Repair

def RepairBooks (state : TaskState) (row : Attempt) (artifact : Artifact) : Prop :=
  artifact.payload.actor = some row.role ∧
    replayRound state.repairedLatestRound artifact.payload = row.roundId ∧
    state.attempts.Books (state.repairedRoundStatus row.roundId) row.roundId row.role artifact

def Rewrites (state : TaskState) (row : Attempt) : Prop :=
  state.ClosedByRepair row ∨
    state.attempts.latest? row.roundId row.role = some row ∧
      ∃ artifact ∈ state.artifacts.rows, state.RepairBooks row artifact

instance (state : TaskState) (row : Attempt) : Decidable (state.Rewrites row) :=
  inferInstanceAs (Decidable (_ ∨ _ ∧ ∃ artifact ∈ state.artifacts.rows, _ ∧ _ ∧ _))

theorem backfillTask_eq (present : state.HasRound 1) :
    state.backfillTask =
      (state.artifacts.rows.foldl observeArtifact state.repairRounds).syncLegacyProjection := by
  unfold TaskState.backfillTask repairTaskFromArtifacts replayArtifacts
  rw [if_neg (rows_ne_nil_of_hasRound present), repairRounds_artifacts]

theorem artifactRound_repairRounds (present : state.HasRound 1) (payload : Payload) :
    state.repairRounds.artifactRound payload =
      replayRound state.repairedLatestRound payload := by
  unfold artifactRound replayRound
  rw [latestRoundId_repairRounds (rows_ne_nil_of_hasRound present)]

theorem booksOn_repairRounds (present : state.HasRound 1) (dispatching : row.status = .dispatching)
    (spared : ¬ state.ClosedByRepair row) {artifact : Artifact} (member : artifact ∈ state.artifacts.rows) :
    state.repairRounds.BooksOn row artifact ↔ state.RepairBooks row artifact := by
  have slice := sameSlice_repairRounds dispatching spared
  unfold SameSlice at slice
  have known := knownRound_repairRounds (rows_ne_nil_of_hasRound present) artifact member
  unfold BooksOn RepairBooks AttemptTable.Books
  rw [artifactRound_repairRounds present] at known ⊢
  simp only [AttemptTable.linkExists_eq_slice, slice]
  refine and_congr_right fun _ => and_congr_right fun sameRound => ?_
  rw [sameRound] at known
  rw [roundStatus_repairRounds known]

theorem mem_backfillTask_iff (present : state.HasRound 1) (member : row ∈ state.attempts.rows)
    (dispatching : row.status = .dispatching) (old : row.updatedAt ≠ state.now) :
    row ∈ state.backfillTask.attempts.rows ↔ ¬ state.Rewrites row := by
  have known := knownRound_repairRounds (rows_ne_nil_of_hasRound present)
  have repaired := Stamps.repairRounds state
  rw [backfillTask_eq present, syncLegacyProjection_attempts]
  unfold Rewrites
  by_cases closed : state.ClosedByRepair row
  · simp only [closed, true_or, not_true_eq_false, iff_false]
    apply (WriteRule.replay Stamps.writeRule _ _).not_mem
    · rw [mem_repairRounds_iff dispatching member]
      exact fun spared => spared closed
    · rw [repaired.now]
      exact old
  · have slice := sameSlice_repairRounds dispatching closed
    simp only [closed, false_or, not_and, not_exists]
    by_cases latest : state.attempts.latest? row.roundId row.role = some row
    · have still : OldDispatch state.repairRounds row :=
        OldDispatch.congr ⟨latest, dispatching, old⟩ slice repaired.now
      rw [still.mem_replay_iff _ known]
      simp only [latest, true_implies]
      exact forall₂_congr fun artifact stored =>
        not_congr (booksOn_repairRounds present dispatching closed stored)
    · simp only [latest, false_implies, iff_true]
      have behind : state.repairRounds.Behind row := by
        apply behind_of_not_latest ((mem_repairRounds_iff dispatching member).mpr closed)
        rw [AttemptTable.latest?_eq_head?, slice, ← AttemptTable.latest?_eq_head?]
        exact latest
      exact (WriteRule.replay (Behind.writeRule row) _ _ behind).1

theorem sameSlice_replay (seen : List Artifact)
    (known : ∀ artifact ∈ seen, state.HasRound (state.artifactRound artifact.payload))
    (idle : ∀ artifact ∈ seen, ¬ state.BooksOn row artifact) :
    SameSlice row.roundId row.role state (seen.foldl TaskState.observeArtifact state) := by
  induction seen generalizing state with
  | nil => rfl
  | cons head rest ih =>
      have headKnown := known head List.mem_cons_self
      have headIdle := idle head List.mem_cons_self
      have statuses := observeArtifact_roundStatuses headKnown
      refine Eq.trans (ih ?_ ?_) (sameSlice_observeArtifact headKnown headIdle)
      · intro later member
        rw [artifactRound_congr statuses, hasRound_congr statuses]
        exact known later (List.mem_cons_of_mem _ member)
      · intro later member
        rw [booksOn_observeArtifact headKnown headIdle]
        exact idle later (List.mem_cons_of_mem _ member)

theorem roundStatuses_replay (seen : List Artifact)
    (known : ∀ artifact ∈ seen, state.HasRound (state.artifactRound artifact.payload)) :
    (seen.foldl TaskState.observeArtifact state).roundStatuses = state.roundStatuses := by
  induction seen generalizing state with
  | nil => rfl
  | cons head rest ih =>
      have statuses := observeArtifact_roundStatuses (known head List.mem_cons_self)
      rw [List.foldl_cons, ih, statuses]
      intro later member
      rw [artifactRound_congr statuses, hasRound_congr statuses]
      exact known later (List.mem_cons_of_mem _ member)

section Twice

variable (present : state.HasRound 1)
include present

theorem roundStatuses_backfillTask :
    state.backfillTask.roundStatuses = state.repairRounds.roundStatuses := by
  rw [backfillTask_eq present, roundStatuses_of_rounds (syncLegacyProjection_rounds _)]
  exact roundStatuses_replay _ (knownRound_repairRounds (rows_ne_nil_of_hasRound present))

theorem hasRound_backfillTask {roundId : Nat} :
    state.backfillTask.HasRound roundId ↔
      roundId ∈ state.artifactRoundIds ∨ state.HasRound roundId := by
  rw [hasRound_congr (roundStatuses_backfillTask present), hasRound_repairRounds]

theorem roundStatus_backfillTask {roundId : Nat} (known : state.backfillTask.HasRound roundId) :
    state.backfillTask.roundStatus roundId = state.repairedRoundStatus roundId := by
  have same := roundStatuses_backfillTask present
  rw [hasRound_congr same] at known
  rw [roundStatus_congr same, roundStatus_repairRounds known]

theorem latestRoundId_backfillTask :
    state.backfillTask.latestRoundId 1 = state.repairedLatestRound := by
  rw [latestRoundId_congr (roundStatuses_backfillTask present)]
  exact latestRoundId_repairRounds (rows_ne_nil_of_hasRound present)

theorem status_backfillTask :
    state.backfillTask.status = state.backfillTask.roundStatus
      (state.backfillTask.activeRoundId 1) := by
  rw [backfillTask_eq present]
  rfl

theorem artifacts_backfillTask : state.backfillTask.artifacts = state.artifacts :=
  congrArg Ledgers.artifacts (ledgers_backfillTask state)

theorem repairedLatestRound_backfillTask :
    state.backfillTask.repairedLatestRound = state.repairedLatestRound := by
  have same : state.backfillTask.artifactRoundIds = state.artifactRoundIds := by
    unfold artifactRoundIds
    rw [artifacts_backfillTask present]
  unfold repairedLatestRound
  rw [latestRoundId_backfillTask present, same]
  unfold repairedLatestRound
  omega

theorem repairedRoundStatus_backfillTask
    {roundId : Nat} (active : roundId = state.backfillTask.backfillTask.activeRoundId 1) :
    state.backfillTask.repairedRoundStatus roundId = state.repairedRoundStatus roundId := by
  have again : state.backfillTask.HasRound 1 := (hasRound_backfillTask present).mpr (.inr present)
  have sameIds : state.backfillTask.artifactRoundIds = state.artifactRoundIds := by
    unfold artifactRoundIds
    rw [artifacts_backfillTask present]
  have rounds : ∀ other, state.backfillTask.backfillTask.HasRound other ↔
      state.backfillTask.HasRound other := by
    intro other
    rw [hasRound_backfillTask again, sameIds]
    constructor
    · rintro (named | stored)
      · exact (hasRound_backfillTask present).mpr (.inl named)
      · exact stored
    · exact .inr
  have known : state.backfillTask.HasRound roundId := by
    rw [← rounds, active]
    exact hasRound_activeRoundId ((rounds 1).mpr again) 1
  have stored := roundStatus_backfillTask present known
  have settles : ∀ current, state.artifactRoundIds.max? = some current →
      ¬ (1 < current ∧ roundId < current ∧ state.repairedRoundStatus roundId ∉ roundClosed) := by
    rintro current greatest ⟨several, earlier, unclosed⟩
    unfold repairedRoundStatus at unclosed
    rw [greatest] at unclosed
    simp only [earlier.ne, several, earlier, true_and, ↓reduceIte] at unclosed
    split at unclosed
    · exact unclosed (by decide)
    · rename_i closed
      exact closed unclosed
  conv_lhs => unfold repairedRoundStatus
  rw [sameIds, stored]
  cases greatest : state.artifactRoundIds.max? with
  | none => rfl
  | some current =>
      dsimp only
      rw [if_neg (settles current greatest)]
      split
      · rename_i isCurrent
        split
        · rfl
        · rename_i unfinished
          -- an unfinished round is live, so a later active round would stay active
          have live : state.backfillTask.Live roundId := by
            refine ⟨known, ?_⟩
            rw [stored]
            intro superseded
            rw [superseded] at unfinished
            exact unfinished (by decide)
          obtain ⟨topLive, above⟩ := activeRoundId_of_live live 1
          rw [status_backfillTask present]
          have reached := above roundId live
          rcases Nat.lt_or_eq_of_le reached with later | same
          · have topStays : state.backfillTask.backfillTask.Live
                (state.backfillTask.activeRoundId 1) := by
              refine ⟨(rounds _).mpr topLive.1, ?_⟩
              rw [roundStatus_backfillTask again ((rounds _).mpr topLive.1)]
              unfold repairedRoundStatus
              rw [sameIds, greatest]
              dsimp only
              rw [if_neg (by omega), if_neg (by omega)]
              exact topLive.2
            have bound := (activeRoundId_of_live topStays 1).2 _ topStays
            omega
          · rw [← same, stored]
      · rfl

theorem behind_backfillTask (dispatching : row.status = .dispatching)
    (spared : ¬ state.ClosedByRepair row) (behind : state.Behind row) :
    state.backfillTask.Behind row := by
  have repaired : state.repairRounds.Behind row := by
    apply behind_of_not_latest ((mem_repairRounds_iff dispatching behind.1).mpr spared)
    rw [AttemptTable.latest?_eq_head?, sameSlice_repairRounds dispatching spared,
      ← AttemptTable.latest?_eq_head?]
    exact behind.not_latest
  rw [backfillTask_eq present]
  exact WriteRule.replay (Behind.writeRule row) _ _ repaired

theorem sameSlice_backfillTask (dispatching : row.status = .dispatching) (kept : ¬ state.Rewrites row)
    (latest : state.attempts.latest? row.roundId row.role = some row) :
    SameSlice row.roundId row.role state state.backfillTask := by
  unfold Rewrites at kept
  push Not at kept
  obtain ⟨spared, idle⟩ := kept
  rw [backfillTask_eq present]
  refine Eq.trans ?_ (sameSlice_repairRounds dispatching spared)
  apply sameSlice_replay _ (knownRound_repairRounds (rows_ne_nil_of_hasRound present))
  intro artifact member
  rw [booksOn_repairRounds present dispatching spared member]
  exact idle latest artifact member

theorem not_rewrites_backfillTask (member : row ∈ state.attempts.rows)
    (dispatching : row.status = .dispatching) (kept : ¬ state.Rewrites row)
    (active : row.roundId = state.backfillTask.backfillTask.activeRoundId 1) :
    ¬ state.backfillTask.Rewrites row := by
  have artifacts := artifacts_backfillTask present
  have spared : ¬ state.ClosedByRepair row := fun closed => kept (.inl closed)
  rintro (closed | ⟨latest, artifact, stored, actor, sameRound, books⟩)
  · apply spared
    unfold ClosedByRepair artifactRoundIds at closed ⊢
    rw [artifacts] at closed
    exact closed
  · have first : state.attempts.latest? row.roundId row.role = some row := by
      by_contra passed
      have behind := behind_backfillTask present dispatching spared
        (behind_of_not_latest member passed)
      exact behind.not_latest latest
    have slice := sameSlice_backfillTask present dispatching kept first
    unfold SameSlice at slice
    rw [artifacts] at stored
    rw [repairedLatestRound_backfillTask present] at sameRound
    apply kept
    refine .inr ⟨first, artifact, stored, actor, sameRound, ?_⟩
    rw [repairedRoundStatus_backfillTask present active] at books
    unfold AttemptTable.Books at books ⊢
    simp only [AttemptTable.linkExists_eq_slice, slice] at books ⊢
    exact books

end Twice

end Row

/-- `_RELAY_DISPATCH_CLAIM_STALE_SECONDS`. -/
def dispatchClaimStaleSeconds : Nat := 300

/-- `reconcile_task_lifecycle` up to the current round that its quarantine is
about: the repair, the projection and the repair of `current_round_id`. -/
def reconciled (state : TaskState) : Nat × TaskState :=
  state.backfillTask.syncLegacyProjection.storeRoundId

/-- `reconcile_task_lifecycle` up to its quarantine, while submissions are open. -/
def reconcileDispatches (state : TaskState) : TaskState :=
  state.reconciled.2.quarantineStaleUnverifiedDispatches state.reconciled.1
    dispatchClaimStaleSeconds

def Quarantined (state : TaskState) (row : Attempt) : Prop :=
  (∃ found ∈ state.reconciled.2.attempts.rows, found.roundId = row.roundId ∧
    found.role = row.role ∧ found.attemptNo = row.attemptNo ∧ found.status = .dispatching) ∧
  ∃ left ∈ state.reconcileDispatches.attempts.rows, left.roundId = row.roundId ∧
    left.role = row.role ∧ left.attemptNo = row.attemptNo ∧ left.status = .blocked

instance (state : TaskState) (row : Attempt) : Decidable (state.Quarantined row) :=
  inferInstanceAs (Decidable ((∃ found ∈ state.reconciled.2.attempts.rows, _ ∧ _ ∧ _ ∧ _) ∧
    ∃ left ∈ state.reconcileDispatches.attempts.rows, _ ∧ _ ∧ _ ∧ _))

section Pass

variable {state : TaskState}

theorem syncLegacyProjection_sync (state : TaskState) :
    state.syncLegacyProjection.syncLegacyProjection = state.syncLegacyProjection := by
  let project : Job → Job := fun job =>
    { job with
      status := legacyProjectionStatus (state.roundStatus (state.activeRoundId 1))
        (state.attempts.latest? (state.activeRoundId 1) job.role) }
  have jobs : (state.jobs.map project).map project = state.jobs.map project := by
    rw [List.map_map]
    rfl
  exact congrArg (fun jobs => ({ state with
    status := state.roundStatus (state.activeRoundId 1)
    jobs := jobs } : TaskState)) jobs

theorem reconciled_snd (present : state.HasRound 1) :
    state.reconciled.2 = state.backfillTask.backfillTask := by
  unfold reconciled storeRoundId currentRoundId
  conv_lhs => rw [backfillTask_eq present, syncLegacyProjection_sync, ← backfillTask_eq present]

theorem reconciled_fst (present : state.HasRound 1) :
    state.reconciled.1 = state.backfillTask.backfillTask.activeRoundId 1 := by
  have again : state.backfillTask.HasRound 1 := (hasRound_backfillTask present).mpr (.inr present)
  rw [← reconciled_snd present]
  apply activeRoundId_fallback
  rw [backfillTask_eq present, syncLegacyProjection_sync, ← backfillTask_eq present]
  exact (hasRound_backfillTask again).mpr (.inr again)

theorem stamps_reconciled (present : state.HasRound 1) : Stamps state state.reconciled.2 := by
  have again : state.backfillTask.HasRound 1 := (hasRound_backfillTask present).mpr (.inr present)
  rw [reconciled_snd present]
  exact (Stamps.backfillTask present).trans (Stamps.backfillTask again)

theorem mem_reconcileDispatches {left : Attempt} :
    left ∈ state.reconcileDispatches.attempts.rows ↔
      ∃ found ∈ state.reconciled.2.attempts.rows,
        (if abandonedDispatch state.reconciled.1
            (state.reconciled.2.now - dispatchClaimStaleSeconds * 1000000 : Int) found then
          { found with status := .blocked, updatedAt := state.reconciled.2.now }
        else found) = left :=
  List.mem_map

/-- A dispatch that the pass may take for abandoned: of the current round, with
no provider identity, untouched for the stale time. -/
structure Abandoned (state : TaskState) (row : Attempt) : Prop where
  current : row.roundId = state.reconciled.1
  session : row.nativeSessionId = ""
  run : row.agentRunId = none
  stale : row.updatedAt + dispatchClaimStaleSeconds * 1000000 ≤ state.now

theorem abandonedDispatch_iff (present : state.HasRound 1) {row : Attempt}
    (dispatching : row.status = .dispatching) :
    abandonedDispatch state.reconciled.1
        (state.reconciled.2.now - dispatchClaimStaleSeconds * 1000000 : Int) row ↔
      state.Abandoned row := by
  unfold abandonedDispatch
  rw [(stamps_reconciled present).now]
  simp only [decide_eq_true_eq]
  constructor
  · rintro ⟨current, -, session, run, stale⟩
    refine ⟨current, session, run, ?_⟩
    generalize dispatchClaimStaleSeconds = seconds at stale ⊢
    omega
  · rintro ⟨current, session, run, stale⟩
    refine ⟨current, dispatching, session, run, ?_⟩
    generalize dispatchClaimStaleSeconds = seconds at stale ⊢
    omega

theorem mem_reconciled_iff (present : state.HasRound 1) {row : Attempt}
    (member : row ∈ state.attempts.rows) (dispatching : row.status = .dispatching)
    (current : row.roundId = state.reconciled.1) (old : row.updatedAt ≠ state.now) :
    row ∈ state.reconciled.2.attempts.rows ↔ ¬ state.Rewrites row := by
  have again : state.backfillTask.HasRound 1 := (hasRound_backfillTask present).mpr (.inr present)
  have stamped := Stamps.backfillTask present
  have stillOld : row.updatedAt ≠ state.backfillTask.now := by
    rw [stamped.now]
    exact old
  rw [reconciled_fst present] at current
  rw [reconciled_snd present]
  constructor
  · intro reached rewritten
    apply (Stamps.backfillTask again).not_mem _ stillOld reached
    rw [mem_backfillTask_iff present member dispatching old]
    exact fun kept => kept rewritten
  · intro kept
    rw [mem_backfillTask_iff again
      ((mem_backfillTask_iff present member dispatching old).mpr kept) dispatching stillOld]
    exact not_rewrites_backfillTask present member dispatching kept current

def crashedDispatch : TaskState :=
  after 0 [.claimQueuedAttemptDispatch 1 .director, .elsewhere 300000000 0]

def crashedRetry : TaskState :=
  after 0 [.updateRoleStatus .tester .queued, .claimQueuedAttemptDispatch 1 .tester,
    .updateRoleMetadata .tester
      { nativeSessionId := "session-1", agentRunId := some 7, dispatchVerified := true },
    .updateRoleStatus .tester .blocked, .updateRoleStatus .tester .queued,
    .claimQueuedAttemptDispatch 1 .tester, .elsewhere 300000000 0]

end Pass

end TaskState

end Wlcodex.Relay
