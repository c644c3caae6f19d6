import Mathlib.Algebra.Order.BigOperators.Group.List
import Mathlib.Algebra.Order.Group.Nat
import Wlcodex.Relay.Journal

namespace Wlcodex.Relay

open Wlcodex.Lib

/-! Replaying the artifact history. -/

structure AttemptView where
  roundId : Nat
  role : Role
  attemptNo : Nat
  status : Status
  completionArtifactId : Option Nat
  errorArtifactId : Option Nat
  retryCount : Nat
  deriving DecidableEq, Repr

def Attempt.view (row : Attempt) : AttemptView :=
  ⟨row.roundId, row.role, row.attemptNo, row.status, row.completionArtifactId,
    row.errorArtifactId, row.retryCount⟩

def TaskState.attemptViews (state : TaskState) : List AttemptView :=
  state.attempts.rows.map Attempt.view

namespace AttemptTable

def Retired (attempts : AttemptTable) (roundId : Nat) (role : Role) : Prop :=
  ∃ row ∈ attempts.latest? roundId role, row.status = .superseded

instance (attempts : AttemptTable) (roundId : Nat) (role : Role) :
    Decidable (attempts.Retired roundId role) :=
  inferInstanceAs (Decidable (∃ row ∈ attempts.latest? roundId role, row.status = .superseded))

def Inert (attempts : AttemptTable) (roundStatus : Status) (roundId : Nat) (role : Role)
    (artifact : Artifact) : Prop :=
  if artifact.type = .roleDispatchMetadata then
    attempts.linkExists roundId role Attempt.dispatchArtifactId artifact.id ∨
      attempts.Retired roundId role ∨
      ∃ row ∈ attempts.latest? roundId role,
        initialDispatchStatus roundStatus (some row) = row.status
  else if artifact.type = .roleError then
    attempts.linkExists roundId role Attempt.errorArtifactId artifact.id ∨
      attempts.Retired roundId role
  else if artifact.type = .roleArtifactInvalid then
    attempts.linkExists roundId role Attempt.completionArtifactId artifact.id ∨
      attempts.Retired roundId role
  else if artifact.type ∈ ArtifactType.result then
    attempts.linkExists roundId role Attempt.completionArtifactId artifact.id ∨
      (roundStatus ∈ roundStopped ∧ artifact.payload.runtimeEventId = 0) ∨
      attempts.Retired roundId role
  else True

instance (attempts : AttemptTable) (roundStatus : Status) (roundId : Nat) (role : Role)
    (artifact : Artifact) : Decidable (attempts.Inert roundStatus roundId role artifact) := by
  unfold Inert
  infer_instance

end AttemptTable

/-! ## Progress of a replay -/

def dispatchTarget (roundStatus : Status) : Status :=
  if roundStatus ∈ roundStopped then roundStatus
  else if roundStatus = .superseded then .superseded
  else .streaming

namespace AttemptView

def links (view : AttemptView) : Nat :=
  view.completionArtifactId.getD 0 + view.errorArtifactId.getD 0 + view.retryCount

def rank (roundStatus : Nat → Status) (view : AttemptView) : Nat :=
  if view.status = .superseded then 2
  else if view.status = dispatchTarget (roundStatus view.roundId) then 1
  else 0

theorem rank_superseded (roundStatus : Nat → Status) {view : AttemptView}
    (superseded : view.status = .superseded) : view.rank roundStatus = 2 := if_pos superseded

theorem rank_lt (roundStatus : Nat → Status) {view : AttemptView}
    (unsuperseded : view.status ≠ .superseded) : view.rank roundStatus < 2 := by
  unfold rank
  rw [if_neg unsuperseded]
  by_cases arrived : view.status = dispatchTarget (roundStatus view.roundId)
  · simp [arrived]
  · simp [arrived]

def Advances (roundStatus : Nat → Status) (before after : List AttemptView) : Prop :=
  before.length < after.length ∨
    before.length = after.length ∧
      ((before.map links).sum < (after.map links).sum ∨
        (before.map links).sum = (after.map links).sum ∧
          (before.map (rank roundStatus)).sum < (after.map (rank roundStatus)).sum)

variable {roundStatus : Nat → Status} {artifactId : Nat} {artifact : Artifact}

theorem Advances.trans {first second third : List AttemptView}
    (earlier : Advances roundStatus first second) (later : Advances roundStatus second third) :
    Advances roundStatus first third := by
  unfold Advances at *
  omega

theorem Advances.ne {before after : List AttemptView}
    (advances : Advances roundStatus before after) : after ≠ before := by
  rintro rfl
  unfold Advances at advances
  omega

end AttemptView

open AttemptView

theorem advances_of_modifyFirst {selected : Attempt → Bool}
    {change : Attempt → Attempt} {rows : List Attempt} {row : Attempt}
    (found : rows.find? selected = some row)
    (progress : row.view.links < (change row).view.links ∨
      row.view.links = (change row).view.links ∧
        row.view.rank roundStatus < (change row).view.rank roundStatus) :
    Advances roundStatus (rows.map Attempt.view)
      ((modifyFirst selected change rows).map Attempt.view) := by
  have linkSum := sum_map_modifyFirst (fun row => row.view.links) change found
  have rankSum := sum_map_modifyFirst (fun row => row.view.rank roundStatus) change found
  refine .inr ⟨by simp, ?_⟩
  simp only [List.map_map, Function.comp_def]
  omega

namespace TaskState

/-- The rows after an update of an attempt that is not retired: a first or a further attempt, or the
latest one in place. -/
inductive Books (state : TaskState) (roundId : Nat) (role : Role) (status : Option Status)
    (change : Attempt → Attempt) (rows : List Attempt) : Prop
  | inserted (row : Attempt) (made : rows = row :: state.attempts.rows)
      (missing : ∀ latest ∈ state.attempts.latest? roundId role,
        (status = some .queued ∨ status = some .streaming) ∧ latest.status ∈ Status.attemptTerminal)
  | changed (row : Attempt) (found : state.attempts.latest? roundId role = some row)
      (made : rows = modifyFirst (fun row => row.roundId = roundId ∧ row.role = role) change
        state.attempts.rows)

variable {state : TaskState} {roundId : Nat} {role : Role}

theorem updateAttempt_of_retired (retired : state.attempts.Retired roundId role) (change : AttemptChange) :
    state.updateAttempt roundId role change = state := by
  obtain ⟨row, latestEquation, superseded⟩ := retired
  have latestSome : state.attempts.latest? roundId role = some row := latestEquation
  unfold updateAttempt
  simp [latestSome, superseded]

theorem ensureAttempt_of_retired
    (retired : state.attempts.Retired roundId role) (status : Status) (change : AttemptChange) :
    (state.ensureAttempt roundId role status change).attempts = state.attempts := by
  unfold ensureAttempt
  rw [updateAttempt_of_retired (by simpa using retired)]
  simp

section Active

variable (active : ¬ state.attempts.Retired roundId role)

include active

theorem books_updateAttempt (change : AttemptChange) :
    Books state roundId role change.status (change.apply state.now)
      (state.updateAttempt roundId role change).attempts.rows := by
  unfold updateAttempt
  cases latestEquation : state.attempts.latest? roundId role with
  | none => exact .inserted _ (by simp [insertAttempt, AttemptTable.insertNext]; rfl) (by simp [latestEquation])
  | some row =>
      simp only
      rw [if_neg fun retired => active ⟨row, latestEquation, retired⟩]
      split
      next reopening =>
        split
        next terminal =>
          refine .inserted _ rfl fun latest found => ?_
          rw [latestEquation] at found
          cases found
          exact ⟨reopening, terminal⟩
        · exact .changed row latestEquation rfl
      · exact .changed row latestEquation rfl

theorem books_ensureAttempt (status : Status) (change : AttemptChange) :
    Books state roundId role (some status) (({ change with status := some status } : AttemptChange).apply state.now)
      (state.ensureAttempt roundId role status change).attempts.rows := by
  have books := @books_updateAttempt (state.ensureRound roundId .backfill none) roundId role
    (by simpa using active) { change with status := some status }
  simp only [ensureRound_now] at books
  unfold ensureAttempt
  cases books with
  | inserted row made missing => exact .inserted row (by simpa using made) (by simpa using missing)
  | changed row found made => exact .changed row (by simpa using found) (by simpa using made)

theorem ensureAttempt_longer (absent : state.attempts.latest? roundId role = none) (status : Status)
    (change : AttemptChange) :
    state.attempts.rows.length < (state.ensureAttempt roundId role status change).attempts.rows.length := by
  cases books_ensureAttempt active status change with
  | inserted row made _ => simp [made]
  | changed row found _ => cases absent.symm.trans found

end Active

theorem Books.inPlace {status : Option Status} {change : Attempt → Attempt} {rows : List Attempt} {row : Attempt}
    (books : Books state roundId role status change rows)
    (found : state.attempts.latest? roundId role = some row)
    (stays : status = some .queued ∨ status = some .streaming → row.status ∉ Status.attemptTerminal) :
    rows = modifyFirst (fun row => row.roundId = roundId ∧ row.role = role) change state.attempts.rows := by
  cases books with
  | inserted _ _ missing => exact absurd (missing row found).2 (stays (missing row found).1)
  | changed _ _ made => exact made

theorem updateAttempt_length_le (state : TaskState) (roundId : Nat) (role : Role) (change : AttemptChange) :
    state.attempts.rows.length ≤ (state.updateAttempt roundId role change).attempts.rows.length := by
  by_cases retired : state.attempts.Retired roundId role
  · rw [updateAttempt_of_retired retired]
  · cases books_updateAttempt retired change with
    | inserted row made _ => simp [made]
    | changed row _ made => simp [made]

theorem setAttemptExecution_length_le (state : TaskState) (roundId : Nat) (role : Role)
    (mode : ExecutionMode) :
    state.attempts.rows.length ≤
      (state.setAttemptExecution roundId role mode).attempts.rows.length := by
  unfold setAttemptExecution
  cases state.attempts.latest? roundId role with
  | none =>
      have ensured := updateAttempt_length_le (state.ensureRound roundId .backfill none) roundId
        role { status := some .queued }
      simpa [modifyLatestAttempt, AttemptTable.modifyLatest, ensureAttempt] using ensured
  | some row => simp [modifyLatestAttempt, AttemptTable.modifyLatest]

variable {roundStatus : Nat → Status}

theorem advances_of_longer {before after : TaskState}
    (longer : before.attempts.rows.length < after.attempts.rows.length) :
    Advances roundStatus before.attemptViews after.attemptViews := by
  left
  simpa [attemptViews] using longer

theorem latest?_of_modifyFirst {before after : AttemptTable} {change : Attempt → Attempt}
    (rows : after.rows = modifyFirst (fun row => row.roundId = roundId ∧ row.role = role) change
      before.rows)
    (sameKey : ∀ row, (change row).roundId = row.roundId ∧ (change row).role = row.role) :
    after.latest? roundId role = (before.latest? roundId role).map change := by
  unfold AttemptTable.latest?
  rw [rows]
  refine find?_modifyFirst ?_ before.rows
  intro row selected
  rw [(sameKey row).1, (sameKey row).2]
  exact selected

theorem modifyFirst_latest_trans {before middle after : List Attempt} {change again : Attempt → Attempt}
    (first : middle = modifyFirst (fun row => row.roundId = roundId ∧ row.role = role) change
      before)
    (second : after = modifyFirst (fun row => row.roundId = roundId ∧ row.role = role) again
      middle)
    (sameKey : ∀ row, (change row).roundId = row.roundId ∧ (change row).role = row.role) :
    after = modifyFirst (fun row => row.roundId = roundId ∧ row.role = role)
      (fun row => again (change row)) before := by
  subst first
  rw [second]
  refine modifyFirst_modifyFirst ?_ before
  intro row selected
  rw [(sameKey row).1, (sameKey row).2]
  exact selected

variable {row : Attempt}

theorem latest_lt_of_unlinked {attempts : AttemptTable}
    {column : Attempt → Option Nat} (positive : 0 < artifactId)
    (unlinked : attempts.linkExists roundId role column artifactId = false)
    (latestEquation : attempts.latest? roundId role = some row) :
    (column row).getD 0 < artifactId := by
  simp only [AttemptTable.linkExists, Bool.or_eq_false_iff] at unlinked
  obtain ⟨noRow, noLater⟩ := unlinked
  rw [latestEquation] at noLater
  cases columnEquation : column row with
  | none => simpa using positive
  | some linked =>
      have member := List.mem_of_find?_eq_some latestEquation
      have selected := List.find?_some latestEquation
      have different : linked ≠ artifactId := by
        rintro rfl
        have absent := List.any_eq_false.mp noRow row member
        simp [selected, columnEquation] at absent
      simp only [Option.bind_some, columnEquation, Option.any_some, decide_eq_false_iff_not]
        at noLater
      simp only [Option.getD_some]
      omega

variable {artifact : Artifact}

theorem completeAttempt_advances {status : Status} (positive : 0 < artifact.id) (open_ : status ≠ .superseded)
    (unlinked : state.attempts.linkExists roundId role Attempt.completionArtifactId artifact.id =
      false)
    (active : ¬ state.attempts.Retired roundId role) :
    Advances roundStatus state.attemptViews
      (state.completeAttempt roundId role status artifact).attemptViews := by
  unfold completeAttempt
  generalize changeEquation : ({
    status := some status
    completionEventId :=
      if 0 < artifact.payload.runtimeEventId then some artifact.payload.runtimeEventId.toNat
      else none
    completionArtifactId := some artifact.id } : AttemptChange) = change
  have grows := updateAttempt_length_le (state.ensureAttempt roundId role status {}) roundId role
    change
  cases books_ensureAttempt active status {} with
  | inserted row rows _ =>
      refine advances_of_longer ?_
      simp only [rows, List.length_cons] at grows
      omega
  | changed row latestEquation rows =>
      have older := latest_lt_of_unlinked positive unlinked latestEquation
      have ensuredLatest := latest?_of_modifyFirst rows fun _ => ⟨rfl, rfl⟩
      rw [latestEquation] at ensuredLatest
      have stillActive : ¬ (state.ensureAttempt roundId role status {}).attempts.Retired roundId role := by
        rintro ⟨other, otherEquation, superseded⟩
        rw [ensuredLatest] at otherEquation
        cases otherEquation
        exact open_ superseded
      have finalRows := (books_updateAttempt stillActive change).inPlace ensuredLatest (by
        subst changeEquation
        rintro (reopening | reopening) terminal <;> cases reopening <;>
          simp [AttemptChange.apply, Status.attemptTerminal] at terminal)
      unfold attemptViews
      rw [modifyFirst_latest_trans rows finalRows fun _ => ⟨rfl, rfl⟩]
      refine advances_of_modifyFirst latestEquation (.inl ?_)
      subst changeEquation
      simp only [Attempt.view, AttemptView.links, AttemptChange.apply, Option.getD_some,
        Option.some_or, Option.none_or] at older ⊢
      omega

theorem observeError_advances (positive : 0 < artifact.id)
    (unlinked : state.attempts.linkExists roundId role Attempt.errorArtifactId artifact.id = false)
    (active : ¬ state.attempts.Retired roundId role) :
    Advances roundStatus state.attemptViews
      (state.observeError roundId role artifact).attemptViews := by
  unfold observeError
  simp only [unlinked, Bool.false_eq_true, ↓reduceIte]
  cases latestEquation : state.attempts.latest? roundId role with
  | none =>
      exact advances_of_longer
        (Nat.lt_of_lt_of_le (ensureAttempt_longer active latestEquation _ _) (updateAttempt_length_le _ _ _ _))
  | some row =>
      have older := latest_lt_of_unlinked positive unlinked latestEquation
      simp only [latestEquation, Option.bind_some, older, decide_true, ↓reduceIte]
      generalize changeEquation : ({
        status := if state.roundStatus roundId ∈ roundStopped then some (state.roundStatus roundId)
          else none
        errorArtifactId := some artifact.id
        incrementRetry := true } : AttemptChange) = change
      cases books_updateAttempt active change with
      | inserted _ rows _ => exact advances_of_longer (by simp [rows])
      | changed _ _ rows =>
          unfold attemptViews
          rw [rows]
          refine advances_of_modifyFirst latestEquation (.inl ?_)
          subst changeEquation
          simp only [Attempt.view, AttemptView.links, AttemptChange.apply, Option.some_or,
            Option.none_or, Option.getD_some, ↓reduceIte]
          omega

theorem observeError_of_inert
    (inert : state.attempts.linkExists roundId role Attempt.errorArtifactId artifact.id ∨
      state.attempts.Retired roundId role) :
    (state.observeError roundId role artifact).attempts = state.attempts := by
  unfold observeError
  rcases inert with linked | ⟨row, latestEquation, superseded⟩
  · simp [linked]
  · simp only
    split
    · rfl
    · have latestSome : state.attempts.latest? roundId role = some row := latestEquation
      simp only [latestSome]
      rw [updateAttempt_of_retired ⟨row, latestEquation, superseded⟩]

theorem completeAttempt_of_retired
    (retired : state.attempts.Retired roundId role) (status : Status) (artifact : Artifact) :
    (state.completeAttempt roundId role status artifact).attempts = state.attempts := by
  have ensured := ensureAttempt_of_retired retired status {}
  unfold completeAttempt
  rw [updateAttempt_of_retired (by rw [ensured]; exact retired), ensured]

theorem setAttemptExecution_rows
    (latestEquation : state.attempts.latest? roundId role = some row) (mode : ExecutionMode) :
    (state.setAttemptExecution roundId role mode).attempts.rows =
      modifyFirst (fun row => row.roundId = roundId ∧ row.role = role)
        (fun row => { row with executionMode := mode, updatedAt := state.now })
        state.attempts.rows := by
  unfold setAttemptExecution
  simp only [latestEquation]
  rfl

theorem dispatchStatus_eq_target {roundStatus : Status} {latest : Option Attempt}
    {status : Status} (moves : dispatchStatus roundStatus latest = some status) :
    status = dispatchTarget roundStatus := by
  unfold dispatchStatus at moves
  unfold dispatchTarget
  split_ifs at moves ⊢
  · exact (Option.some.inj moves).symm
  · exact (Option.some.inj moves).symm
  · cases latest with
    | none => exact (Option.some.inj moves).symm
    | some row =>
        simp only at moves
        split at moves
        · cases moves
        · exact (Option.some.inj moves).symm

theorem initialDispatchStatus_not_reopening {roundStatus : Status}
    (terminal : row.status ∈ Status.attemptTerminal) :
    ¬ (initialDispatchStatus roundStatus (some row) = .queued ∨
      initialDispatchStatus roundStatus (some row) = .streaming) := by
  unfold initialDispatchStatus dispatchStatus
  simp only [Status.attemptTerminal, roundStopped, List.mem_cons, List.not_mem_nil, or_false]
    at terminal ⊢
  grind

section

variable (unlinked : state.attempts.linkExists roundId role Attempt.dispatchArtifactId artifact.id = false)

include unlinked

theorem observeDispatch_inPlace (latestEquation : state.attempts.latest? roundId role = some row)
    (unsuperseded : row.status ≠ .superseded) :
    ∃ change : Attempt → Attempt,
      (state.observeDispatch roundId role artifact).attempts.rows =
        modifyFirst (fun row => row.roundId = roundId ∧ row.role = role) change
          state.attempts.rows ∧
      (∀ row, (change row).roundId = row.roundId ∧ (change row).role = row.role) ∧
      (change row).view =
        { row.view with
          status := initialDispatchStatus (state.roundStatus roundId) (some row) } ∧
      (change row).dispatchArtifactId = some artifact.id := by
  unfold observeDispatch
  simp only [unlinked, Bool.false_eq_true, ↓reduceIte, latestEquation]
  generalize initialEquation :
    initialDispatchStatus (state.roundStatus roundId) (some row) = initial
  have keepsOpen : row.status ∈ Status.attemptTerminal →
      ¬ (initial = .queued ∨ initial = .streaming) := by
    rw [← initialEquation]
    exact initialDispatchStatus_not_reopening
  have active : ¬ state.attempts.Retired roundId role := by
    rintro ⟨other, found, superseded⟩
    rw [latestEquation] at found
    cases found
    exact unsuperseded superseded
  have rows := (books_ensureAttempt active initial (dispatchChange artifact)).inPlace latestEquation
    fun reopening terminal => keepsOpen terminal (reopening.imp Option.some.inj Option.some.inj)
  generalize state.ensureAttempt roundId role initial (dispatchChange artifact) = ensured at rows ⊢
  have ensuredLatest := latest?_of_modifyFirst rows fun _ => ⟨rfl, rfl⟩
  rw [latestEquation] at ensuredLatest
  have executedRows := setAttemptExecution_rows ensuredLatest artifact.payload.providerExecutionMode
  have executedLatest := latest?_of_modifyFirst executedRows fun _ => ⟨rfl, rfl⟩
  rw [ensuredLatest] at executedLatest
  replace executedRows := modifyFirst_latest_trans rows executedRows fun _ => ⟨rfl, rfl⟩
  generalize ensured.setAttemptExecution roundId role artifact.payload.providerExecutionMode =
    executed at executedRows executedLatest ⊢
  cases statusEquation : dispatchStatus (state.roundStatus roundId) (some row) with
  | none => exact ⟨_, executedRows, fun _ => ⟨rfl, rfl⟩, rfl, rfl⟩
  | some status =>
      have sameStatus : status = initial := by
        rw [← initialEquation, initialDispatchStatus, statusEquation]
        rfl
      subst sameStatus
      by_cases retired : executed.attempts.Retired roundId role
      · simp only [updateAttempt_of_retired retired]
        exact ⟨_, executedRows, fun _ => ⟨rfl, rfl⟩, rfl, rfl⟩
      · -- the attempt already carries the status the update asks for
        have finalRows := (books_updateAttempt retired { status := some status }).inPlace executedLatest (by
          rintro (reopening | reopening) terminal <;> cases reopening <;>
            simp [AttemptChange.apply, Status.attemptTerminal] at terminal)
        exact ⟨_, modifyFirst_latest_trans executedRows finalRows fun _ => ⟨rfl, rfl⟩,
          fun _ => ⟨rfl, rfl⟩, rfl, rfl⟩

theorem observeDispatch_advances (active : ¬ state.attempts.Retired roundId role)
    (moves : ∀ row, state.attempts.latest? roundId role = some row →
      initialDispatchStatus (state.roundStatus roundId) (some row) ≠ row.status) :
    Advances state.roundStatus state.attemptViews
      (state.observeDispatch roundId role artifact).attemptViews := by
  cases latestEquation : state.attempts.latest? roundId role with
  | none =>
      unfold observeDispatch
      simp only [unlinked, Bool.false_eq_true, ↓reduceIte, latestEquation]
      refine advances_of_longer ?_
      have ensuredLonger := ensureAttempt_longer active latestEquation
        (initialDispatchStatus (state.roundStatus roundId) none) (dispatchChange artifact)
      have executedLonger := Nat.lt_of_lt_of_le ensuredLonger
        (setAttemptExecution_length_le _ roundId role artifact.payload.providerExecutionMode)
      split
      · exact Nat.lt_of_lt_of_le executedLonger (updateAttempt_length_le _ _ _ _)
      · exact executedLonger
  | some row =>
      have unsuperseded : row.status ≠ .superseded :=
        fun superseded => active ⟨row, latestEquation, superseded⟩
      obtain ⟨change, rows, _, viewEquation, _⟩ :=
        observeDispatch_inPlace unlinked latestEquation unsuperseded
      have moved := moves row latestEquation
      have selected := List.find?_some latestEquation
      simp only [decide_eq_true_eq] at selected
      have target : initialDispatchStatus (state.roundStatus roundId) (some row) =
          dispatchTarget (state.roundStatus roundId) := by
        cases statusEquation : dispatchStatus (state.roundStatus roundId) (some row) with
        | none => simp [initialDispatchStatus, statusEquation] at moved
        | some status =>
            rw [initialDispatchStatus, statusEquation]
            exact dispatchStatus_eq_target statusEquation
      unfold attemptViews
      rw [rows]
      refine advances_of_modifyFirst latestEquation (.inr ?_)
      rw [viewEquation, target]
      rw [target] at moved
      refine ⟨rfl, ?_⟩
      simp only [AttemptView.rank, Attempt.view, selected.1, unsuperseded, ↓reduceIte,
        Ne.symm moved]
      split <;> omega

end

theorem latest_of_linkExists {attempts : AttemptTable} {column : Attempt → Option Nat}
    (linked : attempts.linkExists roundId role column artifactId = true) :
    ∃ row, attempts.latest? roundId role = some row := by
  refine Option.isSome_iff_exists.mp ?_
  rcases Bool.or_eq_true_iff.mp linked with exact | later
  · obtain ⟨row, member, selected⟩ := List.any_eq_true.mp exact
    simp only [decide_eq_true_eq] at selected
    exact List.find?_isSome.mpr ⟨row, member, by simp [selected]⟩
  · cases latestEquation : attempts.latest? roundId role with
    | none => simp [latestEquation] at later
    | some row => rfl

theorem observeDispatch_of_retired
    (unlinked : state.attempts.linkExists roundId role Attempt.dispatchArtifactId artifact.id =
      false)
    (retired : state.attempts.Retired roundId role) :
    ∃ now, (state.observeDispatch roundId role artifact).attempts.rows =
      modifyFirst (fun row => row.roundId = roundId ∧ row.role = role)
        (fun row => { row with
          executionMode := artifact.payload.providerExecutionMode
          updatedAt := now }) state.attempts.rows := by
  obtain ⟨row, latestEquation, superseded⟩ := retired
  have latestSome : state.attempts.latest? roundId role = some row := latestEquation
  unfold observeDispatch
  simp only [unlinked, Bool.false_eq_true, ↓reduceIte]
  generalize initialDispatchStatus (state.roundStatus roundId)
    (state.attempts.latest? roundId role) = initial
  have ensured := ensureAttempt_of_retired ⟨row, latestEquation, superseded⟩ initial
    (dispatchChange artifact)
  have executedRows := setAttemptExecution_rows (ensured ▸ latestSome)
    artifact.payload.providerExecutionMode
  have executedLatest := latest?_of_modifyFirst executedRows fun _ => ⟨rfl, rfl⟩
  rw [ensured, latestSome] at executedLatest
  rw [ensured] at executedRows
  have stillRetired : ((state.ensureAttempt roundId role initial
      (dispatchChange artifact)).setAttemptExecution roundId role
      artifact.payload.providerExecutionMode).attempts.Retired roundId role :=
    ⟨_, executedLatest, superseded⟩
  refine ⟨_, Eq.trans ?_ executedRows⟩
  split
  · rw [updateAttempt_of_retired stillRetired]
  · rfl

theorem observeDispatch_of_inert
    (inert : state.attempts.linkExists roundId role Attempt.dispatchArtifactId artifact.id ∨
      state.attempts.Retired roundId role ∨
      ∃ row ∈ state.attempts.latest? roundId role,
        initialDispatchStatus (state.roundStatus roundId) (some row) = row.status) :
    ∃ change : Attempt → Attempt,
      (state.observeDispatch roundId role artifact).attempts.rows =
        modifyFirst (fun row => row.roundId = roundId ∧ row.role = role) change
          state.attempts.rows ∧
      (∀ row, (change row).roundId = row.roundId ∧ (change row).role = row.role) ∧
      ∀ row, state.attempts.latest? roundId role = some row →
        (change row).view = row.view ∧
        ((change row).dispatchArtifactId = row.dispatchArtifactId ∨
          state.attempts.linkExists roundId role Attempt.dispatchArtifactId artifact.id = false ∧
            (change row).dispatchArtifactId = some artifact.id) := by
  cases linkEquation :
      state.attempts.linkExists roundId role Attempt.dispatchArtifactId artifact.id with
  | true =>
      obtain ⟨row, latestEquation⟩ := latest_of_linkExists linkEquation
      unfold observeDispatch
      simp only [linkEquation, ↓reduceIte]
      exact ⟨_, setAttemptExecution_rows latestEquation _, fun _ => ⟨rfl, rfl⟩,
        fun _ _ => ⟨rfl, .inl rfl⟩⟩
  | false =>
      by_cases retired : state.attempts.Retired roundId role
      · obtain ⟨now, rows⟩ := observeDispatch_of_retired linkEquation retired
        exact ⟨_, rows, fun _ => ⟨rfl, rfl⟩, fun _ _ => ⟨rfl, .inl rfl⟩⟩
      · rw [linkEquation] at inert
        rcases inert with linked | retiredAgain | ⟨row, latestEquation, settled⟩
        · cases linked
        · exact absurd retiredAgain retired
        · obtain ⟨change, rows, sameKey, viewEquation, linkWritten⟩ :=
            observeDispatch_inPlace linkEquation latestEquation
              fun superseded => retired ⟨row, latestEquation, superseded⟩
          refine ⟨change, rows, sameKey, ?_⟩
          intro other otherEquation
          have sameRow : row = other := Option.some.inj (latestEquation.symm.trans otherEquation)
          subst sameRow
          rw [viewEquation, settled]
          exact ⟨rfl, .inr ⟨rfl, linkWritten⟩⟩

end TaskState

/-- The attempts that a replay of `artifact` may leave when it is inert: the same
columns, and the same dispatch links for every later artifact. -/
def AttemptTable.Undisturbed (artifactId : Nat) (before after : AttemptTable) : Prop :=
  after.rows.map Attempt.view = before.rows.map Attempt.view ∧
    ∀ later, artifactId < later → ∀ roundId role,
      after.linkExists roundId role Attempt.dispatchArtifactId later =
        before.linkExists roundId role Attempt.dispatchArtifactId later

namespace AttemptTable

theorem undisturbed_refl (artifactId : Nat) (attempts : AttemptTable) :
    Undisturbed artifactId attempts attempts :=
  ⟨rfl, fun _ _ _ _ => rfl⟩

theorem undisturbed_of_modifyFirst {before after : AttemptTable} {roundId : Nat} {role : Role}
    {change : Attempt → Attempt} (positive : 0 < artifactId)
    (rows : after.rows = modifyFirst (fun row => row.roundId = roundId ∧ row.role = role) change
      before.rows)
    (sameKey : ∀ row, (change row).roundId = row.roundId ∧ (change row).role = row.role)
    (keeps : ∀ row, before.latest? roundId role = some row →
      (change row).view = row.view ∧
      ((change row).dispatchArtifactId = row.dispatchArtifactId ∨
        before.linkExists roundId role Attempt.dispatchArtifactId artifactId = false ∧
          (change row).dispatchArtifactId = some artifactId)) :
    Undisturbed artifactId before after := by
  -- the written link is older than every later artifact, and so is what it replaces
  have sameLink : ∀ later, artifactId < later → ∀ row, before.latest? roundId role = some row →
      ((change row).dispatchArtifactId = some later ↔ row.dispatchArtifactId = some later) ∧
      ((change row).dispatchArtifactId.any (fun linked => later < linked) =
        row.dispatchArtifactId.any fun linked => later < linked) := by
    intro later after row latestEquation
    rcases (keeps row latestEquation).2 with same | ⟨unlinked, written⟩
    · rw [same]
      exact ⟨Iff.rfl, rfl⟩
    · have older := TaskState.latest_lt_of_unlinked positive unlinked latestEquation
      rw [written]
      cases linkEquation : row.dispatchArtifactId with
      | none => simp; omega
      | some linked =>
          rw [linkEquation] at older
          simp only [Option.getD_some] at older
          simp
          omega
  refine ⟨?_, ?_⟩
  · rw [rows]
    exact map_modifyFirst fun row found => (keeps row found).1
  · intro later laterId otherRound otherRole
    have sameRows : after.rows.any (fun row => row.roundId = otherRound ∧ row.role = otherRole ∧
          row.dispatchArtifactId = some later) =
        before.rows.any fun row => row.roundId = otherRound ∧ row.role = otherRole ∧
          row.dispatchArtifactId = some later := by
      have mapped : (after.rows.map fun row => decide (row.roundId = otherRound ∧
            row.role = otherRole ∧ row.dispatchArtifactId = some later)) =
          before.rows.map fun row => decide (row.roundId = otherRound ∧
            row.role = otherRole ∧ row.dispatchArtifactId = some later) := by
        rw [rows]
        refine map_modifyFirst ?_
        intro row found
        simp only [(sameKey row).1, (sameKey row).2, (sameLink later laterId row found).1]
      have anyMapped := congrArg (fun flags : List Bool => flags.any id) mapped
      simpa [List.any_map] using anyMapped
    have sameLatest : ((after.latest? otherRound otherRole).bind Attempt.dispatchArtifactId).any
          (fun linked => later < linked) =
        ((before.latest? otherRound otherRole).bind Attempt.dispatchArtifactId).any
          fun linked => later < linked := by
      by_cases sameActor : otherRound = roundId ∧ otherRole = role
      · obtain ⟨rfl, rfl⟩ := sameActor
        rw [TaskState.latest?_of_modifyFirst rows sameKey]
        cases latestEquation : before.latest? otherRound otherRole with
        | none => rfl
        | some row => simpa using (sameLink later laterId row latestEquation).2
      · have untouched : after.latest? otherRound otherRole =
            before.latest? otherRound otherRole := by
          unfold latest?
          rw [rows]
          refine find?_modifyFirst_of_disjoint ?_ ?_ before.rows
          · intro row selected
            simp only [decide_eq_true_eq, decide_eq_false_iff_not] at selected ⊢
            rintro ⟨sameRound, sameRole⟩
            exact sameActor ⟨sameRound.symm.trans selected.1, sameRole.symm.trans selected.2⟩
          · intro row selected
            rw [(sameKey row).1, (sameKey row).2]
            exact selected
        rw [untouched]
    unfold linkExists
    rw [sameRows, sameLatest]

theorem latest?_view (attempts : AttemptTable) (roundId : Nat) (role : Role) :
    (attempts.latest? roundId role).map Attempt.view =
      (attempts.rows.map Attempt.view).find? fun view =>
        view.roundId = roundId ∧ view.role = role := by
  rw [List.find?_map]
  rfl

section SameViews

variable {first second : AttemptTable}
  (same : first.rows.map Attempt.view = second.rows.map Attempt.view)
include same

theorem latest?_status_congr (roundId : Nat) (role : Role) :
    (first.latest? roundId role).map Attempt.status =
      (second.latest? roundId role).map Attempt.status := by
  have views : (first.latest? roundId role).map Attempt.view =
      (second.latest? roundId role).map Attempt.view := by
    rw [latest?_view, latest?_view, same]
  have statuses := congrArg (Option.map AttemptView.status) views
  simpa [Option.map_map, Function.comp_def, Attempt.view] using statuses

theorem linkExists_congr (column : Attempt → Option Nat) (viewed : AttemptView → Option Nat)
    (reads : ∀ row, column row = viewed row.view) (roundId : Nat) (role : Role) (artifactId : Nat) :
    first.linkExists roundId role column artifactId =
      second.linkExists roundId role column artifactId := by
  have shape : ∀ attempts : AttemptTable, attempts.linkExists roundId role column artifactId =
      ((attempts.rows.map Attempt.view).any (fun view =>
          view.roundId = roundId ∧ view.role = role ∧ viewed view = some artifactId) ||
        (((attempts.rows.map Attempt.view).find? fun view =>
          view.roundId = roundId ∧ view.role = role).bind viewed).any
            fun linked => artifactId < linked) := by
    intro attempts
    unfold linkExists
    rw [← latest?_view, List.any_map]
    congr 1
    · refine List.any_congr rfl ?_
      intro row
      rw [reads row]
      rfl
    · cases attempts.latest? roundId role with
      | none => rfl
      | some row => simp [reads]
  rw [shape, shape, same]

theorem retired_congr (roundId : Nat) (role : Role) :
    first.Retired roundId role ↔ second.Retired roundId role := by
  have statuses := latest?_status_congr same roundId role
  unfold Retired
  cases firstEquation : first.latest? roundId role <;>
    cases secondEquation : second.latest? roundId role <;>
    simp_all

theorem settled_congr (roundStatus : Status) (roundId : Nat) (role : Role) :
    (∃ row ∈ first.latest? roundId role,
        initialDispatchStatus roundStatus (some row) = row.status) ↔
      ∃ row ∈ second.latest? roundId role,
        initialDispatchStatus roundStatus (some row) = row.status := by
  have statuses := latest?_status_congr same roundId role
  cases firstEquation : first.latest? roundId role <;>
    cases secondEquation : second.latest? roundId role <;>
    simp_all [initialDispatchStatus, dispatchStatus]

end SameViews

theorem inert_of_undisturbed {before after : AttemptTable} (undisturbed : Undisturbed artifactId before after)
    (later : artifactId < artifact.id) (roundStatus : Status) (roundId : Nat) (role : Role) :
    after.Inert roundStatus roundId role artifact ↔
      before.Inert roundStatus roundId role artifact := by
  obtain ⟨same, dispatchLinks⟩ := undisturbed
  unfold Inert
  rw [dispatchLinks artifact.id later roundId role, retired_congr same,
    settled_congr same,
    linkExists_congr same Attempt.errorArtifactId AttemptView.errorArtifactId (fun _ => rfl),
    linkExists_congr same Attempt.completionArtifactId AttemptView.completionArtifactId
      (fun _ => rfl)]

end AttemptTable

namespace TaskState

theorem resultStatus_ne_superseded (payload : Payload) : resultStatus payload ≠ .superseded := by
  intro superseded
  have reported := resultStatus_mem payload
  rw [superseded] at reported
  revert reported
  decide

theorem observeAttempt_of_inert {state : TaskState} {roundId : Nat} {role : Role} (positive : 0 < artifact.id)
    (inert : state.attempts.Inert (state.roundStatus roundId) roundId role artifact) :
    AttemptTable.Undisturbed artifact.id state.attempts
      (state.observeAttempt roundId role artifact).attempts := by
  unfold AttemptTable.Inert at inert
  unfold observeAttempt
  split_ifs at inert ⊢ with dispatch error invalid linked result
  · obtain ⟨change, rows, sameKey, keeps⟩ := observeDispatch_of_inert inert
    exact AttemptTable.undisturbed_of_modifyFirst positive rows sameKey keeps
  · rw [observeError_of_inert inert]
    exact AttemptTable.undisturbed_refl _ _
  · exact AttemptTable.undisturbed_refl _ _
  · rcases inert with alreadyLinked | retired
    · exact absurd alreadyLinked linked
    · rw [completeAttempt_of_retired retired]
      exact AttemptTable.undisturbed_refl _ _
  · unfold observeResult
    split_ifs with resultLinked stopped
    · exact AttemptTable.undisturbed_refl _ _
    · exact AttemptTable.undisturbed_refl _ _
    · rcases inert with alreadyLinked | alreadyStopped | retired
      · exact absurd alreadyLinked resultLinked
      · exact absurd alreadyStopped stopped
      · rw [completeAttempt_of_retired retired]
        exact AttemptTable.undisturbed_refl _ _
  · exact AttemptTable.undisturbed_refl _ _

theorem observeAttempt_advances {state : TaskState} {roundId : Nat} {role : Role} (positive : 0 < artifact.id)
    (active : ¬ state.attempts.Inert (state.roundStatus roundId) roundId role artifact) :
    Advances state.roundStatus state.attemptViews
      (state.observeAttempt roundId role artifact).attemptViews := by
  unfold AttemptTable.Inert at active
  unfold observeAttempt
  split_ifs at active ⊢ with dispatch error invalid linked result
  · push Not at active
    obtain ⟨unlinked, unretired, moves⟩ := active
    exact observeDispatch_advances (by simpa using unlinked) unretired moves
  · push Not at active
    exact observeError_advances positive (by simpa using active.1) active.2
  · exact absurd (Or.inl linked) active
  · push Not at active
    exact completeAttempt_advances positive (by decide) (by simpa using active.1) active.2
  · push Not at active
    obtain ⟨unlinked, running, unretired⟩ := active
    unfold observeResult
    rw [if_neg (by simpa using unlinked), if_neg (fun stopped => running stopped.1 stopped.2)]
    exact completeAttempt_advances positive (resultStatus_ne_superseded _)
      (by simpa using unlinked) unretired
  · exact absurd trivial active

/-- The round an artifact is replayed in, if `latest` is the latest round. -/
def replayRound (latest : Nat) (payload : Payload) : Nat :=
  if payload.explicitRound = 0 then latest else payload.explicitRound

end TaskState

def AttemptTable.ReplaysInertly (attempts : AttemptTable) (roundStatus : Nat → Status)
    (latest : Nat) (artifact : Artifact) : Prop :=
  ∀ role ∈ artifact.payload.actor,
    attempts.Inert (roundStatus (TaskState.replayRound latest artifact.payload))
      (TaskState.replayRound latest artifact.payload) role artifact

instance (attempts : AttemptTable) (roundStatus : Nat → Status) (latest : Nat)
    (artifact : Artifact) : Decidable (attempts.ReplaysInertly roundStatus latest artifact) :=
  inferInstanceAs (Decidable (∀ role ∈ artifact.payload.actor, _))

namespace TaskState

def ReplaysInertly (state : TaskState) (artifact : Artifact) : Prop :=
  state.attempts.ReplaysInertly state.roundStatus (state.latestRoundId 1) artifact

variable {state : TaskState} {artifact : Artifact}

theorem observeArtifact_of_inert (positive : 0 < artifact.id)
    (known : state.HasRound (state.artifactRound artifact.payload)) (inert : state.ReplaysInertly artifact) :
    AttemptTable.Undisturbed artifact.id state.attempts
      (state.observeArtifact artifact).attempts := by
  have statuses := observeRound_roundStatuses known artifact
  have attempts := observeRound_attempts state (state.artifactRound artifact.payload) artifact
  unfold observeArtifact
  cases actorEquation : artifact.payload.actor with
  | none =>
      simp only [attempts]
      exact AttemptTable.undisturbed_refl _ _
  | some role =>
      have roleInert := inert role actorEquation
      rw [← roundStatus_congr statuses, ← attempts] at roleInert
      have observed := observeAttempt_of_inert positive roleInert
      rw [attempts] at observed
      exact observed

theorem observeArtifact_advances (positive : 0 < artifact.id)
    (known : state.HasRound (state.artifactRound artifact.payload))
    (active : ¬ state.ReplaysInertly artifact) :
    Advances state.roundStatus state.attemptViews
      (state.observeArtifact artifact).attemptViews := by
  have statuses := observeRound_roundStatuses known artifact
  have attempts := observeRound_attempts state (state.artifactRound artifact.payload) artifact
  unfold ReplaysInertly AttemptTable.ReplaysInertly at active
  push Not at active
  obtain ⟨role, actorEquation, roleActive⟩ := active
  have actorSome : artifact.payload.actor = some role := actorEquation
  unfold observeArtifact
  simp only [actorSome]
  have sameRound : replayRound (state.latestRoundId 1) artifact.payload =
      state.artifactRound artifact.payload := rfl
  rw [sameRound, ← roundStatus_congr statuses, ← attempts] at roleActive
  have advanced := observeAttempt_advances positive roleActive
  rw [funext (roundStatus_congr statuses)] at advanced
  have views : (state.observeRound (state.artifactRound artifact.payload) artifact).attemptViews =
      state.attemptViews := by
    unfold attemptViews
    rw [attempts]
  rw [views] at advanced
  exact advanced

theorem replaysInertly_observeArtifact {later : Artifact} (positive : 0 < artifact.id)
    (known : state.HasRound (state.artifactRound artifact.payload))
    (inert : state.ReplaysInertly artifact) (behind : artifact.id < later.id) :
    (state.observeArtifact artifact).ReplaysInertly later ↔ state.ReplaysInertly later := by
  have statuses := observeArtifact_roundStatuses known
  have undisturbed := observeArtifact_of_inert positive known inert
  unfold ReplaysInertly AttemptTable.ReplaysInertly
  rw [latestRoundId_congr statuses]
  refine forall₂_congr fun role _ => ?_
  rw [roundStatus_congr statuses]
  exact AttemptTable.inert_of_undisturbed undisturbed behind _ _ _

theorem replay_inert_or_advances (artifacts : List Artifact) (state : TaskState)
    (ascending : artifacts.Pairwise fun earlier later => earlier.id < later.id)
    (positive : ∀ artifact ∈ artifacts, 0 < artifact.id)
    (known : ∀ artifact ∈ artifacts, state.HasRound (state.artifactRound artifact.payload)) :
    ((∀ artifact ∈ artifacts, state.ReplaysInertly artifact) ∧
        (artifacts.foldl observeArtifact state).attemptViews = state.attemptViews) ∨
      (¬ (∀ artifact ∈ artifacts, state.ReplaysInertly artifact) ∧
        Advances state.roundStatus state.attemptViews
          (artifacts.foldl observeArtifact state).attemptViews) := by
  induction artifacts generalizing state with
  | nil => exact .inl ⟨by simp, rfl⟩
  | cons artifact rest ih =>
      obtain ⟨behind, restAscending⟩ := List.pairwise_cons.mp ascending
      have headKnown := known artifact List.mem_cons_self
      have headPositive := positive artifact List.mem_cons_self
      have statuses := observeArtifact_roundStatuses headKnown
      have restResult := ih (state.observeArtifact artifact) restAscending
        (fun later member => positive later (List.mem_cons_of_mem _ member))
        (fun later member => by
          rw [artifactRound_congr statuses, hasRound_congr statuses]
          exact known later (List.mem_cons_of_mem _ member))
      rw [funext (roundStatus_congr statuses)] at restResult
      rw [List.foldl_cons]
      by_cases headInert : state.ReplaysInertly artifact
      · have headViews : (state.observeArtifact artifact).attemptViews = state.attemptViews :=
          (observeArtifact_of_inert headPositive headKnown headInert).1
        have sameVerdicts : (∀ later ∈ rest, (state.observeArtifact artifact).ReplaysInertly later) ↔
            ∀ later ∈ artifact :: rest, state.ReplaysInertly later := by
          rw [List.forall_mem_cons]
          simp only [headInert, true_and]
          exact forall₂_congr fun later member =>
            replaysInertly_observeArtifact headPositive headKnown headInert (behind later member)
        rw [sameVerdicts, headViews] at restResult
        exact restResult
      · have headAdvances := observeArtifact_advances headPositive headKnown headInert
        refine .inr ⟨fun all => headInert (all artifact List.mem_cons_self), ?_⟩
        rcases restResult with ⟨_, same⟩ | ⟨_, restAdvances⟩
        · rw [same]
          exact headAdvances
        · exact headAdvances.trans restAdvances

def repairedRoundStatus (state : TaskState) (roundId : Nat) : Status :=
  let stored := state.roundStatus roundId
  match state.artifactRoundIds.max? with
  | none => stored
  | some current =>
      if roundId = current then if stored ∈ Status.roundTerminal then stored else state.status
      else if 1 < current ∧ roundId < current ∧ stored ∉ roundClosed then .superseded
      else stored

def repairedLatestRound (state : TaskState) : Nat :=
  max (state.latestRoundId 1) ((state.artifactRoundIds.max?).getD 0)

def ClosedByRepair (state : TaskState) (row : Attempt) : Prop :=
  ∃ current ∈ state.artifactRoundIds.max?, 1 < current ∧ row.roundId < current ∧
    row.status ∉ attemptClosed

instance (state : TaskState) : DecidablePred state.ClosedByRepair := fun row =>
  inferInstanceAs (Decidable (∃ current ∈ state.artifactRoundIds.max?, 1 < current ∧
    row.roundId < current ∧ row.status ∉ attemptClosed))

variable {roundId : Nat}

theorem hasRound_setRoundStatus (status : Status) (other : Nat) :
    (state.setRoundStatus roundId status).HasRound other ↔
      other = roundId ∨ state.HasRound other := by
  unfold setRoundStatus
  rw [hasRound_congr (roundStatuses_of_rounds (syncLegacyProjection_rounds _)),
    hasRound_putRoundStatus, hasRound_ensureRound]

theorem roundStatus_setRoundStatus (status : Status) {other : Nat} (known : state.HasRound other) :
    (state.setRoundStatus roundId status).roundStatus other =
      if other = roundId then status else state.roundStatus other := by
  unfold setRoundStatus
  rw [roundStatus_congr (roundStatuses_of_rounds (syncLegacyProjection_rounds _)),
    roundStatus_putRoundStatus status ((hasRound_ensureRound _ _ _).mpr (.inr known)),
    roundStatus_ensureRound]

theorem hasRound_supersedePriorRounds {current : Nat} :
    (state.supersedePriorRounds current).HasRound roundId ↔ state.HasRound roundId := by
  unfold supersedePriorRounds
  split
  · rfl
  · exact hasRound_supersedeRounds _

theorem roundStatus_supersedePriorRounds {current : Nat} (known : state.HasRound roundId) :
    (state.supersedePriorRounds current).roundStatus roundId =
      if 1 < current ∧ roundId < current ∧ state.roundStatus roundId ∉ roundClosed then
        .superseded
      else state.roundStatus roundId := by
  unfold supersedePriorRounds
  by_cases single : current ≤ 1
  · rw [if_pos single, if_neg (by omega)]
  · rw [if_neg single, roundStatus_supersedeRounds _ known]
    have several : 1 < current := by omega
    simp [several]

theorem hasRound_repairRounds :
    state.repairRounds.HasRound roundId ↔
      roundId ∈ state.artifactRoundIds ∨ state.HasRound roundId := by
  unfold repairRounds
  cases currentEquation : state.artifactRoundIds.max? with
  | none =>
      rw [List.max?_eq_none_iff] at currentEquation
      simp [currentEquation]
  | some current =>
      have member := List.max?_mem currentEquation
      rw [hasRound_setRoundStatus, hasRound_supersedePriorRounds, hasRound_ensureRounds,
        mem_sortedIds]
      constructor
      · rintro (rfl | known)
        · exact .inl member
        · exact known
      · exact .inr

theorem roundStatus_repairRounds (known : state.repairRounds.HasRound roundId) :
    state.repairRounds.roundStatus roundId = state.repairedRoundStatus roundId := by
  rw [hasRound_repairRounds] at known
  unfold repairRounds repairedRoundStatus
  cases currentEquation : state.artifactRoundIds.max? with
  | none => rfl
  | some current =>
      have currentKnown : (state.ensureRounds (sortedIds state.artifactRoundIds)).HasRound
          current := by
        rw [hasRound_ensureRounds, mem_sortedIds]
        exact .inl (List.max?_mem currentEquation)
      have ensuredKnown : (state.ensureRounds (sortedIds state.artifactRoundIds)).HasRound
          roundId := by
        rw [hasRound_ensureRounds, mem_sortedIds]
        exact known
      have priorStatus : ((state.ensureRounds (sortedIds state.artifactRoundIds)).supersedePriorRounds
          current).status = state.status := by
        unfold supersedePriorRounds
        split <;> simp [supersedeRounds]
      rw [roundStatus_setRoundStatus _ (hasRound_supersedePriorRounds.mpr ensuredKnown),
        roundStatus_supersedePriorRounds currentKnown,
        roundStatus_supersedePriorRounds ensuredKnown, roundStatus_ensureRounds,
        roundStatus_ensureRounds, priorStatus]
      simp only [lt_irrefl, false_and, and_false, ↓reduceIte]
      by_cases isCurrent : roundId = current
      · subst isCurrent
        rfl
      · simp only [isCurrent, ↓reduceIte]

theorem latestRoundId_repairRounds (nonempty : state.rounds.rows ≠ []) :
    state.repairRounds.latestRoundId 1 = state.repairedLatestRound := by
  have latestKnown := hasRound_latestRoundId nonempty 1
  refine latestRoundId_eq_of_greatest 1 ?_ ?_
  · rw [hasRound_repairRounds]
    unfold repairedLatestRound
    cases currentEquation : state.artifactRoundIds.max? with
    | none => simpa using .inr latestKnown
    | some current =>
        simp only [Option.getD_some]
        rcases max_choice (state.latestRoundId 1) current with stored | named
        · rw [stored]
          exact .inr latestKnown
        · rw [named]
          exact .inl (List.max?_mem currentEquation)
  · intro other known
    rw [hasRound_repairRounds] at known
    unfold repairedLatestRound
    rcases known with named | stored
    · cases currentEquation : state.artifactRoundIds.max? with
      | none =>
          rw [List.max?_eq_none_iff] at currentEquation
          rw [currentEquation] at named
          cases named
      | some current =>
          exact le_max_of_le_right ((List.max?_eq_some_iff.mp currentEquation).2 other named)
    · exact le_max_of_le_left (le_latestRoundId stored 1)

theorem repairRounds_attempts (state : TaskState) :
    state.repairRounds.attempts.rows = state.attempts.rows.map fun row =>
      if state.ClosedByRepair row then { row with status := .superseded, updatedAt := state.now }
      else row := by
  have untouched : (∀ row, ¬ state.ClosedByRepair row) →
      (state.attempts.rows.map fun row =>
        if state.ClosedByRepair row then
          { row with status := Status.superseded, updatedAt := state.now }
        else row) = state.attempts.rows := by
    intro never
    simp [never]
  unfold repairRounds
  cases currentEquation : state.artifactRoundIds.max? with
  | none => exact (untouched (by simp [ClosedByRepair, currentEquation])).symm
  | some current =>
      simp only [setRoundStatus_attempts]
      unfold supersedePriorRounds
      by_cases single : current ≤ 1
      · rw [if_pos single, ensureRounds_attempts]
        refine (untouched ?_).symm
        rintro row ⟨other, otherEquation, several, _⟩
        rw [currentEquation] at otherEquation
        cases otherEquation
        omega
      · rw [if_neg single]
        have several : 1 < current := by omega
        simp [supersedeRounds, AttemptTable.modify, ClosedByRepair, currentEquation, several]

structure ReplaySettled (state : TaskState) : Prop where
  closed : ∀ row ∈ state.attempts.rows, ¬ state.ClosedByRepair row
  inert : ∀ artifact ∈ state.artifacts.rows,
    state.attempts.ReplaysInertly state.repairedRoundStatus state.repairedLatestRound artifact

theorem advances_of_closedByRepair (roundStatus : Nat → Status)
    {row : Attempt} (member : row ∈ state.attempts.rows) (closed : state.ClosedByRepair row) :
    Advances roundStatus state.attemptViews state.repairRounds.attemptViews := by
  unfold attemptViews
  rw [repairRounds_attempts]
  refine .inr ⟨by simp, .inr ⟨?_, ?_⟩⟩
  · simp only [List.map_map]
    refine congrArg List.sum (List.map_congr_left ?_)
    intro other _
    simp only [Function.comp_apply]
    split <;> rfl
  · have unclosed : ∀ other, state.ClosedByRepair other → other.status ≠ .superseded := by
      rintro other ⟨_, _, _, _, unclosed⟩ superseded
      exact unclosed (by simp [superseded, attemptClosed])
    simp only [List.map_map]
    refine List.sum_lt_sum _ _ ?_ ⟨row, member, ?_⟩
    · intro other _
      simp only [Function.comp_apply]
      split
      · rename_i otherClosed
        exact le_of_lt (lt_of_lt_of_eq (rank_lt roundStatus (unclosed other otherClosed))
          (rank_superseded roundStatus rfl).symm)
      · exact le_rfl
    · simp only [Function.comp_apply, closed, ↓reduceIte]
      exact lt_of_lt_of_eq (rank_lt roundStatus (unclosed row closed))
        (rank_superseded roundStatus rfl).symm

theorem knownRound_repairRounds (nonempty : state.rounds.rows ≠ []) :
    ∀ artifact ∈ state.artifacts.rows,
      state.repairRounds.HasRound (state.repairRounds.artifactRound artifact.payload) := by
  intro artifact member
  unfold artifactRound
  split
  · refine hasRound_latestRoundId ?_ 1
    intro empty
    have latestKnown := hasRound_repairRounds.mpr (.inr (hasRound_latestRoundId nonempty 1))
    simp [HasRound, roundStatuses, empty] at latestKnown
  · rename_i explicit
    rw [hasRound_repairRounds]
    refine .inl (List.mem_filter.mpr ⟨List.mem_map.mpr ⟨artifact, member, rfl⟩, ?_⟩)
    simpa using Nat.pos_of_ne_zero explicit

theorem attemptViews_backfillTask_iff (nonempty : state.rounds.rows ≠ []) :
    state.backfillTask.attemptViews = state.attemptViews ↔ state.ReplaySettled := by
  have replayed := replay_inert_or_advances state.artifacts.rows state.repairRounds
    state.artifacts.ascending (fun artifact member => (state.artifacts.bounded artifact member).1)
    (knownRound_repairRounds nonempty)
  have backfilled : state.backfillTask.attemptViews =
      (state.artifacts.rows.foldl observeArtifact state.repairRounds).attemptViews := by
    unfold backfillTask repairTaskFromArtifacts replayArtifacts
    rw [if_neg nonempty, repairRounds_artifacts]
    rfl
  rw [backfilled]
  by_cases closing : ∃ row ∈ state.attempts.rows, state.ClosedByRepair row
  · obtain ⟨row, member, closed⟩ := closing
    have repaired := advances_of_closedByRepair state.repairRounds.roundStatus member closed
    refine iff_of_false ?_ fun settled => settled.closed row member closed
    rcases replayed with ⟨_, same⟩ | ⟨_, advances⟩
    · rw [same]
      exact repaired.ne
    · exact (repaired.trans advances).ne
  · push Not at closing
    have sameRows : state.repairRounds.attempts.rows = state.attempts.rows := by
      rw [repairRounds_attempts]
      conv_rhs => rw [← List.map_id state.attempts.rows]
      exact List.map_congr_left fun row member => if_neg (closing row member)
    have sameAttempts : state.repairRounds.attempts = state.attempts := by
      cases repaired : state.repairRounds.attempts
      cases stored : state.attempts
      simpa [repaired, stored] using sameRows
    have sameViews : state.repairRounds.attemptViews = state.attemptViews := by
      unfold attemptViews
      rw [sameRows]
    have sameVerdicts : (∀ artifact ∈ state.artifacts.rows,
        state.repairRounds.ReplaysInertly artifact) ↔ state.ReplaySettled := by
      have each : ∀ artifact ∈ state.artifacts.rows,
          (state.repairRounds.ReplaysInertly artifact ↔
            state.attempts.ReplaysInertly state.repairedRoundStatus state.repairedLatestRound
              artifact) := by
        intro artifact member
        unfold ReplaysInertly AttemptTable.ReplaysInertly
        have known := knownRound_repairRounds nonempty artifact member
        have sameRound : state.repairRounds.artifactRound artifact.payload =
            replayRound state.repairedLatestRound artifact.payload := by
          unfold artifactRound replayRound
          rw [latestRoundId_repairRounds nonempty]
        rw [sameRound] at known
        rw [sameAttempts, latestRoundId_repairRounds nonempty, roundStatus_repairRounds known]
      constructor
      · intro all
        exact ⟨closing, fun artifact member => (each artifact member).mp (all artifact member)⟩
      · intro settled artifact member
        exact (each artifact member).mpr (settled.inert artifact member)
    rw [← sameVerdicts]
    rw [sameViews] at replayed
    rcases replayed with ⟨all, same⟩ | ⟨some, advances⟩
    · exact iff_of_true same all
    · exact iff_of_false advances.ne some

instance (state : TaskState) : Decidable state.ReplaySettled :=
  decidable_of_iff
    ((∀ row ∈ state.attempts.rows, ¬ state.ClosedByRepair row) ∧
      ∀ artifact ∈ state.artifacts.rows,
        state.attempts.ReplaysInertly state.repairedRoundStatus state.repairedLatestRound artifact)
    ⟨fun both => ⟨both.1, both.2⟩, fun settled => ⟨settled.closed, settled.inert⟩⟩

/-- In every reachable state, a replay leaves the attempts as they are exactly
when the state is settled. -/
theorem replay_keeps_attempts_iff (start : Nat) (ops : List StoreOp) :
    (after start ops).backfillTask.attemptViews = (after start ops).attemptViews ↔
      (after start ops).ReplaySettled := by
  refine attemptViews_backfillTask_iff ?_
  intro empty
  have known := hasRound_one_after start ops
  simp [HasRound, roundStatuses, empty] at known

/-- A tester fails twice in one attempt and is retried after the block: the
replay books the first error, whose link the second one overwrote, on the new
attempt. -/
theorem replay_rebooks_overwritten_error :
    let state := after 0
      [.updateRoleStatus .tester .queued, .saveArtifact (some .tester) .roleError {},
        .saveArtifact (some .tester) .roleError {}, .updateRoleStatus .tester .blocked,
        .updateRoleStatus .tester .queued]
    state.backfillTask.attemptViews ≠ state.attemptViews := by
  decide +kernel

end TaskState

end Wlcodex.Relay
