import Mathlib.Data.List.Pairwise
import Wlcodex.Relay.Vocabulary

namespace Wlcodex.Relay

/-! Durable ownership of provider completions: the table `relay_completion_event_claims` of one
task. -/

/-- `agent:<run>` or `runtime:<event>`. -/
inductive EventKey where
  | agent (runId : Nat)
  | runtime (eventId : Nat)
  deriving DecidableEq, Repr

inductive ClaimStatus where
  | claimed
  | applied
  | ignoredStale
  deriving DecidableEq, Repr

structure ClaimRow where
  eventKey : EventKey
  /-- Zero where the claim names no runtime event. -/
  runtimeEventId : Nat
  agentRunId : Option Nat
  role : Role
  claimedRoundId : Nat
  status : ClaimStatus
  artifactId : Option Nat
  claimedAt : Nat
  updatedAt : Nat
  deriving DecidableEq, Repr

namespace ClaimRow

def Distinct (first second : ClaimRow) : Prop :=
  first.eventKey ≠ second.eventKey ∧
    (first.runtimeEventId = 0 ∨ first.runtimeEventId ≠ second.runtimeEventId) ∧
    (first.agentRunId = none ∨ first.agentRunId ≠ second.agentRunId)

instance : DecidableRel Distinct := fun first second =>
  inferInstanceAs (Decidable (first.eventKey ≠ second.eventKey ∧ _ ∧ _))

variable {first second : ClaimRow}

theorem Distinct.symm
    (distinct : Distinct first second) : Distinct second first := by
  unfold Distinct at distinct ⊢
  grind

instance : Std.Symm Distinct := ⟨fun _ _ => Distinct.symm⟩

def Keyed (row : ClaimRow) : Prop :=
  match row.eventKey with
  | .agent run => row.agentRunId = some run
  | .runtime event => 0 < event ∧ row.runtimeEventId = event

instance : DecidablePred Keyed := fun row => by
  unfold Keyed
  cases row.eventKey <;> infer_instance

end ClaimRow

structure ClaimTable where
  rows : List ClaimRow
  unique : rows.Pairwise ClaimRow.Distinct
  keyed : ∀ row ∈ rows, row.Keyed
  deriving DecidableEq

inductive IntegrityError where
  | uniqueIndex
  deriving DecidableEq, Repr

namespace ClaimTable

def empty : ClaimTable where
  rows := []
  unique := .nil
  keyed := by simp

theorem distinct_of_mem (table : ClaimTable)
    (firstMember : first ∈ table.rows) (secondMember : second ∈ table.rows)
    (different : first ≠ second) : ClaimRow.Distinct first second :=
  table.unique.forall firstMember secondMember different

theorem eq_of_eventKey_eq (table : ClaimTable)
    (firstMember : first ∈ table.rows) (secondMember : second ∈ table.rows)
    (sameKey : first.eventKey = second.eventKey) : first = second := by
  by_contra different
  exact (table.distinct_of_mem firstMember secondMember different).1 sameKey

/-- `INSERT INTO relay_completion_event_claims`. -/
def insert? (table : ClaimTable) (row : ClaimRow) (rowKeyed : row.Keyed) :
    Except IntegrityError ClaimTable :=
  if fresh : ∀ stored ∈ table.rows, ClaimRow.Distinct row stored then
    .ok {
      rows := row :: table.rows
      unique := .cons fresh table.unique
      keyed := by
        intro stored member
        rcases List.mem_cons.mp member with rfl | member
        · exact rowKeyed
        · exact table.keyed stored member }
  else
    .error .uniqueIndex

/-- An `UPDATE` that keeps every key consistent; the unique indexes may still
refuse the new ids. -/
def update? (table : ClaimTable) (change : ClaimRow → ClaimRow)
    (changeKeyed : ∀ row, row.Keyed → (change row).Keyed) :
    Except IntegrityError ClaimTable :=
  if unique : (table.rows.map change).Pairwise ClaimRow.Distinct then
    .ok {
      rows := table.rows.map change
      unique := unique
      keyed := by
        intro row member
        obtain ⟨stored, storedMember, rfl⟩ := List.mem_map.mp member
        exact changeKeyed stored (table.keyed stored storedMember) }
  else
    .error .uniqueIndex

/-- An `UPDATE` of columns that no index covers. -/
def updateUnindexed (table : ClaimTable) (change : ClaimRow → ClaimRow)
    (sameKey : ∀ row, (change row).eventKey = row.eventKey)
    (sameEvent : ∀ row, (change row).runtimeEventId = row.runtimeEventId)
    (sameRun : ∀ row, (change row).agentRunId = row.agentRunId) : ClaimTable where
  rows := table.rows.map change
  unique := by
    rw [List.pairwise_map]
    refine table.unique.imp ?_
    intro first second distinct
    unfold ClaimRow.Distinct
    rw [sameKey, sameKey, sameEvent, sameEvent, sameRun, sameRun]
    exact distinct
  keyed := by
    intro row member
    obtain ⟨stored, storedMember, rfl⟩ := List.mem_map.mp member
    have storedKeyed := table.keyed stored storedMember
    unfold ClaimRow.Keyed at storedKeyed ⊢
    rw [sameKey, sameEvent, sameRun]
    exact storedKeyed

/-- `DELETE ... WHERE`. -/
def delete (table : ClaimTable) (doomed : ClaimRow → Bool) : ClaimTable where
  rows := table.rows.filter fun row => !doomed row
  unique := table.unique.filter _
  keyed := fun row member => table.keyed row (List.mem_of_mem_filter member)

end ClaimTable

/-- The immutable identity of one completion, as a claim call cleans it: the
event id is zero when absent, the run id is positive when present. -/
structure Identity where
  eventId : Nat
  runId : Option Nat
  deriving DecidableEq, Repr

namespace Identity

def ofCall (runtimeEventId : Int) (agentRunId : Option Int) : Identity where
  eventId := runtimeEventId.toNat
  runId := (agentRunId.filter fun run => 0 < run).map Int.toNat

/-- `_completion_event_key`; `none` is the empty text. -/
def eventKey? (identity : Identity) : Option EventKey :=
  match identity.runId with
  | some run => some (.agent run)
  | none => if 0 < identity.eventId then some (.runtime identity.eventId) else none

def SharesId (identity : Identity) (row : ClaimRow) : Prop :=
  (0 < identity.eventId ∧ row.runtimeEventId = identity.eventId) ∨
    (identity.runId ≠ none ∧ row.agentRunId = identity.runId)

instance (identity : Identity) : DecidablePred identity.SharesId := fun _ =>
  inferInstanceAs (Decidable ((_ ∧ _) ∨ (_ ∧ _)))

/-- The `WHERE` clause shared by every statement on the claim table. -/
def Selects (identity : Identity) (row : ClaimRow) : Prop :=
  identity.eventKey? = some row.eventKey ∨ identity.SharesId row

instance (identity : Identity) : DecidablePred identity.Selects := fun _ =>
  inferInstanceAs (Decidable (_ ∨ _))

theorem selects_iff_sharesId {identity : Identity} {row : ClaimRow}
    (keyed : row.Keyed) : identity.Selects row ↔ identity.SharesId row := by
  constructor
  · rintro (sameKey | shares)
    · unfold ClaimRow.Keyed at keyed
      unfold eventKey? at sameKey
      unfold SharesId
      cases runEquation : identity.runId with
      | some run =>
          simp only [runEquation, Option.some.injEq] at sameKey
          rw [← sameKey] at keyed
          exact .inr ⟨by simp, keyed⟩
      | none =>
          simp only [runEquation] at sameKey
          split at sameKey
          · rename_i positive
            simp only [Option.some.injEq] at sameKey
            rw [← sameKey] at keyed
            exact .inl ⟨positive, keyed.2⟩
          · cases sameKey
    · exact shares
  · exact .inr

end Identity

/-- `ORDER BY claimed_at ASC LIMIT 1`. -/
def oldest? : List ClaimRow → Option ClaimRow
  | [] => none
  | row :: rest =>
      match oldest? rest with
      | none => some row
      | some other => if other.claimedAt < row.claimedAt then some other else some row

variable {row : ClaimRow}

theorem oldest?_mem {rows : List ClaimRow}
    (picked : oldest? rows = some row) : row ∈ rows := by
  induction rows generalizing row with
  | nil => simp [oldest?] at picked
  | cons head rest ih =>
      simp only [oldest?] at picked
      cases restPicked : oldest? rest with
      | none =>
          simp only [restPicked, Option.some.injEq] at picked
          simp [picked]
      | some other =>
          simp only [restPicked] at picked
          split at picked
          · cases picked
            exact List.mem_cons_of_mem head (ih restPicked)
          · cases picked
            simp

theorem oldest?_eq_none_iff {rows : List ClaimRow} : oldest? rows = none ↔ rows = [] := by
  cases rows with
  | nil => simp [oldest?]
  | cons head rest =>
      simp only [oldest?]
      cases oldest? rest with
      | none => simp
      | some other => grind

def pickRow? (table : ClaimTable) (identity : Identity) : Option ClaimRow :=
  match table.rows.find? fun row => identity.eventKey? = some row.eventKey with
  | some row => some row
  | none => oldest? (table.rows.filter fun row => identity.Selects row)

variable {table : ClaimTable} {identity : Identity}

theorem pickRow?_mem
    (picked : pickRow? table identity = some row) : row ∈ table.rows := by
  unfold pickRow? at picked
  split at picked
  · rename_i found foundEquation
    cases picked
    exact List.mem_of_find?_eq_some foundEquation
  · exact List.mem_of_mem_filter (oldest?_mem picked)

theorem pickRow?_selects
    (picked : pickRow? table identity = some row) : identity.Selects row := by
  unfold pickRow? at picked
  split at picked
  · rename_i found foundEquation
    cases picked
    exact .inl (by simpa using List.find?_some foundEquation)
  · simpa using List.of_mem_filter (oldest?_mem picked)

theorem pickRow?_eq_none_iff :
    pickRow? table identity = none ↔ ∀ row ∈ table.rows, ¬ identity.Selects row := by
  constructor
  · intro nonePicked row member selects
    unfold pickRow? at nonePicked
    split at nonePicked
    · cases nonePicked
    · rw [oldest?_eq_none_iff, List.filter_eq_nil_iff] at nonePicked
      exact nonePicked row member (by simpa using selects)
  · intro unselected
    cases picked : pickRow? table identity with
    | none => rfl
    | some row =>
        exact absurd (pickRow?_selects picked) (unselected row (pickRow?_mem picked))

/-- `RelayCompletionEventClaim`. -/
structure CompletionEventClaim where
  eventKey : Option EventKey
  runtimeEventId : Nat
  agentRunId : Option Nat
  role : Role
  claimedRoundId : Nat
  acquired : Bool
  alreadyApplied : Bool
  recovered : Bool
  deriving DecidableEq, Repr

/-- `now - timedelta(seconds=max(1, lease_seconds))`. -/
def claimCutoff (now : Nat) (leaseSeconds : Int) : Int :=
  now - max 1 leaseSeconds * 1000000

def ClaimRow.Expired (row : ClaimRow) (now : Nat) (leaseSeconds : Int) : Prop :=
  row.status = .claimed ∧ (row.updatedAt : Int) < claimCutoff now leaseSeconds

instance (row : ClaimRow) (now : Nat) (leaseSeconds : Int) :
    Decidable (row.Expired now leaseSeconds) :=
  inferInstanceAs (Decidable (_ ∧ _))

/-- The recovery `UPDATE`: only missing ids are filled. -/
def ClaimRow.recover (row : ClaimRow) (identity : Identity) (now : Nat) : ClaimRow :=
  { row with
    runtimeEventId :=
      if 0 < row.runtimeEventId then row.runtimeEventId else identity.eventId
    agentRunId := row.agentRunId.or identity.runId
    status := .claimed
    claimedAt := now
    updatedAt := now }

theorem ClaimRow.recover_keyed (row : ClaimRow) (identity : Identity) (now : Nat)
    (keyed : row.Keyed) : (row.recover identity now).Keyed := by
  unfold ClaimRow.Keyed ClaimRow.recover at *
  cases keyEquation : row.eventKey with
  | agent run =>
      simp only [keyEquation] at keyed ⊢
      simp [keyed]
  | runtime event =>
      grind

theorem Identity.Selects.recover (now : Nat)
    (selects : identity.Selects row) : identity.Selects (row.recover identity now) := by
  unfold ClaimRow.recover
  rcases selects with sameKey | ⟨positive, sameEvent⟩ | ⟨named, sameRun⟩
  · exact .inl sameKey
  · refine .inr (.inl ⟨positive, ?_⟩)
    simp [sameEvent]
  · refine .inr (.inr ⟨named, ?_⟩)
    simp [sameRun]

def newClaimRow (identity : Identity) (key : EventKey) (role : Role) (roundId : Nat)
    (now : Nat) : ClaimRow where
  eventKey := key
  runtimeEventId := identity.eventId
  agentRunId := identity.runId
  role := role
  claimedRoundId := roundId
  status := .claimed
  artifactId := none
  claimedAt := now
  updatedAt := now

theorem newClaimRow_keyed {key : EventKey} (role : Role)
    (roundId now : Nat) (keyEquation : identity.eventKey? = some key) :
    (newClaimRow identity key role roundId now).Keyed := by
  unfold ClaimRow.Keyed newClaimRow
  unfold Identity.eventKey? at keyEquation
  cases runEquation : identity.runId with
  | some run =>
      simp only [runEquation, Option.some.injEq] at keyEquation
      subst key
      rfl
  | none =>
      simp only [runEquation] at keyEquation
      split at keyEquation
      · rename_i positive
        simp only [Option.some.injEq] at keyEquation
        subst key
        exact ⟨positive, rfl⟩
      · cases keyEquation

/-- `claim_completion_event_result`.  One `BEGIN IMMEDIATE` transaction; a
refused write rolls back and raises. -/
def claimCompletionEventResult (table : ClaimTable) (now : Nat) (roundId : Int)
    (role : Option Role) (runtimeEventId : Int) (agentRunId : Option Int) (leaseSeconds : Int) :
    Except IntegrityError (CompletionEventClaim × ClaimTable) :=
  let identity := Identity.ofCall runtimeEventId agentRunId
  let cleanRole := role.getD .director
  let claimedRoundId := (max 1 roundId).toNat
  match keyEquation : identity.eventKey? with
  | none =>
      .ok ({
        eventKey := none
        runtimeEventId := identity.eventId
        agentRunId := identity.runId
        role := cleanRole
        claimedRoundId := claimedRoundId
        acquired := true
        alreadyApplied := false
        recovered := false }, table)
  | some key =>
      match pickRow? table identity with
      | none =>
          (table.insert? (newClaimRow identity key cleanRole claimedRoundId now)
            (newClaimRow_keyed cleanRole claimedRoundId now keyEquation)).map fun next =>
            ({
              eventKey := some key
              runtimeEventId := identity.eventId
              agentRunId := identity.runId
              role := cleanRole
              claimedRoundId := claimedRoundId
              acquired := true
              alreadyApplied := false
              recovered := false }, next)
      | some row =>
          let answer : CompletionEventClaim := {
            eventKey := some row.eventKey
            runtimeEventId :=
              if 0 < row.runtimeEventId then row.runtimeEventId else identity.eventId
            agentRunId := row.agentRunId.or identity.runId
            role := row.role
            claimedRoundId := row.claimedRoundId
            acquired := false
            alreadyApplied := false
            recovered := false }
          if row.status ≠ .claimed then
            .ok ({ answer with alreadyApplied := true }, table)
          else if claimCutoff now leaseSeconds ≤ row.updatedAt then
            .ok (answer, table)
          else
            (table.update?
              (fun stored =>
                if stored.eventKey = row.eventKey then stored.recover identity now else stored)
              (by
                intro stored keyed
                split
                · exact stored.recover_keyed identity now keyed
                · exact keyed)).map fun next =>
              ({ answer with acquired := true, recovered := true }, next)

def markCompletionEventApplied (table : ClaimTable) (now : Nat) (runtimeEventId : Int)
    (agentRunId : Option Int) (artifactId : Option Nat) : ClaimTable :=
  table.updateUnindexed
    (fun row =>
      if (Identity.ofCall runtimeEventId agentRunId).Selects row then
        { row with
          status := .applied
          artifactId := artifactId.or row.artifactId
          updatedAt := now }
      else row)
    (by intro row; split <;> rfl) (by intro row; split <;> rfl) (by intro row; split <;> rfl)

def markCompletionEventIgnoredStale (table : ClaimTable) (now : Nat) (runtimeEventId : Int)
    (agentRunId : Option Int) : ClaimTable :=
  table.updateUnindexed
    (fun row =>
      if row.status = .claimed ∧ (Identity.ofCall runtimeEventId agentRunId).Selects row then
        { row with status := .ignoredStale, updatedAt := now }
      else row)
    (by intro row; split <;> rfl) (by intro row; split <;> rfl) (by intro row; split <;> rfl)

def releaseCompletionEventClaim (table : ClaimTable) (runtimeEventId : Int)
    (agentRunId : Option Int) : ClaimTable :=
  table.delete fun row =>
    row.status = .claimed ∧ (Identity.ofCall runtimeEventId agentRunId).Selects row

end Wlcodex.Relay
