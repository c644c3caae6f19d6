import Wlcodex.Relay.Journal
import Wlcodex.Relay.Ledgers
import Wlcodex.Relay.Routing

namespace Wlcodex.Relay

/-! The rounds of a task that only its service works on. -/

namespace TaskState

/-- A round table whose current round has this status: the rounds are counted
from one, and all before the current one are closed. -/
structure InOrder (mode : ExecutionMode) (roundId : Nat) (status : Status)
    (contracts : List (Nat × Status × ExecutionMode)) : Prop where
  ids : ∀ other, other ∈ contracts.map Prod.fst ↔ 0 < other ∧ other ≤ roundId
  active : (roundId, status, mode) ∈ contracts
  open_ : status ≠ .superseded
  prior : ∀ entry ∈ contracts, entry.2.2 = mode ∧
    (entry.1 = roundId ∨ entry.2.1 ∈ roundClosed)

def Filed (speaks : Nat → Role → Prop) (state : TaskState) (artifact : Artifact) : Prop :=
  0 < artifact.payload.explicitRound ∧ state.HasRound artifact.payload.explicitRound ∧
    (artifact.type ∈ ArtifactType.booked → ∀ role ∈ artifact.payload.actor,
      speaks artifact.payload.explicitRound role)

structure Current (mode : ExecutionMode) (speaks : Nat → Role → Prop) (roundId : Nat)
    (state : TaskState) : Prop where
  order : InOrder mode roundId state.status state.contracts
  filed : ∀ artifact ∈ state.artifacts.rows, state.Filed speaks artifact
  voices : ∀ row ∈ state.attempts.rows, speaks row.roundId row.role

/-- The statuses that a call of the service writes: of attempts, those of roles
that may speak; of rounds, those of `moves`. -/
def Spoken (speaks : Nat → Role → Prop) (moves : Status → Prop) : StatusWrite → Prop
  | .round _ status => moves status
  | .attempt roundId role _ _ => speaks roundId role

variable {mode : ExecutionMode} {speaks : Nat → Role → Prop} {roundId : Nat} {status : Status}
  {moves : Status → Prop} {state : TaskState}

theorem find?_of_contract {other : Nat} {otherStatus : Status} {otherMode : ExecutionMode}
    (member : (other, otherStatus, otherMode) ∈ state.contracts) :
    ∃ row, state.rounds.find? other = some row ∧ row.status = otherStatus ∧
      row.executionMode = otherMode := by
  obtain ⟨row, rowMember, rowEquation⟩ := List.mem_map.mp member
  cases rowEquation
  exact ⟨row, RoundTable.find?_of_mem rowMember, rfl, rfl⟩

variable {next : TaskState} {other : Nat} {artifact : Artifact}

theorem contract_of_hasRound (known : state.HasRound other) :
    ∃ otherMode, (other, state.roundStatus other, otherMode) ∈ state.contracts := by
  obtain ⟨row, found⟩ := hasRound_iff.mp known
  have named := RoundTable.roundId_of_find? found
  refine ⟨row.executionMode,
    List.mem_map.mpr ⟨row, List.mem_of_find?_eq_some found, ?_⟩⟩
  simp only [roundStatus, found, named]

namespace InOrder

variable (order : InOrder mode roundId status state.contracts)
include order

theorem hasRound : state.HasRound roundId := by
  obtain ⟨row, found, _⟩ := find?_of_contract order.active
  exact hasRound_iff.mpr ⟨row, found⟩

theorem roundStatus_eq : state.roundStatus roundId = status := by
  obtain ⟨row, found, rowStatus, _⟩ := find?_of_contract order.active
  simp only [roundStatus, found, rowStatus]

theorem hasRound_iff_le :
    state.HasRound other ↔ 0 < other ∧ other ≤ roundId := by
  rw [← order.ids other]
  constructor
  · intro known
    obtain ⟨otherMode, member⟩ := contract_of_hasRound known
    exact List.mem_map.mpr ⟨_, member, rfl⟩
  · intro member
    obtain ⟨⟨named, otherStatus, otherMode⟩, entryMember, rfl⟩ := List.mem_map.mp member
    obtain ⟨row, found, _⟩ := find?_of_contract entryMember
    exact hasRound_iff.mpr ⟨row, found⟩

theorem positive : 0 < roundId := (order.hasRound_iff_le.mp order.hasRound).1

theorem le_of_hasRound (known : state.HasRound other) : other ≤ roundId :=
  (order.hasRound_iff_le.mp known).2

theorem closed (known : state.HasRound other) (different : other ≠ roundId) :
    state.roundStatus other ∈ roundClosed := by
  obtain ⟨otherMode, member⟩ := contract_of_hasRound known
  rcases (order.prior _ member).2 with same | closed
  · exact absurd same different
  · exact closed

theorem activeRoundId (fallback : Nat) : state.activeRoundId fallback = roundId := by
  have greatest : ((state.roundStatuses.filter fun entry =>
      entry.2 ≠ .superseded).map Prod.fst).max? = some roundId := by
    rw [List.max?_eq_some_iff]
    constructor
    · have known := order.hasRound
      obtain ⟨row, found, rowStatus, _⟩ := find?_of_contract order.active
      have named := RoundTable.roundId_of_find? found
      refine List.mem_map.mpr ⟨(row.roundId, row.status), ?_, named⟩
      refine List.mem_filter.mpr ⟨List.mem_map.mpr
        ⟨row, List.mem_of_find?_eq_some found, rfl⟩, ?_⟩
      simpa [rowStatus] using order.open_
    · intro other member
      obtain ⟨entry, entryMember, rfl⟩ := List.mem_map.mp member
      exact order.le_of_hasRound ⟨entry.2, (List.mem_filter.mp entryMember).1⟩
  rw [activeRoundId_eq, greatest]

theorem executionMode : (state.roundExecution roundId).executionMode = mode := by
  obtain ⟨row, found, _, rowMode⟩ := find?_of_contract order.active
  simp only [roundExecution, found, Option.getD_some, rowMode]

theorem rows_ne_nil : state.rounds.rows ≠ [] := by
  intro empty
  have active := order.active
  simp [contracts, empty] at active

theorem syncLegacyProjection_status : state.syncLegacyProjection.status = status := by
  change state.roundStatus (state.activeRoundId 1) = status
  rw [order.activeRoundId, order.roundStatus_eq]

end InOrder

namespace Current

variable (current : Current mode speaks roundId state)
include current

theorem detailRoundId : state.detailRoundId = roundId := current.order.activeRoundId _

theorem known (member : artifact ∈ state.artifacts.rows) :
    state.HasRound artifact.payload.explicitRound := (current.filed artifact member).2.1

end Current

theorem Filed.congr (same : next.contracts = state.contracts) (filed : state.Filed speaks artifact) :
    next.Filed speaks artifact :=
  ⟨filed.1, (hasRound_congr (roundStatuses_of_contracts same) _).mpr filed.2.1, filed.2.2⟩

theorem Current.voices_of_extends (current : Current mode speaks roundId state)
    (writes : Extends (Spoken speaks moves) state next) :
    ∀ row ∈ next.attempts.rows, speaks row.roundId row.role := by
  intro row member
  rcases writes.attempts row member with ⟨old, oldMember, sameRound, sameRole⟩ | ⟨_, _, spoken⟩
  · rw [← sameRound, ← sameRole]
    exact current.voices old oldMember
  · exact spoken

theorem Current.congr (current : Current mode speaks roundId state)
    (contracts : next.contracts = state.contracts) (status : next.status = state.status)
    (artifacts : next.artifacts = state.artifacts)
    (writes : Extends (Spoken speaks moves) state next) : Current mode speaks roundId next where
  order := by
    rw [contracts, status]
    exact current.order
  filed artifact member := by
    rw [artifacts] at member
    exact (current.filed artifact member).congr contracts
  voices := current.voices_of_extends writes

theorem ensureRound_of_hasRound (known : state.HasRound other)
    (trigger : TriggerKind) : state.ensureRound other trigger none = state := by
  have sameRounds := ensureRound_rounds_of_hasRound known trigger
  obtain ⟨row, found⟩ := hasRound_iff.mp known
  unfold ensureRound at sameRounds ⊢
  simp only [found] at sameRounds ⊢
  unfold modifyRound at sameRounds ⊢
  simp only at sameRounds
  rw [sameRounds]

theorem ensureRounds_of_hasRound {ids : List Nat} (known : ∀ id ∈ ids, state.HasRound id) :
    state.ensureRounds ids = state := by
  induction ids with
  | nil => rfl
  | cons head rest ih =>
      unfold ensureRounds at ih ⊢
      rw [List.foldl_cons, ensureRound_of_hasRound (known head List.mem_cons_self)]
      exact ih fun id member => known id (List.mem_cons_of_mem head member)

theorem putRoundStatus_same (known : state.HasRound other) :
    state.putRoundStatus other (state.roundStatus other) = state := by
  obtain ⟨row, found⟩ := hasRound_iff.mp known
  have statusEquation : state.roundStatus other = row.status := by
    simp only [roundStatus, found]
  have sameRows : (state.putRoundStatus other row.status).rounds.rows = state.rounds.rows := by
    conv_rhs => rw [← List.map_id state.rounds.rows]
    refine List.map_congr_left ?_
    intro stored member
    split
    · rename_i named
      have foundStored := RoundTable.find?_of_mem member
      rw [named, found] at foundStored
      cases foundStored
      rfl
    · rfl
  have sameRounds : (state.putRoundStatus other row.status).rounds = state.rounds := by
    cases written : (state.putRoundStatus other row.status).rounds
    cases stored : state.rounds
    simpa [written, stored] using sameRows
  rw [statusEquation]
  unfold putRoundStatus at sameRounds ⊢
  simp only [found, Option.any_some, ne_eq, not_true_eq_false, decide_false, Bool.false_eq_true,
    ↓reduceIte] at sameRounds ⊢
  rw [sameRounds]

theorem supersedeRounds_contracts {closing : Nat → Bool}
    (closed : ∀ other, closing other → state.HasRound other →
      state.roundStatus other ∈ roundClosed) :
    (state.supersedeRounds closing).contracts = state.contracts := by
  unfold contracts supersedeRounds RoundTable.modify
  simp only [List.map_map]
  refine List.map_congr_left ?_
  intro row member
  simp only [Function.comp_apply]
  split
  · rename_i reopened
    have found := RoundTable.find?_of_mem member
    have statusClosed := closed row.roundId reopened.1 (hasRound_iff.mpr ⟨row, found⟩)
    simp only [roundStatus, found] at statusClosed
    exact absurd statusClosed reopened.2
  · rfl

section Repair

variable (current : Current mode speaks roundId state)
include current

theorem Current.mem_artifactRoundIds (named : other ∈ state.artifactRoundIds) :
    state.HasRound other := by
  obtain ⟨artifact, member, rfl⟩ := List.mem_map.mp (List.mem_filter.mp named).1
  exact current.known member

theorem Current.supersedePriorRounds (moves : Status → Prop) {greatest : Nat}
    (known : state.HasRound greatest) :
    (state.supersedePriorRounds greatest).contracts = state.contracts ∧
      Extends (Spoken speaks moves) state (state.supersedePriorRounds greatest) := by
  have closed : ∀ other, other < greatest → state.HasRound other →
      state.roundStatus other ∈ roundClosed := by
    intro other earlier otherKnown
    have bound := current.order.le_of_hasRound known
    exact current.order.closed otherKnown (by omega)
  unfold TaskState.supersedePriorRounds
  split
  · exact ⟨rfl, .refl state⟩
  · constructor
    · exact supersedeRounds_contracts fun other closing otherKnown =>
        closed other (by simpa using closing) otherKnown
    · refine extends_supersedeRounds state _ ?_ current.voices
      intro other closing otherKnown reopened
      exact absurd (closed other (by simpa using closing) otherKnown) reopened

theorem Current.repairRounds (moves : Status → Prop) :
    state.repairRounds.contracts = state.contracts ∧
      Extends (Spoken speaks moves) state state.repairRounds := by
  unfold TaskState.repairRounds
  cases greatestEquation : state.artifactRoundIds.max? with
  | none => exact ⟨rfl, .refl state⟩
  | some greatest =>
      have known := current.mem_artifactRoundIds (List.max?_mem greatestEquation)
      have named : ∀ id ∈ sortedIds state.artifactRoundIds, state.HasRound id := fun id member =>
        current.mem_artifactRoundIds (mem_sortedIds.mp member)
      obtain ⟨sameContracts, writes⟩ := current.supersedePriorRounds moves known
      have sameStatuses := roundStatuses_of_contracts sameContracts
      have sameStatus : (state.supersedePriorRounds greatest).status = state.status := by
        unfold TaskState.supersedePriorRounds
        split <;> rfl
      have kept : (if state.roundStatus greatest ∈ Status.roundTerminal then
          state.roundStatus greatest else state.status) = state.roundStatus greatest := by
        split
        · rfl
        · rename_i running
          by_cases isCurrent : greatest = roundId
          · rw [isCurrent, current.order.roundStatus_eq]
          · have closed := current.order.closed known isCurrent
            refine absurd ?_ running
            simp only [roundClosed, List.mem_cons, List.not_mem_nil, or_false] at closed
            rcases closed with same | same | same | same <;> rw [same] <;> decide
      simp only
      rw [ensureRounds_of_hasRound named, roundStatus_congr sameStatuses, sameStatus, kept]
      have priorKnown := (hasRound_congr sameStatuses greatest).mpr known
      unfold setRoundStatus
      rw [ensureRound_of_hasRound priorKnown, ← roundStatus_congr sameStatuses,
        putRoundStatus_same priorKnown]
      exact ⟨sameContracts, writes.trans (extends_syncLegacyProjection _)⟩

end Repair

theorem observeArtifact_of_filed (moves : Status → Prop) (filed : state.Filed speaks artifact) :
    (state.observeArtifact artifact).contracts = state.contracts ∧
      Extends (Spoken speaks moves) state (state.observeArtifact artifact) := by
  obtain ⟨positive, known, voiced⟩ := filed
  have round : state.artifactRound artifact.payload = artifact.payload.explicitRound := by
    unfold artifactRound
    rw [if_neg (by omega)]
  constructor
  · refine observeArtifact_contracts ?_
    rw [round]
    exact known
  · refine extends_observeArtifact state artifact ?_ ?_
    · intro unknown
      rw [round] at unknown
      exact absurd known unknown
    · intro booked role actor attemptNo status
      rw [round]
      exact voiced booked role actor

theorem replay_of_filed (moves : Status → Prop) (artifacts : List Artifact)
    (state : TaskState) (filed : ∀ artifact ∈ artifacts, state.Filed speaks artifact) :
    (artifacts.foldl observeArtifact state).contracts = state.contracts ∧
      Extends (Spoken speaks moves) state (artifacts.foldl observeArtifact state) := by
  induction artifacts generalizing state with
  | nil => exact ⟨rfl, .refl state⟩
  | cons head rest ih =>
      obtain ⟨observedContracts, observed⟩ :=
        observeArtifact_of_filed moves (filed head List.mem_cons_self)
      obtain ⟨restContracts, restWrites⟩ := ih (state.observeArtifact head)
        fun artifact member =>
          (filed artifact (List.mem_cons_of_mem head member)).congr observedContracts
      exact ⟨restContracts.trans observedContracts, observed.trans restWrites⟩

/-- A call that leaves the current round where it is, writing only what `Spoken`
admits. -/
structure Stays (mode : ExecutionMode) (speaks : Nat → Role → Prop) (roundId : Nat)
    (moves : Status → Prop) (before after : TaskState) : Prop where
  current : Current mode speaks roundId after
  writes : Extends (Spoken speaks moves) before after

theorem Stays.trans {middle after : TaskState} (first : Stays mode speaks roundId moves state middle)
    (second : Stays mode speaks roundId moves middle after) :
    Stays mode speaks roundId moves state after :=
  ⟨second.current, first.writes.trans second.writes⟩

theorem Current.stays_of {nextRound : Nat} (current : Current mode speaks roundId state)
    (order : InOrder mode nextRound next.status next.contracts)
    (filed : ∀ artifact ∈ next.artifacts.rows, next.Filed speaks artifact)
    (writes : Extends (Spoken speaks moves) state next) :
    Stays mode speaks nextRound moves state next :=
  ⟨⟨order, filed, current.voices_of_extends writes⟩, writes⟩

theorem Current.stays_of_sync {nextRound : Nat}
    (current : Current mode speaks roundId state) (order : InOrder mode nextRound status next.contracts)
    (filed : ∀ artifact ∈ next.artifacts.rows, next.Filed speaks artifact)
    (writes : Extends (Spoken speaks moves) state next) :
    Stays mode speaks nextRound moves state next.syncLegacyProjection := by
  refine current.stays_of ?_ filed (writes.trans (extends_syncLegacyProjection next))
  rw [order.syncLegacyProjection_status]
  exact order

section Calls

variable (current : Current mode speaks roundId state)
include current

theorem Current.refl : Stays mode speaks roundId moves state state := ⟨current, .refl state⟩

theorem Current.stays (rounds : next.rounds = state.rounds)
    (status : next.status = state.status) (artifacts : next.artifacts = state.artifacts)
    (writes : Extends (Spoken speaks moves) state next) :
    Stays mode speaks roundId moves state next :=
  ⟨current.congr (contracts_of_rounds rounds) status artifacts writes, writes⟩

theorem Current.backfillTask : Stays mode speaks roundId moves state state.backfillTask := by
  obtain ⟨repaired, repairWrites⟩ := current.repairRounds moves
  have filed : ∀ artifact ∈ state.artifacts.rows, state.repairRounds.Filed speaks artifact :=
    fun artifact member => (current.filed artifact member).congr repaired
  obtain ⟨replayed, replayWrites⟩ := replay_of_filed moves _ _ filed
  have unfolded : state.backfillTask =
      (state.artifacts.rows.foldl observeArtifact state.repairRounds).syncLegacyProjection := by
    unfold TaskState.backfillTask repairTaskFromArtifacts replayArtifacts
    rw [if_neg current.order.rows_ne_nil, repairRounds_artifacts]
  have sameArtifacts :
      (state.artifacts.rows.foldl observeArtifact state.repairRounds).artifacts =
        state.artifacts := artifacts_eq_of_ledgers (by simp)
  have order : InOrder mode roundId state.status
      (state.artifacts.rows.foldl observeArtifact state.repairRounds).contracts := by
    rw [replayed, repaired]
    exact current.order
  rw [unfolded]
  refine current.stays_of_sync order ?_ (repairWrites.trans replayWrites)
  intro artifact member
  rw [sameArtifacts] at member
  exact (current.filed artifact member).congr (replayed.trans repaired)

end Calls

end TaskState

end Wlcodex.Relay
