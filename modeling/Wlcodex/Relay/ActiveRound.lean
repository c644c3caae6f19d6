import Wlcodex.Relay.ObserveRule
import Wlcodex.Relay.Replay

namespace Wlcodex.Relay

/-! The active round as a query. -/

namespace TaskState

def Live (state : TaskState) (roundId : Nat) : Prop :=
  state.HasRound roundId ∧ state.roundStatus roundId ≠ .superseded

section Queries

variable {state : TaskState}

variable {roundId : Nat}

theorem rows_ne_nil_of_hasRound (known : state.HasRound roundId) :
    state.rounds.rows ≠ [] := by
  intro empty
  simp [HasRound, roundStatuses, empty] at known

theorem live_iff :
    state.Live roundId ↔ ∃ row ∈ state.rounds.rows, row.roundId = roundId ∧
      row.status ≠ .superseded := by
  constructor
  · rintro ⟨known, notSuperseded⟩
    obtain ⟨row, found⟩ := hasRound_iff.mp known
    refine ⟨row, List.mem_of_find?_eq_some found, RoundTable.roundId_of_find? found, ?_⟩
    simpa [roundStatus, found] using notSuperseded
  · rintro ⟨row, member, rfl, notSuperseded⟩
    have found := RoundTable.find?_of_mem member
    refine ⟨hasRound_iff.mpr ⟨row, found⟩, ?_⟩
    simpa [roundStatus, found] using notSuperseded

theorem activeRoundId_of_live (live : state.Live roundId) (fallback : Nat) :
    state.Live (state.activeRoundId fallback) ∧
      ∀ other, state.Live other → other ≤ state.activeRoundId fallback := by
  unfold activeRoundId RoundTable.greatest?
  obtain ⟨row, member, -, notSuperseded⟩ := live_iff.mp live
  cases greatestEquation : ((state.rounds.rows.filter fun row =>
      row.status ≠ .superseded).map Round.roundId).max? with
  | none =>
      rw [List.max?_eq_none_iff, List.map_eq_nil_iff, List.filter_eq_nil_iff] at greatestEquation
      exact absurd (by simpa using notSuperseded) (greatestEquation row member)
  | some greatest =>
      obtain ⟨greatestMember, bound⟩ := List.max?_eq_some_iff.mp greatestEquation
      obtain ⟨top, topMember, rfl⟩ := List.mem_map.mp greatestMember
      rw [List.mem_filter] at topMember
      constructor
      · exact live_iff.mpr ⟨top, topMember.1, rfl, by simpa using topMember.2⟩
      · intro other otherLive
        obtain ⟨stored, storedMember, rfl, storedLive⟩ := live_iff.mp otherLive
        apply bound
        exact List.mem_map.mpr
          ⟨stored, List.mem_filter.mpr ⟨storedMember, by simpa using storedLive⟩, rfl⟩

theorem activeRoundId_of_not_live (dead : ∀ roundId, ¬ state.Live roundId) (fallback : Nat) :
    state.activeRoundId fallback = state.latestRoundId fallback := by
  unfold activeRoundId RoundTable.greatest?
  have none : state.rounds.rows.filter (fun row => row.status ≠ .superseded) = [] := by
    rw [List.filter_eq_nil_iff]
    intro row member
    by_contra notSuperseded
    exact dead row.roundId (live_iff.mpr ⟨row, member, rfl, by simpa using notSuperseded⟩)
  rw [none]
  rfl

theorem latestRoundId_fallback (known : state.HasRound roundId)
    (first second : Nat) : state.latestRoundId first = state.latestRoundId second := by
  have rows := rows_ne_nil_of_hasRound known
  apply latestRoundId_eq_of_greatest
  · exact hasRound_latestRoundId rows second
  · intro other otherKnown
    exact le_latestRoundId otherKnown second

theorem activeRoundId_fallback (known : state.HasRound roundId)
    (first second : Nat) : state.activeRoundId first = state.activeRoundId second := by
  by_cases some : ∃ other, state.Live other
  · obtain ⟨other, live⟩ := some
    have firstSpec := activeRoundId_of_live live first
    have secondSpec := activeRoundId_of_live live second
    exact le_antisymm (secondSpec.2 _ firstSpec.1) (firstSpec.2 _ secondSpec.1)
  · push Not at some
    rw [activeRoundId_of_not_live some, activeRoundId_of_not_live some]
    exact latestRoundId_fallback known first second

theorem hasRound_activeRoundId (known : state.HasRound roundId)
    (fallback : Nat) : state.HasRound (state.activeRoundId fallback) := by
  by_cases some : ∃ other, state.Live other
  · obtain ⟨other, live⟩ := some
    exact (activeRoundId_of_live live fallback).1.1
  · push Not at some
    rw [activeRoundId_of_not_live some]
    exact hasRound_latestRoundId (rows_ne_nil_of_hasRound known) fallback

end Queries

/-- The only round that may be new is `roundId`, and a new round starts as
running; no stored status changes. -/
structure Opens (roundId : Nat) (before after : TaskState) : Prop where
  grows : ∀ other, before.HasRound other → after.HasRound other
  only : ∀ other, after.HasRound other → other = roundId ∨ before.HasRound other
  statuses : ∀ other, after.roundStatus other = before.roundStatus other
  status : after.status = before.status

namespace Opens

variable {roundId : Nat} {state middle last : TaskState}

theorem of_rounds (same : last.rounds = state.rounds) (status : last.status = state.status) :
    Opens roundId state last where
  grows other known := (hasRound_of_rounds same other).mpr known
  only other known := .inr ((hasRound_of_rounds same other).mp known)
  statuses other := roundStatus_congr (roundStatuses_of_rounds same) other
  status := status

theorem refl (state : TaskState) : Opens roundId state state := of_rounds rfl rfl

theorem trans (first : Opens roundId state middle) (second : Opens roundId middle last) :
    Opens roundId state last where
  grows other known := second.grows other (first.grows other known)
  only other known := by
    rcases second.only other known with same | middleKnown
    · exact .inl same
    · exact first.only other middleKnown
  statuses other := (second.statuses other).trans (first.statuses other)
  status := second.status.trans first.status

theorem ensureRound (state : TaskState) (trigger : TriggerKind) (artifact : Option Nat) :
    Opens roundId state (state.ensureRound roundId trigger artifact) where
  grows other known := (hasRound_ensureRound trigger artifact other).mpr (.inr known)
  only other known := (hasRound_ensureRound trigger artifact other).mp known
  statuses other := roundStatus_ensureRound trigger artifact other
  status := ensureRound_status state roundId trigger artifact

theorem modifyRound (state : TaskState) {change : Round → Round}
    (sameId : ∀ row, (change row).roundId = row.roundId)
    (sameStatus : ∀ row, (change row).status = row.status) :
    Opens roundId state (state.modifyRound roundId change sameId) := by
  have same := modifyRound_roundStatuses state roundId sameId sameStatus
  exact {
    grows := fun other known => (hasRound_congr same other).mpr known
    only := fun other known => .inr ((hasRound_congr same other).mp known)
    statuses := fun other => roundStatus_congr same other
    status := rfl }

theorem updateAttempt (state : TaskState) (role : Role) (change : AttemptChange) :
    Opens roundId state (state.updateAttempt roundId role change) := by
  unfold TaskState.updateAttempt
  split
  · exact (ensureRound state _ _).trans (of_rounds rfl rfl)
  · split
    · exact refl state
    · split
      · split <;> exact of_rounds rfl rfl
      · exact of_rounds rfl rfl

theorem writeRule (roundId : Nat) : WriteRule (Opens roundId) roundId fun _ => True where
  refl := refl
  trans := trans
  ensureRound state := ensureRound state .backfill none
  modifyRound state _ sameId same := modifyRound state sameId fun row => (same row).1
  updateAttempt state role change _ := updateAttempt state role change
  putMode _ _ _ _ := of_rounds rfl rfl

theorem observeArtifact (state : TaskState) (artifact : Artifact) :
    Opens (state.artifactRound artifact.payload) state (state.observeArtifact artifact) :=
  WriteRule.observeArtifact state artifact (writeRule _) fun _ _ => trivial

theorem eq_of_known (opens : Opens roundId state last) (known : state.HasRound roundId)
    (other : Nat) : last.HasRound other ↔ state.HasRound other := by
  constructor
  · intro after
    rcases opens.only other after with rfl | before
    · exact known
    · exact before
  · exact opens.grows other

end Opens

end TaskState

end Wlcodex.Relay
