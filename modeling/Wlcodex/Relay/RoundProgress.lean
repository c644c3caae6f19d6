import Mathlib.Data.List.Infix
import Wlcodex.Lib.Run
import Wlcodex.Relay.ActiveRound

namespace Wlcodex.Relay

open Wlcodex.Lib

/-! The active round over runs of the calls that open, close and repair rounds, with crashes. -/

namespace TaskState

/-- The state after every commit of `backfill_task` on a task that has rounds.
The commits inside the observation of one artifact write no round status. -/
def backfillCommits (state : TaskState) : List TaskState :=
  let ids := sortedIds state.artifactRoundIds
  let repair :=
    match state.artifactRoundIds.max? with
    | none => []
    | some current =>
        let closed := (state.ensureRounds ids).supersedePriorRounds current
        let existing := closed.roundStatus current
        let ensured := closed.ensureRound current .backfill none
        [closed, ensured, ensured.putRoundStatus current
          (if existing ∈ Status.roundTerminal then existing else closed.status)]
  ids.inits.map state.ensureRounds ++ repair ++
    state.artifacts.rows.inits.map (fun seen => seen.foldl observeArtifact state.repairRounds) ++
    [state.backfillTask]

/-- The state after every commit of `start_followup_round`. -/
def followupCommits (state : TaskState) (triggerArtifactId : Option Nat) : List TaskState :=
  let (current, repaired) := state.currentRoundId 1
  let execution := repaired.roundExecution current
  let closed := repaired.supersedeRounds fun roundId => roundId = current
  let opened := closed.ensureRound (current + 1) .userFollowup triggerArtifactId
  let inherited := opened.setRoundExecution (current + 1) execution.executionMode
    execution.executionGoal execution.acceptanceCriteria execution.waitingReason
  let staffed := inherited.ensureAttempt (current + 1) .director .queued {}
  let marked := staffed.setAttemptExecution (current + 1) .director execution.executionMode
  state.backfillCommits ++ [closed, opened, inherited, staffed, marked,
    marked.syncLegacyProjection]

/-- `start_followup_round` cut short after some of its commits. -/
def crashedFollowupRound (state : TaskState) (triggerArtifactId : Option Nat) (commits : Nat) :
    TaskState :=
  (((state.followupCommits triggerArtifactId).take commits).getLast?).getD state

end TaskState

inductive RoundOp where
  | startFollowupRound (triggerArtifactId : Option Nat)
  | crashedFollowupRound (triggerArtifactId : Option Nat) (commits : Nat)
  | saveArtifact (role : Option Role) (type : ArtifactType) (payload : Payload)
  | setRoundStatus (roundId : Nat) (status : Status)
  | backfillTask
  deriving DecidableEq, Repr

namespace TaskState

def roundStep (state : TaskState) : RoundOp → TaskState
  | .startFollowupRound trigger => (state.startFollowupRound trigger).2
  | .crashedFollowupRound trigger commits => state.crashedFollowupRound trigger commits
  | .saveArtifact role type payload => state.saveArtifact role type payload
  | .setRoundStatus roundId status => state.setRoundStatus roundId status
  | .backfillTask => state.backfillTask

/-! ## When a step keeps the newest round in front -/

/-- Some round other than `roundId` is not superseded. -/
def OtherLive (state : TaskState) (roundId : Nat) : Prop :=
  ∃ row ∈ state.rounds.rows, row.roundId ≠ roundId ∧ row.status ≠ .superseded

instance (state : TaskState) : DecidablePred state.OtherLive := fun roundId =>
  inferInstanceAs (Decidable (∃ row ∈ state.rounds.rows, row.roundId ≠ roundId ∧
    row.status ≠ .superseded))

def RevivesNone (state : TaskState) (ids : List Nat) : Prop :=
  (∃ row ∈ state.rounds.rows, row.status ≠ .superseded) ∨
    ∀ id ∈ ids, (∃ row ∈ state.rounds.rows, row.roundId = id) ∨ state.latestRoundId 1 < id

instance (state : TaskState) : DecidablePred state.RevivesNone := fun ids =>
  inferInstanceAs (Decidable ((∃ row ∈ state.rounds.rows, row.status ≠ .superseded) ∨
    ∀ id ∈ ids, (∃ row ∈ state.rounds.rows, row.roundId = id) ∨ state.latestRoundId 1 < id))

/-- The first commit of `start_followup_round` closes the current round while an
older one is not superseded. -/
def ClosesCurrent (state : TaskState) : Prop :=
  let (current, repaired) := state.currentRoundId 1
  repaired.roundStatus current ∉ roundClosed ∧ repaired.OtherLive current

instance : DecidablePred ClosesCurrent := fun state =>
  inferInstanceAs (Decidable (state.backfillTask.roundStatus (state.backfillTask.activeRoundId 1) ∉
    roundClosed ∧ state.backfillTask.OtherLive (state.backfillTask.activeRoundId 1)))

def StaysInFront (state : TaskState) : RoundOp → Prop
  | .startFollowupRound _ => state.RevivesNone state.artifactRoundIds
  | .crashedFollowupRound _ commits =>
      state.RevivesNone state.artifactRoundIds ∧
        (commits = state.backfillCommits.length + 1 → ¬ state.ClosesCurrent)
  | .saveArtifact _ _ payload =>
      state.RevivesNone state.artifactRoundIds ∧
        state.backfillTask.RevivesNone ([payload.explicitRound].filter (0 < ·))
  | .setRoundStatus roundId status =>
      if status = .superseded then
        roundId < state.latestRoundId 1 ∨ ¬ state.OtherLive roundId
      else
        (∃ row ∈ state.rounds.rows, row.status ≠ .superseded) ∨ state.latestRoundId 1 ≤ roundId
  | .backfillTask => state.RevivesNone state.artifactRoundIds

instance (state : TaskState) : DecidablePred state.StaysInFront := fun op => by
  cases op <;> unfold StaysInFront <;> infer_instance

/-- The newest round is live unless none is; and where the task still shows a
superseded status, the live rounds are new ones. -/
structure Frontier (state : TaskState) : Prop where
  first : state.HasRound 1
  front : ∀ roundId, state.Live roundId →
    ∃ top, state.Live top ∧ ∀ other, state.HasRound other → other ≤ top
  stale : state.status = .superseded → ∀ roundId, state.Live roundId →
    0 < roundId ∧ state.roundStatus roundId ∉ roundClosed

section Frontier

variable {state next : TaskState} {roundId : Nat}

theorem Frontier.activeRoundId (frontier : Frontier state) (fallback : Nat) :
    state.activeRoundId fallback = state.latestRoundId 1 := by
  by_cases some : ∃ other, state.Live other
  · obtain ⟨other, live⟩ := some
    obtain ⟨top, topLive, bound⟩ := frontier.front other live
    have spec := activeRoundId_of_live live fallback
    rw [latestRoundId_eq_of_greatest 1 topLive.1 bound]
    exact le_antisymm (bound _ spec.1.1) (spec.2 top topLive)
  · push Not at some
    rw [activeRoundId_of_not_live some]
    exact latestRoundId_fallback frontier.first fallback 1

theorem roundStatus_of_not_hasRound (unknown : ¬ state.HasRound roundId) :
    state.roundStatus roundId = .running := by
  unfold roundStatus
  cases found : state.rounds.find? roundId with
  | none => rfl
  | some row => exact absurd (hasRound_iff.mpr ⟨row, found⟩) unknown

theorem anyLive_iff :
    (∃ row ∈ state.rounds.rows, row.status ≠ .superseded) ↔ ∃ other, state.Live other := by
  constructor
  · rintro ⟨row, member, live⟩
    exact ⟨row.roundId, live_iff.mpr ⟨row, member, rfl, live⟩⟩
  · rintro ⟨other, live⟩
    obtain ⟨row, member, -, rowLive⟩ := live_iff.mp live
    exact ⟨row, member, rowLive⟩

theorem otherLive_iff : state.OtherLive roundId ↔ ∃ other, other ≠ roundId ∧ state.Live other := by
  constructor
  · rintro ⟨row, member, different, live⟩
    exact ⟨row.roundId, different, live_iff.mpr ⟨row, member, rfl, live⟩⟩
  · rintro ⟨other, different, live⟩
    obtain ⟨row, member, rfl, rowLive⟩ := live_iff.mp live
    exact ⟨row, member, different, rowLive⟩

theorem hasRound_iff_mem :
    state.HasRound roundId ↔ ∃ row ∈ state.rounds.rows, row.roundId = roundId := by
  rw [hasRound_iff]
  constructor
  · rintro ⟨row, found⟩
    exact ⟨row, List.mem_of_find?_eq_some found, RoundTable.roundId_of_find? found⟩
  · rintro ⟨row, member, rfl⟩
    exact ⟨row, RoundTable.find?_of_mem member⟩

def Openable (state : TaskState) (roundId : Nat) : Prop :=
  state.HasRound roundId ∨ (∃ other, state.Live other) ∨
    ∀ other, state.HasRound other → other < roundId

theorem RevivesNone.openable {ids : List Nat} (revives : state.RevivesNone ids)
    (member : roundId ∈ ids) : state.Openable roundId := by
  rcases revives with live | named
  · exact .inr (.inl (anyLive_iff.mp live))
  · rcases named roundId member with row | newer
    · exact .inl (hasRound_iff_mem.mpr row)
    · right
      right
      intro other known
      exact (le_latestRoundId known 1).trans_lt newer

structure Progresses (before after : TaskState) : Prop where
  frontier : Frontier after
  grows : ∀ other, before.HasRound other → after.HasRound other

theorem Progresses.trans {last : TaskState} (first : Progresses state next)
    (second : Progresses next last) : Progresses state last where
  frontier := second.frontier
  grows other known := second.grows other (first.grows other known)

theorem Progresses.activeRoundId_le (progress : Progresses state next)
    (frontier : Frontier state) (fallback : Nat) :
    state.activeRoundId fallback ≤ next.activeRoundId fallback := by
  rw [frontier.activeRoundId, progress.frontier.activeRoundId]
  have rows := rows_ne_nil_of_hasRound frontier.first
  exact le_latestRoundId (progress.grows _ (hasRound_latestRoundId rows 1)) 1

/-! ## Writes that keep the newest round in front -/

theorem Frontier.opens (frontier : Frontier state) (opens : Opens roundId state next)
    (positive : 0 < roundId) (openable : state.Openable roundId) : Progresses state next where
  grows := opens.grows
  frontier := by
    have live_iff_of_ne : ∀ other, other ≠ roundId → (next.Live other ↔ state.Live other) := by
      intro other different
      unfold Live
      rw [opens.statuses]
      constructor
      · rintro ⟨known, notSuperseded⟩
        exact ⟨(opens.only other known).resolve_left different, notSuperseded⟩
      · rintro ⟨known, notSuperseded⟩
        exact ⟨opens.grows other known, notSuperseded⟩
    by_cases known : state.HasRound roundId
    · have same := opens.eq_of_known known
      have sameLive : ∀ other, next.Live other ↔ state.Live other := by
        intro other
        unfold Live
        rw [same, opens.statuses]
      refine ⟨(same 1).mpr frontier.first, ?_, ?_⟩
      · intro other live
        obtain ⟨top, topLive, bound⟩ := frontier.front other ((sameLive other).mp live)
        exact ⟨top, (sameLive top).mpr topLive, fun another present =>
          bound another ((same another).mp present)⟩
      · intro superseded other live
        rw [opens.statuses]
        exact frontier.stale (opens.status ▸ superseded) other ((sameLive other).mp live)
    · refine ⟨opens.grows 1 frontier.first, ?_, ?_⟩
      · intro other live
        have opened : next.HasRound roundId → next.Live roundId := by
          intro present
          refine ⟨present, ?_⟩
          rw [opens.statuses, roundStatus_of_not_hasRound known]
          decide
        by_cases present : next.HasRound roundId
        · -- the new round, or an older one that is newer than it
          rcases openable with there | ⟨older, olderLive⟩ | newest
          · exact absurd there known
          · obtain ⟨top, topLive, bound⟩ := frontier.front older olderLive
            have distinct : top ≠ roundId := fun same => known (same ▸ topLive.1)
            rcases Nat.lt_or_ge top roundId with below | above
            · refine ⟨roundId, opened present, ?_⟩
              intro another anotherKnown
              rcases opens.only another anotherKnown with rfl | stored
              · exact le_rfl
              · exact (bound another stored).trans below.le
            · refine ⟨top, (live_iff_of_ne top distinct).mpr topLive, ?_⟩
              intro another anotherKnown
              rcases opens.only another anotherKnown with rfl | stored
              · exact above
              · exact bound another stored
          · refine ⟨roundId, opened present, ?_⟩
            intro another anotherKnown
            rcases opens.only another anotherKnown with rfl | stored
            · exact le_rfl
            · exact (newest another stored).le
        · have different : other ≠ roundId := fun same => present (same ▸ live.1)
          obtain ⟨top, topLive, bound⟩ :=
            frontier.front other ((live_iff_of_ne other different).mp live)
          have topDifferent : top ≠ roundId := fun same => known (same ▸ topLive.1)
          refine ⟨top, (live_iff_of_ne top topDifferent).mpr topLive, ?_⟩
          intro another anotherKnown
          rcases opens.only another anotherKnown with rfl | stored
          · exact absurd anotherKnown present
          · exact bound another stored
      · intro superseded other live
        rw [opens.statuses]
        by_cases new : other = roundId
        · subst new
          rw [roundStatus_of_not_hasRound known]
          exact ⟨positive, by decide⟩
        · exact frontier.stale (opens.status ▸ superseded) other
            ((live_iff_of_ne other new).mp live)

theorem Openable.of_opens {other : Nat} (openable : state.Openable other)
    (opens : Opens roundId state next) (grown : next.HasRound roundId) :
    next.Openable other := by
  by_cases known : state.HasRound roundId
  · have same := opens.eq_of_known known
    rcases openable with there | ⟨live, liveRound⟩ | newest
    · exact .inl (opens.grows other there)
    · refine .inr (.inl ⟨live, opens.grows live liveRound.1, ?_⟩)
      rw [opens.statuses]
      exact liveRound.2
    · refine .inr (.inr fun another present => newest another ((same another).mp present))
  · refine .inr (.inl ⟨roundId, grown, ?_⟩)
    rw [opens.statuses, roundStatus_of_not_hasRound known]
    decide

theorem Frontier.ensureRounds (frontier : Frontier state) {ids : List Nat}
    (positive : ∀ id ∈ ids, 0 < id) (openable : ∀ id ∈ ids, state.Openable id) :
    Progresses state (state.ensureRounds ids) := by
  induction ids generalizing state with
  | nil => exact ⟨frontier, fun _ known => known⟩
  | cons head rest ih =>
      have opens : Opens head state (state.ensureRound head
          (if 1 < head then .backfill else .initial) none) := .ensureRound state _ none
      have headOpen := openable head (by simp)
      have first := frontier.opens opens (positive head (by simp)) headOpen
      have grown : (state.ensureRound head (if 1 < head then .backfill else .initial)
          none).HasRound head := (hasRound_ensureRound _ _ _).mpr (.inl rfl)
      have later := ih first.frontier (fun id member => positive id (by simp [member]))
        fun id member => (openable id (by simp [member])).of_opens opens grown
      exact first.trans later

theorem Frontier.supersedePriorRounds (frontier : Frontier state) {current : Nat}
    (known : state.HasRound current) : Progresses state (state.supersedePriorRounds current) where
  grows other present := hasRound_supersedePriorRounds.mpr present
  frontier := by
    have stays : ∀ other, (state.supersedePriorRounds current).Live other →
        state.Live other ∧
          (state.supersedePriorRounds current).roundStatus other = state.roundStatus other := by
      intro other live
      have present := hasRound_supersedePriorRounds.mp live.1
      have notSuperseded := live.2
      rw [roundStatus_supersedePriorRounds present] at notSuperseded ⊢
      split at notSuperseded
      · exact absurd rfl notSuperseded
      · rename_i kept
        rw [if_neg kept]
        exact ⟨⟨present, notSuperseded⟩, rfl⟩
    refine ⟨hasRound_supersedePriorRounds.mpr frontier.first, ?_, ?_⟩
    · intro other live
      obtain ⟨top, topLive, bound⟩ := frontier.front other (stays other live).1
      refine ⟨top, ⟨hasRound_supersedePriorRounds.mpr topLive.1, ?_⟩, ?_⟩
      · have above := bound current known
        rw [roundStatus_supersedePriorRounds topLive.1, if_neg (by omega)]
        exact topLive.2
      · intro another present
        exact bound another (hasRound_supersedePriorRounds.mp present)
    · intro superseded other live
      have sameStatus : (state.supersedePriorRounds current).status = state.status := by
        unfold TaskState.supersedePriorRounds
        split <;> rfl
      rw [(stays other live).2]
      exact frontier.stale (sameStatus ▸ superseded) other (stays other live).1

theorem Frontier.putRoundStatus (frontier : Frontier state) (known : state.HasRound roundId) {status : Status}
    (closing : status = .superseded →
      ¬ state.Live roundId ∨ ∀ other, state.Live other → roundId ≤ other)
    (opening : status ≠ .superseded → state.Live roundId)
    (fresh : state.status = .superseded → status ≠ .superseded → status ∉ roundClosed) :
    Progresses state (state.putRoundStatus roundId status) where
  grows other present := (hasRound_putRoundStatus status other).mpr present
  frontier := by
    have liveOther : ∀ other, other ≠ roundId →
        ((state.putRoundStatus roundId status).Live other ↔ state.Live other) := by
      intro other different
      unfold Live
      rw [hasRound_putRoundStatus]
      constructor
      · rintro ⟨present, notSuperseded⟩
        rw [roundStatus_putRoundStatus status present, if_neg different] at notSuperseded
        exact ⟨present, notSuperseded⟩
      · rintro ⟨present, notSuperseded⟩
        rw [roundStatus_putRoundStatus status present, if_neg different]
        exact ⟨present, notSuperseded⟩
    have writtenStatus : (state.putRoundStatus roundId status).roundStatus roundId = status := by
      rw [roundStatus_putRoundStatus status known, if_pos rfl]
    refine ⟨(hasRound_putRoundStatus status 1).mpr frontier.first, ?_, ?_⟩
    · intro other live
      have before : state.Live other := by
        by_cases same : other = roundId
        · subst same
          apply opening
          have notSuperseded := live.2
          rwa [writtenStatus] at notSuperseded
        · exact (liveOther other same).mp live
      obtain ⟨top, topLive, bound⟩ := frontier.front other before
      refine ⟨top, ?_, fun another present =>
        bound another ((hasRound_putRoundStatus status another).mp present)⟩
      by_cases same : top = roundId
      · subst same
        refine ⟨(hasRound_putRoundStatus status top).mpr known, ?_⟩
        rw [writtenStatus]
        intro superseded
        rcases closing superseded with dead | lowest
        · exact dead topLive
        · have atTop : other = top := le_antisymm (bound other before.1) (lowest other before)
          subst atTop
          have notSuperseded := live.2
          rw [writtenStatus] at notSuperseded
          exact notSuperseded superseded
      · exact (liveOther top same).mpr topLive
    · intro superseded other live
      by_cases same : other = roundId
      · subst same
        have notSuperseded := live.2
        rw [writtenStatus] at notSuperseded ⊢
        exact ⟨(frontier.stale superseded other (opening notSuperseded)).1,
          fresh superseded notSuperseded⟩
      · rw [roundStatus_putRoundStatus status ((hasRound_putRoundStatus status other).mp live.1),
          if_neg same]
        exact frontier.stale superseded other ((liveOther other same).mp live)

theorem Frontier.syncLegacyProjection (frontier : Frontier state) :
    Progresses state state.syncLegacyProjection where
  grows other known := known
  frontier := by
    refine ⟨frontier.first, frontier.front, ?_⟩
    intro superseded other live
    have stored : state.Live other := live
    exact absurd superseded (activeRoundId_of_live stored 1).1.2

def Repairable (state : TaskState) : Prop := state.RevivesNone state.artifactRoundIds

section Repair

variable (frontier : Frontier state) (repairable : state.Repairable)
include frontier repairable

theorem Frontier.ensureNamed {ids : List Nat} (named : ∀ id ∈ ids, id ∈ state.artifactRoundIds) :
    Progresses state (state.ensureRounds ids) := by
  apply frontier.ensureRounds
  · intro id member
    have filtered := (List.mem_filter.mp (named id member)).2
    simpa using filtered
  · intro id member
    exact RevivesNone.openable repairable (named id member)

theorem Frontier.closedRounds {current : Nat} (greatest : state.artifactRoundIds.max? = some current) :
    Progresses state
      ((state.ensureRounds (sortedIds state.artifactRoundIds)).supersedePriorRounds current) := by
  have ensured : Progresses state (state.ensureRounds (sortedIds state.artifactRoundIds)) :=
    frontier.ensureNamed repairable fun id member => mem_sortedIds.mp member
  apply ensured.trans
  apply ensured.frontier.supersedePriorRounds
  rw [hasRound_ensureRounds, mem_sortedIds]
  exact .inl (List.max?_mem greatest)

theorem Frontier.repairedStatus {current : Nat} (greatest : state.artifactRoundIds.max? = some current) :
    let closed := (state.ensureRounds (sortedIds state.artifactRoundIds)).supersedePriorRounds current
    Progresses state ((closed.ensureRound current .backfill none).putRoundStatus current
      (if closed.roundStatus current ∈ Status.roundTerminal then closed.roundStatus current
        else closed.status)) := by
  intro closed
  have progress := frontier.closedRounds repairable greatest
  have ensuredKnown : (state.ensureRounds (sortedIds state.artifactRoundIds)).HasRound current := by
    rw [hasRound_ensureRounds, mem_sortedIds]
    exact .inl (List.max?_mem greatest)
  have known : closed.HasRound current := hasRound_supersedePriorRounds.mpr ensuredKnown
  have positive : 0 < current := by
    simpa using (List.mem_filter.mp (List.max?_mem greatest)).2
  have opens : Opens current closed (closed.ensureRound current .backfill none) :=
    .ensureRound closed .backfill none
  have ensured := progress.frontier.opens opens positive (.inl known)
  -- a live round before the current one was not closed, so it is a closed one
  have prior : ∀ other, closed.Live other → 0 < other → other < current →
      closed.roundStatus other ∈ roundClosed := by
    intro other live otherPositive below
    by_contra notClosed
    have otherKnown := hasRound_supersedePriorRounds.mp live.1
    have status : closed.roundStatus other = _ := roundStatus_supersedePriorRounds otherKnown
    by_cases kept : (state.ensureRounds (sortedIds state.artifactRoundIds)).roundStatus other ∈
        roundClosed
    · rw [if_neg fun closing => closing.2.2 kept] at status
      exact notClosed (status ▸ kept)
    · rw [if_pos ⟨by omega, below, kept⟩] at status
      exact live.2 status
  apply (progress.trans ensured).trans
  apply ensured.frontier.putRoundStatus ((hasRound_ensureRound _ _ _).mpr (.inl rfl))
  · intro superseded
    by_cases live : closed.Live current
    · right
      intro other otherLive
      have closedLive : closed.Live other := by
        refine ⟨(opens.eq_of_known known other).mp otherLive.1, ?_⟩
        rw [← opens.statuses]
        exact otherLive.2
      by_contra below
      have stale : closed.status = .superseded := by
        split at superseded
        · exact absurd superseded live.2
        · exact superseded
      have young := progress.frontier.stale stale other closedLive
      exact young.2 (prior other closedLive young.1 (by omega))
    · left
      rintro ⟨_, notSuperseded⟩
      rw [opens.statuses] at notSuperseded
      exact live ⟨known, notSuperseded⟩
  · intro notSuperseded
    refine ⟨opens.grows current known, ?_⟩
    rw [opens.statuses]
    intro superseded
    apply notSuperseded
    rw [if_pos (by rw [superseded]; decide)]
    exact superseded
  · intro stale notSuperseded
    rw [opens.status] at stale
    split at notSuperseded
    · rename_i terminal
      rw [if_pos terminal]
      exact (progress.frontier.stale stale current ⟨known, notSuperseded⟩).2
    · exact absurd stale notSuperseded

theorem Frontier.repairRounds : Progresses state state.repairRounds := by
  unfold TaskState.repairRounds
  cases greatest : state.artifactRoundIds.max? with
  | none => exact ⟨frontier, fun _ known => known⟩
  | some current =>
      have progress := frontier.repairedStatus repairable greatest
      exact progress.trans progress.frontier.syncLegacyProjection

omit repairable in
theorem Frontier.replay {seen : List Artifact}
    (known : ∀ artifact ∈ seen, state.HasRound (state.artifactRound artifact.payload)) :
    Progresses state (seen.foldl observeArtifact state) := by
  induction seen generalizing state with
  | nil => exact ⟨frontier, fun _ known => known⟩
  | cons head rest ih =>
      have headKnown := known head (by simp)
      have opens := Opens.observeArtifact state head
      have same := observeArtifact_roundStatuses headKnown
      have progress : Progresses state (state.observeArtifact head) := by
        refine ⟨⟨opens.grows 1 frontier.first, ?_, ?_⟩, opens.grows⟩
        · intro roundId live
          obtain ⟨top, topLive, bound⟩ := frontier.front roundId
            ⟨(hasRound_congr same roundId).mp live.1, by rw [← opens.statuses]; exact live.2⟩
          refine ⟨top, ⟨opens.grows top topLive.1, by rw [opens.statuses]; exact topLive.2⟩, ?_⟩
          intro another present
          exact bound another ((hasRound_congr same another).mp present)
        · intro superseded roundId live
          rw [opens.statuses]
          exact frontier.stale (opens.status ▸ superseded) roundId
            ⟨(hasRound_congr same roundId).mp live.1, by rw [← opens.statuses]; exact live.2⟩
      apply progress.trans
      apply ih progress.frontier
      intro artifact member
      rw [artifactRound_congr same, hasRound_congr same]
      exact known artifact (by simp [member])

theorem Frontier.replayed {seen : List Artifact} (stored : ∀ artifact ∈ seen,
    artifact ∈ state.artifacts.rows) :
    Progresses state (seen.foldl observeArtifact state.repairRounds) := by
  have repaired := frontier.repairRounds repairable
  have known := knownRound_repairRounds (rows_ne_nil_of_hasRound frontier.first)
  exact repaired.trans (repaired.frontier.replay fun artifact member =>
    known artifact (stored artifact member))

theorem Frontier.backfillTask : Progresses state state.backfillTask := by
  unfold TaskState.backfillTask repairTaskFromArtifacts replayArtifacts
  rw [if_neg (rows_ne_nil_of_hasRound frontier.first), repairRounds_artifacts]
  have progress := frontier.replayed repairable fun artifact member => member
  exact progress.trans progress.frontier.syncLegacyProjection

theorem Frontier.backfillCommits {cut : TaskState} (member : cut ∈ state.backfillCommits) :
    Progresses state cut := by
  unfold TaskState.backfillCommits at member
  simp only [List.append_assoc, List.mem_append, List.mem_map, List.mem_inits,
    List.mem_singleton] at member
  rcases member with ⟨ids, isPrefix, rfl⟩ | repair | ⟨seen, isPrefix, rfl⟩ | rfl
  · exact frontier.ensureNamed repairable fun id named => mem_sortedIds.mp (isPrefix.subset named)
  · cases greatest : state.artifactRoundIds.max? with
    | none => simp [greatest] at repair
    | some current =>
        simp only [greatest, List.mem_cons, List.not_mem_nil, or_false] at repair
        have closed := frontier.closedRounds repairable greatest
        rcases repair with rfl | rfl | rfl
        · exact closed
        · apply closed.trans
          apply closed.frontier.opens (.ensureRound _ _ _)
          · simpa using (List.mem_filter.mp (List.max?_mem greatest)).2
          · left
            apply hasRound_supersedePriorRounds.mpr
            rw [hasRound_ensureRounds, mem_sortedIds]
            exact .inl (List.max?_mem greatest)
        · exact frontier.repairedStatus repairable greatest
  · exact frontier.replayed repairable fun artifact named => isPrefix.subset named
  · exact frontier.backfillTask repairable

end Repair

theorem dead_of_superseded_backfill (present : state.HasRound 1)
    (superseded : state.backfillTask.status = .superseded) (other : Nat) :
    ¬ state.backfillTask.Live other := by
  unfold TaskState.backfillTask at superseded ⊢
  rw [if_neg (rows_ne_nil_of_hasRound present)] at superseded ⊢
  intro live
  have stored : state.repairRounds.replayArtifacts.Live other := live
  exact (activeRoundId_of_live stored 1).1.2 superseded

section Followup

variable (frontier : Frontier state) (repairable : state.Repairable)
include frontier repairable

theorem Frontier.closeCurrent (closes : ¬ state.ClosesCurrent) :
    Progresses state (state.backfillTask.supersedeRounds fun roundId =>
      roundId = state.backfillTask.activeRoundId 1) := by
  have repaired := frontier.backfillTask repairable
  apply repaired.trans
  refine ⟨?_, fun other known => (hasRound_supersedeRounds _).mpr known⟩
  have stays : ∀ other, (state.backfillTask.supersedeRounds fun roundId =>
        roundId = state.backfillTask.activeRoundId 1).Live other →
      state.backfillTask.roundStatus (state.backfillTask.activeRoundId 1) ∈ roundClosed := by
    intro other live
    by_contra opened
    have known := (hasRound_supersedeRounds _).mp live.1
    have notSuperseded := live.2
    rw [roundStatus_supersedeRounds _ known] at notSuperseded
    by_cases current : other = state.backfillTask.activeRoundId 1
    · rw [if_pos ⟨by simpa using current, by rw [current]; exact opened⟩] at notSuperseded
      exact notSuperseded rfl
    · rw [if_neg (by simp [current])] at notSuperseded
      exact closes ⟨opened, otherLive_iff.mpr ⟨other, current, known, notSuperseded⟩⟩
  have same : state.backfillTask.roundStatus (state.backfillTask.activeRoundId 1) ∈ roundClosed →
      ∀ other, ((state.backfillTask.supersedeRounds fun roundId =>
          roundId = state.backfillTask.activeRoundId 1).Live other ↔ state.backfillTask.Live other) ∧
        (state.backfillTask.HasRound other →
          (state.backfillTask.supersedeRounds fun roundId =>
              roundId = state.backfillTask.activeRoundId 1).roundStatus other =
            state.backfillTask.roundStatus other) := by
    intro closed other
    have status : state.backfillTask.HasRound other →
        (state.backfillTask.supersedeRounds fun roundId =>
            roundId = state.backfillTask.activeRoundId 1).roundStatus other =
          state.backfillTask.roundStatus other := by
      intro known
      rw [roundStatus_supersedeRounds _ known, if_neg]
      rintro ⟨current, opened⟩
      simp only [decide_eq_true_eq] at current
      exact opened (current ▸ closed)
    refine ⟨?_, status⟩
    unfold Live
    rw [hasRound_supersedeRounds]
    exact and_congr_right fun known => by rw [status known]
  refine ⟨(hasRound_supersedeRounds _).mpr repaired.frontier.first, ?_, ?_⟩
  · intro other live
    have closed := stays other live
    obtain ⟨top, topLive, bound⟩ :=
      repaired.frontier.front other (((same closed other).1).mp live)
    exact ⟨top, ((same closed top).1).mpr topLive, fun another present =>
      bound another ((hasRound_supersedeRounds _).mp present)⟩
  · intro superseded other live
    have closed := stays other live
    exact absurd (((same closed other).1).mp live)
      (dead_of_superseded_backfill frontier.first superseded other)

theorem Frontier.openNext (trigger : Option Nat) :
    let current := state.backfillTask.activeRoundId 1
    let opened := (state.backfillTask.supersedeRounds fun roundId => roundId = current).ensureRound
      (current + 1) .userFollowup trigger
    Progresses state opened ∧ opened.HasRound (current + 1) ∧
      (∀ other, opened.HasRound other → other ≤ current + 1) ∧
      opened.roundStatus (current + 1) = .running := by
  intro current opened
  have repaired := frontier.backfillTask repairable
  have bound : ∀ other, state.backfillTask.HasRound other → other ≤ current := by
    intro other known
    have newest := repaired.frontier.activeRoundId 1
    change other ≤ state.backfillTask.activeRoundId 1
    rw [newest]
    exact le_latestRoundId known 1
  have opens : Opens (current + 1)
      (state.backfillTask.supersedeRounds fun roundId => roundId = current) opened :=
    .ensureRound _ .userFollowup trigger
  have present : opened.HasRound (current + 1) := (hasRound_ensureRound _ _ _).mpr (.inl rfl)
  have running : opened.roundStatus (current + 1) = .running := by
    rw [opens.statuses]
    apply roundStatus_of_not_hasRound
    intro known
    have below := bound (current + 1) ((hasRound_supersedeRounds _).mp known)
    omega
  have within : ∀ other, opened.HasRound other → other ≤ current + 1 := by
    intro other known
    rcases opens.only other known with rfl | closed
    · exact le_rfl
    · exact (bound other ((hasRound_supersedeRounds _).mp closed)).trans (Nat.le_succ _)
  refine ⟨⟨⟨?_, ?_, ?_⟩, ?_⟩, present, within, running⟩
  · exact opens.grows 1 ((hasRound_supersedeRounds _).mpr repaired.frontier.first)
  · intro other live
    exact ⟨current + 1, ⟨present, by rw [running]; decide⟩, within⟩
  · intro superseded other live
    by_cases new : other = current + 1
    · subst new
      rw [running]
      exact ⟨Nat.succ_pos _, by decide⟩
    · exfalso
      have known := (hasRound_supersedeRounds _).mp ((opens.only other live.1).resolve_left new)
      have notSuperseded := live.2
      rw [opens.statuses, roundStatus_supersedeRounds _ known] at notSuperseded
      split at notSuperseded
      · exact notSuperseded rfl
      · exact dead_of_superseded_backfill frontier.first (opens.status ▸ superseded) other
          ⟨known, notSuperseded⟩
  · intro other known
    exact opens.grows other ((hasRound_supersedeRounds _).mpr (repaired.grows other known))

theorem Frontier.followupTail (trigger : Option Nat) {cut : TaskState}
    (opens : Opens (state.backfillTask.activeRoundId 1 + 1)
      ((state.backfillTask.supersedeRounds fun roundId =>
        roundId = state.backfillTask.activeRoundId 1).ensureRound
          (state.backfillTask.activeRoundId 1 + 1) .userFollowup trigger) cut) :
    Progresses state cut ∧
      cut.activeRoundId 1 = state.backfillTask.activeRoundId 1 + 1 ∧
      cut.roundStatus (state.backfillTask.activeRoundId 1 + 1) = .running := by
  obtain ⟨progress, present, bound, running⟩ := frontier.openNext repairable trigger
  have later := progress.trans
    (progress.frontier.opens opens (Nat.succ_pos _) (.inl present))
  refine ⟨later, ?_, by rw [opens.statuses]; exact running⟩
  rw [later.frontier.activeRoundId]
  apply latestRoundId_eq_of_greatest 1 (opens.grows _ present)
  intro other known
  exact bound other ((opens.eq_of_known present other).mp known)

theorem Frontier.startFollowupRound (trigger : Option Nat) :
    Progresses state (state.startFollowupRound trigger).2 ∧
      (state.startFollowupRound trigger).2.activeRoundId 1 = (state.startFollowupRound trigger).1 ∧
      (state.startFollowupRound trigger).2.roundStatus (state.startFollowupRound trigger).1 =
        .running := by
  unfold TaskState.startFollowupRound currentRoundId
  dsimp only
  generalize state.backfillTask.roundExecution (state.backfillTask.activeRoundId 1) = execution
  have rule := Opens.writeRule (state.backfillTask.activeRoundId 1 + 1)
  have opens := ((rule.setRoundExecution
    ((state.backfillTask.supersedeRounds fun roundId =>
        roundId = state.backfillTask.activeRoundId 1).ensureRound
          (state.backfillTask.activeRoundId 1 + 1) .userFollowup trigger)
    execution.executionMode execution.executionGoal execution.acceptanceCriteria
    execution.waitingReason).trans (rule.ensureAttempt .director trivial _ .queued {})).trans
      (rule.setAttemptExecution .director trivial _ execution.executionMode)
  obtain ⟨progress, active, running⟩ := frontier.followupTail repairable trigger opens
  refine ⟨progress.trans progress.frontier.syncLegacyProjection, ?_, ?_⟩
  · rw [activeRoundId_congr (roundStatuses_of_rounds (syncLegacyProjection_rounds _))]
    exact active
  · rw [roundStatus_congr (roundStatuses_of_rounds (syncLegacyProjection_rounds _))]
    exact running

theorem Frontier.followupCommits (trigger : Option Nat) {commits : Nat}
    (closes : commits = state.backfillCommits.length + 1 → ¬ state.ClosesCurrent) :
    Progresses state (state.crashedFollowupRound trigger commits) := by
  have synced := (frontier.startFollowupRound repairable trigger).1
  unfold TaskState.startFollowupRound at synced
  unfold TaskState.crashedFollowupRound
  rcases Nat.lt_or_ge state.backfillCommits.length commits with beyond | within
  · obtain ⟨rest, rfl⟩ := Nat.exists_eq_add_of_lt beyond
    unfold TaskState.followupCommits
    unfold currentRoundId at synced ⊢
    dsimp only at synced ⊢
    rw [List.take_append, List.take_of_length_le (by omega), List.getLast?_append]
    rw [show state.backfillCommits.length + rest + 1 - state.backfillCommits.length = rest + 1 by
      omega]
    generalize state.backfillTask.roundExecution (state.backfillTask.activeRoundId 1) =
      execution at synced ⊢
    have rule := Opens.writeRule (state.backfillTask.activeRoundId 1 + 1)
    have inherited := rule.setRoundExecution
      ((state.backfillTask.supersedeRounds fun roundId =>
          roundId = state.backfillTask.activeRoundId 1).ensureRound
            (state.backfillTask.activeRoundId 1 + 1) .userFollowup trigger)
      execution.executionMode execution.executionGoal execution.acceptanceCriteria
      execution.waitingReason
    have staffed := inherited.trans (rule.ensureAttempt .director trivial _ .queued {})
    have marked := staffed.trans (rule.setAttemptExecution .director trivial _ execution.executionMode)
    rcases rest with _ | _ | _ | _ | _ | rest
    · exact frontier.closeCurrent repairable (closes rfl)
    · exact (frontier.followupTail repairable trigger (.refl _)).1
    · exact (frontier.followupTail repairable trigger inherited).1
    · exact (frontier.followupTail repairable trigger staffed).1
    · exact (frontier.followupTail repairable trigger marked).1
    · rw [List.take_of_length_le (by simp)]
      exact synced
  · unfold TaskState.followupCommits
    rw [List.take_append_of_le_length within]
    cases last : (state.backfillCommits.take commits).getLast? with
    | none => exact ⟨frontier, fun _ known => known⟩
    | some cut =>
        have member := List.mem_of_mem_take (List.mem_of_getLast? last)
        exact frontier.backfillCommits repairable member

end Followup

theorem Frontier.saveArtifact (frontier : Frontier state) (repairable : state.Repairable)
    (role : Option Role) (type : ArtifactType) (payload : Payload)
    (names : state.backfillTask.RevivesNone ([payload.explicitRound].filter (0 < ·))) :
    Progresses state (state.saveArtifact role type payload) := by
  unfold TaskState.saveArtifact
  split
  · have repaired := frontier.backfillTask repairable
    unfold fileArtifact
    dsimp only [storeRoundId, currentRoundId]
    generalize filing : filedPayload payload role type
      (state.backfillTask.activeRoundId state.artifactRoundFallback) = filed
    have appended : Progresses state { state.backfillTask with
        artifacts := state.backfillTask.artifacts.append type filed } :=
      ⟨⟨repaired.frontier.first, repaired.frontier.front, repaired.frontier.stale⟩,
        repaired.grows⟩
    have opens := Opens.observeArtifact
      { state.backfillTask with artifacts := state.backfillTask.artifacts.append type filed }
      ⟨state.backfillTask.artifacts.lastId + 1, type, filed⟩
    have current := hasRound_activeRoundId repaired.frontier.first state.artifactRoundFallback
    have openable : state.backfillTask.Openable (state.backfillTask.artifactRound filed) := by
      unfold artifactRound
      split
      · left
        exact hasRound_latestRoundId (rows_ne_nil_of_hasRound repaired.frontier.first) 1
      · rename_i explicit
        cases stated : payload.roundId with
        | none =>
            left
            have filedRound : filed.explicitRound =
                state.backfillTask.activeRoundId state.artifactRoundFallback := by
              rw [← filing]
              simp [filedPayload, Payload.explicitRound, stated]
            rw [filedRound]
            exact current
        | some roundId =>
            have filedRound : filed.explicitRound = payload.explicitRound := by
              rw [← filing]
              simp [filedPayload, Payload.explicitRound, stated]
            rw [filedRound] at explicit ⊢
            apply names.openable
            simp [Nat.pos_of_ne_zero explicit]
    have positive : 0 < state.backfillTask.artifactRound filed := by
      unfold artifactRound
      split
      · exact Nat.lt_of_lt_of_le Nat.zero_lt_one (le_latestRoundId repaired.frontier.first 1)
      · rename_i explicit
        exact Nat.pos_of_ne_zero explicit
    have observed := appended.trans (appended.frontier.opens opens positive openable)
    exact observed.trans observed.frontier.syncLegacyProjection
  · exact ⟨frontier, fun _ known => known⟩

theorem live_setRoundStatus {status : Status} {other : Nat} :
    (state.setRoundStatus roundId status).Live other ↔
      (other = roundId ∧ status ≠ .superseded) ∨ (other ≠ roundId ∧ state.Live other) := by
  have ensured : (state.ensureRound roundId .backfill none).HasRound roundId :=
    (hasRound_ensureRound _ _ _).mpr (.inl rfl)
  have writtenStatus : (state.setRoundStatus roundId status).roundStatus roundId = status := by
    unfold TaskState.setRoundStatus
    rw [roundStatus_congr (roundStatuses_of_rounds (syncLegacyProjection_rounds _)),
      roundStatus_putRoundStatus status ensured, if_pos rfl]
  unfold Live
  rw [hasRound_setRoundStatus]
  by_cases same : other = roundId
  · subst same
    simp [writtenStatus]
  · simp only [same, false_or, false_and, ne_eq, not_false_iff, true_and]
    refine and_congr_right fun known => ?_
    rw [roundStatus_setRoundStatus status known, if_neg same]

theorem Frontier.setRoundStatus (frontier : Frontier state) {status : Status}
    (stays : state.StaysInFront (.setRoundStatus roundId status)) :
    Progresses state (state.setRoundStatus roundId status) where
  grows other known := (hasRound_setRoundStatus status other).mpr (.inr known)
  frontier := by
    refine ⟨(hasRound_setRoundStatus status 1).mpr (.inr frontier.first), ?_, ?_⟩
    · intro other live
      simp only [StaysInFront] at stays
      by_cases closing : status = .superseded
      · rw [if_pos closing] at stays
        rw [live_setRoundStatus] at live
        obtain ⟨different, stored⟩ := live.resolve_left fun both => both.2 closing
        obtain ⟨top, topLive, bound⟩ := frontier.front other stored
        have newest := latestRoundId_eq_of_greatest 1 topLive.1 bound
        have below : roundId < top := by
          rcases stays with below | alone
          · rwa [newest] at below
          · exact absurd (otherLive_iff.mpr ⟨other, different, stored⟩) alone
        refine ⟨top, live_setRoundStatus.mpr (.inr ⟨by omega, topLive⟩), ?_⟩
        intro another present
        rcases (hasRound_setRoundStatus status another).mp present with rfl | known
        · exact below.le
        · exact bound another known
      · rw [if_neg closing, anyLive_iff] at stays
        have written : (state.setRoundStatus roundId status).Live roundId :=
          live_setRoundStatus.mpr (.inl ⟨rfl, closing⟩)
        have atRound : (∀ another, state.HasRound another → another ≤ roundId) →
            ∃ top, (state.setRoundStatus roundId status).Live top ∧
              ∀ another, (state.setRoundStatus roundId status).HasRound another →
                another ≤ top := by
          intro bound
          refine ⟨roundId, written, ?_⟩
          intro another present
          rcases (hasRound_setRoundStatus status another).mp present with rfl | known
          · exact le_rfl
          · exact bound another known
        rcases stays with ⟨older, olderLive⟩ | newest
        · obtain ⟨top, topLive, bound⟩ := frontier.front older olderLive
          rcases Nat.lt_or_ge roundId top with below | above
          · refine ⟨top, live_setRoundStatus.mpr (.inr ⟨by omega, topLive⟩), ?_⟩
            intro another present
            rcases (hasRound_setRoundStatus status another).mp present with rfl | known
            · exact below.le
            · exact bound another known
          · exact atRound fun another known => (bound another known).trans above
        · exact atRound fun another known => (le_latestRoundId known 1).trans newest
    · intro superseded other live
      have stored : ((state.ensureRound roundId .backfill none).putRoundStatus roundId
          status).Live other := live
      exact absurd superseded (activeRoundId_of_live stored 1).1.2

theorem Frontier.roundStep (frontier : Frontier state) (op : RoundOp)
    (stays : state.StaysInFront op) : Progresses state (state.roundStep op) := by
  cases op with
  | startFollowupRound trigger => exact (frontier.startFollowupRound stays trigger).1
  | crashedFollowupRound trigger commits => exact frontier.followupCommits stays.1 trigger stays.2
  | saveArtifact role type payload => exact frontier.saveArtifact stays.1 role type payload stays.2
  | setRoundStatus roundId status => exact frontier.setRoundStatus stays
  | backfillTask => exact frontier.backfillTask stays

end Frontier

theorem frontier_created (start : Nat) : Frontier (created start) := by
  have rounds : (created start).roundStatuses = [(1, .running)] := rfl
  have only : ∀ other, (created start).HasRound other → other = 1 := by
    rintro other ⟨status, member⟩
    rw [rounds] at member
    simp only [List.mem_singleton, Prod.mk.injEq] at member
    exact member.1
  refine ⟨hasRound_one_created start, ?_, ?_⟩
  · intro roundId live
    obtain rfl := only roundId live.1
    exact ⟨1, live, fun other known => (only other known).le⟩
  · intro superseded
    have running : (created start).status = .running := rfl
    rw [running] at superseded
    cases superseded

def MovesForward (state : TaskState) (op : RoundOp) : Prop :=
  state.activeRoundId 1 ≤ (state.roundStep op).activeRoundId 1 ∧
    ∀ trigger, op = .startFollowupRound trigger →
      (state.roundStep op).activeRoundId 1 = (state.startFollowupRound trigger).1 ∧
        (state.roundStep op).roundStatus (state.startFollowupRound trigger).1 ≠ .superseded

/-- In every run, crashes inside `start_followup_round` among its steps, whose
steps keep the newest round in front, the active round only moves forward. -/
theorem active_round_moves_forward (start : Nat) (ops : List RoundOp)
    (stays : Along roundStep StaysInFront (created start) ops) :
    Along roundStep MovesForward (created start) ops := by
  have keeps : ∀ state op, Frontier state → state.StaysInFront op →
      Frontier (state.roundStep op) := by
    intro state op frontier step
    exact (frontier.roundStep op step).frontier
  have moves : ∀ state op, Frontier state → state.StaysInFront op → state.MovesForward op := by
    intro state op frontier step
    refine ⟨(frontier.roundStep op step).activeRoundId_le frontier 1, ?_⟩
    rintro trigger rfl
    obtain ⟨_, active, running⟩ := frontier.startFollowupRound step trigger
    refine ⟨active, ?_⟩
    rw [show state.roundStep (.startFollowupRound trigger) = (state.startFollowupRound trigger).2
      from rfl, running]
    decide
  exact along_of_invariant keeps moves (frontier_created start) stays

theorem active_round_moves_forward_retry :
    let ops : List RoundOp :=
      [.crashedFollowupRound none ((created 0).backfillCommits.length + 1),
        .startFollowupRound none]
    Along roundStep StaysInFront (created 0) ops ∧
      Along roundStep MovesForward (created 0) ops :=
  have stays : Along roundStep StaysInFront (created 0)
      [.crashedFollowupRound none ((created 0).backfillCommits.length + 1),
        .startFollowupRound none] := by decide +kernel
  ⟨stays, active_round_moves_forward 0 _ stays⟩

/-- The first round is completed and the second one waits when its follow-up
crashes after closing it: the completed round is active again, and the retry
returns the superseded second round. -/
theorem crashed_followup_reactivates_completed_round :
    let before := [.setRoundStatus 1 .completed, .startFollowupRound none,
      .setRoundStatus 2 .waitingUser].foldl roundStep (created 0)
    let crashed := before.crashedFollowupRound none (before.backfillCommits.length + 1)
    let retried := crashed.startFollowupRound none
    before.activeRoundId 1 = 2 ∧ crashed.activeRoundId 1 = 1 ∧
      retried.1 = 2 ∧ retried.2.roundStatus 2 = .superseded ∧ retried.2.activeRoundId 1 = 1 := by
  decide +kernel

end TaskState

end Wlcodex.Relay
