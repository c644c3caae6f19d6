import Wlcodex.Lib.Run
import Wlcodex.Relay.CompletionClaim

namespace Wlcodex.Relay

open Wlcodex.Lib

/-! A completion is projected at most once. -/

/-- Recovering `row` for `identity` would write an id that `other` already
holds under a unique index. -/
def FillCollides (identity : Identity) (row other : ClaimRow) : Prop :=
  (row.runtimeEventId = 0 ∧ 0 < identity.eventId ∧
      other.runtimeEventId = identity.eventId) ∨
    (row.agentRunId = none ∧ identity.runId ≠ none ∧ other.agentRunId = identity.runId)

instance (identity : Identity) (row other : ClaimRow) :
    Decidable (FillCollides identity row other) :=
  inferInstanceAs (Decidable ((_ ∧ _) ∨ (_ ∧ _)))

variable {identity : Identity}

theorem FillCollides.sharesId {row other : ClaimRow}
    (collides : FillCollides identity row other) : identity.SharesId other := by
  rcases collides with ⟨_, positive, sameEvent⟩ | ⟨_, named, sameRun⟩
  · exact .inl ⟨positive, sameEvent⟩
  · exact .inr ⟨named, sameRun⟩

private theorem recover_distinct_iff {row other : ClaimRow}
    (now : Nat) (distinct : ClaimRow.Distinct row other) :
    ClaimRow.Distinct (row.recover identity now) other ↔ ¬ FillCollides identity row other := by
  unfold ClaimRow.Distinct FillCollides ClaimRow.recover at *
  cases runEquation : row.agentRunId <;> grind

theorem recover_ok_iff (table : ClaimTable) (identity : Identity) (now : Nat)
    {row : ClaimRow} (member : row ∈ table.rows) :
    (table.rows.map fun stored =>
        if stored.eventKey = row.eventKey then stored.recover identity now
        else stored).Pairwise ClaimRow.Distinct ↔
      ∀ other ∈ table.rows, other ≠ row → ¬ FillCollides identity row other := by
  rw [List.pairwise_map]
  constructor
  · intro pairwise other otherMember different
    have distinct := table.distinct_of_mem member otherMember (Ne.symm different)
    have changed := pairwise.forall member otherMember (Ne.symm different)
    rw [if_pos rfl, if_neg (Ne.symm distinct.1)] at changed
    exact (recover_distinct_iff now distinct).mp changed
  · intro free
    refine table.unique.imp_of_mem ?_
    intro first second firstMember secondMember distinct
    by_cases firstPicked : first.eventKey = row.eventKey
    · have same := table.eq_of_eventKey_eq firstMember member firstPicked
      subst first
      rw [if_pos rfl, if_neg (Ne.symm distinct.1)]
      have different : second ≠ row := fun same => distinct.1 (congrArg _ same.symm)
      exact (recover_distinct_iff now distinct).mpr (free second secondMember different)
    · rw [if_neg firstPicked]
      by_cases secondPicked : second.eventKey = row.eventKey
      · have same := table.eq_of_eventKey_eq secondMember member secondPicked
        subst second
        rw [if_pos rfl]
        have different : first ≠ row := fun same => distinct.1 (congrArg _ same)
        exact ((recover_distinct_iff now distinct.symm).mpr
          (free first firstMember different)).symm
      · rw [if_neg secondPicked]
        exact distinct

theorem newClaimRow_distinct {table : ClaimTable} {key : EventKey}
    (role : Role) (roundId now : Nat) (keyEquation : identity.eventKey? = some key)
    (unselected : ∀ row ∈ table.rows, ¬ identity.Selects row) :
    ∀ stored ∈ table.rows,
      ClaimRow.Distinct (newClaimRow identity key role roundId now) stored := by
  intro stored member
  have missed := unselected stored member
  unfold Identity.Selects Identity.SharesId at missed
  unfold ClaimRow.Distinct newClaimRow
  grind

inductive ClaimOp where
  | claim (roundId : Int) (role : Option Role) (runtimeEventId : Int)
      (agentRunId : Option Int) (leaseSeconds : Int)
  | markApplied (runtimeEventId : Int) (agentRunId : Option Int) (artifactId : Option Nat)
  | markIgnoredStale (runtimeEventId : Int) (agentRunId : Option Int)
  | release (runtimeEventId : Int) (agentRunId : Option Int)
  | tick (elapsed : Nat)
  deriving DecidableEq, Repr

structure ClaimStore where
  now : Nat
  table : ClaimTable
  deriving DecidableEq

namespace ClaimStore

def claimAnswer (store : ClaimStore) : ClaimOp → Option (Except IntegrityError CompletionEventClaim)
  | .claim roundId role event run lease =>
      some ((claimCompletionEventResult store.table store.now roundId role event run lease).map
        Prod.fst)
  | _ => none

def step (store : ClaimStore) : ClaimOp → ClaimStore
  | .claim roundId role event run lease =>
      match claimCompletionEventResult store.table store.now roundId role event run lease with
      | .ok (_, table) => { store with table := table }
      | .error _ => store
  | .markApplied event run artifact =>
      { store with table := markCompletionEventApplied store.table store.now event run artifact }
  | .markIgnoredStale event run =>
      { store with table := markCompletionEventIgnoredStale store.table store.now event run }
  | .release event run =>
      { store with table := releaseCompletionEventClaim store.table event run }
  | .tick elapsed => { store with now := store.now + elapsed }

end ClaimStore

def Contested (table : ClaimTable) (now : Nat) (leaseSeconds : Int)
    (identity : Identity) : Prop :=
  ∃ row ∈ pickRow? table identity, row.Expired now leaseSeconds ∧
    ∃ other ∈ table.rows, other ≠ row ∧ identity.SharesId other ∧
      (other.status = .applied ∨ FillCollides identity row other)

instance (table : ClaimTable) (now : Nat) (leaseSeconds : Int) (identity : Identity) :
    Decidable (Contested table now leaseSeconds identity) :=
  inferInstanceAs (Decidable (∃ row ∈ pickRow? table identity, row.Expired now leaseSeconds ∧
    ∃ other ∈ table.rows, other ≠ row ∧ identity.SharesId other ∧
      (other.status = .applied ∨ FillCollides identity row other)))

def ClaimSound (table : ClaimTable) (now : Nat) (roundId : Int) (role : Option Role)
    (runtimeEventId : Int) (agentRunId : Option Int) (leaseSeconds : Int) : Prop :=
  ∃ claim next,
    claimCompletionEventResult table now roundId role runtimeEventId agentRunId leaseSeconds =
      .ok (claim, next) ∧
    (claim.acquired = true → ∀ row ∈ table.rows, row.status = .applied →
      ¬ (Identity.ofCall runtimeEventId agentRunId).SharesId row)

theorem claim_cases (table : ClaimTable) (now : Nat) (roundId : Int) (role : Option Role)
    (runtimeEventId : Int) (agentRunId : Option Int) (leaseSeconds : Int) :
    let identity := Identity.ofCall runtimeEventId agentRunId
    let outcome :=
      claimCompletionEventResult table now roundId role runtimeEventId agentRunId leaseSeconds
    -- no identity: nothing to own
    (identity.eventKey? = none ∧
      ∃ claim, outcome = .ok (claim, table) ∧ claim.acquired = true) ∨
    -- first claim
    (∃ key next, identity.eventKey? = some key ∧ pickRow? table identity = none ∧
      next.rows = newClaimRow identity key (role.getD .director) (max 1 roundId).toNat now ::
        table.rows ∧
      ∃ claim, outcome = .ok (claim, next) ∧ claim.acquired = true ∧
        claim.eventKey = some key) ∨
    -- a settled or live row refuses
    (∃ row ∈ pickRow? table identity, ¬ row.Expired now leaseSeconds ∧
      ∃ claim, outcome = .ok (claim, table) ∧ claim.acquired = false ∧
        claim.alreadyApplied = decide (row.status ≠ .claimed)) ∨
    -- an expired claim is recovered
    (∃ row next, pickRow? table identity = some row ∧ row.Expired now leaseSeconds ∧
      (∀ other ∈ table.rows, other ≠ row → ¬ FillCollides identity row other) ∧
      next.rows = table.rows.map (fun stored =>
        if stored.eventKey = row.eventKey then stored.recover identity now else stored) ∧
      ∃ claim, outcome = .ok (claim, next) ∧ claim.acquired = true ∧
        claim.eventKey = some row.eventKey) ∨
    -- its recovery meets a unique index
    (∃ row ∈ pickRow? table identity, row.Expired now leaseSeconds ∧
      (∃ other ∈ table.rows, other ≠ row ∧ FillCollides identity row other) ∧
      outcome = .error .uniqueIndex) := by
  intro identity outcome
  have outcomeEquation : outcome = claimCompletionEventResult table now roundId role
    runtimeEventId agentRunId leaseSeconds := rfl
  unfold claimCompletionEventResult at outcomeEquation
  simp only at outcomeEquation
  split at outcomeEquation
  · rename_i keyEquation
    exact .inl ⟨keyEquation, _, outcomeEquation, rfl⟩
  · rename_i key keyEquation
    right
    cases picked : pickRow? table identity with
    | none =>
        left
        have fresh := newClaimRow_distinct (role.getD .director) (max 1 roundId).toNat now
          keyEquation (pickRow?_eq_none_iff.mp picked)
        simp only [identity] at picked
        simp only [picked, ClaimTable.insert?] at outcomeEquation
        rw [dif_pos fresh] at outcomeEquation
        exact ⟨key, _, keyEquation, rfl, rfl, _, outcomeEquation, rfl, rfl⟩
    | some row =>
        right
        have member := pickRow?_mem picked
        simp only [identity] at picked
        simp only [picked] at outcomeEquation
        split at outcomeEquation
        · rename_i settled
          left
          refine ⟨row, rfl, fun expired => settled expired.1, _, outcomeEquation, rfl, ?_⟩
          simp [settled]
        · rename_i unsettled
          have claimed : row.status = .claimed := by simpa using unsettled
          split at outcomeEquation
          · rename_i live
            left
            refine ⟨row, rfl, fun expired => ?_, _, outcomeEquation, rfl, ?_⟩
            · exact absurd expired.2 (by omega)
            · simp [claimed]
          · rename_i stale
            right
            have expired : row.Expired now leaseSeconds := ⟨claimed, by omega⟩
            simp only [ClaimTable.update?] at outcomeEquation
            by_cases free : ∀ other ∈ table.rows, other ≠ row → ¬ FillCollides identity row other
            · left
              rw [dif_pos ((recover_ok_iff table identity now member).mpr free)] at outcomeEquation
              exact ⟨row, _, rfl, expired, free, rfl, _, outcomeEquation, rfl, rfl⟩
            · right
              rw [dif_neg (mt (recover_ok_iff table identity now member).mp free)]
                at outcomeEquation
              push Not at free
              exact ⟨row, rfl, expired, free, outcomeEquation⟩

theorem claimSound_iff (table : ClaimTable) (now : Nat) (roundId : Int) (role : Option Role)
    (runtimeEventId : Int) (agentRunId : Option Int) (leaseSeconds : Int) :
    ClaimSound table now roundId role runtimeEventId agentRunId leaseSeconds ↔
      ¬ Contested table now leaseSeconds (Identity.ofCall runtimeEventId agentRunId) := by
  unfold ClaimSound Contested
  rcases claim_cases table now roundId role runtimeEventId agentRunId leaseSeconds with
    ⟨keyless, claim, outcome, acquired⟩ |
    ⟨key, next, keyEquation, picked, rows, claim, outcome, acquired, claimKey⟩ |
    ⟨row, picked, unexpired, claim, outcome, refused, settled⟩ |
    ⟨row, next, picked, expired, free, rows, claim, outcome, acquired, claimKey⟩ |
    ⟨row, picked, expired, ⟨other, member, different, collides⟩, outcome⟩
  · have unshared : ∀ row, ¬ (Identity.ofCall runtimeEventId agentRunId).SharesId row := by
      intro row shares
      unfold Identity.eventKey? at keyless
      unfold Identity.SharesId at shares
      grind
    refine iff_of_true ⟨claim, table, outcome, fun _ row _ _ => unshared row⟩ ?_
    rintro ⟨row, _, _, other, _, _, shares, _⟩
    exact unshared other shares
  · have unselected := pickRow?_eq_none_iff.mp picked
    refine iff_of_true ⟨claim, next, outcome, ?_⟩ (by simp [picked])
    intro _ row member _ shares
    exact unselected row member (.inr shares)
  · refine iff_of_true ⟨claim, table, outcome, by simp [refused]⟩ ?_
    rintro ⟨contested, contestedPicked, expired, _⟩
    have same : row = contested := Option.some.inj (picked.symm.trans contestedPicked)
    exact unexpired (same ▸ expired)
  · constructor
    · rintro ⟨answer, after, returned, sound⟩ ⟨contested, contestedPicked, _, other,
        member, different, shares, applied | collides⟩
      · have sameAnswer : claim = answer := by
          rw [outcome] at returned
          exact congrArg Prod.fst (Except.ok.inj returned)
        exact sound (sameAnswer ▸ acquired) other member applied shares
      · have same : row = contested := Option.some.inj (picked.symm.trans contestedPicked)
        subst contested
        exact free other member different collides
    · intro uncontested
      refine ⟨claim, next, outcome, ?_⟩
      intro _ other member applied shares
      refine uncontested ⟨row, picked, expired, other, member, ?_, shares, .inl applied⟩
      rintro rfl
      rw [expired.1] at applied
      cases applied
  · refine iff_of_false ?_ (fun uncontested => uncontested
      ⟨row, picked, expired, other, member, different, collides.sharesId, .inr collides⟩)
    rintro ⟨answer, after, returned, _⟩
    rw [outcome] at returned
    cases returned

def HoldsApplied (event : Nat) (run : Option Nat) (store : ClaimStore) : Prop :=
  ∃ row ∈ store.table.rows, row.status = .applied ∧
    row.runtimeEventId = event ∧ row.agentRunId = run

theorem holdsApplied_step (event : Nat) (run : Option Nat) (store : ClaimStore) (op : ClaimOp)
    (holds : HoldsApplied event run store) : HoldsApplied event run (store.step op) := by
  obtain ⟨row, member, applied, sameEvent, sameRun⟩ := holds
  cases op with
  | claim roundId role callEvent callRun lease =>
      rcases claim_cases store.table store.now roundId role callEvent callRun lease with
        ⟨_, claim, outcome, _⟩ | ⟨key, next, _, _, rows, claim, outcome, _⟩ |
        ⟨_, _, _, claim, outcome, _⟩ |
        ⟨picked, next, pickedEquation, expired, _, rows, claim, outcome, _⟩ |
        ⟨_, _, _, _, outcome⟩
      · exact ⟨row, by simpa [ClaimStore.step, outcome] using member,
          applied, sameEvent, sameRun⟩
      · exact ⟨row, by simp [ClaimStore.step, outcome, rows, member],
          applied, sameEvent, sameRun⟩
      · exact ⟨row, by simpa [ClaimStore.step, outcome] using member,
          applied, sameEvent, sameRun⟩
      · have otherKey : row.eventKey ≠ picked.eventKey := by
          intro sameKey
          have same := store.table.eq_of_eventKey_eq member (pickRow?_mem pickedEquation) sameKey
          subst row
          rw [expired.1] at applied
          cases applied
        refine ⟨row, ?_, applied, sameEvent, sameRun⟩
        simp only [ClaimStore.step, outcome, rows, List.mem_map]
        exact ⟨row, member, if_neg otherKey⟩
      · exact ⟨row, by simpa [ClaimStore.step, outcome] using member,
          applied, sameEvent, sameRun⟩
  | markApplied callEvent callRun artifact =>
      refine ⟨_, List.mem_map_of_mem member, ?_⟩
      split
      · exact ⟨rfl, sameEvent, sameRun⟩
      · exact ⟨applied, sameEvent, sameRun⟩
  | markIgnoredStale callEvent callRun =>
      refine ⟨_, List.mem_map_of_mem member, ?_⟩
      rw [if_neg (by simp [applied])]
      exact ⟨applied, sameEvent, sameRun⟩
  | release callEvent callRun =>
      refine ⟨row, List.mem_filter.mpr ⟨member, ?_⟩, applied, sameEvent, sameRun⟩
      simp [applied]
  | tick elapsed => exact ⟨row, member, applied, sameEvent, sameRun⟩

def Uncontested (store : ClaimStore) : ClaimOp → Prop
  | .claim _ _ event run lease =>
      ¬ Contested store.table store.now lease (Identity.ofCall event run)
  | _ => True

instance (store : ClaimStore) : DecidablePred (Uncontested store)
  | .claim _ _ _ _ lease =>
      inferInstanceAs (Decidable (¬ Contested store.table store.now lease _))
  | .markApplied .. => isTrue trivial
  | .markIgnoredStale .. => isTrue trivial
  | .release .. => isTrue trivial
  | .tick .. => isTrue trivial

def Returns (store : ClaimStore) (op : ClaimOp) : Prop :=
  ∀ answer ∈ store.claimAnswer op, ∃ claim, answer = .ok claim

def DoesNotAcquire (event : Nat) (run : Option Nat) (store : ClaimStore) : ClaimOp → Prop
  | .claim roundId role callEvent callRun lease =>
      let identity := Identity.ofCall callEvent callRun
      ((0 < identity.eventId ∧ event = identity.eventId) ∨
          (identity.runId ≠ none ∧ run = identity.runId)) →
        ∀ claim next,
          claimCompletionEventResult store.table store.now roundId role callEvent callRun lease =
            .ok (claim, next) → claim.acquired = false
  | _ => True

theorem returns_of_uncontested (store : ClaimStore) (op : ClaimOp)
    (uncontested : Uncontested store op) : Returns store op := by
  cases op with
  | claim roundId role event run lease =>
      obtain ⟨claim, next, outcome, _⟩ :=
        (claimSound_iff store.table store.now roundId role event run lease).mpr uncontested
      intro answer member
      simp only [ClaimStore.claimAnswer, Option.mem_def, Option.some.injEq] at member
      exact ⟨claim, by rw [← member, outcome]; rfl⟩
  | _ => simp [Returns, ClaimStore.claimAnswer]

theorem doesNotAcquire_of_holdsApplied {event : Nat} {run : Option Nat}
    (store : ClaimStore) (op : ClaimOp) (holds : HoldsApplied event run store)
    (uncontested : Uncontested store op) : DoesNotAcquire event run store op := by
  cases op with
  | claim roundId role callEvent callRun lease =>
      intro sharesRecorded claim next outcome
      obtain ⟨row, member, applied, rfl, rfl⟩ := holds
      obtain ⟨answer, after, returned, sound⟩ :=
        (claimSound_iff store.table store.now roundId role callEvent callRun lease).mpr
          uncontested
      rw [outcome] at returned
      cases returned
      by_contra acquired
      exact sound (by simpa using acquired) row member applied sharesRecorded
  | _ => trivial

/-- A claim call is sound exactly when its identity is not contested; and in
every run whose claim calls are uncontested, no claim raises and no completion
is acquired again after it was applied under the same event or run. -/
theorem completion_projected_at_most_once (store : ClaimStore) (before after : List ClaimOp) :
    (∀ now roundId role runtimeEventId agentRunId leaseSeconds,
      ClaimSound store.table now roundId role runtimeEventId agentRunId leaseSeconds ↔
        ¬ Contested store.table now leaseSeconds
          (Identity.ofCall runtimeEventId agentRunId)) ∧
    (Along ClaimStore.step Uncontested store (before ++ after) →
      Along ClaimStore.step Returns store (before ++ after) ∧
      ∀ row ∈ (before.foldl ClaimStore.step store).table.rows, row.status = .applied →
        Along ClaimStore.step (DoesNotAcquire row.runtimeEventId row.agentRunId)
          (before.foldl ClaimStore.step store) after) := by
  refine ⟨claimSound_iff store.table, ?_⟩
  intro uncontested
  constructor
  · exact along_mono (fun state op ok => returns_of_uncontested state op ok) uncontested
  · intro row member applied
    exact along_of_invariant
      (fun state op holds _ => holdsApplied_step row.runtimeEventId row.agentRunId state op holds)
      (fun state op holds ok => doesNotAcquire_of_holdsApplied state op holds ok)
      ⟨row, member, applied, rfl, rfl⟩ ((along_append store before after).mp uncontested).2

theorem completion_projected_at_most_once_run :
    let before : List ClaimOp :=
      [.claim 1 (some .tester) 5 (some 7) 900, .markApplied 5 (some 7) (some 3)]
    let after : List ClaimOp :=
      [.tick 901000000, .claim 1 (some .tester) 5 none 900, .claim 1 (some .auditor) 6 (some 8) 900]
    Along ClaimStore.step Uncontested ⟨0, .empty⟩ (before ++ after) ∧
      Along ClaimStore.step (DoesNotAcquire 5 (some 7)) (before.foldl ClaimStore.step ⟨0, .empty⟩)
        after := by
  intro before after
  have uncontested : Along ClaimStore.step Uncontested ⟨0, .empty⟩ (before ++ after) := by
    decide
  refine ⟨uncontested, ?_⟩
  let applied : ClaimRow :=
    { newClaimRow ⟨5, some 7⟩ (.agent 7) .tester 1 0 with
      status := .applied, artifactId := some 3 }
  exact ((completion_projected_at_most_once ⟨0, .empty⟩ before after).2 uncontested).2 applied
    (by decide) rfl

/-- Event 5 without a run and run 7 without an event are claimed and their
leases pass: the claim of event 5 of run 7 raises.  Event 5 without a run is
applied, run 7 is claimed under event 9 and its lease passes: event 5 of run 7
is acquired a second time. -/
theorem completion_claim_raises_and_applies_twice :
    let split : List ClaimOp :=
      [.claim 1 (some .tester) 5 none 900, .claim 1 (some .tester) 0 (some 7) 900,
        .tick 901000000]
    let shadowed : List ClaimOp :=
      [.claim 1 (some .tester) 5 none 900, .markApplied 5 none (some 3),
        .claim 1 (some .tester) 9 (some 7) 900, .tick 901000000]
    let call : ClaimOp := .claim 1 (some .tester) 5 (some 7) 900
    ¬ Returns (split.foldl ClaimStore.step ⟨0, .empty⟩) call ∧
      ∃ row ∈ (shadowed.foldl ClaimStore.step ⟨0, .empty⟩).table.rows, row.status = .applied ∧
        ¬ DoesNotAcquire row.runtimeEventId row.agentRunId
          (shadowed.foldl ClaimStore.step ⟨0, .empty⟩) call := by
  intro split shadowed call
  constructor
  · intro returns
    obtain ⟨claim, outcome⟩ := returns (.error .uniqueIndex) (by decide)
    cases outcome
  · let applied : ClaimRow :=
      { newClaimRow ⟨5, none⟩ (.runtime 5) .tester 1 0 with
        status := .applied, artifactId := some 3 }
    refine ⟨applied, by decide, rfl, ?_⟩
    intro refuses
    let store := shadowed.foldl ClaimStore.step ⟨0, .empty⟩
    have acquired : (claimCompletionEventResult store.table store.now 1 (some .tester) 5 (some 7)
        900).toOption.map (fun answer => answer.1.acquired) = some true := by
      decide
    cases outcome : claimCompletionEventResult store.table store.now 1 (some .tester) 5
        (some 7) 900 with
    | error _ =>
        rw [outcome] at acquired
        cases acquired
    | ok answer =>
        have refused := refuses (by decide) answer.1 answer.2 outcome
        rw [outcome] at acquired
        simp only [Except.toOption, Option.map_some, Option.some.injEq] at acquired
        rw [refused] at acquired
        cases acquired

end Wlcodex.Relay
