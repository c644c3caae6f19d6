import Wlcodex.Runtime.ExclusiveLeases

namespace Wlcodex.Runtime

open Wlcodex.Lib
open Wlcodex.Relay (strip)

/-! A queued run stays claimable until an event that it caused ends it. -/

/-- `start_chief_engineer`: `run.started` is written before the launch returns. -/
def LeaseOp.startChiefEngineer (conversationId : Nat) (causationId : Option Nat) : LeaseOp :=
  .append .started causationId (some conversationId)

namespace LeaseStore

def Finished (store : LeaseStore) (queued : LeaseRow) : Prop :=
  ∃ row ∈ store.rows, row.causationId = some queued.id ∧
    row.kind ∈ [.consumed, .plain .started, .plain .recoveryRequired]

structure Waiting (store : LeaseStore) (queued : LeaseRow) : Prop where
  stored : queued ∈ store.rows
  isQueued : queued.kind = .plain .queued
  unfinished : ¬ store.Finished queued

def Leased (store : LeaseStore) (time : Nat) (queued : LeaseRow) : Prop :=
  ∃ latest owner expiresAt, store.latestLease? queued.id = some latest ∧
    latest.kind = .claimed owner expiresAt ∧ time < expiresAt

structure Due (store : LeaseStore) (workspace : String) (time : Nat) (queued : LeaseRow) : Prop where
  waiting : store.Waiting queued
  located : queued.conversationId.bind store.workspaceOf = some workspace
  free : ¬ store.Leased time queued
  oldest : ∀ earlier, store.Waiting earlier → earlier.id < queued.id →
    earlier.conversationId.bind store.workspaceOf = some workspace → store.Leased time earlier

/-- The compatibility clause of `_queued_run_is_consumed_locked`. -/
def Outrun (store : LeaseStore) (queued : LeaseRow) : Prop :=
  ∃ row ∈ store.rows, row.conversationId.isSome ∧ row.conversationId = queued.conversationId ∧
    row.id > queued.id ∧ row.causationId = none ∧ row.kind ∈ [.consumed, .plain .started]

end LeaseStore

section Claims

variable (words : WordClass)

def KeepsQueued (store : LeaseStore) : Prop :=
  ∀ workspaceAlias leaseOwner seconds waited queued, strip workspaceAlias ≠ "" → strip leaseOwner ≠ "" →
    store.Due (strip workspaceAlias) (store.now - waited) queued →
      (store.claimNextQueuedRunForWorkspace words workspaceAlias leaseOwner seconds waited).claims =
        ⟨queued.id, queued.conversationId, store.nextId, strip workspaceAlias, strip leaseOwner⟩ :: store.claims

end Claims

def Undisturbing (store : LeaseStore) : LeaseOp → Prop
  | .append .started none (some conversationId) =>
      ∀ queued, store.Waiting queued → queued.conversationId ≠ some conversationId
  | _ => True

def Unhurried (store : LeaseStore) : Prop :=
  ∀ queued, store.Waiting queued → ¬ store.Outrun queued

namespace LeaseStore

variable {words : WordClass} {store : LeaseStore}

variable {queued : LeaseRow}

theorem isConsumed_iff :
    store.isConsumed queued = true ↔ store.Finished queued ∨ store.Outrun queued := by
  simp only [isConsumed, Bool.or_eq_true, List.any_eq_true, decide_eq_true_eq]
  exact Iff.rfl

theorem leased_iff {time : Nat} :
    store.Leased time queued ↔ ¬ ∀ latest ∈ store.latestLease? queued.id, expiredAt time latest.kind := by
  cases found : store.latestLease? queued.id with
  | none => simp [Leased, found]
  | some latest =>
      cases kind : latest.kind <;> simp [Leased, found, kind, expiredAt]

theorem claimable_iff (unhurried : Unhurried store) {workspace : String} {time : Nat}
    (stored : queued ∈ store.rows) :
    store.Claimable workspace time queued ↔
      store.Waiting queued ∧ queued.conversationId.bind store.workspaceOf = some workspace ∧
        ¬ store.Leased time queued := by
  rw [leased_iff, not_not]
  constructor
  · intro ⟨kind, workspace, consumed, expired⟩
    refine ⟨⟨stored, kind, fun finished => ?_⟩, workspace, expired⟩
    rw [isConsumed_iff.mpr (.inl finished)] at consumed
    cases consumed
  · intro ⟨waiting, workspace, expired⟩
    refine ⟨waiting.isQueued, workspace, ?_, expired⟩
    rw [← Bool.not_eq_true, isConsumed_iff, not_or]
    exact ⟨waiting.unfinished, unhurried queued waiting⟩

theorem nextQueued?_of_due (settled : Settled store) (unhurried : Unhurried store) {workspace : String}
    {time : Nat} (due : store.Due workspace time queued) :
    store.nextQueued? workspace time = some queued := by
  have claimable : store.Claimable workspace time queued :=
    (claimable_iff unhurried due.waiting.stored).mpr ⟨due.waiting, due.located, due.free⟩
  cases found : store.nextQueued? workspace time with
  | none =>
      have skipped := List.find?_eq_none.mp found queued (List.mem_reverse.mpr due.waiting.stored)
      exact absurd (decide_eq_true claimable) skipped
  | some first =>
      obtain ⟨stored, firstClaimable⟩ := nextQueued?_spec found
      have notAfter : ¬ queued.id < first.id := fun before =>
        nextQueued?_oldest settled.ordered found due.waiting.stored before claimable
      have notBefore : ¬ first.id < queued.id := by
        intro before
        obtain ⟨waiting, same, free⟩ := (claimable_iff unhurried stored).mp firstClaimable
        exact free (due.oldest first waiting before same)
      rw [settled.eq_of_id stored due.waiting.stored (by omega)]

theorem keepsQueued (settled : Settled store) (unhurried : Unhurried store) : KeepsQueued words store := by
  intro workspaceAlias leaseOwner seconds waited queued workspace owner due
  have found := nextQueued?_of_due settled unhurried due
  simp only [claimNextQueuedRunForWorkspace, workspace, owner, or_self, ↓reduceIte, found]

theorem Finished.append (finished : store.Finished queued) (kind : LeaseKind)
    (causationId conversationId : Option Nat) : (store.append kind causationId conversationId).Finished queued := by
  obtain ⟨row, member, caused, ends⟩ := finished
  exact ⟨row, mem_append.mpr (.inr member), caused, ends⟩

end LeaseStore

namespace Unhurried

variable {words : WordClass} {store : LeaseStore}

theorem later (unhurried : Unhurried store) (workspaceOf : Nat → Option String) (now : Nat)
    (claims : List QueuedRunClaim) : Unhurried { store with workspaceOf, claims, now } :=
  fun queued waiting => unhurried queued ⟨waiting.stored, waiting.isQueued, waiting.unfinished⟩

theorem append (unhurried : Unhurried store) (settled : Settled store) {kind : LeaseKind}
    {causationId conversationId : Option Nat}
    (harmless : causationId = none → conversationId.isSome → kind ∈ [.consumed, .plain .started] →
      ∀ queued, store.Waiting queued → queued.conversationId ≠ conversationId) :
    Unhurried (store.append kind causationId conversationId) := by
  intro queued waiting ⟨row, member, located, same, after, uncaused, ends⟩
  have below : queued ∈ store.rows := by
    rcases LeaseStore.mem_append.mp waiting.stored with rfl | stored
    · rcases LeaseStore.mem_append.mp member with rfl | old
      · exact absurd after (Nat.lt_irrefl _)
      · exact absurd after (Nat.lt_asymm (settled.below row old))
    · exact stored
  have before : store.Waiting queued :=
    ⟨below, waiting.isQueued, fun finished => waiting.unfinished (finished.append kind causationId conversationId)⟩
  rcases LeaseStore.mem_append.mp member with rfl | old
  · exact harmless uncaused located ends queued before same.symm
  · exact unhurried queued before ⟨row, old, located, same, after, uncaused, ends⟩

theorem caused (unhurried : Unhurried store) (settled : Settled store) (kind : LeaseKind) (cause : Nat)
    (conversationId : Option Nat) : Unhurried (store.append kind (some cause) conversationId) :=
  unhurried.append settled fun uncaused => by cases uncaused

theorem step (unhurried : Unhurried store) (settled : Settled store) (op : LeaseOp)
    (undisturbing : Undisturbing store op) : Unhurried (leaseStep words store op) := by
  cases op with
  | claim workspaceAlias leaseOwner seconds waited =>
      unfold leaseStep
      dsimp only
      rcases store.claimNextQueuedRunForWorkspace_cases words workspaceAlias leaseOwner seconds waited with
        same | ⟨queued, _, granted⟩
      · rw [same]
        exact unhurried
      · rw [granted]
        exact (unhurried.caused settled _ queued.id queued.conversationId).later store.workspaceOf store.now _
  | release claim =>
      unfold leaseStep LeaseStore.releaseQueuedRunClaim
      dsimp only
      split
      · exact unhurried.caused settled _ claim.queuedId claim.conversationId
      · exact unhurried
  | consume claim =>
      unfold leaseStep LeaseStore.consumeQueuedRunClaim
      dsimp only
      split
      · exact unhurried
      · split
        · exact unhurried.caused settled _ claim.queuedId claim.conversationId
        · exact unhurried
  | append kind causationId conversationId =>
      refine unhurried.append settled ?_
      rintro rfl located ends
      obtain ⟨conversation, rfl⟩ := Option.isSome_iff_exists.mp located
      cases kind with
      | started => exact undisturbing
      | queued | recoveryRequired | other => simp at ends
  | session conversationId workspaceAlias => exact unhurried.later _ store.now store.claims
  | tick elapsed => exact unhurried.later store.workspaceOf _ store.claims

end Unhurried

section Runs

variable (words : WordClass)

/-- In a run in which no run starts without a cause while another one of its
conversation waits, the run that is due is always handed out. -/
theorem queued_stays_claimable (ops : List LeaseOp) (undisturbed : Along (leaseStep words) Undisturbing .empty ops)
    (passed : Nat) : KeepsQueued words ((ops.take passed).foldl (leaseStep words) .empty) := by
  have started : Settled .empty ∧ Unhurried .empty :=
    ⟨settled_empty, fun _ waiting => (List.not_mem_nil waiting.stored).elim⟩
  have keeps : ∀ store op, Settled store ∧ Unhurried store → Undisturbing store op →
      Settled (leaseStep words store op) ∧ Unhurried (leaseStep words store op) :=
    fun _ op kept undisturbing => ⟨settled_step kept.1 op, kept.2.step kept.1 op undisturbing⟩
  have reached : Along (leaseStep words) Undisturbing .empty (ops.take passed) := by
    rw [← List.take_append_drop passed ops, along_append] at undisturbed
    exact undisturbed.1
  obtain ⟨settled, unhurried⟩ := invariant_foldl keeps started reached
  exact LeaseStore.keepsQueued settled unhurried

end Runs

def launchedInTurn : List LeaseOp :=
  [.session 1 (some "main"), .append .queued none (some 1), .startChiefEngineer 1 (some 1),
    .startChiefEngineer 1 none, .append .queued none (some 1)]

theorem launchedInTurn_stays_claimable :
    Along (leaseStep plainWords) Undisturbing .empty launchedInTurn ∧
      KeepsQueued plainWords ((launchedInTurn.take 5).foldl (leaseStep plainWords) .empty) := by
  have undisturbed : Along (leaseStep plainWords) Undisturbing .empty launchedInTurn := by
    refine ⟨trivial, trivial, trivial, fun queued waiting => ?_, trivial, trivial⟩
    -- the queued event is the first row, and the second row was started by it
    have rows : queued = ⟨2, .plain .started, some 1, some 1⟩ ∨ queued = ⟨1, .plain .queued, none, some 1⟩ := by
      simpa [LeaseOp.startChiefEngineer, leaseStep, LeaseStore.append, LeaseStore.empty] using waiting.stored
    rcases rows with rfl | rfl
    · cases waiting.isQueued
    · exact absurd ⟨⟨2, .plain .started, some 1, some 1⟩, List.mem_cons_self, rfl, by decide⟩ waiting.unfinished
  exact ⟨undisturbed, queued_stays_claimable plainWords launchedInTurn undisturbed 5⟩

def launchedPast : List LeaseOp :=
  [.session 1 (some "main"), .append .queued none (some 1), .startChiefEngineer 1 none]

theorem direct_start_loses_queued_run :
    ¬ KeepsQueued plainWords (launchedPast.foldl (leaseStep plainWords) .empty) := by
  intro keeps
  have claimed := keeps "main" "worker" 300 0 ⟨1, .plain .queued, none, some 1⟩ (by decide) (by decide)
  have due : (launchedPast.foldl (leaseStep plainWords) .empty).Due "main" 0 ⟨1, .plain .queued, none, some 1⟩ := by
    have rows : (launchedPast.foldl (leaseStep plainWords) .empty).rows =
        [⟨2, .plain .started, none, some 1⟩, ⟨1, .plain .queued, none, some 1⟩] := rfl
    refine ⟨⟨?_, rfl, ?_⟩, rfl, ?_, ?_⟩
    · rw [rows]
      exact List.mem_cons_of_mem _ List.mem_cons_self
    · rintro ⟨row, member, caused, _⟩
      rw [rows, List.mem_cons, List.mem_singleton] at member
      rcases member with rfl | rfl <;> cases caused
    · rintro ⟨latest, _, _, found, _⟩
      cases found
    · intro earlier waiting before
      have stored := waiting.stored
      rw [rows, List.mem_cons, List.mem_singleton] at stored
      rcases stored with rfl | rfl <;> exact absurd before (by decide)
  exact List.cons_ne_nil _ _ (claimed due).symm

end Wlcodex.Runtime
