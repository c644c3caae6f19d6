import Wlcodex.Lib.FirstMatch
import Wlcodex.Runtime.QueuedLeases

namespace Wlcodex.Runtime

open Wlcodex.Lib
open Wlcodex.Relay (strip)

/-! At every time at most one lease of a queued run is live, and it is consumed at most once. -/

namespace LeaseStore

def Ended (store : LeaseStore) (row : LeaseRow) : Prop :=
  ∃ later ∈ store.rows, row.id < later.id ∧ later.causationId = row.causationId ∧
    (later.kind = .released ∨ later.kind = .consumed)

def Live (store : LeaseStore) (row : LeaseRow) : Prop :=
  row ∈ store.rows ∧ (∃ owner expiresAt, row.kind = .claimed owner expiresAt ∧ store.now < expiresAt) ∧
    ¬ store.Ended row

def Owns (store : LeaseStore) (claim : QueuedRunClaim) : Prop :=
  ∃ latest, store.latestLease? claim.queuedId = some latest ∧
    ∃ held ∈ store.claims, held.claimId = latest.id ∧ held.leaseOwner = claim.leaseOwner

end LeaseStore

/-- At most one claim of an event is live, and at most one consumption was appended. -/
structure Exclusive (store : LeaseStore) : Prop where
  live : ∀ first second, store.Live first → store.Live second → first.causationId = second.causationId →
    first = second
  consumed : ∀ first ∈ store.rows, ∀ second ∈ store.rows, first.kind = .consumed → second.kind = .consumed →
    first.causationId = second.causationId → first = second

section Leases

variable (words : WordClass)

def Orderly (store : LeaseStore) : LeaseOp → Prop
  | .claim workspaceAlias leaseOwner seconds waited =>
      (store.claimNextQueuedRunForWorkspace words workspaceAlias leaseOwner seconds waited).rows = store.rows ∨
        ∃ queued ∈ store.rows, store.Claimable (strip workspaceAlias) (store.now - waited) queued ∧
          (∀ earlier ∈ store.rows, earlier.id < queued.id →
            ¬ store.Claimable (strip workspaceAlias) (store.now - waited) earlier) ∧
          ∃ claimed, (store.claimNextQueuedRunForWorkspace words workspaceAlias leaseOwner seconds waited).rows =
            claimed :: store.rows ∧ claimed.causationId = some queued.id
  | .release claim => ¬ store.Owns claim → (store.releaseQueuedRunClaim claim).rows = store.rows
  | .consume claim => ¬ store.Owns claim → (store.consumeQueuedRunClaim claim).rows = store.rows
  | _ => True

def Unmistaken (store : LeaseStore) : LeaseOp → Prop
  | .release claim | .consume claim =>
      ∀ latest, store.latestLease? claim.queuedId = some latest →
        ∀ held ∈ store.claims, held.claimId = latest.id →
          storedOwner words held.leaseOwner = claim.leaseOwner → held.leaseOwner = claim.leaseOwner
  | _ => True

end Leases

def Newer (newer older : LeaseRow) : Prop := older.id < newer.id

namespace LeaseStore

variable {store : LeaseStore} {kind : LeaseKind} {causationId conversationId : Option Nat}

variable {row : LeaseRow}

theorem mem_append :
    row ∈ (store.append kind causationId conversationId).rows ↔
      row = ⟨store.nextId, kind, causationId, conversationId⟩ ∨ row ∈ store.rows :=
  List.mem_cons

theorem Ended.append (ended : store.Ended row) :
    (store.append kind causationId conversationId).Ended row := by
  obtain ⟨later, member, after, same, kinds⟩ := ended
  exact ⟨later, mem_append.mpr (.inr member), after, same, kinds⟩

variable {queuedId : Nat}

theorem latestLease?_spec {latest : LeaseRow} (found : store.latestLease? queuedId = some latest) :
    latest ∈ store.rows ∧ latest.causationId = some queuedId ∧ latest.kind.isLease := by
  have chosen := List.find?_some found
  simp only [decide_eq_true_eq] at chosen
  exact ⟨List.mem_of_find?_eq_some found, chosen⟩

theorem eq_or_newer_latestLease? (ordered : store.rows.Pairwise Newer) {latest : LeaseRow}
    (found : store.latestLease? queuedId = some latest) (member : row ∈ store.rows)
    (cause : row.causationId = some queuedId) (lease : row.kind.isLease) : row = latest ∨ Newer latest row :=
  eq_or_of_find?_eq_some ordered found member (decide_eq_true ⟨cause, lease⟩)

theorem exists_latestLease? (member : row ∈ store.rows)
    (cause : row.causationId = some queuedId) (lease : row.kind.isLease) :
    ∃ latest, store.latestLease? queuedId = some latest := by
  cases found : store.latestLease? queuedId with
  | none =>
      have skipped := List.find?_eq_none.mp found row member
      simp [cause, lease] at skipped
  | some latest => exact ⟨latest, rfl⟩

end LeaseStore

/-- A newer claim of an event finds the older ones over, and no companion follows a
consumption. -/
structure Settled (store : LeaseStore) : Prop where
  ordered : store.rows.Pairwise Newer
  below : ∀ row ∈ store.rows, row.id < store.nextId
  superseded : ∀ older ∈ store.rows, ∀ newer ∈ store.rows, older.id < newer.id →
    older.causationId = newer.causationId → (∃ owner expiresAt, newer.kind = .claimed owner expiresAt) →
      ∀ owner expiresAt, older.kind = .claimed owner expiresAt → expiresAt ≤ store.now ∨ store.Ended older
  final : ∀ older ∈ store.rows, older.kind = .consumed → ∀ newer ∈ store.rows, older.id < newer.id →
    newer.causationId = older.causationId → newer.kind.isLease = false

namespace Settled

variable {store : LeaseStore}

theorem eq_of_id (settled : Settled store) {first second : LeaseRow} (firstStored : first ∈ store.rows)
    (secondStored : second ∈ store.rows) (same : first.id = second.id) : first = second := by
  have distinct : (store.rows.map LeaseRow.id).Nodup :=
    List.pairwise_map.mpr (settled.ordered.imp fun newer => Nat.ne_of_gt newer)
  exact List.inj_on_of_nodup_map distinct firstStored secondStored same

theorem exclusive (settled : Settled store) : Exclusive store where
  live := by
    have older_dies : ∀ older newer, store.Live older → store.Live newer →
        older.causationId = newer.causationId → ¬ older.id < newer.id := by
      intro older newer olderLive newerLive same before
      obtain ⟨olderStored, ⟨owner, expiresAt, olderKind, running⟩, standing⟩ := olderLive
      obtain ⟨newerStored, ⟨newOwner, newExpiry, newerKind, _⟩, _⟩ := newerLive
      rcases settled.superseded older olderStored newer newerStored before same ⟨newOwner, newExpiry, newerKind⟩
          owner expiresAt olderKind with expired | ended
      · omega
      · exact standing ended
    intro first second firstLive secondLive same
    refine settled.eq_of_id firstLive.1 secondLive.1 ?_
    have notBefore := older_dies first second firstLive secondLive same
    have notAfter := older_dies second first secondLive firstLive same.symm
    omega
  consumed := by
    have none_after : ∀ older ∈ store.rows, ∀ newer ∈ store.rows, older.kind = .consumed →
        newer.kind = .consumed → newer.causationId = older.causationId → ¬ older.id < newer.id := by
      intro older olderStored newer newerStored olderKind newerKind same before
      have plain := settled.final older olderStored olderKind newer newerStored before same
      rw [newerKind] at plain
      cases plain
    intro first firstStored second secondStored firstKind secondKind same
    refine settled.eq_of_id firstStored secondStored ?_
    have notBefore := none_after first firstStored second secondStored firstKind secondKind same.symm
    have notAfter := none_after second secondStored first firstStored secondKind firstKind same
    omega

theorem later (settled : Settled store) (workspaceOf : Nat → Option String) (claims : List QueuedRunClaim)
    {now : Nat} (later : store.now ≤ now) : Settled { store with workspaceOf, claims, now } where
  ordered := settled.ordered
  below := settled.below
  superseded := by
    intro older olderStored newer newerStored before same newerKind owner expiresAt olderKind
    rcases settled.superseded older olderStored newer newerStored before same newerKind owner expiresAt olderKind
      with expired | ended
    · exact .inl (expired.trans later)
    · exact .inr ended
  final := settled.final

variable {kind : LeaseKind} {causationId : Option Nat}

theorem append (settled : Settled store) (conversationId : Option Nat)
    (claims : (∃ owner expiresAt, kind = .claimed owner expiresAt) → ∀ older ∈ store.rows,
      older.causationId = causationId → ∀ owner expiresAt, older.kind = .claimed owner expiresAt →
        expiresAt ≤ store.now ∨ store.Ended older)
    (companion : kind.isLease → ∀ older ∈ store.rows, older.kind = .consumed →
      older.causationId ≠ causationId) : Settled (store.append kind causationId conversationId) where
  ordered := List.pairwise_cons.mpr ⟨settled.below, settled.ordered⟩
  below := by
    intro row member
    rcases LeaseStore.mem_append.mp member with rfl | old
    · exact Nat.lt_succ_self store.nextId
    · exact Nat.lt_succ_of_lt (settled.below row old)
  superseded := by
    intro older olderStored newer newerStored before same newerKind owner expiresAt olderKind
    rcases LeaseStore.mem_append.mp olderStored with rfl | oldOlder
    · -- nothing is newer than the appended row
      rcases LeaseStore.mem_append.mp newerStored with rfl | oldNewer
      · exact absurd before (Nat.lt_irrefl _)
      · exact absurd before (Nat.lt_asymm (settled.below newer oldNewer))
    · rcases LeaseStore.mem_append.mp newerStored with rfl | oldNewer
      · exact (claims newerKind older oldOlder same owner expiresAt olderKind).imp_right .append
      · exact (settled.superseded older oldOlder newer oldNewer before same newerKind owner expiresAt
          olderKind).imp_right .append
  final := by
    intro older olderStored olderKind newer newerStored before same
    rcases LeaseStore.mem_append.mp olderStored with rfl | oldOlder
    · rcases LeaseStore.mem_append.mp newerStored with rfl | oldNewer
      · exact absurd before (Nat.lt_irrefl _)
      · exact absurd before (Nat.lt_asymm (settled.below newer oldNewer))
    · rcases LeaseStore.mem_append.mp newerStored with rfl | oldNewer
      · by_contra lease
        exact companion (by simpa using lease) older oldOlder olderKind same.symm
      · exact settled.final older oldOlder olderKind newer oldNewer before same

theorem latest_consumed (settled : Settled store) {queuedId : Nat} {latest consumed : LeaseRow}
    (found : store.latestLease? queuedId = some latest) (stored : consumed ∈ store.rows)
    (kind : consumed.kind = .consumed) (cause : consumed.causationId = some queuedId) : latest = consumed := by
  obtain ⟨latestStored, latestCause, lease⟩ := LeaseStore.latestLease?_spec found
  rcases LeaseStore.eq_or_newer_latestLease? settled.ordered found stored cause (by rw [kind]; rfl)
    with same | newer
  · exact same.symm
  · have plain := settled.final consumed stored kind latest latestStored newer (latestCause.trans cause.symm)
    rw [plain] at lease
    cases lease

end Settled

structure Handed (words : WordClass) (store : LeaseStore) : Prop where
  handed : ∀ row ∈ store.rows, ∀ owner expiresAt, row.kind = .claimed owner expiresAt →
    ∃ held ∈ store.claims, held.claimId = row.id ∧ storedOwner words held.leaseOwner = owner
  backed : ∀ held ∈ store.claims, ∃ row ∈ store.rows, row.id = held.claimId ∧
    ∃ expiresAt, row.kind = .claimed (storedOwner words held.leaseOwner) expiresAt
  below : ∀ held ∈ store.claims, held.claimId < store.nextId
  distinct : ∀ first ∈ store.claims, ∀ second ∈ store.claims, first.claimId = second.claimId → first = second

namespace Handed

variable {words : WordClass} {store : LeaseStore}

theorem later (handed : Handed words store) (workspaceOf : Nat → Option String) (now : Nat) :
    Handed words { store with workspaceOf, now } :=
  ⟨handed.handed, handed.backed, handed.below, handed.distinct⟩

theorem append (handed : Handed words store) {kind : LeaseKind}
    (other : ∀ owner expiresAt, kind ≠ .claimed owner expiresAt) (causationId conversationId : Option Nat) :
    Handed words (store.append kind causationId conversationId) where
  handed := by
    intro row member owner expiresAt claimed
    rcases LeaseStore.mem_append.mp member with rfl | old
    · exact absurd claimed (other owner expiresAt)
    · exact handed.handed row old owner expiresAt claimed
  backed := by
    intro held member
    obtain ⟨row, stored, backs⟩ := handed.backed held member
    exact ⟨row, LeaseStore.mem_append.mpr (.inr stored), backs⟩
  below := fun held member => Nat.lt_succ_of_lt (handed.below held member)
  distinct := handed.distinct

theorem claim (handed : Handed words store) {held : QueuedRunClaim} {owner : String} (expiresAt : Nat)
    (causationId conversationId : Option Nat) (same : held.claimId = store.nextId) (owned : held.leaseOwner = owner) :
    Handed words
      { store.append (.claimed (storedOwner words owner) expiresAt) causationId conversationId with
        claims := held :: store.claims } where
  handed := by
    intro row member stored lease claimed
    rcases LeaseStore.mem_append.mp member with rfl | old
    · injection claimed with ownerEq _
      exact ⟨held, List.mem_cons_self, same, owned ▸ ownerEq⟩
    · obtain ⟨other, otherHeld, named, otherOwned⟩ := handed.handed row old stored lease claimed
      exact ⟨other, List.mem_cons_of_mem held otherHeld, named, otherOwned⟩
  backed := by
    intro other member
    rcases List.mem_cons.mp member with rfl | old
    · exact ⟨_, LeaseStore.mem_append.mpr (.inl rfl), same.symm, expiresAt, by rw [owned]⟩
    · obtain ⟨row, stored, backs⟩ := handed.backed other old
      exact ⟨row, LeaseStore.mem_append.mpr (.inr stored), backs⟩
  below := by
    intro other member
    rcases List.mem_cons.mp member with rfl | old
    · exact same ▸ Nat.lt_succ_self _
    · exact Nat.lt_succ_of_lt (handed.below other old)
  distinct := by
    intro first firstHeld second secondHeld ids
    rcases List.mem_cons.mp firstHeld with rfl | oldFirst
    · rcases List.mem_cons.mp secondHeld with rfl | oldSecond
      · rfl
      · have lower := handed.below second oldSecond
        omega
    · rcases List.mem_cons.mp secondHeld with rfl | oldSecond
      · have lower := handed.below first oldFirst
        omega
      · exact handed.distinct first oldFirst second oldSecond ids

end Handed

namespace LeaseStore

variable {words : WordClass} {store : LeaseStore}

variable {claim : QueuedRunClaim}

theorem matchesOwner_iff :
    store.matchesOwner claim ↔
      ∃ latest expiresAt, store.latestLease? claim.queuedId = some latest ∧
        latest.kind = .claimed claim.leaseOwner expiresAt := by
  unfold matchesOwner
  constructor
  · intro matching
    split at matching
    · rename_i id owner expiresAt cause conversation found
      obtain rfl : owner = claim.leaseOwner := by simpa using matching
      exact ⟨_, expiresAt, found, rfl⟩
    · cases matching
  · rintro ⟨⟨id, kind, cause, conversation⟩, expiresAt, found, rfl⟩
    simp [found]

theorem claimNextQueuedRunForWorkspace_cases (words : WordClass) (store : LeaseStore)
    (workspaceAlias leaseOwner : String) (seconds : Int) (waited : Nat) :
    store.claimNextQueuedRunForWorkspace words workspaceAlias leaseOwner seconds waited = store ∨
      ∃ queued, store.nextQueued? (strip workspaceAlias) (store.now - waited) = some queued ∧
        store.claimNextQueuedRunForWorkspace words workspaceAlias leaseOwner seconds waited =
          { store.append (.claimed (storedOwner words (strip leaseOwner)) (store.now - waited + leaseSpan seconds))
              (some queued.id) queued.conversationId with
            claims := ⟨queued.id, queued.conversationId, store.nextId, strip workspaceAlias, strip leaseOwner⟩ ::
              store.claims } := by
  unfold claimNextQueuedRunForWorkspace
  dsimp only
  split
  · exact .inl rfl
  · cases found : store.nextQueued? (strip workspaceAlias) (store.now - waited) with
    | none => exact .inl rfl
    | some queued => exact .inr ⟨queued, rfl, rfl⟩

variable {workspace : String} {time : Nat} {queued : LeaseRow}

theorem nextQueued?_spec (found : store.nextQueued? workspace time = some queued) :
    queued ∈ store.rows ∧ store.Claimable workspace time queued := by
  have chosen := List.find?_some found
  exact ⟨List.mem_reverse.mp (List.mem_of_find?_eq_some found), of_decide_eq_true chosen⟩

theorem nextQueued?_oldest (ordered : store.rows.Pairwise Newer)
    {earlier : LeaseRow} (found : store.nextQueued? workspace time = some queued)
    (member : earlier ∈ store.rows) (before : earlier.id < queued.id) :
    ¬ store.Claimable workspace time earlier := by
  intro claimable
  have sorted : store.rows.reverse.Pairwise fun older newer => older.id < newer.id :=
    List.pairwise_reverse.mpr ordered
  rcases eq_or_of_find?_eq_some sorted found (List.mem_reverse.mpr member) (decide_eq_true claimable)
    with rfl | after
  · exact Nat.lt_irrefl _ before
  · exact Nat.lt_asymm before after

theorem Claimable.older (settled : Settled store) {waited : Nat}
    (claimable : store.Claimable workspace (store.now - waited) queued) {older : LeaseRow}
    (member : older ∈ store.rows) (cause : older.causationId = some queued.id) {owner : String} {expiresAt : Nat}
    (claimed : older.kind = .claimed owner expiresAt) : expiresAt ≤ store.now ∨ store.Ended older := by
  have lease : older.kind.isLease := by
    rw [claimed]
    rfl
  obtain ⟨latest, found⟩ := exists_latestLease? member cause lease
  obtain ⟨latestStored, latestCause, latestLease⟩ := latestLease?_spec found
  have expired := claimable.2.2.2 latest found
  have sameCause : latest.causationId = older.causationId := latestCause.trans cause.symm
  rcases eq_or_newer_latestLease? settled.ordered found member cause lease with rfl | newer
  · rw [claimed] at expired
    have due : expiresAt ≤ store.now - waited := of_decide_eq_true expired
    exact .inl (due.trans (Nat.sub_le _ _))
  · cases kind : latest.kind with
    | plain => simp [kind, LeaseKind.isLease] at latestLease
    | claimed newOwner newExpiry =>
        exact settled.superseded older member latest latestStored newer sameCause.symm
          ⟨newOwner, newExpiry, kind⟩ owner expiresAt claimed
    | released => exact .inr ⟨latest, latestStored, newer, sameCause, .inl kind⟩
    | consumed => exact .inr ⟨latest, latestStored, newer, sameCause, .inr kind⟩

theorem Claimable.not_consumed
    (claimable : store.Claimable workspace time queued) {older : LeaseRow} (member : older ∈ store.rows)
    (consumed : older.kind = .consumed) : older.causationId ≠ some queued.id := by
  intro cause
  have unconsumed := claimable.2.2.1
  simp only [isConsumed, Bool.or_eq_false_iff, List.any_eq_false] at unconsumed
  exact unconsumed.1 older member (by simp [cause, consumed])

end LeaseStore

section Steps

variable {words : WordClass} {store : LeaseStore}

theorem settled_step (settled : Settled store) (op : LeaseOp) : Settled (leaseStep words store op) := by
  cases op with
  | claim workspaceAlias leaseOwner seconds waited =>
      unfold leaseStep
      dsimp only
      rcases store.claimNextQueuedRunForWorkspace_cases words workspaceAlias leaseOwner seconds waited with
        same | ⟨queued, found, granted⟩
      · rw [same]
        exact settled
      · obtain ⟨_, claimable⟩ := LeaseStore.nextQueued?_spec found
        rw [granted]
        refine (settled.append queued.conversationId ?_ ?_).later store.workspaceOf _ le_rfl
        · exact fun _ older member cause owner expiresAt claimed => claimable.older settled member cause claimed
        · exact fun _ older member consumed => claimable.not_consumed member consumed
  | release claim =>
      unfold leaseStep LeaseStore.releaseQueuedRunClaim
      dsimp only
      split
      · rename_i owned
        obtain ⟨latest, expiresAt, found, claimed⟩ := LeaseStore.matchesOwner_iff.mp owned
        refine settled.append claim.conversationId (fun ⟨_, _, impossible⟩ => by cases impossible) ?_
        intro _ older member consumed cause
        have same := settled.latest_consumed found member consumed cause
        rw [same, consumed] at claimed
        cases claimed
      · exact settled
  | consume claim =>
      unfold leaseStep LeaseStore.consumeQueuedRunClaim
      dsimp only
      split
      · exact settled
      · rename_i unconsumed
        split
        · refine settled.append claim.conversationId (fun ⟨_, _, impossible⟩ => by cases impossible) ?_
          intro _ older member consumed cause
          exact unconsumed (List.any_eq_true.mpr ⟨older, member, by simp [cause, consumed]⟩)
        · exact settled
  | append kind causationId conversationId =>
      exact settled.append conversationId (fun ⟨_, _, impossible⟩ => by cases impossible)
        (fun impossible => by cases impossible)
  | session conversationId workspaceAlias => exact settled.later _ store.claims le_rfl
  | tick elapsed => exact settled.later store.workspaceOf store.claims (Nat.le_add_right _ _)

theorem handed_step (handed : Handed words store) (op : LeaseOp) : Handed words (leaseStep words store op) := by
  cases op with
  | claim workspaceAlias leaseOwner seconds waited =>
      unfold leaseStep
      dsimp only
      rcases store.claimNextQueuedRunForWorkspace_cases words workspaceAlias leaseOwner seconds waited with
        same | ⟨queued, _, granted⟩
      · rw [same]
        exact handed
      · rw [granted]
        exact handed.claim _ _ _ rfl rfl
  | release claim =>
      unfold leaseStep LeaseStore.releaseQueuedRunClaim
      dsimp only
      split
      · exact handed.append (fun _ _ claimed => by cases claimed) _ _
      · exact handed
  | consume claim =>
      unfold leaseStep LeaseStore.consumeQueuedRunClaim
      dsimp only
      split
      · exact handed
      · split
        · exact handed.append (fun _ _ claimed => by cases claimed) _ _
        · exact handed
  | append kind causationId conversationId => exact handed.append (fun _ _ claimed => by cases claimed) _ _
  | session conversationId workspaceAlias => exact handed.later _ store.now
  | tick elapsed => exact handed.later store.workspaceOf _

theorem owns_iff_unmistaken (settled : Settled store) (handed : Handed words store) (claim : QueuedRunClaim) :
    (store.matchesOwner claim → store.Owns claim) ↔ Unmistaken words store (.release claim) := by
  constructor
  · intro owns latest found held member named mistaken
    obtain ⟨latestStored, _, _⟩ := LeaseStore.latestLease?_spec found
    obtain ⟨row, stored, rowId, expiresAt, claimed⟩ := handed.backed held member
    obtain rfl := settled.eq_of_id stored latestStored (rowId.trans named)
    obtain ⟨latest, foundAgain, other, otherHeld, otherNamed, owned⟩ :=
      owns (LeaseStore.matchesOwner_iff.mpr ⟨row, expiresAt, found, mistaken ▸ claimed⟩)
    rw [found] at foundAgain
    injection foundAgain with sameRow
    have same := handed.distinct other otherHeld held member (otherNamed.trans (sameRow ▸ named.symm))
    rw [← same]
    exact owned
  · intro unmistaken matching
    obtain ⟨latest, expiresAt, found, claimed⟩ := LeaseStore.matchesOwner_iff.mp matching
    obtain ⟨latestStored, _, _⟩ := LeaseStore.latestLease?_spec found
    obtain ⟨held, member, named, owned⟩ := handed.handed latest latestStored _ expiresAt claimed
    exact ⟨latest, found, held, member, named, unmistaken latest found held member named owned⟩

theorem release_rows :
    (store.releaseQueuedRunClaim claim).rows = store.rows ↔ ¬ store.matchesOwner claim := by
  unfold LeaseStore.releaseQueuedRunClaim
  split
  · rename_i owned
    exact iff_of_false (List.cons_ne_self _ _) (not_not_intro owned)
  · rename_i other
    exact iff_of_true rfl other

theorem consume_rows (settled : Settled store) :
    (store.consumeQueuedRunClaim claim).rows = store.rows ↔ ¬ store.matchesOwner claim := by
  unfold LeaseStore.consumeQueuedRunClaim
  split
  · rename_i consumed
    refine iff_of_true rfl fun owned => ?_
    obtain ⟨row, member, chosen⟩ := List.any_eq_true.mp consumed
    obtain ⟨cause, kind⟩ := of_decide_eq_true chosen
    obtain ⟨latest, expiresAt, found, claimed⟩ := LeaseStore.matchesOwner_iff.mp owned
    rw [settled.latest_consumed found member kind cause, kind] at claimed
    cases claimed
  · split
    · rename_i owned
      exact iff_of_false (List.cons_ne_self _ _) (not_not_intro owned)
    · rename_i other
      exact iff_of_true rfl other

theorem orderly_iff_unmistaken (settled : Settled store) (handed : Handed words store) (op : LeaseOp) :
    Orderly words store op ↔ Unmistaken words store op := by
  cases op with
  | claim workspaceAlias leaseOwner seconds waited =>
      refine iff_of_true ?_ trivial
      rcases store.claimNextQueuedRunForWorkspace_cases words workspaceAlias leaseOwner seconds waited with
        same | ⟨queued, found, granted⟩
      · exact .inl (congrArg LeaseStore.rows same)
      · obtain ⟨member, claimable⟩ := LeaseStore.nextQueued?_spec found
        refine .inr ⟨queued, member, claimable, ?_, _, congrArg LeaseStore.rows granted, rfl⟩
        exact fun earlier stored before => LeaseStore.nextQueued?_oldest settled.ordered found stored before
  | release claim =>
      rw [← owns_iff_unmistaken settled handed]
      unfold Orderly
      dsimp only
      rw [release_rows, not_imp_not]
  | consume claim =>
      have mistaken := owns_iff_unmistaken settled handed claim
      unfold Orderly
      dsimp only
      rw [consume_rows settled, not_imp_not]
      exact mistaken
  | append | session | tick => exact Iff.rfl

end Steps

theorem settled_empty : Settled .empty :=
  ⟨.nil, fun _ member => (List.not_mem_nil member).elim, fun _ member => (List.not_mem_nil member).elim,
    fun _ member => (List.not_mem_nil member).elim⟩

theorem handed_empty (words : WordClass) : Handed words .empty :=
  ⟨fun _ member => (List.not_mem_nil member).elim, fun _ member => (List.not_mem_nil member).elim,
    fun _ member => (List.not_mem_nil member).elim, fun _ member => (List.not_mem_nil member).elim⟩

section Runs

variable (words : WordClass)

theorem settled_run (ops : List LeaseOp) : Settled (ops.foldl (leaseStep words) .empty) := by
  have keeps : ∀ store op, Settled store → True → Settled (leaseStep words store op) :=
    fun _ op settled _ => settled_step settled op
  exact invariant_foldl keeps settled_empty (along_true _ ops)

/-- In every run the leases are exclusive, and the calls are orderly just where no
owner is mistaken. -/
theorem leases_exclusive_iff_unmistaken (ops : List LeaseOp) :
    ((∀ passed, Exclusive ((ops.take passed).foldl (leaseStep words) .empty)) ∧
        Along (leaseStep words) (Orderly words) .empty ops) ↔
      Along (leaseStep words) (Unmistaken words) .empty ops := by
  have keeps : ∀ store op, Settled store ∧ Handed words store → True →
      Settled (leaseStep words store op) ∧ Handed words (leaseStep words store op) :=
    fun store op kept _ => ⟨settled_step kept.1 op, handed_step kept.2 op⟩
  have agree : Along (leaseStep words)
      (fun store op => Orderly words store op ↔ Unmistaken words store op) .empty ops :=
    along_of_invariant keeps (fun store op kept _ => orderly_iff_unmistaken kept.1 kept.2 op)
      ⟨settled_empty, handed_empty words⟩ (along_true _ ops)
  rw [along_congr agree]
  exact and_iff_right fun passed => (settled_run words (ops.take passed)).exclusive

end Runs

def mistakenClaims : List LeaseOp :=
  [.session 1 (some "main"), .append .queued none (some 1), .claim "main" "<redacted>" 1 0, .tick 1000000,
    .claim "main" "sk-abcdefgh" 1 0]

def outdatedClaim : QueuedRunClaim := ⟨1, some 1, 2, "main", "<redacted>"⟩

/-- The owner of the second claim is stored as the owner of the first worker, which
then releases it. -/
theorem outdated_claim_is_released :
    outdatedClaim ∈ (mistakenClaims.foldl (leaseStep plainWords) .empty).claims ∧
      ¬ Along (leaseStep plainWords) (Orderly plainWords) .empty (mistakenClaims ++ [.release outdatedClaim]) := by
  have claims : (mistakenClaims.foldl (leaseStep plainWords) .empty).claims =
      [⟨1, some 1, 3, "main", "sk-abcdefgh"⟩, outdatedClaim] := by
    decide +kernel
  have latest : (mistakenClaims.foldl (leaseStep plainWords) .empty).latestLease? outdatedClaim.queuedId =
      some ⟨3, .claimed "<redacted>" 2000000, some 1, some 1⟩ := by
    decide +kernel
  rw [along_append]
  refine ⟨by simp [claims], fun orderly => ?_⟩
  have unchanged := orderly.2.1
  refine release_rows.mp (unchanged ?_) (LeaseStore.matchesOwner_iff.mpr ⟨_, 2000000, latest, rfl⟩)
  rintro ⟨owned, found, held, member, named, owner⟩
  rw [latest] at found
  injection found with same
  rw [claims, List.mem_cons, List.mem_singleton] at member
  rcases member with rfl | rfl
  · revert owner
    decide
  · rw [← same] at named
    revert named
    decide

end Wlcodex.Runtime
