import Wlcodex.Runtime.Maintenance
import Wlcodex.Runtime.QueuedLeases

namespace Wlcodex.Runtime

/-! Two readings of one queue. -/

/-- A row of `runtime_events` with the conversation that it belongs to. -/
structure QueueRow extends QueueEvent where
  conversationId : Option Int
  deriving DecidableEq

namespace QueueRow

def Exact (rows : List QueueRow) (queued : QueueRow) : Prop :=
  ∃ row ∈ rows, row.causationId = some queued.id ∧
    row.eventType ∈ ["run.queued.consumed", "run.started", "run.recovery.required"]

def Legacy (rows : List QueueRow) (queued : QueueRow) : Prop :=
  ∃ row ∈ rows, queued.conversationId.isSome ∧ row.conversationId = queued.conversationId ∧ queued.id < row.id ∧
    row.causationId = none ∧ row.eventType ∈ ["run.queued.consumed", "run.started"]

instance (rows : List QueueRow) (queued : QueueRow) : Decidable (Exact rows queued) := by
  unfold Exact
  infer_instance

instance (rows : List QueueRow) (queued : QueueRow) : Decidable (Legacy rows queued) := by
  unfold Legacy
  infer_instance

/-- `_queued_run_is_consumed_locked`. -/
def queuedRunIsConsumed (rows : List QueueRow) (queued : QueueRow) : Bool :=
  if Exact rows queued then true else Legacy rows queued

def unconsumedRuns (rows : List QueueRow) : Nat :=
  rows.countP fun queued => queued.eventType = "run.queued" ∧ queuedRunIsConsumed rows queued = false

def legacyQueuedRuns (rows : List QueueRow) : Nat := WorkTables.legacyQueuedRuns (rows.map toQueueEvent)

variable {rows : List QueueRow} {queued : QueueRow}

theorem queuedRunIsConsumed_eq_false_iff :
    queuedRunIsConsumed rows queued = false ↔ ¬Exact rows queued ∧ ¬Legacy rows queued := by
  unfold queuedRunIsConsumed
  split
  case isTrue exact => simp [exact]
  case isFalse inexact => simp [inexact]

theorem legacyQueuedRuns_eq (rows : List QueueRow) :
    legacyQueuedRuns rows = rows.countP fun queued => queued.eventType = "run.queued" ∧ ¬Exact rows queued := by
  unfold legacyQueuedRuns WorkTables.legacyQueuedRuns
  rw [List.countP_map]
  refine List.countP_congr fun queued _ => ?_
  have same : (∃ outcome ∈ rows.map toQueueEvent, outcome.causationId = some queued.id ∧
      outcome.eventType ∈ ["run.queued.consumed", "run.started", "run.recovery.required"]) ↔ Exact rows queued :=
    by simp only [List.mem_map, exists_exists_and_eq_and, Exact]
  simp only [Function.comp_apply, decide_eq_true_eq, same]

theorem countP_eq_iff {α : Type} {p q : α → Bool} {items : List α} (narrower : ∀ item, p item → q item) :
    items.countP q = items.countP p ↔ ∀ item ∈ items, q item → p item := by
  constructor
  · intro same item member counted
    have within : (items.filter p).Sublist (items.filter q) := List.monotone_filter_right items narrower
    have equal : items.filter p = items.filter q := within.eq_of_length (by
      rw [← List.countP_eq_length_filter, ← List.countP_eq_length_filter, same])
    have kept : item ∈ items.filter p := equal ▸ List.mem_filter.mpr ⟨member, counted⟩
    exact (List.mem_filter.mp kept).2
  · exact fun wider => List.countP_congr fun item member => ⟨wider item member, narrower item⟩

/-- Maintenance waits for the runs that a worker would still execute, exactly where no queued run is
consumed by the legacy clause alone. -/
theorem legacyQueuedRuns_eq_iff (rows : List QueueRow) :
    legacyQueuedRuns rows = unconsumedRuns rows ↔
      ∀ queued ∈ rows, queued.eventType = "run.queued" → Legacy rows queued → Exact rows queued := by
  rw [legacyQueuedRuns_eq]
  unfold unconsumedRuns
  rw [countP_eq_iff]
  · refine forall₂_congr fun queued _ => ?_
    simp only [decide_eq_true_eq, queuedRunIsConsumed_eq_false_iff]
    tauto
  · intro queued
    simp only [decide_eq_true_eq, queuedRunIsConsumed_eq_false_iff]
    exact fun ⟨isQueued, inexact, _⟩ => ⟨isQueued, inexact⟩

/-- A run of the conversation was started directly behind the one that waits: no worker takes the
waiting one any more, but maintenance waits for it. -/
theorem direct_start_still_counted :
    ¬∀ rows : List QueueRow, legacyQueuedRuns rows = unconsumedRuns rows := by
  intro always
  exact absurd (always [⟨⟨1, "run.queued", none⟩, some 7⟩, ⟨⟨2, "run.started", none⟩, some 7⟩]) (by decide)

end QueueRow

def LeaseKind.eventType : LeaseKind → String
  | .plain .queued => "run.queued"
  | .plain .started => "run.started"
  | .plain .recoveryRequired => "run.recovery.required"
  | .plain .other => ""
  | .claimed _ _ => "run.queued.claimed"
  | .released => "run.queued.released"
  | .consumed => "run.queued.consumed"

def LeaseRow.queueRow (row : LeaseRow) : QueueRow :=
  ⟨⟨row.id, row.kind.eventType, row.causationId.map Nat.cast⟩, row.conversationId.map Nat.cast⟩

theorem LeaseKind.eventType_started_iff (kind : LeaseKind) :
    kind.eventType ∈ ["run.queued.consumed", "run.started"] ↔ kind ∈ [.consumed, .plain .started] := by
  rcases kind with (_ | _ | _ | _) | _ | _ | _ <;> simp [eventType]

theorem LeaseKind.eventType_outcome_iff (kind : LeaseKind) :
    kind.eventType ∈ ["run.queued.consumed", "run.started", "run.recovery.required"] ↔
      kind ∈ [.consumed, .plain .started, .plain .recoveryRequired] := by
  rcases kind with (_ | _ | _ | _) | _ | _ | _ <;> simp [eventType]

theorem LeaseStore.isConsumed_eq (store : LeaseStore) (queued : LeaseRow) :
    store.isConsumed queued = QueueRow.queuedRunIsConsumed (store.rows.map LeaseRow.queueRow) queued.queueRow := by
  have casts : ∀ left right : Option Nat, left.map (Nat.cast : Nat → Int) = right.map Nat.cast ↔ left = right :=
    fun left right => (Option.map_injective fun _ _ => Int.ofNat.inj).eq_iff
  have exacts : QueueRow.Exact (store.rows.map LeaseRow.queueRow) queued.queueRow ↔
      store.rows.any (fun row => row.causationId = some queued.id ∧
        row.kind ∈ [.consumed, .plain .started, .plain .recoveryRequired]) := by
    unfold QueueRow.Exact
    simp only [List.mem_map, exists_exists_and_eq_and, List.any_eq_true, decide_eq_true_eq]
    refine exists_congr fun row => and_congr_right fun _ => ?_
    exact and_congr (casts row.causationId (some queued.id)) (row.kind.eventType_outcome_iff)
  have legacies : QueueRow.Legacy (store.rows.map LeaseRow.queueRow) queued.queueRow ↔
      store.rows.any (fun row => row.conversationId.isSome ∧ row.conversationId = queued.conversationId ∧
        row.id > queued.id ∧ row.causationId = none ∧ row.kind ∈ [.consumed, .plain .started]) := by
    unfold QueueRow.Legacy
    simp only [List.mem_map, exists_exists_and_eq_and, List.any_eq_true, decide_eq_true_eq]
    refine exists_congr fun row => and_congr_right fun _ => ?_
    have conversations := casts row.conversationId queued.conversationId
    simp only [LeaseRow.queueRow, Option.isSome_map, conversations, row.kind.eventType_started_iff, Int.ofNat_lt,
      Option.map_eq_none_iff]
    constructor
    · exact fun ⟨known, same, later, rest⟩ => ⟨same ▸ known, same, later, rest⟩
    · exact fun ⟨known, same, later, rest⟩ => ⟨same ▸ known, same, later, rest⟩
  rw [Bool.eq_iff_iff, LeaseStore.isConsumed, Bool.or_eq_true, ← exacts, ← legacies]
  unfold QueueRow.queuedRunIsConsumed
  split
  case isTrue exact => simp [exact]
  case isFalse inexact => simp [inexact]

end Wlcodex.Runtime
