import Mathlib.Logic.Function.Basic
import Wlcodex.Timeline.RunState

namespace Wlcodex.Timeline

open Wlcodex.Relay (Dict)

/-! The items as a board: the face that each key shows. -/

abbrev Board := RowKey → Option Face

namespace ItemTable

def board (table : ItemTable) : Board := fun key => (table.find? key).map fun row => row.toFace

variable {table : ItemTable}

theorem board_eq_some_iff {key : RowKey} {face : Face} :
    table.board key = some face ↔ ∃ row ∈ table, row.key = key ∧ row.toFace = face := by
  unfold board
  rw [Option.map_eq_some_iff]
  constructor
  · rintro ⟨row, found, same⟩
    obtain ⟨member, key⟩ := find?_eq_some_iff.mp found
    exact ⟨row, member, key, same⟩
  · rintro ⟨row, member, key, same⟩
    exact ⟨row, find?_eq_some_iff.mpr ⟨member, key⟩, same⟩

theorem board_key {row : ItemRow} (member : row ∈ table) :
    table.board row.key = some row.toFace :=
  board_eq_some_iff.mpr ⟨row, member, rfl, rfl⟩

theorem board_update_of_face {selected : ItemRow → Bool} {cells : Cells → Cells}
    (same : ∀ old, (cells old).toFace = old.toFace) : (table.update selected cells).board = table.board := by
  funext key
  unfold board
  rw [find?_update, Option.map_map]
  congr 1
  funext row
  change (if selected row then row.change cells else row).toFace = row.toFace
  split
  · exact same row.toCells
  · rfl

theorem board_update_id {row : ItemRow} (member : row ∈ table) (cells : Cells → Cells) :
    (table.update (fun other => other.id = row.id) cells).board =
      Function.update table.board row.key (some (cells row.toCells).toFace) := by
  funext key
  unfold board
  rw [find?_update]
  by_cases same : key = row.key
  · subst same
    rw [find?_key member, Function.update_self]
    simp
  · rw [Function.update_of_ne same]
    cases found : table.find? key with
    | none => rfl
    | some other =>
        obtain ⟨otherMember, rfl⟩ := find?_eq_some_iff.mp found
        have different : other.id ≠ row.id := fun sameId =>
          same (by rw [eq_of_id otherMember member sameId])
        simp [different]

end ItemTable

namespace ItemWrite

def face (write : ItemWrite) : Face := ⟨write.role, write.kind, write.text, write.status, write.sourcePriority⟩

def settle (write : ItemWrite) : Option Face → Face
  | none => write.face
  | some face =>
      if write.Yields face then face
      else { write.face with sourcePriority := max face.sourcePriority write.sourcePriority }

end ItemWrite

def Board.put (board : Board) (write : ItemWrite) : Board :=
  Function.update board write.key (some (write.settle (board write.key)))

def Settled (table : ItemTable) : Prop := ∀ row ∈ table, row.role = .user → row.status ≠ "pending"

variable {table : ItemTable}

theorem pendingLocal?_eq_none (settled : Settled table) (key : RowKey) (text : String) :
    table.pendingLocal? key text = none := by
  unfold ItemTable.pendingLocal?
  rw [List.argmax_eq_none, List.filter_eq_nil_iff]
  intro row member
  simp only [Bool.decide_and, Bool.and_eq_true, decide_eq_true_eq, not_and]
  intro _ _ user pending
  exact absurd pending (settled row member user)

theorem board_upsertItem (settled : Settled table) (write : ItemWrite) :
    ∃ next id, table.upsertItem write = some (next, id) ∧ next.board = table.board.put write := by
  have unmerged : (if write.mergeLocal ∧ write.role = .user then table.pendingLocal? write.key write.text
      else none) = none := by
    rw [pendingLocal?_eq_none settled, ite_self]
  unfold ItemTable.upsertItem
  rw [unmerged]
  cases found : table.find? write.key with
  | none =>
      obtain ⟨next, inserted⟩ := Option.isSome_iff_exists.mp (ItemTable.insert?_isSome found write.fresh)
      refine ⟨next, table.nextId, by simp only [inserted, Option.map_some], ?_⟩
      funext key
      simp only [ItemTable.board, Board.put]
      rw [ItemTable.find?_insert? found inserted]
      by_cases same : key = write.key
      · subst same
        rw [if_pos rfl, Function.update_self, found]
        rfl
      · rw [if_neg same, Function.update_of_ne same]
        rfl
  | some row =>
      obtain ⟨member, key⟩ := ItemTable.find?_eq_some_iff.mp found
      have shown : table.board write.key = some row.toFace := by
        rw [← key]
        exact ItemTable.board_key member
      simp only
      split
      · rename_i yields
        refine ⟨table, row.id, rfl, ?_⟩
        unfold Board.put ItemWrite.settle
        rw [shown]
        simp only [yields, if_true]
        rw [← shown, Function.update_eq_self]
      · rename_i writes
        refine ⟨_, row.id, rfl, ?_⟩
        rw [ItemTable.board_update_id member]
        unfold Board.put ItemWrite.settle
        rw [shown, key]
        simp only [writes, if_false]
        rfl

def Board.hide (board : Board) (key : RowKey) : Board :=
  Function.update board key
    ((board key).map fun face => { face with kind := .messageSuppressed, status := "superseded" })

theorem board_suppressConversationItem {row : ItemRow} (member : row ∈ table) :
    (table.suppressConversationItem row.id).board = table.board.hide row.key := by
  unfold ItemTable.suppressConversationItem Board.hide
  rw [ItemTable.board_update_id member, ItemTable.board_key member]
  rfl

def RowKey.InTurn (key other : RowKey) : Prop :=
  key.provider = other.provider ∧ key.nativeThreadId = other.nativeThreadId ∧ key.turnKey = other.turnKey

instance (key other : RowKey) : Decidable (key.InTurn other) := by
  unfold RowKey.InTurn
  infer_instance

def hushed (face : Face) : Face :=
  if ItemTable.IsFailedLifecycle face then { face with kind := .lifecycleSuppressed, status := "superseded" }
  else face

def Board.hush (board : Board) (turn : RowKey) : Board := fun key =>
  if key.InTurn turn then (board key).map hushed else board key

theorem board_suppressFailedLifecycle {turn : RowKey} (named : turn.turnKey ≠ "") :
    (table.suppressFailedLifecycleForCompletedTurn turn).board = table.board.hush turn := by
  unfold ItemTable.suppressFailedLifecycleForCompletedTurn
  rw [if_neg named]
  funext key
  simp only [ItemTable.board, Board.hush]
  rw [ItemTable.find?_update]
  cases found : table.find? key with
  | none => simp
  | some row =>
      obtain ⟨_, rfl⟩ := ItemTable.find?_eq_some_iff.mp found
      by_cases inTurn : row.key.InTurn turn
      · by_cases failed : ItemTable.IsFailedLifecycle row.toFace
        · obtain ⟨provider, thread, turnKey⟩ := inTurn
          simp [RowKey.InTurn, provider, thread, turnKey, failed, hushed, ItemTable.lifecycleSuppressed]
        · simp [inTurn, failed, hushed]
      · have outside : ¬ (row.key.provider = turn.provider ∧ row.key.nativeThreadId = turn.nativeThreadId ∧
            row.key.turnKey = turn.turnKey ∧ ItemTable.IsFailedLifecycle row.toFace) :=
          fun inside => inTurn ⟨inside.1, inside.2.1, inside.2.2.1⟩
        simp only [Option.map_some, if_neg inTurn, decide_eq_true_eq, if_neg outside]

@[simp] theorem board_appendEvent (store : TimelineStore) (provider nativeThreadId : String)
    (itemRowId : Option Nat) (runtimeEventId : Nat) (eventType : EventType) (kind : EventKind)
    (payload : Dict) :
    (store.appendEvent provider nativeThreadId itemRowId runtimeEventId eventType kind payload).items.board =
      store.items.board := by
  cases itemRowId with
  | none => rfl
  | some id => exact ItemTable.board_update_of_face fun _ => rfl

structure Ranked (face : Face) : Prop where
  settled : face.role = .user → face.status ≠ "pending"
  highest : 90 < face.sourcePriority → face.kind = .userMessage ∧ face.status = "completed"
  message : ItemTable.IsCompletedMessage face → face.sourcePriority = 90
  command : face.kind = .command → face.status = "completed" ∨ face.status = "failed" →
    face.sourcePriority = 50
  approval : face.kind = .approvalRequested → face.status = "resolved" ∨ face.status = "expired" →
    face.sourcePriority = 80
  failure : ItemTable.IsFailedLifecycle face → face.sourcePriority ≤ 80

variable {write : ItemWrite}

theorem ItemWrite.not_outranked {face : Face} (lands : ¬ write.Yields face)
    (status : write.status ≠ "streaming") : face.sourcePriority ≤ write.sourcePriority := by
  by_contra outranked
  exact lands (.inr ⟨Nat.lt_of_not_le outranked, status⟩)

theorem failedTurnStatuses_ne_streaming {status : String} (failed : status ∈ ItemTable.failedTurnStatuses) :
    status ≠ "streaming" := by
  rintro rfl
  revert failed
  decide

theorem ItemWrite.IsShaped.ranked_face (shaped : write.IsShaped) : Ranked write.face := by
  obtain ⟨key, role, kind, text, status, payload, priority, merge⟩ := write
  unfold ItemWrite.face
  cases shaped
  all_goals constructor <;> simp [ItemTable.IsCompletedMessage, ItemTable.IsFailedLifecycle]

theorem ItemWrite.IsShaped.ranked_settle (shaped : write.IsShaped)
    {shown : Option Face} (ranked : ∀ face, shown = some face → Ranked face) :
    Ranked (write.settle shown) := by
  cases shown with
  | none => exact shaped.ranked_face
  | some face =>
      have old := ranked face rfl
      unfold ItemWrite.settle
      simp only
      split
      · exact old
      · rename_i lands
        have own := shaped.ranked_face
        have level : write.status ≠ "streaming" →
            max face.sourcePriority write.sourcePriority = write.sourcePriority :=
          fun status => max_eq_right (ItemWrite.not_outranked lands status)
        refine ⟨own.settled, ?_, ?_, ?_, ?_, ?_⟩
        · intro high
          rcases lt_max_iff.mp high with faceHigh | writeHigh
          · -- what stands above ninety is completed, and yields to nothing lower
            have completed := (old.highest faceHigh).2
            rcases Nat.lt_or_ge write.sourcePriority face.sourcePriority with lower | higher
            · exact absurd (.inl ⟨lower, completed⟩) lands
            · exact own.highest (faceHigh.trans_le higher)
          · exact own.highest writeHigh
        · intro completed
          have status : write.status = "completed" := completed.2
          exact (level (by rw [status]; decide)).trans (own.message completed)
        · intro kind finished
          have status : write.status ≠ "streaming" := by
            rintro streaming
            simp [ItemWrite.face, streaming] at finished
          exact (level status).trans (own.command kind finished)
        · intro kind finished
          have status : write.status ≠ "streaming" := by
            rintro streaming
            simp [ItemWrite.face, streaming] at finished
          exact (level status).trans (own.approval kind finished)
        · intro failed
          rw [level (failedTurnStatuses_ne_streaming failed.2)]
          exact own.failure failed

def Board.IsRanked (board : Board) : Prop := ∀ key face, board key = some face → Ranked face

namespace Board.IsRanked

variable {board : Board}

theorem settled {table : ItemTable} (ranked : table.board.IsRanked) : Settled table :=
  fun row member => (ranked row.key row.toFace (ItemTable.board_key member)).settled

theorem put (ranked : board.IsRanked) {write : ItemWrite} (shaped : write.IsShaped) :
    (board.put write).IsRanked := by
  intro key face shown
  unfold Board.put at shown
  by_cases same : key = write.key
  · subst same
    rw [Function.update_self] at shown
    cases shown
    exact shaped.ranked_settle fun face shown => ranked write.key face shown
  · rw [Function.update_of_ne same] at shown
    exact ranked key face shown

theorem hide (ranked : board.IsRanked) {key : RowKey}
    (completed : ∀ face, board key = some face → ItemTable.IsCompletedMessage face) :
    (board.hide key).IsRanked := by
  intro other face shown
  unfold Board.hide at shown
  by_cases same : other = key
  · subst same
    rw [Function.update_self] at shown
    obtain ⟨old, stood, rfl⟩ := Option.map_eq_some_iff.mp shown
    have level := (ranked other old stood).message (completed old stood)
    constructor <;> simp [ItemTable.IsCompletedMessage, ItemTable.IsFailedLifecycle, level]
  · rw [Function.update_of_ne same] at shown
    exact ranked other face shown

theorem hush (ranked : board.IsRanked) (turn : RowKey) : (board.hush turn).IsRanked := by
  have quieter : ∀ face, Ranked face → Ranked (hushed face) := by
    intro face held
    unfold hushed
    split
    · rename_i failed
      have level := held.failure failed
      constructor <;> simp [ItemTable.IsCompletedMessage, ItemTable.IsFailedLifecycle]
      omega
    · exact held
  intro key face shown
  unfold Board.hush at shown
  split at shown
  · obtain ⟨old, stood, rfl⟩ := Option.map_eq_some_iff.mp shown
    exact quieter old (ranked key old stood)
  · exact ranked key face shown

end Board.IsRanked

section Calls

variable {builtins : Builtins} {store : TimelineStore}

theorem fallbackTurn_ne_empty (event : RuntimeEvent) : fallbackTurn event ≠ "" := by
  unfold fallbackTurn
  split
  · assumption
  · split
    · exact Nat.repr_ne_empty
    · decide

theorem orText_ne_empty {first second : String} (present : second ≠ "") : orText first second ≠ "" := by
  unfold orText
  split
  · exact present
  · assumption

variable {event : RuntimeEvent} {place : Place}

theorem place?_named (found : place? builtins event = some place) :
    place.turnKey ≠ "" := by
  unfold place? at found
  simp only at found
  split at found
  · cases found
  · cases found
    exact orText_ne_empty (fallbackTurn_ne_empty event)

theorem record_board (ranked : store.items.board.IsRanked) (place : Place) (event : RuntimeEvent)
    (projection : Projection) :
    ∃ written recorded, record store place event projection = [written, recorded] ∧
      written.items.board = store.items.board.put projection.write ∧
      recorded.items.board = store.items.board.put projection.write := by
  obtain ⟨items, id, upserted, shown⟩ := board_upsertItem ranked.settled projection.write
  refine ⟨{ store with items }, eventFromRuntime { store with items } place event id projection, ?_, shown, ?_⟩
  · unfold record
    rw [upserted]
  · exact (board_appendEvent { store with items } ..).trans shown

theorem board_project_other (ranked : store.items.board.IsRanked)
    (other : ¬ isCompletionType event.eventType) :
    (projectRuntimeEvent builtins store event).items.board = store.items.board ∨
      ∃ place projection, place? builtins event = some place ∧
        projection? builtins store.items place event = some projection ∧
        (projectRuntimeEvent builtins store event).items.board = store.items.board.put projection.write := by
  unfold projectRuntimeEvent commits
  split
  · exact .inl rfl
  · split
    · exact .inl rfl
    · rename_i place found
      split
      · exact .inl rfl
      · rename_i projection projects
        obtain ⟨written, recorded, stores, _, recordedBoard⟩ := record_board ranked place event projection
        refine .inr ⟨place, projection, found, projects, ?_⟩
        rw [stores]
        exact recordedBoard

def Repeats (builtins : Builtins) (board : Board) (place : Place) (payload : Dict) : Prop :=
  isCompatibilityProjection payload ∧
    ∃ face, board (messageKey builtins place payload) = some face ∧ face.text = completedText builtins payload

instance (board : Board) (place : Place) (payload : Dict) : Decidable (Repeats builtins board place payload) :=
  decidable_of_iff
    (isCompatibilityProjection payload ∧ (board (messageKey builtins place payload)).any fun face =>
      face.text = completedText builtins payload)
    (by unfold Repeats; simp [Option.any_eq_true])

theorem repeated_iff {payload : Dict} :
    ((store.items.find? (messageKey builtins place payload)).any fun row =>
        decide (isCompatibilityProjection payload ∧ row.text = completedText builtins payload)) = true ↔
      Repeats builtins store.items.board place payload := by
  unfold Repeats ItemTable.board
  cases store.items.find? (messageKey builtins place payload) with
  | none | some => simp

def completion (builtins : Builtins) (place : Place) (payload : Dict) : ItemWrite :=
  (messageCompleted builtins place payload).write

theorem recordCompleted_of_repeats (repeated : Repeats builtins store.items.board place event.payload) :
    recordCompleted builtins store place event = [] := by
  exact if_pos (repeated_iff.mpr repeated)

theorem recordCompleted_board (ranked : store.items.board.IsRanked) (event : RuntimeEvent)
    (named : place.turnKey ≠ "") (anew : ¬ Repeats builtins store.items.board place event.payload) :
    ∃ written superseded recorded, recordCompleted builtins store place event = [written, superseded, recorded] ∧
      written.items.board = store.items.board.put (completion builtins place event.payload) ∧
      superseded.items.board = written.items.board.hush (place.key "") ∧
      recorded.items.board = written.items.board.hush (place.key "") := by
  obtain ⟨items, id, upserted, shown⟩ :=
    board_upsertItem ranked.settled (completion builtins place event.payload)
  have quiet : (items.suppressFailedLifecycleForCompletedTurn
      (completion builtins place event.payload).key).board = items.board.hush (place.key "") :=
    board_suppressFailedLifecycle named
  let superseded : TimelineStore := { store with
    items := items.suppressFailedLifecycleForCompletedTurn (completion builtins place event.payload).key }
  refine ⟨{ store with items }, superseded,
    eventFromRuntime superseded place event id (messageCompleted builtins place event.payload), ?_, shown, quiet, ?_⟩
  · unfold recordCompleted
    refine (if_neg (mt repeated_iff.mp anew)).trans ?_
    unfold completion at upserted
    rw [upserted]
    rfl
  · exact (board_appendEvent superseded ..).trans quiet

end Calls

end Wlcodex.Timeline
