import Wlcodex.Timeline.FailedTurns
import Wlcodex.Timeline.Sequences

namespace Wlcodex.Timeline

open Wlcodex.Lib

/-! User messages: a pending row of the same text is moved to the key of the message that is
received, whoever has that key. -/

namespace ItemTable

variable {table next : ItemTable} {row : ItemRow} {key : RowKey}

theorem rekey?_isSome_iff (stored : row ∈ table) (key : RowKey) (cells : Cells → Cells) :
    (table.rekey? row.id key cells).isSome ↔ ∀ other ∈ table, other.key = key → other = row := by
  constructor
  · intro written other member taken
    obtain ⟨next, written⟩ := Option.isSome_iff_exists.mp written
    have members := (rekey?_spec written).2
    by_contra different
    have kept : other.id ≠ row.id := fun same => different (eq_of_id member stored same)
    have movedMember : moved row key cells ∈ next := (members _).mpr ⟨row, stored, (if_pos rfl).symm⟩
    have otherMember : other ∈ next := (members _).mpr ⟨other, member, (if_neg kept).symm⟩
    have same := Keyed.eq_of_key next.rows movedMember otherMember taken.symm
    exact kept (congrArg ItemRow.id same).symm
  · intro untaken
    have apart : ∀ other ∈ table, other.id ≠ row.id → other.key ≠ key :=
      fun other member different taken => different (congrArg ItemRow.id (untaken other member taken))
    have unique : (table.rows.rows.map fun other => if other.id = row.id then moved other key cells else other).Pairwise
        fun first second => first.key ≠ second.key := by
      rw [List.pairwise_map]
      refine table.rows.unique.imp_of_mem fun {first second} firstMember secondMember different => ?_
      split
      case isTrue firstMoved =>
        split
        case isTrue secondMoved =>
          exact absurd (congrArg ItemRow.key (eq_of_id firstMember secondMember (firstMoved.trans secondMoved.symm))) different
        case isFalse secondKept => exact (apart second secondMember secondKept).symm
      case isFalse firstKept =>
        split
        case isTrue => exact apart first firstMember firstKept
        case isFalse => exact different
    unfold rekey?
    rw [dif_pos unique]
    rfl

theorem pendingLocal?_mem {text : String} (found : table.pendingLocal? key text = some row) : row ∈ table :=
  (List.mem_filter.mp (List.argmax_mem found)).1

def Untaken (table : ItemTable) (write : ItemWrite) : Prop :=
  ∀ pending ∈ table.pendingLocal? write.key write.text, ∀ row ∈ table, row.key = write.key → row = pending

theorem upsertItem_isSome_iff (table : ItemTable) (write : ItemWrite) (merges : write.mergeLocal = true) (user : write.role = .user) :
    (table.upsertItem write).isSome ↔ table.Untaken write := by
  unfold upsertItem Untaken
  rw [if_pos ⟨merges, user⟩]
  cases pending : table.pendingLocal? write.key write.text with
  | some row =>
      rw [Option.isSome_map, rekey?_isSome_iff (pendingLocal?_mem pending)]
      simp only [Option.mem_def, Option.some.injEq, forall_eq']
  | none =>
      refine iff_of_true ?_ nofun
      cases found : table.find? write.key with
      | none =>
          rw [Option.isSome_map]
          exact insert?_isSome found write.fresh
      | some row =>
          dsimp only
          split <;> rfl

theorem upsertItem_key {write : ItemWrite} {id : Nat} (written : table.upsertItem write = some (next, id)) :
    ∃ row ∈ next, row.key = write.key := by
  unfold upsertItem at written
  split at written
  · rename_i pending found
    rw [Option.map_eq_some_iff] at written
    obtain ⟨after, moved, same⟩ := written
    cases same
    split at found
    case isTrue =>
      exact ⟨_, (rekey?_spec moved).2 _ |>.mpr ⟨pending, pendingLocal?_mem found, (if_pos rfl).symm⟩, rfl⟩
    case isFalse => cases found
  · split at written
    · rw [Option.map_eq_some_iff] at written
      obtain ⟨after, inserted, same⟩ := written
      cases same
      exact ⟨_, (insert?_spec inserted).2 _ |>.mpr (.inl rfl), rfl⟩
    · rename_i row found
      obtain ⟨member, sameKey⟩ := find?_eq_some_iff.mp found
      split at written <;> cases written
      · exact ⟨row, member, sameKey⟩
      · exact ⟨_, mem_update.mpr ⟨row, member, rfl⟩, (key_update ..).trans sameKey⟩

theorem update_key (carried : ∃ row ∈ table, row.key = key) (selected : ItemRow → Bool) (cells : Cells → Cells) :
    ∃ row ∈ table.update selected cells, row.key = key := by
  obtain ⟨row, member, sameKey⟩ := carried
  exact ⟨_, mem_update.mpr ⟨row, member, rfl⟩, (key_update ..).trans sameKey⟩

end ItemTable

section UserMessages

variable (builtins : Builtins)

def Projects (store : TimelineStore) (place : Place) (event : RuntimeEvent) : Prop :=
  (store.items.upsertItem (userMessage builtins place event.payload).write).isSome ∧
    ∃! row, row ∈ (projectRuntimeEvent builtins store event).items ∧
      row.key = (userMessage builtins place event.payload).write.key

variable {builtins} {store : TimelineStore} {place : Place} {event : RuntimeEvent}

theorem projectRuntimeEvent_userMessage (type : event.eventType = .userMessageReceived)
    (found : place? builtins event = some place) :
    projectRuntimeEvent builtins store event =
      (record store place event (userMessage builtins place event.payload)).getLastD store := by
  unfold projectRuntimeEvent commits
  rw [found, type]
  unfold projection?
  rw [type]
  rfl

theorem projects_iff (type : event.eventType = .userMessageReceived) (found : place? builtins event = some place) :
    Projects builtins store place event ↔
      store.items.Untaken (userMessage builtins place event.payload).write := by
  have writes := store.items.upsertItem_isSome_iff (userMessage builtins place event.payload).write rfl rfl
  refine ⟨fun projects => writes.mp projects.1, fun untaken => ⟨writes.mpr untaken, ?_⟩⟩
  obtain ⟨⟨items, id⟩, written⟩ := Option.isSome_iff_exists.mp (writes.mpr untaken)
  have last : projectRuntimeEvent builtins store event =
      eventFromRuntime { store with items } place event id (userMessage builtins place event.payload) := by
    rw [projectRuntimeEvent_userMessage type found]
    unfold record
    rw [written]
    rfl
  rw [last]
  obtain ⟨row, member, sameKey⟩ := ItemTable.update_key (ItemTable.upsertItem_key written) (fun row => row.id = id)
    (TimelineStore.touched (TimelineStore.nextSequence { store with items } place.provider place.nativeThreadId))
  exact ⟨row, ⟨member, sameKey⟩, fun other carried => Keyed.eq_of_key _ carried.1 member (carried.2.trans sameKey.symm)⟩

end UserMessages

/-- In every state of every stream, the message of a user is projected exactly where no other row has
the key that the pending row of its text is moved to. -/
theorem user_message_projects_iff (builtins : Builtins) (inputs : List TimelineInput) {event : RuntimeEvent}
    {place : Place} (type : event.eventType = .userMessageReceived) (found : place? builtins event = some place) :
    Projects builtins (inputs.foldl (inputStep builtins) .empty) place event ↔
      (inputs.foldl (inputStep builtins) .empty).items.Untaken (userMessage builtins place event.payload).write :=
  projects_iff type found

def greeting : RuntimeEvent :=
  turnEvent .userMessageReceived [("text", .string "hi"), ("itemId", .string "message")]

def pendingGreeting (itemKey : String) : LocalMessage where
  key := ⟨"codex", "thread", "local", itemKey⟩
  text := "hi"
  payload := []
  sourcePriority := 0

theorem pending_greeting_projects :
    Projects plainBuiltins ([.localMessage (pendingGreeting "first")].foldl (inputStep plainBuiltins) .empty)
        ⟨"codex", "thread", "turn"⟩ greeting ↔
      ([.localMessage (pendingGreeting "first")].foldl (inputStep plainBuiltins) .empty).items.Untaken
        (userMessage plainBuiltins ⟨"codex", "thread", "turn"⟩ greeting.payload).write :=
  user_message_projects_iff plainBuiltins [.localMessage (pendingGreeting "first")] rfl (by decide)

/-- The greeting is received, pending again, and received once more. -/
theorem redelivered_greeting_refused :
    ¬∀ (inputs : List TimelineInput) (event : RuntimeEvent) (place : Place),
      event.eventType = .userMessageReceived → place? plainBuiltins event = some place →
        Projects plainBuiltins (inputs.foldl (inputStep plainBuiltins) .empty) place event := by
  intro always
  have projects := always [.localMessage (pendingGreeting "first"), .op (.call (.project greeting)),
    .localMessage (pendingGreeting "second")] greeting ⟨"codex", "thread", "turn"⟩ rfl (by decide)
  exact absurd projects.1 (by decide)

end Wlcodex.Timeline
