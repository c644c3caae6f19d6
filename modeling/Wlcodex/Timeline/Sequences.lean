import Mathlib.Order.Bounds.Basic
import Mathlib.Order.Nat
import Wlcodex.Timeline.RunState

namespace Wlcodex.Timeline

open Wlcodex.Lib
open Wlcodex.Relay (Dict)

/-! Numbers of events and items. -/

structure Sequenced (store : TimelineStore) : Prop where
  exact : ∀ provider nativeThreadId,
    ((store.eventsOf provider nativeThreadId).map EventRow.sequence).reverse =
      List.range' 1 (store.eventsOf provider nativeThreadId).length
  greatest : ∀ row ∈ store.items, (∃ event ∈ store.events, event.itemRowId = some row.id) →
    IsGreatest { sequence | ∃ event ∈ store.events, event.itemRowId = some row.id ∧ event.sequence = sequence }
      row.lastSequence
  apart : ∀ first ∈ store.items, ∀ second ∈ store.items,
    first.key.provider = second.key.provider → first.key.nativeThreadId = second.key.nativeThreadId →
      0 < first.lastSequence → first.lastSequence = second.lastSequence → first = second

/-- The invariant: events belong to items of their thread, and an item is marked
with its last event. -/
structure Linked (store : TimelineStore) : Prop where
  exact : ∀ provider nativeThreadId,
    ((store.eventsOf provider nativeThreadId).map EventRow.sequence).reverse =
      List.range' 1 (store.eventsOf provider nativeThreadId).length
  owned : ∀ event ∈ store.events, ∀ id, event.itemRowId = some id → ∃ row ∈ store.items,
    row.id = id ∧ row.key.provider = event.provider ∧ row.key.nativeThreadId = event.nativeThreadId
  bounded : ∀ row ∈ store.items, ∀ event ∈ store.events, event.itemRowId = some row.id →
    event.sequence ≤ row.lastSequence
  marked : ∀ row ∈ store.items, 0 < row.lastSequence →
    ∃ event ∈ store.events, event.itemRowId = some row.id ∧ event.sequence = row.lastSequence

namespace Linked

variable {store : TimelineStore} {event : EventRow}

theorem mem_eventsOf :
    event ∈ store.eventsOf event.provider event.nativeThreadId ↔ event ∈ store.events := by
  simp [TimelineStore.eventsOf]

theorem sequence_pos (linked : Linked store) (member : event ∈ store.events) :
    0 < event.sequence := by
  have listed : event.sequence ∈
      ((store.eventsOf event.provider event.nativeThreadId).map EventRow.sequence).reverse :=
    List.mem_reverse.mpr (List.mem_map_of_mem (mem_eventsOf.mpr member))
  rw [linked.exact, List.mem_range'_1] at listed
  omega

theorem eq_of_sequence (linked : Linked store) {first second : EventRow} (firstMember : first ∈ store.events)
    (secondMember : second ∈ store.events) (provider : first.provider = second.provider)
    (thread : first.nativeThreadId = second.nativeThreadId) (same : first.sequence = second.sequence) :
    first = second := by
  have distinct : ((store.eventsOf first.provider first.nativeThreadId).map EventRow.sequence).Nodup := by
    rw [← List.nodup_reverse, linked.exact]
    exact List.nodup_range'
  have secondListed := mem_eventsOf.mpr secondMember
  rw [← provider, ← thread] at secondListed
  exact List.inj_on_of_nodup_map distinct (mem_eventsOf.mpr firstMember) secondListed same

theorem sequenced (linked : Linked store) : Sequenced store where
  exact := linked.exact
  greatest := by
    rintro row member ⟨event, listed, own⟩
    have positive : 0 < row.lastSequence :=
      (linked.sequence_pos listed).trans_le (linked.bounded row member event listed own)
    refine ⟨linked.marked row member positive, ?_⟩
    rintro sequence ⟨other, otherListed, otherOwn, rfl⟩
    exact linked.bounded row member other otherListed otherOwn
  apart := by
    intro first firstMember second secondMember provider thread positive same
    obtain ⟨firstEvent, firstListed, firstOwn, firstLast⟩ := linked.marked first firstMember positive
    obtain ⟨secondEvent, secondListed, secondOwn, secondLast⟩ :=
      linked.marked second secondMember (same ▸ positive)
    have place : ∀ row ∈ store.items, ∀ event ∈ store.events, event.itemRowId = some row.id →
        event.provider = row.key.provider ∧ event.nativeThreadId = row.key.nativeThreadId := by
      intro row member event listed own
      obtain ⟨owner, ownerMember, sameId, ownerProvider, ownerThread⟩ := linked.owned event listed row.id own
      rw [← ItemTable.eq_of_id ownerMember member sameId]
      exact ⟨ownerProvider.symm, ownerThread.symm⟩
    obtain ⟨firstProvider, firstThread⟩ := place first firstMember firstEvent firstListed firstOwn
    obtain ⟨secondProvider, secondThread⟩ := place second secondMember secondEvent secondListed secondOwn
    have event : firstEvent = secondEvent := by
      apply linked.eq_of_sequence firstListed secondListed
      · rw [firstProvider, secondProvider, provider]
      · rw [firstThread, secondThread, thread]
      · rw [firstLast, secondLast, same]
    rw [event, secondOwn] at firstOwn
    exact ItemTable.eq_of_id firstMember secondMember (Option.some.inj firstOwn).symm

theorem empty : Linked .empty where
  exact := fun _ _ => rfl
  owned := fun _ member => absurd member List.not_mem_nil
  bounded := fun _ member => absurd member (Keyed.not_mem_empty _)
  marked := fun _ member => absurd member (Keyed.not_mem_empty _)

end Linked

structure SameMark (old row : ItemRow) : Prop where
  id : row.id = old.id
  provider : row.key.provider = old.key.provider
  nativeThreadId : row.key.nativeThreadId = old.key.nativeThreadId
  lastSequence : row.lastSequence = old.lastSequence

theorem SameMark.refl (row : ItemRow) : SameMark row row := ⟨rfl, rfl, rfl, rfl⟩

theorem SameMark.trans {first second third : ItemRow} (left : SameMark first second)
    (right : SameMark second third) : SameMark first third where
  id := right.id.trans left.id
  provider := right.provider.trans left.provider
  nativeThreadId := right.nativeThreadId.trans left.nativeThreadId
  lastSequence := right.lastSequence.trans left.lastSequence

structure Quiet (before after : ItemTable) : Prop where
  grows : before.nextId ≤ after.nextId
  kept : ∀ old ∈ before, ∃ row ∈ after, SameMark old row
  origin : ∀ row ∈ after,
    (∃ old ∈ before, SameMark old row) ∨ (before.nextId ≤ row.id ∧ row.lastSequence = 0)

namespace Quiet

theorem refl (table : ItemTable) : Quiet table table where
  grows := Nat.le_refl _
  kept := fun old member => ⟨old, member, .refl old⟩
  origin := fun row member => .inl ⟨row, member, .refl row⟩

theorem trans {first second third : ItemTable} (left : Quiet first second) (right : Quiet second third) :
    Quiet first third where
  grows := left.grows.trans right.grows
  kept := by
    intro old member
    obtain ⟨middle, middleMember, firstSame⟩ := left.kept old member
    obtain ⟨row, rowMember, secondSame⟩ := right.kept middle middleMember
    exact ⟨row, rowMember, firstSame.trans secondSame⟩
  origin := by
    intro row member
    rcases right.origin row member with ⟨middle, middleMember, same⟩ | ⟨late, unmarked⟩
    · rcases left.origin middle middleMember with ⟨old, oldMember, first⟩ | ⟨late, unmarked⟩
      · exact .inl ⟨old, oldMember, first.trans same⟩
      · exact .inr ⟨by rw [same.id]; exact late, by rw [same.lastSequence]; exact unmarked⟩
    · exact .inr ⟨left.grows.trans late, unmarked⟩

theorem update (table : ItemTable) (selected : ItemRow → Bool) {cells : Cells → Cells}
    (keeps : ∀ old, (cells old).lastSequence = old.lastSequence) : Quiet table (table.update selected cells) := by
  have same : ∀ old : ItemRow, SameMark old (if selected old then old.change cells else old) := by
    intro old
    split
    · exact ⟨rfl, rfl, rfl, keeps old.toCells⟩
    · exact .refl old
  refine ⟨Nat.le_refl _, fun old member => ⟨_, ItemTable.mem_update.mpr ⟨old, member, rfl⟩, same old⟩, ?_⟩
  intro row member
  obtain ⟨old, stored, rfl⟩ := ItemTable.mem_update.mp member
  exact .inl ⟨old, stored, same old⟩

theorem insert {table next : ItemTable} {key : RowKey} {cells : Cells} (unmarked : cells.lastSequence = 0)
    (inserted : table.insert? key cells = some next) : Quiet table next := by
  obtain ⟨counted, members⟩ := ItemTable.insert?_spec inserted
  refine ⟨by omega, fun old member => ⟨old, (members old).mpr (.inr member), .refl old⟩, ?_⟩
  intro row member
  rcases (members row).mp member with rfl | old
  · exact .inr ⟨Nat.le_refl _, unmarked⟩
  · exact .inl ⟨row, old, .refl row⟩

theorem rekey {table next : ItemTable} {row : ItemRow} {key : RowKey} {cells : Cells → Cells}
    (member : row ∈ table) (provider : key.provider = row.key.provider)
    (thread : key.nativeThreadId = row.key.nativeThreadId)
    (keeps : ∀ old, (cells old).lastSequence = old.lastSequence)
    (written : table.rekey? row.id key cells = some next) : Quiet table next := by
  obtain ⟨counted, members⟩ := ItemTable.rekey?_spec written
  have same : ∀ old ∈ table, SameMark old (if old.id = row.id then ItemTable.moved old key cells else old) := by
    intro old stored
    split
    · rename_i sameId
      rw [ItemTable.eq_of_id stored member sameId]
      exact ⟨rfl, provider, thread, keeps row.toCells⟩
    · exact .refl old
  refine ⟨by omega, fun old stored => ⟨_, (members _).mpr ⟨old, stored, rfl⟩, same old stored⟩, ?_⟩
  intro moved listed
  obtain ⟨old, stored, rfl⟩ := (members moved).mp listed
  exact .inl ⟨old, stored, same old stored⟩

theorem suppressConversationItem (table : ItemTable) (id : Nat) :
    Quiet table (table.suppressConversationItem id) :=
  update table _ fun _ => rfl

theorem suppressFailedLifecycle (table : ItemTable) (key : RowKey) :
    Quiet table (table.suppressFailedLifecycleForCompletedTurn key) := by
  unfold ItemTable.suppressFailedLifecycleForCompletedTurn
  split
  · exact refl table
  · exact update table _ fun _ => rfl

theorem suppressDuplicates (table : ItemTable) (provider nativeThreadId : String) :
    Quiet table (table.suppressDuplicateCompletedMessages provider nativeThreadId) := by
  unfold ItemTable.suppressDuplicateCompletedMessages
  generalize ItemTable.chunks _ = parts
  have from_ : ∀ middle, Quiet table middle → Quiet table (parts.foldl ItemTable.suppressChunk middle) := by
    induction parts with
    | nil => exact fun _ reached => reached
    | cons chunk rest ih =>
        intro middle reached
        exact ih _ (reached.trans (update middle _ fun _ => rfl))
  exact from_ table (refl table)

end Quiet

theorem upsertItem_spec {table next : ItemTable} {write : ItemWrite} {id : Nat}
    (written : table.upsertItem write = some (next, id)) :
    Quiet table next ∧ ∃ row ∈ next, row.id = id ∧ row.key.provider = write.key.provider ∧
      row.key.nativeThreadId = write.key.nativeThreadId := by
  unfold ItemTable.upsertItem at written
  split at written
  · rename_i row found
    have pending : table.pendingLocal? write.key write.text = some row := by
      split at found
      · exact found
      · cases found
    have listed := List.argmax_mem pending
    rw [List.mem_filter] at listed
    obtain ⟨member, picked⟩ := listed
    simp only [Bool.decide_and, Bool.and_eq_true, decide_eq_true_eq] at picked
    obtain ⟨moved, rekeyed, same⟩ := Option.map_eq_some_iff.mp written
    cases same
    have members := (ItemTable.rekey?_spec rekeyed).2
    have keeps : ∀ old, (write.merged old).lastSequence = old.lastSequence := fun _ => rfl
    refine ⟨Quiet.rekey member picked.1.symm picked.2.1.symm keeps rekeyed, ?_⟩
    exact ⟨_, (members _).mpr ⟨row, member, (if_pos rfl).symm⟩, rfl, rfl, rfl⟩
  · split at written
    · obtain ⟨grown, inserted, same⟩ := Option.map_eq_some_iff.mp written
      cases same
      have members := (ItemTable.insert?_spec inserted).2
      exact ⟨Quiet.insert rfl inserted, _, (members _).mpr (.inl rfl), rfl, rfl, rfl⟩
    · rename_i row found
      obtain ⟨member, key⟩ := ItemTable.find?_eq_some_iff.mp found
      split at written
      · cases written
        exact ⟨.refl table, row, member, rfl, by rw [key], by rw [key]⟩
      · cases written
        refine ⟨.update table _ fun _ => rfl, _, ItemTable.mem_update.mpr ⟨row, member, rfl⟩, ?_⟩
        rw [ItemTable.id_update, ItemTable.key_update, key]
        exact ⟨rfl, rfl, rfl⟩

namespace Linked

theorem of_quiet {items : ItemTable} (linked : Linked store)
    (quiet : Quiet store.items items) : Linked { store with items } where
  exact := linked.exact
  owned := by
    intro event listed id own
    obtain ⟨old, member, sameId, provider, thread⟩ := linked.owned event listed id own
    obtain ⟨row, rowMember, same⟩ := quiet.kept old member
    exact ⟨row, rowMember, same.id.trans sameId, same.provider.trans provider,
      same.nativeThreadId.trans thread⟩
  bounded := by
    intro row member event listed own
    rcases quiet.origin row member with ⟨old, oldMember, same⟩ | ⟨late, _⟩
    · rw [same.lastSequence]
      exact linked.bounded old oldMember event listed (by rw [own, same.id])
    · -- an event's item was there before
      obtain ⟨old, oldMember, sameId, _, _⟩ := linked.owned event listed row.id own
      have early := store.items.numbered old oldMember
      omega
  marked := by
    intro row member positive
    rcases quiet.origin row member with ⟨old, oldMember, same⟩ | ⟨_, unmarked⟩
    · rw [same.lastSequence] at positive ⊢
      rw [same.id]
      exact linked.marked old oldMember positive
    · omega

theorem foldr_max_of_range' {count : Nat} {numbers : List Nat}
    (order : numbers.reverse = List.range' 1 count) : numbers.foldr max 0 = count := by
  have listed : ∀ number, number ∈ numbers ↔ 1 ≤ number ∧ number < 1 + count := by
    intro number
    rw [← List.mem_reverse, order, List.mem_range'_1]
  apply Nat.le_antisymm
  · refine List.max_le_of_forall_le numbers count fun number member => ?_
    have within := (listed number).mp member
    omega
  · rcases Nat.eq_zero_or_pos count with rfl | positive
    · exact Nat.zero_le _
    · exact List.le_max_of_le ((listed count).mpr ⟨positive, by omega⟩) (Nat.le_refl count)

theorem nextSequence_eq (linked : Linked store) (provider nativeThreadId : String) :
    store.nextSequence provider nativeThreadId = (store.eventsOf provider nativeThreadId).length + 1 := by
  unfold TimelineStore.nextSequence
  rw [foldr_max_of_range' (linked.exact provider nativeThreadId)]

theorem sequence_lt_nextSequence (linked : Linked store) (member : event ∈ store.events) :
    event.sequence < store.nextSequence event.provider event.nativeThreadId := by
  have listed : event.sequence ∈
      ((store.eventsOf event.provider event.nativeThreadId).map EventRow.sequence).reverse :=
    List.mem_reverse.mpr (List.mem_map_of_mem (mem_eventsOf.mpr member))
  rw [linked.exact, List.mem_range'_1] at listed
  rw [linked.nextSequence_eq]
  omega

theorem lastSequence_lt (linked : Linked store) {row : ItemRow} (member : row ∈ store.items) :
    row.lastSequence < store.nextSequence row.key.provider row.key.nativeThreadId := by
  rcases Nat.eq_zero_or_pos row.lastSequence with unmarked | positive
  · rw [unmarked, linked.nextSequence_eq]
    exact Nat.succ_pos _
  · obtain ⟨event, listed, own, last⟩ := linked.marked row member positive
    obtain ⟨owner, ownerMember, sameId, provider, thread⟩ := linked.owned event listed row.id own
    rw [← last, ← ItemTable.eq_of_id ownerMember member sameId, provider, thread]
    exact linked.sequence_lt_nextSequence listed

theorem appendEvent (linked : Linked store) {provider nativeThreadId : String}
    {id : Nat} (owner : ∃ row ∈ store.items, row.id = id ∧ row.key.provider = provider ∧
      row.key.nativeThreadId = nativeThreadId)
    (runtimeEventId : Nat) (eventType : EventType) (kind : EventKind) (payload : Dict) :
    Linked (store.appendEvent provider nativeThreadId (some id) runtimeEventId eventType kind payload) := by
  obtain ⟨target, targetMember, rfl, rfl, rfl⟩ := owner
  generalize sequenceIs : store.nextSequence target.key.provider target.key.nativeThreadId = sequence
  have next := linked.lastSequence_lt targetMember
  rw [sequenceIs] at next
  refine ⟨?_, ?_, ?_, ?_⟩
  · intro provider nativeThreadId
    have order := linked.exact provider nativeThreadId
    unfold TimelineStore.appendEvent TimelineStore.eventsOf
    rw [List.filter_cons]
    split
    · rename_i same
      simp only [Bool.decide_and, Bool.and_eq_true, decide_eq_true_eq] at same
      obtain ⟨rfl, rfl⟩ := same
      rw [List.map_cons, List.reverse_cons, List.length_cons, List.range'_concat]
      change List.reverse (List.map _ (store.eventsOf _ _)) ++ [store.nextSequence _ _] =
        List.range' 1 (store.eventsOf _ _).length ++ [_]
      rw [order, linked.nextSequence_eq, Nat.add_comm 1, Nat.one_mul]
      rfl
    · exact order
  · intro event listed id own
    rcases List.mem_cons.mp listed with rfl | old
    · cases own
      exact ⟨_, ItemTable.mem_update.mpr ⟨target, targetMember, rfl⟩, ItemTable.id_update ..,
        by rw [ItemTable.key_update], by rw [ItemTable.key_update]⟩
    · obtain ⟨row, member, sameId, provider, thread⟩ := linked.owned event old id own
      exact ⟨_, ItemTable.mem_update.mpr ⟨row, member, rfl⟩, by rw [ItemTable.id_update, sameId],
        by rw [ItemTable.key_update, provider], by rw [ItemTable.key_update, thread]⟩
  · intro row member event listed own
    obtain ⟨old, stored, rfl⟩ := ItemTable.mem_update.mp member
    rw [ItemTable.id_update] at own
    rw [sequenceIs]
    rcases List.mem_cons.mp listed with rfl | earlier
    · have chosen : (decide (old.id = target.id)) = true := by
        simpa using (Option.some.inj own).symm
      rw [if_pos chosen]
      exact le_max_of_le_right (Nat.le_of_eq sequenceIs)
    · have below := linked.bounded old stored event earlier own
      split
      · exact le_max_of_le_left below
      · exact below
  · intro row member positive
    obtain ⟨old, stored, rfl⟩ := ItemTable.mem_update.mp member
    rw [ItemTable.id_update]
    by_cases chosen : old.id = target.id
    · refine ⟨_, List.mem_cons_self, by rw [chosen], ?_⟩
      rw [if_pos (by simpa using chosen), ItemTable.eq_of_id stored targetMember chosen, sequenceIs]
      exact (max_eq_right next.le).symm
    · rw [if_neg (by simpa using chosen)] at positive ⊢
      obtain ⟨event, listed, own, last⟩ := linked.marked old stored positive
      exact ⟨event, List.mem_cons_of_mem _ listed, own, last⟩

end Linked

structure Stable (Inv : TimelineStore → Prop) : Prop where
  quiet : ∀ {store items}, Inv store → Quiet store.items items → Inv { store with items }
  append : ∀ {store provider nativeThreadId id}, Inv store →
    (∃ row ∈ store.items, row.id = id ∧ row.key.provider = provider ∧ row.key.nativeThreadId = nativeThreadId) →
    ∀ runtimeEventId eventType kind payload,
      Inv (store.appendEvent provider nativeThreadId (some id) runtimeEventId eventType kind payload)

theorem stable_linked : Stable Linked where
  quiet := fun linked quiet => linked.of_quiet quiet
  append := fun linked owner => linked.appendEvent owner

section Calls

variable {builtins : Builtins} {Inv : TimelineStore → Prop} (stable : Stable Inv) {store : TimelineStore}

include stable

section

variable (holds : Inv store)

include holds

theorem stable_record {place : Place} (event : RuntimeEvent) {projection : Projection}
    (provider : projection.write.key.provider = place.provider)
    (thread : projection.write.key.nativeThreadId = place.nativeThreadId) :
    ∀ next ∈ record store place event projection, Inv next := by
  unfold record
  split
  · simp
  · rename_i items id written
    obtain ⟨quiet, owner⟩ := upsertItem_spec written
    rw [provider, thread] at owner
    have held := stable.quiet holds quiet
    intro next member
    rcases List.mem_pair.mp member with rfl | rfl
    · exact held
    · exact stable.append held owner ..

theorem stable_recordCompleted (place : Place) (event : RuntimeEvent) :
    ∀ next ∈ recordCompleted builtins store place event, Inv next := by
  unfold recordCompleted
  simp only
  split
  · simp
  · split
    · simp
    · rename_i items id written
      obtain ⟨quiet, owner⟩ := upsertItem_spec written
      have hushed := Quiet.suppressFailedLifecycle items (messageCompleted builtins place event.payload).write.key
      obtain ⟨row, member, sameId, provider, thread⟩ := owner
      obtain ⟨kept, keptMember, same⟩ := hushed.kept row member
      have held := stable.quiet holds (quiet.trans hushed)
      intro next listed
      simp only [List.mem_cons, List.not_mem_nil, or_false] at listed
      rcases listed with rfl | rfl | rfl
      · exact stable.quiet holds quiet
      · exact held
      · exact stable.append held ⟨kept, keptMember, same.id.trans sameId, same.provider.trans provider,
          same.nativeThreadId.trans thread⟩ ..

theorem stable_completed (place : Place) (event : RuntimeEvent) :
    ∀ next ∈ completed builtins store place event, Inv next := by
  unfold completed
  split
  · simp
  · split
    · exact stable_recordCompleted stable holds place event
    · rename_i duplicate _
      split
      · simp
      · split
        · have hidden := stable.quiet holds (Quiet.suppressConversationItem store.items duplicate.id)
          intro next member
          rcases List.mem_cons.mp member with rfl | later
          · exact hidden
          · exact stable_recordCompleted stable hidden place event next later
        · simp

theorem stable_commits (event : RuntimeEvent) :
    ∀ next ∈ commits builtins store event, Inv next := by
  unfold commits
  split
  · simp
  · split
    · simp
    · rename_i place _
      split
      · exact stable_completed stable holds place event
      · split
        · simp
        · rename_i projection projects
          obtain ⟨itemKey, key⟩ := (projection?_isOf projects).1
          exact stable_record stable holds event (by rw [key]; rfl) (by rw [key]; rfl)

theorem stable_repair (provider nativeThreadId : String) (rows : List StateRow) :
    ∀ next ∈ (latestTurnRunState builtins store provider nativeThreadId rows).1, Inv next := by
  have ensured : ∀ place row, ∀ next ∈ ensureFailedLifecycleItem builtins store place row, Inv next := by
    intro place row
    unfold ensureFailedLifecycleItem
    simp only
    split
    · simp
    · split
      · simp
      · split
        · simp
        · rename_i items id written
          obtain ⟨quiet, owner⟩ := upsertItem_spec written
          have held := stable.quiet holds quiet
          intro next member
          rcases List.mem_pair.mp member with rfl | rfl
          · exact held
          · exact stable.append held owner ..
  have terminal : ∀ place row, ∀ next ∈ (terminalTurnRunState builtins store place row).1, Inv next := by
    intro place row
    unfold terminalTurnRunState
    split
    · split
      · intro next member
        rw [List.mem_singleton.mp member]
        exact stable.quiet holds (Quiet.suppressFailedLifecycle ..)
      · exact ensured place row
    · simp
  unfold latestTurnRunState
  simp only
  split
  · simp
  · split
    · exact terminal _ _
    · split
      · simp
      · split <;> simp

theorem stable_callCommits (call : TimelineCall) :
    ∀ next ∈ callCommits builtins store call, Inv next := by
  cases call with
  | project event => exact stable_commits stable holds event
  | suppressDuplicates provider nativeThreadId =>
      intro next member
      rw [List.mem_singleton.mp member]
      exact stable.quiet holds (Quiet.suppressDuplicates ..)
  | repair provider nativeThreadId rows => exact stable_repair stable holds provider nativeThreadId rows

end

end Calls

/-- A message that a client left in the table until its event comes; an index that
it violates refuses it. -/
structure LocalMessage where
  key : RowKey
  text : String
  payload : Dict
  sourcePriority : Nat

def LocalMessage.cells (message : LocalMessage) : Cells where
  role := .user
  kind := .userMessage
  text := message.text
  status := "pending"
  sourcePriority := message.sourcePriority
  payload := message.payload
  lastSequence := 0

inductive TimelineInput where
  | op (op : TimelineOp)
  | localMessage (message : LocalMessage)

def inputStep (builtins : Builtins) (store : TimelineStore) : TimelineInput → TimelineStore
  | .op op => step builtins store op
  | .localMessage message =>
      match store.items.insert? message.key message.cells with
      | none => store
      | some items => { store with items }

theorem stable_inputStep {builtins : Builtins} {Inv : TimelineStore → Prop} (stable : Stable Inv) (holds : Inv store) (input : TimelineInput) : Inv (inputStep builtins store input) := by
  cases input with
  | op op => exact step_keeps builtins (fun _ call held => stable_callCommits stable held call) holds op
  | localMessage message =>
      unfold inputStep
      simp only
      split
      · exact holds
      · rename_i items inserted
        have quiet : Quiet store.items items := .insert rfl inserted
        exact stable.quiet holds quiet

theorem stable_inputs {builtins : Builtins} {Inv : TimelineStore → Prop} (stable : Stable Inv)
    (initial : Inv .empty) (inputs : List TimelineInput) : Inv (inputs.foldl (inputStep builtins) .empty) := by
  have kept : ∀ store input, Inv store → True → Inv (inputStep builtins store input) :=
    fun _ input holds _ => stable_inputStep stable holds input
  exact @invariant_foldl _ _ _ _ Inv kept _ _ initial (along_true _ inputs)

/-- Numbers of a thread are exactly the first ones, an item is marked with its last
event, and no two items of a thread share a mark. -/
theorem timeline_sequenced (builtins : Builtins) (inputs : List TimelineInput) :
    Sequenced (inputs.foldl (inputStep builtins) .empty) :=
  (stable_inputs stable_linked Linked.empty inputs).sequenced

end Wlcodex.Timeline
