import Wlcodex.Timeline.Board

namespace Wlcodex.Timeline

open Wlcodex.Lib
open Wlcodex.Relay (Dict)
open ItemTable (IsCompletedMessage)

/-! Answers of a turn. -/

def OneAnswer (board : Board) : Prop :=
  ∀ first second firstFace secondFace, board first = some firstFace → board second = some secondFace →
    IsCompletedMessage firstFace → IsCompletedMessage secondFace → first.InTurn second →
      firstFace.text = secondFace.text → first = second

theorem RowKey.InTurn.symm {first second : RowKey} (same : first.InTurn second) : second.InTurn first :=
  ⟨same.1.symm, same.2.1.symm, same.2.2.symm⟩

theorem RowKey.InTurn.trans {first second third : RowKey} (left : first.InTurn second)
    (right : second.InTurn third) : first.InTurn third :=
  ⟨left.1.trans right.1, left.2.1.trans right.2.1, left.2.2.trans right.2.2⟩

namespace OneAnswer

variable {board : Board}

theorem of_fewer {after : Board} (one : OneAnswer board)
    (fewer : ∀ key face, after key = some face → IsCompletedMessage face → board key = some face) :
    OneAnswer after := by
  intro first second firstFace secondFace firstShown secondShown firstDone secondDone
  exact one first second firstFace secondFace (fewer first firstFace firstShown firstDone)
    (fewer second secondFace secondShown secondDone) firstDone secondDone

theorem put_other (one : OneAnswer board) {write : ItemWrite}
    (other : ¬ (write.kind = .message ∧ write.status = "completed")) : OneAnswer (board.put write) := by
  refine one.of_fewer fun key face shown done => ?_
  unfold Board.put at shown
  by_cases same : key = write.key
  · subst same
    rw [Function.update_self] at shown
    cases shown
    unfold ItemWrite.settle at done ⊢
    cases stood : board write.key with
    | none =>
        rw [stood] at done
        exact absurd done other
    | some old =>
        rw [stood] at done
        simp only at done ⊢
        split at done
        · rename_i yields
          rw [if_pos yields]
        · exact absurd done other
  · rw [Function.update_of_ne same] at shown
    exact shown

theorem put_answer (one : OneAnswer board) {write : ItemWrite}
    (alone : ∀ key face, board key = some face → IsCompletedMessage face → key.InTurn write.key →
      face.text = write.text → key = write.key) : OneAnswer (board.put write) := by
  -- an answer under another key is an old one; under this key it is old or has the text written
  have old : ∀ key face, board.put write key = some face → key ≠ write.key → board key = some face := by
    intro key face shown other
    unfold Board.put at shown
    rwa [Function.update_of_ne other] at shown
  have own : ∀ face, board.put write write.key = some face →
      board write.key = some face ∨ face.text = write.text := by
    intro face shown
    unfold Board.put ItemWrite.settle at shown
    rw [Function.update_self] at shown
    cases stood : board write.key with
    | none =>
        rw [stood] at shown
        cases shown
        exact .inr rfl
    | some old =>
        rw [stood] at shown
        simp only at shown
        split at shown
        · exact .inl shown
        · cases shown
          exact .inr rfl
  have meets : ∀ other otherFace face, board.put write other = some otherFace →
      board.put write write.key = some face → IsCompletedMessage otherFace → IsCompletedMessage face →
      other.InTurn write.key → otherFace.text = face.text → other = write.key := by
    intro other otherFace face otherShown shown otherDone done turn text
    by_contra different
    have stood := old other otherFace otherShown different
    rcases own face shown with before | written
    · exact different (one other write.key otherFace face stood before otherDone done turn text)
    · exact different (alone other otherFace stood otherDone turn (text.trans written))
  intro first second firstFace secondFace firstShown secondShown firstDone secondDone turn text
  by_cases firstOwn : first = write.key
  · subst firstOwn
    exact (meets second secondFace firstFace secondShown firstShown secondDone firstDone turn.symm
      text.symm).symm
  · by_cases secondOwn : second = write.key
    · subst secondOwn
      exact meets first firstFace secondFace firstShown secondShown firstDone secondDone turn text
    · exact one first second firstFace secondFace (old first firstFace firstShown firstOwn)
        (old second secondFace secondShown secondOwn) firstDone secondDone turn text

theorem hide (one : OneAnswer board) (key : RowKey) : OneAnswer (board.hide key) := by
  refine one.of_fewer fun other face shown done => ?_
  unfold Board.hide at shown
  by_cases same : other = key
  · subst same
    rw [Function.update_self] at shown
    obtain ⟨old, _, rfl⟩ := Option.map_eq_some_iff.mp shown
    exact absurd done.1 (by simp)
  · rwa [Function.update_of_ne same] at shown

theorem hush (one : OneAnswer board) (turn : RowKey) : OneAnswer (board.hush turn) := by
  refine one.of_fewer fun key face shown done => ?_
  unfold Board.hush at shown
  split at shown
  · obtain ⟨old, stood, rfl⟩ := Option.map_eq_some_iff.mp shown
    unfold hushed at done ⊢
    split at done
    · exact absurd done.1 (by simp)
    · rename_i sound
      rw [if_neg sound]
      exact stood
  · exact shown

end OneAnswer

section Duplicates

variable {builtins : Builtins} {table : ItemTable} {place : Place} {payload : Dict}

theorem findCompletedMessageByTurnText_some {key : RowKey} {text : String} {row : ItemRow}
    (found : table.findCompletedMessageByTurnText key text = some row) :
    row ∈ table ∧ row.key.InTurn key ∧ IsCompletedMessage row.toFace ∧ row.text = text := by
  unfold ItemTable.findCompletedMessageByTurnText at found
  split at found
  · cases found
  · have listed := List.argmin_mem found
    rw [List.mem_filter] at listed
    obtain ⟨member, picked⟩ := listed
    simp only [Bool.decide_and, Bool.and_eq_true, decide_eq_true_eq] at picked
    exact ⟨member, ⟨picked.1, picked.2.1, picked.2.2.1⟩, picked.2.2.2.1, picked.2.2.2.2⟩

theorem findCompletedMessageByTurnText_none {key : RowKey} {text : String} (named : key.turnKey ≠ "")
    (present : text ≠ "") (missing : table.findCompletedMessageByTurnText key text = none) :
    ∀ row ∈ table, row.key.InTurn key → IsCompletedMessage row.toFace → row.text ≠ text := by
  intro row member turn done same
  unfold ItemTable.findCompletedMessageByTurnText at missing
  rw [if_neg (by simp [named, present]), List.argmin_eq_none, List.filter_eq_nil_iff] at missing
  refine missing row member ?_
  simp only [Bool.decide_and, Bool.and_eq_true, decide_eq_true_eq]
  exact ⟨turn.1, turn.2.1, turn.2.2, done, same⟩

theorem duplicate?_some {row : ItemRow} (found : duplicate? builtins table place payload = some row) :
    row ∈ table ∧ row.key.InTurn (place.key "") ∧ IsCompletedMessage row.toFace ∧
      row.text = completedText builtins payload ∧ row.key ≠ messageKey builtins place payload := by
  unfold duplicate? at found
  simp only [Option.filter_eq_some_iff, decide_eq_true_eq] at found
  obtain ⟨found, other⟩ := found
  obtain ⟨member, turn, done, same⟩ := findCompletedMessageByTurnText_some found
  exact ⟨member, turn, done, same, fun key => other (by rw [key])⟩

theorem duplicate?_none (one : OneAnswer table.board) (named : place.turnKey ≠ "")
    (present : completedText builtins payload ≠ "")
    (missing : duplicate? builtins table place payload = none) :
    ∀ key face, table.board key = some face → IsCompletedMessage face →
      key.InTurn (messageKey builtins place payload) → face.text = completedText builtins payload →
      key = messageKey builtins place payload := by
  intro key face shown done turn text
  obtain ⟨row, member, rfl, rfl⟩ := ItemTable.board_eq_some_iff.mp shown
  unfold duplicate? at missing
  cases found : table.findCompletedMessageByTurnText (messageKey builtins place payload)
      (completedText builtins payload) with
  | none => exact absurd text (findCompletedMessageByTurnText_none named present found row member turn done)
  | some other =>
      obtain ⟨otherMember, otherTurn, otherDone, otherText⟩ := findCompletedMessageByTurnText_some found
      have otherKey : other.key = messageKey builtins place payload := by
        obtain ⟨provider, thread, turnKey⟩ := otherTurn
        cases keyIs : other.key
        simp_all
      rw [← otherKey]
      exact one row.key other.key row.toFace other.toFace shown (ItemTable.board_key otherMember) done
        otherDone (turn.trans otherTurn.symm) (text.trans otherText.symm)

end Duplicates

structure Answered (store : TimelineStore) : Prop where
  ranked : store.items.board.IsRanked
  one : OneAnswer store.items.board

section Calls

variable {builtins : Builtins} {store : TimelineStore}

theorem answered_empty : Answered .empty where
  ranked := by
    intro key face shown
    obtain ⟨row, member, _⟩ := ItemTable.board_eq_some_iff.mp shown
    exact absurd member (Keyed.not_mem_empty row)
  one := by
    intro first _ firstFace _ shown
    obtain ⟨row, member, _⟩ := ItemTable.board_eq_some_iff.mp shown
    exact absurd member (Keyed.not_mem_empty row)

section

variable (answered : Answered store)

include answered

theorem Answered.hush (turn : RowKey) {next : TimelineStore}
    (shown : next.items.board = store.items.board.hush turn) : Answered next where
  ranked := by
    rw [shown]
    exact answered.ranked.hush turn
  one := by
    rw [shown]
    exact answered.one.hush turn

theorem answered_record {place : Place} {event : RuntimeEvent}
    {projection : Projection} (projects : projection? builtins store.items place event = some projection) :
    ∀ next ∈ record store place event projection, Answered next := by
  have written := (projection?_isOf projects).2
  obtain ⟨stored, recorded, stores, storedBoard, recordedBoard⟩ :=
    record_board answered.ranked place event projection
  have put : ∀ next : TimelineStore, next.items.board = store.items.board.put projection.write →
      Answered next := by
    intro next shown
    refine ⟨?_, ?_⟩
    · rw [shown]
      exact answered.ranked.put written.shaped
    · rw [shown]
      exact answered.one.put_other written.not_completed
  rw [stores]
  intro next member
  rcases List.mem_pair.mp member with rfl | rfl
  · exact put _ storedBoard
  · exact put _ recordedBoard

theorem answered_recordCompleted {place : Place} (event : RuntimeEvent) (named : place.turnKey ≠ "")
    (alone : ∀ key face, store.items.board key = some face → IsCompletedMessage face →
      key.InTurn (messageKey builtins place event.payload) →
      face.text = completedText builtins event.payload → key = messageKey builtins place event.payload) :
    ∀ next ∈ recordCompleted builtins store place event, Answered next := by
  by_cases repeated : Repeats builtins store.items.board place event.payload
  · rw [recordCompleted_of_repeats repeated]
    simp
  · obtain ⟨written, superseded, recorded, stores, writtenBoard, supersededBoard, recordedBoard⟩ :=
      recordCompleted_board answered.ranked event named repeated
    have held : Answered written := by
      refine ⟨?_, ?_⟩
      · rw [writtenBoard]
        exact answered.ranked.put (messageCompleted_shaped builtins place event.payload)
      · rw [writtenBoard]
        exact answered.one.put_answer alone
    rw [stores]
    intro next member
    simp only [List.mem_cons, List.not_mem_nil, or_false] at member
    rcases member with rfl | rfl | rfl
    · exact held
    · exact held.hush _ supersededBoard
    · exact held.hush _ recordedBoard

theorem answered_completed {place : Place} (event : RuntimeEvent)
    (named : place.turnKey ≠ "") : ∀ next ∈ completed builtins store place event, Answered next := by
  unfold completed
  split
  · simp
  · rename_i present
    split
    · rename_i missing
      exact answered_recordCompleted answered event named (duplicate?_none answered.one named present missing)
    · rename_i duplicate found
      obtain ⟨member, turn, done, text, other⟩ := duplicate?_some found
      split
      · simp
      · split
        · have hiddenBoard := board_suppressConversationItem member
          have hidden : Answered { store with items := store.items.suppressConversationItem duplicate.id } := by
            refine ⟨?_, ?_⟩
            · simp only [hiddenBoard]
              refine answered.ranked.hide fun face shown => ?_
              rw [ItemTable.board_key member] at shown
              cases shown
              exact done
            · simp only [hiddenBoard]
              exact answered.one.hide duplicate.key
          intro next listed
          rcases List.mem_cons.mp listed with rfl | later
          · exact hidden
          · refine answered_recordCompleted hidden event named ?_ next later
            -- the hidden item was the only answer with the text
            intro key face shown faceDone keyTurn faceText
            simp only [hiddenBoard] at shown
            unfold Board.hide at shown
            by_cases same : key = duplicate.key
            · subst same
              rw [Function.update_self] at shown
              obtain ⟨old, _, rfl⟩ := Option.map_eq_some_iff.mp shown
              exact absurd faceDone.1 (by simp)
            · rw [Function.update_of_ne same] at shown
              exact absurd (answered.one key duplicate.key face duplicate.toFace shown
                (ItemTable.board_key member) faceDone done (keyTurn.trans turn.symm)
                (faceText.trans text.symm)) same
        · simp

theorem answered_commits (event : RuntimeEvent) :
    ∀ next ∈ commits builtins store event, Answered next := by
  unfold commits
  split
  · simp
  · split
    · simp
    · rename_i place found
      split
      · exact answered_completed answered event (place?_named found)
      · split
        · simp
        · rename_i projection projects
          exact answered_record answered projects

theorem answered_ensureFailedLifecycleItem (place : Place) (row : StateRow) :
    ∀ next ∈ ensureFailedLifecycleItem builtins store place row, Answered next := by
  unfold ensureFailedLifecycleItem
  simp only
  split
  · simp
  · split
    · simp
    · generalize projectionIs : failedLifecycle builtins place row.eventType row.payload = projection
      have shaped : projection.write.IsShaped := by
        rw [← projectionIs]
        exact .failure _
      have other : ¬ (projection.write.kind = .message ∧ projection.write.status = "completed") := by
        rw [← projectionIs]
        simp [failedLifecycle]
      obtain ⟨items, id, upserted, shown⟩ := board_upsertItem answered.ranked.settled projection.write
      have written : Answered { store with items } := by
        refine ⟨?_, ?_⟩
        · simp only [shown]
          exact answered.ranked.put shaped
        · simp only [shown]
          exact answered.one.put_other other
      rw [upserted]
      intro next member
      rcases List.mem_pair.mp member with rfl | rfl
      · exact written
      · exact ⟨by rw [board_appendEvent]; exact written.ranked, by rw [board_appendEvent]; exact written.one⟩

theorem answered_repair (provider nativeThreadId : String) (rows : List StateRow) :
    ∀ next ∈ (latestTurnRunState builtins store provider nativeThreadId rows).1, Answered next := by
  have terminal : ∀ place row, ∀ next ∈ (terminalTurnRunState builtins store place row).1, Answered next := by
    intro place row
    unfold terminalTurnRunState
    split
    · split
      · rename_i exists_
        have named : place.turnKey ≠ "" := by
          unfold ItemTable.completedMessageForTurnExists at exists_
          simp only [Bool.decide_and, Bool.and_eq_true, decide_eq_true_eq] at exists_
          exact exists_.1
        intro next member
        rw [List.mem_singleton.mp member]
        exact answered.hush (place.key "") (board_suppressFailedLifecycle named)
      · exact answered_ensureFailedLifecycleItem answered place row
    · simp
  unfold latestTurnRunState
  simp only
  split
  · simp
  · split
    · exact terminal _ _
    · split
      · simp
      · split <;> simp

end

end Calls

end Wlcodex.Timeline
