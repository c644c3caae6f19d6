import Wlcodex.Timeline.Duplicates

namespace Wlcodex.Timeline

open Wlcodex.Relay (Dict)
open ItemTable (IsCompletedMessage IsFailedLifecycle isJsonlAssistantFinalItemKey)

/-! A turn that both completes and fails. -/

section Completion

variable (builtins : Builtins) (place : Place) (payload : Dict)

def Other (board : Board) (key : RowKey) : Prop :=
  ∃ face, board key = some face ∧ IsCompletedMessage face ∧ face.text = completedText builtins payload ∧
    key.InTurn (place.key "") ∧ key ≠ messageKey builtins place payload

def Admitted (board : Board) : Prop :=
  ∀ key, Other builtins place payload board key →
    isJsonlAssistantFinalItemKey key.itemKey ∧
      ¬ isJsonlAssistantFinalItemKey (messageKey builtins place payload).itemKey

open Classical in
noncomputable def cleared (board : Board) : Board := fun key =>
  if Other builtins place payload board key then
    (board key).map fun face => { face with kind := .messageSuppressed, status := "superseded" }
  else board key

open Classical in
noncomputable def complete (board : Board) : Board :=
  if Admitted builtins place payload board then
    if Repeats builtins board place payload then cleared builtins place payload board
    else ((cleared builtins place payload board).put (completion builtins place payload)).hush (place.key "")
  else board

variable {builtins place payload}

variable {board : Board}

theorem cleared_of_none (none_ : ∀ key, ¬ Other builtins place payload board key) :
    cleared builtins place payload board = board := by
  funext key
  exact if_neg (none_ key)

theorem cleared_of_only (one : OneAnswer board) {key : RowKey}
    (other : Other builtins place payload board key) :
    cleared builtins place payload board = board.hide key := by
  funext wanted
  unfold cleared Board.hide
  by_cases same : wanted = key
  · subst same
    rw [if_pos other, Function.update_self]
  · rw [Function.update_of_ne same, if_neg]
    rintro ⟨face, shown, done, text, turn, _⟩
    obtain ⟨otherFace, otherShown, otherDone, otherText, otherTurn, _⟩ := other
    exact same (one wanted key face otherFace shown otherShown done otherDone (turn.trans otherTurn.symm)
      (text.trans otherText.symm))

theorem cleared_own (board : Board) :
    cleared builtins place payload board (messageKey builtins place payload) =
      board (messageKey builtins place payload) :=
  if_neg fun ⟨_, _, _, _, _, different⟩ => different rfl

theorem repeats_congr {first second : Board}
    (same : first (messageKey builtins place payload) = second (messageKey builtins place payload)) :
    Repeats builtins first place payload ↔ Repeats builtins second place payload := by
  unfold Repeats
  rw [same]

theorem board_recordCompleted {store : TimelineStore} {event : RuntimeEvent}
    (ranked : store.items.board.IsRanked) (named : place.turnKey ≠ "") (fallback : TimelineStore)
    (kept : fallback.items.board = store.items.board) :
    ((recordCompleted builtins store place event).getLastD fallback).items.board =
      if Repeats builtins store.items.board place event.payload then store.items.board
      else (store.items.board.put (completion builtins place event.payload)).hush (place.key "") := by
  split
  · rename_i repeated
    rw [recordCompleted_of_repeats repeated]
    exact kept
  · rename_i anew
    obtain ⟨written, superseded, recorded, stores, writtenBoard, _, recordedBoard⟩ :=
      recordCompleted_board ranked event named anew
    rw [stores, ← writtenBoard]
    exact recordedBoard

theorem board_completed {store : TimelineStore} {event : RuntimeEvent} (answered : Answered store)
    (named : place.turnKey ≠ "") (present : completedText builtins event.payload ≠ "") :
    ((completed builtins store place event).getLastD store).items.board =
      complete builtins place event.payload store.items.board := by
  unfold completed
  rw [if_neg present]
  split
  · rename_i missing
    have none_ : ∀ key, ¬ Other builtins place event.payload store.items.board key := by
      rintro key ⟨face, shown, done, text, turn, different⟩
      exact different (duplicate?_none answered.one named present missing key face shown done turn text)
    have admitted : Admitted builtins place event.payload store.items.board :=
      fun key other => absurd other (none_ key)
    unfold complete
    rw [if_pos admitted, cleared_of_none none_]
    exact board_recordCompleted answered.ranked named store rfl
  · rename_i duplicate found
    obtain ⟨member, turn, done, text, different⟩ := duplicate?_some found
    have other : Other builtins place event.payload store.items.board duplicate.key :=
      ⟨duplicate.toFace, ItemTable.board_key member, done, text, turn, different⟩
    have only : ∀ key, Other builtins place event.payload store.items.board key → key = duplicate.key := by
      rintro key ⟨face, shown, faceDone, faceText, faceTurn, _⟩
      exact answered.one key duplicate.key face duplicate.toFace shown (ItemTable.board_key member) faceDone
        done (faceTurn.trans turn.symm) (faceText.trans text.symm)
    unfold complete
    split
    · rename_i transcript
      rw [if_neg fun admitted => (admitted duplicate.key other).2 transcript]
      rfl
    · rename_i own
      split
      · rename_i transcript
        have admitted : Admitted builtins place event.payload store.items.board := by
          intro key keyOther
          rw [only key keyOther]
          exact ⟨transcript, own⟩
        have hiddenBoard := board_suppressConversationItem member
        have hidden : (store.items.suppressConversationItem duplicate.id).board =
            cleared builtins place event.payload store.items.board := by
          rw [hiddenBoard, cleared_of_only answered.one other]
        have ranked : (store.items.suppressConversationItem duplicate.id).board.IsRanked := by
          rw [hiddenBoard]
          refine answered.ranked.hide fun face shown => ?_
          rw [ItemTable.board_key member] at shown
          cases shown
          exact done
        have last := @board_recordCompleted builtins place
          { store with items := store.items.suppressConversationItem duplicate.id } event ranked named _ rfl
        have repeats : Repeats builtins (cleared builtins place event.payload store.items.board) place
            event.payload ↔ Repeats builtins store.items.board place event.payload :=
          repeats_congr (cleared_own store.items.board)
        rw [if_pos admitted, List.getLastD_cons, last, hidden]
        exact if_congr repeats rfl rfl
      · rename_i named_
        rw [if_neg fun admitted => named_ (admitted duplicate.key other).1]
        rfl

theorem ranked_cleared (ranked : board.IsRanked) :
    (cleared builtins place payload board).IsRanked := by
  intro key face shown
  unfold cleared at shown
  split at shown
  · rename_i other
    obtain ⟨old, stood, rfl⟩ := Option.map_eq_some_iff.mp shown
    obtain ⟨otherFace, otherShown, done, _⟩ := other
    rw [otherShown] at stood
    cases stood
    have level := (ranked key old otherShown).message done
    constructor <;> simp [IsCompletedMessage, IsFailedLifecycle, level]
  · exact ranked key face shown

theorem ranked_complete (ranked : board.IsRanked) :
    (complete builtins place payload board).IsRanked := by
  unfold complete
  split
  · split
    · exact ranked_cleared ranked
    · exact ((ranked_cleared ranked).put (messageCompleted_shaped builtins place payload)).hush _
  · exact ranked

end Completion

def visible (board : Board) (place : Place) (itemKey : String) : Option (ItemKind × String × String) :=
  (board (place.key itemKey)).bind fun face =>
    if isVisibleConversationItemKind face.kind then some (face.kind, face.status, face.text) else none

def HasAnswer (board : Board) (place : Place) : Prop :=
  ∃ key face, board key = some face ∧ key.InTurn (place.key "") ∧ IsCompletedMessage face

variable {board : Board}

theorem visible_of_failed {place : Place} {key : RowKey} {face : Face}
    (turn : key.InTurn (place.key "")) (shown : board key = some face) (failed : IsFailedLifecycle face) :
    visible board place key.itemKey = some (.lifecycle, face.status, face.text) := by
  have named : place.key key.itemKey = key := by
    obtain ⟨provider, thread, turnKey⟩ := turn
    cases key
    simp_all [Place.key]
  unfold visible
  rw [named, shown, Option.bind_some, failed.1]
  rfl

structure IsFailureOf (write : ItemWrite) (place : Place) : Prop where
  turn : write.key.InTurn (place.key "")
  kind : write.kind = .lifecycle
  status : write.status ∈ ItemTable.failedTurnStatuses
  priority : write.sourcePriority = 80

def Outranked (board : Board) (write : ItemWrite) : Prop :=
  ∃ face, board write.key = some face ∧ write.sourcePriority < face.sourcePriority

theorem put_of_outranked {write : ItemWrite} (status : write.status ≠ "streaming")
    (outranked : Outranked board write) : board.put write = board := by
  obtain ⟨face, shown, higher⟩ := outranked
  unfold Board.put ItemWrite.settle
  rw [shown]
  simp only [if_pos (show write.Yields face from .inr ⟨higher, status⟩)]
  rw [← shown, Function.update_eq_self]

theorem put_failure {place : Place} {write : ItemWrite} (failure : IsFailureOf write place)
    (low : ¬ Outranked board write) :
    ∃ face, board.put write write.key = some face ∧ IsFailedLifecycle face ∧ face.text = write.text ∧
      face.sourcePriority = 80 := by
  unfold Board.put ItemWrite.settle
  rw [Function.update_self]
  cases shown : board write.key with
  | none => exact ⟨_, rfl, ⟨failure.kind, failure.status⟩, rfl, failure.priority⟩
  | some old =>
      have below : old.sourcePriority ≤ write.sourcePriority := by
        by_contra higher
        exact low ⟨old, shown, Nat.lt_of_not_le higher⟩
      have lands : ¬ write.Yields old := by
        rintro (⟨higher, _⟩ | ⟨higher, _⟩) <;> omega
      simp only [if_neg lands]
      refine ⟨_, rfl, ⟨failure.kind, failure.status⟩, rfl, ?_⟩
      rw [max_eq_right below]
      exact failure.priority

section Orders

variable {builtins : Builtins} {place : Place} {payload : Dict} {board : Board} {write : ItemWrite}

def Commutes (builtins : Builtins) (place : Place) (payload : Dict) (write : ItemWrite) (board : Board) : Prop :=
  visible ((complete builtins place payload board).put write) place =
      visible (complete builtins place payload (board.put write)) place ∧
    ∀ last, last = (complete builtins place payload board).put write ∨
        last = complete builtins place payload (board.put write) →
      HasAnswer last place → ∀ face, last write.key = some face → ¬ IsFailedLifecycle face

def CommutesWhen (builtins : Builtins) (place : Place) (payload : Dict) (write : ItemWrite) (board : Board) :
    Prop :=
  Outranked board write ∨
    Admitted builtins place payload board ∧
      (¬ Repeats builtins board place payload ∧ write.key = messageKey builtins place payload ∧
          ¬ (isCompatibilityProjection payload ∧ write.text = completedText builtins payload) ∨
        Repeats builtins board place payload ∧
          (write.key = messageKey builtins place payload → write.text = completedText builtins payload) ∧
          ∀ key face, board key = some face → key.InTurn (place.key "") → IsCompletedMessage face →
            Other builtins place payload board key)

theorem put_of_ne {key : RowKey} (other : key ≠ write.key) : board.put write key = board key :=
  Function.update_of_ne other _ _

variable {face : Face}

theorem not_completed_of_failed (failed : IsFailedLifecycle face) : ¬ IsCompletedMessage face := by
  intro done
  have kind := failed.1.symm.trans done.1
  cases kind

theorem not_completed_of_low (ranked : board.IsRanked) (failure : IsFailureOf write place)
    (low : ¬ Outranked board write) (shown : board write.key = some face) :
    ¬ IsCompletedMessage face := by
  intro done
  refine low ⟨face, shown, ?_⟩
  rw [failure.priority, (ranked write.key face shown).message done]
  decide

theorem other_put_iff (ranked : board.IsRanked) (failure : IsFailureOf write place)
    (low : ¬ Outranked board write) (key : RowKey) :
    Other builtins place payload (board.put write) key ↔ Other builtins place payload board key := by
  by_cases same : key = write.key
  · subst same
    obtain ⟨failed, shown, isFailed, _⟩ := put_failure failure low
    constructor
    · rintro ⟨face, faceShown, done, _⟩
      rw [shown] at faceShown
      cases faceShown
      exact absurd done (not_completed_of_failed isFailed)
    · rintro ⟨face, faceShown, done, _⟩
      exact absurd done (not_completed_of_low ranked failure low faceShown)
  · unfold Other
    rw [put_of_ne same]

theorem admitted_put_iff (ranked : board.IsRanked) (failure : IsFailureOf write place)
    (low : ¬ Outranked board write) :
    Admitted builtins place payload (board.put write) ↔ Admitted builtins place payload board := by
  unfold Admitted
  simp only [other_put_iff ranked failure low]

theorem cleared_low (ranked : board.IsRanked) (failure : IsFailureOf write place)
    (low : ¬ Outranked board write) : cleared builtins place payload board write.key = board write.key := by
  refine if_neg ?_
  rintro ⟨face, shown, done, _⟩
  exact not_completed_of_low ranked failure low shown done

theorem cleared_put (ranked : board.IsRanked) (failure : IsFailureOf write place)
    (low : ¬ Outranked board write) :
    cleared builtins place payload (board.put write) = (cleared builtins place payload board).put write := by
  funext key
  by_cases same : key = write.key
  · subst same
    have kept : cleared builtins place payload (board.put write) write.key = board.put write write.key :=
      if_neg fun other => by
        obtain ⟨face, shown, done, _⟩ := (other_put_iff ranked failure low write.key).mp other
        exact not_completed_of_low ranked failure low shown done
    rw [kept]
    unfold Board.put
    rw [Function.update_self, Function.update_self, cleared_low ranked failure low]
  · rw [put_of_ne same]
    have iff_ := @other_put_iff builtins place payload board write ranked failure low key
    unfold cleared
    by_cases other : Other builtins place payload board key
    · rw [if_pos other, if_pos (iff_.mpr other), put_of_ne same]
    · rw [if_neg other, if_neg (mt iff_.mp other), put_of_ne same]

theorem repeats_put_own (own : write.key = messageKey builtins place payload)
    (failure : IsFailureOf write place) (low : ¬ Outranked board write) :
    Repeats builtins (board.put write) place payload ↔
      isCompatibilityProjection payload ∧ write.text = completedText builtins payload := by
  obtain ⟨failed, shown, _, text, _⟩ := put_failure failure low
  unfold Repeats
  rw [← own, shown]
  simp [text]

theorem repeats_put_other (other : write.key ≠ messageKey builtins place payload) :
    Repeats builtins (board.put write) place payload ↔ Repeats builtins board place payload :=
  repeats_congr (put_of_ne other.symm)

/-! What a completed message leaves of the item of the failure. -/

theorem hush_apply {turn key : RowKey} (inTurn : key.InTurn turn) :
    board.hush turn key = (board key).map hushed :=
  if_pos inTurn

theorem complete_of_refused (refused : ¬ Admitted builtins place payload board) :
    complete builtins place payload board = board :=
  if_neg refused

theorem complete_of_repeats (admitted : Admitted builtins place payload board)
    (repeated : Repeats builtins board place payload) :
    complete builtins place payload board = cleared builtins place payload board := by
  unfold complete
  rw [if_pos admitted, if_pos repeated]

theorem complete_of_anew (admitted : Admitted builtins place payload board)
    (anew : ¬ Repeats builtins board place payload) :
    complete builtins place payload board =
      ((cleared builtins place payload board).put (completion builtins place payload)).hush (place.key "") := by
  unfold complete
  rw [if_pos admitted, if_neg anew]

theorem hushed_priority (face : Face) : (hushed face).sourcePriority = face.sourcePriority := by
  unfold hushed
  split <;> rfl

theorem outranked_complete (failure : IsFailureOf write place) (outranked : Outranked board write) :
    Outranked (complete builtins place payload board) write := by
  obtain ⟨face, shown, higher⟩ := outranked
  have clear : ∃ face, cleared builtins place payload board write.key = some face ∧
      write.sourcePriority < face.sourcePriority := by
    unfold cleared
    rw [shown]
    split
    · exact ⟨_, rfl, higher⟩
    · exact ⟨face, rfl, higher⟩
  unfold complete
  split
  · split
    · exact clear
    · obtain ⟨kept, keptShown, keptHigher⟩ := clear
      have written : ∃ face, (cleared builtins place payload board).put (completion builtins place payload)
          write.key = some face ∧ write.sourcePriority < face.sourcePriority := by
        by_cases own : write.key = (completion builtins place payload).key
        · unfold Board.put
          rw [own, Function.update_self, ← own, keptShown]
          unfold ItemWrite.settle
          simp only
          split
          · exact ⟨kept, rfl, keptHigher⟩
          · exact ⟨_, rfl, lt_max_of_lt_left keptHigher⟩
        · rw [put_of_ne own]
          exact ⟨kept, keptShown, keptHigher⟩
      obtain ⟨last, lastShown, lastHigher⟩ := written
      refine ⟨hushed last, ?_, ?_⟩
      · rw [hush_apply failure.turn, lastShown]
        rfl
      · rw [hushed_priority]
        exact lastHigher
  · exact ⟨face, shown, higher⟩

theorem commutes_of_outranked (ranked : board.IsRanked) (failure : IsFailureOf write place)
    (outranked : Outranked board write) : Commutes builtins place payload write board := by
  have status := failedTurnStatuses_ne_streaming failure.status
  have after : Outranked (complete builtins place payload board) write := outranked_complete failure outranked
  unfold Commutes
  rw [put_of_outranked status outranked, put_of_outranked status after]
  refine ⟨rfl, ?_⟩
  rintro last (rfl | rfl) _ face shown failed
  all_goals
    obtain ⟨held, heldShown, higher⟩ := after
    rw [heldShown] at shown
    cases shown
    have low := (ranked_complete ranked write.key face heldShown).failure failed
    rw [failure.priority] at higher
    omega

theorem not_commutes_of_refused (ranked : board.IsRanked) (failure : IsFailureOf write place)
    (low : ¬ Outranked board write) (refused : ¬ Admitted builtins place payload board) :
    ¬ Commutes builtins place payload write board := by
  rintro ⟨_, beside⟩
  obtain ⟨failed, shown, isFailed, _⟩ := put_failure failure low
  have other : ∃ key, Other builtins place payload board key := by
    by_contra none_
    exact refused fun key other => absurd ⟨key, other⟩ none_
  obtain ⟨key, face, faceShown, done, _, turn, _⟩ := other
  have different : key ≠ write.key := by
    rintro rfl
    exact not_completed_of_low ranked failure low faceShown done
  refine beside ((complete builtins place payload board).put write) (.inl rfl) ?_ failed ?_ isFailed
  · refine ⟨key, face, ?_, turn, done⟩
    rw [complete_of_refused refused, put_of_ne different]
    exact faceShown
  · rw [complete_of_refused refused]
    exact shown

theorem hasAnswer_put_iff (ranked : board.IsRanked) (failure : IsFailureOf write place)
    (low : ¬ Outranked board write) :
    HasAnswer ((cleared builtins place payload board).put write) place ↔
      ∃ key face, board key = some face ∧ key.InTurn (place.key "") ∧ IsCompletedMessage face ∧
        ¬ Other builtins place payload board key := by
  have lowCleared : ¬ Outranked (cleared builtins place payload board) write := by
    unfold Outranked
    rw [cleared_low ranked failure low]
    exact low
  obtain ⟨failed, failedShown, isFailed, _⟩ := put_failure failure lowCleared
  constructor
  · rintro ⟨key, face, shown, turn, done⟩
    have different : key ≠ write.key := by
      rintro rfl
      rw [failedShown] at shown
      cases shown
      exact not_completed_of_failed isFailed done
    rw [put_of_ne different] at shown
    unfold cleared at shown
    split at shown
    · obtain ⟨old, _, rfl⟩ := Option.map_eq_some_iff.mp shown
      exact absurd done.1 (by simp)
    · rename_i other
      exact ⟨key, face, shown, turn, done, other⟩
  · rintro ⟨key, face, shown, turn, done, other⟩
    have different : key ≠ write.key := by
      rintro rfl
      exact not_completed_of_low ranked failure low shown done
    refine ⟨key, face, ?_, turn, done⟩
    rw [put_of_ne different]
    unfold cleared
    rw [if_neg other]
    exact shown

theorem visible_hush_ne {status : String} (failed : status ∈ ItemTable.failedTurnStatuses)
    (itemKey text : String) :
    visible (board.hush (place.key "")) place itemKey ≠ some (.lifecycle, status, text) := by
  unfold visible
  rw [hush_apply (show (place.key itemKey).InTurn (place.key "") from ⟨rfl, rfl, rfl⟩)]
  cases board (place.key itemKey) with
  | none => simp
  | some face =>
      simp only [Option.map_some, Option.bind_some]
      intro shown
      unfold hushed at shown
      split at shown
      · simp [isVisibleConversationItemKind] at shown
      · rename_i sound
        split at shown
        · simp only [Option.some.injEq, Prod.mk.injEq] at shown
          refine sound ⟨shown.1, ?_⟩
          rw [shown.2.1]
          exact failed
        · cases shown

theorem low_cleared (ranked : board.IsRanked) (failure : IsFailureOf write place)
    (low : ¬ Outranked board write) : ¬ Outranked (cleared builtins place payload board) write := by
  unfold Outranked
  rw [cleared_low ranked failure low]
  exact low

theorem commutes_iff_of_repeats (ranked : board.IsRanked) (failure : IsFailureOf write place)
    (low : ¬ Outranked board write) (admitted : Admitted builtins place payload board)
    (repeated : Repeats builtins board place payload) :
    Commutes builtins place payload write board ↔
      (write.key = messageKey builtins place payload → write.text = completedText builtins payload) ∧
        ∀ key face, board key = some face → key.InTurn (place.key "") → IsCompletedMessage face →
          Other builtins place payload board key := by
  have lowCleared : ¬ Outranked (cleared builtins place payload board) write :=
    low_cleared ranked failure low
  have admittedPut : Admitted builtins place payload (board.put write) :=
    (admitted_put_iff ranked failure low).mpr admitted
  obtain ⟨failed, failedShown, isFailed, _⟩ := put_failure failure lowCleared
  have first : (complete builtins place payload board).put write =
      (cleared builtins place payload board).put write := by
    rw [complete_of_repeats admitted repeated]
  by_cases again : Repeats builtins (board.put write) place payload
  · have second : complete builtins place payload (board.put write) =
        (cleared builtins place payload board).put write := by
      rw [complete_of_repeats admittedPut again, cleared_put ranked failure low]
    have texts : write.key = messageKey builtins place payload → write.text = completedText builtins payload :=
      fun own => ((repeats_put_own own failure low).mp again).2
    unfold Commutes
    rw [first, second]
    constructor
    · rintro ⟨_, beside⟩
      refine ⟨texts, fun key face shown turn done => ?_⟩
      by_contra other
      exact beside _ (.inl rfl)
        ((hasAnswer_put_iff ranked failure low).mpr ⟨key, face, shown, turn, done, other⟩) failed failedShown
        isFailed
    · rintro ⟨_, covered⟩
      refine ⟨rfl, fun last same answer => ?_⟩
      obtain rfl : last = _ := same.elim id id
      obtain ⟨key, face, shown, turn, done, other⟩ := (hasAnswer_put_iff ranked failure low).mp answer
      exact absurd (covered key face shown turn done) other
  · -- the failure has overwritten the text that the completion repeats
    have own : write.key = messageKey builtins place payload := by
      by_contra different
      exact again ((repeats_put_other different).mpr repeated)
    have texts : write.text ≠ completedText builtins payload :=
      fun same => again ((repeats_put_own own failure low).mpr ⟨repeated.1, same⟩)
    constructor
    · rintro ⟨same, _⟩
      have second := congrFun same write.key.itemKey
      rw [first, visible_of_failed failure.turn failedShown isFailed, complete_of_anew admittedPut again] at second
      exact absurd second.symm (visible_hush_ne isFailed.2 _ _)
    · rintro ⟨text, _⟩
      exact absurd (text own) texts

theorem put_completion {held : Board}
    (low : ∀ face, held (messageKey builtins place payload) = some face → face.sourcePriority ≤ 80) :
    held.put (completion builtins place payload) (messageKey builtins place payload) =
      some ⟨.assistant, .message, completedText builtins payload, "completed", 90⟩ := by
  have own : messageKey builtins place payload = (completion builtins place payload).key := rfl
  unfold Board.put
  rw [own, Function.update_self, ← own]
  unfold ItemWrite.settle
  cases shown : held (messageKey builtins place payload) with
  | none => rfl
  | some face =>
      have level := low face shown
      have lands : ¬ (completion builtins place payload).Yields face := by
        have priority : (completion builtins place payload).sourcePriority = 90 := rfl
        rintro (⟨higher, _⟩ | ⟨higher, _⟩) <;> omega
      simp only [if_neg lands]
      congr 2
      exact max_eq_right (by omega : face.sourcePriority ≤ 90)

theorem low_priority (failure : IsFailureOf write place) (low : ¬ Outranked board write)
    (shown : board write.key = some face) : face.sourcePriority ≤ 80 := by
  by_contra higher
  refine low ⟨face, shown, ?_⟩
  rw [failure.priority]
  omega

theorem commutes_iff_of_anew (ranked : board.IsRanked) (failure : IsFailureOf write place)
    (low : ¬ Outranked board write) (admitted : Admitted builtins place payload board)
    (anew : ¬ Repeats builtins board place payload) :
    Commutes builtins place payload write board ↔
      write.key = messageKey builtins place payload ∧
        ¬ (isCompatibilityProjection payload ∧ write.text = completedText builtins payload) := by
  have admittedPut : Admitted builtins place payload (board.put write) :=
    (admitted_put_iff ranked failure low).mpr admitted
  have lowCleared : ¬ Outranked (cleared builtins place payload board) write :=
    low_cleared ranked failure low
  by_cases own : write.key = messageKey builtins place payload
  · have message : complete builtins place payload board (messageKey builtins place payload) =
        some ⟨.assistant, .message, completedText builtins payload, "completed", 90⟩ := by
      rw [complete_of_anew admitted anew, hush_apply (own ▸ failure.turn), put_completion]
      · rfl
      · intro face shown
        rw [← own] at shown
        exact low_priority failure lowCleared shown
    have first : (complete builtins place payload board).put write = complete builtins place payload board := by
      refine put_of_outranked (failedTurnStatuses_ne_streaming failure.status) ⟨_, own ▸ message, ?_⟩
      rw [failure.priority]
      exact (by decide : 80 < 90)
    by_cases again : Repeats builtins (board.put write) place payload
    · -- the failure shows the very text of the completion, which is then dropped
      have texts := (repeats_put_own own failure low).mp again
      refine iff_of_false ?_ fun sound => sound.2 texts
      rintro ⟨same, _⟩
      obtain ⟨failed, failedShown, isFailed, _⟩ := put_failure failure lowCleared
      rw [first, complete_of_repeats admittedPut again, cleared_put ranked failure low,
        complete_of_anew admitted anew] at same
      have second := congrFun same write.key.itemKey
      rw [visible_of_failed failure.turn failedShown isFailed] at second
      exact absurd second (visible_hush_ne isFailed.2 _ _)
    · refine iff_of_true ?_ ⟨own, fun texts => again ((repeats_put_own own failure low).mpr texts)⟩
      have overwritten : ((cleared builtins place payload board).put write).put
          (completion builtins place payload) =
            (cleared builtins place payload board).put (completion builtins place payload) := by
        funext key
        by_cases same : key = messageKey builtins place payload
        · subst same
          rw [put_completion, put_completion]
          · intro face shown
            rw [← own] at shown
            exact low_priority failure lowCleared shown
          · intro face shown
            obtain ⟨failed, failedShown, _, _, priority⟩ := put_failure failure lowCleared
            rw [← own, failedShown] at shown
            cases shown
            omega
        · have apart : key ≠ write.key := own ▸ same
          have untouched : ∀ held : Board, held.put (completion builtins place payload) key = held key :=
            fun _ => put_of_ne same
          rw [untouched, untouched, put_of_ne apart]
      have second : complete builtins place payload (board.put write) =
          complete builtins place payload board := by
        rw [complete_of_anew admittedPut again, cleared_put ranked failure low, overwritten,
          complete_of_anew admitted anew]
      unfold Commutes
      rw [first, second]
      refine ⟨rfl, fun last same _ face shown failed => ?_⟩
      obtain rfl : last = _ := same.elim id id
      rw [own, message] at shown
      cases shown
      exact absurd failed.1 (by simp)
  · refine iff_of_false ?_ fun sound => own sound.1
    rintro ⟨same, _⟩
    have held : complete builtins place payload board write.key = (board write.key).map hushed := by
      rw [complete_of_anew admitted anew, hush_apply failure.turn, put_of_ne own,
        cleared_low ranked failure low]
    have lowComplete : ¬ Outranked (complete builtins place payload board) write := by
      rintro ⟨face, shown, higher⟩
      rw [held] at shown
      obtain ⟨old, stood, rfl⟩ := Option.map_eq_some_iff.mp shown
      rw [hushed_priority] at higher
      exact low ⟨old, stood, higher⟩
    obtain ⟨failed, failedShown, isFailed, _⟩ := put_failure failure lowComplete
    have second := congrFun same write.key.itemKey
    have anewPut := mt (repeats_put_other own).mp anew
    rw [visible_of_failed failure.turn failedShown isFailed, complete_of_anew admittedPut anewPut] at second
    exact absurd second.symm (visible_hush_ne isFailed.2 _ _)

theorem commutes_iff (ranked : board.IsRanked) (failure : IsFailureOf write place) :
    Commutes builtins place payload write board ↔ CommutesWhen builtins place payload write board := by
  unfold CommutesWhen
  by_cases outranked : Outranked board write
  · exact iff_of_true (commutes_of_outranked ranked failure outranked) (.inl outranked)
  · by_cases admitted : Admitted builtins place payload board
    · by_cases repeated : Repeats builtins board place payload
      · rw [commutes_iff_of_repeats ranked failure outranked admitted repeated]
        simp only [outranked, admitted, repeated, not_true, false_and, true_and, false_or]
      · rw [commutes_iff_of_anew ranked failure outranked admitted repeated]
        simp only [outranked, admitted, repeated, not_false_eq_true, false_and, true_and, false_or, or_false]
    · refine iff_of_false (not_commutes_of_refused ranked failure outranked admitted) ?_
      rintro (high | ⟨admits, _⟩)
      · exact outranked high
      · exact admitted admits

end Orders

section Events

variable (builtins : Builtins) (place : Place)

structure IsCompletedMessageOf (event : RuntimeEvent) : Prop where
  type : isCompletionType event.eventType
  placed : place? builtins event = some place
  present : completedText builtins event.payload ≠ ""

structure IsFailedTurnOf (event : RuntimeEvent) : Prop where
  placed : place? builtins event = some place
  projected : shouldProjectFailedLifecycle builtins event.eventType event.payload
  failed : terminalTurnStatus builtins event.eventType event.payload ∈ ItemTable.failedTurnStatuses
  noPlan : ¬ (event.eventType = .agentRunActivity ∧ isPlanUpdate event.payload)

def failureWrite (event : RuntimeEvent) : ItemWrite :=
  (failedLifecycle builtins place event.eventType event.payload).write

def OrdersAgree (store : TimelineStore) (message failure : RuntimeEvent) : Prop :=
  let messageFirst := projectRuntimeEvent builtins (projectRuntimeEvent builtins store message) failure
  let failureFirst := projectRuntimeEvent builtins (projectRuntimeEvent builtins store failure) message
  visible messageFirst.items.board place = visible failureFirst.items.board place ∧
    ∀ last, last = messageFirst ∨ last = failureFirst → HasAnswer last.items.board place →
      ∀ face, last.items.board (failureWrite builtins place failure).key = some face →
        ¬ IsFailedLifecycle face

variable {builtins place}

variable {event : RuntimeEvent}

theorem projection?_failed (isFailure : IsFailedTurnOf builtins place event) (table : ItemTable) :
    projection? builtins table place event =
      some (failedLifecycle builtins place event.eventType event.payload) := by
  have projected := isFailure.projected
  have noPlan := isFailure.noPlan
  unfold projection?
  cases type : event.eventType
  all_goals simp_all [shouldProjectFailedLifecycle, isTerminalType]

theorem failureWrite_isFailureOf (isFailure : IsFailedTurnOf builtins place event) :
    IsFailureOf (failureWrite builtins place event) place where
  turn := ⟨rfl, rfl, rfl⟩
  kind := rfl
  status := isFailure.failed
  priority := rfl

variable {store : TimelineStore}

theorem answered_project (answered : Answered store) (event : RuntimeEvent) :
    Answered (projectRuntimeEvent builtins store event) :=
  step_keeps builtins (fun _ call held => answered_callCommits held call) answered (.call (.project event))

theorem board_project_message (answered : Answered store)
    (isMessage : IsCompletedMessageOf builtins place event) :
    (projectRuntimeEvent builtins store event).items.board =
      complete builtins place event.payload store.items.board := by
  have type : event.eventType ≠ .providerRawFrame := by
    intro raw
    have completes := isMessage.type
    rw [raw] at completes
    cases completes
  unfold projectRuntimeEvent commits
  rw [if_neg type, isMessage.placed]
  simp only [if_pos isMessage.type]
  exact board_completed answered (place?_named isMessage.placed) isMessage.present

theorem board_project_completion (answered : Answered store) (type : isCompletionType event.eventType) :
    (projectRuntimeEvent builtins store event).items.board = store.items.board ∨
      ∃ place, (projectRuntimeEvent builtins store event).items.board =
        complete builtins place event.payload store.items.board := by
  cases placed : place? builtins event with
  | none =>
      left
      unfold projectRuntimeEvent commits
      rw [placed, ite_self]
      rfl
  | some place =>
      by_cases present : completedText builtins event.payload = ""
      · left
        unfold projectRuntimeEvent commits
        rw [placed]
        simp only [if_pos type]
        unfold completed
        rw [if_pos present, ite_self]
        rfl
      · exact .inr ⟨place, board_project_message answered ⟨type, placed, present⟩⟩

theorem board_project_failure (ranked : store.items.board.IsRanked) (isFailure : IsFailedTurnOf builtins place event) :
    (projectRuntimeEvent builtins store event).items.board =
      store.items.board.put (failureWrite builtins place event) := by
  have projected := isFailure.projected
  have other : ¬ isCompletionType event.eventType := by
    intro completes
    unfold shouldProjectFailedLifecycle at projected
    cases kind : event.eventType <;> rw [kind] at completes projected <;>
      simp [isCompletionType, isTerminalType] at completes projected
  have type : event.eventType ≠ .providerRawFrame := by
    intro raw
    rw [raw] at projected
    cases projected
  obtain ⟨written, recorded, stores, _, recordedBoard⟩ := record_board ranked place event
    (failedLifecycle builtins place event.eventType event.payload)
  unfold projectRuntimeEvent commits
  rw [if_neg type, isFailure.placed]
  simp only [if_neg other, projection?_failed isFailure, stores]
  exact recordedBoard

/-- A completed message and a failed turn commute exactly when the failure writes no
item of its own beside the message. -/
theorem orders_agree_iff (ops : List TimelineOp) {message failure : RuntimeEvent}
    (isMessage : IsCompletedMessageOf builtins place message)
    (isFailure : IsFailedTurnOf builtins place failure) :
    OrdersAgree builtins place (run builtins ops) message failure ↔
      CommutesWhen builtins place message.payload (failureWrite builtins place failure)
        (run builtins ops).items.board := by
  have answered := answered_run builtins ops
  rw [← commutes_iff answered.ranked (failureWrite_isFailureOf isFailure)]
  have afterMessage : Answered (projectRuntimeEvent builtins (run builtins ops) message) :=
    answered_project answered message
  have afterFailure : Answered (projectRuntimeEvent builtins (run builtins ops) failure) :=
    answered_project answered failure
  have messageFirst := board_project_failure afterMessage.ranked isFailure
  rw [board_project_message answered isMessage] at messageFirst
  have failureFirst := board_project_message afterFailure isMessage
  rw [board_project_failure answered.ranked isFailure] at failureFirst
  unfold OrdersAgree Commutes
  simp only
  rw [messageFirst, failureFirst]
  refine and_congr_right fun _ => ⟨?_, ?_⟩
  · rintro beside last (rfl | rfl)
    · rw [← messageFirst]
      exact beside _ (.inl rfl)
    · rw [← failureFirst]
      exact beside _ (.inr rfl)
  · rintro beside last (rfl | rfl)
    · rw [messageFirst]
      exact beside _ (.inl rfl)
    · rw [failureFirst]
      exact beside _ (.inr rfl)

end Events

def plainBuiltins : Builtins where
  repr := fun _ => "None"
  lower := id
  fingerprint := id

def turnEvent (eventType : EventType) (payload : Dict) : RuntimeEvent where
  id := 1
  eventType := eventType
  aggregateId := ""
  agentRunId := none
  source := "codex"
  payload := [("native_thread_id", .string "thread"), ("turn_id", .string "turn")] ++ payload

def finalAnswer : RuntimeEvent := turnEvent .modelMessageCompleted [("text", .string "done"), ("itemId", .string "answer")]

def failedRun : RuntimeEvent := turnEvent .agentRunFailed []

theorem late_failure_stays_visible :
    ¬ OrdersAgree plainBuiltins ⟨"codex", "thread", "turn"⟩ (run plainBuiltins []) finalAnswer failedRun := by
  rintro ⟨same, _⟩
  have shown := congrFun same "lifecycle-turn"
  revert shown
  decide

def failedAnswer : RuntimeEvent := turnEvent .agentRunFailed [("itemId", .string "answer")]

theorem shared_item_commutes :
    OrdersAgree plainBuiltins ⟨"codex", "thread", "turn"⟩ (run plainBuiltins []) finalAnswer failedAnswer := by
  have isMessage : IsCompletedMessageOf plainBuiltins ⟨"codex", "thread", "turn"⟩ finalAnswer :=
    ⟨rfl, by decide, by decide⟩
  have isFailure : IsFailedTurnOf plainBuiltins ⟨"codex", "thread", "turn"⟩ failedAnswer :=
    ⟨by decide, by decide, by decide, by decide⟩
  refine (orders_agree_iff [] isMessage isFailure).mpr (.inr ⟨?_, .inl ⟨?_, by decide, by decide⟩⟩)
  · rintro key ⟨face, shown, _⟩
    cases shown
  · decide

end Wlcodex.Timeline
