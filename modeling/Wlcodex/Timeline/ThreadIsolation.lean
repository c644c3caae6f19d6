import Wlcodex.Lib.JsonRoundTrip
import Wlcodex.Timeline.FailedTurns

namespace Wlcodex.Timeline

open Wlcodex.Lib
open Wlcodex.Relay (Dict strip)

/-! The run state of a thread over the whole table of runtime events. -/

inductive LikeToken where
  | any
  | one
  | char (c : Char)

def likeTokens : List Char → List LikeToken
  | '\\' :: c :: pattern => .char c :: likeTokens pattern
  | '%' :: pattern => .any :: likeTokens pattern
  | '_' :: pattern => .one :: likeTokens pattern
  | c :: pattern => .char c :: likeTokens pattern
  | [] => []

def like : List LikeToken → List Char → Bool
  | [], text => text.isEmpty
  | .any :: tokens, text => text.tails.any (like tokens)
  | .one :: _, [] => false
  | .one :: tokens, _ :: text => like tokens text
  | .char _ :: _, [] => false
  | .char c :: tokens, d :: text => c.toLower = d.toLower && like tokens text

def sqliteLikePattern (value : String) : List Char :=
  '%' :: (value.toList.flatMap fun c => if c = '\\' ∨ c = '%' ∨ c = '_' then ['\\', c] else [c]) ++ ['%']

/-- A row of `runtime_events`; the payload is stored as `json.dumps` writes it. -/
structure EventRecord where
  id : Nat
  eventType : EventType
  payload : JsonObject

namespace EventRecord

def payloadJson (record : EventRecord) : List Char := (Json.object record.payload.members).write .spaced

def read? (record : EventRecord) : Option StateRow :=
  match Json.loads record.payloadJson with
  | some (.object payload) => some ⟨record.id, record.eventType, payload⟩
  | _ => none

theorem read?_eq (record : EventRecord) :
    record.read? = some ⟨record.id, record.eventType, record.payload.members⟩ := by
  unfold read? payloadJson
  rw [Json.loads_write .spaced record.payload.keyed]

def content (record : EventRecord) : EventType × JsonObject := (record.eventType, record.payload)

end EventRecord

structure EventTable where
  records : List EventRecord
  ascending : records.Pairwise fun first second => first.id < second.id

/-- `event_type IN (...) AND payload_json LIKE ?`. -/
def isSelected (nativeThreadId : String) (content : EventType × JsonObject) : Bool :=
  (isActiveType content.1 || isTerminalType content.1) &&
    like (likeTokens (sqliteLikePattern nativeThreadId)) ((Json.object content.2.members).write .spaced)

namespace EventTable

def selected (table : EventTable) (nativeThreadId : String) : List EventRecord :=
  (table.records.filter fun record => isSelected nativeThreadId record.content).reverse

/-- `LIMIT 200`. -/
def window (table : EventTable) (nativeThreadId : String) : List EventRecord :=
  (table.selected nativeThreadId).take 200

end EventTable

section RunState

variable (builtins : Builtins)

/-- `latest_turn_run_state` over the table. -/
def turnRunState (store : TimelineStore) (table : EventTable) (provider nativeThreadId : String) : TurnRunState :=
  (latestTurnRunState builtins store provider nativeThreadId
    ((table.window (strip nativeThreadId)).filterMap EventRecord.read?)).2

def isOf (provider nativeThreadId : String) (content : EventType × JsonObject) : Bool :=
  StateRow.isOf builtins ⟨0, content.1, content.2.members⟩ provider nativeThreadId

def EventTable.eventsOf (table : EventTable) (provider nativeThreadId : String) : List (EventType × JsonObject) :=
  (table.records.map EventRecord.content).filter (isOf builtins provider nativeThreadId)

def EventTable.newest? (table : EventTable) (provider nativeThreadId : String) : Option (EventType × JsonObject) :=
  ((table.selected nativeThreadId).map EventRecord.content).find? (isOf builtins provider nativeThreadId)

def EventTable.Reached (table : EventTable) (provider nativeThreadId : String) : Prop :=
  ∃ record ∈ table.window nativeThreadId, isOf builtins provider nativeThreadId record.content

def outcome (items : ItemTable) (provider nativeThreadId : String) (eventType : EventType) (payload : Dict) :
    TurnRunState :=
  let turnKey := firstText builtins payload turnKeys
  if isTerminalType eventType ∨ isTerminalTurnPayload builtins payload then
    if shouldProjectFailedLifecycle builtins eventType payload ∧
        items.completedMessageForTurnExists provider nativeThreadId turnKey then .idle
    else ⟨false, terminalTurnStatus builtins eventType payload, ""⟩
  else
    match (latestVisibleItemForRunState items provider nativeThreadId).filter fun item => item.key.turnKey ≠ turnKey with
    | none => ⟨true, activeTurnStatus builtins eventType payload, turnKey⟩
    | some item =>
        let status := builtins.normalize item.status
        if isActiveTurnStatus builtins status then ⟨true, status, item.key.turnKey⟩ else .idle

def LeavesIdle (items : ItemTable) (provider nativeThreadId : String) (eventType : EventType) (payload : Dict) : Prop :=
  let turnKey := firstText builtins payload turnKeys
  if isTerminalType eventType ∨ isTerminalTurnPayload builtins payload then
    (shouldProjectFailedLifecycle builtins eventType payload ∧
      items.completedMessageForTurnExists provider nativeThreadId turnKey) ∨
      terminalTurnStatus builtins eventType payload = "idle"
  else
    ∃ item ∈ latestVisibleItemForRunState items provider nativeThreadId,
      item.key.turnKey ≠ turnKey ∧ ¬isActiveTurnStatus builtins (builtins.normalize item.status)

end RunState

def ItemRow.content (row : ItemRow) : RowKey × Cells := (row.key, row.toCells)

namespace ItemTable

def threadRows (table : ItemTable) (provider nativeThreadId : String) : List ItemRow :=
  (table.rows.rows.filter fun row => row.key.provider = provider ∧ row.key.nativeThreadId = nativeThreadId).insertionSort
    fun first second => first.id ≤ second.id

def itemsOf (table : ItemTable) (provider nativeThreadId : String) : List (RowKey × Cells) :=
  (table.threadRows provider nativeThreadId).map ItemRow.content

variable {table : ItemTable} {provider nativeThreadId : String}

theorem mem_threadRows {row : ItemRow} : row ∈ table.threadRows provider nativeThreadId ↔
    row ∈ table ∧ row.key.provider = provider ∧ row.key.nativeThreadId = nativeThreadId := by
  unfold threadRows
  rw [List.mem_insertionSort, List.mem_filter, decide_eq_true_eq]
  rfl

end ItemTable

theorem argmax_perm {α β : Type*} [LinearOrder β] {f : α → β} {first second : List α} (same : first.Perm second)
    (distinct : ∀ a ∈ first, ∀ b ∈ first, f a = f b → a = b) : first.argmax f = second.argmax f := by
  cases found : first.argmax f with
  | none => 
      rw [List.argmax_eq_none] at found
      subst found
      rw [List.nil_perm.mp same]
      rfl
  | some a =>
      cases other : second.argmax f with
      | none =>
          rw [List.argmax_eq_none] at other
          subst other
          rw [List.perm_nil.mp same] at found
          cases found
      | some b =>
          have firstMember := List.argmax_mem found
          have secondMember := same.mem_iff.mpr (List.argmax_mem other)
          rw [distinct a firstMember b secondMember (le_antisymm
            (List.le_of_mem_argmax (same.mem_iff.mp firstMember) other)
            (List.le_of_mem_argmax secondMember found))]

def ItemRow.rank (row : ItemRow) : Nat ×ₗ Nat := toLex (row.lastSequence, row.id)

theorem argmax_content {first second : List ItemRow} (firstOrder : first.Pairwise fun a b => a.id < b.id)
    (secondOrder : second.Pairwise fun a b => a.id < b.id)
    (same : first.map ItemRow.content = second.map ItemRow.content) :
    (first.argmax ItemRow.rank).map ItemRow.content = (second.argmax ItemRow.rank).map ItemRow.content := by
  induction first using List.reverseRecOn generalizing second with
  | nil => rw [List.map_eq_nil_iff.mp same.symm]
  | append_singleton front last ih =>
      rcases List.eq_nil_or_concat second with rfl | ⟨otherFront, otherLast, rfl⟩
      · simp at same
      · rw [List.concat_eq_append] at secondOrder same ⊢
        rw [List.map_append, List.map_append, List.map_singleton, List.map_singleton] at same
        obtain ⟨fronts, lasts⟩ := List.append_inj' same rfl
        have lastSame : last.content = otherLast.content := (List.cons.inj lasts).1
        rw [List.pairwise_append] at firstOrder secondOrder
        have earlier := ih firstOrder.1 secondOrder.1 fronts
        have later : ∀ {rows : List ItemRow} {row greatest : ItemRow}, (∀ a ∈ rows, ∀ b ∈ [row], a.id < b.id) →
            rows.argmax ItemRow.rank = some greatest → (greatest.rank < row.rank ↔ greatest.lastSequence ≤ row.lastSequence) := by
          intro rows row greatest before found
          have smaller := before greatest (List.argmax_mem found) row List.mem_cons_self
          unfold ItemRow.rank
          rw [Prod.Lex.toLex_lt_toLex]
          constructor
          · rintro (less | ⟨equal, -⟩)
            · exact less.le
            · exact equal.le
          · intro atMost
            rcases atMost.lt_or_eq with less | equal
            · exact .inl less
            · exact .inr ⟨equal, smaller⟩
        rw [List.argmax_concat, List.argmax_concat]
        cases firstFound : front.argmax ItemRow.rank with
        | none =>
            rw [firstFound] at earlier
            rw [Option.map_eq_none_iff.mp earlier.symm]
            exact congrArg some lastSame
        | some greatest =>
            rw [firstFound] at earlier
            obtain ⟨other, secondFound, sameGreatest⟩ := Option.map_eq_some_iff.mp earlier.symm
            rw [secondFound]
            dsimp only
            have cells : last.toCells = otherLast.toCells := congrArg Prod.snd lastSame
            have greatestCells : other.toCells = greatest.toCells := congrArg Prod.snd sameGreatest
            rw [ite_cond_congr (propext (later firstOrder.2.2 firstFound)),
              ite_cond_congr (propext (later secondOrder.2.2 secondFound)), cells, greatestCells]
            split
            · exact congrArg some lastSame
            · exact congrArg some sameGreatest.symm

namespace ItemTable

variable {table first second : ItemTable} {provider nativeThreadId : String}

theorem threadRows_ascending : (table.threadRows provider nativeThreadId).Pairwise fun first second => first.id < second.id := by
  have sorted := List.pairwise_insertionSort (fun first second : ItemRow => first.id ≤ second.id)
    (table.rows.rows.filter fun row => row.key.provider = provider ∧ row.key.nativeThreadId = nativeThreadId)
  have distinct : (table.threadRows provider nativeThreadId).Pairwise fun first second => first ≠ second := by
    refine (List.perm_insertionSort _ _).symm.pairwise ?_ fun different => different.symm
    exact (table.rows.unique.imp fun different same => different (congrArg ItemRow.key same)).filter _
  refine (sorted.and distinct).imp_of_mem fun {first second} firstMember secondMember both => ?_
  refine lt_of_le_of_ne both.1 fun same => both.2 ?_
  exact eq_of_id (mem_threadRows.mp firstMember).1 (mem_threadRows.mp secondMember).1 same

theorem latestVisible_eq : latestVisibleItemForRunState table provider nativeThreadId =
    ((table.threadRows provider nativeThreadId).filter fun row => isVisibleConversationItemKind row.kind).argmax
      ItemRow.rank := by
  have split : (table.rows.rows.filter fun row => decide (row.key.provider = provider ∧
      row.key.nativeThreadId = nativeThreadId ∧ isVisibleConversationItemKind row.kind)) =
        (table.rows.rows.filter fun row => row.key.provider = provider ∧ row.key.nativeThreadId = nativeThreadId).filter
          fun row => isVisibleConversationItemKind row.kind := by
    rw [List.filter_filter]
    apply List.filter_congr
    intro row _
    simp only [Bool.decide_and, Bool.decide_eq_true]
    ac_rfl
  unfold latestVisibleItemForRunState
  rw [split]
  apply argmax_perm
  · exact ((List.perm_insertionSort _ _).filter _).symm
  · intro a aMember b bMember same
    refine eq_of_id (List.mem_filter.mp (List.mem_filter.mp aMember).1).1
      (List.mem_filter.mp (List.mem_filter.mp bMember).1).1 ?_
    exact congrArg (fun rank => (ofLex rank).2) same

theorem latestVisible_congr (same : first.itemsOf provider nativeThreadId = second.itemsOf provider nativeThreadId) :
    (latestVisibleItemForRunState first provider nativeThreadId).map ItemRow.content =
      (latestVisibleItemForRunState second provider nativeThreadId).map ItemRow.content := by
  have shown : ∀ rows : List ItemRow, (rows.filter fun row => isVisibleConversationItemKind row.kind).map ItemRow.content =
      (rows.map ItemRow.content).filter fun content => isVisibleConversationItemKind content.2.kind := by
    intro rows
    rw [List.filter_map]
    rfl
  rw [latestVisible_eq, latestVisible_eq]
  apply argmax_content
  · exact threadRows_ascending.filter _
  · exact threadRows_ascending.filter _
  · rw [shown, shown]
    exact congrArg _ same

theorem completedMessage_iff {turnKey : String} :
    table.completedMessageForTurnExists provider nativeThreadId turnKey ↔
      turnKey ≠ "" ∧ ∃ content ∈ table.itemsOf provider nativeThreadId,
        content.1.turnKey = turnKey ∧ IsCompletedMessage content.2.toFace := by
  unfold completedMessageForTurnExists itemsOf
  rw [decide_eq_true_eq, List.any_eq_true]
  refine and_congr_right fun _ => ⟨?_, ?_⟩
  · rintro ⟨row, member, chosen⟩
    obtain ⟨provider, thread, turn, completed⟩ := of_decide_eq_true chosen
    exact ⟨row.content, List.mem_map_of_mem (mem_threadRows.mpr ⟨member, provider, thread⟩), turn, completed⟩
  · rintro ⟨content, listed, turn, completed⟩
    obtain ⟨row, member, rfl⟩ := List.mem_map.mp listed
    obtain ⟨stored, provider, thread⟩ := mem_threadRows.mp member
    exact ⟨row, stored, decide_eq_true ⟨provider, thread, turn, completed⟩⟩

end ItemTable

section Result

variable {builtins : Builtins} {provider nativeThreadId : String}

theorem outcome_congr {first second : ItemTable}
    (same : first.itemsOf provider nativeThreadId = second.itemsOf provider nativeThreadId)
    (eventType : EventType) (payload : Dict) :
    outcome builtins first provider nativeThreadId eventType payload =
      outcome builtins second provider nativeThreadId eventType payload := by
  have visible := ItemTable.latestVisible_congr same
  have exists_ : ∀ turnKey, first.completedMessageForTurnExists provider nativeThreadId turnKey =
      second.completedMessageForTurnExists provider nativeThreadId turnKey := by
    intro turnKey
    rw [Bool.eq_iff_iff, ItemTable.completedMessage_iff, ItemTable.completedMessage_iff, same]
  unfold outcome
  dsimp only
  rw [exists_]
  split
  · rfl
  · cases found : latestVisibleItemForRunState first provider nativeThreadId with
    | none =>
        rw [found] at visible
        rw [Option.map_eq_none_iff.mp visible.symm]
    | some row =>
        rw [found] at visible
        obtain ⟨other, otherFound, sameContent⟩ := Option.map_eq_some_iff.mp visible.symm
        have key : other.key = row.key := congrArg Prod.fst sameContent
        have cells : other.toCells = row.toCells := congrArg Prod.snd sameContent
        rw [otherFound, Option.filter_some, Option.filter_some, key]
        cases decide (row.key.turnKey ≠ firstText builtins payload turnKeys) with
        | false => rfl
        | true =>
            rw [if_pos rfl, if_pos rfl]
            dsimp only
            rw [key, cells]

theorem leavesIdle_iff (items : ItemTable) (eventType : EventType) (payload : Dict) :
    LeavesIdle builtins items provider nativeThreadId eventType payload ↔
      outcome builtins items provider nativeThreadId eventType payload = .idle := by
  unfold LeavesIdle outcome
  dsimp only
  split
  · split
    · rename_i hidden
      exact iff_of_true (.inl hidden) rfl
    · rename_i shown
      simp only [shown, false_or, TurnRunState.idle, TurnRunState.mk.injEq, true_and, and_true]
  · cases found : latestVisibleItemForRunState items provider nativeThreadId with
    | none => exact iff_of_false nofun nofun
    | some item =>
        rw [Option.filter_some]
        simp only [Option.mem_some_iff, exists_eq_left']
        by_cases other : item.key.turnKey ≠ firstText builtins payload turnKeys
        · rw [if_pos (decide_eq_true other)]
          dsimp only
          split
          · rename_i active
            exact iff_of_false (fun idle => idle.2 active) nofun
          · rename_i quiet
            exact iff_of_true ⟨other, quiet⟩ rfl
        · rw [if_neg (fun true_ => other (of_decide_eq_true true_))]
          exact iff_of_false (fun idle => other idle.1) nofun

theorem latestTurnRunState_snd (store : TimelineStore) (rows : List StateRow) :
    (latestTurnRunState builtins store provider nativeThreadId rows).2 =
      (rows.find? fun row => row.isOf builtins (normalizeProvider builtins provider) (strip nativeThreadId)).elim .idle
        fun row => outcome builtins store.items (normalizeProvider builtins provider) (strip nativeThreadId) row.eventType
          row.payload := by
  unfold latestTurnRunState outcome
  dsimp only
  cases rows.find? fun row => row.isOf builtins (normalizeProvider builtins provider) (strip nativeThreadId) with
  | none => rfl
  | some row =>
      dsimp only [Option.elim_some]
      split
      · unfold terminalTurnRunState
        split
        · rename_i failed
          simp only [failed, true_and]
          split <;> rfl
        · rename_i shown
          rw [if_neg fun both => shown both.1]
      · split <;> rename_i found
        · rw [found]
        · rw [found]
          dsimp only
          split <;> rfl

theorem turnRunState_eq (store : TimelineStore) (table : EventTable) :
    turnRunState builtins store table provider nativeThreadId =
      (((table.window (strip nativeThreadId)).map EventRecord.content).find?
        (isOf builtins (normalizeProvider builtins provider) (strip nativeThreadId))).elim .idle fun content =>
          outcome builtins store.items (normalizeProvider builtins provider) (strip nativeThreadId) content.1
            content.2.members := by
  have read : EventRecord.read? = some ∘ fun record => ⟨record.id, record.eventType, record.payload.members⟩ :=
    funext EventRecord.read?_eq
  unfold turnRunState
  rw [latestTurnRunState_snd, read, List.filterMap_eq_map, List.find?_map, List.find?_map, Option.elim_map, Option.elim_map]
  rfl

theorem find?_window (table : EventTable) :
    (table.Reached builtins provider nativeThreadId →
      ((table.window nativeThreadId).map EventRecord.content).find? (isOf builtins provider nativeThreadId) =
        table.newest? builtins provider nativeThreadId) ∧
    (¬table.Reached builtins provider nativeThreadId →
      ((table.window nativeThreadId).map EventRecord.content).find? (isOf builtins provider nativeThreadId) = none) := by
  have parts : (table.window nativeThreadId).map EventRecord.content ++
      ((table.selected nativeThreadId).drop 200).map EventRecord.content =
        (table.selected nativeThreadId).map EventRecord.content := by
    rw [← List.map_append]
    exact congrArg _ (List.take_append_drop 200 _)
  constructor
  · rintro ⟨record, member, own⟩
    obtain ⟨found, isFound⟩ := Option.isSome_iff_exists.mp
      (List.find?_isSome.mpr ⟨record.content, List.mem_map_of_mem member, own⟩)
    unfold EventTable.newest?
    rw [← parts, List.find?_append, isFound]
    rfl
  · intro unreached
    apply List.find?_eq_none.mpr
    intro content listed own
    obtain ⟨record, member, rfl⟩ := List.mem_map.mp listed
    exact unreached ⟨record, member, own⟩

theorem newest?_eq (table : EventTable) :
    table.newest? builtins provider nativeThreadId =
      (((table.eventsOf builtins provider nativeThreadId).filter (isSelected nativeThreadId)).reverse).head? := by
  unfold EventTable.newest? EventTable.eventsOf EventTable.selected
  have selects : (table.records.filter fun record => isSelected nativeThreadId record.content).map EventRecord.content =
      (table.records.map EventRecord.content).filter (isSelected nativeThreadId) := by
    rw [List.filter_map]
    rfl
  rw [← List.head?_filter, List.map_reverse, List.filter_reverse, selects, List.filter_filter, List.filter_filter]
  simp only [Bool.and_comm]

theorem elim_idle_iff (items : ItemTable) (newest : Option (EventType × JsonObject)) :
    (newest.elim .idle fun content => outcome builtins items provider nativeThreadId content.1 content.2.members) = .idle ↔
      ∀ content ∈ newest, LeavesIdle builtins items provider nativeThreadId content.1 content.2.members := by
  cases newest with
  | none => exact iff_of_true rfl nofun
  | some content =>
      simp only [Option.elim_some, Option.mem_some_iff, forall_eq']
      exact (leavesIdle_iff items content.1 content.2.members).symm

end Result

/-- Two tables with the same events of a thread, and the same items, give it the same run state exactly
where both windows reach its newest event or neither does, or where that event leaves it idle. -/
theorem run_state_isolated_iff (builtins : Builtins) (provider nativeThreadId : String)
    {first second : TimelineStore} {firstTable secondTable : EventTable}
    (events : firstTable.eventsOf builtins (normalizeProvider builtins provider) (strip nativeThreadId) =
      secondTable.eventsOf builtins (normalizeProvider builtins provider) (strip nativeThreadId))
    (items : first.items.itemsOf (normalizeProvider builtins provider) (strip nativeThreadId) =
      second.items.itemsOf (normalizeProvider builtins provider) (strip nativeThreadId)) :
    turnRunState builtins first firstTable provider nativeThreadId =
        turnRunState builtins second secondTable provider nativeThreadId ↔
      (firstTable.Reached builtins (normalizeProvider builtins provider) (strip nativeThreadId) ↔
        secondTable.Reached builtins (normalizeProvider builtins provider) (strip nativeThreadId)) ∨
      ∀ content ∈ firstTable.newest? builtins (normalizeProvider builtins provider) (strip nativeThreadId),
        LeavesIdle builtins first.items (normalizeProvider builtins provider) (strip nativeThreadId) content.1
          content.2.members := by
  have newest : firstTable.newest? builtins (normalizeProvider builtins provider) (strip nativeThreadId) =
      secondTable.newest? builtins (normalizeProvider builtins provider) (strip nativeThreadId) := by
    rw [newest?_eq, newest?_eq, events]
  have same := @outcome_congr builtins _ _ _ _ items
  obtain ⟨firstHit, firstMiss⟩ :=
    @find?_window builtins (normalizeProvider builtins provider) (strip nativeThreadId) firstTable
  obtain ⟨secondHit, secondMiss⟩ :=
    @find?_window builtins (normalizeProvider builtins provider) (strip nativeThreadId) secondTable
  rw [turnRunState_eq, turnRunState_eq, ← elim_idle_iff]
  simp only [← same]
  by_cases firstReached : firstTable.Reached builtins (normalizeProvider builtins provider) (strip nativeThreadId) <;>
    by_cases secondReached : secondTable.Reached builtins (normalizeProvider builtins provider) (strip nativeThreadId)
  · rw [firstHit firstReached, secondHit secondReached, newest]
    exact iff_of_true rfl (.inl (iff_of_true firstReached secondReached))
  · rw [firstHit firstReached, secondMiss secondReached, or_iff_right fun both => secondReached (both.mp firstReached)]
    rfl
  · rw [firstMiss firstReached, secondHit secondReached, newest,
      or_iff_right fun both => firstReached (both.mpr secondReached)]
    exact eq_comm
  · rw [firstMiss firstReached, secondMiss secondReached]
    exact iff_of_true rfl (.inl (iff_of_false firstReached secondReached))

def started (nativeThreadId : String) (id : Nat) : EventRecord where
  id := id
  eventType := .agentRunStarted
  payload := ⟨[("native_thread_id", .string nativeThreadId), ("turn_id", .string "turn")],
    (by decide : ["native_thread_id", "turn_id"].Nodup), trivial, trivial, trivial⟩

/-- The turn of `thread`, then so many of `thread-2`. -/
def startedBefore (others : Nat) : EventTable where
  records := started "thread" 0 :: (List.range others).map fun index => started "thread-2" (index + 1)
  ascending := by
    refine List.pairwise_cons.mpr ⟨fun record listed => ?_, List.pairwise_map.mpr ?_⟩
    · obtain ⟨index, -, rfl⟩ := List.mem_map.mp listed
      exact Nat.succ_pos index
    · exact List.pairwise_lt_range.imp fun less => Nat.succ_lt_succ less

theorem eventsOf_startedBefore (others : Nat) :
    (startedBefore others).eventsOf plainBuiltins "codex" "thread" = [(started "thread" 0).content] := by
  have foreign : ((List.range others).map fun index => (started "thread-2" (index + 1)).content).filter
      (isOf plainBuiltins "codex" "thread") = [] := by
    refine List.filter_eq_nil_iff.mpr fun content listed => ?_
    obtain ⟨index, -, rfl⟩ := List.mem_map.mp listed
    change ¬isOf plainBuiltins "codex" "thread" (started "thread-2" 0).content
    decide
  unfold EventTable.eventsOf startedBefore
  rw [List.map_cons, List.map_map, List.filter_cons_of_pos (by decide)]
  exact congrArg _ foreign

theorem run_state_behind_one_row :
    turnRunState plainBuiltins .empty (startedBefore 0) "codex" "thread" =
        turnRunState plainBuiltins .empty (startedBefore 1) "codex" "thread" ↔
      ((startedBefore 0).Reached plainBuiltins (normalizeProvider plainBuiltins "codex") (strip "thread") ↔
        (startedBefore 1).Reached plainBuiltins (normalizeProvider plainBuiltins "codex") (strip "thread")) ∨
      ∀ content ∈ (startedBefore 0).newest? plainBuiltins (normalizeProvider plainBuiltins "codex") (strip "thread"),
        LeavesIdle plainBuiltins TimelineStore.empty.items (normalizeProvider plainBuiltins "codex") (strip "thread")
          content.1 content.2.members :=
  run_state_isolated_iff plainBuiltins "codex" "thread"
    ((eventsOf_startedBefore 0).trans (eventsOf_startedBefore 1).symm) rfl

/-- Two hundred rows of another thread, whose id begins with the thread's, hide its running turn. -/
theorem crowded_run_state_differs :
    ¬∀ (provider nativeThreadId : String) (first second : TimelineStore) (firstTable secondTable : EventTable),
      firstTable.eventsOf plainBuiltins (normalizeProvider plainBuiltins provider) (strip nativeThreadId) =
        secondTable.eventsOf plainBuiltins (normalizeProvider plainBuiltins provider) (strip nativeThreadId) →
      first.items.itemsOf (normalizeProvider plainBuiltins provider) (strip nativeThreadId) =
        second.items.itemsOf (normalizeProvider plainBuiltins provider) (strip nativeThreadId) →
      turnRunState plainBuiltins first firstTable provider nativeThreadId =
        turnRunState plainBuiltins second secondTable provider nativeThreadId := by
  intro always
  have same := always "codex" "thread" .empty .empty (startedBefore 0) (startedBefore 200)
    ((eventsOf_startedBefore 0).trans (eventsOf_startedBefore 200).symm) rfl
  have hidden : turnRunState plainBuiltins .empty (startedBefore 200) "codex" "thread" = .idle := by
    decide +kernel
  have running : turnRunState plainBuiltins .empty (startedBefore 0) "codex" "thread" = ⟨true, "running", "turn"⟩ := by
    decide +kernel
  rw [hidden, running] at same
  exact absurd same (by decide)

end Wlcodex.Timeline
