import Wlcodex.Lib.Paging
import Wlcodex.Timeline.FailedTurns
import Wlcodex.Timeline.Sequences

namespace Wlcodex.Timeline

open Wlcodex.Lib
open Wlcodex.Relay (strip)

/-! Backward paging over the items of a conversation. -/

/-- `COALESCE(NULLIF(last_sequence, 0), id)`. -/
def ItemRow.cursor (row : ItemRow) : Nat := if row.lastSequence = 0 then row.id else row.lastSequence

/-- `ORDER BY cursor DESC, id DESC`. -/
def ItemRow.IsNewer (first second : ItemRow) : Prop :=
  second.cursor < first.cursor ∨ second.cursor = first.cursor ∧ second.id ≤ first.id

instance : DecidableRel ItemRow.IsNewer := fun first second => by
  unfold ItemRow.IsNewer
  infer_instance

instance : IsTrans ItemRow ItemRow.IsNewer where
  trans first second third left right := by
    unfold ItemRow.IsNewer at left right ⊢
    omega

instance : Std.Total ItemRow.IsNewer where
  total first second := by
    unfold ItemRow.IsNewer
    omega

def safeLimit (limit : Int) : Nat := (max 1 (min (if limit = 0 then 100 else limit) 500)).toNat

theorem safeLimit_pos (limit : Int) : 0 < safeLimit limit := by
  unfold safeLimit
  omega

namespace ItemTable

def visibleItems (table : ItemTable) (provider nativeThreadId : String) : List ItemRow :=
  table.rows.rows.filter fun row =>
    row.key.provider = provider ∧ row.key.nativeThreadId = nativeThreadId ∧ isVisibleConversationItemKind row.kind

def newestFirst (table : ItemTable) (provider nativeThreadId : String) : List ItemRow :=
  (table.visibleItems provider nativeThreadId).insertionSort ItemRow.IsNewer

end ItemTable

section Reader

variable (builtins : Builtins) (table : ItemTable) (provider nativeThreadId : String) (limit : Int)

def listConversationItems (after : Int) (before : Option Int) : List ItemRow :=
  let visible := table.visibleItems (normalizeProvider builtins provider) (strip nativeThreadId)
  match before.filter (0 < ·) with
  | some cursor =>
      (((visible.filter fun row => row.cursor < cursor).insertionSort ItemRow.IsNewer).take (safeLimit limit)).reverse
  | none =>
      if 0 < after then
        ((visible.filter fun row => after < row.cursor).insertionSort fun first second => second.IsNewer first).take
          (safeLimit limit)
      else ((visible.insertionSort ItemRow.IsNewer).take (safeLimit limit)).reverse

/-- The pages of a reader that passes the oldest cursor of each page as `before`; `none` when the fuel
is used up before an empty page. -/
def readBackward : Nat → Option Int → Option (List (List ItemRow))
  | 0, _ => none
  | fuel + 1, before =>
      let page := listConversationItems builtins table provider nativeThreadId limit 0 before
      match page.head? with
      | none => some []
      | some oldest => (readBackward fuel (some oldest.cursor)).map (page :: ·)

def ReadsAll : Prop :=
  ∀ fuel, (table.visibleItems (normalizeProvider builtins provider) (strip nativeThreadId)).length < fuel →
    ∃ pages, readBackward builtins table provider nativeThreadId limit fuel none = some pages ∧
      pages.reverse.flatten.Perm (table.visibleItems (normalizeProvider builtins provider) (strip nativeThreadId)) ∧
      pages.reverse.flatten.Pairwise fun first second => first.cursor ≤ second.cursor

end Reader

/-! ### The reader pages through the sorted items -/

def ItemRow.mark (row : ItemRow) : ℕᵒᵈ := OrderDual.toDual row.cursor

namespace ItemTable

variable {table : ItemTable} {provider nativeThreadId : String}

theorem newestFirst_perm : (table.newestFirst provider nativeThreadId).Perm (table.visibleItems provider nativeThreadId) :=
  List.perm_insertionSort _ _

theorem mem_of_mem_newestFirst {row : ItemRow} (member : row ∈ table.newestFirst provider nativeThreadId) : row ∈ table :=
  (List.mem_filter.mp (newestFirst_perm.mem_iff.mp member)).1

theorem newestFirst_sorted : (table.newestFirst provider nativeThreadId).Pairwise ItemRow.IsNewer :=
  List.pairwise_insertionSort _ _

theorem newestFirst_marks :
    (table.newestFirst provider nativeThreadId).Pairwise fun first second => first.mark ≤ second.mark := by
  apply newestFirst_sorted.imp
  intro first second newer
  rcases newer with later | ⟨same, -⟩
  · exact later.le
  · exact same.le

theorem insertionSort_filter (selected : ItemRow → Bool) :
    ((table.visibleItems provider nativeThreadId).filter selected).insertionSort ItemRow.IsNewer =
      (table.newestFirst provider nativeThreadId).filter selected := by
  apply @List.Perm.eq_of_pairwise _ ItemRow.IsNewer
  · intro first second firstMember secondMember newer older
    have firstStored := (List.mem_filter.mp ((List.mem_insertionSort _).mp firstMember)).1
    refine eq_of_id (List.mem_filter.mp firstStored).1 (mem_of_mem_newestFirst (List.mem_filter.mp secondMember).1) ?_
    unfold ItemRow.IsNewer at newer older
    omega
  · exact List.pairwise_insertionSort _ _
  · exact newestFirst_sorted.filter _
  · exact (List.perm_insertionSort _ _).trans (newestFirst_perm.symm.filter _)

end ItemTable

/-- The argument `before` that reads behind a mark. -/
def beforeMark (after : Option ℕᵒᵈ) : Option Int := after.map fun cursor => Int.ofNat (OrderDual.ofDual cursor)

section Pages

variable {builtins : Builtins} {table : ItemTable} {provider nativeThreadId : String} {limit : Int}

theorem listConversationItems_eq (after : Option ℕᵒᵈ) (positive : ∀ cursor ∈ after, 0 < OrderDual.ofDual cursor) :
    listConversationItems builtins table provider nativeThreadId limit 0 (beforeMark after) =
      (Paging.page ItemRow.mark (safeLimit limit) after
        (table.newestFirst (normalizeProvider builtins provider) (strip nativeThreadId))).reverse := by
  unfold listConversationItems Paging.page
  cases after with
  | none =>
      rw [Paging.behind_none]
      rfl
  | some cursor =>
      have ahead : 0 < Int.ofNat (OrderDual.ofDual cursor) := Int.natCast_pos.mpr (positive cursor rfl)
      have kept : (beforeMark (some cursor)).filter (0 < ·) = some (Int.ofNat (OrderDual.ofDual cursor)) :=
        Option.filter_some_pos (decide_eq_true ahead)
      rw [kept]
      dsimp only
      rw [ItemTable.insertionSort_filter]
      congr 3
      funext row
      rw [decide_eq_decide, Int.ofNat_eq_natCast, Int.ofNat_lt]
      exact ⟨fun older some_ here => Option.mem_some.mp here ▸ older, fun older => older cursor rfl⟩

theorem readBackward_eq (positive : ∀ row ∈ table, 0 < row.cursor) (fuel : Nat) (after : Option ℕᵒᵈ)
    (ahead : ∀ cursor ∈ after, 0 < OrderDual.ofDual cursor) :
    readBackward builtins table provider nativeThreadId limit fuel (beforeMark after) =
      (Paging.pages ItemRow.mark (safeLimit limit)
        (table.newestFirst (normalizeProvider builtins provider) (strip nativeThreadId)) fuel after).map
          fun pages => pages.map List.reverse := by
  induction fuel generalizing after with
  | zero => rfl
  | succ fuel ih =>
      unfold readBackward Paging.pages
      dsimp only
      rw [listConversationItems_eq after ahead, List.head?_reverse]
      cases found : (Paging.page ItemRow.mark (safeLimit limit) after
          (table.newestFirst (normalizeProvider builtins provider) (strip nativeThreadId))).getLast? with
      | none => rfl
      | some oldest =>
          have shown := List.mem_of_mem_take (List.mem_of_getLast? found)
          have stored := ItemTable.mem_of_mem_newestFirst (Paging.mem_behind.mp shown).1
          have read := ih (some oldest.mark) fun cursor here =>
            Option.mem_some.mp here ▸ positive oldest stored
          refine (congrArg (Option.map _) read).trans ?_
          rw [Option.map_map, Option.map_map]
          rfl

theorem read_iff {visible rows : List ItemRow} {read : List (List ItemRow)} (permuted : rows.Perm visible)
    (marks : rows.Pairwise fun first second => first.mark ≤ second.mark) (within : read.flatten.Sublist rows) :
    ((read.map List.reverse).reverse.flatten.Perm visible ∧
      (read.map List.reverse).reverse.flatten.Pairwise fun first second => first.cursor ≤ second.cursor) ↔
        read.flatten = rows := by
  rw [← List.reverse_flatten, List.pairwise_reverse]
  constructor
  · rintro ⟨all, -⟩
    apply within.eq_of_length
    rw [permuted.length_eq, ← all.length_eq, List.length_reverse]
  · rintro rfl
    exact ⟨(List.reverse_perm _).trans permuted, marks⟩

theorem readsAll_iff (positive : ∀ row ∈ table, 0 < row.cursor) :
    ReadsAll builtins table provider nativeThreadId limit ↔
      Paging.Untied ItemRow.cursor (safeLimit limit)
        (table.newestFirst (normalizeProvider builtins provider) (strip nativeThreadId)) := by
  have permuted : (table.newestFirst (normalizeProvider builtins provider) (strip nativeThreadId)).Perm _ :=
    ItemTable.newestFirst_perm
  have paged : ∀ fuel, (table.visibleItems (normalizeProvider builtins provider) (strip nativeThreadId)).length < fuel →
      ∃ read : List (List ItemRow),
        readBackward builtins table provider nativeThreadId limit fuel none = some (read.map List.reverse) ∧
          read.flatten.Sublist (table.newestFirst (normalizeProvider builtins provider) (strip nativeThreadId)) ∧
            (read.flatten = table.newestFirst (normalizeProvider builtins provider) (strip nativeThreadId) ↔
              Paging.Untied ItemRow.cursor (safeLimit limit)
                (table.newestFirst (normalizeProvider builtins provider) (strip nativeThreadId))) := by
    intro fuel enough
    rw [← permuted.length_eq, ← @Paging.behind_none _ _ _ ItemRow.mark (table.newestFirst _ _)] at enough
    obtain ⟨read, reads, within, complete⟩ :=
      Paging.pages_complete_iff (safeLimit_pos limit) ItemTable.newestFirst_marks fuel none enough
    rw [Paging.behind_none] at within complete
    refine ⟨read, ?_, within, complete⟩
    have same : readBackward builtins table provider nativeThreadId limit fuel (beforeMark none) = _ :=
      readBackward_eq positive fuel none nofun
    rw [reads] at same
    exact same
  constructor
  · intro all
    obtain ⟨read, reads, within, complete⟩ := paged _ (Nat.lt_succ_self _)
    obtain ⟨pages, shown, ordered⟩ := all _ (Nat.lt_succ_self _)
    cases reads.symm.trans shown
    exact complete.mp ((read_iff permuted ItemTable.newestFirst_marks within).mp ordered)
  · intro untied fuel enough
    obtain ⟨read, reads, within, complete⟩ := paged fuel enough
    exact ⟨_, reads, (read_iff permuted ItemTable.newestFirst_marks within).mpr (complete.mpr untied)⟩

end Pages

structure Counted (store : TimelineStore) : Prop where
  next : 0 < store.items.nextId
  ids : ∀ row ∈ store.items, 0 < row.id

theorem stable_counted : Stable Counted where
  quiet := by
    intro store items counted quiet
    refine ⟨counted.next.trans_le quiet.grows, fun row member => ?_⟩
    rcases quiet.origin row member with ⟨old, stored, same⟩ | ⟨late, -⟩
    · rw [same.id]
      exact counted.ids old stored
    · exact counted.next.trans_le late
  append := by
    intro store provider nativeThreadId id counted _ runtimeEventId eventType kind payload
    refine ⟨counted.next, fun row member => ?_⟩
    obtain ⟨old, stored, rfl⟩ := ItemTable.mem_update.mp member
    rw [ItemTable.id_update]
    exact counted.ids old stored

theorem Counted.empty : Counted .empty where
  next := Nat.one_pos
  ids := fun _ member => absurd member (Keyed.not_mem_empty _)

theorem Counted.cursor_pos {store : TimelineStore} (counted : Counted store) : ∀ row ∈ store.items, 0 < row.cursor := by
  intro row member
  unfold ItemRow.cursor
  split
  · exact counted.ids row member
  · omega

/-- In every state of every stream, reading backward is complete exactly where no page ends between
two items of one cursor. -/
theorem backward_paging_complete_iff (builtins : Builtins) (inputs : List TimelineInput)
    (provider nativeThreadId : String) (limit : Int) :
    ReadsAll builtins (inputs.foldl (inputStep builtins) .empty).items provider nativeThreadId limit ↔
      Paging.Untied ItemRow.cursor (safeLimit limit)
        ((inputs.foldl (inputStep builtins) .empty).items.newestFirst (normalizeProvider builtins provider)
          (strip nativeThreadId)) :=
  readsAll_iff (stable_inputs stable_counted .empty inputs).cursor_pos

def received (itemId : String) : RuntimeEvent :=
  turnEvent .userMessageReceived [("text", .string itemId), ("itemId", .string itemId)]

/-- The process died between an item and its event; the id of that item is the number of the next event. -/
theorem colliding_cursors_lose_an_item :
    ¬∀ (inputs : List TimelineInput) (provider nativeThreadId : String) (limit : Int), 1 ≤ limit →
      ReadsAll plainBuiltins (inputs.foldl (inputStep plainBuiltins) .empty).items provider nativeThreadId limit := by
  intro always
  have reads := always [.op (.die (.project (received "first")) 1), .op (.call (.project (received "second")))]
    "codex" "thread" 1 (by decide)
  obtain ⟨pages, read, all, -⟩ := reads 3 (by decide)
  have one : (readBackward plainBuiltins ([.op (.die (.project (received "first")) 1),
      .op (.call (.project (received "second")))].foldl (inputStep plainBuiltins) .empty).items "codex" "thread" 1 3 none).map
        (fun pages => pages.reverse.flatten.length) = some 1 := by decide
  rw [read] at one
  have shown : pages.reverse.flatten.length = 1 := Option.some.inj one
  rw [all.length_eq] at shown
  exact absurd shown (by decide)

end Wlcodex.Timeline
