import Mathlib.Data.List.Dedup
import Wlcodex.Timeline.Answers

namespace Wlcodex.Timeline

open ItemTable (IsCompletedMessage group rank chunks duplicateIds duplicateIdsOf
  isJsonlAssistantFinalItemKey)

/-! `suppress_duplicate_completed_messages`: which rows of a table it supersedes. -/

theorem mem_chunks {ids : List Nat} {id : Nat} : (∃ chunk ∈ chunks ids, id ∈ chunk) ↔ id ∈ ids := by
  unfold chunks
  simp only [List.mem_map, List.mem_range, exists_exists_and_eq_and]
  constructor
  · rintro ⟨index, _, member⟩
    exact List.mem_of_mem_drop (List.mem_of_mem_take member)
  · intro member
    obtain ⟨position, inside, rfl⟩ := List.getElem_of_mem member
    refine ⟨position / 500, by omega, List.mem_iff_getElem.mpr ⟨position % 500, ?_, ?_⟩⟩
    · rw [List.length_take, List.length_drop]
      omega
    · rw [List.getElem_take, List.getElem_drop]
      congr 1
      omega

variable {table : ItemTable} {row : ItemRow}

theorem mem_foldl_suppressChunk {parts : List (List Nat)} :
    row ∈ parts.foldl ItemTable.suppressChunk table ↔ ∃ old ∈ table,
      row = if ∃ chunk ∈ parts, old.id ∈ chunk then old.change ItemTable.messageSuppressed else old := by
  induction parts generalizing table with
  | nil => simp
  | cons chunk rest ih =>
      rw [List.foldl_cons, ih]
      constructor
      · rintro ⟨middle, listed, rfl⟩
        obtain ⟨old, member, rfl⟩ := ItemTable.mem_update.mp listed
        refine ⟨old, member, ?_⟩
        by_cases first : old.id ∈ chunk
        · simp only [first, decide_true, if_true, List.mem_cons, exists_eq_or_imp, true_or]
          split <;> rfl
        · simp only [first, decide_false, Bool.false_eq_true, if_false, List.mem_cons, exists_eq_or_imp,
            false_or]
      · rintro ⟨old, member, rfl⟩
        refine ⟨_, ItemTable.mem_update.mpr ⟨old, member, rfl⟩, ?_⟩
        by_cases first : old.id ∈ chunk
        · simp only [first, decide_true, if_true, List.mem_cons, exists_eq_or_imp, true_or]
          split <;> rfl
        · simp only [first, decide_false, Bool.false_eq_true, if_false, List.mem_cons, exists_eq_or_imp,
            false_or]

variable {provider nativeThreadId : String}

theorem mem_suppressDuplicates :
    row ∈ table.suppressDuplicateCompletedMessages provider nativeThreadId ↔ ∃ old ∈ table,
      row = if old.id ∈ duplicateIds (table.completedMessages provider nativeThreadId) then
        old.change ItemTable.messageSuppressed else old := by
  unfold ItemTable.suppressDuplicateCompletedMessages
  rw [mem_foldl_suppressChunk]
  simp only [mem_chunks]

def preferred? (rows : List ItemRow) (name : String × String) : Option ItemRow :=
  (rows.filter fun row => group row = name).argmin (rank isJsonlAssistantFinalItemKey)

variable {rows : List ItemRow}

theorem preferred?_mem {name : String × String}
    (found : preferred? rows name = some row) : row ∈ rows ∧ group row = name := by
  have listed := List.argmin_mem found
  rw [List.mem_filter] at listed
  exact ⟨listed.1, by simpa using listed.2⟩

theorem duplicateIdsOf_eq (found : rows.argmin (rank isJsonlAssistantFinalItemKey) = some row) :
    duplicateIdsOf rows = (rows.filter fun other => other.id ≠ row.id).map ItemRow.id := by
  unfold duplicateIdsOf
  split
  · rename_i short
    have member := List.argmin_mem found
    have count : rows.length = 1 := by
      have positive := List.length_pos_of_mem member
      omega
    obtain ⟨only, rfl⟩ := List.length_eq_one_iff.mp count
    rw [List.mem_singleton.mp member]
    simp
  · rw [found]

theorem mem_duplicateIds {id : Nat} :
    id ∈ duplicateIds rows ↔ ∃ row ∈ rows, row.id = id ∧
      ∃ kept, preferred? rows (group row) = some kept ∧ row.id ≠ kept.id := by
  unfold duplicateIds
  simp only [List.mem_flatMap, List.mem_dedup, List.mem_map]
  constructor
  · rintro ⟨name, ⟨witness, witnessMember, rfl⟩, listed⟩
    cases found : preferred? rows (group witness) with
    | none =>
        unfold preferred? at found
        rw [List.argmin_eq_none] at found
        rw [found] at listed
        simp [duplicateIdsOf] at listed
    | some kept =>
        rw [duplicateIdsOf_eq found] at listed
        simp only [List.mem_map, List.mem_filter, decide_eq_true_eq] at listed
        obtain ⟨row, ⟨⟨member, sameGroup⟩, different⟩, rfl⟩ := listed
        refine ⟨row, member, rfl, kept, ?_, different⟩
        rw [sameGroup]
        exact found
  · rintro ⟨row, member, rfl, kept, found, different⟩
    refine ⟨group row, ⟨row, member, rfl⟩, ?_⟩
    rw [duplicateIdsOf_eq found]
    simp only [List.mem_map, List.mem_filter, decide_eq_true_eq]
    exact ⟨row, ⟨⟨member, rfl⟩, different⟩, rfl⟩

theorem duplicateIds_of_single
    (single : ∀ first ∈ rows, ∀ second ∈ rows, group first = group second → first.id = second.id) :
    duplicateIds rows = [] := by
  rw [List.eq_nil_iff_forall_not_mem]
  intro id listed
  obtain ⟨row, member, rfl, kept, found, different⟩ := mem_duplicateIds.mp listed
  obtain ⟨keptMember, sameGroup⟩ := preferred?_mem found
  exact different (single row member kept keptMember sameGroup.symm)

theorem mem_completedMessages :
    row ∈ table.completedMessages provider nativeThreadId ↔ row ∈ table ∧ row.key.provider = provider ∧
      row.key.nativeThreadId = nativeThreadId ∧ IsCompletedMessage row.toFace ∧ row.key.turnKey ≠ "" ∧
      row.text ≠ "" := by
  unfold ItemTable.completedMessages
  rw [List.mem_filter]
  simp only [Bool.decide_and, Bool.and_eq_true, decide_eq_true_eq]
  exact Iff.rfl

theorem suppressDuplicates_of_single
    (single : ∀ first ∈ table.completedMessages provider nativeThreadId,
      ∀ second ∈ table.completedMessages provider nativeThreadId, group first = group second →
        first.id = second.id) :
    table.suppressDuplicateCompletedMessages provider nativeThreadId = table := by
  unfold ItemTable.suppressDuplicateCompletedMessages
  rw [duplicateIds_of_single single]
  rfl

def IsAnswer (row : ItemRow) (provider nativeThreadId turnKey text : String) : Prop :=
  row.key.provider = provider ∧ row.key.nativeThreadId = nativeThreadId ∧ row.key.turnKey = turnKey ∧
    IsCompletedMessage row.toFace ∧ row.text = text

theorem answer_suppressDuplicates {turnKey text : String} (named : turnKey ≠ "") (present : text ≠ "") :
    (row ∈ table.suppressDuplicateCompletedMessages provider nativeThreadId ∧
        IsAnswer row provider nativeThreadId turnKey text) ↔
      preferred? (table.completedMessages provider nativeThreadId) (turnKey, text) = some row := by
  constructor
  · rintro ⟨listed, answer⟩
    obtain ⟨old, member, rfl⟩ := mem_suppressDuplicates.mp listed
    by_cases superseded : old.id ∈ duplicateIds (table.completedMessages provider nativeThreadId)
    · rw [if_pos superseded] at answer
      exact absurd answer.2.2.2.1.1 (by simp [ItemTable.messageSuppressed])
    · rw [if_neg superseded] at answer ⊢
      obtain ⟨ofProvider, ofThread, ofTurn, done, ofText⟩ := answer
      have completed : old ∈ table.completedMessages provider nativeThreadId :=
        mem_completedMessages.mpr ⟨member, ofProvider, ofThread, done, ofTurn ▸ named, ofText ▸ present⟩
      have name : group old = (turnKey, text) := by
        unfold group
        rw [ofTurn, ofText]
      cases found : preferred? (table.completedMessages provider nativeThreadId) (turnKey, text) with
      | none =>
          unfold preferred? at found
          rw [List.argmin_eq_none, List.filter_eq_nil_iff] at found
          exact absurd (by simpa using name) (found old completed)
      | some kept =>
          have sameId : old.id = kept.id := by
            by_contra different
            exact superseded (mem_duplicateIds.mpr ⟨old, completed, rfl, kept, name ▸ found, different⟩)
          have keptMember := (mem_completedMessages.mp (preferred?_mem found).1).1
          rw [ItemTable.eq_of_id member keptMember sameId]
  · intro found
    obtain ⟨completed, name⟩ := preferred?_mem found
    obtain ⟨member, ofProvider, ofThread, done, _, _⟩ := mem_completedMessages.mp completed
    have kept : row.id ∉ duplicateIds (table.completedMessages provider nativeThreadId) := by
      intro listed
      obtain ⟨other, otherCompleted, sameId, preferred, otherFound, different⟩ := mem_duplicateIds.mp listed
      have same : other = row :=
        ItemTable.eq_of_id (mem_completedMessages.mp otherCompleted).1 member sameId
      rw [same, name, found] at otherFound
      cases otherFound
      exact different sameId
    refine ⟨mem_suppressDuplicates.mpr ⟨row, member, (if_neg kept).symm⟩, ofProvider, ofThread, ?_, done, ?_⟩
    · exact congrArg Prod.fst name
    · exact congrArg Prod.snd name

theorem suppressDuplicates_keeps_one {turnKey text : String}
    (named : turnKey ≠ "") (present : text ≠ "") (member : row ∈ table)
    (answer : IsAnswer row provider nativeThreadId turnKey text) :
    ∃ kept ∈ table, ∀ other,
      (other ∈ table.suppressDuplicateCompletedMessages provider nativeThreadId ∧
        IsAnswer other provider nativeThreadId turnKey text) ↔ other = kept := by
  obtain ⟨ofProvider, ofThread, ofTurn, done, ofText⟩ := answer
  have completed : row ∈ table.completedMessages provider nativeThreadId :=
    mem_completedMessages.mpr ⟨member, ofProvider, ofThread, done, ofTurn ▸ named, ofText ▸ present⟩
  cases found : preferred? (table.completedMessages provider nativeThreadId) (turnKey, text) with
  | none =>
      unfold preferred? at found
      rw [List.argmin_eq_none, List.filter_eq_nil_iff] at found
      exact absurd (by simp [group, ofTurn, ofText]) (found row completed)
  | some kept =>
      refine ⟨kept, (mem_completedMessages.mp (preferred?_mem found).1).1, fun other => ?_⟩
      rw [answer_suppressDuplicates named present, found, Option.some.injEq]
      exact eq_comm

theorem suppressDuplicates_idempotent (table : ItemTable) (provider nativeThreadId : String) :
    (table.suppressDuplicateCompletedMessages provider nativeThreadId).suppressDuplicateCompletedMessages
        provider nativeThreadId =
      table.suppressDuplicateCompletedMessages provider nativeThreadId := by
  apply suppressDuplicates_of_single
  intro first firstCompleted second secondCompleted same
  obtain ⟨firstMember, firstProvider, firstThread, firstDone, named, present⟩ :=
    mem_completedMessages.mp firstCompleted
  obtain ⟨secondMember, secondProvider, secondThread, secondDone, _, _⟩ :=
    mem_completedMessages.mp secondCompleted
  have firstKept := (answer_suppressDuplicates named present).mp
    ⟨firstMember, firstProvider, firstThread, rfl, firstDone, rfl⟩
  have turn : second.key.turnKey = first.key.turnKey := (congrArg Prod.fst same).symm
  have text : second.text = first.text := (congrArg Prod.snd same).symm
  have secondKept := (answer_suppressDuplicates named present).mp
    ⟨secondMember, secondProvider, secondThread, turn, secondDone, text⟩
  rw [firstKept] at secondKept
  cases secondKept
  rfl

theorem OneAnswer.single (one : OneAnswer table.board) {first second : ItemRow}
    (firstMember : first ∈ table) (secondMember : second ∈ table)
    (firstDone : IsCompletedMessage first.toFace) (secondDone : IsCompletedMessage second.toFace)
    (turn : first.key.InTurn second.key) (text : first.text = second.text) : first = second := by
  have key := one first.key second.key first.toFace second.toFace (ItemTable.board_key firstMember)
    (ItemTable.board_key secondMember) firstDone secondDone turn text
  have found := ItemTable.find?_key firstMember
  rw [key, ItemTable.find?_key secondMember] at found
  exact (Option.some.inj found).symm

theorem OneAnswer.suppressDuplicates (one : OneAnswer table.board) (provider nativeThreadId : String) :
    table.suppressDuplicateCompletedMessages provider nativeThreadId = table := by
  apply suppressDuplicates_of_single
  intro first firstCompleted second secondCompleted same
  obtain ⟨firstMember, firstProvider, firstThread, firstDone, _, _⟩ :=
    mem_completedMessages.mp firstCompleted
  obtain ⟨secondMember, secondProvider, secondThread, secondDone, _, _⟩ :=
    mem_completedMessages.mp secondCompleted
  have turn : first.key.InTurn second.key :=
    ⟨firstProvider.trans secondProvider.symm, firstThread.trans secondThread.symm, congrArg Prod.fst same⟩
  rw [one.single firstMember secondMember firstDone secondDone turn (congrArg Prod.snd same)]

theorem answered_callCommits {builtins : Builtins} {store : TimelineStore} (answered : Answered store)
    (call : TimelineCall) : ∀ next ∈ callCommits builtins store call, Answered next := by
  cases call with
  | project event => exact answered_commits answered event
  | suppressDuplicates provider nativeThreadId =>
      intro next member
      rw [List.mem_singleton.mp member, answered.one.suppressDuplicates]
      exact answered
  | repair provider nativeThreadId rows => exact answered_repair answered provider nativeThreadId rows

theorem answered_run (builtins : Builtins) (ops : List TimelineOp) : Answered (run builtins ops) :=
  run_keeps builtins (fun _ call answered => answered_callCommits answered call) answered_empty ops

/-- One answer of a turn and text after every run, so that there is nothing to
suppress.  On any table the suppression keeps one answer of every turn and text that
have a name, and is idempotent. -/
theorem answers_once (builtins : Builtins) :
    (∀ ops, ∀ first ∈ (run builtins ops).items, ∀ second ∈ (run builtins ops).items,
        ∀ provider nativeThreadId turnKey text,
          IsAnswer first provider nativeThreadId turnKey text →
          IsAnswer second provider nativeThreadId turnKey text → first = second) ∧
      (∀ ops provider nativeThreadId,
        (run builtins ops).items.suppressDuplicateCompletedMessages provider nativeThreadId =
          (run builtins ops).items) ∧
      ∀ (table : ItemTable) (provider nativeThreadId : String),
        (∀ turnKey text, turnKey ≠ "" → text ≠ "" →
          (∃ row ∈ table, IsAnswer row provider nativeThreadId turnKey text) →
          ∃ kept ∈ table, ∀ other,
            (other ∈ table.suppressDuplicateCompletedMessages provider nativeThreadId ∧
              IsAnswer other provider nativeThreadId turnKey text) ↔ other = kept) ∧
        (table.suppressDuplicateCompletedMessages provider nativeThreadId).suppressDuplicateCompletedMessages
            provider nativeThreadId =
          table.suppressDuplicateCompletedMessages provider nativeThreadId := by
  refine ⟨?_, ?_, ?_⟩
  · rintro ops first firstMember second secondMember provider nativeThreadId turnKey text
      ⟨firstProvider, firstThread, firstTurn, firstDone, firstText⟩
      ⟨secondProvider, secondThread, secondTurn, secondDone, secondText⟩
    exact (answered_run builtins ops).one.single firstMember secondMember firstDone secondDone
      ⟨firstProvider.trans secondProvider.symm, firstThread.trans secondThread.symm,
        firstTurn.trans secondTurn.symm⟩ (firstText.trans secondText.symm)
  · intro ops provider nativeThreadId
    exact (answered_run builtins ops).one.suppressDuplicates provider nativeThreadId
  · intro table provider nativeThreadId
    refine ⟨?_, suppressDuplicates_idempotent table provider nativeThreadId⟩
    rintro turnKey text named present ⟨row, member, answer⟩
    exact suppressDuplicates_keeps_one named present member answer

def blankAnswers : ItemTable :=
  let cells : Cells := ⟨⟨.assistant, .message, "", "completed", 90⟩, [], 0⟩
  (((ItemTable.empty.insert? ⟨"codex", "thread", "turn", "first"⟩ cells).bind fun table =>
    table.insert? ⟨"codex", "thread", "turn", "second"⟩ cells)).getD .empty

theorem blank_answers_both_kept :
    ∃ first ∈ blankAnswers.suppressDuplicateCompletedMessages "codex" "thread",
      ∃ second ∈ blankAnswers.suppressDuplicateCompletedMessages "codex" "thread",
        IsAnswer first "codex" "thread" "turn" "" ∧ IsAnswer second "codex" "thread" "turn" "" ∧
          first.id ≠ second.id := by
  refine ⟨⟨⟨⟨.assistant, .message, "", "completed", 90⟩, [], 0⟩, 1, ⟨"codex", "thread", "turn", "first"⟩⟩, ?_,
    ⟨⟨⟨.assistant, .message, "", "completed", 90⟩, [], 0⟩, 2, ⟨"codex", "thread", "turn", "second"⟩⟩, ?_,
    ⟨rfl, rfl, rfl, ⟨rfl, rfl⟩, rfl⟩, ⟨rfl, rfl, rfl, ⟨rfl, rfl⟩, rfl⟩, by decide⟩
  · exact List.mem_cons_of_mem _ List.mem_cons_self
  · exact List.mem_cons_self

end Wlcodex.Timeline
