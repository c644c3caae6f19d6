import Wlcodex.Codex.TranscriptMirror

namespace Wlcodex.Codex

open Wlcodex.Lib
open Wlcodex.Relay (Dict)
open Wlcodex.Timeline (orText)

/-! What a tail window shows of a file. -/

theorem linesFrom_newline (returned : Bool) (rest : Bytes) :
    linesFrom returned (10 :: rest) =
      if returned then linesFrom false rest else [] :: linesFrom false rest := by
  rw [linesFrom, if_pos rfl]

theorem linesFrom_return (returned : Bool) (rest : Bytes) :
    linesFrom returned (13 :: rest) = [] :: linesFrom true rest := by
  rw [linesFrom, if_neg (by decide), if_pos rfl]

theorem linesFrom_other (returned : Bool) {byte : UInt8} (rest : Bytes) (visible : byte ≠ 10)
    (onward : byte ≠ 13) : linesFrom returned (byte :: rest) = consLine byte (linesFrom false rest) := by
  rw [linesFrom, if_neg visible, if_neg onward]

theorem tail_consLine (byte : UInt8) (lines : List Bytes) : (consLine byte lines).tail = lines.tail := by
  cases lines with
  | nil | cons => rfl

variable {lines : List Bytes}

theorem consLine_append (byte : UInt8) (some_ : lines ≠ []) (more : List Bytes) :
    consLine byte (lines ++ more) = consLine byte lines ++ more := by
  cases lines with
  | nil => exact absurd rfl some_
  | cons line lines => rfl

theorem linesFrom_ne_nil {bytes : Bytes} (some_ : bytes ≠ []) : linesFrom false bytes ≠ [] := by
  cases bytes with
  | nil => exact absurd rfl some_
  | cons byte rest =>
      by_cases visible : byte = 10
      · subst visible
        exact List.cons_ne_nil _ _
      by_cases onward : byte = 13
      · subst onward
        exact List.cons_ne_nil _ _
      · rw [linesFrom_other _ _ visible onward]
        cases linesFrom false rest with
        | nil | cons => exact List.cons_ne_nil _ _

theorem linesFrom_append (returned : Bool) (front rest : Bytes) :
    linesFrom returned (front ++ 10 :: rest) =
      linesFrom returned (front ++ [10]) ++ linesFrom false rest := by
  induction front generalizing returned with
  | nil =>
      cases returned <;> rfl
  | cons byte front ih =>
      rw [List.cons_append, List.cons_append]
      by_cases visible : byte = 10
      · subst visible
        rw [linesFrom_newline, linesFrom_newline, ih]
        cases returned <;> rfl
      by_cases onward : byte = 13
      · subst onward
        rw [linesFrom_return, linesFrom_return, ih]
        rfl
      · rw [linesFrom_other _ _ visible onward, linesFrom_other _ _ visible onward, ih,
          consLine_append byte (linesFrom_ne_nil (by simp))]

theorem tail_suffix_linesFrom (returned : Bool) (bytes : Bytes) :
    (linesFrom false bytes).tail <:+ linesFrom returned bytes := by
  cases bytes with
  | nil => exact List.suffix_refl _
  | cons byte rest =>
      by_cases visible : byte = 10
      · subst visible
        cases returned with
        | true => exact List.suffix_refl _
        | false => exact List.tail_suffix _
      · have same : linesFrom returned (byte :: rest) = linesFrom false (byte :: rest) := by
          rw [linesFrom, if_neg visible, linesFrom, if_neg visible]
        rw [same]
        exact List.tail_suffix _

theorem tail_suffix_tail (front back : Bytes) :
    (linesFrom false back).tail <:+ (linesFrom false (front ++ back)).tail := by
  induction front with
  | nil => exact List.suffix_refl _
  | cons byte front ih =>
      rw [List.cons_append]
      by_cases visible : byte = 10
      · subst visible
        exact ih.trans (tail_suffix_linesFrom false _)
      by_cases onward : byte = 13
      · subst onward
        exact ih.trans (tail_suffix_linesFrom true _)
      · rw [linesFrom_other _ _ visible onward, tail_consLine]
        exact ih

theorem readTailLines_suffix (file : Bytes) (limit maxBytes : Nat) :
    readTailLines file limit maxBytes <:+ splitlines file := by
  refine (List.drop_suffix _ _).trans ?_
  have whole : (file.drop (file.length - maxBytes)).take maxBytes =
      file.drop (file.length - maxBytes) := by
    apply List.take_of_length_le
    rw [List.length_drop]
    omega
  rw [whole]
  split_ifs with cut
  · have within := tail_suffix_tail (file.take (file.length - maxBytes))
      (file.drop (file.length - maxBytes))
    rw [List.take_append_drop] at within
    exact within.trans (List.tail_suffix _)
  · have same : splitlines (file.drop (file.length - maxBytes)) = splitlines file := by
      rw [Nat.eq_zero_of_not_pos cut, List.drop_zero]
    exact same ▸ List.suffix_refl _

namespace Builtins

variable (builtins : Builtins)

def carriesTurn (line : Bytes) : Bool :=
  match builtins.readRow line with
  | none => false
  | some row =>
      row.rowType ∈ ["turn_context", "response_item", "event_msg"] && builtins.turnId row.payload ≠ ""

def isNamedResponse (row : Row) : Bool :=
  row.rowType = "response_item" && builtins.responseItemText row.payload ≠ "" &&
    (builtins.payloadType row.payload = "plan" || builtins.isAssistantResponseItem row.payload)

def isTaskComplete (row : Row) : Bool :=
  row.rowType = "event_msg" && builtins.payloadType row.payload = "task_complete" &&
    builtins.text (row.payload.getOrNull "last_agent_message") ≠ ""

def needsTurn (line : Bytes) : Bool :=
  match builtins.readRow line with
  | none => false
  | some row => builtins.turnId row.payload = "" &&
      (builtins.isTaskComplete row ||
        (builtins.isNamedResponse row && builtins.text (row.payload.getOrNull "id") = ""))

def ownItemId (line : Bytes) : Option String :=
  (builtins.readRow line).bind fun row =>
    if builtins.isNamedResponse row then
      (some (builtins.text (row.payload.getOrNull "id"))).filter (· ≠ "")
    else none

variable {builtins} {nativeThreadId : String}

theorem orText_of_ne {first second : String} (some_ : first ≠ "") : orText first second = first :=
  if_neg some_

theorem parseLine_turn {line : Bytes} (carries : builtins.carriesTurn line = true) (first second : String) :
    (builtins.parseLine nativeThreadId first line).1 =
      (builtins.parseLine nativeThreadId second line).1 := by
  unfold carriesTurn at carries
  unfold parseLine
  cases read : builtins.readRow line with
  | none => rw [read] at carries; cases carries
  | some row =>
      rw [read] at carries
      simp only [Bool.and_eq_true, decide_eq_true_eq] at carries
      obtain ⟨listed, turned⟩ := carries
      simp only [List.mem_cons, List.not_mem_nil, or_false] at listed
      simp only [parseRow, orText_of_ne turned]
      rcases listed with context | response | event
      · simp [context]
      · simp [response]
      · simp [event]

theorem namedItem_id (role : ItemRole) (kind : String) {ownId text first second : String}
    (same : text = "" ∨ ownId ≠ "" ∨ first = second) :
    (builtins.namedItem nativeThreadId role kind ownId first text).map TranscriptItem.itemId =
      (builtins.namedItem nativeThreadId role kind ownId second text).map TranscriptItem.itemId := by
  unfold namedItem
  rcases same with empty | named | rfl
  · rw [if_pos empty, if_pos empty]
  · rw [orText_of_ne named, orText_of_ne named]
    split_ifs <;> rfl
  · rfl

theorem responseItem_id {payload : Dict} (first second : String)
    (settled : builtins.responseItemText payload = "" ∨ builtins.text (payload.getOrNull "id") ≠ "" ∨
      (builtins.payloadType payload ≠ "plan" ∧ builtins.isAssistantResponseItem payload = false)) :
    (builtins.responseItem nativeThreadId first payload).map TranscriptItem.itemId =
      (builtins.responseItem nativeThreadId second payload).map TranscriptItem.itemId := by
  simp only [responseItem]
  by_cases plan : builtins.payloadType payload = "plan"
  · rw [if_pos plan, if_pos plan]
    rcases settled with empty | named | ⟨noPlan, -⟩
    · exact namedItem_id .plan "jsonl-plan" (.inl empty)
    · exact namedItem_id .plan "jsonl-plan" (.inr (.inl named))
    · exact absurd plan noPlan
  rw [if_neg plan, if_neg plan]
  by_cases assistant : builtins.isAssistantResponseItem payload = true
  · rw [if_pos assistant, if_pos assistant]
    rcases settled with empty | named | ⟨-, noAssistant⟩
    · exact namedItem_id .assistantFinal "jsonl-assistant-final" (.inl empty)
    · exact namedItem_id .assistantFinal "jsonl-assistant-final" (.inr (.inl named))
    · rw [noAssistant] at assistant
      cases assistant
  · rw [if_neg assistant, if_neg assistant]

theorem userMessage_id (first second timestamp text : String) :
    (builtins.userMessage nativeThreadId first timestamp text).2.map TranscriptItem.itemId =
      (builtins.userMessage nativeThreadId second timestamp text).2.map TranscriptItem.itemId := by
  simp only [userMessage]
  by_cases empty : text = ""
  · rw [if_pos empty, if_pos empty]
  · rw [if_neg empty, if_neg empty]
    rfl

theorem agentMessage_id (first second timestamp text : String) :
    (builtins.agentMessage nativeThreadId first timestamp text).map TranscriptItem.itemId =
      (builtins.agentMessage nativeThreadId second timestamp text).map TranscriptItem.itemId := by
  unfold agentMessage
  by_cases empty : text = ""
  · rw [if_pos empty, if_pos empty]
  · rw [if_neg empty, if_neg empty]
    rfl

theorem eventMessage_id {row : Row} (first second : String)
    (settled : builtins.payloadType row.payload ≠ "task_complete" ∨
      builtins.text (row.payload.getOrNull "last_agent_message") = "") :
    (builtins.eventMessage nativeThreadId first row).2.map TranscriptItem.itemId =
      (builtins.eventMessage nativeThreadId second row).2.map TranscriptItem.itemId := by
  simp only [eventMessage]
  by_cases started : builtins.payloadType row.payload = "task_started" ∨
      builtins.payloadType row.payload = "turn_aborted"
  · rw [if_pos started, if_pos started]
  rw [if_neg started, if_neg started]
  by_cases complete : builtins.payloadType row.payload = "task_complete"
  · rw [if_pos complete, if_pos complete]
    rcases settled with other | empty
    · exact absurd complete other
    · dsimp only
      exact namedItem_id .assistantFinal "jsonl-assistant-final" (.inl empty)
  rw [if_neg complete, if_neg complete]
  by_cases user : builtins.payloadType row.payload = "user_message"
  · rw [if_pos user, if_pos user]
    exact userMessage_id first second _ _
  rw [if_neg user, if_neg user]
  by_cases agent : builtins.payloadType row.payload = "agent_message"
  · rw [if_pos agent, if_pos agent]
    exact agentMessage_id first second _ _
  · rw [if_neg agent, if_neg agent]

theorem parseRow_id {row : Row} (first second : String) (task : builtins.isTaskComplete row = false)
    (response : (builtins.isNamedResponse row &&
      decide (builtins.text (row.payload.getOrNull "id") = "")) = false) :
    (builtins.parseRow nativeThreadId first row).2.map TranscriptItem.itemId =
      (builtins.parseRow nativeThreadId second row).2.map TranscriptItem.itemId := by
  simp only [isTaskComplete, isNamedResponse, Bool.and_eq_false_iff, Bool.or_eq_false_iff,
    decide_eq_false_iff_not, not_not] at task response
  simp only [parseRow]
  by_cases context : row.rowType = "turn_context"
  · rw [if_pos context, if_pos context]
  rw [if_neg context, if_neg context]
  by_cases named : row.rowType = "response_item"
  · rw [if_pos named, if_pos named]
    apply responseItem_id
    rcases response with ((other | empty) | neither) | ownId
    · exact absurd named other
    · exact .inl empty
    · exact .inr (.inr neither)
    · exact .inr (.inl ownId)
  rw [if_neg named, if_neg named]
  by_cases event : row.rowType = "event_msg"
  · rw [if_pos event, if_pos event]
    apply eventMessage_id
    rcases task with (other | other) | empty
    · exact absurd event other
    · exact .inl other
    · exact .inr empty
  · rw [if_neg event, if_neg event]

theorem parseLine_id {line : Bytes} (first second : String) (settled : builtins.needsTurn line = false) :
    (builtins.parseLine nativeThreadId first line).2.map TranscriptItem.itemId =
      (builtins.parseLine nativeThreadId second line).2.map TranscriptItem.itemId := by
  unfold needsTurn at settled
  unfold parseLine
  cases read : builtins.readRow line with
  | none => rfl
  | some row =>
      simp only [read] at settled
      by_cases turned : builtins.turnId row.payload = ""
      · simp only [turned, decide_true, Bool.true_and, Bool.or_eq_false_iff] at settled
        obtain ⟨task, response⟩ := settled
        exact parseRow_id first second task response
      · simp only [parseRow, orText_of_ne turned]
        split_ifs <;> rfl

variable (builtins) (nativeThreadId)

def lineIds (current : String) (lines : List Bytes) : List (Option String) :=
  (builtins.parseLines nativeThreadId current lines).map (Option.map TranscriptItem.itemId)

/-- Every row that needs a turn comes after one that carries a turn; `carried` says whether
there was one before these lines. -/
def anchored : Bool → List Bytes → Bool
  | _, [] => true
  | carried, line :: lines =>
      (carried || !builtins.needsTurn line) && anchored (carried || builtins.carriesTurn line) lines

variable {builtins nativeThreadId}

theorem lineIds_cons (current : String) (line : Bytes) (lines : List Bytes) :
    builtins.lineIds nativeThreadId current (line :: lines) =
      (builtins.parseLine nativeThreadId current line).2.map TranscriptItem.itemId ::
        builtins.lineIds nativeThreadId (builtins.parseLine nativeThreadId current line).1 lines :=
  rfl

theorem lineIds_of_anchored {carried : Bool} {first second : String}
    (held : builtins.anchored carried lines = true) (same : carried = true → first = second) :
    builtins.lineIds nativeThreadId first lines = builtins.lineIds nativeThreadId second lines := by
  induction lines generalizing carried first second with
  | nil => rfl
  | cons line lines ih =>
      rw [anchored, Bool.and_eq_true, Bool.or_eq_true, Bool.not_eq_true'] at held
      obtain ⟨here, later⟩ := held
      rw [lineIds_cons, lineIds_cons]
      congr 1
      · rcases here with already | settled
        · rw [same already]
        · exact parseLine_id first second settled
      · apply ih later
        intro turned
        rcases Bool.or_eq_true_iff.mp turned with already | carries
        · rw [same already]
        · exact parseLine_turn carries first second

theorem lineIds_append (current : String) (front back : List Bytes) :
    ∃ turn, builtins.lineIds nativeThreadId current (front ++ back) =
      builtins.lineIds nativeThreadId current front ++ builtins.lineIds nativeThreadId turn back := by
  induction front generalizing current with
  | nil => exact ⟨current, rfl⟩
  | cons line front ih =>
      obtain ⟨turn, eq⟩ := ih (builtins.parseLine nativeThreadId current line).1
      exact ⟨turn, by rw [List.cons_append, lineIds_cons, eq, lineIds_cons, List.cons_append]⟩

theorem length_lineIds (current : String) (lines : List Bytes) :
    (builtins.lineIds nativeThreadId current lines).length = lines.length := by
  induction lines generalizing current with
  | nil => rfl
  | cons line lines ih => rw [lineIds_cons, List.length_cons, ih, List.length_cons]

end Builtins

/-! ### Ids in a window and in the whole file -/

open Builtins (fallbackTurnId)

variable {builtins : Builtins} {nativeThreadId : String}

def Mirror.rowIds (mirror : Mirror) (builtins : Builtins) (nativeThreadId : String) :
    List (Option String) :=
  builtins.lineIds nativeThreadId (fallbackTurnId nativeThreadId) mirror.rows

theorem lineIds_of_mem_items {first row : Nat} {item : TranscriptItem}
    (member : (row, item) ∈ builtins.parseTranscriptItems nativeThreadId first lines) :
    first ≤ row ∧ (builtins.lineIds nativeThreadId (fallbackTurnId nativeThreadId)
      lines)[row - first]? = some (some item.itemId) := by
  have kept := List.mem_of_mem_filter member
  obtain ⟨⟨parsed, number⟩, placed, made⟩ := List.mem_filterMap.mp kept
  obtain ⟨item', rfl, same⟩ := Option.map_eq_some_iff.mp made
  cases same
  obtain ⟨low, found⟩ := List.mem_zipIdx_iff_le_and_getElem?_sub.mp placed
  refine ⟨low, ?_⟩
  rw [Builtins.lineIds, List.getElem?_map, found]
  rfl

def Mirror.WindowSettled (mirror : Mirror) (builtins : Builtins) (tailLines : Option Int) : Prop :=
  (mirror.window tailLines).length = mirror.rows.length ∨
    builtins.anchored false (mirror.window tailLines) = true

theorem rowIds_of_mem_windowItems {mirror : Mirror} {tailLines : Option Int} {row : Nat}
    {item : TranscriptItem} (settled : mirror.WindowSettled builtins tailLines)
    (member : (row, item) ∈ mirror.windowItems builtins nativeThreadId tailLines) :
    (mirror.rowIds builtins nativeThreadId)[row]? = some (some item.itemId) := by
  obtain ⟨low, found⟩ := lineIds_of_mem_items member
  obtain ⟨front, whole⟩ := readTailLines_suffix mirror.file (mirror.safeTailLines tailLines)
    mirror.maxBytes
  change front ++ mirror.window tailLines = mirror.rows at whole
  obtain ⟨turn, split⟩ := @Builtins.lineIds_append builtins nativeThreadId
    (fallbackTurnId nativeThreadId) front (mirror.window tailLines)
  have start : mirror.rows.length - (mirror.window tailLines).length = front.length := by
    rw [← whole, List.length_append]
    omega
  have same : builtins.lineIds nativeThreadId (fallbackTurnId nativeThreadId)
      (mirror.window tailLines) = builtins.lineIds nativeThreadId turn (mirror.window tailLines) := by
    rcases settled with all | held
    · have nothing : front = [] := by
        exact List.length_eq_zero_iff.mp (by omega)
      rw [nothing] at split
      exact split
    · exact Builtins.lineIds_of_anchored held fun impossible => by cases impossible
  rw [start] at low found
  rw [Mirror.rowIds, ← whole, split, List.getElem?_append_right
    (by rw [Builtins.length_lineIds]; exact low), Builtins.length_lineIds, ← same]
  exact found

end Wlcodex.Codex
