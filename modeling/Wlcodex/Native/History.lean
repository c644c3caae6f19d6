import Wlcodex.Native.Projector

namespace Wlcodex.Native

open Wlcodex.Lib
open Wlcodex.Codex (StoredEvent)
open Wlcodex.Relay (Dict firstTruthy truthy)
open Wlcodex.Relay.StreamState (isText)
open Wlcodex.Runtime (WordClass plainWords)

/-! `project_history`: the turns and items of a thread, brought into the log. -/

def entries? : Json → Option (List Json)
  | .array entries => some entries
  | _ => none

section Python

variable (words : WordClass) (python : Python)

def firstString (payload : Dict) (keys : List String) : String :=
  ((firstTruthy payload keys).map python.text).getD ""

def userMessageText (item : Dict) : String :=
  let texts := fun part : Dict =>
    if isText (part.lookup "type") "text" ∧ truthy (part.getOrNull "text") then
      some (python.text (part.getOrNull "text"))
    else none
  "\n".intercalate ((((item.lookup "content").bind entries?).getD []).filterMap fun part =>
    (members? part).bind texts)

/-- `project_agent_message`. -/
def agentMessageCall (thread turn text itemId : String) : BackendCall where
  kind := .agentMessage
  nativeThreadId := thread
  nativeTurnId := turn
  payload := [("threadId", .string thread), ("turnId", .string turn), ("message", .string text),
    ("item", .object [("id", .string itemId)]), ("itemId", .string itemId)]

def isQuietExit (exitCode : Json) : Bool :=
  match exitCode with
  | .null | .bool _ | .int _ | .float _ => !truthy exitCode
  | _ => false

def commandCalls (thread turn : String) (base item : Dict) : List BackendCall :=
  let output := firstString python item
    ["aggregatedOutput", "output", "outputText", "stdout", "stderr"]
  let failed := python.plainText (item.getOrNull "status") = "failed" ∨
    ¬isQuietExit (item.getOrNull "exitCode")
  (notificationCall? python "item/started" base).toList ++
    (if output = "" then []
      else (notificationCall? python "item/commandExecution/outputDelta"
        (overlaid base [("delta", .string output),
          ("itemId", .string (fieldText python item "id"))])).toList) ++
    (if failed then [⟨.commandFailed, thread, turn, base⟩]
      else (notificationCall? python "item/completed" base).toList)

def textCall (method : String) (base item : Dict) (key : String) (keys : List String) :
    List BackendCall :=
  let text := firstString python item keys
  if text = "" then []
  else (notificationCall? python method (overlaid base [(key, .string text)])).toList

def planCalls (base item : Dict) : List BackendCall :=
  let text := firstString python item ["text", "plan", "summary", "content"]
  let title := firstString python item ["title", "name"]
  let status := firstString python item ["status"]
  if text = "" then []
  else (notificationCall? python "turn/plan/updated" (overlaid base ([("plan", .string text)] ++
    (if title = "" then [] else [("title", .string title)]) ++
    (if status = "" then [] else [("status", .string status)])))).toList

def fileChangeCalls (base item : Dict) : List BackendCall :=
  if firstString python item ["patch", "diff"] = "" then
    textCall python "item/fileChange/outputDelta" base item "delta" ["delta", "output"]
  else textCall python "item/fileChange/patchUpdated" base item "patch" ["patch", "diff"]

/-- `_project_history_item`. -/
def historyItemCalls (thread turn : String) (item : Dict) : List BackendCall :=
  let itemId := python.plainText (item.getOrNull "id")
  let base : Dict := [("threadId", .string thread), ("turnId", .string turn),
    ("item", .object item), ("itemId", .string itemId)]
  match python.plainText (item.getOrNull "type") with
  | "userMessage" =>
      let text := userMessageText python item
      if text = "" then []
      else [⟨.userMessage, thread, turn, overlaid base [("text", .string text)]⟩]
  | "agentMessage" =>
      let text := firstString python item ["text", "content", "message"]
      if text = "" then [] else [agentMessageCall thread turn text itemId]
  | "plan" => planCalls python base item
  | "commandExecution" => commandCalls python thread turn base item
  | "fileChange" => fileChangeCalls python base item
  | "reasoning" =>
      textCall python "item/reasoning/textDelta" base item "delta" ["text", "summary", "content"]
  | _ => []

def historyTurnCalls (thread : Dict) (threadId : String) (turn : Dict) : List BackendCall :=
  let turnId := firstString python turn ["id", "turnId"]
  let items := ((turn.lookup "items").bind entries?).getD []
  let status := ((firstTruthy turn ["status"]).map python.text).getD "completed"
  let ofTurn (members : Dict) : Dict := [("thread", .object thread),
    ("turn", .object (("id", .string turnId) :: members)), ("threadId", .string threadId),
    ("turnId", .string turnId)]
  if turnId = "" then []
  else
    (notificationCall? python "turn/started" (ofTurn [])).toList ++
      (items.filterMap members?).flatMap (historyItemCalls python threadId turnId) ++
      (notificationCall? python "turn/completed"
        (ofTurn [("status", .string status)])).toList

def historyThreadId (detail : Dict) : String :=
  ((nested? detail "thread").map fun thread => firstString python thread ["id", "threadId"]).getD ""

/-- The calls of `project_history`. -/
def historyCalls (detail : Dict) : List BackendCall :=
  match nested? detail "thread" with
  | none => []
  | some thread =>
      let threadId := firstString python thread ["id", "threadId"]
      let turns := (((detail.lookup "turns").bind entries?).or
        ((thread.lookup "turns").bind entries?)).getD []
      if threadId = "" then []
      else (turns.filterMap members?).flatMap (historyTurnCalls python thread threadId)

def Projector.projectHistory (detail : Dict) (projector : Projector) :
    Projector × List StoredEvent :=
  projector.appendEach words python (historyCalls python detail)

variable {words python}

def OfThread (thread : String) (calls : List BackendCall) : Prop :=
  ∀ call ∈ calls, call.nativeThreadId = thread

theorem OfThread.append {thread : String} {first second : List BackendCall}
    (front : OfThread thread first) (back : OfThread thread second) :
    OfThread thread (first ++ second) := by
  intro call member
  rcases List.mem_append.mp member with here | there
  · exact front call here
  · exact back call there

theorem ofThread_flatMap {α : Type*} {thread : String} {entries : List α}
    {calls : α → List BackendCall} (each : ∀ entry, OfThread thread (calls entry)) :
    OfThread thread (entries.flatMap calls) := by
  intro call member
  obtain ⟨entry, _, there⟩ := List.mem_flatMap.mp member
  exact each entry call there

section Thread

variable {thread : String} {payload : Dict}

section

variable (names : Names thread payload)

include names

theorem Names.ofThread (some_ : thread ≠ "") (method : String) :
    OfThread thread (notificationCall? python method payload).toList := by
  intro call member
  rw [Option.mem_toList, notificationCall?] at member
  cases kind : methodKind method with
  | none =>
      rw [kind] at member
      cases member
  | some kind =>
      simp only [kind, names.threadId some_, if_neg some_] at member
      cases member
      rfl

theorem ofThread_textCall (some_ : thread ≠ "")
    (method : String) (item : Dict) {key : String} (apart : "threadId" ≠ key) (keys : List String) :
    OfThread thread (textCall python method payload item key keys) := by
  unfold textCall
  dsimp only
  split_ifs
  · exact List.forall_mem_nil _
  · apply Names.ofThread (names.overlaid _) some_
    simpa using apart

theorem ofThread_planCalls (some_ : thread ≠ "") (item : Dict) :
    OfThread thread (planCalls python payload item) := by
  unfold planCalls
  dsimp only
  split_ifs
  all_goals first
    | exact List.forall_mem_nil _
    | exact Names.ofThread (names.overlaid (by simp)) some_ _

theorem ofThread_commandCalls (some_ : thread ≠ "") (turn : String)
    (item : Dict) : OfThread thread (commandCalls python thread turn payload item) := by
  apply OfThread.append
  · apply OfThread.append
    · exact names.ofThread some_ _
    · split_ifs
      · exact List.forall_mem_nil _
      · exact Names.ofThread (names.overlaid (by simp)) some_ _
  · split_ifs
    · exact List.forall_mem_singleton.mpr rfl
    · exact names.ofThread some_ _

theorem ofThread_fileChangeCalls (some_ : thread ≠ "")
    (item : Dict) : OfThread thread (fileChangeCalls python payload item) := by
  unfold fileChangeCalls
  split_ifs
  · exact ofThread_textCall names some_ _ item (by decide) _
  · exact ofThread_textCall names some_ _ item (by decide) _

end

end Thread

theorem names_base (thread : String) (rest : Dict) :
    Names thread (("threadId", .string thread) :: rest) :=
  List.lookup_cons_self

theorem names_turn (threadId : String) (thread turn : Json) (rest : Dict) :
    Names threadId (("thread", thread) :: ("turn", turn) :: ("threadId", .string threadId) :: rest) :=
  rfl

theorem ofThread_item {thread : String} (some_ : thread ≠ "") (turn : String) (item : Dict) :
    OfThread thread (historyItemCalls python thread turn item) := by
  unfold historyItemCalls
  dsimp only
  split
  · split_ifs
    · exact List.forall_mem_nil _
    · exact List.forall_mem_singleton.mpr rfl
  · split_ifs
    · exact List.forall_mem_nil _
    · exact List.forall_mem_singleton.mpr rfl
  · exact ofThread_planCalls (names_base _ _) some_ item
  · exact ofThread_commandCalls (names_base _ _) some_ turn item
  · exact ofThread_fileChangeCalls (names_base _ _) some_ item
  · exact ofThread_textCall (names_base _ _) some_ _ item (by decide) _
  · exact List.forall_mem_nil _

theorem ofThread_turn {threadId : String} (some_ : threadId ≠ "") (thread turn : Dict) :
    OfThread threadId (historyTurnCalls python thread threadId turn) := by
  unfold historyTurnCalls
  dsimp only
  split_ifs
  · exact List.forall_mem_nil _
  · apply OfThread.append
    · apply OfThread.append
      · exact (names_turn _ _ _ _).ofThread some_ _
      · exact ofThread_flatMap (ofThread_item some_ _)
    · exact (names_turn _ _ _ _).ofThread some_ _

theorem ofThread_history (detail : Dict) :
    OfThread (historyThreadId python detail) (historyCalls python detail) := by
  unfold historyCalls historyThreadId
  cases nested? detail "thread" with
  | none => exact List.forall_mem_nil _
  | some thread =>
      dsimp only
      split_ifs with none_
      · exact List.forall_mem_nil _
      · exact ofThread_flatMap (ofThread_turn none_ thread)

section Twice

variable (words python)

def historyCandidates (detail : Dict) : List Candidate :=
  (historyCalls python detail).flatMap (·.candidates words python)

variable {words python}

theorem projectHistory_eq (detail : Dict) (projector : Projector) :
    projector.projectHistory words python detail =
      projector.store words python (historyThreadId python detail)
        (historyCandidates words python detail) :=
  Projector.appendEach_of_thread (ofThread_history detail) projector

/-- A history that was projected is projected again without a new event: by the same projector
always, by a new one exactly where all its events are read back. -/
theorem history_projected_once_iff (detail : Dict) (projector : Projector) :
    ((projector.projectHistory words python detail).1.projectHistory words python detail).2 = [] ∧
      (((projector.projectHistory words python detail).1.restarted.projectHistory words python
          detail).2 = [] ↔
        ∀ candidate ∈ historyCandidates words python detail,
          ReadBack words python (projector.logs (historyThreadId python detail))
            (projector.newRows words python (historyThreadId python detail)
              (historyCandidates words python detail)) candidate.key) := by
  rw [projectHistory_eq, projectHistory_eq, projectHistory_eq]
  exact ⟨Projector.store_again _ _ projector, Projector.store_restarted_iff _ _ projector⟩

end Twice

def fullLog : List StoredEvent := List.replicate 50000 ⟨.other "note", []⟩

def shortDetail : Dict :=
  [("thread", .object [("id", .string "thread-1")]),
    ("turns", .array [.object [("id", .string "turn-1")]])]

theorem not_readBack_fullLog (newRows : List StoredEvent) (key : SeenKey) :
    ¬ReadBack plainWords samplePython fullLog newRows key := by
  rintro (⟨row, member, read⟩ | ⟨row, member, _⟩)
  · have plain := List.eq_of_mem_replicate (List.mem_of_mem_take member)
    subst plain
    cases read
  · rw [fullLog, List.length_replicate] at member
    cases member

theorem full_log_takes_history_again :
    (((⟨[], [], fun _ => fullLog⟩ : Projector).projectHistory plainWords samplePython
        shortDetail).1.restarted.projectHistory plainWords samplePython shortDetail).2 ≠ [] := by
  intro nothing
  rw [projectHistory_eq, projectHistory_eq, Projector.store_restarted_iff] at nothing
  obtain ⟨call, calls, started⟩ :
      ∃ call calls, historyCalls samplePython shortDetail = call :: calls := ⟨_, _, rfl⟩
  refine not_readBack_fullLog _ _ (nothing (call.rawFrame plainWords) ?_)
  rw [historyCandidates, started]
  exact List.mem_append_left _ List.mem_cons_self

end Python

end Wlcodex.Native
