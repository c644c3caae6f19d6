import Wlcodex.Lib.Trim
import Wlcodex.Tasks.Service

namespace Wlcodex.Bridge

open Wlcodex.Lib
open Wlcodex.Relay (str firstTruthy isSpace strip)
open Wlcodex.Projector (TaskStatus)
open Wlcodex.State (Builtins)
open Wlcodex.Tasks (Ledger Task TaskEvent)

/-! `EventBridge`: the agent runs of a task end with it. -/

structure AgentRun where
  id : Nat
  hiddenTaskId : Option Nat
  role : String := ""
  status : String
  completionSummary : String := ""
  deriving DecidableEq

structure Desk where
  ledger : Ledger
  agentRuns : Keyed AgentRun.id

section Python

variable (builtins : Builtins)

def deltaText (event : TaskEvent) : String :=
  ((firstTruthy event.payload ["delta"]).map (str builtins.repr)).getD ""

def messageText (events : List TaskEvent) : List Char :=
  (events.filter fun event => event.eventType = "agent_message_delta").flatMap fun event =>
    (deltaText builtins event).toList

def taskAgentMessageSummary (ledger : Ledger) (task : Task) : String :=
  let assembled := strip (String.ofList (messageText builtins (ledger.listEvents task.id 1000)))
  if assembled ≠ "" then assembled else strip task.lastSummary

def agentStatus? : TaskStatus → Option String
  | .done => some "done"
  | .failed => some "failed"
  | .aborted => some "aborted"
  | _ => none

def isFinished (status : String) : Bool := status ∈ ["done", "failed", "aborted"]

def Desk.syncDirectAgentRunStatus (desk : Desk) (task : Task) : Desk :=
  if desk.ledger.taskHasRunningOrchestration task.id then desk
  else
    match agentStatus? task.status with
    | none => desk
    | some status =>
        let completionSummary :=
          if status = "failed" ∨ status = "aborted" then task.lastError
          else taskAgentMessageSummary builtins desk.ledger task
        { desk with
          agentRuns := desk.agentRuns.update
            (fun run => run.hiddenTaskId = some task.id ∧ isFinished run.status = false)
            ⟨fun run => { run with status, completionSummary }, fun _ => rfl⟩ }

variable (desk : Desk) (task : Task)

def taskEvents : List TaskEvent := desk.ledger.taskEvents.filter fun event => event.taskId = task.id

def wholeAnswer : String := strip (String.ofList (messageText builtins (taskEvents desk task)))

def AnswerInWindow : Prop :=
  let early := messageText builtins ((taskEvents desk task).take 1000)
  let late := messageText builtins ((taskEvents desk task).drop 1000)
  (early.all isSpace = false ∧ late.all isSpace = true) ∨
    (early.all isSpace = true ∧ strip task.lastSummary = strip (String.ofList late))

structure Finishing (run : AgentRun) : Prop where
  member : run ∈ desk.agentRuns
  hidden : run.hiddenTaskId = some task.id
  unfinished : isFinished run.status = false
  done : task.status = .done
  direct : desk.ledger.taskHasRunningOrchestration task.id = false

variable {builtins desk task}

theorem strip_eq_trim (text : List Char) : strip (String.ofList text) = String.ofList (trim isSpace text) := by
  unfold strip trim
  rw [String.toList_ofList]

theorem strip_eq_strip_iff {first second : List Char} :
    strip (String.ofList first) = strip (String.ofList second) ↔
      trim isSpace first = trim isSpace second := by
  rw [strip_eq_trim, strip_eq_trim, String.ofList_inj]

theorem messageText_append (first second : List TaskEvent) :
    messageText builtins (first ++ second) = messageText builtins first ++ messageText builtins second := by
  unfold messageText
  rw [List.filter_append, List.flatMap_append]

theorem messageText_split (limit : Nat) (events : List TaskEvent) :
    messageText builtins events =
      messageText builtins (events.take limit) ++ messageText builtins (events.drop limit) := by
  rw [← messageText_append, List.take_append_drop]

theorem summary_eq_whole_iff :
    taskAgentMessageSummary builtins desk.ledger task = wholeAnswer builtins desk task ↔
      AnswerInWindow builtins desk task := by
  have window : desk.ledger.listEvents task.id 1000 = (taskEvents desk task).take 1000 := rfl
  unfold taskAgentMessageSummary wholeAnswer AnswerInWindow
  rw [window, messageText_split 1000 (taskEvents desk task)]
  generalize messageText builtins ((taskEvents desk task).take 1000) = early
  generalize messageText builtins ((taskEvents desk task).drop 1000) = late
  dsimp only
  cases empty : early.all isSpace with
  | true =>
      have none_ : strip (String.ofList early) = "" := by
        rw [strip_eq_trim, trim_of_all empty]
      have later : strip (String.ofList (early ++ late)) = strip (String.ofList late) := by
        rw [strip_eq_strip_iff, trim_append_of_all empty]
      rw [none_, if_neg (by simp), later]
      simp
  | false =>
      have some_ : strip (String.ofList early) ≠ "" := by
        rw [strip_eq_trim]
        intro none_
        have gone : trim isSpace early = [] := String.ofList_inj.mp none_
        rw [trim_eq_nil_iff, empty] at gone
        cases gone
      rw [if_pos some_, eq_comm, strip_eq_strip_iff, trim_append_eq_iff empty]
      simp

theorem sync_done (done : task.status = .done)
    (direct : desk.ledger.taskHasRunningOrchestration task.id = false) :
    (desk.syncDirectAgentRunStatus builtins task).agentRuns =
      desk.agentRuns.update (fun run => run.hiddenTaskId = some task.id ∧ isFinished run.status = false)
        ⟨fun run => { run with
          status := "done"
          completionSummary := taskAgentMessageSummary builtins desk.ledger task }, fun _ => rfl⟩ := by
  have other : ¬("done" = "failed" ∨ "done" = "aborted") := by decide
  unfold Desk.syncDirectAgentRunStatus
  rw [direct, done, if_neg (by decide)]
  dsimp only [agentStatus?]
  rw [if_neg other]

theorem completionSummary_sync {run : AgentRun} (finishing : Finishing desk task run) :
    ((desk.syncDirectAgentRunStatus builtins task).agentRuns.find? run.id).map
        AgentRun.completionSummary = some (taskAgentMessageSummary builtins desk.ledger task) := by
  rw [sync_done finishing.done finishing.direct, Keyed.find?_update,
    Keyed.find?_eq_some_iff.mpr ⟨finishing.member, rfl⟩, Option.map_some, Option.map_some,
    if_pos (decide_eq_true ⟨finishing.hidden, finishing.unfinished⟩)]

/-- The summary of a finished run is its whole answer exactly when the window has it. -/
theorem summary_whole_iff (builtins : Builtins) (desk : Desk) (task : Task) (run : AgentRun)
    (finishing : Finishing desk task run) :
    ((desk.syncDirectAgentRunStatus builtins task).agentRuns.find? run.id).map
        AgentRun.completionSummary = some (wholeAnswer builtins desk task) ↔
      AnswerInWindow builtins desk task := by
  rw [completionSummary_sync finishing, Option.some_inj, summary_eq_whole_iff]

end Python

def delta (text : String) : TaskEvent := ⟨1, "agent_message_delta", [("delta", .string text)]⟩

def output : TaskEvent := ⟨1, "command_output", [("delta", .string "ok")]⟩

def openRun : AgentRun := { id := 7, hiddenTaskId := some 1, role := "auto_verification", status := "running" }

def deskOf (events : List TaskEvent) : Desk where
  ledger := { taskEvents := events }
  agentRuns := ⟨[openRun], List.pairwise_singleton _ _⟩

def doneTask : Task := { id := 1, workspaceAlias := "demo", status := .done, lastSummary := "so far" }

theorem finishing_openRun (events : List TaskEvent) : Finishing (deskOf events) doneTask openRun :=
  ⟨List.mem_singleton.mpr rfl, rfl, by decide, rfl, rfl⟩

theorem short_answer_whole :
    (((deskOf [delta "All good."]).syncDirectAgentRunStatus State.sampleBuiltins doneTask).agentRuns.find?
        openRun.id).map AgentRun.completionSummary =
          some (wholeAnswer State.sampleBuiltins (deskOf [delta "All good."]) doneTask) ↔
      AnswerInWindow State.sampleBuiltins (deskOf [delta "All good."]) doneTask :=
  summary_whole_iff State.sampleBuiltins _ doneTask openRun (finishing_openRun _)

def longTurn : List TaskEvent :=
  delta "All good." :: List.replicate 999 output ++ [delta " Verdict: fail"]

theorem late_verdict_lost :
    let desk := deskOf longTurn
    ((desk.syncDirectAgentRunStatus State.sampleBuiltins doneTask).agentRuns.find? openRun.id).map
        AgentRun.completionSummary = some "All good." ∧
      wholeAnswer State.sampleBuiltins desk doneTask = "All good. Verdict: fail" := by
  have mine : taskEvents (deskOf longTurn) doneTask = longTurn := by
    refine List.filter_eq_self.mpr fun event member => ?_
    rcases List.mem_append.mp member with early | late
    · rcases List.mem_cons.mp early with first | quiet
      · rw [first]
        rfl
      · rw [List.eq_of_mem_replicate quiet]
        rfl
    · rw [List.mem_singleton.mp late]
      rfl
  have quiet (count : Nat) : messageText State.sampleBuiltins (List.replicate count output) = [] := by
    unfold messageText
    rw [List.filter_replicate, if_neg (by decide)]
    rfl
  have early : messageText State.sampleBuiltins (longTurn.take 1000) = "All good.".toList := by
    have window : longTurn.take 1000 = [delta "All good."] ++ List.replicate 999 output :=
      List.take_left' (by rw [List.length_cons, List.length_replicate])
    rw [window, messageText_append, quiet]
    rfl
  have whole : messageText State.sampleBuiltins longTurn = "All good. Verdict: fail".toList := by
    change messageText _ ([delta "All good."] ++ List.replicate 999 output ++ [delta " Verdict: fail"]) = _
    rw [messageText_append, messageText_append, quiet]
    rfl
  refine ⟨?_, ?_⟩
  · rw [completionSummary_sync (finishing_openRun longTurn)]
    have window : (deskOf longTurn).ledger.listEvents doneTask.id 1000 = longTurn.take 1000 :=
      congrArg (List.take 1000) mine
    unfold taskAgentMessageSummary
    rw [window, early]
    decide
  · unfold wholeAnswer
    rw [mine, whole]
    decide

end Wlcodex.Bridge
