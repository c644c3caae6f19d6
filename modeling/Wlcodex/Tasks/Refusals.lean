import Wlcodex.Tasks.Calls
import Wlcodex.Tasks.PlainCalls

namespace Wlcodex.Tasks

open Wlcodex.Lib Script
open Wlcodex.Relay (Dict)
open Wlcodex.Projector (TaskStatus)
open Wlcodex.State (Builtins)

/-! What a call that raises leaves of the task it is about. -/

def Task.shown (task : Task) : TaskStatus × Option String × Int × String × String :=
  (task.status, task.activeTurnId, task.pendingApprovalCount, task.lastSummary, task.lastError)

structure Untouched (before now : Ledger) (id : Nat) : Prop where
  row : (now.tasks.find? id).map Task.shown = (before.tasks.find? id).map Task.shown
  approvals : (now.approvalRequests.rows.filter fun approval => approval.taskId = id) =
    before.approvalRequests.rows.filter fun approval => approval.taskId = id
  events : (now.taskEvents.filter fun event => event.taskId = id) =
    before.taskEvents.filter fun event => event.taskId = id

theorem Untouched.refl (ledger : Ledger) (id : Nat) : Untouched ledger ledger id := ⟨rfl, rfl, rfl⟩

inductive Concerns (builtins : Builtins) (ledger : Ledger) : Call → Nat → Prop
  | continue_ (id : Nat) (thread : Option String) : Concerns builtins ledger (.continue_ id thread) id
  | pause (id : Nat) : Concerns builtins ledger (.pause id) id
  | abort (id : Nat) : Concerns builtins ledger (.abort id) id
  | archive (id : Nat) : Concerns builtins ledger (.archive id) id
  | fail (id : Nat) (error : String) : Concerns builtins ledger (.fail id error) id
  | event {event : BackendEvent} {task : Task} (found : ledger.taskOf builtins event = some task)
      (type : event.eventType ∈ [.turnStarted, .turnCompleted, .approvalRequested]) :
      Concerns builtins ledger (.event event) task.id

section Writes

variable (builtins : Builtins) (ledger : Ledger) (payload : Dict) (task : Task)

def storedRequest : Option Approval :=
  ledger.getApprovalByCodexId (newApproval builtins payload task).codexRequestId task.id

def knownRequest : Bool :=
  (storedRequest builtins ledger payload task).all fun approval =>
    (ApprovalKind.ofText? approval.kind).isSome

def namesTurn : Bool :=
  (newApproval builtins payload task).codexTurnId.isSome && task.activeTurnId.isNone

/-- Before the event checks the status of `task`, it has written to it. -/
def eventWrites (event : BackendEvent) : Prop :=
  match event.eventType with
  | .turnStarted => task.activeTurnId ≠ some (builtins.textField event.payload "turnId" "")
  | .turnCompleted => task.status = .queued ∨ task.activeTurnId ≠ none
  | .approvalRequested => knownRequest builtins ledger event.payload task = true ∧
      (storedRequest builtins ledger event.payload task = none ∨
        namesTurn builtins event.payload task = true)
  | _ => False

def WritesFirst : Call → Prop
  | .event event => ∀ task, ledger.taskOf builtins event = some task → eventWrites builtins ledger task event
  | _ => False

end Writes

variable {builtins : Builtins} {ledger : Ledger} {task : Task} {id : Nat} {status : TaskStatus}

abbrev Refuses (program : Program Unit) (ledger : Ledger) (left : Ledger → Prop) : Prop :=
  program.Holds Ledger.commit (fun _ _ => True) left ledger fun _ _ => True

theorem refuses_transition {next : Unit → Program Unit} (calm : (next ()).Calm) :
    Refuses (transition id status >>= next) ledger (· = ledger) := by
  have checks : Refuses (transition id status) ledger (· = ledger) :=
    holds_silent only_getTask fun _ => holds_silent only_require fun _ => holds_perform trivial trivial
  exact holds_bind checks fun _ now _ => holds_of_calm calm now

section Calls

theorem refuses_pause : Refuses (pauseTask id) ledger (· = ledger) :=
  holds_silent only_getTask fun _ => holds_silent only_require fun _ =>
    refuses_transition (calm_perform _)

theorem refuses_archive : Refuses (archiveTask id) ledger (· = ledger) :=
  holds_silent only_getTask fun _ => holds_silent only_require fun _ =>
    refuses_transition (calm_perform _)

theorem refuses_fail {error : String} : Refuses (failTask id error) ledger (· = ledger) :=
  holds_silent only_getTask fun _ => holds_silent only_require fun _ =>
    refuses_transition (calm_bind (calm_perform _) fun _ => calm_perform _)

theorem refuses_continue {workspaces : List WorkspaceConfig} {thread : Option String} :
    Refuses (continueTask workspaces id thread) ledger (· = ledger) :=
  holds_silent only_getTask fun _ => holds_silent only_require fun _ =>
    holds_silent only_require fun _ => holds_silent only_ensureWritable fun _ =>
      holds_silent only_ensureAvailable fun _ =>
        refuses_transition (calm_bind (calm_perform _) fun _ => calm_perform _)

/-- `abort_task` clears the turn before the transition, which the table then always allows. -/
theorem refuses_abort : Refuses (abortTask id) ledger (· = ledger) := by
  cases found : ledger.tasks.find? id with
  | none =>
      have absent : (getTask id).Holds Ledger.commit (fun _ _ => True) (· = ledger) ledger
          fun _ _ => False := by
        change (taskOfRow (ledger.tasks.find? id)).Holds Ledger.commit _ _ ledger _
        rw [found]
        rfl
      exact holds_bind absent fun _ _ impossible => impossible.elim
  | some task =>
      refine holds_getTask found ?_
      by_cases met : task.status ∈ [.running, .waitingApproval, .queued, .paused, .waitingSlot]
      · refine holds_require (decide_eq_true met) (holds_call trivial ?_)
        have held : (ledger.commit (.clearActiveTurn id)).statusOf id = some task.status := by
          rw [statusOf_quiet rfl, Ledger.statusOf, found]
          rfl
        have listed : TaskStatus.aborted ∈ validTransitions task.status := by
          revert met
          cases task.status <;> decide
        exact holds_bind (transition_sets held listed) fun _ now _ => holds_of_calm (calm_perform _) now
      · exact holds_refused (decide_eq_false met) rfl

end Calls

section Events

variable {now : Ledger} {event : BackendEvent} {payload : Dict}

section Row

variable (found : ledger.tasks.find? id = some task)

include found

theorem find?_updateTask (patch : Patch Task.id) :
    (ledger.updateTask id patch).tasks.find? id =
      some { patch.apply task with updatedAt := ledger.now } := by
  have mine : task.id = id := (Keyed.find?_eq_some_iff.mp found).2
  unfold Ledger.updateTask
  rw [Keyed.find?_update, found, Option.map_some, if_pos (decide_eq_true mine)]

variable {row : Task} (after : now.tasks.find? id = some row)

include after

theorem Untouched.shown (untouched : Untouched ledger now id) : row.shown = task.shown := by
  have same := untouched.row
  rw [after, found] at same
  exact Option.some.inj same

theorem untouched_iff_shown (approvals : now.approvalRequests = ledger.approvalRequests)
    (events : now.taskEvents = ledger.taskEvents) :
    Untouched ledger now id ↔ row.shown = task.shown := by
  refine ⟨fun untouched => untouched.shown found after, fun same => ⟨?_, ?_, ?_⟩⟩
  · rw [after, found, Option.map_some, Option.map_some, same]
  · rw [approvals]
  · rw [events]

end Row

theorem refuses_finishTurn : Refuses (finishTurn task) ledger (· = ledger) := by
  unfold finishTurn
  split
  · exact holds_pure trivial
  · refine holds_silent only_pendingApprovals fun pending => ?_
    split
    · split
      · exact holds_of_calm (calm_bind (calm_perform _) fun _ => calm_perform _) ledger
      · exact refuses_transition (calm_perform _)
    · refine holds_get ?_
      split
      · exact holds_of_calm (calm_bind (calm_perform _) fun _ => calm_perform _) ledger
      · refine refuses_transition ?_
        split
        · exact calm_bind (calm_perform _) fun _ => calm_perform _
        · exact calm_perform _

variable (found : ledger.tasks.find? task.id = some task)

include found

def marked (ledger : Ledger) (task : Task) : Ledger :=
  if task.status = .queued then ledger.commit (.setTaskStatus task.id .running "" "" "") else ledger

theorem markRunning_marks {left : Ledger → Prop} :
    (markRunning task).Holds Ledger.commit (fun _ _ => True) left ledger
      fun _ now => now = marked ledger task := by
  unfold markRunning marked
  split
  next queued =>
    refine transition_sets (statusOf_of_mem (Keyed.find?_eq_some_iff.mp found).1) ?_
    rw [queued]
    decide
  · rfl

theorem untouched_cleared :
    Untouched ledger ((marked ledger task).commit (.clearActiveTurn task.id)) task.id ↔
      ¬ (task.status = .queued ∨ task.activeTurnId ≠ none) := by
  unfold marked
  split
  next queued =>
    have after := find?_updateTask (find?_updateTask found
      ⟨fun task => { task with
        status := .running, lastPhase := "", lastSummary := "", lastError := "" }, fun _ => rfl⟩)
      ⟨fun task => { task with activeTurnId := none }, fun _ => rfl⟩
    refine (untouched_iff_shown found after rfl rfl).trans ?_
    simp [Task.shown, queued]
  next other =>
    refine (untouched_iff_shown found (find?_updateTask found _) rfl rfl).trans ?_
    simp [Task.shown, other, eq_comm]

theorem refuses_completeTurn :
    Refuses (completeTurn builtins payload task) ledger
      (· = (marked ledger task).commit (.clearActiveTurn task.id)) := by
  refine holds_bind (markRunning_marks found) fun _ now same => ?_
  rw [same]
  refine holds_call trivial ?_
  cases turnOutcome builtins payload with
  | failed =>
      exact holds_of_calm (calm_bind (calm_perform _) fun _ =>
        calm_bind (calm_perform _) fun _ => calm_perform _) _
  | interrupted =>
      dsimp only
      split
      · exact holds_of_calm (calm_bind (calm_perform _) fun _ => calm_perform _) _
      · exact holds_pure trivial
  | inProgress => exact holds_perform trivial trivial
  | completed => exact refuses_finishTurn

omit found in
theorem refuses_onlyIf {holds : Bool} {write : Write} {next : Unit → Program Unit} {left : Ledger → Prop}
    (rest : Refuses (next ()) (if holds then ledger.commit write else ledger) left) :
    Refuses (onlyIf holds (perform write) >>= next) ledger left := by
  cases holds with
  | true => exact holds_call trivial rest
  | false => exact rest

def turned (builtins : Builtins) (ledger : Ledger) (payload : Dict) (task : Task) : Ledger :=
  if namesTurn builtins payload task then
    ledger.commit (.setActiveTurn task.id ((newApproval builtins payload task).codexTurnId.getD ""))
  else ledger

def requested (builtins : Builtins) (ledger : Ledger) (payload : Dict) (task : Task) : Ledger :=
  let stored := (turned builtins ledger payload task).commit
    (.createApproval (newApproval builtins payload task))
  if (storedRequest builtins ledger payload task).isNone then
    stored.commit (.incrementPendingApprovals task.id)
  else stored

omit found in
theorem refuses_requestApproval :
    Refuses (requestApproval builtins payload task) ledger fun now =>
      now = if knownRequest builtins ledger payload task then requested builtins ledger payload task
        else ledger := by
  have finds : (findApproval (newApproval builtins payload task).codexRequestId task.id).Holds
      Ledger.commit (fun _ _ => True)
      (fun now => now = if knownRequest builtins ledger payload task then
        requested builtins ledger payload task else ledger) ledger
      fun row now => now = ledger ∧ row = storedRequest builtins ledger payload task ∧
        knownRequest builtins ledger payload task = true := by
    cases known : knownRequest builtins ledger payload task with
    | true => exact holds_require known (holds_pure ⟨rfl, rfl, rfl⟩)
    | false => exact holds_refused known rfl
  refine holds_bind finds fun row now found => ?_
  obtain ⟨rfl, rfl, known⟩ := found
  refine refuses_onlyIf (holds_call trivial (refuses_onlyIf ?_))
  unfold waitForApproval
  split
  · exact holds_of_calm (calm_bind (calm_perform _) fun _ => calm_perform _) _
  · exact refuses_transition (calm_perform _)

theorem find?_requested :
    ∃ row, (requested builtins ledger payload task).tasks.find? task.id = some row ∧
      (storedRequest builtins ledger payload task = none →
        row.pendingApprovalCount = task.pendingApprovalCount + 1) ∧
      (namesTurn builtins payload task = true → row.activeTurnId ≠ task.activeTurnId) := by
  have first : ∃ row, (turned builtins ledger payload task).tasks.find? task.id = some row ∧
      row.pendingApprovalCount = task.pendingApprovalCount ∧
      (namesTurn builtins payload task = true → row.activeTurnId ≠ task.activeTurnId) := by
    unfold turned
    split
    next names =>
      refine ⟨_, find?_updateTask found _, rfl, fun _ same => ?_⟩
      rw [namesTurn, ← same, Bool.and_eq_true] at names
      exact Bool.noConfusion names.2
    next unnamed => exact ⟨task, found, rfl, fun names => absurd names unnamed⟩
  obtain ⟨row, after, counted, turns⟩ := first
  have stored : ((turned builtins ledger payload task).commit
      (.createApproval (newApproval builtins payload task))).tasks.find? task.id = some row := by
    rw [← after]
    exact congrArg (Keyed.find? · task.id) (tasks_createApproval _ _)
  unfold requested
  cases request : storedRequest builtins ledger payload task with
  | none => exact ⟨_, find?_updateTask stored _, fun _ => congrArg (· + 1) counted, turns⟩
  | some approval => exact ⟨row, stored, by simp, turns⟩

theorem untouched_requested :
    Untouched ledger (requested builtins ledger payload task) task.id ↔
      ¬ (storedRequest builtins ledger payload task = none ∨ namesTurn builtins payload task = true) := by
  constructor
  · obtain ⟨row, after, counted, turns⟩ := find?_requested found
    rintro untouched (missing | names)
    · have same := untouched.shown found after
      simp [Task.shown, counted missing] at same
    · exact turns names (congrArg (fun shown => shown.2.1) (untouched.shown found after))
  · intro neither
    obtain ⟨request, unnamed⟩ := not_or.mp neither
    have same : requested builtins ledger payload task = ledger := by
      unfold requested turned
      rw [if_neg unnamed, if_neg (by simpa using request)]
      exact if_pos (Option.isSome_iff_ne_none.mpr request)
    rw [same]
    exact .refl ledger task.id

omit found in
theorem Refuses.untouched {program : Program Unit} {left : Ledger} {writes : Prop}
    (refuses : Refuses program ledger (· = left)) (untouched : Untouched ledger left id ↔ ¬ writes) :
    Refuses program ledger fun now => Untouched ledger now id ↔ ¬ writes := by
  refine holds_mono (fun _ _ _ => trivial) (fun now same => ?_) (fun _ _ _ => trivial) refuses
  rw [same]
  exact untouched

theorem refuses_taskEvent (type : event.eventType ∈ [.turnStarted, .turnCompleted, .approvalRequested]) :
    Refuses (taskEvent builtins event task) ledger fun now =>
      Untouched ledger now task.id ↔ ¬ eventWrites builtins ledger task event := by
  unfold taskEvent eventWrites
  simp only [List.mem_cons, List.not_mem_nil, or_false] at type
  rcases type with started | completed | asked
  · rw [started]
    refine .untouched (holds_call trivial (refuses_transition (calm_perform _))) ?_
    refine (untouched_iff_shown found (find?_updateTask found _) rfl rfl).trans ?_
    simp [Task.shown, eq_comm]
  · rw [completed]
    exact (refuses_completeTurn found).untouched (untouched_cleared found)
  · rw [asked]
    refine refuses_requestApproval.untouched ?_
    cases known : knownRequest builtins ledger event.payload task with
    | true => simpa [known] using untouched_requested found
    | false => simpa [known] using Untouched.refl ledger task.id

end Events

/-- Where a call of a user, or an event that tells of a turn or of an approval, raises, the task is
as it was exactly when the event had nothing to write before it checks the status. -/
theorem refused_call_untouched_iff {service : Service} {call : Call}
    (concerns : Concerns service.builtins ledger call id)
    (refused : (service.program call).value? Ledger.commit ledger = none) :
    Untouched ledger (service.apply ledger call) id ↔ ¬ WritesFirst service.builtins ledger call := by
  have user {program : Program Unit} (refuses : Refuses program ledger (· = ledger))
      (raises : program.value? Ledger.commit ledger = none) :
      Untouched ledger (program.final Ledger.commit ledger) id ↔ ¬ False := by
    rw [(ends_of_holds refuses).2 raises]
    exact iff_of_true (.refl ledger id) not_false
  cases concerns with
  | continue_ id thread => exact user refuses_continue refused
  | pause id => exact user refuses_pause refused
  | abort id => exact user refuses_abort refused
  | archive id => exact user refuses_archive refused
  | fail id error => exact user refuses_fail refused
  | @event event task found type =>
      have stored := Keyed.find?_eq_some_iff.mpr ⟨mem_of_taskOf found, rfl⟩
      have refuses : Refuses (service.program (.event event)) ledger fun now =>
          Untouched ledger now task.id ↔ ¬ eventWrites service.builtins ledger task event := by
        refine holds_get ?_
        rw [found]
        exact refuses_taskEvent stored type
      refine ((ends_of_holds refuses).2 refused).trans (not_congr ⟨?_, fun writes => writes task found⟩)
      intro writes other same
      rw [found] at same
      cases same
      exact writes

def doneTask : Ledger := ({} : Ledger).commit (.createTask "demo" (some "thread-1") .done)

def tardyTurn : Call :=
  .event ⟨.turnStarted, [("threadId", .string "thread-1"), ("turnId", .string "turn-2")]⟩

/-- A turn that starts late is refused by a task that is done, and leaves its turn with it. -/
theorem late_turn_leaves_turn :
    (sampleService.program tardyTurn).value? Ledger.commit doneTask = none ∧
      ¬ Untouched doneTask (sampleService.apply doneTask tardyTurn) 1 :=
  ⟨by decide, fun untouched => absurd untouched.row (by decide)⟩

theorem refused_pause_untouched : Untouched doneTask (sampleService.apply doneTask (.pause 1)) 1 :=
  (@refused_call_untouched_iff doneTask 1 sampleService (.pause 1) (.pause 1) (by decide)).mpr not_false

end Wlcodex.Tasks
