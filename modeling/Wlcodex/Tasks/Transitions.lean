import Wlcodex.Tasks.Calls

namespace Wlcodex.Tasks

open Wlcodex.Lib Script
open Wlcodex.Projector (TaskStatus)
open Wlcodex.State (Builtins)

/-! Status changes along `_VALID_TRANSITIONS`. -/

variable {builtins : Builtins}

def notesActivity (event : BackendEvent) : Bool :=
  event.eventType ∈ [.diffUpdated, .fileChangeDelta, .tokenUsageUpdated, .commandOutputDelta,
    .agentMessageDelta, .itemStarted, .itemCompleted]

section Activity

variable {ledger : Ledger} {event : BackendEvent} {task : Task}

def Runs (id : Nat) (program : Program Unit) (ledger : Ledger) : Prop :=
  program.Holds Ledger.commit (fun _ _ => True) (fun now => now.statusOf id = some .running) ledger
    fun _ now => now.statusOf id = some .running

theorem runs_quiet {id : Nat} {write : Write} (held : ledger.statusOf id = some .running)
    (quiet : write.isQuiet = true) : Runs id (perform write) ledger :=
  holds_perform trivial (by rw [statusOf_quiet quiet]; exact held)

theorem runs_markRunning (member : task ∈ ledger.tasks) (queued : task.status = .queued) :
    (markRunning task).Holds Ledger.commit (fun _ _ => True)
      (fun now => now.statusOf task.id = some .running) ledger
      fun _ now => Finds ledger task.id .running now := by
  unfold markRunning transition
  rw [if_pos queued]
  refine holds_getTask (Keyed.find?_eq_some_iff.mpr ⟨member, rfl⟩) (holds_require ?_ ?_)
  · rw [queued]
    rfl
  · refine holds_perform trivial ⟨?_, frame_commit rfl⟩
    rw [statusOf_set, if_pos rfl, statusOf_of_mem member]
    rfl

theorem runs_taskEvent (member : task ∈ ledger.tasks) (queued : task.status = .queued)
    (noted : notesActivity event = true) (keeps : storesFound builtins ledger event task = false) :
    Runs task.id (taskEvent builtins event task) ledger := by
  have marked := runs_markRunning member queued
  have note {eventType : String} {now : Ledger} (held : now.statusOf task.id = some .running) :
      Runs task.id (addEvent task.id eventType) now := runs_quiet held rfl
  unfold taskEvent
  cases type : event.eventType with
  | diffUpdated =>
      refine holds_bind marked fun _ _ finds => ?_
      refine holds_bind (runs_quiet finds.status rfl) fun _ _ held => ?_
      split
      · exact note held
      · exact holds_pure held
  | fileChangeDelta =>
      exact holds_mono (fun _ _ _ => trivial) (fun _ held => held) (fun _ _ finds => finds.status) marked
  | tokenUsageUpdated =>
      refine holds_bind marked fun _ _ finds => ?_
      unfold storeTokenUsage
      dsimp only
      split
      · exact finds.status
      · exact holds_pure finds.status
      · exact finds.status
      · exact holds_pure finds.status
      · split
        · exact runs_quiet finds.status rfl
        · exact finds.status
  | commandOutputDelta =>
      refine holds_bind marked fun _ _ finds => ?_
      split
      · exact note finds.status
      · exact holds_pure finds.status
  | agentMessageDelta =>
      unfold storesFound at keeps
      rw [type] at keeps
      refine holds_bind marked fun _ now finds => ?_
      dsimp only
      split
      next delta =>
        have managed : now.taskHasRunningOrchestration task.id = true := by
          rw [finds.frame.managed]
          simpa [delta] using keeps
        refine holds_get ?_
        rw [managed]
        exact runs_quiet finds.status rfl
      · exact holds_pure finds.status
  | itemStarted | itemCompleted => exact holds_bind marked fun _ _ finds => note finds.status
  | turnStarted | turnCompleted | approvalRequested | planUpdated | threadStatusChanged | other name =>
      unfold notesActivity at noted
      rw [type] at noted
      simp at noted

end Activity

def Allowed (builtins : Builtins) (call : Call) (before after : TaskStatus) : Prop :=
  after = before ∨ after ∈ validTransitions before ∨ ∃ event, call = .event event ∧
    (reportsFailure builtins event = true ∧ after = .failed ∨
      reportsInterrupt builtins event = true ∧ before ≠ .aborted ∧ before ≠ .archived ∧ after = .aborted)

def promisedRule (builtins : Builtins) (call : Call) : StatusRule where
  allowed _ := Allowed builtins call
  created _ _ _ := True
  refl _ _ := .inl rfl

def LeftOpen (builtins : Builtins) (ledger : Ledger) (call : Call) : Prop :=
  ∃ event task, call = .event event ∧ ledger.taskOf builtins event = some task ∧
    (storesFound builtins ledger event task = true ∧ task.status = .queued ∨
      keepsRunning builtins ledger event task = true ∧ task.status ∈ [.done, .paused, .waitingSlot])

structure Promised (service : Service) (ledger : Ledger) (call : Call) : Prop where
  changes : ¬LeftOpen service.builtins ledger call →
    Along Ledger.commit (StatusChange (promisedRule service.builtins call)) ledger
      ((service.program call).calls Ledger.commit ledger)
  activity : ∀ event task, call = .event event → ledger.taskOf service.builtins event = some task →
    task.status = .queued → notesActivity event = true →
    storesFound service.builtins ledger event task = false →
    (service.apply ledger call).statusOf task.id = some .running

theorem permits_of_closed {ledger : Ledger} {event : BackendEvent} {task : Task}
    (closed : ¬LeftOpen builtins ledger (.event event)) (found : ledger.taskOf builtins event = some task) :
    Permits (promisedRule builtins (.event event)) builtins ledger event task where
  table _ _ listed _ := .inr (.inl listed)
  failed reports _ := .inr (.inr ⟨event, rfl, .inl ⟨reports, rfl⟩⟩)
  interrupted reports _ apart other := .inr (.inr ⟨event, rfl, .inr ⟨reports, apart, other, rfl⟩⟩)
  found stores queued := absurd ⟨event, task, rfl, found, .inl ⟨stores, queued⟩⟩ closed
  running keeps going := by
    have working : task.status ∉ [.done, .paused, .waitingSlot] :=
      fun idle => closed ⟨event, task, rfl, found, .inr ⟨keeps, idle⟩⟩
    cases status : task.status with
    | queued | waitingApproval => exact .inr (.inl (by decide))
    | running => exact .inl rfl
    | paused | waitingSlot | done => exact absurd (by rw [status]; decide) working
    | failed | aborted | archived => exact absurd (by rw [status]; decide) going

theorem promised_call (service : Service) (ledger : Ledger) (call : Call) :
    Promised service ledger call where
  changes closed := along_of_holds (sound_program {
    table := fun _ _ _ listed _ => .inr (.inl listed)
    waiting := fun _ _ _ _ _ => trivial
    asked := fun _ _ _ => ⟨trivial, fun _ listed => .inr (.inl listed)⟩
    promoted := fun _ _ _ => .inr (.inl (by decide))
    events := by
      rintro event rfl task found
      exact permits_of_closed closed found })
  activity event task called found queued noted keeps := by
    subst called
    have runs := runs_taskEvent (mem_of_taskOf found) queued noted keeps
    have whole : Runs task.id (applyBackendEvent service.builtins event) ledger := by
      refine holds_get ?_
      rw [found]
      exact runs
    exact final_of_holds whole

/-- Along every run, each stored change of a task's status is one of the table, unless the backend
reports a failure or an interruption, and activity leaves a queued task running. -/
theorem status_changes_promised (service : Service) (ledger : Ledger) (calls : List Call) :
    Along service.apply (Promised service) ledger calls :=
  along_mono (fun ledger call _ => promised_call service ledger call) (along_true ledger calls)

def lateError : List Call :=
  let event := fun type more => Call.event ⟨type, ("threadId", .string "thread-1") :: more⟩
  [.start "demo" (some "thread-1"), event .turnStarted [("turnId", .string "turn-1")],
    event .turnCompleted [], event .threadStatusChanged [("status", .string "systemError")]]

/-- A late error of the thread fails a task that was done, which is no change of the table. -/
theorem late_error_fails_done_task :
    let done := (lateError.take 3).foldl sampleService.apply {}
    let failed := lateError.foldl sampleService.apply {}
    done.statusOf 1 = some .done ∧ failed.statusOf 1 = some .failed ∧
      TaskStatus.failed ≠ .done ∧ TaskStatus.failed ∉ validTransitions .done := by
  decide

end Wlcodex.Tasks
