import Wlcodex.Tasks.Statuses

namespace Wlcodex.Tasks

open Wlcodex.Lib Script
open Wlcodex.Relay (Dict)
open Wlcodex.Projector (TaskStatus)
open Wlcodex.State (Builtins)

/-! What the programs of the service do to statuses, branch by branch. -/

variable {builtins : Builtins}

/-! ### What an event may do beside the table -/

def reportsFailure (builtins : Builtins) (event : BackendEvent) : Bool :=
  event.eventType = .turnCompleted ∧ turnOutcome builtins event.payload = .failed ∨
    event.eventType = .threadStatusChanged ∧ threadStatusType builtins event.payload = "systemError"

def reportsInterrupt (builtins : Builtins) (event : BackendEvent) : Bool :=
  event.eventType = .turnCompleted ∧ turnOutcome builtins event.payload = .interrupted

def storesFound (builtins : Builtins) (ledger : Ledger) (event : BackendEvent) (task : Task) : Bool :=
  match event.eventType with
  | .planUpdated => true
  | .agentMessageDelta =>
      builtins.textField event.payload "delta" "" ≠ "" && !ledger.taskHasRunningOrchestration task.id
  | .threadStatusChanged => threadStatusType builtins event.payload ∉ ["", "systemError"]
  | .turnCompleted => turnOutcome builtins event.payload = .inProgress
  | _ => false

def keepsRunning (builtins : Builtins) (ledger : Ledger) (event : BackendEvent) (task : Task) : Bool :=
  event.eventType = .turnCompleted ∧ turnOutcome builtins event.payload = .completed ∧
    ledger.pendingRows task.id = [] ∧ ledger.taskHasRunningOrchestration task.id = true

structure Permits (rule : StatusRule) (builtins : Builtins) (ledger : Ledger)
    (event : BackendEvent) (task : Task) : Prop where
  table : ∀ before after, after ∈ validTransitions before → after ≠ .queued →
    rule.allowed task.id before after
  failed : reportsFailure builtins event = true → ∀ before, rule.allowed task.id before .failed
  interrupted : reportsInterrupt builtins event = true →
    ∀ before, before ≠ .aborted → before ≠ .archived → rule.allowed task.id before .aborted
  found : storesFound builtins ledger event task = true → task.status = .queued →
    rule.allowed task.id .running .queued
  running : keepsRunning builtins ledger event task = true →
    task.status ∉ [.failed, .aborted, .archived] → rule.allowed task.id task.status .running

def afterActivity (status : TaskStatus) : TaskStatus := if status = .queued then .running else status

section Event

variable {rule : StatusRule} {before ledger : Ledger} {event : BackendEvent}
  {task : Task}

theorem sound_markRunning (table : ∀ before after, after ∈ validTransitions before → after ≠ .queued →
      rule.allowed task.id before after)
    (finds : Finds before task.id task.status ledger) :
    Sound rule (markRunning task) ledger fun _ now =>
      Finds before task.id (afterActivity task.status) now := by
  unfold markRunning afterActivity
  split
  · exact sound_transition finds fun listed => table _ _ listed (by decide)
  · exact holds_pure finds

variable {id : Nat} {status : TaskStatus}

theorem sound_addEvent {eventType : String} (finds : Finds before id status ledger) :
    Sound rule (addEvent id eventType) ledger fun _ now => Finds before id status now :=
  sound_note finds rfl rfl

theorem sound_storeFound {phase summary error : String}
    (found : task.status = .queued → rule.allowed task.id .running .queued)
    (finds : Finds before task.id (afterActivity task.status) ledger) :
    Sound rule (perform (.setTaskStatus task.id task.status phase summary error)) ledger
      fun _ now => Finds before task.id task.status now := by
  refine sound_write finds ?_
  unfold afterActivity
  split
  next queued =>
    rw [queued]
    exact found queued
  · exact rule.refl task.id task.status

theorem sound_markBackendFailed {error phase eventType : String}
    (failed : ∀ before, rule.allowed id before .failed) (finds : Finds before id status ledger) :
    Sound rule (markBackendFailed id error phase eventType) ledger fun _ _ => True := by
  refine sound_bind (sound_write finds (failed status)) fun _ _ finds => ?_
  refine sound_bind (sound_addEvent finds) fun _ _ finds => ?_
  exact sound_mono (sound_addEvent finds) fun _ _ _ => trivial

theorem sound_pendingApprovals :
    Sound rule (pendingApprovals id) ledger fun pending now =>
      now = ledger ∧ pending = ledger.pendingRows id := by
  refine holds_get (sound_bind sound_require fun _ now met => ?_)
  obtain ⟨-, rfl⟩ := met
  exact holds_pure ⟨rfl, rfl⟩

theorem Frame.pendingRows (frame : Frame before ledger) (id : Nat) :
    ledger.pendingRows id = before.pendingRows id := by
  unfold Ledger.pendingRows
  rw [frame.approvals]

theorem Frame.managed (frame : Frame before ledger) (id : Nat) :
    ledger.taskHasRunningOrchestration id = before.taskHasRunningOrchestration id := by
  unfold Ledger.taskHasRunningOrchestration
  rw [frame.conversations, frame.runs]

theorem sound_finishTurn (permits : Permits rule builtins before event task)
    (type : event.eventType = .turnCompleted) (outcome : turnOutcome builtins event.payload = .completed)
    (finds : Finds before task.id (afterActivity task.status) ledger) :
    Sound rule (finishTurn task) ledger fun _ _ => True := by
  have note {status : TaskStatus} {now : Ledger} (finds : Finds before task.id status now) :
      Sound rule (addEvent task.id "turn_completed") now fun _ _ => True :=
    sound_mono (sound_addEvent finds) fun _ _ _ => trivial
  unfold finishTurn
  split
  · exact holds_pure trivial
  next going =>
    refine sound_bind sound_pendingApprovals fun pending now rows => ?_
    obtain ⟨rfl, rfl⟩ := rows
    split
    · split
      next paused =>
        have same : afterActivity task.status = .paused := by
          rw [paused]
          rfl
        rw [same] at finds
        exact sound_bind (sound_write finds (rule.refl _ _)) fun _ _ => note
      · refine sound_bind (sound_transition finds fun listed => ?_) fun _ _ => note
        exact permits.table _ _ listed (by decide)
    next none_ =>
      refine holds_get ?_
      split
      next managed =>
        refine sound_bind (sound_write finds ?_) fun _ _ => note
        have kept : keepsRunning builtins before event task = true := by
          refine decide_eq_true ⟨type, outcome, ?_, ?_⟩
          · rw [← finds.frame.pendingRows]
            simpa using none_
          · rw [← finds.frame.managed]
            exact managed
        unfold afterActivity
        split
        · exact rule.refl _ _
        · exact permits.running kept going
      · refine sound_bind (sound_transition finds fun listed => ?_) fun _ _ finds => ?_
        · exact permits.table _ _ listed (by decide)
        · split
          · exact sound_bind (sound_write finds (rule.refl _ _)) fun _ _ => note
          · exact note finds

theorem sound_completeTurn (permits : Permits rule builtins before event task)
    (type : event.eventType = .turnCompleted) (finds : Finds before task.id task.status ledger) :
    Sound rule (completeTurn builtins event.payload task) ledger fun _ _ => True := by
  refine sound_bind (sound_markRunning permits.table finds) fun _ _ finds => ?_
  refine sound_bind (sound_note finds rfl rfl) fun _ _ finds => ?_
  cases outcome : turnOutcome builtins event.payload with
  | failed =>
      exact sound_markBackendFailed (permits.failed (decide_eq_true (.inl ⟨type, outcome⟩))) finds
  | interrupted =>
      dsimp only
      split
      next going =>
        have apart : afterActivity task.status ≠ .aborted ∧ afterActivity task.status ≠ .archived := by
          unfold afterActivity
          split
          · exact ⟨by decide, by decide⟩
          · simpa using going
        refine sound_bind (sound_write finds ?_) fun _ _ finds => ?_
        · exact permits.interrupted (decide_eq_true ⟨type, outcome⟩) _ apart.1 apart.2
        · exact sound_mono (sound_addEvent finds) fun _ _ _ => trivial
      · exact holds_pure trivial
  | inProgress =>
      refine sound_mono (sound_storeFound (permits.found ?_) finds) fun _ _ _ => trivial
      unfold storesFound
      rw [type]
      exact decide_eq_true outcome
  | completed => exact sound_finishTurn permits type outcome finds

theorem sound_findApproval {codexRequestId : String} :
    Sound rule (findApproval codexRequestId id) ledger fun row now =>
      now = ledger ∧ row = ledger.getApprovalByCodexId codexRequestId id := by
  refine holds_get (sound_bind sound_require fun _ now met => ?_)
  obtain ⟨-, rfl⟩ := met
  exact holds_pure ⟨rfl, rfl⟩

theorem sound_other {write : Write} (held : ledger.statusOf id = some status) (quiet : write.isQuiet = true) :
    Sound rule (perform write) ledger fun _ now => now.statusOf id = some status :=
  holds_perform (statusChange_quiet quiet) (by rw [statusOf_quiet quiet]; exact held)

theorem sound_onlyIf {holds : Bool} {part : Program Unit} {post : Ledger → Prop} (idle : post ledger)
    (acts : Sound rule part ledger fun _ now => post now) :
    Sound rule (onlyIf holds part) ledger fun _ now => post now := by
  unfold onlyIf
  split
  · exact acts
  · exact holds_pure idle

theorem sound_requestApproval {payload : Dict}
    (table : ∀ before after, after ∈ validTransitions before → after ≠ .queued →
      rule.allowed task.id before after)
    (held : ledger.statusOf task.id = some task.status) :
    Sound rule (requestApproval builtins payload task) ledger fun _ _ => True := by
  refine sound_bind sound_findApproval fun existing now found => ?_
  obtain ⟨rfl, -⟩ := found
  refine sound_bind (sound_onlyIf held (sound_other held rfl)) fun _ _ held => ?_
  refine sound_bind (sound_other held rfl) fun _ _ held => ?_
  refine sound_bind (sound_onlyIf held (sound_other held rfl)) fun _ now held => ?_
  have note {status : TaskStatus} {last : Ledger} (finds : Finds now task.id status last) :
      Sound rule (addEvent task.id "approval_requested") last fun _ _ => True :=
    sound_mono (sound_addEvent finds) fun _ _ _ => trivial
  unfold waitForApproval
  split
  next paused =>
    rw [paused] at held
    exact sound_bind (sound_write (.start held) (rule.refl _ _)) fun _ _ => note
  · refine sound_bind (sound_transition (.start held) fun listed => ?_) fun _ _ => note
    exact table _ _ listed (by decide)

theorem sound_sendMessageDelta (permits : Permits rule builtins before event task)
    (type : event.eventType = .agentMessageDelta) (finds : Finds before task.id task.status ledger) :
    Sound rule (sendMessageDelta builtins event.payload task) ledger fun _ _ => True := by
  refine sound_bind (sound_markRunning permits.table finds) fun _ _ finds => ?_
  dsimp only
  split
  next delta =>
    refine holds_get ?_
    split
    next unmanaged =>
      refine sound_bind (sound_storeFound (permits.found ?_) finds) fun _ _ finds => ?_
      · unfold storesFound
        rw [type, ← finds.frame.managed]
        simp [delta, unmanaged]
      · exact sound_mono (sound_note finds rfl rfl) fun _ _ _ => trivial
    · exact sound_mono (sound_note finds rfl rfl) fun _ _ _ => trivial
  · exact holds_pure trivial

theorem sound_changeThreadStatus (permits : Permits rule builtins before event task)
    (type : event.eventType = .threadStatusChanged) (finds : Finds before task.id task.status ledger) :
    Sound rule (changeThreadStatus builtins event.payload task) ledger fun _ _ => True := by
  unfold changeThreadStatus
  dsimp only
  split
  next broken =>
    refine sound_bind (sound_note finds rfl rfl) fun _ _ finds => ?_
    exact sound_markBackendFailed (permits.failed (decide_eq_true (.inr ⟨type, broken⟩))) finds
  next working =>
    split
    next named =>
      refine sound_bind (sound_markRunning permits.table finds) fun _ _ finds => ?_
      refine sound_mono (sound_storeFound (permits.found ?_) finds) fun _ _ _ => trivial
      unfold storesFound
      rw [type]
      simp [working, named]
    · exact holds_pure trivial

theorem sound_taskEvent (permits : Permits rule builtins ledger event task)
    (held : ledger.statusOf task.id = some task.status) :
    Sound rule (taskEvent builtins event task) ledger fun _ _ => True := by
  have finds := Finds.start held
  have marked := @sound_markRunning _ ledger _ _  permits.table finds
  have note {eventType : String} {status : TaskStatus} {now : Ledger}
      (finds : Finds ledger task.id status now) :
      Sound rule (addEvent task.id eventType) now fun _ _ => True :=
    sound_mono (sound_addEvent finds) fun _ _ _ => trivial
  unfold taskEvent
  cases type : event.eventType with
  | turnStarted =>
      refine sound_bind (sound_note finds rfl rfl) fun _ _ finds => ?_
      refine sound_bind (sound_transition finds fun listed => ?_) fun _ _ => note
      exact permits.table _ _ listed (by decide)
  | turnCompleted => exact sound_completeTurn permits type finds
  | approvalRequested => exact sound_requestApproval permits.table held
  | planUpdated =>
      refine sound_bind marked fun _ _ finds => ?_
      refine sound_mono (sound_storeFound (permits.found ?_) finds) fun _ _ _ => trivial
      unfold storesFound
      rw [type]
  | diffUpdated =>
      refine sound_bind marked fun _ _ finds => ?_
      refine sound_bind (sound_note finds rfl rfl) fun _ _ finds => ?_
      split
      · exact note finds
      · exact holds_pure trivial
  | fileChangeDelta => exact sound_mono marked fun _ _ _ => trivial
  | tokenUsageUpdated =>
      refine sound_bind marked fun _ _ finds => ?_
      unfold storeTokenUsage
      dsimp only
      split
      · trivial
      · exact holds_pure trivial
      · trivial
      · exact holds_pure trivial
      · split
        · exact sound_mono (sound_note finds rfl rfl) fun _ _ _ => trivial
        · trivial
  | commandOutputDelta =>
      refine sound_bind marked fun _ _ finds => ?_
      split
      · exact note finds
      · exact holds_pure trivial
  | agentMessageDelta => exact sound_sendMessageDelta permits type finds
  | threadStatusChanged => exact sound_changeThreadStatus permits type finds
  | itemStarted | itemCompleted => exact sound_bind marked fun _ _ => note
  | other name => exact holds_pure trivial

theorem statusOf_of_mem (member : task ∈ ledger.tasks) : ledger.statusOf task.id = some task.status := by
  unfold Ledger.statusOf
  rw [Keyed.find?_eq_some_iff.mpr ⟨member, rfl⟩]
  rfl

theorem mem_of_taskOf (found : ledger.taskOf builtins event = some task) : task ∈ ledger.tasks := by
  have inside {selected : Task → Bool}
      (first : ((ledger.tasks.rows.filter selected).insertionSort
        fun first second => Ledger.activeFirst first second).head? = some task) :
      task ∈ ledger.tasks := by
    have member := List.mem_of_head? first
    rw [List.mem_insertionSort] at member
    exact (List.mem_filter.mp member).1
  rcases Option.or_eq_some_iff.mp found with own | ⟨-, bound⟩
  · exact inside own
  · exact inside bound

theorem sound_applyBackendEvent (permits : ∀ task, ledger.taskOf builtins event = some task →
      Permits rule builtins ledger event task) :
    Sound rule (applyBackendEvent builtins event) ledger fun _ _ => True := by
  refine holds_get ?_
  cases found : ledger.taskOf builtins event with
  | none => exact holds_pure trivial
  | some task =>
      exact sound_taskEvent (permits task found) (statusOf_of_mem (mem_of_taskOf found))

end Event

section Lifecycle

variable {rule : StatusRule} {ledger : Ledger} {id : Nat} {status : TaskStatus} {workspaces : List WorkspaceConfig}

theorem sound_checked (table : ∀ before, status ∈ validTransitions before → rule.allowed id before status) :
    Sound rule (transition id status) ledger fun _ _ => True := by
  cases held : ledger.statusOf id with
  | some current => exact sound_mono (sound_transition (.start held) (table _)) fun _ _ _ => trivial
  | none =>
      refine sound_bind sound_getTask fun task now found => ?_
      obtain ⟨rfl, found⟩ := found
      unfold Ledger.statusOf at held
      rw [found] at held
      cases held

theorem sound_silent {write : Write}
    (quiet : write.isQuiet = true) : Sound rule (perform write) ledger fun _ _ => True :=
  sound_mono (sound_quiet quiet) fun _ _ _ => trivial

theorem sound_event {eventType : String} :
    Sound rule (addEvent id eventType) ledger fun _ _ => True := sound_silent rfl

variable {workspaceAlias : String}

theorem sound_getWorkspace :
    Sound rule (getWorkspace workspaces workspaceAlias) ledger fun workspace now =>
      now = ledger ∧
        workspaces.find? (fun workspace => workspace.workspaceAlias = workspaceAlias) = some workspace := by
  unfold getWorkspace
  cases workspaces.find? fun workspace => workspace.workspaceAlias = workspaceAlias with
  | none => trivial
  | some workspace => exact holds_pure ⟨rfl, rfl⟩

/-- `ensure_workspace_writable` returns. -/
def isWritable (workspaces : List WorkspaceConfig) (workspaceAlias : String) : Bool :=
  (workspaces.find? fun workspace => workspace.workspaceAlias = workspaceAlias).any
    WorkspaceConfig.allowWrite

theorem sound_ensureWritable :
    Sound rule (ensureWorkspaceWritable workspaces workspaceAlias) ledger fun workspace now =>
      now = ledger ∧ workspace.workspaceAlias = workspaceAlias ∧
        isWritable workspaces workspaceAlias = true := by
  refine sound_bind sound_getWorkspace fun workspace now found => ?_
  obtain ⟨rfl, found⟩ := found
  refine sound_bind sound_require fun _ now met => ?_
  obtain ⟨writable, rfl⟩ := met
  refine holds_pure ⟨rfl, by simpa using List.find?_some found, ?_⟩
  unfold isWritable
  rw [found]
  exact writable

theorem sound_ensureAvailable {exclude : Option Nat} :
    Sound rule (ensureWorkspaceAvailable workspaceAlias exclude) ledger fun _ now =>
      now = ledger ∧ ledger.shownWriter workspaceAlias exclude = none := by
  refine holds_get (sound_mono sound_require fun _ now met => ?_)
  exact ⟨met.2, Option.isNone_iff_eq_none.mp met.1⟩

theorem sound_assertAllowed :
    Sound rule assertSubmissionAllowed ledger fun _ now =>
      now = ledger ∧ ledger.submissionsFrozen = false := by
  refine holds_get (sound_mono sound_require fun _ now met => ?_)
  exact ⟨met.2, by simpa using met.1⟩

theorem sound_createTask {codexThreadId : Option String}
    (new : rule.created ledger.tasks.nextKey workspaceAlias status) :
    Sound rule (createTask workspaceAlias codexThreadId status) ledger fun _ _ => True := by
  exact holds_get (holds_call (statusChange_create new) (holds_pure trivial))

/-- `promote_waiting_task` queues the task. -/
def Ledger.promotable (ledger : Ledger) (id : Nat) : Bool :=
  !ledger.submissionsFrozen && ledger.statusOf id = some .waitingSlot && (ledger.storedPrompt? id).isSome

theorem Ledger.statusOf_of_find? {task : Task} (found : ledger.tasks.find? id = some task) :
    ledger.statusOf id = some task.status := by
  unfold Ledger.statusOf
  rw [found]
  rfl

theorem sound_queueWaitingTask (opens : ledger.promotable id = true → rule.allowed id .waitingSlot .queued) :
    Sound rule (queueWaitingTask id) ledger fun task _ =>
      ledger.promotable id = true ∧ ledger.tasks.find? id = some task := by
  refine sound_bind sound_assertAllowed fun _ now open_ => ?_
  obtain ⟨rfl, open_⟩ := open_
  refine sound_bind sound_getTask fun task now found => ?_
  obtain ⟨rfl, found⟩ := found
  refine sound_bind sound_require fun _ now waiting => ?_
  obtain ⟨waiting, rfl⟩ := waiting
  refine holds_get (sound_bind sound_require fun _ now prompt => ?_)
  obtain ⟨prompt, rfl⟩ := prompt
  have held := Ledger.statusOf_of_find? found
  rw [of_decide_eq_true waiting] at held
  have promotable : now.promotable id = true := by
    unfold Ledger.promotable
    rw [open_, held, prompt]
    rfl
  refine sound_bind (sound_transition (.start held) fun _ => opens promotable) fun _ _ _ => ?_
  exact sound_bind sound_event fun _ _ _ => holds_pure ⟨promotable, found⟩

theorem sound_failTask {error : String}
    (table : ∀ before, .failed ∈ validTransitions before → rule.allowed id before .failed) :
    Sound rule (failTask id error) ledger fun _ _ => True := by
  refine sound_bind sound_getTask fun task now found => ?_
  obtain ⟨rfl, found⟩ := found
  have held := statusOf_of_mem (Keyed.find?_eq_some_iff.mp found).1
  rw [(Keyed.find?_eq_some_iff.mp found).2] at held
  refine sound_bind sound_require fun _ now met => ?_
  obtain ⟨-, rfl⟩ := met
  refine sound_bind (sound_transition (.start held) (table _)) fun _ _ finds => ?_
  refine sound_bind (sound_write finds (rule.refl _ _)) fun _ _ _ => ?_
  exact sound_event

structure Opening where
  id : Nat
  workspaceAlias : String
  /-- The task that the question leaves out. -/
  exclude : Option Nat

/-- `continue_task` takes the task up to the writer of its workspace. -/
def continuable (workspaces : List WorkspaceConfig) (newCodexThreadId : Option String) (task : Task) :
    Bool :=
  task.status ∉ [.waitingSlot, .archived, .queued, .running, .waitingApproval] &&
    (task.codexThreadId.isSome || newCodexThreadId.isSome) && isWritable workspaces task.workspaceAlias

namespace Service

variable (service : Service) (ledger : Ledger)

def opening? : Call → Option Opening
  | .reserve workspaceAlias _ =>
      if !ledger.submissionsFrozen && isWritable service.workspaces workspaceAlias then
        some ⟨ledger.tasks.nextKey, workspaceAlias, none⟩
      else none
  | .start workspaceAlias _ =>
      if !ledger.submissionsFrozen &&
          service.workspaces.any fun workspace => workspace.workspaceAlias = workspaceAlias then
        some ⟨ledger.tasks.nextKey, workspaceAlias, none⟩
      else none
  | .continue_ id newCodexThreadId =>
      ((ledger.tasks.find? id).filter (continuable service.workspaces newCodexThreadId)).map fun task =>
        ⟨id, task.workspaceAlias, some id⟩
  | .drain workspaceAlias =>
      ((ledger.listWaitingTasks workspaceAlias).head?.filter fun task => ledger.promotable task.id).map
        fun task => ⟨task.id, workspaceAlias, none⟩
  | _ => none

def unasked? : Call → Option Task
  | .promote id => (ledger.tasks.find? id).filter fun task => ledger.promotable task.id
  | .event event =>
      (ledger.taskOf service.builtins event).filter fun task =>
        keepsRunning service.builtins ledger event task ∧ task.status ∈ [.done, .waitingSlot]
  | _ => none

end Service

structure PermitsCall (rule : StatusRule) (service : Service) (ledger : Ledger) (call : Call) : Prop where
  table : ∀ id before after, after ∈ validTransitions before → after ≠ .queued →
    rule.allowed id before after
  waiting : ∀ workspaceAlias prompt, call = .reserveWaiting workspaceAlias prompt →
    ∀ id other, rule.created id other .waitingSlot
  asked : ∀ opening, service.opening? ledger call = some opening →
    ledger.shownWriter opening.workspaceAlias opening.exclude = none →
      rule.created opening.id opening.workspaceAlias .queued ∧
        ∀ before, .queued ∈ validTransitions before → rule.allowed opening.id before .queued
  promoted : ∀ id, call = .promote id → ledger.promotable id = true →
    rule.allowed id .waitingSlot .queued
  events : ∀ event, call = .event event → ∀ task, ledger.taskOf service.builtins event = some task →
    Permits rule service.builtins ledger event task

section Admission

variable {service : Service}

variable {workspaceAlias : String}

theorem sound_reserveTask {prompt : String}
    (permits : PermitsCall rule service ledger (.reserve workspaceAlias prompt)) :
    Sound rule (reserveTask service.workspaces workspaceAlias prompt) ledger fun _ _ => True := by
  refine sound_bind sound_assertAllowed fun _ now open_ => ?_
  obtain ⟨rfl, open_⟩ := open_
  refine sound_bind sound_ensureWritable fun workspace now writable => ?_
  obtain ⟨rfl, named, writable⟩ := writable
  refine sound_bind sound_ensureAvailable fun _ now free => ?_
  obtain ⟨rfl, free⟩ := free
  have opening : service.opening? now (.reserve workspaceAlias prompt) =
      some ⟨now.tasks.nextKey, workspaceAlias, none⟩ := by
    unfold Service.opening?
    dsimp only
    rw [open_, writable]
    rfl
  rw [named]
  refine sound_bind (sound_createTask (permits.asked _ opening free).1) fun _ _ _ => ?_
  exact sound_bind (sound_silent rfl) fun _ _ _ => sound_event

theorem sound_startTask {codexThreadId : Option String}
    (permits : PermitsCall rule service ledger (.start workspaceAlias codexThreadId)) :
    Sound rule (startTask service.workspaces workspaceAlias codexThreadId) ledger fun _ _ => True := by
  refine sound_bind sound_assertAllowed fun _ now open_ => ?_
  obtain ⟨rfl, open_⟩ := open_
  refine sound_bind sound_getWorkspace fun workspace now found => ?_
  obtain ⟨rfl, found⟩ := found
  refine sound_bind sound_ensureAvailable fun _ now free => ?_
  obtain ⟨rfl, free⟩ := free
  have named : workspace.workspaceAlias = workspaceAlias := by simpa using List.find?_some found
  have opening : service.opening? now (.start workspaceAlias codexThreadId) =
      some ⟨now.tasks.nextKey, workspaceAlias, none⟩ := by
    have known : (service.workspaces.any fun workspace => workspace.workspaceAlias = workspaceAlias) :=
      List.any_eq_true.mpr ⟨workspace, List.mem_of_find?_eq_some found, decide_eq_true named⟩
    unfold Service.opening?
    dsimp only
    rw [open_, known]
    rfl
  rw [named]
  refine sound_bind (sound_createTask (permits.asked _ opening free).1) fun _ _ _ => ?_
  exact sound_bind sound_event fun _ _ _ => sound_event

theorem sound_continueTask {newCodexThreadId : Option String}
    (permits : PermitsCall rule service ledger (.continue_ id newCodexThreadId)) :
    Sound rule (continueTask service.workspaces id newCodexThreadId) ledger fun _ _ => True := by
  refine sound_bind sound_getTask fun task now found => ?_
  obtain ⟨rfl, found⟩ := found
  refine sound_bind sound_require fun _ now going => ?_
  obtain ⟨going, rfl⟩ := going
  refine sound_bind sound_require fun _ now thread => ?_
  obtain ⟨thread, rfl⟩ := thread
  refine sound_bind sound_ensureWritable fun workspace now writable => ?_
  obtain ⟨rfl, -, writable⟩ := writable
  refine sound_bind sound_ensureAvailable fun _ now free => ?_
  obtain ⟨rfl, free⟩ := free
  have opening : service.opening? now (.continue_ id newCodexThreadId) =
      some ⟨id, task.workspaceAlias, some id⟩ := by
    have passes : continuable service.workspaces newCodexThreadId task = true := by
      unfold continuable
      rw [going, thread, writable]
      rfl
    unfold Service.opening?
    dsimp only
    rw [found, Option.filter_some, if_pos passes]
    rfl
  refine sound_bind (sound_checked (permits.asked _ opening free).2) fun _ _ _ => ?_
  exact sound_bind (sound_silent rfl) fun _ _ _ => sound_event

theorem sound_drainWorkspace (permits : PermitsCall rule service ledger (.drain workspaceAlias)) :
    Sound rule (drainWorkspace service.workspaces workspaceAlias) ledger fun _ _ => True := by
  refine holds_get ?_
  split
  · exact holds_pure trivial
  next free =>
    split
    · exact holds_pure trivial
    next waiting head =>
      have opens (promotable : ledger.promotable waiting.id = true) :
          rule.allowed waiting.id .waitingSlot .queued := by
        refine (permits.asked ⟨waiting.id, workspaceAlias, none⟩ ?_ ?_).2 _ (by decide)
        · unfold Service.opening?
          dsimp only
          rw [head, Option.filter_some, if_pos promotable]
          rfl
        · simpa using free
      refine sound_bind (@holds_recover _ _ _ _ _ _ _ _ (fun _ => True) _ (fun _ _ => True) ?_ ?_)
        fun promoted _ _ => ?_
      · exact sound_bind (sound_queueWaitingTask opens) fun _ _ _ => holds_pure trivial
      · refine fun _ _ => sound_bind (sound_failTask fun _ listed => ?_) fun _ _ _ => ?_
        · exact permits.table _ _ _ listed (by decide)
        · exact holds_pure trivial
      · cases promoted with
        | none => exact holds_pure trivial
        | some task =>
            refine sound_bind sound_getWorkspace fun _ _ _ => ?_
            exact sound_bind sound_event fun _ _ _ => holds_pure trivial

end Admission

theorem sound_program {service : Service} {call : Call} (permits : PermitsCall rule service ledger call) :
    Sound rule (service.program call) ledger fun _ _ => True := by
  have note {id : Nat} {eventType : String} {now : Ledger} :
      Sound rule (addEvent id eventType) now fun _ _ => True := sound_event
  have checked {id : Nat} {status : TaskStatus} {now : Ledger} (other : status ≠ .queued) :
      Sound rule (transition id status) now fun _ _ => True :=
    sound_checked fun _ listed => permits.table _ _ _ listed other
  cases call with
  | reserve workspaceAlias prompt => exact sound_reserveTask permits
  | start workspaceAlias codexThreadId => exact sound_startTask permits
  | reserveWaiting workspaceAlias prompt =>
      refine sound_bind sound_assertAllowed fun _ _ _ => ?_
      refine sound_bind sound_ensureWritable fun _ _ _ => ?_
      refine sound_bind (sound_createTask (permits.waiting _ _ rfl _ _)) fun _ _ _ => ?_
      exact sound_silent rfl
  | setThread id threadId => exact sound_bind (sound_silent rfl) fun _ _ _ => note
  | promote id =>
      refine sound_bind (sound_queueWaitingTask (permits.promoted id rfl)) fun _ _ _ => ?_
      exact sound_bind sound_getWorkspace fun _ _ _ => note
  | continue_ id newCodexThreadId => exact sound_continueTask permits
  | steer id =>
      refine sound_bind sound_getTask fun _ _ _ => ?_
      refine sound_bind sound_require fun _ _ _ => ?_
      refine sound_bind sound_require fun _ _ _ => ?_
      refine sound_bind sound_require fun _ _ _ => ?_
      exact sound_bind sound_ensureWritable fun _ _ _ => note
  | pause | archive =>
      refine sound_bind sound_getTask fun _ _ _ => ?_
      refine sound_bind sound_require fun _ _ _ => ?_
      exact sound_bind (checked (by decide)) fun _ _ _ => note
  | abort id =>
      refine sound_bind sound_getTask fun _ _ _ => ?_
      refine sound_bind sound_require fun _ _ _ => ?_
      refine sound_bind (sound_silent rfl) fun _ _ _ => ?_
      exact sound_bind (checked (by decide)) fun _ _ _ => note
  | fail id error => exact sound_failTask fun _ listed => permits.table _ _ _ listed (by decide)
  | drain workspaceAlias => exact sound_bind (sound_drainWorkspace permits) fun _ _ _ => holds_pure trivial
  | event event => exact sound_applyBackendEvent (permits.events event rfl)
  | clock | freeze | orchestrate => exact holds_pure trivial

end Lifecycle

end Wlcodex.Tasks
