import Wlcodex.Tasks.Service

namespace Wlcodex.Tasks

open Wlcodex.Lib Script
open Wlcodex.Projector (TaskStatus)

/-! The statuses that the service commits. -/

namespace Ledger

def statusOf (ledger : Ledger) (id : Nat) : Option TaskStatus := (ledger.tasks.find? id).map Task.status

end Ledger

def Write.isQuiet : Write → Bool
  | setTaskStatus .. | createTask .. => false
  | setActiveTurn .. | clearActiveTurn _ | incrementChangedFiles _ | incrementPendingApprovals _
  | decrementPendingApprovals _ | setTokenUsage .. | setThreadId .. | addEvent .. | createApproval _
  | resolveApproval .. | setApprovalError .. => true

def Write.creates : Write → Bool
  | createTask .. => true
  | _ => false

theorem tasks_bindThread (ledger : Ledger) (id : Nat) (threadId : String) :
    (ledger.bindThread id threadId).tasks = ledger.tasks := by
  unfold Ledger.bindThread
  split
  · rfl
  · rfl

theorem tasks_createApproval (ledger : Ledger) (new : NewApproval) :
    (ledger.createApproval new.row fun _ => rfl).tasks = ledger.tasks := by
  unfold Ledger.createApproval
  dsimp only
  split
  · rfl
  · rfl

variable {write : Write} {phase summary error : String} {ledger : Ledger}

theorem tasks_commit (adds : write.creates = false) :
    (ledger.commit write).tasks =
      (write.patch?.elim ledger fun change => ledger.updateTask change.1 change.2).tasks := by
  cases write with
  | createTask workspaceAlias codexThreadId status => cases adds
  | setThreadId id threadId => exact tasks_bindThread _ id threadId
  | createApproval new => exact tasks_createApproval ledger new
  | setTaskStatus | setActiveTurn | clearActiveTurn | incrementChangedFiles | incrementPendingApprovals
  | decrementPendingApprovals | setTokenUsage | addEvent | resolveApproval | setApprovalError => rfl

section Column

variable {γ : Type} {column : Task → γ} {ledger : Ledger}

theorem column_updateTask {id : Nat} {patch : Patch Task.id}
    (keeps : ∀ task now, column { patch.apply task with updatedAt := now } = column task) (other : Nat) :
    ((ledger.updateTask id patch).tasks.find? other).map column =
      (ledger.tasks.find? other).map column := by
  unfold Ledger.updateTask
  rw [Keyed.find?_update, Option.map_map]
  refine congrArg (Option.map · _) (funext fun task => ?_)
  rw [Function.comp_apply]
  split
  · exact keeps task ledger.now
  · rfl

theorem column_commit (adds : write.creates = false)
    (keeps : ∀ change, write.patch? = some change → ∀ task now,
      column { change.2.apply task with updatedAt := now } = column task) (other : Nat) :
    ((ledger.commit write).tasks.find? other).map column = (ledger.tasks.find? other).map column := by
  rw [tasks_commit adds]
  cases patched : write.patch? with
  | none => rfl
  | some change => exact column_updateTask (keeps change patched) other

end Column

theorem column_quiet {γ : Type} {column : Task → γ} (quiet : write.isQuiet = true)
    (keeps : ∀ first second : Task, first.status = second.status →
      first.lastSummary = second.lastSummary → column first = column second) (other : Nat) :
    ((ledger.commit write).tasks.find? other).map column = (ledger.tasks.find? other).map column := by
  refine column_commit ?_ (fun change patched task now => keeps _ _ ?_ ?_) other
  · cases write
    case createTask => cases quiet
    all_goals rfl
  all_goals
    cases write
    case setTaskStatus => cases quiet
    all_goals cases patched
    all_goals rfl

theorem statusOf_quiet (quiet : write.isQuiet = true) :
    (ledger.commit write).statusOf = ledger.statusOf :=
  funext (column_quiet quiet fun _ _ same _ => same)

theorem statusOf_set (ledger : Ledger) (id : Nat) (status : TaskStatus) (phase summary error : String)
    (other : Nat) :
    (ledger.commit (.setTaskStatus id status phase summary error)).statusOf other =
      if other = id then (ledger.statusOf other).map fun _ => status else ledger.statusOf other := by
  change (Keyed.find? (ledger.updateTask id _).tasks other).map Task.status = _
  unfold Ledger.statusOf Ledger.updateTask
  rw [Keyed.find?_update, Option.map_map]
  cases found : ledger.tasks.find? other with
  | none => exact (ite_self _).symm
  | some task =>
      have same := (Keyed.find?_eq_some_iff.mp found).2
      subst same
      rw [Option.map_some, Function.comp_apply]
      by_cases mine : task.id = id
      · rw [if_pos mine, if_pos (by simpa using mine)]
        rfl
      · rw [if_neg mine, if_neg (by simpa using mine)]
        rfl

theorem tasks_create (ledger : Ledger) (workspaceAlias : String) (codexThreadId : Option String)
    (status : TaskStatus) :
    (ledger.commit (.createTask workspaceAlias codexThreadId status)).tasks =
      ledger.tasks.append
        (fun id => {
          id, workspaceAlias, status, codexThreadId, createdAt := ledger.now, updatedAt := ledger.now })
        fun _ => rfl := by
  change (ledger.createTask workspaceAlias codexThreadId status).tasks = _
  unfold Ledger.createTask
  cases codexThreadId with
  | none => rfl
  | some threadId =>
      dsimp only
      split
      · rfl
      · exact tasks_bindThread _ _ threadId

theorem statusOf_create (ledger : Ledger) (workspaceAlias : String) (codexThreadId : Option String)
    (status : TaskStatus) (other : Nat) :
    (ledger.commit (.createTask workspaceAlias codexThreadId status)).statusOf other =
      if other = ledger.tasks.nextKey then some status else ledger.statusOf other := by
  unfold Ledger.statusOf
  rw [tasks_create, Keyed.find?_append]
  split
  · rfl
  · rfl

/-- What statements may do: which status a task may get after another, and which new tasks there may
be. -/
structure StatusRule where
  allowed : Nat → TaskStatus → TaskStatus → Prop
  created : Nat → String → TaskStatus → Prop
  refl : ∀ id status, allowed id status status

structure StatusChange (rule : StatusRule) (ledger : Ledger) (write : Write) : Prop where
  allowed : ∀ id before after, ledger.statusOf id = some before →
    (ledger.commit write).statusOf id = some after → rule.allowed id before after
  created : ∀ workspaceAlias codexThreadId status, write = .createTask workspaceAlias codexThreadId status →
    rule.created ledger.tasks.nextKey workspaceAlias status

section Sound

variable {rule : StatusRule} {ledger : Ledger} {id : Nat} {status : TaskStatus}

theorem statusChange_quiet (quiet : write.isQuiet = true) :
    StatusChange rule ledger write where
  allowed other before after held now := by
    rw [statusOf_quiet quiet, held] at now
    cases now
    exact rule.refl other before
  created workspaceAlias codexThreadId status creates := by
    subst creates
    cases quiet

theorem statusChange_set
    (change : ∀ before, ledger.statusOf id = some before → rule.allowed id before status) :
    StatusChange rule ledger (.setTaskStatus id status phase summary error) where
  allowed other before after held now := by
    rw [statusOf_set, held] at now
    split at now
    next same =>
      subst same
      cases now
      exact change before held
    · cases now
      exact rule.refl other before
  created workspaceAlias codexThreadId status creates := by cases creates

theorem nextKey_statusOf (ledger : Ledger) : ledger.statusOf ledger.tasks.nextKey = none := by
  unfold Ledger.statusOf
  rw [Option.map_eq_none_iff, Keyed.find?_eq_none_iff]
  exact fun task member => Nat.ne_of_lt (Keyed.lt_nextKey member)

theorem statusChange_create {workspaceAlias : String} {codexThreadId : Option String}
    (new : rule.created ledger.tasks.nextKey workspaceAlias status) :
    StatusChange rule ledger (.createTask workspaceAlias codexThreadId status) where
  allowed other before after held now := by
    rw [statusOf_create] at now
    split at now
    next same =>
      rw [same, nextKey_statusOf] at held
      cases held
    · rw [held] at now
      cases now
      exact rule.refl other before
  created other otherThread otherStatus creates := by
    cases creates
    exact new

variable (rule) in
def Sound {α : Type} (program : Program α) (ledger : Ledger) (post : α → Ledger → Prop) : Prop :=
  program.Holds Ledger.commit (StatusChange rule) (fun _ => True) ledger post

variable {α β : Type}

theorem sound_bind {program : Program α} {next : α → Program β} {middle : α → Ledger → Prop}
    {post : β → Ledger → Prop} (first : Sound rule program ledger middle)
    (second : ∀ value now, middle value now → Sound rule (next value) now post) :
    Sound rule (program >>= next) ledger post := holds_bind first second

theorem sound_mono {program : Program α} {post weaker : α → Ledger → Prop}
    (sound : Sound rule program ledger post)
    (ends : ∀ value now, post value now → weaker value now) : Sound rule program ledger weaker :=
  holds_mono (fun _ _ holds => holds) (fun _ _ => trivial) ends sound

theorem sound_quiet (quiet : write.isQuiet = true) :
    Sound rule (perform write) ledger fun _ now => now.statusOf = ledger.statusOf :=
  holds_perform (statusChange_quiet quiet) (statusOf_quiet quiet)

theorem sound_require {holds : Bool} :
    Sound rule (require holds) ledger fun _ now => holds = true ∧ now = ledger := by
  unfold require
  split
  next met => exact ⟨met, rfl⟩
  · trivial

/-- What `get_task` makes of the row it reads. -/
def taskOfRow : Option Task → Program Task
  | some task => pure task
  | none => .raised

theorem sound_getTask :
    Sound rule (getTask id) ledger fun task now => now = ledger ∧ ledger.tasks.find? id = some task := by
  change (taskOfRow (ledger.tasks.find? id)).Holds Ledger.commit (StatusChange rule) (fun _ => True)
    ledger _
  cases ledger.tasks.find? id with
  | none => trivial
  | some task => exact ⟨rfl, rfl⟩

end Sound

structure Frame (before now : Ledger) : Prop where
  approvals : now.approvalRequests = before.approvalRequests
  conversations : now.conversationSessions = before.conversationSessions
  runs : now.orchestrationRuns = before.orchestrationRuns

theorem Frame.refl (ledger : Ledger) : Frame ledger ledger := ⟨rfl, rfl, rfl⟩

theorem Frame.trans {first second third : Ledger} (early : Frame first second)
    (late : Frame second third) : Frame first third :=
  ⟨late.approvals.trans early.approvals, late.conversations.trans early.conversations,
    late.runs.trans early.runs⟩

def Write.isOfTask : Write → Bool
  | createTask .. | createApproval _ | resolveApproval .. | setApprovalError .. => false
  | setTaskStatus .. | setActiveTurn .. | clearActiveTurn _ | incrementChangedFiles _
  | incrementPendingApprovals _ | decrementPendingApprovals _ | setTokenUsage .. | setThreadId ..
  | addEvent .. => true

theorem frame_commit (ofTask : write.isOfTask = true) :
    Frame ledger (ledger.commit write) := by
  cases write with
  | createTask | createApproval | resolveApproval | setApprovalError => cases ofTask
  | setThreadId id threadId =>
      change Frame ledger (Ledger.bindThread _ id threadId)
      unfold Ledger.bindThread
      split
      · exact ⟨rfl, rfl, rfl⟩
      · exact ⟨rfl, rfl, rfl⟩
  | setTaskStatus id status phase summary error => exact ⟨rfl, rfl, rfl⟩
  | setActiveTurn id turnId => exact ⟨rfl, rfl, rfl⟩
  | clearActiveTurn id => exact ⟨rfl, rfl, rfl⟩
  | incrementChangedFiles id => exact ⟨rfl, rfl, rfl⟩
  | incrementPendingApprovals id => exact ⟨rfl, rfl, rfl⟩
  | decrementPendingApprovals id => exact ⟨rfl, rfl, rfl⟩
  | setTokenUsage id input output => exact ⟨rfl, rfl, rfl⟩
  | addEvent id eventType payload => exact ⟨rfl, rfl, rfl⟩

structure Finds (before : Ledger) (id : Nat) (status : TaskStatus) (now : Ledger) : Prop where
  status : now.statusOf id = some status
  frame : Frame before now

section Finds

variable {rule : StatusRule} {before ledger : Ledger} {id : Nat}
  {current status : TaskStatus}

theorem Finds.start (held : ledger.statusOf id = some status) : Finds ledger id status ledger :=
  ⟨held, .refl ledger⟩

theorem sound_note (finds : Finds before id current ledger) (quiet : write.isQuiet = true)
    (ofTask : write.isOfTask = true) :
    Sound rule (perform write) ledger fun _ now => Finds before id current now :=
  holds_perform (statusChange_quiet quiet)
    ⟨by rw [statusOf_quiet quiet]; exact finds.status, finds.frame.trans (frame_commit ofTask)⟩

theorem sound_write (finds : Finds before id current ledger) (change : rule.allowed id current status) :
    Sound rule (perform (.setTaskStatus id status phase summary error)) ledger fun _ now =>
      Finds before id status now := by
  refine holds_perform (statusChange_set fun other held => ?_) ⟨?_, ?_⟩
  · rw [finds.status] at held
    cases held
    exact change
  · rw [statusOf_set, if_pos rfl, finds.status]
    rfl
  · exact finds.frame.trans (frame_commit rfl)

theorem sound_transition (finds : Finds before id current ledger)
    (change : status ∈ validTransitions current → rule.allowed id current status) :
    Sound rule (transition id status) ledger fun _ now => Finds before id status now := by
  refine sound_bind sound_getTask fun task now found => ?_
  obtain ⟨rfl, found⟩ := found
  have same : task.status = current := by
    have held := finds.status
    unfold Ledger.statusOf at held
    rw [found] at held
    exact Option.some.inj held
  refine sound_bind sound_require fun _ now met => ?_
  obtain ⟨met, rfl⟩ := met
  rw [same, Bool.or_eq_true, decide_eq_true_eq, decide_eq_true_eq] at met
  refine sound_write finds ?_
  rcases met with listed | same
  · exact change listed
  · rw [same]
    exact rule.refl id status

end Finds

section Definite

variable {α : Type} {Ok : Ledger → Write → Prop} {aborted : Ledger → Prop} {post : α → Ledger → Prop}
  {ledger : Ledger} {task : Task}

theorem holds_getTask {id : Nat} {next : Task → Program α} (found : ledger.tasks.find? id = some task)
    (rest : (next task).Holds Ledger.commit Ok aborted ledger post) :
    (getTask id >>= next).Holds Ledger.commit Ok aborted ledger post := by
  have read : (getTask id).Holds Ledger.commit Ok aborted ledger fun value now =>
      value = task ∧ now = ledger := by
    change (taskOfRow (ledger.tasks.find? id)).Holds Ledger.commit Ok aborted ledger _
    rw [found]
    exact holds_pure ⟨rfl, rfl⟩
  refine holds_bind read fun value now same => ?_
  obtain ⟨rfl, rfl⟩ := same
  exact rest

theorem holds_require {holds : Bool} {next : Unit → Program α} (met : holds = true)
    (rest : (next ()).Holds Ledger.commit Ok aborted ledger post) :
    (require holds >>= next).Holds Ledger.commit Ok aborted ledger post := by
  rw [require, if_pos met]
  exact rest

theorem holds_refused {holds : Bool} {next : Unit → Program α} (unmet : holds = false)
    (raises : aborted ledger) :
    (require holds >>= next).Holds Ledger.commit Ok aborted ledger post := by
  rw [require, unmet]
  exact raises

theorem transition_sets {id : Nat} {current status : TaskStatus}
    (held : ledger.statusOf id = some current) (listed : status ∈ validTransitions current) :
    (transition id status).Holds Ledger.commit (fun _ _ => True) aborted ledger
      fun _ now => now = ledger.commit (.setTaskStatus id status "" "" "") := by
  obtain ⟨task, found, rfl⟩ := Option.map_eq_some_iff.mp held
  exact holds_getTask found (holds_require (by simp [listed]) (holds_perform trivial rfl))

def Moved (ledger : Ledger) (id : Nat) (status : TaskStatus) (now : Ledger) : Prop :=
  ∀ other, now.statusOf other = if other = id then some status else ledger.statusOf other

section Moved

variable {now : Ledger} {id : Nat} {status : TaskStatus}

theorem Moved.quiet (moved : Moved ledger id status now) (quiet : write.isQuiet = true) :
    Moved ledger id status (now.commit write) := by
  intro other
  rw [statusOf_quiet quiet]
  exact moved other

theorem Moved.again (moved : Moved ledger id status now) :
    Moved ledger id status (now.commit (.setTaskStatus id status phase summary error)) := by
  intro other
  rw [statusOf_set, moved other]
  split
  · rfl
  · rfl

theorem holds_transition {next : Unit → Program α} (found : ledger.tasks.find? id = some task)
    (listed : status ∈ validTransitions task.status)
    (rest : ∀ now, Moved ledger id status now →
      (next ()).Holds Ledger.commit (fun _ _ => True) aborted now post) :
    (transition id status >>= next).Holds Ledger.commit (fun _ _ => True) aborted ledger post := by
  have held : ledger.statusOf id = some task.status := by
    unfold Ledger.statusOf
    rw [found]
    rfl
  refine holds_bind (transition_sets held listed) fun _ now same => rest now fun other => ?_
  rw [same, statusOf_set]
  split
  next mine =>
    rw [mine, held]
    rfl
  · rfl

end Moved

end Definite

end Wlcodex.Tasks
