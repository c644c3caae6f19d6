import Mathlib.Data.List.Infix
import Wlcodex.Tasks.Calls

namespace Wlcodex.Tasks

open Wlcodex.Lib Script

/-! Draining the waiting slots of a workspace. -/

inductive DrainStage where
  | creating
  | starting
  deriving DecidableEq

structure World where
  ledger : Ledger
  drains : List (Nat × DrainStage) := []

inductive Step where
  | call (call : Call)
  /-- `create_thread` returns; the thread is stored and the turn is started. -/
  | created (index : Nat) (threadId : String)
  /-- `start_turn` returns. -/
  | started (index : Nat)
  /-- Either of them raises. -/
  | raised (index : Nat) (error : String)

section Step

variable (service : Service)

def Service.drained (ledger : Ledger) : Call → Option Task
  | .drain workspaceAlias =>
      ((drainWorkspace service.workspaces workspaceAlias).value? Ledger.commit ledger).join
  | _ => none

def World.step (world : World) : Step → World
  | .call made => {
      ledger := service.apply world.ledger made
      drains := world.drains ++
        (service.drained world.ledger made).toList.map fun task => (task.id, .creating) }
  | .created index threadId =>
      match world.drains[index]? with
      | some (id, .creating) => {
          ledger := (setTaskThread id threadId).final Ledger.commit world.ledger
          drains := world.drains.set index (id, .starting) }
      | _ => world
  | .started index =>
      match world.drains[index]? with
      | some (_, .starting) => { world with drains := world.drains.eraseIdx index }
      | _ => world
  | .raised index error =>
      match world.drains[index]? with
      | some (id, _) => {
          ledger := (failTask id error).final Ledger.commit world.ledger
          drains := world.drains.eraseIdx index }
      | none => world

end Step

structure FirstWaiting (ledger : Ledger) (workspaceAlias : String) (task : Task) : Prop where
  member : task ∈ ledger.tasks
  placed : task.workspaceAlias = workspaceAlias
  waits : task.status = .waitingSlot
  first : ∀ other ∈ ledger.tasks, other.workspaceAlias = workspaceAlias → other.status = .waitingSlot →
    task.createdAt < other.createdAt ∨ task.createdAt = other.createdAt ∧ task.id ≤ other.id

section FirstWaiting

variable {ledger : Ledger} {workspaceAlias : String} {task : Task}

abbrev createdFirst (first second : Task) : Prop :=
  first.createdAt < second.createdAt ∨ first.createdAt = second.createdAt ∧ first.id ≤ second.id

instance : Std.Total createdFirst := ⟨fun first second => by unfold createdFirst; omega⟩

instance : IsTrans Task createdFirst := ⟨fun first second third => by unfold createdFirst; omega⟩

theorem head_listWaitingTasks_iff :
    (ledger.listWaitingTasks workspaceAlias).head? = some task ↔
      FirstWaiting ledger workspaceAlias task := by
  have sorted : (ledger.listWaitingTasks workspaceAlias).Pairwise createdFirst :=
    List.pairwise_insertionSort createdFirst _
  have listed (other : Task) : other ∈ ledger.listWaitingTasks workspaceAlias ↔
      other ∈ ledger.tasks ∧ other.workspaceAlias = workspaceAlias ∧ other.status = .waitingSlot := by
    unfold Ledger.listWaitingTasks
    rw [List.mem_insertionSort, List.mem_filter, decide_eq_true_eq]
    exact Iff.rfl
  generalize ledger.listWaitingTasks workspaceAlias = waiting at sorted listed
  cases waiting with
  | nil =>
      refine iff_of_false (by simp) fun first => ?_
      cases (listed task).mpr ⟨first.member, first.placed, first.waits⟩
  | cons head rest =>
      obtain ⟨inside, placed, waits⟩ := (listed head).mp List.mem_cons_self
      rw [List.head?_cons, Option.some.injEq]
      constructor
      · intro same
        subst same
        refine ⟨inside, placed, waits, fun other member otherPlaced otherWaits => ?_⟩
        rcases List.mem_cons.mp ((listed other).mpr ⟨member, otherPlaced, otherWaits⟩) with same | later
        · rw [same]
          exact .inr ⟨rfl, Nat.le_refl _⟩
        · exact (List.pairwise_cons.mp sorted).1 other later
      · intro first
        have before := first.first head inside placed waits
        have after : createdFirst head task := by
          rcases List.mem_cons.mp ((listed task).mpr ⟨first.member, first.placed, first.waits⟩) with
            same | later
          · rw [same]
            exact .inr ⟨rfl, Nat.le_refl _⟩
          · exact (List.pairwise_cons.mp sorted).1 task later
        have sameId : head.id = task.id := by
          omega
        exact ledger.tasks.eq_of_key inside first.member sameId

end FirstWaiting

/-- `get_workspace` returns. -/
def Service.knows (service : Service) (workspaceAlias : String) : Bool :=
  service.workspaces.any fun workspace => workspace.workspaceAlias = workspaceAlias

section Drain

variable {service : Service} {ledger : Ledger} {workspaceAlias : String} {task : Task}

theorem holds_failTask {error : String} {aborted : Ledger → Prop}
    (member : task ∈ ledger.tasks) (waits : task.status = .waitingSlot) :
    (failTask task.id error).Holds Ledger.commit (fun _ _ => True) aborted ledger
      fun _ now => Moved ledger task.id .failed now := by
  have found := Keyed.find?_eq_some_iff.mpr ⟨member, rfl⟩
  refine holds_getTask found (holds_require (by rw [waits]; rfl) ?_)
  refine holds_transition found (by rw [waits]; decide) fun now moved => ?_
  exact holds_call trivial (holds_perform trivial (moved.again.quiet rfl))

theorem holds_queueWaitingTask (member : task ∈ ledger.tasks) (waits : task.status = .waitingSlot) :
    (queueWaitingTask task.id).Holds Ledger.commit (fun _ _ => True)
      (fun now => now = ledger ∧ ledger.promotable task.id = false) ledger
      fun promoted now => promoted = task ∧ ledger.promotable task.id = true ∧
        Moved ledger task.id .queued now := by
  have found := Keyed.find?_eq_some_iff.mpr ⟨member, rfl⟩
  have held : ledger.statusOf task.id = some .waitingSlot := by
    rw [statusOf_of_mem member, waits]
  have gate : ledger.promotable task.id =
      (!ledger.submissionsFrozen && (ledger.storedPrompt? task.id).isSome) := by
    unfold Ledger.promotable
    rw [held]
    simp
  cases frozen : ledger.submissionsFrozen with
  | true =>
      refine holds_get (holds_refused (by rw [frozen]; rfl) ⟨rfl, ?_⟩)
      rw [gate, frozen]
      rfl
  | false =>
      refine holds_get (holds_require (by rw [frozen]; rfl) ?_)
      refine holds_getTask found (holds_require (by rw [waits]; rfl) (holds_get ?_))
      cases prompt : (ledger.storedPrompt? task.id).isSome with
      | false =>
          refine holds_refused rfl ⟨rfl, ?_⟩
          rw [gate, prompt, Bool.and_false]
      | true =>
          refine holds_require rfl (holds_transition found (by rw [waits]; decide) fun now moved => ?_)
          refine holds_call trivial (holds_pure ⟨rfl, ?_, moved.quiet rfl⟩)
          rw [gate, frozen, prompt]
          rfl

theorem holds_drainWorkspace (free : ledger.shownWriter workspaceAlias none = none)
    (first : FirstWaiting ledger workspaceAlias task) :
    (drainWorkspace service.workspaces workspaceAlias).Holds Ledger.commit (fun _ _ => True)
      (fun now => ledger.promotable task.id = true ∧ service.knows workspaceAlias = false ∧
        Moved ledger task.id .queued now) ledger
      fun started now =>
        (ledger.promotable task.id = true ∧ service.knows workspaceAlias = true ∧ started = some task ∧
          Moved ledger task.id .queued now) ∨
        (ledger.promotable task.id = false ∧ started = none ∧ Moved ledger task.id .failed now) := by
  refine holds_get ?_
  rw [free, head_listWaitingTasks_iff.mpr first]
  have promotes := holds_queueWaitingTask first.member first.waits
  refine holds_bind (@holds_recover _ _ _ _ _ _ _ _ _ _ (fun promoted now =>
    ledger.promotable task.id = true ∧ promoted = some task ∧ Moved ledger task.id .queued now ∨
      ledger.promotable task.id = false ∧ promoted = none ∧ Moved ledger task.id .failed now)
    (holds_bind promotes ?_) ?_) ?_
  · intro promoted now ended
    obtain ⟨rfl, promotable, moved⟩ := ended
    exact holds_pure (.inl ⟨promotable, rfl, moved⟩)
  · intro now refused
    obtain ⟨rfl, promotable⟩ := refused
    refine holds_bind (holds_failTask first.member first.waits) fun _ now moved => ?_
    exact holds_pure (.inr ⟨promotable, rfl, moved⟩)
  · intro promoted now ended
    rcases ended with ⟨promotable, rfl, moved⟩ | ⟨promotable, rfl, moved⟩
    · dsimp only
      unfold getWorkspace
      cases known : service.workspaces.find? fun workspace =>
          workspace.workspaceAlias = task.workspaceAlias with
      | none =>
          refine ⟨promotable, ?_, moved⟩
          unfold Service.knows
          rw [first.placed] at known
          simpa using known
      | some workspace =>
          refine holds_call trivial (holds_pure (.inl ⟨promotable, ?_, rfl, moved.quiet rfl⟩))
          refine List.any_eq_true.mpr ⟨workspace, List.mem_of_find?_eq_some known, ?_⟩
          rw [← first.placed]
          simpa using List.find?_some known
    · exact holds_pure (.inr ⟨promotable, rfl, moved⟩)

theorem drainWorkspace_idle
    (idle : (ledger.shownWriter workspaceAlias none).isSome ∨
      ∀ task, ¬FirstWaiting ledger workspaceAlias task) :
    (drainWorkspace service.workspaces workspaceAlias).Holds Ledger.commit (fun _ _ => True)
      (fun _ => False) ledger fun started now => started = none ∧ now = ledger := by
  refine holds_get ?_
  rcases idle with busy | none_
  · rw [if_pos busy]
    exact holds_pure ⟨rfl, rfl⟩
  · split
    · exact holds_pure ⟨rfl, rfl⟩
    · split
      · exact holds_pure ⟨rfl, rfl⟩
      next head => exact absurd (head_listWaitingTasks_iff.mp head) (none_ _)

end Drain

section Prompts

variable {ledger : Ledger} {id : Nat} {prompt : String}

theorem taskEvents_commit (ledger : Ledger) (write : Write) :
    ledger.taskEvents <+: (ledger.commit write).taskEvents := by
  cases write with
  | createTask workspaceAlias codexThreadId status =>
      change _ <+: (ledger.createTask workspaceAlias codexThreadId status).taskEvents
      unfold Ledger.createTask Ledger.bindThread
      dsimp only
      split
      · split
        · exact List.prefix_rfl
        · split
          · exact List.prefix_rfl
          · exact List.prefix_rfl
      · exact List.prefix_rfl
  | setThreadId number threadId =>
      change _ <+: (Ledger.bindThread _ number threadId).taskEvents
      unfold Ledger.bindThread
      split
      · exact List.prefix_rfl
      · exact List.prefix_rfl
  | createApproval new =>
      change _ <+: (ledger.createApproval new.row fun _ => rfl).taskEvents
      unfold Ledger.createApproval
      dsimp only
      split
      · exact List.prefix_rfl
      · exact List.prefix_rfl
  | addEvent number eventType text => exact List.prefix_append _ _
  | setTaskStatus | setActiveTurn | clearActiveTurn | incrementChangedFiles | incrementPendingApprovals
  | decrementPendingApprovals | setTokenUsage | resolveApproval | setApprovalError =>
      exact List.prefix_rfl

theorem storedPrompt_of_prefix {now : Ledger} (grows : ledger.taskEvents <+: now.taskEvents)
    (stored : ledger.storedPrompt? id = some prompt) : now.storedPrompt? id = some prompt := by
  exact List.IsPrefix.findSome?_eq_some (List.IsPrefix.take (grows.filter _) 200) stored

theorem taskEvents_final {α : Type} (program : Program α) (ledger : Ledger) :
    ledger.taskEvents <+: (program.final Ledger.commit ledger).taskEvents := by
  induction program generalizing ledger with
  | done | raised => exact List.prefix_rfl
  | read rest ih => exact ih ledger ledger
  | call write rest ih => exact (taskEvents_commit ledger write).trans (ih _)

theorem taskEvents_step (service : Service) (world : World) (step : Step) :
    world.ledger.taskEvents <+: (world.step service step).ledger.taskEvents := by
  cases step with
  | call made =>
      cases made
      case clock | freeze | orchestrate => exact List.prefix_rfl
      all_goals exact taskEvents_final _ _
  | created | raised =>
      unfold World.step
      dsimp only
      split
      · exact taskEvents_final _ _
      · exact List.prefix_rfl
  | started index =>
      unfold World.step
      dsimp only
      split
      · exact List.prefix_rfl
      · exact List.prefix_rfl

end Prompts

structure KeepsWaiting (service : Service) (world : World) (step : Step) : Prop where
  /-- A stored prompt stays. -/
  prompts : ∀ id prompt, world.ledger.storedPrompt? id = some prompt →
    (world.step service step).ledger.storedPrompt? id = some prompt
  /-- A drain fails the first waiting task only where it has no prompt. -/
  failed : ∀ workspaceAlias task, step = .call (.drain workspaceAlias) →
    FirstWaiting world.ledger workspaceAlias task →
    (world.step service step).ledger.statusOf task.id = some .failed →
      world.ledger.storedPrompt? task.id = none
  /-- A task that is not promoted for another reason keeps waiting. -/
  refused : ∀ workspaceAlias task, step = .call (.drain workspaceAlias) →
    FirstWaiting world.ledger workspaceAlias task → (world.ledger.storedPrompt? task.id).isSome →
    service.drained world.ledger (.drain workspaceAlias) = none →
      (world.step service step).ledger.statusOf task.id = some .waitingSlot
  /-- A drain of a free workspace takes the first waiting task, where nothing speaks against it. -/
  promoted : ∀ workspaceAlias task, step = .call (.drain workspaceAlias) →
    FirstWaiting world.ledger workspaceAlias task → (world.ledger.storedPrompt? task.id).isSome →
    world.ledger.shownWriter workspaceAlias none = none → world.ledger.submissionsFrozen = false →
    service.knows workspaceAlias = true →
      service.drained world.ledger (.drain workspaceAlias) = some task ∧
        (world.step service step).ledger.statusOf task.id = some .queued
  /-- A drain touches no other task. -/
  others : ∀ workspaceAlias id, step = .call (.drain workspaceAlias) →
    (∀ task, FirstWaiting world.ledger workspaceAlias task → task.id ≠ id) →
      (world.step service step).ledger.statusOf id = world.ledger.statusOf id
  /-- An answer of the backend changes no status. -/
  answers : ∀ index, (∃ threadId, step = .created index threadId) ∨ step = .started index →
    (world.step service step).ledger.statusOf = world.ledger.statusOf

def Unblocked (service : Service) (world : World) (step : Step) : Prop :=
  ∀ workspaceAlias task, step = .call (.drain workspaceAlias) →
    FirstWaiting world.ledger workspaceAlias task → (world.ledger.storedPrompt? task.id).isSome →
    world.ledger.shownWriter workspaceAlias none = none →
      world.ledger.submissionsFrozen = false ∧ service.knows workspaceAlias = true

section Unblocked

variable {service : Service} {world : World} {workspaceAlias : String} {task : Task}

theorem promotable_iff {ledger : Ledger} (first : FirstWaiting ledger workspaceAlias task) :
    ledger.promotable task.id = true ↔
      ledger.submissionsFrozen = false ∧ (ledger.storedPrompt? task.id).isSome := by
  have held := statusOf_of_mem first.member
  rw [first.waits] at held
  unfold Ledger.promotable
  rw [held]
  simp

theorem step_drain : (world.step service (.call (.drain workspaceAlias))).ledger =
    (drainWorkspace service.workspaces workspaceAlias).final Ledger.commit world.ledger := by
  change (drainWorkspace service.workspaces workspaceAlias >>= fun _ => pure ()).final _ _ = _
  rw [final_bind]
  split
  · rfl
  · rfl

theorem drained_drain {ledger : Ledger} : service.drained ledger (.drain workspaceAlias) =
    ((drainWorkspace service.workspaces workspaceAlias).value? Ledger.commit ledger).join := rfl

theorem drain_cases (free : world.ledger.shownWriter workspaceAlias none = none)
    (first : FirstWaiting world.ledger workspaceAlias task) :
    (world.ledger.promotable task.id = true ∧
      Moved world.ledger task.id .queued
        (world.step service (.call (.drain workspaceAlias))).ledger ∧
      service.drained world.ledger (.drain workspaceAlias) =
        if service.knows workspaceAlias then some task else none) ∨
    (world.ledger.promotable task.id = false ∧
      Moved world.ledger task.id .failed
        (world.step service (.call (.drain workspaceAlias))).ledger ∧
      service.drained world.ledger (.drain workspaceAlias) = none) := by
  have ends := ends_of_holds (@holds_drainWorkspace service _ _ _ free first)
  rw [step_drain, drained_drain]
  cases ended : (drainWorkspace service.workspaces workspaceAlias).value? Ledger.commit world.ledger with
  | none =>
      obtain ⟨promotable, unknown, moved⟩ := ends.2 ended
      rw [unknown]
      exact .inl ⟨promotable, moved, rfl⟩
  | some started =>
      rcases ends.1 started ended with ⟨promotable, known, rfl, moved⟩ | ⟨promotable, rfl, moved⟩
      · rw [known]
        exact .inl ⟨promotable, moved, rfl⟩
      · exact .inr ⟨promotable, moved, rfl⟩

theorem drain_idle (idle : (world.ledger.shownWriter workspaceAlias none).isSome ∨
      ∀ task, ¬FirstWaiting world.ledger workspaceAlias task) :
    (world.step service (.call (.drain workspaceAlias))).ledger = world.ledger ∧
      service.drained world.ledger (.drain workspaceAlias) = none := by
  have ends := ends_of_holds (@drainWorkspace_idle service _ _ idle)
  rw [step_drain, drained_drain]
  cases ended : (drainWorkspace service.workspaces workspaceAlias).value? Ledger.commit world.ledger with
  | none => exact absurd (ends.2 ended) id
  | some started =>
      obtain ⟨rfl, same⟩ := ends.1 started ended
      exact ⟨same, rfl⟩

theorem keeps_of_unblocked {step : Step} (unblocked : Unblocked service world step) :
    KeepsWaiting service world step where
  prompts id prompt := storedPrompt_of_prefix (taskEvents_step service world step)
  failed workspaceAlias task drains first fails := by
    subst drains
    cases free : world.ledger.shownWriter workspaceAlias none with
    | some writer =>
        rw [(drain_idle (.inl (by rw [free]; rfl))).1, statusOf_of_mem first.member, first.waits] at fails
        cases fails
    | none =>
        rcases drain_cases free first with ⟨-, moved, -⟩ | ⟨refused, -⟩
        · rw [moved, if_pos rfl] at fails
          cases fails
        · cases prompt : world.ledger.storedPrompt? task.id with
          | none => rfl
          | some text =>
              have stored : (world.ledger.storedPrompt? task.id).isSome := by rw [prompt]; rfl
              have passes := (promotable_iff first).mpr
                ⟨(unblocked _ _ rfl first stored free).1, stored⟩
              rw [refused] at passes
              cases passes
  refused workspaceAlias task drains first stored idle := by
    subst drains
    cases free : world.ledger.shownWriter workspaceAlias none with
    | some writer =>
        rw [(drain_idle (.inl (by rw [free]; rfl))).1, statusOf_of_mem first.member, first.waits]
    | none =>
        obtain ⟨opened, known⟩ := unblocked _ _ rfl first stored free
        rcases drain_cases free first with ⟨-, -, started⟩ | ⟨refused, -⟩
        · rw [known, idle] at started
          cases started
        · rw [(promotable_iff first).mpr ⟨opened, stored⟩] at refused
          cases refused
  promoted workspaceAlias task drains first stored free opened known := by
    subst drains
    rcases drain_cases free first with ⟨-, moved, started⟩ | ⟨refused, -⟩
    · rw [known] at started
      exact ⟨started, by rw [moved, if_pos rfl]⟩
    · rw [(promotable_iff first).mpr ⟨opened, stored⟩] at refused
      cases refused
  others workspaceAlias id drains other := by
    subst drains
    by_cases idle : (world.ledger.shownWriter workspaceAlias none).isSome ∨
        ∀ task, ¬FirstWaiting world.ledger workspaceAlias task
    · rw [(drain_idle idle).1]
    · rw [not_or, Bool.not_eq_true, Option.isSome_eq_false_iff, Option.isNone_iff_eq_none,
        not_forall_not] at idle
      obtain ⟨free, task, first⟩ := idle
      have apart : id ≠ task.id := (other task first).symm
      rcases drain_cases free first with ⟨-, moved, -⟩ | ⟨-, moved, -⟩
      · rw [moved, if_neg apart]
      · rw [moved, if_neg apart]
  answers index answer := by
    rcases answer with ⟨threadId, rfl⟩ | rfl
    · unfold World.step
      dsimp only
      split
      · change ((world.ledger.commit (.setThreadId _ threadId)).commit
          (.addEvent _ "thread_started" [])).statusOf = _
        rw [statusOf_quiet rfl, statusOf_quiet rfl]
      · rfl
    · unfold World.step
      dsimp only
      split
      · rfl
      · rfl

theorem unblocked_of_keeps {step : Step} (keeps : KeepsWaiting service world step) :
    Unblocked service world step := by
  intro workspaceAlias task drains first stored free
  subst drains
  rcases drain_cases free first with ⟨promotable, moved, started⟩ | ⟨-, moved, -⟩
  · refine ⟨((promotable_iff first).mp promotable).1, ?_⟩
    cases known : service.knows workspaceAlias with
    | true => rfl
    | false =>
        rw [known] at started
        have waits := keeps.refused _ _ rfl first stored started
        rw [moved, if_pos rfl] at waits
        cases waits
  · have missing := keeps.failed _ _ rfl first (by rw [moved, if_pos rfl])
    rw [missing] at stored
    cases stored

end Unblocked

/-- Along a run every drain keeps waiting work exactly when each of them is unblocked. -/
theorem waiting_work_kept_iff (service : Service) (world : World) (steps : List Step) :
    Along (World.step service) (KeepsWaiting service) world steps ↔
      Along (World.step service) (Unblocked service) world steps :=
  along_congr (along_mono (fun _ _ _ => ⟨unblocked_of_keeps, keeps_of_unblocked⟩)
    (along_true world steps))

def frozenDrain : List Step :=
  [.call (.reserveWaiting "demo" "first"), .call (.freeze true), .call (.drain "demo")]

/-- The waiting task has its prompt, and is failed. -/
theorem frozen_drain_fails_waiting_task :
    let world := (frozenDrain.take 2).foldl (World.step sampleService) ⟨{}, []⟩
    let after := frozenDrain.foldl (World.step sampleService) ⟨{}, []⟩
    world.ledger.statusOf 1 = some .waitingSlot ∧ world.ledger.storedPrompt? 1 = some "first" ∧
      world.drains = [] ∧ after.ledger.statusOf 1 = some .failed := by
  decide

end Wlcodex.Tasks
