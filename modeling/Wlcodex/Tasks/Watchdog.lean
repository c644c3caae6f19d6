import Mathlib.Data.Prod.Lex
import Wlcodex.Lib.Paging
import Wlcodex.Tasks.Ledger

namespace Wlcodex.Tasks

open Wlcodex.Lib
open Wlcodex.Projector (TaskStatus)

/-! `watchdog.py`.  The times are microseconds, ages and limits are seconds. -/

structure TaskLivenessConfig where
  maxRunningSeconds : Int
  maxQueuedSeconds : Int
  maxWaitingApprovalSeconds : Int
  backendDeadGraceSeconds : Int

def TaskLivenessConfig.thresholdFor (config : TaskLivenessConfig) : TaskStatus → Option Int
  | .running => some config.maxRunningSeconds
  | .queued => some config.maxQueuedSeconds
  | _ => none

def Task.updateMark (task : Task) : Nat ×ₗ Nat := toLex (task.updatedAt, task.id)

/-- `ORDER BY updated_at ASC, id ASC`. -/
def Ledger.listActiveTasks (ledger : Ledger) (limit : Nat) : List Task :=
  ((ledger.tasks.rows.filter fun task => isActive task.status).insertionSort
    fun first second => first.updateMark ≤ second.updateMark).take limit

/-- `int((now - since).total_seconds())` cuts towards zero. -/
def secondsBetween (since now : Nat) : Int := ((now : Int) - since).tdiv 1000000

def statusValue : TaskStatus → String
  | .queued => "queued"
  | .running => "running"
  | .waitingApproval => "waiting_approval"
  | .paused => "paused"
  | .waitingSlot => "waiting_slot"
  | .done => "done"
  | .failed => "failed"
  | .aborted => "aborted"
  | .archived => "archived"

def Ledger.markTaskTimeout (ledger : Ledger) (task : Task) (ageSeconds thresholdSeconds : Int) : Ledger :=
  let error := "task timed out in " ++ statusValue task.status ++ " after " ++ toString ageSeconds ++
    "s (limit " ++ toString thresholdSeconds ++ "s)"
  [Write.setTaskStatus task.id .failed "timeout" "" (String.ofList (error.toList.take 240)),
    .addEvent task.id "task_timeout" [("status", .string (statusValue task.status)),
      ("age_seconds", .int ageSeconds), ("threshold_seconds", .int thresholdSeconds)],
    .clearActiveTurn task.id].foldl Ledger.commit ledger

def Ledger.markBackendDead (ledger : Ledger) (id : Nat) (summary : String) : Ledger :=
  [Write.setTaskStatus id .failed "backend_dead" "" (String.ofList (("backend dead: " ++ summary).toList.take 240)),
    .addEvent id "backend_dead" [("summary", .string (String.ofList (summary.toList.take 500)))],
    .clearActiveTurn id].foldl Ledger.commit ledger

/-- The ledger and the number of tasks changed. -/
abbrev Scan := Ledger × Nat

/-- A task of the list of active tasks: its age is compared where its status has a limit. -/
def considerTask (config : TaskLivenessConfig) (now : Nat) (scan : Scan) (task : Task) : Scan :=
  match config.thresholdFor task.status with
  | none => scan
  | some threshold =>
      let age := secondsBetween task.updatedAt now
      if threshold < age then (scan.1.markTaskTimeout task age threshold, scan.2 + 1) else scan

def markStaleTasks (config : TaskLivenessConfig) (now : Nat) (ledger : Ledger) : Scan :=
  (ledger.listActiveTasks 100).foldl (considerTask config now) (ledger, 0)

def hasThread (task : Task) : Bool := task.codexThreadId.any fun thread => thread ≠ ""

/-- The health of the backend is a flag and a summary; the first value is since when it is bad. -/
def markBackendDeadIfSustained (config : TaskLivenessConfig) (healthy : Bool) (summary : String) (now : Nat)
    (backendUnhealthySince : Option Nat) (scan : Scan) : Option Nat × Scan :=
  if healthy then (none, scan)
  else
    match backendUnhealthySince with
    | none => (some now, scan)
    | some since =>
        if secondsBetween since now ≤ config.backendDeadGraceSeconds then (some since, scan)
        else (some since, ((scan.1.listActiveTasks 100).filter hasThread).foldl
          (fun scan task => (scan.1.markBackendDead task.id summary, scan.2 + 1)) scan)

def scanOnce (config : TaskLivenessConfig) (healthy : Bool) (summary : String) (now : Nat)
    (backendUnhealthySince : Option Nat) (ledger : Ledger) : Option Nat × Scan :=
  markBackendDeadIfSustained config healthy summary now backendUnhealthySince (markStaleTasks config now ledger)

/-- The tasks whose ages the scan compares with their limits. -/
def considered (config : TaskLivenessConfig) (ledger : Ledger) : List Task :=
  (ledger.listActiveTasks 100).filter fun task => (config.thresholdFor task.status).isSome

/-- The last update is longer ago than the limit of the status. -/
def IsStale (config : TaskLivenessConfig) (now : Nat) (task : Task) : Prop :=
  ∃ threshold, config.thresholdFor task.status = some threshold ∧
    threshold * 1000000 < (now : Int) - task.updatedAt

def activeAhead (ledger : Ledger) (task : Task) : Nat :=
  ledger.tasks.rows.countP fun other => Ledger.isActive other.status ∧ other.updateMark < task.updateMark

section Coverage

variable {config : TaskLivenessConfig} {ledger : Ledger} {task : Task}

theorem isActive_of_threshold (limited : (config.thresholdFor task.status).isSome = true) :
    Ledger.isActive task.status = true := by
  cases status : task.status <;> rw [status] at limited <;> first | rfl | cases limited

theorem mem_considered_iff (member : task ∈ ledger.tasks)
    (limited : (config.thresholdFor task.status).isSome = true) :
    task ∈ considered config ledger ↔ activeAhead ledger task < 100 := by
  have active := isActive_of_threshold limited
  have apart : (ledger.tasks.rows.filter fun task => Ledger.isActive task.status).Pairwise
      fun first second => first.updateMark ≠ second.updateMark :=
    (ledger.tasks.unique.filter _).imp fun different same =>
      different (congrArg Prod.snd (toLex.injective same))
  have inside : task ∈ ledger.tasks.rows.filter fun task => Ledger.isActive task.status :=
    List.mem_filter.mpr ⟨member, active⟩
  rw [considered, List.mem_filter, and_iff_left limited, Ledger.listActiveTasks,
    Paging.mem_first_iff apart inside, List.countP_filter, activeAhead]
  simp only [Bool.decide_and, Bool.and_comm, Bool.decide_eq_true]

/-- The scan compares the tasks of `considered`, and changes nothing for others. -/
theorem markStaleTasks_considered (now : Nat) :
    markStaleTasks config now ledger = (considered config ledger).foldl (considerTask config now) (ledger, 0) := by
  unfold markStaleTasks considered
  rw [List.foldl_filter]
  congr 1
  funext scan task
  unfold considerTask
  cases config.thresholdFor task.status <;> rfl

/-- The list of active tasks ends at a hundred, and paused tasks and those that wait for an approval
have their places in it. -/
theorem scan_considers_iff (config : TaskLivenessConfig) (ledger : Ledger) (now : Nat) :
    (∀ task ∈ ledger.tasks, IsStale config now task → task ∈ considered config ledger) ↔
      ∀ task ∈ ledger.tasks, IsStale config now task → activeAhead ledger task < 100 := by
  refine forall₃_congr fun task member stale => mem_considered_iff member ?_
  obtain ⟨threshold, found, _⟩ := stale
  rw [found]
  rfl

/-- A hundred paused tasks, and a task that runs and was updated after them. -/
def crowdedLedger : Ledger where
  tasks := ⟨(List.range 101).map fun id =>
      { id, workspaceAlias := "main", status := if id < 100 then .paused else .running, updatedAt := id },
    List.pairwise_map.mpr List.nodup_range⟩

def crowdedTask : Task where
  id := 100
  workspaceAlias := "main"
  status := .running
  updatedAt := 100

theorem running_task_missed :
    ¬ ∀ (config : TaskLivenessConfig) (ledger : Ledger) (now : Nat), ∀ task ∈ ledger.tasks,
      IsStale config now task → task ∈ considered config ledger := by
  intro all
  have member : crowdedTask ∈ crowdedLedger.tasks := List.mem_map.mpr ⟨100, by decide, rfl⟩
  have missed := all ⟨60, 60, 60, 60⟩ crowdedLedger 100000000 crowdedTask member ⟨60, rfl, by decide⟩
  exact absurd missed (by decide +kernel)

end Coverage

end Wlcodex.Tasks
