import Wlcodex.Tasks.Calls

namespace Wlcodex.Tasks

open Wlcodex.Lib Script
open Wlcodex.Projector (TaskStatus)

/-! One writer for each workspace. -/

namespace Ledger

def writers (ledger : Ledger) (workspaceAlias : String) : List Task :=
  ledger.tasks.rows.filter fun task =>
    task.workspaceAlias = workspaceAlias ∧ isActive task.status ∧ task.worktreePath = ""

def OneWriter (ledger : Ledger) : Prop :=
  ∀ workspaceAlias, (ledger.writers workspaceAlias).length ≤ 1

instance (ledger : Ledger) (task : Task) (workspaceAlias : String) :
    Decidable (task ∈ ledger.writers workspaceAlias) :=
  inferInstanceAs (Decidable (task ∈ List.filter _ _))

variable {task : Task}

theorem mem_writers {ledger : Ledger} {workspaceAlias : String} :
    task ∈ ledger.writers workspaceAlias ↔ task ∈ ledger.tasks ∧
      task.workspaceAlias = workspaceAlias ∧ isActive task.status = true ∧ task.worktreePath = "" := by
  unfold writers
  rw [List.mem_filter, decide_eq_true_eq]
  exact Iff.rfl

theorem oneWriter_iff {ledger : Ledger} : ledger.OneWriter ↔ ∀ workspaceAlias,
    ∀ first ∈ ledger.writers workspaceAlias, ∀ second ∈ ledger.writers workspaceAlias,
      first.id = second.id := by
  refine forall_congr' fun workspaceAlias => ?_
  have apart := ledger.tasks.unique.filter fun task =>
    task.workspaceAlias = workspaceAlias ∧ isActive task.status ∧ task.worktreePath = ""
  change (ledger.writers workspaceAlias).Pairwise _ at apart
  generalize ledger.writers workspaceAlias = found at apart
  cases found with
  | nil => simp
  | cons head rest =>
      cases rest with
      | nil => simp
      | cons next rest =>
          rw [List.pairwise_cons] at apart
          refine iff_of_false (by simp) fun same => ?_
          exact apart.1 next List.mem_cons_self (same head List.mem_cons_self next (by simp))

end Ledger

theorem patch_place {write : Write} {change : Nat × Patch Task.id} (patched : write.patch? = some change)
    (task : Task) :
    (change.2.apply task).workspaceAlias = task.workspaceAlias ∧
      (change.2.apply task).worktreePath = task.worktreePath := by
  cases write
  all_goals cases patched
  all_goals exact ⟨rfl, rfl⟩

theorem origin_commit {ledger : Ledger} {write : Write} (member : task ∈ (ledger.commit write).tasks) :
    (∃ old ∈ ledger.tasks, old.id = task.id ∧ old.workspaceAlias = task.workspaceAlias ∧
      old.worktreePath = task.worktreePath) ∨
    ∃ codexThreadId, write = .createTask task.workspaceAlias codexThreadId task.status ∧
      task.id = ledger.tasks.nextKey := by
  cases adds : write.creates with
  | true =>
      cases write with
      | createTask workspaceAlias codexThreadId status =>
          rw [tasks_create, Keyed.mem_append] at member
          rcases member with member | new
          · exact .inl ⟨task, member, rfl, rfl, rfl⟩
          · subst new
            exact .inr ⟨codexThreadId, rfl, rfl⟩
      | _ => cases adds
  | false =>
      rw [tasks_commit adds] at member
      refine .inl ?_
      cases patched : write.patch? with
      | none =>
          rw [patched] at member
          exact ⟨task, member, rfl, rfl, rfl⟩
      | some change =>
          rw [patched] at member
          rcases Keyed.mem_update.mp member with ⟨old, inside, -, rfl⟩ | ⟨inside, -⟩
          · obtain ⟨place, tree⟩ := patch_place patched old
            exact ⟨old, inside, (change.2.sameKey old).symm, place.symm, tree.symm⟩
          · exact ⟨task, inside, rfl, rfl, rfl⟩

def wakingRule (woken : Option (Nat × String)) : StatusRule where
  allowed id before after := Ledger.isActive after = true →
    Ledger.isActive before = true ∨ ∃ workspaceAlias, woken = some (id, workspaceAlias)
  created id workspaceAlias status :=
    (Ledger.isActive status = true → woken = some (id, workspaceAlias)) ∧
      ∀ other, woken = some (id, other) → workspaceAlias = other
  refl _ _ active := .inl active

/-- What is active was active at the start, or is the task that was to become active. -/
structure Woken (woken : Option (Nat × String)) (first now : Ledger) : Prop where
  active : ∀ workspaceAlias, ∀ task ∈ now.writers workspaceAlias,
    (∃ old ∈ first.writers workspaceAlias, old.id = task.id) ∨ woken = some (task.id, workspaceAlias)
  placed : ∀ id workspaceAlias, woken = some (id, workspaceAlias) → ∀ task ∈ now.tasks, task.id = id →
    task.workspaceAlias = workspaceAlias

section Woken

variable {woken : Option (Nat × String)} {first now : Ledger} {write : Write}

theorem woken_step (holds : Woken woken first now) (change : StatusChange (wakingRule woken) now write) :
    Woken woken first (now.commit write) where
  active workspaceAlias task member := by
    obtain ⟨inside, rfl, active, tree⟩ := Ledger.mem_writers.mp member
    rcases origin_commit inside with ⟨old, before, same, place, oldTree⟩ | ⟨thread, rfl, new⟩
    · have later : (now.commit write).statusOf old.id = some task.status := by
        rw [same]
        exact statusOf_of_mem inside
      rcases change.allowed _ _ _ (statusOf_of_mem before) later active with going | ⟨other, wakes⟩
      · have writer : old ∈ now.writers task.workspaceAlias :=
          Ledger.mem_writers.mpr ⟨before, place, going, oldTree.trans tree⟩
        have earlier := holds.active _ old writer
        rw [same] at earlier
        exact earlier
      · rw [← place, holds.placed _ _ wakes old before rfl, ← same]
        exact .inr wakes
    · rw [new]
      exact .inr ((change.created _ _ _ rfl).1 active)
  placed id workspaceAlias wakes task inside named := by
    rcases origin_commit inside with ⟨old, before, same, place, -⟩ | ⟨thread, rfl, new⟩
    · rw [← place]
      exact holds.placed _ _ wakes old before (same.trans named)
    · refine (change.created _ _ _ rfl).2 _ ?_
      rw [wakes, ← named, new]

theorem woken_run {writes : List Write} (holds : Woken woken first now)
    (changes : Along Ledger.commit (StatusChange (wakingRule woken)) now writes) :
    Woken woken first (writes.foldl Ledger.commit now) := by
  induction writes generalizing now with
  | nil => exact holds
  | cons write rest ih => exact ih (woken_step holds changes.1) changes.2

end Woken

def Service.wakes? (service : Service) (ledger : Ledger) (call : Call) : Option (Nat × String) :=
  (((service.opening? ledger call).filter fun opening =>
      (ledger.shownWriter opening.workspaceAlias opening.exclude).isNone).map fun opening =>
    (opening.id, opening.workspaceAlias)).or
  ((service.unasked? ledger call).map fun task => (task.id, task.workspaceAlias))

section Wakes

variable {service : Service} {ledger : Ledger} {call : Call} {id : Nat} {workspaceAlias : String}

theorem wakes_cases (wakes : service.wakes? ledger call = some (id, workspaceAlias)) :
    (∃ exclude, service.opening? ledger call = some ⟨id, workspaceAlias, exclude⟩ ∧
      ledger.shownWriter workspaceAlias exclude = none) ∨
    ∃ task, service.unasked? ledger call = some task ∧ task.id = id ∧
      task.workspaceAlias = workspaceAlias := by
  rcases Option.or_eq_some_iff.mp wakes with asked | ⟨-, unasked⟩
  · obtain ⟨opening, found, same⟩ := Option.map_eq_some_iff.mp asked
    obtain ⟨found, free⟩ := Option.filter_eq_some_iff.mp found
    cases same
    exact .inl ⟨opening.exclude, found, Option.isNone_iff_eq_none.mp free⟩
  · obtain ⟨task, found, same⟩ := Option.map_eq_some_iff.mp unasked
    cases same
    exact .inr ⟨task, found, rfl, rfl⟩

theorem wakes_of_opening {opening : Opening} (found : service.opening? ledger call = some opening)
    (free : ledger.shownWriter opening.workspaceAlias opening.exclude = none) :
    service.wakes? ledger call = some (opening.id, opening.workspaceAlias) := by
  unfold Service.wakes?
  rw [found, Option.filter_some, free]
  rfl

theorem wakes_of_unasked (asks : service.opening? ledger call = none)
    (found : service.unasked? ledger call = some task) :
    service.wakes? ledger call = some (task.id, task.workspaceAlias) := by
  unfold Service.wakes?
  rw [asks, found]
  rfl

theorem mem_of_listWaitingTasks (found : (ledger.listWaitingTasks workspaceAlias).head? = some task) :
    task ∈ ledger.tasks ∧ task.workspaceAlias = workspaceAlias ∧ task.status = .waitingSlot := by
  have member := List.mem_of_head? found
  unfold Ledger.listWaitingTasks at member
  rw [List.mem_insertionSort, List.mem_filter, decide_eq_true_eq] at member
  exact member

theorem opening_cases {opening : Opening} (found : service.opening? ledger call = some opening) :
    (opening.id = ledger.tasks.nextKey ∧ opening.exclude = none) ∨
    ∃ task ∈ ledger.tasks, task.id = opening.id ∧ task.workspaceAlias = opening.workspaceAlias ∧
      (opening.exclude = none ∨ opening.exclude = some opening.id) := by
  cases call with
  | reserve | start =>
      obtain ⟨-, same⟩ := Option.ite_none_right_eq_some.mp found
      cases same
      exact .inl ⟨rfl, rfl⟩
  | continue_ number newCodexThreadId =>
      obtain ⟨task, stored, same⟩ := Option.map_eq_some_iff.mp found
      obtain ⟨inside, named⟩ := Keyed.find?_eq_some_iff.mp (Option.filter_eq_some_iff.mp stored).1
      cases same
      exact .inr ⟨task, inside, named, rfl, .inr rfl⟩
  | drain workspaceAlias =>
      obtain ⟨task, head, same⟩ := Option.map_eq_some_iff.mp found
      obtain ⟨inside, placed, -⟩ := mem_of_listWaitingTasks (Option.filter_eq_some_iff.mp head).1
      cases same
      exact .inr ⟨task, inside, rfl, placed, .inl rfl⟩
  | _ => cases found

theorem mem_of_unasked (found : service.unasked? ledger call = some task) :
    task ∈ ledger.tasks := by
  cases call with
  | promote number => exact (Keyed.find?_eq_some_iff.mp (Option.filter_eq_some_iff.mp found).1).1
  | event event => exact mem_of_taskOf (Option.filter_eq_some_iff.mp found).1
  | _ => cases found

theorem wakes_placed (wakes : service.wakes? ledger call = some (id, workspaceAlias)) :
    ∀ task ∈ ledger.tasks, task.id = id → task.workspaceAlias = workspaceAlias := by
  intro task member named
  rcases wakes_cases wakes with ⟨exclude, found, -⟩ | ⟨other, found, called, placed⟩
  · rcases opening_cases found with ⟨new, -⟩ | ⟨other, inside, called, placed, -⟩
    · exact absurd (named.trans new) (Nat.ne_of_lt (Keyed.lt_nextKey member))
    · rw [ledger.tasks.eq_of_key member inside (named.trans called.symm)]
      exact placed
  · rw [ledger.tasks.eq_of_key member (mem_of_unasked found) (named.trans called.symm)]
    exact placed

theorem active_of_listed {before after : TaskStatus} (listed : after ∈ validTransitions before)
    (other : after ≠ .queued) (active : Ledger.isActive after = true) :
    Ledger.isActive before = true := by
  cases before
  all_goals
    cases after
    all_goals
      revert listed other active
      decide

theorem permits_waking : PermitsCall (wakingRule (service.wakes? ledger call)) service ledger call where
  table id before after listed other active := .inl (active_of_listed listed other active)
  waiting workspaceAlias prompt called id other := by
    subst called
    exact ⟨fun active => absurd active (by decide), fun _ wakes => by cases wakes⟩
  asked opening found free := by
    have wakes := wakes_of_opening found free
    refine ⟨⟨fun _ => wakes, fun other same => ?_⟩, fun _ _ _ => .inr ⟨_, wakes⟩⟩
    rw [wakes] at same
    cases same
    rfl
  promoted id called promotable := by
    subst called
    refine fun _ => .inr ?_
    cases stored : ledger.tasks.find? id with
    | none =>
        unfold Ledger.promotable Ledger.statusOf at promotable
        rw [stored] at promotable
        simp at promotable
    | some task =>
        have called := (Keyed.find?_eq_some_iff.mp stored).2
        have found : service.unasked? ledger (.promote id) = some task := by
          unfold Service.unasked?
          dsimp only
          rw [stored, Option.filter_some, called, if_pos promotable]
        rw [wakes_of_unasked rfl found, called]
        exact ⟨_, rfl⟩
  events event called task found := by
    subst called
    exact {
      table := fun before after listed other active => .inl (active_of_listed listed other active)
      failed := fun _ _ active => absurd active (by decide)
      interrupted := fun _ _ _ _ active => absurd active (by decide)
      found := fun _ _ _ => .inl (by decide)
      running := by
        intro keeps going _
        cases active : Ledger.isActive task.status with
        | true => exact .inl rfl
        | false =>
            have idle : task.status ∈ [.done, .waitingSlot] := by
              revert going active
              cases task.status
              all_goals decide
            have unasked : service.unasked? ledger (.event event) = some task := by
              unfold Service.unasked?
              dsimp only
              rw [found, Option.filter_some, if_pos (decide_eq_true ⟨keeps, idle⟩)]
            exact .inr ⟨_, wakes_of_unasked rfl unasked⟩ }

end Wakes

/-- Where the service asks for the writer of a workspace that has one, one is among the 100 tasks
that were updated last.  Where it does not ask, no other task works there. -/
structure Guarded (service : Service) (ledger : Ledger) (call : Call) : Prop where
  shown : ∀ opening, service.opening? ledger call = some opening →
    ∀ task ∈ ledger.writers opening.workspaceAlias, opening.exclude ≠ some task.id →
      ∃ holder ∈ ledger.listTasks 100,
        holder ∈ ledger.writers opening.workspaceAlias ∧ opening.exclude ≠ some holder.id
  alone : ∀ task, service.unasked? ledger call = some task →
    ∀ other ∈ ledger.writers task.workspaceAlias, other.id = task.id

section Guarded

variable {service : Service} {ledger : Ledger} {call : Call}

theorem wakes_alone {id : Nat} {workspaceAlias : String} (guarded : Guarded service ledger call)
    (wakes : service.wakes? ledger call = some (id, workspaceAlias)) :
    ∀ task ∈ ledger.writers workspaceAlias, task.id = id := by
  intro task member
  rcases wakes_cases wakes with ⟨exclude, found, free⟩ | ⟨stored, found, rfl, rfl⟩
  · by_cases excluded : exclude = some task.id
    · rcases opening_cases found with ⟨-, none_⟩ | ⟨-, -, -, -, none_ | self⟩
      · exact absurd (excluded.symm.trans none_) (by simp)
      · exact absurd (excluded.symm.trans none_) (by simp)
      · exact Option.some.inj (excluded.symm.trans self)
    · obtain ⟨holder, shown, writer, other⟩ := guarded.shown _ found task member excluded
      have unseen := List.find?_eq_none.mp free holder shown
      obtain ⟨-, placed, active, tree⟩ := Ledger.mem_writers.mp writer
      exact absurd (decide_eq_true ⟨other, placed, active, tree⟩) unseen
  · exact guarded.alone stored found task member

theorem oneWriter_call (guarded : Guarded service ledger call) (one : ledger.OneWriter) :
    (service.apply ledger call).OneWriter := by
  have woken : Woken (service.wakes? ledger call) ledger
      ((service.program call).final Ledger.commit ledger) := by
    rw [final_eq_foldl]
    refine woken_run ⟨fun _ task member => .inl ⟨task, member, rfl⟩, ?_⟩
      (along_of_holds (sound_program permits_waking))
    exact fun _ _ wakes => wakes_placed wakes
  have final : ((service.program call).final Ledger.commit ledger).OneWriter := by
    rw [Ledger.oneWriter_iff] at one ⊢
    intro workspaceAlias first firstMember second secondMember
    rcases woken.active _ first firstMember with ⟨firstOld, firstWriter, same⟩ | firstWakes
    · rw [← same]
      rcases woken.active _ second secondMember with ⟨secondOld, secondWriter, same⟩ | wakes
      · rw [← same]
        exact one _ _ firstWriter _ secondWriter
      · exact wakes_alone guarded wakes firstOld firstWriter
    · rcases woken.active _ second secondMember with ⟨secondOld, secondWriter, same⟩ | wakes
      · rw [← same]
        exact (wakes_alone guarded firstWakes secondOld secondWriter).symm
      · exact congrArg Prod.fst (Option.some.inj (firstWakes.symm.trans wakes))
  cases call
  all_goals exact final

end Guarded

/-- Along every run whose calls are guarded, no workspace has two writers. -/
theorem one_writer_each_workspace (service : Service) (ledger : Ledger) (calls : List Call)
    (one : ledger.OneWriter) (guarded : Along service.apply (Guarded service) ledger calls) :
    (calls.foldl service.apply ledger).OneWriter := by
  induction calls generalizing ledger with
  | nil => exact one
  | cons call rest ih => exact ih _ (oneWriter_call guarded.1 one) guarded.2

theorem one_writer_of_two_reservations :
    ([Call.reserve "demo" "first", .reserve "demo" "second"].foldl sampleService.apply {}).OneWriter := by
  refine one_writer_each_workspace _ _ _ (fun _ => Nat.zero_le 1) ⟨⟨?_, ?_⟩, ⟨?_, ?_⟩, trivial⟩
  · intro opening found task member
    cases member
  · intro task found
    cases found
  · intro opening found
    cases found
    decide
  · intro task found
    cases found

def lateTurn : List Call :=
  let event := fun type => Call.event ⟨type, [("threadId", .string "thread-1")]⟩
  [.start "demo" (some "thread-1"), event .turnStarted, event .turnCompleted,
    .start "demo" (some "thread-2"), .orchestrate [⟨1, some 1⟩] [⟨1, "running", "implementer"⟩],
    event .turnCompleted]

theorem late_turn_makes_second_writer :
    let ledger := lateTurn.foldl sampleService.apply {}
    ledger.statusOf 1 = some .running ∧ ledger.statusOf 2 = some .queued ∧ ¬ledger.OneWriter := by
  refine ⟨by decide, by decide, fun one => ?_⟩
  have two : ¬((lateTurn.foldl sampleService.apply {}).writers "demo").length ≤ 1 := by decide
  exact two (one "demo")

end Wlcodex.Tasks
