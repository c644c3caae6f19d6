import Wlcodex.Tasks.ApprovalCounts
import Wlcodex.Tasks.Calls

namespace Wlcodex.Tasks

open Wlcodex.Lib Script
open Wlcodex.Relay (Dict)
open Wlcodex.Projector (ApprovalRowStatus)
open Wlcodex.State (Builtins RuntimeEvent ApprovalEvent)

/-! Clicks, batches and projected events in any order. -/

def Grown (before now : Ledger) : Prop :=
  Ledger.Same before now ∨ ∃ taskId,
    now.requests = before.requests ++ [⟨before.approvalRequests.nextKey, taskId, .pending⟩] ∧
      ∀ id, now.pendingCount id =
        if id = taskId then before.pendingCount id + 1 else before.pendingCount id

section Grown

variable {before ledger now : Ledger} {task : Task} {builtins : Builtins}

theorem Grown.same (grown : Grown before ledger) (same : Ledger.Same ledger now) : Grown before now := by
  rcases grown with kept | ⟨taskId, requests, counts⟩
  · exact .inl (kept.trans same)
  · refine .inr ⟨taskId, same.requests.trans requests, ?_⟩
    rw [same.counts]
    exact counts

theorem holds_of_plain {α : Type} {program : Program α} {Inv : Ledger → Prop} (plain : Plain program)
    (stable : ∀ first second, Ledger.Same first second → Inv first → Inv second) (holds : Inv ledger) :
    program.Holds Ledger.commit (fun _ _ => True) Inv ledger fun _ now => Inv now := by
  induction program generalizing ledger with
  | done | raised => exact holds
  | read rest ih => exact ih ledger (plain ledger) holds
  | call write rest ih =>
      exact ⟨trivial, ih plain.2 (stable _ _ (Ledger.same_plain plain.1) holds)⟩

theorem holds_findApproval {codexRequestId : String} {id : Nat} :
    (findApproval codexRequestId id).Holds Ledger.commit (fun _ _ => True) (fun now => now = ledger)
      ledger fun existing now =>
        now = ledger ∧ existing = ledger.getApprovalByCodexId codexRequestId id := by
  refine holds_get ?_
  dsimp only
  unfold require
  split
  · exact holds_pure ⟨rfl, rfl⟩
  · exact rfl

theorem found_commit {write : Write} {id : Nat} (adds : write.creates = false) :
    ((ledger.commit write).tasks.find? id).isSome = (ledger.tasks.find? id).isSome := by
  rw [← @Option.isSome_map _ _ fun _ => (), ← @Option.isSome_map _ _ (fun _ => ()) (ledger.tasks.find? id),
    column_commit adds fun _ _ _ _ => rfl]

theorem pendingCount_createApproval {new : NewApproval} :
    (ledger.commit (.createApproval new)).pendingCount = ledger.pendingCount := by
  unfold Ledger.pendingCount
  rw [tasks_commit rfl]
  rfl

theorem grown_requestApproval {payload : Dict} (found : (ledger.tasks.find? task.id).isSome) :
    Grown ledger ((requestApproval builtins payload task).final Ledger.commit ledger) := by
  have wait {now : Ledger} (grown : Grown ledger now) :
      (waitForApproval task).Holds Ledger.commit (fun _ _ => True) (Grown ledger) now
        fun _ last => Grown ledger last :=
    holds_of_plain plain_waitForApproval (fun _ _ same grown => grown.same same) grown
  apply final_of_holds
  unfold requestApproval
  have owner : (newApproval builtins payload task).taskId = task.id := rfl
  generalize newApproval builtins payload task = new at owner
  refine holds_bind (holds_mono (fun _ _ _ => trivial) ?_ (fun _ _ ends => ends) holds_findApproval) ?_
  · rintro now rfl
    exact .inl (.refl now)
  rintro existing now ⟨rfl, rfl⟩
  have begun : (onlyIf (new.codexTurnId.isSome && task.activeTurnId.isNone)
      (perform (.setActiveTurn task.id (new.codexTurnId.getD "")))).Holds Ledger.commit
        (fun _ _ => True) (Grown now) now fun _ next =>
          Ledger.Same now next ∧ next.approvalRequests = now.approvalRequests ∧
            (next.tasks.find? task.id).isSome := by
    unfold onlyIf
    split
    · exact holds_perform trivial ⟨Ledger.same_plain rfl, rfl, by rw [found_commit rfl]; exact found⟩
    · exact holds_pure ⟨.refl now, rfl, found⟩
  refine holds_bind begun fun _ next ends => ?_
  obtain ⟨same, approvals, present⟩ := ends
  refine holds_call trivial ?_
  have stored : next.getApprovalByCodexId new.codexRequestId task.id =
      now.getApprovalByCodexId new.codexRequestId task.id := by
    unfold Ledger.getApprovalByCodexId
    rw [approvals]
  have requests := @Ledger.requests_createApproval next new
  have counts := @pendingCount_createApproval next new
  rw [owner, stored] at requests
  rcases requests with ⟨known, requests⟩ | ⟨missing, requests⟩
  · have repeated : (now.getApprovalByCodexId new.codexRequestId task.id).isNone = false := by
      rw [← Option.not_isSome, known]
      rfl
    rw [repeated]
    exact wait (.inl (same.trans ⟨counts, requests⟩))
  · rw [missing]
    refine holds_call trivial (wait (.inr ⟨task.id, ?_, fun id => ?_⟩))
    · change (next.commit _).requests = _
      rw [requests, same.requests, approvals]
    · rw [Ledger.pendingCount_increment (by rw [found_commit rfl]; exact present), counts, same.counts]

end Grown

section Parts

variable {ledger : Ledger} {taskId : Nat} {approval : Approval} {action : ApprovalAction}

theorem calls_of_plain {α : Type} {program : Program α} (plain : Plain program) (ledger : Ledger) :
    (program.calls Ledger.commit ledger).any Approvals.countsDown = false := by
  induction program generalizing ledger with
  | done | raised => rfl
  | read rest ih => exact ih ledger (plain ledger) ledger
  | call write rest ih =>
      have quiet : Approvals.countsDown write = false := by
        cases write
        case decrementPendingApprovals => cases plain.1
        all_goals rfl
      refine (List.any_cons).trans ?_
      rw [quiet, Bool.false_or]
      exact ih plain.2 (ledger.commit write)

theorem plain_settle : Plain (settle taskId) := by
  refine only_bind only_getTask fun task => ?_
  split
  · refine only_bind only_pendingApprovals fun remaining => ?_
    exact only_bind (plain_onlyIf (only_perform rfl)) fun _ => trivial
  · trivial

theorem plain_releaseNext {others : List Approval} : Plain (releaseNext taskId others) := by
  cases others with
  | nil => exact plain_settle
  | cons approval others => trivial

theorem gives_settle {post : Option Await → Prop} (ends : post none) : (settle taskId).Gives post := by
  refine gives_bind fun task => ?_
  split
  · exact gives_bind fun remaining => gives_bind fun _ => ends
  · exact ends

theorem gives_releaseNext {others : List Approval} :
    (releaseNext taskId others).Gives fun next => ∀ call ∈ next,
      ∃ current rest, call = .release taskId current rest ∧ others = current :: rest := by
  cases others with
  | nil => exact gives_settle (by simp)
  | cons current rest =>
      intro call same
      cases same
      exact ⟨current, rest, rfl, rfl⟩

def following (program : Program (Option Await)) (ledger : Ledger) : Option Await :=
  (program.value? Ledger.commit ledger).join

theorem following_of_holds {program : Program (Option Await)} {post : Await → Prop}
    (holds : program.Holds Ledger.commit (fun _ _ => True) (fun _ => True) ledger
      fun next _ => ∀ call ∈ next, post call) :
    ∀ call ∈ following program ledger, post call := by
  have ends := (ends_of_holds holds).1
  unfold following
  cases value : program.value? Ledger.commit ledger with
  | none => simp
  | some next => exact ends next value

theorem holds_pendingApprovals :
    (pendingApprovals taskId).Holds Ledger.commit (fun _ _ => True) (fun _ => True) ledger
      fun pending _ => pending = ledger.pendingRows taskId := by
  refine holds_get ?_
  dsimp only
  unfold require
  split
  · exact holds_pure rfl
  · trivial

theorem following_countDown : ∀ call ∈ following (countDown approval action) ledger,
    ∃ current rest, call = .release approval.taskId current rest ∧ ∀ other ∈ current :: rest,
      other ∈ (ledger.commit (.decrementPendingApprovals approval.taskId)).pendingRows approval.taskId := by
  refine following_of_holds ?_
  refine holds_call trivial ?_
  split
  · refine holds_bind holds_pendingApprovals fun pending now found => ?_
    refine holds_mono (fun _ _ _ => trivial) (fun _ _ => trivial) ?_ (holds_of_gives gives_releaseNext now)
    intro next _ goes call member
    obtain ⟨current, rest, rfl, same⟩ := goes call member
    refine ⟨current, rest, rfl, fun other inside => ?_⟩
    rw [← same, found] at inside
    exact (List.mem_filter.mp inside).1
  · exact holds_of_gives (gives_settle (by simp)) _

theorem mem_pendingRows {other : Approval} : other ∈ ledger.pendingRows taskId ↔
    other ∈ ledger.approvalRequests ∧ other.taskId = taskId ∧ other.status = .pending := by
  unfold Ledger.pendingRows
  rw [List.mem_insertionSort, List.mem_filter, decide_eq_true_eq]
  exact Iff.rfl

theorem plain_rest : Plain (do
    if action = .approveSession && approval.kind = ApprovalKind.command.text then
      let pending ← pendingApprovals approval.taskId
      releaseNext approval.taskId
        (pending.filter fun other => other.id ≠ approval.id ∧ other.kind = ApprovalKind.command.text)
    else settle approval.taskId) := by
  split
  · exact only_bind only_pendingApprovals fun pending => plain_releaseNext
  · exact plain_settle

theorem same_countDown : Ledger.Same (ledger.commit (.decrementPendingApprovals approval.taskId))
    ((countDown approval action).final Ledger.commit ledger) :=
  same_of_plain plain_rest (ledger.commit (.decrementPendingApprovals approval.taskId))

end Parts

namespace Approvals

namespace Desk

abbrev Due (desk : Desk) (approval : Approval) : Prop :=
  approval.id ∉ desk.counted ∨ desk.ledger.pendingCount approval.taskId = 0

abbrev ClickInOrder (desk : Desk) (id : Nat) (action : String) : Prop :=
  (ApprovalAction.ofText? action).isSome → ∀ approval ∈ desk.ledger.approvalRequests.rows, approval.id = id →
    ∀ task ∈ desk.ledger.tasks.rows, task.id = approval.taskId → isTerminal task.status →
      desk.Due approval

instance (call : Await) (id : Nat) : Decidable (call.holds id) :=
  inferInstanceAs (Decidable (∃ approval ∈ call.requests, approval.id = id))

instance (call : Await) (id : Nat) : Decidable (call.interrupts id) :=
  inferInstanceAs (Decidable (call.isAnswer = false ∧ call.approval.id = id))

abbrev ReturnInOrder (desk : Desk) (index : Nat) : Prop :=
  ∀ call ∈ desk.calls[index]?,
    if call.isAnswer then
      call.approval.id ∉ desk.counted ∧ ∀ other ∈ desk.calls, ¬other.interrupts call.approval.id
    else desk.Due call.approval

abbrev RaiseInOrder (desk : Desk) (index : Nat) : Prop :=
  ∀ call ∈ desk.calls[index]?,
    if call.isAnswer then
      ∀ request ∈ desk.ledger.requests, request.id = call.approval.id →
        request.status = .pending ∨ request.id ∈ desk.counted ∨
          ∃ other ∈ desk.calls.eraseIdx index, other.holds request.id
    else desk.Due call.approval

abbrev ProjectedInOrder (desk : Desk) (taskId : Nat) (codexRequestId : String) (kind : ApprovalEvent) :
    Prop :=
  if kind = .requested then (desk.ledger.getApprovalByCodexId codexRequestId taskId).isSome = true
  else ∀ id ∈ desk.ledger.named taskId codexRequestId, ∀ request ∈ desk.ledger.requests,
    request.id = id → request.status = .pending → ∃ call ∈ desk.calls, call.holds id

def InOrder (service : Service) (desk : Desk) : Step → Prop
  | .call _ => True
  | .click id action => desk.ClickInOrder id action
  | .returned index => desk.ReturnInOrder index
  | .raised index _ => desk.RaiseInOrder index
  | .projected event kind =>
      ∀ taskId ∈ event.taskId.bind Int.toNat?,
        desk.ProjectedInOrder taskId (Projector.approvalKey service.builtins event) kind

section Parts

variable {desk : Desk} {now : Ledger} {approval : Approval}

theorem Exact.resolve {id : Nat} {status : ApprovalRowStatus} {resolution : String} (exact_ : desk.Exact)
    (ends : status ≠ .pending) (held : ∃ call ∈ desk.calls, call.holds id) :
    Exact { desk with ledger := desk.ledger.commit (.resolveApproval id status resolution) } := by
  refine exact_.close (closes_closing ends) rfl (Ledger.requests_resolve id status resolution) ?_
  intro request member changes
  have chosen : request.id = id := by
    unfold closing at changes
    split at changes
    next chosen => exact List.mem_singleton.mp chosen.1
    · exact absurd rfl changes
  rw [chosen]
  exact held

variable {id taskId : Nat}

theorem Exact.countDown (exact_ : desk.Exact)
    (closed : ∃ request ∈ desk.ledger.requests, request.id = id ∧ request.taskId = taskId ∧
      request.status ≠ .pending)
    (due : id ∉ desk.counted ∨ desk.ledger.pendingCount taskId = 0)
    (same : Ledger.Same (desk.ledger.commit (.decrementPendingApprovals taskId)) now) :
    Exact { desk with ledger := now, counted := id :: desk.counted } := by
  obtain ⟨request, member, rfl, rfl, ended⟩ := closed
  have counted := @Exact.count desk (desk.ledger.commit (.decrementPendingApprovals request.taskId))
    request exact_ member ended due rfl (Ledger.pendingCount_decrement request.taskId)
  exact counted.same same

variable {index : Nat}

theorem mem_of_find {call : Await} (found : desk.calls[index]? = some call) (other : Await) :
    other ∈ desk.calls ↔ other ∈ desk.calls.eraseIdx index ∨ other ∈ some call := by
  rw [List.mem_iff_getElem?, List.mem_eraseIdx_iff_getElem?, Option.mem_some_iff]
  constructor
  · rintro ⟨place, at_⟩
    by_cases same : place = index
    · rw [same, found] at at_
      exact .inr (Option.some.inj at_)
    · exact .inl ⟨place, same, at_⟩
  · rintro (⟨place, -, at_⟩ | rfl)
    · exact ⟨place, at_⟩
    · exact ⟨index, found⟩

theorem Exact.counted {index : Nat} {call : Await} {next : Option Await} (exact_ : desk.Exact)
    (found : desk.calls[index]? = some call)
    (closed : ∃ request ∈ desk.ledger.requests, request.id = call.approval.id ∧
      request.taskId = call.taskId ∧ request.status ≠ .pending)
    (due : call.approval.id ∉ desk.counted ∨ desk.ledger.pendingCount call.taskId = 0)
    (same : Ledger.Same (desk.ledger.commit (.decrementPendingApprovals call.taskId)) now)
    (held : ∀ id, call.holds id → id = call.approval.id ∨ ∃ call ∈ next, call.holds id)
    (known : ∀ call ∈ next, call.isAnswer = true ∧ ∀ id, call.holds id →
      ∃ request ∈ desk.ledger.requests, request.id = id ∧ request.taskId = call.taskId) :
    Exact { desk with
      ledger := now
      calls := desk.calls.eraseIdx index ++ next.toList
      counted := call.approval.id :: desk.counted } := by
  have requests : now.requests = desk.ledger.requests := same.requests
  refine @Exact.goOn { desk with ledger := now, counted := call.approval.id :: desk.counted }
    (desk.calls.eraseIdx index) (some call) next (exact_.countDown closed due same)
    (mem_of_find found) ?_ ?_ ?_ ?_
  · intro other same request _ holds
    cases same
    rcases held request.id holds with mine | ⟨call, member, holds⟩
    · exact .inr (.inl (by rw [mine]; exact List.mem_cons_self))
    · exact .inr (.inr ⟨call, List.mem_append_right _ (Option.mem_toList.mpr member), holds⟩)
  · rw [requests]
    exact fun call member => (known call member).2
  · intro call member id interrupts
    have answers := (known call member).1
    rw [interrupts.1] at answers
    cases answers
  · intro other same id interrupts
    cases same
    rw [← interrupts.2]
    exact List.mem_cons_self

variable {ledger : Ledger}

theorem known_countDown {action : ApprovalAction} :
    ∀ call ∈ following (Tasks.countDown approval action) ledger, call.isAnswer = true ∧
      ∀ id, call.holds id → ∃ request ∈ ledger.requests, request.id = id ∧ request.taskId = call.taskId := by
  intro call member
  obtain ⟨current, rest, rfl, found⟩ := following_countDown call member
  refine ⟨rfl, fun id holds => ?_⟩
  obtain ⟨other, inside, rfl⟩ := holds
  obtain ⟨stored, sameTask, -⟩ := mem_pendingRows.mp (found other inside)
  exact ⟨other.request, List.mem_map_of_mem stored, rfl, sameTask⟩

theorem Exact.run_countDown {index : Nat} {call : Await} {action : ApprovalAction} (exact_ : desk.Exact)
    (found : desk.calls[index]? = some call) (alone : call.requests = [approval])
    (own : call.approval = approval) (ofTask : call.taskId = approval.taskId)
    (closed : ∃ request ∈ desk.ledger.requests, request.id = approval.id ∧
      request.taskId = approval.taskId ∧ request.status ≠ .pending)
    (due : desk.Due approval) :
    Exact (desk.run (desk.calls.eraseIdx index) approval.id (Tasks.countDown approval action)) := by
  subst own
  refine exact_.counted found ?_ ?_ ?_ ?_ known_countDown
  · rw [ofTask]
    exact closed
  · rw [ofTask]
    exact due
  · rw [ofTask]
    exact same_countDown
  · intro id holds
    obtain ⟨other, held, rfl⟩ := holds
    rw [alone] at held
    exact .inl (congrArg Approval.id (List.mem_singleton.mp held))

theorem Exact.interrupted (exact_ : desk.Exact)
    (found : desk.calls[index]? = some (.interrupt approval)) (due : desk.Due approval) :
    Exact (desk.run (desk.calls.eraseIdx index) approval.id (Tasks.countDown approval .cancel)) := by
  have member := List.mem_of_getElem? found
  obtain ⟨request, inside, sameId, sameTask⟩ :=
    exact_.calls _ member approval.id ⟨approval, List.mem_cons_self, rfl⟩
  have ended := exact_.closed _ member approval.id ⟨rfl, rfl⟩ request inside sameId
  exact exact_.run_countDown found rfl rfl rfl ⟨request, inside, sameId, sameTask, ended⟩ due

theorem status_closed (action : ApprovalAction) : action.status ≠ .pending := by
  cases action
  all_goals decide

theorem closed_resolve {ledger : Ledger} {id taskId : Nat} {status : ApprovalRowStatus}
    {resolution : String} (ends : status ≠ .pending)
    (present : ∃ request ∈ ledger.requests, request.id = id ∧ request.taskId = taskId) :
    ∃ request ∈ (ledger.commit (.resolveApproval id status resolution)).requests, request.id = id ∧
      request.taskId = taskId ∧ request.status ≠ .pending := by
  obtain ⟨request, member, sameId, sameTask⟩ := present
  have closes := @closes_closing [id] status ends
  rw [Ledger.requests_resolve]
  refine ⟨_, List.mem_map_of_mem member, (closes.id request).trans sameId,
    (closes.taskId request).trans sameTask, ?_⟩
  unfold closing
  by_cases waits : request.status = .pending
  · rw [if_pos ⟨by rw [sameId]; exact List.mem_cons_self, waits⟩]
    exact ends
  · rw [if_neg fun both => waits both.2]
    exact waits

theorem Exact.not_answered (exact_ : desk.Exact)
    (fresh : id ∉ desk.counted ∧ ∀ other ∈ desk.calls, ¬other.interrupts id) : id ∉ desk.answered := by
  intro member
  rcases exact_.answered id member with counted | ⟨call, inside, interrupts⟩
  · exact fresh.1 counted
  · exact fresh.2 call inside interrupts

structure ActsAs {α : Type} (ledger : Ledger) (program other : Program α) : Prop where
  final : program.final Ledger.commit ledger = other.final Ledger.commit ledger
  value : program.value? Ledger.commit ledger = other.value? Ledger.commit ledger
  calls : program.calls Ledger.commit ledger = other.calls Ledger.commit ledger

theorem actsAs_getTask {α : Type} {ledger : Ledger} {id : Nat} {task : Task} {next : Task → Program α}
    (found : ledger.tasks.find? id = some task) : ActsAs ledger (getTask id >>= next) (next task) := by
  let tail : Option Task → Program α := fun row => taskOfRow row >>= next
  have acts : ActsAs ledger (getTask id >>= next) (tail (ledger.tasks.find? id)) := ⟨rfl, rfl, rfl⟩
  rw [found] at acts
  exact acts

theorem interruptOrCount_cases {ledger : Ledger} {action : ApprovalAction} {task : Task}
    (found : ledger.tasks.find? approval.taskId = some task) :
    ActsAs ledger (interruptOrCount approval action) (pure (some (.interrupt approval))) ∨
      ActsAs ledger (interruptOrCount approval action) (Tasks.countDown approval action) := by
  unfold interruptOrCount
  split
  · have acts := @actsAs_getTask (Option Await) ledger approval.taskId task (fun task =>
      if hasText task.activeTurnId && hasText task.codexThreadId then pure (some (.interrupt approval))
      else Tasks.countDown approval action) found
    by_cases running : (hasText task.activeTurnId && hasText task.codexThreadId) = true
    · rw [if_pos running] at acts
      exact .inl acts
    · rw [if_neg running] at acts
      exact .inr acts
  · exact .inr ⟨rfl, rfl, rfl⟩

theorem run_acts {others : List Await} {program other : Program (Option Await)}
    (acts : ActsAs desk.ledger program other) : desk.run others id program = desk.run others id other := by
  unfold run
  rw [acts.final, acts.value, acts.calls]

theorem Exact.taskOf {call : Await} (exact_ : desk.Exact) (member : call ∈ desk.calls)
    (holds : call.holds id) (uncounted : id ∉ desk.counted) :
    ∃ task, desk.ledger.tasks.find? call.taskId = some task := by
  obtain ⟨request, inside, rfl, sameTask⟩ := exact_.calls call member id holds
  cases found : desk.ledger.tasks.find? call.taskId with
  | some task => exact ⟨task, rfl⟩
  | none =>
      have zero : desk.ledger.pendingCount call.taskId = 0 := by
        unfold Ledger.pendingCount
        rw [found]
        rfl
      rw [exact_.counts] at zero
      have standing := List.countP_eq_zero.mp zero request inside
      exact absurd (by simp [isStanding, sameTask, uncounted]) standing

theorem Exact.returned_answer {action : ApprovalAction} (exact_ : desk.Exact)
    (found : desk.calls[index]? = some (.answer approval action))
    (fresh : approval.id ∉ desk.counted ∧ ∀ other ∈ desk.calls, ¬other.interrupts approval.id) :
    Exact { desk.run (desk.calls.eraseIdx index) approval.id (resume (.answer approval action)) with
      answered := approval.id :: desk.answered } := by
  have member := List.mem_of_getElem? found
  have mine : (Await.answer approval action).holds approval.id := ⟨approval, List.mem_cons_self, rfl⟩
  have first := exact_.not_answered fresh
  obtain ⟨task, present⟩ := exact_.taskOf member mine fresh.1
  have closed := @closed_resolve desk.ledger approval.id approval.taskId action.status action.text
    (status_closed action) (exact_.calls _ member approval.id mine)
  have resolved := @Exact.resolve desk approval.id action.status action.text exact_ (status_closed action)
    ⟨_, member, mine⟩
  generalize after_ : desk.ledger.commit (.resolveApproval approval.id action.status action.text) = after
    at closed resolved
  have begun : desk.run (desk.calls.eraseIdx index) approval.id (resume (.answer approval action)) =
      { desk with ledger := after }.run (desk.calls.eraseIdx index) approval.id
        (interruptOrCount approval action) := by
    rw [← after_]
    rfl
  have present : after.tasks.find? approval.taskId = some task := by
    rw [← after_]
    exact present
  rw [begun]
  rcases @interruptOrCount_cases approval after action task present with acts | acts
  · rw [run_acts acts]
    refine @Exact.answer { desk with
      ledger := after
      calls := desk.calls.eraseIdx index ++ [.interrupt approval] } approval.id
      (@Exact.goOn { desk with ledger := after } (desk.calls.eraseIdx index)
        (some (.answer approval action)) (some (.interrupt approval)) resolved (mem_of_find found)
        ?_ ?_ ?_ ?_) first (.inr ⟨.interrupt approval, ?_, rfl, rfl⟩)
    · intro call same request _ holds
      cases same
      exact .inr (.inr ⟨.interrupt approval, List.mem_append_right _ List.mem_cons_self, holds⟩)
    · intro call same id holds
      cases same
      obtain ⟨other, held, rfl⟩ := holds
      obtain ⟨request, inside, sameId, sameTask, -⟩ := closed
      rw [List.mem_singleton.mp held]
      exact ⟨request, inside, sameId, sameTask⟩
    · intro call same id interrupts request inside sameId
      cases same
      obtain ⟨other, otherInside, otherId, -, ended⟩ := closed
      rw [Ledger.request_of_id inside otherInside (sameId.trans (interrupts.2.symm.trans otherId.symm))]
      exact ended
    · intro call same id interrupts
      cases same
      cases interrupts.1
    · exact List.mem_append_right _ List.mem_cons_self
  · rw [run_acts acts]
    refine @Exact.answer _ approval.id (@Exact.run_countDown { desk with ledger := after } approval index
      (.answer approval action) action resolved found rfl rfl rfl closed (.inl fresh.1)) first (.inl ?_)
    exact List.mem_cons_self

variable {others : List Approval}

theorem held_releaseNext (held : ∃ other ∈ others, other.id = id) :
    ∃ call ∈ following (releaseNext taskId others) ledger, call.holds id := by
  cases others with
  | nil =>
      obtain ⟨other, member, -⟩ := held
      cases member
  | cons current rest => exact ⟨.release taskId current rest, rfl, held⟩

theorem known_releaseNext :
    ∀ call ∈ following (releaseNext taskId others) ledger, call.isAnswer = true ∧
      call.taskId = taskId ∧ ∀ id, call.holds id → ∃ other ∈ others, other.id = id := by
  intro call member
  obtain ⟨current, rest, rfl, same⟩ := following_of_holds
    (holds_of_gives (gives_releaseNext) ledger) call member
  exact ⟨rfl, rfl, fun id holds => same ▸ holds⟩

theorem Exact.returned_release (exact_ : desk.Exact)
    (found : desk.calls[index]? = some (.release taskId approval others))
    (fresh : approval.id ∉ desk.counted ∧ ∀ other ∈ desk.calls, ¬other.interrupts approval.id) :
    Exact { desk.run (desk.calls.eraseIdx index) approval.id (resume (.release taskId approval others)) with
      answered := approval.id :: desk.answered } := by
  have member := List.mem_of_getElem? found
  have mine : (Await.release taskId approval others).holds approval.id :=
    ⟨approval, List.mem_cons_self, rfl⟩
  have kept := exact_.calls _ member
  have closed := @closed_resolve desk.ledger approval.id taskId .approved
    ApprovalAction.approveSession.text (by decide) (kept approval.id mine)
  have resolved := @Exact.resolve desk approval.id .approved ApprovalAction.approveSession.text exact_
    (by decide) ⟨_, member, mine⟩
  have kept := resolved.calls _ member
  generalize after_ : desk.ledger.commit
    (.resolveApproval approval.id .approved ApprovalAction.approveSession.text) = after
    at closed resolved kept
  have shape : desk.run (desk.calls.eraseIdx index) approval.id (resume (.release taskId approval others)) = {
      ledger := (releaseNext taskId others).final Ledger.commit
        (after.commit (.decrementPendingApprovals taskId))
      calls := desk.calls.eraseIdx index ++ (following (releaseNext taskId others)
        (after.commit (.decrementPendingApprovals taskId))).toList
      answered := desk.answered
      counted := approval.id :: desk.counted } := by
    rw [← after_]
    rfl
  rw [shape]
  refine @Exact.answer { desk with
    ledger := (releaseNext taskId others).final Ledger.commit
      (after.commit (.decrementPendingApprovals taskId))
    calls := desk.calls.eraseIdx index ++ (following (releaseNext taskId others)
      (after.commit (.decrementPendingApprovals taskId))).toList
    counted := approval.id :: desk.counted } approval.id ?_ (exact_.not_answered fresh)
    (.inl List.mem_cons_self)
  refine @Exact.counted { desk with ledger := after } _ index (.release taskId approval others) _ resolved
    found closed (.inl fresh.1) (same_of_plain plain_releaseNext _) ?_ ?_
  · rintro id ⟨other, held, rfl⟩
    rcases List.mem_cons.mp held with same | held
    · exact .inl (congrArg Approval.id same)
    · exact .inr (held_releaseNext ⟨other, held, rfl⟩)
  · intro call next
    obtain ⟨answers, ofTask, rest⟩ := known_releaseNext call next
    refine ⟨answers, fun id holds => ?_⟩
    obtain ⟨other, held, same⟩ := rest id holds
    rw [ofTask]
    exact kept id ⟨other, List.mem_cons_of_mem approval held, same⟩

theorem Exact.refused {index : Nat} {call : Await} {next : Option Await} (exact_ : desk.Exact)
    (found : desk.calls[index]? = some call) (answers : call.isAnswer = true)
    (orderly : ∀ request ∈ desk.ledger.requests, request.id = call.approval.id →
      request.status = .pending ∨ request.id ∈ desk.counted ∨
        ∃ other ∈ desk.calls.eraseIdx index, other.holds request.id)
    (same : Ledger.Same desk.ledger now)
    (held : ∀ id, call.holds id → id = call.approval.id ∨ ∃ call ∈ next, call.holds id)
    (known : ∀ other ∈ next, other.isAnswer = true ∧ other.taskId = call.taskId ∧
      ∀ id, other.holds id → call.holds id) :
    Exact { desk with ledger := now, calls := desk.calls.eraseIdx index ++ next.toList } := by
  have requests : now.requests = desk.ledger.requests := same.requests
  refine @Exact.goOn { desk with ledger := now } (desk.calls.eraseIdx index) (some call) next
    (exact_.same same) (mem_of_find found) ?_ ?_ ?_ ?_
  · intro other same request inside holds
    cases same
    rw [requests] at inside
    rcases held request.id holds with mine | ⟨call, member, holds⟩
    · rcases orderly request inside mine with waits | counted | ⟨other, member, holds⟩
      · exact .inl waits
      · exact .inr (.inl counted)
      · exact .inr (.inr ⟨other, List.mem_append_left _ member, holds⟩)
    · exact .inr (.inr ⟨call, List.mem_append_right _ (Option.mem_toList.mpr member), holds⟩)
  · intro other member id holds
    obtain ⟨-, ofTask, rest⟩ := known other member
    rw [requests, ofTask]
    exact exact_.calls call (List.mem_of_getElem? found) id (rest id holds)
  · intro other member id interrupts
    have answers := (known other member).1
    rw [interrupts.1] at answers
    cases answers
  · intro other same id interrupts
    cases same
    rw [interrupts.1] at answers
    cases answers

theorem exact_returned (exact_ : desk.Exact) (orderly : desk.ReturnInOrder index)
    (service : Service) (lower : String → String) : Exact (desk.step service lower (.returned index)) := by
  unfold step
  dsimp only
  split
  · exact exact_
  next call found =>
    have orderly := orderly call found
    cases call with
    | answer approval action => exact exact_.returned_answer found orderly
    | interrupt approval => exact exact_.interrupted found orderly
    | release taskId approval others => exact exact_.returned_release found orderly

theorem exact_raised {error : String} (exact_ : desk.Exact)
    (orderly : desk.RaiseInOrder index) (service : Service) (lower : String → String) :
    Exact (desk.step service lower (.raised index error)) := by
  unfold step
  dsimp only
  split
  · exact exact_
  next call found =>
    have orderly := orderly call found
    cases call with
    | answer approval action =>
        refine @Exact.refused desk _ index (.answer approval action) none exact_ found rfl orderly
          (@Ledger.same_setError _ approval.id error) ?_ (by simp)
        rintro id ⟨other, held, rfl⟩
        exact .inl (congrArg Approval.id (List.mem_singleton.mp held))
    | interrupt approval => exact exact_.interrupted found orderly
    | release taskId approval others =>
        have same := (@Ledger.same_setError desk.ledger approval.id error).trans
          (same_of_plain (@plain_releaseNext taskId others) _)
        have quiet : ((refuse error (.release taskId approval others)).calls Ledger.commit
            desk.ledger).any countsDown = false :=
          calls_of_plain plain_releaseNext (desk.ledger.commit (.setApprovalError approval.id error))
        unfold run
        rw [quiet]
        refine @Exact.refused desk _ index (.release taskId approval others) (following (releaseNext taskId others)
          (desk.ledger.commit (.setApprovalError approval.id error))) exact_ found rfl orderly same ?_ ?_
        · rintro id ⟨other, held, rfl⟩
          rcases List.mem_cons.mp held with same | held
          · exact .inl (congrArg Approval.id same)
          · exact .inr (held_releaseNext ⟨other, held, rfl⟩)
        · intro call next
          obtain ⟨answers, ofTask, rest⟩ := known_releaseNext call next
          refine ⟨answers, ofTask, fun id holds => ?_⟩
          obtain ⟨other, held, same⟩ := rest id holds
          exact ⟨other, List.mem_cons_of_mem approval held, same⟩

section Click

variable {ledger : Ledger} {id : Nat} {text : String} {workspaces : List WorkspaceConfig}

theorem ActsAs.trans {α : Type} {first second third : Program α} (early : ActsAs ledger first second)
    (late : ActsAs ledger second third) : ActsAs ledger first third :=
  ⟨early.final.trans late.final, early.value.trans late.value, early.calls.trans late.calls⟩

theorem actsAs_getApproval {α : Type} {next : Option Approval → Program α} :
    ActsAs ledger (getApproval id >>= next) raised ∨
      ActsAs ledger (getApproval id >>= next) (next (ledger.approvalRequests.find? id)) := by
  let known := (ledger.approvalRequests.find? id).all fun approval =>
    (ApprovalKind.ofText? approval.kind).isSome
  have acts : ActsAs ledger (getApproval id >>= next)
      ((require known >>= fun _ => pure (ledger.approvalRequests.find? id)) >>= next) := ⟨rfl, rfl, rfl⟩
  by_cases holds : known = true
  · refine .inr (acts.trans ?_)
    rw [require, if_pos holds]
    exact ⟨rfl, rfl, rfl⟩
  · refine .inl (acts.trans ?_)
    rw [require, if_neg holds]
    exact ⟨rfl, rfl, rfl⟩

theorem actsAs_missing {α : Type} {next : Task → Program α} (missing : ledger.tasks.find? id = none) :
    ActsAs ledger (getTask id >>= next) raised := by
  let tail : Option Task → Program α := fun row => taskOfRow row >>= next
  have acts : ActsAs ledger (getTask id >>= next) (tail (ledger.tasks.find? id)) := ⟨rfl, rfl, rfl⟩
  rw [missing] at acts
  exact acts

def expire (approval : Approval) : Program (Option Await) := do
  .perform (.resolveApproval approval.id .cancelled "task_terminal")
  .perform (.decrementPendingApprovals approval.taskId)
  pure none

theorem resolveCallback_cases :
    ActsAs ledger (resolveCallback workspaces id text) raised ∨
      ActsAs ledger (resolveCallback workspaces id text) (pure none) ∨
      (∃ approval task, ledger.approvalRequests.find? id = some approval ∧
        ledger.tasks.find? approval.taskId = some task ∧ isTerminal task.status = true ∧
        (ApprovalAction.ofText? text).isSome ∧
        ActsAs ledger (resolveCallback workspaces id text) (expire approval)) ∨
      ∃ approval action, ledger.approvalRequests.find? id = some approval ∧
        ActsAs ledger (resolveCallback workspaces id text) (pure (some (.answer approval action))) := by
  unfold resolveCallback
  cases known : ApprovalAction.ofText? text with
  | none => exact .inr (.inl ⟨rfl, rfl, rfl⟩)
  | some action =>
      rcases @actsAs_getApproval ledger id (Option Await) _ with acts | acts
      · exact .inl acts
      cases found : ledger.approvalRequests.find? id with
      | none =>
          rw [found] at acts
          exact .inr (.inl acts)
      | some approval =>
          rw [found] at acts
          cases present : ledger.tasks.find? approval.taskId with
          | none => exact .inl (acts.trans (actsAs_missing present))
          | some task =>
              have acts := acts.trans (actsAs_getTask present)
              by_cases ended : isTerminal task.status = true
              · rw [if_pos ended] at acts
                refine .inr (.inr (.inl ⟨approval, task, rfl, present, ended, rfl, ?_⟩))
                have same : approval.id = id := (Keyed.find?_eq_some_iff.mp found).2
                rw [← same] at acts ⊢
                exact acts
              · rw [if_neg ended] at acts
                split at acts
                · exact .inr (.inl acts)
                · split at acts
                  · exact .inr (.inl acts)
                  · exact .inr (.inr (.inr ⟨approval, action, rfl, acts⟩))

end Click

theorem Exact.begin {action : ApprovalAction} (exact_ : desk.Exact)
    (stored : approval ∈ desk.ledger.approvalRequests) :
    Exact { desk with calls := desk.calls ++ [.answer approval action] } := by
  refine @Exact.goOn desk desk.calls none (some (.answer approval action)) exact_ (by simp) (by simp) ?_ ?_
    (by simp)
  · intro call same id holds
    cases same
    obtain ⟨other, held, rfl⟩ := holds
    rw [List.mem_singleton.mp held]
    exact ⟨approval.request, List.mem_map_of_mem stored, rfl, rfl⟩
  · intro call same id interrupts
    cases same
    cases interrupts.1

theorem Exact.expired (exact_ : desk.Exact) (stored : approval ∈ desk.ledger.approvalRequests)
    (due : desk.Due approval) :
    Exact (desk.run desk.calls approval.id (expire approval)) := by
  have begun := @Exact.begin desk approval .cancel exact_ stored
  have member : Await.answer approval .cancel ∈ desk.calls ++ [.answer approval .cancel] :=
    List.mem_append_right _ List.mem_cons_self
  have mine : (Await.answer approval .cancel).holds approval.id := ⟨approval, List.mem_cons_self, rfl⟩
  have closed := @closed_resolve desk.ledger approval.id approval.taskId .cancelled "task_terminal"
    (by decide) ⟨approval.request, List.mem_map_of_mem stored, rfl, rfl⟩
  have resolved := @Exact.resolve _ approval.id .cancelled "task_terminal" begun (by decide)
    ⟨_, member, mine⟩
  have counted := resolved.countDown closed due (.refl _)
  refine @Exact.goOn _ desk.calls (some (.answer approval .cancel)) none counted
    (fun call => by simp [eq_comm]) ?_ (by simp) (by simp) ?_
  · intro call same request _ holds
    cases same
    obtain ⟨other, held, sameId⟩ := holds
    rw [List.mem_singleton.mp held] at sameId
    exact .inr (.inl (by rw [← sameId]; exact List.mem_cons_self))
  · intro call same id interrupts
    cases same
    cases interrupts.1

theorem exact_click {text : String} (exact_ : desk.Exact) (orderly : desk.ClickInOrder id text)
    (service : Service) (lower : String → String) :
    Exact (desk.step service lower (.click id text)) := by
  change Exact (desk.run desk.calls id _)
  rcases @resolveCallback_cases desk.ledger id text service.workspaces with
    acts | acts | ⟨approval, task, found, present, ended, known, acts⟩ | ⟨approval, action, found, acts⟩
  · rw [run_acts acts]
    change Exact { desk with calls := desk.calls ++ [] }
    rw [List.append_nil]
    exact exact_
  · rw [run_acts acts]
    change Exact { desk with calls := desk.calls ++ [] }
    rw [List.append_nil]
    exact exact_
  · obtain ⟨stored, rfl⟩ := Keyed.find?_eq_some_iff.mp found
    obtain ⟨member, sameTask⟩ := Keyed.find?_eq_some_iff.mp present
    rw [run_acts acts]
    exact exact_.expired stored (orderly known approval stored rfl task member sameTask ended)
  · rw [run_acts acts]
    exact exact_.begin (Keyed.find?_eq_some_iff.mp found).1

theorem Exact.ended {codexRequestId : String} {status : ApprovalRowStatus}
    {resolution : Option String} (exact_ : desk.Exact) (ends : status ≠ .pending)
    (held : ∀ id ∈ desk.ledger.named taskId codexRequestId, ∀ request ∈ desk.ledger.requests,
      request.id = id → request.status = .pending → ∃ call ∈ desk.calls, call.holds id) :
    Exact { desk with ledger := desk.ledger.closeApproval taskId codexRequestId status resolution } := by
  refine exact_.close (closes_closing ends) rfl (Ledger.requests_close _ _ _ _) ?_
  intro request member changes
  unfold closing at changes
  split at changes
  next chosen => exact held request.id chosen.1 request member rfl chosen.2
  · exact absurd rfl changes

theorem exact_projected {event : RuntimeEvent} {kind : ApprovalEvent} (exact_ : desk.Exact)
    (service : Service) (lower : String → String) (orderly : desk.InOrder service (.projected event kind)) :
    Exact (desk.step service lower (.projected event kind)) := by
  change Exact { desk with ledger := desk.ledger.projectApproval service.builtins lower event kind }
  unfold Ledger.projectApproval
  split
  next taskId ofTask =>
    have orderly := orderly taskId ofTask
    cases kind with
    | requested =>
        rw [ProjectedInOrder, if_pos rfl] at orderly
        generalize Projector.approvalKey service.builtins event = key at orderly
        generalize Projector.approvalRow service.builtins event = row
        have counts := @pendingCount_createApproval desk.ledger
        rcases @Ledger.requests_createApproval desk.ledger
          ⟨taskId, key, some row.codexItemId, some row.codexTurnId, row.kind, row.summary,
            row.commandJson⟩ with ⟨-, same⟩ | ⟨missing, -⟩
        · exact exact_.same ⟨counts, same⟩
        · rw [missing] at orderly
          cases orderly
    | resolved =>
        refine exact_.ended ?_ orderly
        split
        · decide
        · decide
    | expired =>
        exact exact_.ended (by decide) orderly
  · exact exact_

theorem grown_apply {service : Service} {ledger : Ledger} {made : Call} :
    Grown ledger (service.apply ledger made) := by
  cases made with
  | clock | freeze | orchestrate => exact .inl ⟨rfl, rfl⟩
  | event event =>
      change Grown ledger ((applyBackendEvent service.builtins event).final Ledger.commit ledger)
      have read (next : Ledger → Program Unit) :
          (Script.get >>= next).final Ledger.commit ledger = (next ledger).final Ledger.commit ledger := rfl
      rw [applyBackendEvent, read]
      cases found : ledger.taskOf service.builtins event with
      | none => exact .inl (.refl ledger)
      | some task =>
          by_cases other : event.eventType = .approvalRequested
          · unfold taskEvent
            rw [other]
            have present := Keyed.find?_eq_some_iff.mpr ⟨mem_of_taskOf found, rfl⟩
            exact grown_requestApproval (by rw [present]; rfl)
          · exact .inl (same_of_plain (plain_taskEvent other) ledger)
  | reserve | start | reserveWaiting | setThread | promote | continue_ | steer | pause | abort | archive
  | fail | drain => exact .inl (same_of_plain (plain_program (by simp)) ledger)

theorem exact_call {made : Call} (exact_ : desk.Exact) (service : Service) (lower : String → String) :
    Exact (desk.step service lower (.call made)) := by
  rcases @grown_apply service desk.ledger made with same | ⟨taskId, requests, counts⟩
  · exact exact_.same same
  · exact exact_.add requests counts

end Parts

theorem exact_step {desk : Desk} {step : Step} (service : Service) (lower : String → String)
    (exact_ : desk.Exact) (orderly : desk.InOrder service step) :
    Exact (desk.step service lower step) := by
  cases step with
  | call made => exact exact_call exact_ service lower
  | click id action => exact exact_click exact_ orderly service lower
  | returned index => exact exact_returned exact_ orderly service lower
  | raised index error => exact exact_raised exact_ orderly service lower
  | projected event kind => exact exact_projected exact_ service lower orderly

theorem Exact.idle {desk : Desk} (exact_ : desk.Exact) (idle : desk.calls = []) :
    ∀ task ∈ desk.ledger.tasks, task.pendingApprovalCount = (desk.ledger.pendingRows task.id).length := by
  intro task member
  have counts := exact_.counts task.id
  have shown : desk.ledger.pendingCount task.id = task.pendingApprovalCount := by
    unfold Ledger.pendingCount
    rw [Keyed.find?_eq_some_iff.mpr ⟨member, rfl⟩]
    rfl
  rw [← shown, counts]
  unfold standing Ledger.requests Ledger.pendingRows
  rw [List.length_insertionSort, ← List.countP_eq_length_filter, List.countP_map]
  refine List.countP_congr fun approval inside => ?_
  have listed : approval.request ∈ desk.ledger.requests := List.mem_map_of_mem inside
  have waits : approval.status = .pending ↔ approval.id ∉ desk.counted := by
    refine ⟨exact_.open_ approval.request listed, fun uncounted => ?_⟩
    by_contra ended
    obtain ⟨call, under, -⟩ := exact_.owed approval.request listed ended uncounted
    rw [idle] at under
    cases under
  rw [Function.comp_apply, isStanding, decide_eq_true_eq, decide_eq_true_eq, waits]
  rfl

instance (service : Service) (desk : Desk) : (step : Step) → Decidable (desk.InOrder service step)
  | .call _ => inferInstanceAs (Decidable True)
  | .click id action => inferInstanceAs (Decidable (desk.ClickInOrder id action))
  | .returned index => inferInstanceAs (Decidable (desk.ReturnInOrder index))
  | .raised index _ => inferInstanceAs (Decidable (desk.RaiseInOrder index))
  | .projected event kind =>
      inferInstanceAs (Decidable (∀ taskId ∈ event.taskId.bind Int.toNat?,
        desk.ProjectedInOrder taskId (Projector.approvalKey service.builtins event) kind))

end Desk

/-- Along a run in order the backend takes one answer for each request, and wherever no call is under
way, every pending count is the number of open requests. -/
theorem approvals_counted (service : Service) (lower : String → String) (steps : List Step)
    (orderly : Along (Desk.step service lower) (Desk.InOrder service) {} steps) :
    ∀ earlier later, steps = earlier ++ later →
      let desk := earlier.foldl (Desk.step service lower) {}
      desk.answered.Nodup ∧ (desk.calls = [] → ∀ task ∈ desk.ledger.tasks,
        task.pendingApprovalCount = (desk.ledger.pendingRows task.id).length) := by
  intro earlier later split
  rw [split] at orderly
  have kept : Desk.Exact (earlier.foldl (Desk.step service lower) {}) :=
    invariant_foldl (fun _ _ exact_ orderly => Desk.exact_step service lower exact_ orderly)
      Desk.exact_empty ((along_append _ earlier later).mp orderly).1
  exact ⟨kept.once, kept.idle⟩

def sampleRequest (codexRequestId : String) : Step :=
  .call (.event ⟨.approvalRequested,
    [("threadId", .string "thread"), ("codexRequestId", .string codexRequestId),
      ("command", .string "ls")]⟩)

def oneDenied : List Step :=
  [.call (.start "demo" (some "thread")), sampleRequest "first", sampleRequest "second", .click 1 "deny",
    .returned 0]

theorem one_denied_counted :
    let desk := oneDenied.foldl (Desk.step sampleService id) {}
    desk.answered.Nodup ∧ (desk.calls = [] → ∀ task ∈ desk.ledger.tasks,
      task.pendingApprovalCount = (desk.ledger.pendingRows task.id).length) :=
  approvals_counted sampleService id oneDenied (by decide +kernel) oneDenied [] (List.append_nil _).symm

def doubleClick : List Step :=
  [.call (.start "demo" (some "thread")), sampleRequest "first", sampleRequest "second",
    .click 1 "approve_once", .click 1 "approve_once", .returned 0, .returned 0]

theorem double_click_counts_twice :
    let desk := doubleClick.foldl (Desk.step sampleService id) {}
    desk.calls = [] ∧ ¬desk.answered.Nodup ∧ ∃ task ∈ desk.ledger.tasks,
      task.pendingApprovalCount = 0 ∧ (desk.ledger.pendingRows task.id).length = 1 := by
  decide +kernel

end Approvals

end Wlcodex.Tasks
