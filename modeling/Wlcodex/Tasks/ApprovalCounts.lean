import Wlcodex.Tasks.Approvals
import Wlcodex.Tasks.PlainCalls
import Wlcodex.Tasks.Statuses

namespace Wlcodex.Tasks

open Wlcodex.Lib Script
open Wlcodex.Projector (ApprovalRowStatus)

/-! The pending count of a task and its open requests. -/

structure Request where
  id : Nat
  taskId : Nat
  status : ApprovalRowStatus
  deriving DecidableEq

def Approval.request (approval : Approval) : Request := ⟨approval.id, approval.taskId, approval.status⟩

namespace Ledger

def requests (ledger : Ledger) : List Request := ledger.approvalRequests.rows.map Approval.request

theorem requests_congr {before now : Ledger} (same : now.approvalRequests = before.approvalRequests) :
    now.requests = before.requests := by
  unfold requests
  rw [same]

/-- `pending_approval_count`; a task that there is not counts nothing. -/
def pendingCount (ledger : Ledger) (id : Nat) : Nat :=
  ((ledger.tasks.find? id).map Task.pendingApprovalCount).getD 0

structure Same (before now : Ledger) : Prop where
  counts : now.pendingCount = before.pendingCount
  requests : now.requests = before.requests

theorem Same.refl (ledger : Ledger) : Same ledger ledger := ⟨rfl, rfl⟩

theorem Same.trans {first second third : Ledger} (early : Same first second) (late : Same second third) :
    Same first third :=
  ⟨late.counts.trans early.counts, late.requests.trans early.requests⟩

section Commit

variable {ledger : Ledger}

theorem pendingCount_of_adds {write : Write} (adds : write.creates = false)
    (keeps : ∀ change, write.patch? = some change → ∀ task now,
      { change.2.apply task with updatedAt := now : Task }.pendingApprovalCount =
        task.pendingApprovalCount) :
    (ledger.commit write).pendingCount = ledger.pendingCount := by
  funext id
  exact congrArg (Option.getD · 0) (column_commit adds keeps id)

theorem pendingCount_nextKey : ledger.pendingCount ledger.tasks.nextKey = 0 := by
  have missing : ledger.tasks.find? ledger.tasks.nextKey = none :=
    Keyed.find?_eq_none_iff.mpr fun task member => Nat.ne_of_lt (Keyed.lt_nextKey member)
  unfold pendingCount
  rw [missing]
  rfl

theorem pendingCount_create {workspaceAlias : String} {codexThreadId : Option String}
    {status : Projector.TaskStatus} :
    (ledger.commit (.createTask workspaceAlias codexThreadId status)).pendingCount =
      ledger.pendingCount := by
  funext id
  change ((Keyed.find? (ledger.commit _).tasks id).map _).getD 0 = _
  rw [tasks_create, Keyed.find?_append]
  split
  next new =>
    rw [new, pendingCount_nextKey]
    rfl
  · rfl

theorem approvals_create {workspaceAlias : String} {codexThreadId : Option String}
    {status : Projector.TaskStatus} :
    (ledger.commit (.createTask workspaceAlias codexThreadId status)).approvalRequests =
      ledger.approvalRequests := by
  change (ledger.createTask workspaceAlias codexThreadId status).approvalRequests = _
  unfold createTask bindThread
  dsimp only
  split
  · split
    · rfl
    · split
      · rfl
      · rfl
  · rfl

theorem same_plain {write : Write} (plain : write.isPlain = true) : Same ledger (ledger.commit write) := by
  cases write with
  | createTask workspaceAlias codexThreadId status =>
      exact ⟨pendingCount_create, requests_congr approvals_create⟩
  | setTaskStatus | setActiveTurn | clearActiveTurn | incrementChangedFiles | setTokenUsage
  | setThreadId | addEvent =>
      refine ⟨pendingCount_of_adds rfl ?_, requests_congr (frame_commit rfl).approvals⟩
      intro change patched task now
      cases patched
      all_goals rfl
  | createApproval | resolveApproval | setApprovalError | incrementPendingApprovals
  | decrementPendingApprovals => cases plain

theorem same_setError {id : Nat} {error : String} :
    Same ledger (ledger.commit (.setApprovalError id error)) := by
  refine ⟨rfl, ?_⟩
  change List.map Approval.request (List.map _ ledger.approvalRequests.rows) = _
  rw [List.map_map]
  refine List.map_congr_left fun approval _ => ?_
  rw [Function.comp_apply]
  split
  · rfl
  · rfl

theorem pendingCount_patch {write : Write} {patch : Patch Task.id} {id : Nat} {change : Nat → Nat}
    (adds : write.creates = false) (patched : write.patch? = some (id, patch))
    (acts : ∀ task, (patch.apply task).pendingApprovalCount = change task.pendingApprovalCount)
    (other : Nat) (counts : other = id → (ledger.tasks.find? other).isSome ∨ change 0 = 0) :
    (ledger.commit write).pendingCount other =
      if other = id then change (ledger.pendingCount other) else ledger.pendingCount other := by
  unfold pendingCount
  rw [tasks_commit adds, patched]
  change ((Keyed.find? (Keyed.update ledger.tasks _ _) other).map _).getD 0 = _
  rw [Keyed.find?_update]
  cases found : ledger.tasks.find? other with
  | none =>
      split
      next mine =>
        rcases counts mine with present | zero
        · rw [found] at present
          cases present
        · exact zero.symm
      · rfl
  | some task =>
      have number := (Keyed.find?_eq_some_iff.mp found).2
      subst number
      by_cases mine : task.id = id
      · rw [if_pos mine, Option.map_some, if_pos (by simpa using mine)]
        exact acts task
      · rw [if_neg mine, Option.map_some, if_neg (by simpa using mine)]

theorem pendingCount_decrement (id other : Nat) :
    (ledger.commit (.decrementPendingApprovals id)).pendingCount other =
      if other = id then ledger.pendingCount other - 1 else ledger.pendingCount other :=
  @pendingCount_patch _ _ _ _ (· - 1) rfl rfl (fun _ => rfl) other (fun _ => .inr rfl)

theorem pendingCount_increment {id : Nat} (found : (ledger.tasks.find? id).isSome) (other : Nat) :
    (ledger.commit (.incrementPendingApprovals id)).pendingCount other =
      if other = id then ledger.pendingCount other + 1 else ledger.pendingCount other :=
  @pendingCount_patch _ _ _ _ (· + 1) rfl rfl (fun _ => rfl) other (fun mine => .inl (mine ▸ found))

end Commit

end Ledger

theorem same_of_plain {α : Type} {program : Program α} (plain : Plain program) (ledger : Ledger) :
    Ledger.Same ledger (program.final Ledger.commit ledger) := by
  refine @final_of_only _ _ _ Ledger.commit _ ledger _ (Ledger.Same ledger) plain ?_ (.refl ledger)
  exact fun now write allowed same => same.trans (Ledger.same_plain allowed)

structure Closes (change : Request → Request) : Prop where
  id : ∀ request, (change request).id = request.id
  taskId : ∀ request, (change request).taskId = request.taskId
  open_ : ∀ request, change request = request ∨ request.status = .pending ∧ (change request).status ≠ .pending

/-- The requests `ids` are closed where they are open. -/
def closing (ids : List Nat) (status : ApprovalRowStatus) (request : Request) : Request :=
  if request.id ∈ ids ∧ request.status = .pending then { request with status } else request

theorem closes_closing {ids : List Nat} {status : ApprovalRowStatus} (closed : status ≠ .pending) :
    Closes (closing ids status) where
  id request := by
    unfold closing
    split
    · rfl
    · rfl
  taskId request := by
    unfold closing
    split
    · rfl
    · rfl
  open_ request := by
    unfold closing
    split
    next chosen => exact .inr ⟨chosen.2, closed⟩
    · exact .inl rfl

namespace Ledger

variable {ledger : Ledger}

theorem requests_unique : ledger.requests.Pairwise fun first second => first.id ≠ second.id :=
  List.pairwise_map.mpr ledger.approvalRequests.unique

theorem mem_requests {request : Request} :
    request ∈ ledger.requests ↔ ∃ approval ∈ ledger.approvalRequests, approval.request = request :=
  List.mem_map

theorem request_of_id {first second : Request} (firstMember : first ∈ ledger.requests)
    (secondMember : second ∈ ledger.requests) (same : first.id = second.id) : first = second := by
  obtain ⟨firstRow, firstRowMember, rfl⟩ := mem_requests.mp firstMember
  obtain ⟨secondRow, secondRowMember, rfl⟩ := mem_requests.mp secondMember
  rw [ledger.approvalRequests.eq_of_key firstRowMember secondRowMember same]

theorem requests_update {table : Keyed Approval.id} {selected : Approval → Bool} {patch : Patch Approval.id}
    {ids : List Nat} {status : ApprovalRowStatus}
    (closes : ∀ approval, (patch.apply approval).request = { approval.request with status })
    (chosen : ∀ approval ∈ table, selected approval = true ↔
      approval.id ∈ ids ∧ approval.status = .pending) :
    (table.update selected patch).rows.map Approval.request =
      (table.rows.map Approval.request).map (closing ids status) := by
  unfold Keyed.update
  rw [List.map_map, List.map_map]
  refine List.map_congr_left fun approval member => ?_
  have picked := chosen approval member
  rw [Function.comp_apply, Function.comp_apply]
  unfold closing
  by_cases both : approval.request.id ∈ ids ∧ approval.request.status = .pending
  · rw [if_pos both, if_pos (picked.mpr both)]
    exact closes approval
  · rw [if_neg both, if_neg fun holds => both (picked.mp holds)]

theorem requests_resolve (id : Nat) (status : ApprovalRowStatus) (resolution : String) :
    (ledger.commit (.resolveApproval id status resolution)).requests =
      ledger.requests.map (closing [id] status) :=
  requests_update (fun _ => rfl) fun approval _ => by rw [decide_eq_true_eq, List.mem_singleton]

def named (ledger : Ledger) (taskId : Nat) (codexRequestId : String) : List Nat :=
  (ledger.approvalRequests.rows.filter fun approval =>
    approval.taskId = taskId ∧ approval.codexRequestId = codexRequestId).map Approval.id

theorem requests_close (taskId : Nat) (codexRequestId : String) (status : ApprovalRowStatus)
    (resolution : Option String) :
    (ledger.closeApproval taskId codexRequestId status resolution).requests =
      ledger.requests.map (closing (ledger.named taskId codexRequestId) status) := by
  refine requests_update (fun _ => rfl) fun approval member => ?_
  have listed : approval.id ∈ ledger.named taskId codexRequestId ↔
      approval.taskId = taskId ∧ approval.codexRequestId = codexRequestId := by
    constructor
    · intro chosen
      obtain ⟨other, filtered, same⟩ := List.mem_map.mp chosen
      obtain ⟨otherMember, holds⟩ := List.mem_filter.mp filtered
      rw [ledger.approvalRequests.eq_of_key otherMember member same] at holds
      simpa using holds
    · intro holds
      exact List.mem_map.mpr ⟨approval, List.mem_filter.mpr ⟨member, by simpa using holds⟩, rfl⟩
  rw [listed, decide_eq_true_eq, and_assoc]

theorem requests_createApproval (new : NewApproval) :
    ((ledger.getApprovalByCodexId new.codexRequestId new.taskId).isSome ∧
      (ledger.commit (.createApproval new)).requests = ledger.requests) ∨
    (ledger.getApprovalByCodexId new.codexRequestId new.taskId = none ∧
      (ledger.commit (.createApproval new)).requests =
        ledger.requests ++ [⟨ledger.approvalRequests.nextKey, new.taskId, .pending⟩]) := by
  change (_ ∧ (ledger.createApproval new.row fun _ => rfl).requests = _) ∨
    (_ ∧ (ledger.createApproval new.row fun _ => rfl).requests = _)
  unfold createApproval
  dsimp only [NewApproval.row]
  cases found : ledger.getApprovalByCodexId new.codexRequestId new.taskId with
  | some approval => exact .inl ⟨rfl, rfl⟩
  | none =>
      refine .inr ⟨rfl, ?_⟩
      exact List.map_append

theorem request_lt_nextKey {request : Request} (member : request ∈ ledger.requests) :
    request.id < ledger.approvalRequests.nextKey := by
  obtain ⟨approval, inside, rfl⟩ := mem_requests.mp member
  exact Keyed.lt_nextKey inside

end Ledger

namespace Await

def taskId : Await → Nat
  | answer approval _ | interrupt approval => approval.taskId
  | release taskId _ _ => taskId

def holds (call : Await) (id : Nat) : Prop := ∃ approval ∈ call.requests, approval.id = id

def interrupts (call : Await) (id : Nat) : Prop := call.isAnswer = false ∧ call.approval.id = id

end Await

namespace Approvals

namespace Desk

def isStanding (counted : List Nat) (taskId : Nat) (request : Request) : Bool :=
  request.taskId = taskId ∧ request.id ∉ counted

def standing (desk : Desk) (taskId : Nat) : Nat :=
  desk.ledger.requests.countP (isStanding desk.counted taskId)

structure Exact (desk : Desk) : Prop where
  counts : ∀ id, desk.ledger.pendingCount id = desk.standing id
  open_ : ∀ request ∈ desk.ledger.requests, request.status = .pending → request.id ∉ desk.counted
  /-- A request that is closed and not counted down is held by a call. -/
  owed : ∀ request ∈ desk.ledger.requests, request.status ≠ .pending → request.id ∉ desk.counted →
    ∃ call ∈ desk.calls, call.holds request.id
  calls : ∀ call ∈ desk.calls, ∀ id, call.holds id →
    ∃ request ∈ desk.ledger.requests, request.id = id ∧ request.taskId = call.taskId
  known : ∀ id ∈ desk.counted, ∃ request ∈ desk.ledger.requests, request.id = id
  closed : ∀ call ∈ desk.calls, ∀ id, call.interrupts id →
    ∀ request ∈ desk.ledger.requests, request.id = id → request.status ≠ .pending
  once : desk.answered.Nodup
  answered : ∀ id ∈ desk.answered, id ∈ desk.counted ∨ ∃ call ∈ desk.calls, call.interrupts id

theorem exact_empty : Exact {} where
  counts id := rfl
  open_ request member := by cases member
  owed request member := by cases member
  calls call member := by cases member
  known id member := by cases member
  closed call member := by cases member
  once := .nil
  answered id member := by cases member

section Exact

variable {desk : Desk} {now : Ledger}

theorem Exact.same (exact_ : desk.Exact) (same : Ledger.Same desk.ledger now) :
    Exact { desk with ledger := now } := by
  constructor
  · intro id
    unfold standing
    rw [same.counts, same.requests]
    exact exact_.counts id
  · rw [same.requests]
    exact exact_.open_
  · rw [same.requests]
    exact exact_.owed
  · rw [same.requests]
    exact exact_.calls
  · rw [same.requests]
    exact exact_.known
  · rw [same.requests]
    exact exact_.closed
  · exact exact_.once
  · exact exact_.answered

theorem Exact.close {change : Request → Request} (exact_ : desk.Exact) (closes : Closes change)
    (counts : now.pendingCount = desk.ledger.pendingCount)
    (requests : now.requests = desk.ledger.requests.map change)
    (held : ∀ request ∈ desk.ledger.requests, change request ≠ request →
      ∃ call ∈ desk.calls, call.holds request.id) :
    Exact { desk with ledger := now } := by
  have kept {id : Nat} {taskId : Nat}
      (present : ∃ request ∈ desk.ledger.requests, request.id = id ∧ request.taskId = taskId) :
      ∃ request ∈ now.requests, request.id = id ∧ request.taskId = taskId := by
    obtain ⟨request, member, same⟩ := present
    rw [requests]
    refine ⟨change request, List.mem_map_of_mem member, ?_⟩
    rw [closes.id, closes.taskId]
    exact same
  constructor
  · intro id
    unfold standing
    rw [counts, requests, List.countP_map, exact_.counts id]
    refine List.countP_congr fun request _ => ?_
    rw [Function.comp_apply]
    unfold isStanding
    rw [closes.id, closes.taskId]
  · intro request member waits
    rw [requests] at member
    obtain ⟨old, inside, rfl⟩ := List.mem_map.mp member
    rcases closes.open_ old with same | ⟨-, closed⟩
    · rw [same] at waits ⊢
      exact exact_.open_ old inside waits
    · exact absurd waits closed
  · intro request member closed uncounted
    rw [requests] at member
    obtain ⟨old, inside, rfl⟩ := List.mem_map.mp member
    rw [closes.id] at uncounted ⊢
    by_cases same : change old = old
    · rw [same] at closed
      exact exact_.owed old inside closed uncounted
    · exact held old inside same
  · intro call member id holds
    exact kept (exact_.calls call member id holds)
  · intro id member
    obtain ⟨request, inside, same⟩ := exact_.known id member
    obtain ⟨other, otherMember, sameId, -⟩ := kept ⟨request, inside, same, rfl⟩
    exact ⟨other, otherMember, sameId⟩
  · intro call member id interrupts request inside same
    rw [requests] at inside
    obtain ⟨old, oldInside, rfl⟩ := List.mem_map.mp inside
    rw [closes.id] at same
    have before := exact_.closed call member id interrupts old oldInside same
    rcases closes.open_ old with kept | ⟨waits, -⟩
    · rw [kept]
      exact before
    · exact absurd waits before
  · exact exact_.once
  · exact exact_.answered

theorem Exact.count {request : Request} (exact_ : desk.Exact) (member : request ∈ desk.ledger.requests)
    (closed : request.status ≠ .pending)
    (due : request.id ∉ desk.counted ∨ desk.ledger.pendingCount request.taskId = 0)
    (requests : now.requests = desk.ledger.requests)
    (counts : ∀ id, now.pendingCount id =
      if id = request.taskId then desk.ledger.pendingCount id - 1 else desk.ledger.pendingCount id) :
    Exact { desk with ledger := now, counted := request.id :: desk.counted } := by
  constructor
  · intro id
    have drops : desk.standing id = now.requests.countP (isStanding (request.id :: desk.counted) id) +
        if isStanding desk.counted id request then 1 else 0 := by
      rw [requests]
      refine Keyed.countP_of_key desk.ledger.requests_unique member ?_ fun other _ apart => ?_
      · simp [isStanding]
      · simp [isStanding, apart]
    change now.pendingCount id = now.requests.countP (isStanding (request.id :: desk.counted) id)
    rw [counts]
    by_cases mine : id = request.taskId
    · rw [if_pos mine]
      rcases due with uncounted | zero
      · rw [if_pos (by simp [isStanding, mine, uncounted]), ← exact_.counts] at drops
        omega
      · rw [← mine] at zero
        rw [← exact_.counts, zero] at drops
        omega
    · rw [if_neg mine, exact_.counts, drops, if_neg (by simp [isStanding, Ne.symm mine])]
      rfl
  · intro other otherMember waits
    rw [requests] at otherMember
    rw [List.mem_cons, not_or]
    refine ⟨fun same => ?_, exact_.open_ other otherMember waits⟩
    rw [Ledger.request_of_id otherMember member same] at waits
    exact closed waits
  · intro other otherMember otherClosed uncounted
    rw [requests] at otherMember
    exact exact_.owed other otherMember otherClosed fun inside =>
      uncounted (List.mem_cons_of_mem request.id inside)
  · rw [requests]
    exact exact_.calls
  · rw [requests]
    exact List.forall_mem_cons.mpr ⟨⟨request, member, rfl⟩, exact_.known⟩
  · rw [requests]
    exact exact_.closed
  · exact exact_.once
  · intro id inside
    exact (exact_.answered id inside).imp_left (List.mem_cons_of_mem request.id)

theorem Exact.goOn {others : List Await} {dropped next : Option Await} (exact_ : desk.Exact)
    (calls : ∀ call, call ∈ desk.calls ↔ call ∈ others ∨ call ∈ dropped)
    (owed : ∀ call ∈ dropped, ∀ request ∈ desk.ledger.requests, call.holds request.id →
      request.status = .pending ∨ request.id ∈ desk.counted ∨
        ∃ call ∈ others ++ next.toList, call.holds request.id)
    (known : ∀ call ∈ next, ∀ id, call.holds id →
      ∃ request ∈ desk.ledger.requests, request.id = id ∧ request.taskId = call.taskId)
    (closed : ∀ call ∈ next, ∀ id, call.interrupts id →
      ∀ request ∈ desk.ledger.requests, request.id = id → request.status ≠ .pending)
    (answered : ∀ call ∈ dropped, ∀ id, call.interrupts id → id ∈ desk.counted) :
    Exact { desk with calls := others ++ next.toList } := by
  have stays {call : Await} (member : call ∈ others) : call ∈ others ++ next.toList :=
    List.mem_append_left _ member
  have origin {call : Await} (member : call ∈ others ++ next.toList) :
      call ∈ desk.calls ∨ call ∈ next := by
    rw [List.mem_append, Option.mem_toList] at member
    exact member.imp_left fun inside => (calls call).mpr (.inl inside)
  constructor
  · exact exact_.counts
  · exact exact_.open_
  · intro request member waits uncounted
    obtain ⟨call, inside, holds⟩ := exact_.owed request member waits uncounted
    rcases (calls call).mp inside with inside | inside
    · exact ⟨call, stays inside, holds⟩
    · rcases owed call inside request member holds with pending | counted | held
      · exact absurd pending waits
      · exact absurd counted uncounted
      · exact held
  · intro call member
    rcases origin member with member | member
    · exact exact_.calls call member
    · exact known call member
  · exact exact_.known
  · intro call member
    rcases origin member with member | member
    · exact exact_.closed call member
    · exact closed call member
  · exact exact_.once
  · intro id member
    rcases exact_.answered id member with counted | ⟨call, inside, interrupts⟩
    · exact .inl counted
    · rcases (calls call).mp inside with inside | inside
      · exact .inr ⟨call, stays inside, interrupts⟩
      · exact .inl (answered call inside id interrupts)

theorem Exact.add {taskId : Nat} (exact_ : desk.Exact)
    (requests : now.requests =
      desk.ledger.requests ++ [⟨desk.ledger.approvalRequests.nextKey, taskId, .pending⟩])
    (counts : ∀ id, now.pendingCount id =
      if id = taskId then desk.ledger.pendingCount id + 1 else desk.ledger.pendingCount id) :
    Exact { desk with ledger := now } := by
  have fresh : desk.ledger.approvalRequests.nextKey ∉ desk.counted := by
    intro inside
    obtain ⟨request, member, same⟩ := exact_.known _ inside
    exact Nat.ne_of_lt (Ledger.request_lt_nextKey member) same
  have kept {request : Request} (member : request ∈ desk.ledger.requests) : request ∈ now.requests := by
    rw [requests]
    exact List.mem_append_left _ member
  have origin {request : Request} (member : request ∈ now.requests) :
      request ∈ desk.ledger.requests ∨
        request = ⟨desk.ledger.approvalRequests.nextKey, taskId, .pending⟩ := by
    rw [requests, List.mem_append, List.mem_singleton] at member
    exact member
  constructor
  · intro id
    unfold standing
    rw [counts, requests, List.countP_append, List.countP_singleton, exact_.counts]
    unfold standing
    by_cases mine : id = taskId
    · rw [if_pos mine, if_pos (by simp [isStanding, mine, fresh])]
    · rw [if_neg mine, if_neg (by simp [isStanding, Ne.symm mine])]
      rfl
  · intro request member waits
    rcases origin member with member | rfl
    · exact exact_.open_ request member waits
    · exact fresh
  · intro request member closed
    rcases origin member with member | rfl
    · exact exact_.owed request member closed
    · exact absurd rfl closed
  · intro call member id holds
    obtain ⟨request, inside, same⟩ := exact_.calls call member id holds
    exact ⟨request, kept inside, same⟩
  · intro id member
    obtain ⟨request, inside, same⟩ := exact_.known id member
    exact ⟨request, kept inside, same⟩
  · intro call member id interrupts request inside same
    rcases origin inside with inside | rfl
    · exact exact_.closed call member id interrupts request inside same
    · obtain ⟨interrupted, sameId⟩ := interrupts
      have held : call.holds id := by
        cases call with
        | interrupt approval => exact ⟨approval, List.mem_cons_self, sameId⟩
        | answer | release => cases interrupted
      obtain ⟨other, otherInside, otherSame, -⟩ := exact_.calls call member id held
      exact absurd (otherSame.trans same.symm) (Nat.ne_of_lt (Ledger.request_lt_nextKey otherInside))
  · exact exact_.once
  · exact exact_.answered

theorem Exact.answer {id : Nat} (exact_ : desk.Exact) (first : id ∉ desk.answered)
    (taken : id ∈ desk.counted ∨ ∃ call ∈ desk.calls, call.interrupts id) :
    Exact { desk with answered := id :: desk.answered } where
  counts := exact_.counts
  open_ := exact_.open_
  owed := exact_.owed
  calls := exact_.calls
  known := exact_.known
  closed := exact_.closed
  once := List.nodup_cons.mpr ⟨first, exact_.once⟩
  answered := List.forall_mem_cons.mpr ⟨taken, exact_.answered⟩

end Exact

end Desk

end Approvals

end Wlcodex.Tasks
