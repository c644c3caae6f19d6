import Wlcodex.Codex.MirrorOnce
import Wlcodex.Native.Projector

namespace Wlcodex.Native

open Wlcodex.Lib
open Wlcodex.Codex (StoredEvent lookup_redactMembers maxPayloadStringLength nativeFields)
open Wlcodex.Relay (Dict firstTruthy strip truthy)
open Wlcodex.Relay.StreamState (isText lookup_set_of_ne lookup_set_self)
open Wlcodex.Runtime (WordClass plainWords redactPayload redactPayloadValue redactTextContent)

/-! Approval requests of the app-server. -/

/-- The methods of `_SERVER_REQUEST_TO_APPROVAL_KIND`. -/
inductive ServerRequest where
  | commandExecutionApproval
  | fileChangeApproval
  | permissionsApproval
  | execCommandApproval
  | applyPatchApproval
  deriving DecidableEq

namespace ServerRequest

def kind : ServerRequest → String
  | .commandExecutionApproval | .execCommandApproval => "command"
  | .fileChangeApproval | .applyPatchApproval => "file_change"
  | .permissionsApproval => "permissions"

/-- `_LEGACY_APPROVAL_METHODS`. -/
def isLegacy : ServerRequest → Bool
  | .execCommandApproval | .applyPatchApproval => true
  | _ => false

end ServerRequest

inductive ApprovalAction where
  | approveOnce
  | approveSession
  | deny
  | cancel
  deriving DecidableEq

structure PendingApproval where
  nativeThreadId : String
  payload : Dict

structure Controller where
  projector : Projector
  approvals : String → Option PendingApproval
  /-- The requests that came over the current connection and are not resolved. -/
  held : List String

def Controller.started (logs : String → List StoredEvent) : Controller where
  projector := { logs := logs }
  approvals _ := none
  held := []

/-- What a call of `resolve_approval` comes to. -/
inductive Resolution where
  /-- `ValueError`: the id is blank. -/
  | missingId
  /-- `KeyError`. -/
  | unknownRequest
  /-- `ValueError`: there is no such action. -/
  | invalidAction
  /-- `client.resolve_request` is called. -/
  | sent (response : Dict)

inductive ControllerStep where
  | request (request : ServerRequest) (payload : Dict) (requestId : String)
  | notification (method : String) (payload : Dict)
  | resolve (requestId : String) (response : Dict)
  /-- The connection is made anew; what it held is gone with it. -/
  | reconnect
  | restart

section Python

variable (words : WordClass) (python : Python)

/-- The call that `project_approval_request` makes, if it makes one. -/
def approvalCall? (request : ServerRequest) (payload : Dict) (requestId : String) :
    Option BackendCall :=
  let thread := approvalThreadId python.toBuiltins payload
  let turn := turnId python.toBuiltins payload
  if thread = "" then none
  else some ⟨.approvalRequested, thread, turn, overlaid payload ([("threadId", .string thread),
    ("turnId", .string turn), ("codexRequestId", .string requestId),
    ("kind", .string request.kind)] ++
      if request.isLegacy then [("responseSchema", .string "legacy_review_decision")] else [])⟩

def registration? (projected : List StoredEvent) : Option PendingApproval :=
  projected.findSome? fun event =>
    let thread := event.payload.getOrNull "native_thread_id"
    if truthy thread then some ⟨python.text thread, event.payload⟩ else none

def Controller.receive (controller : Controller) (request : ServerRequest) (payload : Dict)
    (requestId : String) : Controller :=
  let projected := controller.projector.appendEach words python
    (approvalCall? python request payload requestId).toList
  { projector := projected.1
    approvals := match registration? python projected.2 with
      | some approval => Function.update controller.approvals requestId (some approval)
      | none => controller.approvals
    held := requestId :: controller.held }

def approvalAction? (response : Dict) : Option ApprovalAction :=
  match fieldText python response "action" with
  | "approve_once" => some .approveOnce
  | "approve_session" => some .approveSession
  | "deny" => some .deny
  | "cancel" => some .cancel
  | _ => none

/-- `build_legacy_approval_response`, where the session may be allowed. -/
def buildLegacyApprovalResponse (action : ApprovalAction) : Dict :=
  [("decision", .string (match action with
    | .approveOnce => "approved"
    | .approveSession => "approved_for_session"
    | .deny => "denied"
    | .cancel => "abort"))]

/-- `build_approval_response`, where the session may be allowed. -/
def buildApprovalResponse (kind : String) (action : ApprovalAction) (requestedPermissions : Dict) :
    Dict :=
  if kind = "permissions" then
    match action with
    | .approveOnce => [("permissions", .object requestedPermissions), ("scope", .string "turn")]
    | .approveSession =>
        [("permissions", .object requestedPermissions), ("scope", .string "session")]
    | _ => [("permissions", .object []), ("scope", .string "turn")]
  else
    [("decision", .string (match action with
      | .approveOnce => "accept"
      | .approveSession => "acceptForSession"
      | .deny => "decline"
      | .cancel => "cancel"))]

/-- `_approval_protocol_response`; of another action it raises. -/
def approvalProtocolResponse (approvalPayload response : Dict) : Option Dict :=
  (approvalAction? python response).map fun action =>
    if isText (approvalPayload.lookup "responseSchema") "legacy_review_decision" then
      buildLegacyApprovalResponse action
    else
      buildApprovalResponse (fieldText python approvalPayload "kind") action
        (((nested? approvalPayload "requestedPermissions").or
          (nested? approvalPayload "permissions")).getD [])

/-- The call of `project_approval_resolved`. -/
def approvalResolvedCall (approval : PendingApproval) (requestId : String) (response : Dict) :
    BackendCall :=
  let turn := ((firstTruthy approval.payload ["native_turn_id", "turnId"]).map python.text).getD ""
  ⟨.approvalResolved, approval.nativeThreadId, turn,
    [("threadId", .string approval.nativeThreadId), ("turnId", .string turn),
      ("codexRequestId", .string requestId), ("response", .object response)]⟩

def Controller.resolveApproval (controller : Controller) (requestId : String) (response : Dict) :
    Controller × Resolution :=
  if strip requestId = "" then (controller, .missingId)
  else match (controller.approvals requestId).filter fun approval => approval.nativeThreadId ≠ "" with
    | none => (controller, .unknownRequest)
    | some approval =>
        match approvalProtocolResponse python approval.payload response with
        | none => (controller, .invalidAction)
        | some answer =>
            ({ projector := (controller.projector.append words python
                  (approvalResolvedCall python approval requestId answer)).1
               approvals := Function.update controller.approvals requestId none
               held := controller.held.filter (· ≠ requestId) }, .sent answer)

def controllerStep (controller : Controller) : ControllerStep → Controller
  | .request request payload requestId => controller.receive words python request payload requestId
  | .notification method payload =>
      { controller with
        projector := (controller.projector.projectNotification words python method payload).1 }
  | .resolve requestId response => (controller.resolveApproval words python requestId response).1
  | .reconnect => { controller with held := [] }
  | .restart => .started controller.projector.logs

def Answerable (controller : Controller) : Prop :=
  ∀ requestId ∈ controller.held, ∀ response, (approvalAction? python response).isSome →
    ∃ answer, (controller.resolveApproval words python requestId response).2 = .sent answer

def Knows (controller : Controller) (requestId : String) : Prop :=
  ∃ approval, controller.approvals requestId = some approval ∧ approval.nativeThreadId ≠ ""

def Registers (controller : Controller) : ControllerStep → Prop
  | .request request payload requestId => strip requestId ≠ "" ∧
      (Knows controller requestId ∨ ∃ call ∈ approvalCall? python request payload requestId,
        ∃ candidate ∈ call.candidates words python, candidate.key ∉
          (controller.projector.load words python call.nativeThreadId).seenEventKeys)
  | _ => True

variable {words python}

theorem approvalProtocolResponse_isSome (approvalPayload response : Dict) :
    (approvalProtocolResponse python approvalPayload response).isSome =
      (approvalAction? python response).isSome :=
  Option.isSome_map

variable {requestId : String}

theorem resolveApproval_of_knows {controller : Controller}
    (named : strip requestId ≠ "") (known : Knows controller requestId) {response : Dict}
    (valid : (approvalAction? python response).isSome) :
    ∃ answer, (controller.resolveApproval words python requestId response).2 = .sent answer := by
  obtain ⟨approval, entry, thread⟩ := known
  have found : (controller.approvals requestId).filter (fun approval => approval.nativeThreadId ≠ "") =
      some approval := by
    rw [entry, Option.filter_some, if_pos (decide_eq_true thread)]
  rw [← approvalProtocolResponse_isSome approval.payload, Option.isSome_iff_exists] at valid
  obtain ⟨answer, made⟩ := valid
  refine ⟨answer, ?_⟩
  rw [Controller.resolveApproval, if_neg named, found]
  dsimp only
  rw [made]

theorem knows_of_resolveApproval {controller : Controller} {response answer : Dict}
    (sent : (controller.resolveApproval words python requestId response).2 = .sent answer) :
    strip requestId ≠ "" ∧ Knows controller requestId := by
  unfold Controller.resolveApproval at sent
  split_ifs at sent with blank
  refine ⟨blank, ?_⟩
  split at sent
  · cases sent
  next approval found =>
    obtain ⟨entry, thread⟩ := Option.filter_eq_some_iff.mp found
    exact ⟨approval, entry, of_decide_eq_true thread⟩

theorem answerable_iff (controller : Controller) :
    Answerable words python controller ↔
      ∀ requestId ∈ controller.held, strip requestId ≠ "" ∧ Knows controller requestId := by
  constructor
  · intro answerable requestId member
    obtain ⟨answer, sent⟩ := answerable requestId member [("action", .string "deny")] rfl
    exact knows_of_resolveApproval sent
  · intro known requestId member response valid
    exact resolveApproval_of_knows (known requestId member).1 (known requestId member).2 valid

theorem redactTextContent_ne_nil {text : List Char} (some_ : text ≠ []) :
    redactTextContent words text ≠ [] := by
  apply Regex.sub_ne_nil
  · exact fun _ => List.cons_ne_nil _ _
  apply Regex.sub_ne_nil
  · intro groups
    unfold Runtime.redactBearer
    split
    · exact List.append_ne_nil_of_right_ne_nil _ (List.cons_ne_nil _ _)
    · exact List.cons_ne_nil _ _
  apply Regex.sub_ne_nil _ some_
  intro groups
  unfold Runtime.redactAssignment
  split
  · exact List.append_ne_nil_of_right_ne_nil _ (List.append_ne_nil_of_right_ne_nil _
      (List.append_ne_nil_of_right_ne_nil _ (List.cons_ne_nil _ _)))
  · exact List.cons_ne_nil _ _

theorem capString_ne_nil (limit : Option Nat) {text : List Char} (some_ : text ≠ []) :
    Runtime.capString limit text ≠ [] := by
  cases limit with
  | none => exact some_
  | some limit =>
      rw [Runtime.capString]
      split_ifs
      · exact some_
      · exact List.append_ne_nil_of_right_ne_nil _ (by decide)

theorem redacted_ne_empty {text : String} (some_ : text ≠ "") (limit : Option Nat) :
    ∃ stored, stored ≠ "" ∧
      redactPayloadValue words limit (.string text) = .string stored := by
  refine ⟨_, ?_, rfl⟩
  intro none_
  refine capString_ne_nil limit (redactTextContent_ne_nil ?_) (String.ofList_eq_empty_iff.mp none_)
  exact fun blank => some_ (String.toList_eq_nil_iff.mp blank)

theorem lookup_nativeFields (payload : Dict) (thread turn : String) :
    (overlaid payload (nativeFields thread turn)).lookup "native_thread_id" =
      some (.string thread) := by
  simp only [nativeFields, overlaid, List.foldl_cons, List.foldl_nil]
  rw [lookup_set_of_ne _ (by decide), lookup_set_of_ne _ (by decide),
    lookup_set_of_ne _ (by decide), lookup_set_of_ne _ (by decide)]
  exact lookup_set_self _ _ _

variable {call : BackendCall}

theorem lookup_thread {candidate : Candidate} (member : candidate ∈ call.candidates words python) :
    candidate.stored.payload.lookup "native_thread_id" =
      some (redactPayloadValue words (some maxPayloadStringLength) (.string call.nativeThreadId)) := by
  rcases List.mem_cons.mp member with rfl | mapped
  · change (redactPayload words _ _).lookup "native_thread_id" = _
    rfl
  · obtain ⟨event, _, rfl⟩ := List.mem_map.mp mapped
    change (redactPayload words _ (overlaid _ _)).lookup "native_thread_id" = _
    rw [redactPayload, lookup_redactMembers _ (by decide), lookup_nativeFields]
    rfl

theorem registration?_isSome {events : List StoredEvent} (some_ : events ≠ [])
    (named : ∀ event ∈ events, ∃ thread, thread ≠ "" ∧
      event.payload.lookup "native_thread_id" = some (.string thread)) :
    ∃ approval, registration? python events = some approval ∧ approval.nativeThreadId ≠ "" := by
  cases events with
  | nil => contradiction
  | cons event events =>
      obtain ⟨thread, counts, found⟩ := named event List.mem_cons_self
      have own : event.payload.getOrNull "native_thread_id" = .string thread := by
        rw [Dict.getOrNull, found]
        rfl
      refine ⟨⟨thread, event.payload⟩, ?_, counts⟩
      rw [registration?, List.findSome?_cons, own]
      rw [if_pos (show truthy (.string thread) = true from decide_eq_true counts)]
      rfl

variable {request : ServerRequest} {payload : Dict}

theorem approvalCall?_named (made : approvalCall? python request payload requestId = some call) :
    call.nativeThreadId ≠ "" := by
  unfold approvalCall? at made
  dsimp only at made
  split_ifs at made with blank
  · cases made
    exact blank
  · cases made
    exact blank

theorem named_of_appended {projector : Projector} {event : StoredEvent}
    (member : event ∈ (projector.appendEach words python
      (approvalCall? python request payload requestId).toList).2) :
    ∃ thread, thread ≠ "" ∧ event.payload.lookup "native_thread_id" = some (.string thread) := by
  cases made : approvalCall? python request payload requestId with
  | none =>
      rw [made] at member
      cases member
  | some call =>
      rw [made] at member
      change event ∈ (projector.store words python call.nativeThreadId _).2 ++ [] at member
      rw [List.append_nil] at member
      obtain ⟨candidate, listed, rfl⟩ := Projector.mem_store_snd member
      obtain ⟨stored, counts, redacted⟩ :=
        @redacted_ne_empty words _ (approvalCall?_named made) (some maxPayloadStringLength)
      exact ⟨stored, counts, by rw [lookup_thread listed, redacted]⟩

theorem appended_iff (request : ServerRequest) (payload : Dict) (requestId : String) (projector : Projector) :
    (projector.appendEach words python (approvalCall? python request payload requestId).toList).2 ≠ [] ↔
      ∃ call ∈ approvalCall? python request payload requestId,
        ∃ candidate ∈ call.candidates words python,
          candidate.key ∉ (projector.load words python call.nativeThreadId).seenEventKeys := by
  cases approvalCall? python request payload requestId with
  | none => simp [Projector.appendEach]
  | some call =>
      change (projector.store words python call.nativeThreadId _).2 ++ [] ≠ [] ↔ _
      rw [List.append_nil, Ne, Projector.store_eq_nil_iff]
      simp

section Steps

variable (controller : Controller)

theorem knows_receive_self (request : ServerRequest) (payload : Dict) (requestId : String) :
    Knows (controller.receive words python request payload requestId) requestId ↔
      Knows controller requestId ∨ (controller.projector.appendEach words python
        (approvalCall? python request payload requestId).toList).2 ≠ [] := by
  by_cases nothing : (controller.projector.appendEach words python
      (approvalCall? python request payload requestId).toList).2 = []
  · have kept : (controller.receive words python request payload requestId).approvals =
        controller.approvals := by
      unfold Controller.receive
      dsimp only
      rw [nothing]
      rfl
    rw [Knows, kept]
    simp only [nothing, ne_eq, not_true_eq_false, or_false]
    rfl
  · obtain ⟨approval, registered, counts⟩ :=
      @registration?_isSome python _ nothing fun event member => named_of_appended member
    refine ⟨fun _ => .inr nothing, fun _ => ⟨approval, ?_, counts⟩⟩
    unfold Controller.receive
    dsimp only
    rw [registered]
    exact Function.update_self _ _ _

theorem knows_receive_of_ne (request : ServerRequest) (payload : Dict) {requestId other : String}
    (apart : other ≠ requestId) :
    Knows (controller.receive words python request payload requestId) other ↔
      Knows controller other := by
  have kept : (controller.receive words python request payload requestId).approvals other =
      controller.approvals other := by
    unfold Controller.receive
    dsimp only
    cases registration? python _ with
    | some approval => exact Function.update_of_ne apart _ _
    | none => rfl
  rw [Knows, kept]
  rfl

variable {controller}

theorem answerable_receive_iff (answerable : Answerable words python controller)
    (request : ServerRequest) (payload : Dict) (requestId : String) :
    Answerable words python (controller.receive words python request payload requestId) ↔
      Registers words python controller (.request request payload requestId) := by
  rw [answerable_iff] at answerable ⊢
  have held : (controller.receive words python request payload requestId).held =
      requestId :: controller.held := rfl
  rw [held, List.forall_mem_cons, knows_receive_self, appended_iff]
  refine ⟨And.left, fun registers => ⟨registers, ?_⟩⟩
  intro other member
  refine ⟨(answerable other member).1, ?_⟩
  by_cases same : other = requestId
  · subst same
    exact (knows_receive_self controller request payload other).mpr (.inl (answerable other member).2)
  · exact (knows_receive_of_ne controller request payload same).mpr (answerable other member).2

theorem answerable_resolve (answerable : Answerable words python controller) (requestId : String)
    (response : Dict) : Answerable words python
      (controller.resolveApproval words python requestId response).1 := by
  unfold Controller.resolveApproval
  split_ifs
  · exact answerable
  split
  · exact answerable
  split
  · exact answerable
  rw [answerable_iff] at answerable ⊢
  intro other member
  obtain ⟨listed, apart⟩ := List.mem_filter.mp member
  obtain ⟨named, approval, entry, counts⟩ := answerable other listed
  exact ⟨named, approval, (Function.update_of_ne (of_decide_eq_true apart) _ _).trans entry, counts⟩

theorem answerable_step_iff (answerable : Answerable words python controller) (step : ControllerStep) :
    Answerable words python (controllerStep words python controller step) ↔
      Registers words python controller step := by
  cases step with
  | request request payload requestId =>
      exact answerable_receive_iff answerable request payload requestId
  | notification method payload =>
      exact iff_of_true ((answerable_iff _).mpr ((answerable_iff controller).mp answerable)) trivial
  | resolve requestId response =>
      exact iff_of_true (answerable_resolve answerable requestId response) trivial
  | reconnect | restart => exact iff_of_true (fun _ member => absurd member List.not_mem_nil) trivial

end Steps

/-- From a start over any store: in every state that is reached each held request can be answered,
if and only if each request that came was registered. -/
theorem held_answerable_iff (logs : String → List StoredEvent) (steps : List ControllerStep) :
    (∀ earlier later, steps = earlier ++ later → Answerable words python
        (earlier.foldl (controllerStep words python) (.started logs))) ↔
      Along (controllerStep words python) (Registers words python) (.started logs) steps :=
  @reached_iff_along _ _ (controllerStep words python) (Registers words python)
    (Answerable words python) (fun _ step answerable => answerable_step_iff answerable step) _ _
    fun _ member => absurd member List.not_mem_nil

theorem not_registers_again (made : approvalCall? python request payload requestId = some call)
    (few : (call.candidates words python).length ≤ 50000)
    (stable : ∀ candidate ∈ call.candidates words python,
      persistedKey words python candidate.stored = some candidate.key) :
    ¬Registers words python
      ([.request request payload requestId, .restart].foldl (controllerStep words python)
        (.started fun _ => [])) (.request request payload requestId) := by
  have log : ([ControllerStep.request request payload requestId, .restart].foldl
      (controllerStep words python) (.started fun _ => [])).projector =
        (({ logs := fun _ => [] } : Projector).store words python call.nativeThreadId
          (call.candidates words python)).1.restarted := by
    simp only [List.foldl_cons, List.foldl_nil, controllerStep, Controller.receive, made]
    rfl
  rintro ⟨-, ⟨approval, entry, -⟩ | ⟨other, made', candidate, member, new⟩⟩
  · cases entry
  · obtain rfl : other = call := Option.some.inj (made'.symm.trans made)
    apply new
    rw [log, Projector.seenEventKeys_restarted, Projector.logs_store,
      Projector.mem_persistedKeys_append]
    refine readBack_of_stable ?_ stable candidate member
    exact (Nat.zero_add _).trans_le ((length_unseen_le _ _).trans few)

end Python

def commandRequest : ControllerStep :=
  .request .commandExecutionApproval [("threadId", .string "thread-1"), ("turnId", .string "turn-1"),
    ("command", .string "ls")] "7"

theorem redelivered_request_unknown :
    ¬∀ earlier later, [commandRequest, .restart, commandRequest] = earlier ++ later →
      Answerable plainWords samplePython
        (earlier.foldl (controllerStep plainWords samplePython) (.started fun _ => [])) := by
  intro all
  have before := all [commandRequest, .restart] [commandRequest] rfl
  have after := all [commandRequest, .restart, commandRequest] [] rfl
  rw [show [commandRequest, .restart, commandRequest] =
    [commandRequest, .restart] ++ [commandRequest] from rfl, List.foldl_append] at after
  refine not_registers_again rfl ?_ ?_ ((answerable_step_iff before commandRequest).mp after)
  · decide
  · decide +kernel

end Wlcodex.Native
