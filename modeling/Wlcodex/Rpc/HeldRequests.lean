import Mathlib.Data.List.Nodup
import Wlcodex.Rpc.Client

namespace Wlcodex.Rpc

open Wlcodex.Lib
open Wlcodex.Relay (Dict str)

/-! The answers to the requests of the server. -/

def Request.Open (request : Request) : Prop :=
  request.stage ≠ .refused ∧ request.stage ≠ .closed

variable (builtins : Builtins)

namespace Client

def Answerable (client : Client) : ClientOp → Prop
  | .receive message _ => ∀ id method, message.lookup "id" = some id →
      message.lookup "method" = some method →
      client.serverRequestHandlers (str builtins.repr method) = true →
      ∀ number request, client.requests number = some request → request.Open →
        requestKey builtins request.id ≠ requestKey builtins id
  | .handlerEnds number raised => raised = true → ∀ request,
      client.requests number = some request → request.stage = .handling →
      request.future.done = false → ∃ text, request.id = .string text
  | .close => False
  | _ => True

def Decides (client : Client) (number : Nat) : ClientOp → Prop
  | .resolve requestId _ => ∃ request, client.requests number = some request ∧
      request.stage ≠ .refused ∧ requestKey builtins request.id = requestId
  | .reject requestId _ _ => ∃ request, client.requests number = some request ∧
      request.stage ≠ .refused ∧ requestKey builtins request.id = requestId
  | .handlerEnds other raised => raised = true ∧ other = number ∧
      ∃ request, client.requests number = some request ∧ request.stage = .handling
  | _ => False

def Underway (client : Client) (number : Nat) : Prop :=
  ∃ request, client.requests number = some request ∧ request.stage ≠ .refused ∧
    request.future.done = true

def Answers (client : Client) (number : Nat) : Prop :=
  ∃ response ∈ client.responses, response.request = number

end Client

structure Kept (client : Client) (number : Nat) (request : Request) : Prop where
  held : request.stage ≠ .refused → request.future.done = false →
    client.heldRequests (Client.requestKey builtins request.id) = some number ∧
      client.heldRequestRawIds (Client.requestKey builtins request.id) = some request.id ∧
      request.rawId = none
  labelled : request.future.done = true →
    request.rawId.getD (.string (Client.requestKey builtins request.id)) = request.id
  uncancelled : request.future ≠ .cancelled
  done : request.stage = .answered ∨ request.stage = .closed → request.future.done = true
  answered : request.stage = .answered ∨ request.stage = .closed → client.Answers number
  unanswered : request.stage = .handling ∨ request.stage = .scheduled → ¬ client.Answers number

structure Client.Filed (client : Client) : Prop where
  fresh : ∀ number, client.arrived ≤ number → client.requests number = none
  labels : ∀ response ∈ client.responses, ∃ request,
    client.requests response.request = some request ∧ response.id = request.id
  once : (client.responses.map (·.request)).Nodup
  named : ∀ key number, client.heldRequests key = some number → ∃ request,
    client.requests number = some request ∧ request.stage ≠ .refused ∧
      Client.requestKey builtins request.id = key
  apart : ∀ number request other another, client.requests number = some request →
    client.requests other = some another → request.Open → another.Open →
    Client.requestKey builtins request.id = Client.requestKey builtins another.id → number = other

structure Client.Accountable (client : Client) : Prop extends Client.Filed builtins client where
  kept : ∀ number request, client.requests number = some request →
    Kept builtins client number request

structure Client.SameRequests (client next : Client) : Prop where
  requests : next.requests = client.requests
  arrived : next.arrived = client.arrived
  responses : next.responses = client.responses
  held : next.heldRequests = client.heldRequests
  rawIds : next.heldRequestRawIds = client.heldRequestRawIds

section Steps

variable {builtins} {client : Client}

namespace Client

theorem SameRequests.refl (client : Client) : client.SameRequests client :=
  ⟨rfl, rfl, rfl, rfl, rfl⟩

theorem sameRequests_await (client : Client) (rid : Nat) (call : Call) :
    client.SameRequests (client.await rid call) := by
  unfold await
  split
  · exact ⟨rfl, rfl, rfl, rfl, rfl⟩
  next outcome _ => cases outcome <;> exact ⟨rfl, rfl, rfl, rfl, rfl⟩

theorem sameRequests_sent (client : Client) (rid : Nat) :
    client.SameRequests (client.sent rid) := by
  unfold sent
  split
  · split
    · exact sameRequests_await client rid _
    · exact .refl client
  · exact .refl client

theorem sameRequests_sendFails (client : Client) (rid : Nat) :
    client.SameRequests (client.sendFails rid) := by
  unfold sendFails
  split
  · split
    · exact ⟨rfl, rfl, rfl, rfl, rfl⟩
    · exact .refl client
  · exact .refl client

theorem sameRequests_interrupt (client : Client) (rid : Nat) (mark : Call → Call) :
    client.SameRequests (client.interrupt rid mark) := by
  unfold interrupt
  split
  · split
    · exact ⟨rfl, rfl, rfl, rfl, rfl⟩
    · exact .refl client
  · exact .refl client

theorem sameRequests_wake (client : Client) (rid : Nat) :
    client.SameRequests (client.wake rid) := by
  unfold wake
  split
  · split
    · exact sameRequests_await client rid _
    · exact .refl client
  · exact .refl client

theorem sameRequests_receiveResponse (client : Client) (id : Json) (message : Dict) :
    client.SameRequests (client.receiveResponse builtins id message) := by
  unfold receiveResponse
  split
  · split
    · exact .refl client
    · split
      · exact ⟨rfl, rfl, rfl, rfl, rfl⟩
      · split
        · split
          · exact ⟨rfl, rfl, rfl, rfl, rfl⟩
          · exact ⟨rfl, rfl, rfl, rfl, rfl⟩
        · exact ⟨rfl, rfl, rfl, rfl, rfl⟩
  · exact ⟨rfl, rfl, rfl, rfl, rfl⟩

theorem not_answers_arrived (accountable : client.Accountable builtins) :
    ¬ client.Answers client.arrived := by
  rintro ⟨response, member, same⟩
  obtain ⟨request, known, _⟩ := accountable.labels response member
  rw [same, accountable.fresh _ le_rfl] at known
  cases known

variable {number : Nat} {request : Request}

theorem Kept.open_of_waiting (kept : Kept builtins client number request) (held : request.stage ≠ .refused)
    (waits : request.future.done = false) : request.Open := by
  refine ⟨held, fun closed => ?_⟩
  rw [kept.done (.inr closed)] at waits
  cases waits

theorem Accountable.of_same (accountable : client.Accountable builtins) {next : Client}
    (same : client.SameRequests next) : next.Accountable builtins := by
  refine ⟨⟨?_, ?_, ?_, ?_, ?_⟩, ?_⟩
  · rw [same.requests, same.arrived]
    exact accountable.fresh
  · rw [same.requests, same.responses]
    exact accountable.labels
  · rw [same.responses]
    exact accountable.once
  · rw [same.requests, same.held]
    exact accountable.named
  · rw [same.requests]
    exact accountable.apart
  · intro number request known
    rw [same.requests] at known
    have kept := accountable.kept number request known
    refine ⟨?_, kept.labelled, kept.uncancelled, kept.done, ?_, ?_⟩
    · rw [same.held, same.rawIds]
      exact kept.held
    · simpa only [Answers, same.responses] using kept.answered
    · simpa only [Answers, same.responses] using kept.unanswered

variable {stored : Request}

theorem requests_putRequest {other : Nat}
    (member : (client.putRequest number request).requests other = some stored) :
    other = number ∧ stored = request ∨ other ≠ number ∧ client.requests other = some stored := by
  simp only [putRequest, Function.update_apply] at member
  split at member
  next same => exact .inl ⟨same, (Option.some.inj member).symm⟩
  next apart => exact .inr ⟨apart, member⟩

variable {old : Request}

theorem filed_putRequest (filed : client.Filed builtins)
    (known : client.requests number = some old) (sameId : request.id = old.id)
    (opens : request.Open → old.Open) (stays : old.stage ≠ .refused → request.stage ≠ .refused) :
    (client.putRequest number request).Filed builtins := by
  have lasts (other : Nat) (stored : Request) (member : client.requests other = some stored) :
      ∃ later, (client.putRequest number request).requests other = some later ∧
        later.id = stored.id ∧ (stored.stage ≠ .refused → later.stage ≠ .refused) := by
    simp only [putRequest, Function.update_apply]
    split
    next same =>
      rw [same, known] at member
      cases member
      exact ⟨request, rfl, sameId, stays⟩
    · exact ⟨stored, member, rfl, id⟩
  have before (other : Nat) (stored : Request)
      (member : (client.putRequest number request).requests other = some stored)
      (isOpen : stored.Open) : ∃ earlier, client.requests other = some earlier ∧
        earlier.Open ∧ earlier.id = stored.id := by
    rcases requests_putRequest member with ⟨rfl, rfl⟩ | ⟨_, before⟩
    · exact ⟨old, known, opens isOpen, sameId.symm⟩
    · exact ⟨stored, before, isOpen, rfl⟩
  refine ⟨?_, ?_, filed.once, ?_, ?_⟩
  · intro other later
    have absent := filed.fresh other later
    have apart : other ≠ number := by
      rintro rfl
      rw [known] at absent
      cases absent
    simpa only [putRequest, Function.update_of_ne apart] using absent
  · intro response member
    obtain ⟨stored, was, same⟩ := filed.labels response member
    obtain ⟨later, after, sameId, _⟩ := lasts _ stored was
    exact ⟨later, after, same.trans sameId.symm⟩
  · intro key other holds
    obtain ⟨stored, was, stage, same⟩ := filed.named key other holds
    obtain ⟨later, after, sameId, stays⟩ := lasts _ stored was
    exact ⟨later, after, stays stage, sameId ▸ same⟩
  · intro first stored second another member member' isOpen isOpen' same
    obtain ⟨earlier, was, wasOpen, sameFirst⟩ := before first stored member isOpen
    obtain ⟨earlier', was', wasOpen', sameSecond⟩ := before second another member' isOpen'
    refine filed.apart first earlier second earlier' was was' wasOpen wasOpen' ?_
    rw [sameFirst, sameSecond]
    exact same

theorem accountable_putRequest (accountable : client.Accountable builtins) (known : client.requests number = some old)
    (sameId : request.id = old.id) (opens : request.Open → old.Open)
    (stays : old.stage ≠ .refused → request.stage ≠ .refused) (kept : Kept builtins client number request) :
    (client.putRequest number request).Accountable builtins := by
  refine ⟨filed_putRequest accountable.toFiled known sameId opens stays, ?_⟩
  intro other stored member
  rcases requests_putRequest member with ⟨rfl, rfl⟩ | ⟨_, before⟩
  · exact ⟨kept.held, kept.labelled, kept.uncancelled, kept.done, kept.answered, kept.unanswered⟩
  · have kept := accountable.kept other stored before
    exact ⟨kept.held, kept.labelled, kept.uncancelled, kept.done, kept.answered, kept.unanswered⟩

theorem accountable_popHeld (accountable : client.Accountable builtins) {key : String}
    (unused : ∀ number request, client.requests number = some request →
      request.stage ≠ .refused → request.future.done = false →
      requestKey builtins request.id ≠ key) :
    (client.popHeld key).Accountable builtins := by
  refine ⟨⟨accountable.fresh, accountable.labels, accountable.once, ?_, accountable.apart⟩, ?_⟩
  · intro other number holds
    simp only [popHeld, Function.update_apply] at holds
    split at holds
    · cases holds
    · exact accountable.named other number holds
  · intro number request known
    have kept := accountable.kept number request known
    refine ⟨?_, kept.labelled, kept.uncancelled, kept.done, kept.answered, kept.unanswered⟩
    intro stage waits
    have apart := unused number request known stage waits
    simp only [popHeld, Function.update_of_ne apart]
    exact kept.held stage waits

theorem answers_append (response : Response) (number : Nat) :
    Answers { client with responses := client.responses ++ [response] } number ↔
      client.Answers number ∨ response.request = number := by
  simp only [Answers, List.mem_append, List.mem_singleton, or_and_right, exists_or, exists_eq_left]

theorem filed_append (filed : client.Filed builtins) {response : Response}
    (known : client.requests response.request = some request) (label : response.id = request.id)
    (first : ¬ client.Answers response.request) :
    Filed builtins { client with responses := client.responses ++ [response] } := by
  refine ⟨filed.fresh, ?_, ?_, filed.named, filed.apart⟩
  · intro other member
    rcases List.mem_append.mp member with before | last
    · exact filed.labels other before
    · obtain rfl := List.mem_singleton.mp last
      exact ⟨request, known, label⟩
  · rw [List.map_append, List.map_singleton]
    refine List.nodup_append.mpr ⟨filed.once, List.nodup_singleton _, ?_⟩
    intro number member another last same
    obtain ⟨other, before, rfl⟩ := List.mem_map.mp member
    obtain rfl := List.mem_singleton.mp last
    exact first ⟨other, before, same⟩

theorem accountable_respond (accountable : client.Accountable builtins) (known : client.requests number = some request)
    (scheduled : request.stage = .scheduled) (done : request.future.done = true) (reply : Reply) :
    Accountable builtins { client.putRequest number { request with stage := .answered } with
      responses := client.responses ++ [⟨number,
        request.rawId.getD (.string (requestKey builtins request.id)), reply⟩] } := by
  have kept := accountable.kept number request known
  have first := kept.unanswered (.inr scheduled)
  have wasOpen : request.Open := by simp [Request.Open, scheduled]
  have put : (client.putRequest number { request with stage := .answered }).Filed builtins :=
    filed_putRequest accountable.toFiled known rfl (fun _ => wasOpen) (by simp)
  refine ⟨filed_append put (Function.update_self ..) (kept.labelled done) first, ?_⟩
  intro other stored member
  rcases requests_putRequest member with ⟨rfl, rfl⟩ | ⟨apart, before⟩
  · refine ⟨fun _ waits => ?_, kept.labelled, kept.uncancelled, fun _ => done, fun _ => ?_, ?_⟩
    · exact absurd (done.symm.trans waits) (by decide)
    · exact (answers_append ..).mpr (.inr rfl)
    · simp
  · have kept := accountable.kept other stored before
    refine ⟨kept.held, kept.labelled, kept.uncancelled, kept.done, fun stage => ?_, fun stage => ?_⟩
    · exact (answers_append ..).mpr (.inl (kept.answered stage))
    · intro answers
      rcases (answers_append ..).mp answers with earlier | same
      · exact kept.unanswered stage earlier
      · exact apart same.symm

theorem requests_addRequest (member : (client.addRequest request).requests number = some stored) :
    number = client.arrived ∧ stored = request ∨ client.requests number = some stored := by
  simp only [addRequest, Function.update_apply] at member
  split at member
  next same => exact .inl ⟨same, (Option.some.inj member).symm⟩
  · exact .inr member

theorem requests_addRequest_of_known (filed : client.Filed builtins) (known : client.requests number = some stored) :
    (client.addRequest request).requests number = some stored := by
  have apart : number ≠ client.arrived := by
    rintro rfl
    rw [filed.fresh _ le_rfl] at known
    cases known
  simpa only [addRequest, Function.update_of_ne apart] using known

theorem filed_addRequest (filed : client.Filed builtins)
    (unlike : request.Open → ∀ number stored, client.requests number = some stored →
      stored.Open → requestKey builtins stored.id ≠ requestKey builtins request.id) :
    (client.addRequest request).Filed builtins := by
  refine ⟨?_, ?_, filed.once, ?_, ?_⟩
  · intro number later
    have later : client.arrived + 1 ≤ number := later
    have apart : number ≠ client.arrived := by omega
    simp only [addRequest, Function.update_of_ne apart]
    exact filed.fresh number (by omega)
  · intro response member
    obtain ⟨stored, known, label⟩ := filed.labels response member
    exact ⟨stored, requests_addRequest_of_known filed known, label⟩
  · intro key number holds
    obtain ⟨stored, known, named⟩ := filed.named key number holds
    exact ⟨stored, requests_addRequest_of_known filed known, named⟩
  · intro first stored second another member member' isOpen isOpen' same
    rcases requests_addRequest member with ⟨rfl, rfl⟩ | before <;>
      rcases requests_addRequest member' with ⟨rfl, rfl⟩ | before'
    · rfl
    · exact absurd same.symm (unlike isOpen second another before' isOpen')
    · exact absurd same (unlike isOpen' first stored before isOpen)
    · exact filed.apart first stored second another before before' isOpen isOpen' same

section

variable (accountable : client.Accountable builtins)

include accountable

theorem accountable_refuse (id : Json) (reply : Reply) :
    Accountable builtins { client.addRequest { id, stage := .refused } with
      responses := client.responses ++ [⟨client.arrived, id, reply⟩] } := by
  have added : (client.addRequest { id, stage := .refused }).Filed builtins :=
    filed_addRequest accountable.toFiled fun isOpen => absurd rfl isOpen.1
  refine ⟨filed_append added (Function.update_self ..) rfl (not_answers_arrived accountable), ?_⟩
  intro number stored member
  rcases requests_addRequest member with ⟨rfl, rfl⟩ | before
  · exact ⟨fun stage => absurd rfl stage, by simp [Future.done], by simp, by simp, by simp, by simp⟩
  · have kept := accountable.kept number stored before
    refine ⟨kept.held, kept.labelled, kept.uncancelled, kept.done, fun stage => ?_, fun stage => ?_⟩
    · exact (answers_append ..).mpr (.inl (kept.answered stage))
    · intro answers
      rcases (answers_append ..).mp answers with earlier | same
      · exact kept.unanswered stage earlier
      · dsimp only at same
        rw [← same, accountable.fresh _ le_rfl] at before
        cases before

theorem accountable_drop (id : Json) :
    (client.addRequest { id, stage := .refused }).Accountable builtins := by
  refine ⟨filed_addRequest accountable.toFiled fun isOpen => absurd rfl isOpen.1, ?_⟩
  intro number stored member
  rcases requests_addRequest member with ⟨rfl, rfl⟩ | before
  · exact ⟨fun stage => absurd rfl stage, by simp [Future.done], by simp, by simp, by simp, by simp⟩
  · have kept := accountable.kept number stored before
    exact ⟨kept.held, kept.labelled, kept.uncancelled, kept.done, kept.answered, kept.unanswered⟩

theorem accountable_holdRequest {id : Json}
    (unlike : ∀ number stored, client.requests number = some stored → stored.Open →
      requestKey builtins stored.id ≠ requestKey builtins id) :
    (client.holdRequest builtins id).Accountable builtins := by
  have added : (client.addRequest { id }).Filed builtins :=
    filed_addRequest accountable.toFiled fun _ => unlike
  refine ⟨⟨added.fresh, added.labels, added.once, ?_, added.apart⟩, ?_⟩
  · intro key number holds
    simp only [holdRequest, Function.update_apply] at holds
    split at holds
    next same =>
      cases holds
      exact ⟨{ id }, Function.update_self .., by simp, same.symm⟩
    · exact added.named key number holds
  · intro number stored member
    rcases requests_addRequest member with ⟨rfl, rfl⟩ | before
    · refine ⟨fun _ _ => ⟨Function.update_self .., Function.update_self .., rfl⟩, by simp [Future.done],
        by simp, by simp, by simp, fun _ => not_answers_arrived accountable⟩
    · have kept := accountable.kept number stored before
      refine ⟨?_, kept.labelled, kept.uncancelled, kept.done, kept.answered, kept.unanswered⟩
      intro stage waits
      have apart := unlike number stored before (Kept.open_of_waiting kept stage waits)
      simp only [holdRequest, Function.update_of_ne apart]
      exact kept.held stage waits

theorem accountable_receiveMessage {message : Dict}
    {delivered : Bool} (answerable : client.Answerable builtins (.receive message delivered)) :
    (client.receiveMessage builtins message delivered).Accountable builtins := by
  unfold receiveMessage
  split
  · exact accountable.of_same (sameRequests_receiveResponse client _ message)
  next id method named isMethod =>
    unfold receiveRequest
    dsimp only
    split
    next handled =>
      exact accountable_holdRequest accountable
        (answerable id method named isMethod handled)
    · split
      · exact accountable_refuse accountable id _
      · exact (accountable_drop accountable id).of_same ⟨rfl, rfl, rfl, rfl, rfl⟩
  · exact accountable

theorem accountable_handlerEnds
    {raised : Bool} (answerable : client.Answerable builtins (.handlerEnds number raised)) :
    (client.handlerEnds number raised).Accountable builtins := by
  unfold handlerEnds
  split
  next request known =>
    split
    next handling =>
      have kept := accountable.kept number request known
      have wasOpen : request.Open := by simp [Request.Open, handling]
      refine accountable_putRequest accountable known rfl (fun _ => wasOpen) (by simp) ?_
      split
      next fails =>
        obtain ⟨isRaised, waits⟩ : raised = true ∧ request.future.done = false := by
          simpa using fails
        obtain ⟨text, textual⟩ := answerable isRaised request known handling waits
        have unlabelled := (kept.held wasOpen.1 waits).2.2
        refine ⟨by simp [Future.done], fun _ => ?_, by simp, by simp, by simp,
          fun _ => kept.unanswered (.inl handling)⟩
        -- the text of a text is the text itself
        simp only [unlabelled, textual, Option.getD_none, requestKey, str]
      · exact ⟨fun _ => kept.held wasOpen.1, kept.labelled, kept.uncancelled, by simp, by simp,
          fun _ => kept.unanswered (.inl handling)⟩
    · exact accountable
  · exact accountable

theorem accountable_complete (requestId : String)
    {future : Future} (done : future.done = true) (uncancelled : future ≠ .cancelled) :
    (client.complete requestId future).Accountable builtins := by
  -- whoever waits under the text is the request that is held under it
  have holder (number : Nat) (request : Request) (known : client.requests number = some request)
      (stage : request.stage ≠ .refused) (waits : request.future.done = false)
      (same : requestKey builtins request.id = requestId) :
      client.heldRequests requestId = some number :=
    same ▸ ((accountable.kept number request known).held stage waits).1
  unfold complete
  split
  next number holds =>
    obtain ⟨request, known, stage, named⟩ := accountable.named requestId number holds
    rw [known]
    dsimp only
    split
    next settled =>
      refine accountable_popHeld accountable fun other stored member stage waits same => ?_
      obtain rfl : number = other :=
        Option.some.inj (holds.symm.trans (holder other stored member stage waits same))
      rw [known] at member
      cases member
      exact absurd (settled.symm.trans waits) (by decide)
    next unsettled =>
      have waits : request.future.done = false := by simpa using unsettled
      have kept := accountable.kept number request known
      have raw : client.heldRequestRawIds requestId = some request.id :=
        named ▸ (kept.held stage waits).2.1
      let settled : Request := { request with
        future, rawId := some ((client.heldRequestRawIds requestId).getD (.string requestId)) }
      have put : (client.putRequest number settled).Accountable builtins := by
        refine accountable_putRequest accountable known rfl id id ⟨?_, ?_, uncancelled, ?_, ?_, ?_⟩
        · exact fun _ unset => absurd (done.symm.trans unset) (by decide)
        · intro _
          simp only [settled, raw, Option.getD_some]
        · exact fun _ => done
        · exact kept.answered
        · exact kept.unanswered
      refine accountable_popHeld put fun other stored member stage waits same => ?_
      rcases requests_putRequest member with ⟨rfl, rfl⟩ | ⟨apart, before⟩
      · exact absurd (done.symm.trans waits) (by decide)
      · have held := holder other stored before stage waits same
        exact apart (Option.some.inj (held.symm.trans holds))
  next free =>
    refine accountable_popHeld accountable fun other stored member stage waits same => ?_
    rw [holder other stored member stage waits same] at free
    cases free

theorem accountable_answer (number : Nat) :
    (client.answer builtins number).Accountable builtins := by
  unfold answer
  split
  next request known =>
    split
    next ready =>
      have kept := accountable.kept number request known
      split
      next reply isReply => exact accountable_respond accountable known ready.1 ready.2 reply
      next unreplied =>
        cases shape : request.future with
        | waiting => simp [shape, Future.done] at ready
        | cancelled => exact absurd shape kept.uncancelled
        | returned | failed => simp [shape, reply?] at unreplied
    · exact accountable
  · exact accountable

theorem accountable_cleanUp (number : Nat) :
    (client.cleanUp builtins number).Accountable builtins := by
  unfold cleanUp
  split
  next request known =>
    split
    next answered =>
      have kept := accountable.kept number request known
      have done := kept.done (.inl answered)
      have wasOpen : request.Open := by simp [Request.Open, answered]
      have popped : (client.popHeld (requestKey builtins request.id)).Accountable builtins := by
        refine accountable_popHeld accountable fun other stored member stage waits same => ?_
        have isOpen := Kept.open_of_waiting (accountable.kept other stored member) stage waits
        obtain rfl := accountable.apart other stored number request member known isOpen wasOpen same
        rw [known] at member
        cases member
        exact absurd (done.symm.trans waits) (by decide)
      refine accountable_putRequest popped known rfl (fun _ => wasOpen) (by simp) ⟨?_, ?_, ?_, ?_, ?_, ?_⟩
      · exact fun _ unset => absurd (done.symm.trans unset) (by decide)
      · exact kept.labelled
      · exact kept.uncancelled
      · exact fun _ => done
      · exact fun _ => kept.answered (.inl answered)
      · simp
    · exact accountable
  · exact accountable

end

variable {op : ClientOp}

theorem accountable_step (accountable : client.Accountable builtins)
    (answerable : client.Answerable builtins op) : (client.step builtins op).Accountable builtins := by
  cases op with
  | onServerRequest | call => exact accountable.of_same ⟨rfl, rfl, rfl, rfl, rfl⟩
  | sent rid => exact accountable.of_same (sameRequests_sent client rid)
  | sendFails rid => exact accountable.of_same (sameRequests_sendFails client rid)
  | cancel rid => exact accountable.of_same (sameRequests_interrupt client rid _)
  | expire rid => exact accountable.of_same (sameRequests_interrupt client rid _)
  | wake rid => exact accountable.of_same (sameRequests_wake client rid)
  | receive message delivered => exact accountable_receiveMessage accountable answerable
  | handlerEnds number raised => exact accountable_handlerEnds accountable answerable
  | resolve requestId result => exact accountable_complete accountable requestId rfl Future.noConfusion
  | reject requestId code message =>
      exact accountable_complete accountable requestId rfl Future.noConfusion
  | answer number => exact accountable_answer accountable number
  | cleanUp number => exact accountable_cleanUp accountable number
  | close => exact answerable.elim

theorem accountable_empty : ({} : Client).Accountable builtins := by
  refine ⟨⟨fun _ _ => rfl, ?_, List.nodup_nil, ?_, ?_⟩, ?_⟩
  · exact fun _ absent => nomatch absent
  · exact fun _ _ absent => nomatch absent
  · exact fun _ _ _ _ absent => nomatch absent
  · exact fun _ _ absent => nomatch absent

theorem underway_putRequest {other : Nat}
    (underway : client.Underway number) (known : client.requests other = some old)
    (keeps : old.stage ≠ .refused → old.future.done = true →
      request.stage ≠ .refused ∧ request.future.done = true) :
    (client.putRequest other request).Underway number := by
  obtain ⟨stored, member, stage, done⟩ := underway
  by_cases same : number = other
  · subst same
    obtain rfl : old = stored := Option.some.inj (known.symm.trans member)
    exact ⟨request, Function.update_self .., keeps stage done⟩
  · exact ⟨stored, by simpa only [putRequest, Function.update_of_ne same] using member, stage, done⟩

theorem Underway.of_same (underway : client.Underway number) {next : Client}
    (same : client.SameRequests next) : next.Underway number := by
  unfold Underway at underway ⊢
  rwa [same.requests]

theorem underway_receiveMessage (filed : client.Filed builtins)
    (underway : client.Underway number) (message : Dict) (delivered : Bool) :
    (client.receiveMessage builtins message delivered).Underway number := by
  have added (request : Request) : (client.addRequest request).Underway number := by
    obtain ⟨stored, member, rest⟩ := underway
    exact ⟨stored, requests_addRequest_of_known filed member, rest⟩
  unfold receiveMessage
  split
  · exact underway.of_same (sameRequests_receiveResponse client _ message)
  · unfold receiveRequest
    dsimp only
    split
    · exact added _
    · split
      · exact added _
      · exact added _
  · exact underway

section

variable (underway : client.Underway number)

include underway

theorem underway_handlerEnds (other : Nat)
    (raised : Bool) : (client.handlerEnds other raised).Underway number := by
  unfold handlerEnds
  split
  next request known =>
    split
    · refine underway_putRequest underway known fun _ done => ⟨by simp, ?_⟩
      simp only [done, Bool.not_true, Bool.and_false, Bool.false_eq_true, if_false]
    · exact underway
  · exact underway

theorem underway_complete (requestId : String)
    (future : Future) : (client.complete requestId future).Underway number := by
  unfold complete
  split
  · split
    next request known =>
      split
      · exact underway
      next unsettled =>
        have popped : (client.popHeld requestId).Underway number := underway
        exact underway_putRequest popped known fun _ done => absurd done unsettled
    · exact underway
  · exact underway

theorem underway_answer (other : Nat) :
    (client.answer builtins other).Underway number := by
  unfold answer
  split
  next request known =>
    split
    next ready =>
      split
      · exact underway_putRequest underway known fun _ done => ⟨by simp, done⟩
      · exact underway_putRequest underway known fun _ done => ⟨by simp, done⟩
    · exact underway
  · exact underway

theorem underway_cleanUp (other : Nat) :
    (client.cleanUp builtins other).Underway number := by
  unfold cleanUp
  split
  next request known =>
    split
    · have popped : (client.popHeld (requestKey builtins request.id)).Underway number := underway
      exact underway_putRequest popped known fun _ done => ⟨by simp, done⟩
    · exact underway
  · exact underway

end

theorem underway_step (filed : client.Filed builtins)
    (underway : client.Underway number) (answerable : client.Answerable builtins op) :
    (client.step builtins op).Underway number := by
  cases op with
  | onServerRequest | call => exact underway
  | sent rid => exact underway.of_same (sameRequests_sent client rid)
  | sendFails rid => exact underway.of_same (sameRequests_sendFails client rid)
  | cancel rid => exact underway.of_same (sameRequests_interrupt client rid _)
  | expire rid => exact underway.of_same (sameRequests_interrupt client rid _)
  | wake rid => exact underway.of_same (sameRequests_wake client rid)
  | receive message delivered => exact underway_receiveMessage filed underway message delivered
  | handlerEnds other raised => exact underway_handlerEnds underway other raised
  | resolve requestId result => exact underway_complete underway requestId _
  | reject requestId code message => exact underway_complete underway requestId _
  | answer other => exact underway_answer underway other
  | cleanUp other => exact underway_cleanUp underway other
  | close => exact answerable.elim

theorem underway_of_completed (accountable : client.Accountable builtins) (known : client.requests number = some request)
    (stage : request.stage ≠ .refused) {future : Future} (done : future.done = true) :
    (client.complete (requestKey builtins request.id) future).Underway number := by
  cases settled : request.future.done with
  | true => exact underway_complete ⟨request, known, stage, settled⟩ _ _
  | false =>
      have held := ((accountable.kept number request known).held stage settled).1
      unfold complete
      simp only [held, known, settled, Bool.false_eq_true, if_false]
      exact ⟨_, Function.update_self .., stage, done⟩

theorem underway_of_decides (accountable : client.Accountable builtins) (decides : client.Decides builtins number op) :
    (client.step builtins op).Underway number := by
  cases op with
  | resolve | reject =>
      obtain ⟨request, known, stage, rfl⟩ := decides
      exact underway_of_completed accountable known stage rfl
  | handlerEnds other raised =>
      obtain ⟨rfl, rfl, request, known, handling⟩ := decides
      simp only [step, handlerEnds, known, handling, if_true, Bool.true_and]
      refine ⟨_, Function.update_self .., by simp, ?_⟩
      cases settled : request.future.done with
      | true => simpa only [Bool.not_true, Bool.false_eq_true, if_false] using settled
      | false => rfl
  | _ => exact decides.elim

theorem answers_answer
    (known : client.requests number = some request) (scheduled : request.stage = .scheduled)
    (done : request.future.done = true) (uncancelled : request.future ≠ .cancelled) :
    (client.answer builtins number).Answers number := by
  obtain ⟨reply, replies⟩ : ∃ reply, reply? request.future = some reply := by
    cases shape : request.future with
    | waiting => simp [shape, Future.done] at done
    | cancelled => exact absurd shape uncancelled
    | returned | failed => exact ⟨_, rfl⟩
  unfold answer
  simp only [known, scheduled, done, and_self, if_true, replies]
  exact ⟨_, List.mem_append_right _ List.mem_cons_self, rfl⟩

theorem answers_of_underway (accountable : client.Accountable builtins)
    (underway : client.Underway number) (raised : Bool) :
    ((client.handlerEnds number raised).answer builtins number).Answers number := by
  obtain ⟨request, known, stage, done⟩ := underway
  have kept := accountable.kept number request known
  have idle (other : request.stage ≠ .handling) : client.handlerEnds number raised = client := by
    unfold handlerEnds
    simp only [known, other, if_false]
  have unchanged (other : request.stage ≠ .scheduled) : client.answer builtins number = client := by
    unfold answer
    simp only [known, other, false_and, if_false]
  cases staged : request.stage with
  | refused => exact absurd staged stage
  | handling =>
      have ended : (client.handlerEnds number raised).requests number =
          some { request with stage := .scheduled } := by
        unfold handlerEnds
        simp only [known, staged, if_true, done, Bool.not_true, Bool.and_false, Bool.false_eq_true,
          if_false]
        exact Function.update_self ..
      exact answers_answer ended rfl done kept.uncancelled
  | scheduled =>
      rw [idle (by simp [staged])]
      exact answers_answer known staged done kept.uncancelled
  | answered =>
      rw [idle (by simp [staged]), unchanged (by simp [staged])]
      exact kept.answered (.inl staged)
  | closed =>
      rw [idle (by simp [staged]), unchanged (by simp [staged])]
      exact kept.answered (.inr staged)

/-- In every run without texts shared by open requests and without handlers that raise
on a number unanswered, a request gets at most one response, a response carries the id
of its request, and a request that is resolved, rejected or failed by its handler gets
one as soon as its background task runs. -/
theorem held_requests_answered (builtins : Builtins) (ops : List ClientOp)
    (answerable : Along (step builtins) (Answerable builtins) {} ops) :
    let client := ops.foldl (step builtins) {}
    (client.responses.map (·.request)).Nodup ∧
      (∀ response ∈ client.responses, ∃ request,
        client.requests response.request = some request ∧ response.id = request.id) ∧
      ∀ before op after number raised, ops = before ++ op :: after →
        (before.foldl (step builtins) {}).Decides builtins number op →
        ([.handlerEnds number raised, .answer number].foldl (step builtins) client).Answers
          number := by
  intro client
  have keeps (state : Client) (op : ClientOp) (accountable : state.Accountable builtins)
      (fits : state.Answerable builtins op) : (state.step builtins op).Accountable builtins :=
    accountable_step accountable fits
  have accountable : client.Accountable builtins :=
    invariant_foldl keeps accountable_empty answerable
  refine ⟨accountable.once, accountable.labels, ?_⟩
  intro before op after number raised split decides
  rw [split, along_append] at answerable
  obtain ⟨fitsBefore, fits, fitsAfter⟩ := answerable
  have earlier := invariant_foldl keeps accountable_empty fitsBefore
  have decided := underway_of_decides earlier decides
  -- from the settling step on, the invariant and the settled future go together
  have lasts (state : Client) (op : ClientOp)
      (both : state.Accountable builtins ∧ state.Underway number)
      (fits : state.Answerable builtins op) :
      (state.step builtins op).Accountable builtins ∧ (state.step builtins op).Underway number :=
    ⟨accountable_step both.1 fits, underway_step both.1.toFiled both.2 fits⟩
  have final := invariant_foldl lasts ⟨accountable_step earlier fits, decided⟩ fitsAfter
  have same : client = after.foldl (step builtins)
      ((before.foldl (step builtins) {}).step builtins op) := by
    simp only [client, split, List.foldl_append, List.foldl_cons]
  rw [same]
  exact answers_of_underway final.1 final.2 raised

theorem held_requests_answered_both :
    let ops : List ClientOp := [.onServerRequest "ask",
      .receive [("id", .int 5), ("method", .string "ask")] true,
      .receive [("id", .string "a"), ("method", .string "ask")] true,
      .resolve "5" .null, .handlerEnds 0 false, .handlerEnds 1 true]
    let client := ops.foldl (step sampleBuiltins) {}
    ∀ number, number = 0 ∨ number = 1 →
      ([.handlerEnds number false, .answer number].foldl (step sampleBuiltins) client).Answers
        number := by
  intro ops client
  have answerable : Along (step sampleBuiltins) (Answerable sampleBuiltins) {} ops := by
    refine ⟨trivial, ?_, ?_, trivial, nofun, ?_, trivial⟩
    · exact fun _ _ _ _ _ _ _ absent => nomatch absent
    · intro id method named _ _ number request known _
      obtain rfl : Json.string "a" = id := Option.some.inj named
      cases number with
      | zero =>
          obtain rfl := Option.some.inj known
          decide +kernel
      | succ number => exact absurd known nofun
    · intro _ request known _ _
      obtain rfl := Option.some.inj known
      exact ⟨"a", rfl⟩
  obtain ⟨_, _, decided⟩ := held_requests_answered sampleBuiltins ops answerable
  rintro number (rfl | rfl)
  · exact decided (ops.take 3) _ (ops.drop 4) 0 false rfl ⟨_, rfl, by decide, by decide +kernel⟩
  · exact decided (ops.take 5) _ [] 1 false rfl ⟨rfl, rfl, _, rfl, rfl⟩

/-- The handler of request 5 raises: the answer goes to the text "5".  The requests 1
and "1" share a text: resolving it twice answers the second only. -/
theorem raised_number_answered_as_text :
    let raised := [.onServerRequest "ask",
      .receive [("id", .int 5), ("method", .string "ask")] true,
      .handlerEnds 0 true, .answer 0].foldl (step sampleBuiltins) {}
    let shared := [.onServerRequest "ask",
      .receive [("id", .int 1), ("method", .string "ask")] true,
      .receive [("id", .string "1"), ("method", .string "ask")] true,
      .handlerEnds 0 false, .handlerEnds 1 false, .resolve "1" .null, .resolve "1" .null,
      .answer 0, .answer 1].foldl (step sampleBuiltins) {}
    raised.responses.map (fun response => (response.request, response.id)) = [(0, .string "5")] ∧
      shared.responses.map (·.request) = [1] :=
  ⟨rfl, by decide +kernel⟩

end Client

end Steps

end Wlcodex.Rpc
