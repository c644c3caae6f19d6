import Wlcodex.Rpc.Client

namespace Wlcodex.Rpc

open Wlcodex.Lib
open Wlcodex.Relay (Dict str)

/-! What becomes of the client's own calls. -/

def Outcome.future? : Outcome → Option Future
  | .returned result => some (.returned result)
  | .failed error => some (.failed error)
  | _ => none

def Future.answered : Future → Prop
  | .returned _ => True
  | .failed _ => True
  | _ => False

section Responses

variable (builtins : Builtins)

def Carries (id : Json) (rid : Nat) : Prop :=
  id = .int rid ∨ ∃ literal, id = .float literal ∧ builtins.whole? literal = some (rid : Int)

def ResponseTo (message : Dict) (rid : Nat) : Prop :=
  message.lookup "method" = none ∧ ∃ id, message.lookup "id" = some id ∧ Carries builtins id rid

def WellFormedError (err : Json) : Prop :=
  ∃ fields, err = .object fields ∧
    (Client.int? builtins ((fields.lookup "code").getD (.int (-1)))).isSome

namespace Client

def Takes (client : Client) (id : Json) (message : Dict) : Prop :=
  hashable id ∧ ∀ rid, client.pendingFor builtins id = some rid →
    (∀ value, id ≠ .bool value) ∧ (∀ call, client.calls rid = some call → call.future.done = false) ∧
      ∀ err, message.lookup "error" = some err → WellFormedError builtins err

def Survivable (client : Client) : ClientOp → Prop
  | .sendFails rid => ∀ call, client.calls rid = some call → call.phase = .sending →
      client.pending rid = false
  | .receive message delivered =>
      ∀ id, message.lookup "id" = some id →
        (message.lookup "method" = none → client.Takes builtins id message) ∧
        ∀ method, message.lookup "method" = some method →
          client.serverRequestHandlers (str builtins.repr method) ∨ delivered
  | _ => True

end Client

/-- What a call and its key in `_pending` say about each other.  The messages received
so far are among `received`. -/
structure Sound (received : Dict → Prop) (rid : Nat) (call : Call) (pending : Bool) : Prop where
  popped : call.future.answered → pending = false
  explained : call.future.answered → ∃ message, received message ∧
    ResponseTo builtins message rid ∧ Client.settlement builtins message = .ok call.future
  ended : ∀ outcome, call.phase = .finished outcome → pending = false
  justified : ∀ outcome future, call.phase = .finished outcome → outcome.future? = some future →
    ∃ message, received message ∧ ResponseTo builtins message rid ∧
      Client.settlement builtins message = .ok future

structure Client.Steadfast (received : Dict → Prop) (client : Client) : Prop where
  sound : ∀ rid call, client.calls rid = some call →
    Sound builtins received rid call (client.pending rid)
  issued : ∀ rid, client.nextId < rid → client.calls rid = none
  silent : client.faults = []

end Responses

section Steps

variable {builtins : Builtins} {received : Dict → Prop} {client : Client}

theorem Sound.pop {rid : Nat} {call : Call} {pending : Bool}
    (sound : Sound builtins received rid call pending) : Sound builtins received rid call false :=
  ⟨fun _ => rfl, sound.explained, fun _ _ => rfl, sound.justified⟩

namespace Client

variable {rid : Nat} {call : Call}

theorem steadfast_putCall (steadfast : client.Steadfast builtins received) {old : Call}
    (known : client.calls rid = some old) (sound : Sound builtins received rid call (client.pending rid)) :
    (client.putCall rid call).Steadfast builtins received := by
  refine ⟨?_, ?_, steadfast.silent⟩
  · intro other stored member
    simp only [putCall, Function.update_apply] at member
    split at member
    next same =>
      cases member
      rw [same]
      exact sound
    · exact steadfast.sound other stored member
  · intro other later
    have fresh := steadfast.issued other later
    have apart : other ≠ rid := by
      rintro rfl
      rw [known] at fresh
      cases fresh
    simpa only [putCall, Function.update_of_ne apart] using fresh

theorem steadfast_popPending (steadfast : client.Steadfast builtins received) (rid : Nat) :
    (client.popPending rid).Steadfast builtins received := by
  refine ⟨?_, steadfast.issued, steadfast.silent⟩
  intro other call member
  have sound := steadfast.sound other call member
  simp only [popPending, Function.update_apply]
  split
  · exact sound.pop
  · exact sound

theorem pending_popPending (rid : Nat) : (client.popPending rid).pending rid = false :=
  Function.update_self ..

theorem outcome?_cases {outcome : Outcome} (ended : call.outcome? = some outcome) :
    outcome = .cancelled ∨ outcome = .timedOut ∨
      ∃ future, call.future = future ∧ future.answered ∧ outcome.future? = some future := by
  unfold Call.outcome? at ended
  cases shape : call.future with
  | waiting => simp [shape] at ended
  | cancelled => grind
  | returned | failed => grind [Outcome.future?, Future.answered]

section

variable (steadfast : client.Steadfast builtins received)

include steadfast

theorem steadfast_finish {outcome : Outcome} (known : client.calls rid = some call)
    (ended : call.outcome? = some outcome) :
    (client.finish rid call outcome).Steadfast builtins received := by
  have sound := steadfast.sound rid call known
  have given (ending : Outcome) (just : ∀ future, ending.future? = some future →
      call.future = future ∧ future.answered) :
      Sound builtins received rid { call with phase := .finished ending } false := by
    refine ⟨fun _ => rfl, sound.explained, fun _ _ => rfl, ?_⟩
    intro _ future same settled
    cases same
    obtain ⟨rfl, answered⟩ := just future settled
    exact sound.explained answered
  rcases outcome?_cases ended with rfl | rfl | ⟨future, same, answered, settled⟩
  · refine steadfast_putCall (steadfast_popPending steadfast rid) known ?_
    rw [pending_popPending]
    exact given .cancelled fun _ none => nomatch none
  · refine steadfast_putCall (steadfast_popPending steadfast rid) known ?_
    rw [pending_popPending]
    exact given .timedOut fun _ none => nomatch none
  · -- the response that settled the future took its key away
    have popped : client.pending rid = false := sound.popped (same ▸ answered)
    have put : client.finish rid call outcome =
        client.putCall rid { call with phase := .finished outcome } := by
      cases outcome with
      | cancelled | timedOut => cases settled
      | returned | failed | unsent => rfl
    rw [put]
    refine steadfast_putCall steadfast known ?_
    rw [popped]
    refine given outcome fun other again => ?_
    obtain rfl : future = other := Option.some.inj (settled.symm.trans again)
    exact ⟨same, answered⟩

theorem steadfast_await (known : client.calls rid = some call) :
    (client.await rid call).Steadfast builtins received := by
  unfold await
  split
  · have sound := steadfast.sound rid call known
    exact steadfast_putCall steadfast known
      ⟨sound.popped, sound.explained, (fun _ waits => nomatch waits), fun _ _ waits => nomatch waits⟩
  next outcome ended => exact steadfast_finish steadfast known ended

theorem steadfast_issueCall :
    client.issueCall.Steadfast builtins received := by
  refine ⟨?_, ?_, steadfast.silent⟩
  · intro rid call member
    simp only [issueCall, Function.update_apply] at member ⊢
    split at member
    · cases member
      exact ⟨False.elim, False.elim, (fun _ sends => nomatch sends), fun _ _ sends => nomatch sends⟩
    next other =>
      rw [if_neg other]
      exact steadfast.sound rid call member
  · intro rid later
    have later : client.nextId + 1 < rid := later
    have apart : rid ≠ client.nextId + 1 := by omega
    simp only [issueCall, Function.update_of_ne apart]
    exact steadfast.issued rid (by omega)

theorem steadfast_sent (rid : Nat) :
    (client.sent rid).Steadfast builtins received := by
  unfold sent
  split
  next call known =>
    split
    · exact steadfast_await steadfast known
    · exact steadfast
  · exact steadfast

theorem steadfast_wake (rid : Nat) :
    (client.wake rid).Steadfast builtins received := by
  unfold wake
  split
  next call known =>
    split
    · exact steadfast_await steadfast known
    · exact steadfast
  · exact steadfast

theorem steadfast_sendFails (survivable : client.Survivable builtins (.sendFails rid)) :
    (client.sendFails rid).Steadfast builtins received := by
  unfold sendFails
  split
  next call known =>
    split
    next sending =>
      have popped := survivable call known sending
      have sound := steadfast.sound rid call known
      refine steadfast_putCall steadfast known
        ⟨sound.popped, sound.explained, fun _ _ => popped, ?_⟩
      intro _ future same settled
      cases same
      cases settled
    · exact steadfast
  · exact steadfast

end

theorem answered_cancel {future : Future} (answered : future.cancel.answered) :
    future.cancel = future ∧ future.answered := by
  cases future with
  | waiting | cancelled => exact answered.elim
  | returned | failed => exact ⟨rfl, trivial⟩

theorem Sound.cancel {marked : Call} {pending : Bool}
    (sound : Sound builtins received rid call pending) (phase : marked.phase = call.phase) :
    Sound builtins received rid { marked with future := call.future.cancel } pending := by
  refine ⟨?_, ?_, ?_, ?_⟩
  · exact fun answered => sound.popped (answered_cancel answered).2
  · intro answered
    obtain ⟨same, before⟩ := answered_cancel answered
    rw [same]
    exact sound.explained before
  · exact fun outcome ended => sound.ended outcome (phase ▸ ended)
  · exact fun outcome future ended => sound.justified outcome future (phase ▸ ended)

theorem steadfast_interrupt (steadfast : client.Steadfast builtins received) (rid : Nat)
    {mark : Call → Call} (phase : ∀ call, (mark call).phase = call.phase) :
    (client.interrupt rid mark).Steadfast builtins received := by
  unfold interrupt
  split
  next call known =>
    split
    · exact steadfast_putCall steadfast known
        (Sound.cancel (steadfast.sound rid call known) (phase call))
    · exact steadfast
  · exact steadfast

theorem carries_of_pendingFor {id : Json}
    (found : client.pendingFor builtins id = some rid) (noBool : ∀ value, id ≠ .bool value) :
    Carries builtins id rid ∧ client.pending rid = true := by
  unfold pendingFor at found
  split at found
  next number named =>
    split at found
    next pending =>
      cases found
      refine ⟨?_, pending⟩
      cases id with
      | int value =>
          cases named
          exact .inl rfl
      | float literal => exact .inr ⟨literal, rfl, named⟩
      | bool value => exact absurd rfl (noBool value)
      | null | nan | infinity | string | array | object => cases named
    · cases found
  · cases found

variable {message : Dict}

theorem settlement_ok (wellFormed : ∀ err, message.lookup "error" = some err → WellFormedError builtins err) :
    ∃ future, settlement builtins message = .ok future := by
  unfold settlement
  cases present : message.lookup "error" with
  | none => exact ⟨_, rfl⟩
  | some err =>
      obtain ⟨fields, rfl, coded⟩ := wellFormed err present
      obtain ⟨code, isCode⟩ := Option.isSome_iff_exists.mp coded
      exact ⟨_, by simp only [rpcError, isCode]; rfl⟩

section

variable (steadfast : client.Steadfast builtins received)

include steadfast

theorem steadfast_receiveResponse {id : Json} (member : received message) (named : message.lookup "id" = some id)
    (noMethod : message.lookup "method" = none) (takes : client.Takes builtins id message) :
    (client.receiveResponse builtins id message).Steadfast builtins received := by
  obtain ⟨hashes, whenPending⟩ := takes
  unfold receiveResponse
  rw [if_pos hashes]
  split
  · exact steadfast
  next rid found =>
    obtain ⟨noBool, open_, wellFormed⟩ := whenPending rid found
    obtain ⟨carries, pending⟩ := carries_of_pendingFor found noBool
    obtain ⟨future, settled⟩ := settlement_ok wellFormed
    rw [settled]
    dsimp only
    split
    next call known =>
      rw [if_neg (by simp [open_ call known])]
      refine steadfast_putCall (steadfast_popPending steadfast rid) known ?_
      rw [pending_popPending]
      have sound := steadfast.sound rid call known
      exact ⟨fun _ => rfl, fun _ => ⟨message, member, ⟨noMethod, id, named, carries⟩, settled⟩,
        fun _ _ => rfl, sound.justified⟩
    · exact steadfast_popPending steadfast rid

theorem steadfast_receiveMessage {delivered : Bool} (member : received message)
    (survivable : client.Survivable builtins (.receive message delivered)) :
    (client.receiveMessage builtins message delivered).Steadfast builtins received := by
  unfold receiveMessage
  split
  next id named noMethod =>
    exact steadfast_receiveResponse steadfast member named noMethod
      ((survivable id named).1 noMethod)
  next id method named isMethod =>
    have served := (survivable id named).2 method isMethod
    unfold receiveRequest
    dsimp only
    split
    · exact ⟨steadfast.sound, steadfast.issued, steadfast.silent⟩
    next unknown =>
      rw [if_pos (served.resolve_left unknown)]
      exact ⟨steadfast.sound, steadfast.issued, steadfast.silent⟩
  · exact steadfast

theorem steadfast_close :
    (client.close builtins).Steadfast builtins received := by
  refine ⟨?_, ?_, steadfast.silent⟩
  · intro rid call member
    obtain ⟨old, known, rfl⟩ := Option.map_eq_some_iff.mp member
    have sound := (steadfast.sound rid old known).pop
    split
    · exact Sound.cancel sound rfl
    · exact sound
  · intro rid later
    exact Option.map_eq_none_iff.mpr (steadfast.issued rid later)

theorem Steadfast.of_calls {next : Client}
    (calls : next.calls = client.calls) (pending : next.pending = client.pending)
    (nextId : next.nextId = client.nextId) (faults : next.faults = client.faults) :
    next.Steadfast builtins received := by
  refine ⟨?_, ?_, faults.trans steadfast.silent⟩
  · rw [calls, pending]
    exact steadfast.sound
  · rw [calls, nextId]
    exact steadfast.issued

theorem steadfast_handlerEnds (number : Nat)
    (raised : Bool) : (client.handlerEnds number raised).Steadfast builtins received := by
  unfold handlerEnds
  split
  · split
    · exact steadfast.of_calls rfl rfl rfl rfl
    · exact steadfast
  · exact steadfast

theorem steadfast_complete (requestId : String)
    (future : Future) : (client.complete requestId future).Steadfast builtins received := by
  unfold complete
  split
  · split
    · split
      · exact steadfast.of_calls rfl rfl rfl rfl
      · exact steadfast.of_calls rfl rfl rfl rfl
    · exact steadfast.of_calls rfl rfl rfl rfl
  · exact steadfast.of_calls rfl rfl rfl rfl

theorem steadfast_answer (number : Nat) :
    (client.answer builtins number).Steadfast builtins received := by
  unfold answer
  split
  · split
    · split
      · exact steadfast.of_calls rfl rfl rfl rfl
      · exact steadfast.of_calls rfl rfl rfl rfl
    · exact steadfast
  · exact steadfast

theorem steadfast_cleanUp (number : Nat) :
    (client.cleanUp builtins number).Steadfast builtins received := by
  unfold cleanUp
  split
  · split
    · exact steadfast.of_calls rfl rfl rfl rfl
    · exact steadfast
  · exact steadfast

theorem steadfast_step {op : ClientOp} (survivable : client.Survivable builtins op)
    (member : ∀ message delivered, op = .receive message delivered → received message) :
    (client.step builtins op).Steadfast builtins received := by
  cases op with
  | onServerRequest method => exact steadfast.of_calls rfl rfl rfl rfl
  | call => exact steadfast_issueCall steadfast
  | sent rid => exact steadfast_sent steadfast rid
  | sendFails rid => exact steadfast_sendFails steadfast survivable
  | cancel rid => exact steadfast_interrupt steadfast rid fun _ => rfl
  | expire rid => exact steadfast_interrupt steadfast rid fun _ => rfl
  | wake rid => exact steadfast_wake steadfast rid
  | receive message delivered =>
      exact steadfast_receiveMessage steadfast (member message delivered rfl) survivable
  | handlerEnds number raised => exact steadfast_handlerEnds steadfast number raised
  | resolve requestId result => exact steadfast_complete steadfast requestId _
  | reject requestId code message => exact steadfast_complete steadfast requestId _
  | answer number => exact steadfast_answer steadfast number
  | cleanUp number => exact steadfast_cleanUp steadfast number
  | close => exact steadfast_close steadfast

end

theorem steadfast_empty : ({} : Client).Steadfast builtins received :=
  ⟨fun _ _ absent => (nomatch absent), fun _ _ => rfl, rfl⟩

def Ended (client : Client) (rid : Nat) : Prop :=
  ∃ call outcome, client.calls rid = some call ∧ call.phase = .finished outcome

theorem ended_finish (client : Client) (rid : Nat) (call : Call) (outcome : Outcome) :
    (client.finish rid call outcome).Ended rid := by
  refine ⟨{ call with phase := .finished outcome }, outcome, ?_, rfl⟩
  cases outcome <;> exact Function.update_self ..

theorem calls_sent (known : client.calls rid = some call) :
    (client.sent rid).Ended rid ∨
      ∃ waiting, (client.sent rid).calls rid = some waiting ∧ waiting.phase = .waiting := by
  unfold sent
  rw [known]
  dsimp only
  cases phase : call.phase with
  | sending =>
      unfold await
      cases ended : call.outcome? with
      | none => exact .inr ⟨_, Function.update_self .., rfl⟩
      | some outcome => exact .inl (ended_finish client rid call outcome)
  | waiting => exact .inr ⟨call, known, phase⟩
  | finished outcome => exact .inl ⟨call, outcome, known, phase⟩

theorem isSome_outcome? (call : Call) : call.outcome?.isSome = call.future.done := by
  unfold Call.outcome?
  cases call.future with
  | waiting => rfl
  | returned | failed | cancelled => cases call.cancelling <;> cases call.expired <;> rfl

theorem done_cancel (future : Future) : future.cancel.done := by
  cases future <;> rfl

theorem ended_wake_expire (known : client.calls rid = some call)
    (waits : call.phase = .waiting) : ((client.expire rid).wake rid).Ended rid := by
  let late : Call := { call with
    future := call.future.cancel, phase := .waiting, expired := true }
  have expired : (client.expire rid).calls rid = some late := by
    unfold expire interrupt
    rw [known]
    dsimp only
    rw [waits]
    exact Function.update_self rid (some late) client.calls
  have done : late.outcome?.isSome := (isSome_outcome? late).trans (done_cancel call.future)
  obtain ⟨outcome, ended⟩ := Option.isSome_iff_exists.mp done
  unfold wake
  rw [expired]
  simp only [waits]
  unfold await
  rw [ended]
  exact ended_finish ..

theorem Ended.expire (ended : client.Ended rid) : (client.expire rid).Ended rid := by
  obtain ⟨call, outcome, known, phase⟩ := ended
  have same : client.expire rid = client := by
    unfold Client.expire interrupt
    rw [known]
    simp only [phase]
  rw [same]
  exact ⟨call, outcome, known, phase⟩

theorem Ended.wake (ended : client.Ended rid) : (client.wake rid).Ended rid := by
  obtain ⟨call, outcome, known, phase⟩ := ended
  have same : client.wake rid = client := by
    unfold Client.wake
    rw [known]
    simp only [phase]
  rw [same]
  exact ⟨call, outcome, known, phase⟩

theorem ends_in_time (known : client.calls rid = some call) :
    ([.sent rid, .expire rid, .wake rid].foldl (step builtins) client).Ended rid := by
  rcases calls_sent known with ended | ⟨waiting, held, waits⟩
  · exact ended.expire.wake
  · exact ended_wake_expire held waits

/-- In every run of steps that the client is prepared for, nothing is raised, every call
ends once its message is out and its timer has run, and a call that has ended has left
`_pending`, with an answer only from a response to it. -/
theorem client_survives (builtins : Builtins) (ops : List ClientOp)
    (survivable : Along (step builtins) (Survivable builtins) {} ops) :
    let client := ops.foldl (step builtins) {}
    client.faults = [] ∧
      (∀ rid call, client.calls rid = some call →
        ([.sent rid, .expire rid, .wake rid].foldl (step builtins) client).Ended rid) ∧
      ∀ rid call outcome, client.calls rid = some call → call.phase = .finished outcome →
        client.pending rid = false ∧ ∀ future, outcome.future? = some future →
          ∃ message delivered, .receive message delivered ∈ ops ∧
            ResponseTo builtins message rid ∧ settlement builtins message = .ok future := by
  intro client
  let received (message : Dict) : Prop := ∃ delivered, .receive message delivered ∈ ops
  have steadfast : client.Steadfast builtins received := by
    have keeps (state : Client) (op : ClientOp) (before : state.Steadfast builtins received)
        (taken : state.Survivable builtins op ∧ op ∈ ops) :
        (state.step builtins op).Steadfast builtins received :=
      steadfast_step before taken.1 fun _ delivered same => ⟨delivered, same ▸ taken.2⟩
    exact invariant_foldl keeps steadfast_empty (along_mem survivable)
  refine ⟨steadfast.silent, fun rid call known => ends_in_time known, ?_⟩
  intro rid call outcome known ended
  have sound := steadfast.sound rid call known
  refine ⟨sound.ended outcome ended, fun future same => ?_⟩
  obtain ⟨message, ⟨delivered, taken⟩, response, settled⟩ := sound.justified outcome future ended same
  exact ⟨message, delivered, taken, response, settled⟩

theorem client_survives_timeout :
    let ops : List ClientOp := [.call, .call, .sent 1, .sent 2,
      .receive [("id", .int 1), ("result", .bool true)] true, .expire 2, .wake 2, .wake 1]
    let client := ops.foldl (step sampleBuiltins) {}
    client.faults = [] ∧ client.pending 1 = false ∧ client.pending 2 = false := by
  intro ops client
  have survivable : Along (step sampleBuiltins) (Survivable sampleBuiltins) {} ops := by
    refine ⟨trivial, trivial, trivial, trivial, ?_, trivial, trivial, trivial, trivial⟩
    intro id named
    obtain rfl : Json.int 1 = id := Option.some.inj named
    refine ⟨fun _ => ⟨rfl, ?_⟩, fun _ isMethod => nomatch isMethod⟩
    intro rid found
    obtain rfl : 1 = rid := Option.some.inj found
    refine ⟨fun _ => Json.noConfusion, ?_, fun _ isError => nomatch isError⟩
    intro call known
    obtain rfl := Option.some.inj known
    rfl
  obtain ⟨silent, _, ended⟩ := client_survives sampleBuiltins ops survivable
  exact ⟨silent, (ended 1 _ _ rfl rfl).1, (ended 2 _ _ rfl rfl).1⟩

/-- A call whose message could not be sent stays in `_pending`; an error that is no
object, and a response between the timeout and its cleanup, raise. -/
theorem unsent_call_stays_pending :
    let unsent := [.call, .sendFails 1].foldl (step sampleBuiltins) {}
    let malformed := [.call, .sent 1, .receive [("id", .int 1), ("error", .null)] true].foldl
      (step sampleBuiltins) {}
    let late := [.call, .sent 1, .expire 1, .receive [("id", .int 1)] true].foldl
      (step sampleBuiltins) {}
    (unsent.Ended 1 ∧ unsent.pending 1 = true) ∧ malformed.faults = [.noMapping] ∧
      late.faults = [.invalidState] :=
  ⟨⟨⟨_, _, rfl, rfl⟩, rfl⟩, by decide +kernel, by decide +kernel⟩

end Client

end Steps

end Wlcodex.Rpc
