import Mathlib.Logic.Function.Basic
import Wlcodex.Relay.StreamEvents

namespace Wlcodex.Rpc

open Wlcodex.Lib
open Wlcodex.Relay (Dict str)

/-! The JSON-RPC client between two await points. -/

/-- `JsonRpcError`. -/
structure RpcError where
  code : Int
  message : String
  data : Json

/-- An `asyncio.Future`. -/
inductive Future where
  | waiting
  | returned (result : Json)
  | failed (error : RpcError)
  | cancelled

namespace Future

def done : Future → Bool
  | .waiting => false
  | _ => true

def cancel : Future → Future
  | .waiting => .cancelled
  | future => future

end Future

/-- How `request` ends. -/
inductive Outcome where
  | returned (result : Json)
  | failed (error : RpcError)
  | cancelled
  | timedOut
  /-- `send_json` raised, or was cancelled. -/
  | unsent

inductive Phase where
  | sending
  | waiting
  | finished (outcome : Outcome)

structure Call where
  future : Future := .waiting
  phase : Phase := .sending
  /-- `task.cancel()` was called while the call waited. -/
  cancelling : Bool := false
  /-- The timer of `wait_for` fired while the call waited. -/
  expired : Bool := false

/-- `wait_for` once the future is done.  A timeout that meets a cancellation gives way
to it. -/
def Call.outcome? (call : Call) : Option Outcome :=
  match call.future with
  | .waiting => none
  | _ =>
      if call.cancelling then some .cancelled
      else if call.expired then some .timedOut
      else match call.future with
        | .returned result => some (.returned result)
        | .failed error => some (.failed error)
        | _ => some .cancelled

inductive Stage where
  | refused
  | handling
  | scheduled
  | answered
  | closed
  deriving DecidableEq

structure Request where
  id : Json
  future : Future := .waiting
  /-- `_wlcodex_jsonrpc_raw_id`. -/
  rawId : Option Json := none
  stage : Stage := .handling

inductive Reply where
  | result (value : Json)
  | error (code : Int) (message : String)

structure Response where
  /-- The number of the request that it answers. -/
  request : Nat
  id : Json
  reply : Reply

/-- What `receive_message` can raise. -/
inductive Fault where
  | unhashable
  | noMapping
  | noInteger
  | invalidState
  | transport
  deriving DecidableEq

structure Client where
  nextId : Nat := 0
  /-- The keys of `_pending`; the future of a key is that of the call with this id. -/
  pending : Nat → Bool := fun _ => false
  calls : Nat → Option Call := fun _ => none
  serverRequestHandlers : String → Bool := fun _ => false
  heldRequests : String → Option Nat := fun _ => none
  heldRequestRawIds : String → Option Json := fun _ => none
  arrived : Nat := 0
  requests : Nat → Option Request := fun _ => none
  responses : List Response := []
  faults : List Fault := []

structure Builtins where
  /-- `repr` of a value that is no text. -/
  repr : Json → String
  /-- The integer that a float equals. -/
  whole? : FloatLiteral → Option Int
  /-- `int` of a float or a text. -/
  int? : Json → Option Int

/-- Python on the values of small runs: whole numbers, truth values and `None`. -/
def sampleBuiltins : Builtins where
  repr
    | .int value => toString value
    | .bool value => if value then "True" else "False"
    | .null => "None"
    | _ => ""
  whole? _ := none
  int? _ := none

namespace Client

def issueCall (client : Client) : Client :=
  let rid := client.nextId + 1
  { client with
    nextId := rid
    pending := Function.update client.pending rid true
    calls := Function.update client.calls rid (some {}) }

def putCall (client : Client) (rid : Nat) (call : Call) : Client :=
  { client with calls := Function.update client.calls rid (some call) }

def popPending (client : Client) (rid : Nat) : Client :=
  { client with pending := Function.update client.pending rid false }

/-- The `except` clauses around `wait_for`. -/
def finish (client : Client) (rid : Nat) (call : Call) (outcome : Outcome) : Client :=
  let ended := client.putCall rid { call with phase := .finished outcome }
  match outcome with
  | .cancelled => ended.popPending rid
  | .timedOut => ended.popPending rid
  | _ => ended

def await (client : Client) (rid : Nat) (call : Call) : Client :=
  match call.outcome? with
  | none => client.putCall rid { call with phase := .waiting }
  | some outcome => client.finish rid call outcome

def sent (client : Client) (rid : Nat) : Client :=
  match client.calls rid with
  | some call =>
      match call.phase with
      | .sending => client.await rid call
      | _ => client
  | none => client

/-- What `send_json` raises leaves `request` before its `try`. -/
def sendFails (client : Client) (rid : Nat) : Client :=
  match client.calls rid with
  | some call =>
      match call.phase with
      | .sending => client.putCall rid { call with phase := .finished .unsent }
      | _ => client
  | none => client

/-- `task.cancel()` on a waiting call cancels the future that it waits for. -/
def interrupt (client : Client) (rid : Nat) (mark : Call → Call) : Client :=
  match client.calls rid with
  | some call =>
      match call.phase with
      | .waiting => client.putCall rid { mark call with future := call.future.cancel }
      | _ => client
  | none => client

def cancelCall (client : Client) (rid : Nat) : Client :=
  client.interrupt rid fun call => { call with cancelling := true }

def expire (client : Client) (rid : Nat) : Client :=
  client.interrupt rid fun call => { call with expired := true }

def wake (client : Client) (rid : Nat) : Client :=
  match client.calls rid with
  | some call =>
      match call.phase with
      | .waiting => client.await rid call
      | _ => client
  | none => client

def raises (client : Client) (fault : Fault) : Client :=
  { client with faults := client.faults ++ [fault] }

def hashable : Json → Bool
  | .array _ => false
  | .object _ => false
  | _ => true

section Receive

variable (builtins : Builtins)

/-- The integer that a key equals: `True` is 1 and `2.0` is 2. -/
def key? : Json → Option Int
  | .int value => some value
  | .bool value => some (if value then 1 else 0)
  | .float literal => builtins.whole? literal
  | _ => none

def int? : Json → Option Int
  | .int value => some value
  | .bool value => some (if value then 1 else 0)
  | .float literal => builtins.int? (.float literal)
  | .string text => builtins.int? (.string text)
  | _ => none

/-- The pending call that `_pending.pop` finds. -/
def pendingFor (client : Client) (id : Json) : Option Nat :=
  match key? builtins id with
  | some (.ofNat rid) => if client.pending rid then some rid else none
  | _ => none

def rpcError (err : Json) : Except Fault RpcError :=
  match err with
  | .object fields =>
      match int? builtins ((fields.lookup "code").getD (.int (-1))) with
      | some code => .ok {
          code
          message := str builtins.repr ((fields.lookup "message").getD (.string "unknown"))
          data := Dict.getOrNull fields "data" }
      | none => .error .noInteger
  | _ => .error .noMapping

def settlement (message : Dict) : Except Fault Future :=
  match message.lookup "error" with
  | some err => (rpcError builtins err).map .failed
  | none => .ok (.returned ((message.lookup "result").getD (.object [])))

def receiveResponse (client : Client) (id : Json) (message : Dict) : Client :=
  if hashable id then
    match client.pendingFor builtins id with
    | none => client
    | some rid =>
        let popped := client.popPending rid
        match settlement builtins message with
        | .error fault => popped.raises fault
        | .ok future =>
            match client.calls rid with
            | some call =>
                if call.future.done then popped.raises .invalidState
                else popped.putCall rid { call with future }
            | none => popped
  else client.raises .unhashable

def addRequest (client : Client) (request : Request) : Client :=
  { client with
    arrived := client.arrived + 1
    requests := Function.update client.requests client.arrived (some request) }

def requestKey (id : Json) : String := str builtins.repr id

def holdRequest (client : Client) (id : Json) : Client :=
  let rid := requestKey builtins id
  { client.addRequest { id } with
    heldRequests := Function.update client.heldRequests rid (some client.arrived)
    heldRequestRawIds := Function.update client.heldRequestRawIds rid (some id) }

def methodNotFound (method : String) : Reply := .error (-32601) ("Method not found: " ++ method)

def receiveRequest (client : Client) (id method : Json) (delivered : Bool) : Client :=
  let name := str builtins.repr method
  if client.serverRequestHandlers name then client.holdRequest builtins id
  else
    let refused := client.addRequest { id, stage := .refused }
    if delivered then
      { refused with
        responses := client.responses ++ [⟨client.arrived, id, methodNotFound name⟩] }
    else refused.raises .transport

/-- `receive_message` up to the handler of a server request.  Handlers of notifications
are shielded, and the client's state does not depend on them. -/
def receiveMessage (client : Client) (message : Dict) (delivered : Bool) : Client :=
  match message.lookup "id", message.lookup "method" with
  | some id, none => client.receiveResponse builtins id message
  | some id, some method => client.receiveRequest builtins id method delivered
  | none, _ => client

def putRequest (client : Client) (number : Nat) (request : Request) : Client :=
  { client with requests := Function.update client.requests number (some request) }

def handlerError : RpcError := ⟨-32000, "Approval handler error", .null⟩

def handlerEnds (client : Client) (number : Nat) (raised : Bool) : Client :=
  match client.requests number with
  | some request =>
      if request.stage = .handling then
        let future := if raised && !request.future.done then .failed handlerError
          else request.future
        client.putRequest number { request with future, stage := .scheduled }
      else client
  | none => client

def popHeld (client : Client) (rid : String) : Client :=
  { client with
    heldRequests := Function.update client.heldRequests rid none
    heldRequestRawIds := Function.update client.heldRequestRawIds rid none }

/-- `resolve_server_request` and `reject_server_request`. -/
def complete (client : Client) (requestId : String) (future : Future) : Client :=
  let rawId := (client.heldRequestRawIds requestId).getD (.string requestId)
  let popped := client.popHeld requestId
  match client.heldRequests requestId with
  | some number =>
      match client.requests number with
      | some request =>
          if request.future.done then popped
          else popped.putRequest number { request with future, rawId := some rawId }
      | none => popped
  | none => popped

def resolveServerRequest (client : Client) (requestId : String) (result : Json) : Client :=
  client.complete requestId (.returned result)

def rejectServerRequest (client : Client) (requestId : String) (code : Int) (message : String) :
    Client :=
  client.complete requestId (.failed ⟨code, message, .null⟩)

def reply? : Future → Option Reply
  | .returned result => some (.result result)
  | .failed error => some (.error error.code error.message)
  | _ => none

/-- `_send_held_response` up to its `finally`.  A cancelled future is answered by
nothing. -/
def answer (client : Client) (number : Nat) : Client :=
  match client.requests number with
  | some request =>
      if request.stage = .scheduled ∧ request.future.done then
        let done := client.putRequest number { request with stage := .answered }
        match reply? request.future with
        | some reply =>
            let id := request.rawId.getD (.string (requestKey builtins request.id))
            { done with responses := client.responses ++ [⟨number, id, reply⟩] }
        | none => done
      else client
  | none => client

/-- The `finally` of `_send_held_response`. -/
def cleanUp (client : Client) (number : Nat) : Client :=
  match client.requests number with
  | some request =>
      if request.stage = .answered then
        (client.popHeld (requestKey builtins request.id)).putRequest number
          { request with stage := .closed }
      else client
  | none => client

def close (client : Client) : Client :=
  { client with
    pending := fun _ => false
    calls := fun rid => (client.calls rid).map fun call =>
      if client.pending rid then { call with future := call.future.cancel } else call
    requests := fun number => (client.requests number).map fun request =>
      if client.heldRequests (requestKey builtins request.id) = some number then
        { request with future := request.future.cancel }
      else request
    heldRequests := fun _ => none
    heldRequestRawIds := fun _ => none
    serverRequestHandlers := fun _ => false }

end Receive

end Client

inductive ClientOp where
  | onServerRequest (method : String)
  | call
  | sent (rid : Nat)
  | sendFails (rid : Nat)
  | cancel (rid : Nat)
  | expire (rid : Nat)
  | wake (rid : Nat)
  /-- `delivered`: whether a refusal that the client sends at once gets through. -/
  | receive (message : Dict) (delivered : Bool)
  | handlerEnds (number : Nat) (raised : Bool)
  | resolve (requestId : String) (result : Json)
  | reject (requestId : String) (code : Int) (message : String)
  | answer (number : Nat)
  | cleanUp (number : Nat)
  | close

def Client.step (builtins : Builtins) (client : Client) : ClientOp → Client
  | .onServerRequest method =>
      { client with
        serverRequestHandlers := Function.update client.serverRequestHandlers method true }
  | .call => client.issueCall
  | .sent rid => client.sent rid
  | .sendFails rid => client.sendFails rid
  | .cancel rid => client.cancelCall rid
  | .expire rid => client.expire rid
  | .wake rid => client.wake rid
  | .receive message delivered => client.receiveMessage builtins message delivered
  | .handlerEnds number raised => client.handlerEnds number raised
  | .resolve requestId result => client.resolveServerRequest requestId result
  | .reject requestId code message => client.rejectServerRequest requestId code message
  | .answer number => client.answer builtins number
  | .cleanUp number => client.cleanUp builtins number
  | .close => client.close builtins

end Wlcodex.Rpc
