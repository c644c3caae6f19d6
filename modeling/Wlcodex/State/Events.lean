import Wlcodex.Relay.StreamEvents

namespace Wlcodex.State

open Wlcodex.Lib
open Wlcodex.Relay (Dict str)

/-! Runtime events as the replay reducers and the projector read them. -/

inductive RunEvent where
  | requested
  | started
  | phaseChanged
  | completed
  | failed
  | recoveryRequired
  | cancelled
  | cancelRequested
  deriving DecidableEq

inductive AgentEvent where
  | queued
  | started
  | activity
  | heartbeat
  | waitingForApproval
  | completed
  | failed
  | timedOut
  | orphaned
  deriving DecidableEq

inductive ApprovalEvent where
  | requested
  | resolved
  | expired
  deriving DecidableEq

inductive TimeoutEvent where
  | idle
  | hard
  deriving DecidableEq

inductive VerificationEvent where
  | started
  | decisionRecorded
  | completed
  | retryRequested
  deriving DecidableEq

inductive ConversationEvent where
  | started
  | activated
  | stateChanged
  | closed
  | modeSwitched
  | userContextAppended
  | pendingContextRecorded
  | pendingContextReviewed
  deriving DecidableEq

inductive EventType where
  | run (event : RunEvent)
  | agent (event : AgentEvent)
  | modelUsageUpdated
  | approval (event : ApprovalEvent)
  | watchdog (event : TimeoutEvent)
  | verification (event : VerificationEvent)
  | conversation (event : ConversationEvent)
  | approvalSuperseded
  /-- The events that no reducer reads. -/
  | other (name : String)
  deriving DecidableEq

def EventType.name : EventType → String
  | .run .requested => "run.requested"
  | .run .started => "run.started"
  | .run .phaseChanged => "run.phase.changed"
  | .run .completed => "run.completed"
  | .run .failed => "run.failed"
  | .run .recoveryRequired => "run.recovery.required"
  | .run .cancelled => "run.cancelled"
  | .run .cancelRequested => "run.cancel.requested"
  | .agent .queued => "agent.run.queued"
  | .agent .started => "agent.run.started"
  | .agent .activity => "agent.run.activity"
  | .agent .heartbeat => "agent.run.heartbeat"
  | .agent .waitingForApproval => "agent.run.waiting_for_approval"
  | .agent .completed => "agent.run.completed"
  | .agent .failed => "agent.run.failed"
  | .agent .timedOut => "agent.run.timed_out"
  | .agent .orphaned => "agent.run.orphaned"
  | .modelUsageUpdated => "model.usage.updated"
  | .approval .requested => "approval.requested"
  | .approval .resolved => "approval.resolved"
  | .approval .expired => "approval.expired"
  | .watchdog .idle => "watchdog.idle_timeout"
  | .watchdog .hard => "watchdog.hard_timeout"
  | .verification .started => "verification.started"
  | .verification .decisionRecorded => "verification.decision.recorded"
  | .verification .completed => "verification.completed"
  | .verification .retryRequested => "verification.retry.requested"
  | .conversation .started => "conversation.started"
  | .conversation .activated => "conversation.activated"
  | .conversation .stateChanged => "conversation.state.changed"
  | .conversation .closed => "conversation.closed"
  | .conversation .modeSwitched => "conversation.mode.switched"
  | .conversation .userContextAppended => "user.context.appended"
  | .conversation .pendingContextRecorded => "conversation.pending_context.recorded"
  | .conversation .pendingContextReviewed => "conversation.pending_context.reviewed"
  | .approvalSuperseded => "approval.superseded"
  | .other name => name

structure RuntimeEvent where
  id : Nat
  eventType : EventType
  aggregateType : String := ""
  aggregateId : String
  conversationId : Option Int := none
  orchestrationRunId : Option Int := none
  agentRunId : Option Int := none
  taskId : Option Int := none
  source : String := ""
  actor : String := ""
  payload : Dict := []
  occurredAt : String := ""

def orId (new old : Option Int) : Option Int := (new.filter (· ≠ 0)).or old

def orText (first second : String) : String := if first = "" then second else first

def RuntimeEvent.conversation (event : RuntimeEvent) : Option Int := event.conversationId.filter (· ≠ 0)

/-- What the reducers use of Python: `repr` of values that are no text, `int`, and `==`. -/
structure Builtins where
  repr : Json → String
  repr_ne : ∀ value, repr value ≠ ""
  int? : Json → Option Int
  same : Json → Json → Bool

def sampleBuiltins : Builtins where
  repr _ := "..."
  repr_ne _ := by decide
  int?
    | .int value => some value
    | _ => none
  same
    | .int first, .int second => first = second
    | .null, .null => true
    | _, _ => false

namespace Builtins

variable (builtins : Builtins)

def textField (payload : Dict) (key absent : String) : String :=
  ((payload.lookup key).map (str builtins.repr)).getD absent

/-- `int(payload.get(key, default))`; `none` where `int` raises. -/
def intField (payload : Dict) (key : String) (absent : Int) : Option Int :=
  match payload.lookup key with
  | none => some absent
  | some value => builtins.int? value

end Builtins

end Wlcodex.State
