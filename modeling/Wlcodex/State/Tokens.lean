import Mathlib.Algebra.Group.Prod
import Mathlib.Algebra.Ring.Int.Defs
import Wlcodex.State.Snapshot

namespace Wlcodex.State

open Wlcodex.Lib

/-! What the agents have spent. -/

section Tokens

variable (builtins : Builtins)

abbrev Tokens := Int × Int × Int × Int × Int × Nat

def TokenTotals.tokens (totals : TokenTotals) : Tokens :=
  (totals.inputTokens, totals.outputTokens, totals.cachedInputTokens, totals.reasoningOutputTokens,
    totals.totalTokens, totals.requests)

def Snapshot.spentBy (agent : String) (snapshot : Snapshot) : Tokens :=
  (snapshot.tokenTotals.map fun totals => if totals.agent = agent then totals.tokens else 0).sum

/-- What one event books on the agent. -/
def RuntimeEvent.spentBy (agent : String) (event : RuntimeEvent) : Tokens :=
  if event.eventType = .modelUsageUpdated ∧ builtins.textField event.payload "agent" event.actor = agent then
    (readUsage builtins event.payload).elim 0 fun usage =>
      (usage.input, usage.output, usage.cached, usage.reasoning, usage.total, 1)
  else 0

variable {builtins} {snapshot next : Snapshot} {event : RuntimeEvent}

theorem spentBy_of_apply (agent : String) (applied : applyEvent builtins snapshot event = some next) :
    next.spentBy agent = snapshot.spentBy agent + event.spentBy builtins agent := by
  by_cases type : event.eventType = .modelUsageUpdated
  · unfold applyEvent at applied
    rw [type] at applied
    obtain ⟨usage, read, onward⟩ := Option.bind_eq_some_iff.mp applied
    obtain ⟨totals, spent, made⟩ := Option.bind_eq_some_iff.mp onward
    cases made
    simp only [RuntimeEvent.spentBy, type, read, true_and]
    refine sum_upsert (fun entry _ named taken => ?_) (fun _ taken => ?_) spent <;> cases taken
    · simp only [TokenTotals.spend, of_decide_eq_true named]
      split_ifs
      · rfl
      · rfl
    · simp [TokenTotals.spend, TokenTotals.tokens]
  · have same : next.tokenTotals = snapshot.tokenTotals := by
      unfold applyEvent applyOrchestrationEvent applyAgentEvent applyApprovalEvent applyTimeoutEvent
        applyVerificationEvent applyConversationEvent at applied
      grind [applyApprovalSuperseded, Option.bind_eq_some_iff]
    simp [Snapshot.spentBy, RuntimeEvent.spentBy, same, type]

/-- In the snapshot of a log an agent has spent what the usage events of the log book on it. -/
theorem replayed_tokens_add_up {events : List RuntimeEvent} (replayed : replayEvents builtins events = some snapshot)
    (agent : String) : snapshot.spentBy agent = (events.map (RuntimeEvent.spentBy builtins agent)).sum := by
  have run (start : Snapshot) (onward : events.foldlM (applyEvent builtins) start = some snapshot) :
      snapshot.spentBy agent = start.spentBy agent + (events.map (RuntimeEvent.spentBy builtins agent)).sum := by
    clear replayed
    induction events generalizing start with
    | nil =>
        cases onward
        exact (add_zero _).symm
    | cons event events ih =>
        obtain ⟨middle, applied, rest⟩ := Option.bind_eq_some_iff.mp onward
        rw [ih middle rest, spentBy_of_apply agent applied, List.map_cons, List.sum_cons, add_assoc]
  exact (run {} replayed).trans (zero_add _)

def spentTwice : List RuntimeEvent :=
  List.replicate 2 { id := 1, eventType := .modelUsageUpdated, aggregateId := "agent:1", actor := "claude",
                     payload := [("input_tokens", .int 3)] }

theorem spent_twice_adds_up :
    ∃ snapshot, replayEvents sampleBuiltins spentTwice = some snapshot ∧
      snapshot.spentBy "claude" = (spentTwice.map (RuntimeEvent.spentBy sampleBuiltins "claude")).sum :=
  ⟨_, rfl, replayed_tokens_add_up rfl "claude"⟩

end Tokens

end Wlcodex.State
