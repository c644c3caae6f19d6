import Wlcodex.Orchestrator.Rounds

namespace Wlcodex.Orchestrator

open Wlcodex.Lib Act

/-! `run_streaming` is `run`. -/

def StreamItem.event? : StreamItem → Option StreamEvent
  | .event shown => some shown
  | .lifecycle _ => none

def ClaudeStream.events (stream : ClaudeStream) : List StreamEvent := stream.items.filterMap StreamItem.event?

def spoken (events : List StreamEvent) : String :=
  ((events.filter fun event => event.kind = .text).map StreamEvent.delta).foldl (· ++ ·) ""

def Spelt (events : List StreamEvent) : Prop :=
  ∀ event ∈ events, event.kind ≠ .error ∧ (event.kind = .usage → event.delta = "")

/-- The stream of a prompt spells what the blocking call returns, it raises where that raises, and
both leave the same world. -/
structure Backends.Paired {ω : Type} (backends : Backends ω) : Prop where
  world : ∀ sending ∈ backends.claudeStreaming, ∀ world prompt,
    (sending world prompt).2 = (backends.claude world prompt).2
  spelt : ∀ sending ∈ backends.claudeStreaming, ∀ world prompt, Spelt (sending world prompt).1.events
  text : ∀ sending ∈ backends.claudeStreaming, ∀ world prompt text,
    (backends.claude world prompt).1 = .ok text →
      spoken (sending world prompt).1.events = text ∧ (sending world prompt).1.raises = none
  raises : ∀ sending ∈ backends.claudeStreaming, ∀ world prompt message,
    (backends.claude world prompt).1 = .error message → (sending world prompt).1.raises.isSome

namespace Chief

variable {ω : Type} (chief : Chief ω)

def record (progress : Progress) : Act (Orchestra ω × List Progress) Unit :=
  (modify fun recorded => recorded ++ [progress]).second

def Incomplete (progress : List Progress) : Prop := ∀ item ∈ progress, item.phase ≠ .complete

/-- The progress ends with its one `complete`, which carries the status. -/
def CompletesAs (status : String) (progress : List Progress) : Prop :=
  ∃ earlier last, progress = earlier ++ [last] ∧ Incomplete earlier ∧
    last.phase = .complete ∧ last.resultStatus = status

def RunAgrees : Ending OrchestrationResult × Orchestra ω → Ending Unit × Orchestra ω × List Progress → Prop
  | (.value result, after), (ended, state, progress) =>
      ended = .value () ∧ state = after ∧ CompletesAs result.status progress
  | (.running, after), (ended, state, progress) => ended = .running ∧ state = after ∧ Incomplete progress
  | _, _ => False

def RoundAgrees : Ending (RoundEnd OrchestrationResult) × Orchestra ω →
    Ending (RoundEnd Unit) × Orchestra ω × List Progress → Prop
  | (.value (.returned result), after), (ended, state, progress) =>
      ended = .value (.returned ()) ∧ state = after ∧ CompletesAs result.status progress
  | (.value (.again _ analysis), after), (ended, state, progress) =>
      ended = .value (.again () analysis) ∧ state = after ∧ Incomplete progress
  | _, _ => False

theorem Incomplete.concat {earlier : List Progress} (incomplete : Incomplete earlier) (item : Progress)
    (other : item.phase ≠ .complete) : Incomplete (earlier ++ [item]) := by
  intro found member
  rcases List.mem_append.mp member with old | new
  · exact incomplete found old
  · rw [List.mem_singleton.mp new]
    exact other

theorem Incomplete.completes {earlier : List Progress} (incomplete : Incomplete earlier) {last : Progress}
    (complete : last.phase = .complete) : CompletesAs last.resultStatus (earlier ++ [last]) :=
  ⟨earlier, last, rfl, incomplete, complete, rfl⟩

section Recording

variable {state : Orchestra ω} {recorded : List Progress}

theorem emit_record (progress : Progress) :
    (emit record progress).run (state, recorded) = (.value (), state, recorded ++ [progress]) := rfl

variable (state) in
theorem emitFailure_record (incomplete : Incomplete recorded) (text fullText agent : String) (round : Int) :
    ∃ progress, (emitFailure record text fullText agent round).run (state, recorded) = (.value (), state, progress) ∧
      CompletesAs "failed" progress :=
  ⟨_, rfl, (incomplete.concat _ Phase.noConfusion).completes rfl⟩

theorem foldl_append (texts : List String) (text : String) :
    texts.foldl (· ++ ·) text = text ++ texts.foldl (· ++ ·) "" := by
  induction texts generalizing text with
  | nil => exact String.append_empty.symm
  | cons other rest ih =>
      rw [List.foldl_cons, List.foldl_cons, ih (text ++ other), ih ("" ++ other), String.empty_append,
        String.append_assoc]

theorem spoken_cons {event : StreamEvent} (rest : List StreamEvent)
    (quiet : event.kind ≠ .error ∧ (event.kind = .usage → event.delta = "")) :
    spoken (event :: rest) = event.delta ++ spoken rest := by
  unfold spoken
  cases kind : event.kind with
  | error => exact absurd kind quiet.1
  | text =>
      simp only [List.filter_cons, kind, decide_true, ↓reduceIte, List.map_cons, List.foldl_cons]
      rw [foldl_append, String.empty_append]
  | usage => simp [kind, quiet.2 kind]

variable (state) in
theorem foldEach_onDelta (incomplete : Incomplete recorded) (round : Nat) {items : List StreamItem}
    (spelt : Spelt (items.filterMap StreamItem.event?)) (gathered : String) :
    ∃ progress, (foldEach (onItem (onDelta record round)) gathered items).run (state, recorded) =
      (.value (some (gathered ++ spoken (items.filterMap StreamItem.event?))), state, progress) ∧
        Incomplete progress := by
  induction items generalizing gathered recorded with
  | nil => exact ⟨recorded, congrArg (fun text => (Ending.value (some text), state, recorded))
      String.append_empty.symm, incomplete⟩
  | cons item rest ih =>
      cases item with
      | lifecycle kind => exact ih incomplete spelt gathered
      | event event =>
          have quiet := spelt event List.mem_cons_self
          have others : Spelt (rest.filterMap StreamItem.event?) :=
            fun other member => spelt other (List.mem_cons_of_mem event member)
          let delta : Progress := { phase := .implDelta, text := event.delta, agent := "claude", roundNum := round }
          have shown : Incomplete (recorded ++ [delta]) := incomplete.concat _ Phase.noConfusion
          have step : (onItem (onDelta record round) gathered (.event event)).run (state, recorded) =
              (.value (some (gathered ++ event.delta)), state, recorded ++ [delta]) := by
            rw [onItem, onDelta, if_neg quiet.1]
            rfl
          obtain ⟨progress, ran, done⟩ := ih shown others (gathered ++ event.delta)
          refine ⟨progress, ?_, done⟩
          rw [foldEach, bind_value step]
          refine ran.trans ?_
          rw [@List.filterMap_cons_some _ _ StreamItem.event? _ _ event rfl, spoken_cons _ quiet, String.append_assoc]

def Orchestra.called (state : Orchestra ω) (sent : Sent) (world : ω) : Orchestra ω :=
  { state with world, sent := state.sent ++ [sent] }

theorem send_ok {sent : Sent} (answer : ω → Except String String × ω) {text : String}
    (answered : (answer state.world).1 = .ok text) :
    (send sent answer).run state = (.value text, Orchestra.called state sent (answer state.world).2) := by
  unfold send
  rw [run_get_bind, run_modify_bind, answered]
  rfl

theorem send_error {sent : Sent} (answer : ω → Except String String × ω) {message : String}
    (answered : (answer state.world).1 = .error message) :
    (send sent answer).run state = (.raised message, Orchestra.called state sent (answer state.world).2) := by
  unfold send
  rw [run_get_bind, run_modify_bind, answered]
  rfl

theorem callClaude_ok {prompt text : String} (answered : (chief.backends.claude state.world prompt).1 = .ok text) :
    (chief.callClaude prompt).run state =
      (.value text, Orchestra.called state (.claude prompt) (chief.backends.claude state.world prompt).2) :=
  send_ok (fun world => chief.backends.claude world prompt) answered

theorem callClaude_error {prompt message : String}
    (answered : (chief.backends.claude state.world prompt).1 = .error message) :
    (chief.callClaude prompt).run state =
      (.raised message, Orchestra.called state (.claude prompt) (chief.backends.claude state.world prompt).2) :=
  send_error (fun world => chief.backends.claude world prompt) answered

theorem callClaudeStreaming_ok (paired : chief.backends.Paired) (incomplete : Incomplete recorded)
    {prompt text : String} (answered : (chief.backends.claude state.world prompt).1 = .ok text) (round : Nat) :
    ∃ progress, (chief.callClaudeStreaming prompt (onDelta record round)).run (state, recorded) =
      (.value (some text), Orchestra.called state (.claude prompt) (chief.backends.claude state.world prompt).2,
        progress) ∧ Incomplete progress := by
  unfold callClaudeStreaming
  cases found : chief.backends.claudeStreaming with
  | none =>
      let delta : Progress := { phase := .implDelta, text := text, agent := "claude", roundNum := round }
      refine ⟨recorded ++ [delta], ?_, incomplete.concat _ Phase.noConfusion⟩
      rw [bind_value (first_eq (chief.callClaude_ok answered)), onDelta, if_neg StreamKind.noConfusion]
      rfl
  | some sending =>
      obtain ⟨said, quiet⟩ := paired.text sending found state.world prompt text answered
      obtain ⟨progress, gathered, going⟩ := foldEach_onDelta
        (Orchestra.called state (.claude prompt) (sending state.world prompt).2) incomplete round
        (paired.spelt sending found state.world prompt) ""
      refine ⟨progress, ?_, going⟩
      have opened : (openStream prompt sending).run state = (.value (sending state.world prompt).1,
          Orchestra.called state (.claude prompt) (sending state.world prompt).2) := rfl
      rw [bind_value (first_eq opened)]
      rw [bind_value gathered, quiet, String.empty_append, ← paired.world sending found]
      unfold ClaudeStream.events at said
      rw [run_pure, said]

theorem callClaudeStreaming_error (paired : chief.backends.Paired) (incomplete : Incomplete recorded)
    {prompt message : String} (answered : (chief.backends.claude state.world prompt).1 = .error message)
    (round : Nat) :
    ∃ exc progress, (chief.callClaudeStreaming prompt (onDelta record round)).run (state, recorded) =
      (.raised exc, Orchestra.called state (.claude prompt) (chief.backends.claude state.world prompt).2,
        progress) ∧ Incomplete progress := by
  unfold callClaudeStreaming
  cases found : chief.backends.claudeStreaming with
  | none =>
      exact ⟨message, recorded, bind_raised (first_eq (chief.callClaude_error answered)), incomplete⟩
  | some sending =>
      obtain ⟨exc, raises⟩ := Option.isSome_iff_exists.mp (paired.raises sending found state.world prompt message answered)
      obtain ⟨progress, gathered, going⟩ := foldEach_onDelta
        (Orchestra.called state (.claude prompt) (sending state.world prompt).2) incomplete round
        (paired.spelt sending found state.world prompt) ""
      refine ⟨exc, progress, ?_, going⟩
      have opened : (openStream prompt sending).run state = (.value (sending state.world prompt).1,
          Orchestra.called state (.claude prompt) (sending state.world prompt).2) := rfl
      rw [bind_value (first_eq opened)]
      rw [bind_value gathered, raises, ← paired.world sending found]
      rfl

theorem settles_send (sent : Sent) (answer : ω → Except String String × ω) : (send sent answer).Settles := by
  refine settles_bind settles_get fun state => settles_bind (settles_modify _) fun _ => ?_
  split
  · exact settles_pure _
  · exact settles_raise _

theorem settles_callCodex (mode : Interaction) (prompt : String) : (chief.callCodex mode prompt).Settles := by
  refine settles_bind settles_get fun before => settles_bind (settles_send _ _) fun result =>
    settles_bind settles_get fun after => ?_
  dsimp only
  split
  · exact settles_pure _
  · exact settles_raise _

theorem settles_verifyWithCodex (goal analysis impl pending : String) :
    (chief.verifyWithCodex goal analysis impl pending).Settles :=
  settles_bind settles_get fun _ => settles_bind (settles_modify _) fun _ => chief.settles_callCodex _ _

theorem runVerification_agrees (incomplete : Incomplete recorded) (goal : String) (result : OrchestrationResult)
    (round : Nat) (analysis impl : String) :
    RoundAgrees ((chief.runVerification goal result round analysis impl).run state)
      ((chief.streamVerification record goal round analysis impl).run (state, recorded)) := by
  have implemented : Incomplete (recorded ++ [_]) := incomplete.concat
    { phase := .implComplete, text := front 200 impl, fullText := impl, agent := "claude", roundNum := round }
    Phase.noConfusion
  have started : Incomplete (recorded ++ [_] ++ [_]) := implemented.concat
    { phase := .verifyStarted, text := "审计工程师正在验收...", agent := "codex", roundNum := round }
    Phase.noConfusion
  unfold runVerification streamVerification
  rw [run_get_bind, bind_value (emit_record _), bind_value (emit_record _), run_get_bind]
  obtain ⟨after, ⟨verifyResult, verified⟩ | ⟨message, verified⟩⟩ :=
    chief.settles_verifyWithCodex goal analysis impl state.pendingUserContext state
  · rw [bind_value (attempt_value verified), bind_value (attempt_value (first_eq verified))]
    have judged : Incomplete (recorded ++ [_] ++ [_] ++ [_]) := started.concat
      { phase := .verifyComplete, text := front 200 verifyResult, fullText := verifyResult, agent := "codex",
        roundNum := round }
      Phase.noConfusion
    rw [bind_value (emit_record _)]
    have decided : (chief.judge round impl verifyResult).run after =
        (.value (chief.decisionOn verifyResult after.lastClaudeDriftFindings), _) := rfl
    rw [bind_value decided, bind_value (first_eq decided)]
    generalize chief.decisionOn verifyResult after.lastClaudeDriftFindings = decision
    unfold streamDecision
    cases decision.decision with
    | pass | stop | needUser =>
        exact ⟨rfl, rfl, judged.completes rfl⟩
    | retry =>
        cases final : chief.isFinalVerifyRound round with
        | true =>
            exact ⟨rfl, rfl, (judged.concat _ Phase.noConfusion).completes rfl⟩
        | false =>
            exact ⟨rfl, rfl, judged⟩
  · obtain ⟨progress, failed, completes⟩ := emitFailure_record after started
      ("审计工程师验收失败：" ++ message) message "codex" round
    rw [bind_value (attempt_raised verified), bind_value (attempt_raised (first_eq verified))]
    rw [bind_value failed]
    exact ⟨rfl, rfl, completes⟩

variable (state) in
theorem streamRound_agrees (paired : chief.backends.Paired) (incomplete : Incomplete recorded) (goal : String)
    (result : OrchestrationResult) (round : Nat) (analysis : String) :
    RoundAgrees ((chief.runRound goal result round analysis).run state)
      ((chief.streamRound chief.callClaudeStreaming record goal round analysis).run (state, recorded)) := by
  unfold runRound streamRound implementWithClaude
  cases answered : (chief.backends.claude state.world (chief.claudePrompt goal analysis)).1 with
  | error message =>
      obtain ⟨exc, shown, streamed, going⟩ := chief.callClaudeStreaming_error paired incomplete answered round
      obtain ⟨progress, failed, completes⟩ := emitFailure_record
        (Orchestra.called state (.claude (chief.claudePrompt goal analysis))
          (chief.backends.claude state.world (chief.claudePrompt goal analysis)).2)
        going ("Claude 实施失败：" ++ exc) exc "claude" round
      rw [bind_value (attempt_raised streamed), bind_value (attempt_raised (chief.callClaude_error answered))]
      rw [bind_value failed]
      exact ⟨rfl, rfl, completes⟩
  | ok impl =>
      obtain ⟨shown, streamed, going⟩ := chief.callClaudeStreaming_ok paired incomplete answered round
      rw [bind_value (attempt_value streamed), bind_value (attempt_value (chief.callClaude_ok answered))]
      exact chief.runVerification_agrees going goal _ round analysis impl

theorem streamRounds_agrees (paired : chief.backends.Paired) (incomplete : Incomplete recorded) (goal : String)
    (fuel : Nat) (result : OrchestrationResult) (round : Nat) (analysis : String) :
    RunAgrees ((chief.runRounds goal fuel result round analysis).run state)
      ((chief.streamRounds chief.callClaudeStreaming record goal fuel round analysis).run (state, recorded)) := by
  induction fuel generalizing state recorded result round analysis with
  | zero => exact ⟨rfl, rfl, incomplete⟩
  | succ fuel ih =>
      unfold runRounds streamRounds
      split
      · exact ⟨rfl, rfl, incomplete.completes rfl⟩
      · have agrees := chief.streamRound_agrees state paired incomplete goal result round analysis
        rw [run_bind, run_bind]
        generalize (chief.runRound goal result round analysis).run state = blocking at agrees
        generalize (chief.streamRound chief.callClaudeStreaming record goal round analysis).run (state, recorded) =
          streaming at agrees
        obtain ⟨ended, after⟩ := blocking
        obtain ⟨streamed, shown, progress⟩ := streaming
        cases ended with
        | value outcome =>
            cases outcome with
            | returned final =>
                obtain ⟨rfl, rfl, completes⟩ := agrees
                exact ⟨rfl, rfl, completes⟩
            | again next following =>
                obtain ⟨rfl, rfl, going⟩ := agrees
                exact ih going next (round + 1) following
        | raised | left | running => exact agrees.elim

theorem streamAnalysed_agrees (paired : chief.backends.Paired) (incomplete : Incomplete recorded) (goal : String)
    (fuel : Nat) (result : OrchestrationResult) (analysis : String) :
    RunAgrees ((chief.runAnalysed fuel goal result analysis).run state)
      ((chief.streamAnalysed chief.callClaudeStreaming record fuel goal analysis).run (state, recorded)) := by
  unfold runAnalysed streamAnalysed
  split
  · exact ⟨rfl, rfl, incomplete.completes rfl⟩
  split
  · split
    · exact ⟨rfl, rfl, incomplete.completes rfl⟩
    · exact ⟨rfl, rfl, incomplete.completes rfl⟩
  split
  · exact ⟨rfl, rfl, incomplete.completes rfl⟩
  · exact chief.streamRounds_agrees paired incomplete goal fuel result 1 analysis

theorem runStreaming_agrees (paired : chief.backends.Paired) (goal : String) (fuel : Nat) :
    RunAgrees ((chief.run fuel goal).run state)
      ((chief.runStreaming chief.callClaudeStreaming record fuel goal).run (state, [])) := by
  have nothing : Incomplete [] := List.forall_mem_nil _
  have started : Incomplete ([] ++ [_]) := nothing.concat
    { phase := .analysisStarted, text := "诊断工程师正在分析需求...", agent := "codex" }
    Phase.noConfusion
  unfold run runStreaming analyzeWithCodex
  rw [bind_value (emit_record _)]
  obtain ⟨after, ⟨analysis, analysed⟩ | ⟨message, analysed⟩⟩ := chief.settles_callCodex .analysis
    (buildCodexAnalysisPacket chief.budget chief.workspace goal).render state
  · rw [bind_value (attempt_value analysed), bind_value (attempt_value (first_eq analysed))]
    dsimp only
    rw [bind_value (emit_record _)]
    exact chief.streamAnalysed_agrees paired (started.concat _ Phase.noConfusion) goal fuel _ analysis
  · obtain ⟨progress, failed, completes⟩ := emitFailure_record after started
      ("Codex 分析失败：" ++ message) message "codex" 0
    rw [bind_value (attempt_raised analysed), bind_value (attempt_raised (first_eq analysed))]
    rw [failed]
    exact ⟨rfl, rfl, completes⟩

end Recording

section Returning

variable {state after : Orchestra ω}

variable (state) in
theorem world_callCodex (mode : Interaction) (prompt : String) :
    ((chief.callCodex mode prompt).run state).2.world = (chief.backends.codex state.world mode prompt).2 := by
  unfold callCodex
  rw [run_get_bind]
  cases answered : (chief.backends.codex state.world mode prompt).1 with
  | ok text =>
      rw [bind_value (send_ok (fun world => chief.backends.codex world mode prompt) answered), run_get_bind]
      dsimp only
      split <;> rfl
  | error message =>
      rw [bind_raised (send_error (fun world => chief.backends.codex world mode prompt) answered)]
      rfl

theorem runVerification_again {goal analysis impl following : String} {result next : OrchestrationResult} {round : Nat}
    (goesOn : (chief.runVerification goal result round analysis impl).run state =
      (.value (.again next following), after)) :
    chief.isFinalVerifyRound round = false ∧
      ∃ prompt, after.world = (chief.backends.codex state.world .verification prompt).2 := by
  have called : ((chief.verifyWithCodex goal analysis impl state.pendingUserContext).run state).2.world =
      (chief.backends.codex state.world .verification (chief.verificationPrompt goal analysis impl
        (chief.backends.evidence state.world) state.pendingUserContext)).2 := by
    unfold verifyWithCodex
    rw [run_get_bind, run_modify_bind, world_callCodex]
  unfold runVerification at goesOn
  rw [run_get_bind] at goesOn
  obtain ⟨checked, ⟨verifyResult, verified⟩ | ⟨message, verified⟩⟩ :=
    chief.settles_verifyWithCodex goal analysis impl state.pendingUserContext state
  · rw [verified] at called
    have decided : (chief.judge round impl verifyResult).run checked =
        (.value (chief.decisionOn verifyResult checked.lastClaudeDriftFindings), _) := rfl
    rw [bind_value (attempt_value verified)] at goesOn
    rw [bind_value decided] at goesOn
    generalize chief.decisionOn verifyResult checked.lastClaudeDriftFindings = decision at goesOn
    cases verdict : decision.decision with
    | pass | stop | needUser =>
        rw [verdict] at goesOn
        cases goesOn
    | retry =>
        rw [verdict] at goesOn
        cases final : chief.isFinalVerifyRound round with
        | true =>
            rw [final, if_pos rfl] at goesOn
            cases goesOn
        | false =>
            rw [final, if_neg Bool.false_ne_true, run_get_bind, run_pure] at goesOn
            obtain ⟨-, rfl⟩ := Prod.mk.inj goesOn
            exact ⟨rfl, _, called⟩
  · rw [bind_value (attempt_raised verified)] at goesOn
    cases goesOn

theorem runRound_again {goal analysis following : String} {result next : OrchestrationResult} {round : Nat}
    (goesOn : (chief.runRound goal result round analysis).run state = (.value (.again next following), after)) :
    chief.isFinalVerifyRound round = false ∧
      ∃ prompt impl, (chief.backends.claude state.world prompt).1 = .ok impl ∧
        ∃ checking, after.world =
          (chief.backends.codex (chief.backends.claude state.world prompt).2 .verification checking).2 := by
  unfold runRound implementWithClaude at goesOn
  cases answered : (chief.backends.claude state.world (chief.claudePrompt goal analysis)).1 with
  | error message =>
      rw [bind_value (attempt_raised (chief.callClaude_error answered))] at goesOn
      cases goesOn
  | ok impl =>
      rw [bind_value (attempt_value (chief.callClaude_ok answered))] at goesOn
      obtain ⟨unfinal, checking, reached⟩ := chief.runVerification_again goesOn
      exact ⟨unfinal, _, impl, answered, checking, reached⟩

def Returns (ended : Ending OrchestrationResult × Orchestra ω) : Prop := ∃ result after, ended = (.value result, after)

theorem runRounds_returns (paired : chief.backends.Paired) (goal : String) {measure : Nat → ω → Nat}
    (drops : ∀ result round analysis state next following after,
      (chief.runRound goal result round analysis).run state = (.value (.again next following), after) →
        measure (round + 1) after.world < measure round state.world)
    {fuel round : Nat} (enough : measure round state.world < fuel) (result : OrchestrationResult) (analysis : String) :
    Returns ((chief.runRounds goal fuel result round analysis).run state) := by
  induction fuel generalizing state result round analysis with
  | zero => exact absurd enough (Nat.not_lt_zero _)
  | succ fuel ih =>
      unfold runRounds
      split
      · exact ⟨_, _, rfl⟩
      · have agrees := chief.streamRound_agrees state paired (List.forall_mem_nil _) goal result round analysis
        rw [run_bind]
        cases ran : (chief.runRound goal result round analysis).run state with
        | mk ended after =>
            rw [ran] at agrees
            cases ended with
            | value outcome =>
                cases outcome with
                | returned final => exact ⟨final, after, rfl⟩
                | again next following =>
                    have less := drops result round analysis state next following after ran
                    exact ih (by omega) next following
            | raised | left | running => exact agrees.elim

theorem run_returns (paired : chief.backends.Paired) (goal : String) {fuel : Nat} (measure : Nat → ω → Nat)
    (drops : ∀ result round analysis state next following after,
      (chief.runRound goal result round analysis).run state = (.value (.again next following), after) →
        measure (round + 1) after.world < measure round state.world)
    (enough : ∀ prompt, measure 1 (chief.backends.codex state.world .analysis prompt).2 < fuel) :
    Returns ((chief.run fuel goal).run state) := by
  unfold run analyzeWithCodex
  have reached := chief.world_callCodex state .analysis
    (buildCodexAnalysisPacket chief.budget chief.workspace goal).render
  obtain ⟨after, ⟨analysis, analysed⟩ | ⟨message, analysed⟩⟩ := chief.settles_callCodex .analysis
    (buildCodexAnalysisPacket chief.budget chief.workspace goal).render state
  · rw [analysed] at reached
    rw [bind_value (attempt_value analysed)]
    dsimp only
    unfold runAnalysed
    split
    · exact ⟨_, _, rfl⟩
    split
    · split
      · exact ⟨_, _, rfl⟩
      · exact ⟨_, _, rfl⟩
    split
    · exact ⟨_, _, rfl⟩
    · exact chief.runRounds_returns paired goal drops (by rw [reached]; exact enough _) _ analysis
  · rw [bind_value (attempt_raised analysed)]
    exact ⟨_, _, rfl⟩

end Returning

structure Script (backends : Backends ω) where
  remaining : ω → Nat
  claude : ∀ world prompt text, (backends.claude world prompt).1 = .ok text →
    remaining (backends.claude world prompt).2 < remaining world
  codex : ∀ world mode prompt, remaining (backends.codex world mode prompt).2 ≤ remaining world

/-- Both runs send the same and end alike, however many rounds are looked at.  They end within the
limit of rounds, and where there is none, with the script. -/
theorem streaming_agrees (paired : chief.backends.Paired) (goal : String) (state : Orchestra ω) :
    (∀ fuel, RunAgrees ((chief.run fuel goal).run state)
      ((chief.runStreaming chief.callClaudeStreaming record fuel goal).run (state, []))) ∧
    (∀ fuel : Nat, 0 < chief.maxVerifyRounds → chief.maxVerifyRounds ≤ fuel →
      Returns ((chief.run fuel goal).run state)) ∧
    ∀ (script : Script chief.backends) (fuel : Nat), script.remaining state.world < fuel →
      Returns ((chief.run fuel goal).run state) := by
  refine ⟨chief.runStreaming_agrees paired goal, ?_, ?_⟩
  · intro fuel limited enough
    refine chief.run_returns paired goal (fun round _ => chief.maxVerifyRounds.toNat - round) ?_ ?_
    · intro result round analysis state next following after goesOn
      obtain ⟨unfinal, -⟩ := chief.runRound_again goesOn
      simp only [isFinalVerifyRound, limited, true_and, decide_eq_false_iff_not] at unfinal
      omega
    · intro prompt
      omega
  · intro script fuel enough
    refine chief.run_returns paired goal (fun _ => script.remaining) ?_ ?_
    · intro result round analysis state next following after goesOn
      obtain ⟨-, prompt, impl, answered, checking, reached⟩ := chief.runRound_again goesOn
      rw [reached]
      exact (script.codex ..).trans_lt (script.claude _ _ _ answered)
    · exact fun prompt => (script.codex ..).trans_lt enough

def approvingBackends : Backends Nat where
  codex calls mode _ := (.ok (if mode = .analysis then "plan" else "decision: pass"), calls + 1)
  claude calls _ := (.ok "done", calls + 1)
  claudeStreaming := some fun calls _ =>
    (⟨[.event ⟨"do", .text, ""⟩, .lifecycle .activity, .event ⟨"ne", .text, ""⟩], none⟩, calls + 1)
  evidence _ := ⟨[], "", ""⟩
  snapshot _ := none

def approvingChief : Chief Nat where
  backends := approvingBackends
  python := Native.samplePython

theorem approvingBackends_paired : approvingBackends.Paired where
  world sending member world prompt := by
    cases member
    rfl
  spelt sending member world prompt := by
    cases member
    have both : Spelt [⟨"do", .text, ""⟩, ⟨"ne", .text, ""⟩] := by
      intro event known
      rcases List.mem_cons.mp known with rfl | known
      · exact ⟨StreamKind.noConfusion, StreamKind.noConfusion⟩
      · rw [List.mem_singleton.mp known]
        exact ⟨StreamKind.noConfusion, StreamKind.noConfusion⟩
    exact both
  text sending member world prompt text answered := by
    cases member
    cases answered
    have spells : spoken [⟨"do", .text, ""⟩, ⟨"ne", .text, ""⟩] = "done" := by decide +kernel
    exact ⟨spells, rfl⟩
  raises sending member world prompt message answered := by cases answered

theorem approvingBackends_agree :
    RunAgrees ((approvingChief.run 3 "add a test").run { world := 0 })
      ((approvingChief.runStreaming approvingChief.callClaudeStreaming record 3 "add a test").run
        ({ world := 0 }, [])) :=
  (streaming_agrees approvingChief approvingBackends_paired "add a test" { world := 0 }).1 3

end Chief

end Wlcodex.Orchestrator
