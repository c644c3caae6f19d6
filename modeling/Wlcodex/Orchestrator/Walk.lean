import Wlcodex.Orchestrator.Frames

namespace Wlcodex.Orchestrator

open Wlcodex.Lib Act
open Chief (emit emitFailure onDelta)
open Wlcodex.Bridge (Verdict VerificationDecision)

/-! The way of a run through its stages. -/

structure Stages (ω : Type) where
  starting : Orchestra ω × Desk → Prop
  analysing : Orchestra ω × Desk → Prop
  ready : Orchestra ω × Desk → Prop
  /-- with the exception and the items of the Claude stream that are still to come -/
  streaming (id : Nat) (raises : Option String) (rest : List StreamItem) : Orchestra ω × Desk → Prop
  failing (agent : String) : Orchestra ω × Desk → Prop
  said : Orchestra ω × Desk → Prop
  handedOver : Orchestra ω × Desk → Prop
  verifying : Orchestra ω × Desk → Prop
  verified (impl verifyResult : String) : Orchestra ω × Desk → Prop
  ruled (round : Nat) (impl verifyResult : String) : Orchestra ω × Desk → Prop
  judged (decision : Verdict) : Orchestra ω × Desk → Prop
  finished : Orchestra ω × Desk → Prop
  broken : Orchestra ω × Desk → Prop

section Walk

variable {ω : Type} (chief : Chief ω) (launch : Launch) (stages : Stages ω)

def Shows (pre : Orchestra ω × Desk → Prop) (phase : Phase) (post : Orchestra ω × Desk → Prop) : Prop :=
  ∀ progress : Progress, progress.phase = phase →
    Leads pre (emit (onProgress chief launch) progress) (fun _ => post) stages.broken

def Answers (post : String → Orchestra ω × Desk → Prop) (answer : Except String String) (both : Orchestra ω × Desk) :
    Prop :=
  (∀ text, answer = .ok text → post text both) ∧ ∀ exc, answer = .error exc → stages.failing "codex" both

variable {stages} in
theorem leads_answers {pre : Orchestra ω × Desk → Prop} {act : Act (Orchestra ω × Desk) String}
    {post : String → Orchestra ω × Desk → Prop} (leads : Leads pre act post (stages.failing "codex"))
    (settles : act.Settles) : Leads pre act.attempt (Answers stages post) stages.broken := by
  intro both holds
  obtain ⟨goes, stops⟩ := leads both holds
  obtain ⟨after, ⟨text, ended⟩ | ⟨message, ended⟩⟩ := settles both
  · rw [ended] at goes
    unfold Meets
    rw [attempt_value ended]
    refine ⟨fun answer same => ?_, fun early => absurd rfl (early _)⟩
    cases same
    exact ⟨fun other same => by cases same; exact goes text rfl, nofun⟩
  · rw [ended] at stops
    unfold Meets
    rw [attempt_raised ended]
    refine ⟨fun answer same => ?_, fun early => absurd rfl (early _)⟩
    cases same
    exact ⟨nofun, fun exc _ => stops fun _ => nofun⟩

structure Walk : Prop where
  start : Shows chief launch stages stages.starting .analysisStarted stages.analysing
  analyse : ∀ goal, Leads stages.analysing (attempt (chief.analyzeWithCodex goal).first)
    (Answers stages fun _ => stages.analysing) stages.broken
  analysed : Shows chief launch stages stages.analysing .analysisComplete stages.ready
  opened : ∀ sending ∈ chief.backends.claudeStreaming, ∀ prompt both, stages.ready both →
    stages.streaming both.2.nextAgentRunId (sending both.1.world prompt).1.raises (sending both.1.world prompt).1.items
      ({ both.1 with world := (sending both.1.world prompt).2, sent := both.1.sent ++ [.claude prompt] },
        both.2.startClaudeRun launch)
  unopened : chief.backends.claudeStreaming = none → ∀ prompt both, stages.ready both →
    stages.streaming both.2.nextAgentRunId (some "no send_streaming") []
      ({ both.1 with sent := both.1.sent ++ [.claude prompt] }, both.2.startClaudeRun launch)
  lifecycle : ∀ {id raises kind rest both}, stages.streaming id raises (.lifecycle kind :: rest) both →
    stages.streaming id raises rest (both.1, both.2.append (kind.event id))
  noted : ∀ {id raises event rest both}, stages.streaming id raises (.event event :: rest) both →
    stages.streaming id raises (.event event :: rest)
      (both.1, (both.2.noteSession id event.sessionId).append (.agentRunActivity id (front 200 event.delta)))
  delta : ∀ id raises event rest, event.kind ≠ .error →
    Shows chief launch stages (stages.streaming id raises (.event event :: rest)) .implDelta
      (stages.streaming id raises rest)
  errored : ∀ id raises event rest text fullText round, event.kind = .error →
    Leads (stages.streaming id raises (.event event :: rest))
      (emitFailure (onProgress chief launch) text fullText "claude" round) (fun _ => stages.finished) stages.broken
  ended : ∀ {id both}, stages.streaming id none [] both →
    stages.said (both.1, both.2.append (.agentRunCompleted id ""))
  broke : ∀ {id exc reason both}, stages.streaming id (some exc) [] both →
    stages.failing "claude" (both.1, both.2.append (.agentRunFailed id reason))
  failure : ∀ agent text fullText round, Leads (stages.failing agent)
    (emitFailure (onProgress chief launch) text fullText agent round) (fun _ => stages.finished) stages.broken
  implemented : Shows chief launch stages stages.said .implComplete stages.handedOver
  verify : Shows chief launch stages stages.handedOver .verifyStarted stages.verifying
  call : ∀ goal analysis impl pending, Leads (fun both => stages.verifying both ∧ both.1.pendingUserContext = pending)
    (attempt (chief.verifyWithCodex goal analysis impl pending).first) (Answers stages (stages.verified impl))
    stages.broken
  read : ∀ {round : Nat} impl verifyResult, 0 < round → Leads (stages.verified impl verifyResult)
    (emit (onProgress chief launch)
      { phase := .verifyComplete, text := front 200 verifyResult, fullText := verifyResult, agent := "codex",
        roundNum := round }) (fun _ => stages.ruled round impl verifyResult) stages.broken
  judge : ∀ {round impl verifyResult both}, stages.ruled round impl verifyResult both →
    stages.judged (chief.decisionOn verifyResult both.1.lastClaudeDriftFindings).decision
      ({ both.1 with judged := both.1.judged ++ [⟨round, impl, verifyResult,
          (chief.decisionOn verifyResult both.1.lastClaudeDriftFindings).decision⟩] }, both.2)
  again : ∀ both, stages.judged .retry both → stages.ready both
  complete : ∀ decision, Shows chief launch stages (stages.judged decision) .complete stages.finished
  limit : ∀ failed complete : Progress, failed.phase = .failed → complete.phase = .complete →
    Leads (stages.judged .retry) (do
      emit (onProgress chief launch) failed
      emit (onProgress chief launch) complete) (fun _ => stages.finished) stages.broken
  passed : Shows chief launch stages stages.ready .complete stages.finished
  stops : ∀ both, stages.ready both → stages.broken both

variable {chief launch stages}

structure Streamed (stages : Stages ω) (ended : Ending (Option String)) (both : Orchestra ω × Desk) : Prop where
  said : ∀ text, ended = .value (some text) → stages.said both
  finished : ended = .value none → stages.finished both
  failing : ∀ exc, ended = .raised exc → stages.failing "claude" both
  broken : (∀ value, ended ≠ .value value) → (∀ exc, ended ≠ .raised exc) → stages.broken both

theorem unraised_onDelta (round : Nat) (text : String) (event : StreamEvent) :
    (onDelta (onProgress chief launch) round text event).Unraised := by
  unfold onDelta
  split
  · exact unraised_bind (unraised_bind (unraised_leaving _) fun _ => unraised_leaving _) fun _ => unraised_pure none
  · exact unraised_bind (unraised_leaving _) fun _ => unraised_pure _

variable {raises : Option String} {both : Orchestra ω × Desk}

theorem Walk.onDelta (walk : Walk chief launch stages) {id round : Nat} {event : StreamEvent}
    {rest : List StreamItem} (text : String) :
    Leads (stages.streaming id raises (.event event :: rest)) (onDelta (onProgress chief launch) round text event)
      (fun gathered both => (gathered.isSome → event.kind ≠ .error ∧ stages.streaming id raises rest both) ∧
        (gathered = none → stages.finished both)) stages.broken := by
  refine leads_ite (fun error => ?_) fun other => ?_
  · refine leads_bind (walk.errored id raises event rest _ _ round error) fun _ => leads_pure fun both finished => ?_
    exact ⟨nofun, fun _ => finished⟩
  · refine leads_bind (walk.delta id raises event rest other _ rfl) fun _ => leads_pure fun both streaming => ?_
    exact ⟨fun _ => ⟨other, streaming⟩, nofun⟩

theorem Walk.wrapItem (walk : Walk chief launch stages) (round : Nat) {id : Nat} {item : StreamItem}
    {rest : List StreamItem} (text : String) :
    Leads (stages.streaming id raises (item :: rest))
      (wrapItem id (Chief.onDelta (onProgress chief launch) round) (text, none) item)
      (fun gathered both => (∀ pair, gathered = some pair → pair.2 = none ∧ stages.streaming id raises rest both) ∧
        (gathered = none → stages.finished both)) stages.broken := by
  cases item with
  | lifecycle kind =>
      refine leads_bind (m := fun _ => stages.streaming id raises rest)
        (leads_second_modify fun both streaming => walk.lifecycle streaming) fun _ => leads_pure fun both streaming => ?_
      refine ⟨fun pair same => ?_, nofun⟩
      cases same
      exact ⟨rfl, streaming⟩
  | event event =>
      refine leads_bind (m := fun _ => stages.streaming id raises (.event event :: rest))
        (leads_second_modify fun both streaming => walk.noted streaming) fun _ =>
        leads_bind (walk.onDelta text) fun gathered => leads_pure fun both given => ?_
      cases gathered with
      | none => exact ⟨nofun, fun _ => given.2 rfl⟩
      | some text =>
          obtain ⟨other, streaming⟩ := given.1 rfl
          refine ⟨fun pair same => ?_, nofun⟩
          cases same
          exact ⟨if_neg other, streaming⟩

variable (chief launch) in
theorem unraised_wrapItem (id round : Nat) (gathered : String × Option String) (item : StreamItem) :
    (wrapItem id (Chief.onDelta (onProgress chief launch) round) gathered item).Unraised := by
  cases item with
  | lifecycle kind => exact unraised_bind (unraised_second (unraised_modify _)) fun _ => unraised_pure _
  | event event =>
      exact unraised_bind (unraised_second (unraised_modify _)) fun _ =>
        unraised_bind (unraised_onDelta round _ event) fun _ => unraised_pure _

theorem Walk.wrapEnd (walk : Walk chief launch stages) {id : Nat} (text : String) (streaming : stages.streaming id raises [] both) :
    (wrapEnd id text none raises).Meets (Streamed stages) both := by
  cases raises with
  | none =>
      refine ⟨fun other _ => walk.ended streaming, nofun, nofun, fun early => absurd rfl (early _)⟩
  | some exc =>
      refine ⟨nofun, nofun, fun _ _ => walk.broke streaming, fun _ early => absurd rfl (early _)⟩

theorem Walk.wrapItems (walk : Walk chief launch stages) {id : Nat} (round : Nat)
    {items : List StreamItem} (streaming : stages.streaming id raises items both) :
    (do
      match ← foldEach (Orchestrator.wrapItem id (Chief.onDelta (onProgress chief launch) round)) ("", none) items with
      | none => pure none
      | some (text, error) => Orchestrator.wrapEnd id text error raises).Meets (Streamed stages) both := by
  refine meets_bind.mpr (meets_foldEach
    (i := fun gathered rest both => gathered.2 = none ∧ stages.streaming id raises rest both) ?_ ?_ ⟨rfl, streaming⟩)
  · rintro ⟨text, error⟩ state ⟨noError, streaming⟩
    cases noError
    exact walk.wrapEnd text streaming
  · rintro ⟨text, error⟩ item rest state ⟨noError, streaming⟩
    cases noError
    obtain ⟨goes, stops⟩ := walk.wrapItem round text state streaming
    have unraised := unraised_wrapItem chief launch id round (text, none) item state
    unfold Meets
    cases ran : (Orchestrator.wrapItem id (Chief.onDelta (onProgress chief launch) round) (text, none) item).run state with
    | mk ended after =>
        rw [ran] at goes stops unraised
        cases ended with
        | value gathered =>
            cases gathered with
            | none => exact ⟨nofun, fun _ => (goes none rfl).2 rfl, nofun, fun early => absurd rfl (early _)⟩
            | some pair => exact (goes (some pair) rfl).1 pair rfl
        | raised message => exact absurd rfl (unraised message)
        | left | running => exact ⟨nofun, nofun, nofun, fun _ _ => stops nofun⟩

theorem Walk.wrapped (walk : Walk chief launch stages) (prompt : String) (round : Nat)
    (ready : stages.ready both) :
    (wrappedStreaming chief launch prompt (Chief.onDelta (onProgress chief launch) round)).Meets (Streamed stages)
      both := by
  unfold wrappedStreaming
  cases found : chief.backends.claudeStreaming with
  | none => exact walk.wrapItems round (walk.unopened found prompt both ready)
  | some sending => exact walk.wrapItems round (walk.opened sending found prompt both ready)

def Stages.After (stages : Stages ω) (next : RoundEnd Unit) (both : Orchestra ω × Desk) : Prop :=
  (∀ analysis, next = .again () analysis → stages.ready both) ∧ (next = .returned () → stages.finished both)

theorem leads_returned {act : Act (Orchestra ω × Desk) Unit} {pre : Orchestra ω × Desk → Prop}
    (finishes : Leads pre act (fun _ => stages.finished) stages.broken) :
    Leads pre (do
      act
      pure (.returned ()) : Act (Orchestra ω × Desk) (RoundEnd Unit)) stages.After stages.broken :=
  leads_bind finishes fun _ => leads_pure fun _ finished => ⟨nofun, fun _ => finished⟩

theorem Walk.decided (walk : Walk chief launch stages) (goal analysis verifyResult : String) (round : Nat)
    (decision : VerificationDecision) :
    Leads (stages.judged decision.decision)
      (chief.streamDecision (onProgress chief launch) goal round analysis verifyResult decision) stages.After
      stages.broken := by
  unfold Chief.streamDecision
  cases decision.decision with
  | pass | stop | needUser => exact leads_returned (walk.complete _ _ rfl)
  | retry =>
      refine leads_ite (fun _ => ?_) fun _ => ?_
      · exact leads_bind_assoc (leads_returned (walk.limit _ _ rfl rfl))
      · refine leads_get_bind fun both judged => leads_pure fun state same => ?_
        cases same
        exact ⟨fun _ _ => walk.again both judged, nofun⟩

theorem Walk.judges (walk : Walk chief launch stages) (goal analysis : String) {round : Nat} {impl verifyResult : String} :
    Leads (stages.ruled round impl verifyResult) (do
      let decision ← (chief.judge round impl verifyResult).first
      chief.streamDecision (onProgress chief launch) goal round analysis verifyResult decision) stages.After
      stages.broken := by
  refine leads_bind (m := fun decision => stages.judged decision.decision) ?_ fun decision =>
    walk.decided goal analysis verifyResult round decision
  intro both ruled
  refine ⟨fun decision same => ?_, fun early => absurd rfl (early _)⟩
  cases same
  exact walk.judge ruled

theorem Walk.verification (walk : Walk chief launch stages) (goal analysis impl : String) {round : Nat}
    (positive : 0 < round) :
    Leads stages.said (chief.streamVerification (onProgress chief launch) goal round analysis impl) stages.After
      stages.broken := by
  refine leads_bind (walk.implemented _ rfl) fun _ => leads_bind (walk.verify _ rfl) fun _ =>
    leads_get_bind fun before verifying => ?_
  have called : Leads (· = before) _ _ stages.broken :=
    (walk.call goal analysis impl before.1.pendingUserContext).mono
      (fun state same => by cases same; exact ⟨verifying, rfl⟩) fun _ _ answers => answers
  refine leads_bind called fun answer => ?_
  cases answer with
  | error exc =>
      exact (leads_returned (walk.failure "codex" _ _ _)).mono (fun both answers => answers.2 exc rfl) fun _ _ ends => ends
  | ok verifyResult =>
      refine (leads_bind (walk.read impl verifyResult positive) fun _ => walk.judges goal analysis).mono
        (fun both answers => answers.1 verifyResult rfl) fun _ _ ends => ends

theorem Walk.round (walk : Walk chief launch stages) (goal analysis : String) {round : Nat} (positive : 0 < round) :
    Leads stages.ready (chief.streamRound (wrappedStreaming chief launch) (onProgress chief launch) goal round analysis)
      stages.After stages.broken := by
  intro both ready
  refine meets_bind.mpr (meets_attempt.mpr ((walk.wrapped (chief.claudePrompt goal analysis) round ready).mono ?_))
  intro ended after streamed
  cases ended with
  | value implemented =>
      cases implemented with
      | none =>
          refine ⟨fun next same => ?_, fun early => absurd rfl (early _)⟩
          cases same
          exact ⟨nofun, fun _ => streamed.finished rfl⟩
      | some impl => exact walk.verification goal analysis impl positive after (streamed.said impl rfl)
  | raised exc => exact leads_returned (walk.failure "claude" _ _ _) after (streamed.failing exc rfl)
  | left | running => exact ⟨nofun, fun _ => streamed.broken nofun nofun⟩

theorem Walk.rounds (walk : Walk chief launch stages) (goal analysis : String) (fuel : Nat) {round : Nat}
    (positive : 0 < round) :
    Leads stages.ready
      (chief.streamRounds (wrappedStreaming chief launch) (onProgress chief launch) goal fuel round analysis)
      (fun _ => stages.finished) stages.broken := by
  induction fuel generalizing round analysis with
  | zero => exact fun both ready => ⟨nofun, fun _ => walk.stops both ready⟩
  | succ fuel ih =>
      refine leads_ite (fun _ => walk.passed _ rfl) fun _ => leads_bind (walk.round goal analysis positive) fun next => ?_
      cases next with
      | returned => exact leads_pure fun _ after => after.2 rfl
      | again result following =>
          exact (ih following (Nat.succ_pos round)).mono (fun _ after => after.1 following rfl) fun _ _ ends => ends

theorem Walk.analysedRun (walk : Walk chief launch stages) (goal analysis : String) (fuel : Nat) :
    Leads stages.ready (chief.streamAnalysed (wrappedStreaming chief launch) (onProgress chief launch) fuel goal analysis)
      (fun _ => stages.finished) stages.broken := by
  exact leads_ite (fun _ => walk.passed _ rfl) fun _ =>
    leads_ite (fun _ => leads_ite (fun _ => walk.passed _ rfl) fun _ => walk.passed _ rfl) fun _ =>
    leads_ite (fun _ => walk.passed _ rfl) fun _ => walk.rounds goal analysis fuel Nat.one_pos

theorem Walk.run (walk : Walk chief launch stages) (goal : String) (fuel : Nat) :
    Leads stages.starting (chief.runStreaming (wrappedStreaming chief launch) (onProgress chief launch) fuel goal)
      (fun _ => stages.finished) stages.broken := by
  refine leads_bind (walk.start _ rfl) fun _ => leads_bind (walk.analyse goal) fun analysed => ?_
  cases analysed with
  | error exc => exact (walk.failure "codex" _ _ _).mono (fun _ answers => answers.2 exc rfl) fun _ _ ends => ends
  | ok analysis =>
      refine (leads_bind (walk.analysed _ rfl) fun _ => walk.analysedRun goal analysis fuel).mono
        (fun _ answers => answers.1 analysis rfl) fun _ _ ends => ends

variable (chief launch) in
theorem Walk.launched (walk : Walk chief launch stages) {post : Ending Unit → Orchestra ω × Desk → Prop}
    {orchestra : Orchestra ω} {desk : Desk} (starting : stages.starting (begun launch orchestra desk))
    (returns : ∀ both, stages.finished both → post (.value ()) (both.1, both.2.conclude launch))
    (excepts : ∀ exc both, stages.broken both → (finish launch (.error exc)).Meets post both)
    (running : ∀ both, stages.broken both → post .running both) (fuel : Nat) :
    (launched chief launch fuel).Meets post (orchestra, desk.fresh) := by
  obtain ⟨hadPending, injected⟩ := injectPendingContext_returns launch
    (orchestra, desk.fresh.append (.phaseChanged "running_analysis" 0))
  have streams : (do
      let ended ← attempt (chief.runStreaming (wrappedStreaming chief launch) (onProgress chief launch) fuel
        launch.prompt).consumed
      finish launch ended).Meets post (begun launch orchestra desk) := by
    refine meets_bind.mpr (meets_attempt.mpr (meets_consumed.mpr
      ((walk.run launch.prompt fuel _ starting).mono fun ended after ends => ?_)))
    cases ended with
    | value value => exact returns after (ends.1 () rfl)
    | raised exc | left exc => exact excepts exc after (ends.2 nofun)
    | running => exact running after (ends.2 nofun)
  exact (meets_congr (bind_value injected)).mpr streams

end Walk

end Wlcodex.Orchestrator
