import Wlcodex.Orchestrator.Streaming
import Wlcodex.Orchestrator.Walk

namespace Wlcodex.Orchestrator

open Wlcodex.Lib Act
open Chief (emit emitFailure)
open Wlcodex.Bridge (Verdict parseVerification)

/-! The verdict that the runner records, and the decision that the orchestrator acts on. -/

def Phase.Quiet : Phase → Prop
  | verifyComplete | failed | complete => False
  | _ => True

def rulings {ω : Type} (both : Orchestra ω × Desk) : List Judged × List (Int × Verdict) :=
  (both.1.judged, both.2.verdicts)

def progressing {ω : Type} (both : Orchestra ω × Desk) : List Judged × List (Int × Verdict) × List Outcome × Bool :=
  (both.1.judged, both.2.settled)

section Handlers

variable {ω : Type} (chief : Chief ω) (launch : Launch) (progress : Progress)

theorem progressing_second {act : Act Desk Unit} (kept : act.Keeps Desk.settled) :
    (act.second : Act (Orchestra ω × Desk) Unit).Keeps progressing :=
  keeps_second fun other state => congrArg (other.judged, ·) (kept state)

theorem rulings_second {act : Act Desk Unit} (kept : act.Keeps Desk.verdicts) :
    (act.second : Act (Orchestra ω × Desk) Unit).Keeps rulings :=
  keeps_second fun other state => congrArg (other.judged, ·) (kept state)

theorem rulings_of_progressing {act : Act (Orchestra ω × Desk) Unit} (kept : act.Keeps progressing) :
    act.Keeps rulings :=
  kept.of_eq fun _ _ same => congrArg (fun both => (both.1, both.2.1)) same

theorem progressing_phased {handler : Act Desk Unit} (kept : handler.Keeps Desk.settled) :
    (do
      (handlePhaseProgress launch progress).second
      handler.second : Act (Orchestra ω × Desk) Unit).Keeps progressing :=
  keeps_bind (progressing_second (keeps_handlePhaseProgress (patient_settled launch) progress)) fun _ =>
    progressing_second kept

theorem judged_injectPendingContext :
    (injectPendingContext launch).Keeps fun both : Orchestra ω × Desk => both.1.judged :=
  keeps_bind keeps_get fun _ => keeps_ite (keeps_pure false)
    (keeps_bind (keeps_first fun _ => keeps_modify fun _ => rfl) fun _ => keeps_pure true)

theorem judged_onVerifyStarted :
    (onVerifyStarted launch progress).Keeps fun both : Orchestra ω × Desk => both.1.judged := by
  have aside : ∀ act : Act Desk Unit, (act.second).Keeps fun both : Orchestra ω × Desk => both.1.judged :=
    fun act => keeps_second fun _ _ => rfl
  exact keeps_bind keeps_get fun _ => keeps_bind (aside _) fun _ =>
    keeps_bind (judged_injectPendingContext launch) fun _ => keeps_bind (aside _) fun _ => keeps_bind (aside _) fun _ =>
    keeps_bind (aside _) fun _ => keeps_bind (aside _) fun _ => aside _

theorem progressing_onPhase (quiet : progress.phase.Quiet) :
    (onPhase chief launch progress).Keeps (progressing (ω := ω)) := by
  unfold onPhase
  cases at_phase : progress.phase with
  | implDelta => exact progressing_second (settled_onImplDelta launch progress)
  | analysisStarted => exact progressing_phased launch progress (settled_onAnalysisStarted launch)
  | analysisComplete => exact progressing_phased launch progress (settled_onAnalysisComplete launch progress)
  | implComplete => exact progressing_phased launch progress (settled_onImplComplete launch progress)
  | verifyStarted =>
      refine keeps_bind (progressing_second (keeps_handlePhaseProgress (patient_settled launch) progress)) ?_
      exact fun _ state =>
        Prod.ext (judged_onVerifyStarted launch progress state) (settled_onVerifyStarted launch progress state)
  | other name => exact keeps_pure ()
  | verifyComplete | failed | complete =>
      rw [at_phase] at quiet
      exact quiet.elim

theorem rulings_onPhase (other : progress.phase ≠ .verifyComplete) :
    (onPhase chief launch progress).Keeps (rulings (ω := ω)) := by
  cases at_phase : progress.phase with
  | verifyComplete => exact absurd at_phase other
  | failed =>
      unfold onPhase
      rw [at_phase]
      exact rulings_second (verdicts_onFailed launch progress)
  | complete =>
      unfold onPhase
      rw [at_phase]
      exact rulings_second (verdicts_onComplete launch chief progress)
  | implDelta | analysisStarted | analysisComplete | implComplete | verifyStarted | other =>
      refine rulings_of_progressing (progressing_onPhase chief launch progress ?_)
      rw [at_phase]
      exact trivial

theorem progressing_wait :
    ((change fun desk => desk.wait launch).second : Act (Orchestra ω × Desk) Unit).Keeps progressing :=
  progressing_second (keeps_modify fun desk => desk.settled_wait launch)

theorem progressing_onProgress (quiet : progress.phase.Quiet) :
    (onProgress chief launch progress).Keeps (progressing (ω := ω)) :=
  keeps_bind (progressing_wait launch) fun _ => keeps_bind keeps_get fun _ =>
    keeps_ite (keeps_pure ()) (progressing_onPhase chief launch progress quiet)

theorem rulings_onProgress (other : progress.phase ≠ .verifyComplete) :
    (onProgress chief launch progress).Keeps (rulings (ω := ω)) :=
  keeps_bind (rulings_of_progressing (progressing_wait launch)) fun _ => keeps_bind keeps_get fun _ =>
    keeps_ite (keeps_pure ()) (rulings_onPhase chief launch progress other)

theorem onVerifyStarted_binds : (onVerifyStarted launch progress).Ensures
    fun (_ : Unit) (both : Orchestra ω × Desk) => both.2.locals.hadPendingForVerify.isSome := by
  have patient : Patient launch fun desk => desk.locals.hadPendingForVerify.isSome := ⟨fun _ => rfl, fun _ => rfl⟩
  have logs : ∀ event : RuntimeEvent, ((log event).second).Keeps
      fun both : Orchestra ω × Desk => both.2.locals.hadPendingForVerify.isSome :=
    fun event => keeps_second fun _ => keeps_modify fun _ => rfl
  refine ensures_bind fun before => ensures_bind fun _ => ensures_bind fun hadPending =>
    ensures_bind_keeps (m := fun both : Orchestra ω × Desk => both.2.locals.hadPendingForVerify.isSome)
      (p := (· = true)) ?_ ?_
  · intro state value after ended
    cases ended
    rfl
  · exact fun _ => keeps_bind (logs _) fun _ => keeps_bind (logs _) fun _ => keeps_bind (logs _) fun _ =>
      keeps_second fun _ => keeps_render patient _

variable {both : Orchestra ω × Desk}

theorem onProgress_verifyStarted (at_phase : progress.phase = .verifyStarted)
    (isOpen : both.2.locals.terminalSent = false) {after : Orchestra ω × Desk}
    (ended : (onProgress chief launch progress).run both = (.value (), after)) :
    after.2.locals.hadPendingForVerify.isSome := by
  rw [onProgress_open launch chief progress isOpen] at ended
  unfold onPhase at ended
  rw [at_phase] at ended
  exact ensures_bind (fun _ => onVerifyStarted_binds launch progress) _ _ _ ended

theorem ruled_of_settled {before after : Desk} (same : after.settled = before.settled) (verifyRound : Int)
    (decision : Verdict) : after.ruled verifyRound decision = before.ruled verifyRound decision := by
  unfold Desk.ruled
  rw [verdicts_of_settled same, outcome_of_settled same]

theorem onProgress_verifyComplete (at_phase : progress.phase = .verifyComplete)
    (isOpen : both.2.locals.terminalSent = false) (started : both.2.locals.hadPendingForVerify.isSome) :
    (onProgress chief launch progress).Meets (fun ended after => after.1 = both.1 ∧
      (ended = .value () ∧ after.2.settled =
          both.2.ruled (roundOr progress both.2.locals.verifyRound) (ruling chief progress) ∨
        (∀ value, ended ≠ .value value) ∧ after.2.settled = both.2.settled)) both := by
  have patient : Patient launch fun desk => (desk.settled, desk.locals) :=
    ⟨fun desk => congrArg (·, desk.locals) (desk.settled_wait launch), fun _ => rfl⟩
  have branch : onPhase chief launch progress = (do
      (handlePhaseProgress launch progress).second
      (onVerifyComplete chief launch progress).second : Act (Orchestra ω × Desk) Unit) := by
    unfold onPhase
    rw [at_phase]
  refine (meets_congr (onProgress_open launch chief progress isOpen)).mpr ?_
  rw [branch]
  have kept : ((handlePhaseProgress launch progress).second).Keeps
      fun both : Orchestra ω × Desk => (both.1, both.2.settled, both.2.locals) :=
    keeps_second fun other state => congrArg (other, ·) (keeps_handlePhaseProgress patient progress state)
  refine meets_bind_keeps kept ?_ ?_
  · intro ended after stops same
    simp only [Prod.mk.injEq] at same
    obtain ⟨orchestra, settled, -⟩ := same
    exact ⟨orchestra, .inr ⟨stops, settled.trans (both.2.settled_wait launch)⟩⟩
  · intro value after ran same
    simp only [Prod.mk.injEq] at same
    obtain ⟨orchestra, settled, locals⟩ := same
    have locals : after.2.locals = both.2.locals := locals
    refine ⟨orchestra, .inl ⟨?_, ?_⟩⟩
    · exact onVerifyComplete_returns launch chief progress (locals ▸ started)
    · refine (onVerifyComplete_rules launch chief progress after.2).trans ?_
      rw [locals, ruled_of_settled (settled.trans (both.2.settled_wait launch))]

end Handlers

section Rounds

variable {ω : Type} (chief : Chief ω) (launch : Launch)

def Judged.recorded (judged : Judged) : Int × Verdict :=
  (judged.round, recordedDecision chief judged.verification)

def Judged.actedOn (judged : Judged) : Int × Verdict := (judged.round, judged.decision)

def Judged.Read (judged : Judged) : Prop :=
  judged.decision =
    (chief.decisionOn judged.verification (detectClaudeDirectDeliveryDrift judged.implementation)).decision

def Ruled (earlier : List (Int × Verdict)) (rulings : List Judged × List (Int × Verdict)) : Prop :=
  rulings.2 = earlier ++ rulings.1.map (Judged.recorded chief) ∧ (∀ judged ∈ rulings.1, judged.Read chief) ∧
    ∀ judged ∈ rulings.1.dropLast, judged.decision = .retry

def Going (earlier : List (Int × Verdict)) (both : Orchestra ω × Desk) : Prop :=
  Ruled chief earlier (rulings both) ∧ both.2.locals.terminalSent = false ∧
    ∀ judged ∈ both.1.judged, judged.decision = .retry

variable {chief launch} {earlier : List (Int × Verdict)} {both after : Orchestra ω × Desk}

theorem Ruled.of_same (ruled : Ruled chief earlier (rulings both)) (same : rulings after = rulings both) :
    Ruled chief earlier (rulings after) := same ▸ ruled

theorem rulings_of_same (same : progressing after = progressing both) : rulings after = rulings both :=
  congrArg (fun both => (both.1, both.2.1)) same

theorem Going.of_same (going : Going chief earlier both) (same : progressing after = progressing both) :
    Going chief earlier after := by
  have terminalSent : after.2.locals.terminalSent = both.2.locals.terminalSent := congrArg (fun both => both.2.2.2) same
  have judged : after.1.judged = both.1.judged := congrArg Prod.fst same
  refine ⟨going.1.of_same (rulings_of_same same), terminalSent.trans going.2.1, ?_⟩
  rw [judged]
  exact going.2.2

variable {progress : Progress}

theorem emit_quiet (quiet : progress.phase.Quiet) :
    (emit (onProgress chief launch) progress).Keeps (progressing (ω := ω)) :=
  keeps_leaving (progressing_onProgress chief launch progress quiet)

theorem emit_verifyStarted (at_phase : progress.phase = .verifyStarted)
    (isOpen : both.2.locals.terminalSent = false)
    (ended : (emit (onProgress chief launch) progress).run both = (.value (), after)) :
    after.2.locals.hadPendingForVerify.isSome := by
  have state : ((onProgress chief launch progress).run both).2 = after := congrArg Prod.snd ended
  have value : ((onProgress chief launch progress).run both).1.leave = .value () := congrArg Prod.fst ended
  refine onProgress_verifyStarted chief launch progress at_phase isOpen (Prod.ext ?_ state)
  cases came : ((onProgress chief launch progress).run both).1 with
  | value value => rfl
  | raised | left | running =>
      rw [came] at value
      cases value

theorem emit_rulings (other : progress.phase ≠ .verifyComplete) :
    (emit (onProgress chief launch) progress).Keeps (rulings (ω := ω)) :=
  keeps_leaving (rulings_onProgress chief launch progress other)

theorem emitFailure_rulings (text fullText agent : String) (round : Int) :
    (emitFailure (onProgress chief launch) text fullText agent round).Keeps (rulings (ω := ω)) :=
  keeps_bind (emit_rulings Phase.noConfusion) fun _ => emit_rulings Phase.noConfusion

theorem Going.leads {α : Type} {act : Act (Orchestra ω × Desk) α} (kept : act.Keeps progressing) :
    Leads (Going chief earlier) act (fun _ => Going chief earlier) (fun both => Ruled chief earlier (rulings both)) :=
  kept.leads (fun _ _ same going => going.of_same same) fun _ going => going.1

theorem ruled_leads {pre : Orchestra ω × Desk → Prop} (ruled : ∀ both, pre both → Ruled chief earlier (rulings both))
    {act : Act (Orchestra ω × Desk) Unit} (kept : act.Keeps rulings) :
    Leads pre act (fun _ both => Ruled chief earlier (rulings both)) (fun both => Ruled chief earlier (rulings both)) :=
  (kept.leads (fun _ _ same ruled => ruled.of_same same) fun _ ruled => ruled).mono ruled fun _ _ ruled => ruled

variable (chief) in
theorem keeps_callCodex (mode : Interaction) (prompt : String) :
    (chief.callCodex mode prompt).Keeps fun orchestra : Orchestra ω =>
      (orchestra.judged, orchestra.lastClaudeDriftFindings) := by
  refine keeps_bind keeps_get fun before => keeps_bind ?_ fun result => keeps_bind keeps_get fun after =>
    keeps_ite (keeps_pure _) (keeps_raise _)
  refine keeps_bind keeps_get fun state => keeps_bind (keeps_modify fun _ => rfl) fun _ => ?_
  split
  · exact keeps_pure _
  · exact keeps_raise _

variable (chief) in
theorem verifyWithCodex_drift (goal analysis impl pending : String) (orchestra : Orchestra ω) :
    ((chief.verifyWithCodex goal analysis impl pending).run orchestra).2.lastClaudeDriftFindings =
      detectClaudeDirectDeliveryDrift impl := by
  unfold Chief.verifyWithCodex
  rw [run_get_bind, run_modify_bind]
  exact congrArg Prod.snd (keeps_callCodex chief .verification _ _)

variable (chief) in
theorem judged_verifyWithCodex (goal analysis impl pending : String) :
    (chief.verifyWithCodex goal analysis impl pending).Keeps fun orchestra : Orchestra ω => orchestra.judged :=
  keeps_bind keeps_get fun _ => keeps_bind (keeps_modify fun _ => rfl) fun _ =>
    (keeps_callCodex chief .verification _).of_eq fun _ _ same => congrArg Prod.fst same

theorem firstText_front (text : String) (width : Nat) : firstText text (front width text) = text := by
  unfold firstText
  split
  case isTrue empty =>
    rw [empty]
    unfold front
    rw [String.toList_empty, List.take_nil]
  case isFalse => rfl

def rulingStages (chief : Chief ω) (earlier : List (Int × Verdict)) : Stages ω where
  starting := Going chief earlier
  analysing := Going chief earlier
  ready := Going chief earlier
  streaming _ _ _ := Going chief earlier
  failing _ both := Ruled chief earlier (rulings both)
  said := Going chief earlier
  handedOver := Going chief earlier
  verifying both := Going chief earlier both ∧ both.2.locals.hadPendingForVerify.isSome
  verified impl _ both := Going chief earlier both ∧ both.2.locals.hadPendingForVerify.isSome ∧
    both.1.lastClaudeDriftFindings = detectClaudeDirectDeliveryDrift impl
  ruled round impl verifyResult both := ∃ before, Going chief earlier before ∧ both.1 = before.1 ∧
    both.2.settled = before.2.ruled round (recordedDecision chief verifyResult) ∧
    both.1.lastClaudeDriftFindings = detectClaudeDirectDeliveryDrift impl
  judged decision both := Ruled chief earlier (rulings both) ∧ (decision = .retry → Going chief earlier both)
  finished both := Ruled chief earlier (rulings both)
  broken both := Ruled chief earlier (rulings both)

theorem ruled_concat {recorded : Orchestra ω × Desk} (going : Going chief earlier both) {judged : Judged}
    (read : judged.Read chief) (list : recorded.1.judged = both.1.judged ++ [judged])
    (verdicts : recorded.2.verdicts = both.2.verdicts ++ [judged.recorded chief]) :
    Ruled chief earlier (rulings recorded) := by
  obtain ⟨⟨before, readings, -⟩, -, retries⟩ := going
  refine ⟨?_, ?_, ?_⟩
  · change recorded.2.verdicts = earlier ++ recorded.1.judged.map (Judged.recorded chief)
    rw [verdicts, list, List.map_append, ← List.append_assoc]
    exact congrArg (· ++ [judged.recorded chief]) before
  · intro other member
    change other ∈ recorded.1.judged at member
    rw [list, List.mem_append, List.mem_singleton] at member
    rcases member with old | rfl
    · exact readings other old
    · exact read
  · change ∀ other ∈ recorded.1.judged.dropLast, other.decision = .retry
    rw [list, List.dropLast_concat]
    exact retries

theorem ruled_judge {round : Nat} {impl verifyResult : String}
    (ruled : (rulingStages chief earlier).ruled round impl verifyResult both) :
    (rulingStages chief earlier).judged (chief.decisionOn verifyResult both.1.lastClaudeDriftFindings).decision
      ({ both.1 with judged := both.1.judged ++ [⟨round, impl, verifyResult,
          (chief.decisionOn verifyResult both.1.lastClaudeDriftFindings).decision⟩] }, both.2) := by
  obtain ⟨before, going, orchestra, settled, drift⟩ := ruled
  let judged : Judged :=
    ⟨round, impl, verifyResult, (chief.decisionOn verifyResult both.1.lastClaudeDriftFindings).decision⟩
  have read : judged.Read chief := congrArg (fun findings => (chief.decisionOn verifyResult findings).decision) drift
  have recorded : Ruled chief earlier
      (rulings ({ both.1 with judged := both.1.judged ++ [judged] }, both.2)) :=
    ruled_concat going read (congrArg (·.judged ++ [judged]) orchestra) (congrArg Prod.fst settled)
  refine ⟨recorded, fun retry => ⟨recorded, ?_, ?_⟩⟩
  · exact (congrArg (fun settled => settled.2.2) settled).trans going.2.1
  · intro other member
    rcases List.mem_append.mp member with old | new
    · exact going.2.2 other (orchestra ▸ old)
    · rw [List.mem_singleton.mp new]
      exact retry

theorem read_leads {round : Nat} (impl verifyResult : String) (positive : 0 < round) :
    Leads ((rulingStages chief earlier).verified impl verifyResult) (emit (onProgress chief launch)
      { phase := .verifyComplete, text := front 200 verifyResult, fullText := verifyResult, agent := "codex",
        roundNum := round }) (fun _ => (rulingStages chief earlier).ruled round impl verifyResult)
      (rulingStages chief earlier).broken := by
  rintro both ⟨going, started, drift⟩
  refine meets_leaving.mpr ((onProgress_verifyComplete chief launch _ rfl going.2.1 started).mono ?_)
  rintro ended after ⟨orchestra, ⟨rfl, settled⟩ | ⟨early, settled⟩⟩
  · refine ⟨fun _ _ => ⟨both, going, orchestra, ?_, orchestra ▸ drift⟩, fun early => absurd rfl (early ())⟩
    rw [settled]
    unfold ruling roundOr
    rw [firstText_front, if_neg (Int.natCast_ne_zero.mpr positive.ne')]
  · have same : progressing after = progressing both := by
      unfold progressing
      rw [orchestra, settled]
    cases ended with
    | value value => exact absurd rfl (early value)
    | raised | left | running => exact ⟨nofun, fun _ => (going.of_same same).1⟩

theorem call_leads (goal analysis impl pending : String) :
    Leads (rulingStages chief earlier).verifying (attempt (chief.verifyWithCodex goal analysis impl pending).first)
      (Answers (rulingStages chief earlier) ((rulingStages chief earlier).verified impl))
      (rulingStages chief earlier).broken := by
  refine leads_answers ?_ (settles_first (chief.settles_verifyWithCodex goal analysis impl pending))
  rintro both ⟨going, started⟩
  have same : progressing ((chief.verifyWithCodex goal analysis impl pending).first.run both).2 = progressing both :=
    congrArg (·, both.2.settled) (judged_verifyWithCodex chief goal analysis impl pending both.1)
  have going := going.of_same same
  exact ⟨fun _ _ => ⟨going, started, verifyWithCodex_drift chief goal analysis impl pending both.1⟩, fun _ => going.1⟩

theorem verify_leads (at_phase : progress.phase = .verifyStarted) :
    Leads (Going chief earlier) (emit (onProgress chief launch) progress)
      (fun _ => (rulingStages chief earlier).verifying) (rulingStages chief earlier).broken := by
  intro both going
  have quiet : (emit (onProgress chief launch) progress).Keeps progressing := emit_quiet (at_phase ▸ trivial)
  have same := going.of_same (quiet both)
  refine ⟨fun _ ended => ⟨same, ?_⟩, fun _ => same.1⟩
  exact emit_verifyStarted at_phase going.2.1 (Prod.ext ended rfl)

theorem rulingWalk : Walk chief launch (rulingStages chief earlier) where
  start progress at_phase := Going.leads (emit_quiet (at_phase ▸ trivial))
  analyse goal := by
    refine leads_answers (Going.leads (keeps_first fun desk orchestra => ?_))
      (settles_first (chief.settles_callCodex .analysis _))
    exact congrArg (·, desk.settled) (congrArg Prod.fst (keeps_callCodex chief .analysis _ orchestra))
  analysed progress at_phase := Going.leads (emit_quiet (at_phase ▸ trivial))
  opened sending _ prompt both going :=
    going.of_same (congrArg (both.1.judged, ·) (both.2.settled_startClaudeRun launch))
  unopened _ prompt both going := going.of_same (congrArg (both.1.judged, ·) (both.2.settled_startClaudeRun launch))
  lifecycle {id _ kind _ both} going :=
    going.of_same (congrArg (both.1.judged, ·) (both.2.settled_append (kind.plain id)))
  noted {id _ event _ both} going :=
    going.of_same (congrArg (both.1.judged, ·)
      ((Desk.settled_append _ ⟨rfl, rfl⟩).trans (both.2.settled_noteSession id event.sessionId)))
  delta _ _ _ _ _ progress at_phase := Going.leads (emit_quiet (at_phase ▸ trivial))
  errored _ _ _ _ _ _ _ _ := ruled_leads (fun _ going => going.1) (emitFailure_rulings _ _ _ _)
  ended {id both} going :=
    going.of_same (congrArg (both.1.judged, ·) (both.2.settled_append (Lifecycle.completed.plain id)))
  broke {id _ reason both} going := by
    have same : progressing (both.1, both.2.append (.agentRunFailed id reason)) = progressing both :=
      congrArg (both.1.judged, ·) (both.2.settled_append ⟨rfl, rfl⟩)
    exact (going.of_same same).1
  failure _ _ _ _ := ruled_leads (fun _ ruled => ruled) (emitFailure_rulings _ _ _ _)
  implemented progress at_phase := Going.leads (emit_quiet (at_phase ▸ trivial))
  verify progress at_phase := verify_leads at_phase
  call goal analysis impl pending :=
    (call_leads goal analysis impl pending).mono (fun _ verifying => verifying.1) fun _ _ answers => answers
  read impl verifyResult positive := read_leads impl verifyResult positive
  judge ruled := ruled_judge ruled
  again _ judged := judged.2 rfl
  complete _ progress at_phase :=
    ruled_leads (fun _ judged => judged.1) (emit_rulings (at_phase ▸ Phase.noConfusion))
  limit failed complete fails completes := ruled_leads (fun _ judged => judged.1)
    (keeps_bind (emit_rulings (fails ▸ Phase.noConfusion)) fun _ => emit_rulings (completes ▸ Phase.noConfusion))
  passed progress at_phase := ruled_leads (fun _ going => going.1) (emit_rulings (at_phase ▸ Phase.noConfusion))
  stops _ going := going.1

variable (chief launch) in
theorem launched_ruled (fuel : Nat) (world : ω) (desk : Desk) :
    ((launched chief launch fuel).Meets fun _ after => Ruled chief desk.verdicts (rulings after))
      ({ world }, desk.fresh) := by
  have going : Going chief desk.verdicts (({ world }, desk.fresh) : Orchestra ω × Desk) :=
    ⟨⟨(List.append_nil _).symm, nofun, nofun⟩, rfl, nofun⟩
  have concludes : ((change fun desk => desk.conclude launch).second : Act (Orchestra ω × Desk) Unit).Keeps rulings :=
    rulings_second (keeps_modify fun desk => congrArg verdicts (events_conclude launch desk))
  have excepts : ∀ exc, Keeps (rulings (ω := ω)) (finish launch (.error exc)) :=
    fun exc => keeps_bind (rulings_second (verdicts_onException launch exc)) fun _ => concludes
  refine rulingWalk.launched chief launch (going.of_same ?_) (fun both ruled => ?_) (fun exc both ruled => ?_)
    (fun _ ruled => ruled) fuel
  · exact Prod.ext (judged_injectPendingContext launch _) (settled_begun launch { world } desk)
  · exact Ruled.of_same ruled (concludes both)
  · exact Ruled.of_same ruled (excepts exc both)

end Rounds

section Readings

variable {ω : Type} (chief : Chief ω) (launch : Launch)

def Judged.Overlooked (judged : Judged) : Prop :=
  (parseVerification chief.python judged.verification).decision = .pass ∧
    detectVerificationDeliveryDrift judged.verification = [] ∧
    detectClaudeDirectDeliveryDrift judged.implementation ≠ []

theorem Judged.Read.recorded_iff {judged : Judged} (read : judged.Read chief) :
    judged.recorded chief = judged.actedOn ↔ ¬judged.Overlooked chief := by
  have decisions : judged.recorded chief = judged.actedOn ↔
      recordedDecision chief judged.verification = judged.decision :=
    ⟨fun same => (Prod.mk.inj same).2, fun same => congrArg (_, ·) same⟩
  rw [decisions, read]
  unfold recordedDecision Chief.decisionOn afterDrift Overlooked
  by_cases passes : (parseVerification chief.python judged.verification).decision = .pass
  · by_cases quiet : detectVerificationDeliveryDrift judged.verification = []
    · by_cases clean : detectClaudeDirectDeliveryDrift judged.implementation = []
      · simp [passes, quiet, clean]
      · simp [passes, quiet, clean]
    · simp [passes, quiet]
  · simp [passes]

theorem map_eq_iff (rounds : List Judged) :
    rounds.map (Judged.recorded chief) = rounds.map Judged.actedOn ↔
      ∀ judged ∈ rounds, judged.recorded chief = judged.actedOn :=
  List.map_inj_left

/-- The verdicts that a run records are the decisions that it acts on, exactly where no round passes
that only the implementation's drift keeps from it; and a round follows only one that is retried. -/
theorem recorded_as_acted_on (fuel : Nat) (world : ω) (desk : Desk) :
    (((launched chief launch fuel).run ({ world }, desk.fresh)).2.2.verdicts = desk.verdicts ++
        ((launched chief launch fuel).run ({ world }, desk.fresh)).2.1.judged.map Judged.actedOn ↔
      ∀ judged ∈ ((launched chief launch fuel).run ({ world }, desk.fresh)).2.1.judged, ¬judged.Overlooked chief) ∧
    ∀ judged ∈ ((launched chief launch fuel).run ({ world }, desk.fresh)).2.1.judged.dropLast,
      judged.decision = .retry := by
  obtain ⟨recorded, read, retries⟩ := launched_ruled chief launch fuel world desk
  generalize ((launched chief launch fuel).run ({ world }, desk.fresh)).2 = after at recorded read retries ⊢
  have verdicts : after.2.verdicts = desk.verdicts ++ after.1.judged.map (Judged.recorded chief) := recorded
  refine ⟨?_, retries⟩
  rw [verdicts, List.append_cancel_left_eq, map_eq_iff]
  exact forall₂_congr fun judged member => (read judged member).recorded_iff

def deliveringBackends : Backends Unit where
  codex _ mode _ := (.ok (if mode = .analysis then "plan" else "decision: pass"), ())
  claude _ _ := (.ok "sendMessage", ())
  claudeStreaming := some fun _ _ => (⟨[.event { delta := "sendMessage" }], none⟩, ())
  evidence _ := ⟨[], "", ""⟩
  snapshot _ := none

def deliveringChief : Chief Unit where
  backends := deliveringBackends
  python := Native.samplePython
  maxVerifyRounds := 1

/-- The round is retried up to its limit and fails, but a pass is recorded for it. -/
theorem drifting_round_recorded_as_pass :
    ¬∀ (chief : Chief Unit) (launch : Launch) (fuel : Nat) (desk : Desk),
      ((launched chief launch fuel).run ({ world := () }, desk.fresh)).2.2.verdicts = desk.verdicts ++
        ((launched chief launch fuel).run ({ world := () }, desk.fresh)).2.1.judged.map Judged.actedOn := by
  intro always
  have recorded : ((launched deliveringChief plainLaunch 2).run ({ world := () }, emptyDesk.fresh)).2.2.verdicts =
      [(1, .pass)] := by decide +kernel
  have actedOn : ((launched deliveringChief plainLaunch 2).run ({ world := () }, emptyDesk.fresh)).2.1.judged.map
      Judged.actedOn = [(1, .retry)] := by decide +kernel
  have same := always deliveringChief plainLaunch 2 emptyDesk
  rw [recorded, actedOn] at same
  exact absurd same (by decide)

end Readings

end Wlcodex.Orchestrator
